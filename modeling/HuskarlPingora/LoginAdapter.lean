import HuskarlPingora.LoginContext

/-! # The login adapter

`LoginProxy` and its Pingora hooks, written over the state the hooks share: the
downstream session, the login state on the context, and the response header a
hook was handed. What the inner proxy, the engine and the transport do during a
hook is data of that hook. Every visible action leaves an event. -/
namespace LoginAdapter

open HttpModel RouteResolution LoginRules LoginContext TracedHooks

inductive LoginPhase where
  | request | denied | response | logging
  deriving DecidableEq, Repr

inductive SessionOperation where
  | load | persist | revoke
  deriving DecidableEq, Repr

def LoginPhase.asStr : LoginPhase → String
  | .request => "request"
  | .denied => "denied"
  | .response => "response"
  | .logging => "logging"

inductive LoginDiagnostic where
  | sessionFailure (operation : SessionOperation) (phase : LoginPhase) (error : SessionError)
  | strandedCookies (count : ℕ)
  deriving DecidableEq, Repr

/-- A call and its return are separate events: a dropped call leaves only the first. -/
inductive Event (S : Type) where
  | counter (metric outcome name : String)
  | operationCounter (operation : SessionOperation) (phase : LoginPhase) (success : Bool)
      (name : String)
  | strandedCounter (count : ℕ) (name : String)
  | diagnostic (detail : LoginDiagnostic)
  | tryHandleLoginRoute
  | loadSession (headers : HeaderMap)
  | loaded (result : Except SessionError (LoadedSession S))
  | redirectToLogin
  | commit (pending : PendingPersist S) (headers : HeaderMap)
  | committed (result : Except SessionError SetCookies)
  | abandon (pending : PendingPersist S)
  | terminateSession (session : S) (headers : HeaderMap)
  | terminated (result : Termination)
  | innerRequestFilter (seen : LoginState S)
  | innerResponseFilter (seen : LoginState S)
  | innerLogging (seen : LoginState S)
  | setTerminateRequested (value : Bool)
  | appendSetCookie (value : HeaderValue)
  | discard (cookies : SetCookies)
  | writeResponseHeader (header : ResponseHeader) (endOfStream : Bool)
  | writeResponseBody (body : Bytes) (endOfStream : Bool)

/-- What an inner hook does to the shared state while it runs. It may set the public
termination flag, queue local responses, edit the live request header and write to
the downstream session itself. -/
structure InnerEffect where
  terminateRequested : Option Bool
  respond : List LoginResponse
  reqHeader : RequestHeader → RequestHeader
  responseWritten : Option ResponseHeader → Option ResponseHeader

structure Inner where
  requestFilter : InnerEffect × Await (Except Error Bool)
  responseFilter : InnerEffect × (ResponseHeader → ResponseHeader) × Await (Except Error Unit)
  logging : InnerEffect × Await Unit

structure LoginProxy (S : Type) where
  inner : Inner
  engine : LoginEngine S
  routes : RuleRouter (LoginRule S)
  persistFailurePolicy : SessionError → Option LoginResponse
  corsPassthrough : Bool
  metricsName : Option String
  /-- Whether a diagnostic handler is installed. Its calls are events. -/
  diagnostics : Bool

structure World (S : Type) where
  session : Downstream
  ctx : LoginState S
  response : ResponseHeader

def World.incoming {S : Type} (session : Downstream) (response : ResponseHeader) : World S :=
  ⟨session, .fresh, response⟩

abbrev LoginHook (S : Type) (α : Type) := Hook Error (World S) (Event S) α

variable {S : Type}

def updateCtx (f : LoginState S → LoginState S) : LoginHook S Unit :=
  update fun w => { w with ctx := f w.ctx }

def updateResponse (f : ResponseHeader → ResponseHeader) : LoginHook S Unit :=
  update fun w => { w with response := f w.response }

/-- A rejected `respond` call changes nothing; its error is the inner hook's to use. -/
def respondAll (st : LoginState S) : List LoginResponse → LoginState S
  | [] => st
  | response :: rest =>
    match st.respond response with
    | .ok st' => respondAll st' rest
    | .error _ => respondAll st rest

def InnerEffect.apply (effect : InnerEffect) (w : World S) : World S :=
  { w with
    session := { w.session with
      reqHeader := effect.reqHeader w.session.reqHeader
      responseWritten := effect.responseWritten w.session.responseWritten }
    ctx := respondAll { w.ctx with
      terminateRequested := effect.terminateRequested.getD w.ctx.terminateRequested }
      effect.respond }

def innerEffect (effect : InnerEffect) : LoginHook S Unit := do
  match effect.terminateRequested with
  | some value => emit (.setTerminateRequested value)
  | none => pure ()
  update effect.apply

def innerRequestFilter (self : LoginProxy S) : LoginHook S Bool := do
  emit (.innerRequestFilter (← read).ctx)
  innerEffect self.inner.requestFilter.1
  let result ← await self.inner.requestFilter.2
  attempt result

def innerResponseFilter (self : LoginProxy S) : LoginHook S Unit := do
  emit (.innerResponseFilter (← read).ctx)
  innerEffect self.inner.responseFilter.1
  updateResponse self.inner.responseFilter.2.1
  let result ← await self.inner.responseFilter.2.2
  attempt result

def innerLogging (self : LoginProxy S) : LoginHook S Unit := do
  emit (.innerLogging (← read).ctx)
  innerEffect self.inner.logging.1
  await self.inner.logging.2

def emitCounter (metric outcome : String) (name : Option String) : LoginHook S Unit :=
  emit (.counter metric outcome (name.getD ""))

def decision (self : LoginProxy S) (outcome : String) : LoginHook S Unit :=
  emitCounter "huskarl.pingora.login.check" outcome self.metricsName

def finalizationCounter (self : LoginProxy S) (phase : LoginPhase) : LoginHook S Unit :=
  emitCounter "huskarl.pingora.login.finalization" phase.asStr self.metricsName

def observeOperation {α : Type} (self : LoginProxy S) (operation : SessionOperation)
    (phase : LoginPhase) (result : Except SessionError α) : LoginHook S Unit := do
  emit (.operationCounter operation phase result.isOk (self.metricsName.getD ""))
  match result with
  | .ok _ => pure ()
  | .error error =>
    if self.diagnostics then emit (.diagnostic (.sessionFailure operation phase error))
    else pure ()

def reportStrandedCookies (self : LoginProxy S) (cookies : SetCookies) : LoginHook S Unit := do
  if cookies.isEmpty then pure ()
  else do
    emit (.strandedCounter cookies.length (self.metricsName.getD ""))
    if self.diagnostics then emit (.diagnostic (.strandedCookies cookies.length)) else pure ()
  emit (.discard cookies)

def loadSession (self : LoginProxy S) (headers : HeaderMap) :
    LoginHook S (Except SessionError (LoadedSession S)) := do
  emit (.loadSession headers)
  let result ← await (self.engine.loadSession headers)
  emit (.loaded result)
  return result

def commit (self : LoginProxy S) (pending : PendingPersist S) (headers : HeaderMap) :
    LoginHook S (Except SessionError SetCookies) := do
  emit (.commit pending headers)
  let result ← await (self.engine.commit pending headers)
  emit (.committed result)
  return result

def terminateSession (self : LoginProxy S) (session : S) (headers : HeaderMap) :
    LoginHook S Termination := do
  emit (.terminateSession session headers)
  let result ← await (self.engine.terminateSession session headers)
  emit (.terminated result)
  return result

def abandon (pending : Option (PendingPersist S)) : LoginHook S Unit :=
  match pending with
  | some pending => emit (.abandon pending)
  | none => pure ()

def writeResponseHeader (header : ResponseHeader) (endOfStream : Bool) : LoginHook S Unit := do
  emit (.writeResponseHeader header endOfStream)
  let result ← await (← read).session.writeHeader
  attempt result
  update fun w => { w with session := { w.session with responseWritten := some header } }

def writeResponseBody (body : Bytes) (endOfStream : Bool) : LoginHook S Unit := do
  emit (.writeResponseBody body endOfStream)
  let result ← await (← read).session.writeBody
  attempt result

def appendHeaders (header : ResponseHeader) (fields : List (HeaderName × HeaderValue)) :
    ResponseHeader :=
  fields.foldl (fun acc field => acc.appendHeader field.1 field.2) header

def appendExtraCookies (header : ResponseHeader) : SetCookies → LoginHook S ResponseHeader
  | [] => return header
  | cookie :: rest => do
    emit (.appendSetCookie cookie)
    appendExtraCookies (header.appendHeader setCookieName cookie) rest

def writeLoginResponse (resp : LoginResponse) (extraCookies : SetCookies) : LoginHook S Unit := do
  let header ← appendExtraCookies (appendHeaders (.build resp.status) resp.headers) extraCookies
  let sendBody := decide ((← read).session.reqHeader.method ≠ .head) && !resp.body.isEmpty
  writeResponseHeader header (!sendBody)
  if sendBody then writeResponseBody resp.body true else pure ()

def appendCookieLoop : SetCookies → LoginHook S Unit
  | [] => pure ()
  | cookie :: rest => do
    emit (.appendSetCookie cookie)
    updateResponse fun header => header.appendHeader setCookieName cookie
    appendCookieLoop rest

def appendSetCookies (cookies : SetCookies) : LoginHook S Unit := do
  if cookies.isEmpty then pure ()
  else do
    appendCookieLoop cookies
    updateResponse fun header => header.insertHeader cacheControlName ⟨"no-store"⟩

/-- The claim is taken before any awaited operation, so a dropped one is not repeated. -/
def finalizeResponse (self : LoginProxy S) : LoginHook S Unit := do
  let w ← read
  if w.response.status.isInterim then return ()
  else if w.ctx.finalized then return ()
  else do
    updateCtx fun st => { st with finalized := true }
    finalizationCounter self .response
    let maybeSess := w.ctx.session
    let requestHeaders := w.ctx.requestHeaders
    let setCookies := w.ctx.setCookies
    let pending := w.ctx.pending
    let terminateRequested := w.ctx.terminateRequested
    updateCtx fun st =>
      { st with
        requestHeaders := [], setCookies := [], pending := none, terminateRequested := false }
    appendSetCookies setCookies
    match maybeSess with
    | none => return ()
    | some sess =>
      if terminateRequested then do
        abandon pending
        let result ← terminateSession self sess requestHeaders
        observeOperation self .revoke .response result.revocation
        appendSetCookies result.clears
      else
        match pending with
        | none => return ()
        | some pending => do
          let persisted ← commit self pending requestHeaders
          observeOperation self .persist .response persisted
          match persisted with
          | .ok cookies => appendSetCookies cookies
          | .error e =>
            match self.persistFailurePolicy e with
            | some resp =>
              fail ⟨.httpStatus resp.status.code,
                "failed to persist session: " ++ self.engine.errorChain e⟩
            | none => return ()

def responseFilter (self : LoginProxy S) : LoginHook S Unit := do
  innerResponseFilter self
  finalizeResponse self

def localHeader (response : LoginResponse) : ResponseHeader :=
  let header := (appendHeaders (.build response.status) response.headers).removeHeader
    transferEncodingName
  if response.status ≠ .noContent ∧ response.status ≠ .notModified then
    header.insertHeader contentLengthName ⟨toString response.body.length⟩
  else header.removeHeader contentLengthName

def forwardRequest (self : LoginProxy S) : LoginHook S Bool := do
  let handled ← innerRequestFilter self
  let w ← read
  match w.ctx.response with
  | none => return handled
  | some response => do
    updateCtx fun st => { st with response := none }
    if handled || w.session.responseWritten.isSome then
      fail ⟨.internalError, "queued login response requires an unwritten response and Ok(false)"⟩
    else do
      updateResponse fun _ => localHeader response
      responseFilter self
      let w ← read
      let bodyAllowed := decide (response.status ≠ .noContent ∧ response.status ≠ .notModified)
      let sendBody := bodyAllowed && decide (w.session.reqHeader.method ≠ .head) &&
        !response.body.isEmpty
      writeResponseHeader w.response (!sendBody)
      if sendBody then writeResponseBody response.body true else pure ()
      return true

def serveRefreshUnavailable (self : LoginProxy S) : LoginHook S Bool := do
  writeLoginResponse (self.engine.renderError .serviceUnavailable
    "session refresh temporarily unavailable") []
  return true

def servePathConfusion (self : LoginProxy S) (reason : ResolveError) : LoginHook S Bool := do
  decision self (routeDenial reason)
  writeLoginResponse (self.engine.renderError (resolveErrorStatus reason) reason.message) []
  return true

def serveForbidden (self : LoginProxy S) (headers : HeaderMap) (msg : String)
    (pending : Option (PendingPersist S)) (setCookies : SetCookies) : LoginHook S Bool := do
  decision self "forbidden"
  let cookies ← match pending with
    | none => pure setCookies
    | some pending => do
      let persisted ← commit self pending headers
      observeOperation self .persist .denied persisted
      match persisted with
      | .ok more => pure (setCookies ++ more)
      | .error _ => pure setCookies
  writeLoginResponse (self.engine.renderError .forbidden msg) cookies
  return true

def serveWithoutSession (self : LoginProxy S) (headers : HeaderMap) (uri : Uri) (required : Bool)
    (setCookies : SetCookies) : LoginHook S Bool := do
  if required then do
    decision self "unauthenticated"
    emit .redirectToLogin
    let resp ← await (self.engine.redirectToLogin headers uri)
    writeLoginResponse resp setCookies
    return true
  else do
    decision self "anonymous"
    updateCtx fun st => st.prepareForward none none headers setCookies
    forwardRequest self

def runCheck (check : Option (CheckFn S)) (sess : S) : Except CheckError Unit :=
  match check with
  | some check => check sess
  | none => .ok ()

def serveWithSession (self : LoginProxy S) (headers : HeaderMap) (check : Option (CheckFn S))
    (sess : S) (pending : Option (PendingPersist S)) (setCookies : SetCookies) :
    LoginHook S Bool := do
  match runCheck check sess with
  | .error (.forbidden msg) => serveForbidden self headers msg pending setCookies
  | .ok _ => do
    decision self "authenticated"
    updateCtx fun st => st.prepareForward (some sess) pending headers setCookies
    forwardRequest self

def requestFilterLoaded (self : LoginProxy S) (headers : HeaderMap) (uri : Uri) (required : Bool)
    (check : Option (CheckFn S)) : LoginHook S Bool := do
  let loaded ← loadSession self headers
  observeOperation self .load .request loaded
  match loaded with
  | .error _ => do
    decision self "server_error"
    writeLoginResponse (self.engine.renderError .internalServerError "failed to load session") []
    return true
  | .ok .missing => serveWithoutSession self headers uri required []
  | .ok (.cleared clears) => serveWithoutSession self headers uri required clears
  | .ok (.active sess setCookies) => serveWithSession self headers check sess none setCookies
  | .ok (.activePending pending) =>
    serveWithSession self headers check pending.session (some pending) []
  | .ok .refreshUnavailable => do
    decision self "refresh_unavailable"
    serveRefreshUnavailable self

def requestFilter (self : LoginProxy S) : LoginHook S Bool := do
  let req := (← read).session.reqHeader
  -- Preflights stay session-free but still cross the path guard.
  if self.corsPassthrough && self.engine.isCorsPreflight req.method req.headers then
    match self.routes.resolve req.uri.path req.method with
    | .error reason => servePathConfusion self reason
    | .ok _ => do
      decision self "preflight"
      forwardRequest self
  else do
    emit .tryHandleLoginRoute
    match ← await (self.engine.tryHandleLoginRoute req.method req.headers req.uri) with
    | some resp => do
      decision self "login_route"
      writeLoginResponse resp []
      return true
    | none =>
      match self.routes.resolve req.uri.path req.method with
      | .error reason => servePathConfusion self reason
      | .ok (.pub _ _) => do
        decision self "public"
        forwardRequest self
      | .ok (.optional check _) => requestFilterLoaded self req.headers req.uri false check
      | .ok (.required check _) => requestFilterLoaded self req.headers req.uri true check

/-- The fallback for requests whose final header never reached `response_filter`. -/
def logging (self : LoginProxy S) : LoginHook S Unit := do
  let w ← read
  if w.ctx.finalized then innerLogging self
  else do
    updateCtx fun st => { st with finalized := true }
    finalizationCounter self .logging
    updateCtx fun st => { st with setCookies := [] }
    reportStrandedCookies self w.ctx.setCookies
    match w.ctx.session with
    | none => pure ()
    | some sess => do
      updateCtx fun st =>
        { st with requestHeaders := [], pending := none, terminateRequested := false }
      if w.ctx.terminateRequested then do
        abandon w.ctx.pending
        let result ← terminateSession self sess w.ctx.requestHeaders
        observeOperation self .revoke .logging result.revocation
        reportStrandedCookies self result.clears
      else
        match w.ctx.pending with
        | none => pure ()
        | some pending => do
          let persisted ← commit self pending w.ctx.requestHeaders
          observeOperation self .persist .logging persisted
          match persisted with
          | .ok cookies => reportStrandedCookies self cookies
          | .error _ => pure ()
    innerLogging self

end LoginAdapter
