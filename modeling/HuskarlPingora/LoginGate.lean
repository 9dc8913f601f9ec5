import HuskarlPingora.LoginEffects

/-! # The request gate

`request_filter` either forwards, answers the request itself, or is dropped at an
await of the gate. Each way is a constructor below, with the conditions the code
checked on the way there and the events it emitted. -/
namespace LoginGate

open HttpModel RouteResolution LoginRules LoginContext LoginAdapter LoginEffects TracedHooks

variable {S : Type}

def Preflight (self : LoginProxy S) (req : RequestHeader) : Prop :=
  self.corsPassthrough = true ∧ self.engine.isCorsPreflight req.method req.headers = true

/-- Neither a passed preflight nor a callback or logout route of the engine. -/
def Unclaimed (self : LoginProxy S) (req : RequestHeader) : Prop :=
  ¬ Preflight self req ∧
    self.engine.tryHandleLoginRoute req.method req.headers req.uri = .ready none

def Resolves (self : LoginProxy S) (req : RequestHeader)
    (answer : Except ResolveError (LoginRule S)) : Prop :=
  self.routes.resolve req.uri.path req.method = answer

def Loading (self : LoginProxy S) (req : RequestHeader) (required : Bool)
    (check : Option (CheckFn S)) : Prop :=
  ∃ m, Resolves self req (.ok (if required then .required check m else .optional check m))

def Loads (self : LoginProxy S) (req : RequestHeader)
    (answer : Await (Except SessionError (LoadedSession S))) : Prop :=
  self.engine.loadSession req.headers = answer

/-- The events up to a decision that follows a returned load. -/
def loadEvents (self : LoginProxy S) (req : RequestHeader)
    (result : Except SessionError (LoadedSession S)) : List (Event S) :=
  .tryHandleLoginRoute :: .loadSession req.headers :: .loaded result ::
    observed self .load .request result

inductive Forwards (self : LoginProxy S) (req : RequestHeader) (st : LoginState S) :
    List (Event S) → LoginState S → Prop where
  | preflight (rule) : Preflight self req → Resolves self req (.ok rule) →
      Forwards self req st [decisionEvent self "preflight"] st
  | pub (m c) : Unclaimed self req → Resolves self req (.ok (.pub m c)) →
      Forwards self req st [.tryHandleLoginRoute, decisionEvent self "public"] st
  | anonymous (check loaded) : Unclaimed self req → Loading self req false check →
      Loads self req (.ready (.ok loaded)) → LoadedSession.Anonymous loaded →
      Forwards self req st
        (loadEvents self req (.ok loaded) ++ [decisionEvent self "anonymous"])
        (st.prepareForward none none req.headers (LoadedSession.setCookies loaded))
  | authenticated (required check loaded sess) : Unclaimed self req →
      Loading self req required check → Loads self req (.ready (.ok loaded)) →
      LoadedSession.session? loaded = some sess → runCheck check sess = .ok () →
      Forwards self req st
        (loadEvents self req (.ok loaded) ++ [decisionEvent self "authenticated"])
        (st.prepareForward (some sess) (LoadedSession.pending? loaded) req.headers
          (LoadedSession.setCookies loaded))

/-- The events before the write, the response, and the cookies added to it. -/
inductive Answers (self : LoginProxy S) (req : RequestHeader) :
    List (Event S) → LoginResponse → SetCookies → Prop where
  | preflightDenied (reason) : Preflight self req → Resolves self req (.error reason) →
      Answers self req [decisionEvent self (routeDenial reason)]
        (self.engine.renderError (resolveErrorStatus reason) reason.message) []
  | loginRoute (resp) : ¬ Preflight self req →
      self.engine.tryHandleLoginRoute req.method req.headers req.uri = .ready (some resp) →
      Answers self req [.tryHandleLoginRoute, decisionEvent self "login_route"] resp []
  | routeDenied (reason) : Unclaimed self req → Resolves self req (.error reason) →
      Answers self req [.tryHandleLoginRoute, decisionEvent self (routeDenial reason)]
        (self.engine.renderError (resolveErrorStatus reason) reason.message) []
  | loadFailed (required check e) : Unclaimed self req → Loading self req required check →
      Loads self req (.ready (.error e)) →
      Answers self req (loadEvents self req (.error e) ++ [decisionEvent self "server_error"])
        (self.engine.renderError .internalServerError "failed to load session") []
  | refreshUnavailable (required check) : Unclaimed self req → Loading self req required check →
      Loads self req (.ready (.ok .refreshUnavailable)) →
      Answers self req
        (loadEvents self req (.ok .refreshUnavailable) ++
          [decisionEvent self "refresh_unavailable"])
        (self.engine.renderError .serviceUnavailable "session refresh temporarily unavailable") []
  | unauthenticated (check loaded resp) : Unclaimed self req → Loading self req true check →
      Loads self req (.ready (.ok loaded)) → LoadedSession.Anonymous loaded →
      self.engine.redirectToLogin req.headers req.uri = .ready resp →
      Answers self req
        (loadEvents self req (.ok loaded) ++
          [decisionEvent self "unauthenticated", .redirectToLogin])
        resp (LoadedSession.setCookies loaded)
  | forbidden (required check loaded sess msg) : Unclaimed self req →
      Loading self req required check → Loads self req (.ready (.ok loaded)) →
      LoadedSession.session? loaded = some sess →
      runCheck check sess = .error (.forbidden msg) → LoadedSession.pending? loaded = none →
      Answers self req (loadEvents self req (.ok loaded) ++ [decisionEvent self "forbidden"])
        (self.engine.renderError .forbidden msg) (LoadedSession.setCookies loaded)
  | forbiddenPersisted (required check pending msg result) : Unclaimed self req →
      Loading self req required check → Loads self req (.ready (.ok (.activePending pending))) →
      runCheck check pending.session = .error (.forbidden msg) →
      self.engine.commit pending req.headers = .ready result →
      Answers self req
        (loadEvents self req (.ok (.activePending pending)) ++ decisionEvent self "forbidden" ::
          .commit pending req.headers :: .committed result :: observed self .persist .denied result)
        (self.engine.renderError .forbidden msg) (result.toOption.getD [])

/-- The gate was dropped while one of its own engine calls was pending. -/
inductive Drops (self : LoginProxy S) (req : RequestHeader) : List (Event S) → Prop where
  | loginRoute : ¬ Preflight self req →
      self.engine.tryHandleLoginRoute req.method req.headers req.uri = .dropped →
      Drops self req [.tryHandleLoginRoute]
  | load (required check) : Unclaimed self req → Loading self req required check →
      Loads self req .dropped →
      Drops self req [.tryHandleLoginRoute, .loadSession req.headers]
  | redirect (check loaded) : Unclaimed self req → Loading self req true check →
      Loads self req (.ready (.ok loaded)) → LoadedSession.Anonymous loaded →
      self.engine.redirectToLogin req.headers req.uri = .dropped →
      Drops self req (loadEvents self req (.ok loaded) ++
        [decisionEvent self "unauthenticated", .redirectToLogin])
  | persist (required check pending msg) : Unclaimed self req → Loading self req required check →
      Loads self req (.ready (.ok (.activePending pending))) →
      runCheck check pending.session = .error (.forbidden msg) →
      self.engine.commit pending req.headers = .dropped →
      Drops self req (loadEvents self req (.ok (.activePending pending)) ++
        [decisionEvent self "forbidden", .commit pending req.headers])

def forwardRun (self : LoginProxy S) (w : World S) (pre : List (Event S)) (st : LoginState S) :
    Ran Error (World S) (Event S) Bool :=
  ((forwardRequest self).run { w with ctx := st }).after pre

def answerRun (w : World S) (pre : List (Event S)) (resp : LoginResponse) (cookies : SetCookies) :
    Ran Error (World S) (Event S) Bool :=
  (((writeLoginResponse resp cookies).run w).andThen fun _ w' => ⟨.done true, w', []⟩).after pre

inductive GateRun (self : LoginProxy S) (w : World S) :
    Ran Error (World S) (Event S) Bool → Prop where
  | forward {pre st} : Forwards self w.session.reqHeader w.ctx pre st →
      GateRun self w (forwardRun self w pre st)
  | answer {pre resp cookies} : Answers self w.session.reqHeader pre resp cookies →
      GateRun self w (answerRun w pre resp cookies)
  | drop {pre} : Drops self w.session.reqHeader pre → GateRun self w ⟨.cancelled, w, pre⟩

private theorem session_run {self : LoginProxy S} {w : World S} {required : Bool}
    {check : Option (CheckFn S)} {loaded : LoadedSession S} {sess : S}
    (hu : Unclaimed self w.session.reqHeader) (hr : Loading self w.session.reqHeader required check)
    (hl : Loads self w.session.reqHeader (.ready (.ok loaded)))
    (hs : LoadedSession.session? loaded = some sess) :
    GateRun self w ((serveWithSession self w.session.reqHeader.headers check sess
      (LoadedSession.pending? loaded) (LoadedSession.setCookies loaded)).run w |>.after
        (loadEvents self w.session.reqHeader (.ok loaded))) := by
  cases hc : runCheck check sess with
  | ok =>
    have h : Forwards self w.session.reqHeader w.ctx _ _ :=
      .authenticated required check loaded sess hu hr hl hs hc
    simpa [serveWithSession, hc, forwardRun] using GateRun.forward h
  | error e =>
    obtain ⟨msg⟩ := e
    cases loaded with
    | missing | cleared | refreshUnavailable => simp [LoadedSession.session?] at hs
    | active session cookies =>
      have h := Answers.forbidden required check _ sess msg hu hr hl hs hc rfl
      simpa [serveWithSession, hc, serveForbidden, answerRun, LoadedSession.pending?] using
        GateRun.answer h
    | activePending pending =>
      obtain rfl : pending.session = sess := by simpa [LoadedSession.session?] using hs
      cases hp : self.engine.commit pending w.session.reqHeader.headers with
      | dropped =>
        have h := Drops.persist required check pending msg hu hr hl hc hp
        simpa [serveWithSession, hc, serveForbidden, LoadedSession.pending?, run_commit, hp] using
          GateRun.drop h
      | ready result =>
        have h := Answers.forbiddenPersisted required check pending msg result hu hr hl hc hp
        cases result <;>
          simpa [serveWithSession, hc, serveForbidden, LoadedSession.pending?,
            LoadedSession.setCookies, run_commit, hp, answerRun, Except.toOption] using
            GateRun.answer h

private theorem anonymous_run {self : LoginProxy S} {w : World S} {required : Bool}
    {check : Option (CheckFn S)} {loaded : LoadedSession S}
    (hu : Unclaimed self w.session.reqHeader) (hr : Loading self w.session.reqHeader required check)
    (hl : Loads self w.session.reqHeader (.ready (.ok loaded)))
    (ha : LoadedSession.Anonymous loaded) :
    GateRun self w ((serveWithoutSession self w.session.reqHeader.headers w.session.reqHeader.uri
      required (LoadedSession.setCookies loaded)).run w |>.after
        (loadEvents self w.session.reqHeader (.ok loaded))) := by
  cases required with
  | false =>
    have h : Forwards self w.session.reqHeader w.ctx _ _ := .anonymous check loaded hu hr hl ha
    simpa [serveWithoutSession, forwardRun] using GateRun.forward h
  | true =>
    cases hd : self.engine.redirectToLogin w.session.reqHeader.headers w.session.reqHeader.uri with
    | dropped =>
      have h := Drops.redirect check loaded hu hr hl ha hd
      simpa [serveWithoutSession, hd] using GateRun.drop h
    | ready resp =>
      have h := Answers.unauthenticated check loaded resp hu hr hl ha hd
      simpa [serveWithoutSession, hd, answerRun] using GateRun.answer h

private theorem loaded_run {self : LoginProxy S} {w : World S} (required : Bool)
    {check : Option (CheckFn S)} (hu : Unclaimed self w.session.reqHeader)
    (hr : Loading self w.session.reqHeader required check) :
    GateRun self w ((requestFilterLoaded self w.session.reqHeader.headers w.session.reqHeader.uri
      required check).run w |>.after [.tryHandleLoginRoute]) := by
  cases hl : self.engine.loadSession w.session.reqHeader.headers with
  | dropped =>
    have h := Drops.load required check hu hr hl
    simpa [requestFilterLoaded, run_loadSession, hl] using GateRun.drop h
  | ready result =>
    cases result with
    | error e =>
      have h := Answers.loadFailed required check e hu hr hl
      simpa [requestFilterLoaded, run_loadSession, hl, answerRun, loadEvents] using GateRun.answer h
    | ok loaded =>
      cases loaded with
      | missing | cleared clears =>
        have h := anonymous_run hu hr hl trivial
        simpa [requestFilterLoaded, run_loadSession, hl, loadEvents,
          LoadedSession.setCookies] using h
      | active sess cookies | activePending pending =>
        have h := session_run hu hr hl rfl
        simpa [requestFilterLoaded, run_loadSession, hl, loadEvents, LoadedSession.setCookies,
          LoadedSession.pending?] using h
      | refreshUnavailable =>
        have h := Answers.refreshUnavailable required check hu hr hl
        simpa [requestFilterLoaded, run_loadSession, hl, answerRun, loadEvents,
          serveRefreshUnavailable] using GateRun.answer h

theorem requestFilter_cases (self : LoginProxy S) (w : World S) :
    GateRun self w ((requestFilter self).run w) := by
  by_cases hp : Preflight self w.session.reqHeader
  · cases hr : self.routes.resolve w.session.reqHeader.uri.path w.session.reqHeader.method with
    | error reason =>
      have h := Answers.preflightDenied reason hp hr
      simpa [requestFilter, hp.1, hp.2, hr, servePathConfusion, answerRun] using GateRun.answer h
    | ok rule =>
      have h : Forwards self w.session.reqHeader w.ctx _ _ := .preflight rule hp hr
      simpa [requestFilter, hp.1, hp.2, hr, forwardRun] using GateRun.forward h
  have hc : ¬ (self.corsPassthrough = true ∧ self.engine.isCorsPreflight w.session.reqHeader.method
      w.session.reqHeader.headers = true) := hp
  cases ht : self.engine.tryHandleLoginRoute w.session.reqHeader.method
      w.session.reqHeader.headers w.session.reqHeader.uri with
  | dropped =>
    have h := Drops.loginRoute hp ht
    simpa [requestFilter, hc, ht] using GateRun.drop h
  | ready claim =>
    cases claim with
    | some resp =>
      have h := Answers.loginRoute resp hp ht
      simpa [requestFilter, hc, ht, answerRun] using GateRun.answer h
    | none =>
      have hu : Unclaimed self w.session.reqHeader := ⟨hp, ht⟩
      cases hr : self.routes.resolve w.session.reqHeader.uri.path w.session.reqHeader.method with
      | error reason =>
        have h := Answers.routeDenied reason hu hr
        simpa [requestFilter, hc, ht, hr, servePathConfusion, answerRun] using GateRun.answer h
      | ok rule =>
        cases rule with
        | pub m c =>
          have h : Forwards self w.session.reqHeader w.ctx _ _ := .pub m c hu hr
          simpa [requestFilter, hc, ht, hr, forwardRun] using GateRun.forward h
        | optional check m =>
          have h := loaded_run false hu ⟨m, hr⟩
          simpa [requestFilter, hc, ht, hr] using h
        | required check m =>
          have h := loaded_run true hu ⟨m, hr⟩
          simpa [requestFilter, hc, ht, hr] using h

end LoginGate
