import HuskarlPingora.LoginAdapter

/-! # What each step of the login adapter does

One equation for each helper of the hooks: its exit, the state it leaves and the
events it emits. Later modules use these and never unfold a helper. -/
namespace LoginEffects

open HttpModel RouteResolution LoginRules LoginContext LoginAdapter TracedHooks

variable {S : Type}

namespace LoadedSession

def session? : LoadedSession S → Option S
  | .active session _ => some session
  | .activePending pending => some pending.session
  | _ => none

def pending? : LoadedSession S → Option (PendingPersist S)
  | .activePending pending => some pending
  | _ => none

def setCookies : LoadedSession S → SetCookies
  | .cleared clears => clears
  | .active _ setCookies => setCookies
  | _ => []

/-- The load found no usable session but did not fail to decide. -/
def Anonymous : LoadedSession S → Prop
  | .missing | .cleared _ => True
  | _ => False

end LoadedSession

def decisionEvent (self : LoginProxy S) (outcome : String) : Event S :=
  .counter "huskarl.pingora.login.check" outcome (self.metricsName.getD "")

def finalizationEvent (self : LoginProxy S) (phase : LoginPhase) : Event S :=
  .counter "huskarl.pingora.login.finalization" phase.asStr (self.metricsName.getD "")

def observed {α : Type} (self : LoginProxy S) (operation : SessionOperation) (phase : LoginPhase)
    (result : Except SessionError α) : List (Event S) :=
  .operationCounter operation phase result.isOk (self.metricsName.getD "") ::
    match result with
    | .ok _ => []
    | .error error =>
      if self.diagnostics then [.diagnostic (.sessionFailure operation phase error)] else []

def strandedEvents (self : LoginProxy S) (cookies : SetCookies) : List (Event S) :=
  (if cookies.isEmpty then []
    else .strandedCounter cookies.length (self.metricsName.getD "") ::
      if self.diagnostics then [.diagnostic (.strandedCookies cookies.length)] else []) ++
    [.discard cookies]

theorem forall_mem_observed {α : Type} {self : LoginProxy S} {operation : SessionOperation}
    {phase : LoginPhase} {result : Except SessionError α} {P : Event S → Prop}
    (hcounter : ∀ success name, P (.operationCounter operation phase success name))
    (hdiagnostic : ∀ detail, P (.diagnostic detail)) :
    ∀ e ∈ observed self operation phase result, P e := by
  intro e he
  rcases List.mem_cons.mp he with rfl | he
  · exact hcounter _ _
  · cases result with
    | ok a => cases he
    | error error =>
      by_cases hd : self.diagnostics
      · obtain rfl : e = .diagnostic (.sessionFailure operation phase error) := by
          simpa [hd] using he
        exact hdiagnostic _
      · simp [hd] at he

theorem forall_mem_stranded {self : LoginProxy S} {cookies : SetCookies} {P : Event S → Prop}
    (hcounter : ∀ count name, P (.strandedCounter count name))
    (hdiagnostic : ∀ detail, P (.diagnostic detail)) (hdiscard : P (.discard cookies)) :
    ∀ e ∈ strandedEvents self cookies, P e := by
  intro e he
  rcases List.mem_append.mp he with he | he
  · by_cases hc : cookies.isEmpty
    · simp [hc] at he
    · rw [if_neg hc] at he
      rcases List.mem_cons.mp he with rfl | he
      · exact hcounter _ _
      · by_cases hd : self.diagnostics
        · obtain rfl : e = .diagnostic (.strandedCookies cookies.length) := by
            simpa [hd] using he
          exact hdiagnostic _
        · simp [hd] at he
  · obtain rfl := List.mem_singleton.mp he
    exact hdiscard

def abandonEvents : Option (PendingPersist S) → List (Event S)
  | some pending => [.abandon pending]
  | none => []

def terminateWrites (effect : InnerEffect) : List (Event S) :=
  match effect.terminateRequested with
  | some value => [.setTerminateRequested value]
  | none => []

@[simp] theorem run_updateCtx (f : LoginState S → LoginState S) (w : World S) :
    (updateCtx f).run w = ⟨.done (), { w with ctx := f w.ctx }, []⟩ := rfl

@[simp] theorem run_updateResponse (f : ResponseHeader → ResponseHeader) (w : World S) :
    (updateResponse f).run w = ⟨.done (), { w with response := f w.response }, []⟩ := rfl

@[simp] theorem run_decision (self : LoginProxy S) (outcome : String) (w : World S) :
    (decision self outcome).run w = ⟨.done (), w, [decisionEvent self outcome]⟩ := rfl

@[simp] theorem run_finalizationCounter (self : LoginProxy S) (phase : LoginPhase) (w : World S) :
    (finalizationCounter self phase).run w = ⟨.done (), w, [finalizationEvent self phase]⟩ := rfl

@[simp] theorem run_observeOperation {α : Type} (self : LoginProxy S)
    (operation : SessionOperation) (phase : LoginPhase) (result : Except SessionError α)
    (w : World S) : (observeOperation self operation phase result).run w =
      ⟨.done (), w, observed self operation phase result⟩ := by
  cases result with
  | ok => simp [observeOperation, observed]
  | error e =>
    by_cases hd : self.diagnostics
    · simp [observeOperation, observed, hd]
    · simp [observeOperation, observed, hd]

@[simp] theorem run_reportStrandedCookies (self : LoginProxy S) (cookies : SetCookies)
    (w : World S) : (reportStrandedCookies self cookies).run w =
      ⟨.done (), w, strandedEvents self cookies⟩ := by
  cases cookies with
  | nil => simp [reportStrandedCookies, strandedEvents]
  | cons c cs =>
    by_cases hd : self.diagnostics
    · simp [reportStrandedCookies, strandedEvents, hd]
    · simp [reportStrandedCookies, strandedEvents, hd]

@[simp] theorem run_abandon (pending : Option (PendingPersist S)) (w : World S) :
    (abandon pending).run w = ⟨.done (), w, abandonEvents pending⟩ := by
  cases pending <;> rfl

@[simp] theorem run_innerEffect (effect : InnerEffect) (w : World S) :
    (innerEffect effect).run w = ⟨.done (), effect.apply w, terminateWrites effect⟩ := by
  cases h : effect.terminateRequested <;> simp [innerEffect, terminateWrites, h]

theorem run_loadSession (self : LoginProxy S) (headers : HeaderMap) (w : World S) :
    (loadSession self headers).run w = match self.engine.loadSession headers with
      | .ready result => ⟨.done result, w, [.loadSession headers, .loaded result]⟩
      | .dropped => ⟨.cancelled, w, [.loadSession headers]⟩ := by
  cases h : self.engine.loadSession headers <;> simp [loadSession, h]

theorem run_commit (self : LoginProxy S) (pending : PendingPersist S) (headers : HeaderMap)
    (w : World S) : (commit self pending headers).run w =
      match self.engine.commit pending headers with
      | .ready result => ⟨.done result, w, [.commit pending headers, .committed result]⟩
      | .dropped => ⟨.cancelled, w, [.commit pending headers]⟩ := by
  cases h : self.engine.commit pending headers <;> simp [commit, h]

theorem run_terminateSession (self : LoginProxy S) (session : S) (headers : HeaderMap)
    (w : World S) : (terminateSession self session headers).run w =
      match self.engine.terminateSession session headers with
      | .ready result =>
        ⟨.done result, w, [.terminateSession session headers, .terminated result]⟩
      | .dropped => ⟨.cancelled, w, [.terminateSession session headers]⟩ := by
  cases h : self.engine.terminateSession session headers <;> simp [terminateSession, h]

def withCookies (header : ResponseHeader) (cookies : SetCookies) : ResponseHeader :=
  if cookies.isEmpty then header
  else (cookies.foldl (fun acc c => acc.appendHeader setCookieName c) header).insertHeader
    cacheControlName ⟨"no-store"⟩

theorem run_appendCookieLoop (cookies : SetCookies) (w : World S) :
    (appendCookieLoop cookies).run w =
      ⟨.done (),
        { w with
          response := cookies.foldl (fun acc c => acc.appendHeader setCookieName c) w.response },
        cookies.map .appendSetCookie⟩ := by
  induction cookies generalizing w with
  | nil => rfl
  | cons c cs ih => simp [appendCookieLoop, ih]

@[simp] theorem run_appendSetCookies (cookies : SetCookies) (w : World S) :
    (appendSetCookies cookies).run w =
      ⟨.done (), { w with response := withCookies w.response cookies },
        cookies.map .appendSetCookie⟩ := by
  cases cookies with
  | nil => rfl
  | cons c cs => simp [appendSetCookies, run_appendCookieLoop, withCookies]

@[simp] theorem run_appendExtraCookies (header : ResponseHeader) (cookies : SetCookies)
    (w : World S) : (appendExtraCookies header cookies).run w =
      ⟨.done (cookies.foldl (fun acc c => acc.appendHeader setCookieName c) header), w,
        cookies.map .appendSetCookie⟩ := by
  induction cookies generalizing header with
  | nil => rfl
  | cons c cs ih => simp [appendExtraCookies, ih]

theorem getAll_append_cookies (header : ResponseHeader) (cookies : SetCookies) :
    (cookies.foldl (fun acc c => acc.appendHeader setCookieName c) header).getAll setCookieName =
      header.getAll setCookieName ++ cookies := by
  induction cookies generalizing header with
  | nil => simp
  | cons c cs ih => simp [ih]

/-- Appended cookies stand after the ones already present, in engine order. -/
theorem getAll_withCookies (header : ResponseHeader) (cookies : SetCookies) :
    (withCookies header cookies).getAll setCookieName =
      header.getAll setCookieName ++ cookies := by
  unfold withCookies
  split
  · simp_all
  · rw [ResponseHeader.getAll_insertHeader_ne _ _ (by decide), getAll_append_cookies]

/-- The session work a state owes when its final header is reached. -/
inductive Obligation (S : Type) where
  | nothing
  | terminate (session : S) (headers : HeaderMap) (abandoned : Option (PendingPersist S))
  | commit (pending : PendingPersist S) (headers : HeaderMap)

def obligation (st : LoginState S) : Obligation S :=
  match st.session with
  | none => .nothing
  | some sess =>
    if st.terminateRequested then .terminate sess st.requestHeaders st.pending
    else
      match st.pending with
      | none => .nothing
      | some pending => .commit pending st.requestHeaders

def claimed (st : LoginState S) : LoginState S :=
  { st with
    finalized := true, requestHeaders := [], setCookies := [], pending := none,
    terminateRequested := false }

def claimRun (self : LoginProxy S) (w : World S) : Ran Error (World S) (Event S) Unit :=
  let w₁ := { w with ctx := claimed w.ctx, response := withCookies w.response w.ctx.setCookies }
  let es := finalizationEvent self .response :: w.ctx.setCookies.map .appendSetCookie
  match obligation w.ctx with
  | .nothing => ⟨.done (), w₁, es⟩
  | .terminate sess headers abandoned =>
    let es := es ++ abandonEvents abandoned ++ [.terminateSession sess headers]
    match self.engine.terminateSession sess headers with
    | .dropped => ⟨.cancelled, w₁, es⟩
    | .ready result =>
      ⟨.done (), { w₁ with response := withCookies w₁.response result.clears },
        es ++ .terminated result :: observed self .revoke .response result.revocation ++
          result.clears.map .appendSetCookie⟩
  | .commit pending headers =>
    let es := es ++ [.commit pending headers]
    match self.engine.commit pending headers with
    | .dropped => ⟨.cancelled, w₁, es⟩
    | .ready (.ok cookies) =>
      ⟨.done (), { w₁ with response := withCookies w₁.response cookies },
        es ++ .committed (.ok cookies) :: observed self .persist .response (Except.ok cookies) ++
          cookies.map .appendSetCookie⟩
    | .ready (.error e) =>
      let es := es ++ .committed (.error e) ::
        observed self .persist .response (.error e : Except SessionError SetCookies)
      match self.persistFailurePolicy e with
      | some resp =>
        ⟨.failed ⟨.httpStatus resp.status.code,
          "failed to persist session: " ++ self.engine.errorChain e⟩, w₁, es⟩
      | none => ⟨.done (), w₁, es⟩

theorem finalizeResponse_skips (self : LoginProxy S) (w : World S)
    (h : w.response.status.isInterim = true ∨ w.ctx.finalized = true) :
    (finalizeResponse self).run w = ⟨.done (), w, []⟩ := by
  by_cases hi : w.response.status.isInterim
  · simp [finalizeResponse, hi]
  · simp [finalizeResponse, hi, h.resolve_left hi]

theorem finalizeResponse_claims (self : LoginProxy S) (w : World S)
    (hi : w.response.status.isInterim = false) (hf : w.ctx.finalized = false) :
    (finalizeResponse self).run w = claimRun self w := by
  unfold claimRun obligation
  cases hs : w.ctx.session with
  | none => simp [finalizeResponse, hi, hf, hs, claimed]
  | some sess =>
    by_cases ht : w.ctx.terminateRequested
    · cases hr : self.engine.terminateSession sess w.ctx.requestHeaders <;>
        simp [finalizeResponse, hi, hf, hs, ht, claimed, run_terminateSession, hr]
    · cases hp : w.ctx.pending with
      | none => simp [finalizeResponse, hi, hf, hs, ht, hp, claimed]
      | some pending =>
        cases hr : self.engine.commit pending w.ctx.requestHeaders with
        | dropped => simp [finalizeResponse, hi, hf, hs, ht, hp, claimed, run_commit, hr]
        | ready result =>
          cases result with
          | ok cookies => simp [finalizeResponse, hi, hf, hs, ht, hp, claimed, run_commit, hr]
          | error e =>
            cases he : self.persistFailurePolicy e <;>
              simp [finalizeResponse, hi, hf, hs, ht, hp, claimed, run_commit, hr, he]

/-- Without a session the fallback leaves the fields it has no use for. -/
def drained (st : LoginState S) : LoginState S :=
  match st.session with
  | none => { st with finalized := true, setCookies := [] }
  | some _ => claimed st

/-- The work `logging` does on an unclaimed state before the inner hook runs. -/
def drainRun (self : LoginProxy S) (w : World S) : Ran Error (World S) (Event S) Unit :=
  let w₁ := { w with ctx := drained w.ctx }
  let es := finalizationEvent self .logging :: strandedEvents self w.ctx.setCookies
  match obligation w.ctx with
  | .nothing => ⟨.done (), w₁, es⟩
  | .terminate sess headers abandoned =>
    let es := es ++ abandonEvents abandoned ++ [.terminateSession sess headers]
    match self.engine.terminateSession sess headers with
    | .dropped => ⟨.cancelled, w₁, es⟩
    | .ready result =>
      ⟨.done (), w₁, es ++ .terminated result :: observed self .revoke .logging result.revocation ++
        strandedEvents self result.clears⟩
  | .commit pending headers =>
    let es := es ++ [.commit pending headers]
    match self.engine.commit pending headers with
    | .dropped => ⟨.cancelled, w₁, es⟩
    | .ready (.ok cookies) =>
      ⟨.done (), w₁, es ++ .committed (.ok cookies) ::
        observed self .persist .logging (Except.ok cookies) ++ strandedEvents self cookies⟩
    | .ready (.error e) =>
      ⟨.done (), w₁, es ++ .committed (.error e) ::
        observed self .persist .logging (.error e : Except SessionError SetCookies)⟩

theorem logging_finalized (self : LoginProxy S) (w : World S) (hf : w.ctx.finalized = true) :
    (logging self).run w = (innerLogging self).run w := by
  simp [logging, hf]

theorem logging_claims (self : LoginProxy S) (w : World S) (hf : w.ctx.finalized = false) :
    (logging self).run w =
      (drainRun self w).andThen fun _ w' => (innerLogging self).run w' := by
  unfold drainRun obligation
  cases hs : w.ctx.session with
  | none => simp [logging, hf, hs, drained]
  | some sess =>
    by_cases ht : w.ctx.terminateRequested
    · cases hr : self.engine.terminateSession sess w.ctx.requestHeaders <;>
        simp [logging, hf, hs, ht, drained, claimed, run_terminateSession, hr]
    · cases hp : w.ctx.pending with
      | none => simp [logging, hf, hs, ht, hp, drained, claimed]
      | some pending =>
        cases hr : self.engine.commit pending w.ctx.requestHeaders with
        | dropped => simp [logging, hf, hs, ht, hp, drained, claimed, run_commit, hr]
        | ready result =>
          cases result <;> simp [logging, hf, hs, ht, hp, drained, claimed, run_commit, hr]

theorem run_innerRequestFilter (self : LoginProxy S) (w : World S) :
    (innerRequestFilter self).run w =
      ((await self.inner.requestFilter.2 >>= attempt).run
        (self.inner.requestFilter.1.apply w)).after
        (.innerRequestFilter w.ctx :: terminateWrites self.inner.requestFilter.1) := by
  simp [innerRequestFilter]

theorem run_innerResponseFilter (self : LoginProxy S) (w : World S) :
    (innerResponseFilter self).run w =
      let w₁ := self.inner.responseFilter.1.apply w
      ((await self.inner.responseFilter.2.2 >>= attempt).run
        { w₁ with response := self.inner.responseFilter.2.1 w₁.response }).after
        (.innerResponseFilter w.ctx :: terminateWrites self.inner.responseFilter.1) := by
  simp [innerResponseFilter]

def innerFiltered (self : LoginProxy S) (w : World S) : World S :=
  { self.inner.responseFilter.1.apply w with response := self.inner.responseFilter.2.1 w.response }

def filteredRun (self : LoginProxy S) (w : World S) : Ran Error (World S) (Event S) Unit :=
  match self.inner.responseFilter.2.2 with
  | .dropped => ⟨.cancelled, innerFiltered self w, []⟩
  | .ready (.error e) => ⟨.failed e, innerFiltered self w, []⟩
  | .ready (.ok _) => (finalizeResponse self).run (innerFiltered self w)

theorem run_responseFilter (self : LoginProxy S) (w : World S) :
    (responseFilter self).run w = (filteredRun self w).after
      (.innerResponseFilter w.ctx :: terminateWrites self.inner.responseFilter.1) := by
  rw [responseFilter, run_bind, run_innerResponseFilter, after_andThen, filteredRun]
  cases self.inner.responseFilter.2.2 with
  | dropped => rfl
  | ready result => cases result <;> rfl

theorem run_innerLogging (self : LoginProxy S) (w : World S) :
    (innerLogging self).run w =
      ((await self.inner.logging.2).run (self.inner.logging.1.apply w)).after
        (.innerLogging w.ctx :: terminateWrites self.inner.logging.1) := by
  simp [innerLogging]

def writeOut (header : ResponseHeader) (sendBody : Bool) (body : Bytes) : LoginHook S Unit := do
  writeResponseHeader header (!sendBody)
  if sendBody then writeResponseBody body true else pure ()

def markWritten (header : ResponseHeader) (w : World S) : World S :=
  { w with session := { w.session with responseWritten := some header } }

theorem writeResponseBody_eq (body : Bytes) :
    (writeResponseBody body true : LoginHook S Unit) =
      handOver (fun w => w.session.writeBody) id (.writeResponseBody body true) := by
  funext w
  change (writeResponseBody body true).run w = (handOver _ id _).run w
  rw [run_handOver]
  cases h : w.session.writeBody with
  | dropped => simp [writeResponseBody, h]
  | ready result => cases result <;> simp [writeResponseBody, h]

theorem inTurn_writeOut (header : ResponseHeader) (sendBody : Bool) (body : Bytes) (w : World S) :
    InTurn (fun w : World S => w.session.writeHeader) (fun w => w.session.writeBody)
      (markWritten header) (.writeResponseHeader header (!sendBody))
      (if sendBody then [.writeResponseBody body true] else []) () w
      ((writeOut header sendBody body).run w) := by
  have hwrite : (writeOut header sendBody body : LoginHook S Unit) = (do
      handOver (fun w => w.session.writeHeader) (markWritten header)
        (.writeResponseHeader header (!sendBody))
      if sendBody then handOver (fun w => w.session.writeBody) id (.writeResponseBody body true)
      else pure ()) := by
    rw [← writeResponseBody_eq]
    rfl
  rw [hwrite]
  exact inTurn_handOver _ _ _ _ _ sendBody w

theorem appendHeaders_status (header : ResponseHeader) (fields : List (HeaderName × HeaderValue)) :
    (appendHeaders header fields).status = header.status := by
  induction fields generalizing header with
  | nil => rfl
  | cons field rest ih => exact ih (header.appendHeader field.1 field.2)

theorem getAll_appendHeaders (header : ResponseHeader) (fields : List (HeaderName × HeaderValue))
    (name : HeaderName) : (appendHeaders header fields).getAll name =
      header.getAll name ++ FieldMultimap.getAll fields name := by
  induction fields generalizing header with
  | nil => exact (List.append_nil _).symm
  | cons field rest ih =>
    obtain ⟨fieldName, value⟩ := field
    refine (ih (header.appendHeader fieldName value)).trans ?_
    by_cases hn : fieldName = name
    · subst hn
      simp [FieldMultimap.getAll]
    · rw [ResponseHeader.getAll_appendHeader_ne _ _ (Ne.symm hn)]
      simp [FieldMultimap.getAll, hn]

def loginHeader (resp : LoginResponse) (cookies : SetCookies) : ResponseHeader :=
  cookies.foldl (fun acc c => acc.appendHeader setCookieName c)
    (appendHeaders (.build resp.status) resp.headers)

def carriesBody (w : World S) (resp : LoginResponse) : Bool :=
  decide (w.session.reqHeader.method ≠ .head) && !resp.body.isEmpty

theorem run_writeLoginResponse (resp : LoginResponse) (cookies : SetCookies) (w : World S) :
    (writeLoginResponse resp cookies).run w =
      ((writeOut (loginHeader resp cookies) (carriesBody w resp) resp.body).run w).after
        (cookies.map .appendSetCookie) := by
  simp [writeLoginResponse, writeOut, loginHeader, carriesBody]

def sendsBody (response : LoginResponse) (w : World S) : Bool :=
  decide (response.status ≠ .noContent ∧ response.status ≠ .notModified) &&
    decide (w.session.reqHeader.method ≠ .head) && !response.body.isEmpty

def deliverRun (self : LoginProxy S) (response : LoginResponse) (w : World S) :
    Ran Error (World S) (Event S) Bool :=
  ((responseFilter self).run { w with response := localHeader response }).andThen fun _ w' =>
    ((writeOut w'.response (sendsBody response w') response.body).run w').andThen fun _ w'' =>
      ⟨.done true, w'', []⟩

def forwardedRun (self : LoginProxy S) (w : World S) : Ran Error (World S) (Event S) Bool :=
  match self.inner.requestFilter.2 with
  | .dropped => ⟨.cancelled, w, []⟩
  | .ready (.error e) => ⟨.failed e, w, []⟩
  | .ready (.ok handled) =>
    match w.ctx.response with
    | none => ⟨.done handled, w, []⟩
    | some response =>
      let w₁ := { w with ctx := { w.ctx with response := none } }
      if handled || w.session.responseWritten.isSome then
        ⟨.failed ⟨.internalError,
          "queued login response requires an unwritten response and Ok(false)"⟩, w₁, []⟩
      else deliverRun self response w₁

theorem run_forwardRequest (self : LoginProxy S) (w : World S) :
    (forwardRequest self).run w =
      (forwardedRun self (self.inner.requestFilter.1.apply w)).after
        (.innerRequestFilter w.ctx :: terminateWrites self.inner.requestFilter.1) := by
  rw [forwardRequest, run_bind, run_innerRequestFilter, after_andThen, forwardedRun]
  congr 1
  generalize self.inner.requestFilter.1.apply w = w'
  cases self.inner.requestFilter.2 with
  | dropped => rfl
  | ready result =>
    cases result with
    | error e => rfl
    | ok handled =>
      cases hr : w'.ctx.response with
      | none => simp [hr]
      | some response =>
        simp only [run_bind, run_await_ready, run_attempt_ok, andThen_done, run_read, after_nil,
          run_updateCtx, hr]
        by_cases hm : handled || w'.session.responseWritten.isSome
        · simp only [hm, if_true, run_fail]
        · simp only [hm, if_false, Bool.false_eq_true, run_bind, run_updateResponse, andThen_done,
            run_read, after_nil, deliverRun]
          congr 1
          funext u w₂
          unfold sendsBody writeOut
          generalize (decide (response.status ≠ .noContent ∧ response.status ≠ .notModified) &&
            decide (w₂.session.reqHeader.method ≠ .head) && !response.body.isEmpty) = sendBody
          rw [run_bind]
          cases h : (writeResponseHeader w₂.response (!sendBody)).run w₂ with
          | mk exit state events =>
            cases exit <;> cases sendBody <;> simp [after_andThen]

/-- The transport accepts the next header and the next body. -/
def Delivers (session : Downstream) : Prop :=
  session.writeHeader = .ready (.ok ()) ∧ session.writeBody = .ready (.ok ())

def sentEvents (header : ResponseHeader) (sendBody : Bool) (body : Bytes) : List (Event S) :=
  .writeResponseHeader header (!sendBody) ::
    if sendBody then [.writeResponseBody body true] else []

/-- The header is handed over once and the body after it. Only the transport can stop a
write between the two. -/
structure Sent {α : Type} (header : ResponseHeader) (sendBody : Bool) (body : Bytes) (value : α)
    (w : World S) (r : Ran Error (World S) (Event S) α) : Prop where
  ctx : r.state.ctx = w.ctx
  begun : ∃ rest, r.events = .writeResponseHeader header (!sendBody) :: rest
  within : r.events <+: sentEvents header sendBody body
  finished : ∀ a, r.exit = .done a → a = value ∧ r.events = sentEvents header sendBody body ∧
    r.state.session.responseWritten = some header
  whole : Delivers w.session → r.exit = .done value

theorem sent_of_inTurn {α : Type} {header : ResponseHeader} {sendBody : Bool} {body : Bytes}
    {value : α} {w : World S} {r : Ran Error (World S) (Event S) α}
    (h : InTurn (fun w : World S => w.session.writeHeader) (fun w => w.session.writeBody)
      (markWritten header) (.writeResponseHeader header (!sendBody))
      (if sendBody then [.writeResponseBody body true] else []) value w r) :
    Sent header sendBody body value w r := by
  refine ⟨?_, h.begun, h.within, ?_, fun hdelivers => h.whole hdelivers.1 hdelivers.2⟩
  · rcases h.state with hstate | hstate
    · rw [hstate]
    · rw [hstate]
      rfl
  · intro a ha
    obtain ⟨hvalue, hevents, hstate⟩ := h.finished a ha
    refine ⟨hvalue, hevents, ?_⟩
    rw [hstate]
    rfl

theorem sent_writeOut_returning {α : Type} (header : ResponseHeader) (sendBody : Bool)
    (body : Bytes) (w : World S) (value : α) : Sent header sendBody body value w
      (((writeOut header sendBody body).run w).andThen fun _ w' => ⟨.done value, w', []⟩) :=
  sent_of_inTurn ((inTurn_writeOut header sendBody body w).returning value)

/-- Nothing but body writes follows the header. -/
theorem Sent.tail {α : Type} {header : ResponseHeader} {sendBody : Bool} {body : Bytes}
    {value : α} {w : World S} {r : Ran Error (World S) (Event S) α}
    (h : Sent header sendBody body value w r) :
    ∃ tail, r.events = .writeResponseHeader header (!sendBody) :: tail ∧
      ∀ e ∈ tail, ∃ bytes endOfStream, e = .writeResponseBody bytes endOfStream := by
  obtain ⟨tail, hevents⟩ := h.begun
  obtain ⟨more, hmore⟩ := h.within
  refine ⟨tail, hevents, ?_⟩
  intro e he
  rw [hevents, sentEvents, List.cons_append, List.cons.injEq] at hmore
  have hmem : e ∈ tail ++ more := List.mem_append_left more he
  rw [hmore.2] at hmem
  cases sendBody with
  | false => cases hmem
  | true => exact ⟨body, true, List.mem_singleton.mp hmem⟩

inductive Delivery (self : LoginProxy S) (response : LoginResponse) (w : World S) :
    Ran Error (World S) (Event S) Bool → Prop where
  | rejected {e w' es} :
      (responseFilter self).run { w with response := localHeader response } =
        ⟨.failed e, w', es⟩ → Delivery self response w ⟨.failed e, w', es⟩
  | dropped {w' es} :
      (responseFilter self).run { w with response := localHeader response } =
        ⟨.cancelled, w', es⟩ → Delivery self response w ⟨.cancelled, w', es⟩
  | written {w' es r} :
      (responseFilter self).run { w with response := localHeader response } =
        ⟨.done (), w', es⟩ →
      Sent w'.response (sendsBody response w') response.body true w' r →
      Delivery self response w (r.after es)

theorem deliverRun_cases (self : LoginProxy S) (response : LoginResponse) (w : World S) :
    Delivery self response w (deliverRun self response w) := by
  unfold deliverRun
  cases hfilter : (responseFilter self).run { w with response := localHeader response } with
  | mk exit w' es =>
    cases exit with
    | failed e => exact .rejected hfilter
    | cancelled => exact .dropped hfilter
    | done u =>
      have hsent := sent_writeOut_returning w'.response (sendsBody response w')
        response.body w' true
      exact .written hfilter hsent

def taken (w : World S) : World S := { w with ctx := { w.ctx with response := none } }

/-- What follows the inner `request_filter`, by its result and by what it queued. -/
inductive Forwarding (self : LoginProxy S) (w : World S) :
    Ran Error (World S) (Event S) Bool → Prop where
  | dropped : self.inner.requestFilter.2 = .dropped → Forwarding self w ⟨.cancelled, w, []⟩
  | failed {e} : self.inner.requestFilter.2 = .ready (.error e) →
      Forwarding self w ⟨.failed e, w, []⟩
  | unqueued {handled} : self.inner.requestFilter.2 = .ready (.ok handled) →
      w.ctx.response = none → Forwarding self w ⟨.done handled, w, []⟩
  | misused {handled response} : self.inner.requestFilter.2 = .ready (.ok handled) →
      w.ctx.response = some response → (handled || w.session.responseWritten.isSome) = true →
      Forwarding self w ⟨.failed ⟨.internalError,
        "queued login response requires an unwritten response and Ok(false)"⟩, taken w, []⟩
  | delivered {response r} : self.inner.requestFilter.2 = .ready (.ok false) →
      w.ctx.response = some response → w.session.responseWritten = none →
      Delivery self response (taken w) r → Forwarding self w r

theorem forwardedRun_cases (self : LoginProxy S) (w : World S) :
    Forwarding self w (forwardedRun self w) := by
  unfold forwardedRun
  cases hin : self.inner.requestFilter.2 with
  | dropped => exact .dropped hin
  | ready result =>
    cases result with
    | error e => exact .failed hin
    | ok handled =>
      cases hr : w.ctx.response with
      | none => simpa only [hr] using .unqueued hin hr
      | some response =>
        by_cases hmisuse : handled || w.session.responseWritten.isSome
        · simpa only [hr, hmisuse, if_true] using .misused hin hr hmisuse
        · simp only [hmisuse, if_false, Bool.false_eq_true]
          rw [Bool.not_eq_true, Bool.or_eq_false_iff] at hmisuse
          obtain ⟨rfl, hunwritten⟩ := hmisuse
          have hnone : w.session.responseWritten = none := by simpa using hunwritten
          exact .delivered hin hr hnone (deliverRun_cases self response (taken w))

end LoginEffects
