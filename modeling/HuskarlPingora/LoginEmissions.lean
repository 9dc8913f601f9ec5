import HuskarlPingora.EngineProtocol

/-! # What the login hooks may emit

Every hook of the login adapter emits events of a few families only. From that follow the
catalog of its counters and, later, what it writes to the client. -/
namespace LoginEmissions

open HttpModel RouteResolution LoginRules LoginContext LoginAdapter LoginEffects LoginLifecycle
open EngineProtocol TracedHooks EventMonitors

variable {S α : Type}

/-- The operations of the adapter, each in the phases it can run in. -/
inductive Performed : SessionOperation → LoginPhase → Prop where
  | load : Performed .load .request
  | persist {phase} : phase ≠ .request → Performed .persist phase
  | revoke {phase} : phase = .response ∨ phase = .logging → Performed .revoke phase

def checkOutcomes : List String :=
  ["preflight", "public", "anonymous", "authenticated", "unauthenticated", "forbidden",
    "login_route", "refresh_unavailable", "path_confusion", "policy_denied", "server_error"]

structure PermitsLater (name : String) (A : Event S → Prop) : Prop where
  finalization : ∀ phase : LoginPhase, phase = .response ∨ phase = .logging →
    A (.counter "huskarl.pingora.login.finalization" phase.asStr name)
  operation : ∀ operation phase success, Performed operation phase →
    A (.operationCounter operation phase success name)
  stranded : ∀ count, 0 < count → A (.strandedCounter count name)
  diagnostic : ∀ detail, A (.diagnostic detail)
  engine : ∀ e, engineEvent e = true → A e
  responseHook : ∀ st, A (.innerResponseFilter st)
  loggingHook : ∀ st, A (.innerLogging st)
  flag : ∀ value, A (.setTerminateRequested value)
  append : ∀ cookie, A (.appendSetCookie cookie)
  discard : ∀ cookies, A (.discard cookies)

structure PermitsAll (name : String) (A : Event S → Prop) : Prop
    extends PermitsLater name A where
  check : ∀ outcome ∈ checkOutcomes, A (.counter "huskarl.pingora.login.check" outcome name)
  requestHook : ∀ st, A (.innerRequestFilter st)
  header : ∀ header endOfStream, A (.writeResponseHeader header endOfStream)
  body : ∀ body endOfStream, A (.writeResponseBody body endOfStream)

section Later

variable {self : LoginProxy S} {A : Event S → Prop}

theorem emits_observeOperation {β : Type} (h : PermitsLater (self.metricsName.getD "") A)
    {operation : SessionOperation} {phase : LoginPhase} (hp : Performed operation phase)
    (result : Except SessionError β) : Emits A (observeOperation self operation phase result) := by
  intro w
  rw [run_observeOperation]
  intro e he
  rcases List.mem_cons.mp he with rfl | he
  · exact h.operation operation phase _ hp
  · cases result with
    | ok a => cases he
    | error error =>
      by_cases hd : self.diagnostics
      · obtain rfl : e = .diagnostic (.sessionFailure operation phase error) := by
          simpa [hd] using he
        exact h.diagnostic _
      · simp [hd] at he

theorem emits_appendSetCookies (h : PermitsLater (self.metricsName.getD "") A)
    (cookies : SetCookies) : Emits A (appendSetCookies cookies) := by
  intro w e he
  rw [run_appendSetCookies] at he
  obtain ⟨cookie, -, rfl⟩ := List.mem_map.mp he
  exact h.append cookie

theorem emits_reportStrandedCookies (h : PermitsLater (self.metricsName.getD "") A)
    (cookies : SetCookies) : Emits A (reportStrandedCookies self cookies) := by
  have hdiscard : Emits A (emit (.discard cookies) : LoginHook S Unit) :=
    emits_emit (h.discard cookies)
  cases cookies with
  | nil => exact (emits_pure ()).bind fun _ => hdiscard
  | cons cookie rest =>
    refine Emits.bind (emits_emit (h.stranded _ (Nat.succ_pos _))) fun _ => ?_
    split
    · exact (emits_emit (h.diagnostic _)).bind fun _ => hdiscard
    · exact hdiscard

theorem emits_abandon (h : PermitsLater (self.metricsName.getD "") A)
    (pending : Option (PendingPersist S)) : Emits A (abandon pending) := by
  cases pending with
  | none => exact emits_pure ()
  | some pending => exact emits_emit (h.engine _ rfl)

theorem emits_loadSession (h : PermitsLater (self.metricsName.getD "") A) (headers : HeaderMap) :
    Emits A (loadSession self headers) :=
  (emits_emit (h.engine _ rfl)).bind fun _ => (emits_await _).bind fun result =>
    (emits_emit (h.engine _ rfl)).bind fun _ => emits_pure result

theorem emits_commit (h : PermitsLater (self.metricsName.getD "") A) (pending : PendingPersist S)
    (headers : HeaderMap) : Emits A (commit self pending headers) :=
  (emits_emit (h.engine _ rfl)).bind fun _ => (emits_await _).bind fun result =>
    (emits_emit (h.engine _ rfl)).bind fun _ => emits_pure result

theorem emits_terminateSession (h : PermitsLater (self.metricsName.getD "") A) (session : S)
    (headers : HeaderMap) : Emits A (terminateSession self session headers) :=
  (emits_emit (h.engine _ rfl)).bind fun _ => (emits_await _).bind fun result =>
    (emits_emit (h.engine _ rfl)).bind fun _ => emits_pure result

theorem emits_updateCtx (f : LoginState S → LoginState S) : Emits A (updateCtx f) :=
  emits_update _

theorem emits_updateResponse (f : ResponseHeader → ResponseHeader) :
    Emits A (updateResponse f : LoginHook S Unit) :=
  emits_update _

theorem emits_finalizeResponse (h : PermitsLater (self.metricsName.getD "") A) :
    Emits A (finalizeResponse self) := by
  refine emits_read fun w => ?_
  split
  · exact emits_pure ()
  split
  · exact emits_pure ()
  refine (emits_updateCtx _).bind fun _ => ?_
  refine (emits_emit (h.finalization .response (.inl rfl))).bind fun _ => ?_
  refine (emits_updateCtx _).bind fun _ => (emits_appendSetCookies h _).bind fun _ => ?_
  cases w.ctx.session with
  | none => exact emits_pure ()
  | some session =>
    dsimp only
    split
    · refine (emits_abandon h _).bind fun _ => (emits_terminateSession h _ _).bind fun result => ?_
      exact (emits_observeOperation h (.revoke (.inl rfl)) _).bind fun _ =>
        emits_appendSetCookies h _
    · cases w.ctx.pending with
      | none => exact emits_pure ()
      | some pending =>
        refine (emits_commit h _ _).bind fun persisted => ?_
        refine (emits_observeOperation h (.persist (by decide)) _).bind fun _ => ?_
        cases persisted with
        | ok cookies => exact emits_appendSetCookies h cookies
        | error e =>
          dsimp only
          split
          · exact emits_fail _
          · exact emits_pure ()

theorem emits_innerEffect {name : String} (h : PermitsLater name A) (effect : InnerEffect) :
    Emits A (innerEffect effect : LoginHook S Unit) := by
  intro w e he
  rw [run_innerEffect] at he
  cases hv : effect.terminateRequested with
  | none => simp [terminateWrites, hv] at he
  | some value =>
    obtain rfl : e = .setTerminateRequested value := by simpa [terminateWrites, hv] using he
    exact h.flag value

theorem emits_innerLogging {name : String} (h : PermitsLater name A) :
    Emits A (innerLogging self) :=
  emits_read fun _ => (emits_emit (h.loggingHook _)).bind fun _ =>
    (emits_innerEffect h _).bind fun _ => emits_await _

theorem emits_responseFilter (h : PermitsLater (self.metricsName.getD "") A) :
    Emits A (responseFilter self) := by
  refine Emits.bind (emits_read fun _ => ?_) fun _ => emits_finalizeResponse h
  refine (emits_emit (h.responseHook _)).bind fun _ => (emits_innerEffect h _).bind fun _ => ?_
  exact (emits_updateResponse _).bind fun _ => emits_taken _

theorem emits_logging (h : PermitsLater (self.metricsName.getD "") A) :
    Emits A (logging self) := by
  refine emits_read fun w => ?_
  split
  · exact emits_innerLogging h
  refine (emits_updateCtx _).bind fun _ => ?_
  refine (emits_emit (h.finalization .logging (.inr rfl))).bind fun _ => ?_
  refine (emits_updateCtx _).bind fun _ => (emits_reportStrandedCookies h _).bind fun _ => ?_
  cases w.ctx.session with
  | none => exact emits_innerLogging h
  | some session =>
    refine Emits.bind (emits_updateCtx _) fun _ => ?_
    split
    · refine (emits_abandon h _).bind fun _ => (emits_terminateSession h _ _).bind fun result => ?_
      exact (emits_observeOperation h (.revoke (.inr rfl)) _).bind fun _ =>
        (emits_reportStrandedCookies h _).bind fun _ => emits_innerLogging h
    · cases w.ctx.pending with
      | none => exact emits_innerLogging h
      | some pending =>
        refine (emits_commit h _ _).bind fun persisted => ?_
        refine (emits_observeOperation h (.persist (by decide)) _).bind fun _ => ?_
        cases persisted with
        | ok cookies =>
          exact (emits_reportStrandedCookies h _).bind fun _ => emits_innerLogging h
        | error e => exact emits_innerLogging h

theorem emits_perform (h : PermitsLater (self.metricsName.getD "") A) (c : Call S) :
    Emits A (perform self c) := by
  cases c with
  | responseFilter inner engine header =>
    exact (emits_updateResponse _).bind fun _ =>
      @emits_responseFilter S { self with inner := inner, engine := engine } A h
  | logging inner engine => exact emits_logging h
  | innerWrite effect => exact emits_innerEffect h effect

end Later

section Gate

variable {self : LoginProxy S} {A : Event S → Prop}

theorem emits_writeResponseHeader {name : String} (h : PermitsAll name A)
    (header : ResponseHeader) (endOfStream : Bool) :
    Emits A (writeResponseHeader header endOfStream : LoginHook S Unit) :=
  (emits_emit (h.header _ _)).bind fun _ => emits_read fun _ => (emits_await _).bind fun result =>
    (emits_attempt result).bind fun _ => emits_update _

theorem emits_writeResponseBody {name : String} (h : PermitsAll name A) (body : Bytes)
    (endOfStream : Bool) : Emits A (writeResponseBody body endOfStream : LoginHook S Unit) :=
  (emits_emit (h.body _ _)).bind fun _ => emits_read fun _ => emits_taken _

theorem emits_appendExtraCookies (h : ∀ cookie, A (.appendSetCookie cookie))
    (header : ResponseHeader) (cookies : SetCookies) :
    Emits A (appendExtraCookies header cookies : LoginHook S ResponseHeader) := by
  intro w e he
  rw [run_appendExtraCookies] at he
  obtain ⟨cookie, -, rfl⟩ := List.mem_map.mp he
  exact h cookie

theorem emits_writeLoginResponse {name : String} (h : PermitsAll name A) (resp : LoginResponse)
    (cookies : SetCookies) : Emits A (writeLoginResponse resp cookies : LoginHook S Unit) := by
  refine Emits.bind (emits_appendExtraCookies h.append _ cookies) fun header => ?_
  refine emits_read fun w => ?_
  refine (emits_writeResponseHeader h _ _).bind fun _ => ?_
  split
  · exact emits_writeResponseBody h _ _
  · exact emits_pure ()

theorem emits_forwardRequest (h : PermitsAll (self.metricsName.getD "") A) :
    Emits A (forwardRequest self) := by
  refine Emits.bind (emits_read fun _ => ?_) fun handled => emits_read fun w => ?_
  · exact (emits_emit (h.requestHook _)).bind fun _ =>
      (emits_innerEffect h.toPermitsLater _).bind fun _ => emits_taken _
  cases w.ctx.response with
  | none => exact emits_pure handled
  | some response =>
    refine Emits.bind (emits_updateCtx _) fun _ => ?_
    dsimp only
    split
    · exact emits_fail _
    · refine (emits_updateResponse _).bind fun _ => ?_
      refine (emits_responseFilter h.toPermitsLater).bind fun _ => emits_read fun w => ?_
      refine (emits_writeResponseHeader h _ _).bind fun _ => ?_
      split
      · exact (emits_writeResponseBody h _ _).bind fun _ => emits_pure true
      · exact emits_pure true

theorem emits_decision {outcome : String} (h : A (decisionEvent self outcome)) :
    Emits A (decision self outcome) :=
  emits_emit h

theorem routeDenial_listed (reason : ResolveError) : routeDenial reason ∈ checkOutcomes := by
  unfold routeDenial
  cases reason.kind <;> decide

theorem emits_answer {name : String} (h : PermitsAll name A) (resp : LoginResponse)
    (cookies : SetCookies) :
    Emits A (writeLoginResponse resp cookies >>= fun _ => pure true : LoginHook S Bool) :=
  (emits_writeLoginResponse h resp cookies).bind fun _ => emits_pure true

theorem emits_servePathConfusion (h : PermitsAll (self.metricsName.getD "") A)
    (reason : ResolveError) : Emits A (servePathConfusion self reason) :=
  (emits_decision (h.check _ (routeDenial_listed reason))).bind fun _ => emits_answer h _ _

theorem emits_serveForbidden (h : PermitsAll (self.metricsName.getD "") A) (headers : HeaderMap)
    (msg : String) (pending : Option (PendingPersist S)) (setCookies : SetCookies) :
    Emits A (serveForbidden self headers msg pending setCookies) := by
  refine (emits_decision (h.check _ (by decide))).bind fun _ => ?_
  cases pending with
  | none => exact emits_answer h _ _
  | some pending =>
    refine (emits_commit h.toPermitsLater _ _).bind fun persisted => ?_
    refine (emits_observeOperation h.toPermitsLater (.persist (by decide)) _).bind fun _ => ?_
    cases persisted with
    | ok more => exact emits_answer h _ _
    | error e => exact emits_answer h _ _

theorem emits_serveWithoutSession (h : PermitsAll (self.metricsName.getD "") A)
    (headers : HeaderMap) (uri : Uri) (required : Bool) (setCookies : SetCookies) :
    Emits A (serveWithoutSession self headers uri required setCookies) := by
  cases required with
  | true =>
    refine (emits_decision (h.check _ (by decide))).bind fun _ => ?_
    refine (emits_emit (h.engine _ rfl)).bind fun _ => (emits_await _).bind fun resp => ?_
    exact emits_answer h resp setCookies
  | false =>
    refine (emits_decision (h.check _ (by decide))).bind fun _ => ?_
    exact (emits_updateCtx _).bind fun _ => emits_forwardRequest h

theorem emits_serveWithSession (h : PermitsAll (self.metricsName.getD "") A)
    (headers : HeaderMap) (check : Option (CheckFn S)) (sess : S)
    (pending : Option (PendingPersist S)) (setCookies : SetCookies) :
    Emits A (serveWithSession self headers check sess pending setCookies) := by
  unfold serveWithSession
  split
  · exact emits_serveForbidden h _ _ _ _
  · refine (emits_decision (h.check _ (by decide))).bind fun _ => ?_
    exact (emits_updateCtx _).bind fun _ => emits_forwardRequest h

theorem emits_requestFilterLoaded (h : PermitsAll (self.metricsName.getD "") A)
    (headers : HeaderMap) (uri : Uri) (required : Bool) (check : Option (CheckFn S)) :
    Emits A (requestFilterLoaded self headers uri required check) := by
  refine (emits_loadSession h.toPermitsLater headers).bind fun loaded => ?_
  refine (emits_observeOperation h.toPermitsLater .load loaded).bind fun _ => ?_
  cases loaded with
  | error e => exact (emits_decision (h.check _ (by decide))).bind fun _ => emits_answer h _ _
  | ok loaded =>
    cases loaded with
    | missing | cleared clears => exact emits_serveWithoutSession h _ _ _ _
    | active sess cookies | activePending pending => exact emits_serveWithSession h _ _ _ _ _
    | refreshUnavailable =>
      exact (emits_decision (h.check _ (by decide))).bind fun _ => emits_answer h _ _

theorem emits_requestFilter (h : PermitsAll (self.metricsName.getD "") A) :
    Emits A (requestFilter self) := by
  refine emits_read fun w => ?_
  dsimp only
  split
  · split
    · exact emits_servePathConfusion h _
    · exact (emits_decision (h.check _ (by decide))).bind fun _ => emits_forwardRequest h
  refine Emits.bind (emits_emit (h.engine _ rfl)) fun _ => (emits_await _).bind fun claim => ?_
  cases claim with
  | some resp => exact (emits_decision (h.check _ (by decide))).bind fun _ => emits_answer h resp []
  | none =>
    dsimp only
    split
    · exact emits_servePathConfusion h _
    · exact (emits_decision (h.check _ (by decide))).bind fun _ => emits_forwardRequest h
    · exact emits_requestFilterLoaded h _ _ _ _
    · exact emits_requestFilterLoaded h _ _ _ _

end Gate

def counterEvent : Event S → Bool
  | .counter _ _ _ | .operationCounter _ _ _ _ | .strandedCounter _ _ => true
  | _ => false

/-- The series the adapter promises under its name. Every other label is fixed. -/
inductive Cataloged (name : String) : Event S → Prop where
  | check (outcome) : outcome ∈ checkOutcomes →
      Cataloged name (.counter "huskarl.pingora.login.check" outcome name)
  | finalization (outcome) : outcome ∈ ["response", "logging"] →
      Cataloged name (.counter "huskarl.pingora.login.finalization" outcome name)
  | operation (operation phase success) : Performed operation phase →
      Cataloged name (.operationCounter operation phase success name)
  | stranded (count) : 0 < count → Cataloged name (.strandedCounter count name)

def OnlyCataloged (name : String) (es : List (Event S)) : Prop :=
  ∀ e ∈ es, counterEvent e = true → Cataloged name e

theorem permits_cataloged (name : String) :
    PermitsAll name fun e : Event S => counterEvent e = true → Cataloged name e where
  finalization := by
    rintro phase (rfl | rfl) -
    · exact .finalization _ (by decide)
    · exact .finalization _ (by decide)
  operation := fun operation phase success hp _ => .operation operation phase success hp
  stranded := fun count hc _ => .stranded count hc
  diagnostic := by rintro - ⟨⟩
  engine := by
    intro e he hc
    cases e <;> simp_all [engineEvent, counterEvent]
  responseHook := by rintro - ⟨⟩
  loggingHook := by rintro - ⟨⟩
  flag := by rintro - ⟨⟩
  append := by rintro - ⟨⟩
  discard := by rintro - ⟨⟩
  check := fun outcome ho _ => .check outcome ho
  requestHook := by rintro - ⟨⟩
  header := by rintro - - ⟨⟩
  body := by rintro - - ⟨⟩

/-- Whatever the request, the engine, the inner hooks and the transport do, a run only
touches the series of the catalog, under the configured name. -/
theorem login_counters_cataloged (r : Request S) :
    OnlyCataloged (r.proxy.metricsName.getD "") r.events := by
  have hall := permits_cataloged (S := S) (r.proxy.metricsName.getD "")
  intro e he
  rcases List.mem_append.mp he with he | he
  · exact emits_requestFilter hall _ e he
  · exact emits_trace (fun c _ => emits_perform hall.toPermitsLater c) _ e he

end LoginEmissions
