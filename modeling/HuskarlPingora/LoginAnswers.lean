import HuskarlPingora.AnswerWrites
import HuskarlPingora.LoginEmissions

/-! # What the login adapter tells the proxy

Pingora goes on with a request when its filter returns `Ok(false)`, and takes `Ok(true)`
to mean that the response was sent. The login adapter keeps that contract, with the
response of an inner filter, a queued one or one of its own. -/
namespace LoginAnswers

open HttpModel RouteResolution LoginRules LoginContext LoginAdapter LoginEffects LoginLifecycle
open EngineProtocol LoginEmissions AnswerWrites TracedHooks EventMonitors

variable {S : Type}

def loginPart (self : LoginProxy S) : Event S → Option Part
  | .innerRequestFilter _ => some (.entry (answerOf self.inner.requestFilter.2))
  | .writeResponseHeader _ last => some (.head last)
  | .writeResponseBody _ last => some (.body last)
  | _ => none

def loginOutlet (self : LoginProxy S) : Outlet Error (World S) (Event S) where
  part := loginPart self
  head w := w.session.writeHeader
  body w := w.session.writeBody

variable {self : LoginProxy S}

theorem permits_silent (self : LoginProxy S) (name : String) :
    PermitsLater name fun e : Event S => loginPart self e = none where
  finalization _ _ := rfl
  operation _ _ _ _ := rfl
  stranded _ _ := rfl
  diagnostic _ := rfl
  engine := by
    intro e he
    cases e <;> first | rfl | cases he
  responseHook _ := rfl
  loggingHook _ := rfl
  flag _ := rfl
  append _ := rfl
  discard _ := rfl

abbrev LoginStep (self : LoginProxy S) : Monitor Progress (Event S) := AnswerStep (loginPart self)

theorem triple_writeResponseHeader (header : ResponseHeader) (last : Bool) :
    Triple (LoginStep self) (fun _ g => g.Open) (writeResponseHeader header last)
      (fun _ s g => g = (if last then .closed false else .begun) ∧
        g.Taken (loginOutlet self) s) (Halted (loginOutlet self)) := by
  have hhead : (loginOutlet self).part (.writeResponseHeader header last) = some (.head last) := rfl
  exact triple_head hhead (markWritten header) fun _ => rfl

theorem triple_writeResponseBody (body : Bytes) :
    Triple (LoginStep self) (fun s g => g = .begun ∧ g.Taken (loginOutlet self) s)
      (writeResponseBody body true) (fun _ => Whole (loginOutlet self))
      (Halted (loginOutlet self)) := by
  have hlast : (loginOutlet self).part (.writeResponseBody body true) = some (.body true) := rfl
  rw [writeResponseBody_eq]
  exact triple_last hlast

theorem triple_writeLoginResponse (resp : LoginResponse) (cookies : SetCookies) :
    Triple (LoginStep self) (fun _ g => g = .untouched) (writeLoginResponse resp cookies)
      (fun _ => Whole (loginOutlet self)) (Halted (loginOutlet self)) := by
  have hcookies : Silent (loginOutlet self) (appendExtraCookies
      (appendHeaders (.build resp.status) resp.headers) cookies : LoginHook S ResponseHeader) :=
    emits_appendExtraCookies (fun _ => rfl) _ cookies
  refine hcookies.untouched.bind fun header => triple_read fun w => ?_
  refine (triple_answer (triple_writeResponseHeader _ _) (triple_writeResponseBody _)).pre ?_
  rintro _ g ⟨-, rfl⟩
  trivial

theorem answers_response (resp : LoginResponse) (cookies : SetCookies) :
    Answers (loginOutlet self) (· = .untouched)
      (writeLoginResponse resp cookies >>= fun _ => pure true : LoginHook S Bool) :=
  answers_done (triple_writeLoginResponse resp cookies)

theorem triple_innerRequestFilter (self : LoginProxy S) :
    Triple (LoginStep self) (fun _ g => g = .untouched) (innerRequestFilter self)
      (fun handled _ g => g = .passedOn (some handled)) (Halted (loginOutlet self)) := by
  refine triple_read fun w => Triple.pre ?_ fun _ _ h => h.2
  have hrest : Silent (loginOutlet self) (innerEffect self.inner.requestFilter.1) :=
    emits_innerEffect (permits_silent self "") _
  exact triple_entered (o := loginOutlet self) rfl hrest

/-- A queued response is written after the inner filter declined the request. Without one
the answer of the inner filter stands. -/
theorem answers_forwardRequest (self : LoginProxy S) :
    Answers (loginOutlet self) (· = .untouched) (forwardRequest self) := by
  refine (triple_innerRequestFilter self).bind fun handled => triple_read fun w => ?_
  refine Triple.pre ?_ fun _ _ h => h.2
  cases w.ctx.response with
  | none =>
    refine triple_pure handled ?_
    rintro _ g rfl
    exact returned_said handled
  | some response =>
    have hctx : ∀ f, Silent (loginOutlet self) (updateCtx f : LoginHook S Unit) :=
      emits_updateCtx
    have hheader : ∀ f, Silent (loginOutlet self) (updateResponse f : LoginHook S Unit) :=
      emits_updateResponse
    have hfilter : Silent (loginOutlet self) (responseFilter self) :=
      emits_responseFilter (permits_silent self _)
    refine (hctx _).passedOn.bind fun _ => ?_
    dsimp only
    split
    · refine triple_fail _ ?_
      rintro _ g rfl
      exact .inl trivial
    rename_i hqueued
    obtain rfl : handled = false := by
      simp only [Bool.or_eq_true, not_or, Bool.not_eq_true] at hqueued
      exact hqueued.1
    refine (hheader _).passedOn.bind fun _ => hfilter.passedOn.bind fun _ => triple_read fun w => ?_
    refine (answers_whole (triple_writeResponseHeader _ _) (triple_writeResponseBody _)).pre ?_
    rintro _ g ⟨-, rfl⟩
    rfl

theorem silent_decision (self : LoginProxy S) (outcome : String) :
    Silent (loginOutlet self) (decision self outcome) :=
  emits_decision rfl

theorem answers_servePathConfusion (self : LoginProxy S) (reason : ResolveError) :
    Answers (loginOutlet self) (· = .untouched) (servePathConfusion self reason) :=
  (silent_decision self _).untouched.bind fun _ => answers_response _ _

theorem answers_forwarded (self : LoginProxy S) (outcome : String)
    (f : LoginState S → LoginState S) : Answers (loginOutlet self) (· = .untouched) (do
      decision self outcome
      updateCtx f
      forwardRequest self) :=
  (silent_decision self outcome).untouched.bind fun _ =>
    Triple.bind (Silent.untouched (emits_updateCtx f)) fun _ => answers_forwardRequest self

theorem answers_serveForbidden (self : LoginProxy S) (headers : HeaderMap) (msg : String)
    (pending : Option (PendingPersist S)) (setCookies : SetCookies) :
    Answers (loginOutlet self) (· = .untouched)
      (serveForbidden self headers msg pending setCookies) := by
  refine (silent_decision self _).untouched.bind fun _ => ?_
  cases pending with
  | none => exact answers_response _ _
  | some pending =>
    refine Triple.bind (Silent.untouched (emits_commit (permits_silent self _) _ _))
      fun persisted => ?_
    refine Triple.bind (Silent.untouched (emits_observeOperation (permits_silent self _)
      (.persist (by decide)) persisted)) fun _ => ?_
    cases persisted with
    | ok more => exact answers_response _ _
    | error e => exact answers_response _ _

theorem answers_serveWithoutSession (self : LoginProxy S) (headers : HeaderMap) (uri : Uri)
    (required : Bool) (setCookies : SetCookies) : Answers (loginOutlet self) (· = .untouched)
      (serveWithoutSession self headers uri required setCookies) := by
  cases required with
  | true =>
    refine (silent_decision self _).untouched.bind fun _ => ?_
    refine Triple.bind (Silent.untouched (emits_emit rfl)) fun _ => ?_
    exact Triple.bind (Silent.untouched (emits_await _))
      fun resp => answers_response resp setCookies
  | false => exact answers_forwarded self _ _

theorem answers_serveWithSession (self : LoginProxy S) (headers : HeaderMap)
    (check : Option (CheckFn S)) (sess : S) (pending : Option (PendingPersist S))
    (setCookies : SetCookies) : Answers (loginOutlet self) (· = .untouched)
      (serveWithSession self headers check sess pending setCookies) := by
  unfold serveWithSession
  split
  · exact answers_serveForbidden self _ _ _ _
  · exact answers_forwarded self _ _

theorem answers_requestFilterLoaded (self : LoginProxy S) (headers : HeaderMap) (uri : Uri)
    (required : Bool) (check : Option (CheckFn S)) : Answers (loginOutlet self) (· = .untouched)
      (requestFilterLoaded self headers uri required check) := by
  refine Triple.bind (Silent.untouched (emits_loadSession (permits_silent self _) headers))
    fun loaded => ?_
  refine Triple.bind
    (Silent.untouched (emits_observeOperation (permits_silent self _) .load loaded)) fun _ => ?_
  have hrefused : ∀ outcome resp cookies, Answers (loginOutlet self) (· = .untouched) (do
      decision self outcome
      writeLoginResponse resp cookies
      return true) := fun outcome resp cookies =>
    (silent_decision self outcome).untouched.bind fun _ => answers_response resp cookies
  cases loaded with
  | error e => exact hrefused _ _ _
  | ok loaded =>
    cases loaded with
    | missing | cleared clears => exact answers_serveWithoutSession self _ _ _ _
    | active sess cookies | activePending pending =>
      exact answers_serveWithSession self _ _ _ _ _
    | refreshUnavailable => exact hrefused _ _ _

theorem answers_requestFilter (self : LoginProxy S) :
    Answers (loginOutlet self) (· = .untouched) (requestFilter self) := by
  have hplain : ∀ outcome, Answers (loginOutlet self) (· = .untouched) (do
      decision self outcome
      forwardRequest self) := fun outcome =>
    (silent_decision self outcome).untouched.bind fun _ => answers_forwardRequest self
  refine triple_read fun w => Triple.pre ?_ fun _ _ h => h.2
  dsimp only
  split
  · split
    · exact answers_servePathConfusion self _
    · exact hplain _
  refine Triple.bind (Silent.untouched (emits_emit rfl)) fun _ => ?_
  refine Triple.bind (Silent.untouched (emits_await _)) fun claim => ?_
  cases claim with
  | some resp => exact (silent_decision self _).untouched.bind fun _ => answers_response resp []
  | none =>
    dsimp only
    split
    · exact answers_servePathConfusion self _
    · exact hplain _
    · exact answers_requestFilterLoaded self _ _ _ _
    · exact answers_requestFilterLoaded self _ _ _ _

structure KeepsContract (r : Request S) : Prop where
  gate : ∃ g, Reads (LoginStep r.proxy) .untouched r.gate.events g ∧
    Concludes (loginOutlet r.proxy) Returned r.gate.exit r.gate.state g
  later : ∀ e ∈ r.eventsAfter [] r.calls, loginPart r.proxy e = none

/-- In every run the gate begins at most one response and enters the inner filter at most
once. It returns what the inner filter said, or `true` after a response that was taken
whole. A run that ends otherwise has written nothing, or the transport refused a part. -/
theorem login_filter_contract (r : Request S) : KeepsContract r where
  gate := (answers_requestFilter r.proxy).run _
  later := emits_trace (fun c _ => emits_perform (permits_silent r.proxy _) c) _

end LoginAnswers
