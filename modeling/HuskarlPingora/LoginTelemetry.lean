import Mathlib.Algebra.GroupWithZero.Nat
import Mathlib.Data.List.TakeWhile
import HuskarlPingora.CookieConservation

/-! # Login telemetry is a ledger

Counters and diagnostics are read off the events of a run, and compared with what the
same events call for: each engine call that returned, in the phase it returned in, and
each cookie `logging` discarded. -/
namespace LoginTelemetry

open HttpModel RouteResolution LoginContext LoginAdapter LoginEffects LoginGate SessionLedger
open LoginAccess LoginLifecycle SessionObligations CookieConservation TracedHooks

variable {S : Type}

/-- What a telemetry event enters, and what an event of a phase calls for. -/
structure Reading (S β : Type) where
  entered : Event S → List β
  due : LoginPhase → Event S → List β

variable {β : Type}

def Balanced (R : Reading S β) (phase : LoginPhase) (es : List (Event S)) : Prop :=
  es.flatMap R.entered = es.flatMap (R.due phase)

/-- Events of no interest to any reading. The counter of a claim is read by its own rules. -/
def isPlain : Event S → Bool
  | .counter metric _ _ => decide (metric = finalizationMetric)
  | .operationCounter _ _ _ _ | .strandedCounter _ _ | .diagnostic _ => false
  | .loaded _ | .committed _ | .terminated _ | .discard _ => false
  | _ => true

/-- A reading balances when each report balances with what it reports. -/
structure Reads (proxy : LoginProxy S) (R : Reading S β) : Prop where
  plain : ∀ e, isPlain e = true → R.entered e = [] ∧ ∀ phase, R.due phase e = []
  committed : ∀ phase result,
    Balanced R phase (.committed result :: observed proxy .persist phase result)
  terminated : ∀ phase (result : Termination),
    Balanced R phase (.terminated result :: observed proxy .revoke phase result.revocation)
  stranded : ∀ cookies, Balanced R .logging (strandedEvents proxy cookies)

structure GateReads (proxy : LoginProxy S) (R : Reading S β) : Prop extends Reads proxy R where
  loaded : ∀ result,
    Balanced R .denied (.loaded result :: observed proxy .load .request result)
  decided : ∀ outcome, Balanced R .denied [decisionEvent proxy outcome]

theorem Balanced.append {R : Reading S β} {phase : LoginPhase} {es es' : List (Event S)}
    (h : Balanced R phase es) (h' : Balanced R phase es') : Balanced R phase (es ++ es') := by
  unfold Balanced at h h' ⊢
  rw [List.flatMap_append, List.flatMap_append, h, h']

theorem balanced_nil {R : Reading S β} {phase : LoginPhase} {es : List (Event S)}
    (h : ∀ e ∈ es, R.entered e = [] ∧ R.due phase e = []) : Balanced R phase es := by
  have hentered : es.flatMap R.entered = [] :=
    List.flatMap_eq_nil_iff.mpr fun e he => (h e he).1
  have hdue : es.flatMap (R.due phase) = [] :=
    List.flatMap_eq_nil_iff.mpr fun e he => (h e he).2
  exact hentered.trans hdue.symm

section Hooks

variable {self : LoginProxy S} {R : Reading S β} {phase : LoginPhase}

theorem balanced_plain (hr : Reads self R) {es : List (Event S)} (h : es.all isPlain = true) :
    Balanced R phase es := by
  refine balanced_nil ?_
  intro e he
  obtain ⟨hentered, hdue⟩ := hr.plain e (List.all_eq_true.mp h e he)
  exact ⟨hentered, hdue phase⟩

theorem plain_duty (o : Obligation S) : (duty o).all isPlain = true := by
  rcases o with _ | ⟨session, headers, _ | pending⟩ | ⟨pending, headers⟩ <;> rfl

theorem plain_cookies (cookies : SetCookies) :
    (cookies.map .appendSetCookie : List (Event S)).all isPlain = true := by
  induction cookies with
  | nil => rfl
  | cons c cs ih => simp [isPlain]

theorem plain_terminateWrites (effect : InnerEffect) :
    (terminateWrites effect : List (Event S)).all isPlain = true := by
  unfold terminateWrites
  cases effect.terminateRequested <;> rfl

theorem plain_finalization (self : LoginProxy S) (phase : LoginPhase) :
    isPlain (finalizationEvent self phase) = true := by
  simp [isPlain, finalizationEvent, finalizationMetric]

theorem balanced_returned (hr : Reads self R) {o : Obligation S} {exit : Exit Error Unit}
    {back : List (Event S)} {cookies : SetCookies}
    (h : Returned self phase o exit back cookies) : Balanced R phase back := by
  cases h with
  | nothing | terminateDropped | commitDropped => rfl
  | terminated => exact hr.terminated phase _
  | committed => exact hr.committed phase _
  | failed => exact hr.committed phase _

theorem balanced_claimRun (hr : Reads self R) (w : World S) :
    Balanced R .response (claimRun self w).events := by
  obtain ⟨exit, back, cookies, hreturned, hrun⟩ := claimRun_cases self w
  have hclaim : (finalizationEvent self .response :: w.ctx.setCookies.map .appendSetCookie ++
      duty (obligation w.ctx)).all isPlain = true := by
    rw [List.all_append, List.all_cons, plain_finalization, plain_cookies, plain_duty]
    rfl
  rw [hrun]
  exact (balanced_plain hr hclaim).append
    ((balanced_returned hr hreturned).append (balanced_plain hr (plain_cookies cookies)))

theorem balanced_drainRun (hr : Reads self R) (w : World S) :
    Balanced R .logging (drainRun self w).events := by
  obtain ⟨exit, back, cookies, out, hreturned, hout, -, -, hrun⟩ := drainRun_cases self w
  have hclaim : [finalizationEvent self .logging].all isPlain = true := by
    simp [plain_finalization]
  have hreport : Balanced R .logging out := by
    cases hout with
    | none => rfl
    | some cookies => exact hr.stranded cookies
  rw [hrun]
  have hlead := (balanced_plain hr hclaim).append (hr.stranded w.ctx.setCookies)
  exact (hlead.append (balanced_plain hr (plain_duty _))).append
    ((balanced_returned hr hreturned).append hreport)

theorem balanced_finalizeResponse (hr : Reads self R) (w : World S) :
    Balanced R .response ((finalizeResponse self).run w).events := by
  by_cases hskip : w.response.status.isInterim = true ∨ w.ctx.finalized = true
  · rw [finalizeResponse_skips self w hskip]
    rfl
  · rw [not_or, Bool.not_eq_true, Bool.not_eq_true] at hskip
    rw [finalizeResponse_claims self w hskip.1 hskip.2]
    exact balanced_claimRun hr w

theorem balanced_responseFilter (hr : Reads self R) (w : World S) :
    Balanced R .response ((responseFilter self).run w).events := by
  have henter : (Event.innerResponseFilter w.ctx ::
      terminateWrites self.inner.responseFilter.1).all isPlain = true := by
    rw [List.all_cons, plain_terminateWrites]
    rfl
  rw [run_responseFilter, after_events]
  refine (balanced_plain hr henter).append ?_
  unfold filteredRun
  cases self.inner.responseFilter.2.2 with
  | dropped => rfl
  | ready result =>
    cases result with
    | error e => rfl
    | ok u => exact balanced_finalizeResponse hr _

theorem balanced_innerLogging (hr : Reads self R) (w : World S) :
    Balanced R .logging ((innerLogging self).run w).events := by
  have henter : (Event.innerLogging w.ctx :: terminateWrites self.inner.logging.1).all isPlain =
      true := by
    rw [List.all_cons, plain_terminateWrites]
    rfl
  rw [run_innerLogging, after_events]
  refine (balanced_plain hr henter).append ?_
  cases self.inner.logging.2 <;> rfl

theorem balanced_logging (hr : Reads self R) (w : World S) :
    Balanced R .logging ((logging self).run w).events := by
  cases hf : w.ctx.finalized with
  | true =>
    rw [logging_finalized self w hf]
    exact balanced_innerLogging hr w
  | false =>
    rw [logging_claims self w hf]
    have hdrain := balanced_drainRun hr w
    unfold Ran.andThen
    cases (drainRun self w).exit with
    | done u => exact hdrain.append (balanced_innerLogging hr _)
    | failed e => exact hdrain
    | cancelled => exact hdrain

theorem plain_written (header : ResponseHeader) (endOfStream : Bool) {tail : List (Event S)}
    (ht : ∀ e ∈ tail, ∃ body eos, e = .writeResponseBody body eos) :
    (.writeResponseHeader header endOfStream :: tail).all isPlain = true := by
  rw [List.all_cons, List.all_eq_true.mpr]
  · rfl
  · intro e he
    obtain ⟨body, eos, rfl⟩ := ht e he
    rfl

theorem balanced_delivery (hr : Reads self R) {response : LoginResponse} {w : World S}
    {r : Ran Error (World S) (Event S) Bool} (h : Delivery self response w r) :
    Balanced R .response r.events := by
  have hfilter := balanced_responseFilter hr { w with response := localHeader response }
  cases h with
  | rejected hrun =>
    rw [hrun] at hfilter
    exact hfilter
  | dropped hrun =>
    rw [hrun] at hfilter
    exact hfilter
  | written hrun hsent =>
    rw [hrun] at hfilter
    obtain ⟨tail, hevents, htail⟩ := hsent.tail
    rw [after_events, hevents]
    exact hfilter.append (balanced_plain hr (plain_written _ _ htail))

theorem balanced_forwardRequest (hr : Reads self R) (w : World S) :
    Balanced R .response ((forwardRequest self).run w).events := by
  have henter : (Event.innerRequestFilter w.ctx ::
      terminateWrites self.inner.requestFilter.1).all isPlain = true := by
    rw [List.all_cons, plain_terminateWrites]
    rfl
  have hcases := forwardedRun_cases self (self.inner.requestFilter.1.apply w)
  rw [run_forwardRequest, after_events]
  refine (balanced_plain hr henter).append ?_
  generalize forwardedRun self (self.inner.requestFilter.1.apply w) = r at hcases
  cases hcases with
  | dropped | failed | unqueued | misused => rfl
  | delivered _ _ _ hdelivery => exact balanced_delivery hr hdelivery

end Hooks

def Call.phase : Call S → LoginPhase
  | .logging _ _ => .logging
  | _ => .response

theorem balanced_perform {self : LoginProxy S} {R : Reading S β} (hr : Reads self R) (c : Call S)
    (w : World S) : Balanced R (Call.phase c) ((perform self c).run w).events := by
  cases c with
  | responseFilter inner engine header =>
    have hr' : Reads { self with inner := inner, engine := engine } R :=
      ⟨hr.plain, hr.committed, hr.terminated, hr.stranded⟩
    exact balanced_responseFilter hr' { w with response := header }
  | logging inner engine =>
    have hr' : Reads { self with inner := inner, engine := engine } R :=
      ⟨hr.plain, hr.committed, hr.terminated, hr.stranded⟩
    exact balanced_logging hr' w
  | innerWrite effect =>
    rw [perform, run_innerEffect]
    exact balanced_plain hr (plain_terminateWrites effect)

def isEntry : Event S → Bool
  | .innerRequestFilter _ => true
  | _ => false

/-- Before the inner `request_filter` the gate saves for a denial only. -/
def gateDue (R : Reading S β) (es : List (Event S)) : List β :=
  (es.takeWhile fun e => !isEntry e).flatMap (R.due .denied) ++
    (es.dropWhile fun e => !isEntry e).flatMap (R.due .response)

def callsDue (R : Reading S β) (self : LoginProxy S) : List (Call S) → World S → List β
  | [], _ => []
  | c :: cs, w => ((perform self c).run w).events.flatMap (R.due (Call.phase c)) ++
      callsDue R self cs ((perform self c).run w).state

def runDue (R : Reading S β) (r : Request S) : List β :=
  gateDue R r.gate.events ++ callsDue R r.proxy r.calls r.gate.state

section Gate

variable {self : LoginProxy S} {R : Reading S β} {req : RequestHeader}

theorem balanced_loadEvents (hr : GateReads self R)
    (result : Except SessionError (LoadedSession S)) :
    Balanced R .denied (loadEvents self req result) := by
  have hcalls : Balanced R .denied [.tryHandleLoginRoute, .loadSession req.headers] :=
    balanced_plain hr.toReads rfl
  exact hcalls.append (hr.loaded result)

theorem balanced_forwards (hr : GateReads self R) {st st' : LoginState S} {pre : List (Event S)}
    (h : Forwards self req st pre st') : Balanced R .denied pre := by
  have hroute : Balanced R .denied [.tryHandleLoginRoute] := balanced_plain hr.toReads rfl
  cases h with
  | preflight => exact hr.decided _
  | pub => exact hroute.append (hr.decided _)
  | anonymous => exact (balanced_loadEvents hr _).append (hr.decided _)
  | authenticated => exact (balanced_loadEvents hr _).append (hr.decided _)

theorem balanced_answers (hr : GateReads self R) {pre : List (Event S)} {resp : LoginResponse}
    {cookies : SetCookies} (h : Answers self req pre resp cookies) : Balanced R .denied pre := by
  have hroute : Balanced R .denied [.tryHandleLoginRoute] := balanced_plain hr.toReads rfl
  cases h with
  | preflightDenied => exact hr.decided _
  | loginRoute | routeDenied => exact hroute.append (hr.decided _)
  | loadFailed | refreshUnavailable | forbidden =>
    exact (balanced_loadEvents hr _).append (hr.decided _)
  | unauthenticated =>
    have hredirect : Balanced R .denied [.redirectToLogin] := balanced_plain hr.toReads rfl
    exact (balanced_loadEvents hr _).append ((hr.decided _).append hredirect)
  | forbiddenPersisted required check pending msg result =>
    have hcall : Balanced R .denied [.commit pending req.headers] := balanced_plain hr.toReads rfl
    exact (balanced_loadEvents hr _).append
      ((hr.decided _).append (hcall.append (hr.committed .denied result)))

theorem balanced_drops (hr : GateReads self R) {pre : List (Event S)} (h : Drops self req pre) :
    Balanced R .denied pre := by
  cases h with
  | loginRoute | load => exact balanced_plain hr.toReads rfl
  | redirect =>
    have hredirect : Balanced R .denied [.redirectToLogin] := balanced_plain hr.toReads rfl
    exact (balanced_loadEvents hr _).append ((hr.decided _).append hredirect)
  | persist required check pending =>
    have hcall : Balanced R .denied [.commit pending req.headers] := balanced_plain hr.toReads rfl
    exact (balanced_loadEvents hr _).append ((hr.decided _).append hcall)

theorem not_entry {es : List (Event S)} (h : enteredWith es = []) :
    ∀ e ∈ es, (!isEntry e) = true := by
  intro e he
  cases e with
  | innerRequestFilter st =>
    have hmem : st ∈ enteredWith es := mem_enteredWith.mp he
    rw [h] at hmem
    cases hmem
  | _ => rfl

theorem gateDue_answered {pre : List (Event S)} (hpre : enteredWith pre = [])
    (hb : Balanced R .denied pre) : pre.flatMap R.entered = gateDue R pre := by
  have hall := not_entry hpre
  rw [gateDue, List.takeWhile_eq_self_iff.mpr hall, List.dropWhile_eq_nil_iff.mpr hall,
    List.flatMap_nil, List.append_nil]
  exact hb

theorem gateDue_forwarded {pre rest : List (Event S)} {st : LoginState S}
    (hpre : enteredWith pre = []) (hb : Balanced R .denied pre)
    (hrest : Balanced R .response (.innerRequestFilter st :: rest)) :
    (pre ++ .innerRequestFilter st :: rest).flatMap R.entered =
      gateDue R (pre ++ .innerRequestFilter st :: rest) := by
  have hall := not_entry hpre
  have hentry : (!isEntry (.innerRequestFilter st : Event S)) = false := rfl
  unfold gateDue
  rw [List.takeWhile_append_of_pos hall, List.dropWhile_append_of_pos hall,
    List.takeWhile_cons_of_neg (by simp [hentry]), List.dropWhile_cons_of_neg (by simp [hentry]),
    List.append_nil, List.flatMap_append, hb, hrest]

end Gate

/-- The gate does all of its events before the inner hook, or enters that hook after them. -/
theorem gate_reads {r : Request S} {R : Reading S β} (hr : GateReads r.proxy R) :
    r.gate.events.flatMap R.entered = gateDue R r.gate.events := by
  have hrun := requestFilter_cases r.proxy (.incoming r.session r.response)
  unfold Request.gate
  generalize (requestFilter r.proxy).run (.incoming r.session r.response) = g at hrun
  cases hrun with
  | @forward pre st hf =>
    let w : World S := { (.incoming r.session r.response : World S) with ctx := st }
    have hforwarded := balanced_forwardRequest hr.toReads w
    obtain ⟨rest, hevents, -⟩ := path_forwardRequest r.proxy w
    unfold forwardRun
    rw [hevents] at hforwarded
    rw [after_events, hevents]
    exact gateDue_forwarded (prelude_forwards hf).entered (balanced_forwards hr hf) hforwarded
  | @answer pre resp cookies ha =>
    obtain ⟨eos, tail, hevents, htail, -⟩ :=
      answerRun_spec (.incoming r.session r.response) pre resp cookies
    have hwritten := plain_written (loginHeader resp cookies) eos htail
    rw [hevents]
    refine gateDue_answered ?_ ((balanced_answers hr ha).append
      ((balanced_plain hr.toReads (plain_cookies cookies)).append
        (balanced_plain hr.toReads hwritten)))
    rw [(calls_append _ _).1, (prelude_answers ha).entered,
      (calls_written _ eos cookies htail).1, List.append_nil]
  | @drop pre hd =>
    exact gateDue_answered (prelude_drops hd).entered (balanced_drops hr hd)

theorem calls_read {self : LoginProxy S} {R : Reading S β} (hr : Reads self R)
    (calls : List (Call S)) (w : World S) :
    (trace (perform self) calls w).flatMap R.entered = callsDue R self calls w := by
  induction calls generalizing w with
  | nil => rfl
  | cons c cs ih =>
    have hc : ((perform self c).run w).events.flatMap R.entered =
        ((perform self c).run w).events.flatMap (R.due (Call.phase c)) := balanced_perform hr c w
    rw [trace_cons, List.flatMap_append, hc, ih, callsDue]

theorem run_reads {r : Request S} {R : Reading S β} (hr : GateReads r.proxy R) :
    r.events.flatMap R.entered = runDue R r := by
  have hcalls := calls_read hr.toReads r.calls r.gate.state
  rw [Request.events, List.flatMap_append, gate_reads hr, runDue, ← hcalls]
  rfl

/-- Calls of the engine that returned, with the phase they returned in. -/
def returned (phase : LoginPhase) : Event S → List (SessionOperation × LoginPhase × Bool)
  | .loaded result => [(.load, .request, result.isOk)]
  | .committed result => [(.persist, phase, result.isOk)]
  | .terminated result => [(.revoke, phase, result.revocation.isOk)]
  | _ => []

def failure {α : Type} (operation : SessionOperation) (phase : LoginPhase) :
    Except SessionError α → List LoginDiagnostic
  | .ok _ => []
  | .error error => [.sessionFailure operation phase error]

def trouble (phase : LoginPhase) : Event S → List LoginDiagnostic
  | .loaded result => failure .load .request result
  | .committed result => failure .persist phase result
  | .terminated result => failure .revoke phase result.revocation
  | .discard cookies => if cookies.isEmpty then [] else [.strandedCookies cookies.length]
  | _ => []

def operationReading : Reading S (SessionOperation × LoginPhase × Bool) where
  entered
    | .operationCounter operation phase success _ => [(operation, phase, success)]
    | _ => []
  due := returned

def diagnosticReading (diagnostics : Bool) : Reading S LoginDiagnostic where
  entered
    | .diagnostic detail => [detail]
    | _ => []
  due phase e := if diagnostics then trouble phase e else []

def strandedReading : Reading S ℕ where
  entered
    | .strandedCounter count _ => [count]
    | _ => []
  due _
    | .discard cookies => if cookies.isEmpty then [] else [cookies.length]
    | _ => []

def spillReading : Reading S HeaderValue where
  entered _ := []
  due
    | .logging, _ => []
    | _, e => discarded e

def checkMetric : String := "huskarl.pingora.login.check"

def decided : Event S → List String
  | .counter metric outcome _ => if metric = checkMetric then [outcome] else []
  | _ => []

/-- Decisions are made in the gate, so after it no event calls for one. -/
def decisionReading : Reading S String where
  entered := decided
  due _ _ := []

theorem plain_books {e : Event S} (h : isPlain e = true) (phase : LoginPhase) :
    operationReading.entered e = [] ∧ operationReading.due phase e = [] ∧
      (∀ d, (diagnosticReading d).entered e = [] ∧ (diagnosticReading d).due phase e = []) ∧
      strandedReading.entered e = [] ∧ strandedReading.due phase e = [] ∧ decided e = [] := by
  cases e with
  | counter metric outcome name =>
    have hmetric : metric = finalizationMetric := by simpa [isPlain] using h
    have hne : metric ≠ checkMetric := by
      rw [hmetric]
      decide
    refine ⟨rfl, rfl, fun d => ⟨rfl, ?_⟩, rfl, rfl, if_neg hne⟩
    cases d <;> rfl
  | operationCounter | strandedCounter | diagnostic => cases h
  | loaded | committed | terminated | discard => cases h
  | _ => exact ⟨rfl, rfl, fun d => ⟨rfl, by cases d <;> rfl⟩, rfl, rfl, rfl⟩

section Instances

variable {self : LoginProxy S} {R : Reading S β}

/-- A reading that reports every returned operation in one way. -/
structure Reports (proxy : LoginProxy S) (R : Reading S β)
    (report : {α : Type} → SessionOperation → LoginPhase → Except SessionError α → List β) :
    Prop where
  entered : ∀ {α : Type} operation phase (result : Except SessionError α),
    (observed proxy operation phase result).flatMap R.entered = report operation phase result
  settled : ∀ {α : Type} operation phase phase' (result : Except SessionError α),
    (observed proxy operation phase result).flatMap (R.due phase') = []
  loaded : ∀ result, R.entered (.loaded result) = [] ∧
    R.due .denied (.loaded result) = report .load .request result
  committed : ∀ phase result, R.entered (.committed result) = [] ∧
    R.due phase (.committed result) = report .persist phase result
  terminated : ∀ phase result, R.entered (.terminated result) = [] ∧
    R.due phase (.terminated result) = report .revoke phase result.revocation

theorem gateReads_of {report : {α : Type} → SessionOperation → LoginPhase →
      Except SessionError α → List β} (h : Reports self R report)
    (hplain : ∀ e, isPlain e = true → R.entered e = [] ∧ ∀ phase, R.due phase e = [])
    (hstranded : ∀ cookies, Balanced R .logging (strandedEvents self cookies))
    (hdecided : ∀ outcome, Balanced R .denied [decisionEvent self outcome]) :
    GateReads self R := by
  refine ⟨⟨hplain, ?_, ?_, hstranded⟩, ?_, hdecided⟩
  · intro phase result
    obtain ⟨hentered, hdue⟩ := h.committed phase result
    simp [Balanced, h.entered, h.settled, hentered, hdue]
  · intro phase result
    obtain ⟨hentered, hdue⟩ := h.terminated phase result
    simp [Balanced, h.entered, h.settled, hentered, hdue]
  · intro result
    obtain ⟨hentered, hdue⟩ := h.loaded result
    simp [Balanced, h.entered, h.settled, hentered, hdue]

theorem reads_operations (self : LoginProxy S) : GateReads self operationReading := by
  have hreports : Reports self operationReading
      fun operation phase result => [(operation, phase, result.isOk)] := by
    refine ⟨?_, ?_, fun _ => ⟨rfl, rfl⟩, fun _ _ => ⟨rfl, rfl⟩, fun _ _ => ⟨rfl, rfl⟩⟩
    · intro α operation phase result
      cases result with
      | ok a => rfl
      | error e => by_cases hd : self.diagnostics <;> simp [observed, hd, operationReading]
    · intro α operation phase phase' result
      exact List.flatMap_eq_nil_iff.mpr (forall_mem_observed (fun _ _ => rfl) fun _ => rfl)
  refine gateReads_of hreports ?_ ?_ (fun _ => rfl)
  · intro e he
    exact ⟨(plain_books he .response).1, fun phase => (plain_books he phase).2.1⟩
  · intro cookies
    exact balanced_nil
      (forall_mem_stranded (fun _ _ => ⟨rfl, rfl⟩) (fun _ => ⟨rfl, rfl⟩) ⟨rfl, rfl⟩)

theorem reads_diagnostics (self : LoginProxy S) :
    GateReads self (diagnosticReading self.diagnostics) := by
  have hreports : Reports self (diagnosticReading self.diagnostics)
      fun operation phase result =>
        if self.diagnostics then failure operation phase result else [] := by
    refine ⟨?_, ?_, fun _ => ⟨rfl, rfl⟩, fun _ _ => ⟨rfl, rfl⟩, fun _ _ => ⟨rfl, rfl⟩⟩
    · intro α operation phase result
      cases result with
      | ok a => simp [observed, diagnosticReading, failure]
      | error e =>
        by_cases hd : self.diagnostics <;> simp [observed, hd, diagnosticReading, failure]
    · intro α operation phase phase' result
      refine List.flatMap_eq_nil_iff.mpr (forall_mem_observed ?_ ?_)
      · intro success name
        exact ite_self []
      · intro detail
        exact ite_self []
  refine gateReads_of hreports ?_ ?_ ?_
  · intro e he
    exact ⟨((plain_books he .response).2.2.1 _).1, fun phase => ((plain_books he phase).2.2.1 _).2⟩
  · intro cookies
    cases cookies <;> by_cases hd : self.diagnostics <;>
      simp [Balanced, strandedEvents, hd, diagnosticReading, trouble]
  · intro outcome
    simp [Balanced, decisionEvent, diagnosticReading, trouble]

theorem reads_stranded (self : LoginProxy S) : GateReads self strandedReading := by
  have hreports : Reports self strandedReading fun _ _ _ => [] := by
    refine ⟨?_, ?_, fun _ => ⟨rfl, rfl⟩, fun _ _ => ⟨rfl, rfl⟩, fun _ _ => ⟨rfl, rfl⟩⟩
    · intro α operation phase result
      exact List.flatMap_eq_nil_iff.mpr (forall_mem_observed (fun _ _ => rfl) fun _ => rfl)
    · intro α operation phase phase' result
      exact List.flatMap_eq_nil_iff.mpr (forall_mem_observed (fun _ _ => rfl) fun _ => rfl)
  refine gateReads_of hreports ?_ ?_ (fun _ => rfl)
  · intro e he
    obtain ⟨-, -, -, hentered, -⟩ := plain_books he .response
    exact ⟨hentered, fun phase => (plain_books he phase).2.2.2.2.1⟩
  · intro cookies
    cases cookies <;> by_cases hd : self.diagnostics <;>
      simp [Balanced, strandedEvents, hd, strandedReading]

theorem discarded_observed {α : Type} (operation : SessionOperation) (phase : LoginPhase)
    (result : Except SessionError α) : discardedBy (observed self operation phase result) = [] :=
  (quiet_silent (silent_observed self operation phase result)).discarded

theorem discarded_plain {e : Event S} (h : isPlain e = true) : discarded e = [] := by
  cases e with
  | discard => cases h
  | _ => rfl

theorem reads_spills (self : LoginProxy S) : GateReads self spillReading := by
  have hnone : ∀ {phase : LoginPhase} {es : List (Event S)}, discardedBy es = [] →
      Balanced spillReading phase es := by
    intro phase es hes
    have hdue : es.flatMap (spillReading.due phase) = [] := by
      cases phase with
      | logging => exact List.flatMap_eq_nil_iff.mpr fun _ _ => rfl
      | _ => exact hes
    exact (List.flatMap_eq_nil_iff.mpr fun _ _ => rfl : _ = []).trans hdue.symm
  refine ⟨⟨?_, ?_, ?_, ?_⟩, ?_, ?_⟩
  · intro e he
    refine ⟨rfl, fun phase => ?_⟩
    cases phase with
    | logging => rfl
    | _ => exact discarded_plain he
  · intro phase result
    exact hnone (discarded_observed .persist phase result)
  · intro phase result
    exact hnone (discarded_observed .revoke phase result.revocation)
  · intro cookies
    exact (List.flatMap_eq_nil_iff.mpr fun _ _ => rfl : _ = []).trans
      (List.flatMap_eq_nil_iff.mpr fun _ _ => rfl).symm
  · intro result
    exact hnone (discarded_observed .load .request result)
  · intro outcome
    exact hnone rfl

theorem decided_observed {α : Type} (operation : SessionOperation) (phase : LoginPhase)
    (result : Except SessionError α) :
    (observed self operation phase result).flatMap decided = [] :=
  List.flatMap_eq_nil_iff.mpr (forall_mem_observed (fun _ _ => rfl) fun _ => rfl)

theorem reads_decisions (self : LoginProxy S) : Reads self decisionReading := by
  refine ⟨fun e he => ⟨(plain_books he .response).2.2.2.2.2, fun _ => rfl⟩, ?_, ?_, ?_⟩
  · intro phase result
    simp [Balanced, decisionReading, decided_observed, decided]
  · intro phase result
    simp [Balanced, decisionReading, decided_observed, decided]
  · intro cookies
    exact balanced_nil
      (forall_mem_stranded (fun _ _ => ⟨rfl, rfl⟩) (fun _ => ⟨rfl, rfl⟩) ⟨rfl, rfl⟩)

end Instances

theorem callsDue_flat {R : Reading S β} {f : Event S → List β} (h : ∀ phase, R.due phase = f)
    (self : LoginProxy S) (calls : List (Call S)) (w : World S) :
    callsDue R self calls w = (trace (perform self) calls w).flatMap f := by
  induction calls generalizing w with
  | nil => rfl
  | cons c cs ih => rw [callsDue, ih, h, trace_cons, List.flatMap_append]

theorem runDue_flat {R : Reading S β} {f : Event S → List β} (h : ∀ phase, R.due phase = f)
    (r : Request S) : runDue R r = r.events.flatMap f := by
  rw [runDue, gateDue, h, h, ← List.flatMap_append, List.takeWhile_append_dropWhile,
    callsDue_flat h, Request.events, List.flatMap_append]
  rfl

def decisionsBy (es : List (Event S)) : List String := es.flatMap decided

@[simp] theorem decisionsBy_append (es es' : List (Event S)) :
    decisionsBy (es ++ es') = decisionsBy es ++ decisionsBy es' := List.flatMap_append ..

def forwardLabels : List String := ["preflight", "public", "anonymous", "authenticated"]

theorem routeDenial_refuses (reason : ResolveError) : routeDenial reason ∉ forwardLabels := by
  unfold routeDenial
  cases reason.kind <;> decide

section Labels

variable {self : LoginProxy S} {req : RequestHeader}

theorem decisionsBy_loadEvents (result : Except SessionError (LoadedSession S)) :
    decisionsBy (loadEvents self req result) = [] := by
  have hobserved : (observed self .load .request result).flatMap decided = [] :=
    decided_observed _ _ _
  simpa [decisionsBy, loadEvents, decided] using hobserved

theorem forwards_label {st st' : LoginState S} {pre : List (Event S)}
    (h : Forwards self req st pre st') : ∃ label ∈ forwardLabels, decisionsBy pre = [label] := by
  cases h with
  | preflight => exact ⟨"preflight", by decide, rfl⟩
  | pub => exact ⟨"public", by decide, rfl⟩
  | anonymous =>
    refine ⟨"anonymous", by decide, ?_⟩
    rw [decisionsBy_append, decisionsBy_loadEvents]
    rfl
  | authenticated =>
    refine ⟨"authenticated", by decide, ?_⟩
    rw [decisionsBy_append, decisionsBy_loadEvents]
    rfl

theorem answers_label {pre : List (Event S)} {resp : LoginResponse} {cookies : SetCookies}
    (h : Answers self req pre resp cookies) :
    ∃ label, label ∉ forwardLabels ∧ decisionsBy pre = [label] := by
  cases h with
  | preflightDenied reason => exact ⟨_, routeDenial_refuses reason, rfl⟩
  | routeDenied reason => exact ⟨_, routeDenial_refuses reason, rfl⟩
  | loginRoute => exact ⟨"login_route", by decide, rfl⟩
  | loadFailed =>
    refine ⟨"server_error", by decide, ?_⟩
    rw [decisionsBy_append, decisionsBy_loadEvents]
    rfl
  | refreshUnavailable =>
    refine ⟨"refresh_unavailable", by decide, ?_⟩
    rw [decisionsBy_append, decisionsBy_loadEvents]
    rfl
  | unauthenticated =>
    refine ⟨"unauthenticated", by decide, ?_⟩
    rw [decisionsBy_append, decisionsBy_loadEvents]
    rfl
  | forbidden =>
    refine ⟨"forbidden", by decide, ?_⟩
    rw [decisionsBy_append, decisionsBy_loadEvents]
    rfl
  | forbiddenPersisted required check pending msg result =>
    have hobserved : (observed self .persist .denied result).flatMap decided = [] :=
      decided_observed _ _ _
    refine ⟨"forbidden", by decide, ?_⟩
    rw [decisionsBy_append, decisionsBy_loadEvents]
    simpa [decisionsBy, decided, decisionEvent, checkMetric] using hobserved

/-- A gate that was dropped before it decided was waiting for the engine. -/
inductive Undecided (headers : HeaderMap) : List (Event S) → Prop where
  | route : Undecided headers [.tryHandleLoginRoute]
  | load : Undecided headers [.tryHandleLoginRoute, .loadSession headers]

theorem drops_label {pre : List (Event S)} (h : Drops self req pre) :
    (decisionsBy pre = [] ∧ Undecided req.headers pre) ∨
      ∃ label, label ∉ forwardLabels ∧ decisionsBy pre = [label] := by
  cases h with
  | loginRoute => exact .inl ⟨rfl, .route⟩
  | load => exact .inl ⟨rfl, .load⟩
  | redirect =>
    refine .inr ⟨"unauthenticated", by decide, ?_⟩
    rw [decisionsBy_append, decisionsBy_loadEvents]
    rfl
  | persist =>
    refine .inr ⟨"forbidden", by decide, ?_⟩
    rw [decisionsBy_append, decisionsBy_loadEvents]
    rfl

end Labels

theorem unread_decisions {es : List (Event S)} {phase : LoginPhase}
    (h : Balanced decisionReading phase es) : decisionsBy es = [] := by
  refine Eq.trans h ?_
  rw [List.flatMap_eq_nil_iff]
  exact fun _ _ => rfl

/-- One decision for each gate that was not dropped before it, with a forwarding label
exactly when the inner hook is entered. -/
inductive Decision (r : Request S) : Prop where
  | pending : decisionsBy r.gate.events = [] → Undecided r.headers r.gate.events →
      r.gate.exit = .cancelled → ¬ r.Entered → Decision r
  | made {label} : decisionsBy r.gate.events = [label] → (label ∈ forwardLabels ↔ r.Entered) →
      Decision r

theorem not_entered {r : Request S} (h : enteredWith r.gate.events = []) : ¬ r.Entered := by
  rintro ⟨st, hst⟩
  have hmem := mem_enteredWith.mp hst
  rw [h] at hmem
  cases hmem

theorem gate_decision (r : Request S) : Decision r := by
  have hrun : GateRun r.proxy (.incoming r.session r.response) r.gate :=
    requestFilter_cases r.proxy (.incoming r.session r.response)
  generalize hg : r.gate = g at hrun
  cases hrun with
  | @forward pre st hf =>
    let w : World S := { (.incoming r.session r.response : World S) with ctx := st }
    have hforwarded := balanced_forwardRequest (reads_decisions r.proxy) w
    obtain ⟨rest, hevents, -⟩ := path_forwardRequest r.proxy w
    obtain ⟨label, hlabel, hpre⟩ := forwards_label hf
    have hgate : r.gate.events = pre ++ ((forwardRequest r.proxy).run w).events := by
      rw [hg]
      rfl
    have hmade : decisionsBy r.gate.events = [label] := by
      rw [hgate, decisionsBy_append, hpre, unread_decisions hforwarded, List.append_nil]
    refine .made hmade (iff_of_true hlabel ⟨st, ?_⟩)
    rw [hgate, hevents]
    simp [w]
  | @answer pre resp cookies ha =>
    obtain ⟨eos, tail, hevents, htail, -⟩ :=
      answerRun_spec (.incoming r.session r.response) pre resp cookies
    obtain ⟨label, hlabel, hpre⟩ := answers_label ha
    rw [← hg] at hevents
    have hplain : (cookies.map Event.appendSetCookie ++
        Event.writeResponseHeader (loginHeader resp cookies) eos :: tail).all isPlain = true := by
      rw [List.all_append, plain_cookies, plain_written _ _ htail]
      rfl
    have hwritten : Balanced decisionReading .denied _ :=
      balanced_plain (reads_decisions r.proxy) hplain
    have hmade : decisionsBy r.gate.events = [label] := by
      rw [hevents, decisionsBy_append, hpre, unread_decisions hwritten, List.append_nil]
    refine .made hmade (iff_of_false hlabel (not_entered ?_))
    rw [hevents, (calls_append _ _).1, (prelude_answers ha).entered,
      (calls_written _ eos cookies htail).1, List.append_nil]
  | @drop pre hd =>
    have hevents : r.gate.events = pre := by rw [hg]
    have hno : ¬ r.Entered := not_entered (by rw [hevents, (prelude_drops hd).entered])
    rcases drops_label hd with ⟨hnone, hundecided⟩ | ⟨label, hlabel, hpre⟩
    · exact .pending (by rw [hevents, hnone]) (hevents ▸ hundecided) (by rw [hg]) hno
    · have hmade : decisionsBy r.gate.events = [label] := by rw [hevents, hpre]
      exact .made hmade (iff_of_false hlabel hno)

def claimedBy (es : List (Event S)) : List String :=
  es.flatMap fun
    | .counter metric outcome _ => if metric = finalizationMetric then [outcome] else []
    | _ => []

@[simp] theorem claimedBy_nil : claimedBy ([] : List (Event S)) = [] := rfl
@[simp] theorem claimedBy_append (es es' : List (Event S)) :
    claimedBy (es ++ es') = claimedBy es ++ claimedBy es' := List.flatMap_append ..

theorem claimedBy_unclaimed {es : List (Event S)} (h : ∀ e ∈ es, isClaim e = false) :
    claimedBy es = [] := by
  unfold claimedBy
  rw [List.flatMap_eq_nil_iff]
  intro e he
  cases e with
  | counter metric outcome name =>
    have hmetric : metric ≠ finalizationMetric := by simpa [isClaim] using h _ he
    exact if_neg hmetric
  | _ => rfl

theorem claimedBy_finalization (self : LoginProxy S) (phase : LoginPhase) (es : List (Event S)) :
    claimedBy (finalizationEvent self phase :: es) = phase.asStr :: claimedBy es := by
  simp [claimedBy, finalizationEvent, finalizationMetric]

theorem unclaimed_duty (o : Obligation S) : ∀ e ∈ duty o, isClaim e = false := by
  rcases o with _ | ⟨session, headers, _ | pending⟩ | ⟨pending, headers⟩ <;>
    simp [duty, abandonEvents, isClaim]

theorem unclaimed_outlet {out : List (Event S)} {cookies : SetCookies} (h : Outlet out cookies) :
    ∀ e ∈ out, isClaim e = false :=
  fun e he => (h.outgoing e he).claim

theorem unclaimed_returned {self : LoginProxy S} {phase : LoginPhase} {o : Obligation S}
    {exit : Exit Error Unit} {back : List (Event S)} {cookies : SetCookies}
    (h : Returned self phase o exit back cookies) : claimedBy back = [] := by
  have hback : ∀ {α : Type} operation (result : Except SessionError α) (e : Event S),
      isClaim e = false → claimedBy (e :: observed self operation phase result) = [] := by
    intro α operation result e he
    refine claimedBy_unclaimed fun e' he' => ?_
    rcases List.mem_cons.mp he' with rfl | he'
    · exact he
    · exact (silent_observed self operation phase result e' he').claim
  cases h with
  | nothing | terminateDropped | commitDropped => rfl
  | terminated => exact hback _ _ _ rfl
  | committed => exact hback _ _ _ rfl
  | failed => exact hback _ _ _ rfl

theorem unclaimed_of_flag {flag : Bool} {es : List (Event S)} (h : flagAtClaim flag es = none) :
    ∀ e ∈ es, isClaim e = false := by
  induction es generalizing flag with
  | nil => simp
  | cons e es ih =>
    cases hc : isClaim e with
    | true => simp [flagAtClaim, hc] at h
    | false =>
      intro e' he'
      rcases List.mem_cons.mp he' with rfl | he'
      · exact hc
      · exact ih (by simpa [flagAtClaim, hc] using h) e' he'

/-- A hook counts a claim exactly when it takes one. -/
inductive Claiming (phase : LoginPhase) (st st' : LoginState S) (es : List (Event S)) :
    Bool → Prop where
  | none : claimedBy es = [] → st'.finalized = st.finalized → Claiming phase st st' es false
  | taken : st.finalized = false → st'.finalized = true → claimedBy es = [phase.asStr] →
      Claiming phase st st' es true

section Hooks

variable {self : LoginProxy S} {phase : LoginPhase} {st st' : LoginState S} {es : List (Event S)}
  {b : Bool}

theorem Claiming.before (h : Claiming phase st st' es b) {pre : List (Event S)}
    (hpre : claimedBy pre = []) : Claiming phase st st' (pre ++ es) b := by
  cases h with
  | none hes hst => exact .none (by rw [claimedBy_append, hpre, hes, List.append_nil]) hst
  | taken hst hst' hes => exact .taken hst hst' (by rw [claimedBy_append, hpre, hes]; rfl)

theorem Claiming.after {st'' : LoginState S} (h : Claiming phase st st' es b)
    {later : List (Event S)} (hlater : claimedBy later = [])
    (hst : st''.finalized = st'.finalized) : Claiming phase st st'' (es ++ later) b := by
  cases h with
  | none hes hst' =>
    exact .none (by rw [claimedBy_append, hes, hlater, List.append_nil]) (hst.trans hst')
  | taken hst' hst'' hes =>
    exact .taken hst' (hst.trans hst'') (by rw [claimedBy_append, hes, hlater, List.append_nil])

theorem claiming_claimRun (self : LoginProxy S) (w : World S) (hf : w.ctx.finalized = false) :
    Claiming .response w.ctx (claimRun self w).state.ctx (claimRun self w).events true := by
  obtain ⟨exit, back, cookies, hreturned, hrun⟩ := claimRun_cases self w
  rw [hrun]
  refine .taken hf rfl ?_
  rw [List.cons_append, List.cons_append, claimedBy_finalization, claimedBy_append,
    claimedBy_append, claimedBy_append, unclaimed_returned hreturned,
    claimedBy_unclaimed (unclaimed_duty _),
    claimedBy_unclaimed (unclaimed_outlet (outlet_appended _)),
    claimedBy_unclaimed (unclaimed_outlet (outlet_appended cookies))]
  rfl

theorem claiming_drainRun (self : LoginProxy S) (w : World S) (hf : w.ctx.finalized = false) :
    Claiming .logging w.ctx (drainRun self w).state.ctx (drainRun self w).events true := by
  obtain ⟨exit, back, cookies, out, hreturned, hout, -, -, hrun⟩ := drainRun_cases self w
  have hreport : claimedBy out = [] := by
    cases hout with
    | none => rfl
    | some cookies => exact claimedBy_unclaimed (unclaimed_outlet (outlet_stranded self cookies))
  have hdrained : (drained w.ctx).finalized = true := by
    unfold drained
    cases w.ctx.session <;> rfl
  rw [hrun]
  refine .taken hf hdrained ?_
  rw [List.cons_append, List.cons_append, claimedBy_finalization, claimedBy_append,
    claimedBy_append, claimedBy_append, unclaimed_returned hreturned, hreport,
    claimedBy_unclaimed (unclaimed_duty _),
    claimedBy_unclaimed (unclaimed_outlet (outlet_stranded self _))]
  rfl

theorem claimedBy_terminateWrites (effect : InnerEffect) :
    claimedBy (terminateWrites effect : List (Event S)) = [] := by
  unfold terminateWrites
  cases effect.terminateRequested <;> rfl

def filterClaims (self : LoginProxy S) (w : World S) : Bool :=
  !w.ctx.finalized && decide (self.inner.responseFilter.2.2 = .ready (.ok ())) &&
    !(self.inner.responseFilter.2.1 w.response).status.isInterim

theorem claiming_responseFilter (self : LoginProxy S) (w : World S) :
    Claiming .response w.ctx ((responseFilter self).run w).state.ctx
      ((responseFilter self).run w).events (filterClaims self w) := by
  have hkept : (innerFiltered self w).ctx.finalized = w.ctx.finalized :=
    apply_finalized self.inner.responseFilter.1 w
  have hpre : claimedBy (Event.innerResponseFilter w.ctx ::
      terminateWrites self.inner.responseFilter.1) = [] := claimedBy_terminateWrites _
  rw [run_responseFilter, after_events, after_state]
  refine Claiming.before ?_ hpre
  by_cases hin : self.inner.responseFilter.2.2 = .ready (.ok ())
  · have hrun : filteredRun self w = (finalizeResponse self).run (innerFiltered self w) := by
      simp only [filteredRun, hin]
    rw [hrun]
    by_cases hskip : (innerFiltered self w).response.status.isInterim = true ∨
        (innerFiltered self w).ctx.finalized = true
    · have hnone : filterClaims self w = false := by
        rcases hskip with hinterim | hfinalized
        · have hstatus : (self.inner.responseFilter.2.1 w.response).status.isInterim = true :=
            hinterim
          simp [filterClaims, hstatus]
        · simp [filterClaims, hkept.symm.trans hfinalized]
      rw [finalizeResponse_skips self _ hskip, hnone]
      exact .none rfl hkept
    · rw [not_or, Bool.not_eq_true, Bool.not_eq_true] at hskip
      have hstatus : (self.inner.responseFilter.2.1 w.response).status.isInterim = false := hskip.1
      have hsome : filterClaims self w = true := by
        simp [filterClaims, hstatus, hin, hkept.symm.trans hskip.2]
      rw [finalizeResponse_claims self _ hskip.1 hskip.2, hsome]
      cases claiming_claimRun self (innerFiltered self w) hskip.2 with
      | taken hst hst' hes => exact .taken (hkept.symm.trans hst) hst' hes
  · have hnone : filterClaims self w = false := by simp [filterClaims, hin]
    have hrun : (filteredRun self w).events = [] ∧
        (filteredRun self w).state = innerFiltered self w := by
      unfold filteredRun
      cases hresult : self.inner.responseFilter.2.2 with
      | dropped => exact ⟨rfl, rfl⟩
      | ready result =>
        cases result with
        | error e => exact ⟨rfl, rfl⟩
        | ok u => exact absurd hresult hin
    rw [hnone, hrun.1, hrun.2]
    exact .none rfl hkept

theorem innerLogging_unclaimed (self : LoginProxy S) (w : World S) :
    claimedBy ((innerLogging self).run w).events = [] ∧
      ((innerLogging self).run w).state.ctx.finalized = w.ctx.finalized := by
  have hkept := apply_finalized self.inner.logging.1 w
  have hpre : claimedBy (Event.innerLogging w.ctx :: terminateWrites self.inner.logging.1) = [] :=
    claimedBy_terminateWrites _
  rw [run_innerLogging, after_events, after_state, claimedBy_append, hpre]
  cases self.inner.logging.2 with
  | dropped => exact ⟨rfl, hkept⟩
  | ready u => exact ⟨rfl, hkept⟩

theorem claiming_logging (self : LoginProxy S) (w : World S) :
    Claiming .logging w.ctx ((logging self).run w).state.ctx ((logging self).run w).events
      (!w.ctx.finalized) := by
  cases hf : w.ctx.finalized with
  | true =>
    obtain ⟨hnone, hkept⟩ := innerLogging_unclaimed self w
    rw [logging_finalized self w hf]
    exact .none hnone hkept
  | false =>
    have hdrain := claiming_drainRun self w hf
    rw [logging_claims self w hf]
    unfold Ran.andThen
    cases (drainRun self w).exit with
    | done u =>
      obtain ⟨hnone, hkept⟩ := innerLogging_unclaimed self (drainRun self w).state
      exact hdrain.after hnone hkept
    | failed e => exact hdrain
    | cancelled => exact hdrain

def claims (self : LoginProxy S) (w : World S) : Call S → Bool
  | .responseFilter inner engine header =>
    filterClaims { self with inner := inner, engine := engine } { w with response := header }
  | .logging _ _ => !w.ctx.finalized
  | .innerWrite _ => false

theorem claiming_perform (self : LoginProxy S) (c : Call S) (w : World S) :
    Claiming (Call.phase c) w.ctx ((perform self c).run w).state.ctx
      ((perform self c).run w).events (claims self w c) := by
  cases c with
  | responseFilter inner engine header =>
    exact claiming_responseFilter { self with inner := inner, engine := engine }
      { w with response := header }
  | logging inner engine => exact claiming_logging { self with inner := inner, engine := engine } w
  | innerWrite effect =>
    rw [perform, run_innerEffect]
    exact .none (claimedBy_terminateWrites effect) (apply_finalized effect w)

theorem claiming_forwardRequest (self : LoginProxy S) (w : World S) : ∃ b,
    Claiming .response w.ctx ((forwardRequest self).run w).state.ctx
      ((forwardRequest self).run w).events b := by
  have hkept := apply_finalized self.inner.requestFilter.1 w
  have hpre : claimedBy (Event.innerRequestFilter w.ctx ::
      terminateWrites self.inner.requestFilter.1) = [] := claimedBy_terminateWrites _
  have hcases := forwardedRun_cases self (self.inner.requestFilter.1.apply w)
  rw [run_forwardRequest, after_events, after_state]
  generalize forwardedRun self (self.inner.requestFilter.1.apply w) = r at hcases
  cases hcases with
  | dropped | failed | unqueued | misused =>
    refine ⟨false, Claiming.before (.none rfl ?_) hpre⟩
    exact hkept
  | @delivered response _ _ _ _ hdelivery =>
    have hfilter := claiming_responseFilter self
      { taken (self.inner.requestFilter.1.apply w) with response := localHeader response }
    generalize filterClaims self
      { taken (self.inner.requestFilter.1.apply w) with response := localHeader response } = b
      at hfilter
    have hstart : ∀ {st' : LoginState S} {es : List (Event S)},
        Claiming .response (taken (self.inner.requestFilter.1.apply w)).ctx st' es b →
          Claiming .response w.ctx st' es b := by
      intro st' es h
      cases h with
      | none hes hst => exact .none hes (hst.trans hkept)
      | taken hst hst' hes => exact .taken (hkept.symm.trans hst) hst' hes
    refine ⟨b, Claiming.before ?_ hpre⟩
    cases hdelivery with
    | rejected hrun | dropped hrun =>
      rw [hrun] at hfilter
      exact hstart hfilter
    | @written w' _ _ hrun hsent =>
      rw [hrun] at hfilter
      obtain ⟨tail, hevents, htail⟩ := hsent.tail
      have hwritten :
          claimedBy (.writeResponseHeader w'.response (!sendsBody response w') :: tail) = [] :=
        claimedBy_unclaimed fun e he => (silent_writes _ _ htail e he).claim
      rw [after_events, after_state, hsent.ctx, hevents]
      exact (hstart hfilter).after hwritten rfl

end Hooks

theorem forwards_open {self : LoginProxy S} {req : RequestHeader} {st st' : LoginState S}
    {pre : List (Event S)} (h : Forwards self req st pre st') (hf : st.finalized = false) :
    st'.finalized = false := by
  cases h with
  | preflight | pub => exact hf
  | anonymous | authenticated => rfl

/-- The gate claims only where it delivers a queued response. -/
theorem claiming_gate (r : Request S) : ∃ b,
    Claiming .response .fresh r.gate.state.ctx r.gate.events b := by
  have hrun : GateRun r.proxy (.incoming r.session r.response) r.gate :=
    requestFilter_cases r.proxy (.incoming r.session r.response)
  generalize r.gate = g at hrun
  cases hrun with
  | @forward pre st hf =>
    have hopen : Opening r.headers pre st := forwards_opening hf
    have hst := forwards_open hf rfl
    let w : World S := { (.incoming r.session r.response : World S) with ctx := st }
    obtain ⟨b, hclaiming⟩ := claiming_forwardRequest r.proxy w
    have hpre : claimedBy pre = [] := by
      have hclaim := hopen.quiet.claim false
      exact claimedBy_unclaimed fun e he => (unclaimed_of_flag hclaim) e he
    refine ⟨b, Claiming.before ?_ hpre⟩
    cases hclaiming with
    | none hes hst' => exact .none hes (hst'.trans hst)
    | taken hst' hst'' hes => exact .taken rfl hst'' hes
  | @answer pre resp cookies ha =>
    obtain ⟨eos, tail, hevents, htail, hctx⟩ :=
      answerRun_spec (.incoming r.session r.response) pre resp cookies
    have hrefusal :=
      refusal_written (answers_refusal ha) (loginHeader resp cookies) eos cookies htail
    refine ⟨false, .none ?_ ?_⟩
    · rw [hevents]
      exact claimedBy_unclaimed (unclaimed_of_flag hrefusal.claim)
    · rw [hctx]
      rfl
  | @drop pre hd =>
    have hrefusal := drops_refusal hd
    exact ⟨false, .none (claimedBy_unclaimed (unclaimed_of_flag hrefusal.claim)) rfl⟩

def operationsBy (es : List (Event S)) : List (SessionOperation × LoginPhase × Bool) :=
  es.flatMap operationReading.entered

def diagnosticsBy (es : List (Event S)) : List LoginDiagnostic :=
  es.flatMap fun
    | .diagnostic detail => [detail]
    | _ => []

def strandedBy (es : List (Event S)) : List ℕ := es.flatMap strandedReading.entered

/-- What the counters and diagnostics of a request say, and what they say it of. -/
structure TelemetryLedger (r : Request S) : Prop where
  decision : Decision r
  settled : ∀ before later, decisionsBy (r.eventsAfter before later) = []
  /-- One increment for each engine call that returned, in its phase and with its outcome. -/
  operations : operationsBy r.events = runDue operationReading r
  gate_claim : claimedBy r.gate.events =
    if r.gate.state.ctx.finalized then [LoginPhase.response.asStr] else []
  /-- A call counts a claim when it is the first final header or the log of the context. -/
  claim : ∀ before c, claimedBy (r.eventsAfter before [c]) =
    if claims r.proxy (r.after before) c then [(Call.phase c).asStr] else []
  claimed : ∀ before c, (r.after (before ++ [c])).ctx.finalized =
    ((r.after before).ctx.finalized || claims r.proxy (r.after before) c)
  once : (claimedBy r.events).length = if (r.after r.calls).ctx.finalized then 1 else 0
  stranded : (strandedBy r.events).sum = (discardedBy r.events).length
  /-- Only `logging` discards cookies. -/
  gate_keeps : discardedBy r.gate.events = []
  keeps : ∀ before c, Call.phase c ≠ .logging → discardedBy (r.eventsAfter before [c]) = []
  diagnostics : diagnosticsBy r.events = if r.proxy.diagnostics then
    runDue (diagnosticReading true) r else []

theorem settled_calls (r : Request S) (before later : List (Call S)) :
    decisionsBy (r.eventsAfter before later) = [] := by
  have hread := calls_read (reads_decisions r.proxy) later (r.after before)
  rw [callsDue_flat fun _ => rfl, List.flatMap_eq_nil_iff.mpr fun _ _ => rfl] at hread
  exact hread

theorem claimed_calls (self : LoginProxy S) (calls : List (Call S)) (w : World S) :
    (if w.ctx.finalized then 1 else 0) + (claimedBy (trace (perform self) calls w)).length =
      if (final (perform self) calls w).ctx.finalized then 1 else 0 := by
  induction calls generalizing w with
  | nil => rfl
  | cons c cs ih =>
    have hrest := ih ((perform self c).run w).state
    have hcall := claiming_perform self c w
    generalize claims self w c = b at hcall
    rw [trace_cons, claimedBy_append, List.length_append]
    cases hcall with
    | none hes hst =>
      rw [hst] at hrest
      rw [hes, List.length_nil, Nat.zero_add]
      exact hrest
    | taken hst hst' hes =>
      rw [hst'] at hrest
      rw [hst, hes]
      refine Eq.trans ?_ hrest
      simp

theorem gate_claimed (r : Request S) : claimedBy r.gate.events =
    if r.gate.state.ctx.finalized then [LoginPhase.response.asStr] else [] := by
  obtain ⟨b, hclaiming⟩ := claiming_gate r
  cases hclaiming with
  | none hes hst =>
    have hopen : r.gate.state.ctx.finalized = false := hst
    simp [hes, hopen]
  | taken _ hst hes => simp [hes, hst]

theorem sum_stranded (es : List (Event S)) :
    (es.flatMap (strandedReading.due .logging)).sum = (discardedBy es).length := by
  induction es with
  | nil => rfl
  | cons e es ih =>
    rw [List.flatMap_cons, List.sum_append, ih, discardedBy_cons, List.length_append]
    congr 1
    cases e with
    | discard cookies => cases cookies <;> rfl
    | _ => rfl

theorem unspilled {phase : LoginPhase} {es : List (Event S)} (hp : phase ≠ .logging)
    (h : Balanced spillReading phase es) : discardedBy es = [] := by
  have hnone : es.flatMap (spillReading (S := S)).entered = [] :=
    List.flatMap_eq_nil_iff.mpr fun _ _ => rfl
  cases phase with
  | logging => exact absurd rfl hp
  | _ => exact h.symm.trans hnone

theorem gate_keeps (r : Request S) : discardedBy r.gate.events = [] := by
  have hread := gate_reads (reads_spills r.proxy)
  have hnone : r.gate.events.flatMap (spillReading (S := S)).entered = [] :=
    List.flatMap_eq_nil_iff.mpr fun _ _ => rfl
  rw [hnone, gateDue] at hread
  have hsplit := List.takeWhile_append_dropWhile (p := fun e => !isEntry e) (l := r.gate.events)
  rw [← hsplit, discardedBy_append]
  exact hread.symm

end LoginTelemetry
