import HuskarlPingora.LoginGate

/-! # The session ledger

What the events of a request add up to: session work, termination requests, cookies
the engine produced, cookies that left on a header or were discarded, and the
contexts shown to inner hooks. The shared context changes only by the atomic moves
below, and every hook of the adapter is a path of them. -/
namespace SessionLedger

open HttpModel LoginContext LoginAdapter LoginEffects LoginGate TracedHooks

variable {S : Type}

def isWork : Event S → Bool
  | .commit _ _ | .abandon _ | .terminateSession _ _ => true
  | _ => false

def finalizationMetric : String := "huskarl.pingora.login.finalization"

/-- The counter of a claim is emitted by the hook that takes it and by no other. -/
def isClaim : Event S → Bool
  | .counter metric _ _ => decide (metric = finalizationMetric)
  | _ => false

def isGate : Event S → Bool
  | .tryHandleLoginRoute | .loadSession _ | .redirectToLogin | .innerRequestFilter _ => true
  | _ => false

def produced : Event S → SetCookies
  | .loaded (.ok loaded) => LoadedSession.setCookies loaded
  | .committed (.ok cookies) => cookies
  | .terminated result => result.clears
  | _ => []

def appended : Event S → SetCookies
  | .appendSetCookie cookie => [cookie]
  | _ => []

def discarded : Event S → SetCookies
  | .discard cookies => cookies
  | _ => []

def loads : Event S → List (LoadedSession S)
  | .loaded (.ok loaded) => [loaded]
  | _ => []

def seen : Event S → List (LoginState S)
  | .innerRequestFilter st | .innerResponseFilter st | .innerLogging st => [st]
  | _ => []

def flagStep (flag : Bool) : Event S → Bool
  | .setTerminateRequested value => value
  | _ => flag

def workOf (es : List (Event S)) : List (Event S) := es.filter isWork
def producedBy (es : List (Event S)) : SetCookies := es.flatMap produced
def appendedBy (es : List (Event S)) : SetCookies := es.flatMap appended
def discardedBy (es : List (Event S)) : SetCookies := es.flatMap discarded
def loadsBy (es : List (Event S)) : List (LoadedSession S) := es.flatMap loads
def seenBy (es : List (Event S)) : List (LoginState S) := es.flatMap seen

def flagAfter (flag : Bool) (es : List (Event S)) : Bool := es.foldl flagStep flag

def flagAtClaim (flag : Bool) : List (Event S) → Option Bool
  | [] => none
  | e :: es => if isClaim e then some flag else flagAtClaim (flagStep flag e) es

@[simp] theorem workOf_nil : workOf ([] : List (Event S)) = [] := rfl
@[simp] theorem producedBy_nil : producedBy ([] : List (Event S)) = [] := rfl
@[simp] theorem appendedBy_nil : appendedBy ([] : List (Event S)) = [] := rfl
@[simp] theorem discardedBy_nil : discardedBy ([] : List (Event S)) = [] := rfl
@[simp] theorem loadsBy_nil : loadsBy ([] : List (Event S)) = [] := rfl
@[simp] theorem seenBy_nil : seenBy ([] : List (Event S)) = [] := rfl

@[simp] theorem workOf_cons (e : Event S) (es : List (Event S)) :
    workOf (e :: es) = (if isWork e then [e] else []) ++ workOf es := by
  by_cases h : isWork e <;> simp [workOf, h]
@[simp] theorem producedBy_cons (e : Event S) (es : List (Event S)) :
    producedBy (e :: es) = produced e ++ producedBy es := rfl
@[simp] theorem appendedBy_cons (e : Event S) (es : List (Event S)) :
    appendedBy (e :: es) = appended e ++ appendedBy es := rfl
@[simp] theorem discardedBy_cons (e : Event S) (es : List (Event S)) :
    discardedBy (e :: es) = discarded e ++ discardedBy es := rfl
@[simp] theorem loadsBy_cons (e : Event S) (es : List (Event S)) :
    loadsBy (e :: es) = loads e ++ loadsBy es := rfl
@[simp] theorem seenBy_cons (e : Event S) (es : List (Event S)) :
    seenBy (e :: es) = seen e ++ seenBy es := rfl

@[simp] theorem workOf_append (es es' : List (Event S)) :
    workOf (es ++ es') = workOf es ++ workOf es' := List.filter_append ..
@[simp] theorem producedBy_append (es es' : List (Event S)) :
    producedBy (es ++ es') = producedBy es ++ producedBy es' := List.flatMap_append ..
@[simp] theorem appendedBy_append (es es' : List (Event S)) :
    appendedBy (es ++ es') = appendedBy es ++ appendedBy es' := List.flatMap_append ..
@[simp] theorem discardedBy_append (es es' : List (Event S)) :
    discardedBy (es ++ es') = discardedBy es ++ discardedBy es' := List.flatMap_append ..
@[simp] theorem loadsBy_append (es es' : List (Event S)) :
    loadsBy (es ++ es') = loadsBy es ++ loadsBy es' := List.flatMap_append ..
@[simp] theorem seenBy_append (es es' : List (Event S)) :
    seenBy (es ++ es') = seenBy es ++ seenBy es' := List.flatMap_append ..
@[simp] theorem flagAfter_append (flag : Bool) (es es' : List (Event S)) :
    flagAfter flag (es ++ es') = flagAfter (flagAfter flag es) es' := List.foldl_append ..

theorem flagAtClaim_append (flag : Bool) (es es' : List (Event S)) :
    flagAtClaim flag (es ++ es') =
      (flagAtClaim flag es).or (flagAtClaim (flagAfter flag es) es') := by
  induction es generalizing flag with
  | nil => simp [flagAtClaim, flagAfter]
  | cons e es ih =>
    by_cases he : isClaim e
    · simp [flagAtClaim, he]
    · simp [flagAtClaim, he, ih, flagAfter]

/-- An event the books ignore, except that it may carry a cookie out. -/
structure Outgoing (e : Event S) : Prop where
  work : isWork e = false
  claim : isClaim e = false
  gate : isGate e = false
  produced : produced e = []
  loads : loads e = []
  seen : seen e = []
  flag : ∀ flag, flagStep flag e = flag

structure Silent (e : Event S) : Prop extends Outgoing e where
  appended : appended e = []
  discarded : discarded e = []

/-- The way out of a list of cookies, on a header or into the stranded report. -/
structure Outlet (out : List (Event S)) (cookies : SetCookies) : Prop where
  outgoing : ∀ e ∈ out, Outgoing e
  exits : appendedBy out ++ discardedBy out = cookies

private theorem flatMap_empty {α : Type} {f : Event S → List α} {out : List (Event S)}
    (h : ∀ e ∈ out, f e = []) : out.flatMap f = [] := by
  rw [List.flatMap_eq_nil_iff]
  exact h

theorem outgoing_flag {out : List (Event S)} (h : ∀ e ∈ out, Outgoing e) (flag : Bool) :
    flagAtClaim flag out = none ∧ flagAfter flag out = flag := by
  induction out with
  | nil => exact ⟨rfl, rfl⟩
  | cons e out ih =>
    have he := h e (by simp)
    obtain ⟨hnone, hflag⟩ := ih fun e' he' => h e' (by simp [he'])
    exact ⟨by simp [flagAtClaim, he.claim, he.flag, hnone],
      by simpa [flagAfter, he.flag] using hflag⟩

namespace Outlet

variable {out out' : List (Event S)} {cookies cookies' : SetCookies}

theorem work (h : Outlet out cookies) : workOf out = [] := by
  rw [workOf, List.filter_eq_nil_iff]
  exact fun e he => by simp [(h.outgoing e he).work]

theorem produced (h : Outlet out cookies) : producedBy out = [] :=
  flatMap_empty fun e he => (h.outgoing e he).produced

theorem loads (h : Outlet out cookies) : loadsBy out = [] :=
  flatMap_empty fun e he => (h.outgoing e he).loads

theorem seen (h : Outlet out cookies) : seenBy out = [] :=
  flatMap_empty fun e he => (h.outgoing e he).seen

theorem append_silent (h : Outlet out cookies) (hs : ∀ e ∈ out', Silent e) :
    Outlet (out' ++ out) cookies where
  outgoing := by
    intro e he
    rcases List.mem_append.mp he with he | he
    · exact (hs e he).toOutgoing
    · exact h.outgoing e he
  exits := by
    have happ : appendedBy out' = [] := flatMap_empty fun e he => (hs e he).appended
    have hdis : discardedBy out' = [] := flatMap_empty fun e he => (hs e he).discarded
    simpa [happ, hdis] using h.exits

end Outlet

theorem outlet_appended (cookies : SetCookies) :
    Outlet (cookies.map Event.appendSetCookie : List (Event S)) cookies where
  outgoing := by
    intro e he
    obtain ⟨c, -, rfl⟩ := List.mem_map.mp he
    exact ⟨rfl, rfl, rfl, rfl, rfl, rfl, fun _ => rfl⟩
  exits := by
    induction cookies with
    | nil => rfl
    | cons c cs ih => simpa [appended, discarded] using ih

/-- Telemetry, diagnostics and writes. The counter of a claim is none of them. -/
def isSilent : Event S → Bool
  | .counter metric _ _ => decide (metric ≠ finalizationMetric)
  | .operationCounter _ _ _ _ | .strandedCounter _ _ | .diagnostic _ => true
  | .writeResponseHeader _ _ | .writeResponseBody _ _ => true
  | _ => false

theorem silent_of {e : Event S} (h : isSilent e = true) : Silent e := by
  cases e with
  | counter metric outcome name =>
    have hclaim : isClaim (.counter metric outcome name : Event S) = false := by
      simpa [isSilent, isClaim] using h
    exact ⟨⟨rfl, hclaim, rfl, rfl, rfl, rfl, fun _ => rfl⟩, rfl, rfl⟩
  | operationCounter | strandedCounter | diagnostic | writeResponseHeader | writeResponseBody =>
    exact ⟨⟨rfl, rfl, rfl, rfl, rfl, rfl, fun _ => rfl⟩, rfl, rfl⟩
  | _ => cases h

theorem silent_of_all {es : List (Event S)} (h : es.all isSilent = true) : ∀ e ∈ es, Silent e := by
  intro e he
  exact silent_of (List.all_eq_true.mp h e he)

theorem silent_observed {α : Type} (self : LoginProxy S) (operation : SessionOperation)
    (phase : LoginPhase) (result : Except SessionError α) :
    ∀ e ∈ observed self operation phase result, Silent e :=
  forall_mem_observed (fun _ _ => silent_of rfl) fun _ => silent_of rfl

theorem outlet_stranded (self : LoginProxy S) (cookies : SetCookies) :
    Outlet (strandedEvents self cookies) cookies := by
  have hdiscard : Outlet ([.discard cookies] : List (Event S)) cookies := by
    refine ⟨fun e he => ?_, by simp [appended, discarded]⟩
    obtain rfl := List.mem_singleton.mp he
    exact ⟨rfl, rfl, rfl, rfl, rfl, rfl, fun _ => rfl⟩
  refine hdiscard.append_silent (silent_of_all ?_)
  by_cases hc : cookies.isEmpty
  · simp [hc]
  · by_cases hd : self.diagnostics <;> simp [hc, hd, isSilent]

/-- Events that may produce cookies, but do no work and let none out. -/
structure Quiet (es : List (Event S)) : Prop where
  work : workOf es = []
  appended : appendedBy es = []
  discarded : discardedBy es = []
  seen : seenBy es = []
  claim : ∀ flag, flagAtClaim flag es = none
  flag : ∀ flag, flagAfter flag es = flag

theorem Quiet.append {es es' : List (Event S)} (h : Quiet es) (h' : Quiet es') :
    Quiet (es ++ es') :=
  ⟨by simp [h.work, h'.work], by simp [h.appended, h'.appended],
    by simp [h.discarded, h'.discarded], by simp [h.seen, h'.seen],
    fun flag => by simp [flagAtClaim_append, h.claim, h'.claim],
    fun flag => by simp [h.flag, h'.flag]⟩

theorem quiet_silent {es : List (Event S)} (h : ∀ e ∈ es, Silent e) : Quiet es := by
  have hflag := outgoing_flag fun e he => (h e he).toOutgoing
  refine ⟨?_, flatMap_empty fun e he => (h e he).appended,
    flatMap_empty fun e he => (h e he).discarded, flatMap_empty fun e he => (h e he).seen,
    fun flag => (hflag flag).1, fun flag => (hflag flag).2⟩
  rw [workOf, List.filter_eq_nil_iff]
  exact fun e he => by simp [(h e he).work]

def isQuiet : Event S → Bool
  | .tryHandleLoginRoute | .loadSession _ | .loaded _ | .redirectToLogin => true
  | .committed _ | .terminated _ => true
  | e => isSilent e

theorem quiet_of_all {es : List (Event S)} (h : es.all isQuiet = true) : Quiet es := by
  induction es with
  | nil => exact ⟨rfl, rfl, rfl, rfl, fun _ => rfl, fun _ => rfl⟩
  | cons e es ih =>
    rw [List.all_cons, Bool.and_eq_true] at h
    have hone : Quiet [e] := by
      have hsilent : isSilent e = true → Quiet [e] := fun he =>
        quiet_silent (List.forall_mem_singleton.mpr (silent_of he))
      cases e with
      | tryHandleLoginRoute | loadSession | loaded | redirectToLogin | committed | terminated =>
        exact ⟨rfl, rfl, rfl, rfl, fun _ => rfl, fun _ => rfl⟩
      | _ => exact hsilent h.1
    exact hone.append (ih h.2)

theorem silent_books {es : List (Event S)} (h : ∀ e ∈ es, Silent e) :
    producedBy es = [] ∧ loadsBy es = [] :=
  ⟨flatMap_empty fun e he => (h e he).produced, flatMap_empty fun e he => (h e he).loads⟩

def duty : Obligation S → List (Event S)
  | .nothing => []
  | .terminate session headers abandoned =>
    abandonEvents abandoned ++ [.terminateSession session headers]
  | .commit pending headers => [.commit pending headers]

structure Claims (st : LoginState S) (out : List (Event S)) (st' : LoginState S) : Prop where
  unclaimed : st.finalized = false
  finalized : st'.finalized = true
  session : st'.session = st.session
  drained : st'.setCookies = []
  outlet : Outlet out st.setCookies

def IsReturn : Event S → Prop
  | .committed _ | .terminated _ => True
  | _ => False

theorem return_books {e : Event S} (h : IsReturn e) : isWork e = false ∧ isGate e = false ∧
    appended e = [] ∧ discarded e = [] ∧ loads e = [] ∧ seen e = [] := by
  cases e with
  | committed | terminated => exact ⟨rfl, rfl, rfl, rfl, rfl, rfl⟩
  | _ => exact h.elim

inductive Move : LoginState S → List (Event S) → LoginState S → Prop where
  | silent {st e} : Silent e → Move st [e] st
  | queue {st} (response) : Move st [] { st with response := response }
  | enter {st e} : e ∈ [Event.innerResponseFilter st, .innerLogging st] → Move st [e] st
  | write {st} (value) :
      Move st [.setTerminateRequested value] { st with terminateRequested := value }
  | claim {st out st'} (self phase) : Claims st out st' →
      Move st (finalizationEvent self phase :: out ++ duty (obligation st)) st'
  | settle {st e out} : st.finalized = true → IsReturn e → Outlet out (produced e) →
      Move st (e :: out) st

def Ledgered {α : Type} (m : LoginHook S α) : Prop := Follows World.ctx Move m

theorem respondAll_ctx (st : LoginState S) (responses : List LoginResponse) :
    respondAll st responses = { st with response := (respondAll st responses).response } := by
  induction responses generalizing st with
  | nil => rfl
  | cons r rs ih =>
    unfold respondAll LoginState.respond
    by_cases hi : r.status.isInformational
    · simpa [hi] using ih st
    · simpa [hi] using ih { st with response := some r }

theorem apply_finalized (effect : InnerEffect) (w : World S) :
    (effect.apply w).ctx.finalized = w.ctx.finalized := by
  rw [InnerEffect.apply, respondAll_ctx]

theorem quiet_terminateWrites (effect : InnerEffect) :
    workOf (terminateWrites effect : List (Event S)) = [] ∧
      appendedBy (terminateWrites effect : List (Event S)) = [] := by
  unfold terminateWrites
  cases effect.terminateRequested <;> exact ⟨rfl, rfl⟩

theorem path_effect (effect : InnerEffect) (w : World S) :
    Path Move w.ctx (terminateWrites effect) (effect.apply w).ctx := by
  unfold InnerEffect.apply terminateWrites
  rw [respondAll_ctx]
  cases effect.terminateRequested with
  | none => exact Path.single (Move.queue _)
  | some value => exact (Path.single (Move.write value)).trans (Path.single (Move.queue _))

theorem path_inner {α : Type} {m : LoginHook S α} (hm : Ledgered m) (effect : InnerEffect)
    {w w' : World S} (hw : w'.ctx = (effect.apply w).ctx) :
    Path Move w.ctx ((m.run w').after (terminateWrites effect)).events (m.run w').state.ctx := by
  have hrest := hm w'
  rw [hw] at hrest
  exact (path_effect effect w).trans hrest

theorem ledgered_returns {α : Type} (a : Await (Except Error α)) :
    Ledgered (await a >>= attempt : LoginHook S α) :=
  follows_bind (follows_await a) follows_attempt

theorem ledgered_innerResponseFilter (self : LoginProxy S) :
    Ledgered (innerResponseFilter self) := by
  intro w
  rw [run_innerResponseFilter]
  have henter : Path Move w.ctx [.innerResponseFilter w.ctx] w.ctx := .single (.enter (by simp))
  exact henter.trans (path_inner (ledgered_returns _) self.inner.responseFilter.1 rfl)

theorem ledgered_innerLogging (self : LoginProxy S) : Ledgered (innerLogging self) := by
  intro w
  rw [run_innerLogging]
  have henter : Path Move w.ctx [.innerLogging w.ctx] w.ctx := .single (.enter (by simp))
  exact henter.trans (path_inner (follows_await _) self.inner.logging.1 rfl)

/-- How the work of a claim ends: its exit, the events of the return, and the cookies the
return brought. A call that is dropped returns nothing. -/
inductive Returned (self : LoginProxy S) (phase : LoginPhase) :
    Obligation S → Exit Error Unit → List (Event S) → SetCookies → Prop where
  | nothing : Returned self phase .nothing (.done ()) [] []
  | terminateDropped {session headers abandoned} :
      self.engine.terminateSession session headers = .dropped →
      Returned self phase (.terminate session headers abandoned) .cancelled [] []
  | terminated {session headers abandoned result} :
      self.engine.terminateSession session headers = .ready result →
      Returned self phase (.terminate session headers abandoned) (.done ())
        (.terminated result :: observed self .revoke phase result.revocation) result.clears
  | commitDropped {pending headers} : self.engine.commit pending headers = .dropped →
      Returned self phase (.commit pending headers) .cancelled [] []
  | committed {pending headers cookies} :
      self.engine.commit pending headers = .ready (.ok cookies) →
      Returned self phase (.commit pending headers) (.done ())
        (.committed (.ok cookies) :: observed self .persist phase (Except.ok cookies)) cookies
  | failed {pending headers e exit} : self.engine.commit pending headers = .ready (.error e) →
      exit ≠ .cancelled → Returned self phase (.commit pending headers) exit
        (.committed (.error e) ::
          observed self .persist phase (.error e : Except SessionError SetCookies)) []

theorem Returned.nothing_back {self : LoginProxy S} {phase : LoginPhase} {o : Obligation S}
    {exit : Exit Error Unit} {back : List (Event S)} {cookies : SetCookies}
    (h : Returned self phase o exit back cookies) (hback : back = []) : cookies = [] := by
  cases h with
  | nothing | terminateDropped | commitDropped | failed => rfl
  | terminated | committed => cases hback

/-- The cookies of a claim go on the header it was given, and so do the ones of its return. -/
theorem claimRun_cases (self : LoginProxy S) (w : World S) : ∃ exit back cookies,
    Returned self .response (obligation w.ctx) exit back cookies ∧ claimRun self w =
      ⟨exit, { w with
          ctx := claimed w.ctx
          response := withCookies (withCookies w.response w.ctx.setCookies) cookies },
        finalizationEvent self .response :: w.ctx.setCookies.map .appendSetCookie ++
          duty (obligation w.ctx) ++ (back ++ cookies.map .appendSetCookie)⟩ := by
  have hnil : ∀ header, withCookies header [] = header := fun _ => rfl
  unfold claimRun
  cases obligation w.ctx with
  | nothing => exact ⟨_, _, _, .nothing, by simp [duty, hnil]⟩
  | terminate session headers abandoned =>
    cases hr : self.engine.terminateSession session headers with
    | dropped => exact ⟨_, _, _, .terminateDropped hr, by simp [duty, hr, hnil]⟩
    | ready result => exact ⟨_, _, _, .terminated hr, by simp [duty, hr]⟩
  | commit pending headers =>
    cases hr : self.engine.commit pending headers with
    | dropped => exact ⟨_, _, _, .commitDropped hr, by simp [duty, hr, hnil]⟩
    | ready result =>
      cases result with
      | ok cookies => exact ⟨_, _, _, .committed hr, by simp [duty, hr]⟩
      | error e =>
        cases hp : self.persistFailurePolicy e with
        | none => exact ⟨.done (), _, _, .failed hr (by simp), by simp [duty, hr, hp, hnil]⟩
        | some resp =>
          let failure : Error := ⟨.httpStatus resp.status.code,
            "failed to persist session: " ++ self.engine.errorChain e⟩
          exact ⟨.failed failure, _, _, .failed hr (by simp),
            by simp [duty, hr, hp, hnil, failure]⟩

/-- What `logging` reports as stranded for the return of its claim. -/
inductive Stranded (self : LoginProxy S) : SetCookies → List (Event S) → Prop where
  | none : Stranded self [] []
  | some (cookies) : Stranded self cookies (strandedEvents self cookies)

theorem drainRun_cases (self : LoginProxy S) (w : World S) : ∃ exit back cookies out,
    Returned self .logging (obligation w.ctx) exit back cookies ∧ Stranded self cookies out ∧
      (back = [] → out = []) ∧ (∀ e, exit ≠ .failed e) ∧ drainRun self w =
      ⟨exit, { w with ctx := drained w.ctx },
        finalizationEvent self .logging :: strandedEvents self w.ctx.setCookies ++
          duty (obligation w.ctx) ++ (back ++ out)⟩ := by
  unfold drainRun
  cases obligation w.ctx with
  | nothing => exact ⟨_, _, _, _, .nothing, .none, fun _ => rfl, by simp, by simp [duty]⟩
  | terminate session headers abandoned =>
    cases hr : self.engine.terminateSession session headers with
    | dropped =>
      exact ⟨_, _, _, _, .terminateDropped hr, .none, fun _ => rfl, by simp, by simp [duty, hr]⟩
    | ready result =>
      exact ⟨_, _, _, _, .terminated hr, .some _, by simp, by simp, by simp [duty, hr]⟩
  | commit pending headers =>
    cases hr : self.engine.commit pending headers with
    | dropped =>
      exact ⟨_, _, _, _, .commitDropped hr, .none, fun _ => rfl, by simp, by simp [duty, hr]⟩
    | ready result =>
      cases result with
      | ok cookies =>
        exact ⟨_, _, _, _, .committed hr, .some _, by simp, by simp, by simp [duty, hr]⟩
      | error e =>
        exact ⟨.done (), _, _, _, .failed hr (by simp), .none, fun _ => rfl, by simp,
          by simp [duty, hr]⟩

/-- Both hooks that take a claim run this path, each with its own way out for cookies. -/
theorem path_claim {self : LoginProxy S} {phase : LoginPhase} {st st' : LoginState S}
    {exit : Exit Error Unit} {out back back' : List (Event S)} {cookies : SetCookies}
    (hc : Claims st out st') (hr : Returned self phase (obligation st) exit back cookies)
    (hout : Outlet back' cookies) (hnil : back = [] → back' = []) : Path Move st
      (finalizationEvent self phase :: out ++ duty (obligation st) ++ (back ++ back')) st' := by
  have hclaim : Path Move st _ st' := .single (.claim self phase hc)
  refine hclaim.trans ?_
  have hsettle : ∀ e tail, back = e :: tail → IsReturn e → produced e = cookies →
      (∀ e ∈ tail, Silent e) → Path Move st' (back ++ back') st' := by
    rintro e tail rfl he rfl hs
    exact .single (.settle hc.finalized he (hout.append_silent hs))
  generalize obligation st = o at hr
  cases hr with
  | nothing | terminateDropped | commitDropped => simpa [hnil rfl] using Path.stay st'
  | terminated => exact hsettle _ _ rfl trivial rfl (silent_observed self _ _ _)
  | committed => exact hsettle _ _ rfl trivial rfl (silent_observed self _ _ _)
  | failed => exact hsettle _ _ rfl trivial rfl (silent_observed self _ _ _)

theorem path_claimRun (self : LoginProxy S) (w : World S) (hf : w.ctx.finalized = false) :
    Path Move w.ctx (claimRun self w).events (claimRun self w).state.ctx := by
  have hc : Claims w.ctx (w.ctx.setCookies.map .appendSetCookie) (claimed w.ctx) :=
    ⟨hf, rfl, rfl, rfl, outlet_appended _⟩
  obtain ⟨exit, back, cookies, hreturned, hrun⟩ := claimRun_cases self w
  rw [hrun]
  refine path_claim hc hreturned (outlet_appended cookies) fun hnil => ?_
  rw [hreturned.nothing_back hnil]
  rfl

theorem path_drainRun (self : LoginProxy S) (w : World S) (hf : w.ctx.finalized = false) :
    Path Move w.ctx (drainRun self w).events (drainRun self w).state.ctx := by
  have hc : Claims w.ctx (strandedEvents self w.ctx.setCookies) (drained w.ctx) := by
    cases hs : w.ctx.session <;>
      exact ⟨hf, by simp [drained, claimed, hs], by simp [drained, claimed, hs],
        by simp [drained, claimed, hs], outlet_stranded self _⟩
  obtain ⟨exit, back, cookies, out, hreturned, hout, hnil, -, hrun⟩ := drainRun_cases self w
  rw [hrun]
  refine path_claim hc hreturned ?_ hnil
  cases hout with
  | none => exact outlet_appended []
  | some cookies => exact outlet_stranded self cookies

theorem ledgered_finalizeResponse (self : LoginProxy S) : Ledgered (finalizeResponse self) := by
  intro w
  by_cases hskip : w.response.status.isInterim = true ∨ w.ctx.finalized = true
  · rw [finalizeResponse_skips self w hskip]
    exact .stay _
  · rw [not_or, Bool.not_eq_true, Bool.not_eq_true] at hskip
    rw [finalizeResponse_claims self w hskip.1 hskip.2]
    exact path_claimRun self w hskip.2

theorem ledgered_responseFilter (self : LoginProxy S) : Ledgered (responseFilter self) :=
  follows_bind (ledgered_innerResponseFilter self) fun _ => ledgered_finalizeResponse self

theorem ledgered_logging (self : LoginProxy S) : Ledgered (logging self) := by
  intro w
  cases hf : w.ctx.finalized with
  | true =>
    rw [logging_finalized self w hf]
    exact ledgered_innerLogging self w
  | false =>
    rw [logging_claims self w hf]
    exact Path.andThen World.ctx (path_drainRun self w hf) fun _ _ => ledgered_innerLogging self _

theorem silent_writes (header : ResponseHeader) (endOfStream : Bool) {tail : List (Event S)}
    (ht : ∀ e ∈ tail, ∃ body eos, e = .writeResponseBody body eos) :
    ∀ e ∈ .writeResponseHeader header endOfStream :: tail, Silent e := by
  intro e he
  rcases List.mem_cons.mp he with rfl | he
  · exact silent_of rfl
  · obtain ⟨body, eos, rfl⟩ := ht e he
    exact silent_of rfl

theorem path_silent {st : LoginState S} {es : List (Event S)} (h : ∀ e ∈ es, Silent e) :
    Path Move st es st := by
  induction es with
  | nil => exact .stay st
  | cons e es ih =>
    have he : Path Move st [e] st := .single (.silent (h e (by simp)))
    exact he.trans (ih fun e' he' => h e' (by simp [he']))

theorem path_delivery {self : LoginProxy S} {response : LoginResponse} {w : World S}
    {r : Ran Error (World S) (Event S) Bool} (h : Delivery self response w r) :
    Path Move w.ctx r.events r.state.ctx := by
  have hfilter := ledgered_responseFilter self { w with response := localHeader response }
  cases h with
  | rejected hrun | dropped hrun =>
    rw [hrun] at hfilter
    exact hfilter
  | written hrun hsent =>
    rw [hrun] at hfilter
    obtain ⟨tail, hevents, htail⟩ := hsent.tail
    rw [after_events, after_state, hsent.ctx, hevents]
    exact hfilter.trans (path_silent (silent_writes _ _ htail))

theorem path_forwardedRun (self : LoginProxy S) (w : World S) :
    Path Move w.ctx (forwardedRun self w).events (forwardedRun self w).state.ctx := by
  have hqueue : Path Move w.ctx ([] : List (Event S)) (taken w).ctx := .single (.queue none)
  have hcases := forwardedRun_cases self w
  generalize forwardedRun self w = r at hcases
  cases hcases with
  | dropped | failed | unqueued => exact .stay _
  | misused => exact hqueue
  | delivered _ _ _ hdelivery => exact hqueue.trans (path_delivery hdelivery)

/-- Forwarding enters the inner `request_filter` first, with the context it was given. -/
theorem path_forwardRequest (self : LoginProxy S) (w : World S) :
    ∃ rest, ((forwardRequest self).run w).events = .innerRequestFilter w.ctx :: rest ∧
      Path Move w.ctx rest ((forwardRequest self).run w).state.ctx := by
  rw [run_forwardRequest]
  have heffect := path_effect self.inner.requestFilter.1 w
  exact ⟨_, rfl, heffect.trans (path_forwardedRun self _)⟩

theorem forwardRun_spec (self : LoginProxy S) (w : World S) (pre : List (Event S))
    (st : LoginState S) :
    ∃ rest, (forwardRun self w pre st).events = pre ++ .innerRequestFilter st :: rest ∧
      Path Move st rest (forwardRun self w pre st).state.ctx := by
  obtain ⟨rest, hevents, hpath⟩ := path_forwardRequest self { w with ctx := st }
  unfold forwardRun
  exact ⟨rest, by rw [after_events, hevents], hpath⟩

theorem answerRun_sent (w : World S) (pre : List (Event S)) (resp : LoginResponse)
    (cookies : SetCookies) : ∃ r,
      Sent (loginHeader resp cookies) (carriesBody w resp) resp.body true w r ∧
        answerRun w pre resp cookies = r.after (pre ++ cookies.map .appendSetCookie) := by
  have hsent := sent_writeOut_returning (loginHeader resp cookies) (carriesBody w resp)
    resp.body w true
  refine ⟨_, hsent, ?_⟩
  rw [answerRun, run_writeLoginResponse, after_andThen, after_after]

theorem answerRun_spec (w : World S) (pre : List (Event S)) (resp : LoginResponse)
    (cookies : SetCookies) :
    ∃ endOfStream tail,
      (answerRun w pre resp cookies).events = pre ++ (cookies.map .appendSetCookie ++
        .writeResponseHeader (loginHeader resp cookies) endOfStream :: tail) ∧
      (∀ e ∈ tail, ∃ body eos, e = .writeResponseBody body eos) ∧
      (answerRun w pre resp cookies).state.ctx = w.ctx := by
  obtain ⟨r, hsent, hrun⟩ := answerRun_sent w pre resp cookies
  obtain ⟨tail, hevents, htail⟩ := hsent.tail
  rw [hrun]
  refine ⟨!carriesBody w resp, tail, ?_, htail, hsent.ctx⟩
  rw [after_events, hevents, List.append_assoc]

theorem duty_not_gate (o : Obligation S) : ∀ e ∈ duty o, isGate e = false := by
  rcases o with _ | ⟨session, headers, _ | pending⟩ | ⟨pending, headers⟩ <;>
    simp [duty, abandonEvents, isGate]

theorem path_not_gate {st st' : LoginState S} {es : List (Event S)} (h : Path Move st es st') :
    ∀ e ∈ es, isGate e = false := by
  refine Path.invariant (I := fun t _ => ∀ e ∈ t, isGate e = false) ?_ h [] (by simp)
  intro t st es st' ht hm e he
  rcases List.mem_append.mp he with he | he
  · exact ht e he
  cases hm with
  | silent hs => exact List.mem_singleton.mp he ▸ hs.gate
  | queue response => simp at he
  | enter hin =>
    obtain rfl := List.mem_singleton.mp he
    simp only [List.mem_cons, List.not_mem_nil, or_false] at hin
    rcases hin with rfl | rfl <;> rfl
  | write value => exact List.mem_singleton.mp he ▸ rfl
  | claim self phase hc =>
    simp only [List.cons_append, List.mem_cons, List.mem_append] at he
    rcases he with rfl | he | he
    · rfl
    · exact (hc.outlet.outgoing e he).gate
    · exact duty_not_gate _ e he
  | settle hf hback ho =>
    rcases List.mem_cons.mp he with rfl | he
    · exact (return_books hback).2.1
    · exact (ho.outgoing e he).gate

end SessionLedger
