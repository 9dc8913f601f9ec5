import HuskarlPingora.SessionObligations

/-! # Session cookies are conserved

Every cookie the engine produced for a request leaves once: on the response the gate
wrote, on the one final header whose `response_filter` call succeeded, or into the
stranded report. -/
namespace CookieConservation

open HttpModel LoginContext LoginAdapter LoginEffects LoginGate SessionLedger LoginAccess
open LoginLifecycle SessionObligations TracedHooks

variable {S : Type}

def written : Event S → List ResponseHeader
  | .writeResponseHeader header _ => [header]
  | _ => []

def writtenBy (es : List (Event S)) : List ResponseHeader := es.flatMap written

@[simp] theorem writtenBy_nil : writtenBy ([] : List (Event S)) = [] := rfl
@[simp] theorem writtenBy_cons (e : Event S) (es : List (Event S)) :
    writtenBy (e :: es) = written e ++ writtenBy es := rfl
@[simp] theorem writtenBy_append (es es' : List (Event S)) :
    writtenBy (es ++ es') = writtenBy es ++ writtenBy es' := List.flatMap_append ..

@[simp] theorem appendedBy_cookies (cookies : SetCookies) :
    appendedBy (cookies.map .appendSetCookie : List (Event S)) = cookies := by
  induction cookies with
  | nil => rfl
  | cons c cs ih => simpa [appended] using ih

@[simp] theorem appendedBy_observed {α : Type} (self : LoginProxy S) (operation : SessionOperation)
    (phase : LoginPhase) (result : Except SessionError α) :
    appendedBy (observed self operation phase result) = [] :=
  (quiet_silent (silent_observed self operation phase result)).appended

@[simp] theorem appendedBy_stranded (self : LoginProxy S) (cookies : SetCookies) :
    appendedBy (strandedEvents self cookies) = [] :=
  List.flatMap_eq_nil_iff.mpr (forall_mem_stranded (fun _ _ => rfl) (fun _ => rfl) rfl)

structure Claimed (w : World S) (r : Ran Error (World S) (Event S) Unit) : Prop where
  header : r.state.response.getAll setCookieName =
    w.response.getAll setCookieName ++ appendedBy r.events
  failed : ∀ e, r.exit = .failed e → w.ctx.pending.isSome ∧ appendedBy r.events = w.ctx.setCookies
  anonymous : w.ctx.session = none → appendedBy r.events = w.ctx.setCookies

@[simp] theorem writtenBy_cookies (cookies : SetCookies) :
    writtenBy (cookies.map .appendSetCookie : List (Event S)) = [] := by
  simp [writtenBy, List.flatMap_map, written]

@[simp] theorem writtenBy_observed {α : Type} (self : LoginProxy S) (operation : SessionOperation)
    (phase : LoginPhase) (result : Except SessionError α) :
    writtenBy (observed self operation phase result) = [] :=
  List.flatMap_eq_nil_iff.mpr (forall_mem_observed (fun _ _ => rfl) fun _ => rfl)

@[simp] theorem writtenBy_terminateWrites (effect : InnerEffect) :
    writtenBy (terminateWrites effect : List (Event S)) = [] := by
  unfold terminateWrites
  cases effect.terminateRequested <;> rfl

/-- The engine calls of a claim put nothing on a header and write none. -/
theorem duty_headers (o : Obligation S) : appendedBy (duty o) = [] ∧ writtenBy (duty o) = [] := by
  rcases o with _ | ⟨session, headers, _ | pending⟩ | ⟨pending, headers⟩ <;> exact ⟨rfl, rfl⟩

theorem returned_headers {self : LoginProxy S} {phase : LoginPhase} {o : Obligation S}
    {exit : Exit Error Unit} {back : List (Event S)} {cookies : SetCookies}
    (h : Returned self phase o exit back cookies) : appendedBy back = [] ∧ writtenBy back = [] := by
  cases h with
  | nothing | terminateDropped | commitDropped => exact ⟨rfl, rfl⟩
  | terminated | committed | failed => simp [appended, written]

theorem claimRun_header (self : LoginProxy S) (w : World S) : Claimed w (claimRun self w) := by
  obtain ⟨exit, back, cookies, hreturned, hrun⟩ := claimRun_cases self w
  have happ : appendedBy (claimRun self w).events = w.ctx.setCookies ++ cookies := by
    simp [hrun, finalizationEvent, appended, (duty_headers _).1, (returned_headers hreturned).1]
  have hexit : (claimRun self w).exit = exit := by rw [hrun]
  refine ⟨?_, ?_, ?_⟩
  · rw [happ, hrun, getAll_withCookies, getAll_withCookies, List.append_assoc]
  · intro e he
    rw [happ]
    have hfailed : exit = .failed e := hexit.symm.trans he
    generalize ho : obligation w.ctx = o at hreturned
    cases hreturned with
    | failed =>
      -- only a state that owes a save can commit
      have hpending : w.ctx.pending.isSome := by
        unfold obligation at ho
        cases hs : w.ctx.session with
        | none => simp [hs] at ho
        | some sess => cases ht : w.ctx.terminateRequested <;> cases hp : w.ctx.pending <;> simp_all
      exact ⟨hpending, List.append_nil _⟩
    | nothing | terminateDropped | terminated | commitDropped | committed => cases hfailed
  · intro hs
    have ho : obligation w.ctx = .nothing := by simp [obligation, hs]
    rw [happ]
    rw [ho] at hreturned
    cases hreturned
    exact List.append_nil _

theorem claimRun_unwritten (self : LoginProxy S) (w : World S) :
    writtenBy (claimRun self w).events = [] := by
  obtain ⟨exit, back, cookies, hreturned, hrun⟩ := claimRun_cases self w
  simp [hrun, finalizationEvent, written, (duty_headers _).2, (returned_headers hreturned).2]

theorem innerFiltered_ctx (self : LoginProxy S) (w : World S) :
    (innerFiltered self w).ctx.session = w.ctx.session ∧
      (innerFiltered self w).ctx.pending = w.ctx.pending ∧
      (innerFiltered self w).ctx.setCookies = w.ctx.setCookies ∧
      (innerFiltered self w).ctx.finalized = w.ctx.finalized := by
  unfold innerFiltered InnerEffect.apply
  rw [respondAll_ctx]
  exact ⟨rfl, rfl, rfl, rfl⟩

/-- A save and cookies of its own never meet in one context. -/
def Exclusive (st : LoginState S) : Prop := st.pending.isSome → st.setCookies = []

structure Filtered (proxy : LoginProxy S) (w : World S)
    (r : Ran Error (World S) (Event S) Unit) : Prop where
  header : r.state.response.getAll setCookieName =
    (proxy.inner.responseFilter.2.1 w.response).getAll setCookieName ++ appendedBy r.events
  unwritten : writtenBy r.events = []
  failed : Exclusive w.ctx → ∀ e, r.exit = .failed e → appendedBy r.events = []
  finalized : w.ctx.finalized = true → appendedBy r.events = []
  anonymous : w.ctx.session = none → w.ctx.setCookies = [] → appendedBy r.events = []
  interim : (proxy.inner.responseFilter.2.1 w.response).status.isInterim = true →
    appendedBy r.events = []

theorem filteredRun_cookies (self : LoginProxy S) (w : World S) :
    Filtered self w (filteredRun self w) := by
  obtain ⟨hsession, hpending, hcookies, hfinalized⟩ := innerFiltered_ctx self w
  have hidle : ∀ x, Filtered self w ⟨x, innerFiltered self w, []⟩ := by
    intro x
    constructor <;> intros <;> simp [innerFiltered]
  unfold filteredRun
  cases self.inner.responseFilter.2.2 with
  | dropped => exact hidle _
  | ready result =>
    cases result with
    | error e => exact hidle _
    | ok u =>
      by_cases hskip : (innerFiltered self w).response.status.isInterim = true ∨
          (innerFiltered self w).ctx.finalized = true
      · simp only [finalizeResponse_skips self _ hskip]
        exact hidle _
      · rw [not_or, Bool.not_eq_true, Bool.not_eq_true] at hskip
        simp only [finalizeResponse_claims self _ hskip.1 hskip.2]
        obtain ⟨hheader, hfailed, hanonymous⟩ := claimRun_header self (innerFiltered self w)
        refine ⟨hheader, claimRun_unwritten self _, ?_, ?_, ?_, ?_⟩
        · intro hex e he
          obtain ⟨hp, happ⟩ := hfailed e he
          rw [happ, hcookies]
          exact hex (hpending ▸ hp)
        · exact fun hf => absurd (hfinalized.trans hf) (by simp [hskip.2])
        · exact fun hs hc => (hanonymous (hsession.trans hs)).trans (hcookies.trans hc)
        · exact fun hi => absurd hi (by simpa [innerFiltered] using hskip.1)

theorem responseFilter_cookies (self : LoginProxy S) (w : World S) :
    Filtered self w ((responseFilter self).run w) := by
  obtain ⟨hheader, hunwritten, hfailed, hfinalized, hanonymous, hinterim⟩ :=
    filteredRun_cookies self w
  have happ : appendedBy (Event.innerResponseFilter w.ctx ::
      terminateWrites self.inner.responseFilter.1) = [] := by
    simp [appended, (quiet_terminateWrites self.inner.responseFilter.1).2]
  have hwrite : writtenBy (Event.innerResponseFilter w.ctx ::
      terminateWrites self.inner.responseFilter.1) = [] := by
    simp [written]
  rw [run_responseFilter]
  refine ⟨?_, ?_, ?_, ?_, ?_, ?_⟩ <;>
    simp only [after_state, after_exit, after_events, appendedBy_append, writtenBy_append, happ,
      hwrite, List.nil_append]
  · exact hheader
  · exact hunwritten
  · exact hfailed
  · exact hfinalized
  · exact hanonymous
  · exact hinterim

theorem drainRun_appends (self : LoginProxy S) (w : World S) :
    appendedBy (drainRun self w).events = [] ∧ ∀ e, (drainRun self w).exit ≠ .failed e := by
  obtain ⟨exit, back, cookies, out, hreturned, hout, -, hexit, hrun⟩ := drainRun_cases self w
  have hstranded : appendedBy out = [] := by
    cases hout with
    | none => rfl
    | some cookies => exact appendedBy_stranded self cookies
  rw [hrun]
  refine ⟨?_, hexit⟩
  simp [finalizationEvent, appended, (duty_headers _).1, (returned_headers hreturned).1, hstranded]

theorem innerLogging_appends (self : LoginProxy S) (w : World S) :
    appendedBy ((innerLogging self).run w).events = [] ∧
      ∀ e, ((innerLogging self).run w).exit ≠ .failed e := by
  have hwrites := (quiet_terminateWrites (S := S) self.inner.logging.1).2
  rw [run_innerLogging]
  cases self.inner.logging.2 <;> simp [appended, hwrites]

theorem logging_appends (self : LoginProxy S) (w : World S) :
    appendedBy ((logging self).run w).events = [] ∧
      ∀ e, ((logging self).run w).exit ≠ .failed e := by
  cases hf : w.ctx.finalized with
  | true =>
    rw [logging_finalized self w hf]
    exact innerLogging_appends self w
  | false =>
    rw [logging_claims self w hf]
    obtain ⟨happ, hexit⟩ := drainRun_appends self w
    unfold Ran.andThen
    cases hx : (drainRun self w).exit with
    | done u =>
      obtain ⟨happ', hexit'⟩ := innerLogging_appends self (drainRun self w).state
      exact ⟨by simp [happ, happ'], hexit'⟩
    | failed e => exact absurd hx (hexit e)
    | cancelled => simp [happ]

structure Silenced (w : World S) (r : Ran Error (World S) (Event S) Unit) : Prop where
  failed : Exclusive w.ctx → ∀ e, r.exit = .failed e → appendedBy r.events = []
  finalized : w.ctx.finalized = true → appendedBy r.events = []
  anonymous : w.ctx.session = none → w.ctx.setCookies = [] → appendedBy r.events = []

theorem Silenced.of_none {w : World S} {r : Ran Error (World S) (Event S) Unit}
    (h : appendedBy r.events = []) : Silenced w r :=
  ⟨fun _ _ _ => h, fun _ => h, fun _ _ => h⟩

theorem perform_cookies (self : LoginProxy S) (c : Call S) (w : World S) :
    Silenced w ((perform self c).run w) := by
  cases c with
  | responseFilter inner engine header =>
    have h := responseFilter_cookies { self with inner := inner, engine := engine }
      { w with response := header }
    exact ⟨h.failed, h.finalized, h.anonymous⟩
  | logging inner engine =>
    exact .of_none (logging_appends { self with inner := inner, engine := engine } w).1
  | innerWrite effect =>
    refine .of_none ?_
    rw [perform, run_innerEffect]
    exact (quiet_terminateWrites effect).2

def OnTheHeader (es : List (Event S)) : Prop :=
  appendedBy es ≠ [] → ∃ header, writtenBy es = [header] ∧
    appendedBy es <:+ header.getAll setCookieName

theorem writtenBy_bodies {tail : List (Event S)}
    (ht : ∀ e ∈ tail, ∃ body eos, e = .writeResponseBody body eos) : writtenBy tail = [] := by
  rw [writtenBy, List.flatMap_eq_nil_iff]
  intro e he
  obtain ⟨body, eos, rfl⟩ := ht e he
  rfl

theorem onTheHeader_after {es pre : List (Event S)} (h : OnTheHeader es)
    (happ : appendedBy pre = []) (hwrite : writtenBy pre = []) : OnTheHeader (pre ++ es) := by
  intro hne
  rw [appendedBy_append, happ, List.nil_append] at hne ⊢
  rw [writtenBy_append, hwrite, List.nil_append]
  exact h hne

theorem delivery_header {self : LoginProxy S} {response : LoginResponse} {w : World S}
    {r : Ran Error (World S) (Event S) Bool} (h : Delivery self response w r)
    (hx : Exclusive w.ctx) (hu : r.exit ≠ .cancelled) : OnTheHeader r.events := by
  have hf := responseFilter_cookies self { w with response := localHeader response }
  cases h with
  | dropped hrun => exact absurd rfl hu
  | rejected hrun =>
    rw [hrun] at hf
    intro hne
    exact absurd (hf.failed hx _ rfl) hne
  | @written w' es r hrun hsent =>
    rw [hrun] at hf
    intro _
    obtain ⟨tail, hevents, htail⟩ := hsent.tail
    have hsilent := (quiet_silent (silent_writes w'.response
      (!sendsBody response w') htail)).appended
    rw [after_events, hevents, appendedBy_append, hsilent, List.append_nil]
    refine ⟨w'.response, ?_, ⟨_, hf.header.symm⟩⟩
    rw [writtenBy_append, hf.unwritten, writtenBy_cons, writtenBy_bodies htail]
    rfl

theorem exclusive_apply {effect : InnerEffect} {w : World S} (h : Exclusive w.ctx) :
    Exclusive (effect.apply w).ctx := by
  unfold InnerEffect.apply
  rw [respondAll_ctx]
  exact h

theorem forwardedRun_header (self : LoginProxy S) (w : World S) (hx : Exclusive w.ctx)
    (hu : (forwardedRun self w).exit ≠ .cancelled) : OnTheHeader (forwardedRun self w).events := by
  have hcases := forwardedRun_cases self w
  generalize forwardedRun self w = r at hcases hu ⊢
  cases hcases with
  | dropped | failed | unqueued | misused =>
    intro hne
    exact absurd rfl hne
  | delivered _ _ _ hdelivery => exact delivery_header hdelivery hx hu

section Gate

variable {self : LoginProxy S} {req : RequestHeader}

theorem writtenBy_loadEvents (result : Except SessionError (LoadedSession S)) :
    writtenBy (loadEvents self req result) = [] := by
  simp [loadEvents, written]

theorem forwards_unwritten {st st' : LoginState S} {pre : List (Event S)}
    (h : Forwards self req st pre st') : writtenBy pre = [] := by
  cases h with
  | preflight | pub => rfl
  | anonymous | authenticated =>
    rw [writtenBy_append, writtenBy_loadEvents]
    rfl

/-- The cookies of an answer are the ones produced on the way to it. -/
structure AnswerBooks (pre : List (Event S)) (cookies : SetCookies) : Prop where
  produced : producedBy pre = cookies
  appended : appendedBy pre = []
  unwritten : writtenBy pre = []

theorem books_loaded (loaded : LoadedSession S) {rest : List (Event S)} (cookies : SetCookies)
    (h : AnswerBooks rest cookies) :
    AnswerBooks (loadEvents self req (.ok loaded) ++ rest)
      (LoadedSession.setCookies loaded ++ cookies) := by
  have hquiet := quiet_loadEvents self req (.ok loaded)
  refine ⟨?_, ?_, ?_⟩
  · rw [producedBy_append, (loadEvents_ok self req loaded).2, h.produced]
  · rw [appendedBy_append, hquiet.appended, h.appended, List.nil_append]
  · rw [writtenBy_append, writtenBy_loadEvents, h.unwritten, List.nil_append]

theorem answers_books {pre : List (Event S)} {resp : LoginResponse} {cookies : SetCookies}
    (h : Answers self req pre resp cookies) : AnswerBooks pre cookies := by
  cases h with
  | preflightDenied | loginRoute | routeDenied => exact ⟨rfl, rfl, rfl⟩
  | loadFailed required check e hu hr hl =>
    have hquiet := quiet_loadEvents self req (.error e)
    refine ⟨?_, ?_, ?_⟩
    · rw [producedBy_append, (loadEvents_error self req e).2]
      rfl
    · rw [appendedBy_append, hquiet.appended]
      rfl
    · rw [writtenBy_append, writtenBy_loadEvents]
      rfl
  | refreshUnavailable required check hu hr hl =>
    exact books_loaded _ [] ⟨rfl, rfl, rfl⟩
  | unauthenticated check loaded _ hu hr hl ha hd =>
    simpa using books_loaded loaded [] ⟨rfl, rfl, rfl⟩
  | forbidden required check loaded sess msg hu hr hl hs hc hp =>
    simpa using books_loaded loaded [] ⟨rfl, rfl, rfl⟩
  | forbiddenPersisted required check pending msg result hu hr hl hc hp =>
    refine books_loaded (.activePending pending) _ ⟨?_, ?_, ?_⟩
    · have hnone := (silent_books (silent_observed self .persist .denied result)).1
      cases result <;> simp [produced, decisionEvent, hnone, Except.toOption]
    · simp [appended, decisionEvent]
    · simp [written, decisionEvent]

end Gate

structure GateCookies (r : Request S) : Prop where
  header : OnTheHeader r.gate.events
  refused : ¬ r.Entered → producedBy r.gate.events = appendedBy r.gate.events

theorem exclusive_opening {headers : HeaderMap} {pre : List (Event S)} {st : LoginState S}
    (h : Opening headers pre st) : Exclusive st := by
  rcases h.loads with ⟨-, rfl⟩ | ⟨loaded, -, rfl⟩
  · exact fun _ => rfl
  · intro hp
    cases loaded <;> simp_all [LoginState.prepareForward, LoadedSession.pending?,
      LoadedSession.setCookies]

theorem gate_cookies (r : Request S) (hu : r.gate.exit ≠ .cancelled) : GateCookies r := by
  have hrun : GateRun r.proxy (.incoming r.session r.response) r.gate :=
    requestFilter_cases r.proxy (.incoming r.session r.response)
  generalize hg : r.gate = g at hrun hu
  cases hrun with
  | @forward pre st hf =>
    have hopen : Opening r.headers pre st := forwards_opening hf
    have heffect := quiet_terminateWrites (S := S) r.proxy.inner.requestFilter.1
    have hwrites : writtenBy (Event.innerRequestFilter st ::
        terminateWrites r.proxy.inner.requestFilter.1) = [] := by
      simp [written]
    unfold forwardRun at hg hu
    rw [run_forwardRequest] at hg hu
    have hdeliver := forwardedRun_header r.proxy _ (exclusive_apply (exclusive_opening hopen)) hu
    have hevents := congrArg Ran.events hg
    simp only [after_events] at hevents
    refine ⟨?_, fun hno => absurd ⟨st, ?_⟩ hno⟩
    · rw [hevents]
      refine onTheHeader_after (onTheHeader_after hdeliver ?_ hwrites) hopen.quiet.appended
        (forwards_unwritten hf)
      simp [appended, heffect.2]
    · rw [hevents]
      simp
  | @answer pre resp cookies ha =>
    have hbooks := answers_books ha
    obtain ⟨eos, tail, hevents, htail, -⟩ :=
      answerRun_spec (.incoming r.session r.response) pre resp cookies
    rw [← hg] at hevents
    have hsilent := silent_writes (loginHeader resp cookies) eos htail
    have happ : appendedBy r.gate.events = cookies := by
      rw [hevents]
      simp only [appendedBy_append, hbooks.appended, appendedBy_cookies,
        (quiet_silent hsilent).appended, List.append_nil, List.nil_append]
    refine ⟨fun _ => ⟨loginHeader resp cookies, ?_, ?_⟩, fun _ => ?_⟩
    · rw [hevents]
      simp only [writtenBy_append, hbooks.unwritten, writtenBy_cookies, writtenBy_cons,
        writtenBy_bodies htail, List.nil_append, List.append_nil]
      rfl
    · rw [happ, loginHeader, getAll_append_cookies]
      exact List.suffix_append _ _
    · rw [happ, hevents]
      simp only [producedBy_append, hbooks.produced, (outlet_appended cookies).produced,
        (silent_books hsilent).1, List.append_nil]
  | @drop pre hd => exact absurd rfl hu

def succeeded (r : Ran Error (World S) (Event S) Unit) : Bool :=
  match r.exit with
  | .done _ => true
  | _ => false

def callRecords (r : Request S) : List (Ran Error (World S) (Event S) Unit) :=
  records (perform r.proxy) r.calls r.gate.state

structure Uncancelled (r : Request S) : Prop where
  gate : r.gate.exit ≠ .cancelled
  calls : ∀ record ∈ callRecords r, record.exit ≠ .cancelled

def EndsWithLogging (r : Request S) : Prop :=
  ∃ before inner engine, r.calls = before ++ [.logging inner engine]

/-- The cookies on the response of the gate and on the headers of successful calls. -/
def deliveredBy (r : Request S) : SetCookies :=
  appendedBy r.gate.events ++
    ((callRecords r).filter succeeded).flatMap fun record => appendedBy record.events

/-- Where the session cookies of a request are, once it was logged. -/
structure CookiesConserved (r : Request S) : Prop where
  conserved : (producedBy r.events).Perm (deliveredBy r ++ discardedBy r.events)
  gate : OnTheHeader r.gate.events
  /-- A failed call had put no cookie on the header it loses. -/
  rejected : ∀ record ∈ callRecords r, succeeded record = false → appendedBy record.events = []
  header : ∀ before inner engine header,
    (r.after (before ++ [.responseFilter inner engine header])).response.getAll setCookieName =
      (inner.responseFilter.2.1 header).getAll setCookieName ++
        appendedBy (r.eventsAfter before [.responseFilter inner engine header])
  interim : ∀ before inner engine header,
    (inner.responseFilter.2.1 header).status.isInterim = true →
      appendedBy (r.eventsAfter before [.responseFilter inner engine header]) = []
  logged : ∀ before inner engine, appendedBy (r.eventsAfter before [.logging inner engine]) = []
  /-- At most one call appends, and none does after a response of the gate that did. -/
  single : ∀ before c later, r.calls = before ++ c :: later →
    appendedBy (r.eventsAfter before [c]) ≠ [] →
      appendedBy r.gate.events = [] ∧ appendedBy (r.eventsAfter [] before) = [] ∧
        appendedBy (r.eventsAfter (before ++ [c]) later) = []
  exclusive : ∀ calls, Exclusive (r.after calls).ctx

theorem context_exclusive (r : Request S) (calls : List (Call S)) :
    Exclusive (r.after calls).ctx := by
  obtain ⟨head, st, rest, b⟩ := run_books r
  have hstart : Exclusive st := by
    by_cases h : r.Entered
    · obtain ⟨pre, -, hopen⟩ := b.entered_iff.mp h
      exact exclusive_opening hopen
    · obtain ⟨-, rfl, -⟩ := b.refusal h
      exact fun _ => rfl
  cases hf : (r.after calls).ctx.finalized with
  | false =>
    have hu := (b.tracks calls).unclaimed hf
    rw [Exclusive, hu.pending, hu.setCookies]
    exact hstart
  | true => exact fun _ => ((b.tracks calls).claimed hf).drained

theorem finalized_appends (r : Request S) (before later : List (Call S))
    (hf : (r.after before).ctx.finalized = true) :
    appendedBy (r.eventsAfter before later) = [] := by
  induction later generalizing before with
  | nil => rfl
  | cons c later ih =>
    have hnext := finalized_later r before [c] hf
    rw [← List.singleton_append, eventsAfter_append, appendedBy_append, ih _ hnext,
      List.append_nil, eventsAfter_single]
    exact (perform_cookies r.proxy c _).finalized hf

theorem failed_appends (r : Request S) (hu : Uncancelled r) :
    ∀ record ∈ callRecords r, succeeded record = false → appendedBy record.events = [] := by
  intro record hmem hfail
  obtain ⟨before, c, later, -, rfl⟩ := mem_records (perform r.proxy) hmem
  have hcancel := hu.calls _ hmem
  have hex := context_exclusive r before
  have hsilent : Silenced (r.after before) ((perform r.proxy c).run (r.after before)) :=
    perform_cookies r.proxy c _
  change appendedBy ((perform r.proxy c).run (r.after before)).events = []
  cases hx : ((perform r.proxy c).run (r.after before)).exit with
  | done u => simp [succeeded, Request.after] at hfail hx; simp [hx] at hfail
  | failed e => exact hsilent.failed hex e hx
  | cancelled => exact absurd hx hcancel

theorem single_append (r : Request S) (before later : List (Call S)) (c : Call S)
    (hne : appendedBy (r.eventsAfter before [c]) ≠ []) :
    appendedBy r.gate.events = [] ∧ appendedBy (r.eventsAfter [] before) = [] ∧
      appendedBy (r.eventsAfter (before ++ [c]) later) = [] := by
  have hsilent : Silenced (r.after before) ((perform r.proxy c).run (r.after before)) :=
    perform_cookies r.proxy c _
  rw [eventsAfter_single] at hne
  obtain ⟨head, st, rest, b⟩ := run_books r
  have hopen : (r.after before).ctx.finalized = false := by
    cases hf : (r.after before).ctx.finalized with
    | false => rfl
    | true => exact absurd (hsilent.finalized hf) hne
  have hbefore := (b.tracks before).unclaimed hopen
  obtain ⟨hrest, hcalls⟩ := List.append_eq_nil_iff.mp
    ((appendedBy_append rest (r.eventsAfter [] before)).symm.trans hbefore.appended)
  have hentered : r.Entered := by
    by_contra hno
    obtain ⟨-, rfl, -⟩ := b.refusal hno
    exact hne (hsilent.anonymous (b.tracks before).session hbefore.setCookies)
  refine ⟨?_, hcalls, ?_⟩
  · obtain ⟨pre, hhead, hpre⟩ := b.entered_iff.mp hentered
    rw [b.events, hhead, appendedBy_append, appendedBy_append, hpre.quiet.appended, hrest]
    rfl
  · refine finalized_appends r _ later ?_
    cases hf : (r.after (before ++ [c])).ctx.finalized with
    | true => rfl
    | false =>
      have hafter := ((b.tracks (before ++ [c])).unclaimed hf).appended
      rw [eventsAfter_append, List.nil_append, appendedBy_append, appendedBy_append,
        eventsAfter_single] at hafter
      exact absurd (List.append_eq_nil_iff.mp (List.append_eq_nil_iff.mp hafter).2).2 hne

/-- Produced cookies are appended or discarded, counting repetitions. -/
theorem produced_perm (r : Request S) (hu : r.gate.exit ≠ .cancelled)
    (hf : (r.after r.calls).ctx.finalized = true) :
    (producedBy r.events).Perm (appendedBy r.events ++ discardedBy r.events) := by
  obtain ⟨head, st, rest, b⟩ := run_books r
  have hcookies := ((b.tracks r.calls).claimed hf).cookies
  have hhead : producedBy head = appendedBy head ++ st.setCookies ∧ discardedBy head = [] := by
    by_cases h : r.Entered
    · obtain ⟨pre, rfl, hopen⟩ := b.entered_iff.mp h
      simp [hopen.produced, hopen.quiet.appended, hopen.quiet.discarded, produced, appended,
        discarded]
    · obtain ⟨hrefuse, rfl, hall⟩ := b.refusal h
      have hsame := (gate_cookies r hu).refused h
      rw [hall] at hsame
      exact ⟨by simp [hsame, LoginState.fresh], hrefuse.discarded⟩
  rw [b.split, producedBy_append, appendedBy_append, discardedBy_append, hhead.1, hhead.2,
    List.nil_append, List.append_assoc, List.append_assoc]
  exact List.Perm.append_left _ (List.perm_append_comm.trans hcookies)

theorem delivered_eq (r : Request S) (hu : Uncancelled r) :
    deliveredBy r = appendedBy r.events := by
  have hall : ∀ rs : List (Ran Error (World S) (Event S) Unit),
      (∀ record ∈ rs, succeeded record = false → appendedBy record.events = []) →
      (rs.filter succeeded).flatMap (fun record => appendedBy record.events) =
        appendedBy (rs.flatMap Ran.events) := by
    intro rs
    induction rs with
    | nil => exact fun _ => rfl
    | cons record rs ih =>
      intro h
      have hrs := ih fun other hother => h other (by simp [hother])
      cases hs : succeeded record with
      | true => simp [hs, hrs]
      | false => simp [hs, hrs, h record (by simp) hs]
  rw [deliveredBy, hall _ (failed_appends r hu), Request.events, appendedBy_append]
  rfl

/-- Every session cookie of a logged request left it once. -/
theorem session_cookies_conserved (r : Request S) (hu : Uncancelled r) (hl : EndsWithLogging r) :
    CookiesConserved r where
  conserved := by
    obtain ⟨before, inner, engine, hcalls⟩ := hl
    have hf : (r.after r.calls).ctx.finalized = true :=
      logging_claims_work r inner engine (by simp [hcalls])
    rw [delivered_eq r hu]
    exact produced_perm r hu.gate hf
  gate := (gate_cookies r hu.gate).header
  rejected := failed_appends r hu
  header := by
    intro before inner engine header
    rw [after_single, eventsAfter_single]
    exact (responseFilter_cookies { r.proxy with inner := inner, engine := engine }
      { r.after before with response := header }).header
  interim := by
    intro before inner engine header hi
    rw [eventsAfter_single]
    exact (responseFilter_cookies { r.proxy with inner := inner, engine := engine }
      { r.after before with response := header }).interim hi
  logged := by
    intro before inner engine
    rw [eventsAfter_single]
    exact (logging_appends _ _).1
  single := fun before c later _ => single_append r before later c
  exclusive := context_exclusive r

def refreshedRequest : Request ℕ :=
  let login : LoginResponse := ⟨⟨302, by decide⟩, [], []⟩
  let engine : LoginEngine ℕ :=
    { isCorsPreflight := fun _ _ => false
      tryHandleLoginRoute := fun _ _ _ => .ready none
      loadSession := fun _ => .ready (.ok (.activePending ⟨7, "refreshed", 0⟩))
      commit := fun _ _ => .ready (.ok [⟨"sid=7"⟩, ⟨"chunk=1"⟩])
      terminateSession := fun _ _ => .ready ⟨[⟨"sid="⟩], .ok ()⟩
      redirectToLogin := fun _ _ => .ready login
      renderError := fun _ _ => login
      stripSessionCredentials := fun headers => headers
      errorChain := fun _ => "" }
  let idle : InnerEffect := ⟨none, [], fun header => header, fun response => response⟩
  let inner : Inner :=
    ⟨(idle, .ready (.ok false)), (idle, fun header => header, .ready (.ok ())), (idle, .ready ())⟩
  { proxy := ⟨inner, engine, ⟨fun _ _ => .ok (.required none .any)⟩, fun _ => none, false, none,
      false⟩
    session := ⟨⟨.get, ⟨none, none, some ⟨"/app", none⟩⟩, []⟩, none, none, .ready (.ok ()),
      .ready (.ok ())⟩
    response := .build .ok
    calls := [.responseFilter inner engine (.build ⟨103, by decide⟩),
      .responseFilter inner engine (.build .ok), .logging inner engine] }

theorem session_cookies_conserved_refreshed : CookiesConserved refreshedRequest ∧
    deliveredBy refreshedRequest = [⟨"sid=7"⟩, ⟨"chunk=1"⟩] := by
  have hlogged : EndsWithLogging refreshedRequest :=
    ⟨refreshedRequest.calls.take 2, refreshedRequest.proxy.inner, refreshedRequest.proxy.engine,
      rfl⟩
  exact ⟨session_cookies_conserved refreshedRequest ⟨by decide, by decide⟩ hlogged, by decide⟩

end CookieConservation
