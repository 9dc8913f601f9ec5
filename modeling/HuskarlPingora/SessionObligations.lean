import HuskarlPingora.LoginLifecycle

/-! # Session obligations

A loaded session may owe a save, and the application may ask for its termination.
Whatever the order of the hooks and whichever of them is dropped, the work is done
at most once, and it is done once a final header or the log was reached. -/
namespace SessionObligations

open HttpModel LoginContext LoginAdapter LoginEffects SessionLedger LoginAccess LoginLifecycle
open TracedHooks

variable {S : Type}

def commitsOf (es : List (Event S)) : List (PendingPersist S × HeaderMap) :=
  es.filterMap fun
    | .commit pending headers => some (pending, headers)
    | _ => none

def terminationsOf (es : List (Event S)) : List (S × HeaderMap) :=
  es.filterMap fun
    | .terminateSession session headers => some (session, headers)
    | _ => none

/-- The work a forwarded request owes, given the termination flag at the claim. -/
def owed (r : Request S) (terminate : Bool) : List (Event S) :=
  match r.loadedSession with
  | none => []
  | some session =>
    if terminate then
      r.loadedPending.toList.map .abandon ++ [.terminateSession session r.headers]
    else r.loadedPending.toList.map (.commit · r.headers)

theorem commitsOf_work (es : List (Event S)) : commitsOf (workOf es) = commitsOf es := by
  induction es with
  | nil => rfl
  | cons e es ih =>
    rw [workOf_cons]
    cases e <;> simpa [isWork, commitsOf] using ih

theorem terminationsOf_work (es : List (Event S)) :
    terminationsOf (workOf es) = terminationsOf es := by
  induction es with
  | nil => rfl
  | cons e es ih =>
    rw [workOf_cons]
    cases e <;> simpa [isWork, terminationsOf] using ih

theorem mem_workOf {e : Event S} {es : List (Event S)} (he : isWork e = true) :
    e ∈ es ↔ e ∈ workOf es := by
  simp [workOf, he]

theorem duty_opening {r : Request S} {head rest : List (Event S)} {st : LoginState S}
    (b : Books r head st rest) (h : r.Entered) (flag : Bool) :
    duty (obligation { st with terminateRequested := flag }) = owed r flag := by
  obtain ⟨hsession, hpending, hheaders⟩ := b.opening h
  unfold obligation owed
  simp only [hsession, hpending]
  cases hs : r.loadedSession with
  | none => rfl
  | some session =>
    have hh := hheaders (by simp [hs])
    cases flag <;> cases hp : r.loadedPending <;> simp [duty, abandonEvents, hh]

/-- Whether and when the session work of a request is done. -/
structure Discharged (r : Request S) : Prop where
  /-- The save is committed at most once, the session terminated at most once, never both. -/
  once : (commitsOf r.events).length + (terminationsOf r.events).length ≤ 1
  own : ∀ pending headers, .commit pending headers ∈ r.events → r.loadedPending = some pending
  /-- Nothing is done after a claim, whatever became of the call it made. -/
  closed : ∀ before later, (r.after before).ctx.finalized = true →
    workOf (r.eventsAfter before later) = []
  waits : ∀ before inner engine header,
    (inner.responseFilter.2.1 header).status.isInterim = true →
      workOf (r.eventsAfter before [.responseFilter inner engine header]) = [] ∧
      (r.after (before ++ [.responseFilter inner engine header])).ctx.finalized =
        (r.after before).ctx.finalized
  final_header : ∀ before later inner engine header,
    r.calls = before ++ .responseFilter inner engine header :: later →
    inner.responseFilter.2.2 = .ready (.ok ()) →
    (inner.responseFilter.2.1 header).status.isInterim = false →
      (r.after r.calls).ctx.finalized = true
  logged : ∀ inner engine, .logging inner engine ∈ r.calls →
    (r.after r.calls).ctx.finalized = true
  /-- A forwarded request that reached a claim did exactly the work owed at the claim. -/
  forwarded : r.Entered → (r.after r.calls).ctx.finalized = true →
    ∃ flag, flagAtClaim false r.events = some flag ∧ workOf r.events = owed r flag
  /-- A refused request commits the save it loaded. -/
  refused : ¬ r.Entered → workOf r.events = r.loadedPending.toList.map (.commit · r.headers)

theorem eventsAfter_single (r : Request S) (before : List (Call S)) (c : Call S) :
    r.eventsAfter before [c] = ((perform r.proxy c).run (r.after before)).events := by
  simp [Request.eventsAfter]

theorem after_single (r : Request S) (before : List (Call S)) (c : Call S) :
    r.after (before ++ [c]) = ((perform r.proxy c).run (r.after before)).state := by
  rw [after_append]
  rfl

/-- A claim once taken is never given back. -/
theorem path_finalized {st st' : LoginState S} {es : List (Event S)} (h : Path Move st es st')
    (hf : st.finalized = true) : st'.finalized = true := by
  refine Path.invariant (I := fun _ s => s.finalized = true) ?_ h [] hf
  intro t st es st' hf hm
  cases hm with
  | claim self phase hc => exact hc.finalized
  | _ => exact hf

theorem finalized_later (r : Request S) (before later : List (Call S))
    (h : (r.after before).ctx.finalized = true) :
    (r.after (before ++ later)).ctx.finalized = true :=
  path_finalized (path_calls r before later) h

theorem claimRun_finalized (self : LoginProxy S) (w : World S) :
    (claimRun self w).state.ctx = claimed w.ctx := by
  obtain ⟨exit, back, cookies, -, hrun⟩ := claimRun_cases self w
  rw [hrun]

theorem drainRun_finalized (self : LoginProxy S) (w : World S) :
    (drainRun self w).state.ctx = drained w.ctx := by
  obtain ⟨exit, back, cookies, out, -, -, -, -, hrun⟩ := drainRun_cases self w
  rw [hrun]

theorem finalizeResponse_final (self : LoginProxy S) (w : World S)
    (hi : w.response.status.isInterim = false) :
    ((finalizeResponse self).run w).state.ctx.finalized = true := by
  by_cases hf : w.ctx.finalized
  · rw [finalizeResponse_skips self w (.inr hf)]
    exact hf
  · rw [finalizeResponse_claims self w hi (by simpa using hf), claimRun_finalized]
    rfl

theorem logging_final (self : LoginProxy S) (w : World S) :
    ((logging self).run w).state.ctx.finalized = true := by
  by_cases hf : w.ctx.finalized
  · exact path_finalized (ledgered_logging self w) hf
  · have hdrained : (drainRun self w).state.ctx.finalized = true := by
      rw [drainRun_finalized, drained]
      cases w.ctx.session <;> rfl
    rw [logging_claims self w (by simpa using hf)]
    exact andThen_state (P := fun w' : World S => w'.ctx.finalized = true) hdrained
      fun _ => path_finalized (ledgered_innerLogging self _) hdrained

/-- The claim of a forwarded request does the work owed under the flag it finds. -/
theorem forwarded_work {r : Request S} (h : r.Entered)
    (hf : (r.after r.calls).ctx.finalized = true) :
    ∃ flag, flagAtClaim false r.events = some flag ∧ workOf r.events = owed r flag := by
  obtain ⟨head, st, rest, b⟩ := run_books r
  obtain ⟨flag, hflag, hwork⟩ := ((b.tracks r.calls).claimed hf).work
  obtain ⟨pre, hhead, hopen⟩ := b.entered_iff.mp h
  obtain ⟨hnone, hkept⟩ := start_flag b.start
  rw [(start_open b.start).2] at hflag
  refine ⟨flag, ?_, ?_⟩
  · rw [b.split, flagAtClaim_append, hnone, hkept, hflag]
    rfl
  · have hnowork : workOf head = [] := by
      rw [hhead, workOf_append, hopen.quiet.work]
      rfl
    rw [b.split, workOf_append, hnowork, hwork, duty_opening b h]
    rfl

theorem waiting_work {r : Request S} (h : r.Entered)
    (hf : (r.after r.calls).ctx.finalized = false) : workOf r.events = [] := by
  obtain ⟨head, st, rest, b⟩ := run_books r
  obtain ⟨pre, hhead, hopen⟩ := b.entered_iff.mp h
  rw [b.split, workOf_append, ((b.tracks r.calls).unclaimed hf).work, hhead, workOf_append,
    hopen.quiet.work]
  rfl

theorem refused_work {r : Request S} (h : ¬ r.Entered) :
    workOf r.events = r.loadedPending.toList.map (.commit · r.headers) := by
  obtain ⟨head, st, rest, b⟩ := run_books r
  obtain ⟨hrefuse, rfl, -⟩ := b.refusal h
  have hnone : workOf (rest ++ r.eventsAfter [] r.calls) = [] := by
    cases hf : (r.after r.calls).ctx.finalized with
    | false => exact ((b.tracks r.calls).unclaimed hf).work
    | true =>
      obtain ⟨flag, -, hwork⟩ := ((b.tracks r.calls).claimed hf).work
      rw [hwork]
      rfl
  rw [b.split, workOf_append, hnone, List.append_nil, hrefuse.work, Request.loadedPending, b.loaded]

theorem run_work (r : Request S) : workOf r.events = [] ∨ (∃ flag, workOf r.events = owed r flag) ∨
    workOf r.events = r.loadedPending.toList.map (.commit · r.headers) := by
  by_cases h : r.Entered
  · cases hf : (r.after r.calls).ctx.finalized with
    | false => exact .inl (waiting_work h hf)
    | true =>
      obtain ⟨flag, -, hwork⟩ := forwarded_work h hf
      exact .inr (.inl ⟨flag, hwork⟩)
  · exact .inr (.inr (refused_work h))

/-- Every piece of work concerns the loaded session and the headers it was loaded with. -/
structure Owned (r : Request S) (es : List (Event S)) : Prop where
  once : (commitsOf es).length + (terminationsOf es).length ≤ 1
  commits : ∀ pending headers, .commit pending headers ∈ es →
    r.loadedPending = some pending ∧ headers = r.headers
  terminates : ∀ session headers, .terminateSession session headers ∈ es →
    r.loadedSession = some session ∧ headers = r.headers

theorem owned_commits (r : Request S) :
    Owned r (r.loadedPending.toList.map (.commit · r.headers)) := by
  cases hp : r.loadedPending with
  | none => exact ⟨by simp [commitsOf, terminationsOf], by simp, by simp⟩
  | some pending =>
    refine ⟨by simp [commitsOf, terminationsOf], ?_, by simp⟩
    rintro p headers hmem
    obtain ⟨rfl, rfl⟩ : p = pending ∧ headers = r.headers := by simpa using hmem
    exact ⟨hp, rfl⟩

theorem owned_owed (r : Request S) (flag : Bool) : Owned r (owed r flag) := by
  unfold owed
  cases hs : r.loadedSession with
  | none => exact ⟨by simp [commitsOf, terminationsOf], by simp, by simp⟩
  | some session =>
    cases flag with
    | false => exact owned_commits r
    | true =>
      refine ⟨?_, ?_, ?_⟩
      · cases r.loadedPending <;> simp [commitsOf, terminationsOf]
      · cases r.loadedPending <;> simp
      · intro s headers hmem
        obtain ⟨rfl, rfl⟩ : s = session ∧ headers = r.headers := by
          cases hp : r.loadedPending <;> simpa [hp] using hmem
        exact ⟨hs, rfl⟩

theorem owned_run (r : Request S) : Owned r r.events := by
  have h : Owned r (workOf r.events) := by
    rcases run_work r with h | ⟨flag, h⟩ | h
    · rw [h]
      exact ⟨by simp [commitsOf, terminationsOf], by simp, by simp⟩
    · exact h ▸ owned_owed r flag
    · exact h ▸ owned_commits r
  refine ⟨?_, fun p headers hmem => ?_, fun s headers hmem => ?_⟩
  · simpa only [commitsOf_work, terminationsOf_work] using h.once
  · exact h.commits p headers ((mem_workOf rfl).mp hmem)
  · exact h.terminates s headers ((mem_workOf rfl).mp hmem)

theorem closed_work (r : Request S) (before later : List (Call S))
    (hf : (r.after before).ctx.finalized = true) : workOf (r.eventsAfter before later) = [] := by
  obtain ⟨head, st, rest, b⟩ := run_books r
  have hlater := finalized_later r before later hf
  obtain ⟨flag, hflag, hwork⟩ := ((b.tracks before).claimed hf).work
  obtain ⟨flag', hflag', hwork'⟩ := ((b.tracks (before ++ later)).claimed hlater).work
  rw [eventsAfter_append, List.nil_append, ← List.append_assoc] at hflag' hwork'
  have hsame : flag' = flag := by
    rw [flagAtClaim_append, hflag] at hflag'
    exact (Option.some.inj hflag').symm
  rw [workOf_append, hwork, hsame] at hwork'
  simpa using hwork'

theorem interim_waits (r : Request S) (before : List (Call S)) (inner : Inner)
    (engine : LoginEngine S) (header : ResponseHeader)
    (hi : (inner.responseFilter.2.1 header).status.isInterim = true) :
    workOf (r.eventsAfter before [.responseFilter inner engine header]) = [] ∧
      (r.after (before ++ [.responseFilter inner engine header])).ctx.finalized =
        (r.after before).ctx.finalized := by
  rw [eventsAfter_single, after_single]
  generalize r.after before = w
  let self : LoginProxy S := { r.proxy with inner := inner, engine := engine }
  have hrun : (perform r.proxy (.responseFilter inner engine header)).run w =
      (responseFilter self).run { w with response := header } := rfl
  have hfiltered : (filteredRun self { w with response := header }).state =
        innerFiltered self { w with response := header } ∧
      (filteredRun self { w with response := header }).events = [] := by
    unfold filteredRun
    cases hr : self.inner.responseFilter.2.2 with
    | dropped => exact ⟨rfl, rfl⟩
    | ready result =>
      cases result with
      | error e => exact ⟨rfl, rfl⟩
      | ok u =>
        have hskip := finalizeResponse_skips self (innerFiltered self { w with response := header })
          (.inl hi)
        simp [hskip]
  rw [hrun, run_responseFilter, after_events, after_state, hfiltered.1, hfiltered.2]
  refine ⟨?_, apply_finalized _ _⟩
  simpa [isWork] using (quiet_terminateWrites inner.responseFilter.1).1

theorem final_header_claims (r : Request S) (before later : List (Call S)) (inner : Inner)
    (engine : LoginEngine S) (header : ResponseHeader)
    (hr : inner.responseFilter.2.2 = .ready (.ok ()))
    (hi : (inner.responseFilter.2.1 header).status.isInterim = false) :
    (r.after (before ++ .responseFilter inner engine header :: later)).ctx.finalized = true := by
  rw [← List.singleton_append, ← List.append_assoc]
  refine finalized_later r _ later ?_
  rw [after_single]
  let self : LoginProxy S := { r.proxy with inner := inner, engine := engine }
  let w : World S := { r.after before with response := header }
  change ((responseFilter self).run w).state.ctx.finalized = true
  rw [run_responseFilter, after_state, filteredRun]
  have hready : self.inner.responseFilter.2.2 = .ready (.ok ()) := hr
  rw [hready]
  exact finalizeResponse_final self _ hi

theorem logging_claims_work (r : Request S) (inner : Inner) (engine : LoginEngine S)
    (h : .logging inner engine ∈ r.calls) : (r.after r.calls).ctx.finalized = true := by
  obtain ⟨before, later, hsplit⟩ := List.append_of_mem h
  rw [hsplit, ← List.singleton_append, ← List.append_assoc]
  refine finalized_later r _ later ?_
  rw [after_single]
  exact logging_final _ _

/-- Session work is done at most once and exclusively, and exactly once at a claim. -/
theorem session_work_discharged (r : Request S) : Discharged r where
  once := (owned_run r).once
  own := fun pending headers h => ((owned_run r).commits pending headers h).1
  closed := closed_work r
  waits := interim_waits r
  final_header := by
    intro before later inner engine header hsplit hr hi
    rw [hsplit]
    exact final_header_claims r before later inner engine header hr hi
  logged := logging_claims_work r
  forwarded := forwarded_work
  refused := refused_work

end SessionObligations
