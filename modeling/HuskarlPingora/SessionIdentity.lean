import HuskarlPingora.SessionObligations

/-! # Session identity

The session an application sees is the loaded one, in every hook of the request and
whatever happened to the work owed for it. Engine calls made later still use the
request headers of the load. -/
namespace SessionIdentity

open HttpModel LoginContext LoginAdapter SessionLedger LoginAccess LoginLifecycle
open SessionObligations TracedHooks

variable {S : Type}

structure IdentityKept (r : Request S) : Prop where
  entry : ∀ st, .innerRequestFilter st ∈ r.events → st.session = r.loadedSession
  hooks : r.Entered → ∀ st ∈ seenBy r.events, st.session = r.loadedSession
  contexts : r.Entered → ∀ calls, (r.after calls).ctx.session = r.loadedSession
  /-- A refused request never had a session in its context. -/
  refused : ¬ r.Entered → (∀ st ∈ seenBy r.events, st.session = none) ∧
    ∀ calls, (r.after calls).ctx.session = none
  terminates : ∀ session headers, .terminateSession session headers ∈ r.events →
    r.loadedSession = some session ∧ headers = r.headers
  commits : ∀ pending headers, .commit pending headers ∈ r.events →
    r.loadedPending = some pending ∧ headers = r.headers
  loads : ∀ headers, .loadSession headers ∈ r.events → headers = r.headers

theorem seen_forwarded {r : Request S} (h : r.Entered) :
    ∀ st ∈ seenBy r.events, st.session = r.loadedSession := by
  obtain ⟨head, st₀, rest, b⟩ := run_books r
  obtain ⟨hsession, -, -⟩ := b.opening h
  obtain ⟨pre, rfl, hopen⟩ := b.entered_iff.mp h
  intro st hst
  rw [b.split, seenBy_append, seenBy_append, hopen.quiet.seen] at hst
  rcases List.mem_append.mp hst with hst | hst
  · obtain rfl : st = st₀ := by simpa [seen] using hst
    exact hsession
  · exact ((b.tracks r.calls).seen st hst).trans hsession

theorem seen_refused {r : Request S} (h : ¬ r.Entered) :
    ∀ st ∈ seenBy r.events, st.session = none := by
  obtain ⟨head, st₀, rest, b⟩ := run_books r
  obtain ⟨hrefuse, rfl, -⟩ := b.refusal h
  intro st hst
  rw [b.split, seenBy_append, hrefuse.seen] at hst
  exact (b.tracks r.calls).seen st hst

theorem mem_loadCalls {es : List (Event S)} {headers : HeaderMap} :
    .loadSession headers ∈ es ↔ headers ∈ loadCalls es := by
  rw [loadCalls, List.mem_filterMap]
  constructor
  · exact fun h => ⟨_, h, rfl⟩
  · rintro ⟨e, he, hheaders⟩
    cases e <;> simp_all

theorem calls_only_in_gate (r : Request S) :
    enteredWith r.events = enteredWith r.gate.events ∧
      loadCalls r.events = loadCalls r.gate.events := by
  have hnot := calls_of_not_gate (path_not_gate (path_calls r [] r.calls))
  obtain ⟨hentered, hloads⟩ := calls_append r.gate.events (r.eventsAfter [] r.calls)
  rw [Request.events, hentered, hloads, hnot.1, hnot.2]
  simp

/-- The loaded session and the headers of the load survive every hook of the request. -/
theorem session_identity_kept (r : Request S) : IdentityKept r where
  entry := by
    intro st hst
    have hgate : .innerRequestFilter st ∈ r.gate.events := by
      rw [mem_enteredWith, ← (calls_only_in_gate r).1, ← mem_enteredWith]
      exact hst
    refine seen_forwarded ⟨st, hgate⟩ st ?_
    exact List.mem_flatMap.mpr ⟨_, hst, by simp [seen]⟩
  hooks := seen_forwarded
  contexts := by
    intro h calls
    obtain ⟨head, st₀, rest, b⟩ := run_books r
    exact (b.tracks calls).session.trans (b.opening h).1
  refused := by
    intro h
    refine ⟨seen_refused h, fun calls => ?_⟩
    obtain ⟨head, st₀, rest, b⟩ := run_books r
    obtain ⟨-, rfl, -⟩ := b.refusal h
    exact (b.tracks calls).session
  terminates := (owned_run r).terminates
  commits := (owned_run r).commits
  loads := by
    intro headers h
    rw [mem_loadCalls, (calls_only_in_gate r).2] at h
    exact loadCalls_needed (gate_calls r.proxy r.session r.response).loads headers h

end SessionIdentity
