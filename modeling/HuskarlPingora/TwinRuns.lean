import HuskarlPingora.EventMonitors

/-! # Two runs side by side

Two hooks are alike if, from related states, they end the same way, show the same events
and leave related states. Some events may be hidden from the comparison. Nothing here
refers to a particular program. -/
namespace TwinRuns

open TracedHooks EventMonitors

variable {ε σ τ ν : Type} {α β : Type}

structure SameRun (R : σ → σ → Prop) (vis : τ → Option ν) (r r' : Ran ε σ τ α) : Prop where
  exit : r.exit = r'.exit
  shown : r.events.filterMap vis = r'.events.filterMap vis
  state : R r.state r'.state

def Alike (R : σ → σ → Prop) (vis : τ → Option ν) (m m' : Hook ε σ τ α) : Prop :=
  ∀ s s', R s s' → SameRun R vis (m.run s) (m'.run s')

variable {R : σ → σ → Prop} {vis : τ → Option ν}

section Rules

theorem alike_pure (a : α) : Alike R vis (pure a : Hook ε σ τ α) (pure a) :=
  fun _ _ h => ⟨rfl, rfl, h⟩

theorem Alike.bind {m m' : Hook ε σ τ α} {f f' : α → Hook ε σ τ β} (hm : Alike R vis m m')
    (hf : ∀ a, Alike R vis (f a) (f' a)) : Alike R vis (m >>= f) (m' >>= f') := by
  intro s s' h
  obtain ⟨hexit, hshown, hstate⟩ := hm s s' h
  rw [run_bind, run_bind]
  unfold Ran.andThen
  cases hx : (m'.run s').exit with
  | done a =>
    rw [hexit.trans hx]
    obtain ⟨hexit', hshown', hstate'⟩ := hf a _ _ hstate
    refine ⟨hexit', ?_, hstate'⟩
    simp only [after_events, List.filterMap_append, hshown, hshown']
  | failed e =>
    rw [hexit.trans hx]
    exact ⟨rfl, hshown, hstate⟩
  | cancelled =>
    rw [hexit.trans hx]
    exact ⟨rfl, hshown, hstate⟩

theorem alike_read {f f' : σ → Hook ε σ τ α}
    (h : ∀ s s', R s s' → Alike R vis (f s) (f' s')) : Alike R vis (read >>= f) (read >>= f') := by
  intro s s' hr
  exact h s s' hr s s' hr

theorem alike_update {f f' : σ → σ} (h : ∀ s s', R s s' → R (f s) (f' s')) :
    Alike R vis (update f : Hook ε σ τ Unit) (update f') :=
  fun s s' hr => ⟨rfl, rfl, h s s' hr⟩

theorem alike_emit {e e' : τ} (h : vis e = vis e') :
    Alike R vis (emit e : Hook ε σ τ Unit) (emit e') := by
  refine fun s s' hr => ⟨rfl, ?_, hr⟩
  rw [run_emit, run_emit]
  simp only [List.filterMap_cons, h]

theorem alike_await (x : Await α) : Alike R vis (await x : Hook ε σ τ α) (await x) := by
  intro s s' hr
  cases x with
  | ready a => exact ⟨rfl, rfl, hr⟩
  | dropped => exact ⟨rfl, rfl, hr⟩

theorem alike_attempt (x : Except ε α) : Alike R vis (attempt x : Hook ε σ τ α) (attempt x) := by
  intro s s' hr
  cases x with
  | ok a => exact ⟨rfl, rfl, hr⟩
  | error e => exact ⟨rfl, rfl, hr⟩

theorem alike_fail (e : ε) : Alike R vis (fail e : Hook ε σ τ α) (fail e) :=
  fun _ _ hr => ⟨rfl, rfl, hr⟩

end Rules

/-- The two may end differently, with nothing left to show. -/
def Trails (R R' : σ → σ → Prop) (vis : τ → Option ν) (m m' : Hook ε σ τ α) : Prop :=
  ∀ s s', R s s' → (m.run s).events.filterMap vis = (m'.run s').events.filterMap vis ∧
    R' (m.run s).state (m'.run s').state

variable {R' : σ → σ → Prop}

theorem Alike.trails {m m' : Hook ε σ τ α} (h : Alike R vis m m') (hr : ∀ s s', R s s' → R' s s') :
    Trails R R' vis m m' :=
  fun s s' hs => ⟨(h s s' hs).shown, hr _ _ (h s s' hs).state⟩

theorem Trails.after {m m' : Hook ε σ τ α} {f f' : α → Hook ε σ τ β} (hm : Alike R vis m m')
    (hr : ∀ s s', R s s' → R' s s') (hf : ∀ a, Trails R R' vis (f a) (f' a)) :
    Trails R R' vis (m >>= f) (m' >>= f') := by
  intro s s' h
  obtain ⟨hexit, hshown, hstate⟩ := hm s s' h
  rw [run_bind, run_bind]
  unfold Ran.andThen
  cases hx : (m'.run s').exit with
  | done a =>
    rw [hexit.trans hx]
    obtain ⟨hshown', hstate'⟩ := hf a _ _ hstate
    refine ⟨?_, hstate'⟩
    simp only [after_events, List.filterMap_append, hshown, hshown']
  | failed e =>
    rw [hexit.trans hx]
    exact ⟨hshown, hr _ _ hstate⟩
  | cancelled =>
    rw [hexit.trans hx]
    exact ⟨hshown, hr _ _ hstate⟩

theorem trails_read {f f' : σ → Hook ε σ τ α}
    (h : ∀ s s', R s s' → Trails R R' vis (f s) (f' s')) :
    Trails R R' vis (read >>= f) (read >>= f') := by
  intro s s' hr
  exact h s s' hr s s' hr

theorem trails_hidden {m m' : Hook ε σ τ α} (hm : Emits (vis · = none) m)
    (hm' : Emits (vis · = none) m')
    (hr : ∀ s s', R s s' → R' (m.run s).state (m'.run s').state) : Trails R R' vis m m' := by
  intro s s' hs
  refine ⟨?_, hr s s' hs⟩
  rw [List.filterMap_eq_nil_iff.mpr (hm s), List.filterMap_eq_nil_iff.mpr (hm' s')]

/-- Call by call, however each of them ends. -/
theorem alike_records {κ : Type} {perform perform' : κ → Hook ε σ τ α} {cs : List κ}
    (h : ∀ c ∈ cs, Alike R vis (perform c) (perform' c)) {s s' : σ} (hr : R s s') :
    List.Forall₂ (SameRun R vis) (records perform cs s) (records perform' cs s') := by
  induction cs generalizing s s' with
  | nil => exact .nil
  | cons c cs ih =>
    have hsame := h c List.mem_cons_self s s' hr
    exact .cons hsame (ih (fun d hd => h d (List.mem_cons_of_mem c hd)) hsame.state)

theorem alike_run {κ : Type} {perform perform' : κ → Hook ε σ τ α} {cs : List κ}
    (h : ∀ c ∈ cs, Alike R vis (perform c) (perform' c)) {s s' : σ} (hr : R s s') :
    (trace perform cs s).filterMap vis = (trace perform' cs s').filterMap vis ∧
      R (final perform cs s) (final perform' cs s') := by
  induction cs generalizing s s' with
  | nil => exact ⟨rfl, hr⟩
  | cons c cs ih =>
    obtain ⟨-, hshown, hstate⟩ := h c List.mem_cons_self s s' hr
    obtain ⟨hrest, hlast⟩ := ih (fun d hd => h d (List.mem_cons_of_mem c hd)) hstate
    rw [trace_cons, trace_cons, List.filterMap_append, List.filterMap_append, hshown, hrest]
    exact ⟨rfl, hlast⟩

end TwinRuns
