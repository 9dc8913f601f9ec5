import HuskarlPingora.TracedHooks

/-! # Dispatch to a selected branch

A dispatcher asks a selector once, keeps the branch it chose in a slot beside the state,
and hands every later hook to that branch. Nothing here refers to a particular program. -/
namespace BranchDispatch

open TracedHooks

variable {ε σ τ ρ κ α : Type}

structure Slotted (σ ρ : Type) where
  state : σ
  slot : Option ρ

def seenWith (slot : Option ρ) (r : Ran ε σ τ α) : Ran ε (Slotted σ ρ) τ α :=
  ⟨r.exit, ⟨r.state, slot⟩, r.events⟩

def within (m : Hook ε σ τ α) : Hook ε (Slotted σ ρ) τ α :=
  fun s => seenWith s.slot (m.run s.state)

def dispatch (select : Hook ε σ τ (Option ρ)) (fallback : ρ) (enter : ρ → Hook ε σ τ α) :
    Hook ε (Slotted σ ρ) τ α := do
  let selected ← within select
  update fun s => { s with slot := some (selected.getD fallback) }
  within (enter (selected.getD fallback))

def deliver (fallback : ρ) (hook : ρ → Hook ε σ τ α) : Hook ε (Slotted σ ρ) τ α :=
  fun s => (within (hook (s.slot.getD fallback))).run s

@[simp] theorem run_within (m : Hook ε σ τ α) (s : Slotted σ ρ) :
    (within m).run s = seenWith s.slot (m.run s.state) := rfl

@[simp] theorem seenWith_exit (slot : Option ρ) (r : Ran ε σ τ α) :
    (seenWith slot r).exit = r.exit := rfl
@[simp] theorem seenWith_events (slot : Option ρ) (r : Ran ε σ τ α) :
    (seenWith slot r).events = r.events := rfl
@[simp] theorem seenWith_state (slot : Option ρ) (r : Ran ε σ τ α) :
    (seenWith slot r).state = ⟨r.state, slot⟩ := rfl

def unslotted (r : Ran ε (Slotted σ ρ) τ α) : Ran ε σ τ α := ⟨r.exit, r.state.state, r.events⟩

@[simp] theorem unslotted_seenWith (slot : Option ρ) (r : Ran ε σ τ α) :
    unslotted (seenWith slot r) = r := rfl

theorem seenWith_andThen {β : Type} {slot : Option ρ} (r : Ran ε σ τ α)
    {k : α → Slotted σ ρ → Ran ε (Slotted σ ρ) τ β} {k' : α → σ → Ran ε σ τ β}
    (h : ∀ a s, k a ⟨s, slot⟩ = seenWith slot (k' a s)) :
    (seenWith slot r).andThen k = seenWith slot (r.andThen k') := by
  unfold Ran.andThen
  rw [seenWith_exit]
  cases r.exit with
  | done a =>
    simp only [seenWith_state, seenWith_events, h]
    rfl
  | failed e => rfl
  | cancelled => rfl

section Dispatch

variable {select : Hook ε σ τ (Option ρ)} {fallback : ρ} {enter : ρ → Hook ε σ τ α}
  {s s' : σ} {slot : Option ρ} {es : List τ}

theorem run_dispatch_failed {e : ε} (h : select.run s = ⟨.failed e, s', es⟩) :
    (dispatch select fallback enter).run ⟨s, slot⟩ = ⟨.failed e, ⟨s', slot⟩, es⟩ := by
  simp [dispatch, h, seenWith]

/-- A selected branch is recorded, and then runs as it would alone. -/
theorem run_dispatch_done {selected : Option ρ} (h : select.run s = ⟨.done selected, s', es⟩) :
    (dispatch select fallback enter).run ⟨s, slot⟩ =
      seenWith (some (selected.getD fallback))
        (((enter (selected.getD fallback)).run s').after es) := by
  simp [dispatch, h, seenWith, Ran.after]

end Dispatch

section Later

variable {fallback branch : ρ} {hook : κ → ρ → Hook ε σ τ α}
  {perform : κ → Hook ε (Slotted σ ρ) τ α}

def Delivers (fallback branch : ρ) (hook : κ → ρ → Hook ε σ τ α)
    (perform : κ → Hook ε (Slotted σ ρ) τ α) : Prop :=
  ∀ c s, (perform c).run ⟨s, some branch⟩ = (deliver fallback (hook c)).run ⟨s, some branch⟩

theorem Delivers.run (h : Delivers fallback branch hook perform) (c : κ) (s : σ) :
    (perform c).run ⟨s, some branch⟩ = seenWith (some branch) ((hook c branch).run s) :=
  h c s

/-- Whatever hooks follow, they run as those of the recorded branch, which stays recorded. -/
theorem final_delivered (h : Delivers fallback branch hook perform) (calls : List κ) (s : σ) :
    final perform calls ⟨s, some branch⟩ =
      ⟨final (fun c => hook c branch) calls s, some branch⟩ := by
  induction calls generalizing s with
  | nil => rfl
  | cons c calls ih =>
    rw [final, h.run, seenWith_state, ih]
    rfl

theorem trace_delivered (h : Delivers fallback branch hook perform) (calls : List κ) (s : σ) :
    trace perform calls ⟨s, some branch⟩ = trace (fun c => hook c branch) calls s := by
  induction calls generalizing s with
  | nil => rfl
  | cons c calls ih =>
    rw [trace_cons, trace_cons, h.run, seenWith_events, seenWith_state, ih]

theorem records_delivered (h : Delivers fallback branch hook perform) (calls : List κ) (s : σ) :
    (records perform calls ⟨s, some branch⟩).map unslotted =
      records (fun c => hook c branch) calls s := by
  induction calls generalizing s with
  | nil => rfl
  | cons c calls ih =>
    simp only [records, List.map_cons, h.run, unslotted_seenWith, seenWith_state, ih]

end Later

end BranchDispatch
