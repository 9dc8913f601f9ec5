import Mathlib.Data.List.Basic

/-! # Chains of builder calls

A builder is a record that each call of a chain changes in one field. What a field holds
after a whole chain follows from what one call does to it. The entries of a table are
validated in order, so a refusal names the first entry at fault. Nothing here refers to
a particular program. -/
namespace BuilderChains

section Fields

variable {σ κ α : Type*} {call : σ → κ → σ}

theorem foldl_unchanged (field : σ → α) (h : ∀ s c, field (call s c) = field s) (calls : List κ)
    (s : σ) : field (calls.foldl call s) = field s := by
  induction calls generalizing s with
  | nil => rfl
  | cons c calls ih => rw [List.foldl_cons, ih, h]

/-- A field that calls extend holds everything they supplied, in call order. -/
theorem foldl_extended (field : σ → List α) {given : κ → List α}
    (h : ∀ s c, field (call s c) = field s ++ given c) (calls : List κ) (s : σ) :
    field (calls.foldl call s) = field s ++ calls.flatMap given := by
  induction calls generalizing s with
  | nil => simp
  | cons c calls ih => rw [List.foldl_cons, ih, h, List.flatMap_cons, List.append_assoc]

theorem foldl_last (field : σ → α) {given : κ → Option α}
    (h : ∀ s c, field (call s c) = (given c).getD (field s)) (calls : List κ) (s : σ) :
    field (calls.foldl call s) = (calls.filterMap given).getLast?.getD (field s) := by
  induction calls generalizing s with
  | nil => rfl
  | cons c calls ih =>
    rw [List.foldl_cons, ih, h]
    cases hc : given c with
    | none => simp [hc]
    | some a => simp [hc, List.getLast?_cons]

theorem foldl_invariant {P : σ → Prop} (keeps : ∀ s c, P s → P (call s c)) (calls : List κ) {s : σ}
    (hs : P s) : P (calls.foldl call s) := by
  induction calls generalizing s with
  | nil => exact hs
  | cons c calls ih => exact ih (keeps s c hs)

/-! A field that only some builders have is known as long as the chain stays with them. -/

section Kept

variable {P : σ → Prop} (keeps : ∀ s c, P s → P (call s c))

include keeps

theorem foldl_last_option (field : σ → Option α) {given : κ → Option α}
    (h : ∀ s c, P s → field (call s c) = (given c).or (field s)) (calls : List κ) {s : σ}
    (hs : P s) : field (calls.foldl call s) = (calls.filterMap given).getLast?.or (field s) := by
  induction calls generalizing s with
  | nil => rfl
  | cons c calls ih =>
    rw [List.foldl_cons, ih (keeps s c hs), h s c hs]
    cases hc : given c with
    | none => simp [hc]
    | some a =>
      rw [List.filterMap_cons_some hc, List.getLast?_cons]
      cases (calls.filterMap given).getLast? <;> rfl

theorem foldl_flag (flag : σ → Bool) {raises : κ → Bool}
    (h : ∀ s c, P s → flag (call s c) = (flag s || raises c)) (calls : List κ) {s : σ}
    (hs : P s) : flag (calls.foldl call s) = (flag s || calls.any raises) := by
  induction calls generalizing s with
  | nil => simp
  | cons c calls ih =>
    rw [List.foldl_cons, ih (keeps s c hs), h s c hs, List.any_cons, Bool.or_assoc]

end Kept

end Fields

section Tables

variable {ν ρ : Type*}

/-- Every entry before the one with this name is sound, and it is not. -/
def FirstFault (faulty : ρ → Prop) (entries : List (ν × ρ)) (name : ν) : Prop :=
  ∃ before entry after, entries = before ++ (name, entry) :: after ∧ faulty entry ∧
    ∀ earlier ∈ before, ¬ faulty earlier.2

theorem find?_firstFault (faulty : ρ → Bool) (entries : List (ν × ρ)) (name : ν) :
    (entries.find? fun entry => faulty entry.2).map Prod.fst = some name ↔
      FirstFault (fun entry => faulty entry = true) entries name := by
  constructor
  · intro h
    obtain ⟨⟨name', entry⟩, hfind, rfl⟩ := Option.map_eq_some_iff.mp h
    obtain ⟨hfault, before, after, heq, hbefore⟩ := List.find?_eq_some_iff_append.mp hfind
    exact ⟨before, entry, after, heq, hfault, by simpa using hbefore⟩
  · rintro ⟨before, entry, after, heq, hfault, hbefore⟩
    have hfind : entries.find? (fun entry => faulty entry.2) = some (name, entry) :=
      List.find?_eq_some_iff_append.mpr ⟨hfault, before, after, heq, by simpa using hbefore⟩
    rw [hfind]
    rfl

/-- A table that is scanned before its default, whose entry has a name of its own. -/
theorem firstFault_concat {κ : Type*} (faulty : ρ → Bool) (table : List (κ × ν × ρ)) (default : ρ)
    (last name : ν) : FirstFault (fun entry => faulty entry = true)
      (table.map (fun row => row.2) ++ [(last, default)]) name ↔
      match table.find? fun row => faulty row.2.2 with
      | some row => row.2.1 = name
      | none => faulty default = true ∧ last = name := by
  rw [← find?_firstFault, List.find?_append, List.find?_map]
  simp only [Function.comp_def]
  cases table.find? fun row => faulty row.2.2 with
  | some row => simp
  | none =>
    by_cases hdefault : faulty default = true
    · simp [hdefault]
    · simp [hdefault]

theorem exists_firstFault {faulty : ρ → Prop} {entries : List (ν × ρ)} :
    (∃ name, FirstFault faulty entries name) ↔ ∃ entry ∈ entries, faulty entry.2 := by
  constructor
  · rintro ⟨name, before, entry, after, rfl, hfault, -⟩
    exact ⟨(name, entry), by simp, hfault⟩
  · intro h
    induction entries with
    | nil => simp at h
    | cons entry entries ih =>
      by_cases hfault : faulty entry.2
      · exact ⟨entry.1, [], entry.2, entries, rfl, hfault, by simp⟩
      · have hrest : ∃ entry ∈ entries, faulty entry.2 := by simpa [hfault] using h
        obtain ⟨name, before, entry', after, rfl, hfault', hbefore⟩ := ih hrest
        refine ⟨name, entry :: before, entry', after, rfl, hfault', ?_⟩
        intro earlier hearlier
        rcases List.mem_cons.mp hearlier with rfl | hearlier
        · exact hfault
        · exact hbefore earlier hearlier

theorem firstFault_map {ρ' : Type*} {faulty : ρ → Prop} {faulty' : ρ' → Prop} {f : ρ' → ρ}
    (h : ∀ entry, faulty (f entry) ↔ faulty' entry) (entries : List (ν × ρ')) (name : ν) :
    FirstFault faulty (entries.map fun entry => (entry.1, f entry.2)) name ↔
      FirstFault faulty' entries name := by
  constructor
  · rintro ⟨before, entry, after, heq, hfault, hbefore⟩
    obtain ⟨before', rest, rfl, rfl, hrest⟩ := List.map_eq_append_iff.mp heq
    obtain ⟨entry', after', rfl, hentry, rfl⟩ := List.map_eq_cons_iff.mp hrest
    obtain ⟨rfl, rfl⟩ := Prod.mk.inj hentry
    refine ⟨before', entry'.2, after', rfl, (h entry'.2).mp hfault, ?_⟩
    intro earlier hearlier hfaulty
    exact hbefore _ (List.mem_map_of_mem hearlier) ((h earlier.2).mpr hfaulty)
  · rintro ⟨before, entry, after, rfl, hfault, hbefore⟩
    refine ⟨before.map fun entry => (entry.1, f entry.2), f entry,
      after.map fun entry => (entry.1, f entry.2), by simp, (h entry).mpr hfault, ?_⟩
    intro earlier hearlier
    obtain ⟨entry', hmem, rfl⟩ := List.mem_map.mp hearlier
    rw [h]
    exact hbefore entry' hmem

end Tables

end BuilderChains
