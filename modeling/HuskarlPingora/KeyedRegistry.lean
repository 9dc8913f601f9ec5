import Mathlib.Data.List.Basic
import Mathlib.Data.List.Perm.Basic
import Mathlib.Data.List.Nodup

/-! # Registries of keyed entries

Entries are added one after the other. All of them belong to one group and no two
share a key. A lookup by key then does not depend on the order of registration.
Nothing here refers to a particular program. -/
namespace KeyedRegistry

variable {α κ γ : Type*} (group : α → γ) (key : α → κ)

structure Coherent (entries : List α) : Prop where
  grouped : ∀ a ∈ entries, ∀ b ∈ entries, group a = group b
  distinct : (entries.map key).Nodup

variable {group key}

theorem coherent_nil : Coherent group key [] where
  grouped := by simp
  distinct := List.nodup_nil

theorem Coherent.perm {entries entries' : List α} (hp : entries.Perm entries')
    (h : Coherent group key entries) : Coherent group key entries' where
  grouped := fun a ha b hb => h.grouped a (hp.mem_iff.mpr ha) b (hp.mem_iff.mpr hb)
  distinct := (hp.map key).nodup_iff.mp h.distinct

theorem coherent_perm {entries entries' : List α} (hp : entries.Perm entries') :
    Coherent group key entries ↔ Coherent group key entries' :=
  ⟨Coherent.perm hp, Coherent.perm hp.symm⟩

/-- One more entry need only be compared with the first group and with every key. -/
theorem coherent_concat {entries : List α} {entry : α} (h : Coherent group key entries) :
    Coherent group key (entries ++ [entry]) ↔
      (∀ first, entries.head? = some first → group first = group entry) ∧
        ∀ a ∈ entries, key a ≠ key entry := by
  constructor
  · intro hall
    refine ⟨fun first hfirst => ?_, fun a ha heq => ?_⟩
    · have hmem : first ∈ entries := List.mem_of_mem_head? hfirst
      exact hall.grouped first (by simp [hmem]) entry (by simp)
    · have hdistinct := hall.distinct
      rw [List.map_append, List.nodup_append] at hdistinct
      exact hdistinct.2.2 (key a) (List.mem_map_of_mem ha) (key entry) (by simp) heq
  · rintro ⟨hgroup, hkey⟩
    have hentry : ∀ a ∈ entries, group a = group entry := by
      intro a ha
      obtain ⟨first, rest, rfl⟩ := List.exists_cons_of_ne_nil (List.ne_nil_of_mem ha)
      exact (h.grouped a ha first (by simp)).trans (hgroup first rfl)
    constructor
    · intro a ha b hb
      rw [List.mem_append, List.mem_singleton] at ha hb
      rcases ha with ha | rfl <;> rcases hb with hb | rfl
      · exact h.grouped a ha b hb
      · exact hentry a ha
      · exact (hentry b hb).symm
      · rfl
    · rw [List.map_append, List.nodup_append]
      refine ⟨h.distinct, by simp, ?_⟩
      intro k hk k' hk' heq
      obtain ⟨a, ha, rfl⟩ := List.mem_map.mp hk
      rw [List.map_singleton, List.mem_singleton] at hk'
      exact hkey a ha (heq.trans hk')

theorem Coherent.of_append {entries more : List α} (h : Coherent group key (entries ++ more)) :
    Coherent group key entries where
  grouped := fun a ha b hb => h.grouped a (by simp [ha]) b (by simp [hb])
  distinct := by
    have hdistinct := h.distinct
    rw [List.map_append, List.nodup_append] at hdistinct
    exact hdistinct.1

section Lookup

variable {entries entries' : List α} {p : α → Bool}

def Selects (key : α → κ) (p : α → Bool) : Prop := ∀ a b, p a = true → p b = true → key a = key b

theorem Coherent.unique (h : Coherent group key entries) (hp : Selects key p) {a b : α}
    (ha : a ∈ entries) (hb : b ∈ entries) (hpa : p a = true) (hpb : p b = true) : a = b :=
  List.inj_on_of_nodup_map h.distinct ha hb (hp a b hpa hpb)

theorem Coherent.find_eq (h : Coherent group key entries) (hp : Selects key p) {a : α}
    (ha : a ∈ entries) (hpa : p a = true) : entries.find? p = some a := by
  cases hfind : entries.find? p with
  | none =>
    rw [List.find?_eq_none] at hfind
    exact absurd hpa (hfind a ha)
  | some b =>
    have hmem := List.mem_of_find?_eq_some hfind
    have hpb := List.find?_some hfind
    rw [h.unique hp hmem ha hpb hpa]

theorem Coherent.find_perm (h : Coherent group key entries) (hp : Selects key p)
    (hperm : entries.Perm entries') : entries.find? p = entries'.find? p := by
  cases hfind : entries.find? p with
  | none =>
    rw [List.find?_eq_none] at hfind
    rw [eq_comm, List.find?_eq_none]
    intro a ha
    exact hfind a (hperm.mem_iff.mpr ha)
  | some a =>
    have hmem := hperm.mem_iff.mp (List.mem_of_find?_eq_some hfind)
    rw [(h.perm hperm).find_eq hp hmem (List.find?_some hfind)]

/-- At most one entry passes, counting repetitions. -/
theorem Coherent.filter_le (h : Coherent group key entries) (hp : Selects key p) :
    (entries.filter p).length ≤ 1 := by
  have hnodup : (entries.filter p).Nodup := (h.distinct.of_map key).filter p
  by_contra hlong
  obtain ⟨a, b, rest, heq⟩ : ∃ a b rest, entries.filter p = a :: b :: rest := by
    match hf : entries.filter p with
    | [] => simp [hf] at hlong
    | [a] => simp [hf] at hlong
    | a :: b :: rest => exact ⟨a, b, rest, rfl⟩
  have hmem : ∀ c ∈ [a, b], c ∈ entries ∧ p c = true := by
    intro c hc
    refine List.mem_filter.mp ?_
    rw [heq]
    rcases List.mem_cons.mp hc with rfl | hc
    · simp
    · simp [List.mem_singleton.mp hc]
  obtain ⟨ha, hpa⟩ := hmem a (by simp)
  obtain ⟨hb, hpb⟩ := hmem b (by simp)
  rw [heq, h.unique hp ha hb hpa hpb] at hnodup
  simp at hnodup

end Lookup

end KeyedRegistry
