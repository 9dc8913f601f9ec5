import Mathlib.Data.List.Basic

/-! # Mounts over separated paths

A path is a list with a separator among its elements. A mount covers itself and every
path that continues it after a separator; a mount that already ends in one covers all
its continuations. Nothing here refers to a particular program. -/
namespace SlashPaths

variable {α : Type*} [DecidableEq α] (sep : α)

def closed (mount : List α) : List α :=
  if mount.getLast? = some sep then mount else mount ++ [sep]

def Covers (mount path : List α) : Prop := path = mount ∨ closed sep mount <+: path

/-- No path is covered by both mounts. -/
def Apart (mount mount' : List α) : Prop :=
  ∀ path, ¬ (Covers sep mount path ∧ Covers sep mount' path)

variable {sep}

theorem closed_of_last {mount : List α} (h : mount.getLast? = some sep) :
    closed sep mount = mount :=
  if_pos h

theorem closed_of_open {mount : List α} (h : mount.getLast? ≠ some sep) :
    closed sep mount = mount ++ [sep] :=
  if_neg h

theorem closed_last (sep : α) (mount : List α) : (closed sep mount).getLast? = some sep := by
  unfold closed
  split
  · assumption
  · simp

theorem mount_prefix_closed (sep : α) (mount : List α) : mount <+: closed sep mount := by
  unfold closed
  split
  · exact List.prefix_rfl
  · exact List.prefix_append mount [sep]

theorem covers_self (mount : List α) : Covers sep mount mount := .inl rfl

/-- Below the closed mount there is the closed mount itself and its continuations. -/
theorem covers_iff (mount path : List α) : Covers sep mount path ↔
    path = mount ∨ path = closed sep mount ∨
      ∃ rest, rest ≠ [] ∧ path = closed sep mount ++ rest := by
  refine or_congr_right ⟨?_, ?_⟩
  · rintro ⟨rest, rfl⟩
    rcases eq_or_ne rest [] with rfl | hne
    · exact .inl (List.append_nil _)
    · exact .inr ⟨rest, hne, rfl⟩
  · rintro (rfl | ⟨rest, -, rfl⟩)
    · exact List.prefix_rfl
    · exact List.prefix_append _ rest

theorem closed_append {mount : List α} (lead : List α) (h : mount ≠ []) :
    closed sep (lead ++ mount) = lead ++ closed sep mount := by
  unfold closed
  rw [List.getLast?_append_of_ne_nil lead h]
  split
  · rfl
  · exact List.append_assoc lead mount [sep]

/-- Coverage does not depend on what stands before both the mount and the path. -/
theorem covers_append {mount : List α} (lead path : List α) (h : mount ≠ []) :
    Covers sep (lead ++ mount) (lead ++ path) ↔ Covers sep mount path := by
  unfold Covers
  rw [closed_append lead h, List.prefix_append_right_inj, List.append_cancel_left_eq]

theorem starts_of_covers {mount path : List α} (hmount : mount.head? = some sep)
    (h : Covers sep mount path) : path.head? = some sep := by
  rcases h with rfl | ⟨rest, rfl⟩
  · exact hmount
  · obtain ⟨more, hmore⟩ := mount_prefix_closed sep mount
    rw [← hmore, List.append_assoc, List.head?_append, hmount]
    rfl

theorem exists_of_covers {mount path : List α} (lead : List α) (hmount : mount.head? = some sep)
    (h : Covers sep (lead ++ mount) path) :
    ∃ rest, path = lead ++ rest ∧ rest.head? = some sep := by
  have hne : mount ≠ [] := by
    rintro rfl
    cases hmount
  have hlead : lead <+: path := by
    rcases h with rfl | h
    · exact List.prefix_append lead mount
    · rw [closed_append lead hne] at h
      exact (List.prefix_append lead _).trans h
  obtain ⟨rest, rfl⟩ := hlead
  exact ⟨rest, rfl, starts_of_covers hmount ((covers_append lead rest hne).mp h)⟩

/-- The mount itself, or a prefix followed by a separator on either side of the cut. -/
theorem covers_iff_test (mount path : List α) : Covers sep mount path ↔
    mount = path ∨ mount <+: path ∧
      (mount.getLast? = some sep ∨ (path.drop mount.length).head? = some sep) := by
  unfold Covers
  rw [eq_comm]
  by_cases hlast : mount.getLast? = some sep
  · simp [closed_of_last hlast, hlast]
  · rw [closed_of_open hlast]
    refine or_congr_right ⟨?_, ?_⟩
    · rintro ⟨rest, rfl⟩
      refine ⟨⟨sep :: rest, by simp⟩, .inr (by simp)⟩
    · rintro ⟨⟨rest, rfl⟩, h | h⟩
      · exact absurd h hlast
      · rw [List.drop_left] at h
        obtain ⟨more, rfl⟩ := List.head?_eq_some_iff.mp h
        exact ⟨more, by simp⟩

theorem covers_trans {mount path path' : List α} (h : Covers sep mount path)
    (h' : Covers sep path path') : Covers sep mount path' := by
  rcases h with rfl | h
  · exact h'
  · rcases h' with rfl | h'
    · exact .inr h
    · exact .inr ((h.trans (mount_prefix_closed sep path)).trans h')

theorem covers_of_closed {mount mount' : List α}
    (h : closed sep mount <+: closed sep mount') :
    Covers sep mount mount' ∨ Covers sep mount' mount := by
  by_cases hlast : mount'.getLast? = some sep
  · rw [closed_of_last hlast] at h
    exact .inl (.inr h)
  · rw [closed_of_open hlast] at h
    rcases List.prefix_concat_iff.mp h with heq | h
    · -- The two mounts differ at most by the separator, and the open one covers the other.
      by_cases hlast' : mount.getLast? = some sep
      · rw [closed_of_last hlast'] at heq
        have hclosed : closed sep mount' = mount := (closed_of_open hlast).trans heq.symm
        exact .inr (.inr (hclosed ▸ List.prefix_rfl))
      · rw [closed_of_open hlast'] at heq
        exact .inl (.inl (List.append_cancel_right heq).symm)
    · exact .inl (.inr h)

theorem covers_comparable {mount mount' path : List α} (h : Covers sep mount path)
    (h' : Covers sep mount' path) : Covers sep mount mount' ∨ Covers sep mount' mount := by
  rcases h with rfl | h
  · exact .inr h'
  · rcases h' with rfl | h'
    · exact .inl (.inr h)
    · rcases List.prefix_or_prefix_of_prefix h h' with hle | hle
      · exact covers_of_closed hle
      · exact (covers_of_closed hle).symm

theorem apart_iff (mount mount' : List α) : Apart sep mount mount' ↔
    ¬ Covers sep mount mount' ∧ ¬ Covers sep mount' mount := by
  constructor
  · intro h
    exact ⟨fun hc => h mount' ⟨hc, covers_self mount'⟩, fun hc => h mount ⟨covers_self mount, hc⟩⟩
  · rintro ⟨hno, hno'⟩ path ⟨hc, hc'⟩
    exact (covers_comparable hc hc').elim hno hno'

instance (mount path : List α) : Decidable (Covers sep mount path) :=
  inferInstanceAs (Decidable (_ ∨ _))

instance (mount mount' : List α) : Decidable (Apart sep mount mount') :=
  decidable_of_iff _ (apart_iff mount mount').symm

theorem splitOn_injective {path path' : List α} (h : path.splitOn sep = path'.splitOn sep) :
    path = path' := by
  have hjoin := congrArg [sep].intercalate h
  rwa [List.intercalate_splitOn, List.intercalate_splitOn] at hjoin

omit [DecidableEq α] in
theorem intercalate_append {pieces pieces' : List (List α)} (h : pieces ≠ [])
    (h' : pieces' ≠ []) : [sep].intercalate (pieces ++ pieces') =
      [sep].intercalate pieces ++ sep :: [sep].intercalate pieces' := by
  induction pieces with
  | nil => exact absurd rfl h
  | cons piece pieces ih =>
    cases pieces with
    | nil => simp [List.intercalate_cons_of_ne_nil h']
    | cons next rest =>
      have hrest := ih (List.cons_ne_nil next rest)
      simp only [List.cons_append, List.intercalate_cons_cons] at hrest ⊢
      rw [hrest]
      simp

theorem splitOn_prefix_iff (mount path : List α) :
    mount.splitOn sep <+: path.splitOn sep ↔ path = mount ∨ mount ++ [sep] <+: path := by
  constructor
  · rintro ⟨rest, hrest⟩
    by_cases hnil : rest = []
    · subst hnil
      exact .inl (splitOn_injective (hrest.symm.trans (List.append_nil _)))
    · have hjoin := congrArg [sep].intercalate hrest
      rw [List.intercalate_splitOn, intercalate_append (List.splitOn_ne_nil sep mount) hnil,
        List.intercalate_splitOn] at hjoin
      exact .inr ⟨[sep].intercalate rest, by simpa using hjoin⟩
  · rintro (rfl | ⟨rest, rfl⟩)
    · exact List.prefix_rfl
    · rw [List.append_assoc]
      exact ⟨rest.splitOn sep, (List.splitOn_append_cons_self mount rest).symm⟩

/-- A mount that ends in a separator asks for one more segment than it names. -/
theorem covers_iff_splitOn (mount path : List α) : Covers sep mount path ↔
    if mount.getLast? = some sep then
      (mount.splitOn sep).dropLast <+: path.splitOn sep ∧
        (mount.splitOn sep).length ≤ (path.splitOn sep).length
    else mount.splitOn sep <+: path.splitOn sep := by
  by_cases hlast : mount.getLast? = some sep
  · obtain ⟨lead, rfl⟩ := List.getLast?_eq_some_iff.mp hlast
    have hsplit : (lead ++ [sep]).splitOn sep = lead.splitOn sep ++ [[]] := by
      rw [List.splitOn_append_cons_self lead [], List.splitOn_nil]
    have hcovers : Covers sep (lead ++ [sep]) path ↔ lead ++ [sep] <+: path := by
      unfold Covers
      rw [closed_of_last hlast]
      exact or_iff_right_of_imp fun heq => heq ▸ List.prefix_rfl
    rw [if_pos hlast, hsplit, List.dropLast_concat, splitOn_prefix_iff, hcovers]
    constructor
    · rintro ⟨rest, rfl⟩
      refine ⟨.inr (List.prefix_append _ rest), ?_⟩
      rw [List.append_assoc, List.singleton_append, List.splitOn_append_cons_self]
      have hpos := List.length_pos_iff.mpr (List.splitOn_ne_nil sep rest)
      simp only [List.length_append, List.length_singleton]
      omega
    · rintro ⟨rfl | h, hlength⟩
      · simp only [List.length_append, List.length_singleton] at hlength
        omega
      · exact h
  · rw [if_neg hlast, splitOn_prefix_iff, Covers, closed_of_open hlast]

end SlashPaths
