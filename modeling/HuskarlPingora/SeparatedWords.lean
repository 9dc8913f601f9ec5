import Mathlib.Data.List.Basic

/-! # Words between separators

A list is read as the words that stand between its separators. Joining words with a
separator and reading the result back gives the same words when each of them is one. -/
namespace SeparatedWords

variable {α : Type*} {p : α → Bool}

def words (p : α → Bool) (l : List α) : List (List α) :=
  (l.splitOnP p).filter fun word => !word.isEmpty

/-- A word has an element, and none of its elements separates. -/
structure IsWord (p : α → Bool) (w : List α) : Prop where
  nonempty : w ≠ []
  unseparated : ∀ x ∈ w, p x = false

theorem words_nil : words p ([] : List α) = [] := by
  simp [words, List.splitOnP_nil]

theorem words_append_cons (xs ys : List α) {sep : α} (h : p sep = true) :
    words p (xs ++ sep :: ys) = words p xs ++ words p ys := by
  rw [words, List.splitOnP_append_cons xs ys h, List.filter_append]
  rfl

theorem words_of_isWord {w : List α} (h : IsWord p w) : words p w = [w] := by
  have hw : (!w.isEmpty) = true := by simpa using h.nonempty
  rw [words, List.splitOnP_eq_singleton h.unseparated, List.filter_cons, if_pos hw]
  rfl

theorem unseparated_of_mem_split {l part : List α} (h : part ∈ l.splitOnP p) :
    ∀ x ∈ part, p x = false := by
  induction l generalizing part with
  | nil =>
    obtain rfl : part = [] := by simpa [List.splitOnP_nil] using h
    simp
  | cons y l ih =>
    rw [List.splitOnP_cons_eq_if_modifyHead] at h
    obtain ⟨first, rest, hsplit⟩ := List.exists_cons_of_ne_nil (List.splitOnP_ne_nil p l)
    rw [hsplit] at h ih
    cases hy : p y with
    | true =>
      rw [hy, if_pos rfl] at h
      rcases List.mem_cons.mp h with rfl | h
      · simp
      · exact ih h
    | false =>
      rw [hy, if_neg (by simp), List.modifyHead_cons] at h
      rcases List.mem_cons.mp h with rfl | h
      · intro x hx
        rcases List.mem_cons.mp hx with rfl | hx
        · exact hy
        · exact ih List.mem_cons_self x hx
      · exact ih (List.mem_cons_of_mem _ h)

theorem isWord_of_mem {l w : List α} (h : w ∈ words p l) : IsWord p w := by
  obtain ⟨hsplit, hne⟩ := List.mem_filter.mp h
  exact ⟨by simpa using hne, unseparated_of_mem_split hsplit⟩

theorem words_intercalate {sep : α} (h : p sep = true) (parts : List (List α)) :
    words p ([sep].intercalate parts) = parts.flatMap (words p) := by
  induction parts with
  | nil => exact words_nil
  | cons part parts ih =>
    cases parts with
    | nil => simp
    | cons next rest =>
      rw [List.intercalate_cons_cons, List.append_assoc, List.singleton_append,
        words_append_cons _ _ h, ih]
      rfl

theorem flatMap_words {ws : List (List α)} (h : ∀ w ∈ ws, IsWord p w) :
    ws.flatMap (words p) = ws := by
  induction ws with
  | nil => rfl
  | cons w ws ih =>
    rw [List.flatMap_cons, words_of_isWord (h w (by simp)), ih fun w' hw' => h w' (by simp [hw'])]
    rfl

/-- Joined parts are read back unchanged exactly when each of them is a word. -/
theorem words_intercalate_eq_iff {sep : α} (h : p sep = true) (parts : List (List α)) :
    words p ([sep].intercalate parts) = parts ↔ ∀ w ∈ parts, IsWord p w := by
  constructor
  · intro hsame w hw
    rw [← hsame] at hw
    exact isWord_of_mem hw
  · intro hwords
    rw [words_intercalate h, flatMap_words hwords]

end SeparatedWords
