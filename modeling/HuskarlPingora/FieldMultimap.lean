import Mathlib.Data.List.Induction
import Mathlib.Logic.Function.Basic

/-! # Ordered multimaps of fields

A field list keeps, for each name, its values in the order they were added. The
position of different names relative to each other carries no meaning. -/
namespace FieldMultimap

variable {κ ν : Type*} [DecidableEq κ]

abbrev Fields (κ ν : Type*) := List (κ × ν)

def getAll (fields : Fields κ ν) (name : κ) : List ν :=
  (fields.filter (fun field => decide (field.1 = name))).map Prod.snd

def append (fields : Fields κ ν) (name : κ) (value : ν) : Fields κ ν :=
  fields ++ [(name, value)]

def remove (fields : Fields κ ν) (name : κ) : Fields κ ν :=
  fields.filter (fun field => decide (field.1 ≠ name))

def insert (fields : Fields κ ν) (name : κ) (value : ν) : Fields κ ν :=
  append (remove fields name) name value

@[simp] theorem getAll_nil (name : κ) : getAll ([] : Fields κ ν) name = [] := rfl

@[simp] theorem getAll_append_self (fields : Fields κ ν) (name : κ) (value : ν) :
    getAll (append fields name value) name = getAll fields name ++ [value] := by
  simp [getAll, append]

theorem getAll_append_ne (fields : Fields κ ν) {name other : κ} (value : ν)
    (h : other ≠ name) : getAll (append fields name value) other = getAll fields other := by
  simp [getAll, append, Ne.symm h]

@[simp] theorem getAll_remove_self (fields : Fields κ ν) (name : κ) :
    getAll (remove fields name) name = [] := by
  simp [getAll, remove]

theorem getAll_remove_ne (fields : Fields κ ν) {name other : κ} (h : other ≠ name) :
    getAll (remove fields name) other = getAll fields other := by
  simp only [getAll, remove, List.filter_filter]
  congr 1
  apply List.filter_congr
  intro field _
  by_cases hf : field.1 = other
  · simp [hf, h]
  · simp [hf]

@[simp] theorem getAll_insert_self (fields : Fields κ ν) (name : κ) (value : ν) :
    getAll (insert fields name value) name = [value] := by
  simp [insert]

theorem getAll_insert_ne (fields : Fields κ ν) {name other : κ} (value : ν)
    (h : other ≠ name) : getAll (insert fields name value) other = getAll fields other := by
  rw [insert, getAll_append_ne _ _ h, getAll_remove_ne _ h]

/-- The values are read in order, and a later one replaces an earlier one of its key. -/
def keep (key : ν → κ) (slots : κ → Option ν) (values : List ν) : κ → Option ν :=
  values.foldl (fun slots value => Function.update slots (key value) (some value)) slots

theorem keep_append (key : ν → κ) (slots : κ → Option ν) (values values' : List ν) :
    keep key slots (values ++ values') = keep key (keep key slots values) values' :=
  List.foldl_append

theorem keep_of_mem (key : ν → κ) (slots : κ → Option ν) {values : List ν} {k : κ}
    (h : k ∈ values.map key) : ∃ value ∈ values, keep key slots values k = some value := by
  induction values using List.reverseRecOn with
  | nil => cases h
  | append_singleton values value ih =>
    rw [keep_append]
    by_cases hk : k = key value
    · exact ⟨value, by simp, by simp [keep, hk]⟩
    · have hmem : k ∈ values.map key := by simpa [hk] using h
      obtain ⟨kept, hkept, hslot⟩ := ih hmem
      refine ⟨kept, by simp [hkept], ?_⟩
      simpa [keep, Function.update_of_ne hk] using hslot

theorem keep_append_of_mem (key : ν → κ) (slots : κ → Option ν) (values : List ν)
    {values' : List ν} {k : κ} (h : k ∈ values'.map key) :
    ∃ value ∈ values', keep key slots (values ++ values') k = some value := by
  rw [keep_append]
  exact keep_of_mem key _ h

def appendAll (fields : Fields κ ν) (name : κ) (values : List ν) : Fields κ ν :=
  values.foldl (fun fields value => append fields name value) fields

def replace (fields : Fields κ ν) (name : κ) (values : List ν) : Fields κ ν :=
  appendAll (remove fields name) name values

/-- Both lists hold the same values, in the same order, for every name. -/
def Same (fields fields' : Fields κ ν) : Prop :=
  ∀ name, getAll fields name = getAll fields' name

omit [DecidableEq κ] in
theorem appendAll_eq (fields : Fields κ ν) (name : κ) (values : List ν) :
    appendAll fields name values = fields ++ values.map fun value => (name, value) := by
  induction values generalizing fields with
  | nil => simp [appendAll]
  | cons value values ih =>
    rw [appendAll, List.foldl_cons]
    exact (ih _).trans (by simp [append])

@[simp] theorem getAll_replace_self (fields : Fields κ ν) (name : κ) (values : List ν) :
    getAll (replace fields name values) name = values := by
  have hnew : ((values.map fun value => (name, value)).filter
      fun field => decide (field.1 = name)) = values.map fun value => (name, value) :=
    List.filter_eq_self.mpr (by simp)
  have hold := getAll_remove_self fields name
  unfold getAll at hold ⊢
  rw [replace, appendAll_eq, List.filter_append, List.map_append, hold, hnew]
  simp [Function.comp_def]

theorem getAll_replace_ne (fields : Fields κ ν) {name other : κ} (values : List ν)
    (h : other ≠ name) : getAll (replace fields name values) other = getAll fields other := by
  rw [← getAll_remove_ne fields h, replace, appendAll_eq]
  simp [getAll, Ne.symm h]

theorem replace_replace (fields : Fields κ ν) (name : κ) (values values' : List ν) :
    replace (replace fields name values) name values' = replace fields name values' := by
  have hremove : remove (replace fields name values) name = remove fields name := by
    rw [replace, appendAll_eq]
    simp [remove, List.filter_append, List.filter_filter]
  rw [replace, hremove, replace]

end FieldMultimap
