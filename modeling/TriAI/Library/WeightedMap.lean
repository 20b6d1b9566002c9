import Mathlib

/-!
Contract: the total weight and the size of a finite map.

Owns: `total` and `size` of an association list, and how they change when a key
is erased or inserted.

Does not own: what the weights mean.
-/

set_option autoImplicit false

namespace TriAI.Library.WeightedMap

variable {Key : Type} {Value : Key → Type}

/-- The number of keys of a map. -/
def size (map : AList Value) : Nat := map.entries.length

/-- The summed weight of the entries of a map. -/
def total (weight : Sigma Value → Nat) (map : AList Value) : Nat :=
  (map.entries.map weight).sum

variable {weight : Sigma Value → Nat} {map : AList Value} {key : Key} {value : Value key}

@[simp] theorem total_empty : total weight (∅ : AList Value) = 0 := rfl

@[simp] theorem size_empty : size (∅ : AList Value) = 0 := rfl

theorem total_of_entries_nil (empty : map.entries = []) : total weight map = 0 := by
  rw [total, empty, List.map_nil, List.sum_nil]

variable [DecidableEq Key]

/-- Where the erased key stood. -/
private theorem erase_entries (found : map.lookup key = some value) :
    ∃ front back, map.entries = front ++ ⟨key, value⟩ :: back ∧
      (map.erase key).entries = front ++ back := by
  have keyPresent : key ∈ map.entries.keys :=
    AList.mem_keys.mp (AList.lookup_isSome.mp (by rw [found]; rfl))
  obtain ⟨other, front, back, _, split, erased⟩ := List.exists_of_kerase keyPresent
  have valueMember : (⟨key, value⟩ : Sigma Value) ∈ map.entries := AList.mem_lookup_iff.mp found
  have otherMember : (⟨key, other⟩ : Sigma Value) ∈ map.entries := by
    rw [split]
    exact List.mem_append_right front (List.mem_cons_self ..)
  cases map.nodupKeys.eq_of_mk_mem valueMember otherMember
  exact ⟨front, back, split, erased⟩

/-- The entries are the erased one and the others. -/
theorem entries_perm_erase (found : map.lookup key = some value) :
    map.entries.Perm (⟨key, value⟩ :: (map.erase key).entries) := by
  obtain ⟨front, back, before, after⟩ := erase_entries found
  rw [before, after]
  exact List.perm_middle

theorem total_of_lookup (found : map.lookup key = some value) :
    total weight map = weight ⟨key, value⟩ + total weight (map.erase key) := by
  obtain ⟨front, back, before, after⟩ := erase_entries found
  rw [total, total, before, after, List.map_append, List.map_append, List.map_cons,
    List.sum_append, List.sum_append, List.sum_cons, Nat.add_left_comm]

theorem size_of_lookup (found : map.lookup key = some value) :
    size map = size (map.erase key) + 1 := by
  obtain ⟨front, back, before, after⟩ := erase_entries found
  rw [size, size, before, after, List.length_append, List.length_append, List.length_cons]
  omega

/-- Erasing an absent key changes nothing. -/
theorem erase_of_absent (absent : map.lookup key = none) : map.erase key = map :=
  AList.ext (List.kerase_of_notMem_keys (AList.mem_keys.not.mp (AList.lookup_eq_none.mp absent)))

theorem total_insert :
    total weight (map.insert key value) = weight ⟨key, value⟩ + total weight (map.erase key) :=
  rfl

theorem size_insert : size (map.insert key value) = size (map.erase key) + 1 := rfl

/-- Replacing a value by one of the same weight keeps the total. -/
theorem total_insert_of_lookup {next : Value key} (found : map.lookup key = some value)
    (same : weight ⟨key, next⟩ = weight ⟨key, value⟩) :
    total weight (map.insert key next) = total weight map := by
  rw [total_insert, total_of_lookup found, same]

theorem size_insert_of_lookup {next : Value key} (found : map.lookup key = some value) :
    size (map.insert key next) = size map := by
  rw [size_insert, size_of_lookup found]

end TriAI.Library.WeightedMap
