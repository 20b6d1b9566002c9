import Mathlib.Data.List.Basic
import Mathlib.Data.Nat.ModEq

/-!
Contract: a ring buffer as a queue.

Owns: when an array with two indices and a count holds a queue, and what appending and removing
do to it. The array has as many slots as the indices run through.

Does not own: the width of the indices, and what an append to a full buffer does.
-/

set_option autoImplicit false

namespace TriAI.Library.RingBuffer

variable {α : Type}

/-- The queue lies in the slots from `read` on, around the end of the array. -/
structure Represents (slots : List α) (write read count : Nat) (queue : List α) : Prop where
  counted : count = queue.length
  room : queue.length ≤ slots.length
  inside : read < slots.length
  written : write = (read + count) % slots.length
  holds : ∀ offset value, queue[offset]? = some value →
    slots[(read + offset) % slots.length]? = some value

variable {slots queue : List α} {write read count : Nat}

/-- A buffer without content. -/
theorem Represents.empty (inside : read < slots.length) : Represents slots read read 0 [] where
  counted := rfl
  room := Nat.zero_le _
  inside := inside
  written := by rw [Nat.add_zero, Nat.mod_eq_of_lt inside]
  holds := by simp

/-- Two offsets of a queue lie in different slots. -/
theorem offset_unique {left right capacity : Nat} (leftInside : left < capacity)
    (rightInside : right < capacity)
    (same : (read + left) % capacity = (read + right) % capacity) : left = right := by
  have modular : left ≡ right [MOD capacity] := Nat.ModEq.add_left_cancel' read same
  exact Nat.ModEq.eq_of_lt_of_lt modular leftInside rightInside

/-- Appending to a buffer with room touches no slot of the queue. -/
theorem Represents.push (represents : Represents slots write read count queue)
    (notFull : count < slots.length) (value : α) :
    Represents (slots.set write value) ((write + 1) % slots.length) read (count + 1)
      (queue ++ [value]) where
  counted := by simp [represents.counted]
  room := by
    have counted := represents.counted
    simp only [List.length_append, List.length_singleton, List.length_set]
    omega
  inside := by
    rw [List.length_set]
    exact represents.inside
  written := by
    rw [List.length_set, represents.written, Nat.mod_add_mod, Nat.add_assoc]
  holds := by
    intro offset found isFound
    have counted := represents.counted
    have some : offset < (queue ++ [value]).length := List.getElem?_eq_some_iff.mp isFound |>.1
    rw [List.length_append, List.length_singleton] at some
    rw [List.length_set]
    by_cases isLast : offset = queue.length
    · subst isLast
      rw [List.getElem?_concat_length] at isFound
      rw [← counted, ← represents.written, List.getElem?_set_self]
      · exact isFound
      · rw [represents.written]
        exact Nat.mod_lt _ (Nat.zero_lt_of_lt notFull)
    · have before : offset < queue.length := by omega
      rw [List.getElem?_append_left before] at isFound
      rw [List.getElem?_set_ne]
      · exact represents.holds offset found isFound
      · rw [represents.written]
        intro same
        have equal := offset_unique notFull (by omega) same
        omega

/-- Removing the oldest element. -/
theorem Represents.pop {value : α} {rest : List α}
    (represents : Represents slots write read count (value :: rest)) :
    slots[read]? = some value ∧
      Represents slots write ((read + 1) % slots.length) (count - 1) rest := by
  have inside := represents.inside
  have counted := represents.counted
  rw [List.length_cons] at counted
  constructor
  · have first := represents.holds 0 value rfl
    rwa [Nat.add_zero, Nat.mod_eq_of_lt inside] at first
  · refine ⟨?_, ?_, ?_, ?_, ?_⟩
    · omega
    · have room := represents.room
      rw [List.length_cons] at room
      omega
    · exact Nat.mod_lt _ (Nat.zero_lt_of_lt inside)
    · rw [represents.written, Nat.mod_add_mod]
      congr 1
      omega
    · intro offset found isFound
      have later := represents.holds (offset + 1) found (by simpa using isFound)
      rw [Nat.mod_add_mod, Nat.add_assoc, Nat.add_comm 1 offset]
      exact later

end TriAI.Library.RingBuffer
