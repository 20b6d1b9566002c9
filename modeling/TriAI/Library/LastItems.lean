import Mathlib.Data.List.DropRight

/-!
Contract: the last items of a stream that comes in chunks.

Owns: the laws of `List.rtake` for appended lists; `KeepsLast`, a step that keeps the last items
of what came so far, and the rule that a fold of such steps does.

Does not own: how a step finds the items it drops.
-/

set_option autoImplicit false

namespace TriAI.Library.LastItems

variable {α : Type} {limit : Nat}

/-! ## Last items -/

section Last

variable {items earlier later : List α}

theorem length_rtake (items : List α) (limit : Nat) :
    (items.rtake limit).length = min items.length limit := by
  unfold List.rtake
  rw [List.length_drop]
  omega

theorem rtake_suffix (items : List α) (limit : Nat) : items.rtake limit <:+ items :=
  List.drop_suffix _ items

theorem rtake_append_of_le_length (enough : limit ≤ later.length) :
    (earlier ++ later).rtake limit = later.rtake limit := by
  have split : earlier.length + later.length - limit = earlier.length + (later.length - limit) := by
    omega
  unfold List.rtake
  rw [List.length_append, split, List.drop_length_add_append]

theorem rtake_append_of_length_le (short : later.length ≤ limit) :
    (earlier ++ later).rtake limit = earlier.rtake (limit - later.length) ++ later := by
  have split : earlier.length + later.length - limit =
      earlier.length - (limit - later.length) := by
    omega
  unfold List.rtake
  rw [List.length_append, split, List.drop_append_of_le_length (Nat.sub_le _ _)]

theorem rtake_rtake {fewer : Nat} (less : fewer ≤ limit) :
    (items.rtake limit).rtake fewer = items.rtake fewer := by
  have split : items.length - limit + ((items.rtake limit).length - fewer) =
      items.length - fewer := by
    rw [length_rtake]
    omega
  show (items.drop (items.length - limit)).drop ((items.rtake limit).length - fewer) = _
  rw [List.drop_drop, split]
  rfl

/-- Dropping what is too much for the items that follow. -/
theorem drop_rtake {more : Nat} (fits : more ≤ limit) :
    (items.rtake limit).drop ((items.rtake limit).length + more - limit) =
      items.rtake (limit - more) := by
  have split : (items.rtake limit).length + more - limit =
      (items.rtake limit).length - (limit - more) := by
    omega
  rw [split]
  exact rtake_rtake (Nat.sub_le limit more)

end Last

/-! ## Streams -/

/-- A step that makes of the last items so far and a chunk the last items then. -/
def KeepsLast (limit : Nat) (step : List α → List α → List α) : Prop :=
  ∀ seen chunk, step (seen.rtake limit) chunk = (seen ++ chunk).rtake limit

section Streams

variable {step : List α → List α → List α} (keeps : KeepsLast limit step)

include keeps

theorem KeepsLast.foldl_from (seen : List α) (chunks : List (List α)) :
    chunks.foldl step (seen.rtake limit) = (seen ++ chunks.flatten).rtake limit := by
  induction chunks generalizing seen with
  | nil => rw [List.foldl_nil, List.flatten_nil, List.append_nil]
  | cons chunk rest inductionHypothesis =>
      rw [List.foldl_cons, keeps, inductionHypothesis, List.flatten_cons, List.append_assoc]

/-- A stream leaves its last items, however it is cut into chunks. -/
theorem KeepsLast.foldl (chunks : List (List α)) :
    chunks.foldl step [] = chunks.flatten.rtake limit := by
  have fromNothing := keeps.foldl_from [] chunks
  rwa [List.rtake_nil, List.nil_append] at fromNothing

end Streams

end TriAI.Library.LastItems
