import Mathlib.Data.List.Perm.Basic
import Mathlib.Data.List.Sort

/-!
Contract: lists and the order of their members.

Owns: `rank`, the number of members before an item, and which members are among the first of a
sorted list; the stable sort by a key, and when its result does not depend on the order it was
given; `OrderFree`, the steps that commute and absorb their own repetition, and what follows for
a fold: it depends on which items occur and on nothing else.

Does not own: any concrete key or step.
-/

set_option autoImplicit false

namespace TriAI.Library

/-! ## Rank -/

section Rank

variable {α : Type} (before : α → α → Prop) [DecidableRel before]

/-- The number of items before one. -/
def rank (items : List α) (item : α) : Nat := items.countP fun other => before other item

variable {before}

theorem rank_perm {left right : List α} (perm : left.Perm right) (item : α) :
    rank before left item = rank before right item := perm.countP_eq _

/-- In a sorted list the first are those with few before them. -/
theorem mem_take_iff_rank (irreflexive : ∀ item, ¬ before item item)
    (asymmetric : ∀ first second, before first second → ¬ before second first)
    {items : List α} (sorted : items.Pairwise before) (count : Nat) (item : α) :
    item ∈ items.take count ↔ item ∈ items ∧ rank before items item < count := by
  induction items generalizing count with
  | nil => simp
  | cons head rest inductionHypothesis =>
      have later := List.pairwise_cons.mp sorted
      cases count with
      | zero => simp
      | succ count =>
          rw [List.take_succ_cons, List.mem_cons, List.mem_cons, inductionHypothesis later.2]
          by_cases isHead : item = head
          · subst isHead
            have first : rank before (item :: rest) item = 0 := by
              rw [rank, List.countP_eq_zero]
              intro other member
              rcases List.mem_cons.mp member with rfl | inRest
              · simpa using irreflexive other
              · simpa using asymmetric item other (later.1 other inRest)
            simp [first]
          · have counted : item ∈ rest →
                rank before (head :: rest) item = rank before rest item + 1 := by
              intro member
              rw [rank, List.countP_cons, if_pos (by simpa using later.1 item member)]
              rfl
            constructor
            · rintro (same | ⟨member, few⟩)
              · exact absurd same isHead
              · exact ⟨.inr member, by rw [counted member]; omega⟩
            · rintro ⟨same | member, few⟩
              · exact absurd same isHead
              · rw [counted member] at few
                exact .inr ⟨member, by omega⟩

end Rank

/-! ## Stable sorting -/

section Sorting

variable {α Item Key : Type} [LinearOrder Key] (key : α → Key)

/-- Items in the order of their keys; those of one key stay as they were. -/
def sortBy (items : List α) : List α :=
  items.insertionSort fun first second => key first ≤ key second

variable {key}

theorem sortBy_perm (items : List α) : (sortBy key items).Perm items := List.perm_insertionSort _ _

theorem sortBy_pairwise (items : List α) :
    (sortBy key items).Pairwise fun first second => key first ≤ key second := by
  have total : Std.Total fun first second : α => key first ≤ key second :=
    ⟨fun first second => le_total (key first) (key second)⟩
  have transitive : IsTrans α fun first second => key first ≤ key second :=
    ⟨fun _ _ _ => le_trans⟩
  exact List.pairwise_insertionSort _ items

theorem filter_sortBy (value : Key) (items : List α) :
    (sortBy key items).filter (fun item => key item = value) =
      items.filter fun item => key item = value := by
  have same : (items.filter fun item => key item = value).Pairwise fun first second =>
      key first ≤ key second := by
    apply List.pairwise_of_forall_mem_list
    intro first inFirst second inSecond
    have firstKey : key first = value := by simpa using (List.mem_filter.mp inFirst).2
    have secondKey : key second = value := by simpa using (List.mem_filter.mp inSecond).2
    rw [firstKey, secondKey]
  have kept := (List.sublist_insertionSort same List.filter_sublist).filter
    fun item => key item = value
  rw [List.filter_filter] at kept
  simp only [Bool.and_self] at kept
  exact (kept.eq_of_length ((sortBy_perm items).filter _).length_eq.symm).symm

/-- Where no two members share a key, the order given does not matter. -/
theorem sortBy_eq_of_perm {left right : List α} (perm : left.Perm right)
    (distinct : ∀ first ∈ right, ∀ second ∈ right, key first = key second → first = second) :
    sortBy key left = sortBy key right := by
  have rearranged : (sortBy key left).Perm (sortBy key right) :=
    (sortBy_perm left).trans (perm.trans (sortBy_perm right).symm)
  refine rearranged.eq_of_pairwise ?_ (sortBy_pairwise left) (sortBy_pairwise right)
  intro first second inLeft inRight below above
  have firstMember := perm.mem_iff.mp ((sortBy_perm left).mem_iff.mp inLeft)
  have secondMember := (sortBy_perm right).mem_iff.mp inRight
  exact distinct first firstMember second secondMember (le_antisymm below above)

/-- What is read of items and sorted does not depend on their order exactly if no two different
values share a key. -/
theorem sortBy_filterMap_iff (key : α → Key) (read : Item → Option α) (items : List Item) :
    (∀ others : List Item, others.Perm items →
        sortBy key (others.filterMap read) = sortBy key (items.filterMap read)) ↔
      ∀ first ∈ items.filterMap read, ∀ second ∈ items.filterMap read,
        key first = key second → first = second := by
  constructor
  · intro orderFree first inFirst second inSecond sameKey
    by_contra different
    obtain ⟨firstItem, firstMember, readsFirst⟩ := List.mem_filterMap.mp inFirst
    obtain ⟨secondItem, secondMember, readsSecond⟩ := List.mem_filterMap.mp inSecond
    have items_ne : secondItem ≠ firstItem := by
      intro same
      rw [same, readsFirst] at readsSecond
      exact different (Option.some.inj readsSecond)
    classical
    have inRest : secondItem ∈ items.erase firstItem :=
      (List.mem_erase_of_ne items_ne).mpr secondMember
    have split := (List.perm_cons_erase firstMember).trans
      ((List.perm_cons_erase inRest).cons firstItem)
    have oneWay := orderFree _ split.symm
    have otherWay := orderFree _ ((List.Perm.swap ..).trans split.symm)
    have heads := congrArg (List.filter fun item => key item = key second)
      (oneWay.trans otherWay.symm)
    rw [filter_sortBy, filter_sortBy] at heads
    simp only [List.filterMap_cons, readsFirst, readsSecond, List.filter_cons, sameKey,
      decide_true, if_true, List.cons.injEq] at heads
    exact different heads.1
  · intro distinct others perm
    exact sortBy_eq_of_perm (perm.filterMap read) distinct

end Sorting

/-! ## Folds whose order does not matter -/

variable {State Item : Type}

/-- Steps that commute, and of which a second one changes nothing. -/
structure OrderFree (step : State → Item → State) : Prop where
  comm : ∀ state first second, step (step state first) second = step (step state second) first
  absorbs : ∀ state item, step (step state item) item = step state item

namespace OrderFree

variable {step : State → Item → State} (orderFree : OrderFree step)

include orderFree

/-- A fold does not depend on the order. -/
theorem foldl_perm {left right : List Item} (perm : left.Perm right) (state : State) :
    left.foldl step state = right.foldl step state := by
  have rightCommutative : RightCommutative step := ⟨orderFree.comm⟩
  exact perm.foldl_eq state

/-- An item that occurs changes nothing any more. -/
theorem foldl_absorbs {items : List Item} {item : Item} (occurs : item ∈ items) (state : State) :
    step (items.foldl step state) item = items.foldl step state := by
  obtain ⟨front, back, rfl⟩ := List.append_of_mem occurs
  have perm : (front ++ item :: back).Perm (front ++ back ++ [item]) := by
    rw [List.append_assoc]
    exact (List.perm_append_singleton item back).symm.append_left front
  rw [orderFree.foldl_perm perm, List.foldl_append, List.foldl_cons, List.foldl_nil,
    orderFree.absorbs]

/-- Items that occur change nothing any more. -/
theorem foldl_append_of_subset {items more : List Item} (occur : more ⊆ items) (state : State) :
    (items ++ more).foldl step state = items.foldl step state := by
  induction more with
  | nil => rw [List.append_nil]
  | cons item more inductionHypothesis =>
      rw [List.cons_subset] at occur
      have moved : (items ++ item :: more).Perm (items ++ more ++ [item]) := by
        rw [List.append_assoc]
        exact (List.perm_append_singleton item more).symm.append_left items
      have occursItem : item ∈ items ++ more := List.mem_append_left more occur.1
      rw [orderFree.foldl_perm moved, List.foldl_append, List.foldl_cons, List.foldl_nil,
        orderFree.foldl_absorbs occursItem, inductionHypothesis occur.2]

/-- A fold depends on which items occur, and on nothing else. -/
theorem foldl_eq_of_mem_iff {left right : List Item} (same : ∀ item, item ∈ left ↔ item ∈ right)
    (state : State) : left.foldl step state = right.foldl step state := by
  calc left.foldl step state
      = (left ++ right).foldl step state :=
        (orderFree.foldl_append_of_subset (fun item => (same item).mpr) state).symm
    _ = (right ++ left).foldl step state := orderFree.foldl_perm List.perm_append_comm state
    _ = right.foldl step state :=
        orderFree.foldl_append_of_subset (fun item => (same item).mp) state

end OrderFree

end TriAI.Library
