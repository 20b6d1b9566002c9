import Mathlib.Data.List.Infix
import Mathlib.Data.List.Induction

/-!
Contract: blocks of items from one fence to the next.

Owns: the blocks that are read off a list, with one that is open at the end; that they are read
alike through a map that keeps the fences; that they have every fence; where they lie in the
list; and the last block of a list that ends in one.

Does not own: what an item or a fence is.
-/

set_option autoImplicit false

namespace TriAI.Library

/-- The blocks that are closed and the one that is open. -/
structure Blocks (α : Type) where
  closed : List (List α)
  pending : Option (List α)

namespace Blocks

variable {α : Type} (fences : α → Bool)

def start : Blocks α := { closed := [], pending := none }

/-- A fence opens a block or closes it; every item between belongs to it. -/
def next (blocks : Blocks α) (item : α) : Blocks α :=
  match blocks.pending with
  | none => if fences item then { blocks with pending := some [item] } else blocks
  | some block =>
      if fences item then { closed := blocks.closed ++ [block ++ [item]], pending := none }
      else { blocks with pending := some (block ++ [item]) }

def read (blocks : Blocks α) (items : List α) : Blocks α := items.foldl (next fences) blocks

def all (blocks : Blocks α) : List (List α) := blocks.closed ++ blocks.pending.toList

/-- The blocks of a list. -/
def blocksOf (items : List α) : List (List α) := (read fences start items).all

variable {fences} {closed : List (List α)} {block : List α} {item : α}

theorem next_outside (isFence : fences item = false) :
    next fences { closed, pending := none } item = { closed, pending := none } := by
  simp [next, isFence]

/-- An item outside of every block belongs to none. -/
theorem next_of_pending_none {blocks : Blocks α} (outside : blocks.pending = none)
    (isFence : fences item = false) : next fences blocks item = blocks := by
  obtain ⟨closed, pending⟩ := blocks
  obtain rfl : pending = none := outside
  exact next_outside isFence

theorem next_opening (isFence : fences item = true) :
    next fences { closed, pending := none } item = { closed, pending := some [item] } := by
  simp [next, isFence]

theorem next_inside (isFence : fences item = false) :
    next fences { closed, pending := some block } item =
      { closed, pending := some (block ++ [item]) } := by
  simp [next, isFence]

theorem next_closing (isFence : fences item = true) :
    next fences { closed, pending := some block } item =
      { closed := closed ++ [block ++ [item]], pending := none } := by
  simp [next, isFence]

theorem read_append (blocks : Blocks α) (front back : List α) :
    read fences blocks (front ++ back) = read fences (read fences blocks front) back :=
  List.foldl_append

theorem read_singleton (blocks : Blocks α) (item : α) :
    read fences blocks [item] = next fences blocks item := rfl

theorem isSome_pending_next (blocks : Blocks α) (item : α) :
    (next fences blocks item).pending.isSome = (blocks.pending.isSome != fences item) := by
  obtain ⟨closed, pending⟩ := blocks
  unfold next
  cases pending with
  | none => cases fences item <;> rfl
  | some block => cases fences item <;> rfl

/-! ## Maps -/

/-- The blocks of mapped items. -/
def map {β : Type} (f : α → β) (blocks : Blocks α) : Blocks β where
  closed := blocks.closed.map (List.map f)
  pending := blocks.pending.map (List.map f)

theorem all_map {β : Type} (f : α → β) (blocks : Blocks α) :
    (blocks.map f).all = blocks.all.map (List.map f) := by
  unfold all map
  cases blocks.pending <;> simp

/-- A map that keeps a fence is made before the step or behind it. -/
theorem next_map {β : Type} {f : α → β} {fences' : β → Bool} (blocks : Blocks α)
    (same : fences' (f item) = fences item) :
    next fences' (blocks.map f) (f item) = (next fences blocks item).map f := by
  obtain ⟨closed, pending⟩ := blocks
  unfold next map
  cases pending with
  | none =>
      simp only [Option.map_none, same]
      split <;> rfl
  | some block =>
      simp only [Option.map_some, same]
      split <;> simp

/-! ## Fences -/

theorem countP_all_next (blocks : Blocks α) (item : α) :
    (next fences blocks item).all.flatten.countP fences =
      blocks.all.flatten.countP fences + if fences item then 1 else 0 := by
  obtain ⟨closed, pending⟩ := blocks
  cases isFence : fences item with
  | false =>
      cases pending with
      | none => simp [next_outside isFence]
      | some block => simp [next_inside isFence, all, isFence]
  | true =>
      cases pending with
      | none => simp [next_opening isFence, all, isFence]
      | some block => simp [next_closing isFence, all, isFence]; omega

theorem countP_all_read (blocks : Blocks α) (items : List α) :
    (read fences blocks items).all.flatten.countP fences =
      blocks.all.flatten.countP fences + items.countP fences := by
  induction items generalizing blocks with
  | nil => rfl
  | cons item rest inductionHypothesis =>
      show (read fences (next fences blocks item) rest).all.flatten.countP fences = _
      rw [inductionHypothesis, countP_all_next, List.countP_cons]
      omega

/-- Every fence is in a block. -/
theorem countP_blocksOf (items : List α) :
    (blocksOf fences items).flatten.countP fences = items.countP fences := by
  rw [blocksOf, countP_all_read]
  exact Nat.zero_add _

/-! ## Where blocks lie -/

/-- A fence, and no other before the last item. -/
def IsBlock (fences : α → Bool) (block : List α) : Prop :=
  ∃ first rest, block = first :: rest ∧ fences first = true ∧
    ∀ item ∈ rest.dropLast, fences item = false

theorem IsBlock.ne_nil (isBlock : IsBlock fences block) : block ≠ [] := by
  obtain ⟨first, rest, rfl, _⟩ := isBlock
  exact List.cons_ne_nil first rest

theorem read_inside {items : List α} (noFence : ∀ item ∈ items, fences item = false) :
    read fences { closed, pending := some block } items =
      { closed, pending := some (block ++ items) } := by
  induction items generalizing block with
  | nil => simp [read]
  | cons item rest inductionHypothesis =>
      obtain ⟨isFence, later⟩ := List.forall_mem_cons.mp noFence
      show read fences (next fences { closed, pending := some block } item) rest = _
      rw [next_inside isFence, inductionHypothesis later, List.append_assoc, List.singleton_append]

/-- A block that is read from outside is one more block. -/
theorem IsBlock.all_read (isBlock : IsBlock fences block) :
    (read fences { closed, pending := none } block).all = closed ++ [block] := by
  obtain ⟨first, rest, rfl, opens, noFence⟩ := isBlock
  show (read fences (next fences { closed, pending := none } first) rest).all = _
  rw [next_opening opens]
  rcases List.eq_nil_or_concat rest with empty | ⟨inner, last, isConcat⟩
  · rw [empty]
    rfl
  · rw [isConcat, List.concat_eq_append, List.dropLast_concat] at noFence
    rw [isConcat, List.concat_eq_append, read_append, read_inside noFence]
    show (next fences { closed, pending := some ([first] ++ inner) } last).all = _
    cases isFence : fences last with
    | false =>
        rw [next_inside isFence]
        simp [all]
    | true =>
        rw [next_closing isFence]
        simp [all]

private theorem dropLast_prefix_dropLast {β : Type} {left right : List β}
    (isPrefix : left <+: right) : left.dropLast <+: right.dropLast := by
  obtain ⟨back, rfl⟩ := isPrefix
  rw [List.dropLast_append]
  split
  · exact List.prefix_rfl
  · exact (List.dropLast_prefix left).trans (List.prefix_append left back.dropLast)

/-- What begins as a block, fence for fence, is a block. -/
theorem IsBlock.of_prefix {front : List α} (isBlock : IsBlock fences block) (nonempty : front ≠ [])
    (isPrefix : front.map fences <+: block.map fences) : IsBlock fences front := by
  obtain ⟨first, rest, rfl, opens, noFence⟩ := isBlock
  cases front with
  | nil => exact absurd rfl nonempty
  | cons head tail =>
      rw [List.map_cons, List.map_cons, List.cons_prefix_cons] at isPrefix
      refine ⟨head, tail, rfl, isPrefix.1.trans opens, ?_⟩
      have inner : tail.dropLast.map fences <+: rest.dropLast.map fences := by
        rw [List.map_dropLast, List.map_dropLast]
        exact dropLast_prefix_dropLast isPrefix.2
      intro item member
      obtain ⟨other, isOther, same⟩ :=
        List.mem_map.mp (inner.subset (List.mem_map_of_mem member))
      rw [← same]
      exact noFence other isOther

/-- Where the blocks lie that have been read off some items: a closed one anywhere; the open one,
which begins with its only fence, at the end, behind items that leave none open. -/
structure LieIn (fences : α → Bool) (items : List α) (blocks : Blocks α) : Prop where
  reached : read fences start items = blocks
  closed : ∀ block ∈ blocks.closed, block ≠ [] ∧ block <:+: items
  pending : ∀ block, blocks.pending = some block → ∃ before,
    items = before ++ block ∧
    read fences start before = { closed := blocks.closed, pending := none } ∧
    ∃ first rest, block = first :: rest ∧ fences first = true ∧ ∀ item ∈ rest, fences item = false

namespace LieIn

variable {items : List α} {blocks : Blocks α}

theorem closed_append (lie : LieIn fences items blocks) (item : α) :
    ∀ block ∈ blocks.closed, block ≠ [] ∧ block <:+: items ++ [item] :=
  fun block member => ⟨(lie.closed block member).1,
    (lie.closed block member).2.trans (List.prefix_append items [item]).isInfix⟩

/-- Step lemma: what one more item does. -/
theorem next (lie : LieIn fences items blocks) (item : α) :
    LieIn fences (items ++ [item]) (next fences blocks item) := by
  have further := lie.closed_append item
  obtain ⟨reached, _, opened⟩ := lie
  have reachedNext : read fences start (items ++ [item]) = Blocks.next fences blocks item := by
    rw [read_append, read_singleton, reached]
  obtain ⟨closed, pending⟩ := blocks
  refine ⟨reachedNext, ?_, ?_⟩
  · cases pending with
    | none =>
        cases isFence : fences item with
        | false => rwa [next_outside isFence]
        | true => rwa [next_opening isFence]
    | some block =>
        cases isFence : fences item with
        | false => rwa [next_inside isFence]
        | true =>
            obtain ⟨before, whole, _⟩ := opened block rfl
            rw [next_closing isFence, List.forall_mem_append, List.forall_mem_singleton]
            refine ⟨further, by simp, ?_⟩
            rw [whole, List.append_assoc]
            exact (List.suffix_append before (block ++ [item])).isInfix
  · cases pending with
    | none =>
        cases isFence : fences item with
        | false =>
            rw [next_outside isFence]
            simp
        | true =>
            rw [next_opening isFence]
            intro block isBlock
            obtain rfl := Option.some.inj isBlock
            exact ⟨items, rfl, reached, item, [], rfl, isFence, by simp⟩
    | some block =>
        obtain ⟨before, whole, outside, first, rest, isBlock, opens, noFence⟩ := opened block rfl
        cases isFence : fences item with
        | false =>
            rw [next_inside isFence]
            intro other isOther
            obtain rfl := Option.some.inj isOther
            refine ⟨before, by rw [whole, List.append_assoc], outside, first, rest ++ [item],
              by rw [isBlock]; rfl, opens, ?_⟩
            rw [List.forall_mem_append, List.forall_mem_singleton]
            exact ⟨noFence, isFence⟩
        | true =>
            rw [next_closing isFence]
            simp

end LieIn

/-- Run lemma: where the blocks of a list lie. -/
theorem lieIn_read (items : List α) : LieIn fences items (read fences start items) := by
  induction items using List.reverseRecOn with
  | nil => exact ⟨rfl, by simp [read, start], by simp [read, start]⟩
  | append_singleton items item inductionHypothesis =>
      rw [read_append, read_singleton]
      exact inductionHypothesis.next item

/-- A block lies in the list. -/
theorem infix_of_mem_blocksOf {items : List α} (member : block ∈ blocksOf fences items) :
    block ≠ [] ∧ block <:+: items := by
  have lie : LieIn fences items (read fences start items) := lieIn_read items
  rcases List.mem_append.mp member with isClosed | isPending
  · exact lie.closed block isClosed
  · obtain ⟨before, whole, _, first, rest, isBlock, _⟩ :=
      lie.pending block (Option.mem_toList.mp isPending)
    exact ⟨by simp [isBlock], whole ▸ (List.suffix_append before block).isInfix⟩

/-- The last block of a list whose last item is in it. -/
theorem exists_last_block {front : List α} {last : α}
    (inBlock : fences last = true ∨ (read fences start front).pending.isSome = true) :
    ∃ before block, front ++ [last] = before ++ block ∧ IsBlock fences block ∧
      (read fences start before).pending = none ∧
      blocksOf fences (front ++ [last]) = (read fences start before).closed ++ [block] := by
  have lie : LieIn fences front (read fences start front) := lieIn_read front
  unfold blocksOf
  rw [read_append, read_singleton]
  generalize read fences start front = blocks at lie inBlock
  obtain ⟨closed, pending⟩ := blocks
  cases pending with
  | none =>
      have opens : fences last = true := by simpa using inBlock
      refine ⟨front, [last], rfl, ⟨last, [], rfl, opens, by simp⟩, by rw [lie.reached], ?_⟩
      rw [next_opening opens, lie.reached]
      rfl
  | some block =>
      obtain ⟨before, whole, outside, first, rest, isBlock, opens, noFence⟩ := lie.pending block rfl
      refine ⟨before, block ++ [last], by rw [whole, List.append_assoc],
        ⟨first, rest ++ [last], by rw [isBlock]; rfl, opens, by simpa using noFence⟩,
        by rw [outside], ?_⟩
      rw [outside]
      cases isFence : fences last with
      | false =>
          rw [next_inside isFence]
          rfl
      | true =>
          rw [next_closing isFence]
          simp [all]

end Blocks

end TriAI.Library
