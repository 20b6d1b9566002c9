import Mathlib

/-!
Contract: runs of adjacent intervals of naturals, and slices of a concatenation.

Owns: `Span`, the relation `Tiles low high spans` (the spans follow each other
without gap from `low` to `high`), what a tiling says about every span and every
pair of spans, the tiling by chunks of one size, and the prefix-sum law for
slicing a concatenation of blocks.

Does not own: where the spans come from.
-/

set_option autoImplicit false

namespace TriAI.Library.Tiling

/-! ## Spans -/

/-- `size` positions from `start` on. -/
structure Span where
  start : Nat
  size : Nat
deriving DecidableEq, Repr

namespace Span

/-- The first position after the span. -/
def stop (span : Span) : Nat := span.start + span.size

/-- The positions of the span. -/
def positions (span : Span) : Set Nat := Set.Ico span.start span.stop

end Span

/-- The spans follow each other without gap from `low` to `high`. -/
def Tiles : Nat → Nat → List Span → Prop
  | low, high, [] => low = high
  | low, high, span :: rest => span.start = low ∧ Tiles span.stop high rest

theorem Tiles.low_le_high {low high : Nat} {spans : List Span}
    (tiles : Tiles low high spans) : low ≤ high := by
  induction spans generalizing low with
  | nil => exact Nat.le_of_eq tiles
  | cons span rest inductionHypothesis =>
      obtain ⟨startEq, restTiles⟩ := tiles
      have stopLe := inductionHypothesis restTiles
      unfold Span.stop at stopLe
      omega

/-- Every span of a tiling lies between its ends. -/
theorem Tiles.within {low high : Nat} {spans : List Span} (tiles : Tiles low high spans) :
    ∀ span ∈ spans, low ≤ span.start ∧ span.stop ≤ high := by
  induction spans generalizing low with
  | nil => simp
  | cons head rest inductionHypothesis =>
      obtain ⟨startEq, restTiles⟩ := tiles
      intro span member
      rcases List.mem_cons.mp member with isHead | inRest
      · subst span
        exact ⟨Nat.le_of_eq startEq.symm, restTiles.low_le_high⟩
      · have restWithin := inductionHypothesis restTiles span inRest
        unfold Span.stop at restWithin ⊢
        omega

/-- No position belongs to two spans of a tiling. -/
theorem Tiles.pairwise_disjoint {low high : Nat} {spans : List Span}
    (tiles : Tiles low high spans) :
    spans.Pairwise fun left right => Disjoint left.positions right.positions := by
  induction spans generalizing low with
  | nil => exact List.Pairwise.nil
  | cons head rest inductionHypothesis =>
      obtain ⟨_, restTiles⟩ := tiles
      refine List.Pairwise.cons (fun span member => ?_) (inductionHypothesis restTiles)
      have startsLater := (restTiles.within span member).1
      rw [Set.disjoint_left]
      intro position inHead inSpan
      have beforeStop := inHead.2
      have afterStart := inSpan.1
      omega

/-- Neighbouring spans meet. -/
theorem Tiles.stop_eq_next_start {low high : Nat} {spans : List Span}
    (tiles : Tiles low high spans) (index : Nat) (inside : index + 1 < spans.length) :
    spans[index].stop = spans[index + 1].start := by
  induction spans generalizing low index with
  | nil => simp at inside
  | cons head rest inductionHypothesis =>
      obtain ⟨_, restTiles⟩ := tiles
      cases index with
      | zero =>
          cases rest with
          | nil => simp at inside
          | cons next tail => exact restTiles.1.symm
      | succ index => exact inductionHypothesis restTiles index (by simpa using inside)

/-- The last span ends where the tiling ends. -/
theorem Tiles.last_stop {low high : Nat} {spans : List Span} (tiles : Tiles low high spans) :
    ∀ span ∈ spans.getLast?, span.stop = high := by
  induction spans generalizing low with
  | nil => simp
  | cons head rest inductionHypothesis =>
      obtain ⟨_, restTiles⟩ := tiles
      cases rest with
      | nil =>
          intro span isLast
          simp only [List.getLast?_singleton, Option.mem_def, Option.some.injEq] at isLast
          subst span
          exact restTiles
      | cons next tail =>
          intro span isLast
          rw [List.getLast?_cons_cons] at isLast
          exact inductionHypothesis restTiles span isLast

/-- The sizes of a tiling add up to what it covers. -/
theorem Tiles.sum_size {low high : Nat} {spans : List Span} (tiles : Tiles low high spans) :
    low + (spans.map Span.size).sum = high := by
  induction spans generalizing low with
  | nil => exact tiles
  | cons head rest inductionHypothesis =>
      obtain ⟨startEq, restTiles⟩ := tiles
      have restSum := inductionHypothesis restTiles
      unfold Span.stop at restSum
      rw [List.map_cons, List.sum_cons]
      omega

/-! ## Chunks of one size -/

section Chunks

/-- The number of chunks that hold `total` positions. -/
def chunkCount (total chunk : Nat) : Nat := (total + (chunk - 1)) / chunk

/-- The positions of a chunk, of which the last one may have fewer. -/
def chunkSpan (total chunk index : Nat) : Span :=
  ⟨index * chunk, min (total - index * chunk) chunk⟩

theorem chunkSpan_stop {total chunk index : Nat} (starts : index * chunk ≤ total) :
    (chunkSpan total chunk index).stop = min ((index + 1) * chunk) total := by
  show index * chunk + min (total - index * chunk) chunk = _
  rw [Nat.succ_mul]
  omega

variable (total : Nat) {chunk : Nat} (positive : 0 < chunk)

include positive

/-- A chunk is counted where it starts before the end. -/
theorem lt_chunkCount_iff (index : Nat) :
    index < chunkCount total chunk ↔ index * chunk < total := by
  unfold chunkCount
  rw [← Nat.succ_le_iff, Nat.le_div_iff_mul_le positive, Nat.succ_mul]
  omega

/-- The chunks from one on tile the rest. -/
theorem tiles_chunks_from (first rest : Nat) (all : first + rest = chunkCount total chunk) :
    Tiles (min (first * chunk) total) total
      ((List.range' first rest).map (chunkSpan total chunk)) := by
  induction rest generalizing first with
  | zero =>
      have ended := lt_chunkCount_iff total positive first
      show min (first * chunk) total = total
      omega
  | succ rest inductionHypothesis =>
      have starts := (lt_chunkCount_iff total positive first).mp (by omega)
      rw [List.range'_succ, List.map_cons]
      refine ⟨(Nat.min_eq_left starts.le).symm, ?_⟩
      rw [chunkSpan_stop starts.le]
      exact inductionHypothesis (first + 1) (by omega)

theorem tiles_chunks :
    Tiles 0 total ((List.range (chunkCount total chunk)).map (chunkSpan total chunk)) := by
  have tiles := tiles_chunks_from total positive 0 _ (Nat.zero_add _)
  rwa [Nat.zero_mul, Nat.zero_min, ← List.range_eq_range'] at tiles

end Chunks

/-! ## Slices of a concatenation -/

section Slices

variable {Block Symbol : Type}

/-- The part of `symbols` that a span covers. -/
def slice (symbols : List Symbol) (start size : Nat) : List Symbol :=
  (symbols.drop start).take size

theorem slice_length {symbols : List Symbol} {start size : Nat}
    (within : start + size ≤ symbols.length) : (slice symbols start size).length = size := by
  unfold slice
  rw [List.length_take, List.length_drop]
  omega

/-- Cutting a concatenation at the length of what stands before a block gives
back the block. -/
theorem slice_append_middle (before block after : List Symbol) :
    slice (before ++ (block ++ after)) before.length block.length = block := by
  unfold slice
  rw [List.drop_left, List.take_left]

end Slices

end TriAI.Library.Tiling
