import TriAI.Chat.Compression
import TriAI.Library.Blocks

/-!
Contract: the fenced blocks of code in a text.

Owns: the blocks of a text as texts; the pieces of a text that end in a newline; that whitespace
at the end of a piece does not make or unmake a fence; and the number of fences in a text, which
its blocks determine.

Does not own: what compression does to blocks.

A block goes from the line of its opening fence to that of its closing fence, or to the end of
the text. The ending of its last line does not belong to it.
-/

set_option autoImplicit false

namespace TriAI.Chat

open TriAI.Library
open TriAI.Library.Blocks
open TriAI.Library.TextLines
open TriAI.Library.Words

/-- A piece of a text that opens or closes a block of code. -/
def isFencePiece (piece : List Char) : Bool := isFence (String.ofList piece)

/-- The characters of a block. -/
def blockText (block : List (List Char)) : List Char := stripEnding block.flatten

/-- The fenced blocks of code in a text. -/
def fencedBlocks (text : String) : List String :=
  (blocksOf isFencePiece (splitInclusive '\n' text.toList)).map fun block =>
    String.ofList (blockText block)

/-! ## Fences -/

theorem isFencePiece_eq (piece : List Char) :
    isFencePiece piece = "```".toList.isPrefixOf (piece.dropWhile isWhitespace) := by
  unfold isFencePiece isFence startsWith trimStart
  simp only [String.toList_ofList]

theorem isFence_eq (line : String) : isFence line = isFencePiece line.toList := by
  rw [isFencePiece, String.ofList_toList]

private theorem isFencePiece_concat {c : Char} (space : isWhitespace c = true)
    (piece : List Char) : isFencePiece (piece ++ [c]) = isFencePiece piece := by
  have noTick : c ∉ "```".toList := by
    intro member
    have tick : c = '`' := by simpa using member
    rw [tick] at space
    revert space
    decide
  rw [isFencePiece_eq, isFencePiece_eq, List.dropWhile_append]
  split
  · rename_i blank
    rw [List.isEmpty_iff.mp blank]
    simp [space]
  · rw [Bool.eq_iff_iff, List.isPrefixOf_iff_prefix, List.isPrefixOf_iff_prefix,
      prefix_append_cons_iff noTick]

/-- Whitespace at the end of a piece does not make it a fence. -/
theorem isFencePiece_append {spaces : List Char} (blank : ∀ c ∈ spaces, isWhitespace c = true)
    (piece : List Char) : isFencePiece (piece ++ spaces) = isFencePiece piece := by
  induction spaces using List.reverseRecOn with
  | nil => rw [List.append_nil]
  | append_singleton spaces c inductionHypothesis =>
      rw [List.forall_mem_append, List.forall_mem_singleton] at blank
      rw [← List.append_assoc, isFencePiece_concat blank.2, inductionHypothesis blank.1]

theorem isFencePiece_stripEnding (piece : List Char) :
    isFencePiece (stripEnding piece) = isFencePiece piece := by
  obtain ⟨ending, whole, blank⟩ := exists_ending piece
  conv => rhs; rw [whole]
  exact (isFencePiece_append blank _).symm

theorem isFencePiece_newlineEnded (piece : List Char) :
    isFencePiece (newlineEnded piece) = isFencePiece piece := by
  unfold newlineEnded
  rw [isFencePiece_append (by simp [isWhitespace_newline]), isFencePiece_stripEnding]

theorem isFencePiece_rdropWhile (piece : List Char) :
    isFencePiece (piece.rdropWhile isWhitespace) = isFencePiece piece := by
  have whole : piece.rdropWhile isWhitespace ++ piece.rtakeWhile isWhitespace = piece :=
    List.rdropWhile_append_rtakeWhile
  conv => rhs; rw [← whole]
  exact (isFencePiece_append (fun _ member => List.mem_rtakeWhile_imp member) _).symm

/-! ## Pieces -/

/-- A piece with a newline at its end and nowhere else. -/
def Ended (piece : List Char) : Prop := ∃ front, '\n' ∉ front ∧ piece = front ++ ['\n']

theorem newline_not_mem_stripEnding {front : List Char} (absent : '\n' ∉ front) {piece : List Char}
    (isPiece : piece = front ∨ piece = front ++ ['\n']) : '\n' ∉ stripEnding piece := by
  have shorter : stripEnding piece <+: front := by
    rcases isPiece with rfl | rfl
    · have notEnded : piece.getLast? ≠ some '\n' := fun ended =>
        absent (List.mem_of_getLast? ended)
      rw [stripEnding, if_neg notEnded]
    · rw [stripEnding, List.getLast?_concat, if_pos rfl, List.dropLast_concat]
      split
      · exact List.dropLast_prefix front
      · exact List.prefix_rfl
  exact fun member => absent (shorter.subset member)

theorem newlineEnded_ended {front : List Char} (absent : '\n' ∉ front) {piece : List Char}
    (isPiece : piece = front ∨ piece = front ++ ['\n']) : Ended (newlineEnded piece) :=
  ⟨stripEnding piece, newline_not_mem_stripEnding absent isPiece, rfl⟩

theorem splitInclusive_flatten_append {pieces : List (List Char)}
    (ended : ∀ piece ∈ pieces, Ended piece) (rest : List Char) :
    splitInclusive '\n' (pieces.flatten ++ rest) = pieces ++ splitInclusive '\n' rest := by
  induction pieces with
  | nil => rfl
  | cons piece others inductionHypothesis =>
      obtain ⟨⟨front, absent, rfl⟩, later⟩ := List.forall_mem_cons.mp ended
      rw [List.flatten_cons, List.append_assoc, List.append_assoc, List.singleton_append,
        splitInclusive_append_separator _ absent, inductionHypothesis later, List.cons_append]

/-- Every piece of a text but the last is ended. -/
theorem ended_of_mem_dropLast {text piece : List Char}
    (member : piece ∈ (splitInclusive '\n' text).dropLast) : Ended piece := by
  induction length : text.length using Nat.strong_induction_on generalizing text with
  | _ size inductionHypothesis =>
      by_cases broken : '\n' ∈ text
      · obtain ⟨front, rest, rfl, absent⟩ := List.eq_append_cons_of_mem broken
        rw [splitInclusive_append_separator rest absent] at member
        have shorter : rest.length < size := by
          rw [← length, List.length_append, List.length_cons]
          omega
        cases pieces : splitInclusive '\n' rest with
        | nil =>
            rw [pieces] at member
            cases member
        | cons first others =>
            rw [pieces, List.dropLast_cons_of_ne_nil (List.cons_ne_nil first others), ← pieces,
              List.mem_cons] at member
            rcases member with isFirst | later
            · exact ⟨front, absent, isFirst⟩
            · exact inductionHypothesis rest.length shorter later rfl
      · by_cases empty : text = []
        · rw [empty] at member
          cases member
        · rw [splitInclusive_of_not_mem broken empty] at member
          cases member

/-! ## Blocks -/

/-- A block of a text: pieces that are ended, and a last one. -/
structure IsCut (block inner : List (List Char)) (last : List Char) : Prop where
  whole : block = inner ++ [last]
  ended : ∀ piece ∈ inner, Ended piece
  isPiece : ∃ front, '\n' ∉ front ∧ (last = front ∨ last = front ++ ['\n'])
  nonempty : last ≠ []

theorem exists_isCut {text : List Char} {block : List (List Char)}
    (member : block ∈ blocksOf isFencePiece (splitInclusive '\n' text)) :
    ∃ inner last, IsCut block inner last := by
  obtain ⟨nonempty, isInfix⟩ := infix_of_mem_blocksOf member
  obtain ⟨inner, last, rfl⟩ := (List.eq_nil_or_concat block).resolve_left nonempty
  rw [List.concat_eq_append] at isInfix ⊢
  have isLast : last ∈ splitInclusive '\n' text := isInfix.subset (by simp)
  refine ⟨inner, last, rfl, ?_, piece_of_mem_splitInclusive isLast,
    ne_nil_of_mem_splitInclusive isLast⟩
  intro piece isInner
  apply @ended_of_mem_dropLast text
  obtain ⟨front, back, whole⟩ := isInfix
  rw [← whole]
  cases back with
  | nil =>
      rw [List.append_nil, ← List.append_assoc, List.dropLast_concat]
      exact List.mem_append_right _ isInner
  | cons next others =>
      rw [List.dropLast_append_cons]
      exact List.mem_append_left _ (List.mem_append_right _ (List.mem_append_left _ isInner))

namespace IsCut

variable {block inner : List (List Char)} {last : List Char}

/-- The last character of ended pieces is a newline. -/
theorem getLast?_flatten (ended : ∀ piece ∈ inner, Ended piece) (nonempty : inner ≠ []) :
    inner.flatten.getLast? = some '\n' := by
  obtain ⟨front, piece, rfl⟩ := (List.eq_nil_or_concat inner).resolve_left nonempty
  rw [List.concat_eq_append] at ended ⊢
  obtain ⟨line, _, isPiece⟩ := ended piece (by simp)
  rw [List.flatten_append, List.flatten_singleton, isPiece, ← List.append_assoc,
    List.getLast?_concat]

/-- The text of a block loses the ending of its last piece only. -/
theorem blockText_eq (isCut : IsCut block inner last) :
    blockText block = inner.flatten ++ stripEnding last := by
  obtain ⟨front, absent, isPiece⟩ := isCut.isPiece
  unfold blockText
  rw [isCut.whole, List.flatten_append, List.flatten_singleton]
  rcases isPiece with rfl | rfl
  · have notEnded : last.getLast? ≠ some '\n' := fun ended => absent (List.mem_of_getLast? ended)
    rw [stripEnding, List.getLast?_append_of_ne_nil _ isCut.nonempty, if_neg notEnded, stripEnding,
      if_neg notEnded]
  · rw [← List.append_assoc]
    simp only [stripEnding, List.getLast?_concat, if_true, List.dropLast_concat]
    by_cases empty : front = []
    · have noReturn : inner.flatten.getLast? ≠ some '\r' := by
        by_cases none : inner = []
        · simp [none]
        · rw [getLast?_flatten isCut.ended none]
          decide
      simp [empty, noReturn]
    · rw [List.getLast?_append_of_ne_nil _ empty]
      split
      · exact List.dropLast_append_of_ne_nil empty
      · rfl

/-- The pieces of a block's text have its fences. -/
theorem countP_blockText (isCut : IsCut block inner last) :
    (splitInclusive '\n' (blockText block)).countP isFencePiece = block.countP isFencePiece := by
  obtain ⟨front, absent, isPiece⟩ := isCut.isPiece
  have oneLine := newline_not_mem_stripEnding absent isPiece
  have lastFence : (splitInclusive '\n' (stripEnding last)).countP isFencePiece =
      [last].countP isFencePiece := by
    by_cases empty : stripEnding last = []
    · have noFence : isFencePiece last = false := by
        rw [← isFencePiece_stripEnding, empty]
        decide
      rw [empty]
      simp [splitInclusive, noFence]
    · rw [splitInclusive_of_not_mem oneLine empty, List.countP_singleton, List.countP_singleton,
        isFencePiece_stripEnding]
  rw [isCut.blockText_eq, splitInclusive_flatten_append isCut.ended, List.countP_append, lastFence,
    isCut.whole, List.countP_append]

end IsCut

/-- The number of fences in a text. -/
def fenceCount (text : String) : Nat := (splitInclusive '\n' text.toList).countP isFencePiece

/-- The blocks of a text have its fences. -/
theorem sum_fenceCount_fencedBlocks (text : String) :
    ((fencedBlocks text).map fenceCount).sum = fenceCount text := by
  have each : (fencedBlocks text).map fenceCount =
      (blocksOf isFencePiece (splitInclusive '\n' text.toList)).map (List.countP isFencePiece) := by
    rw [fencedBlocks, List.map_map]
    apply List.map_congr_left
    intro block member
    obtain ⟨inner, last, isCut⟩ := exists_isCut member
    rw [Function.comp_apply, fenceCount, String.toList_ofList, isCut.countP_blockText]
  rw [each, ← List.countP_flatten, countP_blocksOf]
  rfl

end TriAI.Chat
