import TriAI.Chat.CodeBlocks

/-!
Contract: when compression keeps the fenced blocks of code (`prompt/compress.rs`).

Owns: the lines that the loss of a carriage return changes; where a compressed text ends; and
exactly when its blocks are those of the text.

Does not own: the blocks of a compressed text (`Chat.CodeBlocks`).
-/

set_option autoImplicit false

namespace TriAI.Chat

open TriAI.Library
open TriAI.Library.Blocks
open TriAI.Library.TextLines
open TriAI.Library.Words

/-! ## Line endings -/

theorem stripEnding_concat (front : List Char) :
    stripEnding (front ++ ['\n']) =
      if front.getLast? = some '\r' then front.dropLast else front := by
  unfold stripEnding
  rw [List.getLast?_concat, if_pos rfl, List.dropLast_concat]

theorem newlineEnded_concat (front : List Char) :
    newlineEnded (front ++ ['\n']) = front ++ ['\n'] ↔ front.getLast? ≠ some '\r' := by
  unfold newlineEnded
  rw [stripEnding_concat, List.append_left_inj]
  by_cases carriage : front.getLast? = some '\r'
  · have nonempty : front ≠ [] := List.ne_nil_of_mem (List.mem_of_getLast? carriage)
    have shorter : front.dropLast ≠ front := by
      intro same
      have lengths := congrArg List.length same
      have positive := List.length_pos_iff.mpr nonempty
      rw [List.length_dropLast] at lengths
      omega
    simp [carriage, shorter]
  · simp [carriage]

/-- A line that is ended anew is not longer, and as long only when it stays. -/
theorem length_newlineEnded {piece : List Char} (ended : Ended piece) :
    (newlineEnded piece).length ≤ piece.length ∧
      ((newlineEnded piece).length = piece.length → newlineEnded piece = piece) := by
  obtain ⟨front, _, rfl⟩ := ended
  unfold newlineEnded
  rw [stripEnding_concat]
  split_ifs with carriage
  · have positive : 0 < front.length := List.length_pos_of_mem (List.mem_of_getLast? carriage)
    simp only [List.length_append, List.length_dropLast, List.length_singleton]
    omega
  · simp

/-- Lines that are ended anew are not longer in all, and as long only when each stays. -/
theorem length_flatten_map_newlineEnded {pieces : List (List Char)}
    (ended : ∀ piece ∈ pieces, Ended piece) :
    (pieces.map newlineEnded).flatten.length ≤ pieces.flatten.length ∧
      ((pieces.map newlineEnded).flatten.length = pieces.flatten.length →
        ∀ piece ∈ pieces, newlineEnded piece = piece) := by
  induction pieces with
  | nil => simp
  | cons piece rest inductionHypothesis =>
      obtain ⟨first, later⟩ := List.forall_mem_cons.mp ended
      obtain ⟨shorter, same⟩ := length_newlineEnded first
      obtain ⟨shorterRest, sameRest⟩ := inductionHypothesis later
      simp only [List.map_cons, List.flatten_cons, List.length_append]
      refine ⟨by omega, fun total => ?_⟩
      rw [List.forall_mem_cons]
      exact ⟨same (by omega), sameRest (by omega)⟩

theorem flatten_map_newlineEnded_eq_iff {pieces : List (List Char)}
    (ended : ∀ piece ∈ pieces, Ended piece) :
    (pieces.map newlineEnded).flatten = pieces.flatten ↔
      ∀ piece ∈ pieces, newlineEnded piece = piece := by
  constructor
  · exact fun same => (length_flatten_map_newlineEnded ended).2 (congrArg List.length same)
  · intro each
    have stays : pieces.map newlineEnded = pieces.map id := List.map_congr_left each
    rw [stays, List.map_id]

/-- A carriage return before the newline of a first line, or in the lines after it. -/
theorem return_infix_line {front : List Char} (absent : '\n' ∉ front) (rest : List Char) :
    ['\r', '\n'] <:+: front ++ '\n' :: rest ↔
      front.getLast? = some '\r' ∨ ['\r', '\n'] <:+: rest := by
  induction front with
  | nil =>
      rw [List.nil_append, List.infix_cons_iff]
      simp
  | cons c others inductionHypothesis =>
      rw [List.mem_cons, not_or] at absent
      rw [List.cons_append, List.infix_cons_iff, inductionHypothesis absent.2]
      cases others with
      | nil => simp [eq_comm]
      | cons next others =>
          have notNext : '\n' ≠ next := fun same => absent.2 (same ▸ List.mem_cons_self ..)
          rw [List.getLast?_cons_cons, List.cons_append, List.cons_prefix_cons,
            List.cons_prefix_cons]
          simp [notNext]

/-- Lines stay when they are ended anew exactly when no carriage return is before a newline. -/
theorem newlineEnded_eq_iff {pieces : List (List Char)} (ended : ∀ piece ∈ pieces, Ended piece) :
    (∀ piece ∈ pieces, newlineEnded piece = piece) ↔ ¬ ['\r', '\n'] <:+: pieces.flatten := by
  induction pieces with
  | nil => simp
  | cons piece rest inductionHypothesis =>
      obtain ⟨⟨front, absent, rfl⟩, later⟩ := List.forall_mem_cons.mp ended
      rw [List.forall_mem_cons, List.flatten_cons, List.append_assoc, List.singleton_append,
        return_infix_line absent, inductionHypothesis later, newlineEnded_concat, not_or]

/-! ## Blocks -/

namespace IsCut

variable {block inner : List (List Char)} {last : List Char}

theorem oneLine (isCut : IsCut block inner last) : '\n' ∉ stripEnding last := by
  obtain ⟨front, absent, isPiece⟩ := isCut.isPiece
  exact newline_not_mem_stripEnding absent isPiece

/-- A block whose lines are ended anew. -/
theorem map_newlineEnded (isCut : IsCut block inner last) :
    IsCut (block.map newlineEnded) (inner.map newlineEnded) (newlineEnded last) where
  whole := by rw [isCut.whole, List.map_append, List.map_singleton]
  ended := by
    intro piece member
    obtain ⟨line, isLine, rfl⟩ := List.mem_map.mp member
    obtain ⟨front, absent, isPiece⟩ := isCut.ended line isLine
    exact newlineEnded_ended absent (.inr isPiece)
  isPiece := ⟨stripEnding last, isCut.oneLine, .inr rfl⟩
  nonempty := List.append_ne_nil_of_right_ne_nil _ (List.cons_ne_nil _ _)

/-- The lines of a block's text, all ended. -/
theorem ended_lines (isCut : IsCut block inner last) :
    ∀ piece ∈ inner ++ [stripEnding last ++ ['\n']], Ended piece := by
  rw [List.forall_mem_append, List.forall_mem_singleton]
  exact ⟨isCut.ended, stripEnding last, isCut.oneLine, rfl⟩

theorem blockText_newline (isCut : IsCut block inner last) :
    blockText block ++ ['\n'] = (inner ++ [stripEnding last ++ ['\n']]).flatten := by
  rw [isCut.blockText_eq, List.flatten_append, List.flatten_singleton, List.append_assoc]

/-- A block stays when its lines are ended anew exactly when none of them ends in a carriage
return. -/
theorem blockText_map_eq_iff (isCut : IsCut block inner last) :
    blockText (block.map newlineEnded) = blockText block ↔
      ¬ ['\r', '\n'] <:+: blockText block ++ ['\n'] := by
  rw [← List.append_left_inj ['\n'], isCut.blockText_newline,
    ← newlineEnded_eq_iff isCut.ended_lines, ← flatten_map_newlineEnded_eq_iff isCut.ended_lines,
    isCut.map_newlineEnded.blockText_newline, List.map_append, List.map_singleton]
  rfl

/-- A block at the end of a text stays exactly when, besides, its text does not end in
whitespace. -/
theorem rdropWhile_map_eq_iff (isCut : IsCut block inner last) :
    (block.map newlineEnded).flatten.rdropWhile isWhitespace = blockText block ↔
      ¬ ['\r', '\n'] <:+: blockText block ++ ['\n'] ∧
        ∀ c, (blockText block).getLast? = some c → isWhitespace c = false := by
  have trimmed : (block.map newlineEnded).flatten.rdropWhile isWhitespace =
      ((inner.map newlineEnded).flatten ++ stripEnding last).rdropWhile isWhitespace := by
    rw [isCut.whole, List.map_append, List.map_singleton, List.flatten_append,
      List.flatten_singleton, newlineEnded, ← List.append_assoc]
    exact List.rdropWhile_concat_pos _ _ _ isWhitespace_newline
  rw [trimmed, isCut.blockText_newline, ← newlineEnded_eq_iff isCut.ended_lines,
    List.forall_mem_append, List.forall_mem_singleton, newlineEnded_concat, isCut.blockText_eq]
  constructor
  · intro same
    have visible : ∀ c, (inner.flatten ++ stripEnding last).getLast? = some c →
        isWhitespace c = false := by
      intro c isLast
      rw [← same] at isLast
      exact getLast?_rdropWhile isLast
    have notShorter : inner.flatten.length ≤ (inner.map newlineEnded).flatten.length := by
      have most := (List.rdropWhile_prefix isWhitespace
        ((inner.map newlineEnded).flatten ++ stripEnding last)).length_le
      rw [same, List.length_append, List.length_append] at most
      omega
    obtain ⟨notLonger, each⟩ := length_flatten_map_newlineEnded isCut.ended
    refine ⟨⟨each (by omega), fun carriage => ?_⟩, visible⟩
    have isLast : (inner.flatten ++ stripEnding last).getLast? = some '\r' := by
      rw [List.getLast?_append, carriage]
      rfl
    have visibleReturn := visible '\r' isLast
    rw [isWhitespace_return] at visibleReturn
    cases visibleReturn
  · rintro ⟨⟨each, _⟩, visible⟩
    rw [(flatten_map_newlineEnded_eq_iff isCut.ended).mpr each, List.rdropWhile_eq_self_iff]
    intro nonempty
    rw [visible _ (List.getLast?_eq_some_getLast nonempty)]
    exact Bool.false_ne_true

end IsCut

/-! ## The end of the text -/

theorem compressLine_eq_empty_iff (line : String) :
    compressLine line = "" ↔ keptWords line = [] := by
  constructor
  · intro empty
    have words := wordsOf_compressLine line
    rw [empty] at words
    exact List.map_eq_nil_iff.mp words.symm
  · intro noneKept
    rw [compressLine_eq, noneKept]
    rfl

/-- A line of which something stays. -/
def Part.stays : Part → Bool
  | .fence _ | .code _ => true
  | .prose line => !(keptWords line).isEmpty

/-- The last line of which something stays is in a block. -/
def EndsInBlock (all : List Part) : Prop :=
  ∃ part, (all.filter Part.stays).getLast? = some part ∧ part.inBlock = true

/-- Whether the last of some lines is in a block. -/
def lastInBlock (ends : Bool) (all : List Part) : Bool :=
  all.foldl (fun _ part => part.inBlock) ends

theorem lastInBlock_concat (ends : Bool) (front : List Part) (last : Part) :
    lastInBlock ends (front ++ [last]) = last.inBlock := by
  rw [lastInBlock, List.foldl_concat]

theorem endsInBlock_iff (all : List Part) :
    EndsInBlock all ↔ lastInBlock false (all.filter Part.stays) = true := by
  unfold EndsInBlock
  rcases List.eq_nil_or_concat (all.filter Part.stays) with empty | ⟨front, last, whole⟩
  · rw [empty]
    simp [lastInBlock]
  · rw [whole, List.concat_eq_append, lastInBlock_concat]
    simp

theorem stays_prose (line : String) :
    (Part.prose line).stays = decide (compressLine line ≠ "") := by
  rw [Bool.eq_iff_iff, decide_eq_true_iff, ne_eq, compressLine_eq_empty_iff]
  simp [Part.stays]

/-- The last line that comes out is in a block when the last that stays is. A line that repeats
the one before repeats a line of prose: a fence comes between code and prose. -/
theorem lastInBlock_emitted {code ends : Bool} {remaining : List String} {previous : Option String}
    (behindProse : code = false → previous ≠ none → ends = false) :
    lastInBlock ends (emitted previous (partsFrom code remaining)) =
      lastInBlock ends ((partsFrom code remaining).filter Part.stays) := by
  induction remaining generalizing code ends previous with
  | nil => rfl
  | cons line rest inductionHypothesis =>
      rw [partsFrom]
      split_ifs with fence inside
      · exact inductionHypothesis fun _ known => absurd rfl known
      · exact inductionHypothesis fun outside => by rw [inside] at outside; cases outside
      · rw [Bool.not_eq_true] at inside
        rw [inside] at behindProse ⊢
        rw [emitted]
        by_cases empty : compressLine line = ""
        · rw [if_pos (.inl empty), List.filter_cons_of_neg (by simp [stays_prose, empty])]
          exact inductionHypothesis behindProse
        · rw [List.filter_cons_of_pos (by simp [stays_prose, empty])]
          show _ = lastInBlock false ((partsFrom false rest).filter Part.stays)
          by_cases repeated : previous = some (compressLine line)
          · have outside : ends = false := behindProse rfl (by simp [repeated])
            rw [if_pos (.inr repeated), outside]
            exact inductionHypothesis fun _ _ => rfl
          · rw [if_neg (not_or.mpr ⟨empty, repeated⟩)]
            exact inductionHypothesis fun _ _ => rfl

/-- A text ends in a block when its compression does. -/
theorem endsInBlock_parts_iff (input : String) :
    EndsInBlock (parts input) ↔ lastInBlock false (emitted none (parts input)) = true := by
  rw [endsInBlock_iff, parts, lastInBlock_emitted fun _ _ => rfl]

/-! ## New fences -/

/-- What is left of a line is a fence when its first word begins with one. -/
theorem isFence_compressLine_iff (line : String) :
    isFence (compressLine line) = false ↔
      ∀ word, (keptWords line).head? = some word → startsWith word "```" = false := by
  rw [isFence_eq, isFencePiece_eq, toList_compressLine]
  have areWords := fun word => @word_of_mem_keptWords line word
  cases words : keptWords line with
  | nil => simp
  | cons first others =>
      rw [words] at areWords
      obtain ⟨nonempty, visible⟩ := areWords first.toList (by simp)
      obtain ⟨c, inner, isFirst⟩ := List.exists_cons_of_ne_nil nonempty
      have visibleFirst : isWhitespace c = false := visible c (isFirst ▸ List.mem_cons_self ..)
      have behind : ∃ rest, [' '].intercalate ((first :: others).map String.toList) =
          first.toList ++ rest ∧ (rest = [] ∨ ∃ back, rest = ' ' :: back) := by
        cases others with
        | nil => exact ⟨[], by simp, .inl rfl⟩
        | cons next rest =>
            exact ⟨' ' :: [' '].intercalate ((next :: rest).map String.toList), by simp,
              .inr ⟨_, rfl⟩⟩
      obtain ⟨rest, whole, isRest⟩ := behind
      have begins : "```".toList <+: first.toList ++ rest ↔ "```".toList <+: first.toList := by
        rcases isRest with rfl | ⟨back, rfl⟩
        · rw [List.append_nil]
        · exact prefix_append_cons_iff (by decide) back
      rw [whole, isFirst, List.cons_append, List.dropWhile_cons_of_neg (by simp [visibleFirst]),
        ← List.cons_append, ← isFirst]
      simp only [List.head?_cons, Option.some.injEq, forall_eq', startsWith]
      rw [← Bool.not_eq_true, ← Bool.not_eq_true, List.isPrefixOf_iff_prefix,
        List.isPrefixOf_iff_prefix, begins]

/-! ## Kept code -/

/-- The texts whose code compression keeps. -/
structure KeepsCode (input : String) : Prop where
  /-- no line of prose begins with a fence behind the words that are dropped -/
  noNewFence : ∀ line, .prose line ∈ parts input →
    ∀ word, (keptWords line).head? = some word → startsWith word "```" = false
  /-- no line of a block ends in a carriage return -/
  noReturn : ∀ block ∈ fencedBlocks input, ¬ ['\r', '\n'] <:+: block.toList ++ ['\n']
  /-- a block that the text ends in does not end in whitespace -/
  visibleEnd : EndsInBlock (parts input) → ∀ block, (fencedBlocks input).getLast? = some block →
    ∀ c, block.toList.getLast? = some c → isWhitespace c = false

section KeptBlocks

variable {input : String}

theorem fencedBlocks_outside_iff
    (noNewFence : ∀ line, .prose line ∈ parts input → isFence (compressLine line) = false)
    (outside : ¬ EndsInBlock (parts input)) :
    fencedBlocks (compress input) = fencedBlocks input ↔
      ∀ block ∈ fencedBlocks input, ¬ ['\r', '\n'] <:+: block.toList ++ ['\n'] := by
  have endsInProse : ∀ front last, emitted none (parts input) = front ++ [last] →
      last.inBlock = false := by
    intro front last whole
    rw [endsInBlock_parts_iff, whole, lastInBlock_concat, Bool.not_eq_true] at outside
    exact outside
  unfold fencedBlocks
  rw [blocksOf_compress_outside noNewFence endsInProse, blocksOf_emitted noNewFence, List.map_map,
    List.map_inj_left, List.forall_mem_map]
  apply forall₂_congr
  intro block member
  obtain ⟨inner, last, isCut⟩ := exists_isCut member
  rw [Function.comp_apply, String.ofList_inj, String.toList_ofList]
  exact isCut.blockText_map_eq_iff

theorem fencedBlocks_inside_iff
    (noNewFence : ∀ line, .prose line ∈ parts input → isFence (compressLine line) = false)
    (inside : EndsInBlock (parts input)) :
    fencedBlocks (compress input) = fencedBlocks input ↔
      (∀ block ∈ fencedBlocks input, ¬ ['\r', '\n'] <:+: block.toList ++ ['\n']) ∧
        ∀ block, (fencedBlocks input).getLast? = some block →
          ∀ c, block.toList.getLast? = some c → isWhitespace c = false := by
  rw [endsInBlock_parts_iff] at inside
  obtain ⟨front, part, whole⟩ := (List.eq_nil_or_concat (emitted none (parts input))).resolve_left
    (by intro empty; rw [empty] at inside; cases inside)
  rw [List.concat_eq_append] at whole
  rw [whole, lastInBlock_concat] at inside
  obtain ⟨before, block, areLines, areBlocks⟩ := blocksOf_compress_inside noNewFence whole inside
  rw [blocksOf_emitted noNewFence, List.map_eq_append_iff] at areLines
  obtain ⟨rawBefore, rest, areRaw, rfl, isRest⟩ := areLines
  obtain ⟨raw, rfl, rfl⟩ := List.map_eq_singleton_iff.mp isRest
  have cut : ∀ block ∈ rawBefore ++ [raw], ∃ inner last, IsCut block inner last :=
    fun block member => exists_isCut (areRaw ▸ member)
  rw [List.forall_mem_append, List.forall_mem_singleton] at cut
  obtain ⟨inner, last, isCut⟩ := cut.2
  have trimmedText : blockText (splitInclusive '\n'
      ((raw.map newlineEnded).flatten.rdropWhile isWhitespace)) =
        (raw.map newlineEnded).flatten.rdropWhile isWhitespace := by
    rw [blockText, flatten_splitInclusive, stripEnding, if_neg]
    intro ended
    have visible := getLast?_rdropWhile ended
    rw [isWhitespace_newline] at visible
    cases visible
  have each : rawBefore.map ((fun block => String.ofList (blockText block)) ∘
      List.map newlineEnded) = rawBefore.map (fun block => String.ofList (blockText block)) ↔
        ∀ block ∈ rawBefore, ¬ ['\r', '\n'] <:+: blockText block ++ ['\n'] := by
    rw [List.map_inj_left]
    apply forall₂_congr
    intro block member
    obtain ⟨inner, last, isCut⟩ := cut.1 block member
    rw [Function.comp_apply, String.ofList_inj]
    exact isCut.blockText_map_eq_iff
  unfold fencedBlocks
  rw [areBlocks, areRaw]
  simp only [List.map_append, List.map_singleton, List.map_map, List.append_singleton_inj,
    trimmedText, String.ofList_inj, isCut.rdropWhile_map_eq_iff, List.forall_mem_append,
    List.forall_mem_singleton, List.forall_mem_map, String.toList_ofList, List.getLast?_concat,
    Option.some.injEq, forall_eq']
  exact (and_congr_left' each).trans and_assoc.symm

/-- Compression keeps the fenced blocks of code of a text, byte for byte, exactly when no line of
prose becomes a fence, no line of a block ends in a carriage return, and no block at the end of
the text ends in whitespace. -/
theorem fencedBlocks_compress_eq_iff (input : String) :
    fencedBlocks (compress input) = fencedBlocks input ↔ KeepsCode input := by
  by_cases noNewFence : ∀ line, .prose line ∈ parts input → isFence (compressLine line) = false
  · have words : ∀ line, .prose line ∈ parts input →
        ∀ word, (keptWords line).head? = some word → startsWith word "```" = false :=
      fun line member => (isFence_compressLine_iff line).mp (noNewFence line member)
    by_cases inside : EndsInBlock (parts input)
    · rw [fencedBlocks_inside_iff noNewFence inside]
      exact ⟨fun kept => ⟨words, kept.1, fun _ => kept.2⟩,
        fun kept => ⟨kept.noReturn, kept.visibleEnd inside⟩⟩
    · rw [fencedBlocks_outside_iff noNewFence inside]
      exact ⟨fun kept => ⟨words, kept, fun ends => absurd ends inside⟩, fun kept => kept.noReturn⟩
  · constructor
    · intro same
      exact absurd (fun line member => not_isFence_of_fencedBlocks same member) noNewFence
    · intro kept
      exact absurd (fun line member => (isFence_compressLine_iff line).mpr
        (kept.noNewFence line member)) noNewFence

end KeptBlocks

/-- A block whose lines end in carriage return and newline loses the carriage returns. -/
theorem returned_block_altered :
    fencedBlocks (compress "```rs\r\nlet x = 1;\r\n```") ≠
      fencedBlocks "```rs\r\nlet x = 1;\r\n```" := by
  decide +kernel

/-- A word that is dropped before a fence makes a block of prose. -/
example : fencedBlocks (compress "please ```rs\nlet x = 1;\n```") = ["```rs\nlet x = 1;\n```"] ∧
    fencedBlocks "please ```rs\nlet x = 1;\n```" = ["```"] := by
  decide +kernel

end TriAI.Chat
