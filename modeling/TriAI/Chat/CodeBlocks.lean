import TriAI.Chat.FencedCode

/-!
Contract: what compression does to the fenced blocks of code (`prompt/compress.rs`).

Owns: the fences and the blocks of a compressed text, from those of the text; and exactly when the
blocks stay as they are.

Does not own: the prose.
-/

set_option autoImplicit false

namespace TriAI.Chat

open TriAI.Library
open TriAI.Library.Blocks
open TriAI.Library.TextLines
open TriAI.Library.Words

/-! ## Fences -/

theorem map_line_partsFrom (code : Bool) (remaining : List String) :
    (partsFrom code remaining).map Part.line = remaining := by
  induction remaining generalizing code with
  | nil => rfl
  | cons line rest inductionHypothesis =>
      unfold partsFrom
      split_ifs
      · exact congrArg (line :: ·) (inductionHypothesis _)
      · exact congrArg (line :: ·) (inductionHypothesis _)
      · exact congrArg (line :: ·) (inductionHypothesis _)

theorem isFence_of_mem_partsFrom {code : Bool} {remaining : List String} {part : Part}
    (member : part ∈ partsFrom code remaining) : isFence part.line = part.isFencePart := by
  induction remaining generalizing code with
  | nil => cases member
  | cons line rest inductionHypothesis =>
      unfold partsFrom at member
      split_ifs at member with fence inside
      · rcases List.mem_cons.mp member with rfl | later
        · exact fence
        · exact inductionHypothesis later
      · rcases List.mem_cons.mp member with rfl | later
        · exact Bool.eq_false_iff.mpr fence
        · exact inductionHypothesis later
      · rcases List.mem_cons.mp member with rfl | later
        · exact Bool.eq_false_iff.mpr fence
        · exact inductionHypothesis later

/-- Every fence comes out. -/
theorem countP_emitted (previous : Option String) (all : List Part) :
    (emitted previous all).countP Part.isFencePart = all.countP Part.isFencePart := by
  induction all generalizing previous with
  | nil => rfl
  | cons part rest inductionHypothesis =>
      cases part with
      | fence line => rw [emitted, List.countP_cons, List.countP_cons, inductionHypothesis]
      | code line => rw [emitted, List.countP_cons, List.countP_cons, inductionHypothesis]
      | prose line =>
          rw [emitted, List.countP_cons_of_neg Bool.false_ne_true]
          split_ifs
          · exact inductionHypothesis previous
          · rw [List.countP_cons_of_neg Bool.false_ne_true, inductionHypothesis]

theorem isFence_of_mem_emitted {input : String} {part : Part}
    (member : part ∈ emitted none (parts input)) (isPart : part.isFencePart = true) :
    isFence part.line = true := by
  rcases mem_emitted member with ⟨inInput, _⟩ | ⟨line, _, _, rfl⟩
  · rw [isFence_of_mem_partsFrom inInput, isPart]
  · cases isPart

/-- The number of fences in a text is that of its parts. -/
theorem fenceCount_eq (input : String) :
    fenceCount input = (parts input).countP Part.isFencePart := by
  have sameFences : (parts input).countP Part.isFencePart =
      ((parts input).map Part.line).countP isFence := by
    rw [List.countP_map]
    apply List.countP_congr
    intro part member
    rw [Function.comp_apply, isFence_of_mem_partsFrom member]
  rw [sameFences, parts, map_line_partsFrom, lines, List.countP_map, fenceCount]
  apply List.countP_congr
  intro piece _
  rw [Function.comp_apply, isFence_eq, String.toList_ofList, isFencePiece_stripEnding]

/-! ## The text that comes out -/

/-- A line that comes out, as a piece. -/
def Part.piece (part : Part) : List Char := part.line.toList ++ ['\n']

theorem flat_eq_flatten (all : List Part) : flat all = (all.map Part.piece).flatten :=
  List.flatMap_def

theorem isFencePiece_piece (part : Part) : isFencePiece part.piece = isFence part.line := by
  rw [Part.piece, isFencePiece_append (by simp [isWhitespace_newline]), isFence_eq]

theorem ended_of_mem_emitted {input : String} :
    ∀ piece ∈ (emitted none (parts input)).map Part.piece, Ended piece := by
  intro piece member
  obtain ⟨part, isPart, rfl⟩ := List.mem_map.mp member
  refine ⟨part.line.toList, ?_, rfl⟩
  rcases mem_emitted isPart with ⟨inInput, _⟩ | ⟨line, _, _, rfl⟩
  · exact newline_not_mem_of_mem_lines (line_mem_of_mem_partsFrom inInput)
  · exact newline_not_mem_compressLine line

/-- Trimming a text takes away blank pieces at its end, and whitespace at the end of a piece. -/
theorem trimmed_pieces {pieces : List (List Char)} (ended : ∀ piece ∈ pieces, Ended piece) :
    (splitInclusive '\n' (pieces.flatten.rdropWhile isWhitespace)).map isFencePiece <+:
        pieces.map isFencePiece ∧
      (splitInclusive '\n' (pieces.flatten.rdropWhile isWhitespace)).countP isFencePiece =
        pieces.countP isFencePiece := by
  induction pieces using List.reverseRecOn with
  | nil => exact ⟨List.prefix_rfl, rfl⟩
  | append_singleton pieces piece inductionHypothesis =>
      rw [List.forall_mem_append, List.forall_mem_singleton] at ended
      obtain ⟨front, absent, rfl⟩ := ended.2
      have noNewline : (front ++ ['\n']).rdropWhile isWhitespace =
          front.rdropWhile isWhitespace :=
        List.rdropWhile_concat_pos _ _ _ isWhitespace_newline
      have sameFence : isFencePiece (front.rdropWhile isWhitespace) =
          isFencePiece (front ++ ['\n']) := by
        rw [isFencePiece_rdropWhile, isFencePiece_append (by simp [isWhitespace_newline])]
      rw [List.flatten_append, List.flatten_singleton, List.map_append, List.countP_append,
        List.map_singleton, List.countP_singleton]
      rw [rdropWhile_append, noNewline]
      by_cases blank : front.rdropWhile isWhitespace = []
      · have noFence : isFencePiece (front ++ ['\n']) = false := by
          rw [← sameFence, blank]
          decide
        rw [if_pos blank, noFence]
        exact ⟨(inductionHypothesis ended.1).1.trans (List.prefix_append _ _),
          (inductionHypothesis ended.1).2⟩
      · have oneLine : '\n' ∉ front.rdropWhile isWhitespace := fun member =>
          absent ((List.rdropWhile_prefix isWhitespace front).subset member)
        rw [if_neg blank, splitInclusive_flatten_append ended.1,
          splitInclusive_of_not_mem oneLine blank, List.map_append, List.countP_append,
          List.map_singleton, List.countP_singleton, sameFence]
        exact ⟨List.prefix_rfl, rfl⟩

/-- The fences of a compressed text are the lines that come out as fences. -/
theorem fenceCount_compress (input : String) :
    fenceCount (compress input) =
      (emitted none (parts input)).countP fun part => isFence part.line := by
  have counted := (trimmed_pieces (@ended_of_mem_emitted input)).2
  rw [fenceCount, toList_compress, flat_eq_flatten, counted, List.countP_map]
  apply List.countP_congr
  intro part _
  rw [Function.comp_apply, isFencePiece_piece]

/-- A line of prose that becomes a fence when words are dropped changes the blocks. -/
theorem not_isFence_of_fencedBlocks {input line : String}
    (same : fencedBlocks (compress input) = fencedBlocks input)
    (member : .prose line ∈ parts input) : isFence (compressLine line) = false := by
  have counts : fenceCount (compress input) = fenceCount input := by
    rw [← sum_fenceCount_fencedBlocks, ← sum_fenceCount_fencedBlocks, same]
  rw [fenceCount_compress, fenceCount_eq, ← countP_emitted none] at counts
  by_contra made
  have isMade : isFence (compressLine line) = true := by simpa using made
  have left : compressLine line ≠ "" := by
    intro empty
    rw [empty] at isMade
    revert isMade
    decide
  obtain ⟨part, comesOut, isLine, noFencePart⟩ :=
    (@exists_emitted none _ _ member left).resolve_right (by intro before; cases before)
  obtain ⟨front, back, whole⟩ := List.append_of_mem comesOut
  have fewer : ∀ some : List Part, some ⊆ emitted none (parts input) →
      some.countP Part.isFencePart ≤ some.countP fun part => isFence part.line :=
    fun some within => List.countP_mono_left fun other isOther =>
      isFence_of_mem_emitted (within isOther)
  have inFront := fewer front (by rw [whole]; exact List.subset_append_left _ _)
  have inBack := fewer back (by
    rw [whole]
    exact List.Subset.trans (List.subset_cons_self part back) (List.subset_append_right _ _))
  rw [← isLine] at isMade
  rw [whole, List.countP_append, List.countP_append, List.countP_cons, List.countP_cons,
    if_pos isMade, noFencePart, if_neg Bool.false_ne_true] at counts
  omega

/-! ## Blocks -/

/-- A line as a piece of a text. -/
def lineOf (piece : List Char) : String := String.ofList (stripEnding piece)

theorem isFence_lineOf (piece : List Char) : isFence (lineOf piece) = isFencePiece piece := by
  rw [lineOf, isFence_eq, String.toList_ofList, isFencePiece_stripEnding]

/-- The blocks of the lines that come out are those of the lines that go in, while no line of
prose becomes a fence. -/
theorem read_emitted {pieces : List (List Char)} (blocks : Blocks (List Char))
    (previous : Option String)
    (noNewFence : ∀ line, .prose line ∈ partsFrom blocks.pending.isSome (pieces.map lineOf) →
      isFence (compressLine line) = false) :
    read isFencePiece (blocks.map newlineEnded)
        ((emitted previous (partsFrom blocks.pending.isSome (pieces.map lineOf))).map Part.piece) =
      (read isFencePiece blocks pieces).map newlineEnded := by
  induction pieces generalizing blocks previous with
  | nil => rfl
  | cons piece rest inductionHypothesis =>
      have step : next isFencePiece (blocks.map newlineEnded) (newlineEnded piece) =
          (next isFencePiece blocks piece).map newlineEnded :=
        next_map blocks (isFencePiece_newlineEnded piece)
      have inside := @isSome_pending_next _ isFencePiece blocks piece
      have isPiece : (lineOf piece).toList ++ ['\n'] = newlineEnded piece := by
        rw [lineOf, String.toList_ofList, newlineEnded]
      have later := inductionHypothesis (next isFencePiece blocks piece)
      rw [inside] at later
      show _ = (read isFencePiece (next isFencePiece blocks piece) rest).map newlineEnded
      rw [List.map_cons, partsFrom, isFence_lineOf] at noNewFence ⊢
      cases fence : isFencePiece piece with
      | true =>
          rw [fence, if_pos rfl] at noNewFence
          rw [fence, Bool.bne_true] at later
          rw [if_pos rfl, emitted, ← later none fun line member =>
            noNewFence line (List.mem_cons_of_mem _ member)]
          show read isFencePiece (next isFencePiece _ ((lineOf piece).toList ++ ['\n'])) _ = _
          rw [isPiece, step]
      | false =>
          rw [fence, if_neg Bool.false_ne_true] at noNewFence
          rw [fence, Bool.bne_false] at later
          rw [if_neg Bool.false_ne_true]
          have comesOut := fun previous => later previous fun line member =>
            noNewFence line (List.mem_cons_of_mem _ member)
          cases code : blocks.pending.isSome with
          | true =>
              rw [code] at comesOut
              rw [if_pos rfl, emitted, ← comesOut (some (lineOf piece))]
              show read isFencePiece (next isFencePiece _ ((lineOf piece).toList ++ ['\n'])) _ = _
              rw [isPiece, step]
          | false =>
              rw [code] at comesOut noNewFence
              have outside : blocks.pending = none := by simpa using code
              have outsideMap : (blocks.map newlineEnded).pending = none := by
                rw [Blocks.map, outside, Option.map_none]
              have noFence := noNewFence (lineOf piece) (List.mem_cons_self ..)
              rw [next_of_pending_none outside fence] at comesOut ⊢
              rw [if_neg Bool.false_ne_true, emitted]
              split_ifs
              · exact comesOut previous
              · rw [← comesOut (some (compressLine (lineOf piece)))]
                show read isFencePiece (next isFencePiece (blocks.map newlineEnded)
                  (Part.prose (compressLine (lineOf piece))).piece) _ = _
                have stillProse : isFencePiece (Part.prose (compressLine (lineOf piece))).piece =
                    false := (isFencePiece_piece _).trans noFence
                rw [next_of_pending_none outsideMap stillProse]

theorem blocksOf_emitted {input : String}
    (noNewFence : ∀ line, .prose line ∈ parts input → isFence (compressLine line) = false) :
    blocksOf isFencePiece ((emitted none (parts input)).map Part.piece) =
      (blocksOf isFencePiece (splitInclusive '\n' input.toList)).map (List.map newlineEnded) := by
  have sameBlocks := read_emitted start none noNewFence
  unfold blocksOf
  rw [← all_map, ← sameBlocks]
  rfl

/-! ## The end of the text -/

/-- Where lines stand depends on the fences before them. -/
theorem partsFrom_append (blocks : Blocks (List Char)) (front back : List Part) :
    partsFrom blocks.pending.isSome ((front ++ back).map Part.line) =
      partsFrom blocks.pending.isSome (front.map Part.line) ++
        partsFrom (read isFencePiece blocks (front.map Part.piece)).pending.isSome
          (back.map Part.line) := by
  induction front generalizing blocks with
  | nil => rfl
  | cons part rest inductionHypothesis =>
      have behind := inductionHypothesis (next isFencePiece blocks part.piece)
      rw [isSome_pending_next, isFencePiece_piece] at behind
      rw [List.cons_append, List.map_cons, List.map_cons, partsFrom, partsFrom]
      show _ = _ ++ partsFrom (read isFencePiece (next isFencePiece blocks part.piece)
        (rest.map Part.piece)).pending.isSome _
      by_cases fence : isFence part.line = true
      · rw [fence, Bool.bne_true] at behind
        rw [if_pos fence, if_pos fence, List.cons_append]
        exact congrArg _ behind
      · rw [Bool.not_eq_true] at fence
        rw [fence, Bool.bne_false] at behind
        rw [fence, if_neg Bool.false_ne_true, if_neg Bool.false_ne_true, List.cons_append]
        exact congrArg _ behind

/-- The lines that come out stand where they stood. -/
theorem partsFrom_emitted {code : Bool} {remaining : List String} (previous : Option String)
    (noNewFence : ∀ line, .prose line ∈ partsFrom code remaining →
      isFence (compressLine line) = false) :
    partsFrom code ((emitted previous (partsFrom code remaining)).map Part.line) =
      emitted previous (partsFrom code remaining) := by
  induction remaining generalizing code previous with
  | nil => rfl
  | cons line rest inductionHypothesis =>
      rw [partsFrom] at noNewFence ⊢
      by_cases fence : isFence line = true
      · rw [if_pos fence] at noNewFence ⊢
        have later := inductionHypothesis none fun other member =>
          noNewFence other (List.mem_cons_of_mem _ member)
        rw [emitted, List.map_cons, partsFrom, Part.line, if_pos fence, later]
      · rw [if_neg fence] at noNewFence ⊢
        have later := fun previous => inductionHypothesis previous fun other member =>
          noNewFence other (List.mem_cons_of_mem _ member)
        cases code with
        | true =>
            rw [if_pos rfl, emitted, List.map_cons, partsFrom, Part.line, if_neg fence, later]
            rfl
        | false =>
            rw [if_neg Bool.false_ne_true] at noNewFence ⊢
            rw [emitted]
            split_ifs
            · exact later previous
            · have noFence := noNewFence line (List.mem_cons_self ..)
              rw [List.map_cons, partsFrom, Part.line, noFence, later]
              rfl

/-- A last line that comes out stands where the fences before it say. -/
theorem last_of_emitted {input : String} {front : List Part} {last : Part}
    (noNewFence : ∀ line, .prose line ∈ parts input → isFence (compressLine line) = false)
    (whole : emitted none (parts input) = front ++ [last]) :
    last.inBlock = (isFencePiece last.piece ||
      (read isFencePiece start (front.map Part.piece)).pending.isSome) := by
  have stands := partsFrom_emitted none noNewFence
  rw [parts] at whole
  have split := partsFrom_append start front [last]
  rw [← whole] at split
  have same := stands.symm.trans split
  rw [whole] at same
  have lastPart : [last] = partsFrom (read isFencePiece start (front.map Part.piece)).pending.isSome
      [last.line] := by
    have lengths : front.length = (partsFrom false (front.map Part.line)).length := by
      have sameLines := congrArg List.length (map_line_partsFrom false (front.map Part.line))
      rw [List.length_map, List.length_map] at sameLines
      exact sameLines.symm
    exact (List.append_inj same lengths).2
  rw [isFencePiece_piece]
  rw [partsFrom] at lastPart
  split_ifs at lastPart with fence code
  · rw [fence, Bool.true_or, List.singleton_inj.mp lastPart]
    rfl
  · rw [code, Bool.or_true, List.singleton_inj.mp lastPart]
    rfl
  · rw [Bool.not_eq_true] at fence code
    rw [fence, code, List.singleton_inj.mp lastPart]
    rfl

theorem visible_of_compressLine {line : String} (left : compressLine line ≠ "") :
    (compressLine line).toList.rdropWhile isWhitespace ≠ [] := by
  intro blank
  rw [List.rdropWhile_eq_nil_iff] at blank
  have noWords : wordsOf isWhitespace ([] ++ (compressLine line).toList) = [] :=
    wordsOf_append_separators blank
  rw [List.nil_append, wordsOf_compressLine] at noWords
  have noneKept : keptWords line = [] := List.map_eq_nil_iff.mp noWords
  rw [compressLine_eq, noneKept] at left
  exact left rfl

/-- Trimming a text that ends in prose leaves its blocks. -/
theorem blocksOf_compress_outside {input : String}
    (noNewFence : ∀ line, .prose line ∈ parts input → isFence (compressLine line) = false)
    (outside : ∀ front last, emitted none (parts input) = front ++ [last] →
      last.inBlock = false) :
    blocksOf isFencePiece (splitInclusive '\n' (compress input).toList) =
      blocksOf isFencePiece ((emitted none (parts input)).map Part.piece) := by
  rw [toList_compress, flat_eq_flatten]
  have ended := @ended_of_mem_emitted input
  rcases List.eq_nil_or_concat (emitted none (parts input)) with empty | ⟨front, last, whole⟩
  · rw [empty]
    rfl
  · rw [List.concat_eq_append] at whole
    have isProse := outside front last whole
    have stands := last_of_emitted noNewFence whole
    rw [isProse] at stands
    obtain ⟨noFence, closed⟩ := Bool.or_eq_false_iff.mp stands.symm
    have isLast : last ∈ emitted none (parts input) := by simp [whole]
    have visible : last.line.toList.rdropWhile isWhitespace ≠ [] := by
      rcases mem_emitted isLast with ⟨_, inBlock⟩ | ⟨line, _, left, rfl⟩
      · rw [isProse] at inBlock
        cases inBlock
      · exact visible_of_compressLine left
    rw [whole, List.map_append, List.map_singleton] at ended ⊢
    rw [List.forall_mem_append, List.forall_mem_singleton] at ended
    have trimmed : last.piece.rdropWhile isWhitespace = last.line.toList.rdropWhile isWhitespace :=
      List.rdropWhile_concat_pos _ _ _ isWhitespace_newline
    have oneLine : '\n' ∉ last.line.toList.rdropWhile isWhitespace := by
      obtain ⟨line, absent, isPiece⟩ := ended.2
      rw [(List.append_inj_left' isPiece rfl)]
      exact fun member => absent ((List.rdropWhile_prefix isWhitespace line).subset member)
    have stillProse : isFencePiece (last.line.toList.rdropWhile isWhitespace) = false := by
      rw [← trimmed, isFencePiece_rdropWhile, noFence]
    rw [List.flatten_append, List.flatten_singleton, rdropWhile_append, trimmed, if_neg visible,
      splitInclusive_flatten_append ended.1, splitInclusive_of_not_mem oneLine visible]
    unfold blocksOf
    rw [read_append, read_append, read_singleton, read_singleton]
    have outsideAll : (read isFencePiece start (front.map Part.piece)).pending = none := by
      simpa using closed
    rw [next_of_pending_none outsideAll stillProse, next_of_pending_none outsideAll noFence]

/-- Trimming a text that ends in a block trims its last block. -/
theorem blocksOf_compress_inside {input : String} {front : List Part} {last : Part}
    (noNewFence : ∀ line, .prose line ∈ parts input → isFence (compressLine line) = false)
    (whole : emitted none (parts input) = front ++ [last]) (inBlock : last.inBlock = true) :
    ∃ before block,
      blocksOf isFencePiece ((emitted none (parts input)).map Part.piece) = before ++ [block] ∧
      blocksOf isFencePiece (splitInclusive '\n' (compress input).toList) =
        before ++ [splitInclusive '\n' (block.flatten.rdropWhile isWhitespace)] := by
  rw [toList_compress, flat_eq_flatten]
  have ended := @ended_of_mem_emitted input
  have stands := last_of_emitted noNewFence whole
  rw [inBlock] at stands
  rw [whole, List.map_append, List.map_singleton] at ended ⊢
  obtain ⟨before, block, isWhole, isBlock, closed, areBlocks⟩ :=
    exists_last_block (Bool.or_eq_true_iff.mp stands.symm)
  rw [isWhole, List.forall_mem_append] at ended
  obtain ⟨samePrefix, sameFences⟩ := trimmed_pieces ended.2
  have visible : block.flatten.rdropWhile isWhitespace ≠ [] := by
    intro blank
    obtain ⟨first, rest, rfl, opens, _⟩ := isBlock
    rw [blank] at sameFences
    simp [splitInclusive, opens] at sameFences
  have nonempty : splitInclusive '\n' (block.flatten.rdropWhile isWhitespace) ≠ [] := by
    intro empty
    have pieces := @flatten_splitInclusive _ _ '\n' (block.flatten.rdropWhile isWhitespace)
    rw [empty] at pieces
    exact visible pieces.symm
  refine ⟨_, block, areBlocks, ?_⟩
  rw [isWhole, List.flatten_append, rdropWhile_append, if_neg visible,
    splitInclusive_flatten_append ended.1, blocksOf, read_append]
  generalize read isFencePiece start before = blocks at closed ⊢
  obtain ⟨closedBlocks, pending⟩ := blocks
  obtain rfl : pending = none := closed
  exact (isBlock.of_prefix nonempty samePrefix).all_read

end TriAI.Chat
