import TriAI.Chat.Compression

/-!
Contract: what compression does to the token estimate (`prompt/compress.rs`,
`prompt/estimate.rs`).

Owns: that a compressed text is a part of the text, up to which whitespace stands where; the
estimate of a text in plain numbers; and that compression does not raise it.

Does not own: the limits of the estimate (`Chat.Prompt`).
-/

set_option autoImplicit false

namespace TriAI.Chat

open TriAI.Library.TextLines
open TriAI.Library.Words

/-! ## What is left of a text -/

/-- A character, where all whitespace is alike. -/
def blurred (c : Char) : Char := blur isWhitespace ' ' c

theorem blurred_blurred (c : Char) : blurred (blurred c) = blurred c := by
  unfold blurred blur
  split_ifs with space again
  · rfl
  · rfl
  · rfl

theorem map_blurred_map_blurred (text : List Char) :
    (text.map blurred).map blurred = text.map blurred := by
  rw [List.map_map]
  exact List.map_congr_left fun c _ => blurred_blurred c

theorem compressLine_sublist (line : String) :
    ((compressLine line).toList.map blurred).Sublist (line.toList.map blurred) := by
  have words : ((compressLine line).toList.map blurred).Sublist
      ((line.toList.map blurred).map blurred) := by
    rw [toList_compressLine]
    exact (intercalate_words_sublist ' ' (keptWords_sublist line)).map blurred
  rwa [map_blurred_map_blurred] at words

/-- What comes out of parts is a part of them. -/
theorem flat_emitted_sublist (previous : Option String) (all : List Part) :
    ((flat (emitted previous all)).map blurred).Sublist ((flat all).map blurred) := by
  induction all generalizing previous with
  | nil => exact List.Sublist.refl _
  | cons part rest inductionHypothesis =>
      rw [flat_cons, List.map_append, List.map_append]
      cases part with
      | fence line =>
          rw [emitted, flat_cons, List.map_append, List.map_append]
          exact (List.Sublist.refl _).append (inductionHypothesis none)
      | code line =>
          rw [emitted, flat_cons, List.map_append, List.map_append]
          exact (List.Sublist.refl _).append (inductionHypothesis (some line))
      | prose line =>
          rw [emitted]
          split_ifs
          · exact (inductionHypothesis previous).trans (List.sublist_append_right _ _)
          · rw [flat_cons, List.map_append, List.map_append]
            exact ((compressLine_sublist line).append (List.Sublist.refl _)).append
              (inductionHypothesis (some (compressLine line)))

theorem flat_partsFrom (code : Bool) (remaining : List String) :
    flat (partsFrom code remaining) = remaining.flatMap fun line => line.toList ++ ['\n'] := by
  induction remaining generalizing code with
  | nil => rfl
  | cons line rest inductionHypothesis =>
      rw [partsFrom, List.flatMap_cons]
      split_ifs
      · rw [flat_cons, inductionHypothesis]
        rfl
      · rw [flat_cons, inductionHypothesis]
        rfl
      · rw [flat_cons, inductionHypothesis]
        rfl

theorem newlineEnded_cons_sublist (c : Char) {piece : List Char} (nonempty : piece ≠ []) :
    (newlineEnded (c :: piece)).Sublist (c :: newlineEnded piece) := by
  obtain ⟨front, last, rfl⟩ := List.eq_nil_or_concat piece |>.resolve_left nonempty
  unfold newlineEnded stripEnding
  rw [List.concat_eq_append, ← List.cons_append, List.getLast?_concat, List.getLast?_concat,
    List.dropLast_concat, List.dropLast_concat]
  split_ifs with newline before after
  · cases front with
    | nil => simp at after
    | cons first others => exact List.Sublist.refl _
  · -- the carriage return is the new first character
    cases front with
    | nil => exact List.sublist_cons_self _ _
    | cons first others =>
        rw [List.getLast?_cons_cons] at before
        contradiction
  · cases front with
    | nil => simp_all
    | cons first others =>
        rw [List.getLast?_cons_cons] at before
        contradiction
  · exact List.Sublist.refl _
  · exact List.Sublist.refl _

/-- The lines of a text, all of them ended, are a part of the text with a newline. -/
theorem flatMap_pieces_sublist (text : List Char) :
    ((splitInclusive '\n' text).flatMap newlineEnded).Sublist (text ++ ['\n']) := by
  induction text with
  | nil => exact List.nil_sublist _
  | cons c rest inductionHypothesis =>
      rw [splitInclusive]
      split_ifs with newline
      · rw [List.flatMap_cons, newline]
        exact List.Sublist.cons_cons '\n' inductionHypothesis
      · cases pieces : splitInclusive '\n' rest with
        | nil =>
            rw [pieces] at inductionHypothesis
            have short : (newlineEnded [c]).Sublist (c :: ['\n']) := by
              simp [newlineEnded, stripEnding, newline]
            rw [List.flatMap_cons, List.flatMap_nil, List.append_nil]
            exact short.trans (List.Sublist.cons_cons c (List.sublist_append_right _ _))
        | cons piece others =>
            rw [pieces, List.flatMap_cons] at inductionHypothesis
            have nonempty : piece ≠ [] := by
              have isPiece : piece ∈ splitInclusive '\n' rest := by
                rw [pieces]
                exact List.mem_cons_self ..
              exact ne_nil_of_mem_splitInclusive isPiece
            rw [List.flatMap_cons]
            exact ((newlineEnded_cons_sublist c nonempty).append (List.Sublist.refl _)).trans
              (List.Sublist.cons_cons c inductionHypothesis)

theorem flat_parts_sublist (input : String) :
    (flat (parts input)).Sublist (input.toList ++ ['\n']) := by
  unfold parts lines
  rw [flat_partsFrom, List.flatMap_map]
  simp only [String.toList_ofList]
  exact flatMap_pieces_sublist input.toList

/-- A compressed text is a part of the text, where all whitespace is alike. -/
theorem compress_sublist (input : String) :
    ((compress input).toList.map blurred).Sublist (input.toList.map blurred) := by
  have whole : ((flat (emitted none (parts input))).map blurred).Sublist
      (input.toList.map blurred ++ [' ']) := by
    have ended := (flat_emitted_sublist none (parts input)).trans
      ((flat_parts_sublist input).map blurred)
    rwa [List.map_append] at ended
  rw [toList_compress]
  rcases flat_eq_nil_or_ended (emitted none (parts input)) with empty | ⟨front, ended⟩
  · rw [empty]
    exact List.nil_sublist _
  · rw [ended] at whole ⊢
    rw [List.rdropWhile_concat_pos _ _ _ (by decide)]
    rw [List.map_append] at whole
    exact ((List.rdropWhile_prefix isWhitespace front).sublist.map blurred).trans
      ((List.append_sublist_append_right [' ']).mp whole)

/-! ## Estimates -/

theorem isCjk_blurred (c : Char) : isCjk (blurred c) = isCjk c := by
  unfold blurred blur
  split_ifs with space
  · have notCjk : isCjk c = false := by
      simp only [isWhitespace, isCjk, decide_eq_true_eq, decide_eq_false_iff_not,
        List.mem_cons, List.not_mem_nil, or_false] at space ⊢
      omega
    rw [notCjk]
    decide
  · rfl

/-- The characters of a text that count as a token of their own, and the others. -/
def cjkCount (text : List Char) : Nat := text.countP isCjk

def otherCount (text : List Char) : Nat := text.countP fun c => !isCjk c

theorem cjkCount_add_otherCount (text : List Char) :
    cjkCount text + otherCount text = text.length := by
  unfold cjkCount otherCount
  rw [List.length_eq_countP_add_countP isCjk]
  simp

theorem cjkCount_map_blurred (text : List Char) :
    cjkCount (text.map blurred) = cjkCount text := by
  unfold cjkCount
  rw [List.countP_map]
  exact List.countP_congr fun c _ => by rw [Function.comp_apply, isCjk_blurred]

theorem otherCount_map_blurred (text : List Char) :
    otherCount (text.map blurred) = otherCount text := by
  unfold otherCount
  rw [List.countP_map]
  exact List.countP_congr fun c _ => by rw [Function.comp_apply, isCjk_blurred]

/-- The counters of `estimate_tokens`, as long as they do not overflow. -/
theorem foldl_counts (text : List Char) (cjk other : UInt32)
    (small : cjk.toNat + other.toNat + text.length < 2 ^ 32) :
    let counts := text.foldl (fun (counts : UInt32 × UInt32) c =>
      if isCjk c then (counts.1 + 1, counts.2) else (counts.1, counts.2 + 1)) (cjk, other)
    counts.1.toNat = cjk.toNat + cjkCount text ∧
      counts.2.toNat = other.toNat + otherCount text := by
  induction text generalizing cjk other with
  | nil => exact ⟨rfl, rfl⟩
  | cons c rest inductionHypothesis =>
      rw [List.length_cons] at small
      rw [List.foldl_cons]
      cases kind : isCjk c with
      | true =>
          have counted : (cjk + 1).toNat = cjk.toNat + 1 := by
            rw [UInt32.toNat_add, UInt32.toNat_one, Nat.mod_eq_of_lt (by omega)]
          have rests := inductionHypothesis (cjk + 1) other (by omega)
          simp only [kind, if_true, cjkCount, otherCount, List.countP_cons, Bool.not_true,
            Bool.false_eq_true, if_false] at rests ⊢
          omega
      | false =>
          have counted : (other + 1).toNat = other.toNat + 1 := by
            rw [UInt32.toNat_add, UInt32.toNat_one, Nat.mod_eq_of_lt (by omega)]
          have rests := inductionHypothesis cjk (other + 1) (by omega)
          simp only [kind, if_true, cjkCount, otherCount, List.countP_cons, Bool.not_false,
            Bool.false_eq_true, if_false] at rests ⊢
          omega

/-- The estimate of a text that is not too long. -/
theorem toNat_estimateTokens {input : String} (short : input.length < 2 ^ 32 - 3) :
    (estimateTokens input).toNat =
      cjkCount input.toList + (otherCount input.toList + 3) / 4 := by
  have whole := cjkCount_add_otherCount input.toList
  rw [String.length_toList] at whole
  by_cases empty : input = ""
  · subst empty
    rfl
  · have counts := foldl_counts input.toList 0 0
      (by rw [String.length_toList, UInt32.toNat_zero]; omega)
    unfold estimateTokens
    rw [if_neg empty]
    dsimp only at counts ⊢
    rw [UInt32.toNat_zero, Nat.zero_add, Nat.zero_add] at counts
    generalize input.toList.foldl _ _ = counted at counts ⊢
    have rounded : ((counted.2 + 3) / 4).toNat = (otherCount input.toList + 3) / 4 := by
      rw [UInt32.toNat_div, UInt32.toNat_add, counts.2]
      show (otherCount input.toList + 3) % 2 ^ 32 / 4 = _
      rw [Nat.mod_eq_of_lt (by omega)]
    unfold saturatingAdd
    rw [counts.1, rounded, if_pos (by omega), UInt32.toNat_add, counts.1, rounded,
      Nat.mod_eq_of_lt (by omega)]

/-- Compression never raises the estimate. -/
theorem estimateTokens_compress_le (input : String) (short : input.length < 2 ^ 32 - 3) :
    estimateTokens (compress input) ≤ estimateTokens input := by
  have part := compress_sublist input
  have shorter : (compress input).length ≤ input.length := by
    have lengths := part.length_le
    rwa [List.length_map, List.length_map, String.length_toList, String.length_toList] at lengths
  have cjk : cjkCount (compress input).toList ≤ cjkCount input.toList := by
    have counted : cjkCount _ ≤ cjkCount _ := part.countP_le
    rwa [cjkCount_map_blurred, cjkCount_map_blurred] at counted
  have other : otherCount (compress input).toList ≤ otherCount input.toList := by
    have counted : otherCount _ ≤ otherCount _ := part.countP_le
    rwa [otherCount_map_blurred, otherCount_map_blurred] at counted
  rw [UInt32.le_iff_toNat_le, toNat_estimateTokens short,
    toNat_estimateTokens (Nat.lt_of_le_of_lt shorter short)]
  omega

theorem estimateTokens_compress_sample :
    estimateTokens (compress "please  keep 你好") ≤ estimateTokens "please  keep 你好" :=
  estimateTokens_compress_le _ (by decide)

end TriAI.Chat
