import TriAI.Chat.Prompt
import TriAI.Library.Words

/-!
Contract: what the compression of a text makes of its lines (`prompt/compress.rs`).

Owns: the lines of a text as fences, code and prose; the lines that come out, and the compressed
text as these; and the words that stay of a line.

Does not own: `compress` (`Chat.Prompt`).
-/

set_option autoImplicit false

namespace TriAI.Chat

open TriAI.Library.TextLines
open TriAI.Library.Words

/-! ## Parts -/

/-- A line that opens or closes a block of code. -/
def isFence (line : String) : Bool := startsWith (trimStart line) "```"

/-- A line, by where it stands. -/
inductive Part where
  | fence (line : String)
  | code (line : String)
  | prose (line : String)
deriving DecidableEq

def Part.line : Part → String
  | .fence line | .code line | .prose line => line

def Part.isFencePart : Part → Bool
  | .fence _ => true
  | .code _ | .prose _ => false

/-- A part opens or closes a block, or stands in one. -/
def Part.inBlock : Part → Bool
  | .fence _ | .code _ => true
  | .prose _ => false

/-- Lines as parts, inside of a block of code or outside. -/
def partsFrom : Bool → List String → List Part
  | _, [] => []
  | code, line :: rest =>
      if isFence line then .fence line :: partsFrom (!code) rest
      else (if code then .code line else .prose line) :: partsFrom code rest

/-- The parts of a text. -/
def parts (input : String) : List Part := partsFrom false (lines input)

/-- What comes out of parts, behind a line that has come out. A line of prose is dropped when
nothing is left of it or when it repeats that line. -/
def emitted : Option String → List Part → List Part
  | _, [] => []
  | _, .fence line :: rest => .fence line :: emitted none rest
  | _, .code line :: rest => .code line :: emitted (some line) rest
  | previous, .prose line :: rest =>
      if compressLine line = "" ∨ previous = some (compressLine line) then emitted previous rest
      else .prose (compressLine line) :: emitted (some (compressLine line)) rest

/-- The text of lines that are all ended. -/
def flat (lines : List Part) : List Char := lines.flatMap fun part => part.line.toList ++ ['\n']

@[simp] theorem flat_nil : flat [] = [] := rfl

@[simp] theorem flat_cons (part : Part) (rest : List Part) :
    flat (part :: rest) = part.line.toList ++ ['\n'] ++ flat rest := rfl

@[simp] theorem flat_append (front back : List Part) :
    flat (front ++ back) = flat front ++ flat back := List.flatMap_append

theorem flat_eq_nil_or_ended (all : List Part) :
    flat all = [] ∨ ∃ front, flat all = front ++ ['\n'] := by
  cases all using List.reverseRecOn with
  | nil => exact .inl rfl
  | append_singleton front part =>
      refine .inr ⟨flat front ++ part.line.toList, ?_⟩
      simp

theorem ne_nil_of_mem_splitInclusive {text piece : List Char}
    (member : piece ∈ splitInclusive '\n' text) : piece ≠ [] := by
  induction text generalizing piece with
  | nil => simp [splitInclusive] at member
  | cons c rest inductionHypothesis =>
      rw [splitInclusive] at member
      split at member
      · rcases List.mem_cons.mp member with rfl | later
        · simp
        · exact inductionHypothesis later
      · cases pieces : splitInclusive '\n' rest with
        | nil =>
            rw [pieces] at member
            simp [List.mem_singleton.mp member]
        | cons first others =>
            rw [pieces] at member inductionHypothesis
            rcases List.mem_cons.mp member with rfl | later
            · simp
            · exact inductionHypothesis (List.mem_cons_of_mem _ later)

section Loop

variable {state : Compression} {line : String}

theorem line_of_isFence (fence : isFence line = true) :
    state.line line =
      { result := state.result ++ line ++ "\n", code := !state.code, previous := none } :=
  if_pos fence

theorem line_of_code (noFence : ¬ isFence line = true) (code : state.code = true) :
    state.line line =
      { state with previous := some line, result := state.result ++ line ++ "\n" } := by
  refine (if_neg noFence).trans ?_
  simp [code]

theorem line_of_prose (noFence : ¬ isFence line = true) (prose : state.code = false) :
    state.line line =
      if compressLine line = "" ∨ state.previous = some (compressLine line) then state
      else { state with
        previous := some (compressLine line)
        result := state.result ++ compressLine line ++ "\n" } := by
  refine (if_neg noFence).trans ?_
  by_cases empty : compressLine line = ""
  · simp [prose, empty]
  · by_cases repeated : state.previous = some (compressLine line)
    · simp [prose, empty, repeated]
    · simp [prose, empty, repeated]

/-- The loop of `compress` writes the parts that come out. -/
theorem toList_foldl_line (remaining : List String) (state : Compression) :
    (remaining.foldl Compression.line state).result.toList =
      state.result.toList ++ flat (emitted state.previous (partsFrom state.code remaining)) := by
  induction remaining generalizing state with
  | nil => simp [partsFrom, emitted]
  | cons line rest inductionHypothesis =>
      rw [List.foldl_cons, inductionHypothesis, partsFrom]
      by_cases fence : isFence line = true
      · rw [line_of_isFence fence, if_pos fence]
        simp [emitted, Part.line]
      · rw [if_neg fence]
        cases code : state.code with
        | true =>
            rw [line_of_code fence code]
            simp [emitted, Part.line, code]
        | false =>
            rw [line_of_prose fence code, if_neg Bool.false_ne_true, emitted]
            split_ifs
            · rw [code]
            · simp [Part.line, code]

end Loop

/-- The compressed text: the parts that come out, without the whitespace at their end. -/
theorem toList_compress (input : String) :
    (compress input).toList = (flat (emitted none (parts input))).rdropWhile isWhitespace := by
  unfold compress trimEnd
  rw [String.toList_ofList, toList_foldl_line]
  simp [parts]

/-! ## Where lines come from -/

theorem line_mem_of_mem_partsFrom {code : Bool} {remaining : List String} {part : Part}
    (member : part ∈ partsFrom code remaining) : part.line ∈ remaining := by
  induction remaining generalizing code with
  | nil => cases member
  | cons line rest inductionHypothesis =>
      rw [partsFrom] at member
      split_ifs at member
      · rcases List.mem_cons.mp member with rfl | later
        · exact List.mem_cons_self ..
        · exact List.mem_cons_of_mem _ (inductionHypothesis later)
      · rcases List.mem_cons.mp member with rfl | later
        · exact List.mem_cons_self ..
        · exact List.mem_cons_of_mem _ (inductionHypothesis later)
      · rcases List.mem_cons.mp member with rfl | later
        · exact List.mem_cons_self ..
        · exact List.mem_cons_of_mem _ (inductionHypothesis later)

/-- A line that comes out is a line of the text or what is left of one. -/
theorem mem_emitted {previous : Option String} {all : List Part} {part : Part}
    (member : part ∈ emitted previous all) :
    (part ∈ all ∧ part.inBlock = true) ∨
      ∃ line, Part.prose line ∈ all ∧ compressLine line ≠ "" ∧ part = .prose (compressLine line) := by
  induction all generalizing previous with
  | nil => cases member
  | cons first rest inductionHypothesis =>
      have behind : ∀ {previous : Option String}, part ∈ emitted previous rest →
          (part ∈ first :: rest ∧ part.inBlock = true) ∨ ∃ line, Part.prose line ∈ first :: rest ∧
            compressLine line ≠ "" ∧ part = .prose (compressLine line) := by
        intro previous later
        rcases inductionHypothesis later with ⟨here, inBlock⟩ | ⟨line, here, left⟩
        · exact .inl ⟨List.mem_cons_of_mem _ here, inBlock⟩
        · exact .inr ⟨line, List.mem_cons_of_mem _ here, left⟩
      cases first with
      | fence line =>
          rcases List.mem_cons.mp member with rfl | later
          · exact .inl ⟨List.mem_cons_self .., rfl⟩
          · exact behind later
      | code line =>
          rcases List.mem_cons.mp member with rfl | later
          · exact .inl ⟨List.mem_cons_self .., rfl⟩
          · exact behind later
      | prose line =>
          rw [emitted] at member
          split_ifs at member with dropped
          · exact behind member
          · rcases List.mem_cons.mp member with rfl | later
            · exact .inr ⟨line, List.mem_cons_self .., (not_or.mp dropped).1, rfl⟩
            · exact behind later

/-- What is left of a line of prose comes out, or is the line that came out before. -/
theorem exists_emitted {previous : Option String} {all : List Part} {line : String}
    (member : .prose line ∈ all) (left : compressLine line ≠ "") :
    (∃ part ∈ emitted previous all, part.line = compressLine line ∧ part.isFencePart = false) ∨
      previous = some (compressLine line) := by
  induction all generalizing previous with
  | nil => cases member
  | cons first rest inductionHypothesis =>
      cases first with
      | fence other =>
          have later : Part.prose line ∈ rest := by simpa using member
          rcases inductionHypothesis later with ⟨part, comesOut, isLeft⟩ | same
          · exact .inl ⟨part, List.mem_cons_of_mem _ comesOut, isLeft⟩
          · cases same
      | code other =>
          have later : Part.prose line ∈ rest := by simpa using member
          rcases inductionHypothesis later with ⟨part, comesOut, isLeft⟩ | same
          · exact .inl ⟨part, List.mem_cons_of_mem _ comesOut, isLeft⟩
          · exact .inl ⟨.code other, List.mem_cons_self .., Option.some.inj same, rfl⟩
      | prose other =>
          rw [emitted]
          split_ifs with dropped
          · rcases List.mem_cons.mp member with same | later
            · cases same
              exact .inr (dropped.resolve_left left)
            · exact inductionHypothesis later
          · rcases List.mem_cons.mp member with same | later
            · cases same
              exact .inl ⟨_, List.mem_cons_self .., rfl, rfl⟩
            · rcases inductionHypothesis later with ⟨part, comesOut, isLeft⟩ | same
              · exact .inl ⟨part, List.mem_cons_of_mem _ comesOut, isLeft⟩
              · exact .inl ⟨_, List.mem_cons_self .., Option.some.inj same, rfl⟩

/-! ## Lines of a text -/

theorem isWhitespace_newline : isWhitespace '\n' = true := by decide

theorem isWhitespace_return : isWhitespace '\r' = true := by decide

theorem exists_ending (piece : List Char) :
    ∃ ending, piece = stripEnding piece ++ ending ∧ ∀ c ∈ ending, isWhitespace c = true := by
  unfold stripEnding
  split_ifs with newline carriage
  · refine ⟨['\r', '\n'], ?_, by simp [isWhitespace_newline, isWhitespace_return]⟩
    have inner := List.dropLast_append_getLast? _ carriage
    have outer := List.dropLast_append_getLast? _ newline
    rw [← inner] at outer
    simpa using outer.symm
  · exact ⟨['\n'], (List.dropLast_append_getLast? _ newline).symm,
      by simp [isWhitespace_newline]⟩
  · exact ⟨[], (List.append_nil piece).symm, by simp⟩

/-- A piece without its ending, ended by a newline. -/
def newlineEnded (piece : List Char) : List Char := stripEnding piece ++ ['\n']

/-- A line stands in the text. -/
theorem infix_of_mem_lines {input line : String} (member : line ∈ lines input) :
    line.toList <:+: input.toList := by
  obtain ⟨piece, isPiece, rfl⟩ := List.mem_map.mp member
  rw [String.toList_ofList]
  obtain ⟨ending, whole, _⟩ := exists_ending piece
  have stripped : stripEnding piece <+: piece := ⟨ending, whole.symm⟩
  have inText : piece <:+: input.toList := by
    have whole : (splitInclusive '\n' input.toList).flatten = input.toList :=
      flatten_splitInclusive _
    rw [← whole]
    exact List.infix_of_mem_flatten isPiece
  exact stripped.isInfix.trans inText

theorem wordsOf_splitInclusive (text : List Char) :
    wordsOf isWhitespace text = (splitInclusive '\n' text).flatMap (wordsOf isWhitespace) := by
  induction length : text.length using Nat.strong_induction_on generalizing text with
  | _ size inductionHypothesis =>
      by_cases ended : '\n' ∈ text
      · obtain ⟨front, rest, rfl, absent⟩ := List.eq_append_cons_of_mem ended
        have shorter : rest.length < size := by
          rw [← length, List.length_append, List.length_cons]
          omega
        rw [splitInclusive_append_separator rest absent, List.flatMap_cons,
          wordsOf_append_cons isWhitespace_newline, wordsOf_append_cons isWhitespace_newline,
          wordsOf_nil, List.append_nil,
          inductionHypothesis rest.length shorter rest rfl]
      · by_cases empty : text = []
        · subst empty
          rfl
        · rw [splitInclusive_of_not_mem ended empty, List.flatMap_cons, List.flatMap_nil,
            List.append_nil]

/-- The words of a text are those of its lines. -/
theorem wordsOf_lines (input : String) :
    wordsOf isWhitespace input.toList =
      (lines input).flatMap fun line => wordsOf isWhitespace line.toList := by
  rw [wordsOf_splitInclusive, lines, List.flatMap_map]
  congr 1
  funext piece
  obtain ⟨ending, whole, spaces⟩ := exists_ending piece
  rw [String.toList_ofList]
  conv => lhs; rw [whole]
  exact wordsOf_append_separators spaces

/-! ## Words of a line -/

theorem splitWhitespace_eq (text : String) :
    splitWhitespace text = (wordsOf isWhitespace text.toList).map String.ofList := rfl

/-- A word that stays. -/
def keeps (word : String) : Bool :=
  decide (toAsciiLowercase word ∉ fillers) &&
    (!startsWith word "http://" && !startsWith word "https://")

def keptWords (line : String) : List String := (splitWhitespace line).filter keeps

theorem compressLine_eq (line : String) : compressLine line = " ".intercalate (keptWords line) :=
  congrArg (" ".intercalate) List.filter_filter

theorem toList_compressLine (line : String) :
    (compressLine line).toList = [' '].intercalate ((keptWords line).map String.toList) := by
  rw [compressLine_eq, String.toList_intercalate]
  rfl

theorem map_toList_splitWhitespace (line : String) :
    (splitWhitespace line).map String.toList = wordsOf isWhitespace line.toList := by
  rw [splitWhitespace_eq, List.map_map]
  have same : String.toList ∘ String.ofList = id := funext fun _ => String.toList_ofList
  rw [same, List.map_id]

theorem keptWords_sublist (line : String) :
    ((keptWords line).map String.toList).Sublist (wordsOf isWhitespace line.toList) := by
  rw [← map_toList_splitWhitespace]
  exact List.filter_sublist.map String.toList

theorem word_of_mem_keptWords {line : String} {word : List Char}
    (member : word ∈ (keptWords line).map String.toList) :
    word ≠ [] ∧ ∀ c ∈ word, isWhitespace c = false :=
  word_of_mem ((keptWords_sublist line).subset member)

/-- The words of what is left of a line. -/
theorem wordsOf_compressLine (line : String) :
    wordsOf isWhitespace (compressLine line).toList = (keptWords line).map String.toList := by
  rw [toList_compressLine]
  exact wordsOf_intercalate (by decide) fun _ member => word_of_mem_keptWords member

/-- A line that is left has words in one line. -/
theorem newline_not_mem_compressLine (line : String) : '\n' ∉ (compressLine line).toList := by
  intro member
  rw [toList_compressLine] at member
  rcases mem_intercalate member with joins | ⟨word, isWord, inWord⟩
  · simp at joins
  · have visible := (word_of_mem_keptWords isWord).2 _ inWord
    exact absurd visible (by decide)

end TriAI.Chat
