import TriAI.Chat.Compression

/-!
Contract: which prepared texts hold a secret (`prompt/hooks.rs`, `prompt/compress.rs`).

Owns: the lines of prose whose words the compression joins to the marker of a private key, and
that these are exactly what brings a secret into a prepared text.

Does not own: the scanner, the compression and `prepare` (`Chat.Prompt`).
-/

set_option autoImplicit false

namespace TriAI.Chat

open TriAI.Library.TextLines
open TriAI.Library.Words

/-! ## Patterns in a text -/

/-- A pattern in one line is in a line that comes out. -/
theorem infix_flat_iff {pattern : List Char} (oneLine : '\n' ∉ pattern) (nonempty : pattern ≠ [])
    (all : List Part) :
    pattern <:+: flat all ↔ ∃ part ∈ all, pattern <:+: part.line.toList := by
  induction all with
  | nil => simp [nonempty]
  | cons part rest inductionHypothesis =>
      rw [flat_cons, List.append_assoc, List.singleton_append, infix_append_cons_iff oneLine,
        inductionHypothesis, List.exists_mem_cons_iff]

/-! ## Secrets -/

/-- The marker of a private key. -/
def keyMarker : List Char := "BEGIN PRIVATE KEY".toList

/-- A word that the scanner takes for a secret. -/
def isSecretWord (word : String) : Bool := startsWith word "sk-" || startsWith word "AKIA"

theorem containsSecret_iff (text : String) :
    containsSecret text = true ↔
      keyMarker <:+: text.toList ∨ ∃ word ∈ splitWhitespace text, isSecretWord word = true := by
  unfold containsSecret contains isSecretWord keyMarker
  rw [Bool.or_eq_true, decide_eq_true_iff, List.any_eq_true]

/-- Words that are joined to the marker of a private key when what lies between is dropped. -/
def JoinsKey (line : String) : Prop :=
  ∃ front first firstGap secondGap third back,
    splitWhitespace line =
      front ++ first :: (firstGap ++ "PRIVATE" :: (secondGap ++ third :: back)) ∧
    (∀ word ∈ firstGap, keeps word = false) ∧ (∀ word ∈ secondGap, keeps word = false) ∧
    keeps first = true ∧ keeps third = true ∧
    "BEGIN".toList <:+ first.toList ∧ "KEY".toList <+: third.toList

/-- A line of prose in a text joins the marker of a private key. -/
def AssemblesKey (input : String) : Prop :=
  ∃ line, Part.prose line ∈ parts input ∧ JoinsKey line

theorem joinsKey_iff_keptWords (line : String) :
    JoinsKey line ↔ ∃ front first third back,
      keptWords line = front ++ first :: "PRIVATE" :: third :: back ∧
        "BEGIN".toList <:+ first.toList ∧ "KEY".toList <+: third.toList := by
  have private_keeps : keeps "PRIVATE" = true := by decide +kernel
  unfold keptWords
  constructor
  · rintro ⟨front, first, firstGap, secondGap, third, back, whole, firstDropped, secondDropped,
      firstKept, thirdKept, begins, ends⟩
    refine ⟨front.filter keeps, first, third, back.filter keeps, ?_, begins, ends⟩
    have firstGone : firstGap.filter keeps = [] := by
      rw [List.filter_eq_nil_iff]
      intro word member
      simp [firstDropped word member]
    have secondGone : secondGap.filter keeps = [] := by
      rw [List.filter_eq_nil_iff]
      intro word member
      simp [secondDropped word member]
    rw [whole]
    simp [firstKept, thirdKept, private_keeps, firstGone, secondGone]
  · rintro ⟨front, first, third, back, whole, begins, ends⟩
    obtain ⟨ahead, rest, isWhole, _, isRest⟩ := List.filter_eq_append_iff.mp whole
    obtain ⟨before, afterFirst, isRest, _, firstKept, isAfter⟩ := List.filter_eq_cons_iff.mp isRest
    obtain ⟨firstGap, afterPrivate, isFirst, firstDropped, _, isThird⟩ :=
      List.filter_eq_cons_iff.mp isAfter
    obtain ⟨secondGap, last, isPrivate, secondDropped, thirdKept, _⟩ :=
      List.filter_eq_cons_iff.mp isThird
    refine ⟨ahead ++ before, first, firstGap, secondGap, third, last, ?_, ?_, ?_, firstKept,
      thirdKept, begins, ends⟩
    · rw [isWhole, isRest, isFirst, isPrivate]
      simp
    · exact fun word member => by simpa using firstDropped word member
    · exact fun word member => by simpa using secondDropped word member

/-- The marker is in what is left of a line exactly where its words join it. -/
theorem keyMarker_infix_compressLine_iff (line : String) :
    keyMarker <:+: (compressLine line).toList ↔ JoinsKey line := by
  have shape : keyMarker =
      "BEGIN".toList ++ ' ' :: ("PRIVATE".toList ++ ' ' :: "KEY".toList) := by decide
  have clean : ∀ word ∈ (keptWords line).map String.toList, ' ' ∉ word := by
    intro word member space
    exact absurd ((word_of_mem_keptWords member).2 ' ' space) (by decide)
  rw [shape, toList_compressLine,
    infix_intercalate_iff (by decide) (by decide) (by decide) clean, joinsKey_iff_keptWords]
  constructor
  · rintro ⟨front, ahead, rest, back, whole⟩
    obtain ⟨fronts, others, isWhole, rfl, isOthers⟩ := List.map_eq_append_iff.mp whole
    obtain ⟨first, afterFirst, rfl, isFirst, isAfter⟩ := List.map_eq_cons_iff.mp isOthers
    obtain ⟨second, afterSecond, rfl, isSecond, isThird⟩ := List.map_eq_cons_iff.mp isAfter
    obtain ⟨third, backs, rfl, isLast, rfl⟩ := List.map_eq_cons_iff.mp isThird
    obtain rfl := String.toList_injective isSecond
    exact ⟨fronts, first, third, backs, isWhole, ⟨ahead, isFirst.symm⟩, ⟨rest, isLast.symm⟩⟩
  · rintro ⟨front, first, third, back, whole, ⟨ahead, isFirst⟩, ⟨rest, isThird⟩⟩
    refine ⟨front.map String.toList, ahead, rest, back.map String.toList, ?_⟩
    rw [whole, isFirst, isThird]
    simp

/-! ## Prepared texts -/

theorem infix_compress_iff {front : List Char} {last : Char} (oneLine : '\n' ∉ front ++ [last])
    (visible : isWhitespace last = false) (input : String) :
    front ++ [last] <:+: (compress input).toList ↔
      ∃ part ∈ emitted none (parts input), front ++ [last] <:+: part.line.toList := by
  rw [toList_compress, infix_rdropWhile_iff visible, infix_flat_iff oneLine (by simp)]

theorem wordsOf_flat (all : List Part) :
    wordsOf isWhitespace (flat all) =
      all.flatMap fun part => wordsOf isWhitespace part.line.toList := by
  induction all with
  | nil => rfl
  | cons part rest inductionHypothesis =>
      rw [flat_cons, List.append_assoc, List.singleton_append, wordsOf_append_cons (by decide),
        inductionHypothesis, List.flatMap_cons]

/-- Compression brings no words into a text. -/
theorem splitWhitespace_compress_subset (input : String) :
    splitWhitespace (compress input) ⊆ splitWhitespace input := by
  rw [splitWhitespace_eq, splitWhitespace_eq]
  apply List.map_subset
  intro word member
  have inFlat : word ∈ wordsOf isWhitespace (flat (emitted none (parts input))) := by
    rw [toList_compress] at member
    have whole : (flat (emitted none (parts input))).rdropWhile isWhitespace ++
        (flat (emitted none (parts input))).rtakeWhile isWhitespace =
          flat (emitted none (parts input)) := List.rdropWhile_append_rtakeWhile
    rw [← whole, wordsOf_append_separators]
    · exact member
    · exact fun c inTail => List.mem_rtakeWhile_imp inTail
  rw [wordsOf_flat, List.mem_flatMap] at inFlat
  obtain ⟨part, comesOut, inPart⟩ := inFlat
  rw [wordsOf_lines, List.mem_flatMap]
  rcases mem_emitted comesOut with ⟨isPart, _⟩ | ⟨line, isPart, _, rfl⟩
  · exact ⟨part.line, line_mem_of_mem_partsFrom isPart, inPart⟩
  · refine ⟨line, line_mem_of_mem_partsFrom isPart, ?_⟩
    change word ∈ wordsOf isWhitespace (compressLine line).toList at inPart
    rw [wordsOf_compressLine] at inPart
    exact (keptWords_sublist line).subset inPart

/-- A text without secrets is compressed to one with a secret exactly where a line of prose joins
the marker of a private key. -/
theorem containsSecret_compress_iff {input : String} (clean : containsSecret input = false) :
    containsSecret (compress input) = true ↔ AssemblesKey input := by
  have noSecret : ¬ containsSecret input = true := by simp [clean]
  rw [containsSecret_iff, not_or] at noSecret
  have shape : keyMarker = "BEGIN PRIVATE KE".toList ++ ['Y'] := by decide
  have inLines : keyMarker <:+: (compress input).toList ↔
      ∃ part ∈ emitted none (parts input), keyMarker <:+: part.line.toList := by
    rw [shape]
    exact infix_compress_iff (by decide) (by decide) input
  rw [containsSecret_iff, inLines]
  constructor
  · rintro (⟨part, comesOut, found⟩ | ⟨word, isWord, secret⟩)
    · rcases mem_emitted comesOut with ⟨isPart, _⟩ | ⟨line, isPart, _, rfl⟩
      · have inText := infix_of_mem_lines (line_mem_of_mem_partsFrom isPart)
        exact absurd (found.trans inText) noSecret.1
      · exact ⟨line, isPart, (keyMarker_infix_compressLine_iff line).mp found⟩
    · exact absurd ⟨word, splitWhitespace_compress_subset input isWord, secret⟩ noSecret.2
  · rintro ⟨line, isPart, joins⟩
    have found := (keyMarker_infix_compressLine_iff line).mpr joins
    have left : compressLine line ≠ "" := by
      intro empty
      rw [empty] at found
      exact absurd (List.infix_nil.mp found) (by decide)
    rcases exists_emitted isPart left with ⟨part, comesOut, isLine, _⟩ | same
    · exact .inl ⟨part, comesOut, isLine ▸ found⟩
    · cases same

/-- What `prepare` hands on holds no secret exactly where no line of prose joins the marker of a
private key. -/
theorem prepare_clean_iff {input : String} {caps : PromptCaps} {prepared : PreparedPrompt}
    (accepted : prepare input caps = .ok prepared) :
    containsSecret prepared.text = false ↔ ¬ AssemblesKey input := by
  obtain ⟨clean, isText, _⟩ := prepare_eq_ok accepted
  rw [isText, ← containsSecret_compress_iff clean, Bool.not_eq_true]

theorem prepare_clean_sample : containsSecret "explain" = false ↔ ¬ AssemblesKey "please explain" :=
  @prepare_clean_iff "please explain" {} { text := "explain", estimatedTokens := 2 }
    (by decide +kernel)

/-- Dropping a filler word between the parts of the marker brings it into the text. -/
theorem prepare_hands_on_secret :
    ∃ prepared, prepare "BEGIN please PRIVATE KEY" {} = .ok prepared ∧
      containsSecret prepared.text = true :=
  ⟨{ text := "BEGIN PRIVATE KEY", estimatedTokens := 5 }, by decide +kernel, by decide +kernel⟩

end TriAI.Chat
