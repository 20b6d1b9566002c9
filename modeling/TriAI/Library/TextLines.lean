import Mathlib

/-!
Contract: byte strings as UTF-8 texts, and texts as lines and numbers.

Owns: the bytes of a text and their decoding; `splitInclusive`, the pieces of a
list that end at each separator; how both behave under concatenation; the lines of
a text without their endings; and decimal numbers.

Does not own: what a line means, or any limit on its length.
-/

set_option autoImplicit false

namespace TriAI.Library.TextLines

/-! ## UTF-8 -/

/-- The bytes of a text. -/
def utf8Bytes (text : String) : List UInt8 := text.toByteArray.data.toList

/-- The text that bytes encode, if they encode one. -/
def fromUtf8 (bytes : List UInt8) : Option String := String.fromUTF8? ⟨bytes.toArray⟩

@[simp] theorem fromUtf8_utf8Bytes (text : String) : fromUtf8 (utf8Bytes text) = some text := by
  simp [fromUtf8, utf8Bytes, String.fromUTF8?, String.fromUTF8, text.isValidUTF8]

/-- Decoding is the inverse of encoding. -/
theorem fromUtf8_eq_some {bytes : List UInt8} {text : String} :
    fromUtf8 bytes = some text ↔ bytes = utf8Bytes text := by
  constructor
  · intro decoded
    unfold fromUtf8 String.fromUTF8? at decoded
    split at decoded
    · have same := congrArg (Option.map utf8Bytes) decoded
      simpa [utf8Bytes, String.fromUTF8] using same
    · simp at decoded
  · intro same
    rw [same, fromUtf8_utf8Bytes]

@[simp] theorem utf8Bytes_append (left right : String) :
    utf8Bytes (left ++ right) = utf8Bytes left ++ utf8Bytes right := by
  simp [utf8Bytes]

/-- Bytes that encode a text. -/
def ValidUtf8 (bytes : List UInt8) : Prop := (fromUtf8 bytes).isSome

instance (bytes : List UInt8) : Decidable (ValidUtf8 bytes) := by
  unfold ValidUtf8
  infer_instance

theorem validUtf8_iff {bytes : List UInt8} :
    ValidUtf8 bytes ↔ ∃ text, bytes = utf8Bytes text := by
  unfold ValidUtf8
  rw [Option.isSome_iff_exists]
  simp only [fromUtf8_eq_some]

@[simp] theorem validUtf8_utf8Bytes (text : String) : ValidUtf8 (utf8Bytes text) :=
  validUtf8_iff.mpr ⟨text, rfl⟩

@[simp] theorem validUtf8_nil : ValidUtf8 [] := validUtf8_utf8Bytes ""

theorem ValidUtf8.append {left right : List UInt8} (leftValid : ValidUtf8 left)
    (rightValid : ValidUtf8 right) : ValidUtf8 (left ++ right) := by
  obtain ⟨leftText, rfl⟩ := validUtf8_iff.mp leftValid
  obtain ⟨rightText, rfl⟩ := validUtf8_iff.mp rightValid
  rw [← utf8Bytes_append]
  exact validUtf8_utf8Bytes _

/-- The bytes of a text are the bytes of its characters. -/
theorem utf8Bytes_eq_flatMap (text : String) :
    utf8Bytes text = text.toList.flatMap String.utf8EncodeChar := by
  unfold utf8Bytes
  rw [← String.utf8Encode_toList]
  simp [List.utf8Encode]

theorem length_utf8Bytes_le (text : String) : (utf8Bytes text).length ≤ 4 * text.length := by
  rw [utf8Bytes_eq_flatMap, ← String.length_toList]
  induction text.toList with
  | nil => simp
  | cons c rest inductionHypothesis =>
      have single := c.utf8Size_le_four
      simp only [List.flatMap_cons, List.length_append, String.length_utf8EncodeChar,
        List.length_cons]
      omega

/-- A text has no more characters than bytes. -/
theorem length_le_utf8Bytes (text : String) : text.length ≤ (utf8Bytes text).length := by
  rw [utf8Bytes_eq_flatMap, ← String.length_toList]
  induction text.toList with
  | nil => simp
  | cons first rest inductionHypothesis =>
      have single := first.utf8Size_pos
      simp only [List.flatMap_cons, List.length_append, String.length_utf8EncodeChar,
        List.length_cons]
      omega

/-- A newline byte only encodes a newline: every byte of a longer encoding is at
least `0x80`. -/
private theorem newline_mem_utf8EncodeChar {c : Char} :
    10 ∈ String.utf8EncodeChar c ↔ c = '\n' := by
  constructor
  · intro member
    simp only [String.utf8EncodeChar] at member
    apply Char.ext
    apply UInt32.toNat_inj.mp
    show c.toNat = 10
    have codePoint : c.val.toNat = c.toNat := rfl
    rw [codePoint] at member
    split at member
    · simp [← UInt8.toNat_inj] at member
      omega
    · exfalso
      split at member
      · simp [← UInt8.toNat_inj] at member
        omega
      · split at member
        · simp [← UInt8.toNat_inj] at member
          omega
        · simp [← UInt8.toNat_inj] at member
          omega
  · intro isNewline
    subst isNewline
    decide

/-- A text has a newline byte exactly if it has a newline. -/
theorem newline_mem_utf8Bytes {text : String} :
    10 ∈ utf8Bytes text ↔ '\n' ∈ text.toList := by
  rw [utf8Bytes_eq_flatMap, List.mem_flatMap]
  simp only [newline_mem_utf8EncodeChar, exists_eq_right]

/-! ## Lines -/

section Terminated

variable {α : Type} {separator : α}

/-- Nothing is pending at the end: the list is empty or its last item is the
separator. -/
def Terminated (separator : α) (items : List α) : Prop :=
  items = [] ∨ ∃ front, items = front ++ [separator]

theorem Terminated.append {left right : List α} (leftTerminated : Terminated separator left)
    (rightTerminated : Terminated separator right) : Terminated separator (left ++ right) := by
  rcases rightTerminated with empty | ⟨front, same⟩
  · simpa [empty] using leftTerminated
  · exact .inr ⟨left ++ front, by simp [same]⟩

end Terminated

variable {α : Type} [DecidableEq α]

/-- The pieces of a list that end at each separator, and what follows the last. -/
def splitInclusive (separator : α) : List α → List (List α)
  | [] => []
  | item :: rest =>
      if item = separator then [separator] :: splitInclusive separator rest
      else
        match splitInclusive separator rest with
        | [] => [[item]]
        | piece :: pieces => (item :: piece) :: pieces

variable {separator : α}

/-- The pieces make up the list. -/
theorem flatten_splitInclusive (items : List α) :
    (splitInclusive separator items).flatten = items := by
  induction items with
  | nil => rfl
  | cons item rest inductionHypothesis =>
      unfold splitInclusive
      split
      · rename_i same
        simp [inductionHypothesis, same]
      · cases pieces : splitInclusive separator rest with
        | nil => simpa [pieces] using inductionHypothesis.symm
        | cons piece others => simpa [pieces] using inductionHypothesis

/-- A first piece that ends at its only separator. -/
theorem splitInclusive_append_separator {front : List α} (rest : List α)
    (absent : separator ∉ front) :
    splitInclusive separator (front ++ separator :: rest) =
      (front ++ [separator]) :: splitInclusive separator rest := by
  induction front with
  | nil => simp [splitInclusive]
  | cons item front inductionHypothesis =>
      have other : item ≠ separator := fun same => absent (by simp [same])
      have absentFront : separator ∉ front := fun member => absent (by simp [member])
      rw [List.cons_append, splitInclusive, if_neg other, inductionHypothesis absentFront]
      simp

/-- A list without a separator is one piece. -/
theorem splitInclusive_of_not_mem {items : List α} (absent : separator ∉ items)
    (nonempty : items ≠ []) : splitInclusive separator items = [items] := by
  induction items with
  | nil => exact absurd rfl nonempty
  | cons item rest inductionHypothesis =>
      have other : item ≠ separator := fun same => absent (by simp [same])
      have absentRest : separator ∉ rest := fun member => absent (by simp [member])
      rw [splitInclusive, if_neg other]
      by_cases last : rest = []
      · simp [last, splitInclusive]
      · simp [inductionHypothesis absentRest last]

/-- Pieces do not extend over a terminated prefix. -/
theorem splitInclusive_append {front : List α} (terminated : Terminated separator front)
    (rest : List α) :
    splitInclusive separator (front ++ rest) =
      splitInclusive separator front ++ splitInclusive separator rest := by
  induction front with
  | nil => rfl
  | cons item front inductionHypothesis =>
      have restTerminated : Terminated separator front := by
        rcases terminated with absurdity | ⟨before, same⟩
        · simp at absurdity
        · cases before with
          | nil => simp at same; exact .inl same.2
          | cons head before => simp at same; exact .inr ⟨before, same.2⟩
      rw [List.cons_append, splitInclusive, splitInclusive, inductionHypothesis restTerminated]
      split
      · simp
      · rename_i other
        cases pieces : splitInclusive separator front with
        | cons piece others => simp
        | nil =>
            -- a terminated list that has no pieces is empty, and then `item` is the separator
            have whole : (splitInclusive separator front).flatten = front :=
              flatten_splitInclusive front
            have empty : front = [] := by
              rw [← whole, pieces]
              rfl
            rcases terminated with absurdity | ⟨before, same⟩
            · simp at absurdity
            · rw [empty] at same
              have isSeparator : item = separator := by
                cases before <;> simp_all
              exact absurd isSeparator other

/-- Items before the first separator belong to the first piece. -/
theorem splitInclusive_append_of_not_mem {front : List α} (rest : List α)
    (absent : separator ∉ front) :
    splitInclusive separator (front ++ rest) =
      match splitInclusive separator rest with
      | [] => if front = [] then [] else [front]
      | piece :: pieces => (front ++ piece) :: pieces := by
  induction front with
  | nil =>
      rw [List.nil_append]
      cases splitInclusive separator rest <;> simp
  | cons item front inductionHypothesis =>
      have other : item ≠ separator := fun same => absent (by simp [same])
      have absentFront : separator ∉ front := fun member => absent (by simp [member])
      rw [List.cons_append, splitInclusive, if_neg other, inductionHypothesis absentFront]
      cases splitInclusive separator rest with
      | cons piece pieces => simp
      | nil => by_cases empty : front = [] <;> simp [empty]

/-- A piece has the separator at its end only. -/
theorem piece_of_mem_splitInclusive {items piece : List α}
    (member : piece ∈ splitInclusive separator items) :
    ∃ front, separator ∉ front ∧ (piece = front ∨ piece = front ++ [separator]) := by
  induction items generalizing piece with
  | nil => simp [splitInclusive] at member
  | cons item rest inductionHypothesis =>
      unfold splitInclusive at member
      split at member
      · rcases List.mem_cons.mp member with first | later
        · exact ⟨[], by simp, .inr (by simpa using first)⟩
        · exact inductionHypothesis later
      · rename_i other
        cases pieces : splitInclusive separator rest with
        | nil =>
            rw [pieces] at member
            exact ⟨[item], by simpa using Ne.symm other, .inl (by simpa using member)⟩
        | cons head tail =>
            rw [pieces] at member inductionHypothesis
            rcases List.mem_cons.mp member with first | later
            · obtain ⟨front, absent, same⟩ := inductionHypothesis (List.mem_cons_self ..)
              refine ⟨item :: front, ?_, ?_⟩
              · simp [absent, Ne.symm other]
              · rcases same with rfl | rfl
                · exact .inl first
                · exact .inr (by simpa using first)
            · exact inductionHypothesis (List.mem_cons_of_mem _ later)

/-! ## Lines of texts -/

/-- The lines of a text are texts. -/
theorem validUtf8_of_mem_splitInclusive {bytes raw : List UInt8} (valid : ValidUtf8 bytes)
    (member : raw ∈ splitInclusive 10 bytes) : ValidUtf8 raw := by
  obtain ⟨text, rfl⟩ := validUtf8_iff.mp valid
  rw [utf8Bytes_eq_flatMap] at member
  have encoded : ∀ c, ValidUtf8 (String.utf8EncodeChar c) := fun c => by
    have single : utf8Bytes (String.singleton c) = String.utf8EncodeChar c := by
      simp [utf8Bytes_eq_flatMap]
    rw [← single]
    exact validUtf8_utf8Bytes _
  generalize text.toList = characters at member
  induction characters generalizing raw with
  | nil => simp [splitInclusive] at member
  | cons c rest inductionHypothesis =>
      rw [List.flatMap_cons] at member
      by_cases isNewline : c = '\n'
      · have single : String.utf8EncodeChar c = [10] := by rw [isNewline]; decide
        rw [single, List.singleton_append, splitInclusive, if_pos rfl] at member
        rcases List.mem_cons.mp member with first | later
        · rw [first, ← single]
          exact encoded c
        · exact inductionHypothesis later
      · have absent : 10 ∉ String.utf8EncodeChar c :=
          fun found => isNewline (newline_mem_utf8EncodeChar.mp found)
        rw [splitInclusive_append_of_not_mem _ absent] at member
        split at member
        · split at member
          · simp at member
          · rw [List.mem_singleton.mp member]
            exact encoded c
        · rename_i piece pieces lines
          rw [lines] at inductionHypothesis
          rcases List.mem_cons.mp member with first | later
          · rw [first]
            exact (encoded c).append (inductionHypothesis (List.mem_cons_self ..))
          · exact inductionHypothesis (List.mem_cons_of_mem _ later)

/-- A line without its ending. -/
def stripEnding (line : List Char) : List Char :=
  if line.getLast? = some '\n' then
    if line.dropLast.getLast? = some '\r' then line.dropLast.dropLast else line.dropLast
  else line

/-- `str::lines`. -/
def lines (text : String) : List String :=
  (splitInclusive '\n' text.toList).map fun line => String.ofList (stripEnding line)

/-- The lines of a text that begins with a complete one. -/
theorem lines_cons_strip {line : String} (rest : String) (oneLine : '\n' ∉ line.toList) :
    lines (line ++ "\n" ++ rest) =
      String.ofList (stripEnding (line.toList ++ ['\n'])) :: lines rest := by
  have characters : (line ++ "\n" ++ rest).toList = line.toList ++ '\n' :: rest.toList := by simp
  unfold lines
  rw [characters, splitInclusive_append_separator _ oneLine, List.map_cons]

/-- A line that does not end in a carriage return is kept. -/
theorem lines_cons {line : String} (rest : String) (oneLine : '\n' ∉ line.toList)
    (noReturn : line.toList.getLast? ≠ some '\r') :
    lines (line ++ "\n" ++ rest) = line :: lines rest := by
  have stripped : stripEnding (line.toList ++ ['\n']) = line.toList := by
    simp [stripEnding, noReturn]
  rw [lines_cons_strip rest oneLine, stripped, String.ofList_toList]

/-- No line has a newline in it. -/
theorem newline_not_mem_of_mem_lines {text line : String} (member : line ∈ lines text) :
    '\n' ∉ line.toList := by
  obtain ⟨piece, isPiece, rfl⟩ := List.mem_map.mp member
  rw [String.toList_ofList]
  obtain ⟨front, absent, rfl | rfl⟩ := piece_of_mem_splitInclusive isPiece
  · intro inLine
    unfold stripEnding at inLine
    split at inLine
    · rename_i ended
      exact absent (List.mem_of_getLast? ended)
    · exact absent inLine
  · intro inLine
    apply absent
    simp only [stripEnding, List.getLast?_concat, List.dropLast_concat, if_true] at inLine
    split at inLine
    · exact List.mem_of_mem_dropLast inLine
    · exact inLine

/-- A text in one line that is not ended. -/
theorem lines_of_not_mem {line : String} (oneLine : '\n' ∉ line.toList) (nonempty : line ≠ "") :
    lines line = [line] := by
  have characters : line.toList ≠ [] := by simpa using nonempty
  have notEnded : line.toList.getLast? ≠ some '\n' := by
    intro ended
    exact oneLine (List.mem_of_getLast? ended)
  unfold lines
  rw [splitInclusive_of_not_mem oneLine characters]
  simp [stripEnding, notEnded]

/-! ## Numbers in texts -/

/-- `str::parse` of an unsigned number below `bound`. -/
def parseUnsigned (bound : Nat) (text : String) : Option Nat :=
  let digits := match text.toList with
    | '+' :: rest => rest
    | all => all
  if digits = [] ∨ digits.any (fun c => !c.isDigit) then none
  else if Nat.ofDigitChars 10 digits 0 < bound then some (Nat.ofDigitChars 10 digits 0)
  else none

theorem isDigit_of_mem_toString {n : Nat} {c : Char} (member : c ∈ (toString n).toList) :
    c.isDigit = true := by
  rw [Nat.toString_eq_ofList_toDigits, String.toList_ofList] at member
  exact Nat.isDigit_of_mem_toDigits (by decide) (by decide) member

/-- A number is read back from its digits. -/
theorem parseUnsigned_toString {n bound : Nat} (small : n < bound) :
    parseUnsigned bound (toString n) = some n := by
  have digits : (match (toString n).toList with
      | '+' :: rest => rest
      | all => all) = (toString n).toList := by
    split
    · rename_i rest isPlus
      have plus : '+'.isDigit = true := by
        apply isDigit_of_mem_toString (n := n)
        rw [isPlus]
        exact List.mem_cons_self ..
      simp at plus
    · rfl
  have noOther : (toString n).toList.any (fun c => !c.isDigit) = false := by
    simp only [List.any_eq_false]
    intro c member
    simp [isDigit_of_mem_toString member]
  have value : Nat.ofDigitChars 10 (toString n).toList 0 = n := by
    rw [Nat.toString_eq_ofList_toDigits, String.toList_ofList]
    exact Nat.ofDigitChars_ten_toDigits
  unfold parseUnsigned
  simp only [digits, noOther, value]
  simp [small]

end TriAI.Library.TextLines
