import TriAI.Library.TextLines

/-!
Contract: decoding bytes that need not be UTF-8.

Owns: `fromUtf8Lossy`, which puts a replacement character for each maximal part that cannot be
continued to a character, and that it decodes what is UTF-8 as it is.

Does not own: strict decoding (`Library.TextLines`).
-/

set_option autoImplicit false

namespace TriAI.Library.TextLines

/-! ## One character -/

/-- The length of a character by its first byte; no character begins with the others. -/
def utf8Width (first : UInt8) : Nat :=
  if first < 0x80 then 1
  else if first < 0xC2 then 0
  else if first < 0xE0 then 2
  else if first < 0xF0 then 3
  else if first < 0xF5 then 4
  else 0

/-- The continuation bytes. -/
def isContinuation (byte : UInt8) : Bool := 0x80 ≤ byte ∧ byte ≤ 0xBF

/-- The continuation bytes that may follow a first byte: neither overlong forms nor
surrogates nor what is above the last character. -/
def maySecond (first second : UInt8) : Bool :=
  isContinuation second ∧ (first = 0xE0 → 0xA0 ≤ second) ∧ (first = 0xED → second ≤ 0x9F) ∧
    (first = 0xF0 → 0x90 ≤ second) ∧ (first = 0xF4 → second ≤ 0x8F)

/-- How many of the bytes may be the beginning of one character. -/
def utf8Matched (first : UInt8) (rest : List UInt8) : Nat :=
  match utf8Width first, rest with
  | width + 2, second :: others =>
      if maySecond first second then 2 + ((others.take width).takeWhile isContinuation).length
      else 1
  | _, _ => 1

theorem utf8Matched_pos (first : UInt8) (rest : List UInt8) : 0 < utf8Matched first rest := by
  unfold utf8Matched
  split
  · split <;> omega
  · omega

/-- `String::from_utf8_lossy`. -/
def fromUtf8Lossy : List UInt8 → String
  | [] => ""
  | first :: rest =>
      let matched := utf8Matched first rest
      let piece :=
        if matched = utf8Width first then (fromUtf8 ((first :: rest).take matched)).getD ""
        else "\uFFFD"
      piece ++ fromUtf8Lossy ((first :: rest).drop matched)
termination_by bytes => bytes.length
decreasing_by
  have positive := utf8Matched_pos first rest
  simp only [List.length_drop, List.length_cons]
  omega

/-! ## Texts -/

private theorem toNat_byte {n : Nat} (small : n < 256) : (UInt8.ofNat n).toNat = n := by
  simp
  omega

private theorem isContinuation_byte (n : Nat) :
    isContinuation (UInt8.ofNat (n % 0x40 + 0x80)) = true := by
  have value : (UInt8.ofNat (n % 0x40 + 0x80)).toNat = n % 0x40 + 0x80 :=
    toNat_byte (by omega)
  simp only [isContinuation, UInt8.le_iff_toNat_le, value, decide_eq_true_eq]
  constructor
  · simp
  · simp
    omega

private theorem utf8Width_byte {n : Nat} (small : n < 256) :
    utf8Width (UInt8.ofNat n) =
      if n < 0x80 then 1 else if n < 0xC2 then 0 else if n < 0xE0 then 2
      else if n < 0xF0 then 3 else if n < 0xF5 then 4 else 0 := by
  simp only [utf8Width, UInt8.lt_iff_toNat_lt, toNat_byte small]
  rfl

private theorem maySecond_byte {n m : Nat} (small : n < 256)
    (notShorter : n = 0xE0 → 0x20 ≤ m % 0x40) (noSurrogate : n = 0xED → m % 0x40 < 0x20)
    (notThree : n = 0xF0 → 0x10 ≤ m % 0x40) (inRange : n = 0xF4 → m % 0x40 < 0x10) :
    maySecond (UInt8.ofNat n) (UInt8.ofNat (m % 0x40 + 0x80)) = true := by
  have value : (UInt8.ofNat (m % 0x40 + 0x80)).toNat = m % 0x40 + 0x80 :=
    toNat_byte (by omega)
  simp only [maySecond, isContinuation_byte, UInt8.le_iff_toNat_le, value, ← UInt8.toNat_inj,
    toNat_byte small, decide_eq_true_eq]
  refine ⟨trivial, fun isFirst => ?_, fun isFirst => ?_, fun isFirst => ?_, fun isFirst => ?_⟩
  · have bound := notShorter isFirst
    simp
    omega
  · have bound := noSurrogate isFirst
    simp
    omega
  · have bound := notThree isFirst
    simp
    omega
  · have bound := inRange isFirst
    simp
    omega

/-- The bytes of a character are matched whole. -/
private theorem utf8Matched_encode (c : Char) (rest : List UInt8) :
    ∃ first others, String.utf8EncodeChar c = first :: others ∧
      utf8Matched first (others ++ rest) = utf8Width first ∧
      utf8Width first = (first :: others).length := by
  have valid := c.valid
  have codePoint : c.val.toNat = c.toNat := rfl
  simp only [UInt32.isValidChar, Nat.isValidChar, codePoint] at valid
  simp only [String.utf8EncodeChar, codePoint]
  split
  · have width : utf8Width (UInt8.ofNat c.toNat) = 1 := by
      rw [utf8Width_byte (by omega), if_pos (by omega)]
    exact ⟨_, _, rfl, by simp [utf8Matched, width], by simp [width]⟩
  split
  · have width : utf8Width (UInt8.ofNat (c.toNat / 64 % 0x20 + 0xc0)) = 2 := by
      rw [utf8Width_byte (by omega), if_neg (by omega), if_neg (by omega), if_pos (by omega)]
    have second : maySecond (UInt8.ofNat (c.toNat / 64 % 0x20 + 0xc0))
        (UInt8.ofNat (c.toNat % 0x40 + 0x80)) = true :=
      maySecond_byte (by omega) (by omega) (by omega) (by omega) (by omega)
    exact ⟨_, _, rfl, by simp [utf8Matched, width, second, -UInt8.ofNat_add],
      by simp [width, -UInt8.ofNat_add]⟩
  split
  · have width : utf8Width (UInt8.ofNat (c.toNat / 4096 % 0x10 + 0xe0)) = 3 := by
      rw [utf8Width_byte (by omega), if_neg (by omega), if_neg (by omega), if_neg (by omega),
        if_pos (by omega)]
    have second : maySecond (UInt8.ofNat (c.toNat / 4096 % 0x10 + 0xe0))
        (UInt8.ofNat (c.toNat / 64 % 0x40 + 0x80)) = true :=
      maySecond_byte (by omega) (by omega) (by omega) (by omega) (by omega)
    exact ⟨_, _, rfl,
      by simp [utf8Matched, width, second, isContinuation_byte, -UInt8.ofNat_add],
      by simp [width, -UInt8.ofNat_add]⟩
  · have width : utf8Width (UInt8.ofNat (c.toNat / 262144 % 0x08 + 0xf0)) = 4 := by
      rw [utf8Width_byte (by omega), if_neg (by omega), if_neg (by omega), if_neg (by omega),
        if_neg (by omega), if_pos (by omega)]
    have second : maySecond (UInt8.ofNat (c.toNat / 262144 % 0x08 + 0xf0))
        (UInt8.ofNat (c.toNat / 4096 % 0x40 + 0x80)) = true :=
      maySecond_byte (by omega) (by omega) (by omega) (by omega) (by omega)
    exact ⟨_, _, rfl,
      by simp [utf8Matched, width, second, isContinuation_byte, -UInt8.ofNat_add],
      by simp [width, -UInt8.ofNat_add]⟩

/-- What is UTF-8 is decoded as it is. -/
theorem fromUtf8Lossy_utf8Bytes (text : String) : fromUtf8Lossy (utf8Bytes text) = text := by
  apply String.toList_injective
  rw [utf8Bytes_eq_flatMap]
  induction text.toList with
  | nil =>
      rw [List.flatMap_nil, fromUtf8Lossy]
      rfl
  | cons c rest inductionHypothesis =>
      obtain ⟨first, others, encoded, whole, size⟩ :=
        utf8Matched_encode c (rest.flatMap String.utf8EncodeChar)
      have piece : fromUtf8 (first :: others) = some (String.singleton c) := by
        rw [fromUtf8_eq_some, utf8Bytes_eq_flatMap, ← encoded]
        simp
      rw [List.flatMap_cons, encoded, List.cons_append, fromUtf8Lossy]
      simp only [whole, if_true, size]
      rw [← List.cons_append, List.take_left, List.drop_left, piece]
      simp [inductionHypothesis]

end TriAI.Library.TextLines
