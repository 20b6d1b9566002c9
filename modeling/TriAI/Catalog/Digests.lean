import TriAI.Catalog.Sources

/-!
Contract: digests as texts.

Owns: what `trim`, `cleaned`, `valid_sha256` and `normalize_sha256` make of the digits
`sha256sum` prints, and of the digest a manifest names.

Does not own: which digest a file has.
-/

set_option autoImplicit false

namespace TriAI.Catalog

open TriAI.Chat (isWhitespace toAsciiLowercase trimEnd trimStart)
open TriAI.Storage

/-! ## Trimming -/

/-- White space around a text is trimmed. -/
theorem trim_padded {before text after : List Char}
    (spaceBefore : ∀ c ∈ before, isWhitespace c = true)
    (visible : ∀ c ∈ text, isWhitespace c = false)
    (spaceAfter : ∀ c ∈ after, isWhitespace c = true) :
    trim (String.ofList (before ++ text ++ after)) = String.ofList text := by
  have ending : (before ++ text ++ after).rdropWhile isWhitespace =
      (before ++ text).rdropWhile isWhitespace := by
    have reversed : ∀ c ∈ after.reverse, isWhitespace c = true :=
      fun c member => spaceAfter c (List.mem_reverse.mp member)
    unfold List.rdropWhile
    rw [List.reverse_append, List.dropWhile_append_of_pos reversed]
  have starting : ((before ++ text).rdropWhile isWhitespace).dropWhile isWhitespace = text := by
    rcases List.eq_nil_or_concat text with rfl | ⟨front, last, rfl⟩
    · rw [List.append_nil, List.rdropWhile_eq_nil_iff.mpr spaceBefore]
      rfl
    · have visibleLast : ¬ isWhitespace last = true := by
        rw [visible last (by simp)]
        decide
      rw [List.concat_eq_append, ← List.append_assoc, List.rdropWhile_concat_neg _ _ _ visibleLast,
        List.append_assoc, List.dropWhile_append_of_pos spaceBefore]
      cases chars : front ++ [last] with
      | nil => rfl
      | cons first rest =>
          have visibleFirst : ¬ isWhitespace first = true := by
            rw [visible first (by simp [chars])]
            decide
          exact List.dropWhile_cons_of_neg visibleFirst
  unfold trim trimEnd trimStart
  rw [String.toList_ofList, String.toList_ofList, ending, starting]

/-- A text without white space is trimmed. -/
theorem trim_eq_self {text : String} (visible : ∀ c ∈ text.toList, isWhitespace c = false) :
    trim text = text := by
  have nothing : ∀ c ∈ ([] : List Char), isWhitespace c = true := List.forall_mem_nil _
  simpa using trim_padded nothing visible nothing

/-- A text with a visible character is not cleaned away. -/
theorem cleaned_ne_none {text : String} {c : Char} (member : c ∈ text.toList)
    (visible : isWhitespace c = false) : cleaned text ≠ none := by
  have kept : trim text ≠ "" := by
    intro empty
    have noChars : (text.toList.rdropWhile isWhitespace).dropWhile isWhitespace = [] := by
      have lists := congrArg String.toList empty
      simpa [trim, trimEnd, trimStart] using lists
    have allSpaces := List.dropWhile_eq_nil_iff.mp noChars
    rw [← List.rdropWhile_append_rtakeWhile (p := isWhitespace) (l := text.toList),
      List.mem_append] at member
    rcases member with inStart | inEnd
    · rw [allSpaces c inStart] at visible
      cases visible
    · have space := List.mem_rtakeWhile_imp inEnd
      rw [space] at visible
      cases visible
  unfold cleaned
  rw [if_neg kept]
  simp

/-! ## Hexadecimal digits -/

/-- A digit that `sha256sum` prints. -/
def LowerHex (c : Char) : Prop := c.isDigit ∨ c ∈ "abcdef".toList

theorem LowerHex.range {c : Char} (digit : LowerHex c) :
    (0x30 ≤ c.toNat ∧ c.toNat ≤ 0x39) ∨ (0x61 ≤ c.toNat ∧ c.toNat ≤ 0x66) := by
  rcases digit with number | letter
  · exact .inl (Char.isDigit_iff_toNat.mp number)
  · have oneOf : c ∈ ['a', 'b', 'c', 'd', 'e', 'f'] := letter
    simp only [List.mem_cons, List.not_mem_nil, or_false] at oneOf
    right
    rcases oneOf with rfl | rfl | rfl | rfl | rfl | rfl <;> decide

theorem LowerHex.isHexDigit {c : Char} (digit : LowerHex c) : isHexDigit c = true := by
  have range := digit.range
  unfold Catalog.isHexDigit
  rw [decide_eq_true_eq]
  omega

theorem LowerHex.visible {c : Char} (digit : LowerHex c) : isWhitespace c = false := by
  have range := digit.range
  unfold Chat.isWhitespace
  rw [decide_eq_false_iff_not]
  simp only [List.mem_cons, List.not_mem_nil, or_false]
  omega

theorem LowerHex.toLower {c : Char} (digit : LowerHex c) : c.toLower = c := by
  have range := digit.range
  unfold Char.toLower
  split
  · rename_i upper
    have low := UInt32.le_iff_toNat_le.mp upper.1
    have high := UInt32.le_iff_toNat_le.mp upper.2
    change (0x41 : Nat) ≤ c.toNat at low
    change c.toNat ≤ (0x5a : Nat) at high
    omega
  · rfl

/-- Hexadecimal digits have no scheme before them. -/
theorem withoutScheme_hex {chars : List Char} (digits : ∀ c ∈ chars, isHexDigit c = true) :
    withoutScheme chars = chars := by
  unfold withoutScheme
  split
  · have first := digits 's' (List.mem_cons_self ..)
    exact absurd first (by decide)
  · have first := digits 's' (List.mem_cons_self ..)
    exact absurd first (by decide)
  · rfl

/-- The lower-case digits of a digest. -/
structure LowerDigits (digits : String) : Prop where
  length : digits.toList.length = 64
  lower : ∀ c ∈ digits.toList, LowerHex c

namespace LowerDigits

variable {digits : String}

theorem trim_eq (lowerDigits : LowerDigits digits) : trim digits = digits :=
  trim_eq_self fun c member => (lowerDigits.lower c member).visible

/-- The digits are a valid digest. -/
theorem validSha256_eq (lowerDigits : LowerDigits digits) :
    validSha256 digits = some digits := by
  have hexDigits : ∀ c ∈ digits.toList, isHexDigit c = true :=
    fun c member => (lowerDigits.lower c member).isHexDigit
  unfold validSha256
  rw [lowerDigits.trim_eq, withoutScheme_hex hexDigits, if_pos, String.ofList_toList]
  exact ⟨lowerDigits.length, List.all_eq_true.mpr hexDigits⟩

/-- A digest with its scheme is the identifier the catalogue gives it. -/
theorem normalizeSha256_eq (lowerDigits : LowerDigits digits) :
    normalizeSha256 ("sha256:" ++ digits) = .ok ("sha256:" ++ digits) := by
  have hexDigits : ∀ c ∈ digits.toList, isHexDigit c = true :=
    fun c member => (lowerDigits.lower c member).isHexDigit
  have visible : ∀ c ∈ ("sha256:" ++ digits).toList, isWhitespace c = false := by
    intro c member
    rw [String.toList_append, List.mem_append] at member
    rcases member with scheme | digit
    · have oneOf : c ∈ ['s', 'h', 'a', '2', '5', '6', ':'] := scheme
      simp only [List.mem_cons, List.not_mem_nil, or_false] at oneOf
      rcases oneOf with rfl | rfl | rfl | rfl | rfl | rfl | rfl <;> decide
    · exact (lowerDigits.lower c digit).visible
  have lowered : (toAsciiLowercase ("sha256:" ++ digits)).toList =
      's' :: 'h' :: 'a' :: '2' :: '5' :: '6' :: ':' :: digits.toList := by
    have same : digits.toList.map Char.toLower = digits.toList :=
      (List.map_congr_left fun c member => (lowerDigits.lower c member).toLower).trans
        (List.map_id _)
    unfold toAsciiLowercase
    rw [String.toList_ofList, String.toList_append, List.map_append, same]
    rfl
  unfold normalizeSha256
  rw [trim_eq_self visible, lowered]
  simp only [withoutScheme]
  rw [if_pos ⟨lowerDigits.length, List.all_eq_true.mpr hexDigits⟩, String.ofList_toList]

end LowerDigits

/-! ## What `sha256sum` prints -/

theorem lowerDigits_hex {tool : Sha256sum} (lawful : tool.Lawful) (content : List UInt8) :
    LowerDigits (tool.hex content) where
  length := by
    rw [String.length_toList]
    exact lawful.length content
  lower := lawful.digits content

/-- The first word is a valid digest exactly if its line is not marked. -/
theorem validSha256_digest {tool : Sha256sum} (lawful : tool.Lawful) {path : Path}
    {content : List UInt8} {digest : String}
    (valid : validSha256 (tool.digest path content) = some digest) :
    digest = tool.hex content := by
  have lowerDigits := lowerDigits_hex lawful content
  unfold Sha256sum.digest at valid
  split at valid
  · have visible : ∀ c ∈ ("\\" ++ tool.hex content).toList, isWhitespace c = false := by
      intro c member
      rw [String.toList_append, List.mem_append] at member
      rcases member with marker | digit
      · obtain rfl : c = '\\' := List.mem_singleton.mp marker
        decide
      · exact (lowerDigits.lower c digit).visible
    have unchanged : withoutScheme ("\\" ++ tool.hex content).toList =
        '\\' :: (tool.hex content).toList := by
      rw [String.toList_append]
      rfl
    unfold validSha256 at valid
    rw [trim_eq_self visible, unchanged] at valid
    have tooLong : ('\\' :: (tool.hex content).toList).length ≠ 64 := by
      rw [List.length_cons, lowerDigits.length]
      decide
    rw [if_neg fun accepted => tooLong accepted.1] at valid
    cases valid
  · rw [lowerDigits.validSha256_eq] at valid
    exact (Option.some.inj valid).symm

end TriAI.Catalog
