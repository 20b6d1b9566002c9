import Mathlib

/-!
Contract: JSON texts as lists of characters.

Owns: `Value`, JSON data whose numbers are held as they are written; the compact text of a
value; a reader that takes a text one character at a time; and that reading the text of a
value gives the value.

Does not own: what a number is worth, or a limit on how deep a text may nest.
-/

set_option autoImplicit false

namespace TriAI.Library.JsonText

abbrev Text : Type := List Char

/-! ## Numbers -/

def isDigits (text : Text) : Bool := !text.isEmpty && text.all Char.isDigit

def isExponent : Text → Bool
  | [] => true
  | letter :: sign :: rest =>
      (letter = 'e' || letter = 'E') &&
        (isDigits (sign :: rest) || (sign = '+' || sign = '-') && isDigits rest)
  | _ => false

def isFraction : Text → Bool
  | '.' :: first :: rest => first.isDigit && isExponent (rest.dropWhile Char.isDigit)
  | rest => isExponent rest

def isUnsigned : Text → Bool
  | '0' :: rest => isFraction rest
  | first :: rest => first.isDigit && isFraction (rest.dropWhile Char.isDigit)
  | [] => false

/-- The grammar of numbers. -/
def isNumber : Text → Bool
  | '-' :: rest => isUnsigned rest
  | text => isUnsigned text

/-- A number as it is written. -/
structure Literal where
  text : Text
  valid : isNumber text = true
deriving DecidableEq

/-- The characters of numbers and of `true`, `false` and `null`. -/
def isWordChar (c : Char) : Bool :=
  c.isDigit || c ∈ ['t', 'r', 'u', 'e', 'f', 'a', 'l', 's', 'n', 'E', '+', '-', '.']

private theorem isWordChar_of_isDigit {c : Char} (digit : c.isDigit = true) :
    isWordChar c = true := by
  simp [isWordChar, digit]

private theorem all_of_isDigits {text : Text} (digits : isDigits text = true) :
    text.all isWordChar = true := by
  simp only [isDigits, Bool.and_eq_true, List.all_eq_true] at digits ⊢
  intro c member
  exact isWordChar_of_isDigit (digits.2 c member)

private theorem all_of_dropWhile {text : Text}
    (rest : (text.dropWhile Char.isDigit).all isWordChar = true) :
    text.all isWordChar = true := by
  induction text with
  | nil => rfl
  | cons c text inductionHypothesis =>
      rw [List.dropWhile_cons] at rest
      split at rest
      next digit =>
        rw [List.all_cons, isWordChar_of_isDigit digit, inductionHypothesis rest]
        rfl
      next => exact rest

private theorem all_of_isExponent {text : Text} (exponent : isExponent text = true) :
    text.all isWordChar = true := by
  unfold isExponent at exponent
  split at exponent
  next => rfl
  next letter sign rest =>
    simp only [Bool.and_eq_true, Bool.or_eq_true, decide_eq_true_eq] at exponent
    have letterWord : isWordChar letter = true := by
      cases exponent.1 with
      | inl isE => rw [isE]; decide
      | inr isE => rw [isE]; decide
    have restWord : (sign :: rest).all isWordChar = true := by
      cases exponent.2 with
      | inl digits => exact all_of_isDigits digits
      | inr signed =>
          have signWord : isWordChar sign = true := by
            cases signed.1 with
            | inl isPlus => rw [isPlus]; decide
            | inr isMinus => rw [isMinus]; decide
          rw [List.all_cons, signWord, all_of_isDigits signed.2]
          rfl
    rw [List.all_cons, letterWord, restWord]
    rfl
  next => simp at exponent

private theorem all_of_isFraction {text : Text} (fraction : isFraction text = true) :
    text.all isWordChar = true := by
  unfold isFraction at fraction
  split at fraction
  next first rest =>
    rw [Bool.and_eq_true] at fraction
    have restWord := all_of_dropWhile (all_of_isExponent fraction.2)
    have firstWord := isWordChar_of_isDigit fraction.1
    simp only [List.all_cons, firstWord, restWord]
    decide
  next => exact all_of_isExponent fraction

private theorem word_of_isUnsigned {text : Text} (number : isUnsigned text = true) :
    text ≠ [] ∧ text.all isWordChar = true := by
  unfold isUnsigned at number
  split at number
  next rest =>
    refine ⟨by simp, ?_⟩
    rw [List.all_cons, all_of_isFraction number]
    decide
  next first rest _ =>
    rw [Bool.and_eq_true] at number
    refine ⟨by simp, ?_⟩
    rw [List.all_cons, isWordChar_of_isDigit number.1,
      all_of_dropWhile (all_of_isFraction number.2)]
    rfl
  next => simp at number

/-- A number is a word. -/
theorem Literal.isWord (literal : Literal) :
    literal.text ≠ [] ∧ literal.text.all isWordChar = true := by
  obtain ⟨text, valid⟩ := literal
  unfold isNumber at valid
  split at valid
  next rest =>
    refine ⟨by simp, ?_⟩
    rw [List.all_cons, (word_of_isUnsigned valid).2]
    decide
  next => exact word_of_isUnsigned valid

private theorem toDigits_head {value : Nat} (positive : 0 < value) :
    ∃ first rest, Nat.toDigits 10 value = first :: rest ∧ first ≠ '0' := by
  induction value using Nat.strong_induction_on with
  | _ value inductionHypothesis =>
      by_cases small : value < 10
      · refine ⟨value.digitChar, [], Nat.toDigits_of_lt_base small, ?_⟩
        intro isZero
        rw [Nat.digitChar_eq_zero] at isZero
        omega
      · obtain ⟨first, rest, same, notZero⟩ :=
          inductionHypothesis (value / 10) (by omega) (by omega)
        exact ⟨first, rest ++ [(value % 10).digitChar],
          by rw [Nat.toDigits_of_base_le (by decide) (by omega), same]; rfl, notZero⟩

/-- A natural number in decimal. -/
def Literal.ofNat (value : Nat) : Literal where
  text := Nat.toDigits 10 value
  valid := by
    obtain rfl | positive := Nat.eq_zero_or_pos value
    · rw [Nat.toDigits_zero]
      decide
    · obtain ⟨first, rest, same, notZero⟩ := toDigits_head positive
      have digit : ∀ c ∈ first :: rest, c.isDigit = true := by
        rw [← same]
        exact fun c member => Nat.isDigit_of_mem_toDigits (by decide) (by decide) member
      rw [List.forall_mem_cons] at digit
      have notMinus : first ≠ '-' := by
        intro isMinus
        rw [isMinus] at digit
        exact absurd digit.1 (by decide)
      have dropped : rest.dropWhile Char.isDigit = [] := by
        rw [List.dropWhile_eq_nil_iff]
        exact digit.2
      rw [same]
      simp [isNumber, isUnsigned, notMinus, digit.1, dropped, isFraction, isExponent]

/-! ## Values and their texts -/

inductive Value where
  | null
  | bool (value : Bool)
  | number (literal : Literal)
  | string (text : Text)
  | array (items : List Value)
  | object (fields : List (Text × Value))

def hexDigit (digit : Nat) : Char := Char.ofNat (if digit < 10 then 48 + digit else 87 + digit)

/-- A character inside a string. -/
def escapeChar (c : Char) : Text :=
  if c = '\"' then ['\\', '\"']
  else if c = '\\' then ['\\', '\\']
  else if c = '\x08' then ['\\', 'b']
  else if c = '\t' then ['\\', 't']
  else if c = '\n' then ['\\', 'n']
  else if c = '\x0c' then ['\\', 'f']
  else if c = '\r' then ['\\', 'r']
  else if c.toNat < 32 then
    ['\\', 'u', '0', '0', hexDigit (c.toNat / 16), hexDigit (c.toNat % 16)]
  else [c]

def escape (text : Text) : Text := text.flatMap escapeChar

def quote (text : Text) : Text := '\"' :: escape text ++ ['\"']

def wordOf : Bool → Text
  | true => ['t', 'r', 'u', 'e']
  | false => ['f', 'a', 'l', 's', 'e']

mutual

/-- The compact text of a value. -/
def render : Value → Text
  | .null => ['n', 'u', 'l', 'l']
  | .bool value => wordOf value
  | .number literal => literal.text
  | .string text => quote text
  | .array items => '[' :: renderItems items ++ [']']
  | .object fields => '{' :: renderFields fields ++ ['}']

def renderItems : List Value → Text
  | [] => []
  | item :: rest => render item ++ renderMoreItems rest

/-- The items that follow one. -/
def renderMoreItems : List Value → Text
  | [] => []
  | item :: rest => ',' :: render item ++ renderMoreItems rest

def renderFields : List (Text × Value) → Text
  | [] => []
  | (key, value) :: rest => quote key ++ ':' :: render value ++ renderMoreFields rest

/-- The fields that follow one. -/
def renderMoreFields : List (Text × Value) → Text
  | [] => []
  | (key, value) :: rest => ',' :: quote key ++ ':' :: render value ++ renderMoreFields rest

end

/-! ## The texts of a value -/

mutual

/-- Every key and every string of a value has a property. -/
def Value.AllTexts (property : Text → Prop) : Value → Prop
  | .null | .bool _ | .number _ => True
  | .string text => property text
  | .array items => Value.AllItems property items
  | .object fields => Value.AllFields property fields

def Value.AllItems (property : Text → Prop) : List Value → Prop
  | [] => True
  | item :: rest => item.AllTexts property ∧ Value.AllItems property rest

def Value.AllFields (property : Text → Prop) : List (Text × Value) → Prop
  | [] => True
  | (key, value) :: rest =>
      property key ∧ value.AllTexts property ∧ Value.AllFields property rest

end

mutual

/-- Change every key and every string of a value. -/
def Value.mapTexts (change : Text → Text) : Value → Value
  | .null => .null
  | .bool value => .bool value
  | .number literal => .number literal
  | .string text => .string (change text)
  | .array items => .array (Value.mapItems change items)
  | .object fields => .object (Value.mapFields change fields)

def Value.mapItems (change : Text → Text) : List Value → List Value
  | [] => []
  | item :: rest => item.mapTexts change :: Value.mapItems change rest

def Value.mapFields (change : Text → Text) : List (Text × Value) → List (Text × Value)
  | [] => []
  | (key, value) :: rest => (change key, value.mapTexts change) :: Value.mapFields change rest

end

mutual

/-- What does not change the texts does not change the value. -/
theorem Value.mapTexts_eq_self {change : Text → Text} (value : Value) :
    value.mapTexts change = value ↔ value.AllTexts fun text => change text = text := by
  match value with
  | .null => simp [Value.mapTexts, Value.AllTexts]
  | .bool _ => simp [Value.mapTexts, Value.AllTexts]
  | .number _ => simp [Value.mapTexts, Value.AllTexts]
  | .string text => simp [Value.mapTexts, Value.AllTexts]
  | .array items =>
      simp only [Value.mapTexts, Value.AllTexts, Value.array.injEq]
      exact mapItems_eq_self items
  | .object fields =>
      simp only [Value.mapTexts, Value.AllTexts, Value.object.injEq]
      exact mapFields_eq_self fields

theorem Value.mapItems_eq_self {change : Text → Text} (items : List Value) :
    Value.mapItems change items = items ↔
      Value.AllItems (fun text => change text = text) items := by
  match items with
  | [] => simp [Value.mapItems, Value.AllItems]
  | item :: rest =>
      simp only [Value.mapItems, Value.AllItems, List.cons.injEq]
      rw [mapTexts_eq_self item, mapItems_eq_self rest]

theorem Value.mapFields_eq_self {change : Text → Text} (fields : List (Text × Value)) :
    Value.mapFields change fields = fields ↔
      Value.AllFields (fun text => change text = text) fields := by
  match fields with
  | [] => simp [Value.mapFields, Value.AllFields]
  | (key, value) :: rest =>
      simp only [Value.mapFields, Value.AllFields, List.cons.injEq, Prod.mk.injEq, and_assoc]
      rw [mapTexts_eq_self value, mapFields_eq_self rest]

end

theorem Value.mapFields_eq_map (change : Text → Text) (fields : List (Text × Value)) :
    Value.mapFields change fields =
      fields.map fun field => (change field.1, field.2.mapTexts change) := by
  induction fields with
  | nil => rfl
  | cons field fields inductionHypothesis =>
      rw [Value.mapFields, List.map_cons, inductionHypothesis]

/-! ## Strings -/

/-- Where a reader is in the content of a string: not in an escape, after a backslash, in
the digits of a code unit, or after the first half of a surrogate pair. -/
inductive Phase where
  | plain
  | slash (high : Option Nat)
  | digits (high : Option Nat) (count unit : Nat)
  | high (unit : Nat)
deriving DecidableEq

/-- The content of a string as far as it is read. -/
structure Content where
  text : Text
  phase : Phase
deriving DecidableEq

def hexValue (c : Char) : Option Nat :=
  if '0' ≤ c ∧ c ≤ '9' then some (c.toNat - 48)
  else if 'a' ≤ c ∧ c ≤ 'f' then some (c.toNat - 87)
  else if 'A' ≤ c ∧ c ≤ 'F' then some (c.toNat - 55)
  else none

def unescapeChar : Char → Option Char
  | '\"' => some '\"'
  | '\\' => some '\\'
  | '/' => some '/'
  | 'b' => some '\x08'
  | 'f' => some '\x0c'
  | 'n' => some '\n'
  | 'r' => some '\r'
  | 't' => some '\t'
  | _ => none

/-- A code unit is complete. -/
def Content.unit (text : Text) : Option Nat → Nat → Option Content
  | none, unit =>
      if 0xD800 ≤ unit ∧ unit < 0xDC00 then some ⟨text, .high unit⟩
      else if 0xDC00 ≤ unit ∧ unit < 0xE000 then none
      else some ⟨text ++ [Char.ofNat unit], .plain⟩
  | some high, unit =>
      if 0xDC00 ≤ unit ∧ unit < 0xE000 then
        some ⟨text ++ [Char.ofNat (0x10000 + (high - 0xD800) * 0x400 + (unit - 0xDC00))], .plain⟩
      else none

/-- One character of the content of a string. -/
def Content.step (content : Content) (c : Char) : Option Content :=
  match content.phase with
  | .plain =>
      if c = '\\' then some ⟨content.text, .slash none⟩
      else if c.toNat < 32 then none
      else some ⟨content.text ++ [c], .plain⟩
  | .slash high =>
      if c = 'u' then some ⟨content.text, .digits high 0 0⟩
      else if high = none then (unescapeChar c).map fun c => ⟨content.text ++ [c], .plain⟩
      else none
  | .digits high count unit =>
      (hexValue c).bind fun digit =>
        if count = 3 then Content.unit content.text high (16 * unit + digit)
        else some ⟨content.text, .digits high (count + 1) (16 * unit + digit)⟩
  | .high unit => if c = '\\' then some ⟨content.text, .slash (some unit)⟩ else none

/-! ## The reader -/

/-- An array or object around what is read. -/
inductive Frame where
  | array (items : List Value)
  | object (fields : List (Text × Value)) (key : Text)

inductive Mode where
  /-- A value must follow. -/
  | start
  /-- A value or the end of an array must follow. -/
  | firstItem
  /-- A key must follow, or the end of an object if it has no field. -/
  | key (fields : List (Text × Value)) (isFirst : Bool)
  /-- Inside a key, given the fields before it, or inside a string that is a value. -/
  | inText (before : Option (List (Text × Value))) (content : Content)
  | colon (fields : List (Text × Value)) (key : Text)
  | word (letters : Text)
  | done (value : Value)

/-- After the closing quote of a text. -/
def Mode.afterText : Option (List (Text × Value)) → Text → Mode
  | none, text => .done (.string text)
  | some fields, text => .colon fields text

structure Reader where
  frames : List Frame
  mode : Mode

def isBlank (c : Char) : Bool := c = ' ' || c = '\t' || c = '\n' || c = '\r'

def literal (letters : Text) : Option Value :=
  if letters = ['n', 'u', 'l', 'l'] then some .null
  else if letters = ['t', 'r', 'u', 'e'] then some (.bool true)
  else if letters = ['f', 'a', 'l', 's', 'e'] then some (.bool false)
  else if valid : isNumber letters = true then some (.number ⟨letters, valid⟩)
  else none

namespace Reader

/-- The first character of a value. -/
def beginValue (frames : List Frame) (c : Char) : Option Reader :=
  if c = '\"' then some ⟨frames, .inText none ⟨[], .plain⟩⟩
  else if c = '{' then some ⟨frames, .key [] true⟩
  else if c = '[' then some ⟨frames, .firstItem⟩
  else if isWordChar c then some ⟨frames, .word [c]⟩
  else none

/-- A character after a value. -/
def afterValue (frames : List Frame) (value : Value) (c : Char) : Option Reader :=
  if isBlank c then some ⟨frames, .done value⟩
  else
    match frames with
    | .array items :: rest =>
        if c = ',' then some ⟨.array (items ++ [value]) :: rest, .start⟩
        else if c = ']' then some ⟨rest, .done (.array (items ++ [value]))⟩
        else none
    | .object fields key :: rest =>
        if c = ',' then some ⟨rest, .key (fields ++ [(key, value)]) false⟩
        else if c = '}' then some ⟨rest, .done (.object (fields ++ [(key, value)]))⟩
        else none
    | [] => none

/-- One character of a text. -/
def step (reader : Reader) (c : Char) : Option Reader :=
  match reader.mode with
  | .start => if isBlank c then some reader else beginValue reader.frames c
  | .firstItem =>
      if isBlank c then some reader
      else if c = ']' then some ⟨reader.frames, .done (.array [])⟩
      else beginValue (.array [] :: reader.frames) c
  | .key fields isFirst =>
      if isBlank c then some reader
      else if c = '\"' then some ⟨reader.frames, .inText (some fields) ⟨[], .plain⟩⟩
      else if c = '}' ∧ isFirst then some ⟨reader.frames, .done (.object fields)⟩
      else none
  | .inText before content =>
      if c = '\"' ∧ content.phase = .plain then
        some ⟨reader.frames, .afterText before content.text⟩
      else (content.step c).map fun content => ⟨reader.frames, .inText before content⟩
  | .colon fields key =>
      if isBlank c then some reader
      else if c = ':' then some ⟨.object fields key :: reader.frames, .start⟩
      else none
  | .word letters =>
      if isWordChar c then some ⟨reader.frames, .word (letters ++ [c])⟩
      else (literal letters).bind fun value => afterValue reader.frames value c
  | .done value => afterValue reader.frames value c

def run (reader : Reader) (text : Text) : Option Reader := text.foldlM step reader

/-- The value, if the text can end here. -/
def finish (reader : Reader) : Option Value :=
  match reader.frames, reader.mode with
  | [], .done value => some value
  | [], .word letters => literal letters
  | _, _ => none

@[simp] theorem run_nil (reader : Reader) : run reader [] = some reader := rfl

theorem run_cons (reader : Reader) (c : Char) (text : Text) :
    run reader (c :: text) = (reader.step c).bind fun next => run next text := by
  simp [run, List.foldlM_cons]

theorem run_append (reader : Reader) (left right : Text) :
    run reader (left ++ right) = (run reader left).bind fun next => run next right := by
  simp [run, List.foldlM_append]

end Reader

/-- The value a text stands for, if it stands for one. -/
def parse (text : Text) : Option Value :=
  (Reader.run ⟨[], .start⟩ text).bind Reader.finish

/-! ## Reading a text back -/

namespace Reader

variable {frames : List Frame}

private theorem run_escapeControl {before : Option (List (Text × Value))} {text : Text} {c : Char}
    (control : c.toNat < 32) :
    run ⟨frames, .inText before ⟨text, .plain⟩⟩
      ['\\', 'u', '0', '0', hexDigit (c.toNat / 16), hexDigit (c.toNat % 16)] =
        some ⟨frames, .inText before ⟨text ++ [c], .plain⟩⟩ := by
  have values : ∀ unit < 32, hexValue (hexDigit (unit / 16)) = some (unit / 16) ∧
      hexValue (hexDigit (unit % 16)) = some (unit % 16) ∧
      hexDigit (unit / 16) ≠ '\"' ∧ hexDigit (unit % 16) ≠ '\"' := by decide
  obtain ⟨upper, lower, upperPlain, lowerPlain⟩ := values c.toNat control
  have zero : hexValue '0' = some 0 := by decide
  have code : 16 * (c.toNat / 16) + c.toNat % 16 = c.toNat := Nat.div_add_mod c.toNat 16
  have low : ¬ (0xD800 ≤ c.toNat) := by omega
  have middle : ¬ (0xDC00 ≤ c.toNat) := by omega
  simp [run, step, Content.step, Content.unit, zero, upper, lower, code, low, middle]

/-- Reading an escaped character inside a string. -/
theorem run_escapeChar (before : Option (List (Text × Value))) (text : Text) (c : Char) :
    run ⟨frames, .inText before ⟨text, .plain⟩⟩ (escapeChar c) =
      some ⟨frames, .inText before ⟨text ++ [c], .plain⟩⟩ := by
  unfold escapeChar
  split_ifs with isQuote isSlash _ _ _ _ _ control
  any_goals
    subst_vars
    rfl
  · exact run_escapeControl control
  · simp [run, step, Content.step, isQuote, isSlash, control]

theorem run_escape (before : Option (List (Text × Value))) (text read : Text) :
    run ⟨frames, .inText before ⟨read, .plain⟩⟩ (escape text) =
      some ⟨frames, .inText before ⟨read ++ text, .plain⟩⟩ := by
  induction text generalizing read with
  | nil => simp [escape]
  | cons c text inductionHypothesis =>
      have tail := inductionHypothesis (read ++ [c])
      rw [List.append_assoc, List.singleton_append] at tail
      rw [escape, List.flatMap_cons, run_append, run_escapeChar]
      exact tail

/-- Reading a text up to its closing quote. -/
theorem run_quote (before : Option (List (Text × Value))) (text : Text) :
    run ⟨frames, .inText before ⟨[], .plain⟩⟩ (escape text ++ ['\"']) =
      some ⟨frames, .afterText before text⟩ := by
  rw [run_append, run_escape]
  simp [run, step]

/-- A value has been read, up to a delimiter if it is a word. -/
def Holds (reader : Reader) (frames : List Frame) (value : Value) : Prop :=
  reader = ⟨frames, .done value⟩ ∨
    ∃ letters, reader = ⟨frames, .word letters⟩ ∧ literal letters = some value

theorem Holds.step {reader : Reader} {value : Value} {c : Char}
    (holds : reader.Holds frames value) (delimiter : isWordChar c = false) :
    reader.step c = afterValue frames value c := by
  cases holds with
  | inl isDone => rw [isDone]; rfl
  | inr isWord =>
      obtain ⟨letters, rfl, stands⟩ := isWord
      simp [Reader.step, delimiter, stands]

theorem Holds.finish {reader : Reader} {value : Value} (holds : reader.Holds [] value) :
    reader.finish = some value := by
  cases holds with
  | inl isDone => rw [isDone]; rfl
  | inr isWord =>
      obtain ⟨letters, rfl, stands⟩ := isWord
      exact stands

private theorem isBlank_of_isWordChar {c : Char} (word : isWordChar c = true) :
    isBlank c = false ∧ c ≠ '\"' ∧ c ≠ '{' ∧ c ≠ '[' ∧ c ≠ ']' := by
  refine ⟨?_, ?_, ?_, ?_, ?_⟩
  · rw [Bool.eq_false_iff]
    intro blank
    simp only [isBlank, Bool.or_eq_true, decide_eq_true_eq] at blank
    obtain ((isSpace | isTab) | isLine) | isReturn := blank
    all_goals
      subst_vars
      exact absurd word (by decide)
  all_goals
    intro same
    subst same
    exact absurd word (by decide)

private theorem run_word {letters read : Text} (word : letters.all isWordChar = true) :
    run ⟨frames, .word read⟩ letters = some ⟨frames, .word (read ++ letters)⟩ := by
  induction letters generalizing read with
  | nil => simp
  | cons c letters inductionHypothesis =>
      rw [List.all_cons, Bool.and_eq_true] at word
      rw [run_cons]
      simp only [Reader.step, word.1, if_true, Option.bind_some]
      rw [inductionHypothesis word.2, List.append_assoc, List.singleton_append]

/-- Reading a word that stands for a value. -/
private theorem run_start_word {letters : Text} (nonempty : letters ≠ [])
    (word : letters.all isWordChar = true) :
    run ⟨frames, .start⟩ letters = some ⟨frames, .word letters⟩ := by
  cases letters with
  | nil => exact absurd rfl nonempty
  | cons c letters =>
      rw [List.all_cons, Bool.and_eq_true] at word
      obtain ⟨notBlank, notQuote, notBrace, notBracket, -⟩ := isBlank_of_isWordChar word.1
      rw [run_cons]
      simp only [Reader.step, notBlank, beginValue, notQuote, notBrace, notBracket, word.1]
      exact run_word word.2

private theorem literal_text (number : Literal) : literal number.text = some (.number number) := by
  obtain ⟨text, valid⟩ := number
  have notWord : ∀ letters : Text, isNumber letters = false → text ≠ letters := by
    intro letters invalid same
    rw [same, invalid] at valid
    exact Bool.false_ne_true valid
  rw [literal, if_neg (notWord _ (by decide)), if_neg (notWord _ (by decide)),
    if_neg (notWord _ (by decide)), dif_pos valid]

/-- The first character of a value's text. -/
private theorem render_head (value : Value) :
    ∃ c text, render value = c :: text ∧ isBlank c = false ∧ c ≠ ']' := by
  cases value with
  | null => exact ⟨_, _, rfl, by decide, by decide⟩
  | bool value =>
      cases value with
      | true => exact ⟨_, _, rfl, by decide, by decide⟩
      | false => exact ⟨_, _, rfl, by decide, by decide⟩
  | number number =>
      obtain ⟨nonempty, word⟩ := number.isWord
      obtain ⟨c, text, same⟩ := List.exists_cons_of_ne_nil nonempty
      rw [same, List.all_cons, Bool.and_eq_true] at word
      have plain := isBlank_of_isWordChar word.1
      exact ⟨c, text, same, plain.1, plain.2.2.2.2⟩
  | string text => exact ⟨_, _, rfl, by decide, by decide⟩
  | array items => exact ⟨_, _, rfl, by decide, by decide⟩
  | object fields => exact ⟨_, _, rfl, by decide, by decide⟩

/-- The first item of an array is read like any value. -/
theorem run_firstItem (value : Value) (rest : Text) :
    run ⟨frames, .firstItem⟩ (render value ++ rest) =
      run ⟨.array [] :: frames, .start⟩ (render value ++ rest) := by
  obtain ⟨c, text, same, notBlank, notClose⟩ := render_head value
  rw [same, List.cons_append, run_cons, run_cons]
  simp [Reader.step, notBlank, notClose]

mutual

/-- The text of a value is read as the value. -/
theorem holds_render (value : Value) (frames : List Frame) :
    ∃ reader, run ⟨frames, .start⟩ (render value) = some reader ∧ reader.Holds frames value := by
  match value with
  | .null =>
      show ∃ reader, run ⟨frames, .start⟩ ['n', 'u', 'l', 'l'] = some reader ∧ _
      exact ⟨_, run_start_word (List.cons_ne_nil _ _) (by decide), .inr ⟨_, rfl, rfl⟩⟩
  | .bool true =>
      show ∃ reader, run ⟨frames, .start⟩ ['t', 'r', 'u', 'e'] = some reader ∧ _
      exact ⟨_, run_start_word (List.cons_ne_nil _ _) (by decide), .inr ⟨_, rfl, rfl⟩⟩
  | .bool false =>
      show ∃ reader, run ⟨frames, .start⟩ ['f', 'a', 'l', 's', 'e'] = some reader ∧ _
      exact ⟨_, run_start_word (List.cons_ne_nil _ _) (by decide), .inr ⟨_, rfl, rfl⟩⟩
  | .number number =>
      exact ⟨_, run_start_word number.isWord.1 number.isWord.2, .inr ⟨_, rfl, literal_text number⟩⟩
  | .string text =>
      exact ⟨_, run_quote none text, .inl rfl⟩
  | .array items =>
      refine ⟨_, ?_, .inl rfl⟩
      match items with
      | [] => rfl
      | item :: rest =>
          show run ⟨frames, .firstItem⟩ (render item ++ renderMoreItems rest ++ [']']) = _
          obtain ⟨reader, read, holds⟩ := holds_render item (.array [] :: frames)
          rw [List.append_assoc, run_firstItem, run_append, read]
          exact run_moreItems rest frames [] item holds
  | .object fields =>
      refine ⟨_, ?_, .inl rfl⟩
      match fields with
      | [] => rfl
      | (key, value) :: rest =>
          show run ⟨frames, .inText (some []) ⟨[], .plain⟩⟩
            (escape key ++ ['\"'] ++ ':' :: render value ++ renderMoreFields rest ++ ['}']) = _
          obtain ⟨reader, read, holds⟩ := holds_render value (.object [] key :: frames)
          rw [List.append_assoc, List.append_assoc, run_append, run_quote, Option.bind_some]
          show run ⟨.object [] key :: frames, .start⟩ (render value ++ _) = _
          rw [run_append, read]
          exact run_moreFields rest frames [] key value holds

private theorem run_moreItems (items : List Value) (frames : List Frame) (before : List Value)
    (item : Value) {reader : Reader} (holds : reader.Holds (.array before :: frames) item) :
    run reader (renderMoreItems items ++ [']']) =
      some ⟨frames, .done (.array (before ++ item :: items))⟩ := by
  match items with
  | [] =>
      show run reader [']'] = _
      rw [run_cons, holds.step (by decide)]
      rfl
  | next :: rest =>
      show run reader (',' :: (render next ++ renderMoreItems rest ++ [']'])) = _
      obtain ⟨after, read, holdsNext⟩ := holds_render next (.array (before ++ [item]) :: frames)
      rw [run_cons, holds.step (by decide), List.append_assoc]
      show run ⟨.array (before ++ [item]) :: frames, .start⟩ (render next ++ _) = _
      rw [run_append, read, Option.bind_some, run_moreItems rest frames _ next holdsNext]
      simp

private theorem run_moreFields (fields : List (Text × Value)) (frames : List Frame)
    (before : List (Text × Value)) (key : Text) (value : Value) {reader : Reader}
    (holds : reader.Holds (.object before key :: frames) value) :
    run reader (renderMoreFields fields ++ ['}']) =
      some ⟨frames, .done (.object (before ++ (key, value) :: fields))⟩ := by
  match fields with
  | [] =>
      show run reader ['}'] = _
      rw [run_cons, holds.step (by decide)]
      rfl
  | (next, nextValue) :: rest =>
      show run reader (',' :: '\"' ::
        (escape next ++ ['\"'] ++ ':' :: render nextValue ++ renderMoreFields rest ++ ['}'])) = _
      obtain ⟨after, read, holdsNext⟩ :=
        holds_render nextValue (.object (before ++ [(key, value)]) next :: frames)
      rw [run_cons, holds.step (by decide)]
      show run ⟨frames, .inText (some (before ++ [(key, value)])) ⟨[], .plain⟩⟩ _ = _
      rw [List.append_assoc, List.append_assoc, run_append, run_quote, Option.bind_some]
      show run ⟨.object (before ++ [(key, value)]) next :: frames, .start⟩
        (render nextValue ++ _) = _
      rw [run_append, read, Option.bind_some, run_moreFields rest frames _ next nextValue holdsNext]
      simp

end

end Reader

/-- The text of a value is read back as the value. -/
theorem parse_render (value : Value) : parse (render value) = some value := by
  obtain ⟨reader, read, holds⟩ := Reader.holds_render value []
  rw [parse, read]
  exact holds.finish

/-- A newline after a text changes nothing. -/
theorem parse_append_newline (text : Text) : parse (text ++ ['\n']) = parse text := by
  have ends : ∀ reader : Reader, (reader.run ['\n']).bind Reader.finish = reader.finish := by
    intro reader
    have noWord : isWordChar '\n' = false := by decide
    have blank : isBlank '\n' = true := by decide
    obtain ⟨frames, mode⟩ := reader
    cases mode with
    | inText before content =>
        cases stepped : content.step '\n' with
        | none => cases frames <;> simp [Reader.run, Reader.step, Reader.finish, stepped]
        | some after => cases frames <;> simp [Reader.run, Reader.step, Reader.finish, stepped]
    | word letters =>
        cases stands : literal letters with
        | none => cases frames <;> simp [Reader.run, Reader.step, Reader.finish, noWord, stands]
        | some value =>
            cases frames <;>
              simp [Reader.run, Reader.step, Reader.finish, Reader.afterValue, noWord, stands,
                blank]
    | _ =>
        cases frames <;> simp [Reader.run, Reader.step, Reader.finish, Reader.afterValue, blank]
  rw [parse, parse, Reader.run_append]
  cases Reader.run ⟨[], .start⟩ text with
  | none => rfl
  | some reader => exact ends reader

/-! ## Escaping -/

/-- A property of escaped characters is checked on the characters that change. -/
theorem escapeChar_induction {motive : Char → Text → Prop} (c : Char)
    (plain : escapeChar c = [c] → motive c [c]) (quote : motive '\"' ['\\', '\"'])
    (slash : motive '\\' ['\\', '\\'])
    (control : ∀ code < 32, motive (Char.ofNat code) (escapeChar (Char.ofNat code))) :
    motive c (escapeChar c) := by
  by_cases low : c.toNat < 32
  · have checked := control c.toNat low
    rw [Char.ofNat_toNat] at checked
    exact checked
  · by_cases isQuote : c = '\"'
    · subst isQuote
      exact quote
    · by_cases isSlash : c = '\\'
      · subst isSlash
        exact slash
      · have high : ∀ special : Char, special.toNat < 32 → c ≠ special := by
          intro special isLow same
          rw [same] at low
          exact low isLow
        have same : escapeChar c = [c] := by
          rw [escapeChar, if_neg isQuote, if_neg isSlash, if_neg (high _ (by decide)),
            if_neg (high _ (by decide)), if_neg (high _ (by decide)),
            if_neg (high _ (by decide)), if_neg (high _ (by decide)), if_neg low]
        rw [same]
        exact plain same

theorem escape_append (left right : Text) :
    escape (left ++ right) = escape left ++ escape right :=
  List.flatMap_append

theorem escape_cons (c : Char) (text : Text) : escape (c :: text) = escapeChar c ++ escape text :=
  List.flatMap_cons

/-- A text of characters that do not change. -/
theorem escape_eq_self {text : Text} (same : ∀ c ∈ text, escapeChar c = [c]) :
    escape text = text := by
  rw [escape, List.flatMap_congr same, List.flatMap_singleton']

theorem escape_injective {first second : Text} (same : escape first = escape second) :
    first = second := by
  have firstRead := parse_render (.string first)
  have secondRead := parse_render (.string second)
  rw [render, quote, same] at firstRead
  rw [render, quote, firstRead] at secondRead
  simpa using secondRead

/-! ## A field inside a value -/

/-- A value around one of its fields, which is at any depth. -/
inductive Place where
  | here (before after : List (Text × Value))
  | inField (before : List (Text × Value)) (name : Text) (place : Place)
      (after : List (Text × Value))
  | inItem (before : List Value) (place : Place) (after : List Value)

namespace Place

/-- The value with this field. -/
def fill (key : Text) (value : Value) : Place → Value
  | .here before after => .object (before ++ (key, value) :: after)
  | .inField before name place after => .object (before ++ (name, fill key value place) :: after)
  | .inItem before place after => .array (before ++ fill key value place :: after)

def leadingFields : List (Text × Value) → Text
  | [] => []
  | fields => renderFields fields ++ [',']

def leadingItems : List Value → Text
  | [] => []
  | items => renderItems items ++ [',']

/-- The text ahead of the field. -/
def left : Place → Text
  | .here before _ => '{' :: leadingFields before
  | .inField before name place _ => '{' :: leadingFields before ++ quote name ++ ':' :: left place
  | .inItem before place _ => '[' :: leadingItems before ++ left place

/-- The text after the field. -/
def right : Place → Text
  | .here _ after => renderMoreFields after ++ ['}']
  | .inField _ _ place after => right place ++ renderMoreFields after ++ ['}']
  | .inItem _ place after => right place ++ renderMoreItems after ++ [']']

private theorem renderMoreFields_append (before after : List (Text × Value)) :
    renderMoreFields (before ++ after) = renderMoreFields before ++ renderMoreFields after := by
  induction before with
  | nil => rfl
  | cons field before inductionHypothesis => simp [renderMoreFields, inductionHypothesis]

private theorem renderMoreItems_append (before after : List Value) :
    renderMoreItems (before ++ after) = renderMoreItems before ++ renderMoreItems after := by
  induction before with
  | nil => rfl
  | cons item before inductionHypothesis => simp [renderMoreItems, inductionHypothesis]

private theorem renderFields_append (before : List (Text × Value)) (key : Text) (value : Value)
    (after : List (Text × Value)) :
    renderFields (before ++ (key, value) :: after) =
      leadingFields before ++ quote key ++ ':' :: render value ++ renderMoreFields after := by
  cases before with
  | nil => simp [leadingFields, renderFields]
  | cons field before =>
      simp [leadingFields, renderFields, renderMoreFields_append, renderMoreFields]

private theorem renderItems_append (before : List Value) (item : Value) (after : List Value) :
    renderItems (before ++ item :: after) =
      leadingItems before ++ render item ++ renderMoreItems after := by
  cases before with
  | nil => simp [leadingItems, renderItems]
  | cons first before => simp [leadingItems, renderItems, renderMoreItems_append, renderMoreItems]

/-- The text of a value around one of its fields. -/
theorem render_fill (key : Text) (value : Value) (place : Place) :
    render (place.fill key value) =
      place.left ++ quote key ++ ':' :: render value ++ place.right := by
  induction place with
  | here before after => simp [fill, render, left, right, renderFields_append]
  | inField before name place after inductionHypothesis =>
      simp [fill, render, left, right, renderFields_append, inductionHypothesis]
  | inItem before place after inductionHypothesis =>
      simp [fill, render, left, right, renderItems_append, inductionHypothesis]

/-- A comma or the end of the object follows a field. -/
theorem right_head (place : Place) :
    ∃ c text, place.right = c :: text ∧ (c = ',' ∨ c = '}') := by
  induction place with
  | here before after =>
      cases after with
      | nil => exact ⟨_, _, rfl, .inr rfl⟩
      | cons field after => exact ⟨_, _, rfl, .inl rfl⟩
  | inField before name place after inductionHypothesis =>
      obtain ⟨c, text, same, isEnd⟩ := inductionHypothesis
      exact ⟨c, _, by rw [right, same]; rfl, isEnd⟩
  | inItem before place after inductionHypothesis =>
      obtain ⟨c, text, same, isEnd⟩ := inductionHypothesis
      exact ⟨c, _, by rw [right, same]; rfl, isEnd⟩

end Place

end TriAI.Library.JsonText
