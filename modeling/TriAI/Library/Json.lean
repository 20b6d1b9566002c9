import TriAI.Library.TextLines

/-!
Contract: JSON values as untyped data.

Owns: `Json` with its numbers; the fields of an object as a finite map, with reading,
writing and copying of fields; pointers into a value; the texts a value holds; and the
inversion of a sequence of checks.

Does not own: the text form of a value. An object is the list of its fields: the first
one with a key is its value, and no modelled function reads them in order.
-/

set_option autoImplicit false

namespace TriAI.Library

/-- A number as it is held: integers where the text has one that fits, else a double. -/
inductive JsonNumber where
  | posInt (value : UInt64)
  | negInt (value : Int64)
  | float (bits : UInt64)
deriving DecidableEq

inductive Json where
  | null
  | bool (value : Bool)
  | number (value : JsonNumber)
  | string (value : String)
  | array (items : List Json)
  | object (fields : List (String × Json))

/-- The fields of an object. -/
abbrev Fields : Type := List (String × Json)

namespace Fields

variable (fields : Fields) (key : String) (value : Json)

/-- Write a field. -/
def insert : Fields → Fields
  | [] => [(key, value)]
  | field :: rest => if field.1 = key then (key, value) :: rest else field :: insert rest

/-- Write a field that is absent. -/
def orInsert : Fields :=
  match fields.lookup key with
  | some _ => fields
  | none => insert key value fields

variable {fields key value}

@[simp] theorem lookup_insert_self : (insert key value fields).lookup key = some value := by
  induction fields with
  | nil => simp [insert]
  | cons field rest inductionHypothesis =>
      obtain ⟨first, held⟩ := field
      by_cases same : first = key
      · simp [insert, same]
      · have different : (key == first) = false := by simpa using Ne.symm same
        simpa [insert, same, List.lookup_cons, different] using inductionHypothesis

theorem lookup_insert_of_ne {other : String} (different : other ≠ key) :
    (insert key value fields).lookup other = fields.lookup other := by
  induction fields with
  | nil =>
      have unequal : (other == key) = false := by simpa using different
      simp [insert, List.lookup_cons, unequal]
  | cons field rest inductionHypothesis =>
      obtain ⟨first, held⟩ := field
      by_cases same : first = key
      · have unequal : (other == key) = false := by simpa using different
        simp [insert, same, List.lookup_cons, unequal]
      · simp only [insert, if_neg same, List.lookup_cons, inductionHypothesis]

theorem lookup_orInsert_of_ne {other : String} (different : other ≠ key) :
    (orInsert fields key value).lookup other = fields.lookup other := by
  unfold orInsert
  split
  · rfl
  · exact lookup_insert_of_ne different

/-- Copy the fields of `keys` that `source` has. -/
def copyPresent (source : Fields) (keys : List String) (target : Fields) : Fields :=
  keys.foldl (fun target key =>
    match source.lookup key with
    | some value => insert key value target
    | none => target) target

/-- What a field is after copying. -/
theorem lookup_copyPresent (source : Fields) (keys : List String) (target : Fields)
    (key : String) :
    (copyPresent source keys target).lookup key =
      if key ∈ keys then (source.lookup key).or (target.lookup key) else target.lookup key := by
  unfold copyPresent
  induction keys generalizing target with
  | nil => simp
  | cons first rest inductionHypothesis =>
      rw [List.foldl_cons, inductionHypothesis]
      by_cases same : key = first
      · subst same
        cases present : source.lookup key with
        | none => simp
        | some value => simp
      · cases present : source.lookup first with
        | none => simp [same]
        | some value => simp [same, lookup_insert_of_ne same]

end Fields

namespace Json

def asObject : Json → Option Fields
  | .object fields => some fields
  | _ => none

theorem asObject_eq_some {json : Json} {fields : Fields} :
    json.asObject = some fields ↔ json = .object fields := by
  cases json <;> simp [asObject]

def asArray : Json → Option (List Json)
  | .array items => some items
  | _ => none

def asStr : Json → Option String
  | .string value => some value
  | _ => none

def asBool : Json → Option Bool
  | .bool value => some value
  | _ => none

/-- The value of a number that is held as an unsigned integer. -/
def asU64 : Json → Option UInt64
  | .number (.posInt value) => some value
  | _ => none

/-- The field of an object. -/
def get (json : Json) (key : String) : Option Json :=
  json.asObject.bind fun fields => fields.lookup key

@[simp] theorem get_object (fields : Fields) (key : String) :
    (Json.object fields).get key = fields.lookup key := rfl

/-! ## Pointers -/

/-- The position a pointer's token names: decimal without sign or leading zero. -/
def parseIndex (token : String) : Option Nat :=
  if token.toList.head? = some '+' ∨ (token.toList.head? = some '0' ∧ token ≠ "0") then none
  else TextLines.parseUnsigned (2 ^ 64) token

/-- One step of a pointer. -/
def child (json : Json) (token : String) : Option Json :=
  match json with
  | .object fields => fields.lookup token
  | .array items => (parseIndex token).bind fun index => items[index]?
  | _ => none

/-- The value a pointer with these tokens leads to. -/
def pointer (json : Json) (tokens : List String) : Option Json :=
  tokens.foldlM child json

/-! ## Texts -/

mutual

/-- The string values in a value, at any depth. -/
def texts : Json → List String
  | .string value => [value]
  | .array items => textsOfItems items
  | .object fields => textsOfFields fields
  | .null | .bool _ | .number _ => []

def textsOfItems : List Json → List String
  | [] => []
  | item :: rest => texts item ++ textsOfItems rest

def textsOfFields : List (String × Json) → List String
  | [] => []
  | (_, value) :: rest => texts value ++ textsOfFields rest

end

end Json

/-! ## Checks -/

/-- `Option::ok_or_else`. -/
def okOr {ε α : Type} (value : Option α) (error : ε) : Except ε α :=
  match value with
  | some value => .ok value
  | none => .error error

theorem okOr_eq_ok {ε α : Type} {value : Option α} {error : ε} {result : α} :
    okOr value error = .ok result ↔ value = some result := by
  cases value <;> simp [okOr]

/-- A sequence of checks succeeds if each of them does. -/
theorem bind_eq_ok {ε α β : Type} {first : Except ε α} {rest : α → Except ε β} {value : β} :
    first >>= rest = .ok value ↔ ∃ middle, first = .ok middle ∧ rest middle = .ok value := by
  cases first with
  | error error => simp [bind, Except.bind]
  | ok middle => simp [bind, Except.bind]

end TriAI.Library
