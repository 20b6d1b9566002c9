import TriAI.Chat.Prompt
import TriAI.Library.Json

/-!
Contract: the redaction of the fields of an event (`observability.rs`).

Owns: `redactSecrets` and the record of an event; when two values differ only below sensitive
keys; and what redaction hides and what it keeps.

Does not own: the event log and the text of a record.
-/

set_option autoImplicit false

namespace TriAI.Observability

open TriAI.Library
open TriAI.Chat (contains toAsciiLowercase)

/-! ## Redaction -/

/-- The parts that make a key sensitive. -/
def sensitiveParts : List String := ["api_key", "pin", "token", "password", "secret"]

def isSensitive (key : String) : Bool :=
  sensitiveParts.any fun part => contains (toAsciiLowercase key) part

/-- What stands for a value that is hidden. -/
def mask : Json := .string "***"

mutual

/-- `redact_secrets`. -/
def redactSecrets : Json → Json
  | .object fields => .object (redactFields fields)
  | .array items => .array (redactItems items)
  | .null => .null
  | .bool value => .bool value
  | .number value => .number value
  | .string value => .string value

def redactFields : List (String × Json) → List (String × Json)
  | [] => []
  | (key, value) :: rest =>
      (key, if isSensitive key then mask else redactSecrets value) :: redactFields rest

def redactItems : List Json → List Json
  | [] => []
  | item :: rest => redactSecrets item :: redactItems rest

end

def eventSchemaVersion : UInt64 := 1

/-- The record that `emit_to` writes. -/
def eventRecord (eventId timestampMs : UInt64) (event : String) (fields : Json) : Json :=
  .object [("schema_version", .number (.posInt eventSchemaVersion)),
    ("event_id", .number (.posInt eventId)), ("timestamp_ms", .number (.posInt timestampMs)),
    ("event", .string event), ("fields", redactSecrets fields)]

/-! ## Values that differ below sensitive keys -/

mutual

/-- Two values of one shape that differ only in what is below sensitive keys. -/
inductive AgreeOutside : Json → Json → Prop
  | null : AgreeOutside .null .null
  | bool (value : Bool) : AgreeOutside (.bool value) (.bool value)
  | number (value : JsonNumber) : AgreeOutside (.number value) (.number value)
  | string (value : String) : AgreeOutside (.string value) (.string value)
  | array {left right : List Json} (items : ItemsAgree left right) :
      AgreeOutside (.array left) (.array right)
  | object {left right : List (String × Json)} (fields : FieldsAgree left right) :
      AgreeOutside (.object left) (.object right)

inductive ItemsAgree : List Json → List Json → Prop
  | nil : ItemsAgree [] []
  | cons {left right : Json} {lefts rights : List Json} (first : AgreeOutside left right)
      (rest : ItemsAgree lefts rights) : ItemsAgree (left :: lefts) (right :: rights)

inductive FieldsAgree : List (String × Json) → List (String × Json) → Prop
  | nil : FieldsAgree [] []
  | hidden {key : String} {lefts rights : List (String × Json)}
      (sensitive : isSensitive key = true) (left right : Json) (rest : FieldsAgree lefts rights) :
      FieldsAgree ((key, left) :: lefts) ((key, right) :: rights)
  | shown {key : String} {left right : Json} {lefts rights : List (String × Json)}
      (first : AgreeOutside left right) (rest : FieldsAgree lefts rights) :
      FieldsAgree ((key, left) :: lefts) ((key, right) :: rights)

end

mutual

/-- What is below sensitive keys does not show in the result. -/
theorem AgreeOutside.redactSecrets_eq {left right : Json} (agree : AgreeOutside left right) :
    redactSecrets left = redactSecrets right := by
  match agree with
  | .null => rfl
  | .bool _ => rfl
  | .number _ => rfl
  | .string _ => rfl
  | .array items => rw [redactSecrets, redactSecrets, items.redactItems_eq]
  | .object fields => rw [redactSecrets, redactSecrets, fields.redactFields_eq]

theorem ItemsAgree.redactItems_eq {left right : List Json} (agree : ItemsAgree left right) :
    redactItems left = redactItems right := by
  match agree with
  | .nil => rfl
  | .cons first rest =>
      rw [redactItems, redactItems, first.redactSecrets_eq, rest.redactItems_eq]

theorem FieldsAgree.redactFields_eq {left right : List (String × Json)}
    (agree : FieldsAgree left right) : redactFields left = redactFields right := by
  match agree with
  | .nil => rfl
  | .hidden sensitive _ _ rest =>
      rw [redactFields, redactFields, if_pos sensitive, if_pos sensitive, rest.redactFields_eq]
  | .shown first rest =>
      rw [redactFields, redactFields, first.redactSecrets_eq, rest.redactFields_eq]

end

mutual

/-- Redaction changes nothing but what is below sensitive keys. -/
theorem agreeOutside_redactSecrets (value : Json) : AgreeOutside value (redactSecrets value) := by
  match value with
  | .null => exact .null
  | .bool value => exact .bool value
  | .number value => exact .number value
  | .string value => exact .string value
  | .array items => exact .array (itemsAgree_redactItems items)
  | .object fields => exact .object (fieldsAgree_redactFields fields)

theorem itemsAgree_redactItems (items : List Json) : ItemsAgree items (redactItems items) := by
  match items with
  | [] => exact .nil
  | item :: rest =>
      exact .cons (agreeOutside_redactSecrets item) (itemsAgree_redactItems rest)

theorem fieldsAgree_redactFields (fields : List (String × Json)) :
    FieldsAgree fields (redactFields fields) := by
  match fields with
  | [] => exact .nil
  | (key, value) :: rest =>
      have agree := fieldsAgree_redactFields rest
      by_cases sensitive : isSensitive key = true
      · exact .hidden sensitive value _ agree
      · rw [redactFields, if_neg sensitive]
        exact .shown (agreeOutside_redactSecrets value) agree

end

/-- Redaction is idempotent: a value and its redaction differ only below sensitive keys. -/
theorem redactSecrets_redactSecrets (value : Json) :
    redactSecrets (redactSecrets value) = redactSecrets value :=
  (agreeOutside_redactSecrets value).redactSecrets_eq.symm

/-- The record of an event does not show what is below sensitive keys either. -/
theorem eventRecord_eq_of_agree {left right : Json} (agree : AgreeOutside left right)
    (eventId timestampMs : UInt64) (event : String) :
    eventRecord eventId timestampMs event left = eventRecord eventId timestampMs event right := by
  unfold eventRecord
  rw [agree.redactSecrets_eq]

/-! ## Keys -/

/-- The keys of an object. -/
def keys : Json → List String
  | .object fields => fields.map Prod.fst
  | _ => []

theorem map_fst_redactFields (fields : List (String × Json)) :
    (redactFields fields).map Prod.fst = fields.map Prod.fst := by
  induction fields with
  | nil => rfl
  | cons field rest inductionHypothesis =>
      rw [redactFields, List.map_cons, List.map_cons, inductionHypothesis]

theorem keys_redactSecrets (value : Json) : keys (redactSecrets value) = keys value := by
  cases value with
  | object fields => exact map_fst_redactFields fields
  | null => rfl
  | bool value => rfl
  | number value => rfl
  | string value => rfl
  | array items => rfl

theorem lookup_redactFields {key : String} (shown : isSensitive key = false)
    (fields : List (String × Json)) :
    (redactFields fields).lookup key = (fields.lookup key).map redactSecrets := by
  induction fields with
  | nil => rfl
  | cons field rest inductionHypothesis =>
      rw [redactFields, List.lookup_cons, List.lookup_cons]
      cases same : key == field.1 with
      | false => exact inductionHypothesis
      | true =>
          have isKey : field.1 = key := (eq_of_beq same).symm
          rw [isKey, shown]
          rfl

theorem redactItems_eq_map (items : List Json) : redactItems items = items.map redactSecrets := by
  induction items with
  | nil => rfl
  | cons item rest inductionHypothesis =>
      rw [redactItems, List.map_cons, inductionHypothesis]

theorem child_redactSecrets {token : String} (shown : isSensitive token = false) (value : Json) :
    (redactSecrets value).child token = (value.child token).map redactSecrets := by
  cases value with
  | object fields => exact lookup_redactFields shown fields
  | array items =>
      show (Json.parseIndex token).bind (fun index => (redactItems items)[index]?) =
        ((Json.parseIndex token).bind fun index => items[index]?).map redactSecrets
      rw [redactItems_eq_map]
      cases Json.parseIndex token with
      | none => rfl
      | some index => exact List.getElem?_map
  | null => rfl
  | bool value => rfl
  | number value => rfl
  | string value => rfl

/-- Where a pointer without sensitive keys leads in the redaction of a value. -/
theorem pointer_redactSecrets {tokens : List String}
    (shown : ∀ token ∈ tokens, isSensitive token = false) (value : Json) :
    (redactSecrets value).pointer tokens = (value.pointer tokens).map redactSecrets := by
  unfold Json.pointer
  induction tokens generalizing value with
  | nil => rfl
  | cons token rest inductionHypothesis =>
      obtain ⟨first, later⟩ := List.forall_mem_cons.mp shown
      rw [List.foldlM_cons, List.foldlM_cons, child_redactSecrets first]
      cases value.child token with
      | none => rfl
      | some child => exact inductionHypothesis later child

/-- What is below sensitive keys does not show; redaction is idempotent; and what no sensitive
key is on the way to keeps its keys and is changed below sensitive keys only. -/
theorem redactSecrets_secure :
    (∀ left right, AgreeOutside left right → redactSecrets left = redactSecrets right) ∧
    (∀ value, redactSecrets (redactSecrets value) = redactSecrets value) ∧
    ∀ value tokens reached, (∀ token ∈ tokens, isSensitive token = false) →
      value.pointer tokens = some reached →
      ∃ shown, (redactSecrets value).pointer tokens = some shown ∧ keys shown = keys reached ∧
        AgreeOutside reached shown := by
  refine ⟨fun _ _ agree => agree.redactSecrets_eq, redactSecrets_redactSecrets, ?_⟩
  intro value tokens reached exposed leads
  refine ⟨redactSecrets reached, ?_, keys_redactSecrets reached,
    agreeOutside_redactSecrets reached⟩
  rw [pointer_redactSecrets exposed, leads]
  rfl

mutual

/-- The keys in a value, at any depth. -/
def allKeys : Json → List String
  | .array items => allKeysOfItems items
  | .object fields => allKeysOfFields fields
  | .null | .bool _ | .number _ | .string _ => []

def allKeysOfItems : List Json → List String
  | [] => []
  | item :: rest => allKeys item ++ allKeysOfItems rest

def allKeysOfFields : List (String × Json) → List String
  | [] => []
  | (key, value) :: rest => key :: allKeys value ++ allKeysOfFields rest

end

/-- A key below a sensitive key is lost with the value. -/
theorem redactSecrets_loses_keys :
    ¬ ∀ value, allKeys (redactSecrets value) = allKeys value := by
  intro keeps
  have lost := congrArg List.length (keeps (.object [("token", .object [("a", .null)])]))
  have sensitive : isSensitive "token" = true := by decide
  simp [redactSecrets, redactFields, sensitive, mask, allKeys, allKeysOfFields] at lost

end TriAI.Observability
