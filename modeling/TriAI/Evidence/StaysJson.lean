import TriAI.Evidence.Unreadable
import TriAI.Library.JsonText

/-!
Contract: evidence records as JSON data (`evidence/types.rs`), and when an evidence line is
still the data of its record.

Owns: `Record`, what a struct or a map is serialized to; `PromptRun` and `Outcome` with
their fields in order; the property of a line, of any record; that it holds exactly if no
pattern is in a key of the record, every text is closed, and no value gets a secret word by
escaping; and that it holds of no `PromptRun` and no `Outcome`.

Does not own: what a line shows of a secret, and the other record types, none of which has a
key with a secret word. A UUID and a time are held as the text that is written for them, and a
double as its digits, or as nothing if it is not finite.
-/

set_option autoImplicit false

namespace TriAI.Evidence

open TriAI.Library TriAI.Library.JsonText

/-! ## Records -/

/-- What a struct or a map is serialized to: fields with different keys. -/
structure Record where
  fields : List (Text × Value)
  distinct : (fields.map Prod.fst).Nodup

/-- The JSON data of a record. -/
def Record.value (record : Record) : Value := .object record.fields

def Record.keys (record : Record) : List Text := record.fields.map Prod.fst

/-- A `u32` field. -/
def u32 (value : UInt32) : Value := .number (Literal.ofNat value.toNat)

/-- An `f64` field. -/
def f64 (digits : Option Literal) : Value := digits.elim .null .number

inductive ContextQuality where
  | repositoryGrounded
  | fileLocal
  | global
  | empty

def ContextQuality.name : ContextQuality → Text
  | .repositoryGrounded =>
      ['r', 'e', 'p', 'o', 's', 'i', 't', 'o', 'r', 'y', '_', 'g', 'r',
        'o', 'u', 'n', 'd', 'e', 'd']
  | .fileLocal => ['f', 'i', 'l', 'e', '_', 'l', 'o', 'c', 'a', 'l']
  | .global => ['g', 'l', 'o', 'b', 'a', 'l']
  | .empty => ['e', 'm', 'p', 't', 'y']

inductive QualityLevel where
  | high
  | medium
  | low
  | draft

def QualityLevel.name : QualityLevel → Text
  | .high => ['h', 'i', 'g', 'h']
  | .medium => ['m', 'e', 'd', 'i', 'u', 'm']
  | .low => ['l', 'o', 'w']
  | .draft => ['d', 'r', 'a', 'f', 't']

/-- A single inference run. -/
structure PromptRun where
  runId : Text
  timestamp : Text
  promptHmac : Text
  modelId : Text
  modelDigest : Text
  knowledgeArea : Text
  taskType : Text
  tools : List Text
  contextQuality : ContextQuality
  contextTokens : UInt32
  requestedQuality : QualityLevel
  latencyBudgetMs : UInt32

def PromptRun.record (run : PromptRun) : Record where
  fields :=
    [(['r', 'u', 'n', '_', 'i', 'd'], .string run.runId),
      (['t', 'i', 'm', 'e', 's', 't', 'a', 'm', 'p'], .string run.timestamp),
      (['p', 'r', 'o', 'm', 'p', 't', '_', 'h', 'm', 'a', 'c'], .string run.promptHmac),
      (['m', 'o', 'd', 'e', 'l', '_', 'i', 'd'], .string run.modelId),
      (['m', 'o', 'd', 'e', 'l', '_', 'd', 'i', 'g', 'e', 's', 't'], .string run.modelDigest),
      (['k', 'n', 'o', 'w', 'l', 'e', 'd', 'g', 'e', '_', 'a', 'r', 'e',
        'a'], .string run.knowledgeArea),
      (['t', 'a', 's', 'k', '_', 't', 'y', 'p', 'e'], .string run.taskType),
      (['t', 'o', 'o', 'l', 's'], .array (run.tools.map .string)),
      (['c', 'o', 'n', 't', 'e', 'x', 't', '_', 'q', 'u', 'a', 'l', 'i', 't',
        'y'], .string run.contextQuality.name),
      (['c', 'o', 'n', 't', 'e', 'x', 't', '_', 't', 'o', 'k', 'e', 'n',
        's'], u32 run.contextTokens),
      (['r', 'e', 'q', 'u', 'e', 's', 't', 'e', 'd', '_', 'q', 'u', 'a', 'l', 'i', 't',
        'y'], .string run.requestedQuality.name),
      (['l', 'a', 't', 'e', 'n', 'c', 'y', '_', 'b', 'u', 'd', 'g', 'e', 't', '_', 'm',
        's'], u32 run.latencyBudgetMs)]
  distinct := by simp

/-- Final metrics of a completed inference run. -/
structure Outcome where
  runId : Text
  timestamp : Text
  tokensIn : UInt32
  tokensOut : UInt32
  tokensPerSecond : Option Literal
  firstTokenMs : UInt32
  p95LatencyMs : UInt32
  toolCalls : UInt32
  retryCount : UInt32
  qualityScore : Option Literal
  userCorrection : Bool
  errorCode : Option Text

def Outcome.record (outcome : Outcome) : Record where
  fields :=
    [(['r', 'u', 'n', '_', 'i', 'd'], .string outcome.runId),
      (['t', 'i', 'm', 'e', 's', 't', 'a', 'm', 'p'], .string outcome.timestamp),
      (['t', 'o', 'k', 'e', 'n', 's', '_', 'i', 'n'], u32 outcome.tokensIn),
      (['t', 'o', 'k', 'e', 'n', 's', '_', 'o', 'u', 't'], u32 outcome.tokensOut),
      (['t', 'o', 'k', 'e', 'n', 's', '_', 'p', 'e', 'r', '_', 's', 'e', 'c', 'o', 'n',
        'd'], f64 outcome.tokensPerSecond),
      (['f', 'i', 'r', 's', 't', '_', 't', 'o', 'k', 'e', 'n', '_', 'm',
        's'], u32 outcome.firstTokenMs),
      (['p', '9', '5', '_', 'l', 'a', 't', 'e', 'n', 'c', 'y', '_', 'm',
        's'], u32 outcome.p95LatencyMs),
      (['t', 'o', 'o', 'l', '_', 'c', 'a', 'l', 'l', 's'], u32 outcome.toolCalls),
      (['r', 'e', 't', 'r', 'y', '_', 'c', 'o', 'u', 'n', 't'], u32 outcome.retryCount),
      (['q', 'u', 'a', 'l', 'i', 't', 'y', '_', 's', 'c', 'o', 'r', 'e'], f64 outcome.qualityScore),
      (['u', 's', 'e', 'r', '_', 'c', 'o', 'r', 'r', 'e', 'c', 't', 'i', 'o',
        'n'], .bool outcome.userCorrection),
      (['e', 'r', 'r', 'o', 'r', '_', 'c', 'o', 'd', 'e'], outcome.errorCode.elim .null .string)]
  distinct := by simp

/-! ## Lines -/

/-- The data a line is read as. -/
def readLine (line : List UInt8) : Option Value :=
  (TextLines.fromUtf8 line).bind fun text => parse text.toList

/-- Fields that give a key one value. -/
def HasField (fields : List (Text × Value)) (key : Text) (value : Value) : Prop :=
  (key, value) ∈ fields ∧ ∀ other, (key, other) ∈ fields → other = value

/-- The line is read as an object with the keys of the record, and a field whose name and
value have no secret word keeps its value. -/
def StaysJson (record : Record) (line : List UInt8) : Prop :=
  ∃ fields, readLine line = some (.object fields) ∧
    (∀ key, key ∈ fields.map Prod.fst ↔ key ∈ record.keys) ∧
    ∀ key value, (key, value) ∈ record.fields → Clean key → value.AllTexts Clean →
      HasField fields key value

/-- What makes the line of a record stay the JSON data of the record. -/
structure Redactable (record : Record) : Prop where
  keys : ∀ key ∈ record.keys, Clean (escape key)
  /-- In every key and string, every secret word is followed by a `,`, `}` or `]`. -/
  texts : record.value.AllTexts ClosedText
  /-- Escaping makes no secret word of a control character. -/
  values : ∀ key value, (key, value) ∈ record.fields → value.AllTexts Clean →
    value.AllTexts fun text => Clean (escape text)

private theorem readLine_lineOf (record : Value) :
    readLine (lineOf record) = parse (redactSecrets (render record)) := by
  rw [readLine, lineOf, TextLines.fromUtf8_utf8Bytes, Option.bind_some, String.toList_ofList,
    parse_append_newline]

/-- The line of an object whose texts are closed. -/
private theorem readLine_closed {fields : List (Text × Value)}
    (closed : (Value.object fields).AllTexts ClosedText) :
    readLine (lineOf (.object fields)) =
      some (.object (Value.mapFields redactText fields)) := by
  rw [readLine_lineOf, redactSecrets_object closed, parse_render]

/-- The keys of an object are the same after redaction only if none of them changes: one
that changes gets a stop. -/
private theorem redactText_keys {keys : List Text}
    (same : ∀ key, key ∈ keys.map redactText ↔ key ∈ keys) :
    ∀ key ∈ keys, redactText key = key := by
  intro key member
  by_contra changed
  have image : keys.toFinset.image redactText = keys.toFinset := by
    ext other
    have isIn := same other
    simpa using isIn
  have injective : Set.InjOn redactText (keys.toFinset : Set Text) := by
    apply Finset.injOn_of_card_image_eq
    rw [image]
  have more : keys.toFinset.sum (fun text => text.countP isStop) <
      keys.toFinset.sum (fun text => (redactText text).countP isStop) := by
    apply Finset.sum_lt_sum
    · intro other _
      cases countP_redactText other with
      | inl unchanged => rw [unchanged]
      | inr grows => exact grows.le
    · refine ⟨key, List.mem_toFinset.mpr member, ?_⟩
      exact (countP_redactText key).resolve_left changed
  have total := Finset.sum_image (f := fun text : Text => text.countP isStop) injective
  rw [image] at total
  omega

/-! ## Main results -/

private theorem clean_of_escape {text : Text} (clean : Clean (escape text)) : Clean text :=
  fun pattern member occurs =>
    clean pattern member (occurs.escape (secretPatterns_regular member))

private theorem mapTexts_redactText {value : Value} :
    value.mapTexts redactText = value ↔ value.AllTexts fun text => Clean (escape text) := by
  rw [Value.mapTexts_eq_self]
  simp only [redactText_eq_self]

private theorem redactable_of_staysJson {record : Record}
    (stays : StaysJson record (lineOf record.value)) : Redactable record := by
  obtain ⟨fields, read, sameKeys, keeps⟩ := stays
  have closed : record.value.AllTexts ClosedText := by
    by_contra isOpen
    rw [readLine_lineOf, parse_redactSecrets_of_open isOpen] at read
    exact absurd read (by simp)
  have isMapped := readLine_closed closed
  rw [show Value.object record.fields = record.value from rfl, read, Option.some.injEq,
    Value.object.injEq, Value.mapFields_eq_map] at isMapped
  have keyList : fields.map Prod.fst = record.keys.map redactText := by
    rw [isMapped, Record.keys, List.map_map, List.map_map]
    rfl
  rw [keyList] at sameKeys
  have unchanged := redactText_keys sameKeys
  refine ⟨fun key member => redactText_eq_self.mp (unchanged key member), closed, ?_⟩
  intro key value member clean
  have keyIn : key ∈ record.keys := List.mem_map_of_mem member
  have kept := keeps key value member
    (clean_of_escape (redactText_eq_self.mp (unchanged key keyIn))) clean
  apply mapTexts_redactText.mp
  apply kept.2
  rw [isMapped, List.mem_map]
  exact ⟨(key, value), member, by rw [unchanged key keyIn]⟩

private theorem staysJson_of_redactable {record : Record} (redactable : Redactable record) :
    StaysJson record (lineOf record.value) := by
  have unchanged : ∀ key ∈ record.keys, redactText key = key :=
    fun key member => redactText_eq_self.mpr (redactable.keys key member)
  refine ⟨_, readLine_closed redactable.texts, ?_, ?_⟩
  · intro key
    rw [Value.mapFields_eq_map, List.map_map, Record.keys]
    have sameKeys : (record.fields.map (Prod.fst ∘ fun field : Text × Value =>
        (redactText field.1, field.2.mapTexts redactText))) = record.fields.map Prod.fst := by
      apply List.map_congr_left
      intro field member
      exact unchanged field.1 (List.mem_map_of_mem member)
    rw [sameKeys]
  · intro key value member _ clean
    have keyIn : key ∈ record.keys := List.mem_map_of_mem member
    have same := mapTexts_redactText.mpr (redactable.values key value member clean)
    rw [Value.mapFields_eq_map]
    constructor
    · rw [List.mem_map]
      exact ⟨(key, value), member, by rw [unchanged key keyIn, same]⟩
    · intro other isOther
      obtain ⟨field, fieldIn, isField⟩ := List.mem_map.mp isOther
      obtain ⟨isKey, isValue⟩ := Prod.mk.inj isField
      rw [unchanged field.1 (List.mem_map_of_mem fieldIn)] at isKey
      have sameField : field = (key, value) :=
        List.inj_on_of_nodup_map record.distinct fieldIn member isKey
      rw [← isValue, sameField, same]

/-- The line of a record is still its JSON data exactly if the record is redactable. -/
theorem staysJson_iff (record : Record) :
    StaysJson record (lineOf record.value) ↔ Redactable record :=
  ⟨redactable_of_staysJson, staysJson_of_redactable⟩

private theorem not_staysJson_of_key {record : Record} {key : Text} (member : key ∈ record.keys)
    (secret : (cutOf (escape key)).isSome = true) :
    ¬ StaysJson record (lineOf record.value) := by
  intro stays
  have clean := (redactable_of_staysJson stays).keys key member
  rw [cutOf_eq_none.mpr clean] at secret
  exact absurd secret (by simp)

/-- The key `context_tokens` has a secret word. -/
theorem PromptRun.not_staysJson (run : PromptRun) :
    ¬ StaysJson run.record (lineOf run.record.value) := by
  have member : ['c', 'o', 'n', 't', 'e', 'x', 't', '_', 't', 'o', 'k', 'e', 'n', 's'] ∈
      run.record.keys := List.mem_of_getElem? (i := 9) rfl
  exact not_staysJson_of_key member (by decide +kernel)

/-- The key `tokens_in` has a secret word. -/
theorem Outcome.not_staysJson (outcome : Outcome) :
    ¬ StaysJson outcome.record (lineOf outcome.record.value) := by
  have member : ['t', 'o', 'k', 'e', 'n', 's', '_', 'i', 'n'] ∈ outcome.record.keys :=
    List.mem_of_getElem? (i := 2) rfl
  exact not_staysJson_of_key member (by decide +kernel)

/-- A run of no model in no context. -/
private def emptyRun : PromptRun :=
  ⟨[], [], [], [], [], [], [], [], .empty, 0, .draft, 0⟩

theorem staysJson_not_emptyRun :
    ¬ ∀ record : Record, StaysJson record (lineOf record.value) :=
  fun claim => emptyRun.not_staysJson (claim emptyRun.record)

end TriAI.Evidence
