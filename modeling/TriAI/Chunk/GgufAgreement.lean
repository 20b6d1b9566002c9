import TriAI.Chunk.GgufRoundTrip
import TriAI.GgufRegistry
import TriAI.Library.ByteDecoder

/-!
Contract: the metadata reader of `gguf_registry.rs` on what the header parser of
`chunk/gguf.rs` accepts.

Owns: the metadata entries of a header with their types, and the theorem that the two
parsers agree exactly if no key is longer than the registry allows.

Does not own: files the header parser rejects.
-/

set_option autoImplicit false

namespace TriAI.Chunk.Gguf

open TriAI.Library.ByteDecoder
open TriAI.Library.FileTree
open TriAI.Library.TextLines

/-- A metadata entry as `parse_header` reads it. -/
structure TypedEntry where
  key : String
  valueType : UInt32
  text : String
deriving DecidableEq, Repr

/-- One round of the metadata loop, with the type of the value. -/
def typedEntry : Reader TypedEntry := do
  let key ← string
  let valueType ← u32
  let text ← value 5 valueType
  pure { key, valueType, text }

/-- What `parse_header` reads up to the tensors. -/
structure HeaderPrefix where
  version : UInt32
  tensorCount : UInt64
  entries : List TypedEntry

/-- `parse_header` up to the tensors. -/
def headerPrefix : Reader HeaderPrefix := do
  let found ← readExact 4
  if found ≠ magic then
    throw (invalid "invalid GGUF magic")
  else do
    let version ← u32
    if ¬ (2 ≤ version ∧ version ≤ 3) then
      throw (invalid "unsupported GGUF version")
    else do
      let tensorCount ← u64
      let metadataKvCount ← u64
      if maxEntries < tensorCount ∨ maxEntries < metadataKvCount then
        throw (invalid "GGUF entry count exceeds limit")
      else do
        let entries ← times typedEntry metadataKvCount.toNat
        pure { version, tensorCount, entries }

/-- The metadata entries of a header. -/
def entriesOf (file : ByteVec) : List TypedEntry :=
  match headerPrefix ⟨file.bytes, 0⟩ with
  | .ok (header, _) => header.entries
  | .error _ => []

/-- The type of the last value under a key, the one `parse_header` keeps. -/
def lastType (key : String) (entries : List TypedEntry) : Option UInt32 :=
  entries.foldl (fun last entry => if entry.key = key then some entry.valueType else last) none

/-- The text `parse_header` keeps under a key comes from a string value. -/
def FromString (file : ByteVec) (key : String) : Prop :=
  lastType key (entriesOf file) = some 8

/-- The longest key `inspect` reads. -/
def keyLimit : Nat := 1024 * 1024

/-- A key that is no longer. -/
def TypedEntry.ShortKey (entry : TypedEntry) : Prop := (utf8Bytes entry.key).length ≤ keyLimit

instance (entry : TypedEntry) : Decidable entry.ShortKey := by
  unfold TypedEntry.ShortKey
  infer_instance

/-! ## What `parse_header` reads -/

private theorem metadataPair_typed :
    Mirrors (fun _ => True) (fun pair entry => pair = (entry.key, entry.text)) metadataPair
      typedEntry := by
  apply Mirrors.of_total
  intro cursor pair after accepted
  obtain ⟨key, afterKey, readKey, accepted⟩ := succeeds_bind.mp accepted
  obtain ⟨valueType, afterType, readType, accepted⟩ := succeeds_bind.mp accepted
  obtain ⟨text, afterText, readText, atEnd⟩ := succeeds_bind.mp accepted
  obtain ⟨rfl, rfl⟩ := succeeds_pure.mp atEnd
  refine ⟨⟨key, valueType, text⟩, ?_, rfl⟩
  exact succeeds_bind.mpr ⟨key, afterKey, readKey, succeeds_bind.mpr ⟨valueType, afterType,
    readType, succeeds_bind.mpr ⟨text, after, readText, succeeds_pure.mpr ⟨rfl, rfl⟩⟩⟩⟩

/-- The texts of typed entries. -/
private theorem pairs_of_forall₂ {pairs : List (String × String)} {entries : List TypedEntry}
    (same : List.Forall₂ (fun pair (entry : TypedEntry) => pair = (entry.key, entry.text)) pairs
      entries) : pairs = entries.map fun entry => (entry.key, entry.text) := by
  induction same with
  | nil => rfl
  | cons head _ inductionHypothesis => rw [head, inductionHypothesis, List.map_cons]

/-- An accepted header begins with an accepted prefix. -/
theorem headerPrefix_of_headerFields {cursor after : Cursor} {metadata : GgufMetadata}
    {tensors : List GgufTensorInfo}
    (accepted : Succeeds headerFields cursor (metadata, tensors) after) :
    ∃ entries middle,
      Succeeds headerPrefix cursor ⟨metadata.version, metadata.tensorCount, entries⟩ middle ∧
        metadata.kv = collect (entries.map fun entry => (entry.key, entry.text)) := by
  obtain ⟨found, afterMagic, readMagic, accepted⟩ := succeeds_bind.mp accepted
  obtain ⟨isMagic, accepted⟩ := succeeds_unless.mp accepted
  obtain ⟨version, afterVersion, readVersion, accepted⟩ := succeeds_bind.mp accepted
  obtain ⟨supported, accepted⟩ := succeeds_unless.mp accepted
  obtain ⟨tensorCount, afterTensorCount, readTensorCount, accepted⟩ := succeeds_bind.mp accepted
  obtain ⟨kvCount, afterKvCount, readKvCount, accepted⟩ := succeeds_bind.mp accepted
  obtain ⟨withinLimits, accepted⟩ := succeeds_unless.mp accepted
  obtain ⟨pairs, afterPairs, readPairs, accepted⟩ := succeeds_bind.mp accepted
  obtain ⟨infos, _, _, atEnd⟩ := succeeds_bind.mp accepted
  obtain ⟨isResult, -⟩ := succeeds_pure.mp atEnd
  obtain ⟨rfl, rfl⟩ := Prod.mk.inj isResult
  obtain ⟨entries, readEntries, same⟩ := (metadataPair_typed.times kvCount.toNat
    afterKvCount pairs afterPairs readPairs).1 fun _ _ => trivial
  refine ⟨entries, afterPairs, ?_, congrArg collect (pairs_of_forall₂ same)⟩
  exact succeeds_bind.mpr ⟨found, afterMagic, readMagic, succeeds_unless.mpr ⟨isMagic,
    succeeds_bind.mpr ⟨version, afterVersion, readVersion, succeeds_unless.mpr ⟨supported,
      succeeds_bind.mpr ⟨tensorCount, afterTensorCount, readTensorCount,
        succeeds_bind.mpr ⟨kvCount, afterKvCount, readKvCount, succeeds_unless.mpr ⟨withinLimits,
          succeeds_bind.mpr ⟨entries, afterPairs, readEntries,
            succeeds_pure.mpr ⟨rfl, rfl⟩⟩⟩⟩⟩⟩⟩⟩⟩

/-! ## Values -/

open GgufRegistry (readFixed readString readPlainValue readMetadataValue metadataEntry
  readMetadata)

/-- A value of `inspect` that stands for the text `parse_header` keeps: string values are the
text, and no other values are strings. -/
def SameValue (valueType : UInt32) (text : String)
    (value : GgufRegistry.MetadataValue) : Prop :=
  if valueType = 8 then value = .string text else ∀ other, value ≠ .string other

private theorem mirrors_u32 :
    Mirrors (fun _ => True) Eq u32 GgufRegistry.readU32 := by
  apply Mirrors.bind_total (Mirrors.take _ _ 4)
  rintro bytes _ rfl
  exact Mirrors.pure trivial rfl

private theorem mirrors_u64 :
    Mirrors (fun _ => True) Eq u64 GgufRegistry.readU64 := by
  apply Mirrors.bind_total (Mirrors.take _ _ 8)
  rintro bytes _ rfl
  exact Mirrors.pure trivial rfl

/-- A `u32` as a wider number. -/
private theorem mirrors_u32_fixed :
    Mirrors (fun _ => True) (fun _ _ => True) u32 (readFixed 4) := by
  apply Mirrors.bind_total (Mirrors.take _ _ 4)
  intro _ _ _
  exact Mirrors.pure trivial trivial

/-- Skipping is reading. -/
private theorem mirrors_discard {count : UInt64} {width : Nat} (same : count.toNat = width) :
    Mirrors (fun _ => True) (fun _ _ => True) (discard count) (readFixed width) := by
  apply Mirrors.of_total
  rintro cursor ⟨⟩ after accepted
  obtain ⟨_, within, _, rfl⟩ := succeeds_discard.mp accepted
  rw [same] at within ⊢
  let chunk := (cursor.bytes.drop cursor.position).take width
  refine ⟨UInt64.ofNat (fromLittleEndian chunk), ?_, trivial⟩
  exact succeeds_bind.mpr ⟨chunk, cursor.advance width, succeeds_take.mpr ⟨within, rfl, rfl⟩,
    succeeds_pure.mpr ⟨rfl, rfl⟩⟩

/-- What an accepted string was. -/
private theorem succeeds_string {cursor after : Cursor} {text : String}
    (accepted : Succeeds string cursor text after) :
    ∃ len afterLen, Succeeds u64 cursor len afterLen ∧ len ≤ maxStringBytes ∧
      Succeeds (readExact len.toNat) afterLen (utf8Bytes text) after ∧
      (utf8Bytes text).length = len.toNat := by
  obtain ⟨len, afterLen, readLen, accepted⟩ := succeeds_bind.mp accepted
  obtain ⟨short, accepted⟩ := succeeds_unless.mp accepted
  obtain ⟨bytes, afterBytes, readBytes, decoded⟩ := succeeds_bind.mp accepted
  obtain ⟨within, isChunk, _⟩ := succeeds_take.mp readBytes
  have isText : Library.TextLines.fromUtf8 bytes = some text ∧ after = afterBytes := by
    unfold Gguf.fromUtf8 at decoded
    split at decoded
    · rename_i found isFound
      obtain ⟨rfl, rfl⟩ := succeeds_pure.mp decoded
      exact ⟨isFound, rfl⟩
    · exact absurd decoded not_succeeds_throw
  obtain ⟨isText, rfl⟩ := isText
  have sameBytes := fromUtf8_eq_some.mp isText
  have bytesLength : bytes.length = len.toNat := by
    rw [isChunk, List.length_take, List.length_drop]
    omega
  rw [← sameBytes]
  exact ⟨len, afterLen, readLen, UInt64.not_lt.mp short, readBytes, bytesLength⟩

/-- A string fits the second reader if it is within its limit. -/
private theorem mirrors_string (limit : UInt64) :
    Mirrors (fun text => (utf8Bytes text).length ≤ limit.toNat) Eq string
      (readString limit) := by
  intro cursor text after accepted
  obtain ⟨len, afterLen, readLen, _, readBytes, length⟩ := succeeds_string accepted
  obtain ⟨_, readOther, rfl⟩ := (mirrors_u64 cursor len afterLen readLen).1 trivial
  simp only [length]
  constructor
  · intro fits
    refine ⟨text, succeeds_bind.mpr ⟨len, afterLen, readOther, ?_⟩, rfl⟩
    apply succeeds_unless.mpr
    refine ⟨UInt64.not_lt.mpr (UInt64.le_iff_toNat_le.mpr fits), ?_⟩
    refine succeeds_bind.mpr ⟨utf8Bytes text, after,
      succeeds_take.mpr (succeeds_take.mp readBytes), ?_⟩
    unfold GgufRegistry.decodeString
    rw [fromUtf8_utf8Bytes]
    exact succeeds_pure.mpr ⟨rfl, rfl⟩
  · intro tooLong other last otherAccepted
    obtain ⟨len', afterLen', readLen', otherAccepted⟩ := succeeds_bind.mp otherAccepted
    have same := readOther.symm.trans readLen'
    obtain ⟨rfl, rfl⟩ := Prod.mk.inj (Except.ok.inj same)
    obtain ⟨passes, -⟩ := succeeds_unless.mp otherAccepted
    exact tooLong (UInt64.le_iff_toNat_le.mp (UInt64.not_lt.mp passes))

/-- A string value is within the limit of both parsers. -/
private theorem mirrors_stringValue :
    Mirrors (fun _ => True) Eq string (readString (16 * 1024 * 1024)) := by
  apply Mirrors.of_total
  intro cursor text after accepted
  obtain ⟨len, _, _, short, _, length⟩ := succeeds_string accepted
  apply (mirrors_string (16 * 1024 * 1024) cursor text after accepted).1
  rw [length]
  exact UInt64.le_iff_toNat_le.mp short

/-- A value that is skipped, and one that is read and is no string. -/
private theorem mirrors_marker {valueType : UInt32} {count : UInt64} {width : Nat}
    {marker : String} {wrap : UInt64 → GgufRegistry.MetadataValue} (notString : valueType ≠ 8)
    (same : count.toNat = width) (plain : ∀ word text, wrap word ≠ .string text) :
    Mirrors (fun _ => True) (SameValue valueType)
      (do discard count; pure marker : Reader String)
      (do let word ← readFixed width; pure (wrap word)) := by
  apply Mirrors.bind_total (mirrors_discard same)
  intro _ word _
  apply Mirrors.pure trivial
  unfold SameValue
  rw [if_neg notString]
  exact plain word

/-- A number that is kept as a text, and one that is read. -/
private theorem mirrors_number {valueType : UInt32} {ω : Type} {first : Reader ω}
    {second : GgufRegistry.Reader UInt64} {text : ω → String} (notString : valueType ≠ 8)
    (mirrors : Mirrors (fun _ => True) (fun _ _ => True) first second) :
    Mirrors (fun _ => True) (SameValue valueType)
      (do let word ← first; pure (text word) : Reader String)
      (do let word ← second; pure (.unsigned word)) := by
  apply Mirrors.bind_total mirrors
  intro _ word _
  apply Mirrors.pure trivial
  unfold SameValue
  rw [if_neg notString]
  simp

/-- The value of any type but an array. -/
private theorem mirrors_plainValue (levels : Nat) {valueType : UInt32} (notArray : valueType ≠ 9) :
    Mirrors (fun _ => True) (SameValue valueType) (value (levels + 1) valueType)
      (readPlainValue valueType) := by
  have code : ∀ number : UInt32, valueType.toNat = number.toNat → valueType = number :=
    fun number same => UInt32.toNat_inj.mp same
  have isString : ∀ number : UInt32, valueType.toNat = number.toNat → number ≠ 8 →
      valueType ≠ 8 := by
    intro number same different
    rwa [code number same]
  unfold value readPlainValue
  split
  case h_1 isCode =>
    rw [isCode]
    exact mirrors_marker (isString 0 isCode (by decide)) rfl (by simp)
  case h_2 isCode =>
    rw [isCode]
    exact mirrors_marker (isString 1 isCode (by decide)) rfl (by simp)
  case h_3 isCode =>
    rw [isCode]
    exact mirrors_marker (isString 2 isCode (by decide)) rfl (by simp)
  case h_4 isCode =>
    rw [isCode]
    exact mirrors_marker (isString 3 isCode (by decide)) rfl (by simp)
  case h_5 isCode =>
    rw [isCode]
    exact mirrors_number (isString 4 isCode (by decide)) mirrors_u32_fixed
  case h_6 isCode =>
    rw [isCode]
    exact mirrors_marker (isString 5 isCode (by decide)) rfl (by simp)
  case h_7 isCode =>
    rw [isCode]
    exact mirrors_marker (isString 6 isCode (by decide)) rfl (by simp)
  case h_8 isCode =>
    rw [isCode]
    exact mirrors_marker (isString 7 isCode (by decide)) rfl (by simp)
  case h_9 isCode =>
    rw [isCode, ← bind_pure string]
    apply Mirrors.bind_total mirrors_stringValue
    rintro text _ rfl
    apply Mirrors.pure trivial
    unfold SameValue
    rw [if_pos (code 8 isCode)]
  case h_10 isCode => exact absurd (code 9 isCode) notArray
  case h_11 isCode =>
    rw [isCode]
    exact mirrors_number (isString 10 isCode (by decide))
      (mirrors_u64.mono fun _ _ _ => trivial)
  case h_12 isCode =>
    rw [isCode]
    exact mirrors_marker (isString 11 isCode (by decide)) rfl (by simp)
  case h_13 isCode =>
    rw [isCode]
    exact mirrors_marker (isString 12 isCode (by decide)) rfl (by simp)
  case h_14 =>
    intro cursor text after accepted
    exact absurd accepted not_succeeds_throw

/-- The value of any type. -/
private theorem mirrors_value (valueType : UInt32) :
    Mirrors (fun _ => True) (SameValue valueType) (value 5 valueType)
      (readMetadataValue valueType) := by
  unfold readMetadataValue
  by_cases isArray : valueType = 9
  · rw [if_pos isArray, isArray]
    unfold value
    apply Mirrors.bind_total mirrors_u32
    rintro elementType _ rfl
    apply Mirrors.bind_total mirrors_u64
    rintro count _ rfl
    by_cases nested : elementType = 9
    · intro cursor text after accepted
      obtain ⟨passes, -⟩ := succeeds_unless.mp accepted
      exact absurd (.inr nested) passes
    · apply Mirrors.guarded id
      apply Mirrors.bind_total
      · apply ((mirrors_plainValue 3 nested).times count.toNat).total
        exact fun _ _ _ _ _ _ => trivial
      · intro _ _ _
        apply Mirrors.pure trivial
        unfold SameValue
        rw [if_neg (by decide)]
        simp
  · rw [if_neg isArray]
    exact mirrors_plainValue 4 isArray

/-! ## Entries -/

/-- The entry `inspect` reads for a typed entry. -/
structure SameEntry (entry : TypedEntry) (other : String × GgufRegistry.MetadataValue) : Prop where
  key : other.1 = entry.key
  value : SameValue entry.valueType entry.text other.2

private theorem mirrors_entry :
    Mirrors TypedEntry.ShortKey SameEntry typedEntry metadataEntry := by
  apply Mirrors.bind (mirrors_string (1024 * 1024))
  · rintro key _ short rfl
    apply Mirrors.bind_total mirrors_u32
    rintro valueType _ rfl
    apply Mirrors.bind_total (mirrors_value valueType)
    intro text value same
    exact Mirrors.pure short ⟨rfl, same⟩
  · intro key tooLong cursor entry after accepted
    obtain ⟨valueType, _, _, accepted⟩ := succeeds_bind.mp accepted
    obtain ⟨text, _, _, atEnd⟩ := succeeds_bind.mp accepted
    obtain ⟨rfl, -⟩ := succeeds_pure.mp atEnd
    exact tooLong

/-- The metadata before the first entry. -/
def emptyMetadata (version : UInt32) (tensorCount : UInt64) : GgufRegistry.GgufMetadata where
  version := version
  tensorCount := tensorCount
  architecture := none
  name := none
  quantization := none
  contextLength := none
  parameterCount := none
  layers := none

/-- What `inspect` returns for a header. -/
def SameHeader (header : HeaderPrefix) (metadata : GgufRegistry.GgufMetadata) : Prop :=
  ∃ entries, List.Forall₂ SameEntry header.entries entries ∧
    metadata = entries.foldl (fun metadata entry => metadata.record entry.1 entry.2)
      (emptyMetadata header.version header.tensorCount)

/-- `inspect` on an accepted header. -/
theorem mirrors_readMetadata :
    Mirrors (fun header => ∀ entry ∈ header.entries, entry.ShortKey) SameHeader headerPrefix
      readMetadata := by
  apply Mirrors.bind_total (Mirrors.take _ _ 4)
  rintro found _ rfl
  apply Mirrors.guarded id
  apply Mirrors.bind_total mirrors_u32
  rintro version _ rfl
  apply Mirrors.guarded id
  apply Mirrors.bind_total mirrors_u64
  rintro tensorCount _ rfl
  apply Mirrors.bind_total mirrors_u64
  rintro kvCount _ rfl
  apply Mirrors.guarded .inr
  apply Mirrors.bind (mirrors_entry.times kvCount.toNat)
  · intro entries others short same
    exact Mirrors.pure short ⟨others, same, rfl⟩
  · intro entries tooLong cursor header after accepted
    obtain ⟨rfl, -⟩ := succeeds_pure.mp accepted
    exact tooLong

/-! ## Names -/

/-- An entry under another key leaves the name alone. -/
private theorem record_name_other {metadata : GgufRegistry.GgufMetadata} {key : String}
    (other : key ≠ "general.name") (value : GgufRegistry.MetadataValue) :
    (metadata.record key value).name = metadata.name := by
  unfold GgufRegistry.GgufMetadata.record
  split
  · repeat' split
    all_goals rfl
  · repeat' split
    all_goals rfl
  · rfl

/-- A string under the key is the name. -/
private theorem record_name_string {metadata : GgufRegistry.GgufMetadata} (text : String) :
    (metadata.record "general.name" (.string text)).name = some text := by
  simp [GgufRegistry.GgufMetadata.record]

/-- What entries set of the version and the tensor count: nothing. -/
private theorem record_counts (metadata : GgufRegistry.GgufMetadata) (key : String)
    (value : GgufRegistry.MetadataValue) :
    (metadata.record key value).version = metadata.version ∧
      (metadata.record key value).tensorCount = metadata.tensorCount := by
  unfold GgufRegistry.GgufMetadata.record
  repeat' split
  all_goals exact ⟨rfl, rfl⟩

/-- Over the metadata loop: version and tensor count stay, and where the last value under
`general.name` is a string both parsers have it. -/
private theorem fold_agrees {entries : List TypedEntry}
    {others : List (String × GgufRegistry.MetadataValue)}
    (same : List.Forall₂ SameEntry entries others) (metadata : GgufRegistry.GgufMetadata)
    (kv : KeyValues) (last : Option UInt32)
    (before : last = some 8 → metadata.name = kv.lookup "general.name") :
    let result := others.foldl (fun metadata entry => metadata.record entry.1 entry.2) metadata
    result.version = metadata.version ∧ result.tensorCount = metadata.tensorCount ∧
      (entries.foldl (fun last entry =>
          if entry.key = "general.name" then some entry.valueType else last) last = some 8 →
        result.name = ((entries.map fun entry => (entry.key, entry.text)).foldl
          (fun kv pair => kv.insert pair.1 pair.2) kv).lookup "general.name") := by
  induction same generalizing metadata kv last with
  | nil => exact ⟨rfl, rfl, before⟩
  | @cons entry other entries others head _ inductionHypothesis =>
      obtain ⟨key, value⟩ := other
      obtain rfl : key = entry.key := head.key
      obtain ⟨sameVersion, sameCount⟩ := record_counts metadata entry.key value
      have step : (if entry.key = "general.name" then some entry.valueType else last) = some 8 →
          (metadata.record entry.key value).name =
            (kv.insert entry.key entry.text).lookup "general.name" := by
        by_cases isName : entry.key = "general.name"
        · rw [if_pos isName, isName, AList.lookup_insert]
          intro isString
          have isText := head.value
          rw [SameValue, if_pos (Option.some.inj isString)] at isText
          rw [show value = .string entry.text from isText]
          exact record_name_string entry.text
        · rw [if_neg isName, AList.lookup_insert_ne (Ne.symm isName)]
          intro isString
          rw [record_name_other isName]
          exact before isString
      obtain ⟨version, count, name⟩ := inductionHypothesis (metadata.record entry.key value)
        (kv.insert entry.key entry.text) _ step
      exact ⟨version.trans sameVersion, count.trans sameCount, name⟩

/-! ## Agreement -/

/-- An accepted file has an accepted prefix. -/
theorem headerPrefix_of_parseHeader {file : ByteVec} {header : ParsedHeader}
    (accepted : parseHeader file = .ok header) :
    ∃ middle, Succeeds headerPrefix ⟨file.bytes, 0⟩
        ⟨header.metadata.version, header.metadata.tensorCount, entriesOf file⟩ middle ∧
      header.metadata.kv =
        collect ((entriesOf file).map fun entry => (entry.key, entry.text)) := by
  unfold parseHeader at accepted
  split at accepted
  · cases accepted
  · rename_i metadata tensors cursor readFields
    obtain ⟨start, _, _, _, rfl⟩ := locateTensors_ok_iff.mp accepted
    obtain ⟨entries, middle, readPrefix, kv⟩ := headerPrefix_of_headerFields readFields
    have isEntries : entriesOf file = entries := by
      unfold entriesOf
      rw [show headerPrefix ⟨file.bytes, 0⟩ = _ from readPrefix]
    rw [isEntries]
    exact ⟨middle, readPrefix, kv⟩

/-- What `inspect` returns is what its reader reads. -/
private theorem inspect_eq_ok {file : ByteVec} {metadata : GgufRegistry.GgufMetadata} :
    GgufRegistry.inspect file = .ok metadata ↔
      ∃ last, Succeeds readMetadata ⟨file.bytes, 0⟩ metadata last := by
  unfold GgufRegistry.inspect Succeeds
  cases read : readMetadata ⟨file.bytes, 0⟩ with
  | error error => simp [Except.map]
  | ok pair =>
      obtain ⟨found, last⟩ := pair
      simp [Except.map]

/-- The registry accepts such a file if and only if its keys are short. -/
private theorem accepts_iff {file : ByteVec} {header : ParsedHeader}
    (accepted : parseHeader file = .ok header) :
    GgufRegistry.Accepts file ↔ ∀ entry ∈ entriesOf file, entry.ShortKey := by
  obtain ⟨middle, readPrefix, _⟩ := headerPrefix_of_parseHeader accepted
  obtain ⟨accepts, rejects⟩ := mirrors_readMetadata _ _ _ readPrefix
  constructor
  · rintro ⟨metadata, inspected⟩
    obtain ⟨last, read⟩ := inspect_eq_ok.mp inspected
    by_contra tooLong
    exact rejects tooLong metadata last read
  · intro short
    obtain ⟨metadata, read, _⟩ := accepts short
    exact ⟨metadata, inspect_eq_ok.mpr ⟨middle, read⟩⟩

/-- A file the header parser accepts is accepted by the registry if and only if no key is
longer than the registry allows; then both report the same version and tensor count, and
the same name where the name comes from a string value. -/
theorem inspect_of_parseHeader {file : ByteVec} {header : ParsedHeader}
    (accepted : parseHeader file = .ok header) :
    (GgufRegistry.Accepts file ↔ ∀ entry ∈ entriesOf file, entry.ShortKey) ∧
      ∀ metadata, GgufRegistry.inspect file = .ok metadata →
        metadata.version = header.metadata.version ∧
          metadata.tensorCount = header.metadata.tensorCount ∧
          (FromString file "general.name" →
            metadata.name = header.metadata.kv.lookup "general.name") := by
  refine ⟨accepts_iff accepted, ?_⟩
  intro metadata inspected
  obtain ⟨middle, readPrefix, kv⟩ := headerPrefix_of_parseHeader accepted
  obtain ⟨last, read⟩ := inspect_eq_ok.mp inspected
  have short := (accepts_iff accepted).mp ⟨metadata, inspected⟩
  obtain ⟨other, readOther, entries, same, isOther⟩ :=
    (mirrors_readMetadata _ _ _ readPrefix).1 short
  have isMetadata := readOther.symm.trans read
  obtain ⟨rfl, -⟩ := Prod.mk.inj (Except.ok.inj isMetadata)
  obtain ⟨version, count, name⟩ := fold_agrees same
    (emptyMetadata header.metadata.version header.metadata.tensorCount) ∅ none (by simp)
  rw [isOther]
  refine ⟨version, count, fun isString => ?_⟩
  rw [kv]
  exact name isString

/-! ## Two documents -/

namespace Document

/-- The named document is accepted by both parsers, under its name. -/
theorem inspect_of_parseHeader_named :
    GgufRegistry.Accepts (namedDocument.file namedDocument_withinLimits) := by
  obtain ⟨header, accepted, _⟩ :=
    givesBack_of_roundUp_eq namedDocument_withinLimits (by decide +kernel)
  exact (inspect_of_parseHeader accepted).1.mpr (by decide +kernel)

/-- A text of many letters. -/
def longText : Nat → String
  | 0 => ""
  | count + 1 => longText count ++ "a"

theorem length_longText (count : Nat) : (utf8Bytes (longText count)).length = count := by
  induction count with
  | zero => rfl
  | succ count inductionHypothesis =>
      rw [longText, utf8Bytes_append, List.length_append, inductionHypothesis]
      rfl

/-- One entry under a key. -/
def keyDocument (key : String) : Document where
  version := 3
  metadata := [(key, .scalar .bool true)]
  tensors := []
  data := []

variable {key : String} (long : (utf8Bytes key).length = keyLimit + 1)

include long

/-- A key one byte longer than the registry allows is not the alignment. -/
private theorem keyDocument_alignment :
    (keyDocument key).metadata.lookup "general.alignment" = none := by
  have different : ("general.alignment" == key) = false := by
    rw [beq_eq_false_iff_ne]
    rintro rfl
    revert long
    decide +kernel
  simp [keyDocument, List.lookup, different]

private theorem keyDocument_declaredAlignment : (keyDocument key).declaredAlignment = 32 := by
  unfold declaredAlignment
  rw [keyDocument_alignment long]

private theorem keyDocument_encodeHeader :
    (keyDocument key).encodeHeader.length = 24 + (8 + (keyLimit + 1) + 4 + 1) := by
  have keyLength : (utf8 key).length = keyLimit + 1 := long
  simp [encodeHeader, keyDocument, encodePair, encodeString, encodeU32, encodeCount,
    encodeValue, encodeScalar, keyLength, magic]
  omega

private theorem keyDocument_withinLimits : (keyDocument key).WithinLimits where
  version := .inr rfl
  tensorCount := Nat.zero_le _
  metadataCount := by
    show 1 ≤ maxEntries.toNat
    decide
  distinctKeys := by simp [keyDocument]
  metadata := by
    simp only [keyDocument, List.mem_singleton]
    rintro pair rfl
    refine ⟨?_, trivial⟩
    show (utf8Bytes key).length ≤ maxStringBytes.toNat
    rw [long]
    decide
  tensors := by simp [keyDocument]
  increasing := by simp [keyDocument]
  offsets := by simp [keyDocument]
  alignment := by
    intro found declared
    rw [keyDocument_alignment long] at declared
    cases declared
  fits := by
    have header := keyDocument_encodeHeader long
    have start : (keyDocument key).dataSectionStart ≤ (keyDocument key).encodeHeader.length + 31 := by
      unfold dataSectionStart roundUp
      rw [keyDocument_declaredAlignment long]
      omega
    have limit : keyLimit = 1024 * 1024 := rfl
    have data : (keyDocument key).data.length = 0 := rfl
    unfold encode
    rw [List.length_append, List.length_append, List.length_replicate]
    omega

omit long

/-- The header parser accepts the key and the registry does not. -/
theorem inspect_not_of_parseHeader_longKey :
    ∃ file header, parseHeader file = .ok header ∧ ¬ GgufRegistry.Accepts file := by
  obtain ⟨key, long⟩ : ∃ key, (utf8Bytes key).length = keyLimit + 1 :=
    ⟨longText (keyLimit + 1), length_longText (keyLimit + 1)⟩
  have sameStart : roundUp (keyDocument key).encodeHeader.length
      (keyDocument key).declaredAlignment =
        roundUp (keyDocument key).encodeHeader.length 32 := by
    rw [keyDocument_declaredAlignment long]
  obtain ⟨header, accepted, givesBack⟩ :=
    givesBack_of_roundUp_eq (keyDocument_withinLimits long) sameStart
  refine ⟨_, header, accepted, fun accepts => ?_⟩
  have short := (accepts_iff accepted).mp accepts
  obtain ⟨_, _, kv⟩ := headerPrefix_of_parseHeader accepted
  have isKept := givesBack.metadata _ (List.mem_singleton.mpr rfl)
  have isRead : key ∈ ((entriesOf ((keyDocument key).file (keyDocument_withinLimits long))).map
      fun entry => (entry.key, entry.text)).map Prod.fst := by
    by_contra absent
    rw [kv, collect, lookup_foldl_of_notMem absent, AList.lookup_empty] at isKept
    cases isKept
  rw [List.map_map, List.mem_map] at isRead
  obtain ⟨entry, member, isKey⟩ := isRead
  have isShort : (utf8Bytes entry.key).length ≤ keyLimit := short entry member
  rw [show entry.key = key from isKey, long] at isShort
  omega

end Document

end TriAI.Chunk.Gguf
