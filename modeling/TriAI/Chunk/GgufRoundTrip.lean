import TriAI.Chunk.GgufFormat

/-!
Contract: `parseHeader` undoes `Document.encode` up to the alignment.

Owns: one decoding lemma for each reader of the parser, the decoding of whole
headers, and the exact condition under which a document is given back.

Does not own: the encoding and the limits (`Chunk.GgufFormat`).
-/

set_option autoImplicit false

namespace TriAI.Chunk.Gguf

open TriAI.Library.ByteDecoder
open TriAI.Library.FileTree
open TriAI.Library.MachineInt
open TriAI.Library.Tiling

/-- Cursors over the bytes of a file. -/
private abbrev fileLimit : Nat := 2 ^ 63

/-! ## Readers -/

theorem readExact_decodes {chunk : List UInt8} {count : Nat} (exact : chunk.length = count) :
    Decodes fileLimit (readExact count) chunk chunk := by
  subst exact
  exact Decodes.take _ chunk

theorem u32_decodes (word : UInt32) : Decodes fileLimit u32 (encodeU32 word) word := by
  have decoded : Decodes fileLimit u32 (encodeU32 word)
      (UInt32.ofNat (fromLittleEndian (encodeU32 word))) :=
    (readExact_decodes (littleEndian_length 4 _)).bind_pure
  have wordLt := word.toNat_lt
  rwa [encodeU32, fromLittleEndian_littleEndian (by omega), UInt32.ofNat_toNat] at decoded

theorem encodeCount_decodes {count : Nat} (fits : count < 2 ^ 64) :
    Decodes fileLimit u64 (encodeCount count) (UInt64.ofNat count) := by
  have decoded : Decodes fileLimit u64 (encodeCount count)
      (UInt64.ofNat (fromLittleEndian (encodeCount count))) :=
    (readExact_decodes (littleEndian_length 8 _)).bind_pure
  rwa [encodeCount, fromLittleEndian_littleEndian (by omega)] at decoded

theorem u64_decodes (word : UInt64) : Decodes fileLimit u64 (encodeU64 word) word := by
  have decoded := encodeCount_decodes word.toNat_lt
  rwa [UInt64.ofNat_toNat] at decoded

theorem toNat_count {count : Nat} (fits : count < 2 ^ 64) :
    (UInt64.ofNat count).toNat = count := by
  rw [UInt64.toNat_ofNat', Nat.mod_eq_of_lt fits]

theorem fromUtf8_decodes (text : String) :
    Decodes fileLimit (fromUtf8 (utf8 text)) [] text := by
  have valid : String.fromUTF8? ⟨(utf8 text).toArray⟩ = some text := by
    simp [utf8, String.fromUTF8?, String.fromUTF8, text.isValidUTF8]
  unfold fromUtf8
  rw [valid]
  exact Decodes.pure text

theorem string_decodes {text : String} (short : ShortText text) :
    Decodes fileLimit string (encodeString text) text := by
  have shortNat : (utf8 text).length ≤ 16777216 := short
  have lengthFits : (utf8 text).length < 2 ^ 64 := by omega
  refine (encodeCount_decodes lengthFits).bind (Decodes.unless ?_ ?_)
  · rw [UInt64.lt_iff_toNat_lt, toNat_count lengthFits, Nat.not_lt]
    exact short
  · rw [toNat_count lengthFits, ← List.append_nil (utf8 text)]
    have bytesDecode : Decodes fileLimit (readExact (utf8 text).length) (utf8 text)
        (utf8 text) := readExact_decodes rfl
    have textDecodes := bytesDecode.bind (fromUtf8_decodes text)
    rwa [List.append_nil] at textDecodes ⊢

/-- Skipping consumes whatever stands there. -/
theorem discard_decodes {chunk : List UInt8} {count : UInt64}
    (exact : chunk.length = count.toNat) : Decodes fileLimit (discard count) chunk () := by
  intro cursor rest short faces
  have total := faces.length
  rw [List.length_append] at total
  unfold fileLimit at short
  exact succeeds_discard.mpr ⟨by omega, by omega, by omega, by rw [exact]⟩

private theorem marker_decodes {chunk : List UInt8} {count : UInt64} (marker : String)
    (exact : chunk.length = count.toNat) :
    Decodes fileLimit (do discard count; pure marker : Reader String) chunk marker :=
  (discard_decodes exact).bind_pure

/-! ## Values -/

theorem scalar_decodes (levels : Nat) (type : ScalarType) (payload : type.Payload)
    (short : type.ShortPayload payload) :
    Decodes fileLimit (value (levels + 1) type.code) (encodeScalar type payload)
      (scalarText type payload) := by
  cases type with
  | uint32 => exact (u32_decodes payload).bind_pure
  | string => exact string_decodes short
  | uint64 => exact (u64_decodes payload).bind_pure
  | uint8 => exact marker_decodes "uint8" (littleEndian_length 1 _)
  | int8 => exact marker_decodes "int8" (littleEndian_length 1 _)
  | uint16 => exact marker_decodes "uint16" (littleEndian_length 2 _)
  | int16 => exact marker_decodes "int16" (littleEndian_length 2 _)
  | int32 => exact marker_decodes "int32" (littleEndian_length 4 _)
  | float32 => exact marker_decodes "float32" (littleEndian_length 4 _)
  | bool => exact marker_decodes "bool" (littleEndian_length 1 _)
  | int64 => exact marker_decodes "scalar64" (littleEndian_length 8 _)
  | float64 => exact marker_decodes "scalar64" (littleEndian_length 8 _)

theorem ScalarType.code_ne_array (type : ScalarType) : type.code ≠ 9 := by
  cases type <;> decide

theorem array_decodes (levels : Nat) (elementType : ScalarType)
    (elements : List elementType.Payload)
    (limits : (MetadataValue.array elementType elements).WithinLimits) :
    Decodes fileLimit (value (levels + 2) 9)
      (encodeValue (.array elementType elements))
      (MetadataValue.array elementType elements).text := by
  obtain ⟨countWithin, shorts⟩ := limits
  have countLe : elements.length ≤ 1000000 := countWithin
  have countFits : elements.length < 2 ^ 64 := by omega
  refine (u32_decodes elementType.code).bind ?_
  refine (encodeCount_decodes countFits).bind (Decodes.unless ?_ ?_)
  · rw [not_or]
    refine ⟨?_, elementType.code_ne_array⟩
    rw [UInt64.lt_iff_toNat_lt, toNat_count countFits, Nat.not_lt]
    exact countWithin
  · rw [toNat_count countFits]
    exact (Decodes.times elements fun payload member =>
      scalar_decodes levels elementType payload (shorts payload member)).bind_pure

theorem value_decodes (levels : Nat) (metadataValue : MetadataValue)
    (limits : metadataValue.WithinLimits) :
    Decodes fileLimit (value (levels + 2) metadataValue.typeCode)
      (encodeValue metadataValue) metadataValue.text := by
  cases metadataValue with
  | scalar type payload => exact scalar_decodes (levels + 1) type payload limits
  | array elementType elements => exact array_decodes levels elementType elements limits

/-! ## Records -/

theorem metadataPair_decodes (pair : String × MetadataValue)
    (keyShort : ShortText pair.1) (limits : pair.2.WithinLimits) :
    Decodes fileLimit metadataPair (encodePair pair) (pair.1, pair.2.text) :=
  (string_decodes keyShort).bind <| (u32_decodes pair.2.typeCode).bind
    (value_decodes 3 pair.2 limits).bind_pure

theorem tensorInfo_decodes (tensor : TensorRecord) (nameShort : ShortText tensor.name)
    (dimsWithin : tensor.dims.length ≤ maxDims.toNat) :
    Decodes fileLimit tensorInfo (encodeTensor tensor) tensor.info := by
  have dimsLe : tensor.dims.length ≤ 8 := dimsWithin
  have dimsNat : (UInt32.ofNat tensor.dims.length).toNat = tensor.dims.length := by
    rw [UInt32.toNat_ofNat']
    omega
  refine (string_decodes nameShort).bind <| (u32_decodes _).bind (Decodes.unless ?_ ?_)
  · rw [UInt32.lt_iff_toNat_lt, dimsNat, Nat.not_lt]
    exact dimsWithin
  · rw [dimsNat]
    have dimsDecode : Decodes fileLimit (times u64 tensor.dims.length)
        (tensor.dims.flatMap encodeU64) tensor.dims := by
      have decoded : Decodes fileLimit (times u64 tensor.dims.length)
          (tensor.dims.flatMap encodeU64) (tensor.dims.map id) :=
        Decodes.times tensor.dims fun dim _ => u64_decodes dim
      rwa [List.map_id] at decoded
    exact dimsDecode.bind <| (u32_decodes tensor.dtype).bind
      (u64_decodes tensor.offset).bind_pure

/-! ## Headers -/

namespace Document

variable {document : Document}

/-- The metadata that the header fields of an encoded document decode to. -/
def parsedMetadata (document : Document) : GgufMetadata where
  version := document.version
  tensorCount := UInt64.ofNat document.tensors.length
  metadataKvCount := UInt64.ofNat document.metadata.length
  kv := collect (document.metadata.map fun pair => (pair.1, pair.2.text))

theorem headerFields_decodes (limits : document.WithinLimits) :
    Decodes fileLimit headerFields document.encodeHeader
      (document.parsedMetadata, document.tensors.map TensorRecord.info) := by
  have tensorsLe : document.tensors.length ≤ 1000000 := limits.tensorCount
  have metadataLe : document.metadata.length ≤ 1000000 := limits.metadataCount
  have tensorsFit : document.tensors.length < 2 ^ 64 := by omega
  have metadataFits : document.metadata.length < 2 ^ 64 := by omega
  refine (readExact_decodes rfl).bind (Decodes.unless (by simp) ?_)
  refine (u32_decodes document.version).bind (Decodes.unless ?_ ?_)
  · rcases limits.version with isTwo | isThree
    · rw [isTwo]; decide
    · rw [isThree]; decide
  refine (encodeCount_decodes tensorsFit).bind <|
    (encodeCount_decodes metadataFits).bind (Decodes.unless ?_ ?_)
  · rw [not_or, UInt64.lt_iff_toNat_lt, UInt64.lt_iff_toNat_lt, toNat_count tensorsFit,
      toNat_count metadataFits, Nat.not_lt, Nat.not_lt]
    exact ⟨limits.tensorCount, limits.metadataCount⟩
  · rw [toNat_count tensorsFit, toNat_count metadataFits]
    refine (Decodes.times document.metadata fun pair member =>
      metadataPair_decodes pair (limits.metadata pair member).1
        (limits.metadata pair member).2).bind ?_
    exact (Decodes.times document.tensors fun tensor member =>
      tensorInfo_decodes tensor (limits.tensors tensor member).1
        (limits.tensors tensor member).2).bind_pure

/-- The header fields of the encoded file, with the cursor at the header's end. -/
theorem headerFields_encode (limits : document.WithinLimits) :
    Succeeds headerFields ⟨document.encode, 0⟩
      (document.parsedMetadata, document.tensors.map TensorRecord.info)
      ⟨document.encode, document.encodeHeader.length⟩ := by
  have decoded := headerFields_decodes limits ⟨document.encode, 0⟩ _ limits.fits
    ⟨Nat.zero_le _, rfl⟩
  rw [show Cursor.advance ⟨document.encode, 0⟩ document.encodeHeader.length =
    ⟨document.encode, document.encodeHeader.length⟩ by simp [Cursor.advance]] at decoded
  exact decoded

/-- Parsing the encoded file is locating its tensors from the header's end. -/
theorem parseHeader_file (limits : document.WithinLimits) :
    parseHeader (document.file limits) =
      locateTensors (document.file limits) (UInt64.ofNat document.encodeHeader.length)
        document.parsedMetadata (document.tensors.map TensorRecord.info) := by
  have decoded : headerFields ⟨(document.file limits).bytes, 0⟩ = _ :=
    headerFields_encode limits
  unfold parseHeader
  rw [decoded]

/-! ### Metadata -/

theorem lookup_foldl_of_notMem {pairs : List (String × String)} {kv : KeyValues}
    {key : String} (outside : key ∉ pairs.map Prod.fst) :
    (pairs.foldl (fun kv pair => kv.insert pair.1 pair.2) kv).lookup key =
      kv.lookup key := by
  induction pairs generalizing kv with
  | nil => rfl
  | cons head tail inductionHypothesis =>
      rw [List.map_cons, List.mem_cons, not_or] at outside
      rw [List.foldl_cons, inductionHypothesis outside.2,
        AList.lookup_insert_ne outside.1]

private theorem lookup_foldl_of_mem {pairs : List (String × String)} {kv : KeyValues}
    (distinct : (pairs.map Prod.fst).Nodup) :
    ∀ pair ∈ pairs, (pairs.foldl (fun kv pair => kv.insert pair.1 pair.2) kv).lookup pair.1 =
      some pair.2 := by
  induction pairs generalizing kv with
  | nil => simp
  | cons head tail inductionHypothesis =>
      rw [List.map_cons, List.nodup_cons] at distinct
      intro pair member
      rw [List.foldl_cons]
      rcases List.mem_cons.mp member with isHead | inTail
      · subst pair
        rw [lookup_foldl_of_notMem distinct.1, AList.lookup_insert]
      · exact inductionHypothesis distinct.2 pair inTail

/-! ### Alignment -/

theorem declaredAlignment_pos (limits : document.WithinLimits) :
    0 < document.declaredAlignment := by
  unfold declaredAlignment
  cases declared : document.metadata.lookup "general.alignment" with
  | none => decide
  | some found =>
      obtain ⟨exponent, small, rfl⟩ := limits.alignment found declared
      have bounded : 2 ^ exponent < 2 ^ 32 := Nat.pow_lt_pow_right (by decide) small
      simp only [UInt32.toNat_ofNat', Nat.mod_eq_of_lt bounded]
      exact Nat.pow_pos (by decide)

theorem le_roundUp (position : Nat) {unit : Nat} (positive : 0 < unit) :
    position ≤ roundUp position unit := by
  have split := Nat.div_add_mod (position + (unit - 1)) unit
  have remainderLt := Nat.mod_lt (position + (unit - 1)) positive
  unfold roundUp
  rw [Nat.mul_comm] at split
  omega

theorem encode_length (limits : document.WithinLimits) :
    document.encode.length = document.dataSectionStart + document.data.length := by
  have after := le_roundUp document.encodeHeader.length
    (declaredAlignment_pos limits)
  unfold encode
  rw [List.length_append, List.length_append, List.length_replicate]
  unfold dataSectionStart
  omega

/-- The parser's alignment step computes `roundUp` with its constant 32. -/
theorem alignUp_headerEnd (limits : document.WithinLimits) {start : UInt64} :
    alignUp (UInt64.ofNat document.encodeHeader.length) alignment = some start ↔
      start.toNat = roundUp document.encodeHeader.length 32 := by
  have total := encode_length limits
  have fits := limits.fits
  have after := le_roundUp document.encodeHeader.length
    (declaredAlignment_pos limits)
  unfold dataSectionStart at total
  have headerFits : document.encodeHeader.length < 2 ^ 63 := by omega
  rw [alignUp_eq_some (by decide), toNat_count (by omega)]
  exact and_iff_right (by change _ + (32 - 1) < _; omega)

/-! ### Offsets -/

private theorem increasing_of_isChain {tensors : List TensorRecord}
    {previous : Option UInt64}
    (chain : (previous.toList ++ tensors.map TensorRecord.offset).IsChain (· < ·)) :
    Increasing previous (tensors.map TensorRecord.info) := by
  induction tensors generalizing previous with
  | nil => trivial
  | cons head tail inductionHypothesis =>
      cases previous with
      | none => exact ⟨by simp, inductionHypothesis chain⟩
      | some last =>
          have split := List.isChain_cons_cons.mp chain
          refine ⟨?_, inductionHypothesis split.2⟩
          intro candidate isLast
          cases isLast
          exact split.1

theorem offsetsFit (limits : document.WithinLimits) {start : UInt64}
    (startEq : start.toNat = document.dataSectionStart) :
    OffsetsFit start (fileLen (document.file limits)) none
      (document.tensors.map TensorRecord.info) where
  increasing := increasing_of_isChain limits.increasing
  within := by
    intro info member
    obtain ⟨tensor, tensorMember, rfl⟩ := List.mem_map.mp member
    have inside := limits.offsets tensor tensorMember
    have total := encode_length limits
    rw [toNat_fileLen]
    change start.toNat + tensor.offset.toNat ≤ document.encode.length
    omega

/-! ### Round trip -/

/-- The header the parser builds gives the document back, provided its data
section starts where the format puts it. -/
private theorem givesBack_located (limits : document.WithinLimits) {start : UInt64}
    (startEq : start.toNat = document.dataSectionStart) :
    document.GivesBack ⟨document.parsedMetadata,
      located start (fileLen (document.file limits)) (document.tensors.map TensorRecord.info),
      start⟩ := by
  have tensorsLe : document.tensors.length ≤ 1000000 := limits.tensorCount
  have metadataLe : document.metadata.length ≤ 1000000 := limits.metadataCount
  have keysEq : (document.metadata.map fun pair => (pair.1, pair.2.text)).map Prod.fst =
      document.metadata.map Prod.fst := by
    rw [List.map_map]
    rfl
  refine
    { version := rfl
      tensorCount := toNat_count (by omega)
      metadataCount := toNat_count (by omega)
      metadata := ?_
      onlyMetadata := ?_
      tensors := ?_
      dataSectionStart := startEq }
  · intro pair member
    have distinct := limits.distinctKeys
    rw [← keysEq] at distinct
    exact lookup_foldl_of_mem distinct (pair.1, pair.2.text)
      (List.mem_map_of_mem (f := fun pair : String × MetadataValue =>
        (pair.1, pair.2.text)) member)
  · intro key outside
    rw [← keysEq] at outside
    exact lookup_foldl_of_notMem outside
  · rw [located_declared, List.map_map]
    rfl

/-- A document that is given back declares an alignment that agrees with 32. -/
private theorem roundUp_eq_of_givesBack (limits : document.WithinLimits)
    {header : ParsedHeader} (accepted : parseHeader (document.file limits) = .ok header)
    (givesBack : document.GivesBack header) :
    roundUp document.encodeHeader.length document.declaredAlignment =
      roundUp document.encodeHeader.length 32 := by
  rw [parseHeader_file limits] at accepted
  obtain ⟨start, aligned, _, _, rfl⟩ := locateTensors_ok_iff.mp accepted
  rw [← (alignUp_headerEnd limits).mp aligned]
  exact givesBack.dataSectionStart.symm

/-- Where both alignments agree the parser accepts and gives the document back. -/
theorem givesBack_of_roundUp_eq (limits : document.WithinLimits)
    (sameStart : roundUp document.encodeHeader.length document.declaredAlignment =
      roundUp document.encodeHeader.length 32) :
    ∃ header, parseHeader (document.file limits) = .ok header ∧
      document.GivesBack header := by
  have total := encode_length limits
  have fits := limits.fits
  have startFits : document.dataSectionStart < 2 ^ 64 := by omega
  have startEq := toNat_count startFits
  rw [parseHeader_file limits]
  refine ⟨_, locateTensors_ok_iff.mpr ⟨UInt64.ofNat document.dataSectionStart,
    (alignUp_headerEnd limits).mpr ?_, ?_, offsetsFit limits startEq, rfl⟩,
    givesBack_located limits startEq⟩
  · rw [startEq]
    exact sameStart
  · rw [startEq]
    change _ ≤ document.encode.length
    omega

/-- An encoded document is given back exactly when its header ends at a place
that rounds up to the same multiple of 32 as of its declared alignment. -/
theorem parseHeader_gives_back_iff (document : Document) (limits : document.WithinLimits) :
    (∃ header, parseHeader (document.file limits) = .ok header ∧ document.GivesBack header) ↔
      roundUp document.encodeHeader.length document.declaredAlignment =
        roundUp document.encodeHeader.length 32 := by
  constructor
  · rintro ⟨header, accepted, givesBack⟩
    exact roundUp_eq_of_givesBack limits accepted givesBack
  · exact givesBack_of_roundUp_eq limits

/-- One named tensor of four bytes and no declared alignment. -/
def namedDocument : Document where
  version := 3
  metadata := [("general.name", .scalar .string "fixture"),
    ("tokenizer.ggml.scores",
      .array .float32 [(0x3f800000 : UInt32), (0x40000000 : UInt32)])]
  tensors := [{ name := "a", dims := [4], dtype := 0, offset := 0 }]
  data := [1, 2, 3, 4]

theorem namedDocument_withinLimits : namedDocument.WithinLimits where
  version := .inr rfl
  tensorCount := by decide
  metadataCount := by decide
  distinctKeys := by decide
  metadata := by
    simp only [namedDocument, List.mem_cons, List.not_mem_nil, or_false]
    rintro pair (rfl | rfl)
    · exact ⟨by unfold ShortText; decide, by
        change ShortText "fixture"
        unfold ShortText
        decide⟩
    · exact ⟨by unfold ShortText; decide, by decide, fun _ _ => trivial⟩
  tensors := by
    simp only [namedDocument, List.mem_singleton]
    rintro tensor rfl
    exact ⟨by unfold ShortText; decide, by decide⟩
  increasing := by simp [namedDocument]
  offsets := by simp [namedDocument]
  alignment := by
    intro found declared
    simp [namedDocument, List.lookup] at declared
  fits := by decide +kernel

theorem parseHeader_gives_back_namedDocument :
    ∃ header, parseHeader (namedDocument.file namedDocument_withinLimits) = .ok header ∧
      namedDocument.GivesBack header :=
  (parseHeader_gives_back_iff namedDocument namedDocument_withinLimits).mpr
    (by decide +kernel)

/-- The same tensor in a document that declares an alignment of 64. Its header
is 90 bytes long, so its data section starts at 128 and not at 96. -/
def alignedDocument : Document where
  version := 3
  metadata := [("general.alignment", .scalar .uint32 (64 : UInt32))]
  tensors := [{ name := "a", dims := [4], dtype := 0, offset := 0 }]
  data := [1, 2, 3, 4]

theorem alignedDocument_withinLimits : alignedDocument.WithinLimits where
  version := .inr rfl
  tensorCount := by decide
  metadataCount := by decide
  distinctKeys := by decide
  metadata := by
    simp only [alignedDocument, List.mem_singleton]
    rintro pair rfl
    exact ⟨by unfold ShortText; decide, trivial⟩
  tensors := by
    simp only [alignedDocument, List.mem_singleton]
    rintro tensor rfl
    exact ⟨by unfold ShortText; decide, by decide⟩
  increasing := by simp [alignedDocument]
  offsets := by simp [alignedDocument]
  alignment := by
    intro found declared
    have isDeclared : found = .scalar .uint32 (64 : UInt32) := by
      simpa [alignedDocument, List.lookup] using declared.symm
    exact ⟨6, by decide, isDeclared⟩
  fits := by decide +kernel

theorem alignedDocument_not_given_back :
    ¬ ∃ header, parseHeader (alignedDocument.file alignedDocument_withinLimits) = .ok header ∧
      alignedDocument.GivesBack header := by
  rintro ⟨header, accepted, givesBack⟩
  have sameStart := roundUp_eq_of_givesBack alignedDocument_withinLimits accepted givesBack
  revert sameStart
  decide +kernel

end Document

end TriAI.Chunk.Gguf
