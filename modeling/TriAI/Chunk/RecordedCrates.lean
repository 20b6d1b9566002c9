import TriAI.Chunk.Index

/-!
Contract: crates that answer recorded inputs as the real crates do.

Owns: `CrateRecord`, a finite table of frames, digests and documents, the JSON text
of the documents, and the lawful crates that follow the record and number
everything else.

Does not own: the recorded data, which stands where it is used.
-/

set_option autoImplicit false

namespace TriAI.Chunk

open TriAI.Library.FileTree

/-! ## Numbering what is not recorded -/

instance encodableChar : Encodable Char :=
  Encodable.ofLeftInjection Char.toNat (fun number => some (Char.ofNat number))
    fun character => by rw [Char.ofNat_toNat]

instance encodableString : Encodable String :=
  Encodable.ofLeftInjection String.toList (fun characters => some (String.ofList characters))
    fun text => by rw [String.ofList_toList]

instance encodableUInt64 : Encodable UInt64 :=
  Encodable.ofLeftInjection UInt64.toNat (fun number => some (UInt64.ofNat number))
    fun word => by rw [UInt64.ofNat_toNat]

instance encodableUInt32 : Encodable UInt32 :=
  Encodable.ofLeftInjection UInt32.toNat (fun number => some (UInt32.ofNat number))
    fun word => by rw [UInt32.ofNat_toNat]

deriving instance Encodable for TensorCategory
deriving instance Encodable for TensorEntry
deriving instance Encodable for TensorIndex
deriving instance Encodable for ChunkDescriptor
deriving instance Encodable for ChunkManifest

/-! ## Tables -/

section Table

variable {Key Value : Type} [DecidableEq Key]

/-- A table of outputs, and any other output for what is not in it. Decoding gives
back only `view` of the key. -/
structure Table (Key Value : Type) where
  view : Key → Value
  rows : List (Key × List UInt8)
  other : Key → List UInt8
  otherBack : List UInt8 → Option Value

namespace Table

/-- Reading a table forwards. -/
def encode (table : Table Key Value) (key : Key) : List UInt8 :=
  match table.rows.find? (·.1 = key) with
  | some row => row.2
  | none => table.other key

/-- Reading a table backwards. -/
def decode (table : Table Key Value) (bytes : List UInt8) : Option Value :=
  match table.rows.find? (·.2 = bytes) with
  | some row => some (table.view row.1)
  | none => table.otherBack bytes

/-- Outputs that can be told apart. -/
structure Readable (table : Table Key Value) : Prop where
  distinct : (table.rows.map Prod.snd).Nodup
  separate : ∀ key, ∀ row ∈ table.rows, row.2 ≠ table.other key
  back : ∀ key, table.otherBack (table.other key) = some (table.view key)

theorem decode_encode {table : Table Key Value} (readable : table.Readable) (key : Key) :
    table.decode (table.encode key) = some (table.view key) := by
  unfold encode
  cases forwards : table.rows.find? (·.1 = key) with
  | none =>
      have unknown : table.rows.find? (·.2 = table.other key) = none := by
        rw [List.find?_eq_none]
        intro row member
        simpa using readable.separate key row member
      unfold decode
      rw [unknown]
      exact readable.back key
  | some row =>
      have matched := List.find?_some forwards
      have sameKey : row.1 = key := of_decide_eq_true matched
      have member := List.mem_of_find?_eq_some forwards
      unfold decode
      cases backwards : table.rows.find? (·.2 = row.2) with
      | none =>
          have missed := List.find?_eq_none.mp backwards row member
          simp at missed
      | some found =>
          have foundMatched := List.find?_some backwards
          have sameBytes : found.2 = row.2 := of_decide_eq_true foundMatched
          have foundMember := List.mem_of_find?_eq_some backwards
          have sameRow : found = row :=
            List.inj_on_of_nodup_map readable.distinct foundMember member sameBytes
          rw [sameRow]
          exact congrArg (fun known => some (table.view known)) sameKey

end Table

end Table

/-! ## The JSON text of the documents -/

namespace Json

def indent (depth : Nat) : String := String.ofList (List.replicate (2 * depth) ' ')

/-- A text without characters that JSON escapes. -/
def text (value : String) : String := "\"" ++ value ++ "\""

def number (value : Nat) : String := toString value

def optional {α : Type} (print : α → String) : Option α → String
  | none => "null"
  | some value => print value

/-- Items on lines of their own, between an opening and a closing bracket. -/
def block (opening closing : String) (depth : Nat) (items : List String) : String :=
  if items = [] then opening ++ closing
  else opening ++ "\n" ++
    ",\n".intercalate (items.map fun item => indent (depth + 1) ++ item) ++
    "\n" ++ indent depth ++ closing

def array (depth : Nat) (items : List String) : String := block "[" "]" depth items

def object (depth : Nat) (fields : List (String × String)) : String :=
  block "\x7b" "\x7d" depth (fields.map fun field => text field.1 ++ ": " ++ field.2)

/-- The snake case names of `TensorCategory`. -/
def category : TensorCategory → String
  | .metadata => text "metadata"
  | .tokenizer => text "tokenizer"
  | .embeddings => text "embeddings"
  | .output => text "output"
  | .norms => text "norms"
  | .attention => text "attention"
  | .denseFfn => text "dense_ffn"
  | .moeRouter => text "moe_router"
  | .moeExpert => text "moe_expert"
  | .kvRuntime => text "kv_runtime"

def descriptor (chunk : ChunkDescriptor) : String :=
  object 2
    [("chunk_id", text chunk.chunkId),
      ("categories", array 3 (chunk.categories.map category)),
      ("raw_size", number chunk.rawSize.toNat),
      ("compressed_size", number chunk.compressedSize.toNat),
      ("sha256", text chunk.sha256),
      ("file_offset", number chunk.fileOffset.toNat),
      ("tensor_names", array 3 (chunk.tensorNames.map text))]

/-- `to_vec_pretty` of a manifest. -/
def manifest (document : ChunkManifest) : List UInt8 :=
  (object 0
    [("model_id", text document.modelId),
      ("gguf_sha256", text document.ggufSha256),
      ("version", number document.version.toNat),
      ("chunks", array 1 (document.chunks.map descriptor)),
      ("total_raw_bytes", number document.totalRawBytes.toNat),
      ("total_compressed_bytes", number document.totalCompressedBytes.toNat)]
    ).toByteArray.data.toList

def entry (tensor : TensorEntry) : String :=
  object 2
    [("name", text tensor.name),
      ("category", category tensor.category),
      ("dims", array 3 (tensor.dims.map fun dim => number dim.toNat)),
      ("dtype", number tensor.dtype.toNat),
      ("gguf_offset", number tensor.ggufOffset.toNat),
      ("data_offset", optional (fun offset => number offset.toNat) tensor.dataOffset),
      ("size", number tensor.size.toNat),
      ("chunk_id", optional text tensor.chunkId),
      ("chunk_offset", optional (fun offset => number offset.toNat) tensor.chunkOffset)]

/-- `to_vec_pretty` of an index. -/
def index (document : TensorIndex) : List UInt8 :=
  (object 0
    [("model_id", text document.modelId),
      ("gguf_sha256", text document.ggufSha256),
      ("gguf_size", number document.ggufSize.toNat),
      ("tensors", array 1 (document.tensors.map entry)),
      ("total_bytes", number document.totalBytes.toNat)]
    ).toByteArray.data.toList

end Json

/-! ## The crates of a record -/

/-- What the real crates are asked for in some run: frames, digests and documents. -/
structure CrateRecord where
  frames : List ((Int32 × ByteVec) × List UInt8) := []
  digests : List (List UInt8 × String)
  manifests : List ChunkManifest := []
  indexes : List TensorIndex := []

namespace CrateRecord

/-- Frames that are not recorded are the marked raw bytes. -/
def frameTable (record : CrateRecord) : Table (Int32 × ByteVec) ByteVec where
  view := Prod.snd
  rows := record.frames
  other := fun key => 0 :: key.2.bytes
  otherBack := fun bytes =>
    if fits : bytes.tail.length < 2 ^ 63 then some ⟨bytes.tail, fits⟩ else none

/-- Documents that are not recorded are their marked number in unary. -/
def documentTable {Document : Type} [Encodable Document]
    (rows : List (Document × List UInt8)) : Table Document Document where
  view := id
  rows := rows
  other := fun document => 0 :: List.replicate (Encodable.encode document) 0
  otherBack := fun bytes => Encodable.decode bytes.tail.length

/-- The recorded outputs are distinct and none starts with the mark. -/
def Consistent {Input : Type} (rows : List (Input × List UInt8)) : Prop :=
  (rows.map Prod.snd).Nodup ∧ ∀ row ∈ rows, row.2.head? ≠ some 0

instance {Input : Type} (rows : List (Input × List UInt8)) : Decidable (Consistent rows) := by
  unfold Consistent
  infer_instance

theorem frameTable_readable {record : CrateRecord} (consistent : Consistent record.frames) :
    record.frameTable.Readable where
  distinct := consistent.1
  separate := by
    intro key row member same
    exact consistent.2 row member (by rw [same]; rfl)
  back := fun key => dif_pos key.2.fits

theorem documentTable_readable {Document : Type} [Encodable Document]
    {rows : List (Document × List UInt8)} (consistent : Consistent rows) :
    (documentTable rows).Readable where
  distinct := consistent.1
  separate := by
    intro key row member same
    exact consistent.2 row member (by rw [same]; rfl)
  back := by
    intro key
    unfold documentTable
    simp only [List.tail_cons, List.length_replicate, Encodable.encodek, id_eq]

def manifestRows (record : CrateRecord) : List (ChunkManifest × List UInt8) :=
  record.manifests.map fun document => (document, Json.manifest document)

def indexRows (record : CrateRecord) : List (TensorIndex × List UInt8) :=
  record.indexes.map fun document => (document, Json.index document)

/-- The crates that follow a record. -/
def crates (record : CrateRecord) : Crates where
  zstdEncode := fun level raw => record.frameTable.encode (level, raw)
  zstdDecode := record.frameTable.decode
  sha256Hex := fun bytes => (record.digests.lookup bytes).getD ""
  manifestToJson := (documentTable record.manifestRows).encode
  manifestFromJson := (documentTable record.manifestRows).decode
  indexToJson := (documentTable record.indexRows).encode
  indexFromJson := (documentTable record.indexRows).decode

/-- Crates that follow a consistent record are lawful. -/
theorem crates_lawful {record : CrateRecord} (frames : Consistent record.frames)
    (manifests : Consistent record.manifestRows) (indexes : Consistent record.indexRows) :
    record.crates.Lawful where
  zstd_decode_encode := fun level raw _ _ =>
    Table.decode_encode (frameTable_readable frames) (level, raw)
  manifest_from_to := Table.decode_encode (documentTable_readable manifests)
  index_from_to := Table.decode_encode (documentTable_readable indexes)

end CrateRecord

end TriAI.Chunk
