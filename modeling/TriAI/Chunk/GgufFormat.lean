import TriAI.Chunk.GgufSpans

/-!
Contract: the GGUF encoding and the part of it that `parseHeader` undoes.

Owns: `Document`, the abstract content of a GGUF v2/v3 file, its `encode` as the
format lays it out, the parser's limits on it, and the exact condition under
which the parser gives the document back.

Does not own: the parser. The alignment here is the one the document declares in
`general.alignment`; the parser always rounds to `alignment`.
-/

set_option autoImplicit false

namespace TriAI.Chunk.Gguf

open TriAI.Library.ByteDecoder
open TriAI.Library.FileTree
open TriAI.Library.MachineInt
open TriAI.Library.Tiling

/-! ## Documents -/

/-- The value types `0..=12` other than the array type `9`. -/
inductive ScalarType where
  | uint8
  | int8
  | uint16
  | int16
  | uint32
  | int32
  | float32
  | bool
  | string
  | uint64
  | int64
  | float64
deriving DecidableEq, Repr

namespace ScalarType

/-- The type code of the format. -/
def code : ScalarType → UInt32
  | uint8 => 0
  | int8 => 1
  | uint16 => 2
  | int16 => 3
  | uint32 => 4
  | int32 => 5
  | float32 => 6
  | bool => 7
  | string => 8
  | uint64 => 10
  | int64 => 11
  | float64 => 12

/-- The values of a type; floats are their bit patterns. -/
def Payload : ScalarType → Type
  | uint8 => UInt8
  | int8 => Int8
  | uint16 => UInt16
  | int16 => Int16
  | uint32 => UInt32
  | int32 => Int32
  | float32 => UInt32
  | bool => Bool
  | string => String
  | uint64 => UInt64
  | int64 => Int64
  | float64 => UInt64

end ScalarType

/-- A metadata value: a scalar, or an array of scalars of one type. -/
inductive MetadataValue where
  | scalar (type : ScalarType) (payload : type.Payload)
  | array (elementType : ScalarType) (elements : List elementType.Payload)

/-- One tensor record of the header. -/
structure TensorRecord where
  name : String
  dims : List UInt64
  dtype : UInt32
  offset : UInt64

/-- The content of a GGUF file. -/
structure Document where
  version : UInt32
  metadata : List (String × MetadataValue)
  tensors : List TensorRecord
  /-- The data section. -/
  data : List UInt8

/-! ## Encoding -/

def encodeU32 (word : UInt32) : List UInt8 := littleEndian 4 word.toNat

def encodeU64 (word : UInt64) : List UInt8 := littleEndian 8 word.toNat

def encodeCount (count : Nat) : List UInt8 := littleEndian 8 count

/-- The UTF-8 bytes of a text. -/
def utf8 (text : String) : List UInt8 := text.toByteArray.data.toList

def encodeString (text : String) : List UInt8 :=
  encodeCount (utf8 text).length ++ utf8 text

def encodeScalar : (type : ScalarType) → type.Payload → List UInt8
  | .uint8, (byte : UInt8) => littleEndian 1 byte.toNat
  | .int8, (byte : Int8) => littleEndian 1 byte.toUInt8.toNat
  | .uint16, (word : UInt16) => littleEndian 2 word.toNat
  | .int16, (word : Int16) => littleEndian 2 word.toUInt16.toNat
  | .uint32, (word : UInt32) => encodeU32 word
  | .int32, (word : Int32) => littleEndian 4 word.toUInt32.toNat
  | .float32, (bits : UInt32) => littleEndian 4 bits.toNat
  | .bool, (flag : Bool) => littleEndian 1 flag.toNat
  | .string, (text : String) => encodeString text
  | .uint64, (word : UInt64) => encodeU64 word
  | .int64, (word : Int64) => littleEndian 8 word.toUInt64.toNat
  | .float64, (bits : UInt64) => littleEndian 8 bits.toNat

/-- The type code that precedes a value. -/
def MetadataValue.typeCode : MetadataValue → UInt32
  | .scalar type _ => type.code
  | .array _ _ => 9

def encodeValue : MetadataValue → List UInt8
  | .scalar type payload => encodeScalar type payload
  | .array elementType elements =>
      encodeU32 elementType.code ++ (encodeCount elements.length ++
        elements.flatMap (encodeScalar elementType))

def encodePair (pair : String × MetadataValue) : List UInt8 :=
  encodeString pair.1 ++ (encodeU32 pair.2.typeCode ++ encodeValue pair.2)

def encodeTensor (tensor : TensorRecord) : List UInt8 :=
  encodeString tensor.name ++ (encodeU32 (UInt32.ofNat tensor.dims.length) ++
    (tensor.dims.flatMap encodeU64 ++ (encodeU32 tensor.dtype ++ encodeU64 tensor.offset)))

namespace Document

def encodeHeader (document : Document) : List UInt8 :=
  magic ++ (encodeU32 document.version ++ (encodeCount document.tensors.length ++
    (encodeCount document.metadata.length ++ (document.metadata.flatMap encodePair ++
      document.tensors.flatMap encodeTensor))))

/-- `general.alignment`, or 32 when it is not declared. -/
def declaredAlignment (document : Document) : Nat :=
  match document.metadata.lookup "general.alignment" with
  | some (.scalar .uint32 word) => UInt32.toNat word
  | _ => 32

/-- The least multiple of `unit` from `position` on. -/
def roundUp (position unit : Nat) : Nat := (position + (unit - 1)) / unit * unit

/-- Where the format puts the data section. -/
def dataSectionStart (document : Document) : Nat :=
  roundUp document.encodeHeader.length document.declaredAlignment

/-- The file: header, padding to the declared alignment, data section. -/
def encode (document : Document) : List UInt8 :=
  document.encodeHeader ++
    (List.replicate (document.dataSectionStart - document.encodeHeader.length) 0 ++
      document.data)

end Document

/-! ## Limits -/

/-- A text the parser accepts. -/
def ShortText (text : String) : Prop := (utf8 text).length ≤ maxStringBytes.toNat

def ScalarType.ShortPayload : (type : ScalarType) → type.Payload → Prop
  | .string, (text : String) => ShortText text
  | _, _ => True

def MetadataValue.WithinLimits : MetadataValue → Prop
  | .scalar type payload => type.ShortPayload payload
  | .array elementType elements =>
      elements.length ≤ maxEntries.toNat ∧
        ∀ payload ∈ elements, elementType.ShortPayload payload

/-- A v2/v3 document within the parser's limits that fits into a file. -/
structure Document.WithinLimits (document : Document) : Prop where
  version : document.version = 2 ∨ document.version = 3
  tensorCount : document.tensors.length ≤ maxEntries.toNat
  metadataCount : document.metadata.length ≤ maxEntries.toNat
  distinctKeys : (document.metadata.map Prod.fst).Nodup
  metadata : ∀ pair ∈ document.metadata, ShortText pair.1 ∧ pair.2.WithinLimits
  tensors : ∀ tensor ∈ document.tensors,
    ShortText tensor.name ∧ tensor.dims.length ≤ maxDims.toNat
  increasing : (document.tensors.map TensorRecord.offset).IsChain (· < ·)
  offsets : ∀ tensor ∈ document.tensors, tensor.offset.toNat ≤ document.data.length
  /-- `general.alignment` is a `u32` power of two. -/
  alignment : ∀ value, document.metadata.lookup "general.alignment" = some value →
    ∃ exponent, exponent < 32 ∧ value = .scalar .uint32 (UInt32.ofNat (2 ^ exponent))
  fits : document.encode.length < 2 ^ 63

/-- The file that holds the encoding. -/
def Document.file (document : Document) (limits : document.WithinLimits) : ByteVec :=
  ⟨document.encode, limits.fits⟩

/-! ## What the parser keeps of a value -/

/-- The text recorded for a scalar: its value for strings, `u32` and `u64`, and
a marker otherwise. -/
def scalarText : (type : ScalarType) → type.Payload → String
  | .uint8, _ => "uint8"
  | .int8, _ => "int8"
  | .uint16, _ => "uint16"
  | .int16, _ => "int16"
  | .uint32, (word : UInt32) => toString word.toNat
  | .int32, _ => "int32"
  | .float32, _ => "float32"
  | .bool, _ => "bool"
  | .string, (text : String) => text
  | .uint64, (word : UInt64) => toString word.toNat
  | .int64, _ => "scalar64"
  | .float64, _ => "scalar64"

def MetadataValue.text : MetadataValue → String
  | .scalar type payload => scalarText type payload
  | .array _ elements => "array(" ++ toString elements.length ++ ")"

/-- The tensor as it leaves the tensor loop. -/
def TensorRecord.info (tensor : TensorRecord) : GgufTensorInfo where
  name := tensor.name
  dims := tensor.dims
  dtype := tensor.dtype
  offset := tensor.offset
  size := 0
  dataOffset := 0

/-- The header gives back the document and puts its data where the format does. -/
structure Document.GivesBack (document : Document) (header : ParsedHeader) : Prop where
  version : header.metadata.version = document.version
  tensorCount : header.metadata.tensorCount.toNat = document.tensors.length
  metadataCount : header.metadata.metadataKvCount.toNat = document.metadata.length
  metadata : ∀ pair ∈ document.metadata,
    header.metadata.kv.lookup pair.1 = some pair.2.text
  onlyMetadata : ∀ key ∉ document.metadata.map Prod.fst,
    header.metadata.kv.lookup key = none
  tensors : header.tensors.map GgufTensorInfo.declared =
    document.tensors.map fun tensor =>
      (tensor.name, tensor.dims, tensor.dtype, tensor.offset)
  dataSectionStart : header.dataSectionStart.toNat = document.dataSectionStart

end TriAI.Chunk.Gguf
