import TriAI.Library.ByteDecoder
import TriAI.Library.TextLines
import TriAI.Storage.Calls

/-!
Contract: the metadata reader of `gguf_registry.rs`.

Owns: `inspect` over the bytes of a file, with the limits and the error texts of
the source.

Does not own: the search for models, and the text of the standard library for a
string that is not UTF-8.

The reader stops before the tensors. A short read is the only way a read fails.
-/

set_option autoImplicit false

namespace TriAI.GgufRegistry

open TriAI.Library.ByteDecoder
open TriAI.Library.FileTree
open TriAI.Library.TextLines
open TriAI.Storage

structure GgufMetadata where
  version : UInt32
  tensorCount : UInt64
  architecture : Option String
  name : Option String
  quantization : Option String
  contextLength : Option UInt64
  parameterCount : Option UInt64
  /-- `{arch}.block_count`. -/
  layers : Option UInt64
deriving DecidableEq, Repr

inductive MetadataValue where
  | unsigned (value : UInt64)
  | string (value : String)
  | other
deriving DecidableEq, Repr

abbrev Reader := Decoder IoFailure

def invalidData (message : String) : IoFailure := ⟨.invalidData, some message⟩

/-- `read_exact`, at the end of the file. -/
def readExact (count : Nat) : Reader (List UInt8) :=
  take { kind := .unexpectedEof } count

/-- `read_fixed`, as a number. -/
def readFixed (width : Nat) : Reader UInt64 := do
  let bytes ← readExact width
  pure (UInt64.ofNat (fromLittleEndian bytes))

def readU32 : Reader UInt32 := do
  let bytes ← readExact 4
  pure (UInt32.ofNat (fromLittleEndian bytes))

def readU64 : Reader UInt64 := readFixed 8

/-- `String::from_utf8`. -/
def decodeString (bytes : List UInt8) : Reader String :=
  match fromUtf8 bytes with
  | some text => pure text
  | none => throw { kind := .invalidData }

def readString (maxLen : UInt64) : Reader String := do
  let len ← readU64
  if maxLen < len then
    throw (invalidData "GGUF-String überschreitet das Größenlimit")
  else do
    let bytes ← readExact len.toNat
    decodeString bytes

/-- `read_metadata_value` of any type but an array. -/
def readPlainValue (valueType : UInt32) : Reader MetadataValue :=
  match valueType.toNat with
  | 0 => do let value ← readFixed 1; pure (.unsigned value)
  | 1 => do let _ ← readFixed 1; pure .other
  | 2 => do let value ← readFixed 2; pure (.unsigned value)
  | 3 => do let _ ← readFixed 2; pure .other
  | 4 => do let value ← readFixed 4; pure (.unsigned value)
  | 5 => do let _ ← readFixed 4; pure .other
  | 6 => do let _ ← readFixed 4; pure .other
  | 7 => do let _ ← readFixed 1; pure .other
  | 8 => do let text ← readString (16 * 1024 * 1024); pure (.string text)
  | 10 => do let value ← readU64; pure (.unsigned value)
  | 11 => do let _ ← readFixed 8; pure .other
  | 12 => do let _ ← readFixed 8; pure .other
  | other => throw (invalidData ("unbekannter GGUF-Metadatentyp " ++ toString other))

/-- `read_metadata_value`. An array of arrays is rejected, so its elements are
never arrays. -/
def readMetadataValue (valueType : UInt32) : Reader MetadataValue :=
  if valueType = 9 then do
    let elementType ← readU32
    let count ← readU64
    if 1000000 < count ∨ elementType = 9 then
      throw (invalidData "ungültiges oder zu großes GGUF-Array")
    else do
      let _ ← times (readPlainValue elementType) count.toNat
      pure .other
  else readPlainValue valueType

def quantizationName (fileType : UInt64) : String :=
  match fileType.toNat with
  | 0 => "F32"
  | 1 => "F16"
  | 2 => "Q4_0"
  | 3 => "Q4_1"
  | 7 => "Q8_0"
  | 8 => "Q5_0"
  | 9 => "Q5_1"
  | 10 => "Q2_K"
  | 11 => "Q3_K_S"
  | 12 => "Q3_K_M"
  | 13 => "Q3_K_L"
  | 14 => "Q4_K_S"
  | 15 => "Q4_K_M"
  | 16 => "Q5_K_S"
  | 17 => "Q5_K_M"
  | 18 => "Q6_K"
  | _ => "UNKNOWN"

/-- `str::ends_with`. -/
def endsWith (text ending : String) : Bool := ending.toList <:+ text.toList

/-- What one metadata entry sets. -/
def GgufMetadata.record (metadata : GgufMetadata) (key : String) :
    MetadataValue → GgufMetadata
  | .string value =>
      if key = "general.architecture" then { metadata with architecture := some value }
      else if key = "general.name" then { metadata with name := some value }
      else metadata
  | .unsigned value =>
      if key = "general.file_type" then
        { metadata with quantization := some (quantizationName value) }
      else if key = "general.parameter_count" then
        { metadata with parameterCount := some value }
      else if endsWith key ".context_length" then { metadata with contextLength := some value }
      else if endsWith key ".block_count" then { metadata with layers := some value }
      else metadata
  | .other => metadata

/-- One round of the metadata loop. -/
def metadataEntry : Reader (String × MetadataValue) := do
  let key ← readString (1024 * 1024)
  let valueType ← readU32
  let value ← readMetadataValue valueType
  pure (key, value)

/-- Everything `inspect` reads. -/
def readMetadata : Reader GgufMetadata := do
  let magic ← readExact 4
  if magic ≠ utf8Bytes "GGUF" then
    throw (invalidData "Datei besitzt keine GGUF-Signatur")
  else do
    let version ← readU32
    if ¬ (2 ≤ version ∧ version ≤ 3) then
      throw (invalidData ("nicht unterstützte GGUF-Version " ++ toString version.toNat))
    else do
      let tensorCount ← readU64
      let metadataCount ← readU64
      if 1000000 < metadataCount then
        throw (invalidData "zu viele GGUF-Metadateneinträge")
      else do
        let entries ← times metadataEntry metadataCount.toNat
        let empty : GgufMetadata :=
          { version, tensorCount, architecture := none, name := none, quantization := none,
            contextLength := none, parameterCount := none, layers := none }
        pure (entries.foldl (fun metadata entry => metadata.record entry.1 entry.2) empty)

/-- `inspect`, of a file that can be read. -/
def inspect (content : ByteVec) : Except IoFailure GgufMetadata :=
  (readMetadata ⟨content.bytes, 0⟩).map Prod.fst

/-- A file the inspector accepts. -/
def Accepts (content : ByteVec) : Prop := ∃ metadata, inspect content = .ok metadata

end TriAI.GgufRegistry
