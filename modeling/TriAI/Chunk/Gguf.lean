import TriAI.Error
import TriAI.Library.ByteDecoder
import TriAI.Library.FileTree
import TriAI.Library.MachineInt

/-!
Contract: the bounded GGUF v2/v3 header parser of `chunk/gguf.rs`.

Owns: `parseHeader` and everything it calls, over the bytes of a file, with the
limits and the error texts of the source.

Does not own: the GGUF encoding (`Chunk.GgufFormat`) and what the accepted spans
satisfy (`Chunk.GgufSpans`).

The reader's buffered file is a cursor over bytes that do not change while the
header is parsed; a short read is the only way a read fails.
-/

set_option autoImplicit false

namespace TriAI.Chunk.Gguf

open TriAI.Library.ByteDecoder
open TriAI.Library.FileTree
open TriAI.Library.MachineInt

/-- `b"GGUF"`. -/
def magic : List UInt8 := [71, 71, 85, 70]

def maxEntries : UInt64 := 1000000

def maxStringBytes : UInt64 := 16 * 1024 * 1024

def maxDims : UInt32 := 8

def alignment : UInt64 := 32

/-- `GgufTensorInfo`. -/
structure GgufTensorInfo where
  name : String
  dims : List UInt64
  dtype : UInt32
  /-- Offset from the aligned GGUF data section. -/
  offset : UInt64
  /-- Exact span up to the next tensor or end of file; may include padding. -/
  size : UInt64
  dataOffset : UInt64
deriving DecidableEq, Repr

/-- The `BTreeMap<String, String>` of metadata texts. -/
abbrev KeyValues := AList fun _ : String => String

/-- `GgufMetadata`. -/
structure GgufMetadata where
  version : UInt32
  tensorCount : UInt64
  metadataKvCount : UInt64
  kv : KeyValues
deriving DecidableEq

/-- What `parse_header` returns, with the `data_section_start` it leaves in the
reader. -/
structure ParsedHeader where
  metadata : GgufMetadata
  tensors : List GgufTensorInfo
  dataSectionStart : UInt64

abbrev Reader := Decoder TriAIError

def invalid (message : String) : TriAIError := .other message

/-- `read_exact` at the end of the file. -/
def readExact (count : Nat) : Reader (List UInt8) :=
  take (.io .unexpectedEof) count

def u32 : Reader UInt32 := do
  let bytes ← readExact 4
  pure (UInt32.ofNat (fromLittleEndian bytes))

def u64 : Reader UInt64 := do
  let bytes ← readExact 8
  pure (UInt64.ofNat (fromLittleEndian bytes))

/-- `String::from_utf8`. -/
def fromUtf8 (bytes : List UInt8) : Reader String :=
  match String.fromUTF8? ⟨bytes.toArray⟩ with
  | some text => pure text
  | none => throw (invalid "GGUF string is not UTF-8")

def string : Reader String := do
  let len ← u64
  if maxStringBytes < len then
    throw (invalid "GGUF string exceeds limit")
  else do
    let bytes ← readExact len.toNat
    fromUtf8 bytes

def discard (bytes : UInt64) : Reader Unit := do
  let cursor ← get
  if 2 ^ 64 ≤ cursor.position + bytes.toNat then
    throw (invalid "GGUF value overflow")
  else if cursor.bytes.length < cursor.position + bytes.toNat then
    throw (invalid "GGUF value exceeds file")
  else if 2 ^ 63 ≤ bytes.toNat then
    throw (invalid "GGUF value too large")
  else
    set (cursor.advance bytes.toNat)

/-- `value(ty, depth)` with `levels = 5 - depth`, so that `levels = 0` is the
rejection of `depth > 4`. -/
def value : Nat → UInt32 → Reader String
  | 0, _ => throw (invalid "GGUF metadata nesting exceeds limit")
  | levels + 1, ty =>
      match ty.toNat with
      | 0 => do discard 1; pure "uint8"
      | 1 => do discard 1; pure "int8"
      | 2 => do discard 2; pure "uint16"
      | 3 => do discard 2; pure "int16"
      | 4 => do let word ← u32; pure (toString word.toNat)
      | 5 => do discard 4; pure "int32"
      | 6 => do discard 4; pure "float32"
      | 7 => do discard 1; pure "bool"
      | 8 => string
      | 9 => do
          let elementType ← u32
          let count ← u64
          if maxEntries < count ∨ elementType = 9 then
            throw (invalid "invalid GGUF array")
          else do
            let _ ← times (value levels elementType) count.toNat
            pure ("array(" ++ toString count.toNat ++ ")")
      | 10 => do let word ← u64; pure (toString word.toNat)
      | 11 => do discard 8; pure "scalar64"
      | 12 => do discard 8; pure "scalar64"
      | _ => throw (invalid "unknown GGUF metadata type")

/-- One round of the metadata loop. -/
def metadataPair : Reader (String × String) := do
  let key ← string
  let valueType ← u32
  let text ← value 5 valueType
  pure (key, text)

/-- `kv.insert` for every pair read, in order. -/
def collect (pairs : List (String × String)) : KeyValues :=
  pairs.foldl (fun kv pair => kv.insert pair.1 pair.2) ∅

/-- One round of the tensor loop. -/
def tensorInfo : Reader GgufTensorInfo := do
  let name ← string
  let dimensions ← u32
  if maxDims < dimensions then
    throw (invalid "tensor dimension count exceeds limit")
  else do
    let dims ← times u64 dimensions.toNat
    let dtype ← u32
    let offset ← u64
    pure { name, dims, dtype, offset, size := 0, dataOffset := 0 }

/-- Everything `parse_header` reads. -/
def headerFields : Reader (GgufMetadata × List GgufTensorInfo) := do
  let found ← readExact 4
  if found ≠ magic then
    throw (invalid "invalid GGUF magic")
  else do
    let version ← u32
    if ¬ (2 ≤ version ∧ version ≤ 3) then
      throw (invalid "unsupported GGUF version")
    else do
      let tensorCount ← u64
      let metadataKvCount ← u64
      if maxEntries < tensorCount ∨ maxEntries < metadataKvCount then
        throw (invalid "GGUF entry count exceeds limit")
      else do
        let pairs ← times metadataPair metadataKvCount.toNat
        let tensors ← times tensorInfo tensorCount.toNat
        pure ({ version, tensorCount, metadataKvCount, kv := collect pairs }, tensors)

/-- `self.file_len`. -/
def fileLen (file : ByteVec) : UInt64 := UInt64.ofNat file.bytes.length

/-- The first loop over the tensors: offsets strictly increase and point into
the file. -/
def checkOffsets (dataSectionStart fileLen : UInt64) :
    Option UInt64 → List GgufTensorInfo → Except TriAIError Unit
  | _, [] => pure ()
  | previous, tensor :: rest =>
      if previous.any fun last => tensor.offset ≤ last then
        throw (invalid "tensor offsets are not strictly increasing")
      else
        match checkedAdd dataSectionStart tensor.offset with
        | none => throw (invalid "tensor offset overflow")
        | some absolute =>
            if fileLen < absolute then
              throw (invalid "tensor offset lies beyond file")
            else
              checkOffsets dataSectionStart fileLen (some tensor.offset) rest

/-- `end_relative` of the second loop: the next offset, or what the unchecked
subtraction gives for the last tensor. -/
def endRelative (dataSectionStart fileLen : UInt64) : List GgufTensorInfo → UInt64
  | next :: _ => next.offset
  | [] => fileLen - dataSectionStart

/-- The second loop over the tensors: sizes and absolute offsets. -/
def assignSpans (dataSectionStart fileLen : UInt64) :
    List GgufTensorInfo → Except TriAIError (List GgufTensorInfo)
  | [] => pure []
  | tensor :: rest =>
      match checkedSub (endRelative dataSectionStart fileLen rest) tensor.offset with
      | none => throw (invalid "invalid tensor span")
      | some size => do
          let later ← assignSpans dataSectionStart fileLen rest
          pure ({ tensor with size, dataOffset := dataSectionStart + tensor.offset } :: later)

/-- From the end of the header on: alignment, offset checks and spans. -/
def locateTensors (file : ByteVec) (headerEnd : UInt64) (metadata : GgufMetadata)
    (tensors : List GgufTensorInfo) : Except TriAIError ParsedHeader :=
  match alignUp headerEnd alignment with
  | none => throw (invalid "GGUF header alignment overflow")
  | some dataSectionStart =>
      if fileLen file < dataSectionStart then
        throw (invalid "GGUF data section lies beyond file")
      else do
        checkOffsets dataSectionStart (fileLen file) none tensors
        let tensors ← assignSpans dataSectionStart (fileLen file) tensors
        pure { metadata, tensors, dataSectionStart }

/-- `GgufReader::open` followed by `parse_header`. -/
def parseHeader (file : ByteVec) : Except TriAIError ParsedHeader :=
  match headerFields ⟨file.bytes, 0⟩ with
  | .error error => throw error
  | .ok ((metadata, tensors), cursor) =>
      locateTensors file (UInt64.ofNat cursor.position) metadata tensors

/-- What an accepted `discard` did. -/
theorem succeeds_discard {count : UInt64} {cursor after : Cursor} {result : Unit} :
    Succeeds (discard count) cursor result after ↔
      cursor.position + count.toNat < 2 ^ 64 ∧
        cursor.position + count.toNat ≤ cursor.bytes.length ∧ count.toNat < 2 ^ 63 ∧
        after = cursor.advance count.toNat := by
  have reads : ∀ {α : Type} (next : Cursor → Reader α) (value : α),
      Succeeds (get >>= next) cursor value after ↔
        Succeeds (next cursor) cursor value after := fun _ _ => Iff.rfl
  unfold discard
  rw [reads, succeeds_unless, succeeds_unless, succeeds_unless, Nat.not_le, Nat.not_lt,
    Nat.not_le]
  refine and_congr_right fun _ => and_congr_right fun _ => and_congr_right fun _ => ?_
  constructor
  · intro written
    cases written
    rfl
  · rintro rfl
    rfl

end TriAI.Chunk.Gguf
