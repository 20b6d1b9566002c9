import TriAI.Library.TextLines
import TriAI.Storage.Calls
import TriAI.Supervisor.Worker

/-!
Contract: the append-only session logs of `persistence.rs`.

Owns: the session identifiers and their files, `append` with every call it makes,
and `Scanner::load` with its limits.

Does not own: JSON. Its writer and reader are the parameter `JsonCodec`, whose
documented behaviour is `JsonCodec.Lawful`.
-/

set_option autoImplicit false

namespace TriAI.Persistence

open TriAI.Library.FileTree
open TriAI.Library.Interaction
open TriAI.Library.TextLines
open TriAI.Storage
open TriAI.Supervisor (isWhitespace)

/-- `serde_json`: `to_string` with the text of its error, and `from_str`. -/
structure JsonCodec (Value : Type) where
  toString : Value → Except String String
  fromStr : String → Option Value

/-- What is documented of compact JSON: it is one line that begins with the first
character of a value, and parsing a value ignores white space after it. -/
structure JsonCodec.Lawful {Value : Type} (json : JsonCodec Value) : Prop where
  parses : ∀ value text, json.toString value = .ok text →
    json.fromStr (text ++ "\n") = some value
  oneLine : ∀ value text, json.toString value = .ok text → '\n' ∉ text.toList
  begins : ∀ value text, json.toString value = .ok text →
    ∃ c rest, text.toList = c :: rest ∧ isWhitespace c = false

/-- `MAX_ID_LEN`. -/
def maxIdLen : Nat := 40

/-- `MAX_LINE_BYTES`. -/
def maxLineBytes : Nat := 256 * 1024

/-- `MAX_FILE_BYTES`. -/
def maxFileBytes : UInt64 := 8 * 1024 * 1024

/-- A text, which ends with the display of an I/O error where there is one. -/
structure PersistenceError where
  text : String
  cause : Option IoError := none
deriving DecidableEq, Repr

/-- `u8::is_ascii_alphanumeric`. -/
def isAsciiAlphanumeric (b : UInt8) : Bool :=
  (48 ≤ b ∧ b ≤ 57) ∨ (65 ≤ b ∧ b ≤ 90) ∨ (97 ≤ b ∧ b ≤ 122)

/-- `is_valid_session_id`. -/
def isValidSessionId (id : String) : Bool :=
  id ≠ "" ∧ (utf8Bytes id).length ≤ maxIdLen ∧
    (utf8Bytes id).all fun b => isAsciiAlphanumeric b || b == 45 || b == 95

/-- `session_path`. -/
def sessionPath (root : Path) (id : String) : Path := root ++ [id ++ ".jsonl"]

def invalidId (id : String) : PersistenceError := { text := "Ungültige Session-ID '" ++ id ++ "'" }

/-- The check both operations begin with. -/
def checkId (id : String) : Store PersistenceError Unit :=
  Store.ofExcept (if isValidSessionId id then .ok () else .error (invalidId id))

variable {Value : Type} (json : JsonCodec Value)

/-! ## Appending -/

/-- The JSON text of a value. -/
def serialize (line : Value) : Except PersistenceError String :=
  (json.toString line).mapError fun error =>
    { text := "Zeile nicht serialisierbar: " ++ error }

/-- `append`. -/
def append (id : String) (line : Value) (root : Path) : Store PersistenceError Unit := do
  checkId id
  Store.createDirAll (fun e => ⟨"Sessions-Verzeichnis nicht anlegbar: ", some e⟩) root
  let path := sessionPath root id
  Store.openAppend (fun e => ⟨"Session-Datei nicht anlegbar: ", some e⟩) path
  let text ← Store.ofExcept (serialize json line)
  Store.writeAll (fun e => ⟨"Zeile nicht schreibbar: ", some e⟩) path (utf8Bytes text)
  Store.writeAll (fun e => ⟨"Newline nicht schreibbar: ", some e⟩) path [10]
  Store.flush (fun e => ⟨"Flush fehlgeschlagen: ", some e⟩) path

/-! ## Loading -/

def overLimit (id : String) (size : Nat) : PersistenceError where
  text := "Session '" ++ id ++ "' überschreitet das Datei-Limit (" ++
    toString size ++ " > " ++ toString maxFileBytes.toNat ++ " Bytes)"

/-- The limit on the size of a file; a size that cannot be read is not checked. -/
def checkSize (id : String) : Except PersistenceError UInt64 → Except PersistenceError Unit
  | .ok size => if maxFileBytes < size then .error (overLimit id size.toNat) else .ok ()
  | .error _ => .ok ()

/-- `Session '{}' nicht lesbar: {e}`. -/
def unreadable (id : String) (error : IoError) : PersistenceError :=
  ⟨"Session '" ++ id ++ "' nicht lesbar: ", some error⟩

/-- What one line that was read adds to the values. -/
def lineValues (buf : String) : List Value :=
  if buf.toList.all isWhitespace ∨ maxLineBytes < (utf8Bytes buf).length then []
  else (json.fromStr buf).toList

/-- The loop of `load` over what `read_line` yields. -/
def loadLines (id : String) : List (List UInt8) → List Value → Except PersistenceError (List Value)
  | [], lines => .ok lines
  | raw :: rest, lines =>
      match fromUtf8 raw with
      | none => .error (unreadable id (.other "stream did not contain valid UTF-8"))
      | some buf => loadLines id rest (lines ++ lineValues json buf)

/-- `load` of a file that could be opened. -/
def loadOpened (id : String) (path : Path) : Store PersistenceError (List Value) := do
  let size ← Fallible.capture (Store.length (unreadable id) path)
  Store.ofExcept (checkSize id size)
  let content ← Store.read (unreadable id) path
  Store.ofExcept (loadLines json id (splitInclusive 10 content.bytes) [])

/-- `Scanner::load`. -/
def load (root : Path) (id : String) : Store PersistenceError (List Value) := do
  checkId id
  match ← Fallible.capture (Store.openRead (unreadable id) (sessionPath root id)) with
  | .ok () => loadOpened json id (sessionPath root id)
  | .error _ => pure []

end TriAI.Persistence
