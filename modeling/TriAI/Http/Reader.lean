import TriAI.Catalog.Model
import TriAI.Library.LossyUtf8
import TriAI.Persistence.SessionLog
import TriAI.Staging.Store

/-!
Contract: how a request is read from its connection (`http.rs`).

Owns: `read_request` with its loops over the reads, `find_header_end`, `parse_headers` and
`parse_content_length`; `valid_request_id`, `next_request_id`, and `RequestId`, which carries
its validity: a request has the id of its header, if that is valid, and else one the server
makes.

Does not own: the socket, or where ids are registered (`Http.Registry`). A run of the reader
is given by what each `read` brings; when no more comes the client has closed the connection.
-/

set_option autoImplicit false

namespace TriAI.Http

open TriAI.Catalog (trim)
open TriAI.Chat (splitWhitespace toAsciiLowercase)
open TriAI.Library.TextLines
open TriAI.Persistence (isAsciiAlphanumeric)
open TriAI.Staging (eqIgnoreAsciiCase)
open TriAI.Storage

/-! ## Ids -/

/-- `valid_request_id`. -/
def validRequestId (value : String) : Bool :=
  value ≠ "" ∧ (utf8Bytes value).length ≤ 128 ∧
    (utf8Bytes value).all fun byte => isAsciiAlphanumeric byte || (utf8Bytes "._:-").contains byte

/-- `next_request_id`, with the number of the process and the counter. -/
def nextRequestId (process : UInt32) (sequence : UInt64) : String :=
  "tri-" ++ toString process.toNat ++ "-" ++ toString sequence.toNat

/-- The id of a request. -/
@[ext] structure RequestId where
  text : String
  valid : validRequestId text = true
deriving DecidableEq

/-- The byte of a digit. -/
private theorem utf8EncodeChar_digit {c : Char} (digit : c.isDigit) :
    ∃ byte, String.utf8EncodeChar c = [byte] ∧ isAsciiAlphanumeric byte = true := by
  have range : 48 ≤ c.toNat ∧ c.toNat ≤ 57 := by
    simp only [Char.isDigit, Bool.and_eq_true, decide_eq_true_eq, ge_iff_le,
      UInt32.le_iff_toNat_le] at digit
    exact digit
  refine ⟨c.toNat.toUInt8, ?_, ?_⟩
  · have short : c.val.toNat ≤ 127 := by
      show c.toNat ≤ 127
      omega
    simp only [String.utf8EncodeChar, short, if_true]
    rfl
  · have value : c.toNat.toUInt8.toNat = c.toNat := by
      simp
      omega
    simp [isAsciiAlphanumeric, UInt8.le_iff_toNat_le, value]
    omega

/-- The bytes of digits are as many, and all are alphanumeric. -/
private theorem flatMap_digits {digits : List Char} (areDigits : ∀ c ∈ digits, c.isDigit) :
    (digits.flatMap String.utf8EncodeChar).length = digits.length ∧
    ∀ byte ∈ digits.flatMap String.utf8EncodeChar, isAsciiAlphanumeric byte = true := by
  induction digits with
  | nil => simp
  | cons c rest inductionHypothesis =>
      obtain ⟨first, others⟩ := List.forall_mem_cons.mp areDigits
      obtain ⟨byte, encoded, good⟩ := utf8EncodeChar_digit first
      obtain ⟨sameLength, allGood⟩ := inductionHypothesis others
      rw [List.flatMap_cons, encoded]
      exact ⟨by simp [sameLength], by simpa [good] using allGood⟩

/-- A number of at most 20 digits. -/
private theorem utf8Bytes_number {number : Nat} (bound : number < 10 ^ 20) :
    (utf8Bytes (toString number)).length ≤ 20 ∧
    ∀ byte ∈ utf8Bytes (toString number), isAsciiAlphanumeric byte = true := by
  rw [Nat.toString_eq_repr, utf8Bytes_eq_flatMap, Nat.toList_repr]
  have areDigits : ∀ c ∈ Nat.toDigits 10 number, c.isDigit := fun c member =>
    Nat.isDigit_of_mem_toDigits (by decide) (by decide) member
  obtain ⟨sameLength, allGood⟩ := flatMap_digits areDigits
  rw [sameLength]
  exact ⟨(Nat.length_toDigits_le_iff (by decide) (by decide)).mpr bound, allGood⟩

theorem nextRequestId_valid (process : UInt32) (sequence : UInt64) :
    validRequestId (nextRequestId process sequence) = true := by
  have boundProcess : process.toNat < 10 ^ 20 := by
    have bound := process.toNat_lt
    omega
  have boundSequence : sequence.toNat < 10 ^ 20 := by
    have bound := sequence.toNat_lt
    omega
  obtain ⟨shortProcess, goodProcess⟩ := utf8Bytes_number boundProcess
  obtain ⟨shortSequence, goodSequence⟩ := utf8Bytes_number boundSequence
  have start : (utf8Bytes "tri-").length = 4 ∧ ∀ byte ∈ utf8Bytes "tri-",
      (isAsciiAlphanumeric byte || (utf8Bytes "._:-").contains byte) = true := by
    decide +kernel
  have dash : (utf8Bytes "-").length = 1 ∧ ∀ byte ∈ utf8Bytes "-",
      (isAsciiAlphanumeric byte || (utf8Bytes "._:-").contains byte) = true := by
    decide +kernel
  have bytes : utf8Bytes (nextRequestId process sequence) =
      utf8Bytes "tri-" ++ utf8Bytes (toString process.toNat) ++ utf8Bytes "-" ++
        utf8Bytes (toString sequence.toNat) := by
    simp only [nextRequestId, utf8Bytes_append]
  have notEmpty : nextRequestId process sequence ≠ "" := by
    intro empty
    have none := congrArg (List.length ∘ utf8Bytes) empty
    simp only [Function.comp_apply, bytes, List.length_append, start.1] at none
    have zero : (utf8Bytes "").length = 0 := by decide +kernel
    omega
  unfold validRequestId
  simp only [decide_eq_true_eq, List.all_eq_true]
  refine ⟨notEmpty, ?_, ?_⟩
  · rw [bytes]
    simp only [List.length_append, start.1, dash.1]
    omega
  · intro byte member
    rw [bytes] at member
    simp only [List.mem_append] at member
    rcases member with ((inStart | inProcess) | inDash) | inSequence
    · exact start.2 byte inStart
    · simp [goodProcess byte inProcess]
    · exact dash.2 byte inDash
    · simp [goodSequence byte inSequence]

/-- The id that `read_request` gives a request. -/
def requestIdOf (header : Option String) (process : UInt32) (sequence : UInt64) : RequestId :=
  match header with
  | some value =>
      if valid : validRequestId value = true then ⟨value, valid⟩
      else ⟨nextRequestId process sequence, nextRequestId_valid process sequence⟩
  | none => ⟨nextRequestId process sequence, nextRequestId_valid process sequence⟩

/-! ## Reads -/

/-- What one `read` brings. -/
inductive SocketRead where
  | data (bytes : List UInt8)
  | interrupted
  | failed (error : IoError)

/-- `MAX_REQUEST_BODY_BYTES`. -/
def maxRequestBodyBytes : Nat := 16 * 1024 * 1024

structure ParsedRequest where
  method : String
  path : String
  body : String
  headers : String → Option String
  requestId : RequestId

/-- `read_retrying_eintr`, and the reads that are left. -/
def readRetryingEintr : List SocketRead → Except IoFailure (List UInt8) × List SocketRead
  | [] => (.ok [], [])
  | .data bytes :: rest => (.ok bytes, rest)
  | .interrupted :: rest => readRetryingEintr rest
  | .failed error :: rest => (.error { kind := error }, rest)

theorem readRetryingEintr_shorter {reads rest : List SocketRead} {first : UInt8}
    {others : List UInt8} (read : readRetryingEintr reads = (.ok (first :: others), rest)) :
    rest.length < reads.length := by
  induction reads with
  | nil => cases read
  | cons next reads inductionHypothesis =>
      cases next with
      | data bytes =>
          obtain rfl : reads = rest := (Prod.mk.inj read).2
          exact Nat.lt_succ_self _
      | interrupted =>
          have shorter := inductionHypothesis read
          exact Nat.lt_succ_of_lt shorter
      | failed error => cases read

/-! ## The header -/

/-- The end of a header. -/
def blankLine : List UInt8 := [13, 10, 13, 10]

/-- `find_header_end`. -/
def findHeaderEnd : List UInt8 → Option Nat
  | [] => none
  | byte :: rest =>
      if blankLine <+: byte :: rest then some 0 else (findHeaderEnd rest).map (· + 1)

/-- The buffer in which the end of the header was found, and the reads that are left. -/
structure HeaderRead where
  position : Nat
  buf : List UInt8
  rest : List SocketRead

/-- The first loop of `read_request`. -/
def readHeader (buf : List UInt8) (reads : List SocketRead) : Except IoFailure HeaderRead :=
  match findHeaderEnd buf with
  | some position => .ok { position, buf, rest := reads }
  | none =>
      if 64 * 1024 < buf.length then .error ⟨.invalidData, some "Header zu groß"⟩
      else
        match _ : readRetryingEintr reads with
        | (.error error, _) => .error error
        | (.ok [], _) =>
            .error ⟨.unexpectedEof, some "Verbindung vor vollständigem Header-Ende geschlossen"⟩
        | (.ok (first :: others), rest) => readHeader (buf ++ first :: others) rest
termination_by reads.length
decreasing_by exact readRetryingEintr_shorter (by assumption)

/-- `str::split_once`. -/
def splitOnce (separator : Char) (text : String) : Option (String × String) :=
  if separator ∈ text.toList then
    some (String.ofList (text.toList.takeWhile (· ≠ separator)),
      String.ofList (text.toList.dropWhile (· ≠ separator)).tail)
  else none

/-- What a line says about the length of the body. -/
def contentLengthOf (line : String) : Option (Except IoFailure Nat) := do
  let (key, value) ← splitOnce ':' line
  if eqIgnoreAsciiCase (trim key) "content-length" then
    match parseUnsigned (2 ^ 64) (trim value) with
    | some length => some (.ok length)
    | none => some (.error ⟨.invalidData, some "ungueltige Content-Length"⟩)
  else none

/-- `parse_content_length`. -/
def parseContentLength (headers : String) : Except IoFailure Nat :=
  ((lines headers).findSome? contentLengthOf).getD (.ok 0)

/-- The name and the value of a header. -/
def headerOf (line : String) : Option (String × String) := do
  let (key, value) ← splitOnce ':' line
  return (toAsciiLowercase (trim key), trim value)

/-- `parse_headers`: of two headers with one name the later counts. -/
def parseHeaders (headers : String) : String → Option String :=
  ((lines headers).tail.filterMap headerOf).foldl
    (fun map header => Function.update map header.1 (some header.2)) fun _ => none

/-- What the header of a request says. -/
structure RequestHead where
  method : String
  path : String
  headers : String → Option String
  contentLength : Nat

/-- The part of `read_request` between its loops. -/
def parseHead (headerText : String) : Except IoFailure RequestHead := do
  let parts := splitWhitespace ((lines headerText).head?.getD "")
  let method := parts.head?.getD ""
  let path := parts[1]?.getD "/"
  if method = "" then throw ⟨.invalidData, some "leere oder ungültige Request-Zeile"⟩
  let headers := parseHeaders headerText
  let contentLength ← parseContentLength headerText
  if maxRequestBodyBytes < contentLength then
    throw ⟨.invalidData, some "Request-Body ueberschreitet das Limit von 16 MiB"⟩
  return { method, path, headers, contentLength }

/-! ## The body -/

/-- The second loop of `read_request`. -/
def readBody (buf : List UInt8) (bodyEnd : Nat) (reads : List SocketRead) :
    Except IoFailure (List UInt8) :=
  if bodyEnd ≤ buf.length then .ok buf
  else
    match _ : readRetryingEintr reads with
    | (.error error, _) => .error error
    | (.ok [], _) =>
        .error ⟨.unexpectedEof, some "Verbindung vor vollständigem Body geschlossen"⟩
    | (.ok (first :: others), rest) => readBody (buf ++ first :: others) bodyEnd rest
termination_by reads.length
decreasing_by exact readRetryingEintr_shorter (by assumption)

/-- The request of a header and the bytes of its body. -/
def RequestHead.request (head : RequestHead) (body : List UInt8) (process : UInt32)
    (sequence : UInt64) : ParsedRequest where
  method := head.method
  path := head.path
  body := fromUtf8Lossy body
  headers := head.headers
  requestId := requestIdOf (head.headers "x-request-id") process sequence

/-- `read_request`. -/
def readRequest (process : UInt32) (sequence : UInt64) (reads : List SocketRead) :
    Except IoFailure ParsedRequest := do
  let header ← readHeader [] reads
  let head ← parseHead (fromUtf8Lossy (header.buf.take header.position))
  let bodyStart := header.position + 4
  let bodyEnd := bodyStart + head.contentLength
  let buf ← readBody header.buf bodyEnd header.rest
  return head.request ((buf.take bodyEnd).drop bodyStart) process sequence

end TriAI.Http
