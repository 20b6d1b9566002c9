import TriAI.GgufRegistry
import TriAI.Library.Subprogram
import TriAI.Staging.Store

/-!
Contract: one download of `download.rs`.

Owns: the checks of `create`, and `run_download` with everything it calls: every
call on the staging store, the connection and the handle, and every error text.

Does not own: address resolution, the check of the free disk space, the log events
and the rescan of the catalogue, which no error can reach. A download is followed
for any number of reads of its response. The clock and the process number are
arguments.
-/

set_option autoImplicit false

namespace TriAI.Download

open TriAI.Library.FileTree
open TriAI.Library.Interaction
open TriAI.Library.TextLines
open TriAI.Staging
open TriAI.Storage

structure DownloadRequest where
  url : String
  fileName : String
  expectedSizeBytes : Option UInt64
  sha256 : Option String
deriving DecidableEq, Repr

inductive DownloadPhase where
  | downloading
  | verifying
  | completed
  | failed
  | cancelled
deriving DecidableEq, Repr

/-- The message of a failed download: a text, and the error whose text follows it. -/
structure DownloadFailure where
  text : String
  cause : Option IoFailure := none
deriving DecidableEq, Repr

inductive DownloadError where
  | invalidRequest (message : String)
deriving DecidableEq, Repr

/-- `DownloadHandle`, without the flag that other threads set. -/
structure DownloadHandle where
  phase : DownloadPhase := .downloading
  bytesDownloaded : UInt64 := 0
  totalBytes : Option UInt64 := none
  message : Option DownloadFailure := none
deriving DecidableEq, Repr

/-- What the code reads of a `url::Url`. -/
structure Url where
  scheme : String
  host : Option String
  text : String

/-- `Url::parse` and `Url::join`; an error is its text. -/
structure UrlLibrary where
  parse : String → Except String Url
  join : Url → String → Except String Url

/-- The parts of a response that are read before its body. -/
structure Response where
  status : Nat
  location : Option String
  contentLength : Option String

def maxRedirects : Nat := 5

def readChunk : Nat := 64 * 1024

/-! ## `create` -/

/-- `validate_file_name`. -/
def validateFileName (name : String) : Except DownloadError Unit :=
  if name = "" ∨ name = "." ∨ name = ".." ∨ '/' ∈ name.toList ∨ '\\' ∈ name.toList ∨
      ['.', '.'] <:+: name.toList then
    .error (.invalidRequest "file_name ist ungueltig (kein Pfad, kein Traversal)")
  else .ok ()

/-- `u8::is_ascii_hexdigit`. -/
def isAsciiHexdigit (byte : UInt8) : Bool :=
  (48 ≤ byte ∧ byte ≤ 57) ∨ (65 ≤ byte ∧ byte ≤ 70) ∨ (97 ≤ byte ∧ byte ≤ 102)

/-- `valid_sha256_hex`. -/
def validSha256Hex (value : String) : Bool :=
  (utf8Bytes value).length = 64 ∧ (utf8Bytes value).all isAsciiHexdigit

/-- The checks of `create` on the URL. -/
def checkUrl (urls : UrlLibrary) (url : String) : Except DownloadError Unit :=
  match urls.parse url with
  | .error error => .error (.invalidRequest ("URL ungueltig: " ++ error))
  | .ok parsed =>
      if parsed.scheme ≠ "https" then
        .error (.invalidRequest "nur https:// wird unterstuetzt")
      else if parsed.host = none then .error (.invalidRequest "URL enthaelt keinen Host")
      else .ok ()

/-- The checks of `create` on the digest. -/
def checkSha256 : Option String → Except DownloadError Unit
  | none => .ok ()
  | some sha =>
      if validSha256Hex sha then .ok ()
      else .error (.invalidRequest "sha256 muss aus 64 Hex-Zeichen bestehen")

/-- The checks of `create`. -/
def checkRequest (urls : UrlLibrary) (request : DownloadRequest) : Except DownloadError Unit := do
  validateFileName request.fileName
  checkUrl urls request.url
  checkSha256 request.sha256

/-! ## Calls -/

/-- What is decided outside: by the server and by the caller of `cancel`. -/
inductive OutsideOp where
  /-- `agent.get(url)`, with the header `Range: bytes={first}-` if there is a `first`,
  and `call()`, which reports a status from 400 on as an error. -/
  | get (url : String) (first : Option UInt64)
  /-- `reader.read` into a buffer of this size. -/
  | read (limit : Nat)
  | cancelRequested
deriving DecidableEq

@[reducible] def OutsideOp.Reply : OutsideOp → Type
  | .get _ _ => Except String Response
  | .read _ => Except IoFailure (List UInt8)
  | .cancelRequested => Bool

inductive HandleOp where
  | phase
  | setPhase (next : DownloadPhase)
  | bytesDownloaded
  | setBytesDownloaded (bytes : UInt64)
  | addBytesDownloaded (bytes : UInt64)
  | setTotalBytes (total : Option UInt64)
  | setMessage (message : DownloadFailure)
deriving DecidableEq

@[reducible] def HandleOp.Reply : HandleOp → Type
  | .phase => DownloadPhase
  | .bytesDownloaded => UInt64
  | _ => Unit

def HandleOp.apply : (op : HandleOp) → DownloadHandle → op.Reply × DownloadHandle
  | .phase, handle => (handle.phase, handle)
  | .setPhase next, handle => ((), { handle with phase := next })
  | .bytesDownloaded, handle => (handle.bytesDownloaded, handle)
  | .setBytesDownloaded bytes, handle => ((), { handle with bytesDownloaded := bytes })
  | .addBytesDownloaded bytes, handle =>
      ((), { handle with bytesDownloaded := handle.bytesDownloaded + bytes })
  | .setTotalBytes total, handle => ((), { handle with totalBytes := total })
  | .setMessage message, handle => ((), { handle with message := some message })

inductive DownloadOp where
  | store (op : StoreOp)
  | outside (op : OutsideOp)
  | handle (op : HandleOp)

@[reducible] def DownloadOp.Reply : DownloadOp → Type
  | .store op => op.Reply
  | .outside op => op.Reply
  | .handle op => op.Reply

/-- A program of the download that fails with a message. -/
abbrev Client (α : Type) : Type := Fallible DownloadFailure DownloadOp DownloadOp.Reply α

namespace Client

/-- The calls of the staging store. -/
def onStore {α : Type} (program : Prog StoreOp StoreOp.Reply α) :
    Prog DownloadOp DownloadOp.Reply α :=
  program.embed DownloadOp.store fun _ reply => reply

/-- A step of the staging store: `map_err(|err| format!("{context}{err}"))`. -/
def stage {α : Type} (context : String) (program : Stage α) : Client α :=
  Fallible.attempt (fun error => { text := context, cause := some error }) (onStore program.run)

/-- A step of the staging store whose result is dropped. -/
def ignore {α : Type} (program : Stage α) : Client Unit :=
  ExceptT.lift (do
    let _ ← onStore program.run
    pure ())

def onHandle (op : HandleOp) : Client op.Reply := ExceptT.lift (Prog.perform (DownloadOp.handle op))

def get (url : String) (first : Option UInt64) : Client Response :=
  Fallible.attempt (fun error => { text := "Download fehlgeschlagen: " ++ error })
    (Prog.perform (DownloadOp.outside (.get url first)))

def read : Client (List UInt8) :=
  Fallible.attempt
    (fun error => { text := "Lesefehler beim Download: ", cause := some error })
    (Prog.perform (DownloadOp.outside (.read readChunk)))

def cancelRequested : Client Bool :=
  ExceptT.lift (Prog.perform (DownloadOp.outside .cancelRequested))

/-- A pure step that may fail. -/
def ofExcept {α : Type} (result : Except DownloadFailure α) : Client α := ExceptT.mk (.ret result)

end Client

/-! ## `try_download` -/

/-- The `Range` header of a request: it is set if something was downloaded before. -/
def rangeStart (resumeFrom : UInt64) : Option UInt64 :=
  if 0 < resumeFrom then some resumeFrom else none

/-- The target of a redirect. -/
def redirectTarget (urls : UrlLibrary) (requiredScheme currentUrl : String)
    (response : Response) : Except DownloadFailure String :=
  match response.location with
  | none => .error { text := "Redirect ohne Location-Header" }
  | some location =>
      match (urls.parse currentUrl).bind fun base => urls.join base location with
      | .error error => .error { text := "Redirect-Ziel ungueltig: " ++ error }
      | .ok next =>
          if next.scheme ≠ requiredScheme then
            .error { text := "Redirect verweist auf ein Nicht-" ++ requiredScheme ++ "-Ziel" }
          else .ok next.text

/-- The loop over redirects, of which `remaining` are left. -/
def fetch (urls : UrlLibrary) (requiredScheme : String) (resumeFrom : UInt64) :
    Nat → String → Client Response
  | remaining, currentUrl => do
      let response ← Client.get currentUrl (rangeStart resumeFrom)
      if 300 ≤ response.status ∧ response.status < 400 then
        match remaining with
        | 0 => throw { text := "mehr als " ++ toString maxRedirects ++ " Redirects" }
        | remaining + 1 => do
            let next ← Client.ofExcept (redirectTarget urls requiredScheme currentUrl response)
            fetch urls requiredScheme resumeFrom remaining next
      else pure response

/-- The part file is opened, and its length shown. -/
def openPart (root : Path) (blockId : String) (generation : UInt64) (context : String) :
    Client UInt64 := do
  let resumeFrom ← Client.stage context (openPartForResume root blockId generation)
  Client.onHandle (.setBytesDownloaded resumeFrom)
  pure resumeFrom

/-- Where the body of the response begins. A response that is not partial begins
anew. -/
def bodyStart (root : Path) (blockId : String) (generation : UInt64) (resumeFrom : UInt64)
    (response : Response) : Client UInt64 :=
  if 0 < resumeFrom ∧ response.status ≠ 206 then do
    Client.stage "verworfene Teildatei nicht loeschbar: " (discardPart root blockId generation)
    openPart root blockId generation "Staging-Datei nicht neu oeffenbar: "
  else pure resumeFrom

/-- `value.parse().ok()` of the header `Content-Length`. -/
def Response.length (response : Response) : Option UInt64 :=
  response.contentLength.bind fun value => (parseUnsigned (2 ^ 64) value).map UInt64.ofNat

/-- The announced size against the requested one. -/
def checkTotal : Option UInt64 → Option UInt64 → Except DownloadFailure Unit
  | some expected, some total =>
      if expected ≠ total then
        .error { text := "Server meldet " ++ toString total.toNat ++ " Bytes, erwartet wurden " ++
          toString expected.toNat }
      else .ok ()
  | _, _ => .ok ()

/-- How the loop over the body ended; `unfinished` is a download that goes on. -/
inductive BodyEnd where
  | complete
  | cancelled
  | unfinished

/-- The first rounds of the loop over the body. -/
def readBody (root : Path) (blockId : String) (generation : UInt64) : Nat → Client BodyEnd
  | 0 => pure .unfinished
  | rounds + 1 => do
      if ← Client.cancelRequested then do
        Client.ignore (discardPart root blockId generation)
        Client.onHandle (.setPhase .cancelled)
        pure .cancelled
      else do
        let chunk ← Client.read
        if chunk = [] then pure .complete
        else do
          Client.stage "Schreibfehler beim Staging: "
            (Store.writeAll os (partPath root blockId generation) chunk)
          Client.onHandle (.addBytesDownloaded (UInt64.ofNat chunk.length))
          readBody root blockId generation rounds

/-- What was received of this response against what it announced. -/
def checkReceived (received : UInt64) : Option UInt64 → Except DownloadFailure Unit
  | none => .ok ()
  | some expected =>
      if received ≠ expected then
        .error { text := "Verbindung unterbrochen: " ++ toString received.toNat ++ " von " ++
          toString expected.toNat ++ " angekuendigten Bytes empfangen" }
      else .ok ()

/-- `gguf_registry::inspect` of a file. -/
def inspectFile (path : Path) : Stage GgufRegistry.GgufMetadata := do
  let content ← Store.read os path
  Store.ofExcept (GgufRegistry.inspect content)

/-- The staged data and their marker are removed, if they can be. -/
def removeStaged (root : Path) (blockId : String) (generation : UInt64) : Client Unit := do
  Client.ignore (Store.removeFile os (blobPath root blockId generation))
  Client.ignore (Store.removeFile os (commitPath root blockId generation))

/-- The staged data are inspected, and removed if they are no GGUF file. -/
def inspectStaged (root : Path) (blockId : String) (generation : UInt64) : Client Unit :=
  Fallible.onError
    (do
      let _ ← Client.stage "keine gueltige GGUF-Datei: "
        (inspectFile (blobPath root blockId generation))
      pure ())
    (removeStaged root blockId generation)

/-- The file a download ends in. -/
def targetPath (modelsDir : Path) (request : DownloadRequest) : Path :=
  modelsDir ++ [request.fileName]

/-- The arguments of `try_download` that stay the same: the staging store, the models
directory, the block, and the clock and process number of `restore_active`. -/
structure Job where
  root : Path
  modelsDir : Path
  blockId : String
  generation : UInt64
  processId : Nat
  nanos : Nat
  request : DownloadRequest

namespace Job

variable (job : Job)

/-- From the end of the body to the staged file. -/
def verify (resumeFrom : UInt64) (announced : Option UInt64) : Client Unit := do
  Client.stage "Teildatei nicht durchsynchronisierbar: "
    (Store.syncAll os (partPath job.root job.blockId job.generation))
  let downloaded ← Client.onHandle .bytesDownloaded
  Client.ofExcept (checkReceived (downloaded - resumeFrom) announced)
  Client.onHandle (.setPhase .verifying)
  let _ ← Client.stage "Verifikation fehlgeschlagen: "
    (finalizePart job.root job.blockId job.generation job.request.sha256)
  inspectStaged job.root job.blockId job.generation

/-- The staged file is put into the models directory. -/
def install : Client Unit := do
  Client.stage "Modellverzeichnis nicht anlegbar: " (Store.createDirAll os job.modelsDir)
  Client.stage "Uebernahme ins Modellverzeichnis fehlgeschlagen: "
    (restoreActive job.root job.processId job.nanos job.blockId job.generation
      (targetPath job.modelsDir job.request))
  removeStaged job.root job.blockId job.generation
  Client.onHandle (.setPhase .completed)

/-- `try_download` up to the body of the response: where it begins and the length it
announces. -/
def connect (urls : UrlLibrary) (requiredScheme : String) :
    Client (UInt64 × Option UInt64) := do
  let resumeFrom ← openPart job.root job.blockId job.generation
    "Staging-Datei nicht oeffenbar: "
  let response ← fetch urls requiredScheme resumeFrom maxRedirects job.request.url
  let start ← bodyStart job.root job.blockId job.generation resumeFrom response
  let total := response.length.map fun length => start + length
  Client.onHandle (.setTotalBytes total)
  Client.ofExcept (checkTotal job.request.expectedSizeBytes total)
  pure (start, response.length)

/-- `try_download`, followed for the first `rounds` reads of the body. -/
def tryDownload (urls : UrlLibrary) (requiredScheme : String) (rounds : Nat) : Client Unit := do
  let (start, announced) ← job.connect urls requiredScheme
  match ← readBody job.root job.blockId job.generation rounds with
  | .complete => do
      job.verify start announced
      job.install
  | .cancelled | .unfinished => pure ()

/-- What `run_download` does with the outcome. -/
def conclude : Except DownloadFailure Unit → Prog DownloadOp DownloadOp.Reply Unit
  | .ok () => pure ()
  | .error message => do
      let phase : DownloadPhase ← Prog.perform (DownloadOp.handle .phase)
      if phase = .cancelled then pure ()
      else do
        let _ ← Prog.perform (DownloadOp.handle (.setMessage message))
        let _ ← Prog.perform (DownloadOp.handle (.setPhase .failed))
        pure ()

/-- `run_download`. -/
def runDownload (urls : UrlLibrary) (rounds : Nat) : Prog DownloadOp DownloadOp.Reply Unit := do
  let outcome ← (job.tryDownload urls "https" rounds).run
  conclude outcome

end Job

/-- The job of an accepted request: `create` names the block after the file, and its
generation after the URL by `stableHash`. -/
def jobOf (root modelsDir : Path) (stableHash : String → UInt64) (processId nanos : Nat)
    (request : DownloadRequest) : Job where
  root := root
  modelsDir := modelsDir
  blockId := request.fileName
  generation := stableHash request.url
  processId := processId
  nanos := nanos
  request := request

/-! ## Worlds -/

/-- The disk, the handle, and what the outside remembers. -/
structure World (Outside : Type) where
  disk : Disk
  handle : DownloadHandle
  outside : Outside

/-- The world answers as the disk and the outside do. -/
def World.Answers {Outside : Type} (onDisk : Disk → (op : StoreOp) → op.Reply → Disk → Prop)
    (onOutside : Outside → (op : OutsideOp) → op.Reply → Outside → Prop) (world : World Outside) :
    (op : DownloadOp) → op.Reply → World Outside → Prop
  | .store op, reply, after =>
      ∃ disk, onDisk world.disk op reply disk ∧ after = { world with disk }
  | .outside op, reply, after =>
      ∃ outside, onOutside world.outside op reply outside ∧ after = { world with outside }
  | .handle op, reply, after =>
      op.apply world.handle = (reply, after.handle) ∧ after = { world with handle := after.handle }

end TriAI.Download
