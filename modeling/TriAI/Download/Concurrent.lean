import TriAI.Download.Client
import TriAI.Storage.Files

/-!
Contract: several downloads of one file (`download.rs`).

Owns: the runs which any number of `create` calls with one URL and one file name start
over one staging store, each with its own handle and connection; the server of a content;
and the interleavings of their calls.

Does not own: cancellation, which a run may see at any time here, and what the runs come
to (`Download.Contents`). A write follows the path of its open file, which is exact
unless another run renames or removes that file in between.
-/

set_option autoImplicit false

namespace TriAI.Download

open TriAI.Library.FileTree
open TriAI.Library.Interaction
open TriAI.Staging
open TriAI.Storage

/-! ## The server -/

/-- What a server has still to deliver of a response, and whether it announced how much
that is. -/
structure Connection where
  body : List UInt8 := []
  announced : Bool := false

/-- A server of a content that follows the range rules. A request may fail and a
connection may break at any time; where no length was announced, the end of the body is
seen only at its end. -/
def Serves (content : List UInt8) (connection : Connection) :
    (op : OutsideOp) → op.Reply → Connection → Prop
  | .get _ first, .ok response, after =>
      if 300 ≤ response.status ∧ response.status < 400 then after = connection
      else
        after.announced = response.length.isSome ∧
        (∀ length, response.length = some length →
          length = UInt64.ofNat after.body.length) ∧
        match first with
        | none => after.body = content
        | some start =>
            (response.status = 206 ∧ after.body = content.drop start.toNat) ∨
              (response.status ≠ 206 ∧ after.body = content)
  | .read limit, .ok chunk, after =>
      chunk.length ≤ limit ∧ (chunk = [] → connection.body = [] ∨ connection.announced = true) ∧
        connection.body = chunk ++ after.body ∧ after.announced = connection.announced
  | _, _, after => after = connection

/-! ## The runs -/

/-- What all runs have in common, and what each has of its own. -/
structure SharedDownload where
  root : Path
  modelsDir : Path
  stableHash : String → UInt64
  processId : Nat
  nanos : Nat → Nat
  url : String
  fileName : String
  expectedSizeBytes : Nat → Option UInt64
  urls : UrlLibrary
  rounds : Nat → Nat
  tool : Sha256sum
  content : ByteVec

namespace SharedDownload

variable (shared : SharedDownload)

/-- The job of one `create` without a pinned digest. -/
def job (id : Nat) : Job :=
  jobOf shared.root shared.modelsDir shared.stableHash shared.processId (shared.nanos id) {
    url := shared.url
    fileName := shared.fileName
    expectedSizeBytes := shared.expectedSizeBytes id
    sha256 := none }

/-- The part file all runs append to. -/
def part : Path := partPath shared.root shared.fileName (shared.stableHash shared.url)

def target : Path := shared.modelsDir ++ [shared.fileName]

/-- The thread of one `create`. -/
def run (id : Nat) : Prog DownloadOp DownloadOp.Reply Bool := do
  let _ ← (shared.job id).runDownload shared.urls (shared.rounds id)
  pure true

end SharedDownload

/-- The disk, the handles and connections of the runs, and, of every run that has ended
`Completed`, what it installed. -/
structure SharedWorld where
  disk : Disk
  handles : Nat → DownloadHandle := fun _ => {}
  connections : Nat → Connection := fun _ => {}
  installed : Nat → Option ByteVec := fun _ => none

/-- What a run finds installed when it enters a phase. -/
def installedAt (shared : SharedDownload) (world : SharedWorld) (id : Nat) :
    HandleOp → Nat → Option ByteVec
  | .setPhase .completed =>
      Function.update world.installed id (world.disk.file shared.target)
  | _ => world.installed

/-- The answers to one run. -/
def SharedWorld.Answers (shared : SharedDownload) (id : Nat) (world : SharedWorld) :
    (op : DownloadOp) → op.Reply → SharedWorld → Prop
  | .store op, reply, after =>
      ∃ disk, op.apply shared.tool world.disk = (reply, disk) ∧ after = { world with disk }
  | .outside op, reply, after =>
      ∃ connection, Serves shared.content.bytes (world.connections id) op reply connection ∧
        after = { world with connections := Function.update world.connections id connection }
  | .handle op, reply, after =>
      ∃ handle, op.apply (world.handles id) = (reply, handle) ∧
        after = { world with
          handles := Function.update world.handles id handle
          installed := installedAt shared world id op }

/-- Any number of runs, each of which is begun once. -/
def sharedSystem (shared : SharedDownload) :
    System Nat DownloadOp DownloadOp.Reply Bool SharedWorld where
  Offers := fun id begun program => begun = false ∧ program = shared.run id
  Step := SharedWorld.Answers shared
  Environment := fun _ _ => False

abbrev SharedPool : Type := Pool Nat DownloadOp DownloadOp.Reply Bool SharedWorld

/-- No run has begun. -/
def freshPool (disk : Disk) : SharedPool where
  world := { disk }
  activity := fun _ => .resting false

/-- A call that needs a file: one of the staging store, or the report that the file is
installed. -/
def NeedsFile : DownloadOp → Prop
  | .store _ => True
  | .handle (.setPhase .completed) => True
  | _ => False

/-- A run has made its first call and may still need a file. -/
def AtWork (shared : SharedDownload) (pool : SharedPool) (id : Nat) : Prop :=
  ∃ program, pool.activity id = .running program ∧ program ≠ shared.run id ∧
    ¬ program.Only fun op => ¬ NeedsFile op

/-- A move that changes a file leaves no run at work standing by. -/
def Alone (shared : SharedDownload) (pool next : SharedPool) : Prop :=
  next.world.disk.file ≠ pool.world.disk.file →
    ∀ id, AtWork shared pool id → next.activity id ≠ pool.activity id

/-- A run of the system whose every move is made alone. -/
def AloneRun (shared : SharedDownload) (disk : Disk) : SharedPool → Prop :=
  Relation.ReflTransGen (fun pool next => (sharedSystem shared).Moves pool next ∧
    Alone shared pool next)
    (freshPool disk)

/-- What lies in the part file is a beginning of the content. -/
def PartOf (content : ByteVec) (part : Path) (files : Files) : Prop :=
  ∀ found, files part = some found → found.bytes <+: content.bytes

end TriAI.Download
