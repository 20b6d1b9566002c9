import Mathlib.Data.List.Sort
import TriAI.Coding.Edits
import TriAI.Error
import TriAI.Library.Fallible
import TriAI.Library.FileTree

/-!
Contract: the rotation of evidence files (`evidence/rotation.rs`).

Owns: `RotationManager::list_expired` and `rotate`, call by call, with their report.

Does not own: the timer of `run_periodic`, the log, and `cleanup_orphaned_deleting`, which no
rotation calls. A time is held as its nanoseconds since the epoch.
-/

set_option autoImplicit false

namespace TriAI.Evidence

open TriAI.Coding (withExtension)
open TriAI.Library.FileTree (extension)
open TriAI.Library.Interaction

/-- `DateTime<Utc>`. -/
abbrev DateTime : Type := Int

/-- The nanoseconds of a day. -/
def day : Int := 24 * 60 * 60 * 1000000000

structure RotationConfig where
  basePath : String := "data/evidence"
  retentionDays : UInt32 := 14
  dryRun : Bool := false

/-- `Duration::days(retention_days as i64)`. -/
def RotationConfig.retention (config : RotationConfig) : Int := config.retentionDays.toNat * day

structure RotationReport where
  timestamp : DateTime
  filesScanned : UInt32
  filesDeleted : UInt32 := 0
  bytesFreed : UInt64 := 0
  errors : List String := []
  dryRun : Bool

/-- A file that has expired; its path is that of a name in the directory. -/
structure FileInfo where
  name : String
  sizeBytes : UInt64
  modified : DateTime
  ageDays : UInt32

structure Metadata where
  modified : Except IoError DateTime
  len : UInt64

/-- The calls of a rotation; a file is named below `base_path`. An error that the source only
displays is held as its text. -/
inductive RotationOp where
  /-- `Clock::now`. -/
  | now
  /-- `read_dir` and the results of `next_entry` up to its end. -/
  | readDir
  | metadata (name : String)
  | rename (source target : String)
  | removeFile (name : String)

@[reducible] def RotationOp.Reply : RotationOp → Type
  | .now => DateTime
  | .readDir => Except String (List (Except IoError String))
  | .metadata _ => Except IoError Metadata
  | .rename _ _ | .removeFile _ => Except String Unit

abbrev RotationProg (α : Type) : Type := Fallible TriAIError RotationOp RotationOp.Reply α

def clockNow : RotationProg DateTime := ExceptT.lift (Prog.perform RotationOp.now)

/-- `Path::display` of a name below `base_path`. -/
def RotationConfig.display (config : RotationConfig) (name : String) : String :=
  if config.basePath = "" ∨ config.basePath.toList.getLast? = some '/' then config.basePath ++ name
  else config.basePath ++ "/" ++ name

/-! ## Listing -/

/-- `num_days() as u32` of the time that has passed. -/
def ageDays (now modified : DateTime) : UInt32 :=
  UInt32.ofBitVec (BitVec.ofInt 32 ((now - modified).tdiv day))

/-- The loop of `list_expired` over the entries of the directory. -/
def expiredEntries (cutoff : DateTime) :
    List (Except IoError String) → List FileInfo → RotationProg (List FileInfo)
  | [], expired => pure expired
  | .error error :: _, _ => throw (.io error)
  | .ok name :: rest, expired =>
      if extension name = some "jsonl" then do
        let metadata ← Fallible.attempt .io (Prog.perform (RotationOp.metadata name))
        let modified ← match metadata.modified with
          | .ok modified => pure modified
          | .error _ => clockNow
        if modified < cutoff then do
          let now ← clockNow
          let file : FileInfo :=
            { name, sizeBytes := metadata.len, modified, ageDays := ageDays now modified }
          expiredEntries cutoff rest (expired ++ [file])
        else expiredEntries cutoff rest expired
      else expiredEntries cutoff rest expired

/-- `list_expired`, the oldest file first. -/
def listExpired (config : RotationConfig) : RotationProg (List FileInfo) := do
  let now ← clockNow
  let cutoff := now - config.retention
  let entries ← Fallible.attempt
    (fun error => .io (.other ("Failed to read evidence dir: " ++ error)))
    (Prog.perform RotationOp.readDir)
  let expired ← expiredEntries cutoff entries []
  return expired.insertionSort fun first second => first.modified ≤ second.modified

/-! ## Deleting -/

/-- A file is counted as deleted. -/
def RotationReport.deleted (report : RotationReport) (file : FileInfo) : RotationReport :=
  { report with
    filesDeleted := report.filesDeleted + 1
    bytesFreed := report.bytesFreed + file.sizeBytes }

/-- The loop of `rotate` over the files that have expired. -/
def rotateFiles (config : RotationConfig) :
    List FileInfo → RotationReport → RotationProg RotationReport
  | [], report => pure report
  | file :: rest, report =>
      if config.dryRun then rotateFiles config rest (report.deleted file)
      else do
        let deleting := withExtension file.name "jsonl.deleting"
        let renamed : Except String Unit ←
          ExceptT.lift (Prog.perform (RotationOp.rename file.name deleting))
        match renamed with
        | .ok () => do
            let removed : Except String Unit ←
              ExceptT.lift (Prog.perform (RotationOp.removeFile deleting))
            match removed with
            | .ok () => rotateFiles config rest (report.deleted file)
            | .error error => rotateFiles config rest { report with
                errors := report.errors ++
                  ["Failed to unlink " ++ config.display deleting ++ ": " ++ error] }
        | .error error => rotateFiles config rest { report with
            errors := report.errors ++
              ["Failed to rename " ++ config.display file.name ++ " for deletion: " ++ error] }

/-- `rotate`. -/
def rotate (config : RotationConfig) : RotationProg RotationReport := do
  let expired ← listExpired config
  let timestamp ← clockNow
  rotateFiles config expired
    { timestamp, filesScanned := UInt32.ofNat expired.length, dryRun := config.dryRun }

end TriAI.Evidence
