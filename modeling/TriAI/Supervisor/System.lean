import TriAI.Library.Interaction

/-!
Contract: what a worker supervisor asks of the operating system.

Owns: the handles and the calls, the in-process slot `AtomicSlot`, and the data of
`WorkerConfig` as it reaches the worker's command line.

Does not own: when the calls are made (`Supervisor.Worker`) and how a host with
several supervisors answers them (`Supervisor.Exclusion`).
-/

set_option autoImplicit false

namespace TriAI.Supervisor

open TriAI.Library.Interaction

/-- The kinds of `io::Error` that the supervisor builds or tests; any other kind is
given by its debug text. -/
inductive ErrorKind where
  | wouldBlock
  | alreadyExists
  | invalidInput
  | other (debug : String)
deriving DecidableEq, Repr

/-- An `io::Error`: its kind and the text it displays. -/
structure SysError where
  kind : ErrorKind
  message : String
deriving DecidableEq, Repr

/-! ## The slot of a process -/

/-- `AtomicSlot`: the owner of the only model slot of a process. -/
structure AtomicSlot where
  owner : Option String := none

/-- `SlotLease`: released when it is dropped. -/
structure SlotLease where
  owner : String
deriving DecidableEq, Repr

namespace AtomicSlot

/-- `AtomicSlot::acquire`. -/
def acquire (slot : AtomicSlot) (owner : String) : Except SysError SlotLease × AtomicSlot :=
  if slot.owner.isSome then (.error ⟨.wouldBlock, "single-model slot is busy"⟩, slot)
  else (.ok ⟨owner⟩, ⟨some owner⟩)

/-- `SlotLease::drop`. -/
def release (slot : AtomicSlot) (lease : SlotLease) : AtomicSlot :=
  if slot.owner = some lease.owner then ⟨none⟩ else slot

end AtomicSlot

/-! ## Workers -/

/-- `WorkerConfig`. -/
structure WorkerConfig where
  binary : String
  model : String
  modelPath : Option String
  host : String
  port : UInt16
  gpuLayers : UInt32
  ctxSize : UInt32
deriving DecidableEq, Repr

/-- A program and its arguments. -/
structure Command where
  binary : String
  args : List String
deriving DecidableEq, Repr

/-- The command that `start` spawns. -/
def WorkerConfig.command (cfg : WorkerConfig) : Command where
  binary := cfg.binary
  args :=
    ["--model", cfg.modelPath.getD cfg.model, "--host", cfg.host,
      "--port", toString cfg.port.toNat,
      -- one more offload slot for the output projection, saturating
      "--gpu-layers", toString (min (cfg.gpuLayers.toNat + 1) (2 ^ 32 - 1)),
      "--ctx-size", toString cfg.ctxSize.toNat, "--parallel", "1", "--flash-attn", "on",
      "--cache-type-k", "q8_0", "--cache-type-v", "q8_0", "--threads", "8",
      "--threads-batch", "8", "--cpu-strict", "1", "--batch-size", "512",
      "--ubatch-size", "512"]

/-- An `ExitStatus`: the code or the signal, and the text it displays. -/
structure ExitStatus where
  code : Option Int32
  signal : Option Int32
  display : String
deriving DecidableEq, Repr

/-! ## Calls -/

/-- An open lock file. -/
structure LockFile where
  fd : Nat
deriving DecidableEq, Repr

/-- A spawned child process. -/
structure Child where
  pid : Nat
deriving DecidableEq, Repr

/-- A thread that collects the standard error of a child. -/
structure StderrCapture where
  thread : Nat
deriving DecidableEq, Repr

/-- The calls of a supervisor. Durations are in nanoseconds. -/
inductive SysOp where
  | acquireSlot (owner : String)
  | releaseSlot (lease : SlotLease)
  /-- Opening `slot_lock_path()`, which is one file for all parties. -/
  | openLockFile
  /-- `flock(file, LOCK_EX | LOCK_NB)`. -/
  | flock (file : LockFile)
  | closeFile (file : LockFile)
  | spawn (command : Command)
  | startCapture (child : Child)
  /-- Stopping and joining the thread, and its decoded tail. -/
  | finishCapture (capture : StderrCapture)
  | tryWait (child : Child)
  | sigterm (child : Child)
  | kill (child : Child)
  | wait (child : Child)
  /-- `tcp_ready`. -/
  | connect (host : String) (port : UInt16)
  /-- The first bytes answered to `GET /health`, if all of the exchange succeeds. -/
  | healthResponse (host : String) (port : UInt16)
  | now
  | sleep (duration : Nat)
  /-- Where the observation of an unbounded loop ends. -/
  | blocked

/-- The reply to a spawn says whether the pipe for standard error exists. -/
@[reducible] def SysOp.Reply : SysOp → Type
  | .acquireSlot _ => Except SysError SlotLease
  | .releaseSlot _ => Unit
  | .openLockFile => Except SysError LockFile
  | .flock _ => Bool
  | .closeFile _ => Unit
  | .spawn _ => Except SysError (Child × Bool)
  | .startCapture _ => StderrCapture
  | .finishCapture _ => String
  | .tryWait _ => Except SysError (Option ExitStatus)
  | .sigterm _ => Bool
  | .kill _ => Unit
  | .wait _ => Except SysError ExitStatus
  | .connect _ _ => Bool
  | .healthResponse _ _ => Option (List UInt8)
  | .now => Nat
  | .sleep _ => Unit
  | .blocked => Empty

/-- A program over these calls. -/
abbrev Sys (α : Type) : Type := Prog SysOp SysOp.Reply α

namespace Sys

def acquireSlot (owner : String) : Sys (Except SysError SlotLease) :=
  Prog.perform (SysOp.acquireSlot owner)

def releaseSlot (lease : SlotLease) : Sys Unit := Prog.perform (SysOp.releaseSlot lease)

def openLockFile : Sys (Except SysError LockFile) := Prog.perform SysOp.openLockFile

def flock (file : LockFile) : Sys Bool := Prog.perform (SysOp.flock file)

def closeFile (file : LockFile) : Sys Unit := Prog.perform (SysOp.closeFile file)

def spawn (command : Command) : Sys (Except SysError (Child × Bool)) :=
  Prog.perform (SysOp.spawn command)

def startCapture (child : Child) : Sys StderrCapture := Prog.perform (SysOp.startCapture child)

def finishCapture (capture : StderrCapture) : Sys String :=
  Prog.perform (SysOp.finishCapture capture)

def tryWait (child : Child) : Sys (Except SysError (Option ExitStatus)) :=
  Prog.perform (SysOp.tryWait child)

def sigterm (child : Child) : Sys Bool := Prog.perform (SysOp.sigterm child)

def kill (child : Child) : Sys Unit := Prog.perform (SysOp.kill child)

def wait (child : Child) : Sys (Except SysError ExitStatus) := Prog.perform (SysOp.wait child)

def tcpReady (host : String) (port : UInt16) : Sys Bool :=
  Prog.perform (SysOp.connect host port)

def healthResponse (host : String) (port : UInt16) : Sys (Option (List UInt8)) :=
  Prog.perform (SysOp.healthResponse host port)

def now : Sys Nat := Prog.perform SysOp.now

def sleep (duration : Nat) : Sys Unit := Prog.perform (SysOp.sleep duration)

/-- The pause after a failed attempt, unless it was the last. -/
def sleepBetween (duration remaining : Nat) : Sys Unit :=
  if 0 < remaining then sleep duration else pure ()

/-- The observation ends here. -/
def blocked {α : Type} : Sys α := .call SysOp.blocked Empty.elim

end Sys

end TriAI.Supervisor
