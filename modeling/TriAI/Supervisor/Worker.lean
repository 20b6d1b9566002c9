import TriAI.Supervisor.System

/-!
Contract: `WorkerSupervisor`, the owner of one worker process.

Owns: the supervisor's fields and its operations `start`, `startAndWait`,
`startAndWaitWithRetry`, `refresh` and `stop` with everything they call, in the
order in which they call it. Values that Rust drops are released where it drops
them. Dropping a supervisor is `stop`.

Does not own: the event log, which no operation reads, and the environment of the
spawned process.
-/

set_option autoImplicit false

namespace TriAI.Supervisor

open TriAI.Library.Interaction

/-- `WorkerState`. -/
inductive WorkerState where
  | stopped
  | starting
  | ready
  | failed
deriving DecidableEq, Repr

/-- `WorkerFailureCode`. -/
inductive WorkerFailureCode where
  | workerTimeout
  | workerCrashed
  | outOfMemory
  | portConflict
  | corruptModel
  | spawnFailed
  | slotBusy
deriving DecidableEq, Repr

/-- `WorkerFailure`. -/
structure WorkerFailure where
  code : WorkerFailureCode
  message : String
  stderrTail : String := ""
deriving DecidableEq, Repr

/-- `WorkerSupervisor`; `{}` is `WorkerSupervisor::new()`. -/
structure WorkerSupervisor where
  child : Option Child := none
  state : WorkerState := .stopped
  activeModel : Option String := none
  slotLock : Option LockFile := none
  processSlot : Option SlotLease := none
  stderrCapture : Option StderrCapture := none
  lastFailure : Option WorkerFailure := none
deriving DecidableEq, Repr

/-! ## Probes -/

/-- The characters `char::is_whitespace` accepts. -/
def isWhitespace (c : Char) : Bool :=
  let n := c.toNat
  (0x09 ≤ n ∧ n ≤ 0x0D) ∨ n = 0x20 ∨ n = 0x85 ∨ n = 0xA0 ∨ n = 0x1680 ∨
    (0x2000 ≤ n ∧ n ≤ 0x200A) ∨ n = 0x2028 ∨ n = 0x2029 ∨ n = 0x202F ∨ n = 0x205F ∨ n = 0x3000

/-- `str::split_whitespace`. -/
def splitWhitespace (text : List Char) : List (List Char) :=
  (text.splitOnP isWhitespace).filter (· ≠ [])

/-- The digits of `u16::from_str`: at least one, after an optional plus sign. -/
def parseU16 (text : List Char) : Option Nat :=
  let digits := if text.head? = some '+' then text.tail else text
  if digits = [] ∨ ¬ digits.all Char.isDigit then none
  else
    let value := digits.foldl (fun soFar digit => 10 * soFar + (digit.toNat - '0'.toNat)) 0
    if value < 2 ^ 16 then some value else none

/-- `health_status_ready`: what the first line of an HTTP response says. -/
def healthStatusReady (response : List UInt8) : Option Bool := do
  let line := response.takeWhile (· ≠ 10)
  let text ← String.fromUTF8? ⟨line.toArray⟩
  match splitWhitespace (text.toList.reverse.dropWhile (· = '\r')).reverse with
  | version :: status :: _ =>
      if version ≠ "HTTP/1.1".toList ∧ version ≠ "HTTP/1.0".toList then none
      else
        let code ← parseU16 status
        if 200 ≤ code ∧ code ≤ 299 then some true
        else if 500 ≤ code ∧ code ≤ 599 then some false
        else none
  | _ => none

/-- `worker_health_ready`. -/
def workerHealthReady (host : String) (port : UInt16) : Sys (Option Bool) := do
  let response ← Sys.healthResponse host port
  pure (response.bind healthStatusReady)

/-! ## Failures -/

/-- Whether a lower-case text holds one of the markers. -/
def containsAny (lower : String) (markers : List String) : Bool :=
  markers.any fun marker => marker.toList <:+: lower.toList

/-- `classify_exit`. `Char.toLower` is the ASCII mapping. -/
def classifyExit (status : ExitStatus) (stderrTail : String) : WorkerFailure :=
  let lower := stderrTail.map Char.toLower
  let oom := status.code = some 137 ∨ status.signal = some 9 ∨
    containsAny lower
      ["out of memory", "cuda_error_out_of_memory", "failed to allocate",
        "cannot allocate memory"]
  let portConflict := containsAny lower
    ["address already in use", "failed to bind", "bind: address"]
  let corruptModel := containsAny lower
    ["invalid gguf", "failed to load model", "unknown model architecture",
      "invalid model file"]
  { code :=
      if oom then .outOfMemory
      else if portConflict then .portConflict
      else if corruptModel then .corruptModel
      else .workerCrashed
    message := "Worker wurde vor Readiness beendet (" ++ status.display ++ ")"
    stderrTail }

/-! ## Ending a child -/

/-- `GRACEFUL_STOP_POLL_ATTEMPTS`. -/
def gracefulStopPollAttempts : Nat := 20

/-- The polling loop of `terminate_child`: whether the child was seen to exit. -/
def pollExit (child : Child) : Nat → Sys Bool
  | 0 => pure false
  | remaining + 1 => do
      match ← Sys.tryWait child with
      | .ok (some _) => pure true
      | .ok none =>
          Sys.sleepBetween 25000000 remaining
          pollExit child remaining
      | .error _ => pure false

/-- The grace period of `terminate_child`. -/
def gracefulExit (sigtermSent : Bool) (child : Child) : Sys Bool :=
  if sigtermSent then pollExit child gracefulStopPollAttempts else pure false

/-- The escalation of `terminate_child`. -/
def killUnless (exited : Bool) (child : Child) : Sys Unit :=
  if exited then pure () else Sys.kill child

/-- `terminate_child`. -/
def terminateChild (child : Child) : Sys Unit := do
  let sigtermSent ← Sys.sigterm child
  let exited ← gracefulExit sigtermSent child
  killUnless exited child
  let _ ← Sys.wait child

/-! ## Values taken and dropped -/

/-- Ending the child that was held, if any. -/
def endChild (terminate : Bool) : Option Child → Sys Unit
  | some child => if terminate then terminateChild child else do let _ ← Sys.wait child
  | none => pure ()

/-- Finishing the capture that was held, if any. -/
def finishTail : Option StderrCapture → Sys String
  | some capture => Sys.finishCapture capture
  | none => pure ""

/-- Dropping an optional lease. -/
def dropLease : Option SlotLease → Sys Unit
  | some lease => Sys.releaseSlot lease
  | none => pure ()

/-- Dropping an optional lock file. -/
def dropFile : Option LockFile → Sys Unit
  | some file => Sys.closeFile file
  | none => pure ()

namespace WorkerSupervisor

/-- `self.slot_lock = None; self.process_slot = None`. -/
def releaseLocks (self : WorkerSupervisor) : Sys WorkerSupervisor := do
  dropFile self.slotLock
  dropLease self.processSlot
  pure { self with slotLock := none, processSlot := none }

/-- `self.state = state`. -/
def setState (self : WorkerSupervisor) (state : WorkerState) : WorkerSupervisor :=
  { self with state }

/-- The state `Failed` with a failure to report. -/
def failed (self : WorkerSupervisor) (failure : WorkerFailure) : WorkerSupervisor :=
  { self with state := .failed, lastFailure := some failure }

/-! ## Starting -/

/-- The attempts of `start` to lock the file. -/
def flockRetry (lock : LockFile) : Nat → Sys Bool
  | 0 => pure false
  | remaining + 1 => do
      if ← Sys.flock lock then pure true
      else
        Sys.sleepBetween 5000000 remaining
        flockRetry lock remaining

/-- `start` once the slot is locked. -/
def startLocked (self : WorkerSupervisor) (cfg : WorkerConfig) :
    Sys (Except SysError Unit × WorkerSupervisor) := do
  match ← Sys.spawn cfg.command with
  | .ok (child, true) =>
      let capture ← Sys.startCapture child
      pure (.ok (),
        { self with
          stderrCapture := some capture
          child := some child
          activeModel := some cfg.model
          lastFailure := none })
  | .ok (child, false) =>
      terminateChild child
      let released ← self.releaseLocks
      pure (.error ⟨.other "Other", "worker stderr pipe missing"⟩,
        released.failed ⟨.spawnFailed, "Worker-Stderr-Pipe wurde nicht angelegt", ""⟩)
  | .error error =>
      let released ← self.releaseLocks
      pure (.error error,
        released.failed ⟨.spawnFailed,
          "Worker-Prozess konnte nicht gestartet werden: " ++ error.message, ""⟩)

/-- `start` once the process slot is leased. -/
def startLeased (self : WorkerSupervisor) (cfg : WorkerConfig) :
    Sys (Except SysError Unit × WorkerSupervisor) := do
  match ← Sys.openLockFile with
  | .error error => pure (.error error, self)
  | .ok lock =>
      if ← flockRetry lock 20 then
        dropFile self.slotLock
        startLocked { self with slotLock := some lock, state := .starting } cfg
      else
        dropLease self.processSlot
        Sys.closeFile lock
        pure (.error ⟨.wouldBlock, "another TRI-AI runner owns the single-model slot"⟩,
          failed { self with processSlot := none }
            ⟨.slotBusy, "ein anderer TRI-AI-Runner besitzt den einzigen Modell-Slot", ""⟩)

/-- `start`. -/
def start (self : WorkerSupervisor) (cfg : WorkerConfig) :
    Sys (Except SysError Unit × WorkerSupervisor) :=
  if self.child.isSome ∨ self.activeModel.isSome then
    pure (.error ⟨.alreadyExists, "single-model slot is busy"⟩, self)
  else do
    match ← Sys.acquireSlot cfg.model with
    | .error error => pure (.error error, self.failed ⟨.slotBusy, error.message, ""⟩)
    | .ok lease =>
        -- the new lease is taken before the old one, if any, is dropped
        dropLease self.processSlot
        startLeased { self with processSlot := some lease } cfg

/-! ## Stopping -/

/-- `cleanup_failed_worker`: the tail of the worker's standard error. -/
def cleanupFailedWorker (self : WorkerSupervisor) (terminate : Bool) :
    Sys (String × WorkerSupervisor) := do
  endChild terminate self.child
  let stderrTail ← finishTail self.stderrCapture
  let released ← self.releaseLocks
  pure (stderrTail,
    { released with child := none, stderrCapture := none, activeModel := none, state := .failed })

/-- `stop`. It never fails. -/
def stop (self : WorkerSupervisor) : Sys (Except SysError Unit × WorkerSupervisor) := do
  endChild true self.child
  let _ ← finishTail self.stderrCapture
  let released ← self.releaseLocks
  pure (.ok (),
    { released with
      child := none, stderrCapture := none, activeModel := none, state := .stopped
      lastFailure := none })

/-! ## Waiting -/

/-- A worker that is given up: cleaned up, and the failure that says why. -/
def giveUp (self : WorkerSupervisor) (terminate : Bool) (failure : String → WorkerFailure) :
    Sys (Except WorkerFailure Unit × WorkerSupervisor) := do
  let (stderrTail, cleaned) ← self.cleanupFailedWorker terminate
  pure (.error (failure stderrTail), { cleaned with lastFailure := some (failure stderrTail) })

/-- The loop of `start_and_wait`, as far as its first `iterations` rounds. -/
def waitReady (self : WorkerSupervisor) (cfg : WorkerConfig) (timeout deadline : Nat) :
    Nat → Sys (Except WorkerFailure Unit × WorkerSupervisor)
  | 0 => Sys.blocked
  | iterations + 1 =>
      match self.child with
      | none =>
          self.giveUp false fun stderrTail =>
            ⟨.workerCrashed, "Worker-Handle ging vor Readiness verloren", stderrTail⟩
      | some child => do
          match ← Sys.tryWait child with
          | .error error =>
              self.giveUp true fun stderrTail =>
                ⟨.workerCrashed, "Worker-Status nicht lesbar: " ++ error.message, stderrTail⟩
          | .ok (some status) => self.giveUp false (classifyExit status)
          | .ok none =>
              if ← Sys.tcpReady cfg.host cfg.port then
                if (← workerHealthReady cfg.host cfg.port) = some false then
                  -- the port is open but the model still loads: the deadline is not read
                  Sys.sleep 20000000
                  self.waitReady cfg timeout deadline iterations
                else pure (.ok (), self.setState .ready)
              else
                let time ← Sys.now
                if deadline ≤ time then
                  self.giveUp true fun stderrTail =>
                    ⟨.workerTimeout, "Worker wurde innerhalb von " ++
                      toString (timeout / 1000000) ++ " ms nicht bereit", stderrTail⟩
                else
                  Sys.sleep 20000000
                  self.waitReady cfg timeout deadline iterations

/-- `start_and_wait`. -/
def startAndWait (self : WorkerSupervisor) (cfg : WorkerConfig) (timeout iterations : Nat) :
    Sys (Except WorkerFailure Unit × WorkerSupervisor) := do
  if ← Sys.tcpReady cfg.host cfg.port then
    let failure : WorkerFailure :=
      ⟨.portConflict, "Worker-Port " ++ toString cfg.port.toNat ++ " ist bereits belegt", ""⟩
    pure (.error failure, self.failed failure)
  else
    match ← self.start cfg with
    | (.error error, stopped) =>
        pure (.error (stopped.lastFailure.getD
          ⟨if error.kind = .wouldBlock then .slotBusy else .spawnFailed, error.message, ""⟩),
          stopped)
    | (.ok (), started) =>
        started.waitReady cfg timeout ((← Sys.now) + timeout) iterations

/-- `start_and_wait_with_retry`. -/
def startAndWaitWithRetry (self : WorkerSupervisor) (cfg : WorkerConfig)
    (timeout iterations : Nat) : Sys (Except WorkerFailure Unit × WorkerSupervisor) := do
  match ← self.startAndWait cfg timeout iterations with
  | (.error first, stopped) =>
      if first.code = .portConflict then
        if ← Sys.tcpReady cfg.host cfg.port then pure (.error first, stopped)
        else
          startAndWait { stopped with state := .stopped, lastFailure := none } cfg timeout
            iterations
      else pure (.error first, stopped)
  | (.ok (), ready) => pure (.ok (), ready)

/-- `refresh`. -/
def refresh (self : WorkerSupervisor) (host : String) (port : UInt16) :
    Sys (WorkerState × WorkerSupervisor) :=
  match self.child with
  | none => pure (.stopped, self.setState .stopped)
  | some child => do
      match ← Sys.tryWait child with
      | .ok (some status) =>
          -- the worker ended on its own; its locks are released here too
          let (stderrTail, cleaned) ← self.cleanupFailedWorker false
          pure (cleaned.state, { cleaned with lastFailure := some (classifyExit status stderrTail) })
      | .ok none =>
          if ← Sys.tcpReady host port then pure (.ready, self.setState .ready)
          else pure (self.state, self)
      | .error _ => pure (.failed, self.setState .failed)

end WorkerSupervisor

/-! ## Requests -/

/-- The operations of a supervisor. -/
inductive Request where
  | start (cfg : WorkerConfig)
  | startAndWait (cfg : WorkerConfig) (timeout : Nat)
  | startAndWaitWithRetry (cfg : WorkerConfig) (timeout : Nat)
  | refresh (host : String) (port : UInt16)
  | stop

/-- The supervisor that an operation leaves, whatever it returns. Its waiting loops
are observed for some number of rounds. -/
def Request.perform (self : WorkerSupervisor) (iterations : Nat) : Request → Sys WorkerSupervisor
  | .start cfg => Prod.snd <$> self.start cfg
  | .startAndWait cfg timeout => Prod.snd <$> self.startAndWait cfg timeout iterations
  | .startAndWaitWithRetry cfg timeout =>
      Prod.snd <$> self.startAndWaitWithRetry cfg timeout iterations
  | .refresh host port => Prod.snd <$> self.refresh host port
  | .stop => Prod.snd <$> self.stop

/-- The configuration of the recorded runs. -/
def fixtureConfig : WorkerConfig where
  binary := "/bin/sleep"
  model := "fixture.gguf"
  modelPath := none
  host := "127.0.0.1"
  port := 19101
  gpuLayers := 0
  ctxSize := 4096

end TriAI.Supervisor
