import TriAI.Kernel.PageDriver
import TriAI.Library.Fallible

/-!
Contract: the bridge from the engine to its kernel module (`kernel_ffi.rs`).

Owns: `KernelWorker::new`, the calls of the bridge and `check_device_ready`, with the command
numbers of the bridge, over the module of `Kernel.PageDriver`; and what the module answers.

Does not own: any other module that may own the device node.
-/

set_option autoImplicit false

namespace TriAI.Kernel.PageDriver

open TriAI.Library.Interaction
open TriAI.Library.Interaction.Fallible (returns_call returns_ret)

/-- Why a device cannot be opened. -/
inductive OpenError where
  | notFound
  | permissionDenied
  | other
deriving DecidableEq

inductive KernelError where
  | deviceNotFound (path : String)
  /-- The device could not be opened. -/
  | openFailed (error : OpenError)
  | ioctlFailed (error : Errno)
  | noCapacity (message : String)
  | permissionDenied
  | invalidSize (message : String)
  | invalidCpuId (message : String)
  | internal (message : String)
deriving DecidableEq

/-- The calls of the bridge; an `ioctl` is what the module does. -/
inductive BridgeOp where
  | pathExists
  | openDevice
  | close
  /-- `sysconf(_SC_NPROCESSORS_ONLN)`. -/
  | sysconf
  | driver (op : DriverOp)

@[reducible] def BridgeOp.Reply : BridgeOp → Type
  | .pathExists => Bool
  | .openDevice => Except OpenError Unit
  | .close => Unit
  | .sysconf => Int
  | .driver op => op.Reply

abbrev Bridge (α : Type) : Type := Prog BridgeOp BridgeOp.Reply α

/-- `iowr` of the bridge. -/
def bridgeIowr (nr size : UInt32) : UInt32 :=
  (2 : UInt32) <<< 30 ||| (0x74 : UInt32) <<< 8 ||| nr ||| size <<< 16

def bridgeAllocHugepage : UInt32 := bridgeIowr 0 8
def bridgePinCpu : UInt32 := bridgeIowr 1 4
def bridgePrefetchDisk : UInt32 := bridgeIowr 2 24
def bridgeEvict : UInt32 := bridgeIowr 3 8
def bridgeGetStats : UInt32 := bridgeIowr 4 48

/-- `ioctl`, with the processors of the kernel. -/
def ioctl (nrCpuIds : Int32) (cmd : UInt32) : Bridge Outcome :=
  (triIoctl nrCpuIds cmd).embed .driver fun _ reply => reply

/-- An `ioctl` whose failure is reported as it is. -/
def ioctlOrFail (nrCpuIds : Int32) (cmd : UInt32) : Bridge (Except KernelError Unit) := do
  match ← ioctl nrCpuIds cmd with
  | .ok () => pure (.ok ())
  | .error error => pure (.error (.ioctlFailed error))

def devicePath : String := "/dev/tri_ai_worker"

/-- `KernelWorker::new`. -/
def connect (nrCpuIds : Int32) : Bridge (Except KernelError Unit) := do
  let opened : Except OpenError Unit ← Prog.perform BridgeOp.openDevice
  match opened with
  | .error .notFound => pure (.error (.deviceNotFound devicePath))
  | .error .permissionDenied => pure (.error .permissionDenied)
  | .error .other => pure (.error (.openFailed .other))
  | .ok () =>
      match ← ioctl nrCpuIds bridgeGetStats with
      | .ok () => pure (.ok ())
      | .error error => do
          Prog.perform BridgeOp.close
          pure (.error (.ioctlFailed error))

/-- The calls on a `KernelWorker`. -/
inductive KernelCall where
  | allocateHugepage (sizeMb : UInt64)
  | pinCurrentThreadToCpu (cpuId : Int32)
  | requestDiskPrefetch (fd : Int32) (offset len : UInt64)
  | evictColdPages (minPriority : UInt64)
  | getStats

/-- `KernelWorker::allocate_hugepage` after its check. -/
def allocateOnDevice (nrCpuIds : Int32) (sizeMb : UInt64) : Bridge (Except KernelError Unit) := do
  match ← ioctl nrCpuIds bridgeAllocHugepage with
  | .ok () => pure (.ok ())
  | .error .enomem =>
      pure (.error (.noCapacity (s!"Cannot allocate {sizeMb} MB hugepage")))
  | .error error => pure (.error (.ioctlFailed error))

/-- A call on a `KernelWorker`, with its checks. -/
def KernelCall.perform (nrCpuIds : Int32) : KernelCall → Bridge (Except KernelError Unit)
  | .allocateHugepage sizeMb =>
      if sizeMb = 0 then pure (.error (.invalidSize "Size must be > 0"))
      else if 4096 < sizeMb then
        pure (.error (.invalidSize (s!"Size {sizeMb} MB exceeds hard limit 4096 MB")))
      else allocateOnDevice nrCpuIds sizeMb
  | .pinCurrentThreadToCpu cpuId => do
      let maxCpu : Int ← Prog.perform BridgeOp.sysconf
      if cpuId.toInt < 0 ∨ maxCpu ≤ cpuId.toInt then
        pure (.error (.invalidCpuId
          (s!"CPU {cpuId} invalid (0-{maxCpu - 1} available)")))
      else ioctlOrFail nrCpuIds bridgePinCpu
  | .requestDiskPrefetch _ _ len =>
      if len = 0 ∨ 2 ^ 40 < len.toNat then
        pure (.error (.invalidSize (s!"Prefetch length {len} invalid (0 < len <= 1TiB)")))
      else ioctlOrFail nrCpuIds bridgePrefetchDisk
  | .evictColdPages _ => ioctlOrFail nrCpuIds bridgeEvict
  | .getStats => ioctlOrFail nrCpuIds bridgeGetStats

/-- `check_device_ready`. -/
def checkDeviceReady (nrCpuIds : Int32) : Bridge (Except KernelError Unit) := do
  let found : Bool ← Prog.perform BridgeOp.pathExists
  if found then
    match ← connect nrCpuIds with
    | .error error => pure (.error error)
    | .ok () =>
        let ready ← KernelCall.getStats.perform nrCpuIds
        Prog.perform BridgeOp.close
        match ready with
        | .ok () => pure (.ok ())
        | .error _ => pure (.error (.internal "Device not responding"))
  else pure (.error (.deviceNotFound devicePath))

/-! ## Commands -/

/-- The commands that the bridge sends. -/
def bridgeCommands : List UInt32 :=
  [bridgeAllocHugepage, bridgePinCpu, bridgePrefetchDisk, bridgeEvict, bridgeGetStats]

/-- The commands that the module knows. -/
def driverCommands : List UInt32 :=
  [allocHugepageCmd, pinCpuCmd, prefetchDiskCmd, evictCmd, getStatsCmd]

/-- The bridge announces transfers in one direction and the module in both. -/
theorem bridgeCommands_unknown (cmd : UInt32) (sent : cmd ∈ bridgeCommands) :
    cmd ∉ driverCommands := by
  have unknown : bridgeCommands.all (fun cmd => decide (cmd ∉ driverCommands)) = true := by decide
  exact of_decide_eq_true (List.all_eq_true.mp unknown cmd sent)

/-- The module turns every command of the bridge away. -/
theorem triIoctl_bridge {nrCpuIds : Int32} {cmd : UInt32} (sent : cmd ∈ bridgeCommands) :
    triIoctl nrCpuIds cmd =
      .call .capable fun allowed => .ret (.error (if allowed then .enotty else .eperm)) := by
  have unknown := bridgeCommands_unknown cmd sent
  simp only [driverCommands, List.mem_cons, List.not_mem_nil, or_false, not_or] at unknown
  obtain ⟨notAlloc, notPin, notPrefetch, notEvict, notStats⟩ := unknown
  unfold triIoctl
  refine congrArg (Prog.call DriverOp.capable) (funext fun allowed => ?_)
  rw [if_neg notAlloc, if_neg notPin, if_neg notPrefetch, if_neg notEvict, if_neg notStats]
  cases allowed <;> rfl

/-- An `ioctl` of the bridge makes the module check the rights of the caller and fails. -/
theorem ioctl_bridge {nrCpuIds : Int32} {cmd : UInt32} (sent : cmd ∈ bridgeCommands)
    {trace : List (Event BridgeOp BridgeOp.Reply)} {outcome : Outcome}
    (returns : Prog.Returns (ioctl nrCpuIds cmd) trace outcome) :
    ∃ error allowed, outcome = .error error ∧ trace = [⟨.driver .capable, allowed⟩] := by
  unfold ioctl at returns
  rw [triIoctl_bridge sent] at returns
  cases returns with
  | call allowed ended =>
      cases ended
      exact ⟨_, allowed, rfl, rfl⟩

/-- What the bridge does without moving a page. -/
def Harmless (event : Event BridgeOp BridgeOp.Reply) : Prop :=
  event.op = .sysconf ∨ event.op = .driver .capable

/-- What follows an `ioctl` of the bridge. -/
private theorem after_ioctl {nrCpuIds : Int32} {cmd : UInt32} (sent : cmd ∈ bridgeCommands)
    {rest : Outcome → Bridge (Except KernelError Unit)}
    (fails : ∀ error, ∃ failure, rest (.error error) = .ret (.error failure))
    {trace : List (Event BridgeOp BridgeOp.Reply)} {result : Except KernelError Unit}
    (returns : Prog.Returns (ioctl nrCpuIds cmd >>= rest) trace result) :
    (∃ error, result = .error error) ∧ ∀ event ∈ trace, Harmless event := by
  obtain ⟨first, second, outcome, rfl, called, ended⟩ := returns.split
  obtain ⟨error, allowed, rfl, rfl⟩ := ioctl_bridge sent called
  obtain ⟨failure, failed⟩ := fails error
  rw [failed] at ended
  obtain ⟨rfl, rfl⟩ := returns_ret.mp ended
  exact ⟨⟨failure, rfl⟩, by simp [Harmless]⟩

private theorem ioctlOrFail_bridge {nrCpuIds : Int32} {cmd : UInt32}
    (sent : cmd ∈ bridgeCommands)
    {trace : List (Event BridgeOp BridgeOp.Reply)} {result : Except KernelError Unit}
    (returns : Prog.Returns (ioctlOrFail nrCpuIds cmd) trace result) :
    (∃ error, result = .error error) ∧ ∀ event ∈ trace, Harmless event :=
  after_ioctl sent (fun error => ⟨.ioctlFailed error, rfl⟩) returns

/-- A call that is refused by a check of the bridge. -/
private theorem refused {failure : KernelError}
    {trace : List (Event BridgeOp BridgeOp.Reply)} {result : Except KernelError Unit}
    (returns : Prog.Returns (.ret (.error failure) : Bridge (Except KernelError Unit))
      trace result) :
    (∃ error, result = .error error) ∧ ∀ event ∈ trace, Harmless event := by
  obtain ⟨rfl, rfl⟩ := returns_ret.mp returns
  exact ⟨⟨failure, rfl⟩, by simp⟩

/-- Every call of the bridge fails, and the module does no more than check the rights of the
caller. -/
theorem perform_fails (nrCpuIds : Int32) (call : KernelCall)
    (trace : List (Event BridgeOp BridgeOp.Reply)) (result : Except KernelError Unit)
    (returns : Prog.Returns (call.perform nrCpuIds) trace result) :
    (∃ error, result = .error error) ∧ ∀ event ∈ trace, Harmless event := by
  cases call with
  | allocateHugepage sizeMb =>
      simp only [KernelCall.perform] at returns
      split at returns
      · exact refused returns
      split at returns
      · exact refused returns
      · apply after_ioctl (by decide) _ returns
        intro error
        cases error <;> exact ⟨_, rfl⟩
  | pinCurrentThreadToCpu cpuId =>
      cases returns with
      | @call _ _ rest _ maxCpu ended =>
          have checked : (∃ error, result = .error error) ∧ ∀ event ∈ rest, Harmless event := by
            change Prog.Returns (if cpuId.toInt < 0 ∨ (maxCpu : Int) ≤ cpuId.toInt then _ else _)
              _ _ at ended
            split at ended
            · exact refused ended
            · exact ioctlOrFail_bridge (by decide) ended
          exact ⟨checked.1, List.forall_mem_cons.mpr ⟨.inl rfl, checked.2⟩⟩
  | requestDiskPrefetch fd offset len =>
      simp only [KernelCall.perform] at returns
      split at returns
      · exact refused returns
      · exact ioctlOrFail_bridge (by decide) returns
  | evictColdPages minPriority => exact ioctlOrFail_bridge (by decide) returns
  | getStats => exact ioctlOrFail_bridge (by decide) returns

/-- Whatever the system answers `KernelWorker::new` fails, and closes the device if it was
opened. -/
theorem connect_fails (nrCpuIds : Int32) (trace : List (Event BridgeOp BridgeOp.Reply))
    (result : Except KernelError Unit) (returns : Prog.Returns (connect nrCpuIds) trace result) :
    (∃ error, result = .error error) ∧
      ((∃ error, trace = [⟨.openDevice, .error error⟩]) ∨
        ∃ allowed, trace = [⟨.openDevice, .ok ()⟩, ⟨.driver .capable, allowed⟩, ⟨.close, ()⟩]) := by
  cases returns with
  | call opened rest =>
      cases opened with
      | error error =>
          cases error <;>
          · obtain ⟨rfl, rfl⟩ := returns_ret.mp rest
            exact ⟨⟨_, rfl⟩, .inl ⟨_, rfl⟩⟩
      | ok done =>
          change Prog.Returns (ioctl nrCpuIds bridgeGetStats >>= _) _ _ at rest
          obtain ⟨first, second, outcome, rfl, called, ended⟩ := rest.split
          obtain ⟨error, allowed, rfl, rfl⟩ := ioctl_bridge (by decide) called
          cases ended with
          | call closed last =>
              obtain ⟨rfl, rfl⟩ := returns_ret.mp last
              exact ⟨⟨_, rfl⟩, .inr ⟨allowed, rfl⟩⟩

theorem checkDeviceReady_fails (nrCpuIds : Int32)
    (trace : List (Event BridgeOp BridgeOp.Reply)) (result : Except KernelError Unit)
    (returns : Prog.Returns (checkDeviceReady nrCpuIds) trace result) :
    ∃ error, result = .error error := by
  cases returns with
  | call found rest =>
      cases found with
      | false =>
          obtain ⟨rfl, rfl⟩ := returns_ret.mp rest
          exact ⟨_, rfl⟩
      | true =>
          change Prog.Returns (connect nrCpuIds >>= _) _ _ at rest
          obtain ⟨first, second, connected, rfl, called, ended⟩ := rest.split
          obtain ⟨⟨error, rfl⟩, _⟩ := connect_fails nrCpuIds first connected called
          obtain ⟨rfl, rfl⟩ := returns_ret.mp ended
          exact ⟨error, rfl⟩

/-- The bridge never works with the module: whoever calls and whatever the system answers,
no device is connected or reported as ready, and every call fails without moving a page. -/
theorem bridge_never_works (nrCpuIds : Int32) :
    (∀ trace result, Prog.Returns (connect nrCpuIds) trace result →
      (∃ error, result = .error error) ∧
        ((∃ error, trace = [⟨.openDevice, .error error⟩]) ∨
          ∃ allowed,
            trace = [⟨.openDevice, .ok ()⟩, ⟨.driver .capable, allowed⟩, ⟨.close, ()⟩])) ∧
      (∀ trace result, Prog.Returns (checkDeviceReady nrCpuIds) trace result →
        ∃ error, result = .error error) ∧
      ∀ (call : KernelCall) trace result, Prog.Returns (call.perform nrCpuIds) trace result →
        (∃ error, result = .error error) ∧ ∀ event ∈ trace, Harmless event :=
  ⟨connect_fails nrCpuIds, checkDeviceReady_fails nrCpuIds, perform_fails nrCpuIds⟩

end TriAI.Kernel.PageDriver
