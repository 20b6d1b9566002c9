import TriAI.Library.Interaction
import TriAI.Library.Mutexes

/-!
Contract: the mutexes of the memory manager of `kernel_worker.rs`.

Owns: in which order the operations take the mutexes and give them back; and that threads
wait for each other in a cycle only after one was between `vram_pages` and `pinned_keys`
while another was between `pinned_keys` and `vram_pages`.

Does not own: what is done under the mutexes (`Kernel.Worker`), whose outcomes decide the
branches here.
-/

set_option autoImplicit false

namespace TriAI.Kernel

open TriAI.Library.Interaction
open TriAI.Library.Mutexes

/-- The mutexes of `KernelWorker`, without the flag of the monitoring thread. -/
inductive KernelMutex where
  | vramPages
  | ramPages
  | diskPages
  | events
  | hotKeys
  | coldKeys
  | pinnedKeys
deriving DecidableEq

namespace KernelLocks

open KernelMutex

/-- `record_access`. -/
def recordAccess : LockProg KernelMutex Unit := do
  acquire vramPages
  release vramPages

/-- `evict_cold_entries`. -/
def evictColdEntries : LockProg KernelMutex Unit := do
  acquire pinnedKeys
  acquire vramPages
  acquire ramPages
  release ramPages
  release vramPages
  release pinnedKeys

/-- The push of a memory event. -/
def pushEvent : LockProg KernelMutex Unit := do
  acquire events
  release events

/-- `load_to_vram`. -/
def loadToVram : LockProg KernelMutex Unit := do
  acquire vramPages
  let present ← look
  release vramPages
  if present then recordAccess
  else do
    let overBudget ← look
    if overBudget then evictColdEntries
    acquire vramPages
    release vramPages
    pushEvent

/-- `evict_to_ram`. -/
def evictToRam : LockProg KernelMutex Unit := do
  acquire pinnedKeys
  let pinned ← look
  release pinnedKeys
  if pinned then pure ()
  else do
    acquire vramPages
    acquire ramPages
    let present ← look
    release vramPages
    release ramPages
    if present then pushEvent

/-- `pin_chunk`. -/
def pinChunk : LockProg KernelMutex Unit := do
  acquire vramPages
  acquire pinnedKeys
  release pinnedKeys
  release vramPages

/-- `unpin_chunk`. -/
def unpinChunk : LockProg KernelMutex Unit := do
  acquire vramPages
  acquire pinnedKeys
  release pinnedKeys
  release vramPages

/-- `memory_pressure`. -/
def memoryPressure : LockProg KernelMutex Unit := do
  acquire vramPages
  acquire ramPages
  release ramPages
  release vramPages

/-- `get_report`. -/
def getReport : LockProg KernelMutex Unit := do
  acquire vramPages
  acquire ramPages
  acquire diskPages
  acquire events
  acquire hotKeys
  acquire coldKeys
  acquire pinnedKeys
  release pinnedKeys
  release coldKeys
  release hotKeys
  release events
  release diskPages
  release ramPages
  release vramPages

end KernelLocks

/-- The operations, by how they lock. -/
inductive KernelOperation where
  | recordAccess
  | evictColdEntries
  | loadToVram
  | evictToRam
  | pinChunk
  | unpinChunk
  | memoryPressure
  | getReport

def KernelOperation.locks : KernelOperation → LockProg KernelMutex Unit
  | .recordAccess => KernelLocks.recordAccess
  | .evictColdEntries => KernelLocks.evictColdEntries
  | .loadToVram => KernelLocks.loadToVram
  | .evictToRam => KernelLocks.evictToRam
  | .pinChunk => KernelLocks.pinChunk
  | .unpinChunk => KernelLocks.unpinChunk
  | .memoryPressure => KernelLocks.memoryPressure
  | .getReport => KernelLocks.getReport

/-- The locking of one operation. -/
def IsOperation (program : LockProg KernelMutex Unit) : Prop :=
  ∃ operation : KernelOperation, program = operation.locks

/-- Any number of threads that run the operations. -/
def kernelSystem : System Nat (LockOp KernelMutex) LockOp.Reply Unit (Holders KernelMutex Nat) :=
  lockSystem IsOperation

/-- Whoever holds a mutex when he takes another holds `vram_pages`, but for
`evict_cold_entries`, which takes `vram_pages` under `pinned_keys`. -/
def UnderVram (held : Finset KernelMutex) (mutex : KernelMutex) : Prop :=
  held = ∅ ∨ .vramPages ∈ held ∨ (held = {.pinnedKeys} ∧ mutex = .vramPages)

instance (held : Finset KernelMutex) (mutex : KernelMutex) : Decidable (UnderVram held mutex) :=
  inferInstanceAs (Decidable (_ ∨ _ ∨ (_ ∧ _)))

theorem operation_keeps {program : LockProg KernelMutex Unit} (isOperation : IsOperation program) :
    Keeps UnderVram program ∅ := by
  obtain ⟨operation, rfl⟩ := isOperation
  cases operation <;> decide

/-- Threads that wait for each other in a cycle have crossed: one holds `vram_pages` and
takes `pinned_keys`, and another the other way round. -/
theorem crossed_of_onCycle {pool : LockPool KernelMutex Nat}
    (reachable : kernelSystem.Reachable idlePool pool) {thread : Nat}
    (onCycle : OnCycle pool thread) : Crossed pool .vramPages .pinnedKeys := by
  obtain ⟨held, agree, allowed⟩ :=
    allows_of_wants (fun _ isOperation => operation_keeps isOperation) reachable
  have nested : ∀ {other mutex}, OnCycle pool other → Wants pool other mutex →
      .vramPages ∈ held other ∨ (held other = {.pinnedKeys} ∧ mutex = .vramPages) := by
    intro other mutex onCycle wants
    rcases (allowed other mutex wants).2 with empty | nested
    · obtain ⟨own, holds⟩ := onCycle.holds
      have member := (agree other own).mpr holds
      rw [empty] at member
      exact absurd member (Finset.notMem_empty own)
    · exact nested
  -- a thread of the cycle that holds `vram_pages` waits for one that does not
  have underVram : ∀ {other}, OnCycle pool other → .vramPages ∈ held other →
      Crossed pool .vramPages .pinnedKeys := by
    intro other onCycle holdsVram
    obtain ⟨following, ⟨mutex, wants, taken⟩, followingOnCycle⟩ := onCycle.next
    have different : other ≠ following := by
      rintro rfl
      exact (allowed other mutex wants).1 ((agree other mutex).mpr taken)
    obtain ⟨_, ⟨next, followingWants, _⟩, _⟩ := followingOnCycle.next
    have member := (agree following mutex).mpr taken
    rcases nested followingOnCycle followingWants with alsoVram | ⟨onlyPinned, rfl⟩
    · have vram := (agree following _).mp alsoVram
      rw [(agree other _).mp holdsVram] at vram
      exact absurd (Option.some.inj vram) different
    · rw [onlyPinned, Finset.mem_singleton] at member
      subst member
      obtain ⟨rest, running⟩ := wants
      obtain ⟨rest', running'⟩ := followingWants
      exact ⟨other, following, different,
        ⟨(agree other _).mp holdsVram, _, running, .inl rfl⟩, ⟨taken, _, running', .inl rfl⟩⟩
  obtain ⟨following, ⟨mutex, wants, taken⟩, followingOnCycle⟩ := onCycle.next
  rcases nested onCycle wants with holdsVram | ⟨_, rfl⟩
  · exact underVram onCycle holdsVram
  · exact underVram followingOnCycle ((agree following _).mpr taken)

/-- A run in which no thread gets between `vram_pages` and `pinned_keys` while another is
between `pinned_keys` and `vram_pages`, nor the other way round. -/
def UncrossedRun : LockPool KernelMutex Nat → Prop :=
  kernelSystem.RunsAlong (fun _ next => ¬ Crossed next .vramPages .pinnedKeys) idlePool

/-- In such a run no threads ever wait for each other in a cycle. -/
theorem lockOrder_acyclic {pool : LockPool KernelMutex Nat} (run : UncrossedRun pool)
    (thread : Nat) : ¬ OnCycle pool thread := by
  intro onCycle
  have uncrossed : ¬ Crossed pool .vramPages .pinnedKeys := by
    apply System.RunsAlong.invariant run
    · rintro ⟨_, _, _, ⟨holds, _⟩, _⟩
      cases holds
    · exact fun _ _ _ _ uncrossed => uncrossed
  exact uncrossed (crossed_of_onCycle run.reachable onCycle)

/-- Once threads have crossed, they stay so in every run: the pages are never to be had
again. -/
theorem crossed_forever {pool next : LockPool KernelMutex Nat}
    (reachable : kernelSystem.Reachable idlePool pool)
    (crossed : Crossed pool .vramPages .pinnedKeys) (run : kernelSystem.Reachable pool next) :
    Crossed next .vramPages .pinnedKeys := by
  have both : kernelSystem.Reachable idlePool next ∧ Crossed next .vramPages .pinnedKeys := by
    induction run with
    | refl => exact ⟨reachable, crossed⟩
    | tail _ moves inductionHypothesis =>
        exact ⟨inductionHypothesis.1.tail moves,
          inductionHypothesis.2.moves (fun _ isOperation => operation_keeps isOperation)
            inductionHypothesis.1 moves⟩
  exact both.2

/-! ## Two runs -/

/-- A thread that pins a chunk, and one that evicts: each has taken one mutex. -/
theorem lockOrder_cycle :
    ∃ pool, kernelSystem.Reachable idlePool pool ∧ OnCycle pool 0 := by
  have idle : kernelSystem.Reachable idlePool idlePool := .refl
  have pins := idle.begin 0 KernelLocks.pinChunk rfl ⟨.pinChunk, rfl⟩
  have hasVram := pins.call 0 rfl () _ ⟨rfl, rfl⟩
  have evicts := hasVram.begin 1 KernelLocks.evictColdEntries rfl ⟨.evictColdEntries, rfl⟩
  have hasPinned := evicts.call 1 rfl () _ ⟨rfl, rfl⟩
  refine ⟨_, hasPinned, ?_⟩
  exact .head ⟨KernelMutex.pinnedKeys, ⟨_, rfl⟩, rfl⟩
    (.single ⟨KernelMutex.vramPages, ⟨_, rfl⟩, rfl⟩)

private theorem not_crossed_of_free {pool : LockPool KernelMutex Nat}
    (free : pool.world .pinnedKeys = none) : ¬ Crossed pool .vramPages .pinnedKeys := by
  rintro ⟨_, _, _, _, holds, _⟩
  rw [free] at holds
  cases holds

/-- Two threads that pin chunks: one waits for the other, which waits for none. -/
theorem lockOrder_acyclic_pins :
    ∃ pool, UncrossedRun pool ∧ WaitsFor pool 1 0 ∧ ¬ OnCycle pool 1 := by
  have idle : UncrossedRun idlePool := .refl
  have pins := idle.begin 0 KernelLocks.pinChunk rfl ⟨.pinChunk, rfl⟩ (not_crossed_of_free rfl)
  have hasVram := pins.call 0 rfl () _ ⟨rfl, rfl⟩ (not_crossed_of_free rfl)
  have waits := hasVram.begin 1 KernelLocks.pinChunk rfl ⟨.pinChunk, rfl⟩ (not_crossed_of_free rfl)
  exact ⟨_, waits, ⟨KernelMutex.vramPages, ⟨_, rfl⟩, rfl⟩, lockOrder_acyclic waits 1⟩

end TriAI.Kernel
