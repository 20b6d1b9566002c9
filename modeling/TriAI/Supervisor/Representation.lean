import TriAI.Library.Runs
import TriAI.Supervisor.Effects

/-!
Contract: which fields of a supervisor are set together.

Owns: `Represents`, the invariant; `Request.Expects`, the replies under which an
operation keeps it; and the theorem about every run of such operations.

Does not own: other supervisors (`Supervisor.Exclusion`).

Four branches break the invariant: `start` keeps the process lease when the lock
file cannot be opened; `refresh` reports `Failed` and keeps the child when its
status cannot be read; `startAndWait` reports `Failed` when the port is taken, even
by the child it holds; and its retry then reports `Stopped`.
-/

set_option autoImplicit false

namespace TriAI.Supervisor

open TriAI.Library.Interaction
open TriAI.Library.Runs

namespace WorkerSupervisor

/-- None of the four resources is held. -/
structure HoldsNothing (supervisor : WorkerSupervisor) : Prop where
  child : supervisor.child = none
  activeModel : supervisor.activeModel = none
  slotLock : supervisor.slotLock = none
  processSlot : supervisor.processSlot = none

/-- The representation invariant. -/
structure Represents (supervisor : WorkerSupervisor) : Prop where
  activeModel : supervisor.child.isSome ↔ supervisor.activeModel.isSome
  slotLock : supervisor.child.isSome ↔ supervisor.slotLock.isSome
  processSlot : supervisor.child.isSome ↔ supervisor.processSlot.isSome
  idle : supervisor.state = .stopped ∨ supervisor.state = .failed → supervisor.HoldsNothing

/-- The two situations of a supervisor: it has nothing, or everything and no
failure to report. -/
inductive Situation (self : WorkerSupervisor) : Prop
  | idle (nothing : self.HoldsNothing) (state : self.state = .stopped ∨ self.state = .failed)
  | working (child : self.child.isSome) (activeModel : self.activeModel.isSome)
      (slotLock : self.slotLock.isSome) (processSlot : self.processSlot.isSome)
      (state : self.state = .starting ∨ self.state = .ready) (noFailure : self.lastFailure = none)

theorem Situation.represents {self : WorkerSupervisor} (situation : self.Situation) :
    self.Represents := by
  cases situation with
  | idle nothing state =>
      obtain ⟨child, activeModel, slotLock, processSlot⟩ := nothing
      exact ⟨by simp [child, activeModel], by simp [child, slotLock], by simp [child, processSlot],
        fun _ => ⟨child, activeModel, slotLock, processSlot⟩⟩
  | working child activeModel slotLock processSlot state _ =>
      refine ⟨by simp [child, activeModel], by simp [child, slotLock], by simp [child, processSlot],
        fun idle => ?_⟩
      rcases state with starting | ready
      · simp [starting] at idle
      · simp [ready] at idle

theorem new_situation : Situation {} := .idle ⟨rfl, rfl, rfl, rfl⟩ (.inl rfl)

/-- A supervisor without a child has nothing. -/
theorem Situation.nothing {self : WorkerSupervisor} (situation : self.Situation)
    (childless : self.child = none) : self.HoldsNothing := by
  cases situation with
  | idle nothing _ => exact nothing
  | working child => simp [childless] at child

theorem abandoned_situation (failure : WorkerFailure) : Situation (abandoned failure) :=
  .idle ⟨rfl, rfl, rfl, rfl⟩ (.inr rfl)

/-! ## Steps -/

section Steps

variable {Allowed : (op : SysOp) → op.Reply → Prop} {cfg : WorkerConfig}
  {self after : WorkerSupervisor}

/-- `start` keeps the situation if the lock file can be opened. -/
theorem StartEffect.situation {result : Except SysError Unit}
    (effect : StartEffect Allowed cfg self result after) (situation : self.Situation)
    (opens : ∀ error, ¬ Allowed .openLockFile (.error error)) : after.Situation := by
  cases effect with
  | occupied => exact situation
  | slotDenied vacant error =>
      obtain ⟨child, activeModel, slotLock, processSlot⟩ := situation.nothing vacant.1
      exact .idle ⟨child, activeModel, slotLock, processSlot⟩ (.inr rfl)
  | openFailed _ _ error failed => exact absurd failed (opens error)
  | lockDenied vacant =>
      obtain ⟨child, activeModel, slotLock, -⟩ := situation.nothing vacant.1
      exact .idle ⟨child, activeModel, slotLock, rfl⟩ (.inr rfl)
  | spawnFailed vacant =>
      obtain ⟨child, activeModel, -, -⟩ := situation.nothing vacant.1
      exact .idle ⟨child, activeModel, rfl, rfl⟩ (.inr rfl)
  | started => exact .working rfl rfl rfl rfl (.inl rfl) rfl

/-- `startAndWait` keeps the situation if moreover the port is not taken while a
child is held. -/
theorem WaitEffect.situation {result : Except WorkerFailure Unit}
    (effect : WaitEffect Allowed cfg self result after) (situation : self.Situation)
    (opens : ∀ error, ¬ Allowed .openLockFile (.error error))
    (portFree : Allowed (.connect cfg.host cfg.port) true → self.child = none) :
    after.Situation := by
  cases effect with
  | portTaken failure taken =>
      obtain ⟨child, activeModel, slotLock, processSlot⟩ := situation.nothing (portFree taken)
      exact .idle ⟨child, activeModel, slotLock, processSlot⟩ (.inr rfl)
  | notStarted refused => exact refused.situation situation opens
  | gaveUp failure => exact abandoned_situation failure
  | ready ran =>
      cases ran with
      | started => exact .working rfl rfl rfl rfl (.inr rfl) rfl

/-- A port conflict is only reported by a supervisor that has nothing. -/
theorem WaitEffect.nothing_of_conflict {first : WorkerFailure}
    (effect : WaitEffect Allowed cfg self (.error first) after) (situation : self.Situation)
    (opens : ∀ error, ¬ Allowed .openLockFile (.error error))
    (portFree : Allowed (.connect cfg.host cfg.port) true → self.child = none)
    (conflict : first.code = .portConflict) : after.HoldsNothing := by
  have kept := effect.situation situation opens portFree
  cases effect with
  | portTaken failure taken => exact kept.nothing (portFree taken)
  | gaveUp failure => exact kept.nothing rfl
  | notStarted refused =>
      cases kept with
      | idle nothing _ => exact nothing
      | working _ _ _ _ _ noFailure =>
          -- without a stored failure the reported code comes from the kind of the error
          rw [noFailure, Option.getD_none] at conflict
          simp only at conflict
          split at conflict
          · cases conflict
          · cases conflict

theorem RetryEffect.situation {result : Except WorkerFailure Unit}
    (effect : RetryEffect Allowed cfg self result after) (situation : self.Situation)
    (opens : ∀ error, ¬ Allowed .openLockFile (.error error))
    (portFree : Allowed (.connect cfg.host cfg.port) true → self.child = none) :
    after.Situation := by
  cases effect with
  | once effect => exact effect.situation situation opens portFree
  | twice effect conflict again =>
      obtain ⟨child, activeModel, slotLock, processSlot⟩ :=
        effect.nothing_of_conflict situation opens portFree conflict
      exact again.situation (.idle ⟨child, activeModel, slotLock, processSlot⟩ (.inl rfl)) opens
        fun _ => child

/-- `refresh` keeps the situation if the child's status can be read. -/
theorem RefreshEffect.situation {reported : WorkerState}
    (effect : RefreshEffect Allowed self reported after) (situation : self.Situation)
    (reads : ∀ child error, ¬ Allowed (.tryWait child) (.error error)) : after.Situation := by
  cases effect with
  | childless childless =>
      obtain ⟨child, activeModel, slotLock, processSlot⟩ := situation.nothing childless
      exact .idle ⟨child, activeModel, slotLock, processSlot⟩ (.inl rfl)
  | exited _ _ _ _ failure => exact abandoned_situation failure
  | ready child held =>
      cases situation with
      | idle nothing _ =>
          cases held.symm.trans nothing.child
      | working child activeModel slotLock processSlot _ noFailure =>
          exact .working child activeModel slotLock processSlot (.inr rfl) noFailure
  | unchanged => exact situation
  | unreadable child _ error unread => exact absurd unread (reads child error)

end Steps

end WorkerSupervisor

/-! ## Runs -/

/-- An operation with the replies it received. -/
structure Operation where
  request : Request
  trace : List (Event SysOp SysOp.Reply)

/-- An operation that ends, with whatever replies. -/
def Operates (self : WorkerSupervisor) (operation : Operation) (after : WorkerSupervisor) :
    Prop :=
  ∃ iterations, Prog.Returns (operation.request.perform self iterations) operation.trace after

/-- The replies that keep the invariant: the lock file opens; a refresh can read the
status of the child; no waiting start finds its port taken while a child is held. -/
def Request.Expects (self : WorkerSupervisor) (request : Request) :
    (op : SysOp) → op.Reply → Prop
  | .openLockFile, reply => ∃ lock, reply = .ok lock
  | .tryWait _, reply =>
      match request with
      | .refresh _ _ => ∃ status, reply = .ok status
      | _ => True
  | .connect _ _, reply =>
      match request with
      | .startAndWait _ _ | .startAndWaitWithRetry _ _ => reply = true → self.child = none
      | _ => True
  | _, _ => True

/-- An operation whose replies are all expected. -/
def Operation.Expected (self : WorkerSupervisor) (operation : Operation) : Prop :=
  ∀ event ∈ operation.trace, operation.request.Expects self event.op event.reply

/-- Step lemma: an operation with expected replies keeps the situation. -/
theorem Operates.situation {self after : WorkerSupervisor} {operation : Operation}
    (operates : Operates self operation after) (expected : operation.Expected self)
    (situation : self.Situation) : after.Situation := by
  obtain ⟨iterations, returns⟩ := operates
  have opens (request : Request) (error : SysError) :
      ¬ request.Expects self .openLockFile (.error error) := by
    rintro ⟨lock, opened⟩
    cases opened
  have sound : wlp (anyReply (operation.request.Expects self))
      (operation.request.perform self iterations) (fun after _ => after.Situation) () →
        after.Situation := returns.sound expected
  refine sound ?_
  cases request : operation.request with
  | start cfg =>
      refine wlp_seq (WorkerSupervisor.start_effect cfg self) ?_
      exact fun result _ effect => effect.situation situation (opens _)
  | startAndWait cfg timeout =>
      refine wlp_seq (WorkerSupervisor.startAndWait_effect self cfg timeout iterations) ?_
      exact fun result _ effect => effect.situation situation (opens _) fun taken => taken rfl
  | startAndWaitWithRetry cfg timeout =>
      refine wlp_seq (WorkerSupervisor.startAndWaitWithRetry_effect self cfg timeout iterations) ?_
      exact fun result _ effect => effect.situation situation (opens _) fun taken => taken rfl
  | refresh host port =>
      refine wlp_seq (WorkerSupervisor.refresh_effect self host port) ?_
      refine fun result _ effect => effect.situation situation ?_
      rintro child error ⟨status, read⟩
      cases read
  | stop =>
      refine wlp_seq (WorkerSupervisor.stop_effect self) ?_
      rintro _ _ rfl
      exact WorkerSupervisor.new_situation

/-- A start that finds the slot free and spawns the worker. -/
def startedTrace : List (Event SysOp SysOp.Reply) :=
  [⟨.acquireSlot "fixture.gguf", .ok ⟨"fixture.gguf"⟩⟩, ⟨.openLockFile, .ok ⟨3⟩⟩,
    ⟨.flock ⟨3⟩, true⟩, ⟨.spawn fixtureConfig.command, .ok (⟨100⟩, true)⟩,
    ⟨.startCapture ⟨100⟩, ⟨1⟩⟩]

/-- The supervisor that it leaves. -/
def startedSupervisor : WorkerSupervisor where
  child := some ⟨100⟩
  state := .starting
  activeModel := some "fixture.gguf"
  slotLock := some ⟨3⟩
  processSlot := some ⟨"fixture.gguf"⟩
  stderrCapture := some ⟨1⟩

theorem start_startedSupervisor :
    Operates {} ⟨.start fixtureConfig, startedTrace⟩ startedSupervisor :=
  ⟨0, .call _ (.call _ (.call _ (.call _ (.call _ (.ret _)))))⟩

end TriAI.Supervisor
