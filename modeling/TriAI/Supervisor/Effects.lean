import TriAI.Supervisor.Worker

/-!
Contract: what each operation of a supervisor can do, whatever the system replies.

Owns: for every operation a relation that lists its possible results with the
replies they depend on, and the theorem that the operation has no other result.

Does not own: invariants; they are case analyses of these relations.
-/

set_option autoImplicit false

namespace TriAI.Supervisor

open TriAI.Library.Interaction

namespace WorkerSupervisor

variable (Allowed : (op : SysOp) → op.Reply → Prop)

/-- Neither a child nor a model is held. -/
def Vacant (self : WorkerSupervisor) : Prop := self.child = none ∧ self.activeModel = none

/-- A supervisor that gave up its worker. -/
def abandoned (failure : WorkerFailure) : WorkerSupervisor := failed {} failure

/-! ## Possible results -/

/-- The possible results of `start`. -/
inductive StartEffect (cfg : WorkerConfig) (self : WorkerSupervisor) :
    Except SysError Unit → WorkerSupervisor → Prop
  | occupied (held : ¬ self.Vacant) :
      StartEffect cfg self (.error ⟨.alreadyExists, "single-model slot is busy"⟩) self
  | slotDenied (vacant : self.Vacant) (error : SysError) :
      StartEffect cfg self (.error error) (self.failed ⟨.slotBusy, error.message, ""⟩)
  | openFailed (vacant : self.Vacant) (lease : SlotLease) (error : SysError)
      (failed : Allowed .openLockFile (.error error)) :
      StartEffect cfg self (.error error) { self with processSlot := some lease }
  | lockDenied (vacant : self.Vacant) (error : SysError) (failure : WorkerFailure) :
      StartEffect cfg self (.error error) (failed { self with processSlot := none } failure)
  | spawnFailed (vacant : self.Vacant) (error : SysError) (failure : WorkerFailure) :
      StartEffect cfg self (.error error)
        (failed { self with slotLock := none, processSlot := none } failure)
  | started (vacant : self.Vacant) (child : Child) (lock : LockFile) (lease : SlotLease)
      (capture : StderrCapture) :
      StartEffect cfg self (.ok ())
        { child := some child, state := .starting, activeModel := some cfg.model,
          slotLock := some lock, processSlot := some lease, stderrCapture := some capture,
          lastFailure := none }

/-- The possible results of `waitReady`. -/
inductive LoopEffect (self : WorkerSupervisor) :
    Except WorkerFailure Unit → WorkerSupervisor → Prop
  | ready : LoopEffect self (.ok ()) (self.setState .ready)
  | gaveUp (failure : WorkerFailure) : LoopEffect self (.error failure) (abandoned failure)

/-- The possible results of `startAndWait`. -/
inductive WaitEffect (cfg : WorkerConfig) (self : WorkerSupervisor) :
    Except WorkerFailure Unit → WorkerSupervisor → Prop
  | portTaken (failure : WorkerFailure) (taken : Allowed (.connect cfg.host cfg.port) true) :
      WaitEffect cfg self (.error failure) (self.failed failure)
  | notStarted {error : SysError} {stopped : WorkerSupervisor}
      (refused : StartEffect Allowed cfg self (.error error) stopped) :
      WaitEffect cfg self
        (.error (stopped.lastFailure.getD
          ⟨if error.kind = .wouldBlock then .slotBusy else .spawnFailed, error.message, ""⟩))
        stopped
  | gaveUp {started : WorkerSupervisor} (failure : WorkerFailure)
      (ran : StartEffect Allowed cfg self (.ok ()) started) :
      WaitEffect cfg self (.error failure) (abandoned failure)
  | ready {started : WorkerSupervisor} (ran : StartEffect Allowed cfg self (.ok ()) started) :
      WaitEffect cfg self (.ok ()) (started.setState .ready)

/-- The possible results of `startAndWaitWithRetry`. -/
inductive RetryEffect (cfg : WorkerConfig) (self : WorkerSupervisor) :
    Except WorkerFailure Unit → WorkerSupervisor → Prop
  | once {result : Except WorkerFailure Unit} {after : WorkerSupervisor}
      (effect : WaitEffect Allowed cfg self result after) : RetryEffect cfg self result after
  | twice {first : WorkerFailure} {stopped after : WorkerSupervisor}
      {result : Except WorkerFailure Unit}
      (effect : WaitEffect Allowed cfg self (.error first) stopped)
      (conflict : first.code = .portConflict)
      (again : WaitEffect Allowed cfg { stopped with state := .stopped, lastFailure := none }
        result after) : RetryEffect cfg self result after

/-- The possible results of `refresh`. -/
inductive RefreshEffect (self : WorkerSupervisor) : WorkerState → WorkerSupervisor → Prop
  | childless (vacant : self.child = none) :
      RefreshEffect self .stopped (self.setState .stopped)
  | exited (child : Child) (held : self.child = some child) (status : ExitStatus)
      (observed : Allowed (.tryWait child) (.ok (some status))) (failure : WorkerFailure) :
      RefreshEffect self .failed (abandoned failure)
  | ready (child : Child) (held : self.child = some child)
      (runs : Allowed (.tryWait child) (.ok none)) :
      RefreshEffect self .ready (self.setState .ready)
  | unchanged (child : Child) (held : self.child = some child)
      (runs : Allowed (.tryWait child) (.ok none)) : RefreshEffect self self.state self
  | unreadable (child : Child) (held : self.child = some child) (error : SysError)
      (unread : Allowed (.tryWait child) (.error error)) :
      RefreshEffect self .failed (self.setState .failed)

/-! ## No other results -/

variable {Allowed}

theorem releaseLocks_effect (self : WorkerSupervisor) :
    wlp (anyReply Allowed) self.releaseLocks
      (fun after _ => after = { self with slotLock := none, processSlot := none }) () := by
  unfold releaseLocks
  exact wlp_anyReply_skip fun _ => wlp_anyReply_skip fun _ => rfl

theorem startLocked_effect (cfg : WorkerConfig) (self : WorkerSupervisor) (vacant : self.Vacant)
    (lease : SlotLease) (lock : LockFile) :
    wlp (anyReply Allowed)
      (startLocked { self with processSlot := some lease, slotLock := some lock, state := .starting }
        cfg)
      (fun result _ => StartEffect Allowed cfg self result.1 result.2) () := by
  unfold startLocked
  refine wlp_anyReply_perform fun reply _ => ?_
  rcases reply with error | ⟨child, _ | _⟩
  · refine wlp_seq (releaseLocks_effect _) ?_
    rintro released _ rfl
    exact .spawnFailed vacant error _
  · refine wlp_anyReply_skip fun _ => wlp_seq (releaseLocks_effect _) ?_
    rintro released _ rfl
    exact .spawnFailed vacant _ _
  · refine wlp_anyReply_perform fun capture _ => ?_
    exact .started vacant child lock lease capture

theorem start_effect (cfg : WorkerConfig) (self : WorkerSupervisor) :
    wlp (anyReply Allowed) (self.start cfg)
      (fun result _ => StartEffect Allowed cfg self result.1 result.2) () := by
  unfold start
  split
  · rename_i held
    refine .occupied fun vacant => ?_
    simp [vacant.1, vacant.2] at held
  · rename_i free
    have vacant : self.Vacant := by simpa [Vacant] using free
    refine wlp_anyReply_perform fun acquired _ => ?_
    cases acquired with
    | error error => exact .slotDenied vacant error
    | ok lease =>
        refine wlp_anyReply_skip fun _ => ?_
        unfold startLeased
        refine wlp_anyReply_perform fun opened allowed => ?_
        cases opened with
        | error error => exact .openFailed vacant lease error allowed
        | ok lock =>
            refine wlp_anyReply_skip fun locked => ?_
            cases locked with
            | true => exact wlp_anyReply_skip fun _ => startLocked_effect cfg self vacant lease lock
            | false =>
                refine wlp_anyReply_skip fun _ => wlp_anyReply_skip fun _ => ?_
                exact .lockDenied vacant _ _

/-- Cleaning up leaves nothing but the last failure. -/
theorem cleanupFailedWorker_effect (self : WorkerSupervisor) (terminate : Bool) :
    wlp (anyReply Allowed) (self.cleanupFailedWorker terminate)
      (fun result _ => result.2 = { state := .failed, lastFailure := self.lastFailure }) () := by
  unfold cleanupFailedWorker
  refine wlp_anyReply_skip fun _ => wlp_anyReply_skip fun _ => ?_
  refine wlp_seq (releaseLocks_effect _) ?_
  rintro released _ rfl
  rfl

/-- Stopping leaves a new supervisor. -/
theorem stop_effect (self : WorkerSupervisor) :
    wlp (anyReply Allowed) self.stop (fun result _ => result = (.ok (), {})) () := by
  unfold stop
  refine wlp_anyReply_skip fun _ => wlp_anyReply_skip fun _ => ?_
  refine wlp_seq (releaseLocks_effect _) ?_
  rintro released _ rfl
  rfl

/-- Giving up fails and leaves nothing but the failure. -/
theorem giveUp_fails (self : WorkerSupervisor) (terminate : Bool)
    (failure : String → WorkerFailure) :
    wlp (anyReply Allowed) (self.giveUp terminate failure)
      (fun result _ => ∃ reason, result = (.error reason, abandoned reason)) () := by
  unfold giveUp
  refine wlp_seq (cleanupFailedWorker_effect self terminate) ?_
  rintro ⟨stderrTail, cleaned⟩ _ rfl
  exact ⟨failure stderrTail, rfl⟩

theorem giveUp_effect (self : WorkerSupervisor) (terminate : Bool)
    (failure : String → WorkerFailure) :
    wlp (anyReply Allowed) (self.giveUp terminate failure)
      (fun result _ => LoopEffect self result.1 result.2) () := by
  refine wlp_mono (giveUp_fails self terminate failure) ?_
  rintro _ _ ⟨reason, rfl⟩
  exact .gaveUp reason

/-- Run lemma: the waiting loop ends with the worker ready or given up. -/
theorem waitReady_effect (self : WorkerSupervisor) (cfg : WorkerConfig)
    (timeout deadline iterations : Nat) :
    wlp (anyReply Allowed) (self.waitReady cfg timeout deadline iterations)
      (fun result _ => LoopEffect self result.1 result.2) () := by
  induction iterations with
  | zero => exact ⟨trivial, fun reply => reply.elim⟩
  | succ iterations inductionHypothesis =>
      unfold waitReady
      cases self.child with
      | none =>
          exact giveUp_effect self _ _
      | some child =>
          refine wlp_anyReply_perform fun status _ => ?_
          rcases status with error | _ | status
          · exact giveUp_effect self _ _
          · refine wlp_anyReply_perform fun connected _ => ?_
            cases connected with
            | true =>
                refine wlp_anyReply_skip fun healthy => ?_
                by_cases loads : healthy = some false
                · rw [if_pos loads]
                  exact wlp_anyReply_skip fun _ => inductionHypothesis
                · rw [if_neg loads]
                  exact .ready
            | false =>
                refine wlp_anyReply_perform fun time _ => ?_
                by_cases late : deadline ≤ time
                · rw [if_pos late]
                  exact giveUp_effect self _ _
                · rw [if_neg late]
                  exact wlp_anyReply_skip fun _ => inductionHypothesis
          · exact giveUp_effect self _ _

theorem startAndWait_effect (self : WorkerSupervisor) (cfg : WorkerConfig)
    (timeout iterations : Nat) :
    wlp (anyReply Allowed) (self.startAndWait cfg timeout iterations)
      (fun result _ => WaitEffect Allowed cfg self result.1 result.2) () := by
  unfold startAndWait
  refine wlp_anyReply_perform fun connected allowed => ?_
  cases connected with
  | true => exact .portTaken _ allowed
  | false =>
      refine wlp_seq (start_effect cfg self) ?_
      rintro ⟨error | ⟨⟩, started⟩ _ effect
      · exact .notStarted effect
      · refine wlp_anyReply_perform fun time _ => ?_
        refine wlp_mono (waitReady_effect started cfg timeout (time + timeout) iterations) ?_
        rintro ⟨result, after⟩ _ loop
        cases loop with
        | ready => exact .ready effect
        | gaveUp failure => exact .gaveUp failure effect

theorem startAndWaitWithRetry_effect (self : WorkerSupervisor) (cfg : WorkerConfig)
    (timeout iterations : Nat) :
    wlp (anyReply Allowed) (self.startAndWaitWithRetry cfg timeout iterations)
      (fun result _ => RetryEffect Allowed cfg self result.1 result.2) () := by
  unfold startAndWaitWithRetry
  refine wlp_seq (startAndWait_effect self cfg timeout iterations) ?_
  rintro ⟨first | ⟨⟩, stopped⟩ _ effect
  · by_cases conflict : first.code = .portConflict
    · simp only [conflict, if_true]
      refine wlp_anyReply_perform fun connected _ => ?_
      cases connected with
      | true => exact .once effect
      | false =>
          exact wlp_mono (startAndWait_effect _ cfg timeout iterations) fun _ _ again =>
            .twice effect conflict again
    · simp only [conflict, if_false]
      exact .once effect
  · exact .once effect

theorem refresh_effect (self : WorkerSupervisor) (host : String) (port : UInt16) :
    wlp (anyReply Allowed) (self.refresh host port)
      (fun result _ => RefreshEffect Allowed self result.1 result.2) () := by
  unfold refresh
  cases held : self.child with
  | none => exact .childless held
  | some child =>
      refine wlp_anyReply_perform fun status allowed => ?_
      rcases status with error | _ | status
      · exact .unreadable child held error allowed
      · refine wlp_anyReply_perform fun connected _ => ?_
        cases connected with
        | true => exact .ready child held allowed
        | false => exact .unchanged child held allowed
      · refine wlp_seq (cleanupFailedWorker_effect self false) ?_
        rintro ⟨stderrTail, cleaned⟩ _ rfl
        exact .exited child held status allowed _

/-! ## What is held afterwards -/

section Held

variable {cfg : WorkerConfig} {self after : WorkerSupervisor}

/-- The worker of a configuration is held, starting or ready. -/
structure Serves (cfg : WorkerConfig) (supervisor : WorkerSupervisor) : Prop where
  child : supervisor.child.isSome
  activeModel : supervisor.activeModel = some cfg.model
  state : supervisor.state = .starting ∨ supervisor.state = .ready

theorem StartEffect.vacant {error : SysError}
    (effect : StartEffect Allowed cfg self (.error error) after) (vacant : self.Vacant) :
    after.Vacant := by
  cases effect with
  | occupied => exact vacant
  | slotDenied => exact vacant
  | openFailed => exact vacant
  | lockDenied => exact vacant
  | spawnFailed => exact vacant

theorem StartEffect.serves (effect : StartEffect Allowed cfg self (.ok ()) after) :
    Serves cfg after := by
  cases effect with
  | started => exact ⟨rfl, rfl, .inl rfl⟩

theorem WaitEffect.vacant {failure : WorkerFailure}
    (effect : WaitEffect Allowed cfg self (.error failure) after) (vacant : self.Vacant) :
    after.Vacant := by
  cases effect with
  | portTaken => exact vacant
  | notStarted refused => exact refused.vacant vacant
  | gaveUp => exact ⟨rfl, rfl⟩

theorem WaitEffect.serves (effect : WaitEffect Allowed cfg self (.ok ()) after) :
    Serves cfg after := by
  cases effect with
  | ready ran =>
      obtain ⟨child, activeModel, -⟩ := ran.serves
      exact ⟨child, activeModel, .inr rfl⟩

theorem RetryEffect.vacant {failure : WorkerFailure}
    (effect : RetryEffect Allowed cfg self (.error failure) after) (vacant : self.Vacant) :
    after.Vacant := by
  cases effect with
  | once effect => exact effect.vacant vacant
  | twice effect _ again =>
      obtain ⟨child, activeModel⟩ := effect.vacant vacant
      exact again.vacant ⟨child, activeModel⟩

theorem RetryEffect.serves (effect : RetryEffect Allowed cfg self (.ok ()) after) :
    Serves cfg after := by
  cases effect with
  | once effect => exact effect.serves
  | twice _ _ again => exact again.serves

end Held

end WorkerSupervisor

end TriAI.Supervisor
