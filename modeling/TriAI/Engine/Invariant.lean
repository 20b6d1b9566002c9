import TriAI.Engine.Model
import TriAI.Library.Runs
import TriAI.Supervisor.Effects

/-!
Contract: which fields of an engine and its supervisor agree.

Owns: `EngineInvariant` and the theorem that it holds after every operation of every
run in which the status of the worker can be read.

Does not own: the locks of the supervisor (`Supervisor.Representation`).
-/

set_option autoImplicit false

namespace TriAI

open TriAI.Library.Interaction
open TriAI.Library.Runs
open TriAI.Supervisor
open TriAI.Supervisor.WorkerSupervisor

/-- The configuration that an operation starts if it succeeds. -/
def EngineRequest.starts : EngineRequest → Option WorkerConfig
  | .startModel cfg | .startModelReady cfg _ | .recoverWithFallback cfg _ | .switchModel cfg =>
      some cfg
  | .refresh | .beginRequest _ | .finishRequest | .stopModel => none

/-- The configuration with which a step has started a worker. -/
def EngineStep.started (step : EngineStep) : Option WorkerConfig :=
  if step.succeeded then step.request.starts else none

/-- The configuration that was started last. -/
def startedConfig (history : List EngineStep) : Option WorkerConfig :=
  history.foldl (fun before step => step.started.or before) none

theorem startedConfig_step (history : List EngineStep) (step : EngineStep) :
    startedConfig (history ++ [step]) = step.started.or (startedConfig history) := by
  unfold startedConfig
  rw [List.foldl_append]
  rfl

/-- The invariant of an engine whose last started configuration is `started`. -/
structure EngineInvariant (started : Option WorkerConfig) (engine : Engine) : Prop where
  active : (engine.state = .loading ∨ engine.state = .ready ∨ engine.state = .busy) ↔
    engine.activeModel.isSome
  endpoint : engine.activeModel.isSome ↔ engine.workerEndpoint.isSome
  agrees : engine.activeModel.isSome →
    engine.activeModel = engine.supervisor.activeModel ∧
      ∃ cfg, started = some cfg ∧ engine.workerEndpoint = some (cfg.host, cfg.port)
  settled : engine.state = .idle ∨ engine.state = .degraded ∨ engine.state = .failed →
    engine.activeModel = none ∧ engine.workerEndpoint = none ∧ engine.supervisor.child = none

/-- The two situations of an engine. -/
inductive EngineSituation (started : Option WorkerConfig) (engine : Engine) : Prop
  | settled (state : engine.state = .idle ∨ engine.state = .degraded ∨ engine.state = .failed)
      (activeModel : engine.activeModel = none) (endpoint : engine.workerEndpoint = none)
      (vacant : engine.supervisor.Vacant)
  | running (cfg : WorkerConfig) (started : started = some cfg)
      (state : engine.state = .loading ∨ engine.state = .ready ∨ engine.state = .busy)
      (activeModel : engine.activeModel = some cfg.model)
      (endpoint : engine.workerEndpoint = some (cfg.host, cfg.port))
      (serves : Serves cfg engine.supervisor)

theorem EngineSituation.invariant {started : Option WorkerConfig} {engine : Engine}
    (situation : EngineSituation started engine) : EngineInvariant started engine := by
  cases situation with
  | settled state activeModel endpoint vacant =>
      refine ⟨?_, by simp [activeModel, endpoint], fun active => ?_,
        fun _ => ⟨activeModel, endpoint, vacant.1⟩⟩
      · rcases state with idle | degraded | failed
        · simp [idle, activeModel]
        · simp [degraded, activeModel]
        · simp [failed, activeModel]
      · rw [activeModel] at active
        cases active
  | running cfg started state activeModel endpoint serves =>
      refine ⟨by simp [state, activeModel], by simp [activeModel, endpoint],
        fun _ => ⟨activeModel.trans serves.activeModel.symm, cfg, started, endpoint⟩, fun settled => ?_⟩
      rcases state with loading | ready | busy
      · simp [loading] at settled
      · simp [ready] at settled
      · simp [busy] at settled

/-! ## Operations -/

/-- What an operation that may start a worker leaves. -/
def Attempted {ε α : Type} (started : Option WorkerConfig) (cfg : WorkerConfig)
    (result : Except ε α × Engine) : Prop :=
  match result with
  | (.ok _, after) => EngineSituation (some cfg) after
  | (.error _, after) => EngineSituation started after

section Operations

variable {Allowed : (op : SysOp) → op.Reply → Prop} {started : Option WorkerConfig}
  {self : Engine}

theorem Attempted.situation {ε : Type} {cfg : WorkerConfig} {result : Except ε Unit × Engine}
    (attempted : Attempted started cfg result) {request : EngineRequest}
    (starts : request.starts = some cfg) (trace : List (Event SysOp SysOp.Reply)) :
    EngineSituation ((EngineStep.started ⟨request, trace, result.1.isOk⟩).or started) result.2 := by
  unfold EngineStep.started
  rw [starts]
  obtain ⟨error | ⟨⟩, after⟩ := result
  · exact attempted
  · exact attempted

/-- An operation that starts nothing leaves the started configuration. -/
theorem EngineSituation.kept (situation : EngineSituation started self)
    {request : EngineRequest} (starts : request.starts = none)
    (trace : List (Event SysOp SysOp.Reply)) (succeeded : Bool) :
    EngineSituation ((EngineStep.started ⟨request, trace, succeeded⟩).or started) self := by
  unfold EngineStep.started
  rw [starts, ite_self]
  exact situation

/-- An idle engine without a model has no worker. -/
theorem EngineSituation.vacant (situation : EngineSituation started self)
    (inactive : self.state = .idle ∨ self.state = .degraded ∨ self.state = .failed) :
    self.supervisor.Vacant := by
  cases situation with
  | settled _ _ _ vacant => exact vacant
  | running _ _ state =>
      rcases state with loading | ready | busy
      · simp [loading] at inactive
      · simp [ready] at inactive
      · simp [busy] at inactive

theorem running_situation {supervisor : WorkerSupervisor} {cfg : WorkerConfig}
    (serves : Serves cfg supervisor) {state : EngineState}
    (active : state = .loading ∨ state = .ready ∨ state = .busy) :
    EngineSituation (some cfg) (self.running supervisor cfg state) :=
  .running cfg rfl active rfl rfl serves

theorem settled_situation {supervisor : WorkerSupervisor} (vacant : supervisor.Vacant)
    {state : EngineState} (settled : state = .idle ∨ state = .degraded ∨ state = .failed) :
    EngineSituation started (self.settled supervisor state) :=
  .settled settled rfl rfl vacant

theorem startModel_situation (situation : EngineSituation started self) (cfg : WorkerConfig) :
    wlp (anyReply Allowed) (self.startModel cfg) (fun result _ => Attempted started cfg result)
      () := by
  unfold Engine.startModel
  split
  · exact situation
  · rename_i free
    obtain ⟨noModel, isIdle⟩ := not_or.mp free
    have idle : self.state = .idle := not_not.mp isIdle
    have vacant := situation.vacant (.inl idle)
    refine wlp_seq (start_effect cfg self.supervisor) ?_
    rintro ⟨error | ⟨⟩, supervisor⟩ _ effect
    · cases situation with
      | settled _ activeModel endpoint _ =>
          exact .settled (.inr (.inr rfl)) activeModel endpoint (effect.vacant vacant)
      | running _ _ _ activeModel =>
          rw [activeModel] at noModel
          exact absurd rfl noModel
    · exact running_situation effect.serves (.inl rfl)

/-- The part that `start_model_ready` and `recover_with_fallback` share. -/
theorem startReady_situation (vacant : self.supervisor.Vacant) (cfg : WorkerConfig)
    (timeout iterations : Nat) :
    wlp (anyReply Allowed)
      (do
        match ← self.supervisor.startAndWaitWithRetry cfg timeout iterations with
        | (.ok (), ready) => pure (.ok (), self.running ready cfg .ready)
        | (.error failure, stopped) => pure (.error failure, self.settled stopped .failed) :
        Sys (Except WorkerFailure Unit × Engine))
      (fun result _ => Attempted started cfg result) () := by
  refine wlp_seq (startAndWaitWithRetry_effect self.supervisor cfg timeout iterations) ?_
  rintro ⟨failure | ⟨⟩, supervisor⟩ _ effect
  · exact settled_situation (effect.vacant vacant) (.inr (.inr rfl))
  · exact running_situation effect.serves (.inr (.inl rfl))

theorem startModelReady_situation (situation : EngineSituation started self)
    (cfg : WorkerConfig) (timeout iterations : Nat) :
    wlp (anyReply Allowed) (self.startModelReady cfg timeout iterations)
      (fun result _ => Attempted started cfg result) () := by
  unfold Engine.startModelReady
  split
  · exact situation
  · rename_i free
    have idle : self.state = .idle := not_not.mp (not_or.mp free).2
    exact startReady_situation (situation.vacant (.inl idle)) cfg timeout iterations

theorem recoverWithFallback_situation (situation : EngineSituation started self)
    (cfg : WorkerConfig) (timeout iterations : Nat) :
    wlp (anyReply Allowed) (self.recoverWithFallback cfg timeout iterations)
      (fun result _ => Attempted started cfg result) () := by
  unfold Engine.recoverWithFallback
  split
  · exact situation
  · rename_i ended
    have failed : self.state = .degraded ∨ self.state = .failed := by
      rwa [not_and_or, not_not, not_not] at ended
    exact startReady_situation (situation.vacant (.inr failed)) cfg timeout iterations

theorem stopModel_situation (situation : EngineSituation started self) :
    wlp (anyReply Allowed) self.stopModel
      (fun result _ => EngineSituation started result.2) () := by
  unfold Engine.stopModel
  split
  · exact situation
  · refine wlp_seq (stop_effect self.supervisor) ?_
    rintro _ _ rfl
    exact .settled (.inl rfl) rfl rfl ⟨rfl, rfl⟩

theorem switchModel_situation (situation : EngineSituation started self) (cfg : WorkerConfig) :
    wlp (anyReply Allowed) (self.switchModel cfg)
      (fun result _ => Attempted started cfg result) () := by
  unfold Engine.switchModel
  split
  · exact situation
  · split
    · refine wlp_seq (stopModel_situation situation) ?_
      rintro ⟨error | ⟨⟩, stopped⟩ _ kept
      · exact kept
      · exact startModel_situation kept cfg
    · exact startModel_situation situation cfg

/-- `refresh`, when the status of the worker can be read. -/
theorem refresh_situation (situation : EngineSituation started self)
    (reads : ∀ child error, ¬ Allowed (.tryWait child) (.error error)) :
    wlp (anyReply Allowed) self.refresh (fun result _ => EngineSituation started result.2) () := by
  unfold Engine.refresh
  cases situation with
  | settled state activeModel endpoint vacant =>
      rw [endpoint]
      exact .settled state activeModel endpoint vacant
  | running cfg isStarted state activeModel endpoint serves =>
      rw [endpoint]
      refine wlp_seq (refresh_effect self.supervisor cfg.host cfg.port) ?_
      rintro ⟨worker, supervisor⟩ _ effect
      change EngineSituation started (self.observe worker supervisor)
      obtain ⟨child, workerModel, worker⟩ := serves
      cases effect with
      | childless childless =>
          rw [childless] at child
          cases child
      | exited => exact settled_situation ⟨rfl, rfl⟩ (.inr (.inl rfl))
      | ready =>
          exact .running cfg isStarted (.inr (.inl rfl)) activeModel endpoint
            ⟨child, workerModel, .inr rfl⟩
      | unchanged =>
          change EngineSituation started (self.observe self.supervisor.state self.supervisor)
          rcases worker with starting | ready
          · rw [starting]
            exact .running cfg isStarted state activeModel endpoint
              ⟨child, workerModel, .inl starting⟩
          · rw [ready]
            exact .running cfg isStarted (.inr (.inl rfl)) activeModel endpoint
              ⟨child, workerModel, .inr ready⟩
      | unreadable child _ error unread => exact absurd unread (reads child error)

theorem beginRequest_situation (situation : EngineSituation started self) (model : String) :
    EngineSituation started (self.beginRequest model).2 := by
  unfold Engine.beginRequest
  split
  · exact situation
  · rename_i accepted
    have ready : self.state = .ready := not_not.mp (not_or.mp accepted).1
    cases situation with
    | settled state => simp [ready] at state
    | running cfg isStarted _ activeModel endpoint serves =>
        exact .running cfg isStarted (.inr (.inr rfl)) activeModel endpoint serves

theorem finishRequest_situation (situation : EngineSituation started self) :
    EngineSituation started self.finishRequest.2 := by
  unfold Engine.finishRequest
  split
  · exact situation
  · rename_i accepted
    have busy : self.state = .busy := not_not.mp accepted
    cases situation with
    | settled state => simp [busy] at state
    | running cfg isStarted _ activeModel endpoint serves =>
        exact .running cfg isStarted (.inr (.inl rfl)) activeModel endpoint serves

end Operations

/-! ## Runs -/

/-- Replies by which the status of a child can be read. -/
def StatusReads : (op : SysOp) → op.Reply → Prop
  | .tryWait _, .error _ => False
  | _, _ => True

/-- An operation in which every status query of a child succeeds. -/
def EngineStep.StatusReadable (step : EngineStep) : Prop :=
  ∀ event ∈ step.trace, StatusReads event.op event.reply

/-- Step lemma: an operation keeps the situation, with the configuration it started. -/
theorem Performs.situation {self after : Engine} {step : EngineStep}
    {started : Option WorkerConfig} (performs : Performs self step after)
    (readable : step.StatusReadable) (situation : EngineSituation started self) :
    EngineSituation (step.started.or started) after := by
  obtain ⟨iterations, returns⟩ := performs
  obtain ⟨request, trace, succeeded⟩ := step
  have sound : wlp (anyReply StatusReads) (request.perform self iterations)
      (fun result _ =>
        EngineSituation ((EngineStep.started ⟨request, trace, result.1⟩).or started) result.2) () →
        EngineSituation ((EngineStep.started ⟨request, trace, succeeded⟩).or started) after :=
    returns.sound readable
  refine sound ?_
  cases request with
  | startModel cfg =>
      exact wlp_seq (startModel_situation situation cfg) fun _ _ attempted =>
        attempted.situation rfl trace
  | startModelReady cfg timeout =>
      exact wlp_seq (startModelReady_situation situation cfg timeout iterations)
        fun _ _ attempted => attempted.situation rfl trace
  | recoverWithFallback cfg timeout =>
      exact wlp_seq (recoverWithFallback_situation situation cfg timeout iterations)
        fun _ _ attempted => attempted.situation rfl trace
  | switchModel cfg =>
      exact wlp_seq (switchModel_situation situation cfg) fun _ _ attempted =>
        attempted.situation rfl trace
  | stopModel =>
      exact wlp_seq (stopModel_situation situation) fun _ _ stopped => stopped.kept rfl trace _
  | refresh =>
      exact wlp_seq (refresh_situation situation fun _ _ unread => unread)
        fun _ _ refreshed => refreshed.kept rfl trace _
  | beginRequest model => exact (beginRequest_situation situation model).kept rfl trace _
  | finishRequest => exact (finishRequest_situation situation).kept rfl trace _

/-- After every operation of a run in which the status of the worker can be read, the
fields of the engine and its supervisor agree. -/
theorem engine_invariant {history : List EngineStep} {engine : Engine}
    (run : Run (fun self step after => Performs self step after ∧ step.StatusReadable) {}
      history engine) :
    EngineInvariant (startedConfig history) engine := by
  have situation : EngineSituation (startedConfig history) engine := by
    refine run.invariant (fun history engine => EngineSituation (startedConfig history) engine)
      (.settled (.inl rfl) rfl rfl ⟨rfl, rfl⟩) ?_
    intro history self step after situation next
    rw [startedConfig_step]
    exact next.1.situation next.2 situation
  exact situation.invariant

/-- The invariant of the engine that `readyTrace` leaves. -/
theorem engine_invariant_ready : EngineInvariant (some fixtureConfig) readyEngine := by
  have readable : EngineStep.StatusReadable
      ⟨.startModelReady fixtureConfig 0, readyTrace, true⟩ := by
    intro event member
    simp only [readyTrace, List.mem_cons, List.not_mem_nil, or_false] at member
    rcases member with rfl | rfl | rfl | rfl | rfl | rfl | rfl | rfl | rfl | rfl
    all_goals trivial
  exact engine_invariant (.step .start ⟨performs_readyTrace, readable⟩)

end TriAI
