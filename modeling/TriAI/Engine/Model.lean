import TriAI.Supervisor.Worker

/-!
Contract: `Engine`, the request state over one worker supervisor.

Owns: the engine's fields and its operations, in the order in which they write the
fields; and an operation together with the replies it received.

Does not own: staging, which these operations do not touch.
-/

set_option autoImplicit false

namespace TriAI

open TriAI.Library.Interaction
open TriAI.Supervisor

/-- `EngineState`. -/
inductive EngineState where
  | idle
  | loading
  | ready
  | busy
  | degraded
  | draining
  | rollback
  | stopping
  | failed
deriving DecidableEq, Repr

/-- `Engine` but for its staging store; `{}` is what `Engine::new` builds. -/
structure Engine where
  supervisor : WorkerSupervisor := {}
  state : EngineState := .idle
  activeModel : Option String := none
  workerEndpoint : Option (String × UInt16) := none
  lastConfig : Option WorkerConfig := none
deriving DecidableEq, Repr

/-- The failure of a start that the engine rejects. -/
def slotBusy (message : String) : WorkerFailure := { code := .slotBusy, message }

namespace Engine

/-- The engine after its worker has started with a configuration. -/
def running (self : Engine) (supervisor : WorkerSupervisor) (cfg : WorkerConfig)
    (state : EngineState) : Engine :=
  { self with
    supervisor, state
    activeModel := some cfg.model
    workerEndpoint := some (cfg.host, cfg.port)
    lastConfig := some cfg }

/-- The engine without a worker. -/
def settled (self : Engine) (supervisor : WorkerSupervisor) (state : EngineState) : Engine :=
  { self with supervisor, state, activeModel := none, workerEndpoint := none }

/-- `start_model`. -/
def startModel (self : Engine) (cfg : WorkerConfig) : Sys (Except SysError Unit × Engine) :=
  if self.activeModel.isSome ∨ self.state ≠ .idle then
    pure (.error ⟨.wouldBlock, "engine single-model slot is busy"⟩, self)
  else do
    match ← self.supervisor.start cfg with
    | (.ok (), started) => pure (.ok (), self.running started cfg .loading)
    | (.error error, refused) =>
        pure (.error error, { self with supervisor := refused, state := .failed })

/-- `start_model_ready`. -/
def startModelReady (self : Engine) (cfg : WorkerConfig) (timeout iterations : Nat) :
    Sys (Except WorkerFailure Unit × Engine) :=
  if self.activeModel.isSome ∨ self.state ≠ .idle then
    pure (.error (slotBusy "engine single-model slot is busy"), self)
  else do
    match ← self.supervisor.startAndWaitWithRetry cfg timeout iterations with
    | (.ok (), ready) => pure (.ok (), self.running ready cfg .ready)
    | (.error failure, stopped) => pure (.error failure, self.settled stopped .failed)

/-- What `refresh` makes of the state of the worker. -/
def observe (self : Engine) (worker : WorkerState) (supervisor : WorkerSupervisor) : Engine :=
  match worker with
  | .ready => { self with supervisor, state := .ready }
  | .failed => self.settled supervisor .degraded
  | .stopped =>
      if self.state ≠ .stopping then self.settled supervisor .idle
      else { self with supervisor }
  | .starting => { self with supervisor }

/-- `refresh`. -/
def refresh (self : Engine) : Sys (EngineState × Engine) :=
  match self.workerEndpoint with
  | none => pure (self.state, self)
  | some (host, port) => do
      let (worker, supervisor) ← self.supervisor.refresh host port
      let observed := self.observe worker supervisor
      pure (observed.state, observed)

/-- `begin_request`. -/
def beginRequest (self : Engine) (model : String) : Except SysError Unit × Engine :=
  if self.state ≠ .ready ∨ self.activeModel ≠ some model then
    (.error ⟨.wouldBlock, "model is not the ready active model"⟩, self)
  else (.ok (), { self with state := .busy })

/-- `finish_request`. -/
def finishRequest (self : Engine) : Except SysError Unit × Engine :=
  if self.state ≠ .busy then (.error ⟨.invalidInput, "no request active"⟩, self)
  else (.ok (), { self with state := .ready })

/-- `stop_model`. The states `Draining` and `Stopping` are passed through. -/
def stopModel (self : Engine) : Sys (Except SysError Unit × Engine) :=
  if self.state = .busy then
    pure (.error ⟨.wouldBlock, "active request must finish first"⟩, self)
  else do
    match ← self.supervisor.stop with
    | (.error error, supervisor) =>
        pure (.error error, { self with supervisor, state := .failed })
    | (.ok (), supervisor) =>
        pure (.ok (), { self.settled supervisor .idle with lastConfig := none })

/-- `recover_with_fallback`. The state `Rollback` is passed through. -/
def recoverWithFallback (self : Engine) (cfg : WorkerConfig) (timeout iterations : Nat) :
    Sys (Except WorkerFailure Unit × Engine) :=
  if self.state ≠ .degraded ∧ self.state ≠ .failed then
    pure (.error (slotBusy "Fallback ist nur aus degraded/failed erlaubt"), self)
  else do
    match ← self.supervisor.startAndWaitWithRetry cfg timeout iterations with
    | (.ok (), ready) => pure (.ok (), self.running ready cfg .ready)
    | (.error failure, stopped) => pure (.error failure, self.settled stopped .failed)

/-- `switch_model`. -/
def switchModel (self : Engine) (cfg : WorkerConfig) : Sys (Except SysError Unit × Engine) :=
  if self.state = .busy then
    pure (.error ⟨.wouldBlock, "cannot switch model while a request is active"⟩, self)
  else if self.activeModel.isSome ∨ self.state ≠ .idle then do
    match ← self.stopModel with
    | (.error error, failed) => pure (.error error, failed)
    | (.ok (), stopped) => stopped.startModel cfg
  else self.startModel cfg

end Engine

/-! ## Requests -/

/-- The operations of an engine. -/
inductive EngineRequest where
  | startModel (cfg : WorkerConfig)
  | startModelReady (cfg : WorkerConfig) (timeout : Nat)
  | recoverWithFallback (cfg : WorkerConfig) (timeout : Nat)
  | refresh
  | beginRequest (model : String)
  | finishRequest
  | stopModel
  | switchModel (cfg : WorkerConfig)

/-- Whether a call returned `Ok`, and the engine it left. -/
def returned {ε α : Type} (result : Except ε α × Engine) : Bool × Engine :=
  (result.1.isOk, result.2)

@[simp] theorem returned_error {ε α : Type} (error : ε) (self : Engine) :
    returned ((.error error, self) : Except ε α × Engine) = (false, self) := rfl

@[simp] theorem returned_ok {ε α : Type} (value : α) (self : Engine) :
    returned ((.ok value, self) : Except ε α × Engine) = (true, self) := rfl

/-- Whether an operation succeeds, and the engine it leaves. Its waiting loops are
observed for some number of rounds. -/
def EngineRequest.perform (self : Engine) (iterations : Nat) : EngineRequest → Sys (Bool × Engine)
  | .startModel cfg => returned <$> self.startModel cfg
  | .startModelReady cfg timeout => returned <$> self.startModelReady cfg timeout iterations
  | .recoverWithFallback cfg timeout =>
      returned <$> self.recoverWithFallback cfg timeout iterations
  | .refresh => (fun result => (true, result.2)) <$> self.refresh
  | .beginRequest model => pure (returned (self.beginRequest model))
  | .finishRequest => pure (returned self.finishRequest)
  | .stopModel => returned <$> self.stopModel
  | .switchModel cfg => returned <$> self.switchModel cfg

/-- An operation with the replies it received and whether it succeeded. -/
structure EngineStep where
  request : EngineRequest
  trace : List (Event SysOp SysOp.Reply)
  succeeded : Bool

/-- An operation that ends, with whatever replies. -/
def Performs (self : Engine) (step : EngineStep) (after : Engine) : Prop :=
  ∃ iterations, Prog.Returns (step.request.perform self iterations) step.trace
    (step.succeeded, after)

/-! ## Recorded runs -/

/-- A start that finds the slot free and the worker ready at once. -/
def readyTrace : List (Event SysOp SysOp.Reply) :=
  [⟨.connect "127.0.0.1" 19101, false⟩, ⟨.acquireSlot "fixture.gguf", .ok ⟨"fixture.gguf"⟩⟩,
    ⟨.openLockFile, .ok ⟨3⟩⟩, ⟨.flock ⟨3⟩, true⟩,
    ⟨.spawn fixtureConfig.command, .ok (⟨100⟩, true)⟩, ⟨.startCapture ⟨100⟩, ⟨1⟩⟩,
    ⟨.now, 0⟩, ⟨.tryWait ⟨100⟩, .ok none⟩, ⟨.connect "127.0.0.1" 19101, true⟩,
    ⟨.healthResponse "127.0.0.1" 19101, none⟩]

/-- The engine that it leaves. -/
def readyEngine : Engine where
  supervisor :=
    { child := some ⟨100⟩, state := .ready, activeModel := some "fixture.gguf",
      slotLock := some ⟨3⟩, processSlot := some ⟨"fixture.gguf"⟩, stderrCapture := some ⟨1⟩ }
  state := .ready
  activeModel := some "fixture.gguf"
  workerEndpoint := some ("127.0.0.1", 19101)
  lastConfig := some fixtureConfig

theorem performs_readyTrace :
    Performs {} ⟨.startModelReady fixtureConfig 0, readyTrace, true⟩ readyEngine :=
  ⟨1, .call _ (.call _ (.call _ (.call _ (.call _ (.call _ (.call _ (.call _ (.call _
    (.call _ (.ret _))))))))))⟩

end TriAI
