import TriAI.Library.Runs
import TriAI.Library.Subprogram
import TriAI.Supervisor.Effects

/-!
Contract: what a supervisor knows of its worker when it reports `Ready`.

Owns: `Endpoints`, the ports and health endpoints that the probes see, which may change
before every call; what it is to enter `Ready`; and the theorem about every run.

Does not own: the worker behind an endpoint, and the engine, which copies the state.

`start_and_wait` probes the health endpoint. `refresh` does not: it reports `Ready` as
soon as the port is open.
-/

set_option autoImplicit false

namespace TriAI.Supervisor

open TriAI.Library.Interaction
open TriAI.Library.Runs

/-- What the probes would find at a moment. -/
structure Endpoints where
  portOpen : String → UInt16 → Bool
  health : String → UInt16 → Option (List UInt8)

/-- The endpoints may change before a call is answered; a probe finds what is there. -/
def Endpoints.Answers (_before : Endpoints) : (op : SysOp) → op.Reply → Endpoints → Prop
  | .connect host port, reply, after => reply = after.portOpen host port
  | .healthResponse host port, reply, after => reply = after.health host port
  | _, _, _ => True

/-- The endpoint does not report an unhealthy worker. -/
def Endpoints.Healthy (endpoints : Endpoints) (host : String) (port : UInt16) : Prop :=
  (endpoints.health host port).bind healthStatusReady ≠ some false

/-- An operation, the supervisor before and after it, its calls with their replies, and the
endpoints at its end. -/
structure Performed where
  before : WorkerSupervisor
  request : Request
  trace : List (Event SysOp SysOp.Reply)
  after : WorkerSupervisor
  endpoints : Endpoints

/-- The endpoint an operation probes. -/
def Request.endpoint : Request → Option (String × UInt16)
  | .start _ | .stop => none
  | .startAndWait cfg _ | .startAndWaitWithRetry cfg _ => some (cfg.host, cfg.port)
  | .refresh host port => some (host, port)

namespace Performed

/-- A refresh that finds its port open. -/
def FindsOpen (performed : Performed) : Prop :=
  ∃ host port, performed.request = .refresh host port ∧ performed.endpoints.portOpen host port

/-- The operation enters `Ready`, or enters it again. In `Ready` only a refresh that finds
the port open sets the state once more. -/
def EntersReady (performed : Performed) : Prop :=
  performed.after.state = .ready ∧ (performed.before.state ≠ .ready ∨ performed.FindsOpen)

/-- The endpoint of the operation does not report an unhealthy worker. -/
def Healthy (performed : Performed) : Prop :=
  ∃ host port, performed.request.endpoint = some (host, port) ∧
    performed.endpoints.Healthy host port

/-- The operation has found a child that runs. -/
def FindsRunning (performed : Performed) : Prop :=
  ∃ child, ⟨.tryWait child, .ok none⟩ ∈ performed.trace

/-- No refresh of a child that runs finds the port open while the endpoint reports an unhealthy
worker. -/
def HealthyIfOpen (performed : Performed) : Prop :=
  ∀ host port, performed.request = .refresh host port → performed.FindsRunning →
    performed.endpoints.portOpen host port → performed.endpoints.Healthy host port

end Performed

/-- One operation of a run. -/
structure Performs (before : WorkerSupervisor × Endpoints) (performed : Performed)
    (after : WorkerSupervisor × Endpoints) : Prop where
  starts : performed.before = before.1
  ends : performed.after = after.1 ∧ performed.endpoints = after.2
  runs : ∃ iterations,
    Prog.Returns (performed.request.perform before.1 iterations) performed.trace after.1
  answered : Follows Endpoints.Answers before.2 performed.trace after.2

namespace WorkerSupervisor

/-! ## Operations -/

variable {cfg : WorkerConfig} {self after : WorkerSupervisor}

/-- A start that fails enters no state of a worker. -/
theorem StartEffect.ready_of_error {Allowed : (op : SysOp) → op.Reply → Prop} {error : SysError}
    (effect : StartEffect Allowed cfg self (.error error) after) (ready : after.state = .ready) :
    self.state = .ready := by
  cases effect with
  | occupied => exact ready
  | slotDenied => cases ready
  | openFailed => exact ready
  | lockDenied => cases ready
  | spawnFailed => cases ready

/-- A start that succeeds has a worker that is starting. -/
theorem StartEffect.not_ready_of_ok {Allowed : (op : SysOp) → op.Reply → Prop}
    (effect : StartEffect Allowed cfg self (.ok ()) after) : after.state ≠ .ready := by
  cases effect with
  | started => simp

/-- What a waiting start knows: it is ready and the endpoint is healthy, or it has not
entered `Ready`. -/
def Knows (cfg : WorkerConfig) (self : WorkerSupervisor) :
    Except WorkerFailure Unit × WorkerSupervisor → Endpoints → Prop
  | (.ok (), _), endpoints => endpoints.Healthy cfg.host cfg.port
  | (.error _, after), _ => after.state = .ready → self.state = .ready

private theorem giveUp_knows (self first : WorkerSupervisor) (terminate : Bool)
    (failure : String → WorkerFailure) (endpoints : Endpoints) :
    wlp (stepping Endpoints.Answers) (self.giveUp terminate failure) (Knows cfg first)
      endpoints := by
  refine wlp_mono (wlp_stepping_of_anyReply (giveUp_fails self terminate failure) endpoints) ?_
  rintro _ _ ⟨reason, rfl⟩ ready
  cases ready

/-- Run lemma of the waiting loop: it ends with success only after a probe. -/
theorem waitReady_knows (self first : WorkerSupervisor) (cfg : WorkerConfig)
    (timeout deadline iterations : Nat) (endpoints : Endpoints) :
    wlp (stepping Endpoints.Answers) (self.waitReady cfg timeout deadline iterations)
      (Knows cfg first) endpoints := by
  induction iterations generalizing endpoints with
  | zero => exact ⟨trivial, fun reply => reply.elim⟩
  | succ iterations inductionHypothesis =>
      unfold waitReady
      cases self.child with
      | none => exact giveUp_knows self first _ _ endpoints
      | some child =>
          refine ⟨trivial, fun status seen _ => ?_⟩
          rcases status with error | _ | status
          · exact giveUp_knows self first _ _ seen
          · refine ⟨trivial, fun connected seen _ => ?_⟩
            cases connected with
            | true =>
                refine ⟨trivial, fun response probed answered => ?_⟩
                show wlp _ (if response.bind healthStatusReady = some false then _ else _) _ _
                split
                · exact ⟨trivial, fun _ later _ => inductionHypothesis later⟩
                · rename_i healthy
                  rw [answered] at healthy
                  exact healthy
            | false =>
                refine ⟨trivial, fun time seen _ => ?_⟩
                show wlp _ (if deadline ≤ time then _ else _) _ _
                split
                · exact giveUp_knows self first _ _ seen
                · exact ⟨trivial, fun _ later _ => inductionHypothesis later⟩
          · exact giveUp_knows self first _ _ seen

theorem startAndWait_knows (self : WorkerSupervisor) (cfg : WorkerConfig)
    (timeout iterations : Nat) (endpoints : Endpoints) :
    wlp (stepping Endpoints.Answers) (self.startAndWait cfg timeout iterations) (Knows cfg self)
      endpoints := by
  unfold startAndWait
  refine wlp_perform trivial fun connected seen _ => ?_
  cases connected with
  | true =>
      intro ready
      cases ready
  | false =>
      have started : wlp (stepping Endpoints.Answers) (self.start cfg)
          (fun result _ => StartEffect (fun _ _ => True) cfg self result.1 result.2) seen :=
        wlp_stepping_of_anyReply (start_effect cfg self) seen
      refine wlp_seq started ?_
      rintro ⟨error | ⟨⟩, started⟩ later effect
      · exact fun ready => effect.ready_of_error ready
      · exact wlp_perform trivial fun time now _ =>
          waitReady_knows started self cfg timeout _ iterations now

theorem startAndWaitWithRetry_knows (self : WorkerSupervisor) (cfg : WorkerConfig)
    (timeout iterations : Nat) (endpoints : Endpoints) :
    wlp (stepping Endpoints.Answers) (self.startAndWaitWithRetry cfg timeout iterations)
      (Knows cfg self) endpoints := by
  unfold startAndWaitWithRetry
  refine wlp_seq (startAndWait_knows self cfg timeout iterations endpoints) ?_
  rintro ⟨first | ⟨⟩, stopped⟩ later knows
  · by_cases conflict : first.code = .portConflict
    · simp only [conflict, if_true]
      refine wlp_perform trivial fun connected seen _ => ?_
      cases connected with
      | true => exact knows
      | false =>
          refine wlp_mono (startAndWait_knows _ cfg timeout iterations seen) ?_
          rintro ⟨second | ⟨⟩, after⟩ last again
          · intro ready
            cases again ready
          · exact again
    · simp only [conflict, if_false]
      exact knows
  · exact knows

/-- A refresh enters `Ready` only where it finds the port open. -/
theorem refresh_knows (self : WorkerSupervisor) (host : String) (port : UInt16)
    (endpoints : Endpoints) :
    wlp (stepping Endpoints.Answers) (self.refresh host port)
      (fun result seen => result.2.state = .ready → self.state = .ready ∨ seen.portOpen host port)
      endpoints := by
  unfold refresh
  cases self.child with
  | none =>
      intro ready
      cases ready
  | some child =>
      refine wlp_perform trivial fun status seen _ => ?_
      rcases status with error | _ | status
      · intro ready
        cases ready
      · refine wlp_perform trivial fun connected probed answered => ?_
        cases connected with
        | true => exact fun _ => .inr answered.symm
        | false => exact fun ready => .inl ready
      · have cleaned : wlp (stepping Endpoints.Answers) (self.cleanupFailedWorker false)
            (fun result _ =>
              result.2 = { state := .failed, lastFailure := self.lastFailure }) seen :=
          wlp_stepping_of_anyReply (cleanupFailedWorker_effect self false) seen
        refine wlp_seq cleaned ?_
        rintro ⟨stderrTail, cleaned⟩ _ rfl ready
        cases ready

/-- A refresh that leaves a worker in `Ready` has found its child running. -/
theorem refresh_running {host : String} {port : UInt16} {trace : List (Event SysOp SysOp.Reply)}
    {result : WorkerState × WorkerSupervisor}
    (returns : Prog.Returns (self.refresh host port) trace result)
    (ready : result.2.state = .ready) : ∃ child, ⟨.tryWait child, .ok none⟩ ∈ trace := by
  unfold refresh at returns
  cases hasChild : self.child with
  | none =>
      rw [hasChild] at returns
      cases returns
      cases ready
  | some child =>
      rw [hasChild] at returns
      cases returns with
      | call status rest =>
          rcases status with error | _ | status
          · cases rest
            cases ready
          · exact ⟨child, List.mem_cons_self ..⟩
          · have exited : Prog.Returns (self.cleanupFailedWorker false >>= _) _ result := rest
            obtain ⟨_, _, ⟨stderrTail, cleaned⟩, _, cleans, ends⟩ := exited.split
            have effect : wlp (anyReply fun _ _ => True) (self.cleanupFailedWorker false)
                (fun result _ => result.2 = { state := .failed, lastFailure := self.lastFailure })
                () := cleanupFailedWorker_effect self false
            have failed : cleaned = { state := .failed, lastFailure := self.lastFailure } :=
              cleans.sound (fun _ _ => trivial) effect
            subst failed
            cases ends
            cases ready

end WorkerSupervisor

/-! ## Runs -/

/-- What a program's result is, whatever the rest of a request makes of it. -/
private theorem exec_snd {α : Type} {program : Sys (α × WorkerSupervisor)}
    {post : α × WorkerSupervisor → Endpoints → Prop} {endpoints last : Endpoints}
    {after : WorkerSupervisor}
    (exec : Prog.Exec Endpoints.Answers endpoints (Prod.snd <$> program) after last)
    (holds : wlp (stepping Endpoints.Answers) program post endpoints) :
    ∃ result, post (result, after) last := by
  have mapped : wlp (stepping Endpoints.Answers) (Prod.snd <$> program)
      (fun after last => ∃ result, post (result, after) last) endpoints := by
    rw [map_eq_pure_bind]
    apply wlp_seq holds
    intro reached last known
    exact ⟨reached.1, known⟩
  exact exec.of_stepping mapped

/-- Step lemma: an operation that enters `Ready` has probed its endpoint, or is a refresh. -/
theorem Performs.healthy {before after : WorkerSupervisor × Endpoints} {performed : Performed}
    (performs : Performs before performed after) (healthyIfOpen : performed.HealthyIfOpen)
    (enters : performed.EntersReady) : performed.Healthy := by
  obtain ⟨beforeSupervisor, request, trace, afterSupervisor, endpoints⟩ := performed
  obtain ⟨rfl, ⟨rfl, rfl⟩, ⟨iterations, returns⟩, answered⟩ := performs
  have exec := returns.exec answered
  obtain ⟨ready, entered⟩ := enters
  have notRefresh : (∀ host port, request ≠ .refresh host port) → before.1.state ≠ .ready := by
    intro other
    rcases entered with notReady | ⟨host, port, same, _⟩
    · exact notReady
    · exact absurd same (other host port)
  have waiting : ∀ cfg result, request.endpoint = some (cfg.host, cfg.port) →
      (∀ host port, request ≠ .refresh host port) →
      WorkerSupervisor.Knows cfg before.1 (result, after.1) after.2 →
      Performed.Healthy ⟨before.1, request, trace, after.1, after.2⟩ := by
    intro cfg result isEndpoint other knows
    cases result with
    | error failure => exact absurd (knows ready) (notRefresh other)
    | ok => exact ⟨cfg.host, cfg.port, isEndpoint, knows⟩
  cases request with
  | start cfg =>
      have effects : wlp (stepping Endpoints.Answers) (before.1.start cfg)
          (fun result _ => WorkerSupervisor.StartEffect (fun _ _ => True) cfg before.1 result.1
            result.2) before.2 :=
        wlp_stepping_of_anyReply (WorkerSupervisor.start_effect cfg before.1) before.2
      obtain ⟨result, effect⟩ := exec_snd exec effects
      cases result with
      | error error => exact absurd (effect.ready_of_error ready) (notRefresh (by simp))
      | ok => exact absurd ready effect.not_ready_of_ok
  | startAndWait cfg timeout =>
      obtain ⟨result, knows⟩ := exec_snd exec
        (WorkerSupervisor.startAndWait_knows before.1 cfg timeout iterations before.2)
      exact waiting cfg result rfl (by simp) knows
  | startAndWaitWithRetry cfg timeout =>
      obtain ⟨result, knows⟩ := exec_snd exec
        (WorkerSupervisor.startAndWaitWithRetry_knows before.1 cfg timeout iterations before.2)
      exact waiting cfg result rfl (by simp) knows
  | refresh host port =>
      obtain ⟨result, knows⟩ := exec_snd exec
        (WorkerSupervisor.refresh_knows before.1 host port before.2)
      have mapped : Prog.Returns (Prod.snd <$> before.1.refresh host port) trace after.1 := returns
      rw [map_eq_pure_bind] at mapped
      obtain ⟨_, _, refreshed, isTrace, refreshes, ends⟩ := mapped.split
      have isAfter : refreshed.2 = after.1 := by
        generalize after.1 = last at ends
        cases ends
        rfl
      obtain ⟨child, found⟩ := WorkerSupervisor.refresh_running refreshes (isAfter ▸ ready)
      have running : ∃ child, ⟨.tryWait child, .ok none⟩ ∈ trace :=
        ⟨child, isTrace ▸ List.mem_append_left _ found⟩
      refine ⟨host, port, rfl, healthyIfOpen host port rfl running ?_⟩
      rcases entered with notReady | ⟨_, _, same, found⟩
      · exact (knows ready).resolve_left notReady
      · cases same
        exact found
  | stop =>
      have stops : wlp (stepping Endpoints.Answers) before.1.stop
          (fun result _ => result = (.ok (), {})) before.2 :=
        wlp_stepping_of_anyReply (WorkerSupervisor.stop_effect before.1) before.2
      obtain ⟨result, same⟩ := exec_snd exec stops
      rw [(Prod.mk.inj same).2] at ready
      cases ready

/-- Run lemma: in a run in which no refresh of a child that runs finds the port of an unhealthy
worker open, every operation that enters `Ready` leaves the endpoint healthy. -/
theorem supervisor_readyHealthy {endpoints : Endpoints} {history : List Performed}
    {last : WorkerSupervisor × Endpoints}
    (run : Run (fun before performed after =>
      Performs before performed after ∧ performed.HealthyIfOpen) ({}, endpoints) history last) :
    ∀ performed ∈ history, performed.EntersReady → performed.Healthy := by
  apply run.invariant fun history _ => ∀ performed ∈ history, performed.EntersReady →
    performed.Healthy
  · simp
  · intro history before performed after healthy step again member
    rcases List.mem_append.mp member with earlier | now
    · exact healthy again earlier
    · rw [List.mem_singleton.mp now]
      exact step.1.healthy step.2

/-! ## Recorded runs -/

/-- Endpoints that are all closed. -/
def closedEndpoints : Endpoints := ⟨fun _ _ => false, fun _ _ => none⟩

/-- Endpoints that are open and answer a health probe. -/
def openEndpoints (response : Option (List UInt8)) : Endpoints :=
  ⟨fun _ _ => true, fun _ _ => response⟩

/-- The answer of a worker whose model is not loaded. -/
def unavailable : List UInt8 := "HTTP/1.1 503 Service Unavailable\r\n".toUTF8.toList

/-- The replies of a waiting start whose worker is soon ready; its port has no health
endpoint. -/
def readyTrace : List (Event SysOp SysOp.Reply) :=
  [⟨.connect fixtureConfig.host fixtureConfig.port, false⟩,
    ⟨.acquireSlot "fixture.gguf", .ok ⟨"fixture.gguf"⟩⟩, ⟨.openLockFile, .ok ⟨3⟩⟩,
    ⟨.flock ⟨3⟩, true⟩, ⟨.spawn fixtureConfig.command, .ok (⟨100⟩, true)⟩,
    ⟨.startCapture ⟨100⟩, ⟨1⟩⟩, ⟨.now, (0 : Nat)⟩, ⟨.tryWait ⟨100⟩, .ok none⟩,
    ⟨.connect fixtureConfig.host fixtureConfig.port, true⟩,
    ⟨.healthResponse fixtureConfig.host fixtureConfig.port, none⟩]

/-- The supervisor that it leaves. -/
def readySupervisor : WorkerSupervisor where
  child := some ⟨100⟩
  state := .ready
  activeModel := some "fixture.gguf"
  slotLock := some ⟨3⟩
  processSlot := some ⟨"fixture.gguf"⟩
  stderrCapture := some ⟨1⟩

/-- The waiting start. -/
def readyStart : Performed :=
  ⟨{}, .startAndWait fixtureConfig 1000, readyTrace, readySupervisor, openEndpoints none⟩

/-- A refresh that finds the port open and the model not loaded. -/
def loadingRefresh : Performed :=
  ⟨readySupervisor, .refresh fixtureConfig.host fixtureConfig.port,
    [⟨.tryWait ⟨100⟩, .ok none⟩, ⟨.connect fixtureConfig.host fixtureConfig.port, true⟩],
    readySupervisor, openEndpoints (some unavailable)⟩

private theorem performs_readyStart :
    Performs ({}, closedEndpoints) readyStart (readySupervisor, openEndpoints none) := by
  have returns : Prog.Returns (readyStart.request.perform {} 1) readyTrace readySupervisor :=
    .call _ (.call _ (.call _ (.call _ (.call _ (.call _ (.call _ (.call _ (.call _
      (.call _ (.ret _))))))))))
  have opened : Follows Endpoints.Answers closedEndpoints readyTrace (openEndpoints none) :=
    ⟨closedEndpoints, rfl, closedEndpoints, trivial, closedEndpoints, trivial, closedEndpoints,
      trivial, closedEndpoints, trivial, closedEndpoints, trivial, closedEndpoints, trivial,
      closedEndpoints, trivial, openEndpoints none, rfl, openEndpoints none, rfl, rfl⟩
  exact ⟨rfl, ⟨rfl, rfl⟩, ⟨1, returns⟩, opened⟩

private theorem performs_loadingRefresh :
    Performs (readySupervisor, openEndpoints none) loadingRefresh
      (readySupervisor, openEndpoints (some unavailable)) := by
  have returns : Prog.Returns (loadingRefresh.request.perform readySupervisor 0)
      loadingRefresh.trace readySupervisor := .call _ (.call _ (.ret _))
  have found : Follows Endpoints.Answers (openEndpoints none) loadingRefresh.trace
      (openEndpoints (some unavailable)) :=
    ⟨openEndpoints none, trivial, openEndpoints (some unavailable), rfl, rfl⟩
  exact ⟨rfl, ⟨rfl, rfl⟩, ⟨0, returns⟩, found⟩

/-- The waiting start enters `Ready` with a healthy endpoint. -/
theorem supervisor_readyHealthy_started : readyStart.Healthy := by
  have healthyIfOpen : readyStart.HealthyIfOpen := by
    intro host port isRefresh
    cases isRefresh
  have enters : readyStart.EntersReady := by
    refine ⟨rfl, .inl ?_⟩
    decide
  exact supervisor_readyHealthy (Run.start.step ⟨performs_readyStart, healthyIfOpen⟩)
    readyStart (List.mem_singleton.mpr rfl) enters

/-- A refresh enters `Ready` again although the endpoint reports that the model loads. -/
theorem supervisor_not_readyHealthy_refreshed :
    ∃ history last, Run Performs ({}, closedEndpoints) history last ∧
      ∃ performed ∈ history, performed.EntersReady ∧ ¬ performed.Healthy := by
  refine ⟨_, _, (Run.start.step performs_readyStart).step performs_loadingRefresh,
    loadingRefresh, by simp, ⟨rfl, .inr ⟨_, _, rfl, rfl⟩⟩, ?_⟩
  rintro ⟨host, port, _, healthy⟩
  apply healthy
  show healthStatusReady unavailable = some false
  decide +kernel

end TriAI.Supervisor
