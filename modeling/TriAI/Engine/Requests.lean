import TriAI.Engine.Model
import TriAI.Library.Runs
import TriAI.Supervisor.Effects

/-!
Contract: a request in progress keeps the engine busy.

Owns: the theorem that between the begin and the finish of a request no stop, no
switch and no second request succeeds, and its condition on `refresh`.

Does not own: which worker serves the request (`Engine.Invariant`).

`refresh` is the defect: while a request is in progress it reports the engine as
ready if the worker still runs, or as degraded if the status of the worker cannot be
read, and the request is no longer protected.
-/

set_option autoImplicit false

namespace TriAI

open TriAI.Library.Interaction
open TriAI.Library.Runs
open TriAI.Supervisor

/-- The operations that a request in progress excludes. -/
def EngineRequest.Excluded : EngineRequest → Prop
  | .stopModel | .switchModel _ | .beginRequest _ => True
  | _ => False

/-- The exit of a worker was observed. -/
def EngineStep.SeesExit (step : EngineStep) : Prop :=
  ∃ child status, ⟨.tryWait child, .ok (some status)⟩ ∈ step.trace

/-- While a request is in progress, a refresh sees the worker's exit. -/
def EngineStep.RefreshAdmitted (self : Engine) (step : EngineStep) : Prop :=
  self.state = .busy → step.request = .refresh → step.SeesExit

/-- What may happen between the begin and the finish of a request. -/
def EngineStep.WithinRequest (step : EngineStep) : Prop :=
  step.request ≠ .finishRequest ∧ ¬ step.SeesExit

/-- An operation that a busy engine rejects without a call. -/
theorem EngineRequest.perform_busy {self : Engine} (busy : self.state = .busy)
    {request : EngineRequest} (noRefresh : request ≠ .refresh)
    (noFinish : request ≠ .finishRequest) (iterations : Nat) :
    request.perform self iterations = .ret (false, self) := by
  cases request with
  | refresh => exact absurd rfl noRefresh
  | finishRequest => exact absurd rfl noFinish
  | startModel cfg => simp [perform, Engine.startModel, busy]
  | startModelReady cfg timeout => simp [perform, Engine.startModelReady, busy]
  | recoverWithFallback cfg timeout => simp [perform, Engine.recoverWithFallback, busy]
  | beginRequest model => simp [perform, Engine.beginRequest, busy]
  | stopModel => simp [perform, Engine.stopModel, busy]
  | switchModel cfg => simp [perform, Engine.switchModel, busy]

/-- Step lemma: within a request an admitted step is rejected and changes nothing. -/
theorem Performs.busy {self after : Engine} {step : EngineStep} (performs : Performs self step after)
    (admitted : step.RefreshAdmitted self) (within : step.WithinRequest)
    (busy : self.state = .busy) : step.succeeded = false ∧ after = self := by
  obtain ⟨iterations, returns⟩ := performs
  have noRefresh : step.request ≠ .refresh := fun refreshes =>
    within.2 (admitted busy refreshes)
  rw [EngineRequest.perform_busy busy noRefresh within.1] at returns
  obtain ⟨request, trace, succeeded⟩ := step
  cases returns
  exact ⟨rfl, rfl⟩

/-- A request begins only in a ready engine and makes it busy. -/
theorem Performs.begins {self after : Engine} {model : String}
    {trace : List (Event SysOp SysOp.Reply)}
    (performs : Performs self ⟨.beginRequest model, trace, true⟩ after) : after.state = .busy := by
  obtain ⟨iterations, returns⟩ := performs
  simp only [EngineRequest.perform, Engine.beginRequest] at returns
  split at returns
  · cases returns
  · cases returns
    rfl

/-- Replies that show no exit of a worker. -/
def NoExit : (op : SysOp) → op.Reply → Prop
  | .tryWait _, .ok (some _) => False
  | _, _ => True

theorem EngineStep.noExit {step : EngineStep} (unseen : ¬ step.SeesExit) :
    ∀ event ∈ step.trace, NoExit event.op event.reply := by
  rintro ⟨op, reply⟩ member
  cases op with
  | tryWait child =>
      rcases reply with error | _ | status
      · trivial
      · trivial
      · exact unseen ⟨child, status, member⟩
  | _ => trivial

/-- The condition is needed: a refresh within a request that does not see the exit
ends its protection. -/
theorem Performs.refresh_unprotects {self after : Engine} {step : EngineStep}
    (performs : Performs self step after) (refreshes : step.request = .refresh)
    (unseen : ¬ step.SeesExit) (served : self.workerEndpoint.isSome)
    (busy : self.state = .busy) (workerReady : self.supervisor.state = .ready) :
    after.state ≠ .busy := by
  obtain ⟨iterations, returns⟩ := performs
  obtain ⟨⟨host, port⟩, endpoint⟩ := Option.isSome_iff_exists.mp served
  have sound : wlp (anyReply NoExit) (step.request.perform self iterations)
      (fun result _ => result.2.state ≠ .busy) () → after.state ≠ .busy :=
    returns.sound (EngineStep.noExit unseen)
  rw [refreshes] at sound
  have refreshed : wlp (anyReply NoExit) self.refresh
      (fun result _ => result.2.state ≠ .busy) () := by
    unfold Engine.refresh
    rw [endpoint]
    refine wlp_seq (WorkerSupervisor.refresh_effect self.supervisor host port) ?_
    rintro ⟨worker, supervisor⟩ _ effect
    change (self.observe worker supervisor).state ≠ .busy
    cases effect with
    | childless => simp [Engine.observe, Engine.settled, busy]
    | exited _ _ _ observed => exact observed.elim
    | ready => simp [Engine.observe]
    | unchanged => simp [Engine.observe, workerReady]
    | unreadable => simp [Engine.observe, Engine.settled]
  exact sound (wlp_seq refreshed fun _ _ final => final)

/-- In every run in which no refresh falls within a request unless it sees the
worker's exit: from a begun request on, until it is finished or the exit is seen, the
engine stays busy, and no stop, no switch and no second request succeeds. -/
theorem engine_requestExcludes {between : List EngineStep} {ready begun reached : Engine}
    {model : String} {trace : List (Event SysOp SysOp.Reply)}
    (begins : Performs ready ⟨.beginRequest model, trace, true⟩ begun)
    (run : Run (fun self step after => Performs self step after ∧ step.RefreshAdmitted self)
      begun between reached)
    (within : ∀ step ∈ between, step.WithinRequest) :
    reached.state = .busy ∧ ∀ step after, Performs reached step after →
      step.request.Excluded → step.succeeded = false := by
  have staysBusy : (∀ step ∈ between, step.WithinRequest) → reached.state = .busy := by
    refine run.invariant (fun history state =>
      (∀ step ∈ history, EngineStep.WithinRequest step) → state.state = .busy)
      (fun _ => begins.begins) ?_
    intro history state step after inductionHypothesis next allWithin
    have earlierBusy := inductionHypothesis fun earlier member =>
      allWithin earlier (List.mem_append_left _ member)
    have lastWithin := allWithin step (List.mem_append_right _ (List.mem_singleton_self step))
    rw [(next.1.busy next.2 lastWithin earlierBusy).2]
    exact earlierBusy
  have busy := staysBusy within
  refine ⟨busy, fun step after performs excluded => ?_⟩
  obtain ⟨iterations, returns⟩ := performs
  obtain ⟨request, trace, succeeded⟩ := step
  rw [EngineRequest.perform_busy busy ?_ ?_] at returns
  · cases returns
    rfl
  · rintro rfl
    exact excluded
  · rintro rfl
    exact excluded

/-! ## Recorded runs -/

/-- `readyEngine` with a request in progress. -/
def busyEngine : Engine := { readyEngine with state := .busy }

theorem performs_begin :
    Performs readyEngine ⟨.beginRequest "fixture.gguf", [], true⟩ busyEngine :=
  ⟨0, .ret _⟩

/-- A second request is tried and rejected; the engine stays busy. -/
theorem engine_requestExcludes_secondRequest :
    busyEngine.state = .busy ∧ ∀ step after, Performs busyEngine step after →
      step.request.Excluded → step.succeeded = false := by
  have rejected : Performs busyEngine ⟨.beginRequest "fixture.gguf", [], false⟩ busyEngine :=
    ⟨0, .ret _⟩
  have admitted : EngineStep.RefreshAdmitted busyEngine
      ⟨.beginRequest "fixture.gguf", [], false⟩ := fun _ impossible => by cases impossible
  refine engine_requestExcludes performs_begin (.step .start ⟨rejected, admitted⟩) ?_
  intro step member
  obtain rfl := List.mem_singleton.mp member
  constructor
  · intro impossible
    cases impossible
  · rintro ⟨child, status, seen⟩
    cases seen

/-- A refresh finds the worker alive within a request, and then the stop succeeds. -/
theorem engine_request_not_excludes :
    ∃ refresh stop refreshed stopped,
      Run Performs {} [⟨.startModelReady fixtureConfig 0, readyTrace, true⟩,
        ⟨.beginRequest "fixture.gguf", [], true⟩] busyEngine ∧
      refresh.request = .refresh ∧ refresh.WithinRequest ∧
      Performs busyEngine refresh refreshed ∧ refreshed.state ≠ .busy ∧
      stop.request = .stopModel ∧ Performs refreshed stop stopped ∧ stop.succeeded = true := by
  refine ⟨⟨.refresh, [⟨.tryWait ⟨100⟩, .ok none⟩, ⟨.connect "127.0.0.1" 19101, true⟩], true⟩,
    ⟨.stopModel, [⟨.sigterm ⟨100⟩, false⟩, ⟨.kill ⟨100⟩, ()⟩,
      ⟨.wait ⟨100⟩, .ok ⟨none, some 9, "signal: 9 (SIGKILL)"⟩⟩, ⟨.finishCapture ⟨1⟩, ""⟩,
      ⟨.closeFile ⟨3⟩, ()⟩, ⟨.releaseSlot ⟨"fixture.gguf"⟩, ()⟩], true⟩,
    readyEngine, {}, .step (.step .start performs_readyTrace) performs_begin, rfl, ⟨?_, ?_⟩,
    ⟨0, .call _ (.call _ (.ret _))⟩, by decide, rfl,
    ⟨0, .call _ (.call _ (.call _ (.call _ (.call _ (.call _ (.ret _))))))⟩, rfl⟩
  · intro impossible
    cases impossible
  · rintro ⟨child, status, seen⟩
    simp at seen

end TriAI
