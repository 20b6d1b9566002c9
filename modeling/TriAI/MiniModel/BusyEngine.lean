import TriAI.Library.Fallible
import TriAI.MiniModel.RightModel

/-!
Contract: the controller of the mini models while the engine is busy.

Owns: what `ensure_ready` does with an engine that serves a request or loads a model.

Does not own: a call under VRAM pressure, which selects the fallback on purpose.

The refusal of such an engine is taken for a failure of the primary model, and the controller
fails over.
-/

set_option autoImplicit false

namespace TriAI.MiniModel

open TriAI.Library.Interaction
open TriAI.Supervisor

/-- The engine serves a request or loads a model. -/
def InUse (engine : Engine) : Prop := engine.state = .busy ∨ engine.state = .loading

namespace MiniModelSupervisor

section InUse

variable (sha256Hex : List UInt8 → String) (files : ModelFiles) (self : MiniModelSupervisor)
  (projectRoot : String) (runtime : MiniRuntimeConfig) (iterations : Nat) {engine : Engine}

/-- Such an engine is refused, whatever the model. -/
theorem startSelected_inUse (inUse : InUse engine) :
    ∃ failure, self.startSelected sha256Hex files engine projectRoot runtime iterations =
      pure (.error failure, engine) := by
  have notReady : engine.state ≠ .ready := by
    rcases inUse with busy | loading
    · simp [busy]
    · simp [loading]
  have refuses : ∀ cfg, serve engine cfg runtime iterations =
      pure (.error (slotBusy "mini-model switch requires an idle or failed engine"), engine) := by
    intro cfg
    unfold serve
    rcases inUse with busy | loading
    · rw [busy]
    · rw [loading]
  unfold startSelected
  cases verifies : self.activeSpec.verifyDigest sha256Hex files projectRoot with
  | error error => exact ⟨_, rfl⟩
  | ok =>
      simp only [notReady, and_false, if_false]
      cases configures : workerConfig self.activeSpec projectRoot runtime with
      | error error => exact ⟨_, rfl⟩
      | ok cfg =>
          simp only [refuses]
          exact ⟨_, rfl⟩

/-- From the primary model the controller fails over, and makes no call. -/
theorem ensureReady_inUse (primary : self.active = .primary) (inUse : InUse engine) :
    ∃ failure, self.ensureReady sha256Hex files engine projectRoot runtime false iterations =
      pure (.error failure, self.failOver, engine) := by
  have calm : self.underPressure false = self := rfl
  obtain ⟨first, refused⟩ :=
    startSelected_inUse sha256Hex files self projectRoot runtime iterations inUse
  obtain ⟨second, refusedAgain⟩ :=
    startSelected_inUse sha256Hex files self.failOver projectRoot runtime iterations inUse
  refine ⟨second, ?_⟩
  unfold ensureReady
  simp only [calm, refused, Prog.pure_eq_ret, Prog.ret_bind, primary, if_true, refusedAgain]

end InUse

/-- The call has changed neither the worker nor the controller. -/
structure Undisturbed (before : MiniModelSupervisor) (engine : Engine)
    (after : MiniModelSupervisor) (left : Engine) : Prop where
  worker : left = engine
  active : after.active = before.active
  failoverCount : after.failoverCount = before.failoverCount

/-- With the primary model active, every call that finds the engine in use disturbs it. -/
theorem ensureReady_inUse_disturbs (sha256Hex : List UInt8 → String) (files : ModelFiles)
    {self : MiniModelSupervisor} {engine : Engine} (projectRoot : String)
    (runtime : MiniRuntimeConfig) (iterations : Nat) (primary : self.active = .primary)
    (inUse : InUse engine) :
    (∃ trace result, Prog.Returns
      (self.ensureReady sha256Hex files engine projectRoot runtime false iterations) trace
        result) ∧
    ∀ trace result, Prog.Returns
      (self.ensureReady sha256Hex files engine projectRoot runtime false iterations) trace
        result → ¬ Undisturbed self engine result.2.1 result.2.2 := by
  obtain ⟨failure, failsOver⟩ := ensureReady_inUse sha256Hex files self projectRoot runtime
    iterations primary inUse
  rw [failsOver]
  refine ⟨⟨[], _, .ret _⟩, ?_⟩
  intro trace result returns undisturbed
  obtain ⟨_, rfl⟩ := Fallible.returns_ret.mp returns
  have stays := undisturbed.active
  rw [primary] at stays
  cases stays

/-- An engine that serves a request. -/
def busyEngine : Engine := { sampleEngine "primary" with state := .busy }

theorem ensureReady_inUse_disturbs_busy :
    (∃ trace result, Prog.Returns
      (ensureReady sampleDigest sampleFiles
        { manifest := sampleManifest "primary" "fallback" } busyEngine "/r" sampleRuntime false 0)
        trace result) ∧
    ∀ trace result, Prog.Returns
      (ensureReady sampleDigest sampleFiles
        { manifest := sampleManifest "primary" "fallback" } busyEngine "/r" sampleRuntime false 0)
        trace result →
      ¬ Undisturbed { manifest := sampleManifest "primary" "fallback" } busyEngine result.2.1
        result.2.2 :=
  ensureReady_inUse_disturbs sampleDigest sampleFiles "/r" sampleRuntime 0 rfl (.inl rfl)

/-- The manifest is accepted and both files are intact, and yet the controller fails over. -/
theorem ensureReady_disturbs_busyEngine :
    (sampleManifest "primary" "fallback").validate sampleFiles "/r" = .ok () ∧
      (∀ which, ((sampleManifest "primary" "fallback").spec which).verifyDigest sampleDigest
        sampleFiles "/r" = .ok ()) ∧
      ∃ result, Prog.Returns
        (ensureReady sampleDigest sampleFiles
          { manifest := sampleManifest "primary" "fallback" } busyEngine "/r" sampleRuntime false
          0) [] result ∧
        ¬ Undisturbed { manifest := sampleManifest "primary" "fallback" } busyEngine result.2.1
          result.2.2 := by
  refine ⟨rfl, ?_, _, .ret _, ?_⟩
  · intro which
    cases which <;> rfl
  · intro undisturbed
    have stays := undisturbed.active
    cases stays

end MiniModelSupervisor

end TriAI.MiniModel
