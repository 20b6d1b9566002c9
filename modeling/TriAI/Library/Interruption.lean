import TriAI.Library.Fallible

/-!
Contract: programs that are stopped at an arbitrary point of their run.

Owns: `Interrupted`, the worlds a program can leave when it is stopped before,
between or inside its calls, and how such a stop splits over a sequence; `Only`,
the programs that make some calls only; and the frame rule, by which such a
program changes no more than these calls do, wherever it is stopped.

Does not own: which calls can be stopped inside, and what they then leave.
-/

set_option autoImplicit false

namespace TriAI.Library.Interaction

variable {ε Op : Type} {Reply : Op → Type} {World α β : Type}

/-- `Interrupted handler torn world program after`: stopped at some point of its
run from `world`, the program leaves `after`. `torn` says what a call that is
stopped inside leaves. -/
inductive Prog.Interrupted (handler : (op : Op) → World → Reply op × World)
    (torn : World → Op → World → Prop) : World → Prog Op Reply α → World → Prop where
  | here (world : World) (program : Prog Op Reply α) :
      Interrupted handler torn world program world
  | during {world after : World} {op : Op} (next : Reply op → Prog Op Reply α)
      (cut : torn world op after) : Interrupted handler torn world (.call op next) after
  | later {world after : World} {op : Op} {next : Reply op → Prog Op Reply α}
      (rest : Interrupted handler torn (handler op world).2 (next (handler op world).1) after) :
      Interrupted handler torn world (.call op next) after

variable {handler : (op : Op) → World → Reply op × World} {torn : World → Op → World → Prop}

namespace Prog

/-- A program stopped at its end has completed. -/
theorem Interrupted.completed (world : World) (program : Prog Op Reply α) :
    Interrupted handler torn world program (runWith handler program world).2 := by
  induction program generalizing world with
  | ret value => exact .here world _
  | call op next inductionHypothesis => exact .later (inductionHypothesis _ _)

/-- A program that returned has nothing left to stop in. -/
theorem Interrupted.of_ret {world after : World} {value : α}
    (stopped : Interrupted handler torn world (.ret value : Prog Op Reply α) after) :
    after = world := by
  cases stopped
  rfl

/-- A sequence is stopped in its first part or, after that, in its second. -/
theorem Interrupted.of_bind {program : Prog Op Reply α} {rest : α → Prog Op Reply β}
    {world after : World}
    (stopped : Interrupted handler torn world (program >>= rest) after) :
    Interrupted handler torn world program after ∨
      Interrupted handler torn (runWith handler program world).2
        (rest (runWith handler program world).1) after := by
  induction program generalizing world with
  | ret value => exact .inr stopped
  | call op next inductionHypothesis =>
      rw [call_bind] at stopped
      cases stopped with
      | here => exact .inl (.here _ _)
      | during _ cut => exact .inl (.during next cut)
      | later stopped =>
          rcases inductionHypothesis _ stopped with first | second
          · exact .inl (.later first)
          · exact .inr second

/-- A sequence may be stopped in its first part. -/
theorem Interrupted.inFirst {program : Prog Op Reply α} {world after : World}
    (stopped : Interrupted handler torn world program after) (rest : α → Prog Op Reply β) :
    Interrupted handler torn world (program >>= rest) after := by
  induction stopped with
  | here world program => exact .here world _
  | during next cut => exact .during _ cut
  | later _ inductionHypothesis => exact .later inductionHypothesis

/-- A sequence may be stopped in its second part. -/
theorem Interrupted.inSecond {program : Prog Op Reply α} {rest : α → Prog Op Reply β}
    {world after : World}
    (stopped : Interrupted handler torn (runWith handler program world).2
      (rest (runWith handler program world).1) after) :
    Interrupted handler torn world (program >>= rest) after := by
  induction program generalizing world with
  | ret value => exact stopped
  | call op next inductionHypothesis =>
      rw [call_bind]
      apply Interrupted.later
      exact inductionHypothesis _ stopped

/-- A call may be stopped inside. -/
theorem Interrupted.inCall {op : Op} {world after : World} (cut : torn world op after) :
    Interrupted handler torn world (perform op : Prog Op Reply (Reply op)) after :=
  .during _ cut

/-- One call is stopped before it, inside it or after it. -/
theorem Interrupted.of_perform {op : Op} {world after : World}
    (stopped : Interrupted handler torn world (perform op : Prog Op Reply (Reply op)) after) :
    after = world ∨ torn world op after ∨ after = (handler op world).2 := by
  cases stopped with
  | here => exact .inl rfl
  | during _ cut => exact .inr (.inl cut)
  | later rest => exact .inr (.inr rest.of_ret)

end Prog

namespace Fallible

/-- `Prog.Interrupted` for a program that may fail. -/
def Interrupted (handler : (op : Op) → World → Reply op × World)
    (torn : World → Op → World → Prop) (world : World) (program : Fallible ε Op Reply α)
    (after : World) : Prop :=
  Prog.Interrupted handler torn world program.run after

theorem Interrupted.here (world : World) (program : Fallible ε Op Reply α) :
    Interrupted handler torn world program world :=
  Prog.Interrupted.here world program.run

/-- A run that completed was stopped at its end. -/
theorem Interrupted.of_outcome {program : Fallible ε Op Reply α} {world after : World}
    {result : Except ε α} (ran : outcome handler program world = (result, after)) :
    Interrupted handler torn world program after := by
  have completed : Interrupted handler torn world program (outcome handler program world).2 :=
    Prog.Interrupted.completed world program.run
  rwa [ran] at completed

/-- A pure result leaves the world alone. -/
theorem Interrupted.of_result {world after : World} {result : Except ε α}
    (stopped : Interrupted handler torn world (ExceptT.mk (.ret result)) after) :
    after = world :=
  Prog.Interrupted.of_ret stopped

/-- A sequence is stopped in its first part or, after that succeeded, in its
second. -/
theorem Interrupted.of_bind {program : Fallible ε Op Reply α}
    {rest : α → Fallible ε Op Reply β} {world after : World}
    (stopped : Interrupted handler torn world (program >>= rest) after) :
    Interrupted handler torn world program after ∨
      ∃ value middle, outcome handler program world = (.ok value, middle) ∧
        Interrupted handler torn middle (rest value) after := by
  unfold Interrupted at stopped
  rw [ExceptT.run_bind] at stopped
  rcases stopped.of_bind with first | second
  · exact .inl first
  · rcases ran : program.run.runWith handler world with ⟨error | value, middle⟩
    · -- after an error nothing runs, so the first part had completed
      rw [ran] at second
      have unchanged := Prog.Interrupted.of_ret second
      have complete : Prog.Interrupted handler torn world program.run
          (program.run.runWith handler world).2 := .completed world program.run
      rw [ran] at complete
      rw [unchanged]
      exact .inl complete
    · rw [ran] at second
      exact .inr ⟨value, middle, ran, second⟩

theorem Interrupted.inFirst {program : Fallible ε Op Reply α} {world after : World}
    (stopped : Interrupted handler torn world program after)
    (rest : α → Fallible ε Op Reply β) :
    Interrupted handler torn world (program >>= rest) after := by
  unfold Interrupted
  rw [ExceptT.run_bind]
  exact Prog.Interrupted.inFirst stopped _

theorem Interrupted.inSecond {program : Fallible ε Op Reply α}
    {rest : α → Fallible ε Op Reply β} {world middle after : World} {value : α}
    (ran : outcome handler program world = (.ok value, middle))
    (stopped : Interrupted handler torn middle (rest value) after) :
    Interrupted handler torn world (program >>= rest) after := by
  unfold Interrupted
  rw [ExceptT.run_bind]
  apply Prog.Interrupted.inSecond
  have ran' : program.run.runWith handler world = (.ok value, middle) := ran
  rw [ran']
  exact stopped

theorem Interrupted.inAttempt {ε₀ : Type} {wrap : ε₀ → ε}
    {call : Prog Op Reply (Except ε₀ α)} {world after : World}
    (stopped : Prog.Interrupted handler torn world call after) :
    Interrupted handler torn world (attempt wrap call) after :=
  Prog.Interrupted.inFirst stopped _

/-- A call that may fail is stopped like the call. -/
theorem Interrupted.of_attempt {ε₀ : Type} {wrap : ε₀ → ε}
    {call : Prog Op Reply (Except ε₀ α)} {world after : World}
    (stopped : Interrupted handler torn world (attempt wrap call) after) :
    Prog.Interrupted handler torn world call after := by
  unfold Interrupted attempt at stopped
  rw [ExceptT.run_mk] at stopped
  rcases stopped.of_bind with first | second
  · exact first
  · rw [Prog.Interrupted.of_ret second]
    exact .completed world call

end Fallible

/-! ## Programs that make some calls only -/

variable {allowed : Op → Prop}

/-- Every call the program can come to make is allowed. -/
def Prog.Only (allowed : Op → Prop) : Prog Op Reply α → Prop
  | .ret _ => True
  | .call op next => allowed op ∧ ∀ reply, (next reply).Only allowed

theorem Prog.Only.bind {program : Prog Op Reply α} {rest : α → Prog Op Reply β}
    (first : program.Only allowed) (second : ∀ value, (rest value).Only allowed) :
    (program >>= rest).Only allowed := by
  induction program with
  | ret value => exact second value
  | call op next inductionHypothesis =>
      rw [call_bind]
      exact ⟨first.1, fun reply => inductionHypothesis reply (first.2 reply)⟩

/-- Frame rule: what every allowed call keeps, the program keeps, wherever it is
stopped. -/
theorem Prog.Only.interrupted {Frame : World → World → Prop} (refl : ∀ world, Frame world world)
    (trans : ∀ {first second third}, Frame first second → Frame second third → Frame first third)
    (calls : ∀ op, allowed op → ∀ world, Frame world (handler op world).2)
    (cuts : ∀ op, allowed op → ∀ world after, torn world op after → Frame world after)
    {program : Prog Op Reply α} (only : program.Only allowed) {world after : World}
    (stopped : Interrupted handler torn world program after) : Frame world after := by
  induction stopped with
  | here world _ => exact refl world
  | during _ cut => exact cuts _ only.1 _ _ cut
  | later _ inductionHypothesis =>
      exact trans (calls _ only.1 _) (inductionHypothesis (only.2 _))

namespace Fallible

/-- `Prog.Only` for a program that may fail. -/
def Only (allowed : Op → Prop) (program : Fallible ε Op Reply α) : Prop :=
  program.run.Only allowed

theorem Only.result (result : Except ε α) :
    Only allowed (ExceptT.mk (.ret result) : Fallible ε Op Reply α) :=
  trivial

theorem Only.attempt {ε₀ : Type} {wrap : ε₀ → ε} {call : Prog Op Reply (Except ε₀ α)}
    (only : call.Only allowed) : Only allowed (Fallible.attempt wrap call) :=
  only.bind fun _ => trivial

theorem Only.lift {call : Prog Op Reply α} (only : call.Only allowed) :
    Only allowed (ExceptT.lift call : Fallible ε Op Reply α) := by
  unfold Only
  rw [ExceptT.run_lift, map_eq_pure_bind]
  exact only.bind fun _ => trivial

theorem Only.bind {program : Fallible ε Op Reply α} {rest : α → Fallible ε Op Reply β}
    (first : Only allowed program) (second : ∀ value, Only allowed (rest value)) :
    Only allowed (program >>= rest) := by
  unfold Only
  rw [ExceptT.run_bind]
  apply Prog.Only.bind first
  intro reached
  cases reached with
  | ok value => exact second value
  | error error => exact trivial

theorem Only.capture {body : Fallible ε Op Reply α} (only : Only allowed body) :
    Only allowed (Fallible.capture body) :=
  Only.lift only

theorem Only.onError {body : Fallible ε Op Reply α} {cleanup : Fallible ε Op Reply Unit}
    (bodyOnly : Only allowed body) (cleanupOnly : Only allowed cleanup) :
    Only allowed (body.onError cleanup) := by
  unfold Only Fallible.onError
  rw [ExceptT.run_mk]
  apply Prog.Only.bind bodyOnly
  intro reached
  cases reached with
  | ok value => exact trivial
  | error error => exact Prog.Only.bind cleanupOnly fun _ => trivial

theorem Only.foldlM {ι σ : Type} {body : σ → ι → Fallible ε Op Reply σ}
    (only : ∀ state item, Only allowed (body state item)) (items : List ι) (state : σ) :
    Only allowed (items.foldlM body state) := by
  induction items generalizing state with
  | nil => exact Only.result _
  | cons item rest inductionHypothesis =>
      rw [List.foldlM_cons]
      exact (only state item).bind inductionHypothesis

end Fallible

end TriAI.Library.Interaction
