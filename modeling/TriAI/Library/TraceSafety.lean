import TriAI.Library.Subprogram

/-!
Contract: what holds of every call of every trace, and of every step of every run, as contracts.

Owns: the contract that watches the calls together with their replies, and the one that guards
the steps of a world; that they say exactly what holds along every trace and every run; and the
rules for a part that fails and for a loop.

Does not own: traces of what a program returns (`Library.FallibleTraces`).
-/

set_option autoImplicit false

namespace TriAI.Library.Interaction

variable {Op : Type} {Reply : Op → Type} {α : Type}

/-- Every call is to be `Good` with every reply that is allowed. -/
def watching (Allowed Good : (op : Op) → Reply op → Prop) : Contract Op Reply Unit where
  Admits := fun _ op => ∀ reply, Allowed op reply → Good op reply
  Answers := fun _ op reply _ => Allowed op reply

/-- Along every trace with allowed replies every call is good. -/
def AlongTraces (Allowed Good : (op : Op) → Reply op → Prop) (program : Prog Op Reply α) : Prop :=
  ∀ trace value, Prog.Returns program trace value →
    (∀ event ∈ trace, Allowed event.op event.reply) →
    ∀ event ∈ trace, Good event.op event.reply

variable {Allowed Good : (op : Op) → Reply op → Prop}

/-- Where every call can be answered, every program has a trace. -/
theorem Prog.exists_returns (answers : ∀ op, ∃ reply, Allowed op reply)
    (program : Prog Op Reply α) :
    ∃ trace value, Prog.Returns program trace value ∧
      ∀ event ∈ trace, Allowed event.op event.reply := by
  induction program with
  | ret value => exact ⟨[], value, .ret value, by simp⟩
  | call op next inductionHypothesis =>
      obtain ⟨reply, allowed⟩ := answers op
      obtain ⟨trace, value, returns, allAllowed⟩ := inductionHypothesis reply
      exact ⟨⟨op, reply⟩ :: trace, value, .call reply returns,
        List.forall_mem_cons.mpr ⟨allowed, allAllowed⟩⟩

private theorem alongTraces_of_wlp {program : Prog Op Reply α} {post : α → Unit → Prop}
    (holds : wlp (watching Allowed Good) program post ()) : AlongTraces Allowed Good program := by
  intro trace value returns allowed
  induction returns with
  | ret value => simp
  | call reply _ inductionHypothesis =>
      obtain ⟨now, later⟩ := List.forall_mem_cons.mp allowed
      exact List.forall_mem_cons.mpr
        ⟨holds.1 reply now, inductionHypothesis (holds.2 reply () now) later⟩

private theorem wlp_of_alongTraces (answers : ∀ op, ∃ reply, Allowed op reply)
    {program : Prog Op Reply α} (along : AlongTraces Allowed Good program) :
    wlp (watching Allowed Good) program (fun _ _ => True) () := by
  induction program with
  | ret value => trivial
  | call op next inductionHypothesis =>
      refine ⟨fun reply allowed => ?_, fun reply _ allowed => ?_⟩
      · obtain ⟨trace, value, returns, allAllowed⟩ := Prog.exists_returns answers (next reply)
        exact along _ value (.call reply returns)
          (List.forall_mem_cons.mpr ⟨allowed, allAllowed⟩) _ (List.mem_cons_self ..)
      · apply inductionHypothesis reply
        intro trace value returns allAllowed event member
        exact along _ value (.call reply returns)
          (List.forall_mem_cons.mpr ⟨allowed, allAllowed⟩) event (List.mem_cons_of_mem _ member)

/-- The contract says exactly what holds along every trace. -/
theorem alongTraces_iff (answers : ∀ op, ∃ reply, Allowed op reply) (program : Prog Op Reply α) :
    AlongTraces Allowed Good program ↔
      wlp (watching Allowed Good) program (fun _ _ => True) () :=
  ⟨wlp_of_alongTraces answers, alongTraces_of_wlp⟩

/-! ## Runs of a world -/

section Runs

variable {World : Type} {step : World → (op : Op) → Reply op → World → Prop}
  {Good : World → (op : Op) → Reply op → World → Prop}

/-- Every step that the world can take at a call is to be `Good`. -/
def guarding (step Good : World → (op : Op) → Reply op → World → Prop) :
    Contract Op Reply World where
  Admits := fun world op => ∀ reply after, step world op reply after → Good world op reply after
  Answers := step

/-- Along every run every step is good. -/
def AlongRuns (step Good : World → (op : Op) → Reply op → World → Prop)
    (program : Prog Op Reply α) (world : World) : Prop :=
  ∀ trace value, Prog.Returns program trace value → ∀ front event back,
    trace = front ++ event :: back → ∀ before after, Follows step world front before →
      step before event.op event.reply after → Good before event.op event.reply after

private theorem alongRuns_of_wlp {program : Prog Op Reply α} {post : α → World → Prop}
    {world : World} (holds : wlp (guarding step Good) program post world) :
    AlongRuns step Good program world := by
  intro trace value returns
  induction returns generalizing world with
  | ret value => simp
  | call reply _ inductionHypothesis =>
      intro front event back whole before after follows steps
      cases front with
      | nil =>
          obtain ⟨rfl, _⟩ := List.cons.inj whole
          obtain rfl := follows
          exact holds.1 _ _ steps
      | cons first front =>
          obtain ⟨rfl, isRest⟩ := List.cons.inj whole
          obtain ⟨middle, answered, rest⟩ := follows
          exact inductionHypothesis (holds.2 _ middle answered) front event back isRest before after
            rest steps

private theorem wlp_of_alongRuns (replies : ∀ op, Nonempty (Reply op)) {program : Prog Op Reply α}
    {world : World} (along : AlongRuns step Good program world) :
    wlp (guarding step Good) program (fun _ _ => True) world := by
  induction program generalizing world with
  | ret value => trivial
  | call op next inductionHypothesis =>
      refine ⟨fun reply after steps => ?_, fun reply after steps => ?_⟩
      · obtain ⟨trace, value, returns, _⟩ := @Prog.exists_returns Op Reply α (fun _ _ => True)
          (fun op => (replies op).elim fun reply => ⟨reply, trivial⟩) (next reply)
        exact along _ value (.call reply returns) [] ⟨op, reply⟩ trace rfl world after rfl steps
      · apply inductionHypothesis reply
        intro trace value returns front event back whole before last follows taken
        exact along _ value (.call reply returns) (⟨op, reply⟩ :: front) event back
          (congrArg _ whole) before last ⟨after, steps, follows⟩ taken

/-- The contract says exactly what holds along every run. -/
theorem alongRuns_iff (replies : ∀ op, Nonempty (Reply op)) (program : Prog Op Reply α)
    (world : World) :
    AlongRuns step Good program world ↔
      wlp (guarding step Good) program (fun _ _ => True) world :=
  ⟨wlp_of_alongRuns replies, alongRuns_of_wlp⟩

end Runs

namespace Fallible

variable {ε β View : Type} {contract : Contract Op Reply View}

/-- A pure step that fails ends the program. -/
theorem wlp_run_check {result : Except ε α} {rest : α → Fallible ε Op Reply β} {view : View} :
    wlp contract ((ExceptT.mk (.ret result) : Fallible ε Op Reply α) >>= rest).run
        (fun _ _ => True) view ↔
      ∀ value, result = .ok value → wlp contract (rest value).run (fun _ _ => True) view := by
  cases result with
  | ok value =>
      constructor
      · intro holds other same
        cases same
        exact holds
      · exact fun holds => holds value rfl
  | error failure =>
      constructor
      · intro _ value same
        cases same
      · exact fun _ => trivial

/-- A loop keeps what each round keeps, also where it fails. -/
theorem wlp_run_foldlM {ι σ : Type} {body : σ → ι → Fallible ε Op Reply σ}
    {Kept : View → Prop} (items : List ι) {state : σ} {view : View} (kept : Kept view)
    (round : ∀ item ∈ items, ∀ state view, Kept view →
      wlp contract (body state item).run (fun _ => Kept) view) :
    wlp contract (items.foldlM body state).run (fun _ => Kept) view := by
  induction items generalizing state view with
  | nil => exact kept
  | cons item rest inductionHypothesis =>
      rw [List.foldlM_cons, wlp_run_bind]
      refine wlp_mono (round item (List.mem_cons_self ..) state view kept) ?_
      intro reached after stillKept
      cases reached with
      | error error => exact stillKept
      | ok next =>
          exact inductionHypothesis stillKept
            fun other member => round other (List.mem_cons_of_mem _ member)

end Fallible

end TriAI.Library.Interaction
