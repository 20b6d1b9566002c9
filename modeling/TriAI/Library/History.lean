import TriAI.Library.Polling
import TriAI.Library.Subprogram

/-!
Contract: programs whose world is the history of their calls.

Owns: `Somewhere`, a relation between an event of a history and what came before it; the
world that records every call; the rule for complete traces; and what a program keeps whose
calls are programs.

Does not own: which events matter.
-/

set_option autoImplicit false

namespace TriAI.Library.Interaction

/-! ## Histories -/

section Somewhere

variable {α : Type} {Late : List α → α → Prop} {history : List α} {event : α}

/-- Some event stands in the relation to what came before it. -/
def Somewhere (Late : List α → α → Prop) (history : List α) : Prop :=
  ∃ before event after, history = before ++ event :: after ∧ Late before event

@[simp] theorem somewhere_nil : ¬ Somewhere Late [] := by
  rintro ⟨before, event, after, parts, _⟩
  simp at parts

/-- A history that grows by one event. -/
theorem somewhere_append_singleton :
    Somewhere Late (history ++ [event]) ↔ Somewhere Late history ∨ Late history event := by
  constructor
  · rintro ⟨before, found, after, parts, late⟩
    rcases List.eq_nil_or_concat after with rfl | ⟨front, last, rfl⟩
    · obtain ⟨rfl, rfl⟩ := List.append_inj' parts rfl |>.imp_right List.singleton_inj.mp
      exact .inr late
    · rw [List.concat_eq_append, ← List.cons_append, ← List.append_assoc] at parts
      obtain ⟨rfl, _⟩ := List.append_inj' parts rfl
      exact .inl ⟨before, found, front, rfl, late⟩
  · rintro (⟨before, found, after, rfl, late⟩ | late)
    · exact ⟨before, found, after ++ [event], by simp, late⟩
    · exact ⟨history, event, [], rfl, late⟩

end Somewhere

/-! ## Recorded calls -/

variable {Op : Type} {Reply : Op → Type} {α : Type}

/-- The world that replies anything and remembers it. -/
def recording (history : List (Event Op Reply)) (op : Op) (reply : Reply op)
    (after : List (Event Op Reply)) : Prop :=
  after = history ++ [⟨op, reply⟩]

/-- What is proved of every history holds of every complete trace. -/
theorem Prog.Returns.recorded {program : Prog Op Reply α} {trace : List (Event Op Reply)}
    {value : α} (returns : Prog.Returns program trace value) {history : List (Event Op Reply)}
    {post : α → List (Event Op Reply) → Prop}
    (holds : wlp (stepping recording) program post history) : post value (history ++ trace) := by
  induction returns generalizing history with
  | ret value =>
      rw [List.append_nil]
      exact holds
  | call reply _ inductionHypothesis =>
      have later := inductionHypothesis (holds.2 reply _ rfl)
      rwa [List.append_assoc] at later

/-! ## Calls that are programs -/

/-- The calls a program may make at all. -/
def onlyCalls (Allowed : Op → Prop) : Contract Op Reply Unit where
  Admits := fun _ => Allowed
  Answers := fun _ _ _ _ => True

/-- What every allowed call keeps, the program keeps. -/
theorem wlp_expand {Low View : Type} {LowReply : Low → Type} {contract : Contract Low LowReply View}
    {body : (op : Op) → Prog Low LowReply (Reply op)} {Allowed : Op → Prop} {Kept : View → Prop}
    (bodies : ∀ op view, Allowed op → Kept view → wlp contract (body op) (fun _ => Kept) view)
    {program : Prog Op Reply α} (allowed : wlp (onlyCalls Allowed) program (fun _ _ => True) ())
    {view : View} (kept : Kept view) :
    wlp contract (program.expand body) (fun _ => Kept) view := by
  induction program generalizing view with
  | ret value => exact kept
  | call op next inductionHypothesis =>
      refine wlp_seq (bodies op view allowed.1 kept) fun reply after stillKept => ?_
      exact inductionHypothesis reply (allowed.2 reply () trivial) stillKept

end TriAI.Library.Interaction
