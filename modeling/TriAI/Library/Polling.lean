import TriAI.Library.Interruption

/-!
Contract: programs that are asked to stop and look from time to time whether they are.

Owns: `Polling`, which calls begin an effect, which ones look, and what these reply once
the program is asked to stop; `Quiet`, a program that begins no effect then; `Ahead`, a
program that can begin one before it looks; `Heeds`, a program that is quiet after
every look, with the rules for sequences and for programs whose calls are programs; and
`StillLooks` and `ActsLast`, a program that can come to a look and one that begins its
effects after all its looks.

Does not own: how a program is asked to stop.
-/

set_option autoImplicit false

namespace TriAI.Library.Interaction

variable {Op : Type} {Reply : Op → Type} {α β : Type}

/-- The calls that begin an effect, the calls that look, and the replies these can have
once the program is asked to stop. -/
structure Polling (Op : Type) (Reply : Op → Type) where
  Begins : Op → Prop
  Looks : Op → Prop
  Stopping : (op : Op) → Reply op → Prop

namespace Polling

variable (polling : Polling Op Reply)

/-- The contract of a program that is asked to stop: it begins nothing, whatever its
looks reply then and its other calls reply at all. -/
def stopped : Contract Op Reply Unit where
  Admits := fun _ op => ¬ polling.Begins op
  Answers := fun _ op reply _ => polling.Looks op → polling.Stopping op reply

/-- A program that begins no effect once it is asked to stop. -/
def Quiet (program : Prog Op Reply α) (post : α → Prop) : Prop :=
  wlp polling.stopped program (fun value _ => post value) ()

/-- A program that can begin an effect before its next look. -/
def Ahead : Prog Op Reply α → Prop
  | .ret _ => False
  | .call op next => polling.Begins op ∨ (¬ polling.Looks op ∧ ∃ reply, Ahead (next reply))

/-- A program that is quiet after every look which tells it to stop, and then returns a
value of `post`. -/
def Heeds (post : α → Prop) : Prog Op Reply α → Prop
  | .ret _ => True
  | .call op next =>
      (polling.Looks op → ∀ reply, polling.Stopping op reply →
        polling.Quiet (next reply) post) ∧ ∀ reply, Heeds post (next reply)

variable {polling} {post : α → Prop} {last : β → Prop}

/-- A quiet program whose values continue quietly. -/
theorem Quiet.bind {program : Prog Op Reply α} {rest : α → Prog Op Reply β}
    (quiet : polling.Quiet program post)
    (continues : ∀ value, post value → polling.Quiet (rest value) last) :
    polling.Quiet (program >>= rest) last :=
  wlp_seq quiet fun value _ holds => continues value holds

/-- Two parts that heed a stop, the second one quiet where the first one was stopped. -/
theorem Heeds.bind {program : Prog Op Reply α} {rest : α → Prog Op Reply β}
    (heeds : polling.Heeds post program)
    (stops : ∀ value, post value → polling.Quiet (rest value) last)
    (continues : ∀ value, polling.Heeds last (rest value)) :
    polling.Heeds last (program >>= rest) := by
  induction program with
  | ret value => exact continues value
  | call op next inductionHypothesis =>
      refine ⟨?_, fun reply => inductionHypothesis reply (heeds.2 reply)⟩
      intro looks reply stopping
      exact (heeds.1 looks reply stopping).bind stops

/-- A program without looks heeds what its calls never tell it. -/
theorem Heeds.of_blind {program : Prog Op Reply α}
    (blind : wlp (⟨fun _ op => ¬ polling.Looks op, fun _ _ _ _ => True⟩ :
      Contract Op Reply Unit) program (fun _ _ => True) ()) :
    polling.Heeds post program := by
  induction program with
  | ret value => trivial
  | call op next inductionHypothesis =>
      refine ⟨fun looks => absurd looks blind.1, ?_⟩
      intro reply
      exact inductionHypothesis reply (blind.2 reply () trivial)

/-- A program that heeds a stop and is not ahead of its next look is quiet. -/
theorem Heeds.quiet {program : Prog Op Reply α}
    (heeds : polling.Heeds (fun _ => True) program) (behind : ¬ polling.Ahead program) :
    polling.Quiet program fun _ => True := by
  induction program with
  | ret value => trivial
  | call op next inductionHypothesis =>
      have begins : ¬ polling.Begins op := fun begins => behind (.inl begins)
      refine ⟨begins, ?_⟩
      intro reply _ answered
      by_cases looks : polling.Looks op
      · exact heeds.1 looks reply (answered looks)
      · apply inductionHypothesis reply (heeds.2 reply)
        intro ahead
        exact behind (.inr ⟨looks, reply, ahead⟩)

/-! ## Effects after the last look -/

/-- A program that can still come to a look. -/
def StillLooks : Prog Op Reply α → Prop
  | .ret _ => False
  | .call op next => polling.Looks op ∨ ∃ reply, StillLooks (next reply)

/-- A program that begins its effects when it can look no more. -/
def ActsLast : Prog Op Reply α → Prop
  | .ret _ => True
  | .call op next =>
      (polling.Begins op → ∀ reply, ¬ polling.StillLooks (next reply)) ∧
        ∀ reply, ActsLast (next reply)

theorem not_stillLooks {program : Prog Op Reply α}
    (blind : program.Only fun op => ¬ polling.Looks op) : ¬ polling.StillLooks program := by
  induction program with
  | ret value => exact id
  | call op next inductionHypothesis =>
      rintro (looks | ⟨reply, later⟩)
      · exact blind.1 looks
      · exact inductionHypothesis reply (blind.2 reply) later

theorem StillLooks.of_bind {program : Prog Op Reply α} {rest : α → Prog Op Reply β}
    (blind : ∀ value, (rest value).Only fun op => ¬ polling.Looks op)
    (looks : polling.StillLooks (program >>= rest)) : polling.StillLooks program := by
  induction program with
  | ret value => exact absurd looks (not_stillLooks (blind value))
  | call op next inductionHypothesis =>
      rcases looks with now | ⟨reply, later⟩
      · exact .inl now
      · exact .inr ⟨reply, inductionHypothesis reply later⟩

theorem ActsLast.of_blind {program : Prog Op Reply α}
    (blind : program.Only fun op => ¬ polling.Looks op) : polling.ActsLast program := by
  induction program with
  | ret value => trivial
  | call op next inductionHypothesis =>
      refine ⟨fun _ reply => not_stillLooks (blind.2 reply), ?_⟩
      exact fun reply => inductionHypothesis reply (blind.2 reply)

/-- A first part without effects. -/
theorem ActsLast.of_idle {program : Prog Op Reply α} {rest : α → Prog Op Reply β}
    (idle : program.Only fun op => ¬ polling.Begins op)
    (last : ∀ value, polling.ActsLast (rest value)) : polling.ActsLast (program >>= rest) := by
  induction program with
  | ret value => exact last value
  | call op next inductionHypothesis =>
      refine ⟨fun begins => absurd begins idle.1, ?_⟩
      exact fun reply => inductionHypothesis reply (idle.2 reply)

/-- A last part without looks. -/
theorem ActsLast.bind {program : Prog Op Reply α} {rest : α → Prog Op Reply β}
    (acts : polling.ActsLast program)
    (blind : ∀ value, (rest value).Only fun op => ¬ polling.Looks op) :
    polling.ActsLast (program >>= rest) := by
  induction program with
  | ret value => exact .of_blind (blind value)
  | call op next inductionHypothesis =>
      refine ⟨?_, fun reply => inductionHypothesis reply (acts.2 reply)⟩
      intro begins reply looks
      exact acts.1 begins reply (looks.of_bind blind)

end Polling

/-! ## Calls that are programs -/

section Expansion

variable {Low : Type} {LowReply : Low → Type} {ε : Type}

/-- Every call is made by a program. -/
def Prog.expand (body : (op : Op) → Prog Low LowReply (Reply op)) :
    Prog Op Reply α → Prog Low LowReply α
  | .ret value => .ret value
  | .call op next => body op >>= fun reply => (next reply).expand body

/-- A program that ends with an error as soon as a call replies one of `errors`. -/
def FailsAfter (errors : (op : Op) → Reply op → Prop) : Prog Op Reply (Except ε α) → Prop
  | .ret _ => True
  | .call op next =>
      (∀ reply, errors op reply → ∃ error, next reply = .ret (.error error)) ∧
        ∀ reply, FailsAfter errors (next reply)

theorem FailsAfter.bind {errors : (op : Op) → Reply op → Prop} {program : Fallible ε Op Reply α}
    {rest : α → Fallible ε Op Reply β} (first : FailsAfter errors program.run)
    (second : ∀ value, FailsAfter errors (rest value).run) :
    FailsAfter errors (program >>= rest).run := by
  rw [ExceptT.run_bind]
  generalize program.run = run at first
  induction run with
  | ret reached =>
      cases reached with
      | ok value => exact second value
      | error error => trivial
  | call op next inductionHypothesis =>
      refine ⟨?_, fun reply => inductionHypothesis reply (first.2 reply)⟩
      intro reply isError
      obtain ⟨error, ended⟩ := first.1 reply isError
      refine ⟨error, ?_⟩
      show (next reply).bind _ = _
      rw [ended]
      rfl

/-- A part whose error is only reported in another form. -/
theorem FailsAfter.attempt {errors : (op : Op) → Reply op → Prop} {ε₀ : Type} {wrap : ε₀ → ε}
    {call : Prog Op Reply (Except ε₀ α)} (fails : FailsAfter errors call) :
    FailsAfter errors (Fallible.attempt wrap call).run := by
  unfold Fallible.attempt
  rw [ExceptT.run_mk]
  induction call with
  | ret reached => trivial
  | call op next inductionHypothesis =>
      refine ⟨?_, fun reply => inductionHypothesis reply (fails.2 reply)⟩
      intro reply isError
      obtain ⟨error, ended⟩ := fails.1 reply isError
      refine ⟨wrap error, ?_⟩
      show (next reply).bind _ = _
      rw [ended]
      rfl

/-- If every call heeds a stop by an error that ends the program, the program heeds it. -/
theorem FailsAfter.heeds_expand {polling : Polling Low LowReply}
    {errors : (op : Op) → Reply op → Prop} {body : (op : Op) → Prog Low LowReply (Reply op)}
    (bodies : ∀ op, polling.Heeds (errors op) (body op)) {program : Prog Op Reply (Except ε α)}
    (fails : FailsAfter errors program) :
    polling.Heeds (fun _ => True) (program.expand body) := by
  induction program with
  | ret value => trivial
  | call op next inductionHypothesis =>
      apply (bodies op).bind
      · intro reply isError
        obtain ⟨error, ended⟩ := fails.1 reply isError
        rw [ended]
        trivial
      · exact fun reply => inductionHypothesis reply (fails.2 reply)

end Expansion

end TriAI.Library.Interaction
