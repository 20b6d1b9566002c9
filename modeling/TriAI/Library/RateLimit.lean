import Mathlib

/-!
Contract: something that is let through at most once in an interval of time.

Owns: `passes`, the readings of a clock at which it is let through when it is asked for at
every reading; that these are the interval apart whatever the clock does, and that nothing
lets more through while the clock does not go back.

Does not own: who asks. Readings are numbers, and the time before a reading is at least 0.
-/

set_option autoImplicit false

namespace TriAI.Library.RateLimit

open scoped List

/-- The readings that are let through, the last one before them having been `last`. -/
def passes (interval : Nat) : Nat → List Nat → List Nat
  | _, [] => []
  | last, now :: rest =>
      if interval ≤ now - last then now :: passes interval now rest else passes interval last rest

/-- Each reading is at least the interval after the one before it. -/
def Apart (interval : Nat) (readings : List Nat) : Prop :=
  readings.IsChain fun earlier later => earlier + interval ≤ later

variable {interval last : Nat}

theorem passes_sublist (interval last : Nat) (readings : List Nat) :
    passes interval last readings <+ readings := by
  induction readings generalizing last with
  | nil => exact .slnil
  | cons now rest inductionHypothesis =>
      unfold passes
      by_cases passed : interval ≤ now - last
      · rw [if_pos passed]
        exact (inductionHypothesis now).cons_cons now
      · rw [if_neg passed]
        exact (inductionHypothesis last).cons now

/-- What is let through is apart, also where the clock goes back. -/
theorem apart_passes (positive : 0 < interval) (last : Nat) (readings : List Nat) :
    Apart interval (last :: passes interval last readings) := by
  induction readings generalizing last with
  | nil => exact .singleton last
  | cons now rest inductionHypothesis =>
      unfold passes
      by_cases passed : interval ≤ now - last
      · rw [if_pos passed]
        exact (inductionHypothesis now).cons_cons (by omega)
      · rw [if_neg passed]
        exact inductionHypothesis last

/-- One more reading. -/
theorem passes_append_singleton (interval last : Nat) (readings : List Nat) (now : Nat) :
    passes interval last (readings ++ [now]) =
      passes interval last readings ++
        if interval ≤ now - ((passes interval last readings).getLast?.getD last) then [now]
        else [] := by
  induction readings generalizing last with
  | nil => rfl
  | cons first rest inductionHypothesis =>
      rw [List.cons_append]
      unfold passes
      by_cases passed : interval ≤ first - last
      · rw [if_pos passed, if_pos passed, inductionHypothesis, List.cons_append,
          List.getLast?_cons, Option.getD_some]
      · rw [if_neg passed, if_neg passed, inductionHypothesis]

/-- While the clock does not go back, no readings that are apart are more. -/
theorem length_le_passes {readings others : List Nat} {start : Nat}
    (ordered : readings.Pairwise (· ≤ ·)) (later : last ≤ start) (among : others <+ readings)
    (apart : Apart interval (start :: others)) :
    others.length ≤ (passes interval last readings).length := by
  induction readings generalizing last start others with
  | nil =>
      rw [List.sublist_nil.mp among]
      exact Nat.le_refl 0
  | cons now rest inductionHypothesis =>
      have order := List.pairwise_cons.mp ordered
      unfold passes
      by_cases passed : interval ≤ now - last
      · rw [if_pos passed]
        cases others with
        | nil => exact Nat.zero_le _
        | cons other others =>
            -- The first of the others comes no earlier than the reading that was let through.
            have follows : now ≤ other ∧ others <+ rest := by
              cases among with
              | cons _ among =>
                  exact ⟨order.1 other (among.subset List.mem_cons_self),
                    (List.sublist_cons_self _ _).trans among⟩
              | cons_cons _ among => exact ⟨Nat.le_refl now, among⟩
            have apartRest := (List.isChain_cons_cons.mp apart).2
            exact Nat.succ_le_succ (inductionHypothesis order.2 follows.1 follows.2 apartRest)
      · rw [if_neg passed]
        cases among with
        | cons _ among => exact inductionHypothesis order.2 later among apart
        | cons_cons _ among =>
            have after := (List.isChain_cons_cons.mp apart).1
            omega

end TriAI.Library.RateLimit
