import Mathlib

/-!
Contract: finite runs of a labelled transition relation with their history.

Owns: `Run`, and the rule that a property of the history and the state that every
step keeps holds at the end of every run; `Along`, the sequences of deterministic
steps that each meet a condition, with the same rule; and `latch`, which one kind of
item sets and another kind resets, and what it says of the items so far.

Does not own: what a step or an item is.
-/

set_option autoImplicit false

namespace TriAI.Library.Runs

variable {State Label : Type}

/-- `Run Step first history last`: the steps labelled by `history` lead from
`first` to `last`. -/
inductive Run (Step : State → Label → State → Prop) (first : State) :
    List Label → State → Prop
  | start : Run Step first [] first
  | step {history : List Label} {middle last : State} {label : Label}
      (before : Run Step first history middle) (next : Step middle label last) :
      Run Step first (history ++ [label]) last

namespace Run

variable {Step : State → Label → State → Prop} {first last : State}
  {history : List Label}

/-- Rule of runs. -/
theorem invariant (run : Run Step first history last)
    (Invariant : List Label → State → Prop)
    (initially : Invariant [] first)
    (kept : ∀ history state label after, Invariant history state → Step state label after →
      Invariant (history ++ [label]) after) :
    Invariant history last := by
  induction run with
  | start => exact initially
  | step _ next inductionHypothesis => exact kept _ _ _ _ inductionHypothesis next

/-- The rule for a property of the state alone. -/
theorem state_invariant (run : Run Step first history last) (Invariant : State → Prop)
    (initially : Invariant first)
    (kept : ∀ state label after, Invariant state → Step state label after → Invariant after) :
    Invariant last :=
  run.invariant (fun _ => Invariant) initially fun _ state label after => kept state label after

/-- A run without steps is where it began. -/
theorem nil_iff : Run Step first [] last ↔ last = first := by
  constructor
  · intro run
    generalize none_yet : [] = history at run
    cases run with
    | start => rfl
    | step => simp at none_yet
  · rintro rfl
    exact .start

/-- A run seen from its first step. -/
theorem cons_iff {label : Label} :
    Run Step first (label :: history) last ↔
      ∃ middle, Step first label middle ∧ Run Step middle history last := by
  constructor
  · intro run
    generalize same : label :: history = whole at run
    induction run generalizing history with
    | start => cases same
    | step before next inductionHypothesis =>
        rcases List.eq_nil_or_concat history with rfl | ⟨front, final, rfl⟩
        · have same := List.append_inj' ((List.nil_append _).trans same) rfl
          obtain rfl := same.1
          obtain rfl := List.singleton_inj.mp same.2
          obtain rfl := nil_iff.mp before
          exact ⟨_, next, .start⟩
        · rw [List.concat_eq_append, ← List.cons_append] at same
          obtain ⟨front_eq, label_eq⟩ := List.append_inj' same rfl
          obtain rfl := List.singleton_inj.mp label_eq
          obtain ⟨middle, now, later⟩ := inductionHypothesis front_eq
          rw [List.concat_eq_append]
          exact ⟨middle, now, later.step next⟩
  · rintro ⟨middle, now, later⟩
    induction later with
    | start => exact Run.start.step now
    | step _ next inductionHypothesis => exact inductionHypothesis.step next

end Run

/-! ## Deterministic sequences -/

/-- Each step of the sequence meets the condition in the state it is taken in. -/
def Along (step : State → Label → State) (Meets : State → Label → Prop) : State → List Label → Prop
  | _, [] => True
  | state, label :: rest => Meets state label ∧ Along step Meets (step state label) rest

/-- Rule of sequences: what each step that meets the condition keeps, they keep. -/
theorem Along.invariant {step : State → Label → State} {Meets : State → Label → Prop}
    (Invariant : State → Prop)
    (kept : ∀ state label, Invariant state → Meets state label → Invariant (step state label))
    {labels : List Label} {state : State} (holds : Invariant state)
    (along : Along step Meets state labels) : Invariant (labels.foldl step state) := by
  induction labels generalizing state with
  | nil => exact holds
  | cons label rest inductionHypothesis =>
      exact inductionHypothesis (kept state label holds along.1) along.2

end TriAI.Library.Runs

/-! ## Latches -/

namespace TriAI.Library

variable {Item : Type} (Enter Leave : Item → Prop) [DecidablePred Enter] [DecidablePred Leave]

/-- An item that enters sets the latch, another one that leaves resets it, and the others
leave it as it is. -/
def latch (latched : Bool) (item : Item) : Bool :=
  if Enter item then true else if Leave item then false else latched

variable {Enter Leave} {items : List Item}

/-- A latch is set exactly if the last item that entered has not been followed by one that
leaves. -/
theorem foldl_latch_iff :
    items.foldl (latch Enter Leave) false = true ↔
      ∃ before opening after, items = before ++ opening :: after ∧ Enter opening ∧
        ∀ later ∈ after, ¬ Enter later ∧ ¬ Leave later := by
  induction items using List.reverseRecOn with
  | nil => simp
  | append_singleton items item inductionHypothesis =>
      rw [List.foldl_append, List.foldl_cons, List.foldl_nil, latch]
      by_cases enters : Enter item
      · rw [if_pos enters]
        exact iff_of_true rfl ⟨items, item, [], rfl, enters, by simp⟩
      · rw [if_neg enters]
        constructor
        · intro still
          by_cases leaves : Leave item
          · simp [leaves] at still
          · rw [if_neg leaves, inductionHypothesis] at still
            obtain ⟨before, opening, after, rfl, entered, calm⟩ := still
            refine ⟨before, opening, after ++ [item], by simp, entered, ?_⟩
            intro later member
            rcases List.mem_append.mp member with earlier | last
            · exact calm later earlier
            · rw [List.mem_singleton.mp last]
              exact ⟨enters, leaves⟩
        · rintro ⟨before, opening, after, parts, entered, calm⟩
          -- the item that entered is not the last one
          rcases List.eq_nil_or_concat after with rfl | ⟨front, last, rfl⟩
          · obtain ⟨_, same⟩ := List.append_inj' parts rfl
            rw [List.singleton_inj.mp same] at enters
            exact absurd entered enters
          · rw [List.concat_eq_append, ← List.cons_append, ← List.append_assoc] at parts
            obtain ⟨rfl, same⟩ := List.append_inj' parts rfl
            obtain rfl := List.singleton_inj.mp same
            have stays := calm item (by simp)
            rw [if_neg stays.2, inductionHypothesis]
            exact ⟨before, opening, front, rfl, entered, fun later member =>
              calm later (by simp [member])⟩

end TriAI.Library
