import Mathlib

/-!
Contract: finite interactive programs, their runs, and the rules to prove them.

Owns:
- `Prog`, a tree that either returns or issues one call and continues on its
  reply, with its monad structure;
- the three readings of a program: all its traces (`Returns`), its result under
  a deterministic handler (`runWith`), and its results in a nondeterministic
  world (`Exec`);
- `Contract` and `wlp`, the pre- and postcondition rules, and their soundness
  for traces and for worlds;
- `Pool`, any number of parties interleaving call by call over one world, and
  the rule that lifts per-program contracts to every reachable state;
- `System.RunsAlong`, the runs whose every move meets a condition, with the same rule.

Does not own: any concrete operation. An unbounded loop is a family of programs
indexed by the number of iterations observed; `blocked` ends the observation.
-/

set_option autoImplicit false

namespace TriAI.Library.Interaction

/-- A program over the calls `Op`; the type of a reply depends on the call. -/
inductive Prog (Op : Type) (Reply : Op → Type) (α : Type) : Type where
  | ret (value : α)
  | call (op : Op) (next : Reply op → Prog Op Reply α)

/-- One call together with the reply it received. -/
structure Event (Op : Type) (Reply : Op → Type) where
  op : Op
  reply : Reply op

namespace Prog

variable {Op : Type} {Reply : Op → Type} {α β : Type}

/-- Sequential composition. -/
def bind : Prog Op Reply α → (α → Prog Op Reply β) → Prog Op Reply β
  | .ret value, rest => rest value
  | .call op next, rest => .call op (fun reply => (next reply).bind rest)

instance : Monad (Prog Op Reply) where
  pure := .ret
  bind := bind

/-- Issue one call and return its reply. -/
def perform (op : Op) : Prog Op Reply (Reply op) :=
  .call op .ret

@[simp] theorem pure_eq_ret (value : α) :
    (pure value : Prog Op Reply α) = .ret value := rfl

@[simp] theorem ret_bind (value : α) (rest : α → Prog Op Reply β) :
    (Prog.ret value >>= rest) = rest value := rfl

@[simp] theorem call_bind (op : Op) (next : Reply op → Prog Op Reply α)
    (rest : α → Prog Op Reply β) :
    (Prog.call op next >>= rest) = .call op (fun reply => next reply >>= rest) := rfl

@[simp] theorem perform_bind (op : Op) (rest : Reply op → Prog Op Reply β) :
    ((perform op : Prog Op Reply (Reply op)) >>= rest) = .call op rest := rfl

theorem bind_ret (program : Prog Op Reply α) : (program >>= Prog.ret) = program := by
  induction program with
  | ret value => rfl
  | call op next inductionHypothesis =>
      rw [call_bind]
      exact congrArg (Prog.call op) (funext inductionHypothesis)

@[simp] theorem map_ret (image : α → β) (value : α) :
    (image <$> Prog.ret value : Prog Op Reply β) = .ret (image value) := rfl

theorem bind_assoc {γ : Type} (program : Prog Op Reply α)
    (middle : α → Prog Op Reply β) (last : β → Prog Op Reply γ) :
    (program >>= middle >>= last) = (program >>= fun value => middle value >>= last) := by
  induction program with
  | ret value => rfl
  | call op next inductionHypothesis =>
      simp only [call_bind]
      exact congrArg (Prog.call op) (funext inductionHypothesis)

instance : LawfulMonad (Prog Op Reply) :=
  LawfulMonad.mk' (Prog Op Reply) (fun program => bind_ret program) (fun _ _ => rfl)
    bind_assoc

/-! ## Traces -/

/-- `Returns program trace value`: with these replies, in this order, the
program issues exactly the calls of `trace` and then returns `value`. -/
inductive Returns : Prog Op Reply α → List (Event Op Reply) → α → Prop where
  | ret (value : α) : Returns (.ret value) [] value
  | call {op : Op} {next : Reply op → Prog Op Reply α} {trace : List (Event Op Reply)}
      {value : α} (reply : Reply op) (rest : Returns (next reply) trace value) :
      Returns (.call op next) (⟨op, reply⟩ :: trace) value

theorem Returns.bind {program : Prog Op Reply α} {rest : α → Prog Op Reply β}
    {firstTrace secondTrace : List (Event Op Reply)} {middle : α} {value : β}
    (first : Returns program firstTrace middle)
    (second : Returns (rest middle) secondTrace value) :
    Returns (program >>= rest) (firstTrace ++ secondTrace) value := by
  induction first with
  | ret => exact second
  | call reply _ inductionHypothesis => exact .call reply (inductionHypothesis second)

/-- Every trace of a composition splits where the first program returned. -/
theorem Returns.split {program : Prog Op Reply α} {rest : α → Prog Op Reply β}
    {trace : List (Event Op Reply)} {value : β}
    (whole : Returns (program >>= rest) trace value) :
    ∃ firstTrace secondTrace middle, trace = firstTrace ++ secondTrace ∧
      Returns program firstTrace middle ∧ Returns (rest middle) secondTrace value := by
  induction program generalizing trace with
  | ret middle => exact ⟨[], trace, middle, rfl, .ret middle, whole⟩
  | call op next inductionHypothesis =>
      cases whole with
      | call reply tail =>
          obtain ⟨firstTrace, secondTrace, middle, traceEq, first, second⟩ :=
            inductionHypothesis reply tail
          exact ⟨⟨op, reply⟩ :: firstTrace, secondTrace, middle, by simp [traceEq],
            .call reply first, second⟩

/-- What is left of a program after a call is not that program. -/
theorem next_ne (op : Op) (next : Reply op → Prog Op Reply α) (reply : Reply op) :
    next reply ≠ .call op next := by
  have smaller : ∀ (program : Prog Op Reply α) (op : Op) (next : Reply op → Prog Op Reply α),
      program = .call op next → ∀ reply, next reply ≠ program := by
    intro program
    induction program with
    | ret value =>
        intro op next same
        cases same
    | call op next inductionHypothesis =>
        intro _ _ same reply again
        cases same
        exact inductionHypothesis reply op next again reply rfl
  exact smaller _ op next rfl reply

/-! ## Deterministic worlds -/

section Handler

variable {World : Type} (handler : (op : Op) → World → Reply op × World)

/-- Run against a handler that answers every call and updates the world. -/
def runWith : Prog Op Reply α → World → α × World
  | .ret value, world => (value, world)
  | .call op next, world =>
      runWith (next (handler op world).1) (handler op world).2

@[simp] theorem runWith_ret (value : α) (world : World) :
    runWith handler (.ret value) world = (value, world) := rfl

@[simp] theorem runWith_call (op : Op) (next : Reply op → Prog Op Reply α) (world : World) :
    runWith handler (.call op next) world =
      runWith handler (next (handler op world).1) (handler op world).2 := rfl

theorem runWith_bind (program : Prog Op Reply α) (rest : α → Prog Op Reply β)
    (world : World) :
    runWith handler (program >>= rest) world =
      runWith handler (rest (runWith handler program world).1)
        (runWith handler program world).2 := by
  induction program generalizing world with
  | ret value => rfl
  | call op next inductionHypothesis =>
      rw [call_bind, runWith_call, runWith_call, inductionHypothesis]

/-- A program and its world after its next calls, as many as given. -/
def advance : Nat → Prog Op Reply α → World → Prog Op Reply α × World
  | calls + 1, .call op next, world =>
      advance calls (next (handler op world).1) (handler op world).2
  | _, program, world => (program, world)

end Handler

/-! ## Nondeterministic worlds -/

/-- `step world op reply after`: the world may answer `op` by `reply` and become
`after`. `Exec` is the resulting big-step relation. -/
inductive Exec {World : Type} (step : World → (op : Op) → Reply op → World → Prop) :
    World → Prog Op Reply α → α → World → Prop where
  | ret (world : World) (value : α) : Exec step world (.ret value) value world
  | call {world middle after : World} {op : Op} {next : Reply op → Prog Op Reply α}
      {reply : Reply op} {value : α} (answered : step world op reply middle)
      (rest : Exec step middle (next reply) value after) :
      Exec step world (.call op next) value after

end Prog

/-! ## Contracts -/

/-- What a party may call in a given view of the world, and how a reply changes
that view. -/
structure Contract (Op : Type) (Reply : Op → Type) (View : Type) where
  Admits : View → Op → Prop
  Answers : View → (op : Op) → Reply op → View → Prop

section Wlp

variable {Op : Type} {Reply : Op → Type} {View : Type} {α β : Type}

/-- Weakest liberal precondition: every call is admitted, and whatever replies
the contract allows, the result satisfies `post`. -/
def wlp (contract : Contract Op Reply View) :
    Prog Op Reply α → (α → View → Prop) → View → Prop
  | .ret value, post, view => post value view
  | .call op next, post, view =>
      contract.Admits view op ∧
        ∀ reply after, contract.Answers view op reply after →
          wlp contract (next reply) post after

variable {contract : Contract Op Reply View}

@[simp] theorem wlp_ret (value : α) (post : α → View → Prop) (view : View) :
    wlp contract (.ret value) post view ↔ post value view := Iff.rfl

@[simp] theorem wlp_call (op : Op) (next : Reply op → Prog Op Reply α)
    (post : α → View → Prop) (view : View) :
    wlp contract (.call op next) post view ↔
      contract.Admits view op ∧
        ∀ reply after, contract.Answers view op reply after →
          wlp contract (next reply) post after := Iff.rfl

/-- Rule of consequence. -/
theorem wlp_mono {program : Prog Op Reply α} {stronger weaker : α → View → Prop}
    {view : View} (holds : wlp contract program stronger view)
    (weaken : ∀ value after, stronger value after → weaker value after) :
    wlp contract program weaker view := by
  induction program generalizing view with
  | ret value => exact weaken value view holds
  | call op next inductionHypothesis =>
      refine ⟨holds.1, fun reply after answered => ?_⟩
      exact inductionHypothesis reply (holds.2 reply after answered)

/-- Rule of sequential composition. -/
theorem wlp_bind (program : Prog Op Reply α) (rest : α → Prog Op Reply β)
    (post : β → View → Prop) (view : View) :
    wlp contract (program >>= rest) post view ↔
      wlp contract program (fun value after => wlp contract (rest value) post after) view := by
  induction program generalizing view with
  | ret value => exact Iff.rfl
  | call op next inductionHypothesis =>
      rw [Prog.call_bind, wlp_call, wlp_call]
      refine and_congr_right fun _ => ?_
      exact forall_congr' fun reply => forall_congr' fun after =>
        imp_congr_right fun _ => inductionHypothesis reply after

/-- Composition through an intermediate assertion. -/
theorem wlp_seq {program : Prog Op Reply α} {rest : α → Prog Op Reply β}
    {middle : α → View → Prop} {post : β → View → Prop} {view : View}
    (first : wlp contract program middle view)
    (second : ∀ value after, middle value after →
      wlp contract (rest value) post after) :
    wlp contract (program >>= rest) post view :=
  (wlp_bind program rest post view).mpr (wlp_mono first second)

/-- Rule of one call. -/
theorem wlp_perform {op : Op} {rest : Reply op → Prog Op Reply β} {post : β → View → Prop}
    {view : View} (admitted : contract.Admits view op)
    (continues : ∀ reply after, contract.Answers view op reply after →
      wlp contract (rest reply) post after) :
    wlp contract (Prog.perform op >>= rest) post view :=
  ⟨admitted, continues⟩

/-- The contract of a world that answers every call with any reply satisfying
`Allowed`; it has nothing to remember. -/
def anyReply (Allowed : (op : Op) → Reply op → Prop) : Contract Op Reply Unit where
  Admits := fun _ _ => True
  Answers := fun _ op reply _ => Allowed op reply

/-- Under `anyReply` a part whose result does not matter can be skipped. -/
theorem wlp_anyReply_skip {Allowed : (op : Op) → Reply op → Prop} {program : Prog Op Reply α}
    {rest : α → Prog Op Reply β} {post : β → Unit → Prop}
    (always : ∀ value, wlp (anyReply Allowed) (rest value) post ()) :
    wlp (anyReply Allowed) (program >>= rest) post () := by
  induction program with
  | ret value => exact always value
  | call op next inductionHypothesis =>
      exact ⟨trivial, fun reply _ _ => inductionHypothesis reply⟩

/-- Under `anyReply` a call continues with every allowed reply. -/
theorem wlp_anyReply_perform {Allowed : (op : Op) → Reply op → Prop} {op : Op}
    {rest : Reply op → Prog Op Reply β} {post : β → Unit → Prop}
    (continues : ∀ reply, Allowed op reply → wlp (anyReply Allowed) (rest reply) post ()) :
    wlp (anyReply Allowed) (Prog.perform op >>= rest) post () :=
  wlp_perform trivial fun reply _ allowed => continues reply allowed

/-- The contract of a world that answers as `step` says: a call is admitted where
it can be answered, and the view is the world itself. Under it `wlp` says that the
program cannot get stuck and that every result satisfies the postcondition. -/
def answeredBy {World : Type} (step : World → (op : Op) → Reply op → World → Prop) :
    Contract Op Reply World where
  Admits := fun world op => ∃ reply after, step world op reply after
  Answers := step

/-- Soundness for traces: a trace whose every reply is allowed ends in a result
that satisfies the postcondition. -/
theorem Prog.Returns.sound {Allowed : (op : Op) → Reply op → Prop}
    {program : Prog Op Reply α} {trace : List (Event Op Reply)} {value : α}
    {post : α → Unit → Prop}
    (returns : Prog.Returns program trace value)
    (allowed : ∀ event ∈ trace, Allowed event.op event.reply)
    (holds : wlp (anyReply Allowed) program post ()) :
    post value () := by
  induction returns with
  | ret value => exact holds
  | call reply _ inductionHypothesis =>
      apply inductionHypothesis
      · intro event member
        exact allowed event (List.mem_cons_of_mem _ member)
      · exact holds.2 reply () (allowed _ (List.mem_cons_self ..))

/-- Soundness for worlds: if every step the world takes is one the contract
foresees, with `Matches` relating world and view, so is the result. -/
theorem Prog.Exec.sound {World : Type}
    {step : World → (op : Op) → Reply op → World → Prop}
    {Matches : World → View → Prop}
    (foreseen : ∀ world view op reply after, Matches world view →
      contract.Admits view op → step world op reply after →
      ∃ next, contract.Answers view op reply next ∧ Matches after next)
    {world after : World} {program : Prog Op Reply α} {value : α}
    (exec : Prog.Exec step world program value after)
    {view : View} {post : α → View → Prop}
    (agrees : Matches world view)
    (holds : wlp contract program post view) :
    ∃ finalView, Matches after finalView ∧ post value finalView := by
  induction exec generalizing view with
  | ret world value => exact ⟨view, agrees, holds⟩
  | call answered _ inductionHypothesis =>
      obtain ⟨next, foreseenAnswer, nextAgrees⟩ :=
        foreseen _ view _ _ _ agrees holds.1 answered
      exact inductionHypothesis nextAgrees (holds.2 _ next foreseenAnswer)

end Wlp

/-! ## Interleaving

Parties are indexed by `Id`. A party at rest holds a local state and may begin
any program `Offers` allows; a running party takes one call at a time. The
environment may move between any two calls. -/

/-- What one party is doing. -/
inductive Activity (Op : Type) (Reply : Op → Type) (State : Type) where
  | resting (state : State)
  | running (program : Prog Op Reply State)

/-- The parties, the world they share and what each may begin. -/
structure System (Id Op : Type) (Reply : Op → Type) (State World : Type) where
  Offers : Id → State → Prog Op Reply State → Prop
  Step : Id → World → (op : Op) → Reply op → World → Prop
  Environment : World → World → Prop

/-- The system in which a call is only answered where `Allowed` holds. -/
def System.restrict {Id Op : Type} {Reply : Op → Type} {State World : Type}
    (system : System Id Op Reply State World)
    (Allowed : World → (op : Op) → Reply op → World → Prop) :
    System Id Op Reply State World :=
  { system with
    Step := fun id world op reply after =>
      system.Step id world op reply after ∧ Allowed world op reply after }

/-- A configuration: the world and every party's activity. -/
structure Pool (Id Op : Type) (Reply : Op → Type) (State World : Type) where
  world : World
  activity : Id → Activity Op Reply State

section Pool

variable {Id Op : Type} {Reply : Op → Type} {State World View : Type} [DecidableEq Id]

/-- One step of the interleaving semantics. -/
inductive System.Moves (system : System Id Op Reply State World) :
    Pool Id Op Reply State World → Pool Id Op Reply State World → Prop where
  | begin {pool : Pool Id Op Reply State World} {id : Id} {state : State}
      {program : Prog Op Reply State}
      (atRest : pool.activity id = .resting state)
      (offered : system.Offers id state program) :
      system.Moves pool
        { pool with activity := Function.update pool.activity id (.running program) }
  | call {pool : Pool Id Op Reply State World} {id : Id} {op : Op}
      {next : Reply op → Prog Op Reply State} {reply : Reply op} {after : World}
      (calling : pool.activity id = .running (.call op next))
      (answered : system.Step id pool.world op reply after) :
      system.Moves pool
        ⟨after, Function.update pool.activity id (.running (next reply))⟩
  | finish {pool : Pool Id Op Reply State World} {id : Id} {state : State}
      (returned : pool.activity id = .running (.ret state)) :
      system.Moves pool
        { pool with activity := Function.update pool.activity id (.resting state) }
  | environment {pool : Pool Id Op Reply State World} {after : World}
      (moved : system.Environment pool.world after) :
      system.Moves pool { pool with world := after }

/-- Everything the parties can reach from `initial`. -/
def System.Reachable (system : System Id Op Reply State World)
    (initial pool : Pool Id Op Reply State World) : Prop :=
  Relation.ReflTransGen system.Moves initial pool

section Runs

variable {system : System Id Op Reply State World}
  {initial pool : Pool Id Op Reply State World}

/-- Extend a run: a party at rest begins a program. -/
theorem System.Reachable.begin (reachable : system.Reachable initial pool) (id : Id)
    {state : State} (program : Prog Op Reply State)
    (atRest : pool.activity id = .resting state) (offered : system.Offers id state program) :
    system.Reachable initial
      { pool with activity := Function.update pool.activity id (.running program) } :=
  reachable.tail (.begin atRest offered)

/-- Extend a run: a party's next call is answered. -/
theorem System.Reachable.call (reachable : system.Reachable initial pool) (id : Id)
    {op : Op} {next : Reply op → Prog Op Reply State}
    (calling : pool.activity id = .running (.call op next)) (reply : Reply op) (after : World)
    (answered : system.Step id pool.world op reply after) :
    system.Reachable initial
      ⟨after, Function.update pool.activity id (.running (next reply))⟩ :=
  reachable.tail (.call calling answered)

/-- Extend a run: a party's program has returned. -/
theorem System.Reachable.finish (reachable : system.Reachable initial pool) (id : Id)
    {state : State} (returned : pool.activity id = .running (.ret state)) :
    system.Reachable initial
      { pool with activity := Function.update pool.activity id (.resting state) } :=
  reachable.tail (.finish returned)

/-- Extend a run by moves of one kind: a handler answers the next calls of a party. -/
theorem Pool.advance {Moves : Pool Id Op Reply State World → Pool Id Op Reply State World → Prop}
    (handler : (op : Op) → World → Reply op × World) (id : Id)
    (activity : Id → Activity Op Reply State)
    (answered : ∀ (world : World) (op : Op) (next : Reply op → Prog Op Reply State),
      Moves ⟨world, Function.update activity id (.running (.call op next))⟩
        ⟨(handler op world).2,
          Function.update activity id (.running (next (handler op world).1))⟩)
    (calls : Nat) (program : Prog Op Reply State) (world : World) :
    Relation.ReflTransGen Moves ⟨world, Function.update activity id (.running program)⟩
      ⟨(program.advance handler calls world).2,
        Function.update activity id (.running (program.advance handler calls world).1)⟩ := by
  induction calls generalizing program world with
  | zero => exact .refl
  | succ calls inductionHypothesis =>
      cases program with
      | ret state => exact .refl
      | call op next => exact .head (answered world op next) (inductionHypothesis _ _)

end Runs

/-- What one party still owes: at rest its assertion, and while running the
precondition of the rest of its program. -/
def Activity.Meets (contract : Contract Op Reply View) (Rest : State → View → Prop) :
    Activity Op Reply State → View → Prop
  | .resting state, view => Rest state view
  | .running program, view => wlp contract program Rest view

/-- The obligations under which per-party contracts survive interleaving.
`Consistent` ties the world to everybody's views. -/
structure System.Respects (system : System Id Op Reply State World)
    (contract : Contract Op Reply View) (Rest : State → View → Prop)
    (Consistent : World → (Id → View) → Prop) : Prop where
  offered : ∀ id state program view, Rest state view →
    system.Offers id state program → wlp contract program Rest view
  step : ∀ id world views op reply after, Consistent world views →
    contract.Admits (views id) op → system.Step id world op reply after →
    ∃ view, contract.Answers (views id) op reply view ∧
      Consistent after (Function.update views id view)
  environment : ∀ world views after, Consistent world views →
    system.Environment world after → Consistent after views

/-- The invariant of a pool: consistent views that every party's activity meets. -/
def Pool.Safe (contract : Contract Op Reply View) (Rest : State → View → Prop)
    (Consistent : World → (Id → View) → Prop)
    (pool : Pool Id Op Reply State World) : Prop :=
  ∃ views : Id → View, Consistent pool.world views ∧
    ∀ id, (pool.activity id).Meets contract Rest (views id)

variable {system : System Id Op Reply State World} {contract : Contract Op Reply View}
  {Rest : State → View → Prop} {Consistent : World → (Id → View) → Prop}

/-- Replacing one party's activity and view keeps what all parties owe. -/
private theorem meets_update {activity : Id → Activity Op Reply State} {views : Id → View}
    (meets : ∀ id, (activity id).Meets contract Rest (views id)) (moved : Id)
    (nextActivity : Activity Op Reply State) (nextView : View)
    (nextMeets : nextActivity.Meets contract Rest nextView) :
    ∀ id, (Function.update activity moved nextActivity id).Meets contract Rest
      (Function.update views moved nextView id) := by
  intro id
  by_cases same : id = moved
  · subst same
    simpa using nextMeets
  · simpa [Function.update_of_ne same] using meets id

/-- Step lemma: one move of the pool keeps it safe. -/
theorem System.Moves.preserves_safe (respects : system.Respects contract Rest Consistent)
    {pool next : Pool Id Op Reply State World} (moves : system.Moves pool next)
    (safe : pool.Safe contract Rest Consistent) :
    next.Safe contract Rest Consistent := by
  obtain ⟨views, consistent, meets⟩ := safe
  cases moves with
  | @begin id state program atRest offered =>
      have rest : Rest state (views id) := by
        simpa [atRest, Activity.Meets] using meets id
      have owed := respects.offered id state program (views id) rest offered
      refine ⟨views, consistent, ?_⟩
      simpa using meets_update meets id (.running program) (views id) owed
  | @call id op callNext reply after calling answered =>
      have owed : wlp contract (.call op callNext) Rest (views id) := by
        simpa [calling, Activity.Meets] using meets id
      obtain ⟨view, foreseen, nextConsistent⟩ :=
        respects.step id pool.world views op reply after consistent owed.1 answered
      exact ⟨Function.update views id view, nextConsistent,
        meets_update meets id (.running (callNext reply)) view
          (owed.2 reply view foreseen)⟩
  | @finish id state returned =>
      have owed : Rest state (views id) := by
        simpa [returned, Activity.Meets] using meets id
      refine ⟨views, consistent, ?_⟩
      simpa using meets_update meets id (.resting state) (views id) owed
  | environment moved =>
      exact ⟨views, respects.environment _ views _ consistent moved, meets⟩

/-- Run lemma: every reachable pool is safe if the initial one is. -/
theorem System.Reachable.safe (respects : system.Respects contract Rest Consistent)
    {initial pool : Pool Id Op Reply State World}
    (reachable : system.Reachable initial pool)
    (initiallySafe : initial.Safe contract Rest Consistent) :
    pool.Safe contract Rest Consistent := by
  induction reachable with
  | refl => exact initiallySafe
  | tail _ moves inductionHypothesis => exact moves.preserves_safe respects inductionHypothesis

/-- A property of the world that no call and no environment step breaks holds in
every reachable pool. -/
theorem System.Reachable.world_invariant {Invariant : World → Prop}
    (step : ∀ id world op reply after, Invariant world →
      system.Step id world op reply after → Invariant after)
    (environment : ∀ world after, Invariant world → system.Environment world after →
      Invariant after)
    {initial pool : Pool Id Op Reply State World}
    (reachable : system.Reachable initial pool) (initially : Invariant initial.world) :
    Invariant pool.world := by
  induction reachable with
  | refl => exact initially
  | tail _ moves inductionHypothesis =>
      cases moves with
      | begin _ _ => exact inductionHypothesis
      | call _ answered => exact step _ _ _ _ _ inductionHypothesis answered
      | finish _ => exact inductionHypothesis
      | environment moved => exact environment _ _ inductionHypothesis moved

end Pool

/-! ## Runs whose every move meets a condition -/

section RunsAlong

variable {Id Op : Type} {Reply : Op → Type} {State World : Type} [DecidableEq Id]

/-- The pools that are reached from `initial` by moves that all meet `Also`. -/
def System.RunsAlong (system : System Id Op Reply State World)
    (Also : Pool Id Op Reply State World → Pool Id Op Reply State World → Prop) :
    Pool Id Op Reply State World → Pool Id Op Reply State World → Prop :=
  Relation.ReflTransGen fun pool next => system.Moves pool next ∧ Also pool next

namespace System.RunsAlong

variable {system : System Id Op Reply State World}
  {Also : Pool Id Op Reply State World → Pool Id Op Reply State World → Prop}
  {initial pool : Pool Id Op Reply State World}

/-- The condition may be forgotten. -/
theorem reachable (run : system.RunsAlong Also initial pool) : system.Reachable initial pool := by
  induction run with
  | refl => exact .refl
  | tail _ step inductionHypothesis => exact inductionHypothesis.tail step.1

/-- Rule of such runs. -/
theorem invariant (run : system.RunsAlong Also initial pool)
    {Invariant : Pool Id Op Reply State World → Prop} (initially : Invariant initial)
    (kept : ∀ pool next, Invariant pool → system.Moves pool next → Also pool next →
      Invariant next) : Invariant pool := by
  induction run with
  | refl => exact initially
  | tail _ step inductionHypothesis => exact kept _ _ inductionHypothesis step.1 step.2

/-- A party at rest begins a program. -/
theorem begin (run : system.RunsAlong Also initial pool) (id : Id) {state : State}
    (program : Prog Op Reply State) (atRest : pool.activity id = .resting state)
    (offered : system.Offers id state program)
    (also : Also pool
      { pool with activity := Function.update pool.activity id (.running program) }) :
    system.RunsAlong Also initial
      { pool with activity := Function.update pool.activity id (.running program) } :=
  run.tail ⟨.begin atRest offered, also⟩

/-- A party's next call is answered. -/
theorem call (run : system.RunsAlong Also initial pool) (id : Id) {op : Op}
    {next : Reply op → Prog Op Reply State} (calling : pool.activity id = .running (.call op next))
    (reply : Reply op) (after : World) (answered : system.Step id pool.world op reply after)
    (also : Also pool ⟨after, Function.update pool.activity id (.running (next reply))⟩) :
    system.RunsAlong Also initial
      ⟨after, Function.update pool.activity id (.running (next reply))⟩ :=
  run.tail ⟨.call calling answered, also⟩

/-- A party's program has returned. -/
theorem finish (run : system.RunsAlong Also initial pool) (id : Id) {state : State}
    (returned : pool.activity id = .running (.ret state))
    (also : Also pool { pool with activity := Function.update pool.activity id (.resting state) }) :
    system.RunsAlong Also initial
      { pool with activity := Function.update pool.activity id (.resting state) } :=
  run.tail ⟨.finish returned, also⟩

end System.RunsAlong

end RunsAlong

end TriAI.Library.Interaction
