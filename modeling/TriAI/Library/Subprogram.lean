import TriAI.Library.Interruption

/-!
Contract: programs that run inside larger ones, and worlds that choose among
several answers.

Owns: `Prog.embed`, which runs a program over some calls as a part of one over
more calls, and its rule; the contract of a world that may answer in several ways;
the calls of a trace; and `Halted`, the worlds that a stop at an arbitrary point of a run
in such a world can leave, with the contract that keeps a property there.

Does not own: any concrete world, and stops in a world that answers in one way
(`Library.Interruption`).
-/

set_option autoImplicit false

namespace TriAI.Library.Interaction

variable {Op : Type} {Reply : Op → Type} {World View α β : Type}

/-! ## Rules -/

section Rules

variable {contract : Contract Op Reply View} {ε : Type}

/-- Two postconditions at once. -/
theorem wlp_and {program : Prog Op Reply α} {left right : α → View → Prop} {view : View}
    (first : wlp contract program left view) (second : wlp contract program right view) :
    wlp contract program (fun value after => left value after ∧ right value after) view := by
  induction program generalizing view with
  | ret value => exact ⟨first, second⟩
  | call op next inductionHypothesis =>
      refine ⟨first.1, fun reply after answered => ?_⟩
      exact inductionHypothesis reply (first.2 reply after answered)
        (second.2 reply after answered)

/-- Frame rule: what every allowed call keeps, the program keeps. -/
theorem Prog.Only.keeps {allowed : Op → Prop} {Frame : View → Prop}
    (calls : ∀ op, allowed op → ∀ view, Frame view → contract.Admits view op ∧
      ∀ reply after, contract.Answers view op reply after → Frame after)
    {program : Prog Op Reply α} (only : program.Only allowed) {view : View} (holds : Frame view) :
    wlp contract program (fun _ after => Frame after) view := by
  induction program generalizing view with
  | ret value => exact holds
  | call op next inductionHypothesis =>
      obtain ⟨admitted, kept⟩ := calls op only.1 view holds
      refine ⟨admitted, fun reply after answered => ?_⟩
      exact inductionHypothesis reply (only.2 reply) (kept reply after answered)

/-- What holds of a success. -/
def IfOk (post : α → View → Prop) (reached : Except ε α) (after : View) : Prop :=
  ∀ value, reached = .ok value → post value after

theorem ifOk_error (post : α → View → Prop) (failure : ε) (after : View) :
    IfOk post (.error failure) after := by
  intro value same
  cases same

theorem ifOk_ok {post : α → View → Prop} {value : α} {after : View} (holds : post value after) :
    IfOk post (.ok value : Except ε α) after := by
  intro reached same
  cases same
  exact holds

/-- A part that keeps `Frame` and after which, if it succeeds, more is known. -/
def Keeping (Frame : View → Prop) (post : α → View → Prop) (reached : Except ε α)
    (after : View) : Prop :=
  Frame after ∧ IfOk post reached after

theorem wlp_keeping_bind {program : Fallible ε Op Reply α} {rest : α → Fallible ε Op Reply β}
    {Frame : View → Prop} {middle : α → View → Prop} {post : β → View → Prop} {view : View}
    (first : wlp contract program.run (Keeping Frame middle) view)
    (second : ∀ value after, Frame after → middle value after →
      wlp contract (rest value).run (Keeping Frame post) after) :
    wlp contract (program >>= rest).run (Keeping Frame post) view := by
  rw [Fallible.wlp_run_bind]
  apply wlp_mono first
  rintro reached after ⟨kept, holds⟩
  cases reached with
  | ok value => exact second value after kept (holds value rfl)
  | error failure => exact ⟨kept, ifOk_error post failure after⟩

/-- Sequence, where only success matters. -/
theorem wlp_ifOk_bind {program : Fallible ε Op Reply α} {rest : α → Fallible ε Op Reply β}
    {middle : α → View → Prop} {post : β → View → Prop} {view : View}
    (first : wlp contract program.run (IfOk middle) view)
    (second : ∀ value after, middle value after →
      wlp contract (rest value).run (IfOk post) after) :
    wlp contract (program >>= rest).run (IfOk post) view := by
  rw [Fallible.wlp_run_bind]
  apply wlp_mono first
  intro reached after holds
  cases reached with
  | ok value => exact second value after (holds value rfl)
  | error failure => exact ifOk_error post failure after

/-- A check that succeeds leaves the view. -/
theorem wlp_ifOk_check {result : Except ε α} {rest : α → Fallible ε Op Reply β}
    {post : β → View → Prop} {view : View}
    (second : ∀ value, result = .ok value → wlp contract (rest value).run (IfOk post) view) :
    wlp contract ((ExceptT.mk (.ret result) : Fallible ε Op Reply α) >>= rest).run (IfOk post)
      view := by
  cases result with
  | ok value => exact second value rfl
  | error failure => exact ifOk_error post failure view

/-- A loop that keeps `Frame`, and in which every round that succeeds keeps `Invariant`. -/
theorem wlp_keeping_foldlM {ι σ : Type} {body : σ → ι → Fallible ε Op Reply σ}
    {Frame : View → Prop} {Invariant : σ → Prop} (items : List ι) {state : σ} {view : View}
    (kept : Frame view) (initially : Invariant state)
    (round : ∀ state item view, Frame view → Invariant state →
      wlp contract (body state item).run (Keeping Frame fun next _ => Invariant next) view) :
    wlp contract (items.foldlM body state).run (Keeping Frame fun last _ => Invariant last)
      view := by
  induction items generalizing state view with
  | nil =>
      refine ⟨kept, ?_⟩
      intro last same
      cases same
      exact initially
  | cons item rest inductionHypothesis =>
      rw [List.foldlM_cons]
      apply wlp_keeping_bind (round state item view kept initially)
      intro next after stillKept holds
      exact inductionHypothesis stillKept holds

end Rules

/-! ## Worlds -/

/-- The contract of a world that answers as `step` says, if it answers. -/
def stepping (step : World → (op : Op) → Reply op → World → Prop) :
    Contract Op Reply World where
  Admits := fun _ _ => True
  Answers := step

section Worlds

variable {step : World → (op : Op) → Reply op → World → Prop} {program : Prog Op Reply α}
  {post : α → World → Prop} {world after : World} {value : α}

/-- What is proved of all answers holds of every run. -/
theorem Prog.Exec.of_stepping (exec : Prog.Exec step world program value after)
    (holds : wlp (stepping step) program post world) : post value after := by
  induction exec with
  | ret world value => exact holds
  | call answered _ inductionHypothesis => exact inductionHypothesis (holds.2 _ _ answered)

/-- A world that answers as a handler does. -/
theorem Prog.Exec.of_runWith {handler : (op : Op) → World → Reply op × World}
    (answers : ∀ op world, step world op (handler op world).1 (handler op world).2)
    (program : Prog Op Reply α) (world : World) :
    Prog.Exec step world program (program.runWith handler world).1
      (program.runWith handler world).2 := by
  induction program generalizing world with
  | ret value => exact .ret world value
  | call op next inductionHypothesis => exact .call (answers op world) (inductionHypothesis _ _)

/-- The same for a program without a result, whose value need not be computed. -/
theorem Prog.Exec.of_runWith_unit {handler : (op : Op) → World → Reply op × World}
    (answers : ∀ op world, step world op (handler op world).1 (handler op world).2)
    (program : Prog Op Reply Unit) (world : World) :
    Prog.Exec step world program () (program.runWith handler world).2 :=
  Prog.Exec.of_runWith answers program world

/-- What is proved of all replies holds in every world. -/
theorem wlp_stepping_of_anyReply {program : Prog Op Reply α} {post : α → Prop}
    (holds : wlp (anyReply fun _ _ => True) program (fun value _ => post value) ())
    (world : World) : wlp (stepping step) program (fun value _ => post value) world := by
  induction program generalizing world with
  | ret value => exact holds
  | call op next inductionHypothesis =>
      refine ⟨trivial, fun reply after _ => ?_⟩
      exact inductionHypothesis reply (holds.2 reply () trivial) after

/-- A part whose value and world do not matter can be skipped. -/
theorem wlp_stepping_skip {rest : α → Prog Op Reply β} {last : β → World → Prop}
    (always : ∀ value world, wlp (stepping step) (rest value) last world) (world : World) :
    wlp (stepping step) (program >>= rest) last world := by
  induction program generalizing world with
  | ret value => exact always value world
  | call op next inductionHypothesis =>
      exact ⟨trivial, fun reply after _ => inductionHypothesis reply after⟩

/-- A part with a cleanup, where only success matters. -/
theorem wlp_ifOk_onError {ε : Type} {body : Fallible ε Op Reply α}
    {cleanup : Fallible ε Op Reply Unit} {post : α → World → Prop}
    (holds : wlp (stepping step) body.run (IfOk post) world) :
    wlp (stepping step) (body.onError cleanup).run (IfOk post) world := by
  unfold Fallible.onError
  rw [ExceptT.run_mk]
  apply wlp_seq holds
  intro reached after knows
  cases reached with
  | ok value => exact knows
  | error failure =>
      apply wlp_stepping_skip
      exact fun _ last => ifOk_error post failure last

/-- A world that answers the calls of a trace, one after the other. -/
def Follows (step : World → (op : Op) → Reply op → World → Prop) :
    World → List (Event Op Reply) → World → Prop
  | world, [], after => world = after
  | world, event :: rest, after =>
      ∃ middle, step world event.op event.reply middle ∧ Follows step middle rest after

/-- A trace in two parts. -/
theorem follows_append {first second : List (Event Op Reply)} :
    Follows step world (first ++ second) after ↔
      ∃ middle, Follows step world first middle ∧ Follows step middle second after := by
  induction first generalizing world with
  | nil =>
      constructor
      · exact fun follows => ⟨world, rfl, follows⟩
      · rintro ⟨_, rfl, follows⟩
        exact follows
  | cons event rest inductionHypothesis =>
      constructor
      · rintro ⟨middle, answered, follows⟩
        obtain ⟨between, front, back⟩ := inductionHypothesis.mp follows
        exact ⟨between, ⟨middle, answered, front⟩, back⟩
      · rintro ⟨between, ⟨middle, answered, front⟩, back⟩
        exact ⟨middle, answered, inductionHypothesis.mpr ⟨between, front, back⟩⟩

/-- A trace the world follows is a run. -/
theorem Prog.Returns.exec {trace : List (Event Op Reply)}
    (returns : Prog.Returns program trace value) (follows : Follows step world trace after) :
    Prog.Exec step world program value after := by
  induction returns generalizing world with
  | ret value =>
      obtain rfl := follows
      exact .ret world value
  | call reply _ inductionHypothesis =>
      obtain ⟨middle, answered, rest⟩ := follows
      exact .call answered (inductionHypothesis rest)

end Worlds

/-! ## Traces -/

/-- Under a contract that remembers nothing, a trace whose replies it allows makes admitted
calls only. -/
theorem Prog.Returns.admits {contract : Contract Op Reply Unit} {program : Prog Op Reply α}
    {trace : List (Event Op Reply)} {value : α} {post : α → Unit → Prop}
    (returns : Prog.Returns program trace value)
    (answers : ∀ event ∈ trace, contract.Answers () event.op event.reply ())
    (holds : wlp contract program post ()) :
    ∀ event ∈ trace, contract.Admits () event.op := by
  induction returns with
  | ret value => simp
  | call reply _ inductionHypothesis =>
      have now := answers _ (List.mem_cons_self ..)
      have later := inductionHypothesis
        (fun event member => answers event (List.mem_cons_of_mem _ member))
        (holds.2 _ () now)
      intro event member
      rcases List.mem_cons.mp member with rfl | member
      · exact holds.1
      · exact later event member

/-- The calls a program makes against a handler, with the replies it gives. -/
def Prog.traceWith (handler : (op : Op) → World → Reply op × World) :
    Prog Op Reply α → World → List (Event Op Reply)
  | .ret _, _ => []
  | .call op next, world =>
      ⟨op, (handler op world).1⟩ ::
        (next (handler op world).1).traceWith handler (handler op world).2

/-- Every handler gives a trace. -/
theorem Prog.Returns.of_traceWith (handler : (op : Op) → World → Reply op × World)
    (program : Prog Op Reply α) (world : World) :
    Prog.Returns program (program.traceWith handler world) (program.runWith handler world).1 := by
  induction program generalizing world with
  | ret value => exact .ret value
  | call op next inductionHypothesis => exact .call _ (inductionHypothesis _ _)

/-- What holds of every answer of a handler holds along its trace. -/
theorem forall_mem_traceWith {handler : (op : Op) → World → Reply op × World}
    {Holds : (op : Op) → Reply op → Prop} (answers : ∀ op world, Holds op (handler op world).1)
    (program : Prog Op Reply α) (world : World) :
    ∀ event ∈ program.traceWith handler world, Holds event.op event.reply := by
  induction program generalizing world with
  | ret value => simp [Prog.traceWith]
  | call op next inductionHypothesis =>
      intro event member
      rcases List.mem_cons.mp member with rfl | member
      · exact answers op world
      · exact inductionHypothesis _ _ event member

theorem Prog.Only.mono {allowed wider : Op → Prop} {program : Prog Op Reply α}
    (only : program.Only allowed) (widen : ∀ op, allowed op → wider op) : program.Only wider := by
  induction program with
  | ret value => exact trivial
  | call op next inductionHypothesis =>
      exact ⟨widen op only.1, fun reply => inductionHypothesis reply (only.2 reply)⟩

/-! ## Coarser views -/

/-- A program is proved in a view that leaves out a part of the world. -/
theorem wlp_project {Fine : Type} {contract : Contract Op Reply View}
    {finer : Contract Op Reply Fine} {project : Fine → View}
    (admits : ∀ fine op, contract.Admits (project fine) op → finer.Admits fine op)
    (answers : ∀ fine op reply after, finer.Answers fine op reply after →
      contract.Answers (project fine) op reply (project after))
    {program : Prog Op Reply α} {post : α → View → Prop} {fine : Fine}
    (holds : wlp contract program post (project fine)) :
    wlp finer program (fun value after => post value (project after)) fine := by
  induction program generalizing fine with
  | ret value => exact holds
  | call op next inductionHypothesis =>
      refine ⟨admits fine op holds.1, fun reply after answered => ?_⟩
      exact inductionHypothesis reply (holds.2 reply _ (answers fine op reply after answered))

/-! ## Parts of a larger program -/

section Embedding

variable {Large : Type} {LargeReply : Large → Type} {LargeView : Type}

/-- Issue the calls of a program as calls of a larger world. -/
def Prog.embed (inject : Op → Large) (translate : (op : Op) → LargeReply (inject op) → Reply op) :
    Prog Op Reply α → Prog Large LargeReply α
  | .ret value => .ret value
  | .call op next =>
      .call (inject op) fun reply => (next (translate op reply)).embed inject translate

variable {inject : Op → Large} {translate : (op : Op) → LargeReply (inject op) → Reply op}

/-- A part is proved in its own world, which `focus` finds in the larger one. -/
theorem wlp_embed {contract : Contract Op Reply View}
    {large : Contract Large LargeReply LargeView} {focus : View → LargeView}
    (admits : ∀ view op, contract.Admits view op → large.Admits (focus view) (inject op))
    (answers : ∀ view op reply after, large.Answers (focus view) (inject op) reply after →
      ∃ next, contract.Answers view op (translate op reply) next ∧ after = focus next)
    {program : Prog Op Reply α} {post : α → LargeView → Prop} {view : View}
    (holds : wlp contract program (fun value next => post value (focus next)) view) :
    wlp large (program.embed inject translate) post (focus view) := by
  induction program generalizing view with
  | ret value => exact holds
  | call op next inductionHypothesis =>
      refine ⟨admits view op holds.1, fun reply after answered => ?_⟩
      obtain ⟨middle, inner, rfl⟩ := answers view op reply after answered
      exact inductionHypothesis _ (holds.2 _ middle inner)

/-- A part runs as it does in its own world, which `focus` finds in the larger one. -/
theorem Prog.runWith_embed {LargeWorld : Type} {handler : (op : Op) → World → Reply op × World}
    {large : (op : Large) → LargeWorld → LargeReply op × LargeWorld} {focus : World → LargeWorld}
    (answers : ∀ op world,
      translate op (large (inject op) (focus world)).1 = (handler op world).1 ∧
        (large (inject op) (focus world)).2 = focus (handler op world).2)
    (program : Prog Op Reply α) (world : World) :
    (program.embed inject translate).runWith large (focus world) =
      ((program.runWith handler world).1, focus (program.runWith handler world).2) := by
  induction program generalizing world with
  | ret value => rfl
  | call op next inductionHypothesis =>
      obtain ⟨reply, after⟩ := answers op world
      unfold embed
      rw [runWith_call, runWith_call, reply, after, inductionHypothesis]

/-- The calls of an embedded program. -/
theorem Prog.Only.embed {allowed : Large → Prop} {program : Prog Op Reply α}
    (only : program.Only fun op => allowed (inject op)) :
    (program.embed inject translate).Only allowed := by
  induction program with
  | ret value => trivial
  | call op next inductionHypothesis =>
      exact ⟨only.1, fun reply => inductionHypothesis _ (only.2 _)⟩

theorem Prog.only_embed {program : Prog Op Reply α} :
    (program.embed inject translate).Only fun op => ∃ inner, op = inject inner := by
  induction program with
  | ret value => trivial
  | call op next inductionHypothesis => exact ⟨⟨op, rfl⟩, fun reply => inductionHypothesis _⟩

end Embedding

/-! ## Stops -/

section Stops

variable {Op : Type} {Reply : Op → Type} {World α : Type}
  {step : World → (op : Op) → Reply op → World → Prop} {torn : World → Op → World → Prop}

/-- `Halted step torn world program after`: stopped at some point of a run from `world`, the
program leaves `after`. `torn` says what a call that is stopped inside leaves. -/
inductive Prog.Halted (step : World → (op : Op) → Reply op → World → Prop)
    (torn : World → Op → World → Prop) : World → Prog Op Reply α → World → Prop where
  | here (world : World) (program : Prog Op Reply α) : Halted step torn world program world
  | during {world after : World} {op : Op} (next : Reply op → Prog Op Reply α)
      (cut : torn world op after) : Halted step torn world (.call op next) after
  | later {world middle after : World} {op : Op} {next : Reply op → Prog Op Reply α}
      {reply : Reply op} (answered : step world op reply middle)
      (rest : Halted step torn middle (next reply) after) :
      Halted step torn world (.call op next) after

/-- A call is to be made in a safe world only, and what it leaves when it is stopped inside is
to be safe. -/
def crashing (step : World → (op : Op) → Reply op → World → Prop)
    (torn : World → Op → World → Prop) (Safe : World → Prop) : Contract Op Reply World where
  Admits := fun world op => Safe world ∧ ∀ after, torn world op after → Safe after
  Answers := step

/-- Wherever the program is stopped, the world is safe. -/
theorem Prog.Halted.safe {Safe : World → Prop} {program : Prog Op Reply α} {world after : World}
    (halted : Halted step torn world program after)
    (holds : wlp (crashing step torn Safe) program (fun _ last => Safe last) world) :
    Safe after := by
  induction halted with
  | here world program =>
      cases program with
      | ret value => exact holds
      | call op next => exact holds.1.1
  | during _ cut => exact holds.1.2 _ cut
  | later answered _ inductionHypothesis => exact inductionHypothesis (holds.2 _ _ answered)

/-- A run that is not stopped. -/
theorem Prog.Exec.of_crashing {Safe : World → Prop} {program : Prog Op Reply α}
    {post : α → World → Prop} {world after : World} {value : α}
    (exec : Prog.Exec step world program value after)
    (holds : wlp (crashing step torn Safe) program post world) : post value after := by
  induction exec with
  | ret world value => exact holds
  | call answered _ inductionHypothesis => exact inductionHypothesis (holds.2 _ _ answered)

/-- A stop in a world that answers in one of these ways. -/
theorem Prog.Halted.of_interrupted {handler : (op : Op) → World → Reply op × World}
    (answers : ∀ op world, step world op (handler op world).1 (handler op world).2)
    {program : Prog Op Reply α} {world after : World}
    (stopped : Interrupted handler torn world program after) :
    Halted step torn world program after := by
  induction stopped with
  | here world program => exact .here world program
  | during next cut => exact .during next cut
  | later _ inductionHypothesis => exact .later (answers _ _) inductionHypothesis

end Stops

end TriAI.Library.Interaction
