import TriAI.Library.Interaction

/-!
Contract: interactive programs that may end with an error.

Owns: `Fallible`, the error layer over `Prog`; how one fallible call is issued;
how such a program runs under a deterministic handler; `Decides`, the exact
condition of its success, with rules for sequences and loops; and the inversion of
its traces at a call, at a sequence and at a part whose error is reported in
another form.

Does not own: recovery from an error, which a program spells out by matching on
the result of its part.
-/

set_option autoImplicit false

namespace TriAI.Library.Interaction

/-- A program over the calls `Op` that returns a value or an error. -/
abbrev Fallible (ε Op : Type) (Reply : Op → Type) (α : Type) : Type :=
  ExceptT ε (Prog Op Reply) α

namespace Fallible

variable {ε Op : Type} {Reply : Op → Type} {α β : Type}

/-- Issue a call whose reply may be an error, and report that error as `wrap`
does. -/
def attempt {ε₀ : Type} (wrap : ε₀ → ε) (call : Prog Op Reply (Except ε₀ α)) :
    Fallible ε Op Reply α :=
  ExceptT.mk (call >>= fun reply => .ret (reply.mapError wrap))

/-- Run `body` and hand its outcome, value or error, to the rest. -/
def capture (body : Fallible ε Op Reply α) : Fallible ε Op Reply (Except ε α) :=
  ExceptT.lift body.run

/-- Run `cleanup` if `body` fails, ignore how that ends and report the failure of
`body`. -/
def onError (body : Fallible ε Op Reply α) (cleanup : Fallible ε Op Reply Unit) :
    Fallible ε Op Reply α :=
  ExceptT.mk (body.run >>= fun
    | .ok value => .ret (.ok value)
    | .error error => cleanup.run >>= fun _ => .ret (.error error))

variable {World : Type} (handler : (op : Op) → World → Reply op × World)

/-- The outcome of a program and the world it leaves. -/
def outcome (program : Fallible ε Op Reply α) (world : World) : Except ε α × World :=
  program.run.runWith handler world

@[simp] theorem outcome_pure (value : α) (world : World) :
    outcome handler (pure value : Fallible ε Op Reply α) world = (.ok value, world) := rfl

@[simp] theorem outcome_throw (error : ε) (world : World) :
    outcome handler (throw error : Fallible ε Op Reply α) world = (.error error, world) := rfl

/-- What a sequence does, given the outcome of its first part. -/
theorem outcome_bind (program : Fallible ε Op Reply α) (rest : α → Fallible ε Op Reply β)
    (world : World) :
    outcome handler (program >>= rest) world =
      match outcome handler program world with
      | (.ok value, after) => outcome handler (rest value) after
      | (.error error, after) => (.error error, after) := by
  unfold outcome
  rw [ExceptT.run_bind, Prog.runWith_bind]
  rcases program.run.runWith handler world with ⟨_ | value, after⟩
  · rfl
  · rfl

variable {handler}

theorem outcome_bind_ok {program : Fallible ε Op Reply α} {rest : α → Fallible ε Op Reply β}
    {world after : World} {value : α}
    (first : outcome handler program world = (.ok value, after)) :
    outcome handler (program >>= rest) world = outcome handler (rest value) after := by
  rw [outcome_bind, first]

theorem outcome_bind_error {program : Fallible ε Op Reply α}
    {rest : α → Fallible ε Op Reply β} {world after : World} {error : ε}
    (first : outcome handler program world = (.error error, after)) :
    outcome handler (program >>= rest) world = (.error error, after) := by
  rw [outcome_bind, first]

/-- Inversion of a sequential composition that succeeds. -/
theorem outcome_bind_eq_ok {program : Fallible ε Op Reply α} {rest : α → Fallible ε Op Reply β}
    {world : World} {result : β}
    (succeeds : (outcome handler (program >>= rest) world).1 = .ok result) :
    ∃ value after, outcome handler program world = (.ok value, after) ∧
      (outcome handler (rest value) after).1 = .ok result := by
  rw [outcome_bind] at succeeds
  rcases first : outcome handler program world with ⟨_ | value, after⟩
  · rw [first] at succeeds
    cases succeeds
  · rw [first] at succeeds
    exact ⟨value, after, rfl, succeeds⟩

/-- Inversion of a sequential composition that succeeds, with the world it leaves. -/
theorem outcome_bind_eq {program : Fallible ε Op Reply α} {rest : α → Fallible ε Op Reply β}
    {world last : World} {result : β}
    (succeeds : outcome handler (program >>= rest) world = (.ok result, last)) :
    ∃ value after, outcome handler program world = (.ok value, after) ∧
      outcome handler (rest value) after = (.ok result, last) := by
  rw [outcome_bind] at succeeds
  rcases first : outcome handler program world with ⟨_ | value, after⟩
  · rw [first] at succeeds
    simp at succeeds
  · rw [first] at succeeds
    exact ⟨value, after, rfl, succeeds⟩

/-- What a call comes to. -/
theorem outcome_attempt {ε₀ : Type} (wrap : ε₀ → ε) (call : Prog Op Reply (Except ε₀ α))
    (world : World) :
    outcome handler (attempt wrap call) world =
      ((call.runWith handler world).1.mapError wrap, (call.runWith handler world).2) := by
  unfold outcome attempt
  rw [ExceptT.run_mk, Prog.runWith_bind]
  rfl

/-- A captured part succeeds with its own outcome. -/
theorem outcome_capture (body : Fallible ε Op Reply α) (world : World) :
    outcome handler (capture body) world =
      (.ok (outcome handler body world).1, (outcome handler body world).2) := by
  unfold outcome capture
  rw [ExceptT.run_lift, map_eq_pure_bind, Prog.runWith_bind]
  rfl

/-- A call that is answered by success succeeds. -/
theorem outcome_attempt_ok {ε₀ : Type} {wrap : ε₀ → ε} {call : Prog Op Reply (Except ε₀ α)}
    {world after : World} {value : α}
    (answered : call.runWith handler world = (.ok value, after)) :
    outcome handler (attempt wrap call) world = (.ok value, after) := by
  rw [outcome_attempt, answered]
  rfl

/-- A call that succeeds was answered so. -/
theorem outcome_attempt_eq {ε₀ : Type} {wrap : ε₀ → ε} {call : Prog Op Reply (Except ε₀ α)}
    {world after : World} {value : α}
    (succeeds : outcome handler (attempt wrap call) world = (.ok value, after)) :
    call.runWith handler world = (.ok value, after) := by
  rw [outcome_attempt] at succeeds
  rcases answered : call.runWith handler world with ⟨error | answer, left⟩
  · rw [answered] at succeeds
    simp [Except.mapError] at succeeds
  · rw [answered] at succeeds
    simpa [Except.mapError] using succeeds

/-- Nothing is cleaned up after a success. -/
theorem outcome_onError_ok {body : Fallible ε Op Reply α} {cleanup : Fallible ε Op Reply Unit}
    {world after : World} {value : α} (ran : outcome handler body world = (.ok value, after)) :
    outcome handler (body.onError cleanup) world = (.ok value, after) := by
  unfold outcome at ran
  unfold outcome Fallible.onError
  rw [ExceptT.run_mk, Prog.runWith_bind, ran]
  rfl

/-- A loop over calls that leave the world alone collects what they find. -/
theorem outcome_collect {ι : Type} {body : ι → Fallible ε Op Reply (Option β)} {world : World}
    {Finds : ι → β → Prop} (items : List ι) (initial : List β)
    (reads : ∀ item ∈ items, ∃ found, outcome handler (body item) world = (.ok found, world) ∧
      ∀ value, found = some value ↔ Finds item value) :
    ∃ out, outcome handler
        (items.foldlM (fun out item => do return out ++ (← body item).toList) initial) world =
          (.ok out, world) ∧
      ∀ value, value ∈ out ↔ value ∈ initial ∨ ∃ item ∈ items, Finds item value := by
  induction items generalizing initial with
  | nil => exact ⟨initial, rfl, by simp⟩
  | cons item rest inductionHypothesis =>
      obtain ⟨found, ran, means⟩ := reads item (List.mem_cons_self ..)
      obtain ⟨out, ranRest, members⟩ := inductionHypothesis (initial ++ found.toList)
        fun other member => reads other (List.mem_cons_of_mem _ member)
      refine ⟨out, ?_, ?_⟩
      · rw [List.foldlM_cons]
        have first : outcome handler (do return initial ++ (← body item).toList) world =
            (.ok (initial ++ found.toList), world) := outcome_bind_ok ran
        rw [outcome_bind_ok first]
        exact ranRest
      · intro value
        rw [members, List.mem_append, Option.mem_toList, means]
        simp only [List.mem_cons, exists_eq_or_imp]
        tauto

/-- Rule of sequential composition for the contracts of `wlp`. -/
theorem wlp_run_bind {View : Type} {contract : Contract Op Reply View}
    (program : Fallible ε Op Reply α) (rest : α → Fallible ε Op Reply β)
    (post : Except ε β → View → Prop) (view : View) :
    wlp contract (program >>= rest).run post view ↔
      wlp contract program.run
        (fun reached after =>
          match reached with
          | .ok value => wlp contract (rest value).run post after
          | .error error => post (.error error) after) view := by
  rw [ExceptT.run_bind, wlp_bind]
  refine iff_of_eq (congrArg (wlp contract program.run · view) ?_)
  funext reached after
  cases reached <;> rfl

theorem wlp_run_capture {View : Type} {contract : Contract Op Reply View}
    (body : Fallible ε Op Reply α) (post : Except ε (Except ε α) → View → Prop) (view : View) :
    wlp contract (capture body).run post view ↔
      wlp contract body.run (fun reached after => post (.ok reached) after) view := by
  unfold capture
  rw [ExceptT.run_lift, map_eq_pure_bind, wlp_bind]
  rfl

/-- What a body has to leave: its result, or an error from which the cleanup gets there. -/
def AfterCleanup {View : Type} (contract : Contract Op Reply View)
    (cleanup : Fallible ε Op Reply Unit) (post : Except ε α → View → Prop) :
    Except ε α → View → Prop
  | .ok value, after => post (.ok value) after
  | .error error, after =>
      wlp contract cleanup.run (fun _ cleaned => post (.error error) cleaned) after

theorem wlp_run_onError {View : Type} {contract : Contract Op Reply View}
    (body : Fallible ε Op Reply α) (cleanup : Fallible ε Op Reply Unit)
    (post : Except ε α → View → Prop) (view : View) :
    wlp contract (body.onError cleanup).run post view ↔
      wlp contract body.run (AfterCleanup contract cleanup post) view := by
  unfold Fallible.onError
  rw [ExceptT.run_mk, wlp_bind]
  refine iff_of_eq (congrArg (wlp contract body.run · view) ?_)
  funext reached after
  cases reached with
  | ok value => rfl
  | error error =>
      rw [wlp_bind]
      rfl

/-! ## Deciding success -/

/-- `Decides handler program world condition post`: the program succeeds exactly
if `condition` holds, and what it then returns and leaves satisfies `post`. -/
def Decides (handler : (op : Op) → World → Reply op × World)
    (program : Fallible ε Op Reply α) (world : World) (condition : Prop)
    (post : α → World → Prop) : Prop :=
  (condition ∧ ∃ value after, outcome handler program world = (.ok value, after) ∧
    post value after) ∨
  (¬ condition ∧ ∃ error after, outcome handler program world = (.error error, after))

namespace Decides

variable {program : Fallible ε Op Reply α} {rest : α → Fallible ε Op Reply β}
  {world : World} {condition : Prop} {post : α → World → Prop}

/-- A run that succeeded met the condition and satisfies the postcondition. -/
theorem of_ok (decides : Decides handler program world condition post) {value : α}
    {after : World} (ran : outcome handler program world = (.ok value, after)) :
    condition ∧ post value after := by
  rcases decides with ⟨holds, value', after', ran', post'⟩ | ⟨_, error, after', ran'⟩
  · rw [ran] at ran'
    cases ran'
    exact ⟨holds, post'⟩
  · rw [ran] at ran'
    cases ran'

/-- Where the condition holds the program succeeds. -/
theorem succeeds (decides : Decides handler program world condition post)
    (holds : condition) :
    ∃ value after, outcome handler program world = (.ok value, after) ∧ post value after := by
  rcases decides with ⟨_, succeeded⟩ | ⟨fails, _⟩
  · exact succeeded
  · exact absurd holds fails

/-- Where the condition fails the program ends with an error. -/
theorem fails (decides : Decides handler program world condition post)
    (broken : ¬ condition) :
    ∃ error after, outcome handler program world = (.error error, after) := by
  rcases decides with ⟨holds, _⟩ | ⟨_, failed⟩
  · exact absurd holds broken
  · exact failed

/-- A known successful run decides the trivial condition. -/
theorem known {value : α} {after : World}
    (ran : outcome handler program world = (.ok value, after)) (holds : post value after) :
    Decides handler program world True post :=
  .inl ⟨trivial, value, after, ran, holds⟩

theorem mono {condition' : Prop} {post' : α → World → Prop}
    (decides : Decides handler program world condition post)
    (same : condition ↔ condition')
    (weaken : ∀ value after, condition → post value after → post' value after) :
    Decides handler program world condition' post' := by
  rcases decides with ⟨holds, value, after, ran, post⟩ | ⟨broken, failed⟩
  · exact .inl ⟨same.mp holds, value, after, ran, weaken value after holds post⟩
  · exact .inr ⟨fun holds => broken (same.mpr holds), failed⟩

/-- Sequence: both parts have to succeed. -/
theorem bind {second : Prop} {final : β → World → Prop}
    (first : Decides handler program world condition post)
    (next : ∀ value after, post value after →
      Decides handler (rest value) after second final) :
    Decides handler (program >>= rest) world (condition ∧ second) final := by
  rcases first with ⟨holds, value, after, ran, middle⟩ | ⟨broken, error, after, ran⟩
  · unfold Decides
    rw [outcome_bind_ok ran]
    rcases next value after middle with ⟨also, succeeded⟩ | ⟨broken, failed⟩
    · exact .inl ⟨⟨holds, also⟩, succeeded⟩
    · exact .inr ⟨fun both => broken both.2, failed⟩
  · exact .inr ⟨fun both => broken both.1, error, after, outcome_bind_error ran⟩

/-- Sequence before a part known to succeed. -/
theorem bind_known {final : β → World → Prop}
    (first : Decides handler program world condition post)
    (next : ∀ value after, post value after →
      ∃ result last, outcome handler (rest value) after = (.ok result, last) ∧
        final result last) :
    Decides handler (program >>= rest) world condition final := by
  rcases first with ⟨holds, value, after, ran, middle⟩ | ⟨broken, error, after, ran⟩
  · unfold Decides
    rw [outcome_bind_ok ran]
    exact .inl ⟨holds, next value after middle⟩
  · exact .inr ⟨broken, error, after, outcome_bind_error ran⟩

/-- Sequence after a part known to succeed. -/
theorem after_ok {value : α} {after : World} {second : Prop} {final : β → World → Prop}
    (first : outcome handler program world = (.ok value, after))
    (next : Decides handler (rest value) after second final) :
    Decides handler (program >>= rest) world second final := by
  unfold Decides
  rw [outcome_bind_ok first]
  exact next

/-- Cleaning up after a failure does not change whether there is one. -/
theorem onError (decides : Decides handler program world condition post)
    (cleanup : Fallible ε Op Reply Unit) :
    Decides handler (program.onError cleanup) world condition post := by
  unfold Decides outcome Fallible.onError
  rw [ExceptT.run_mk, Prog.runWith_bind]
  rcases decides with ⟨holds, value, after, ran, final⟩ | ⟨broken, error, after, ran⟩
  · unfold outcome at ran
    rw [ran]
    exact .inl ⟨holds, value, after, rfl, final⟩
  · unfold outcome at ran
    rw [ran]
    refine .inr ⟨broken, error, (cleanup.run.runWith handler after).2, ?_⟩
    exact Prog.runWith_bind handler cleanup.run _ after

/-- A loop succeeds exactly if every item fits, and ends in the invariant. -/
theorem foldlM {ι σ : Type} {body : σ → ι → Fallible ε Op Reply σ} {Fits : ι → Prop}
    {Invariant : List ι → σ → World → Prop} (items : List ι) {state : σ}
    (initially : Invariant [] state world)
    (round : ∀ done item rest state world, items = done ++ item :: rest →
      Invariant done state world →
      Decides handler (body state item) world (Fits item) (Invariant (done ++ [item]))) :
    Decides handler (items.foldlM body state) world (∀ item ∈ items, Fits item)
      (Invariant items) := by
  suffices loop : ∀ rest done state world, items = done ++ rest →
      Invariant done state world →
      Decides handler (rest.foldlM body state) world (∀ item ∈ rest, Fits item)
        (Invariant items) from loop items [] state world rfl initially
  intro rest
  induction rest with
  | nil =>
      intro done state world whole holds
      rw [List.append_nil] at whole
      exact .inl ⟨by simp, state, world, rfl, whole ▸ holds⟩
  | cons item rest inductionHypothesis =>
      intro done state world whole holds
      have remaining : items = (done ++ [item]) ++ rest := by simpa using whole
      rw [List.foldlM_cons]
      refine ((round done item rest state world whole holds).bind fun next after nextHolds =>
        inductionHypothesis (done ++ [item]) next after remaining nextHolds).mono ?_ ?_
      · exact List.forall_mem_cons.symm
      · exact fun _ _ _ final => final

/-- A loop of checks that leave the world alone. -/
theorem forM {ι : Type} {body : ι → Fallible ε Op Reply PUnit} {Passes : ι → Prop}
    (items : List ι)
    (round : ∀ item ∈ items,
      Decides handler (body item) world (Passes item) fun _ after => after = world) :
    Decides handler (items.forM body) world (∀ item ∈ items, Passes item)
      fun _ after => after = world := by
  induction items with
  | nil => exact .inl ⟨by simp, ⟨⟩, world, rfl, rfl⟩
  | cons item rest inductionHypothesis =>
      change Decides handler (body item >>= fun _ => rest.forM body) _ _ _
      refine ((round item (List.mem_cons_self ..)).bind fun _ after unchanged => ?_).mono
        List.forall_mem_cons.symm fun _ _ _ final => final
      rw [unchanged]
      exact inductionHypothesis fun other member => round other (List.mem_cons_of_mem _ member)

end Decides

/-! ## Traces -/

section Traces

variable {ε₀ : Type} {trace : List (Event Op Reply)}

/-- A program that is over has made no call. -/
theorem returns_ret {value result : α} :
    Prog.Returns (.ret value : Prog Op Reply α) trace result ↔ trace = [] ∧ result = value := by
  constructor
  · intro returns
    cases returns
    exact ⟨rfl, rfl⟩
  · rintro ⟨rfl, rfl⟩
    exact .ret _

/-- A program that makes a call goes on as its reply says. -/
theorem returns_call {op : Op} {next : Reply op → Prog Op Reply α} {result : α} :
    Prog.Returns (.call op next) trace result ↔
      ∃ reply rest, trace = ⟨op, reply⟩ :: rest ∧ Prog.Returns (next reply) rest result := by
  constructor
  · intro returns
    cases returns with
    | call reply rest => exact ⟨reply, _, rfl, rest⟩
  · rintro ⟨reply, rest, rfl, returns⟩
    exact .call reply returns

/-- A single call is its own trace. -/
theorem returns_perform {op : Op} {reply : Reply op} :
    Prog.Returns (Prog.perform op) trace reply ↔ trace = [⟨op, reply⟩] := by
  constructor
  · intro returns
    cases returns with
    | call _ rest =>
        obtain ⟨rfl, rfl⟩ := returns_ret.mp rest
        rfl
  · rintro rfl
    exact .call reply (.ret reply)

/-- A sequence stops at the failure of its first part or goes on with its value. -/
theorem returns_bind {program : Fallible ε Op Reply α} {rest : α → Fallible ε Op Reply β}
    {result : Except ε β} :
    Prog.Returns (program >>= rest).run trace result ↔
      (∃ error, Prog.Returns program.run trace (.error error) ∧ result = .error error) ∨
      ∃ first second value, trace = first ++ second ∧
        Prog.Returns program.run first (.ok value) ∧
        Prog.Returns (rest value).run second result := by
  rw [ExceptT.run_bind]
  constructor
  · intro returns
    obtain ⟨first, second, reached, rfl, returnsFirst, returnsSecond⟩ := returns.split
    cases reached with
    | error error =>
        obtain ⟨rfl, rfl⟩ := returns_ret.mp returnsSecond
        rw [List.append_nil]
        exact .inl ⟨error, returnsFirst, rfl⟩
    | ok value => exact .inr ⟨first, second, value, rfl, returnsFirst, returnsSecond⟩
  · rintro (⟨error, returnsFirst, rfl⟩ | ⟨first, second, value, rfl, returnsFirst, returnsSecond⟩)
    · rw [← List.append_nil trace]
      exact returnsFirst.bind (.ret _)
    · exact returnsFirst.bind returnsSecond

/-- A part whose value is only put into another form. -/
theorem returns_map {program : Fallible ε Op Reply α} {image : α → β} {result : Except ε β} :
    Prog.Returns (program >>= fun value => pure (image value)).run trace result ↔
      ∃ reached, Prog.Returns program.run trace reached ∧ result = reached.map image := by
  rw [returns_bind]
  constructor
  · rintro (⟨error, returns, rfl⟩ | ⟨first, second, value, rfl, returns, ended⟩)
    · exact ⟨.error error, returns, rfl⟩
    · obtain ⟨rfl, rfl⟩ := returns_ret.mp ended
      rw [List.append_nil]
      exact ⟨.ok value, returns, rfl⟩
  · rintro ⟨error | value, returns, rfl⟩
    · exact .inl ⟨error, returns, rfl⟩
    · exact .inr ⟨trace, [], value, (List.append_nil trace).symm, returns, .ret _⟩

/-- A part whose error is reported as `wrap` says. -/
theorem returns_attempt {wrap : ε₀ → ε} {call : Prog Op Reply (Except ε₀ α)}
    {result : Except ε α} :
    Prog.Returns (attempt wrap call).run trace result ↔
      ∃ answer, Prog.Returns call trace answer ∧ result = answer.mapError wrap := by
  unfold attempt
  rw [ExceptT.run_mk]
  constructor
  · intro returns
    obtain ⟨first, second, answer, rfl, returnsCall, returnsRest⟩ := returns.split
    obtain ⟨rfl, rfl⟩ := returns_ret.mp returnsRest
    rw [List.append_nil]
    exact ⟨answer, returnsCall, rfl⟩
  · rintro ⟨answer, returnsCall, rfl⟩
    rw [← List.append_nil trace]
    exact returnsCall.bind (.ret _)

/-- A call whose error ends the program: the program ends with it, or goes on with its value. -/
theorem returns_attempt_bind {wrap : ε₀ → ε} {call : Prog Op Reply (Except ε₀ α)}
    {event : Except ε₀ α → Event Op Reply}
    (isCall : ∀ {trace reply}, Prog.Returns call trace reply ↔ trace = [event reply])
    {rest : α → Fallible ε Op Reply β} {result : Except ε β} :
    Prog.Returns (attempt wrap call >>= rest).run trace result ↔
      (∃ error, trace = [event (.error error)] ∧ result = .error (wrap error)) ∨
      ∃ value later, trace = event (.ok value) :: later ∧
        Prog.Returns (rest value).run later result := by
  rw [returns_bind]
  constructor
  · rintro (⟨error, attempted, rfl⟩ | ⟨first, second, value, rfl, attempted, returnsRest⟩)
    · obtain ⟨answer, called, failed⟩ := returns_attempt.mp attempted
      cases answer with
      | ok value => cases failed
      | error reason =>
          cases failed
          exact .inl ⟨reason, isCall.mp called, rfl⟩
    · obtain ⟨answer, called, succeeded⟩ := returns_attempt.mp attempted
      cases answer with
      | error reason => cases succeeded
      | ok value =>
          cases succeeded
          rw [isCall.mp called]
          exact .inr ⟨value, second, rfl, returnsRest⟩
  · rintro (⟨reason, rfl, rfl⟩ | ⟨value, later, rfl, returnsRest⟩)
    · exact .inl ⟨_, returns_attempt.mpr ⟨.error reason, isCall.mpr rfl, rfl⟩, rfl⟩
    · exact .inr ⟨[event (.ok value)], later, value, rfl,
        returns_attempt.mpr ⟨.ok value, isCall.mpr rfl, rfl⟩, returnsRest⟩

/-- A cleanup comes after a failure, and leaves it as it is. -/
theorem returns_onError {body : Fallible ε Op Reply α} {cleanup : Fallible ε Op Reply Unit}
    {result : Except ε α} :
    Prog.Returns (onError body cleanup).run trace result ↔
      (∃ value, Prog.Returns body.run trace (.ok value) ∧ result = .ok value) ∨
      ∃ first second error cleaned, trace = first ++ second ∧
        Prog.Returns body.run first (.error error) ∧
        Prog.Returns cleanup.run second cleaned ∧ result = .error error := by
  unfold onError
  rw [ExceptT.run_mk]
  constructor
  · intro returns
    obtain ⟨first, second, reached, rfl, returnsBody, returnsRest⟩ := returns.split
    cases reached with
    | ok value =>
        obtain ⟨rfl, rfl⟩ := returns_ret.mp returnsRest
        rw [List.append_nil]
        exact .inl ⟨value, returnsBody, rfl⟩
    | error error =>
        obtain ⟨third, fourth, cleaned, rfl, returnsCleanup, returnsEnd⟩ := returnsRest.split
        obtain ⟨rfl, rfl⟩ := returns_ret.mp returnsEnd
        rw [List.append_nil]
        exact .inr ⟨first, third, error, cleaned, rfl, returnsBody, returnsCleanup, rfl⟩
  · rintro (⟨value, returnsBody, rfl⟩ |
      ⟨first, second, error, cleaned, rfl, returnsBody, returnsCleanup, rfl⟩)
    · rw [← List.append_nil trace]
      exact returnsBody.bind (.ret _)
    · rw [← List.append_nil second]
      exact returnsBody.bind (returnsCleanup.bind (.ret _))

end Traces

end Fallible

end TriAI.Library.Interaction
