import TriAI.Http.Reader
import TriAI.Library.Interaction

/-!
Contract: the registry of the requests that can be cancelled (`ServerState` of `http.rs`).

Owns: `register_request`, `cancel_request` and `unregister_request`, what every connection
does with them around its route, and the interleavings of any number of connections.

Does not own: what an inference does besides polling its flag, and requests that are turned
away before they are registered.
-/

set_option autoImplicit false

namespace TriAI.Http

open TriAI.Library.Interaction

/-- The route of a request, as far as the registry is concerned. -/
inductive Route where
  /-- `/v1/chat/completions` and `/v1/embeddings`, which poll their flag. -/
  | inference
  /-- `/api/requests/{target}/cancel`. -/
  | cancel (target : String)
  | other
deriving DecidableEq

structure Request where
  id : RequestId
  route : Route

/-- The calls on the registry and on the flags in it; a flag is its number. -/
inductive RegistryOp where
  /-- `register_request`. -/
  | register (request : Request)
  | load (flag : Nat)
  /-- What `cancel_request` does under the lock. -/
  | get (target : String)
  | store (flag : Nat)
  /-- `unregister_request`. -/
  | unregister (requestId : RequestId)

@[reducible] def RegistryOp.Reply : RegistryOp → Type
  | .register _ => Nat
  | .load _ => Bool
  | .get _ => Option Nat
  | .store _ | .unregister _ => Unit

abbrev RegistryProg (α : Type) : Type := Prog RegistryOp RegistryOp.Reply α

/-- What a connection answered last, where it was asked to cancel a request. -/
inductive Answer where
  | none
  | cancelAnswered (target : String) (status : Nat)

/-- An inference that polls its flag, at most as often as given. -/
def pollFlag (flag : Nat) : Nat → RegistryProg Unit
  | 0 => pure ()
  | polls + 1 => do
      let cancelled : Bool ← Prog.perform (RegistryOp.load flag)
      if cancelled then pure () else pollFlag flag polls

/-- `cancel_request`. -/
def cancelRequest (target : String) : RegistryProg Bool := do
  let found : Option Nat ← Prog.perform (RegistryOp.get target)
  match found with
  | none => pure false
  | some flag => do
      Prog.perform (RegistryOp.store flag)
      pure true

/-- The status of the route that cancels a request. -/
def cancelRoute (target : String) : RegistryProg Nat :=
  if validRequestId target then do
    let cancelled ← cancelRequest target
    pure (if cancelled then 202 else 404)
  else pure 404

/-- What a connection does between registering its request and unregistering it. -/
def serveRoute (flag polls : Nat) : Route → RegistryProg Answer
  | .inference => do
      pollFlag flag polls
      pure .none
  | .cancel target => do
      let status ← cancelRoute target
      pure (.cancelAnswered target status)
  | .other => pure .none

/-- `handle_connection` from the registration on; the guard unregisters at its end. -/
def handleConnection (request : Request) (polls : Nat) : RegistryProg Answer := do
  let flag : Nat ← Prog.perform (RegistryOp.register request)
  let answer ← serveRoute flag polls request.route
  Prog.perform (RegistryOp.unregister request.id)
  pure answer

/-! ## Connections -/

/-- A request that is registered and has not ended, with the flag it polls. -/
structure Serving where
  id : RequestId
  inference : Bool
  flag : Nat

/-- What a cancel request found, and the requests that were open then. -/
structure Look where
  target : String
  found : Option Nat
  serving : Nat → Option Serving

/-- The map `cancellations` and the flags. `serving` and `looked` only record what each
connection is doing. -/
structure RegistryWorld where
  cancellations : String → Option Nat := fun _ => none
  flags : Nat → Bool := fun _ => false
  made : Nat := 0
  serving : Nat → Option Serving := fun _ => none
  looked : Nat → Option Look := fun _ => none

/-- A call by a connection. -/
def RegistryWorld.Answers (connection : Nat) (world : RegistryWorld) :
    (op : RegistryOp) → op.Reply → RegistryWorld → Prop
  | .register request, flag, after =>
      flag = world.made ∧ after = { world with
        cancellations := Function.update world.cancellations request.id.text (some flag)
        flags := Function.update world.flags flag false
        made := world.made + 1
        serving := Function.update world.serving connection
          (some ⟨request.id, decide (request.route = .inference), flag⟩) }
  | .load flag, reply, after => reply = world.flags flag ∧ after = world
  | .get target, reply, after =>
      reply = world.cancellations target ∧ after = { world with
        looked := Function.update world.looked connection (some ⟨target, reply, world.serving⟩) }
  | .store flag, _, after => after = { world with flags := Function.update world.flags flag true }
  | .unregister requestId, _, after =>
      after = { world with
        cancellations := Function.update world.cancellations requestId.text none
        serving := Function.update world.serving connection none }

/-- Any number of connections that serve any requests, one after the other. -/
def registrySystem : System Nat RegistryOp RegistryOp.Reply Answer RegistryWorld where
  Offers := fun _ _ program => ∃ request polls, program = handleConnection request polls
  Step := RegistryWorld.Answers
  Environment := fun _ _ => False

abbrev RegistryPool : Type := Pool Nat RegistryOp RegistryOp.Reply Answer RegistryWorld

/-- No connection has been accepted. -/
def idleRegistry : RegistryPool where
  world := {}
  activity := fun _ => .resting .none

/-! ## The contract of the cancel route -/

/-- An inference is open under the id and polls the flag. -/
def RunsInference (serving : Nat → Option Serving) (id : String) (flag : Nat) : Prop :=
  ∃ connection request, serving connection = some request ∧ request.id.text = id ∧
    request.inference = true ∧ request.flag = flag

/-- Every answer of the cancel route is 202 exactly if an inference was open under the id,
and then the flag that it polls is set. -/
def AnswersExactly (pool : RegistryPool) : Prop :=
  ∀ connection target status,
    pool.activity connection = .resting (.cancelAnswered target status) →
    if validRequestId target then
      ∃ look, pool.world.looked connection = some look ∧ look.target = target ∧
        (status = 202 ↔ ∃ flag, RunsInference look.serving target flag) ∧
        ∀ flag, RunsInference look.serving target flag → pool.world.flags flag = true
    else status ≠ 202

/-- Every open request is registered with its own flag. -/
def KeepsRegistrations (world : RegistryWorld) : Prop :=
  ∀ connection request, world.serving connection = some request →
    world.cancellations request.id.text = some request.flag

/-- The calls of requests that do not share an id: no request is registered under the id of
an open one, and no open request is cancelled that is no inference. -/
def Distinct (world : RegistryWorld) : RegistryOp → Prop
  | .register request =>
      ∀ connection other, world.serving connection = some other → other.id ≠ request.id
  | .get target =>
      ∀ connection other, world.serving connection = some other → other.id.text = target →
        other.inference = true
  | .load _ | .store _ | .unregister _ => True

def distinctSystem : System Nat RegistryOp RegistryOp.Reply Answer RegistryWorld :=
  registrySystem.restrict fun world op _ _ => Distinct world op

/-! ## Invariant -/

/-- The registry holds exactly the open requests, each under an id of its own. -/
structure Orderly (world : RegistryWorld) : Prop where
  registered : KeepsRegistrations world
  isOpen : ∀ id flag, world.cancellations id = some flag →
    ∃ connection request, world.serving connection = some request ∧ request.id.text = id ∧
      request.flag = flag
  alone : ∀ first second request other, world.serving first = some request →
    world.serving second = some other → request.id = other.id → first = second
  made : ∀ connection request, world.serving connection = some request →
    request.flag < world.made
  looks : ∀ connection look, world.looked connection = some look →
    (∀ flag, look.found = some flag ↔ RunsInference look.serving look.target flag) ∧
    ∀ flag, look.found = some flag → flag < world.made

section Steps

variable {world : RegistryWorld} {connection : Nat}

/-- A step of a connection that leaves the map, the open requests and the looks alone. -/
private theorem Orderly.setFlags (orderly : Orderly world) (flags : Nat → Bool) :
    Orderly { world with flags } :=
  ⟨orderly.registered, orderly.isOpen, orderly.alone, orderly.made, orderly.looks⟩

/-- Registering a request under an id that no open request has. -/
private theorem Orderly.register (orderly : Orderly world) {request : Request}
    (free : world.serving connection = none) (distinct : Distinct world (.register request)) :
    Orderly { world with
      cancellations := Function.update world.cancellations request.id.text (some world.made)
      flags := Function.update world.flags world.made false
      made := world.made + 1
      serving := Function.update world.serving connection
        (some ⟨request.id, decide (request.route = .inference), world.made⟩) } where
  registered := by
    intro served other isServed
    by_cases same : served = connection
    · subst same
      simp only [Function.update_self, Option.some.injEq] at isServed
      subst isServed
      exact Function.update_self ..
    · simp only [Function.update_of_ne same] at isServed
      have different : other.id.text ≠ request.id.text := fun together =>
        distinct served other isServed (RequestId.ext together)
      exact (Function.update_of_ne different _ _).trans (orderly.registered served other isServed)
  isOpen := by
    intro id flag isRegistered
    by_cases same : id = request.id.text
    · subst same
      simp only [Function.update_self, Option.some.injEq] at isRegistered
      exact ⟨connection, _, Function.update_self .., rfl, isRegistered⟩
    · simp only [Function.update_of_ne same] at isRegistered
      obtain ⟨served, other, isServed, named, flagged⟩ := orderly.isOpen id flag isRegistered
      have elsewhere : served ≠ connection := by
        rintro rfl
        rw [free] at isServed
        cases isServed
      exact ⟨served, other, (Function.update_of_ne elsewhere _ _).trans isServed, named, flagged⟩
  alone := by
    intro first second one other isFirst isSecond sameId
    by_cases firstNew : first = connection
    · by_cases secondNew : second = connection
      · rw [firstNew, secondNew]
      · subst firstNew
        simp only [Function.update_self, Option.some.injEq] at isFirst
        simp only [Function.update_of_ne secondNew] at isSecond
        subst isFirst
        exact absurd sameId.symm (distinct second other isSecond)
    · simp only [Function.update_of_ne firstNew] at isFirst
      by_cases secondNew : second = connection
      · subst secondNew
        simp only [Function.update_self, Option.some.injEq] at isSecond
        subst isSecond
        exact absurd sameId (distinct first one isFirst)
      · simp only [Function.update_of_ne secondNew] at isSecond
        exact orderly.alone first second one other isFirst isSecond sameId
  made := by
    intro served other isServed
    by_cases same : served = connection
    · subst same
      simp only [Function.update_self, Option.some.injEq] at isServed
      subst isServed
      exact Nat.lt_succ_self _
    · simp only [Function.update_of_ne same] at isServed
      exact Nat.lt_succ_of_lt (orderly.made served other isServed)
  looks := fun served look isLook =>
    ⟨(orderly.looks served look isLook).1, fun flag found =>
      Nat.lt_succ_of_lt ((orderly.looks served look isLook).2 flag found)⟩

/-- Looking a request up that is an inference if it is open. -/
private theorem Orderly.get (orderly : Orderly world) {target : String}
    (distinct : Distinct world (.get target)) :
    Orderly { world with
      looked := Function.update world.looked connection
        (some ⟨target, world.cancellations target, world.serving⟩) } where
  registered := orderly.registered
  isOpen := orderly.isOpen
  alone := orderly.alone
  made := orderly.made
  looks := by
    intro looker look isLook
    by_cases same : looker = connection
    · subst same
      simp only [Function.update_self, Option.some.injEq] at isLook
      subst isLook
      constructor
      · intro flag
        constructor
        · intro found
          obtain ⟨served, other, isServed, named, flagged⟩ := orderly.isOpen target flag found
          exact ⟨served, other, isServed, named, distinct served other isServed named, flagged⟩
        · rintro ⟨served, other, isServed, rfl, _, rfl⟩
          exact orderly.registered served other isServed
      · intro flag found
        obtain ⟨served, other, isServed, _, rfl⟩ := orderly.isOpen target flag found
        exact orderly.made served other isServed
    · simp only [Function.update_of_ne same] at isLook
      exact orderly.looks looker look isLook

/-- The end of an open request takes its own registration away. -/
private theorem Orderly.unregister (orderly : Orderly world) {own : Serving}
    (isServed : world.serving connection = some own) :
    Orderly { world with
      cancellations := Function.update world.cancellations own.id.text none
      serving := Function.update world.serving connection none } where
  registered := by
    intro served other isOther
    have elsewhere : served ≠ connection := by
      rintro rfl
      simp at isOther
    simp only [Function.update_of_ne elsewhere] at isOther
    have different : other.id.text ≠ own.id.text := fun together =>
      elsewhere (orderly.alone served connection other own isOther isServed
        (RequestId.ext together))
    exact (Function.update_of_ne different _ _).trans (orderly.registered served other isOther)
  isOpen := by
    intro id flag isRegistered
    have different : id ≠ own.id.text := by
      rintro rfl
      simp at isRegistered
    simp only [Function.update_of_ne different] at isRegistered
    obtain ⟨served, other, isOther, named, flagged⟩ := orderly.isOpen id flag isRegistered
    have elsewhere : served ≠ connection := by
      rintro rfl
      rw [isServed] at isOther
      cases isOther
      exact different named.symm
    exact ⟨served, other, (Function.update_of_ne elsewhere _ _).trans isOther, named, flagged⟩
  alone := by
    intro first second one other isFirst isSecond sameId
    have firstElse : first ≠ connection := by
      rintro rfl
      simp at isFirst
    have secondElse : second ≠ connection := by
      rintro rfl
      simp at isSecond
    simp only [Function.update_of_ne firstElse] at isFirst
    simp only [Function.update_of_ne secondElse] at isSecond
    exact orderly.alone first second one other isFirst isSecond sameId
  made := by
    intro served other isOther
    have elsewhere : served ≠ connection := by
      rintro rfl
      simp at isOther
    simp only [Function.update_of_ne elsewhere] at isOther
    exact orderly.made served other isOther
  looks := orderly.looks

end Steps

/-! ## What a connection knows -/

/-- The view of a connection: its open request, what it found and which flags it set. -/
structure RegistryView where
  serving : Option Serving := none
  looked : Option Look := none
  stored : List Nat := []

/-- What a connection may call, and what it learns. -/
def registryContract : Contract RegistryOp RegistryOp.Reply RegistryView where
  Admits := fun view op => match op with
    | .register _ => view.serving = none
    | .unregister requestId => ∃ own, view.serving = some own ∧ own.id = requestId
    | .store flag => ∃ look, view.looked = some look ∧ look.found = some flag
    | .load _ | .get _ => True
  Answers := fun view op reply after => match op, reply with
    | .register request, flag => after = { view with
        serving := some ⟨request.id, decide (request.route = .inference), flag⟩ }
    | .load _, _ => after = view
    | .get target, found =>
        ∃ serving, after = { view with looked := some ⟨target, found, serving⟩ }
    | .store flag, _ => after = { view with stored := flag :: view.stored }
    | .unregister _, _ => after = { view with serving := none }

/-- The answer is 202 exactly if a flag was found, and then it was set. -/
def Answered : Answer → RegistryView → Prop
  | .none, _ => True
  | .cancelAnswered target status, view =>
      if validRequestId target then
        ∃ look, view.looked = some look ∧ look.target = target ∧
          (status = 202 ↔ look.found ≠ none) ∧ ∀ flag, look.found = some flag → flag ∈ view.stored
      else status ≠ 202

/-- What holds of a connection between two requests. -/
def AtRest (answer : Answer) (view : RegistryView) : Prop :=
  view.serving = none ∧ Answered answer view

private theorem pollFlag_keeps (flag polls : Nat) (view : RegistryView) :
    wlp registryContract (pollFlag flag polls) (fun _ after => after = view) view := by
  induction polls with
  | zero => rfl
  | succ polls inductionHypothesis =>
      refine wlp_perform trivial fun cancelled after same => ?_
      obtain rfl : after = view := same
      cases cancelled with
      | false => exact inductionHypothesis
      | true => rfl

/-- The cancel route leaves the open request alone and answers as it found. -/
private theorem cancelRoute_answers (target : String) (view : RegistryView) :
    wlp registryContract (cancelRoute target)
      (fun status after => after.serving = view.serving ∧
        Answered (.cancelAnswered target status) after) view := by
  unfold cancelRoute
  by_cases valid : validRequestId target = true
  · rw [if_pos valid]
    refine wlp_perform trivial fun found after learned => ?_
    obtain ⟨serving, rfl⟩ := learned
    cases found with
    | none => exact ⟨rfl, by simp [Answered, valid]⟩
    | some flag =>
        refine wlp_perform ⟨_, rfl, rfl⟩ fun done after stored => ?_
        obtain rfl := stored
        exact ⟨rfl, by simp [Answered, valid]⟩
  · rw [if_neg valid]
    exact ⟨rfl, by simp [Answered, valid]⟩

/-- What a connection answered does not depend on the request it has open. -/
private theorem answered_ended {answer : Answer} {view : RegistryView}
    (answered : Answered answer view) : Answered answer { view with serving := none } := by
  cases answer with
  | none => trivial
  | cancelAnswered target status => exact answered

/-- Every route leaves the open request alone. -/
private theorem serveRoute_answers (flag polls : Nat) (route : Route) (view : RegistryView) :
    wlp registryContract (serveRoute flag polls route)
      (fun answer after => after.serving = view.serving ∧ Answered answer after) view := by
  cases route with
  | inference =>
      refine wlp_seq (pollFlag_keeps flag polls view) fun _ after same => ?_
      obtain rfl := same
      exact ⟨rfl, trivial⟩
  | cancel target => exact wlp_seq (cancelRoute_answers target view) fun _ _ answered => answered
  | other => exact ⟨rfl, trivial⟩

/-- A whole request. -/
theorem handleConnection_answers (request : Request) (polls : Nat) {view : RegistryView}
    (free : view.serving = none) :
    wlp registryContract (handleConnection request polls) AtRest view := by
  refine wlp_perform free fun flag opened registered => ?_
  obtain rfl := registered
  refine wlp_seq (serveRoute_answers flag polls request.route _) fun answer after answered => ?_
  refine wlp_perform ⟨_, answered.1, rfl⟩ fun done last ended => ?_
  obtain rfl := ended
  exact ⟨rfl, answered_ended answered.2⟩

/-- The world and what the connections know of it. -/
structure KnownTo (world : RegistryWorld) (views : Nat → RegistryView) : Prop where
  orderly : Orderly world
  serving : ∀ connection, world.serving connection = (views connection).serving
  looked : ∀ connection, world.looked connection = (views connection).looked
  stored : ∀ connection, ∀ flag ∈ (views connection).stored,
    flag < world.made ∧ world.flags flag = true

/-- A connection learns something, and the rest of what is known stays. -/
private theorem KnownTo.learn {world after : RegistryWorld} {views : Nat → RegistryView}
    (known : KnownTo world views) {connection : Nat} (view : RegistryView) (orderly : Orderly after)
    (serving : after.serving = Function.update world.serving connection view.serving)
    (looked : after.looked = Function.update world.looked connection view.looked)
    (stored : ∀ flag ∈ view.stored, flag < after.made ∧ after.flags flag = true)
    (kept : ∀ flag, flag < world.made → world.flags flag = true →
      flag < after.made ∧ after.flags flag = true) :
    KnownTo after (Function.update views connection view) where
  orderly := orderly
  serving := by
    intro other
    rw [serving]
    by_cases same : other = connection
    · subst same
      simp
    · simp [Function.update_of_ne same, known.serving]
  looked := by
    intro other
    rw [looked]
    by_cases same : other = connection
    · subst same
      simp
    · simp [Function.update_of_ne same, known.looked]
  stored := by
    intro other flag member
    by_cases same : other = connection
    · subst same
      rw [Function.update_self] at member
      exact stored flag member
    · rw [Function.update_of_ne same] at member
      have before := known.stored other flag member
      exact kept flag before.1 before.2

/-- Step lemma. -/
theorem KnownTo.answers {world after : RegistryWorld} {views : Nat → RegistryView}
    (known : KnownTo world views) {connection : Nat} {op : RegistryOp} {reply : op.Reply}
    (admitted : registryContract.Admits (views connection) op)
    (answers : world.Answers connection op reply after) (distinct : Distinct world op) :
    ∃ view, registryContract.Answers (views connection) op reply view ∧
      KnownTo after (Function.update views connection view) := by
  have sameServing : ∀ view : RegistryView, view.serving = (views connection).serving →
      world.serving = Function.update world.serving connection view.serving := by
    intro view same
    rw [same, ← known.serving, Function.update_eq_self]
  have sameLooked : ∀ view : RegistryView, view.looked = (views connection).looked →
      world.looked = Function.update world.looked connection view.looked := by
    intro view same
    rw [same, ← known.looked, Function.update_eq_self]
  cases op with
  | register request =>
      obtain ⟨rfl, rfl⟩ := answers
      refine ⟨_, rfl, known.learn _ ?_ rfl (sameLooked _ rfl) ?_ ?_⟩
      · exact known.orderly.register ((known.serving connection).trans admitted) distinct
      · intro flag member
        have before := known.stored connection flag member
        refine ⟨Nat.lt_succ_of_lt before.1, ?_⟩
        exact (Function.update_of_ne (Nat.ne_of_lt before.1) _ _).trans before.2
      · intro flag old isSet
        exact ⟨Nat.lt_succ_of_lt old, (Function.update_of_ne (Nat.ne_of_lt old) _ _).trans isSet⟩
  | load flag =>
      obtain ⟨rfl, rfl⟩ := answers
      exact ⟨_, rfl, known.learn _ known.orderly (sameServing _ rfl) (sameLooked _ rfl)
        (known.stored connection) fun _ old isSet => ⟨old, isSet⟩⟩
  | get target =>
      obtain ⟨rfl, rfl⟩ := answers
      exact ⟨_, ⟨world.serving, rfl⟩, known.learn _ (known.orderly.get distinct) (sameServing _ rfl)
        rfl (known.stored connection) fun _ old isSet => ⟨old, isSet⟩⟩
  | store flag =>
      obtain rfl := answers
      obtain ⟨look, isLook, found⟩ := admitted
      have old : flag < world.made :=
        (known.orderly.looks connection look ((known.looked connection).trans isLook)).2 flag found
      have kept : ∀ other, other < world.made → world.flags other = true →
          other < world.made ∧ Function.update world.flags flag true other = true := by
        intro other small isSet
        refine ⟨small, ?_⟩
        by_cases same : other = flag
        · rw [same, Function.update_self]
        · rw [Function.update_of_ne same, isSet]
      refine ⟨_, rfl, known.learn _ (known.orderly.setFlags _) (sameServing _ rfl)
        (sameLooked _ rfl) ?_ kept⟩
      intro other member
      rcases List.mem_cons.mp member with rfl | before
      · exact ⟨old, Function.update_self ..⟩
      · have earlier := known.stored connection other before
        exact kept other earlier.1 earlier.2
  | unregister requestId =>
      obtain rfl := answers
      obtain ⟨own, isServed, rfl⟩ := admitted
      exact ⟨_, rfl, known.learn _ (known.orderly.unregister
        ((known.serving connection).trans isServed)) rfl (sameLooked _ rfl)
        (known.stored connection) fun _ old isSet => ⟨old, isSet⟩⟩

private theorem distinct_respects :
    distinctSystem.Respects registryContract AtRest KnownTo where
  offered := by
    rintro id answer program view atRest ⟨request, polls, rfl⟩
    exact handleConnection_answers request polls atRest.1
  step := fun _ _ _ _ _ _ known admitted answered => known.answers admitted answered.1 answered.2
  environment := fun _ _ _ _ impossible => impossible.elim

private theorem idleRegistry_safe :
    idleRegistry.Safe registryContract AtRest KnownTo := by
  refine ⟨fun _ => {}, ⟨⟨?_, ?_, ?_, ?_, ?_⟩, fun _ => rfl, fun _ => rfl, ?_⟩,
    fun _ => ⟨rfl, trivial⟩⟩
  · intro connection request impossible
    cases impossible
  · intro id flag impossible
    cases impossible
  · intro first second request other impossible
    cases impossible
  · intro connection request impossible
    cases impossible
  · intro connection look impossible
    cases impossible
  · intro connection flag impossible
    cases impossible

/-- As long as open requests do not share ids and only inferences are cancelled, every
cancel request is answered with 202 exactly if an inference is open under its target, which
then has its flag set, and every open request stays registered. -/
theorem cancels_exactly {pool : RegistryPool}
    (reachable : distinctSystem.Reachable idleRegistry pool) :
    AnswersExactly pool ∧ KeepsRegistrations pool.world := by
  obtain ⟨views, known, meets⟩ := reachable.safe distinct_respects idleRegistry_safe
  refine ⟨?_, known.orderly.registered⟩
  intro connection target status atRest
  have answered : Answered (.cancelAnswered target status) (views connection) := by
    have own := meets connection
    rw [atRest] at own
    exact own.2
  by_cases valid : validRequestId target = true
  · simp only [Answered, valid, if_true] at answered ⊢
    obtain ⟨look, isLook, rfl, status202, isStored⟩ := answered
    have looked := (known.looked connection).trans isLook
    have foundIff := (known.orderly.looks connection look looked).1
    refine ⟨look, looked, rfl, ?_, ?_⟩
    · rw [status202, Option.ne_none_iff_exists']
      exact exists_congr foundIff
    · intro flag runs
      exact (known.stored connection flag (isStored flag ((foundIff flag).mpr runs))).2
  · simp only [Answered, valid, Bool.false_eq_true, if_false] at answered ⊢
    exact answered

/-! ## Two runs -/

private theorem valid_x : validRequestId "x" = true := by decide +kernel

private theorem valid_y : validRequestId "y" = true := by decide +kernel

/-- A chat request under the id `x`. -/
def chatX : Request := ⟨⟨"x", valid_x⟩, .inference⟩

/-- A request of another route under the id `x`. -/
def otherX : Request := ⟨⟨"x", valid_x⟩, .other⟩

/-- A request under the id `y` that cancels `x`. -/
def cancelX : Request := ⟨⟨"y", valid_y⟩, .cancel "x"⟩

/-- A request under the id of an open chat takes the registration of the chat with it when
it ends, and the cancel route answers 404 while the chat runs. -/
theorem cancels_missed :
    ∃ pool, registrySystem.Reachable idleRegistry pool ∧ ¬ AnswersExactly pool ∧
      ¬ KeepsRegistrations pool.world := by
  have idle : registrySystem.Reachable idleRegistry idleRegistry := .refl
  have chats := idle.begin 0 (handleConnection chatX 1) rfl ⟨_, _, rfl⟩
  have chatting := chats.call 0 rfl 0 _ ⟨rfl, rfl⟩
  have begins := chatting.begin 1 (handleConnection otherX 0) rfl ⟨_, _, rfl⟩
  have overwritten := begins.call 1 rfl 1 _ ⟨rfl, rfl⟩
  have removed := overwritten.call 1 rfl () _ rfl
  have cancels := removed.begin 2 (handleConnection cancelX 0) rfl ⟨_, _, rfl⟩
  have registered := cancels.call 2 rfl 2 _ ⟨rfl, rfl⟩
  have missed := registered.call 2 rfl none _ ⟨rfl, rfl⟩
  have unregistered := missed.call 2 rfl () _ rfl
  have answered := unregistered.finish 2 rfl
  refine ⟨_, answered, ?_, ?_⟩
  · intro exactly
    have missed := exactly 2 "x" 404 rfl
    rw [if_pos valid_x] at missed
    obtain ⟨look, isLook, _, status, _⟩ := missed
    cases isLook
    have never : 404 = 202 := status.mpr ⟨0, 0, _, rfl, rfl, rfl, rfl⟩
    exact absurd never (by decide)
  · intro keeps
    have lost := keeps 0 _ rfl
    cases lost

/-- The chat is open. -/
private def chatServing : Serving := ⟨chatX.id, true, 0⟩

/-- The cancel request is open. -/
private def cancelServing : Serving := ⟨cancelX.id, false, 1⟩

/-- While the chat alone is open, the cancel request can be registered. -/
private theorem distinct_register {world : RegistryWorld}
    (serving : world.serving = Function.update (fun _ => none) 0 (some chatServing)) :
    Distinct world (.register cancelX) := by
  intro connection other isServed
  rw [serving] at isServed
  by_cases first : connection = 0
  · subst first
    cases isServed
    decide +kernel
  · rw [Function.update_of_ne first] at isServed
    cases isServed

/-- While the two are open, the chat can be cancelled. -/
private theorem distinct_get {world : RegistryWorld}
    (serving : world.serving = Function.update
      (Function.update (fun _ => none) 0 (some chatServing)) 1 (some cancelServing)) :
    Distinct world (.get "x") := by
  intro connection other isServed named
  rw [serving] at isServed
  by_cases second : connection = 1
  · subst second
    cases isServed
    exact absurd named (by decide +kernel)
  · rw [Function.update_of_ne second] at isServed
    by_cases first : connection = 0
    · subst first
      cases isServed
      rfl
    · rw [Function.update_of_ne first] at isServed
      cases isServed

/-- A chat that another connection cancels. -/
theorem cancels_exactly_chat :
    ∃ pool, distinctSystem.Reachable idleRegistry pool ∧ pool.world.flags 0 = true ∧
      AnswersExactly pool ∧ KeepsRegistrations pool.world := by
  have idle : distinctSystem.Reachable idleRegistry idleRegistry := .refl
  have chats := idle.begin 0 (handleConnection chatX 1) rfl ⟨_, _, rfl⟩
  have chatting := chats.call 0 rfl 0 _ ⟨⟨rfl, rfl⟩, by
    intro connection other impossible
    cases impossible⟩
  have cancels := chatting.begin 1 (handleConnection cancelX 0) rfl ⟨_, _, rfl⟩
  have registered := cancels.call 1 rfl 1 _ ⟨⟨rfl, rfl⟩, distinct_register rfl⟩
  have found := registered.call 1 rfl (some 0) _ ⟨⟨rfl, rfl⟩, distinct_get rfl⟩
  have stored := found.call 1 rfl () _ ⟨rfl, trivial⟩
  have ended := stored.call 1 rfl () _ ⟨rfl, trivial⟩
  have answered := ended.finish 1 rfl
  exact ⟨_, answered, rfl, cancels_exactly answered⟩

end TriAI.Http
