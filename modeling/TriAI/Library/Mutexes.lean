import TriAI.Library.Interaction

/-!
Contract: threads that take and give back mutexes.

Owns: programs whose calls take and give back mutexes and look at what they guard; the
system of any number of such threads; the discipline of a program, which says what it may
hold where it takes a mutex; and the cycles of threads that wait for each other.

Does not own: any concrete program. A panic while a mutex is held is not modelled.
-/

set_option autoImplicit false

namespace TriAI.Library.Mutexes

open TriAI.Library.Interaction

/-- What a thread does: take a mutex, give it back, or look at something, which may be
either way. -/
inductive LockOp (Mutex : Type) where
  | acquire (mutex : Mutex)
  | release (mutex : Mutex)
  | look

@[reducible] def LockOp.Reply {Mutex : Type} : LockOp Mutex → Type
  | .acquire _ | .release _ => Unit
  | .look => Bool

/-- The locking of a function. -/
abbrev LockProg (Mutex : Type) (α : Type) : Type := Prog (LockOp Mutex) LockOp.Reply α

variable {Mutex Thread : Type}

def acquire (mutex : Mutex) : LockProg Mutex Unit := Prog.perform (LockOp.acquire mutex)

def release (mutex : Mutex) : LockProg Mutex Unit := Prog.perform (LockOp.release mutex)

def look : LockProg Mutex Bool := Prog.perform (LockOp.look : LockOp Mutex)

/-- The thread that holds a mutex. -/
abbrev Holders (Mutex Thread : Type) : Type := Mutex → Option Thread

/-- A call by a thread: a mutex is taken while it is free. -/
def Locks [DecidableEq Mutex] (thread : Thread) (holders : Holders Mutex Thread) :
    (op : LockOp Mutex) → op.Reply → Holders Mutex Thread → Prop
  | .acquire mutex, (), after =>
      holders mutex = none ∧ after = Function.update holders mutex (some thread)
  | .release mutex, (), after => after = Function.update holders mutex none
  | .look, _, after => after = holders

/-- Threads that run some programs, each any number of times. -/
def lockSystem [DecidableEq Mutex] (programs : LockProg Mutex Unit → Prop) :
    System Thread (LockOp Mutex) LockOp.Reply Unit (Holders Mutex Thread) where
  Offers := fun _ _ program => programs program
  Step := Locks
  Environment := fun _ _ => False

abbrev LockPool (Mutex Thread : Type) : Type :=
  Pool Thread (LockOp Mutex) LockOp.Reply Unit (Holders Mutex Thread)

/-- All threads are at rest, and hold nothing. -/
def idlePool : LockPool Mutex Thread where
  world := fun _ => none
  activity := fun _ => .resting ()

/-! ## Waiting -/

/-- A thread is about to take a mutex. -/
def Wants (pool : LockPool Mutex Thread) (thread : Thread) (mutex : Mutex) : Prop :=
  ∃ next, pool.activity thread = .running (.call (.acquire mutex) next)

/-- A thread waits for another, which holds the mutex it is about to take. -/
def WaitsFor (pool : LockPool Mutex Thread) (first second : Thread) : Prop :=
  ∃ mutex, Wants pool first mutex ∧ pool.world mutex = some second

/-- A thread is on a cycle of threads that wait for each other. -/
def OnCycle (pool : LockPool Mutex Thread) (thread : Thread) : Prop :=
  Relation.TransGen (WaitsFor pool) thread thread

theorem Wants.unique {pool : LockPool Mutex Thread} {thread : Thread} {first second : Mutex}
    (left : Wants pool thread first) (right : Wants pool thread second) : first = second := by
  obtain ⟨_, first⟩ := left
  obtain ⟨_, second⟩ := right
  rw [first] at second
  cases second
  rfl

theorem WaitsFor.unique {pool : LockPool Mutex Thread} {thread first second : Thread}
    (left : WaitsFor pool thread first) (right : WaitsFor pool thread second) :
    first = second := by
  obtain ⟨_, wants, held⟩ := left
  obtain ⟨_, wants', held'⟩ := right
  rw [wants.unique wants'] at held
  exact Option.some.inj (held.symm.trans held')

/-- The next thread of a cycle, which is on the cycle as well. -/
theorem OnCycle.next {pool : LockPool Mutex Thread} {thread : Thread}
    (onCycle : OnCycle pool thread) :
    ∃ following, WaitsFor pool thread following ∧ OnCycle pool following := by
  obtain ⟨following, waits, back⟩ := Relation.TransGen.head'_iff.mp onCycle
  exact ⟨following, waits, Relation.TransGen.tail'_iff.mpr ⟨thread, back, waits⟩⟩

/-- A thread of a cycle holds a mutex. -/
theorem OnCycle.holds {pool : LockPool Mutex Thread} {thread : Thread}
    (onCycle : OnCycle pool thread) : ∃ mutex, pool.world mutex = some thread := by
  obtain ⟨_, _, mutex, _, held⟩ := Relation.TransGen.tail'_iff.mp onCycle
  exact ⟨mutex, held⟩

/-! ## Discipline -/

section Discipline

variable [DecidableEq Mutex]

/-- A program holds none of the mutexes it takes, takes them where `Allows` admits it, gives
back what it holds, and ends without any. -/
def Keeps {α : Type} (Allows : Finset Mutex → Mutex → Prop) :
    LockProg Mutex α → Finset Mutex → Prop
  | .ret _, held => held = ∅
  | .call (.acquire mutex) next, held =>
      mutex ∉ held ∧ Allows held mutex ∧ Keeps Allows (next ()) (insert mutex held)
  | .call (.release mutex) next, held => mutex ∈ held ∧ Keeps Allows (next ()) (held.erase mutex)
  | .call .look next, held => Keeps Allows (next true) held ∧ Keeps Allows (next false) held

/-- The discipline of a program can be computed. -/
def Keeps.decide {α : Type} (Allows : Finset Mutex → Mutex → Prop)
    [∀ held mutex, Decidable (Allows held mutex)] :
    (program : LockProg Mutex α) → (held : Finset Mutex) → Decidable (Keeps Allows program held)
  | .ret _, held => inferInstanceAs (Decidable (held = ∅))
  | .call (.acquire mutex) next, held =>
      have := Keeps.decide Allows (next ()) (insert mutex held)
      inferInstanceAs (Decidable (mutex ∉ held ∧ Allows held mutex ∧ _))
  | .call (.release mutex) next, held =>
      have := Keeps.decide Allows (next ()) (held.erase mutex)
      inferInstanceAs (Decidable (mutex ∈ held ∧ _))
  | .call .look next, held =>
      have := Keeps.decide Allows (next true) held
      have := Keeps.decide Allows (next false) held
      inferInstanceAs (Decidable (_ ∧ _))

instance {α : Type} (Allows : Finset Mutex → Mutex → Prop)
    [∀ held mutex, Decidable (Allows held mutex)] (program : LockProg Mutex α)
    (held : Finset Mutex) : Decidable (Keeps Allows program held) :=
  Keeps.decide Allows program held

/-- What a thread knows: the mutexes it holds. -/
def discipline (Allows : Finset Mutex → Mutex → Prop) :
    Contract (LockOp Mutex) LockOp.Reply (Finset Mutex) where
  Admits := fun held op =>
    match op with
    | .acquire mutex => mutex ∉ held ∧ Allows held mutex
    | .release mutex => mutex ∈ held
    | .look => True
  Answers := fun held op _ after =>
    match op with
    | .acquire mutex => after = insert mutex held
    | .release mutex => after = held.erase mutex
    | .look => after = held

theorem Keeps.wlp {Allows : Finset Mutex → Mutex → Prop} {program : LockProg Mutex Unit}
    {held : Finset Mutex} (keeps : Keeps Allows program held) :
    wlp (discipline Allows) program (fun _ held => held = ∅) held := by
  induction program generalizing held with
  | ret _ => exact keeps
  | call op next inductionHypothesis =>
      cases op with
      | acquire mutex =>
          obtain ⟨fresh, allowed, rest⟩ := keeps
          refine ⟨⟨fresh, allowed⟩, ?_⟩
          rintro reply _ rfl
          exact inductionHypothesis reply rest
      | release mutex =>
          obtain ⟨held, rest⟩ := keeps
          refine ⟨held, ?_⟩
          rintro reply _ rfl
          exact inductionHypothesis reply rest
      | look =>
          refine ⟨trivial, ?_⟩
          rintro reply _ rfl
          cases reply with
          | true => exact inductionHypothesis true keeps.1
          | false => exact inductionHypothesis false keeps.2

/-- The holders are the threads that know they hold. -/
def Agree (holders : Holders Mutex Thread) (held : Thread → Finset Mutex) : Prop :=
  ∀ thread mutex, mutex ∈ held thread ↔ holders mutex = some thread

theorem idlePool_safe (Allows : Finset Mutex → Mutex → Prop) :
    (idlePool : LockPool Mutex Thread).Safe (discipline Allows) (fun _ held => held = ∅) Agree :=
  ⟨fun _ => ∅, fun _ _ => by simp [idlePool], fun _ => rfl⟩

/-- A call leaves a mutex with its holder, unless it gives that mutex back. -/
theorem Locks.keeps_holder {thread owner : Thread} {holders after : Holders Mutex Thread}
    {op : LockOp Mutex} {reply : op.Reply} (locks : Locks thread holders op reply after)
    {held : Mutex} (holds : holders held = some owner) (kept : op ≠ .release held) :
    after held = some owner := by
  cases op with
  | acquire mutex =>
      obtain ⟨free, rfl⟩ := locks
      have different : held ≠ mutex := by
        rintro rfl
        rw [holds] at free
        cases free
      exact (Function.update_of_ne different ..).trans holds
  | release mutex =>
      obtain rfl := locks
      have different : held ≠ mutex := by
        rintro rfl
        exact kept rfl
      exact (Function.update_of_ne different ..).trans holds
  | look =>
      obtain rfl := locks
      exact holds

/-- Whatever it sees, the program takes `wanted` before it gives `held` back. -/
def TakesBefore (held wanted : Mutex) : LockProg Mutex Unit → Prop
  | .ret _ => False
  | .call (.acquire mutex) next => mutex = wanted ∨ TakesBefore held wanted (next ())
  | .call (.release mutex) next => mutex ≠ held ∧ TakesBefore held wanted (next ())
  | .call .look next => TakesBefore held wanted (next true) ∧ TakesBefore held wanted (next false)

/-- While another holds what it wants, a call of the program neither gives `held` back nor
takes `wanted`. -/
theorem TakesBefore.call {thread other : Thread} {holders after : Holders Mutex Thread}
    {op : LockOp Mutex} {continues : op.Reply → LockProg Mutex Unit} {reply : op.Reply}
    {held wanted : Mutex} (takes : TakesBefore held wanted (.call op continues))
    (locks : Locks thread holders op reply after) (taken : holders wanted = some other) :
    op ≠ .release held ∧ TakesBefore held wanted (continues reply) := by
  cases op with
  | acquire mutex =>
      obtain ⟨free, _⟩ := locks
      refine ⟨by simp, ?_⟩
      rcases takes with rfl | later
      · rw [taken] at free
        cases free
      · exact later
  | release mutex =>
      refine ⟨?_, takes.2⟩
      intro same
      exact takes.1 (LockOp.release.inj same)
  | look =>
      refine ⟨by simp, ?_⟩
      cases reply with
      | true => exact takes.1
      | false => exact takes.2

variable [DecidableEq Thread]

/-- A mutex that at most this thread holds changes hands between it and nobody. -/
private theorem Agree.updated {holders : Holders Mutex Thread} {held : Thread → Finset Mutex}
    (agree : Agree holders held) {mutex : Mutex} {thread : Thread} {holder : Option Thread}
    {now : Finset Mutex} (before : ∀ other, other ≠ thread → mutex ∉ held other)
    (after : ∀ other, other ≠ thread → holder ≠ some other)
    (owns : mutex ∈ now ↔ holder = some thread)
    (others : ∀ wanted, wanted ≠ mutex → (wanted ∈ now ↔ wanted ∈ held thread)) :
    Agree (Function.update holders mutex holder) (Function.update held thread now) := by
  intro other wanted
  by_cases sameMutex : wanted = mutex
  · subst sameMutex
    rw [Function.update_self]
    by_cases same : other = thread
    · subst same
      rw [Function.update_self]
      exact owns
    · rw [Function.update_of_ne same]
      exact iff_of_false (before other same) (after other same)
  · rw [Function.update_of_ne sameMutex]
    by_cases same : other = thread
    · subst same
      rw [Function.update_self, others wanted sameMutex]
      exact agree other wanted
    · rw [Function.update_of_ne same]
      exact agree other wanted

/-- A thread that takes a free mutex knows that it holds it. -/
theorem Agree.acquired {holders : Holders Mutex Thread} {held : Thread → Finset Mutex}
    (agree : Agree holders held) {mutex : Mutex} (free : holders mutex = none) (thread : Thread) :
    Agree (Function.update holders mutex (some thread))
      (Function.update held thread (insert mutex (held thread))) := by
  apply agree.updated
  · intro other _
    rw [agree, free]
    simp
  · intro other different same
    exact different (Option.some.inj same).symm
  · simp
  · intro wanted different
    simp [different]

/-- A thread that gives back a mutex it holds knows that it no longer does. -/
theorem Agree.released {holders : Holders Mutex Thread} {held : Thread → Finset Mutex}
    (agree : Agree holders held) {mutex : Mutex} {thread : Thread}
    (holds : mutex ∈ held thread) :
    Agree (Function.update holders mutex none)
      (Function.update held thread ((held thread).erase mutex)) := by
  apply agree.updated
  · intro other different
    rw [agree, (agree thread mutex).mp holds]
    simpa using Ne.symm different
  · simp
  · simp
  · intro wanted different
    simp [different]

theorem lockSystem_respects {programs : LockProg Mutex Unit → Prop}
    {Allows : Finset Mutex → Mutex → Prop}
    (keeps : ∀ program, programs program → Keeps Allows program ∅) :
    (lockSystem programs : System Thread _ _ _ _).Respects (discipline Allows)
      (fun _ held => held = ∅) Agree where
  offered := by
    rintro thread _ program _ rfl offered
    exact (keeps program offered).wlp
  step := by
    intro thread holders held op reply after agree admitted locks
    cases op with
    | acquire mutex =>
        obtain ⟨free, rfl⟩ := locks
        exact ⟨_, rfl, agree.acquired free thread⟩
    | release mutex =>
        obtain rfl := locks
        exact ⟨_, rfl, agree.released admitted⟩
    | look =>
        obtain rfl := locks
        refine ⟨_, rfl, ?_⟩
        rw [Function.update_eq_self]
        exact agree
  environment := fun _ _ _ _ impossible => impossible.elim

/-- In every reachable pool a thread that wants a mutex does not hold it, and holds what
the discipline allows there. -/
theorem allows_of_wants {programs : LockProg Mutex Unit → Prop}
    {Allows : Finset Mutex → Mutex → Prop}
    (keeps : ∀ program, programs program → Keeps Allows program ∅) {pool : LockPool Mutex Thread}
    (reachable : (lockSystem programs).Reachable idlePool pool) :
    ∃ held : Thread → Finset Mutex, Agree pool.world held ∧
      ∀ thread mutex, Wants pool thread mutex →
        mutex ∉ held thread ∧ Allows (held thread) mutex := by
  obtain ⟨held, agree, meets⟩ := reachable.safe (lockSystem_respects keeps)
    (idlePool_safe Allows)
  refine ⟨held, agree, ?_⟩
  rintro thread mutex ⟨next, running⟩
  have owed := meets thread
  rw [running] at owed
  exact owed.1

/-! ## Crossing -/

/-- A thread holds a mutex and will take another before it gives it back. -/
def Between (pool : LockPool Mutex Thread) (thread : Thread) (held wanted : Mutex) : Prop :=
  pool.world held = some thread ∧
    ∃ program, pool.activity thread = .running program ∧ TakesBefore held wanted program

/-- A thread is between two mutexes, and another between them the other way round. -/
def Crossed (pool : LockPool Mutex Thread) (one other : Mutex) : Prop :=
  ∃ first second, first ≠ second ∧ Between pool first one other ∧ Between pool second other one

/-- What a thread is between, it stays between as long as another holds what it wants. -/
theorem Between.moves {programs : LockProg Mutex Unit → Prop}
    {Allows : Finset Mutex → Mutex → Prop}
    (keeps : ∀ program, programs program → Keeps Allows program ∅)
    {pool next : LockPool Mutex Thread} (reachable : (lockSystem programs).Reachable idlePool pool)
    (moves : (lockSystem programs).Moves pool next) {thread other : Thread} {held wanted : Mutex}
    (between : Between pool thread held wanted) (taken : pool.world wanted = some other) :
    Between next thread held wanted := by
  obtain ⟨known, agree, meets⟩ := reachable.safe (lockSystem_respects keeps)
    (idlePool_safe Allows)
  obtain ⟨holds, program, running, takes⟩ := between
  cases moves with
  | @begin id _ program' atRest offered =>
      have different : thread ≠ id := by
        rintro rfl
        rw [running] at atRest
        cases atRest
      exact ⟨holds, program, (Function.update_of_ne different ..).trans running, takes⟩
  | @call id op continues reply after calling locks =>
      by_cases same : thread = id
      · subst same
        rw [running] at calling
        cases calling
        obtain ⟨kept, later⟩ := takes.call locks taken
        exact ⟨locks.keeps_holder holds kept, continues reply, Function.update_self .., later⟩
      · -- Another thread gives back only what it holds itself.
        have kept : op ≠ .release held := by
          rintro rfl
          have owed := meets id
          rw [calling] at owed
          have heldById := (agree id held).mp owed.1
          rw [holds] at heldById
          exact same (Option.some.inj heldById)
        exact ⟨locks.keeps_holder holds kept, program,
          (Function.update_of_ne same ..).trans running, takes⟩
  | @finish id state returned =>
      have different : thread ≠ id := by
        rintro rfl
        rw [running] at returned
        cases returned
        exact takes
      exact ⟨holds, program, (Function.update_of_ne different ..).trans running, takes⟩
  | environment moved => exact moved.elim

/-- Threads that have crossed can never get out of it. -/
theorem Crossed.moves {programs : LockProg Mutex Unit → Prop}
    {Allows : Finset Mutex → Mutex → Prop}
    (keeps : ∀ program, programs program → Keeps Allows program ∅)
    {pool next : LockPool Mutex Thread} (reachable : (lockSystem programs).Reachable idlePool pool)
    (moves : (lockSystem programs).Moves pool next) {one other : Mutex}
    (crossed : Crossed pool one other) : Crossed next one other := by
  obtain ⟨first, second, different, between, between'⟩ := crossed
  exact ⟨first, second, different, between.moves keeps reachable moves between'.1,
    between'.moves keeps reachable moves between.1⟩

end Discipline

end TriAI.Library.Mutexes
