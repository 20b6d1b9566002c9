import TriAI.Supervisor.Worker

/-!
Contract: supervisors of several processes on one host, on which at most one worker lives.

Owns: `Host`, what they share, how it answers their calls, and the system of any number of
supervisors that interleave their calls; `SlotView`, what a supervisor knows of the host; the
contract its operations keep (a worker is spawned only under the file lock, and the lock is
given up only when no worker can be alive); and the theorem about every interleaving.

Does not own: the fields of a supervisor that play no part in it
(`Supervisor.Representation`).

The host is as the operating system documents it: `flock` is exclusive and ends
with the closing of the file, and a child that was killed is gone when the wait for
it returns. Supervisor processes are not killed.
-/

set_option autoImplicit false

namespace TriAI.Supervisor

open TriAI.Library.Interaction

/-! ## The host -/

/-- The slots of the processes, the supervisor and file that hold the lock, and the
children by the supervisor that spawned them. -/
structure Host (Party Process : Type) where
  slots : Process → AtomicSlot
  locked : Option (Party × LockFile)
  live : Set (Party × Child)
  killed : Set (Party × Child)

section Answers

variable {Party Process : Type} [DecidableEq Party] [DecidableEq Process]

/-- How the host answers the calls of one supervisor. -/
def Host.Answers (processOf : Party → Process) (party : Party) (host : Host Party Process) :
    (op : SysOp) → op.Reply → Host Party Process → Prop
  | .acquireSlot owner, reply, after =>
      let acquired := (host.slots (processOf party)).acquire owner
      reply = acquired.1 ∧
        after = { host with slots := Function.update host.slots (processOf party) acquired.2 }
  | .releaseSlot lease, _, after =>
      let released := (host.slots (processOf party)).release lease
      after = { host with slots := Function.update host.slots (processOf party) released }
  | .flock file, true, after =>
      (host.locked = none ∨ host.locked = some (party, file)) ∧
        after = { host with locked := some (party, file) }
  | .closeFile file, _, after =>
      after = { host with
        locked := if host.locked = some (party, file) then none else host.locked }
  | .spawn _, .ok (child, _), after =>
      after = { host with
        live := insert (party, child) host.live
        killed := host.killed \ {(party, child)} }
  | .tryWait child, reply, after =>
      after = host ∧ ∀ status, reply = .ok (some status) → (party, child) ∉ host.live
  | .kill child, _, after => after = { host with killed := insert (party, child) host.killed }
  | .wait child, reply, after =>
      -- it returns once the child is gone, unless it fails for a child nobody killed
      after = host ∧ ((party, child) ∈ host.killed ∨ (∃ status, reply = .ok status) →
        (party, child) ∉ host.live)
  | _, _, after => after = host

/-- A child may end at any time. -/
def Host.ChildEnds (host after : Host Party Process) : Prop :=
  ∃ remaining ⊆ host.live, after = { host with live := remaining }

/-- What a supervisor may do next: any operation, or be dropped. -/
inductive SupervisorProgram : Option WorkerSupervisor → Sys (Option WorkerSupervisor) → Prop
  | operate (self : WorkerSupervisor) (request : Request) (iterations : Nat) :
      SupervisorProgram (some self) (some <$> request.perform self iterations)
  | drop (self : WorkerSupervisor) :
      SupervisorProgram (some self) (self.stop >>= fun _ => .ret none)

/-- Any number of supervisors in any number of processes. -/
def supervisorSystem (processOf : Party → Process) :
    System Party SysOp SysOp.Reply (Option WorkerSupervisor) (Host Party Process) where
  Offers := fun _ state program => SupervisorProgram state program
  Step := Host.Answers processOf
  Environment := Host.ChildEnds

end Answers

/-- Before any supervisor has done anything. -/
def freshHost (Party Process : Type) :
    Pool Party SysOp SysOp.Reply (Option WorkerSupervisor) (Host Party Process) where
  world := { slots := fun _ => {}, locked := none, live := ∅, killed := ∅ }
  activity := fun _ => .resting (some {})

/-! ## Views -/

/-- The file on which a supervisor holds the lock, the child of it that may be alive,
and whether that child was killed. -/
structure SlotView where
  locked : Option LockFile := none
  running : Option Child := none
  killed : Bool := false

namespace SlotView

/-- The child that may be alive is gone. -/
def reap (view : SlotView) : SlotView := { view with running := none }

@[simp] theorem reap_locked (view : SlotView) : view.reap.locked = view.locked := rfl

@[simp] theorem reap_running (view : SlotView) : view.reap.running = none := rfl

end SlotView

/-- The discipline of a supervisor and what it learns from the replies. -/
def slotContract : Contract SysOp SysOp.Reply SlotView where
  Admits := fun view op =>
    match op with
    | .closeFile file => view.locked = some file → view.running = none
    | .spawn _ => view.locked.isSome ∧ view.running = none
    | _ => True
  Answers := fun view op reply after =>
    match op, reply with
    | .flock file, true =>
        (view.locked = none ∨ view.locked = some file) ∧ after = { view with locked := some file }
    | .closeFile file, _ =>
        after = { view with locked := if view.locked = some file then none else view.locked }
    | .spawn _, .ok (child, _) => after = { view with running := some child, killed := false }
    | .tryWait child, .ok (some _) =>
        after = if view.running = some child then view.reap else view
    | .kill child, _ => after = { view with killed := view.killed ∨ view.running = some child }
    | .wait child, reply =>
        after = if view.running = some child ∧ (view.killed ∨ reply.isOk) then view.reap else view
    | _, _ => after = view

/-- The host as the views of all supervisors describe it. -/
structure Consistent {Party Process : Type} (host : Host Party Process)
    (views : Party → SlotView) : Prop where
  locked : ∀ party file, host.locked = some (party, file) ↔ (views party).locked = some file
  live : ∀ party child, (party, child) ∈ host.live → (views party).running = some child
  killed : ∀ party child, (views party).killed = true → (views party).running = some child →
    (party, child) ∈ host.killed
  guarded : ∀ party, (views party).running.isSome → (views party).locked.isSome

/-- Two supervisors cannot both have a live worker, nor one supervisor two. -/
theorem Consistent.oneLive {Party Process : Type} {host : Host Party Process}
    {views : Party → SlotView} (consistent : Consistent host views)
    {first second : Party × Child} (firstLive : first ∈ host.live)
    (secondLive : second ∈ host.live) : first = second := by
  obtain ⟨firstParty, firstChild⟩ := first
  obtain ⟨secondParty, secondChild⟩ := second
  have firstRuns := consistent.live firstParty firstChild firstLive
  have secondRuns := consistent.live secondParty secondChild secondLive
  have locker (party : Party) {child : Child} (runs : (views party).running = some child) :
      ∃ file, host.locked = some (party, file) := by
    obtain ⟨file, locks⟩ := Option.isSome_iff_exists.mp (consistent.guarded party (by simp [runs]))
    exact ⟨file, (consistent.locked party file).mpr locks⟩
  obtain ⟨firstFile, firstLocks⟩ := locker firstParty firstRuns
  obtain ⟨secondFile, secondLocks⟩ := locker secondParty secondRuns
  obtain ⟨sameParty, -⟩ := Prod.mk.inj (Option.some.inj (firstLocks.symm.trans secondLocks))
  subst sameParty
  have sameChild := Option.some.inj (firstRuns.symm.trans secondRuns)
  rw [sameChild]

/-! ## One call of one supervisor -/

section Calls

variable {Party Process : Type} [DecidableEq Party]
  {host after : Host Party Process} {views : Party → SlotView} {party : Party}

/-- What the host must show of one supervisor and keep of the others. -/
private theorem Consistent.update (consistent : Consistent host views) {view : SlotView}
    (lockedOwn : ∀ file, after.locked = some (party, file) ↔ view.locked = some file)
    (lockedOthers : ∀ other file, other ≠ party →
      (after.locked = some (other, file) ↔ host.locked = some (other, file)))
    (liveOwn : ∀ child, (party, child) ∈ after.live → view.running = some child)
    (liveOthers : ∀ other child, other ≠ party → (other, child) ∈ after.live →
      (other, child) ∈ host.live)
    (killedOwn : ∀ child, view.killed = true → view.running = some child →
      (party, child) ∈ after.killed)
    (killedOthers : ∀ other child, other ≠ party → (other, child) ∈ host.killed →
      (other, child) ∈ after.killed)
    (guardedOwn : view.running.isSome → view.locked.isSome) :
    Consistent after (Function.update views party view) := by
  refine ⟨?_, ?_, ?_, ?_⟩
  all_goals intro other
  all_goals by_cases same : other = party
  · subst same
    simpa using lockedOwn
  · rw [Function.update_of_ne same]
    exact fun file => (lockedOthers other file same).trans (consistent.locked other file)
  · subst same
    simpa using liveOwn
  · rw [Function.update_of_ne same]
    exact fun child lives => consistent.live other child (liveOthers other child same lives)
  · subst same
    simpa using killedOwn
  · rw [Function.update_of_ne same]
    exact fun child killed runs =>
      killedOthers other child same (consistent.killed other child killed runs)
  · subst same
    simpa using guardedOwn
  · rw [Function.update_of_ne same]
    exact consistent.guarded other

/-- A call that changes only the slots of the processes. -/
private theorem Consistent.unchanged (consistent : Consistent host views)
    (locked : after.locked = host.locked) (live : after.live = host.live)
    (killed : after.killed = host.killed) :
    Consistent after (Function.update views party (views party)) := by
  rw [Function.update_eq_self]
  refine ⟨?_, ?_, ?_, consistent.guarded⟩
  · rw [locked]
    exact consistent.locked
  · rw [live]
    exact consistent.live
  · rw [killed]
    exact consistent.killed

/-- The child is gone: nothing of this supervisor lives any more. -/
private theorem Consistent.reaped (consistent : Consistent host views) {child : Child}
    (gone : (party, child) ∉ host.live) :
    Consistent host (Function.update views party
      (if (views party).running = some child then (views party).reap else views party)) := by
  by_cases runs : (views party).running = some child
  · rw [if_pos runs]
    refine consistent.update (consistent.locked party) (fun _ _ _ => Iff.rfl) ?_
      (fun _ _ _ => id) (by simp) (fun _ _ _ => id) (by simp)
    intro other lives
    have same := Option.some.inj ((consistent.live party other lives).symm.trans runs)
    exact absurd (same ▸ lives) gone
  · rw [if_neg runs]
    exact consistent.unchanged rfl rfl rfl

private theorem Consistent.flocked (consistent : Consistent host views) {file : LockFile}
    (free : host.locked = none ∨ host.locked = some (party, file)) :
    Consistent { host with locked := some (party, file) }
      (Function.update views party { views party with locked := some file }) := by
  refine consistent.update (by simp) ?_ (consistent.live party) (fun _ _ _ => id)
    (consistent.killed party) (fun _ _ _ => id) (by simp)
  intro other otherFile different
  have notNew : some (party, file) ≠ some (other, otherFile) := by
    intro same
    exact different (Prod.mk.inj (Option.some.inj same)).1.symm
  refine iff_of_false notNew ?_
  rcases free with free | own
  · simp [free]
  · rw [own]
    exact notNew

private theorem Consistent.closed (consistent : Consistent host views) {file : LockFile}
    (discipline : (views party).locked = some file → (views party).running = none) :
    Consistent { host with
        locked := if host.locked = some (party, file) then none else host.locked }
      (Function.update views party { views party with
        locked := if (views party).locked = some file then none else (views party).locked }) := by
  by_cases own : host.locked = some (party, file)
  · have locks := (consistent.locked party file).mp own
    simp only [own, locks, if_true]
    refine consistent.update (by simp) ?_ (consistent.live party) (fun _ _ _ => id)
      (consistent.killed party) (fun _ _ _ => id) (by simp [discipline locks])
    intro other otherFile different
    refine iff_of_false (by simp) fun locked => ?_
    exact different (Prod.mk.inj (Option.some.inj (locked.symm.trans own))).1
  · have notLocks : (views party).locked ≠ some file :=
      fun locks => own ((consistent.locked party file).mpr locks)
    rw [if_neg own, if_neg notLocks]
    exact consistent.unchanged rfl rfl rfl

private theorem Consistent.spawned (consistent : Consistent host views) (child : Child)
    (locks : (views party).locked.isSome) (vacant : (views party).running = none) :
    Consistent { host with
        live := insert (party, child) host.live
        killed := host.killed \ {(party, child)} }
      (Function.update views party { views party with running := some child, killed := false }) := by
  refine consistent.update (consistent.locked party) (fun _ _ _ => Iff.rfl) ?_ ?_ (by simp) ?_
    fun _ => locks
  · rintro other (same | lives)
    · rw [(Prod.mk.inj same).2]
    · have runs := consistent.live party other lives
      rw [vacant] at runs
      cases runs
  · rintro other otherChild different (same | lives)
    · exact absurd (Prod.mk.inj same).1 different
    · exact lives
  · intro other otherChild different killed
    exact ⟨killed, fun same => different (Prod.mk.inj same).1⟩

/-- Step lemma: the host answers a disciplined call as the contract foresees. -/
theorem Consistent.call [DecidableEq Process] {processOf : Party → Process} {op : SysOp} {reply : op.Reply}
    (consistent : Consistent host views) (admitted : slotContract.Admits (views party) op)
    (answered : host.Answers processOf party op reply after) :
    ∃ view, slotContract.Answers (views party) op reply view ∧
      Consistent after (Function.update views party view) := by
  cases op with
  | acquireSlot owner =>
      obtain ⟨-, rfl⟩ := answered
      exact ⟨_, rfl, consistent.unchanged rfl rfl rfl⟩
  | flock file =>
      cases reply with
      | false =>
          cases answered
          exact ⟨_, rfl, consistent.unchanged rfl rfl rfl⟩
      | true =>
          obtain ⟨free, rfl⟩ := answered
          refine ⟨_, ⟨?_, rfl⟩, consistent.flocked free⟩
          rcases free with free | own
          · left
            cases locks : (views party).locked with
            | none => rfl
            | some other =>
                have locked := (consistent.locked party other).mpr locks
                rw [free] at locked
                cases locked
          · exact .inr ((consistent.locked party file).mp own)
  | closeFile file =>
      cases answered
      exact ⟨_, rfl, consistent.closed admitted⟩
  | spawn command =>
      rcases reply with error | ⟨child, piped⟩
      · cases answered
        exact ⟨_, rfl, consistent.unchanged rfl rfl rfl⟩
      · cases answered
        exact ⟨_, rfl, consistent.spawned child admitted.1 admitted.2⟩
  | tryWait child =>
      obtain ⟨rfl, exited⟩ := answered
      rcases reply with error | _ | status
      · exact ⟨_, rfl, consistent.unchanged rfl rfl rfl⟩
      · exact ⟨_, rfl, consistent.unchanged rfl rfl rfl⟩
      · exact ⟨_, rfl, consistent.reaped (exited status rfl)⟩
  | kill child =>
      cases answered
      refine ⟨_, rfl, consistent.update (consistent.locked party) (fun _ _ _ => Iff.rfl)
        (consistent.live party) (fun _ _ _ => id) ?_ (fun _ _ _ => .inr)
        (consistent.guarded party)⟩
      intro other killed runs
      simp only [decide_eq_true_eq, Bool.decide_or, Bool.or_eq_true] at killed
      rcases killed with before | now
      · exact .inr (consistent.killed party other (by simpa using before) runs)
      · exact .inl (by rw [Option.some.inj (now.symm.trans runs)])
  | wait child =>
      obtain ⟨rfl, ended⟩ := answered
      refine ⟨_, rfl, ?_⟩
      by_cases reaps : (views party).running = some child ∧
          ((views party).killed = true ∨ reply.isOk = true)
      · have gone : (party, child) ∉ after.live := by
          apply ended
          rcases reaps.2 with killed | succeeded
          · exact .inl (consistent.killed party child killed reaps.1)
          · cases reply with
            | ok status => exact .inr ⟨status, rfl⟩
            | error error => cases succeeded
        have reaped := consistent.reaped gone
        rw [if_pos reaps.1] at reaped
        rwa [if_pos reaps]
      · rw [if_neg reaps]
        exact consistent.unchanged rfl rfl rfl
  | _ =>
      cases answered
      exact ⟨_, rfl, consistent.unchanged rfl rfl rfl⟩

end Calls

/-! ## The discipline of the operations -/

/-- The supervisor holds the lock on `locked`, and at most `child` may be alive. -/
structure AtMost (locked : Option LockFile) (child : Child) (view : SlotView) : Prop where
  locked : view.locked = locked
  only : ∀ other, view.running = some other → other = child

/-- The supervisor holds the lock on `locked` and no child of it can be alive. -/
structure Idle (locked : Option LockFile) (view : SlotView) : Prop where
  locked : view.locked = locked
  reaped : view.running = none

theorem Idle.atMost {locked : Option LockFile} {view : SlotView} (idle : Idle locked view)
    (child : Child) : AtMost locked child view :=
  ⟨idle.locked, fun other runs => by rw [idle.reaped] at runs; cases runs⟩

/-- Once that child is gone, none is alive. -/
theorem AtMost.reap {locked : Option LockFile} {child : Child} {view : SlotView}
    (atMost : AtMost locked child view) :
    Idle locked (if view.running = some child then view.reap else view) := by
  by_cases runs : view.running = some child
  · rw [if_pos runs]
    exact ⟨atMost.locked, rfl⟩
  · rw [if_neg runs]
    refine ⟨atMost.locked, ?_⟩
    cases running : view.running with
    | none => rfl
    | some other => exact absurd (atMost.only other running ▸ running) runs

/-- The calls that neither need nor change the view. -/
def SysOp.Neutral : SysOp → Prop
  | .flock _ | .closeFile _ | .spawn _ | .tryWait _ | .kill _ | .wait _ => False
  | _ => True

section Discipline

variable {α β : Type} {locked : Option LockFile} {child : Child} {view : SlotView}

theorem wlp_neutral {op : SysOp} {rest : op.Reply → Sys β} {post : β → SlotView → Prop}
    (neutral : op.Neutral) (continues : ∀ reply, wlp slotContract (rest reply) post view) :
    wlp slotContract (Prog.perform op >>= rest) post view := by
  refine wlp_perform ?_ fun reply after answered => ?_
  · cases op <;> trivial
  · have unchanged : after = view := by
      cases op <;> first | exact answered | exact neutral.elim
    rw [unchanged]
    exact continues reply

theorem wlp_sleepBetween {duration remaining : Nat} {rest : Unit → Sys β}
    {post : β → SlotView → Prop} (continues : wlp slotContract (rest ()) post view) :
    wlp slotContract (Sys.sleepBetween duration remaining >>= rest) post view := by
  unfold Sys.sleepBetween
  split
  · exact wlp_neutral trivial fun _ => continues
  · exact continues

theorem wlp_dropLease {lease : Option SlotLease} {rest : Unit → Sys β}
    {post : β → SlotView → Prop} (continues : wlp slotContract (rest ()) post view) :
    wlp slotContract (dropLease lease >>= rest) post view := by
  cases lease with
  | none => exact continues
  | some lease => exact wlp_neutral trivial fun _ => continues

theorem wlp_finishTail {capture : Option StderrCapture} {rest : String → Sys β}
    {post : β → SlotView → Prop} (continues : ∀ tail, wlp slotContract (rest tail) post view) :
    wlp slotContract (finishTail capture >>= rest) post view := by
  cases capture with
  | none => exact continues ""
  | some capture => exact wlp_neutral trivial continues

/-- Polling learns at most that the child is gone. -/
theorem wlp_pollExit (attempts : Nat) (atMost : AtMost locked child view) :
    wlp slotContract (pollExit child attempts)
      (fun exited after => AtMost locked child after ∧ (exited = true → after.running = none))
      view := by
  induction attempts with
  | zero => exact ⟨atMost, fun exited => by cases exited⟩
  | succ attempts inductionHypothesis =>
      unfold pollExit
      refine wlp_perform trivial fun reply after answered => ?_
      rcases reply with error | _ | status
      · cases answered
        exact ⟨atMost, fun exited => by cases exited⟩
      · cases answered
        exact wlp_sleepBetween inductionHypothesis
      · cases answered
        exact ⟨atMost.reap.atMost child, fun _ => atMost.reap.reaped⟩

theorem wlp_gracefulExit (sent : Bool) (atMost : AtMost locked child view) :
    wlp slotContract (gracefulExit sent child)
      (fun exited after => AtMost locked child after ∧ (exited = true → after.running = none))
      view := by
  cases sent with
  | true => exact wlp_pollExit _ atMost
  | false => exact ⟨atMost, fun exited => by cases exited⟩

/-- A child that was not seen to exit is killed. -/
theorem wlp_killUnless {exited : Bool} (atMost : AtMost locked child view)
    (seen : exited = true → view.running = none) {rest : Unit → Sys β}
    {post : β → SlotView → Prop}
    (continues : ∀ after, AtMost locked child after →
      (after.running = some child → after.killed = true) → wlp slotContract (rest ()) post after) :
    wlp slotContract (killUnless exited child >>= rest) post view := by
  cases exited with
  | true => exact continues view atMost fun runs => by rw [seen rfl] at runs; cases runs
  | false =>
      refine wlp_perform trivial ?_
      rintro ⟨⟩ after rfl
      refine continues _ ⟨atMost.locked, atMost.only⟩ fun runs => ?_
      exact decide_eq_true (.inr runs)

/-- Whatever the replies, a terminated child is gone. -/
theorem wlp_terminateChild (atMost : AtMost locked child view) {rest : Unit → Sys β}
    {post : β → SlotView → Prop}
    (continues : ∀ after, Idle locked after → wlp slotContract (rest ()) post after) :
    wlp slotContract (terminateChild child >>= rest) post view := by
  have ending : wlp slotContract (terminateChild child) (fun _ after => Idle locked after) view := by
    unfold terminateChild
    refine wlp_neutral trivial fun sent => ?_
    refine wlp_seq (wlp_gracefulExit sent atMost) ?_
    rintro exited polled ⟨polledAtMost, seen⟩
    refine wlp_killUnless polledAtMost seen fun ended endedAtMost killed => ?_
    refine wlp_perform trivial ?_
    rintro reply after rfl
    have reaped := endedAtMost.reap
    by_cases runs : ended.running = some child
    · rw [if_pos runs] at reaped
      rwa [if_pos ⟨runs, .inl (killed runs)⟩]
    · rw [if_neg runs] at reaped
      rwa [if_neg fun both => runs both.1]
  exact wlp_seq ending fun _ => continues

/-- What is true of a supervisor between its operations. -/
structure Held (supervisor : WorkerSupervisor) (view : SlotView) : Prop where
  locked : view.locked = supervisor.slotLock
  childless : supervisor.child = none → supervisor.slotLock = none
  running : ∀ child, view.running = some child → supervisor.child = some child

theorem Held.vacant {self : WorkerSupervisor} (held : Held self view) (childless : self.child = none) :
    Idle none view := by
  refine ⟨held.locked.trans (held.childless childless), ?_⟩
  cases running : view.running with
  | none => rfl
  | some other => cases (held.running other running).symm.trans childless

theorem Held.atMost {self : WorkerSupervisor} (held : Held self view) (holds : self.child = some child) :
    AtMost self.slotLock child view :=
  ⟨held.locked, fun other runs =>
    Option.some.inj ((held.running other runs).symm.trans holds)⟩

/-- A supervisor that gave up its locks. -/
theorem Idle.held {self : WorkerSupervisor} (idle : Idle none view) (noLock : self.slotLock = none) :
    Held self view :=
  ⟨idle.locked.trans noLock.symm, fun _ => noLock, fun other runs => by
    rw [idle.reaped] at runs; cases runs⟩

/-- Fields that the discipline does not read may change. -/
theorem Held.congr {self other : WorkerSupervisor} (held : Held self view)
    (sameChild : other.child = self.child) (sameLock : other.slotLock = self.slotLock) :
    Held other view := by
  refine ⟨held.locked.trans sameLock.symm, ?_, ?_⟩
  · rw [sameChild, sameLock]
    exact held.childless
  · rw [sameChild]
    exact held.running

/-- What a supervisor knows after the status of its child. -/
theorem Held.polled {self : WorkerSupervisor} (held : Held self view) (holds : self.child = some child)
    {reply : Except SysError (Option ExitStatus)} {after : SlotView}
    (answered : slotContract.Answers view (.tryWait child) reply after) :
    Held self after ∧ ∀ status, reply = .ok (some status) → after.running = none := by
  rcases reply with error | _ | status
  · cases answered
    exact ⟨held, fun _ impossible => by cases impossible⟩
  · cases answered
    exact ⟨held, fun _ impossible => by cases impossible⟩
  · cases answered
    have reaped := (held.atMost holds).reap
    exact ⟨⟨reaped.locked, held.childless, fun other runs => by
      rw [reaped.reaped] at runs; cases runs⟩, fun _ _ => reaped.reaped⟩

theorem wlp_dropFile (idle : Idle locked view) {rest : Unit → Sys β} {post : β → SlotView → Prop}
    (continues : ∀ after, Idle none after → wlp slotContract (rest ()) post after) :
    wlp slotContract (dropFile locked >>= rest) post view := by
  cases locked with
  | none => exact continues view idle
  | some file =>
      refine wlp_perform (fun _ => idle.reaped) ?_
      rintro ⟨⟩ after rfl
      exact continues _ ⟨by simp [idle.locked], idle.reaped⟩

theorem wlp_endChild {self : WorkerSupervisor} (held : Held self view) {terminate : Bool}
    (ended : terminate = false → view.running = none) {rest : Unit → Sys β}
    {post : β → SlotView → Prop}
    (continues : ∀ after, Idle self.slotLock after → wlp slotContract (rest ()) post after) :
    wlp slotContract (endChild terminate self.child >>= rest) post view := by
  cases holds : self.child with
  | none => exact continues view ⟨held.locked, (held.vacant holds).reaped⟩
  | some child =>
      cases terminate with
      | true => exact wlp_terminateChild (held.atMost holds) continues
      | false =>
          refine wlp_perform trivial ?_
          rintro reply after rfl
          refine continues _ ?_
          rw [if_neg fun both => by rw [ended rfl] at both; cases both.1]
          exact ⟨held.locked, ended rfl⟩

namespace WorkerSupervisor

theorem wlp_releaseLocks {self : WorkerSupervisor} (idle : Idle self.slotLock view)
    {rest : WorkerSupervisor → Sys β} {post : β → SlotView → Prop}
    (continues : ∀ after, Idle none after →
      wlp slotContract (rest { self with slotLock := none, processSlot := none }) post after) :
    wlp slotContract (self.releaseLocks >>= rest) post view := by
  unfold releaseLocks
  rw [bind_assoc]
  refine wlp_dropFile idle fun after released => ?_
  rw [bind_assoc]
  exact wlp_dropLease (continues after released)

theorem wlp_cleanupFailedWorker {self : WorkerSupervisor} (held : Held self view)
    {terminate : Bool} (ended : terminate = false → view.running = none)
    {rest : String × WorkerSupervisor → Sys β} {post : β → SlotView → Prop}
    (continues : ∀ result after, Held result.2 after → wlp slotContract (rest result) post after) :
    wlp slotContract (self.cleanupFailedWorker terminate >>= rest) post view := by
  unfold cleanupFailedWorker
  rw [bind_assoc]
  refine wlp_endChild held ended fun after idle => ?_
  rw [bind_assoc]
  refine wlp_finishTail fun tail => ?_
  rw [bind_assoc]
  exact wlp_releaseLocks idle fun after released => continues _ after (released.held rfl)

theorem wlp_stop {self : WorkerSupervisor} (held : Held self view) :
    wlp slotContract self.stop (fun result after => Held result.2 after) view := by
  unfold stop
  refine wlp_endChild held (fun impossible => by cases impossible) fun after idle => ?_
  refine wlp_finishTail fun tail => ?_
  exact wlp_releaseLocks idle fun after released => released.held rfl

theorem wlp_flockRetry {lock : LockFile} (attempts : Nat) (idle : Idle none view) :
    wlp slotContract (flockRetry lock attempts)
      (fun success after => Idle (if success then some lock else none) after) view := by
  induction attempts with
  | zero => exact idle
  | succ attempts inductionHypothesis =>
      unfold flockRetry
      refine wlp_perform trivial fun success after answered => ?_
      cases success with
      | true =>
          obtain ⟨-, rfl⟩ := answered
          exact ⟨rfl, idle.reaped⟩
      | false =>
          cases answered
          exact wlp_sleepBetween inductionHypothesis

theorem wlp_startLocked {self : WorkerSupervisor} {cfg : WorkerConfig}
    (idle : Idle self.slotLock view) (locks : self.slotLock.isSome) :
    wlp slotContract (self.startLocked cfg) (fun result after => Held result.2 after) view := by
  unfold startLocked
  refine wlp_perform ⟨by rw [idle.locked]; exact locks, idle.reaped⟩ fun reply after answered => ?_
  rcases reply with error | ⟨child, _ | _⟩
  · cases answered
    exact wlp_releaseLocks idle fun after released => released.held rfl
  · cases answered
    have spawned : AtMost self.slotLock child { view with running := some child, killed := false } :=
      ⟨idle.locked, fun other runs => (Option.some.inj runs).symm⟩
    refine wlp_terminateChild spawned fun after ended => ?_
    exact wlp_releaseLocks ended fun after released => released.held rfl
  · cases answered
    refine wlp_neutral trivial fun capture => ?_
    exact ⟨idle.locked, fun impossible => (by cases impossible), fun other runs => runs⟩

theorem wlp_start {self : WorkerSupervisor} (held : Held self view) (cfg : WorkerConfig) :
    wlp slotContract (self.start cfg) (fun result after => Held result.2 after) view := by
  unfold start
  split
  · exact held
  · rename_i free
    have childless : self.child = none := by
      rw [not_or] at free
      simpa using free.1
    have idle := held.vacant childless
    have noLock := held.childless childless
    refine wlp_neutral trivial fun acquired => ?_
    cases acquired with
    | error error => exact held.congr rfl rfl
    | ok lease =>
        refine wlp_dropLease ?_
        unfold startLeased
        refine wlp_neutral trivial fun opened => ?_
        cases opened with
        | error error => exact held.congr rfl rfl
        | ok lock =>
            refine wlp_seq (wlp_flockRetry 20 idle) fun success after locked => ?_
            cases success with
            | true =>
                -- nothing is dropped here: a vacant supervisor holds no lock file
                change wlp slotContract (dropFile self.slotLock >>= fun _ =>
                  startLocked { self with
                    processSlot := some lease, slotLock := some lock, state := .starting } cfg) _ _
                rw [noLock]
                exact wlp_startLocked locked rfl
            | false =>
                refine wlp_dropLease (wlp_perform (fun _ => locked.reaped) ?_)
                rintro ⟨⟩ closed rfl
                refine Idle.held ⟨?_, locked.reaped⟩ noLock
                have unlocked : after.locked = none := locked.locked
                simp [unlocked]

theorem wlp_giveUp {self : WorkerSupervisor} (held : Held self view) {terminate : Bool}
    (ended : terminate = false → view.running = none) (failure : String → WorkerFailure) :
    wlp slotContract (self.giveUp terminate failure) (fun result after => Held result.2 after)
      view := by
  unfold giveUp
  exact wlp_cleanupFailedWorker held ended fun result after kept => kept.congr rfl rfl

theorem wlp_workerHealthReady {host : String} {port : UInt16} {rest : Option Bool → Sys β}
    {post : β → SlotView → Prop} (continues : ∀ healthy, wlp slotContract (rest healthy) post view) :
    wlp slotContract (workerHealthReady host port >>= rest) post view :=
  wlp_neutral trivial fun _ => continues _

/-- Run lemma: every round of the waiting loop keeps the discipline. -/
theorem wlp_waitReady {self : WorkerSupervisor} (held : Held self view) (cfg : WorkerConfig)
    (timeout deadline iterations : Nat) :
    wlp slotContract (self.waitReady cfg timeout deadline iterations)
      (fun result after => Held result.2 after) view := by
  induction iterations generalizing view with
  | zero => exact ⟨trivial, fun reply => reply.elim⟩
  | succ iterations inductionHypothesis =>
      unfold waitReady
      split
      · rename_i childless
        exact wlp_giveUp held (fun _ => (held.vacant childless).reaped) _
      · rename_i child holds
        refine wlp_perform trivial fun reply after answered => ?_
        obtain ⟨kept, ended⟩ := held.polled holds answered
        rcases reply with error | _ | status
        · exact wlp_giveUp kept (fun impossible => by cases impossible) _
        · refine wlp_neutral trivial fun connected => ?_
          cases connected with
          | true =>
              refine wlp_workerHealthReady fun healthy => ?_
              split
              · exact wlp_neutral trivial fun _ => inductionHypothesis kept
              · exact kept.congr rfl rfl
          | false =>
              refine wlp_neutral trivial fun time => ?_
              split
              · exact wlp_giveUp kept (fun impossible => by cases impossible) _
              · exact wlp_neutral trivial fun _ => inductionHypothesis kept
        · exact wlp_giveUp kept (fun _ => ended status rfl) _

theorem wlp_startAndWait {self : WorkerSupervisor} (held : Held self view) (cfg : WorkerConfig)
    (timeout iterations : Nat) :
    wlp slotContract (self.startAndWait cfg timeout iterations)
      (fun result after => Held result.2 after) view := by
  unfold startAndWait
  refine wlp_neutral trivial fun connected => ?_
  cases connected with
  | true => exact held.congr rfl rfl
  | false =>
      refine wlp_seq (wlp_start held cfg) ?_
      rintro ⟨error | ⟨⟩, started⟩ after kept
      · exact kept
      · exact wlp_neutral trivial fun time => wlp_waitReady kept cfg timeout _ iterations

theorem wlp_startAndWaitWithRetry {self : WorkerSupervisor} (held : Held self view)
    (cfg : WorkerConfig) (timeout iterations : Nat) :
    wlp slotContract (self.startAndWaitWithRetry cfg timeout iterations)
      (fun result after => Held result.2 after) view := by
  unfold startAndWaitWithRetry
  refine wlp_seq (wlp_startAndWait held cfg timeout iterations) ?_
  rintro ⟨first | ⟨⟩, stopped⟩ after kept
  · dsimp only
    split
    · refine wlp_neutral trivial fun connected => ?_
      cases connected with
      | true => exact kept
      | false =>
          have restarted : Held { stopped with state := .stopped, lastFailure := none } after :=
            kept.congr rfl rfl
          exact wlp_startAndWait restarted cfg timeout iterations
    · exact kept
  · exact kept

theorem wlp_refresh {self : WorkerSupervisor} (held : Held self view) (host : String)
    (port : UInt16) :
    wlp slotContract (self.refresh host port) (fun result after => Held result.2 after) view := by
  unfold refresh
  split
  · exact held.congr rfl rfl
  · rename_i child holds
    refine wlp_perform trivial fun reply after answered => ?_
    obtain ⟨kept, ended⟩ := held.polled holds answered
    rcases reply with error | _ | status
    · exact kept.congr rfl rfl
    · refine wlp_neutral trivial fun connected => ?_
      cases connected with
      | true => exact kept.congr rfl rfl
      | false => exact kept
    · exact wlp_cleanupFailedWorker kept (fun _ => ended status rfl) fun result after cleaned =>
        cleaned.congr rfl rfl

/-- Every operation keeps the discipline. -/
theorem wlp_perform_request {self : WorkerSupervisor} (held : Held self view) (request : Request)
    (iterations : Nat) :
    wlp slotContract (request.perform self iterations) (fun after => Held after) view := by
  cases request with
  | start cfg => exact wlp_seq (wlp_start held cfg) fun _ _ kept => kept
  | startAndWait cfg timeout =>
      exact wlp_seq (wlp_startAndWait held cfg timeout iterations) fun _ _ kept => kept
  | startAndWaitWithRetry cfg timeout =>
      exact wlp_seq (wlp_startAndWaitWithRetry held cfg timeout iterations) fun _ _ kept => kept
  | refresh host port => exact wlp_seq (wlp_refresh held host port) fun _ _ kept => kept
  | stop => exact wlp_seq (wlp_stop held) fun _ _ kept => kept

end WorkerSupervisor

end Discipline

/-! ## All interleavings -/

/-- What is true of a supervisor between its operations, until it is dropped. -/
def AtRest : Option WorkerSupervisor → SlotView → Prop
  | some self, view => Held self view
  | none, _ => True

section Interleaving

variable {Party Process : Type} [DecidableEq Party] [DecidableEq Process]

theorem supervisorSystem_respects (processOf : Party → Process) :
    (supervisorSystem processOf).Respects slotContract AtRest Consistent where
  offered := by
    intro party state program view atRest offered
    cases offered with
    | operate self request iterations =>
        exact wlp_seq (WorkerSupervisor.wlp_perform_request atRest request iterations)
          fun _ _ kept => kept
    | drop self => exact wlp_seq (WorkerSupervisor.wlp_stop atRest) fun _ _ _ => trivial
  step := fun _ _ _ _ _ _ consistent admitted answered => consistent.call admitted answered
  environment := by
    rintro host views _ consistent ⟨remaining, fewer, rfl⟩
    exact ⟨consistent.locked, fun party child lives => consistent.live party child (fewer lives),
      consistent.killed, consistent.guarded⟩

end Interleaving

end TriAI.Supervisor
