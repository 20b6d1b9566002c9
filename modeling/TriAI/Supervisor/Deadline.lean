import TriAI.Library.Fallible
import TriAI.Library.History
import TriAI.Library.Runs
import TriAI.Supervisor.Readiness

/-!
Contract: the deadline of a waiting start.

Owns: the rounds of the loop of `start_and_wait`, the runs of a call against a clock that
may advance before every reply, and exactly when a call ends with the first round that
begins at or after its deadline.

Does not own: the probes' replies and the child's states, which are arbitrary.

A round that finds the port open and the worker unhealthy goes round again without a look at
the clock.
-/

set_option autoImplicit false

namespace TriAI.Supervisor

open TriAI.Library.Interaction
open TriAI.Library.Runs

/-- The calls of a supervisor with their replies. -/
abbrev SysTrace : Type := List (Event SysOp SysOp.Reply)

/-- The result of a waiting start and the supervisor it leaves. -/
abbrev StartResult : Type := Except WorkerFailure Unit × WorkerSupervisor

/-- The clock may advance before a call is answered; a reading is what it shows then. -/
def Clock (before : Nat) : (op : SysOp) → op.Reply → Nat → Prop
  | .now, reading, after => before ≤ after ∧ reading = after
  | _, _, after => before ≤ after

theorem Clock.le {before after : Nat} {op : SysOp} {reply : op.Reply}
    (ticks : Clock before op reply after) : before ≤ after := by
  cases op with
  | now => exact ticks.1
  | _ => exact ticks

namespace WorkerSupervisor

/-! ## The loop in rounds -/

/-- `start_and_wait` before its loop: the started worker and its deadline. -/
def launch (self : WorkerSupervisor) (cfg : WorkerConfig) (timeout : Nat) :
    Sys (Except StartResult (WorkerSupervisor × Nat)) := do
  if ← Sys.tcpReady cfg.host cfg.port then
    let failure : WorkerFailure :=
      ⟨.portConflict, "Worker-Port " ++ toString cfg.port.toNat ++ " ist bereits belegt", ""⟩
    pure (.error (.error failure, self.failed failure))
  else
    match ← self.start cfg with
    | (.error error, stopped) =>
        pure (.error (.error (stopped.lastFailure.getD
          ⟨if error.kind = .wouldBlock then .slotBusy else .spawnFailed, error.message, ""⟩),
          stopped))
    | (.ok (), started) => pure (.ok (started, (← Sys.now) + timeout))

/-- One round of the loop: its result, or none where it goes round again. -/
def waitRound (self : WorkerSupervisor) (cfg : WorkerConfig) (timeout deadline : Nat) :
    Sys (Option StartResult) :=
  match self.child with
  | none =>
      some <$> self.giveUp false fun stderrTail =>
        ⟨.workerCrashed, "Worker-Handle ging vor Readiness verloren", stderrTail⟩
  | some child => do
      match ← Sys.tryWait child with
      | .error error =>
          some <$> self.giveUp true fun stderrTail =>
            ⟨.workerCrashed, "Worker-Status nicht lesbar: " ++ error.message, stderrTail⟩
      | .ok (some status) => some <$> self.giveUp false (classifyExit status)
      | .ok none =>
          if ← Sys.tcpReady cfg.host cfg.port then
            if (← workerHealthReady cfg.host cfg.port) = some false then
              Sys.sleep 20000000
              pure none
            else pure (some (.ok (), self.setState .ready))
          else
            let time ← Sys.now
            if deadline ≤ time then
              some <$> self.giveUp true fun stderrTail =>
                ⟨.workerTimeout, "Worker wurde innerhalb von " ++
                  toString (timeout / 1000000) ++ " ms nicht bereit", stderrTail⟩
            else
              Sys.sleep 20000000
              pure none

/-- What is left of the loop after a round. -/
def afterRound (self : WorkerSupervisor) (cfg : WorkerConfig) (timeout deadline : Nat)
    (iterations : Nat) : Option StartResult → Sys StartResult
  | some result => pure result
  | none => self.waitReady cfg timeout deadline iterations

/-- What is left of `start_and_wait` after its first part. -/
def afterLaunch (cfg : WorkerConfig) (timeout iterations : Nat) :
    Except StartResult (WorkerSupervisor × Nat) → Sys StartResult
  | .error refused => pure refused
  | .ok (started, deadline) => started.waitReady cfg timeout deadline iterations

variable (self : WorkerSupervisor) (cfg : WorkerConfig) (timeout deadline iterations : Nat)

/-- After a round with a result nothing is left. -/
private theorem map_some_afterRound (program : Sys StartResult) :
    (some <$> program >>= self.afterRound cfg timeout deadline iterations) = program := by
  rw [bind_map_left]
  exact bind_pure program

/-- Step lemma: the loop is its first round and what is left of it. -/
theorem waitReady_succ :
    self.waitReady cfg timeout deadline (iterations + 1) =
      self.waitRound cfg timeout deadline >>=
        self.afterRound cfg timeout deadline iterations := by
  unfold waitReady waitRound
  cases self.child with
  | none => exact (map_some_afterRound self cfg timeout deadline iterations _).symm
  | some child =>
      refine congrArg (Prog.call _) (funext fun status => ?_)
      rcases status with error | _ | status
      · exact (map_some_afterRound self cfg timeout deadline iterations _).symm
      · refine congrArg (Prog.call _) (funext fun connected => ?_)
        cases connected with
        | true =>
            refine congrArg (Prog.call _) (funext fun response => ?_)
            show (if response.bind healthStatusReady = some false then _ else _) =
              (if response.bind healthStatusReady = some false then _ else _) >>= _
            split
            · rfl
            · rfl
        | false =>
            refine congrArg (Prog.call _) (funext fun time => ?_)
            show (if deadline ≤ time then _ else _) = (if deadline ≤ time then _ else _) >>= _
            split
            · exact (map_some_afterRound self cfg timeout deadline iterations _).symm
            · rfl
      · exact (map_some_afterRound self cfg timeout deadline iterations _).symm

theorem startAndWait_eq :
    self.startAndWait cfg timeout iterations =
      self.launch cfg timeout >>= afterLaunch cfg timeout iterations := by
  unfold startAndWait launch
  refine congrArg (Prog.call _) (funext fun connected => ?_)
  cases connected with
  | true => rfl
  | false =>
      refine (congrArg (self.start cfg >>= ·) (funext fun started => ?_)).trans
        (bind_assoc (self.start cfg) _ _).symm
      rcases started with ⟨error | ⟨⟩, started⟩
      · rfl
      · rfl

/-! ## Cleaning up -/

variable {self cfg timeout deadline} {events : SysTrace}

/-- The worker was reaped and both locks were released. -/
structure CleanedUp (supervisor : WorkerSupervisor) (events : SysTrace) : Prop where
  reaped : ∀ child, supervisor.child = some child → ∃ reply, ⟨.wait child, reply⟩ ∈ events
  closed : ∀ file, supervisor.slotLock = some file → ⟨.closeFile file, ()⟩ ∈ events
  released : ∀ lease, supervisor.processSlot = some lease → ⟨.releaseSlot lease, ()⟩ ∈ events

/-- How a round ends a call: the worker is ready, or it is given up. -/
inductive Ends (supervisor : WorkerSupervisor) (events : SysTrace) : StartResult → Prop
  | ready : Ends supervisor events (.ok (), supervisor.setState .ready)
  | gaveUp (failure : WorkerFailure) (cleanedUp : supervisor.CleanedUp events) :
      Ends supervisor events (.error failure, abandoned failure)

theorem CleanedUp.later (earlier : SysTrace) (cleanedUp : self.CleanedUp events) :
    self.CleanedUp (earlier ++ events) where
  reaped := fun child held => by
    obtain ⟨reply, waited⟩ := cleanedUp.reaped child held
    exact ⟨reply, List.mem_append_right _ waited⟩
  closed := fun file held => List.mem_append_right _ (cleanedUp.closed file held)
  released := fun lease held => List.mem_append_right _ (cleanedUp.released lease held)

/-- However it is ended, a child is waited for. -/
theorem endChild_waits {terminate : Bool} {child : Child}
    (returns : Prog.Returns (endChild terminate (some child)) events ()) :
    ∃ reply, ⟨.wait child, reply⟩ ∈ events := by
  cases terminate with
  | true =>
      obtain ⟨_, afterSignal, _, rfl, _, returns⟩ := returns.split
      obtain ⟨_, afterGrace, _, rfl, _, returns⟩ := returns.split
      obtain ⟨_, afterKill, _, rfl, _, returns⟩ := returns.split
      cases returns with
      | call reply => exact ⟨reply, by simp⟩
  | false =>
      cases returns with
      | call reply => exact ⟨reply, by simp⟩

theorem releaseLocks_returns {after : WorkerSupervisor}
    (returns : Prog.Returns self.releaseLocks events after) :
    (∀ file, self.slotLock = some file → ⟨.closeFile file, ()⟩ ∈ events) ∧
      ∀ lease, self.processSlot = some lease → ⟨.releaseSlot lease, ()⟩ ∈ events := by
  obtain ⟨closing, afterClosing, _, rfl, closes, returns⟩ := returns.split
  obtain ⟨releasing, afterReleasing, _, rfl, releases, returns⟩ := returns.split
  constructor
  · intro file held
    rw [held] at closes
    cases closes with
    | call => simp
  · intro lease held
    rw [held] at releases
    cases releases with
    | call => simp

theorem giveUp_cleansUp {terminate : Bool} {failure : String → WorkerFailure}
    {result : StartResult} (returns : Prog.Returns (self.giveUp terminate failure) events result) :
    ∃ reason, result = (.error reason, abandoned reason) ∧ self.CleanedUp events := by
  have fails : wlp (anyReply fun _ _ => True) (self.giveUp terminate failure)
      (fun result _ => ∃ reason, result = (.error reason, abandoned reason)) () :=
    giveUp_fails self terminate failure
  obtain ⟨reason, rfl⟩ := returns.sound (fun _ _ => trivial) fails
  obtain ⟨cleaning, reporting, _, rfl, cleans, _⟩ := returns.split
  obtain ⟨ending, afterEnding, _, rfl, ends, returns⟩ := cleans.split
  obtain ⟨finishing, afterFinishing, _, rfl, _, returns⟩ := returns.split
  obtain ⟨releasing, afterReleasing, _, rfl, releases, _⟩ := returns.split
  obtain ⟨closed, released⟩ := releaseLocks_returns releases
  refine ⟨reason, rfl, ?_, ?_, ?_⟩
  · intro child held
    rw [held] at ends
    obtain ⟨reply, waited⟩ := endChild_waits ends
    exact ⟨reply, by simp [waited]⟩
  · intro file held
    simp [closed file held]
  · intro lease held
    simp [released lease held]

/-! ## Rounds -/

/-- The child runs, its port is open and its health endpoint reports that it is not ready. -/
def Loads (supervisor : WorkerSupervisor) (cfg : WorkerConfig) (events : SysTrace) : Prop :=
  ∃ child response rest, supervisor.child = some child ∧
    events = ⟨.tryWait child, .ok none⟩ :: ⟨.connect cfg.host cfg.port, true⟩ ::
      ⟨.healthResponse cfg.host cfg.port, response⟩ :: rest ∧
    response.bind healthStatusReady = some false

/-- What a round that goes round again has seen, or how it ends the call. -/
inductive RoundEffect (supervisor : WorkerSupervisor) (cfg : WorkerConfig) (deadline : Nat)
    (events : SysTrace) : Option StartResult → Prop
  | loads (seen : supervisor.Loads cfg events) : RoundEffect supervisor cfg deadline events none
  | early (unseen : ¬ supervisor.Loads cfg events) (reading : Nat)
      (read : ⟨.now, reading⟩ ∈ events) (before : reading < deadline) :
      RoundEffect supervisor cfg deadline events none
  | ended (unseen : ¬ supervisor.Loads cfg events) (result : StartResult)
      (ends : supervisor.Ends events result) :
      RoundEffect supervisor cfg deadline events (some result)

/-- A round that gives up. -/
theorem RoundEffect.of_giveUp {terminate : Bool} {failure : String → WorkerFailure}
    {outcome : Option StartResult} (earlier : SysTrace)
    (unseen : ¬ self.Loads cfg (earlier ++ events))
    (returns : Prog.Returns (some <$> self.giveUp terminate failure) events outcome) :
    self.RoundEffect cfg deadline (earlier ++ events) outcome := by
  rw [map_eq_pure_bind] at returns
  obtain ⟨giving, nothing, result, rfl, gives, returns⟩ := returns.split
  obtain ⟨rfl, rfl⟩ := Fallible.returns_ret.mp returns
  obtain ⟨reason, rfl, cleanedUp⟩ := giveUp_cleansUp gives
  refine .ended unseen _ ?_
  rw [List.append_nil]
  exact .gaveUp reason (cleanedUp.later earlier)

/-- Step lemma: every round. -/
theorem waitRound_effect {outcome : Option StartResult}
    (returns : Prog.Returns (self.waitRound cfg timeout deadline) events outcome) :
    self.RoundEffect cfg deadline events outcome := by
  unfold waitRound at returns
  cases held : self.child with
  | none =>
      rw [held] at returns
      refine .of_giveUp [] ?_ returns
      rintro ⟨child, _, _, holds, _⟩
      rw [held] at holds
      cases holds
  | some child =>
      rw [held] at returns
      obtain ⟨status, seen, rfl, waited⟩ := Fallible.returns_call.mp returns
      rcases status with error | _ | status
      · refine .of_giveUp [_] ?_ waited
        rintro ⟨_, _, _, _, same, _⟩
        simp at same
      · obtain ⟨connected, seen, rfl, connects⟩ := Fallible.returns_call.mp waited
        cases connected with
        | true =>
            obtain ⟨response, seen, rfl, answered⟩ := Fallible.returns_call.mp connects
            change Prog.Returns (if response.bind healthStatusReady = some false then _ else _) _ _
              at answered
            split at answered
            · rename_i loads
              obtain ⟨_, seen, rfl, slept⟩ := Fallible.returns_call.mp answered
              obtain ⟨rfl, rfl⟩ := Fallible.returns_ret.mp slept
              exact .loads ⟨child, response, _, held, rfl, loads⟩
            · rename_i serves
              obtain ⟨rfl, rfl⟩ := Fallible.returns_ret.mp answered
              refine .ended ?_ _ .ready
              rintro ⟨_, _, _, _, same, loads⟩
              cases same
              exact serves loads
        | false =>
            obtain ⟨reading, seen, rfl, read⟩ := Fallible.returns_call.mp connects
            change Prog.Returns (if deadline ≤ reading then _ else _) _ _ at read
            split at read
            · refine .of_giveUp [_, _, _] ?_ read
              rintro ⟨_, _, _, _, same, _⟩
              simp at same
            · rename_i early
              obtain ⟨_, seen, rfl, slept⟩ := Fallible.returns_call.mp read
              obtain ⟨rfl, rfl⟩ := Fallible.returns_ret.mp slept
              refine .early ?_ reading (by simp) (by omega)
              rintro ⟨_, _, _, _, same, _⟩
              simp at same
      · refine .of_giveUp [_] ?_ waited
        rintro ⟨_, _, _, _, same, _⟩
        simp at same

end WorkerSupervisor

/-! ## Runs -/

open WorkerSupervisor

/-- One round: the clock when it begins and when it ends, its calls and its outcome. -/
structure Round where
  begins : Nat
  events : SysTrace
  ends : Nat
  outcome : Option StartResult

/-- A call whose loop is not over takes a round. The state is the result, if there is one,
and the clock. -/
structure Round.Advances (started : WorkerSupervisor) (cfg : WorkerConfig)
    (timeout deadline : Nat) (before : Option StartResult × Nat) (round : Round)
    (after : Option StartResult × Nat) : Prop where
  goesOn : before.1 = none
  begins : round.begins = before.2
  after : after = (round.outcome, round.ends)
  returns : Prog.Returns (started.waitRound cfg timeout deadline) round.events round.outcome
  ticks : Follows Clock round.begins round.events round.ends

/-- A call of `start_and_wait` that started its worker, as far as its latest round. -/
structure StartRun (supervisor : WorkerSupervisor) (cfg : WorkerConfig) (timeout : Nat) where
  called : Nat
  opening : SysTrace
  started : WorkerSupervisor
  deadline : Nat
  opened : Nat
  launches : Prog.Returns (supervisor.launch cfg timeout) opening (.ok (started, deadline))
  opens : Follows Clock called opening opened
  rounds : List Round
  outcome : Option StartResult
  clock : Nat
  run : Run (Round.Advances started cfg timeout deadline) (none, opened) rounds (outcome, clock)

section Runs

variable {started : WorkerSupervisor} {cfg : WorkerConfig} {timeout deadline opened clock : Nat}
  {rounds : List Round} {outcome : Option StartResult}

/-- Run lemma: only the latest round can have ended the call. -/
theorem Round.Advances.outcomes
    (run : Run (Round.Advances started cfg timeout deadline) (none, opened) rounds
      (outcome, clock)) :
    ∀ earlier (round : Round) later, rounds = earlier ++ round :: later →
      later = [] ∧ round.outcome = outcome ∨ later ≠ [] ∧ round.outcome = none := by
  apply run.invariant fun history state =>
    ∀ earlier (round : Round) later, history = earlier ++ round :: later →
      later = [] ∧ round.outcome = state.1 ∨ later ≠ [] ∧ round.outcome = none
  · simp
  · intro history before label after inductionHypothesis advances earlier round later parts
    rcases List.eq_nil_or_concat later with rfl | ⟨front, last, rfl⟩
    · obtain ⟨rfl, same⟩ := List.append_inj' parts rfl
      obtain rfl := List.singleton_inj.mp same
      rw [advances.after]
      exact .inl ⟨rfl, rfl⟩
    · rw [List.concat_eq_append, ← List.cons_append, ← List.append_assoc] at parts
      obtain ⟨rfl, _⟩ := List.append_inj' parts rfl
      refine .inr ⟨by simp, ?_⟩
      rcases inductionHypothesis earlier round front rfl with ⟨_, open_yet⟩ | ⟨_, open_yet⟩
      · rw [open_yet, advances.goesOn]
      · exact open_yet

/-- A call that is over takes no round. -/
theorem Round.Advances.over {result : StartResult} {ended : Nat}
    (run : Run (Round.Advances started cfg timeout deadline) (some result, ended) rounds
      (outcome, clock)) : rounds = [] ∧ outcome = some result ∧ clock = ended := by
  cases rounds with
  | nil => simpa using Run.nil_iff.mp run
  | cons round rounds =>
      obtain ⟨_, advances, _⟩ := Run.cons_iff.mp run
      cases advances.goesOn

/-- Run lemma: every round is one of the loop. -/
theorem Round.Advances.each
    (run : Run (Round.Advances started cfg timeout deadline) (none, opened) rounds
      (outcome, clock)) :
    ∀ round ∈ rounds,
      Prog.Returns (started.waitRound cfg timeout deadline) round.events round.outcome ∧
        Follows Clock round.begins round.events round.ends := by
  apply run.invariant fun history _ => ∀ round ∈ history,
    Prog.Returns (started.waitRound cfg timeout deadline) round.events round.outcome ∧
      Follows Clock round.begins round.events round.ends
  · simp
  · intro history before label after inductionHypothesis advances round member
    rcases List.mem_append.mp member with earlier | now
    · exact inductionHypothesis round earlier
    · rw [List.mem_singleton.mp now]
      exact ⟨advances.returns, advances.ticks⟩

/-- A reading is no earlier than the beginning. -/
theorem Clock.le_reading {begins ends reading : Nat} {events : SysTrace}
    (ticks : Follows Clock begins events ends) (read : ⟨.now, reading⟩ ∈ events) :
    begins ≤ reading := by
  induction events generalizing begins with
  | nil => simp at read
  | cons event rest inductionHypothesis =>
      obtain ⟨middle, answered, ticks⟩ := ticks
      rcases List.mem_cons.mp read with rfl | later
      · have shown : begins ≤ middle ∧ reading = middle := answered
        omega
      · exact le_trans answered.le (inductionHypothesis ticks later)

end Runs

/-! ## Complete calls -/

section Complete

variable {self started : WorkerSupervisor} {cfg : WorkerConfig}
  {timeout deadline called opened ended iterations : Nat} {result : StartResult}

/-- The loop ends as its rounds do. -/
theorem waitReady_rounds :
    (∃ events, Prog.Returns (started.waitReady cfg timeout deadline iterations) events result ∧
      Follows Clock opened events ended) ↔
      ∃ rounds, rounds.length ≤ iterations ∧
        Run (Round.Advances started cfg timeout deadline) (none, opened) rounds
          (some result, ended) := by
  induction iterations generalizing opened with
  | zero =>
      constructor
      · rintro ⟨_, returns, _⟩
        cases returns with
        | call reply => exact reply.elim
      · rintro ⟨rounds, few, run⟩
        obtain rfl := List.eq_nil_of_length_eq_zero (Nat.le_zero.mp few)
        cases Run.nil_iff.mp run
  | succ iterations inductionHypothesis =>
      rw [waitReady_succ]
      constructor
      · rintro ⟨events, returns, ticks⟩
        obtain ⟨first, second, outcome, rfl, firstRound, others⟩ := returns.split
        obtain ⟨middle, begins, goes⟩ := follows_append.mp ticks
        have advances : Round.Advances started cfg timeout deadline (none, opened)
            ⟨opened, first, middle, outcome⟩ (outcome, middle) := ⟨rfl, rfl, rfl, firstRound, begins⟩
        cases outcome with
        | some reached =>
            obtain ⟨rfl, rfl⟩ := Fallible.returns_ret.mp others
            obtain rfl := goes
            exact ⟨[_], by simp, Run.start.step advances⟩
        | none =>
            obtain ⟨rounds, few, run⟩ := inductionHypothesis.mp ⟨second, others, goes⟩
            exact ⟨_ :: rounds, by simpa using few, Run.cons_iff.mpr ⟨_, advances, run⟩⟩
      · rintro ⟨rounds, few, run⟩
        cases rounds with
        | nil => cases Run.nil_iff.mp run
        | cons round rounds =>
            obtain ⟨middle, advances, run⟩ := Run.cons_iff.mp run
            obtain rfl := advances.after
            have few : rounds.length ≤ iterations := by simpa using few
            have begins : Follows Clock opened round.events round.ends := by
              have ticks := advances.ticks
              rwa [advances.begins] at ticks
            cases reached : round.outcome with
            | some other =>
                have returns := advances.returns
                rw [reached] at run returns
                obtain ⟨_, same, rfl⟩ := Round.Advances.over run
                cases same
                exact ⟨_, returns.bind (.ret _), follows_append.mpr ⟨_, begins, rfl⟩⟩
            | none =>
                rw [reached] at run
                obtain ⟨second, others, goes⟩ := inductionHypothesis.mpr ⟨rounds, few, run⟩
                have returns := advances.returns
                rw [reached] at returns
                exact ⟨_, returns.bind others, follows_append.mpr ⟨_, begins, goes⟩⟩

/-- The complete calls of `start_and_wait` are those refused before the loop and the runs
that have a result. -/
theorem startAndWait_runs :
    (∃ events, Prog.Returns (self.startAndWait cfg timeout iterations) events result ∧
      Follows Clock called events ended) ↔
      (∃ opening, Prog.Returns (self.launch cfg timeout) opening (.error result) ∧
        Follows Clock called opening ended) ∨
      ∃ run : StartRun self cfg timeout, run.called = called ∧ run.rounds.length ≤ iterations ∧
        run.outcome = some result ∧ run.clock = ended := by
  rw [startAndWait_eq]
  constructor
  · rintro ⟨events, returns, ticks⟩
    obtain ⟨opening, rest, launched, rfl, launches, waits⟩ := returns.split
    obtain ⟨opened, opens, goes⟩ := follows_append.mp ticks
    rcases launched with refused | ⟨started, deadline⟩
    · obtain ⟨rfl, rfl⟩ := Fallible.returns_ret.mp waits
      obtain rfl := goes
      exact .inl ⟨opening, launches, opens⟩
    · obtain ⟨rounds, few, run⟩ := waitReady_rounds.mp ⟨rest, waits, goes⟩
      exact .inr ⟨⟨called, opening, started, deadline, opened, launches, opens, rounds,
        some result, ended, run⟩, rfl, few, rfl, rfl⟩
  · rintro (⟨opening, launches, opens⟩ | ⟨run, rfl, few, complete, rfl⟩)
    · refine ⟨opening ++ [], launches.bind (.ret result), ?_⟩
      rwa [List.append_nil]
    · have rounds := run.run
      rw [complete] at rounds
      obtain ⟨rest, waits, goes⟩ := waitReady_rounds.mpr ⟨run.rounds, few, rounds⟩
      exact ⟨_, run.launches.bind waits, follows_append.mpr ⟨_, run.opens, goes⟩⟩

/-- The deadline is counted from the moment at which the loop begins. -/
theorem launch_deadline {opening : SysTrace}
    (launches : Prog.Returns (self.launch cfg timeout) opening (.ok (started, deadline)))
    (opens : Follows Clock called opening opened) : deadline = opened + timeout := by
  obtain ⟨connected, afterConnect, rfl, probed⟩ := Fallible.returns_call.mp launches
  cases connected with
  | true =>
      obtain ⟨_, refused⟩ := Fallible.returns_ret.mp probed
      cases refused
  | false =>
      change Prog.Returns (self.start cfg >>= _) _ _ at probed
      obtain ⟨starting, reading, attempted, rfl, _, reads⟩ := probed.split
      rcases attempted with ⟨error | ⟨⟩, after⟩
      · obtain ⟨_, refused⟩ := Fallible.returns_ret.mp reads
        cases refused
      · obtain ⟨time, rest, rfl, given⟩ := Fallible.returns_call.mp reads
        obtain ⟨rfl, same⟩ := Fallible.returns_ret.mp given
        obtain ⟨_, _, opens⟩ := opens
        obtain ⟨before, _, last, shown, rfl⟩ := follows_append.mp opens
        have reading : time = last := shown.2
        have computed : (started, deadline) = (after, time + timeout) := Except.ok.inj same
        rw [(Prod.mk.inj computed).2, reading]

end Complete

namespace StartRun

variable {supervisor : WorkerSupervisor} {cfg : WorkerConfig} {timeout : Nat}

/-- A round that begins at or after the deadline is the last one, and ends the call. -/
def Prompt (run : StartRun supervisor cfg timeout) : Prop :=
  ∀ earlier round later, run.rounds = earlier ++ round :: later →
    run.deadline ≤ round.begins →
      later = [] ∧ ∃ result, run.outcome = some result ∧ run.started.Ends round.events result

/-- Exactly the calls that find no unhealthy worker on an open port at or after the deadline. -/
theorem prompt_iff (run : StartRun supervisor cfg timeout) :
    run.Prompt ↔ ∀ round ∈ run.rounds, run.deadline ≤ round.begins →
      ¬ run.started.Loads cfg round.events := by
  constructor
  · intro prompt round member late loads
    obtain ⟨earlier, later, parts⟩ := List.append_of_mem member
    obtain ⟨last, result, ended, _⟩ := prompt earlier round later parts late
    have effect := waitRound_effect (Round.Advances.each run.run round member).1
    rcases Round.Advances.outcomes run.run earlier round later parts with ⟨_, same⟩ | ⟨more, _⟩
    · rw [same, ended] at effect
      cases effect with
      | ended unseen => exact unseen loads
    · exact more last
  · intro healthy earlier round later parts late
    have member : round ∈ run.rounds := by simp [parts]
    obtain ⟨returns, ticks⟩ := Round.Advances.each run.run round member
    have outcomes := Round.Advances.outcomes run.run earlier round later parts
    cases effect : round.outcome with
    | none =>
        rw [effect] at returns
        cases waitRound_effect returns with
        | loads seen => exact absurd seen (healthy round member late)
        | early _ reading read before =>
            have begun := Clock.le_reading ticks read
            omega
    | some result =>
        rw [effect] at returns outcomes
        cases waitRound_effect returns with
        | ended _ _ ends =>
            rcases outcomes with ⟨last, same⟩ | ⟨_, impossible⟩
            · exact ⟨last, result, same.symm, ends⟩
            · cases impossible

/-- The deadline of a run. -/
theorem deadline_eq (run : StartRun supervisor cfg timeout) :
    run.deadline = run.opened + timeout :=
  launch_deadline run.launches run.opens

end StartRun

/-! ## A run that does not end -/

/-- The worker that a start leaves. -/
def spawnedSupervisor : WorkerSupervisor := { readySupervisor with state := .starting }

/-- The calls before the loop. -/
def startingTrace : SysTrace := readyTrace.take 7

/-- A round that finds the model loading. -/
def loadingRound (begins ends : Nat) : Round where
  begins := begins
  events := [⟨.tryWait ⟨100⟩, .ok none⟩, ⟨.connect fixtureConfig.host fixtureConfig.port, true⟩,
    ⟨.healthResponse fixtureConfig.host fixtureConfig.port, some unavailable⟩,
    ⟨.sleep 20000000, ()⟩]
  ends := ends
  outcome := none

theorem advances_loadingRound {timeout deadline begins ends : Nat} (ordered : begins ≤ ends) :
    Round.Advances spawnedSupervisor fixtureConfig timeout deadline (none, begins)
      (loadingRound begins ends) (none, ends) where
  goesOn := rfl
  begins := rfl
  after := rfl
  returns := by
    have loads : Option.bind (some unavailable) healthStatusReady = some false := by decide +kernel
    refine .call _ (.call _ (.call _ ?_))
    show Prog.Returns (if Option.bind (some unavailable) healthStatusReady = some false then _
      else _) _ _
    rw [if_pos loads]
    exact .call _ (.ret _)
  ticks := ⟨begins, le_refl _, begins, le_refl _, begins, le_refl _, ends, ordered, rfl⟩

/-- However many rounds it takes, the loop has not ended. -/
theorem loading_rounds (timeout deadline clock count : Nat) :
    Run (Round.Advances spawnedSupervisor fixtureConfig timeout deadline) (none, clock)
      (List.replicate count (loadingRound clock clock)) (none, clock) := by
  induction count with
  | zero => exact .start
  | succ count inductionHypothesis =>
      rw [List.replicate_succ]
      exact Run.cons_iff.mpr ⟨_, advances_loadingRound (le_refl _), inductionHypothesis⟩

/-- A worker that stays unhealthy: the first round outlasts the deadline, and others follow. -/
def loadingRun (count : Nat) : StartRun {} fixtureConfig 1000 where
  called := 0
  opening := startingTrace
  started := spawnedSupervisor
  deadline := 1000
  opened := 0
  launches := .call _ (.call _ (.call _ (.call _ (.call _ (.call _ (.call _ (.ret _)))))))
  opens := ⟨0, le_refl _, 0, le_refl _, 0, le_refl _, 0, le_refl _, 0, le_refl _, 0, le_refl _, 0,
    ⟨le_refl _, rfl⟩, rfl⟩
  rounds := loadingRound 0 1000 :: List.replicate count (loadingRound 1000 1000)
  outcome := none
  clock := 1000
  run := Run.cons_iff.mpr
    ⟨_, advances_loadingRound (Nat.zero_le 1000), loading_rounds 1000 1000 1000 count⟩

/-- Two rounds begin at the deadline, and the call still waits. -/
theorem startRun_not_prompt : ¬ ∀ run : StartRun {} fixtureConfig 1000, run.Prompt := by
  intro prompt
  obtain ⟨last, _⟩ := prompt (loadingRun 2) [loadingRound 0 1000] (loadingRound 1000 1000)
    [loadingRound 1000 1000] rfl (le_refl _)
  cases last

end TriAI.Supervisor
