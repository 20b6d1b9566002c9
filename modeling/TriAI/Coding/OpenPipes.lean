import TriAI.Coding.LargeOutput

/-!
Contract: the processes that a command starts and the pipes that they inherit.

Owns: a tree of processes with the times at which they exit and let go of the pipes; and exactly
when `run_sandbox` blocks on no call beyond the first poll after the timeout.

Does not own: what the processes write.

Only the shell is polled and killed. The call that reads the pipes waits for every process that
has inherited them.
-/

set_option autoImplicit false

namespace TriAI.Coding

/-! ## Processes -/

/-- When a process exits and when it closes a pipe by itself, if it does. -/
structure Process where
  exits : WithTop Nat
  closes : Stream → WithTop Nat

/-- The time until which a process holds a pipe open. -/
def Process.holdsUntil (process : Process) (stream : Stream) : WithTop Nat :=
  min process.exits (process.closes stream)

/-- A process with those it has started. -/
inductive ProcessTree where
  | node (process : Process) (children : List ProcessTree)

mutual

/-- The processes of a tree. -/
def ProcessTree.processes : ProcessTree → List Process
  | .node process children => process :: processesOfAll children

def processesOfAll : List ProcessTree → List Process
  | [] => []
  | tree :: rest => tree.processes ++ processesOfAll rest

end

/-- The process at the root, which is the shell. -/
def ProcessTree.shell : ProcessTree → Process
  | .node process _ => process

/-- The time at which the last of some processes lets go of its pipes. -/
def lastRelease (processes : List Process) : WithTop Nat :=
  (processes.map fun process =>
    max (process.holdsUntil .stdout) (process.holdsUntil .stderr)).foldr max 0

theorem lastRelease_le_iff {processes : List Process} {time : WithTop Nat} :
    lastRelease processes ≤ time ↔
      ∀ process ∈ processes, ∀ stream, process.holdsUntil stream ≤ time := by
  have both : ∀ process : Process,
      max (process.holdsUntil .stdout) (process.holdsUntil .stderr) ≤ time ↔
        ∀ stream, process.holdsUntil stream ≤ time := by
    intro process
    rw [max_le_iff]
    constructor
    · intro holds stream
      cases stream with
      | stdout => exact holds.1
      | stderr => exact holds.2
    · exact fun holds => ⟨holds .stdout, holds .stderr⟩
  unfold lastRelease
  induction processes with
  | nil => simp
  | cons process rest inductionHypothesis =>
      rw [List.map_cons, List.foldr_cons, max_le_iff, both, List.forall_mem_cons]
      exact and_congr_right fun _ => inductionHypothesis

/-! ## Blocking -/

/-- What the parent finds of a tree of processes that exits and writes so. -/
def ProcessTree.outside (tree : ProcessTree) (status : ExitStatus)
    (stdout stderr : List UInt8) : Outside where
  tryWait := fun now => .ok (if tree.shell.exits ≤ now then some status else none)
  waitWithOutput := fun _ => .ok (stdout, stderr)
  -- the end of a pipe is read when nobody holds it open
  outputEnds := fun now => max now (lastRelease tree.processes)

/-- The first poll after the timeout. -/
def lastPoll (timeoutSecs : UInt64) (schedule : Schedule) : Nat :=
  schedule.polls (schedule.firstAfter (timeoutMillis timeoutSecs))

/-- Every call on which `run_sandbox` blocks ends by the first poll after the timeout. -/
def BlocksInTime (timeoutSecs : UInt64) (outside : Outside) (schedule : Schedule) : Prop :=
  ∀ rounds, ∀ call ∈ blockingCalls timeoutSecs outside schedule rounds 0,
    call.2 ≤ lastPoll timeoutSecs schedule

variable {timeoutSecs : UInt64} {schedule : Schedule} {tree : ProcessTree} {status : ExitStatus}
  {stdout stderr : List UInt8}

theorem pollRound_eq_none_iff {now : Nat} :
    pollRound timeoutSecs (tree.outside status stdout stderr) now = none ↔
      ¬ tree.shell.exits ≤ now ∧ now ≤ timeoutMillis timeoutSecs := by
  unfold pollRound
  by_cases exited : tree.shell.exits ≤ now
  · simp [ProcessTree.outside, exited]
  · simp [ProcessTree.outside, exited]

theorem shell_exits_of_pollRound {now : Nat} {found : ExitStatus}
    (exited : pollRound timeoutSecs (tree.outside status stdout stderr) now =
      some (.exited found)) : tree.shell.exits ≤ now := by
  have waited := pollRound_eq_exited.mp exited
  by_contra running
  simp [ProcessTree.outside, running] at waited

theorem pollRound_of_shell_exits {now : Nat} (exits : tree.shell.exits ≤ now) :
    pollRound timeoutSecs (tree.outside status stdout stderr) now = some (.exited status) :=
  pollRound_eq_exited.mpr (by simp [ProcessTree.outside, exits])

/-- The loop does not go on beyond the first poll after the timeout. -/
theorem reached_le_firstAfter {reached : Nat}
    (goesOn : ∀ earlier, 0 ≤ earlier → earlier < reached →
      pollRound timeoutSecs (tree.outside status stdout stderr) (schedule.polls earlier) = none) :
    reached ≤ schedule.firstAfter (timeoutMillis timeoutSecs) := by
  by_contra beyond
  have went := goesOn _ (Nat.zero_le _) (Nat.not_le.mp beyond)
  have inTime := (pollRound_eq_none_iff.mp went).2
  have after := schedule.lt_polls_firstAfter (timeoutMillis timeoutSecs)
  omega

/-- `run_sandbox` blocks on no call beyond the first poll after the timeout exactly if the shell
runs beyond it, or every process has let go of both pipes by then. -/
theorem runSandbox_blocksInTime_iff (timeoutSecs : UInt64) (schedule : Schedule)
    (tree : ProcessTree) (status : ExitStatus) (stdout stderr : List UInt8) :
    BlocksInTime timeoutSecs (tree.outside status stdout stderr) schedule ↔
      (tree.shell.exits ≤ lastPoll timeoutSecs schedule →
        ∀ process ∈ tree.processes, ∀ stream,
          process.holdsUntil stream ≤ lastPoll timeoutSecs schedule) := by
  have increasing := schedule.strictMono.monotone
  constructor
  · intro inTime exits
    have polled : ∃ round, tree.shell.exits ≤ schedule.polls round := ⟨_, exits⟩
    have notAfter : Nat.find polled ≤ schedule.firstAfter (timeoutMillis timeoutSecs) :=
      Nat.find_min' polled exits
    have goesOn : ∀ earlier, 0 ≤ earlier → earlier < Nat.find polled →
        pollRound timeoutSecs (tree.outside status stdout stderr) (schedule.polls earlier) =
          none := by
      intro earlier _ before
      exact pollRound_eq_none_iff.mpr ⟨Nat.find_min polled before,
        schedule.polls_le_of_lt_firstAfter (Nat.lt_of_lt_of_le before notAfter)⟩
    have reads := waitWithOutput_mem_blockingCalls (Nat.zero_le (Nat.find polled)) goesOn
      (pollRound_of_shell_exits (Nat.find_spec polled))
    have ends : max (schedule.polls (Nat.find polled) : WithTop Nat) (lastRelease tree.processes) ≤
        lastPoll timeoutSecs schedule := inTime _ _ reads
    exact lastRelease_le_iff.mp (le_trans (le_max_right _ _) ends)
  · intro letGo rounds call member
    obtain ⟨reached, _, goesOn, ends⟩ := mem_blockingCalls member
    have notBeyond := increasing (reached_le_firstAfter goesOn)
    have inTime : (schedule.polls reached : WithTop Nat) ≤ lastPoll timeoutSecs schedule :=
      WithTop.coe_le_coe.mpr notBeyond
    rcases ends with ⟨sleeps, rfl⟩ | ⟨found, exited, rfl⟩ | ⟨_, rfl⟩
    · have before : reached < schedule.firstAfter (timeoutMillis timeoutSecs) := by
        by_contra beyond
        have later := increasing (Nat.not_lt.mp beyond)
        have after := schedule.lt_polls_firstAfter (timeoutMillis timeoutSecs)
        have early := (pollRound_eq_none_iff.mp sleeps).2
        omega
      exact WithTop.coe_le_coe.mpr (increasing before)
    · have released := lastRelease_le_iff.mpr
        (letGo (le_trans (shell_exits_of_pollRound exited) inTime))
      exact max_le inTime released
    · exact inTime

/-! ## A process in the background -/

/-- A shell that exits at once and leaves a process that runs for ever with its pipes. -/
def backgroundTree : ProcessTree :=
  .node { exits := (0 : Nat), closes := fun _ => ⊤ }
    [.node { exits := ⊤, closes := fun _ => ⊤ } []]

/-- `sleep infinity &` blocks the call for ever, with a timeout of a second. -/
theorem backgroundTree_blocks :
    blockingCalls 1 (backgroundTree.outside (some 0) [] []) steadyPolls 1 0 =
        [(.waitWithOutput, ⊤)] ∧
      ¬ BlocksInTime 1 (backgroundTree.outside (some 0) [] []) steadyPolls := by
  have blocks : blockingCalls 1 (backgroundTree.outside (some 0) [] []) steadyPolls 1 0 =
      [(.waitWithOutput, ⊤)] := by
    have exits : backgroundTree.shell.exits ≤ (steadyPolls.polls 0 : WithTop Nat) := le_refl _
    have heldForEver : lastRelease backgroundTree.processes = ⊤ := rfl
    unfold blockingCalls
    rw [pollRound_of_shell_exits exits]
    simp [ProcessTree.outside, heldForEver]
  refine ⟨blocks, ?_⟩
  intro inTime
  have ends := inTime 1 (.waitWithOutput, ⊤) (by rw [blocks]; exact List.mem_singleton.mpr rfl)
  exact absurd (top_le_iff.mp ends) (WithTop.coe_ne_top)

end TriAI.Coding
