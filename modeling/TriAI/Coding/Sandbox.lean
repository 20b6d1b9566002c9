import TriAI.Coding.ToolOutput

/-!
Contract: the run of a command by `run_code` (`run_sandbox` in `coding_tools.rs`).

Owns: the polls for the exit of the shell, with the timeout; what the call returns; and the calls
on which it blocks.

Does not own: what the command does while it is polled, which `Outside` stands for; and the
environment that the shell is started in.

A poll takes no time, a sleep at least its 50 milliseconds. Times are milliseconds since the shell
was started.
-/

set_option autoImplicit false

namespace TriAI.Coding

open TriAI.Chat (trimEnd trimStart)
open TriAI.Library

/-- How a process has ended: its code, unless a signal has ended it. -/
abbrev ExitStatus : Type := Option Int32

/-- The limit of `run_sandbox` in milliseconds. -/
def timeoutMillis (timeoutSecs : UInt64) : Nat := 1000 * max 1 (min timeoutSecs.toNat 60)

/-- What the parent finds: the exit at a poll, the output at the call that reads it, and when that
call ends, if it does. -/
structure Outside where
  tryWait : Nat → Except String (Option ExitStatus)
  waitWithOutput : Nat → Except String (List UInt8 × List UInt8)
  outputEnds : Nat → WithTop Nat

/-- The times of the polls. -/
structure Schedule where
  polls : Nat → Nat
  sleeps : ∀ round, polls round + 50 ≤ polls (round + 1)

/-- How the loop of the polls ends. -/
inductive WaitEnd where
  | exited (status : ExitStatus)
  | timedOut
  | failed (error : String)

/-- A call on which the parent blocks. -/
inductive BlockingCall where
  | sleep
  | wait
  | waitWithOutput
deriving DecidableEq

section Loop

variable (timeoutSecs : UInt64) (outside : Outside) (schedule : Schedule)

/-- One round of the loop, if it ends it. -/
def pollRound (now : Nat) : Option WaitEnd :=
  match outside.tryWait now with
  | .ok (some status) => some (.exited status)
  | .ok none => if timeoutMillis timeoutSecs < now then some .timedOut else none
  | .error e => some (.failed e)

/-- The loop from a round on, for so many rounds: how it ends, and when. -/
def pollFrom : Nat → Nat → Option (WaitEnd × Nat)
  | 0, _ => none
  | rounds + 1, round =>
      match pollRound timeoutSecs outside (schedule.polls round) with
      | some ended => some (ended, schedule.polls round)
      | none => pollFrom rounds (round + 1)

/-- What the call returns when the loop has ended. -/
def afterLoop (ended : WaitEnd) (now : Nat) : Except ToolFailure Json :=
  match ended with
  | .exited status =>
      match outside.waitWithOutput now with
      | .ok (stdout, stderr) => runSandboxResult status stdout stderr
      | .error e => .error (.message s!"run_code: Ausgabe nicht lesbar: {e}")
  | .timedOut => .error (.message s!"run_code: Timeout nach {timeoutSecs}s überschritten")
  | .failed e => .error (.message s!"run_code: Wartefehler: {e}")

/-- `run_sandbox`, if it returns within so many rounds of its loop. -/
def runSandbox (command : String) (spawned : Except String Unit) (rounds : Nat) :
    Option (Except ToolFailure Json) :=
  if trimStart (trimEnd command) = "" then
    some (.error (.message "run_code: leere Befehlszeile"))
  else
    match spawned with
    | .error e => some (.error (.message s!"run_code: Prozess nicht startbar: {e}"))
    | .ok () =>
        (pollFrom timeoutSecs outside schedule rounds 0).map fun (ended, now) =>
          afterLoop timeoutSecs outside ended now

/-- The calls on which the loop blocks from a round on and then its end, with the times at which
they end. -/
def blockingCalls : Nat → Nat → List (BlockingCall × WithTop Nat)
  | 0, _ => []
  | rounds + 1, round =>
      match pollRound timeoutSecs outside (schedule.polls round) with
      | none => (.sleep, schedule.polls (round + 1)) :: blockingCalls rounds (round + 1)
      | some (.exited _) => [(.waitWithOutput, outside.outputEnds (schedule.polls round))]
      -- a process that is killed is waited for no longer
      | some .timedOut => [(.wait, schedule.polls round)]
      | some (.failed _) => []

end Loop

/-! ## Schedules -/

namespace Schedule

variable (schedule : Schedule)

theorem strictMono : StrictMono schedule.polls := by
  apply strictMono_nat_of_lt_succ
  intro round
  have slept := schedule.sleeps round
  omega

theorem exists_after (limit : Nat) : ∃ round, limit < schedule.polls round :=
  ⟨limit + 1, Nat.lt_of_lt_of_le (Nat.lt_succ_self limit) (schedule.strictMono.id_le (limit + 1))⟩

/-- The first round after a time. -/
def firstAfter (limit : Nat) : Nat := Nat.find (schedule.exists_after limit)

theorem lt_polls_firstAfter (limit : Nat) : limit < schedule.polls (schedule.firstAfter limit) :=
  Nat.find_spec (schedule.exists_after limit)

theorem polls_le_of_lt_firstAfter {limit round : Nat} (earlier : round < schedule.firstAfter limit) :
    schedule.polls round ≤ limit :=
  Nat.not_lt.mp (Nat.find_min (schedule.exists_after limit) earlier)

end Schedule

/-! ## The loop -/

variable {timeoutSecs : UInt64} {outside : Outside} {schedule : Schedule}

theorem pollRound_eq_exited {now : Nat} {status : ExitStatus} :
    pollRound timeoutSecs outside now = some (.exited status) ↔
      outside.tryWait now = .ok (some status) := by
  unfold pollRound
  split
  · simp [*]
  · split <;> simp [*]
  · simp [*]

/-- The loop that ends by the exit has found it at one of its polls. -/
theorem tryWait_of_pollFrom {rounds round now : Nat} {status : ExitStatus}
    (ends : pollFrom timeoutSecs outside schedule rounds round = some (.exited status, now)) :
    outside.tryWait now = .ok (some status) := by
  induction rounds generalizing round with
  | zero => cases ends
  | succ rounds inductionHypothesis =>
      unfold pollFrom at ends
      split at ends
      · rename_i ended found
        obtain ⟨rfl, rfl⟩ := Prod.mk.inj (Option.some.inj ends)
        exact pollRound_eq_exited.mp found
      · exact inductionHypothesis ends

/-- Where every poll before one lets the loop go on, the loop ends as that one does. -/
theorem pollFrom_eq {round last : Nat} {ended : WaitEnd} (notAfter : round ≤ last)
    (goesOn : ∀ earlier, round ≤ earlier → earlier < last →
      pollRound timeoutSecs outside (schedule.polls earlier) = none)
    (ends : pollRound timeoutSecs outside (schedule.polls last) = some ended) :
    pollFrom timeoutSecs outside schedule (last - round + 1) round =
      some (ended, schedule.polls last) := by
  obtain ⟨distance, rfl⟩ := Nat.exists_eq_add_of_le notAfter
  rw [Nat.add_sub_cancel_left]
  induction distance generalizing round with
  | zero =>
      simp only [Nat.add_zero] at ends ⊢
      unfold pollFrom
      rw [ends]
  | succ distance inductionHypothesis =>
      have now := goesOn round (Nat.le_refl round) (by omega)
      have shift : round + (distance + 1) = round + 1 + distance := by omega
      rw [shift] at ends goesOn ⊢
      unfold pollFrom
      rw [now]
      exact inductionHypothesis (by omega)
        (fun earlier after before => goesOn earlier (by omega) before) ends

/-- The calls that the call blocks on, from a round on: a sleep where the loop goes on, and one at
its end. -/
theorem mem_blockingCalls {rounds round : Nat} {call : BlockingCall × WithTop Nat}
    (member : call ∈ blockingCalls timeoutSecs outside schedule rounds round) :
    ∃ reached, round ≤ reached ∧
      (∀ earlier, round ≤ earlier → earlier < reached →
        pollRound timeoutSecs outside (schedule.polls earlier) = none) ∧
      ((pollRound timeoutSecs outside (schedule.polls reached) = none ∧
          call = (BlockingCall.sleep, (schedule.polls (reached + 1) : WithTop Nat))) ∨
        (∃ status, pollRound timeoutSecs outside (schedule.polls reached) =
            some (.exited status) ∧
          call = (BlockingCall.waitWithOutput, outside.outputEnds (schedule.polls reached))) ∨
        (pollRound timeoutSecs outside (schedule.polls reached) = some .timedOut ∧
          call = (BlockingCall.wait, (schedule.polls reached : WithTop Nat)))) := by
  induction rounds generalizing round with
  | zero => cases member
  | succ rounds inductionHypothesis =>
      have none : ∀ earlier, round ≤ earlier → earlier < round →
          pollRound timeoutSecs outside (schedule.polls earlier) = .none := by
        intro earlier after before
        omega
      unfold blockingCalls at member
      split at member
      · rename_i goesOn
        rcases List.mem_cons.mp member with sleeps | later
        · exact ⟨round, Nat.le_refl round, none, .inl ⟨goesOn, sleeps⟩⟩
        · obtain ⟨reached, after, before, ends⟩ := inductionHypothesis later
          refine ⟨reached, by omega, ?_, ends⟩
          intro earlier notBefore isBefore
          rcases Nat.eq_or_lt_of_le notBefore with same | further
          · rw [← same]
            exact goesOn
          · exact before earlier further isBefore
      · rename_i status exited
        exact ⟨round, Nat.le_refl round, none,
          .inr (.inl ⟨status, exited, List.mem_singleton.mp member⟩)⟩
      · rename_i timedOut
        exact ⟨round, Nat.le_refl round, none, .inr (.inr ⟨timedOut, List.mem_singleton.mp member⟩)⟩
      · cases member

/-- Where the exit is found at a poll and every poll before lets the loop go on, the call reads the
output. -/
theorem waitWithOutput_mem_blockingCalls {round last : Nat} {status : ExitStatus}
    (notAfter : round ≤ last)
    (goesOn : ∀ earlier, round ≤ earlier → earlier < last →
      pollRound timeoutSecs outside (schedule.polls earlier) = none)
    (exited : pollRound timeoutSecs outside (schedule.polls last) = some (.exited status)) :
    (.waitWithOutput, outside.outputEnds (schedule.polls last)) ∈
      blockingCalls timeoutSecs outside schedule (last - round + 1) round := by
  obtain ⟨distance, rfl⟩ := Nat.exists_eq_add_of_le notAfter
  rw [Nat.add_sub_cancel_left]
  induction distance generalizing round with
  | zero =>
      simp only [Nat.add_zero] at exited ⊢
      unfold blockingCalls
      rw [exited]
      exact List.mem_singleton.mpr rfl
  | succ distance inductionHypothesis =>
      have now := goesOn round (Nat.le_refl round) (by omega)
      have shift : round + (distance + 1) = round + 1 + distance := by omega
      rw [shift] at exited goesOn ⊢
      unfold blockingCalls
      rw [now]
      exact List.mem_cons_of_mem _ (inductionHypothesis (by omega)
        (fun earlier after before => goesOn earlier (by omega) before) exited)

end TriAI.Coding
