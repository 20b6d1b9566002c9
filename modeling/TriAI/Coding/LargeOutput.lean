import TriAI.Coding.Sandbox

/-!
Contract: the output of a command and the pipes that hold it until the command has exited.

Owns: a command that works and writes, over pipes that nobody reads; and exactly when
`run_sandbox` returns the output of a command that would exit within the timeout.

Does not own: the processes that a command leaves behind, and how a pipe keeps its bytes, which
is the parameter `room`; `linuxRoom` is one with sixteen pages.
-/

set_option autoImplicit false

namespace TriAI.Coding

open TriAI.Chat (trimEnd trimStart)
open TriAI.Library
open TriAI.Library.TextLines

/-! ## Commands -/

inductive Stream where
  | stdout
  | stderr
deriving DecidableEq

/-- What a command does next: work for so many milliseconds, or write. -/
inductive Action where
  | work (millis : Nat)
  | write (stream : Stream) (bytes : List UInt8)

/-- What a command does when its output is consumed as it is produced, and how it exits. -/
structure ShellRun where
  actions : List Action
  status : ExitStatus

/-- How many bytes of the next write a pipe takes, when it holds what was taken of the writes
before and nobody reads. -/
abbrev PipeRoom : Type := List (List UInt8) → List UInt8 → Nat

/-- What each pipe has taken of the writes into it. -/
abbrev Pipes : Type := Stream → List (List UInt8)

def Action.millis : Action → Nat
  | .work millis => millis
  | .write .. => 0

/-- The writes into a stream. -/
def Action.writes (stream : Stream) : Action → List (List UInt8)
  | .work _ => []
  | .write other bytes => if other = stream then [bytes] else []

/-- The time after which a command exits when its output is consumed as it is produced. -/
def ShellRun.duration (run : ShellRun) : Nat := (run.actions.map Action.millis).sum

/-- The writes of a command into a stream. -/
def ShellRun.writes (run : ShellRun) (stream : Stream) : List (List UInt8) :=
  run.actions.flatMap (Action.writes stream)

/-- The whole output of a command on a stream. -/
def ShellRun.output (run : ShellRun) (stream : Stream) : List UInt8 := (run.writes stream).flatten

/-! ## Pipes -/

section Pipes

variable (room : PipeRoom)

/-- What is left to do and what is in the pipes when so much time has passed and nobody has read:
a write puts in what the pipe takes, and waits for room for the rest. -/
def advance : List Action → Nat → Pipes → List Action × Pipes
  | [], _, pipes => ([], pipes)
  | .work millis :: rest, time, pipes =>
      if time < millis then (.work (millis - time) :: rest, pipes)
      else advance rest (time - millis) pipes
  | .write stream bytes :: rest, time, pipes =>
      let taken := room (pipes stream) bytes
      let filled := Function.update pipes stream (pipes stream ++ [bytes.take taken])
      if bytes.length ≤ taken then advance rest time filled
      else (.write stream (bytes.drop taken) :: rest, filled)

/-- A command in the sandbox. -/
def ShellRun.outside (run : ShellRun) : Outside where
  tryWait := fun now =>
    .ok (if (advance room run.actions now fun _ => []).1.isEmpty then some run.status else none)
  waitWithOutput := fun now =>
    let pipes := (advance room run.actions now fun _ => []).2
    .ok ((pipes .stdout).flatten, (pipes .stderr).flatten)
  outputEnds := fun now => now

/-- Each write finds room for all its bytes behind the writes before it. -/
def RoomForAll : List (List UInt8) → List (List UInt8) → Prop
  | _, [] => True
  | earlier, bytes :: rest =>
      bytes.length ≤ room earlier bytes ∧ RoomForAll (earlier ++ [bytes]) rest

instance RoomForAll.decide : (earlier writes : List (List UInt8)) →
    Decidable (RoomForAll room earlier writes)
  | _, [] => isTrue trivial
  | earlier, bytes :: rest =>
      have := RoomForAll.decide (earlier ++ [bytes]) rest
      inferInstanceAs (Decidable (_ ∧ _))

/-- A write that is taken leaves the pipes as if it were all that was written. -/
theorem update_append (pipes : Pipes) (stream other : Stream) (bytes : List UInt8)
    (rest : List Action) :
    Function.update pipes stream (pipes stream ++ [bytes]) other ++
        rest.flatMap (Action.writes other) =
      pipes other ++ (Action.write stream bytes :: rest).flatMap (Action.writes other) := by
  rw [List.flatMap_cons, Action.writes, Function.update_apply, ← List.append_assoc]
  by_cases same : other = stream
  · rw [if_pos same, if_pos same.symm, same]
  · rw [if_neg same, if_neg (Ne.symm same), List.append_nil]

variable {room}

/-- A write that is taken, and room for the writes behind it. -/
theorem roomForAll_write {pipes : Pipes} {stream : Stream} {bytes : List UInt8}
    {rest : List Action} (fits : bytes.length ≤ room (pipes stream) bytes) (other : Stream) :
    RoomForAll room (Function.update pipes stream (pipes stream ++ [bytes]) other)
        (rest.flatMap (Action.writes other)) ↔
      RoomForAll room (pipes other)
        ((Action.write stream bytes :: rest).flatMap (Action.writes other)) := by
  rw [List.flatMap_cons, Action.writes, Function.update_apply]
  by_cases same : other = stream
  · subst same
    rw [if_pos rfl, if_pos rfl]
    exact (and_iff_right fits).symm
  · rw [if_neg same, if_neg (Ne.symm same)]
    exact Iff.rfl

/-- Every action is done exactly once enough time has passed, if every write finds room; and the
pipes hold the writes then. -/
theorem advance_done_iff (room : PipeRoom) (actions : List Action) (time : Nat) (pipes : Pipes) :
    ((advance room actions time pipes).1 = [] ↔
      (actions.map Action.millis).sum ≤ time ∧
        ∀ stream, RoomForAll room (pipes stream) (actions.flatMap (Action.writes stream))) ∧
    ((advance room actions time pipes).1 = [] →
      ∀ stream, (advance room actions time pipes).2 stream =
        pipes stream ++ actions.flatMap (Action.writes stream)) := by
  induction actions generalizing time pipes with
  | nil => simp [advance, RoomForAll]
  | cons action rest inductionHypothesis =>
      cases action with
      | work millis =>
          have writes : ∀ stream, (Action.work millis :: rest).flatMap (Action.writes stream) =
              rest.flatMap (Action.writes stream) := fun _ => rfl
          simp only [writes, List.map_cons, List.sum_cons, Action.millis, advance]
          by_cases early : time < millis
          · have never : ¬ millis + (rest.map Action.millis).sum ≤ time := by omega
            simp [if_pos early, never]
          · have shift : millis + (rest.map Action.millis).sum ≤ time ↔
                (rest.map Action.millis).sum ≤ time - millis := by omega
            rw [if_neg early, shift]
            exact inductionHypothesis _ _
      | write stream bytes =>
          have noTime : ((Action.write stream bytes :: rest).map Action.millis).sum =
              (rest.map Action.millis).sum := by simp [Action.millis]
          rw [noTime]
          by_cases fits : bytes.length ≤ room (pipes stream) bytes
          · have later := inductionHypothesis time
              (Function.update pipes stream (pipes stream ++ [bytes]))
            simp only [update_append, roomForAll_write fits] at later
            simp only [advance, if_pos fits, List.take_of_length_le fits]
            exact later
          · have blocked : ¬ RoomForAll room (pipes stream)
                ((Action.write stream bytes :: rest).flatMap (Action.writes stream)) := by
              rw [List.flatMap_cons, Action.writes, if_pos rfl]
              exact fun found => fits found.1
            have never : ¬ ((rest.map Action.millis).sum ≤ time ∧ ∀ other, RoomForAll room
                (pipes other) ((Action.write stream bytes :: rest).flatMap
                  (Action.writes other))) :=
              fun holds => blocked (holds.2 stream)
            simp only [advance, if_neg fits, never, List.cons_ne_nil, false_implies, iff_self,
              and_self]

end Pipes

/-! ## What is returned -/

/-- The call returns the exit status and the output of a command, truncated. -/
def ReturnsOutput (run : ShellRun) (returned : Nat → Option (Except ToolFailure Json)) : Prop :=
  ∃ rounds result, returned rounds = some result ∧
    ReturnsText result "stdout" maxToolResponseBytes cutMarker
      (fromUtf8Lossy (run.output .stdout)) ∧
    ReturnsText result "stderr" maxToolResponseBytes cutMarker
      (fromUtf8Lossy (run.output .stderr)) ∧
    ∃ json, result = .ok json ∧ json.get "exit_code" = some (exitCodeJson run.status)

/-- Each pipe takes all that a command writes into it. -/
def FitsPipes (room : PipeRoom) (run : ShellRun) : Prop :=
  ∀ stream, RoomForAll room [] (run.writes stream)

variable {room : PipeRoom} {run : ShellRun}

theorem not_returnsText_error {failure : ToolFailure} {key marker whole : String} {limit : Nat} :
    ¬ ReturnsText (.error failure) key limit marker whole := by
  rintro ⟨_, _, result, _⟩
  cases result

theorem tryWait_outside (now : Nat) :
    (run.outside room).tryWait now =
      .ok (if (advance room run.actions now fun _ => []).1.isEmpty then some run.status
        else none) := rfl

/-- The shell is found to have exited exactly once its time has passed, if the pipes keep its
output. -/
theorem tryWait_eq (now : Nat) [Decidable (run.duration ≤ now ∧ FitsPipes room run)] :
    (run.outside room).tryWait now =
      .ok (if run.duration ≤ now ∧ FitsPipes room run then some run.status else none) := by
  have done := (advance_done_iff room run.actions now fun _ => []).1
  rw [tryWait_outside]
  congr 1
  exact if_congr (List.isEmpty_iff.trans done) rfl rfl

theorem tryWait_eq_exited {now : Nat} {status : ExitStatus} :
    (run.outside room).tryWait now = .ok (some status) ↔
      status = run.status ∧ run.duration ≤ now ∧ FitsPipes room run := by
  classical
  rw [tryWait_eq]
  by_cases exits : run.duration ≤ now ∧ FitsPipes room run
  · simp [exits, eq_comm]
  · simp [exits]

/-- Reading the pipes gives the whole output. -/
theorem waitWithOutput_eq {now : Nat} (late : run.duration ≤ now) (fits : FitsPipes room run) :
    (run.outside room).waitWithOutput now =
      .ok (run.output .stdout, run.output .stderr) := by
  obtain ⟨done, holds⟩ := advance_done_iff room run.actions now fun _ => []
  have all := holds (done.mpr ⟨late, fits⟩)
  show Except.ok (((advance room run.actions now fun _ => []).2 .stdout).flatten,
    ((advance room run.actions now fun _ => []).2 .stderr).flatten) = _
  rw [all, all]
  rfl

/-- A poll that does not find the shell to have exited goes on until the timeout. -/
theorem pollRound_outside {timeoutSecs : UInt64} {now : Nat}
    (running : ¬ (run.duration ≤ now ∧ FitsPipes room run)) :
    pollRound timeoutSecs (run.outside room) now =
      if timeoutMillis timeoutSecs < now then some .timedOut else none := by
  classical
  unfold pollRound
  rw [tryWait_eq, if_neg running]

/-- A call that returns outputs has found the exit, so the pipes have kept them. -/
theorem runSandbox_returned {timeoutSecs : UInt64} {schedule : Schedule} {command key marker whole :
    String} {limit rounds : Nat} {result : Except ToolFailure Json}
    (returned : runSandbox timeoutSecs (run.outside room) schedule command (.ok ()) rounds =
      some result) (isText : ReturnsText result key limit marker whole) :
    trimStart (trimEnd command) ≠ "" ∧ FitsPipes room run ∧
      result = runSandboxResult run.status (run.output .stdout) (run.output .stderr) := by
  unfold runSandbox at returned
  split at returned
  · rw [← Option.some.inj returned] at isText
    exact absurd isText not_returnsText_error
  · rename_i visible
    obtain ⟨⟨ended, now⟩, ends, rfl⟩ := Option.map_eq_some_iff.mp returned
    cases ended with
    | timedOut => exact absurd isText not_returnsText_error
    | failed error => exact absurd isText not_returnsText_error
    | exited status =>
        obtain ⟨rfl, late, fits⟩ := tryWait_eq_exited.mp (tryWait_of_pollFrom ends)
        refine ⟨visible, fits, ?_⟩
        simp only [afterLoop, waitWithOutput_eq late fits]

/-- A poll every 50 milliseconds. -/
def steadyPolls : Schedule where
  polls := fun round => 50 * round
  sleeps := fun round => Nat.le_of_eq (Nat.mul_succ 50 round).symm

/-- The pages of a pipe that are in use, and the bytes in the last of them. -/
structure PipePages where
  used : Nat
  last : Nat

/-- A write into a pipe of sixteen pages of 4096 bytes: how many bytes are taken, and what the
pipe is then. What does not fill whole pages goes behind the last page if it fits there; all else
begins on a new page. -/
def PipePages.write (pages : PipePages) (count : Nat) : Nat × PipePages :=
  let part := count % 4096
  if part ≠ 0 ∧ pages.used ≠ 0 ∧ pages.last + part ≤ 4096 then
    let fresh := min (count / 4096) (16 - pages.used)
    (part + 4096 * fresh, ⟨pages.used + fresh, if fresh = 0 then pages.last + part else 4096⟩)
  else
    let fresh := min ((count + 4095) / 4096) (16 - pages.used)
    let taken := min count (4096 * fresh)
    (taken, ⟨pages.used + fresh, if fresh = 0 then pages.last else taken - 4096 * (fresh - 1)⟩)

/-- The pipe of a Linux host. -/
def linuxRoom : PipeRoom := fun earlier bytes =>
  let held : PipePages := earlier.foldl (fun pages taken => (pages.write taken.length).2) ⟨0, 0⟩
  (held.write bytes.length).1

-- Fewer bytes than the pages hold need not fit.
example : ¬ RoomForAll linuxRoom [] (List.replicate 17 (List.replicate 2049 0)) := by
  decide +kernel

/-- A command that makes these writes and exits. -/
def writingRun (writes : List (List UInt8)) : ShellRun where
  actions := writes.map (.write .stdout)
  status := some 0

theorem writes_writingRun (writes : List (List UInt8)) :
    (writingRun writes).writes .stdout = writes := by
  simp [ShellRun.writes, writingRun, Action.writes, List.flatMap_map]

/-- `printf aaa`. -/
def printfRun : ShellRun := writingRun [[97, 97, 97]]

/-- `head -c 65537 /dev/zero`, which writes 8192 bytes at a time. -/
def headRun : ShellRun := writingRun (List.replicate 8 (List.replicate 8192 0) ++ [[0]])

end TriAI.Coding
