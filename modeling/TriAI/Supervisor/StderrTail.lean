import TriAI.Library.LastItems
import TriAI.Library.LossyUtf8

/-!
Contract: the tail of a worker's standard error (`supervisor.rs`).

Owns: `append_tail`, the reading thread of `StderrCapture::start` and the decoding of
`StderrCapture::finish`, and that the tail is the end of what the worker wrote.

Does not own: the pipe. A run of the thread is given by what each `read` brings; the mutex of
the tail lets each append finish. What the supervisor does with the decoded tail is in
`Supervisor.Worker`.
-/

set_option autoImplicit false

namespace TriAI.Supervisor

open TriAI.Library.LastItems
open TriAI.Library.TextLines

/-! ## The tail -/

/-- `STDERR_TAIL_LIMIT`. -/
def stderrTailLimit : Nat := 64 * 1024

/-- The `overflow` of `append_tail`. The sum saturates at the largest `usize`. -/
def tailOverflow (tail bytes : List UInt8) : Nat :=
  min (tail.length + bytes.length) (2 ^ 64 - 1) - stderrTailLimit

/-- `append_tail`. -/
def appendTail (tail bytes : List UInt8) : List UInt8 :=
  if stderrTailLimit ≤ bytes.length then bytes.drop (bytes.length - stderrTailLimit)
  else
    let overflow := tailOverflow tail bytes
    (if 0 < overflow then tail.drop overflow else tail) ++ bytes

/-- `drain` never gets a range past the end of the tail, so it does not panic. -/
theorem tailOverflow_le {tail bytes : List UInt8} (short : bytes.length < stderrTailLimit) :
    tailOverflow tail bytes ≤ tail.length := by
  unfold tailOverflow
  omega

/-- The sum does not saturate for a tail within the limit. -/
theorem tailOverflow_eq {tail bytes : List UInt8} (bounded : tail.length ≤ stderrTailLimit)
    (short : bytes.length < stderrTailLimit) :
    tailOverflow tail bytes = tail.length + bytes.length - stderrTailLimit := by
  have limit : stderrTailLimit = 65536 := rfl
  unfold tailOverflow
  omega

theorem appendTail_of_short {tail bytes : List UInt8} (bounded : tail.length ≤ stderrTailLimit)
    (short : bytes.length < stderrTailLimit) :
    appendTail tail bytes =
      tail.drop (tail.length + bytes.length - stderrTailLimit) ++ bytes := by
  have branch : appendTail tail bytes =
      (if 0 < tailOverflow tail bytes then tail.drop (tailOverflow tail bytes) else tail) ++
        bytes := if_neg (Nat.not_le.mpr short)
  rw [branch, tailOverflow_eq bounded short]
  by_cases drops : 0 < tail.length + bytes.length - stderrTailLimit
  · rw [if_pos drops]
  · have nothing : tail.length + bytes.length - stderrTailLimit = 0 := by omega
    rw [if_neg drops, nothing, List.drop_zero]

/-- One chunk: of the last bytes so far it makes the last bytes with the chunk. -/
theorem keepsLast_appendTail : KeepsLast stderrTailLimit appendTail := by
  intro seen chunk
  by_cases long : stderrTailLimit ≤ chunk.length
  · rw [rtake_append_of_le_length long]
    exact if_pos long
  · have short : chunk.length < stderrTailLimit := Nat.lt_of_not_le long
    have bounded : (seen.rtake stderrTailLimit).length ≤ stderrTailLimit := by
      rw [length_rtake]
      exact Nat.min_le_right _ _
    rw [appendTail_of_short bounded short, drop_rtake short.le, rtake_append_of_length_le short.le]

/-- Chunks of any sizes leave exactly the last bytes of what they contain together. -/
theorem appendTail_keepsLatest (chunks : List (List UInt8)) :
    chunks.foldl appendTail [] <:+ chunks.flatten ∧
      (chunks.foldl appendTail []).length = min chunks.flatten.length stderrTailLimit := by
  rw [keepsLast_appendTail.foldl]
  exact ⟨rtake_suffix _ _, length_rtake _ _⟩

/-! ## The reading thread -/

/-- What one `read` of the pipe brings. -/
inductive PipeRead where
  /-- The filled part of the buffer of 4096 bytes; nothing at the end of the stream. -/
  | data (bytes : List UInt8)
  | interrupted
  /-- The pipe is empty, and `stop` as it was loaded then. -/
  | wouldBlock (stop : Bool)
  | failed

namespace PipeRead

/-- Whether the loop goes on. -/
def goesOn : PipeRead → Bool
  | .data bytes => !bytes.isEmpty
  | .interrupted => true
  | .wouldBlock stop => !stop
  | .failed => false

def bytes : PipeRead → List UInt8
  | .data bytes => bytes
  | .interrupted => []
  | .wouldBlock _ => []
  | .failed => []

end PipeRead

/-- A round of the loop, without a tail where it breaks. -/
def captureRound (tail : List UInt8) : PipeRead → Option (List UInt8)
  | .data [] => none
  | .data (first :: rest) => some (appendTail tail (first :: rest))
  | .interrupted => some tail
  | .wouldBlock stop => if stop then none else some tail
  | .failed => none

/-- The tail when the loop is left, or where the observation of it ends. -/
def captureLoop (tail : List UInt8) : List PipeRead → List UInt8
  | [] => tail
  | read :: rest =>
      match captureRound tail read with
      | none => tail
      | some appended => captureLoop appended rest

/-- `StderrCapture::finish` after these reads. -/
def finishedTail (reads : List PipeRead) : String := fromUtf8Lossy (captureLoop [] reads)

/-- What the worker wrote, as far as the loop read it. -/
def captured (reads : List PipeRead) : List UInt8 :=
  ((reads.takeWhile PipeRead.goesOn).map PipeRead.bytes).flatten

theorem captureRound_keepsLast (seen : List UInt8) (read : PipeRead) :
    captureRound (seen.rtake stderrTailLimit) read =
      if read.goesOn then some ((seen ++ read.bytes).rtake stderrTailLimit) else none := by
  cases read with
  | data bytes =>
      cases bytes with
      | nil => rfl
      | cons first rest => exact congrArg some (keepsLast_appendTail seen (first :: rest))
  | interrupted =>
      show some _ = some _
      rw [PipeRead.bytes, List.append_nil]
  | wouldBlock stop =>
      cases stop with
      | true => rfl
      | false =>
          show some _ = some _
          rw [PipeRead.bytes, List.append_nil]
  | failed => rfl

theorem captureLoop_from (seen : List UInt8) (reads : List PipeRead) :
    captureLoop (seen.rtake stderrTailLimit) reads =
      (seen ++ captured reads).rtake stderrTailLimit := by
  induction reads generalizing seen with
  | nil =>
      show seen.rtake stderrTailLimit = (seen ++ []).rtake stderrTailLimit
      rw [List.append_nil]
  | cons read rest inductionHypothesis =>
      rw [captureLoop, captureRound_keepsLast]
      by_cases goesOn : read.goesOn
      · have first : captured (read :: rest) = read.bytes ++ captured rest := by
          unfold captured
          rw [List.takeWhile_cons_of_pos goesOn, List.map_cons, List.flatten_cons]
        rw [if_pos goesOn, first, ← List.append_assoc]
        exact inductionHypothesis (seen ++ read.bytes)
      · have last : captured (read :: rest) = [] := by
          unfold captured
          rw [List.takeWhile_cons_of_neg goesOn, List.map_nil, List.flatten_nil]
        rw [if_neg goesOn, last, List.append_nil]

/-- However the reads go, `finish` decodes the end of what the loop read. -/
theorem finishedTail_eq (reads : List PipeRead) :
    finishedTail reads = fromUtf8Lossy ((captured reads).rtake stderrTailLimit) := by
  have fromNothing := captureLoop_from [] reads
  rw [List.rtake_nil, List.nil_append] at fromNothing
  unfold finishedTail
  rw [fromNothing]

end TriAI.Supervisor
