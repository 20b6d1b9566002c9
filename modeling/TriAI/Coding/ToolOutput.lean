import TriAI.Chat.Attachments
import TriAI.Library.LossyUtf8

/-!
Contract: the texts that the coding tools return (`coding_tools.rs`).

Owns: what `read_file`, `run_code` and `read_comment_file` make of a content or an output; the
cut of a text at a byte; and when a text can be cut at the limit.

Does not own: the file that is read and the process that is run.

`read_file` and `run_code` cut at the limit itself, where a character may lie, which is the
defect. `read_comment_file` steps back to the beginning of that character.
-/

set_option autoImplicit false

namespace TriAI.Coding

open TriAI.Chat (splitBytes)
open TriAI.Library
open TriAI.Library.TextLines

/-- How a tool can end without a result. -/
inductive ToolFailure where
  | message (text : String)
  | panicked
deriving DecidableEq

/-- `MAX_TOOL_RESPONSE_BYTES`. -/
def maxToolResponseBytes : Nat := 32 * 1024

/-- `MAX_COMMENT_FILE_BYTES`. -/
def maxCommentFileBytes : Nat := 64 * 1024

/-! ## Cutting a text -/

/-- `&text[..end]`. A text is cut between its characters only. -/
def sliceTo (text : String) (endByte : Nat) : Except ToolFailure String :=
  let front := String.ofList (splitBytes endByte text.toList).1
  if front.utf8ByteSize = endByte then .ok front else .error .panicked

/-- The text can be cut at the byte: one of its fronts ends there. -/
def CutsAt (text : String) (endByte : Nat) : Prop :=
  ∃ front : String, front.toList <+: text.toList ∧ front.utf8ByteSize = endByte

theorem utf8ByteSize_ofList_cons (c : Char) (rest : List Char) :
    (String.ofList (c :: rest)).utf8ByteSize =
      c.utf8Size + (String.ofList rest).utf8ByteSize := by
  rw [String.ofList_cons, String.utf8ByteSize_append, String.utf8ByteSize_singleton]

theorem splitBytes_prefix (limit : Nat) (chars : List Char) :
    (splitBytes limit chars).1 <+: chars := by
  induction chars generalizing limit with
  | nil => exact List.prefix_rfl
  | cons c rest inductionHypothesis =>
      unfold splitBytes
      split
      · exact (List.prefix_cons_inj c).mpr (inductionHypothesis _)
      · exact List.nil_prefix

theorem splitBytes_size_le (limit : Nat) (chars : List Char) :
    (String.ofList (splitBytes limit chars).1).utf8ByteSize ≤ limit := by
  induction chars generalizing limit with
  | nil => exact Nat.zero_le _
  | cons c rest inductionHypothesis =>
      unfold splitBytes
      split
      · have later := inductionHypothesis (limit - c.utf8Size)
        rw [utf8ByteSize_ofList_cons]
        omega
      · exact Nat.zero_le _

/-- A front is found again at its size. -/
theorem splitBytes_append (front rest : List Char) :
    (splitBytes (String.ofList front).utf8ByteSize (front ++ rest)).1 = front := by
  induction front with
  | nil =>
      cases rest with
      | nil => rfl
      | cons c rest =>
          have positive := c.utf8Size_pos
          have tooLarge : ¬ c.utf8Size ≤ (String.ofList []).utf8ByteSize := by
            rw [show (String.ofList []).utf8ByteSize = 0 from rfl]
            omega
          rw [List.nil_append, splitBytes, if_neg tooLarge]
  | cons c front inductionHypothesis =>
      have fits : c.utf8Size ≤ c.utf8Size + (String.ofList front).utf8ByteSize := by omega
      have left : c.utf8Size + (String.ofList front).utf8ByteSize - c.utf8Size =
          (String.ofList front).utf8ByteSize := by omega
      rw [utf8ByteSize_ofList_cons, List.cons_append, splitBytes, if_pos fits, left]
      exact congrArg (c :: ·) inductionHypothesis

/-- Cutting succeeds exactly where a front ends. -/
theorem sliceTo_eq_ok {text front : String} {endByte : Nat} :
    sliceTo text endByte = .ok front ↔
      front.toList <+: text.toList ∧ front.utf8ByteSize = endByte := by
  unfold sliceTo
  constructor
  · intro cut
    simp only at cut
    split at cut
    · rename_i ends
      obtain rfl := Except.ok.inj cut
      exact ⟨by rw [String.toList_ofList]; exact splitBytes_prefix _ _, ends⟩
    · cases cut
  · intro isFront
    obtain ⟨⟨rest, whole⟩, ends⟩ := isFront
    have found : (splitBytes endByte text.toList).1 = front.toList := by
      have again := splitBytes_append front.toList rest
      rwa [String.ofList_toList, ends, whole] at again
    rw [found, String.ofList_toList, if_pos ends]

theorem sliceTo_fails {text : String} {endByte : Nat} (within : ¬ CutsAt text endByte) :
    sliceTo text endByte = .error .panicked := by
  unfold sliceTo
  rw [if_neg]
  intro ends
  apply within
  exact ⟨_, by rw [String.toList_ofList]; exact splitBytes_prefix _ _, ends⟩

/-! ## What the tools return -/

/-- `read_file`, given what reading the file gives. -/
def readFileResult (rel : String) : Except String String → Except ToolFailure Json
  | .error e => .error (.message s!"read_file: Datei nicht lesbar: {e}")
  | .ok data => do
      let truncated := decide (maxToolResponseBytes < data.utf8ByteSize)
      let content ← if truncated then sliceTo data maxToolResponseBytes else pure data
      return .object [("path", .string rel), ("content", .string content),
        ("truncated", .bool truncated)]

/-- The marker of `run_code`. -/
def cutMarker : String := "… [gekürzt]"

/-- `trunc` of `run_sandbox`. -/
def trunc (s : String) : Except ToolFailure String :=
  if maxToolResponseBytes < s.utf8ByteSize then do
    let front ← sliceTo s maxToolResponseBytes
    return front ++ cutMarker
  else pure s

/-- The exit code of a process that was not ended by a signal. -/
def exitCodeJson : Option Int32 → Json
  | none => .null
  | some code =>
      if 0 ≤ code.toInt then .number (.posInt (UInt64.ofNat code.toInt.toNat))
      else .number (.negInt (Int64.ofInt code.toInt))

/-- `run_sandbox`, given how the process has ended and what it has put out. -/
def runSandboxResult (exitCode : Option Int32) (stdout stderr : List UInt8) :
    Except ToolFailure Json := do
  let out ← trunc (fromUtf8Lossy stdout)
  let err ← trunc (fromUtf8Lossy stderr)
  return .object [("exit_code", exitCodeJson exitCode), ("stdout", .string out),
    ("stderr", .string err)]

/-- `read_comment_file`, given what reading the file gives. -/
def readCommentFileResult (path : String) : Except String (List UInt8) → Except ToolFailure Json
  | .error e => .error (.message s!"read_comment_file: Datei nicht lesbar: {e}")
  | .ok data =>
      if 0 ∈ data then .error (.message "read_comment_file: Datei enthaelt NUL-Bytes (binaer)")
      else
        match fromUtf8 data with
        | none =>
            .error (.message
              "read_comment_file: Datei ist kein gueltiger UTF-8-Text (binaer)")
        | some text =>
            let truncated := decide (maxCommentFileBytes < text.utf8ByteSize)
            -- the end goes back to the next boundary of a character
            let content :=
              if truncated then String.ofList (splitBytes maxCommentFileBytes text.toList).1
              else text
            .ok (.object [("path", .string path), ("content", .string content),
              ("truncated", .bool truncated)])

/-! ## Truncation -/

/-- The text is the whole, or a front of it within the limit with the marker behind. -/
def Truncates (limit : Nat) (marker whole text : String) : Prop :=
  text = whole ∨ ∃ front : String, front.toList <+: whole.toList ∧ front.utf8ByteSize ≤ limit ∧
    text = front ++ marker

/-- The result has the text under a key, truncated. -/
def ReturnsText (result : Except ToolFailure Json) (key : String) (limit : Nat)
    (marker whole : String) : Prop :=
  ∃ json text, result = .ok json ∧ json.get key = some (.string text) ∧
    Truncates limit marker whole text

/-- The text is within the limit, or can be cut there. -/
def FitsOrCuts (text : String) : Prop :=
  text.utf8ByteSize ≤ maxToolResponseBytes ∨ CutsAt text maxToolResponseBytes

/-- What is not within the limit is cut there. -/
theorem cuts_of_fitsOrCuts {text : String} (fits : FitsOrCuts text)
    (large : maxToolResponseBytes < text.utf8ByteSize) :
    ∃ front, sliceTo text maxToolResponseBytes = .ok front ∧ front.toList <+: text.toList ∧
      front.utf8ByteSize ≤ maxToolResponseBytes := by
  obtain ⟨front, isFront, ends⟩ := fits.resolve_left (Nat.not_le.mpr large)
  exact ⟨front, sliceTo_eq_ok.mpr ⟨isFront, ends⟩, isFront, Nat.le_of_eq ends⟩

theorem sliceTo_of_not_fitsOrCuts {text : String} (broken : ¬ FitsOrCuts text) :
    maxToolResponseBytes < text.utf8ByteSize ∧
      sliceTo text maxToolResponseBytes = .error .panicked := by
  unfold FitsOrCuts at broken
  rw [not_or] at broken
  exact ⟨Nat.not_le.mp broken.1, sliceTo_fails broken.2⟩

theorem readFileResult_returns_iff (rel content : String) :
    ReturnsText (readFileResult rel (.ok content)) "content" maxToolResponseBytes "" content ↔
      FitsOrCuts content := by
  unfold readFileResult
  constructor
  · intro returns
    by_contra broken
    obtain ⟨large, panics⟩ := sliceTo_of_not_fitsOrCuts broken
    obtain ⟨json, text, result, _⟩ := returns
    simp [large, panics, bind, Except.bind] at result
  · intro fits
    by_cases large : maxToolResponseBytes < content.utf8ByteSize
    · obtain ⟨front, cut, isFront, small⟩ := cuts_of_fitsOrCuts fits large
      refine ⟨_, front, by simp [large, cut, bind, Except.bind]; rfl, rfl, .inr ?_⟩
      exact ⟨front, isFront, small, (String.append_empty).symm⟩
    · exact ⟨_, content, by simp [large, bind, Except.bind, pure, Except.pure]; rfl, rfl, .inl rfl⟩

theorem trunc_ok_iff (s : String) :
    (∃ text, trunc s = .ok text ∧ Truncates maxToolResponseBytes cutMarker s text) ↔
      FitsOrCuts s := by
  unfold trunc
  constructor
  · intro returns
    by_contra broken
    obtain ⟨large, panics⟩ := sliceTo_of_not_fitsOrCuts broken
    obtain ⟨text, result, _⟩ := returns
    rw [if_pos large, panics] at result
    cases result
  · intro fits
    by_cases large : maxToolResponseBytes < s.utf8ByteSize
    · obtain ⟨front, cut, isFront, small⟩ := cuts_of_fitsOrCuts fits large
      rw [if_pos large, cut]
      exact ⟨front ++ cutMarker, rfl, .inr ⟨front, isFront, small, rfl⟩⟩
    · rw [if_neg large]
      exact ⟨s, rfl, .inl rfl⟩

theorem runSandboxResult_eq_ok {exitCode : Option Int32} {stdout stderr : List UInt8}
    {json : Json} (result : runSandboxResult exitCode stdout stderr = .ok json) :
    ∃ out err, trunc (fromUtf8Lossy stdout) = .ok out ∧ trunc (fromUtf8Lossy stderr) = .ok err ∧
      json.get "stdout" = some (.string out) ∧ json.get "stderr" = some (.string err) ∧
      json.get "exit_code" = some (exitCodeJson exitCode) := by
  unfold runSandboxResult at result
  obtain ⟨out, first, rest⟩ := bind_eq_ok.mp result
  obtain ⟨err, second, rest⟩ := bind_eq_ok.mp rest
  obtain rfl := Except.ok.inj rest
  exact ⟨out, err, first, second, rfl, rfl, rfl⟩

theorem runSandboxResult_returns_iff (exitCode : Option Int32) (stdout stderr : List UInt8) :
    (ReturnsText (runSandboxResult exitCode stdout stderr) "stdout" maxToolResponseBytes cutMarker
        (fromUtf8Lossy stdout) ∧
      ReturnsText (runSandboxResult exitCode stdout stderr) "stderr" maxToolResponseBytes cutMarker
        (fromUtf8Lossy stderr)) ↔
      FitsOrCuts (fromUtf8Lossy stdout) ∧ FitsOrCuts (fromUtf8Lossy stderr) := by
  rw [← trunc_ok_iff, ← trunc_ok_iff]
  constructor
  · intro returns
    obtain ⟨⟨json, outText, result, isOut, outCut⟩, again, errText, same, isErr, errCut⟩ := returns
    obtain rfl := Except.ok.inj (result.symm.trans same)
    obtain ⟨out, err, outOk, errOk, outField, errField, _⟩ := runSandboxResult_eq_ok result
    obtain rfl := Json.string.inj (Option.some.inj (outField.symm.trans isOut))
    obtain rfl := Json.string.inj (Option.some.inj (errField.symm.trans isErr))
    exact ⟨⟨out, outOk, outCut⟩, err, errOk, errCut⟩
  · intro cuts
    obtain ⟨⟨out, outOk, outCut⟩, err, errOk, errCut⟩ := cuts
    have result : runSandboxResult exitCode stdout stderr =
        .ok (.object [("exit_code", exitCodeJson exitCode), ("stdout", .string out),
          ("stderr", .string err)]) := by
      unfold runSandboxResult
      rw [outOk, errOk]
      rfl
    exact ⟨⟨_, out, result, rfl, outCut⟩, _, err, result, rfl, errCut⟩

/-- The sibling is safe for every text without NUL. -/
theorem readCommentFileResult_returns (path text : String) (noNul : 0 ∉ utf8Bytes text) :
    ReturnsText (readCommentFileResult path (.ok (utf8Bytes text))) "content" maxCommentFileBytes ""
      text := by
  unfold readCommentFileResult
  simp only [noNul, if_false, fromUtf8_utf8Bytes]
  by_cases large : maxCommentFileBytes < text.utf8ByteSize
  · refine ⟨_, String.ofList (splitBytes maxCommentFileBytes text.toList).1, rfl, ?_, .inr ?_⟩
    · simp [List.lookup_cons, large]
    · refine ⟨_, ?_, splitBytes_size_le _ _, String.append_empty.symm⟩
      rw [String.toList_ofList]
      exact splitBytes_prefix _ _
  · refine ⟨_, text, rfl, ?_, .inl rfl⟩
    simp [List.lookup_cons, large]

/-- `read_file` and `run_code` return their texts, truncated at a character, exactly if the
texts are within the limit or can be cut there. -/
theorem toolOutput_truncates_iff (rel content : String) (exitCode : Option Int32)
    (stdout stderr : List UInt8) :
    (ReturnsText (readFileResult rel (.ok content)) "content" maxToolResponseBytes "" content ↔
      FitsOrCuts content) ∧
    (ReturnsText (runSandboxResult exitCode stdout stderr) "stdout" maxToolResponseBytes cutMarker
        (fromUtf8Lossy stdout) ∧
      ReturnsText (runSandboxResult exitCode stdout stderr) "stderr" maxToolResponseBytes cutMarker
        (fromUtf8Lossy stderr) ↔
      FitsOrCuts (fromUtf8Lossy stdout) ∧ FitsOrCuts (fromUtf8Lossy stderr)) :=
  ⟨readFileResult_returns_iff rel content, runSandboxResult_returns_iff exitCode stdout stderr⟩

/-! ## A character at the limit -/

/-- A text whose last character lies across the byte behind so many. -/
def acrossLimit (before : Nat) : String := String.ofList (List.replicate before 'a' ++ ['é'])

theorem utf8ByteSize_ofList_append (front rest : List Char) :
    (String.ofList (front ++ rest)).utf8ByteSize =
      (String.ofList front).utf8ByteSize + (String.ofList rest).utf8ByteSize := by
  rw [String.ofList_append, String.utf8ByteSize_append]

private theorem utf8ByteSize_replicate (count : Nat) :
    (String.ofList (List.replicate count 'a')).utf8ByteSize = count := by
  induction count with
  | zero => rfl
  | succ count inductionHypothesis =>
      have one : 'a'.utf8Size = 1 := by decide
      rw [List.replicate_succ, utf8ByteSize_ofList_cons, inductionHypothesis, one]
      omega

private theorem utf8ByteSize_acrossLimit (before : Nat) :
    (acrossLimit before).utf8ByteSize = before + 2 := by
  have lastSize : (String.ofList ['é']).utf8ByteSize = 2 := by decide
  unfold acrossLimit
  rw [utf8ByteSize_ofList_append, utf8ByteSize_replicate, lastSize]

private theorem not_cutsAt_acrossLimit (before : Nat) :
    ¬ CutsAt (acrossLimit before) (before + 1) := by
  intro cuts
  obtain ⟨front, isFront, ends⟩ := cuts
  unfold acrossLimit at isFront
  rw [String.toList_ofList] at isFront
  rcases List.prefix_concat_iff.mp isFront with whole | ⟨rest, isReplicate⟩
  · have sameText : front = acrossLimit before := by
      rw [← String.ofList_toList (s := front), whole]
      rfl
    have size := utf8ByteSize_acrossLimit before
    rw [← sameText] at size
    omega
  · have sizes := utf8ByteSize_ofList_append front.toList rest
    rw [isReplicate, utf8ByteSize_replicate, String.ofList_toList] at sizes
    omega

private theorem not_fitsOrCuts_acrossLimit {before : Nat}
    (atLimit : before + 1 = maxToolResponseBytes) : ¬ FitsOrCuts (acrossLimit before) := by
  intro fits
  rcases fits with small | cuts
  · rw [utf8ByteSize_acrossLimit] at small
    omega
  · rw [← atLimit] at cuts
    exact not_cutsAt_acrossLimit before cuts

private theorem readFileResult_acrossLimit {before : Nat}
    (atLimit : before + 1 = maxToolResponseBytes) (rel : String) :
    readFileResult rel (.ok (acrossLimit before)) = .error .panicked ∧
      ¬ ReturnsText (readFileResult rel (.ok (acrossLimit before))) "content"
        maxToolResponseBytes "" (acrossLimit before) := by
  have broken := not_fitsOrCuts_acrossLimit atLimit
  obtain ⟨large, panics⟩ := sliceTo_of_not_fitsOrCuts broken
  constructor
  · simp [readFileResult, large, panics, bind, Except.bind]
  · rw [readFileResult_returns_iff]
    exact broken

/-- Reading such a file panics. -/
theorem toolOutput_panics :
    readFileResult "a.txt" (.ok (acrossLimit 32767)) = .error .panicked ∧
      ¬ ReturnsText (readFileResult "a.txt" (.ok (acrossLimit 32767))) "content"
        maxToolResponseBytes "" (acrossLimit 32767) :=
  readFileResult_acrossLimit rfl "a.txt"

end TriAI.Coding
