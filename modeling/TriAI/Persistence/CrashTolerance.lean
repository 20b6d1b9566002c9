import TriAI.Library.Runs
import TriAI.Persistence.RoundTrip

/-!
Contract: session logs in which crashes have cut off some of the appends.

Owns: what a crash leaves of an append, the runs of completed and cut-off appends,
and the crashes after which `load` still returns every completed append.

Does not own: appends that fail without a crash.
-/

set_option autoImplicit false

namespace TriAI.Persistence

open TriAI.Library.FileTree
open TriAI.Library.Interaction
open TriAI.Library.Runs
open TriAI.Library.TextLines
open TriAI.Storage

variable {Value : Type} {json : JsonCodec Value} {tool : Sha256sum} {root : Path} {id : String}

/-- What a call leaves when the system crashes in it: some of the directories, or
any prefix of the bytes to write behind those that were there. -/
def tornAppend (disk : Disk) : StoreOp → Disk → Prop
  | .createDirAll path, after => ∃ front, front <+: path ∧ after = (disk.createDirAll front).2
  | .writeAll path bytes, after => ∃ kept, kept <+: bytes ∧ after = (disk.writeAll path kept).2
  | _, _ => False

/-- An append to the session, and whether it completed. -/
inductive AppendEvent (Value : Type) where
  | completed (value : Value)
  | cutOff (value : Value)

/-- One append from disk to disk. -/
inductive AppendStep (json : JsonCodec Value) (tool : Sha256sum) (root : Path) (id : String) :
    Disk → AppendEvent Value → Disk → Prop where
  | completed {before after : Disk} {value : Value}
      (ran : Fallible.outcome (StoreOp.apply tool) (append json id value root) before =
        (.ok (), after)) :
      AppendStep json tool root id before (.completed value) after
  | cutOff {before after : Disk} {value : Value}
      (stopped : Fallible.Interrupted (StoreOp.apply tool) tornAppend before
        (append json id value root) after) :
      AppendStep json tool root id before (.cutOff value) after

/-- The values whose appends completed, in their order. -/
def completedValues (history : List (AppendEvent Value)) : List Value :=
  history.filterMap fun
    | .completed value => some value
    | .cutOff _ => none

/-! ## One append that is cut off -/

/-- `after` has some bytes more at a path, at which it has no directory unless
`before` had one. -/
structure Added (before : Disk) (path : Path) (kept : List UInt8) (after : Disk) : Prop where
  bytes : after.bytesAt path = before.bytesAt path ++ kept
  notDirectory : before.lookup path ≠ some .directory → after.lookup path ≠ some .directory

namespace Added

variable {path : Path}

theorem refl (disk : Disk) (path : Path) : Added disk path [] disk :=
  ⟨by simp, fun notDirectory => notDirectory⟩

theorem trans {first second third : Disk} {left right : List UInt8}
    (before : Added first path left second) (after : Added second path right third) :
    Added first path (left ++ right) third where
  bytes := by rw [after.bytes, before.bytes, List.append_assoc]
  notDirectory := fun notDirectory => after.notDirectory (before.notDirectory notDirectory)

theorem of_lookup {before after : Disk} (same : after.lookup path = before.lookup path) :
    Added before path [] after where
  bytes := by rw [Disk.bytesAt_congr same, List.append_nil]
  notDirectory := fun notDirectory => by rwa [same]

theorem of_writesFile {before after : Disk} {kept : List UInt8}
    (writes : before.WritesFile path (before.bytesAt path ++ kept) after) :
    Added before path kept after where
  bytes := writes.bytesAt
  notDirectory := fun _ => by
    obtain ⟨content, isFile, _⟩ := writes.file
    simp [isFile]

/-- Opening a log for appending, whether or not it succeeds. -/
theorem openAppend (disk : Disk) (path : Path) : Added disk path [] (disk.openAppend path).2 := by
  rcases disk.openAppend_cases path with ⟨error, failed⟩ | ⟨after, ran, writes⟩
  · rw [failed]
    exact refl disk path
  · rw [ran]
    apply of_writesFile
    rwa [List.append_nil]

/-- Writing to a log, whether or not it succeeds. -/
theorem writeAll (disk : Disk) (path : Path) (bytes : List UInt8) :
    ∃ kept, kept <+: bytes ∧ Added disk path kept (disk.writeAll path bytes).2 := by
  rcases disk.writeAll_cases path bytes with ⟨error, failed⟩ | ⟨after, ran, writes⟩
  · rw [failed]
    exact ⟨[], List.nil_prefix, refl disk path⟩
  · rw [ran]
    exact ⟨bytes, List.prefix_refl bytes, of_writesFile writes⟩

/-- A write that is cut off adds some prefix of its bytes. -/
theorem of_interrupted {wrap : IoError → PersistenceError} {before after : Disk}
    {bytes : List UInt8}
    (stopped : Fallible.Interrupted (StoreOp.apply tool) tornAppend before
      (Store.writeAll wrap path bytes) after) :
    ∃ kept, kept <+: bytes ∧ Added before path kept after := by
  rcases stopped.of_attempt.of_perform with rfl | ⟨front, isPrefix, rfl⟩ | rfl
  · exact ⟨[], List.nil_prefix, refl _ _⟩
  · obtain ⟨kept, shorter, added⟩ := writeAll before path front
    exact ⟨kept, shorter.trans isPrefix, added⟩
  · exact writeAll before path bytes

end Added

/-- Directories above a log. -/
private theorem added_createDirAll (disk : Disk) (root : Path) (id : String) {front : Path}
    (above : front <+: root) :
    Added disk (sessionPath root id) [] (disk.createDirAll front).2 := by
  apply Added.of_lookup
  apply Disk.createDirAll_frame
  intro below
  exact not_sessionPath_prefix root id (below.trans above)

/-- An append that is cut off has added some prefix of its line. -/
theorem append_interrupted {value : Value} {before after : Disk}
    (stopped : Fallible.Interrupted (StoreOp.apply tool) tornAppend before
      (append json id value root) after) :
    ∃ kept, kept <+: lineOf json value ∧ Added before (sessionPath root id) kept after := by
  have nothing : ∀ {disk}, Added before (sessionPath root id) [] disk →
      ∃ kept, kept <+: lineOf json value ∧ Added before (sessionPath root id) kept disk :=
    fun added => ⟨[], List.nil_prefix, added⟩
  rcases stopped.of_bind with inCheck | ⟨_, checked, ranCheck, afterCheck⟩
  · rw [Fallible.Interrupted.of_result inCheck]
    exact nothing (.refl before _)
  rw [(checkId_eq_ok ranCheck).2] at afterCheck
  rcases afterCheck.of_bind with inMake | ⟨_, made, ranMake, afterMake⟩
  · apply nothing
    rcases inMake.of_attempt.of_perform with rfl | ⟨front, above, rfl⟩ | rfl
    · exact .refl _ _
    · exact added_createDirAll _ root id above
    · exact added_createDirAll _ root id (List.prefix_refl root)
  have isMade : Added before (sessionPath root id) [] made := by
    rw [Store.outcome_createDirAll] at ranMake
    rw [← (Prod.mk.inj ranMake).2]
    exact added_createDirAll before root id (List.prefix_refl root)
  rcases afterMake.of_bind with inOpen | ⟨_, opened, ranOpen, afterOpen⟩
  · apply nothing
    rcases inOpen.of_attempt.of_perform with rfl | torn | rfl
    · exact isMade
    · exact torn.elim
    · exact isMade.trans (.openAppend made _)
  have isOpened : Added before (sessionPath root id) [] opened := by
    rw [Store.outcome_openAppend] at ranOpen
    rw [← (Prod.mk.inj ranOpen).2]
    exact isMade.trans (.openAppend made _)
  rcases afterOpen.of_bind with inSerialize | ⟨text, serialized, ranSerialize, afterSerialize⟩
  · rw [Fallible.Interrupted.of_result inSerialize]
    exact nothing isOpened
  obtain ⟨toText, unchanged⟩ := serialize_eq_ok ranSerialize
  rw [unchanged] at afterSerialize
  rw [lineOf_ok toText]
  rcases afterSerialize.of_bind with inWrite | ⟨_, written, ranWrite, afterWrite⟩
  · obtain ⟨kept, isPrefix, added⟩ := Added.of_interrupted inWrite
    exact ⟨kept, isPrefix.trans (List.prefix_append _ _), isOpened.trans added⟩
  have isWritten : Added before (sessionPath root id) (utf8Bytes text) written := by
    have writes := Disk.writeAll_eq_ok (Fallible.outcome_attempt_eq ranWrite)
    exact isOpened.trans (.of_writesFile writes)
  rcases afterWrite.of_bind with inEnd | ⟨_, ended, ranEnd, inFlush⟩
  · obtain ⟨kept, isPrefix, added⟩ := Added.of_interrupted inEnd
    exact ⟨utf8Bytes text ++ kept, (List.prefix_append_right_inj _).mpr isPrefix,
      isWritten.trans added⟩
  · have isEnded : Added before (sessionPath root id) (lineBytes text) ended := by
      have writes := Disk.writeAll_eq_ok (Fallible.outcome_attempt_eq ranEnd)
      exact isWritten.trans (.of_writesFile writes)
    have unflushed : after = ended := by
      rcases inFlush.of_attempt.of_perform with same | torn | same
      · exact same
      · exact torn.elim
      · exact same
    rw [unflushed]
    exact ⟨lineBytes text, List.prefix_refl _, isEnded⟩

/-! ## Runs -/

/-- The crashes that lose nothing: an append that completes begins on a line of its
own, and one that is cut off leaves whole characters. -/
def KeepsLines (root : Path) (id : String) (before : Disk) (event : AppendEvent Value)
    (after : Disk) : Prop :=
  match event with
  | .completed _ => Terminated 10 (before.bytesAt (sessionPath root id))
  | .cutOff _ => ∃ kept, ValidUtf8 kept ∧
      after.bytesAt (sessionPath root id) = before.bytesAt (sessionPath root id) ++ kept

/-- The log is text, and its complete lines hold all completed appends in order. -/
structure HoldsCompleted (json : JsonCodec Value) (root : Path) (id : String)
    (history : List (AppendEvent Value)) (disk : Disk) : Prop where
  notDirectory : disk.lookup (sessionPath root id) ≠ some .directory
  lines : ∃ front tail, disk.bytesAt (sessionPath root id) = front ++ tail ∧
    Terminated 10 front ∧ ValidUtf8 front ∧ ValidUtf8 tail ∧
    (completedValues history).Sublist ((splitInclusive 10 front).flatMap (valuesOf json))

/-- Step lemma: a completed append whose line is not too long. -/
private theorem HoldsCompleted.completed (lawful : json.Lawful)
    {history : List (AppendEvent Value)} {before after : Disk} {value : Value}
    (holds : HoldsCompleted json root id history before)
    (ran : Fallible.outcome (StoreOp.apply tool) (append json id value root) before =
      (.ok (), after))
    (ownLine : Terminated 10 (before.bytesAt (sessionPath root id)))
    (fits : FitsLine json value) :
    HoldsCompleted json root id (history ++ [.completed value]) after := by
  obtain ⟨_, text, serialized, appends⟩ := append_eq_ok ran
  obtain ⟨content, isFile, written⟩ := appends.file
  obtain ⟨front, tail, split, frontTerminated, frontValid, tailValid, sublist⟩ := holds.lines
  refine ⟨by simp [isFile], before.bytesAt (sessionPath root id) ++ lineBytes text, [], ?_⟩
  have valid : ValidUtf8 (before.bytesAt (sessionPath root id)) := by
    rw [split]
    exact frontValid.append tailValid
  refine ⟨by rw [Disk.bytesAt_file isFile, written, List.append_nil],
    ownLine.append (terminated_lineBytes text), valid.append (validUtf8_lineBytes text),
    validUtf8_nil, ?_⟩
  have oneLine : splitInclusive 10 (lineBytes text) = [lineBytes text] := by
    have absent : (10 : UInt8) ∉ utf8Bytes text := by
      rw [newline_mem_utf8Bytes]
      exact lawful.oneLine value text serialized
    exact splitInclusive_append_separator [] absent
  have added : completedValues (history ++ [AppendEvent.completed value]) =
      completedValues history ++ [value] := by
    simp [completedValues]
  rw [added, splitInclusive_append ownLine, oneLine, split, splitInclusive_append frontTerminated]
  simp only [List.flatMap_append, List.flatMap_singleton, valuesOf_lineBytes lawful serialized,
    if_pos fits]
  exact (sublist.trans (List.sublist_append_left _ _)).append (List.Sublist.refl _)

/-- Step lemma: an append that is cut off between characters. -/
private theorem HoldsCompleted.cutOff {history : List (AppendEvent Value)}
    {before after : Disk} {value : Value} (holds : HoldsCompleted json root id history before)
    (stopped : Fallible.Interrupted (StoreOp.apply tool) tornAppend before
      (append json id value root) after)
    (whole : ∃ kept, ValidUtf8 kept ∧
      after.bytesAt (sessionPath root id) = before.bytesAt (sessionPath root id) ++ kept) :
    HoldsCompleted json root id (history ++ [.cutOff value]) after := by
  obtain ⟨_, _, added⟩ := append_interrupted stopped
  obtain ⟨kept, keptValid, bytes⟩ := whole
  obtain ⟨front, tail, split, frontTerminated, frontValid, tailValid, sublist⟩ := holds.lines
  refine ⟨added.notDirectory holds.notDirectory, front, tail ++ kept, ?_⟩
  refine ⟨by rw [bytes, split, List.append_assoc], frontTerminated, frontValid,
    tailValid.append keptValid, ?_⟩
  simpa [completedValues] using sublist

/-- After any run from a session without a log in which every completed append
begins on a line of its own and every cut leaves whole characters, `load` returns
all completed appends in order, as long as their lines and the file are within the
limits. -/
theorem load_after_crashes (lawful : json.Lawful) {first last : Disk}
    {history : List (AppendEvent Value)}
    (valid : isValidSessionId id = true)
    (fresh : first.lookup (sessionPath root id) = none)
    (run : Run (fun before event after => AppendStep json tool root id before event after ∧
      KeepsLines root id before event after) first history last)
    (lines : ∀ value ∈ completedValues history, FitsLine json value)
    (file : (last.bytesAt (sessionPath root id)).length ≤ maxFileBytes.toNat) :
    ∃ values, Fallible.outcome (StoreOp.apply tool) (load json root id) last =
        (.ok values, last) ∧
      (completedValues history).Sublist values := by
  have holds : (∀ value ∈ completedValues history, FitsLine json value) →
      HoldsCompleted json root id history last := by
    apply run.invariant (fun history disk =>
      (∀ value ∈ completedValues history, FitsLine json value) →
        HoldsCompleted json root id history disk)
    · intro _
      exact ⟨by simp [fresh], [], [], by simp [Disk.bytesAt_none fresh], .inl rfl, validUtf8_nil,
        validUtf8_nil, List.Sublist.refl _⟩
    · intro history before event after soFar stepped fits
      have fitsBefore : ∀ value ∈ completedValues history, FitsLine json value := by
        intro value member
        apply fits
        simp only [completedValues, List.filterMap_append, List.mem_append]
        exact .inl member
      cases stepped.1 with
      | completed ran =>
          apply (soFar fitsBefore).completed lawful ran stepped.2
          apply fits
          simp [completedValues]
      | cutOff stopped => exact (soFar fitsBefore).cutOff stopped stepped.2
  obtain ⟨notDirectory, front, tail, split, terminated, frontValid, tailValid, sublist⟩ :=
    holds lines
  have readable : ∀ raw ∈ splitInclusive 10 (front ++ tail), ValidUtf8 raw :=
    fun raw member => validUtf8_of_mem_splitInclusive (frontValid.append tailValid) member
  rw [load_of_bytes valid notDirectory file, split,
    loadLines_valid id [] readable]
  refine ⟨_, rfl, ?_⟩
  rw [splitInclusive_append terminated, List.nil_append, List.flatMap_append]
  exact sublist.trans (List.sublist_append_left _ _)

/-! ## Two runs -/

/-- The disk after an append has completed. -/
def appended (value : Nat) (disk : Disk) : Disk :=
  (Fallible.outcome (StoreOp.apply noSha256sum)
    (append aStrings "s1" value ["sessions"]) disk).2

/-- The disk after a crash in the write of an append, of which two bytes are kept. -/
def torn (value : Nat) (disk : Disk) : Disk :=
  (((disk.createDirAll ["sessions"]).2.openAppend (sessionPath ["sessions"] "s1")).2.writeAll
    (sessionPath ["sessions"] "s1") ((utf8Bytes (aString value)).take 2)).2

theorem torn_step (value : Nat) (disk : Disk)
    (creates : (disk.createDirAll ["sessions"]).1 = .ok ())
    (opens : ((disk.createDirAll ["sessions"]).2.openAppend
      (sessionPath ["sessions"] "s1")).1 = .ok ()) :
    AppendStep aStrings noSha256sum ["sessions"] "s1" disk (.cutOff value) (torn value disk) := by
  apply AppendStep.cutOff
  apply Fallible.Interrupted.inSecond
  · rfl
  apply Fallible.Interrupted.inSecond
  · exact Fallible.outcome_attempt_ok (Prod.ext creates rfl)
  apply Fallible.Interrupted.inSecond
  · exact Fallible.outcome_attempt_ok (Prod.ext opens rfl)
  apply Fallible.Interrupted.inSecond
  · rfl
  apply Fallible.Interrupted.inFirst
  apply Fallible.Interrupted.inAttempt
  exact .inCall ⟨_, List.take_prefix 2 _, rfl⟩

theorem appended_step (value : Nat) (disk : Disk)
    (succeeds : (Fallible.outcome (StoreOp.apply noSha256sum)
      (append aStrings "s1" value ["sessions"]) disk).1 = .ok ()) :
    AppendStep aStrings noSha256sum ["sessions"] "s1" disk (.completed value)
      (appended value disk) :=
  .completed (Prod.ext succeeds rfl)

/-- A run whose last append is cut off in its line. -/
theorem load_after_last_append_cut :
    ∃ values, Fallible.outcome (StoreOp.apply noSha256sum) (load aStrings ["sessions"] "s1")
        (torn 2 (appended 1 sessionsDisk)) = (.ok values, torn 2 (appended 1 sessionsDisk)) ∧
      (completedValues [AppendEvent.completed 1, .cutOff 2]).Sublist values := by
  have fresh : sessionsDisk.lookup (sessionPath ["sessions"] "s1") = none := by decide +kernel
  have ownLine : Terminated 10 (sessionsDisk.bytesAt (sessionPath ["sessions"] "s1")) := by
    rw [Disk.bytesAt_none fresh]
    exact .inl rfl
  have quoteAndLetter : ValidUtf8 (utf8Bytes "\"a") := validUtf8_utf8Bytes "\"a"
  apply load_after_crashes aStrings_lawful (by decide +kernel) fresh
  · have first : Run (fun before event after =>
        AppendStep aStrings noSha256sum ["sessions"] "s1" before event after ∧
          KeepsLines ["sessions"] "s1" before event after)
        sessionsDisk [.completed 1] (appended 1 sessionsDisk) :=
      .step .start ⟨appended_step 1 sessionsDisk (by decide +kernel), ownLine⟩
    apply first.step
    exact ⟨torn_step 2 _ (by decide +kernel) (by decide +kernel), _, quoteAndLetter,
      by decide +kernel⟩
  · intro value member
    simp only [completedValues, List.filterMap_cons, List.filterMap_nil,
      List.mem_singleton] at member
    rw [member]
    decide +kernel
  · decide +kernel

/-- The line of the append that follows a cut one is lost. -/
theorem load_loses_append_after_cut :
    Run (AppendStep aStrings noSha256sum ["sessions"] "s1") sessionsDisk
        [.cutOff 1, .completed 2] (appended 2 (torn 1 sessionsDisk)) ∧
      Fallible.outcome (StoreOp.apply noSha256sum) (load aStrings ["sessions"] "s1")
        (appended 2 (torn 1 sessionsDisk)) = (.ok [], appended 2 (torn 1 sessionsDisk)) ∧
      ¬ (completedValues [AppendEvent.cutOff 1, .completed 2]).Sublist [] := by
  refine ⟨?_, Prod.ext (by decide +kernel) rfl, by simp [completedValues]⟩
  have first : Run (AppendStep aStrings noSha256sum ["sessions"] "s1") sessionsDisk [.cutOff 1]
      (torn 1 sessionsDisk) :=
    .step .start (torn_step 1 sessionsDisk (by decide +kernel) (by decide +kernel))
  exact first.step (appended_step 2 _ (by decide +kernel))

end TriAI.Persistence
