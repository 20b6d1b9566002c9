import TriAI.Persistence.SessionLog
import TriAI.Storage.Changes

/-!
Contract: what loading a session returns after completed appends.

Owns: the line of a value, what `append` adds to a log file, what `load` makes of
the lines of one, and the exact result of loading a log that appends have written.

Does not own: appends that a crash has cut off (`Persistence.CrashTolerance`).
-/

set_option autoImplicit false

namespace TriAI.Persistence

open TriAI.Library.FileTree
open TriAI.Library.Interaction
open TriAI.Library.TextLines
open TriAI.Storage
open TriAI.Supervisor (isWhitespace)

variable {Value : Type} {json : JsonCodec Value} {tool : Sha256sum}

/-! ## Paths -/

theorem sessionPath_injective {root : Path} {left right : String}
    (same : sessionPath root left = sessionPath root right) : left = right := by
  simp only [sessionPath, List.append_cancel_left_eq, List.cons.injEq, and_true] at same
  have characters := congrArg String.toList same
  simp only [String.toList_append, List.append_cancel_right_eq] at characters
  exact String.toList_injective characters

/-- A log file lies below the directory of the sessions. -/
theorem not_sessionPath_prefix (root : Path) (id : String) : ¬ sessionPath root id <+: root := by
  intro below
  have shorter := below.length_le
  simp [sessionPath] at shorter

/-! ## Lines -/

/-- The bytes `append` writes for a JSON text. -/
def lineBytes (text : String) : List UInt8 := utf8Bytes text ++ [10]

theorem lineBytes_eq (text : String) : lineBytes text = utf8Bytes (text ++ "\n") := by
  rw [utf8Bytes_append]
  rfl

theorem validUtf8_lineBytes (text : String) : ValidUtf8 (lineBytes text) := by
  rw [lineBytes_eq]
  exact validUtf8_utf8Bytes _

theorem terminated_lineBytes (text : String) : Terminated 10 (lineBytes text) :=
  .inr ⟨utf8Bytes text, rfl⟩

/-- The bytes `append` writes for a value that can be serialised. -/
def lineOf (json : JsonCodec Value) (value : Value) : List UInt8 :=
  match json.toString value with
  | .ok text => lineBytes text
  | .error _ => []

theorem lineOf_ok {value : Value} {text : String} (serialized : json.toString value = .ok text) :
    lineOf json value = lineBytes text := by
  simp [lineOf, serialized]

/-- A line `load` does not skip for its length. -/
def FitsLine (json : JsonCodec Value) (value : Value) : Prop :=
  (lineOf json value).length ≤ maxLineBytes

instance (json : JsonCodec Value) (value : Value) : Decidable (FitsLine json value) := by
  unfold FitsLine
  infer_instance

/-- The values `load` takes from the bytes of a line. -/
def valuesOf (json : JsonCodec Value) (raw : List UInt8) : List Value :=
  match fromUtf8 raw with
  | some buf => lineValues json buf
  | none => []

/-- Lines that are all texts are loaded one after the other. -/
theorem loadLines_valid (id : String) {raws : List (List UInt8)} (lines : List Value)
    (valid : ∀ raw ∈ raws, ValidUtf8 raw) :
    loadLines json id raws lines = .ok (lines ++ raws.flatMap (valuesOf json)) := by
  induction raws generalizing lines with
  | nil => simp [loadLines]
  | cons raw rest inductionHypothesis =>
      obtain ⟨text, isText⟩ := validUtf8_iff.mp (valid raw (List.mem_cons_self ..))
      have decoded : fromUtf8 raw = some text := fromUtf8_eq_some.mpr isText
      have validRest : ∀ other ∈ rest, ValidUtf8 other :=
        fun other member => valid other (List.mem_cons_of_mem _ member)
      rw [loadLines, decoded]
      simp only
      rw [inductionHypothesis _ validRest]
      simp [valuesOf, decoded]

/-- The line of a value gives the value back if it is not too long. -/
theorem valuesOf_lineBytes (lawful : json.Lawful) {value : Value} {text : String}
    (serialized : json.toString value = .ok text) :
    valuesOf json (lineBytes text) = if FitsLine json value then [value] else [] := by
  obtain ⟨c, rest, begins, notBlank⟩ := lawful.begins value text serialized
  have visible : ¬ (text ++ "\n").toList.all isWhitespace := by
    rw [String.toList_append, begins]
    simp [notBlank]
  have size : (utf8Bytes (text ++ "\n")).length = (lineOf json value).length := by
    rw [lineOf_ok serialized, lineBytes_eq]
  simp only [valuesOf, lineBytes_eq, fromUtf8_utf8Bytes, lineValues,
    lawful.parses value text serialized, size]
  by_cases fits : FitsLine json value
  · have short : ¬ maxLineBytes < (lineOf json value).length := by
      unfold FitsLine at fits
      omega
    rw [if_neg (by simp only [visible, short]; simp), if_pos fits]
    rfl
  · have long : maxLineBytes < (lineOf json value).length := by
      unfold FitsLine at fits
      omega
    rw [if_pos (.inr long), if_neg fits]

/-- Lines are loaded from left to right. -/
theorem loadLines_append (id : String) (front rest : List (List UInt8)) (lines : List Value) :
    loadLines json id (front ++ rest) lines =
      loadLines json id front lines >>= loadLines json id rest := by
  induction front generalizing lines with
  | nil => rfl
  | cons raw front inductionHypothesis =>
      rw [List.cons_append, loadLines, loadLines]
      cases fromUtf8 raw with
      | none => rfl
      | some buf => exact inductionHypothesis _

/-! ## Logs -/

/-- The bytes of a log that completed appends have written. -/
def logBytes (json : JsonCodec Value) (values : List Value) : List UInt8 :=
  values.flatMap (lineOf json)

/-- Values that can be serialised. -/
def Serializable (json : JsonCodec Value) (values : List Value) : Prop :=
  ∀ value ∈ values, ∃ text, json.toString value = .ok text

/-- Reading such a log line by line gives the lines that were written. -/
theorem splitInclusive_logBytes (lawful : json.Lawful) {values : List Value}
    (serializable : Serializable json values) :
    splitInclusive 10 (logBytes json values) = values.map (lineOf json) := by
  induction values with
  | nil => rfl
  | cons value rest inductionHypothesis =>
      obtain ⟨text, serialized⟩ := serializable value (List.mem_cons_self ..)
      have oneLine : (10 : UInt8) ∉ utf8Bytes text := by
        rw [newline_mem_utf8Bytes]
        exact lawful.oneLine value text serialized
      have restSerializable : Serializable json rest :=
        fun other member => serializable other (List.mem_cons_of_mem _ member)
      have whole : logBytes json (value :: rest) =
          utf8Bytes text ++ 10 :: logBytes json rest := by
        simp [logBytes, lineOf_ok serialized, lineBytes]
      rw [whole, splitInclusive_append_separator _ oneLine, inductionHypothesis restSerializable]
      simp [lineOf_ok serialized, lineBytes]

/-- Such a log holds its values, without those whose lines are too long. -/
theorem loadLines_logBytes (lawful : json.Lawful) (id : String) {values : List Value}
    (serializable : Serializable json values) (lines : List Value) :
    loadLines json id (splitInclusive 10 (logBytes json values)) lines =
      .ok (lines ++ values.filter (FitsLine json)) := by
  rw [splitInclusive_logBytes lawful serializable, loadLines_valid]
  · apply congrArg (Except.ok <| lines ++ ·)
    induction values with
    | nil => rfl
    | cons value rest inductionHypothesis =>
        obtain ⟨text, serialized⟩ := serializable value (List.mem_cons_self ..)
        have restSerializable : Serializable json rest :=
          fun other member => serializable other (List.mem_cons_of_mem _ member)
        rw [List.map_cons, List.flatMap_cons, inductionHypothesis restSerializable,
          lineOf_ok serialized, valuesOf_lineBytes lawful serialized]
        by_cases fits : FitsLine json value <;> simp [fits]
  · intro raw member
    obtain ⟨value, isValue, rfl⟩ := List.mem_map.mp member
    obtain ⟨text, serialized⟩ := serializable value isValue
    rw [lineOf_ok serialized]
    exact validUtf8_lineBytes text

/-! ## The two operations on a disk -/

/-- `after` differs from `before` by some bytes at the end of one log, and perhaps
by new directories above it. -/
structure Appends (before : Disk) (root : Path) (id : String) (bytes : List UInt8)
    (after : Disk) : Prop where
  file : ∃ content, after.lookup (sessionPath root id) = some (.file content) ∧
    content.bytes = before.bytesAt (sessionPath root id) ++ bytes
  frame : ∀ other, other ≠ sessionPath root id → ¬ other <+: root →
    after.lookup other = before.lookup other

theorem checkId_eq_ok {id : String} {before after : Disk}
    (ran : Fallible.outcome (StoreOp.apply tool) (checkId id) before = (.ok (), after)) :
    isValidSessionId id = true ∧ after = before := by
  unfold checkId at ran
  split at ran
  · rename_i valid
    exact ⟨valid, (Prod.mk.inj ran).2.symm⟩
  · exact absurd (Prod.mk.inj ran).1 (by simp)

theorem checkId_ok {id : String} (valid : isValidSessionId id = true) (disk : Disk) :
    Fallible.outcome (StoreOp.apply tool) (checkId id) disk = (.ok (), disk) := by
  simp [checkId, valid]

theorem serialize_eq_ok {value : Value} {text : String} {before after : Disk}
    (ran : Fallible.outcome (StoreOp.apply tool) (Store.ofExcept (serialize json value)) before =
      (.ok text, after)) :
    json.toString value = .ok text ∧ after = before := by
  rw [Store.outcome_ofExcept] at ran
  obtain ⟨mapped, same⟩ := Prod.mk.inj ran
  refine ⟨?_, same.symm⟩
  unfold serialize Except.mapError at mapped
  split at mapped
  · simp at mapped
  · rename_i serialized
    rw [serialized, Except.ok.inj mapped]

/-- An append that succeeds has added its line. -/
theorem append_eq_ok {id : String} {value : Value} {root : Path} {before after : Disk}
    (ran : Fallible.outcome (StoreOp.apply tool) (append json id value root) before =
      (.ok (), after)) :
    isValidSessionId id = true ∧ ∃ text, json.toString value = .ok text ∧
      Appends before root id (lineBytes text) after := by
  obtain ⟨_, checked, ranCheck, ran⟩ := Fallible.outcome_bind_eq ran
  obtain ⟨_, made, ranMake, ran⟩ := Fallible.outcome_bind_eq ran
  obtain ⟨_, opened, ranOpen, ran⟩ := Fallible.outcome_bind_eq ran
  obtain ⟨text, serialized, ranSerialize, ran⟩ := Fallible.outcome_bind_eq ran
  obtain ⟨_, written, ranWrite, ran⟩ := Fallible.outcome_bind_eq ran
  obtain ⟨_, ended, ranEnd, ranFlush⟩ := Fallible.outcome_bind_eq ran
  obtain ⟨valid, rfl⟩ := checkId_eq_ok ranCheck
  have isMade : made = (checked.createDirAll root).2 := by
    have answered := Fallible.outcome_attempt_eq ranMake
    exact (congrArg Prod.snd answered).symm
  have isOpened := Disk.openAppend_eq_ok (Fallible.outcome_attempt_eq ranOpen)
  have isWritten := Disk.writeAll_eq_ok (Fallible.outcome_attempt_eq ranWrite)
  have isEnded := Disk.writeAll_eq_ok (Fallible.outcome_attempt_eq ranEnd)
  have isFlushed : after = ended := by
    have answered := Fallible.outcome_attempt_eq ranFlush
    exact (congrArg Prod.snd answered).symm
  obtain ⟨toText, isSerialized⟩ := serialize_eq_ok ranSerialize
  have notAbove := not_sessionPath_prefix root id
  have madeSame : made.bytesAt (sessionPath root id) = checked.bytesAt (sessionPath root id) := by
    apply Disk.bytesAt_congr
    rw [isMade]
    exact Disk.createDirAll_frame notAbove
  rw [isSerialized] at isWritten
  refine ⟨valid, text, toText, ?_, ?_⟩
  · obtain ⟨content, isFile, same⟩ := isEnded.file
    refine ⟨content, by rw [isFlushed]; exact isFile, ?_⟩
    rw [same, isWritten.bytesAt, isOpened.bytesAt, madeSame, lineBytes, List.append_assoc]
  · intro other different outside
    rw [isFlushed, isEnded.frame other different, isWritten.frame other different,
      isOpened.frame other different, isMade]
    exact Disk.createDirAll_frame outside

/-- An append below an existing directory succeeds as far as file sizes go. -/
theorem append_ok {id : String} {value : Value} {text : String} {root : Path} {disk : Disk}
    (valid : isValidSessionId id = true) (serialized : json.toString value = .ok text)
    (directory : disk.lookup root = some .directory)
    (notDirectory : disk.lookup (sessionPath root id) ≠ some .directory)
    (room : (disk.bytesAt (sessionPath root id) ++ lineBytes text).length < 2 ^ 63) :
    ∃ after, Fallible.outcome (StoreOp.apply tool) (append json id value root) disk =
      (.ok (), after) := by
  have nonempty : sessionPath root id ≠ [] := by simp [sessionPath]
  have parent : disk.ParentIsDirectory (sessionPath root id) :=
    ⟨nonempty, by simpa [sessionPath] using directory⟩
  obtain ⟨opened, ranOpen⟩ := Disk.openAppend_ok parent notDirectory
  have isOpened := Disk.openAppend_eq_ok ranOpen
  obtain ⟨empty, isEmpty, same⟩ := isOpened.file
  have roomText : (empty.bytes ++ utf8Bytes text).length < 2 ^ 63 := by
    rw [same]
    simp [lineBytes] at room ⊢
    omega
  obtain ⟨written, ranWrite⟩ := Disk.writeAll_ok nonempty isEmpty roomText
  have isWritten := Disk.writeAll_eq_ok ranWrite
  obtain ⟨line, isLine, sameLine⟩ := isWritten.file
  have roomEnd : (line.bytes ++ [10]).length < 2 ^ 63 := by
    rw [sameLine, isOpened.bytesAt, List.append_assoc]
    exact room
  obtain ⟨ended, ranEnd⟩ := Disk.writeAll_ok nonempty isLine roomEnd
  refine ⟨ended, ?_⟩
  have toJson : serialize json value = .ok text := by simp [serialize, serialized, Except.mapError]
  simp only [append, Fallible.outcome_bind, checkId_ok valid, Store.outcome_createDirAll,
    Disk.createDirAll_of_directory directory, Store.outcome_openAppend, ranOpen,
    Store.outcome_ofExcept, toJson, Store.outcome_writeAll, ranWrite, ranEnd,
    Store.outcome_flush, Except.mapError]

/-- What `load` does, by what a lookup finds. -/
theorem outcome_load {root : Path} {id : String} {disk : Disk}
    (valid : isValidSessionId id = true) :
    Fallible.outcome (StoreOp.apply tool) (load json root id) disk =
      match disk.lookup (sessionPath root id) with
      | none => (.ok [], disk)
      | some (.file content) =>
          (checkSize id (.ok (UInt64.ofNat content.bytes.length)) >>= fun _ =>
            loadLines json id (splitInclusive 10 content.bytes) [], disk)
      | some .directory => (.error (unreadable id .isADirectory), disk) := by
  have opened : Fallible.outcome (StoreOp.apply tool)
      (Fallible.capture (Store.openRead (unreadable id) (sessionPath root id))) disk =
        (.ok ((disk.openRead (sessionPath root id)).mapError (unreadable id)), disk) := by
    rw [Fallible.outcome_capture, Store.openRead, Fallible.outcome_attempt]
    rfl
  unfold load
  rw [Fallible.outcome_bind_ok (checkId_ok valid disk), Fallible.outcome_bind_ok opened]
  unfold Disk.openRead
  cases found : disk.lookup (sessionPath root id) with
  | none => rfl
  | some entry =>
      have sized : Fallible.outcome (StoreOp.apply tool)
          (Fallible.capture (Store.length (unreadable id) (sessionPath root id))) disk =
            (.ok ((disk.length (sessionPath root id)).mapError (unreadable id)), disk) := by
        rw [Fallible.outcome_capture, Store.length, Fallible.outcome_attempt]
        rfl
      have contents : Fallible.outcome (StoreOp.apply tool)
          (Store.read (unreadable id) (sessionPath root id)) disk =
            ((disk.read (sessionPath root id)).mapError (unreadable id), disk) := by
        rw [Store.read, Fallible.outcome_attempt]
        rfl
      show Fallible.outcome _ (loadOpened json id (sessionPath root id)) disk = _
      unfold loadOpened
      rw [Fallible.outcome_bind_ok sized, Fallible.outcome_bind]
      unfold Disk.length
      unfold Disk.read at contents
      rw [found] at contents
      rw [found]
      cases entry with
      | directory =>
          simp only [Except.mapError, Store.outcome_ofExcept, checkSize]
          rw [if_neg (by decide)]
          simp only
          rw [Fallible.outcome_bind, contents]
          rfl
      | file content =>
          simp only [Except.mapError, Store.outcome_ofExcept]
          cases checkSize id (.ok (UInt64.ofNat content.bytes.length)) with
          | error error => rfl
          | ok passed =>
              simp only
              rw [Fallible.outcome_bind, contents]
              rfl

/-- Loading within the limit on files where there is no directory. -/
theorem load_of_bytes {root : Path} {id : String} {disk : Disk}
    (valid : isValidSessionId id = true)
    (notDirectory : disk.lookup (sessionPath root id) ≠ some .directory)
    (small : (disk.bytesAt (sessionPath root id)).length ≤ maxFileBytes.toNat) :
    Fallible.outcome (StoreOp.apply tool) (load json root id) disk =
      (loadLines json id (splitInclusive 10 (disk.bytesAt (sessionPath root id))) [], disk) := by
  rw [outcome_load valid]
  cases found : disk.lookup (sessionPath root id) with
  | none =>
      rw [Disk.bytesAt_none found]
      rfl
  | some entry =>
      cases entry with
      | directory => exact absurd found notDirectory
      | file content =>
          rw [Disk.bytesAt_file found] at small ⊢
          have under : ¬ maxFileBytes < UInt64.ofNat content.bytes.length := by
            have fits := content.fits
            simp only [UInt64.lt_iff_toNat_lt, UInt64.toNat_ofNat']
            omega
          simp only [checkSize, if_neg under]
          rfl

/-- A session that can be loaded. -/
theorem load_eq_ok {root : Path} {id : String} {values : List Value} {disk : Disk}
    (loaded : (Fallible.outcome (StoreOp.apply tool) (load json root id) disk).1 = .ok values) :
    isValidSessionId id = true ∧ disk.lookup (sessionPath root id) ≠ some .directory ∧
      loadLines json id (splitInclusive 10 (disk.bytesAt (sessionPath root id))) [] =
        .ok values := by
  have valid : isValidSessionId id = true := by
    obtain ⟨_, checked, ranCheck, _⟩ :=
      Fallible.outcome_bind_eq (Prod.ext loaded (rfl : _ = _) : _ = (Except.ok values, _))
    exact (checkId_eq_ok ranCheck).1
  rw [outcome_load valid] at loaded
  cases found : disk.lookup (sessionPath root id) with
  | none =>
      rw [found] at loaded
      refine ⟨valid, by simp, ?_⟩
      rw [Disk.bytesAt_none found]
      exact loaded
  | some entry =>
      rw [found] at loaded
      cases entry with
      | directory => cases loaded
      | file content =>
          refine ⟨valid, by simp, ?_⟩
          rw [Disk.bytesAt_file found]
          simp only [checkSize] at loaded
          split at loaded
          · cases loaded
          · exact loaded

/-- Loading a log of completed appends: a file over the limit is refused, and lines
over theirs are left out. -/
theorem outcome_load_logBytes (lawful : json.Lawful) {root : Path} {id : String} {disk : Disk}
    (valid : isValidSessionId id = true) {values : List Value}
    (serializable : Serializable json values)
    {content : ByteVec} (isFile : disk.lookup (sessionPath root id) = some (.file content))
    (written : content.bytes = logBytes json values) :
    Fallible.outcome (StoreOp.apply tool) (load json root id) disk =
      (if (logBytes json values).length ≤ maxFileBytes.toNat then
        .ok (values.filter (FitsLine json))
      else .error (overLimit id (logBytes json values).length), disk) := by
  have size : (UInt64.ofNat content.bytes.length).toNat = (logBytes json values).length := by
    have small := content.fits
    rw [← written]
    simp
    omega
  rw [outcome_load valid, isFile]
  simp only [checkSize, UInt64.lt_iff_toNat_lt, size]
  rw [written, loadLines_logBytes lawful id serializable, List.nil_append]
  by_cases small : (logBytes json values).length ≤ maxFileBytes.toNat
  · rw [if_neg (by omega), if_pos small]
    rfl
  · rw [if_pos (by omega), if_neg small]
    rfl

/-! ## Histories of completed appends -/

/-- The values appended to one session. -/
def valuesFor (id : String) (calls : List (String × Value)) : List Value :=
  (calls.filter fun call => call.1 = id).map Prod.snd

/-- A session without appends has no file; otherwise its file holds their lines. -/
structure Logged (json : JsonCodec Value) (root : Path) (id : String) (values : List Value)
    (disk : Disk) : Prop where
  serializable : Serializable json values
  absent : values = [] → disk.lookup (sessionPath root id) = none
  file : values ≠ [] → ∃ content, disk.lookup (sessionPath root id) = some (.file content) ∧
    content.bytes = logBytes json values

theorem Logged.bytesAt {root : Path} {id : String} {values : List Value} {disk : Disk}
    (logged : Logged json root id values disk) :
    disk.bytesAt (sessionPath root id) = logBytes json values := by
  by_cases empty : values = []
  · rw [Disk.bytesAt_none (logged.absent empty), empty]
    rfl
  · obtain ⟨content, isFile, written⟩ := logged.file empty
    rw [Disk.bytesAt_file isFile, written]

/-- Step lemma: an append to any session. -/
theorem Logged.step {root : Path} {id : String} {values : List Value} {before after : Disk}
    (logged : Logged json root id values before) {call : String × Value}
    (ran : Fallible.outcome (StoreOp.apply tool) (append json call.1 call.2 root) before =
      (.ok (), after)) :
    Logged json root id (values ++ valuesFor id [call]) after := by
  obtain ⟨_, text, serialized, appends⟩ := append_eq_ok ran
  by_cases same : call.1 = id
  · rw [same] at appends
    have added : valuesFor id [call] = [call.2] := by simp [valuesFor, same]
    rw [added]
    constructor
    · intro value member
      rcases List.mem_append.mp member with before | new
      · exact logged.serializable value before
      · rw [List.mem_singleton.mp new]
        exact ⟨text, serialized⟩
    · intro empty
      simp at empty
    · intro _
      obtain ⟨content, isFile, written⟩ := appends.file
      refine ⟨content, isFile, ?_⟩
      rw [written, logged.bytesAt]
      simp [logBytes, lineOf_ok serialized]
  · have kept : after.lookup (sessionPath root id) = before.lookup (sessionPath root id) := by
      apply appends.frame
      · intro samePath
        exact same (sessionPath_injective samePath).symm
      · exact not_sessionPath_prefix root id
    have none : valuesFor id [call] = [] := by simp [valuesFor, same]
    rw [none, List.append_nil]
    exact ⟨logged.serializable, fun empty => kept ▸ logged.absent empty,
      fun nonempty => kept ▸ logged.file nonempty⟩

/-- Run lemma. -/
theorem Logged.run {root : Path} {id : String} {values : List Value} {before after : Disk}
    (logged : Logged json root id values before) {calls : List (String × Value)}
    (ran : Fallible.outcome (StoreOp.apply tool)
      (calls.forM fun call => append json call.1 call.2 root) before = (.ok (), after)) :
    Logged json root id (values ++ valuesFor id calls) after := by
  induction calls generalizing values before with
  | nil =>
      have unchanged : before = after := (Prod.mk.inj ran).2
      rw [← unchanged]
      simpa [valuesFor] using logged
  | cons call rest inductionHypothesis =>
      obtain ⟨_, middle, ranFirst, ranRest⟩ := Fallible.outcome_bind_eq ran
      have first := logged.step ranFirst
      have whole := inductionHypothesis first ranRest
      have split : valuesFor id (call :: rest) = valuesFor id [call] ++ valuesFor id rest := by
        simp only [valuesFor, ← List.map_append, ← List.filter_append, List.singleton_append]
      rwa [split, ← List.append_assoc]

/-- A session without a log. -/
theorem Logged.initially {root : Path} {id : String} {disk : Disk}
    (fresh : disk.lookup (sessionPath root id) = none) :
    Logged json root id ([] : List Value) disk :=
  ⟨by simp [Serializable], fun _ => fresh, fun nonempty => absurd rfl nonempty⟩

/-- Loading the log of completed appends. -/
theorem Logged.load (lawful : json.Lawful) {root : Path} {id : String} {values : List Value}
    {disk : Disk} (valid : isValidSessionId id = true)
    (logged : Logged json root id values disk) :
    Fallible.outcome (StoreOp.apply tool) (Persistence.load json root id) disk =
      (if (logBytes json values).length ≤ maxFileBytes.toNat then
        .ok (values.filter (FitsLine json))
      else .error (overLimit id (logBytes json values).length), disk) := by
  by_cases empty : values = []
  · rw [outcome_load valid, logged.absent empty, empty]
    simp [logBytes]
  · obtain ⟨content, isFile, written⟩ := logged.file empty
    exact outcome_load_logBytes lawful valid logged.serializable isFile written

/-- Loading a session after any number of completed appends, to it and to other
sessions, from a state in which it had no log: its values in the order of their
appends but for those whose line is over `maxLineBytes`, unless the whole log is
over `maxFileBytes`, and then an error. -/
theorem load_after_appends (lawful : json.Lawful) {root : Path} {id : String}
    {calls : List (String × Value)} {before after : Disk}
    (valid : isValidSessionId id = true)
    (fresh : before.lookup (sessionPath root id) = none)
    (ran : Fallible.outcome (StoreOp.apply tool)
      (calls.forM fun call => append json call.1 call.2 root) before = (.ok (), after)) :
    Fallible.outcome (StoreOp.apply tool) (load json root id) after =
      (if (logBytes json (valuesFor id calls)).length ≤ maxFileBytes.toNat then
        .ok ((valuesFor id calls).filter (FitsLine json))
      else .error (overLimit id (logBytes json (valuesFor id calls)).length), after) := by
  have logged := (Logged.initially fresh).run ran
  rw [List.nil_append] at logged
  exact logged.load lawful valid

/-! ## A history -/

/-- The JSON string of so many letters `a`. -/
def aString (count : Nat) : String := String.ofList ('"' :: List.replicate count 'a' ++ ['"'])

/-- JSON white space. -/
def isJsonSpace (c : Char) : Bool := c ∈ [' ', '\t', '\n', '\r']

/-- `serde_json` on strings of letters `a`, each given by its length. -/
def aStrings : JsonCodec Nat where
  toString count := .ok (aString count)
  fromStr text :=
    let body := ((text.toList.dropWhile isJsonSpace).reverse.dropWhile isJsonSpace).reverse
    if body = (aString (body.length - 2)).toList then some (body.length - 2) else none

theorem aStrings_lawful : aStrings.Lawful where
  parses := by
    intro count text serialized
    rw [← Except.ok.inj serialized]
    have body : (((aString count ++ "\n").toList.dropWhile isJsonSpace).reverse.dropWhile
        isJsonSpace).reverse = (aString count).toList := by
      simp [aString, isJsonSpace]
    have size : (aString count).toList.length - 2 = count := by simp [aString]
    simp only [aStrings, body, size, if_true]
  oneLine := by
    intro count text serialized
    rw [← Except.ok.inj serialized]
    simp [aString]
  begins := by
    intro count text serialized
    rw [← Except.ok.inj serialized]
    exact ⟨'"', List.replicate count 'a' ++ ['"'], by simp [aString], by decide⟩

/-- The quotes and the newline come on top of the letters. -/
theorem length_lineOf_aStrings (count : Nat) : (lineOf aStrings count).length = count + 3 := by
  rw [lineOf_ok rfl, lineBytes, utf8Bytes_eq_flatMap]
  have letter : 'a'.utf8Size = 1 := by decide
  have quote : '"'.utf8Size = 1 := by decide
  simp [aString, letter, quote]
  omega

/-- A disk with a directory for sessions. -/
def sessionsDisk : Disk := (Disk.createDir DirTree.root ["sessions"]).2

/-- `sha256sum` is not called here. -/
def noSha256sum : Sha256sum := ⟨fun _ => "", fun _ => false⟩

/-- Three appends to two sessions. -/
theorem load_after_three_appends :
    ∃ after, Fallible.outcome (StoreOp.apply noSha256sum)
      ([("s1", 1), ("s2", 0), ("s1", 2)].forM fun call =>
        append aStrings call.1 call.2 ["sessions"]) sessionsDisk = (.ok (), after) ∧
    Fallible.outcome (StoreOp.apply noSha256sum) (load aStrings ["sessions"] "s1") after =
      (.ok [1, 2], after) := by
  obtain ⟨after, ran⟩ : ∃ after, Fallible.outcome (StoreOp.apply noSha256sum)
      ([("s1", 1), ("s2", 0), ("s1", 2)].forM fun call =>
        append aStrings call.1 call.2 ["sessions"]) sessionsDisk = (.ok (), after) :=
    ⟨_, Prod.ext (by decide +kernel) rfl⟩
  refine ⟨after, ran, ?_⟩
  apply (load_after_appends aStrings_lawful (by decide +kernel) (by decide +kernel) ran).trans
  exact congrArg (Prod.mk · after) (by decide +kernel)

/-- A value of 262142 letters is appended with success and then left out. -/
theorem load_drops_long_value :
    ∃ after, Fallible.outcome (StoreOp.apply noSha256sum)
      ([("s1", 262142)].forM fun call =>
        append aStrings call.1 call.2 ["sessions"]) sessionsDisk = (.ok (), after) ∧
    Fallible.outcome (StoreOp.apply noSha256sum) (load aStrings ["sessions"] "s1") after =
      (.ok [], after) := by
  have valid : isValidSessionId "s1" = true := by decide +kernel
  have absent : sessionsDisk.lookup (sessionPath ["sessions"] "s1") = none := by decide +kernel
  have size : (lineBytes (aString 262142)).length = 262142 + 3 :=
    length_lineOf_aStrings 262142
  have room : (sessionsDisk.bytesAt (sessionPath ["sessions"] "s1") ++
      lineBytes (aString 262142)).length < 2 ^ 63 := by
    rw [Disk.bytesAt_none absent, List.nil_append, size]
    omega
  have serialized : aStrings.toString 262142 = .ok (aString 262142) := rfl
  obtain ⟨after, ran⟩ := append_ok valid serialized (by decide +kernel) (by simp [absent]) room
  refine ⟨after, Fallible.outcome_bind_ok ran, ?_⟩
  have logged : Logged aStrings ["sessions"] "s1"
      ([] ++ valuesFor "s1" [(("s1", 262142) : String × Nat)]) after :=
    (Logged.initially absent).step ran
  have long : ¬ FitsLine aStrings 262142 := by
    unfold FitsLine maxLineBytes
    rw [length_lineOf_aStrings]
    omega
  have small : (logBytes aStrings [262142]).length ≤ maxFileBytes.toNat := by
    simp [logBytes, length_lineOf_aStrings, maxFileBytes]
  have values : [] ++ valuesFor "s1" [(("s1", 262142) : String × Nat)] = [262142] := by
    simp [valuesFor]
  rw [values] at logged
  rw [logged.load aStrings_lawful valid, if_pos small]
  simp [long]

end TriAI.Persistence
