import TriAI.Analysis.Gates
import TriAI.Persistence.CrashTolerance
import TriAI.Storage.Faults

/-!
Contract: the stores that append one line for each record (`learning.rs` and
`analysis/store.rs`).

Owns: `LearningStore::append` with `validate_record`, `MetricPolicyStore::append`, and any
number of appends of one process to one file, whose calls interleave and can fail.

Does not own: JSON, and appends of other processes, which the lock does not exclude. A panic
unwinds, as in the workspace's builds, and gives the lock back like a return.
-/

set_option autoImplicit false

namespace TriAI.Learning

open TriAI.Analysis (PolicyProposal)
open TriAI.Library.Interaction
open TriAI.Library.TextLines
open TriAI.Persistence (Added JsonCodec)
open TriAI.Storage

/-! ## Records -/

/-- The fields of `PrivacyState` that are checked. -/
structure PrivacyState where
  rawPromptStored : Bool
  rawCodeStored : Bool
  rawOutputStored : Bool
  secretScanPassed : Bool
deriving DecidableEq

/-- `LearningRecord`; `details` are the fields that are only written. -/
structure LearningRecord (Details : Type) where
  schemaVersion : UInt32
  runId : String
  privacy : PrivacyState
  details : Details

/-- `io::Error`, of a call or with a text. -/
inductive AppendError where
  | io (error : IoError)
  | invalidData (message : String)
  | permissionDenied (message : String)
  | other (message : String)
deriving DecidableEq

/-- `validate_record`. -/
def validateRecord {Details : Type} (record : LearningRecord Details) : Except AppendError Unit :=
  if record.schemaVersion = 0 then
    .error (.invalidData "learning record requires a schema version")
  else if record.runId = "" ∨ 128 < (utf8Bytes record.runId).length then
    .error (.invalidData "learning record requires a bounded run_id")
  else if record.privacy.rawPromptStored ∨ record.privacy.rawCodeStored ∨
      record.privacy.rawOutputStored then
    .error (.permissionDenied "raw prompt, code, and output are forbidden in learning evidence")
  else if !record.privacy.secretScanPassed then
    .error (.permissionDenied "learning evidence requires a successful secret scan")
  else .ok ()

/-- `MAX_RECORD_BYTES`. -/
def maxRecordBytes : Nat := 4 * 1024 * 1024

/-! ## Appends -/

/-- The calls of an append: to the lock, which is one for all stores of a kind, and to the
file. -/
inductive AppendOp where
  | lock
  | unlock
  | file (op : StoreOp)

@[reducible] def AppendOp.Reply : AppendOp → Type
  | .lock | .unlock => Unit
  | .file op => op.Reply

abbrev Appending (α : Type) : Type := Fallible AppendError AppendOp AppendOp.Reply α

namespace Appending

def lock : Appending Unit := ExceptT.lift (Prog.perform AppendOp.lock)

def unlock : Appending Unit := ExceptT.lift (Prog.perform AppendOp.unlock)

def createDirAll (path : Path) : Appending Unit :=
  Fallible.attempt .io (Prog.perform (AppendOp.file (.createDirAll path)))

def openAppend (path : Path) : Appending Unit :=
  Fallible.attempt .io (Prog.perform (AppendOp.file (.openAppend path)))

def writeAll (path : Path) (bytes : List UInt8) : Appending Unit :=
  Fallible.attempt .io (Prog.perform (AppendOp.file (.writeAll path bytes)))

/-- A pure step that may fail. -/
def checked {α : Type} (result : Except AppendError α) : Appending α := ExceptT.mk (.ret result)

end Appending

open Appending

/-- The path and the flag of `LearningStore` and `MetricPolicyStore`. -/
structure LineStore where
  path : Path
  enabled : Bool

/-- `create_dir_all` of the parent of the file. -/
def createParent (path : Path) : Appending Unit :=
  match path with
  | [] => pure ()
  | _ => createDirAll path.dropLast

/-- What both stores end with. The guard of the lock is dropped on every way out. -/
def appendLine (path : Path) (line : List UInt8) : Appending Bool := do
  lock
  let written ← Fallible.capture do
    openAppend path
    writeAll path line
    writeAll path [10]
  unlock
  checked (written.map fun _ => true)

section Stores

variable {Details : Type}

/-- `serde_json::to_vec`. -/
def toVec {Value : Type} (json : JsonCodec Value) (value : Value) :
    Except AppendError (List UInt8) :=
  match json.toString value with
  | .ok text => .ok (utf8Bytes text)
  | .error message => .error (.other message)

def checkSize (line : List UInt8) : Except AppendError Unit :=
  if maxRecordBytes < line.length then
    .error (.invalidData "learning record exceeds size limit")
  else .ok ()

/-- `LearningStore::append`. -/
def appendRecord (json : JsonCodec (LearningRecord Details)) (self : LineStore)
    (record : LearningRecord Details) : Appending Bool :=
  if !self.enabled then pure false
  else do
    checked (validateRecord record)
    let line ← checked (toVec json record)
    checked (checkSize line)
    createParent self.path
    appendLine self.path line

/-- `MetricPolicyStore::append`. -/
def appendProposal (json : JsonCodec PolicyProposal) (self : LineStore)
    (proposal : PolicyProposal) : Appending Bool :=
  if !self.enabled then pure false
  else do
    createParent self.path
    let line ← checked (toVec json proposal)
    appendLine self.path line

/-! ## Threads -/

/-- A thread that has not begun its append, or whose append has ended. -/
inductive AppendState (Call : Type) where
  | notBegun (call : Call)
  | ended (result : Except AppendError Bool)

/-- The disk, the thread that has the lock, and the threads that have taken it so far, in the
order in which they did. -/
structure AppendWorld (Id : Type) where
  disk : Disk
  holder : Option Id
  taken : List Id

/-- A thread takes the lock while it is free. Every call to the file can fail. -/
def AppendWorld.Answers {Id : Type} (tool : Sha256sum) (id : Id) (world : AppendWorld Id) :
    (op : AppendOp) → op.Reply → AppendWorld Id → Prop
  | .lock, (), after => world.holder = none ∧
      after = { world with holder := some id, taken := world.taken ++ [id] }
  | .unlock, (), after => after = { world with holder := none }
  | .file op, reply, after => Attempts tool world.disk op reply after.disk ∧
      after.holder = world.holder ∧ after.taken = world.taken

/-- One append of each thread. -/
def appendSystem {Id Call : Type} (tool : Sha256sum) (append : Call → Appending Bool) :
    System Id AppendOp AppendOp.Reply (AppendState Call) (AppendWorld Id) where
  Offers := fun _ state program => ∃ call, state = .notBegun call ∧
    program = (append call).run >>= fun result => .ret (.ended result)
  Step := AppendWorld.Answers tool
  Environment := fun _ _ => False

abbrev AppendPool (Id Call : Type) : Type :=
  Pool Id AppendOp AppendOp.Reply (AppendState Call) (AppendWorld Id)

def startOfAppends {Id Call : Type} (calls : Id → Call) (disk : Disk) : AppendPool Id Call where
  world := { disk, holder := none, taken := [] }
  activity := fun id => .resting (.notBegun (calls id))

/-- The line of a record that the store takes. -/
def recordLine (json : JsonCodec (LearningRecord Details)) (self : LineStore)
    (record : LearningRecord Details) : Option (List UInt8) :=
  match toVec json record with
  | .ok line =>
      if self.enabled ∧ validateRecord record = .ok () ∧ line.length ≤ maxRecordBytes then
        some (line ++ [10])
      else none
  | .error _ => none

def proposalLine (json : JsonCodec PolicyProposal) (self : LineStore)
    (proposal : PolicyProposal) : Option (List UInt8) :=
  match toVec json proposal with
  | .ok line => if self.enabled then some (line ++ [10]) else none
  | .error _ => none

/-- The file is what it was and after it a piece of each thread that took the lock, in the
order in which they did. A piece is the beginning of a line that the store takes; it is the
whole line where the append ended with success, and empty where it ended without writing. -/
structure KeepsLines {Id Call : Type} (lines : Id → Option (List UInt8)) (path : Path)
    (before : Disk) (pool : AppendPool Id Call) (pieces : Id → List UInt8) : Prop where
  once : pool.world.taken.Nodup
  file : pool.world.disk.bytesAt path =
    before.bytesAt path ++ pool.world.taken.flatMap pieces
  others : ∀ id, id ∉ pool.world.taken → pieces id = []
  piece : ∀ id, pieces id ≠ [] → ∃ line, lines id = some line ∧ pieces id <+: line
  written : ∀ id, pool.activity id = .resting (.ended (.ok true)) → lines id = some (pieces id)
  skipped : ∀ id, pool.activity id = .resting (.ended (.ok false)) → pieces id = []

end Stores

/-! ## What an append has done -/

/-- The view of a thread: its line, whether it took the lock and still has it, and its piece
of the file. -/
structure AppendView where
  line : Option (List UInt8)
  locked : Bool := false
  holds : Bool := false
  piece : List UInt8 := []

namespace AppendView

@[simps]
def took (view : AppendView) : AppendView := { view with locked := true, holds := true }

@[simps]
def gaveBack (view : AppendView) : AppendView := { view with holds := false }

@[simps]
def wrote (view : AppendView) (bytes : List UInt8) : AppendView :=
  { view with piece := view.piece ++ bytes }

end AppendView

/-- What a thread may call, and what it learns. -/
def appendContract (path : Path) : Contract AppendOp AppendOp.Reply AppendView where
  Admits := fun view op =>
    match op with
    | .lock => view.locked = false
    | .unlock => view.holds = true
    | .file (.createDirAll parent) => ¬ path <+: parent
    | .file (.openAppend target) => target = path
    | .file (.writeAll target bytes) => target = path ∧ view.holds = true ∧
        ∃ line, view.line = some line ∧ view.piece ++ bytes <+: line
    | .file _ => False
  Answers := fun view op reply after =>
    match op, reply with
    | .lock, _ => after = view.took
    | .unlock, _ => after = view.gaveBack
    | .file (.writeAll _ bytes), .ok () => after = view.wrote bytes
    | .file (.writeAll _ bytes), .error _ =>
        ∃ front, front <+: bytes ∧ after = view.wrote front
    | .file _, _ => after = view

/-- What the result of an append says of its piece. -/
def Ended (result : Except AppendError Bool) (view : AppendView) : Prop :=
  view.holds = false ∧
    match result with
    | .ok true => view.line = some view.piece
    | .ok false => view.piece = []
    | .error _ => True

def AppendRest {Call : Type} (lineOf : Call → Option (List UInt8)) :
    AppendState Call → AppendView → Prop
  | .notBegun call, view => view = { line := lineOf call }
  | .ended result, view => Ended result view

section Programs

variable {path : Path} {view : AppendView}

theorem appendLine_ended {line : List UInt8} (notLocked : view.locked = false)
    (nothing : view.piece = []) (isLine : view.line = some (line ++ [10])) :
    wlp (appendContract path) (appendLine path line).run Ended view := by
  refine ⟨notLocked, fun _ locked same => ?_⟩
  obtain rfl := same
  show wlp _ ((Fallible.capture _ >>= fun _ => _).run) _ _
  rw [Fallible.wlp_run_bind, Fallible.wlp_run_capture]
  -- Whatever the calls to the file do, the lock is given back.
  have unlocks : ∀ (written : Except AppendError Unit) (after : AppendView),
      after.holds = true → (written.isOk = true → after.line = some after.piece) →
      wlp (appendContract path)
        (unlock >>= fun _ => checked (written.map fun _ => true)).run Ended after := by
    intro written after holds whole
    refine ⟨holds, fun _ released same => ?_⟩
    obtain rfl := same
    cases written with
    | ok done => exact ⟨rfl, whole rfl⟩
    | error error => exact ⟨rfl, trivial⟩
  rw [Fallible.wlp_run_bind]
  refine wlp_perform rfl fun opened after same => ?_
  obtain rfl := same
  cases opened with
  | error error => exact unlocks (.error _) _ rfl fun impossible => by cases impossible
  | ok done =>
      show wlp _ ((writeAll path line >>= fun _ => _).run) _ _
      rw [Fallible.wlp_run_bind]
      refine wlp_perform ⟨rfl, rfl, line ++ [10], isLine, ?_⟩ fun written after learned => ?_
      · rw [AppendView.took_piece, nothing, List.nil_append]
        exact List.prefix_append line [10]
      cases written with
      | error error =>
          obtain ⟨front, _, rfl⟩ := learned
          exact unlocks (.error _) _ rfl fun impossible => by cases impossible
      | ok done =>
          obtain rfl := learned
          refine wlp_perform ⟨rfl, rfl, line ++ [10], isLine, ?_⟩ fun terminated after learned => ?_
          · rw [AppendView.wrote_piece, AppendView.took_piece, nothing, List.nil_append]
          cases terminated with
          | error error =>
              obtain ⟨front, _, rfl⟩ := learned
              exact unlocks (.error _) _ rfl fun impossible => by cases impossible
          | ok done =>
              obtain rfl := learned
              refine unlocks (.ok ()) _ rfl fun _ => ?_
              simp [isLine, nothing]

/-- A pure step: the rest is run where it succeeds. -/
theorem wlp_checked {α : Type} {result : Except AppendError α} {rest : α → Appending Bool}
    (holds : view.holds = false)
    (continues : ∀ value, result = .ok value →
      wlp (appendContract path) (rest value).run Ended view) :
    wlp (appendContract path) (checked result >>= rest).run Ended view := by
  cases result with
  | ok value => exact continues value rfl
  | error error => exact ⟨holds, trivial⟩

theorem wlp_createParent {rest : Unit → Appending Bool} (holds : view.holds = false)
    (continues : wlp (appendContract path) (rest ()).run Ended view) :
    wlp (appendContract path) (createParent path >>= rest).run Ended view := by
  cases path with
  | nil => exact continues
  | cons name names =>
      rw [Fallible.wlp_run_bind]
      have apart : ¬ (name :: names) <+: (name :: names).dropLast := by
        intro below
        have shorter := below.length_le
        rw [List.length_dropLast, List.length_cons] at shorter
        omega
      refine wlp_perform apart fun made after same => ?_
      obtain rfl : view = after := same.symm
      cases made with
      | ok done => exact continues
      | error error => exact ⟨holds, trivial⟩

variable {Details : Type}

theorem appendRecord_ended (json : JsonCodec (LearningRecord Details)) (enabled : Bool)
    (record : LearningRecord Details) (notLocked : view.locked = false)
    (holds : view.holds = false) (nothing : view.piece = [])
    (isLine : view.line = recordLine json ⟨path, enabled⟩ record) :
    wlp (appendContract path) (appendRecord json ⟨path, enabled⟩ record).run Ended view := by
  unfold appendRecord
  cases enabled with
  | false => exact ⟨holds, nothing⟩
  | true =>
      refine wlp_checked holds fun _ valid => ?_
      refine wlp_checked holds fun line serialized => ?_
      refine wlp_checked holds fun _ small => ?_
      refine wlp_createParent holds ?_
      apply appendLine_ended notLocked nothing
      have fits : line.length ≤ maxRecordBytes := by
        unfold checkSize at small
        split at small
        · cases small
        · omega
      rw [isLine, recordLine, serialized]
      exact if_pos ⟨rfl, valid, fits⟩

theorem appendProposal_ended (json : JsonCodec PolicyProposal) (enabled : Bool)
    (proposal : PolicyProposal) (notLocked : view.locked = false)
    (holds : view.holds = false) (nothing : view.piece = [])
    (isLine : view.line = proposalLine json ⟨path, enabled⟩ proposal) :
    wlp (appendContract path) (appendProposal json ⟨path, enabled⟩ proposal).run Ended view := by
  unfold appendProposal
  cases enabled with
  | false => exact ⟨holds, nothing⟩
  | true =>
      refine wlp_createParent holds ?_
      refine wlp_checked holds fun line serialized => ?_
      apply appendLine_ended notLocked nothing
      rw [isLine, proposalLine, serialized]
      exact if_pos rfl

end Programs

/-! ## Invariant -/

section Invariant

variable {Id : Type} [DecidableEq Id] {tool : Sha256sum} {path : Path} {before : Disk}
  {lines : Id → Option (List UInt8)} {world after : AppendWorld Id} {views : Id → AppendView}
  {id : Id}

/-- What the threads know of the lock and of the file: of those that took the lock, the one that
has it is the last. -/
structure Ordered (lines : Id → Option (List UInt8)) (path : Path) (before : Disk)
    (world : AppendWorld Id) (views : Id → AppendView) : Prop where
  once : world.taken.Nodup
  locked : ∀ id, id ∈ world.taken ↔ (views id).locked = true
  holds : ∀ id, (views id).holds = true ↔ world.holder = some id
  last : ∀ id, (views id).holds = true → ∃ front, world.taken = front ++ [id]
  line : ∀ id, (views id).line = lines id
  piece : ∀ id, (views id).piece ≠ [] →
    (views id).locked = true ∧ ∃ line, lines id = some line ∧ (views id).piece <+: line
  file : Added before path (world.taken.flatMap fun id => (views id).piece) world.disk

private theorem flatMap_update (views : Id → AppendView) (id : Id) (view : AppendView)
    (same : view.piece = (views id).piece) (order : List Id) :
    (order.flatMap fun other => (Function.update views id view other).piece) =
      order.flatMap fun other => (views other).piece := by
  congr 1
  funext other
  by_cases isId : other = id
  · rw [isId, Function.update_self, same]
  · rw [Function.update_of_ne isId]

/-- What holds of every view holds after one changed. -/
private theorem forall_update (P : Id → AppendView → Prop) (all : ∀ id, P id (views id))
    {view : AppendView} (changed : P id view) (other : Id) :
    P other (Function.update views id view other) :=
  (Function.forall_update_iff views P).mpr ⟨changed, fun other _ => all other⟩ other

/-- A thread takes the lock. -/
private theorem Ordered.lock (ordered : Ordered lines path before world views)
    (free : world.holder = none) (notLocked : (views id).locked = false) :
    Ordered lines path before { world with holder := some id, taken := world.taken ++ [id] }
      (Function.update views id (views id).took) where
  once := by
    have fresh : id ∉ world.taken := by
      rw [ordered.locked, notLocked]
      simp
    rw [List.nodup_append]
    refine ⟨ordered.once, List.nodup_singleton id, ?_⟩
    intro other member last isLast same
    rw [List.mem_singleton.mp isLast] at same
    exact fresh (same ▸ member)
  locked := by
    intro other
    rw [List.mem_append, List.mem_singleton, ordered.locked]
    by_cases isId : other = id
    · rw [isId, Function.update_self]
      simp
    · rw [Function.update_of_ne isId]
      simp [isId]
  holds := by
    intro other
    by_cases isId : other = id
    · rw [isId, Function.update_self]
      simp
    · have none : (views other).holds ≠ true := by
        rw [ne_eq, ordered.holds, free]
        simp
      rw [Function.update_of_ne isId]
      simpa [none] using Ne.symm isId
  last := by
    intro other holds
    by_cases isId : other = id
    · exact ⟨world.taken, by rw [isId]⟩
    · rw [Function.update_of_ne isId, ordered.holds, free] at holds
      cases holds
  line := forall_update (fun id view => view.line = lines id) ordered.line (ordered.line id)
  piece := forall_update (fun id view => view.piece ≠ [] →
      view.locked = true ∧ ∃ line, lines id = some line ∧ view.piece <+: line)
    ordered.piece fun some => ⟨rfl, (ordered.piece id some).2⟩
  file := by
    have nothing : (views id).piece = [] := by
      by_contra some
      rw [(ordered.piece id some).1] at notLocked
      cases notLocked
    rw [flatMap_update views id (views id).took rfl, List.flatMap_append, List.flatMap_singleton,
      nothing, List.append_nil]
    exact ordered.file

/-- A thread gives the lock back. -/
private theorem Ordered.unlock (ordered : Ordered lines path before world views)
    (has : (views id).holds = true) :
    Ordered lines path before { world with holder := none }
      (Function.update views id (views id).gaveBack) where
  once := ordered.once
  locked := forall_update (fun id view => id ∈ world.taken ↔ view.locked = true) ordered.locked
    (ordered.locked id)
  holds := by
    intro other
    by_cases isId : other = id
    · rw [isId, Function.update_self]
      simp
    · have held := (ordered.holds id).mp has
      have none : (views other).holds ≠ true := by
        rw [ne_eq, ordered.holds, held]
        simpa using Ne.symm isId
      rw [Function.update_of_ne isId]
      simpa using none
  last := by
    intro other holds
    by_cases isId : other = id
    · rw [isId, Function.update_self] at holds
      cases holds
    · rw [Function.update_of_ne isId] at holds
      exact ordered.last other holds
  line := forall_update (fun id view => view.line = lines id) ordered.line (ordered.line id)
  piece := forall_update (fun id view => view.piece ≠ [] →
      view.locked = true ∧ ∃ line, lines id = some line ∧ view.piece <+: line)
    ordered.piece (ordered.piece id)
  file := by
    rw [flatMap_update views id (views id).gaveBack rfl]
    exact ordered.file

/-- A call that leaves the file as it is. -/
private theorem Ordered.silent (ordered : Ordered lines path before world views) (id : Id)
    (same : after.holder = world.holder ∧ after.taken = world.taken)
    (added : Added world.disk path [] after.disk) :
    Ordered lines path before after (Function.update views id (views id)) := by
  obtain ⟨disk, holder, taken⟩ := after
  obtain ⟨rfl, rfl⟩ := same
  rw [Function.update_eq_self]
  exact { ordered with
    file := by
      have whole := ordered.file.trans added
      rwa [List.append_nil] at whole }

/-- The thread that has the lock writes. -/
private theorem Ordered.write (ordered : Ordered lines path before world views)
    (has : (views id).holds = true) {bytes line : List UInt8} (isLine : (views id).line = some line)
    (within : (views id).piece ++ bytes <+: line) {disk : Disk}
    (added : Added world.disk path bytes disk) :
    Ordered lines path before { world with disk }
      (Function.update views id ((views id).wrote bytes)) where
  once := ordered.once
  locked := forall_update (fun id view => id ∈ world.taken ↔ view.locked = true) ordered.locked
    (ordered.locked id)
  holds := forall_update (fun id view => view.holds = true ↔ world.holder = some id) ordered.holds
    (ordered.holds id)
  last := by
    intro other
    by_cases isId : other = id
    · rw [isId, Function.update_self]
      exact fun holds => ordered.last id holds
    · rw [Function.update_of_ne isId]
      exact ordered.last other
  line := forall_update (fun id view => view.line = lines id) ordered.line (ordered.line id)
  piece := by
    obtain ⟨front, isOrder⟩ := ordered.last id has
    have isLocked : (views id).locked = true := by
      rw [← ordered.locked, isOrder]
      simp
    exact forall_update (fun id view => view.piece ≠ [] →
        view.locked = true ∧ ∃ line, lines id = some line ∧ view.piece <+: line)
      ordered.piece fun _ => ⟨isLocked, line, (ordered.line id).symm.trans isLine, within⟩
  file := by
    obtain ⟨front, isOrder⟩ := ordered.last id has
    have earlier : id ∉ front := by
      have once := ordered.once
      rw [isOrder, List.nodup_append] at once
      exact fun member => once.2.2 id member id (List.mem_singleton_self id) rfl
    have others : (front.flatMap fun other => (Function.update views id ((views id).wrote bytes)
        other).piece) = front.flatMap fun other => (views other).piece := by
      apply List.flatMap_congr
      intro other member
      have differs : other ≠ id := by
        rintro rfl
        exact earlier member
      rw [Function.update_of_ne differs]
    have whole := ordered.file.trans added
    rw [isOrder, List.flatMap_append, List.flatMap_singleton, List.append_assoc] at whole
    rw [isOrder, List.flatMap_append, List.flatMap_singleton, others, Function.update_self]
    exact whole

/-- A write that failed has added a beginning of its bytes. -/
private theorem added_of_writeAll {disk left : Disk} {bytes : List UInt8}
    {reply : (StoreOp.writeAll path bytes).Reply}
    (attempts : Attempts tool disk (.writeAll path bytes) reply left) :
    ∃ front, front <+: bytes ∧ Added disk path front left ∧ (reply = .ok () → front = bytes) := by
  rcases attempts with applied | ⟨failed, rfl | ⟨content, front, isFile, isFront, writes⟩⟩
  · have ran : disk.writeAll path bytes = (reply, left) := applied
    rcases disk.writeAll_cases path bytes with ⟨error, failed⟩ | ⟨written, succeeded, writes⟩
    · rw [failed] at ran
      obtain ⟨rfl, rfl⟩ := Prod.mk.inj ran
      exact ⟨[], List.nil_prefix, .refl _ _, fun impossible => by cases impossible⟩
    · rw [succeeded] at ran
      obtain ⟨rfl, rfl⟩ := Prod.mk.inj ran
      exact ⟨bytes, List.prefix_refl bytes, .of_writesFile writes, fun _ => rfl⟩
  · refine ⟨[], List.nil_prefix, .refl _ _, ?_⟩
    rintro rfl
    cases failed
  · refine ⟨front, isFront, .of_writesFile ?_, ?_⟩
    · rw [Disk.bytesAt_file isFile]
      exact writes
    · rintro rfl
      cases failed

private theorem added_of_openAppend {disk left : Disk} {reply : (StoreOp.openAppend path).Reply}
    (attempts : Attempts tool disk (.openAppend path) reply left) : Added disk path [] left := by
  rcases attempts with applied | ⟨_, rfl | impossible⟩
  · have ran : disk.openAppend path = (reply, left) := applied
    have opened := Added.openAppend disk path
    rwa [ran] at opened
  · exact .refl _ _
  · exact impossible.elim

private theorem Ordered.answers (ordered : Ordered lines path before world views)
    {op : AppendOp} {reply : op.Reply} (admitted : (appendContract path).Admits (views id) op)
    (answered : AppendWorld.Answers tool id world op reply after) :
    ∃ view, (appendContract path).Answers (views id) op reply view ∧
      Ordered lines path before after (Function.update views id view) := by
  cases op with
  | lock =>
      obtain ⟨free, rfl⟩ := answered
      exact ⟨_, rfl, ordered.lock free admitted⟩
  | unlock =>
      obtain rfl := answered
      exact ⟨_, rfl, ordered.unlock admitted⟩
  | file op =>
      obtain ⟨attempts, same⟩ := answered
      cases op with
      | createDirAll parent =>
          exact ⟨views id, rfl,
            ordered.silent id same (.of_lookup (attempts.createDirAll_frame admitted))⟩
      | openAppend target =>
          obtain rfl : target = path := admitted
          exact ⟨views id, rfl, ordered.silent id same (added_of_openAppend attempts)⟩
      | writeAll target bytes =>
          obtain ⟨rfl, has, line, isLine, within⟩ := admitted
          obtain ⟨front, isFront, added, whole⟩ := added_of_writeAll attempts
          have stays : (views id).piece ++ front <+: line :=
            ((List.prefix_append_right_inj _).mpr isFront).trans within
          obtain ⟨disk, holder, taken⟩ := after
          obtain ⟨rfl, rfl⟩ := same
          refine ⟨(views id).wrote front, ?_, ordered.write has isLine stays added⟩
          cases reply with
          | ok done =>
              obtain rfl := whole rfl
              rfl
          | error error => exact ⟨front, isFront, rfl⟩
      | _ => exact admitted.elim

variable {Call : Type} {append : Call → Appending Bool} {lineOf : Call → Option (List UInt8)}

/-- What the appends of a store do: their line is the one that the store takes. -/
def Appends (path : Path) (append : Call → Appending Bool)
    (lineOf : Call → Option (List UInt8)) : Prop :=
  ∀ call, wlp (appendContract path) (append call).run Ended { line := lineOf call }

private theorem respects (appends : Appends path append lineOf) :
    (appendSystem tool append :
        System Id AppendOp AppendOp.Reply (AppendState Call) (AppendWorld Id)).Respects
      (appendContract path) (AppendRest lineOf)
      (fun world views => Ordered lines path before world views) where
  offered := by
    rintro id state program view rest ⟨call, rfl, rfl⟩
    obtain rfl : view = { line := lineOf call } := rest
    exact wlp_seq (appends call) fun _ _ ended => ended
  step := by
    intro id world views op reply after ordered admitted answered
    exact ordered.answers admitted answered
  environment := fun _ _ _ _ impossible => impossible.elim

/-- The appends of one process to a file keep its lines, whatever calls fail. -/
theorem keepsLines (appends : Appends path append lineOf) {calls : Id → Call}
    {pool : AppendPool Id Call}
    (reachable : (appendSystem tool append).Reachable (startOfAppends calls before) pool) :
    ∃ pieces, KeepsLines (lineOf ∘ calls) path before pool pieces := by
  have start : (startOfAppends calls before).Safe (appendContract path) (AppendRest lineOf)
      (fun world views => Ordered (lineOf ∘ calls) path before world views) := by
    refine ⟨fun id => { line := lineOf (calls id) }, ?_, fun _ => rfl⟩
    exact
      { once := List.nodup_nil
        locked := fun _ => by simp [startOfAppends]
        holds := fun _ => by simp [startOfAppends]
        last := fun _ impossible => by cases impossible
        line := fun _ => rfl
        piece := fun _ some => absurd rfl some
        file := .refl _ _ }
  obtain ⟨views, ordered, meets⟩ := reachable.safe (respects appends) start
  refine ⟨fun id => (views id).piece, ordered.once, ordered.file.bytes, ?_, ?_, ?_, ?_⟩
  · intro id outside
    by_contra some
    exact outside ((ordered.locked id).mpr (ordered.piece id some).1)
  · exact fun id some => (ordered.piece id some).2
  · intro id ended
    have rest := meets id
    rw [ended] at rest
    exact (ordered.line id).symm.trans rest.2
  · intro id ended
    have rest := meets id
    rw [ended] at rest
    exact rest.2

end Invariant

/-! ## The two stores -/

/-- What a record has to be: versioned, named, without raw texts, and scanned for secrets. -/
structure Admissible {Details : Type} (record : LearningRecord Details) : Prop where
  versioned : record.schemaVersion ≠ 0
  named : record.runId ≠ "" ∧ (utf8Bytes record.runId).length ≤ 128
  derived : record.privacy.rawPromptStored = false ∧ record.privacy.rawCodeStored = false ∧
    record.privacy.rawOutputStored = false
  scanned : record.privacy.secretScanPassed = true

section Stores

variable {Details : Type} {Id : Type} [DecidableEq Id] {tool : Sha256sum} {path : Path}
  {before : Disk}

theorem admissible_of_validateRecord {record : LearningRecord Details}
    (valid : validateRecord record = .ok ()) : Admissible record := by
  unfold validateRecord at valid
  split_ifs at valid with unversioned unnamed raw unscanned
  simp only [not_or, Nat.not_lt] at unnamed
  simp only [not_or, Bool.not_eq_true] at raw
  simp only [Bool.not_eq_true', Bool.not_eq_false] at unscanned
  exact ⟨unversioned, unnamed, raw, unscanned⟩

theorem recordLine_eq_some {json : JsonCodec (LearningRecord Details)} {self : LineStore}
    {record : LearningRecord Details} {line : List UInt8}
    (taken : recordLine json self record = some line) :
    self.enabled = true ∧ validateRecord record = .ok () := by
  unfold recordLine at taken
  split at taken
  · split_ifs at taken with accepted
    exact ⟨accepted.1, accepted.2.1⟩
  · cases taken

/-- In every interleaving of the appends of one process to a learning store, with calls that
fail: the file keeps its content and gets after it, in the order of the lock, a piece of a line
of each append, the whole line of each that ended with success, and only of records that an
enabled store admits. -/
theorem learning_keepsLines (json : JsonCodec (LearningRecord Details)) {enabled : Id → Bool}
    {records : Id → LearningRecord Details} {pool : AppendPool Id (Bool × LearningRecord Details)}
    (reachable : (appendSystem tool fun call => appendRecord json ⟨path, call.1⟩ call.2).Reachable
      (startOfAppends (fun id => (enabled id, records id)) before) pool) :
    ∃ pieces,
      KeepsLines (fun id => recordLine json ⟨path, enabled id⟩ (records id)) path before pool
        pieces ∧
      ∀ id, pieces id ≠ [] → enabled id = true ∧ Admissible (records id) := by
  have appends : Appends path (fun call => appendRecord json ⟨path, call.1⟩ call.2)
      fun call : Bool × LearningRecord Details => recordLine json ⟨path, call.1⟩ call.2 :=
    fun call => appendRecord_ended json call.1 call.2 rfl rfl rfl rfl
  obtain ⟨pieces, keeps⟩ := keepsLines appends reachable
  refine ⟨pieces, keeps, fun id some => ?_⟩
  obtain ⟨line, taken, _⟩ := keeps.piece id some
  obtain ⟨isEnabled, valid⟩ := recordLine_eq_some taken
  exact ⟨isEnabled, admissible_of_validateRecord valid⟩

/-- The same of the appends to a policy store. -/
theorem policy_keepsLines (json : JsonCodec PolicyProposal) {enabled : Id → Bool}
    {proposals : Id → PolicyProposal} {pool : AppendPool Id (Bool × PolicyProposal)}
    (reachable : (appendSystem tool fun call => appendProposal json ⟨path, call.1⟩ call.2).Reachable
      (startOfAppends (fun id => (enabled id, proposals id)) before) pool) :
    ∃ pieces,
      KeepsLines (fun id => proposalLine json ⟨path, enabled id⟩ (proposals id)) path before pool
        pieces := by
  have appends : Appends path (fun call => appendProposal json ⟨path, call.1⟩ call.2)
      fun call : Bool × PolicyProposal => proposalLine json ⟨path, call.1⟩ call.2 :=
    fun call => appendProposal_ended json call.1 call.2 rfl rfl rfl rfl
  exact keepsLines appends reachable

end Stores

/-- Records without details. -/
def plainRecords : JsonCodec (LearningRecord Unit) where
  toString := fun record => .ok ("\x7b\"run_id\":\"" ++ record.runId ++ "\"\x7d")
  fromStr := fun _ => none

/-- A record that is admitted. -/
def scannedRecord : LearningRecord Unit where
  schemaVersion := 1
  runId := "r1"
  privacy := ⟨false, false, false, true⟩
  details := ()

/-- One of two stores is enabled. -/
def firstEnabled (id : Fin 2) : Bool := id = 0

open TriAI.Persistence (noSha256sum sessionsDisk) in
private theorem answers_file {world : AppendWorld (Fin 2)} (id : Fin 2) {op : StoreOp}
    {reply : op.Reply} (succeeds : (op.apply noSha256sum world.disk).1 = reply) :
    AppendWorld.Answers noSha256sum id world (.file op) reply
      { world with disk := (op.apply noSha256sum world.disk).2 } :=
  ⟨.inl (Prod.ext succeeds rfl), rfl, rfl⟩

open TriAI.Persistence (noSha256sum sessionsDisk) in
/-- The append to the enabled store and the one to the other have ended. -/
theorem learning_keepsLines_first :
    ∃ pool : AppendPool (Fin 2) (Bool × LearningRecord Unit),
      pool.activity 0 = .resting (.ended (.ok true)) ∧
      pool.activity 1 = .resting (.ended (.ok false)) ∧
      pool.world.taken = [0] ∧
      ∃ pieces,
        KeepsLines (fun id => recordLine plainRecords ⟨["sessions", "l.jsonl"], firstEnabled id⟩
          scannedRecord) ["sessions", "l.jsonl"] sessionsDisk pool pieces ∧
        ∀ id, pieces id ≠ [] → firstEnabled id = true ∧ Admissible scannedRecord := by
  have start : (appendSystem noSha256sum fun call => appendRecord plainRecords
      ⟨["sessions", "l.jsonl"], call.1⟩ call.2).Reachable
    (startOfAppends (fun id => (firstEnabled id, scannedRecord)) sessionsDisk)
    (startOfAppends (fun id : Fin 2 => (firstEnabled id, scannedRecord)) sessionsDisk) := .refl
  have begins := start.begin 0 _ rfl ⟨_, rfl, rfl⟩
  have prepared := begins.call 0 rfl (.ok ()) _ (answers_file 0 (by decide +kernel))
  have follows := prepared.begin 1 _ rfl ⟨_, rfl, rfl⟩
  have locked := follows.call 0 rfl () _ ⟨rfl, rfl⟩
  have skipped := locked.finish 1 rfl
  have opened := skipped.call 0 rfl (.ok ()) _ (answers_file 0 (by decide +kernel))
  have wrote := opened.call 0 rfl (.ok ()) _ (answers_file 0 (by decide +kernel))
  have terminated := wrote.call 0 rfl (.ok ()) _ (answers_file 0 (by decide +kernel))
  have released := terminated.call 0 rfl () _ rfl
  have ended := released.finish 0 rfl
  exact ⟨_, rfl, rfl, rfl, learning_keepsLines plainRecords ended⟩

end TriAI.Learning
