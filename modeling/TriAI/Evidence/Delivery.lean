import TriAI.Evidence.Writer
import TriAI.Library.Runs
import TriAI.Library.Subprogram

/-!
Contract: what the evidence writer delivers to its files.

Owns: `Disk`, the contents of the files with the writes behind them, and how the calls change it;
`Flushed`, what every flush keeps; and the theorem about every run of `writer_task`.

Does not own: other writers of the files.

A buffer is cleared when its bytes are handed over. If they fail to arrive they are lost, and it
is the next write that gets the error, whose bytes are kept.
-/

set_option autoImplicit false

namespace TriAI.Evidence

open TriAI.Library.Interaction
open TriAI.Library.Runs

/-! ## Files -/

/-- The contents of the files at their places, and the open files by name. -/
structure Disk (Place : Type) where
  contents : Place → List UInt8
  opened : String → AsyncFile := fun _ => {}

/-- Which writes may fail behind their files, and what a call may do. -/
structure Faults (Place : Type) where
  mayFail : String → Prop
  Allows : Disk Place → (op : WriterOp) → op.Reply → Disk Place → Prop

variable {Place : Type}

/-- Any write may fail. -/
def Faults.any : Faults Place := ⟨fun _ => True, fun _ _ _ _ => True⟩

/-- No write fails behind its file, and a `write_all` that fails has put nothing into it. -/
def Faults.clean : Faults Place where
  mayFail := fun _ => False
  Allows := fun disk op reply after =>
    match op, reply with
    | .writeAll _ _, .error _ => after.contents = disk.contents
    | _, _ => True

namespace Disk

variable [DecidableEq Place] (place : String → Place)

/-- Bytes arrive in the file that a name leads to, and the open file is another then. -/
def arrive (disk : Disk Place) (filename : String) (bytes : List UInt8) (file : AsyncFile) :
    Disk Place where
  contents := Function.update disk.contents (place filename)
    (disk.contents (place filename) ++ bytes)
  opened := Function.update disk.opened filename file

/-- The write behind one file goes on. -/
def Proceeds (mayFail : String → Prop) (disk after : Disk Place) : Prop :=
  ∃ filename bytes file, (disk.opened filename).Proceeds bytes file ∧
    (file.failure ≠ none → mayFail filename) ∧ after = disk.arrive place filename bytes file

/-- The writes behind the files go on for a while. -/
abbrev Later (mayFail : String → Prop) : Disk Place → Disk Place → Prop :=
  Relation.ReflTransGen (Proceeds place mayFail)

/-- What a call does. -/
def Called (disk : Disk Place) : (op : WriterOp) → op.Reply → Disk Place → Prop
  | .openAppend filename, .ok (), after => after = disk.arrive place filename [] {}
  | .openAppend _, .error _, after => after = disk
  | .writeAll filename bytes, reply, after =>
      ∃ arrived file, (disk.opened filename).WriteAll bytes reply arrived file ∧
        after = disk.arrive place filename arrived file
  | .syncAll filename, _, after => (disk.opened filename).flying = [] ∧ after = disk

/-- A call is answered when the writes have gone on for a while. -/
def Answers (faults : Faults Place) (disk : Disk Place) (op : WriterOp) (reply : op.Reply)
    (after : Disk Place) : Prop :=
  ∃ middle, Later place faults.mayFail disk middle ∧ Called place middle op reply after ∧
    faults.Allows middle op reply after

section Arrive

variable {place} {disk : Disk Place} {filename : String} {bytes : List UInt8} {file : AsyncFile}

@[simp] theorem arrive_contents_self :
    (disk.arrive place filename bytes file).contents (place filename) =
      disk.contents (place filename) ++ bytes := Function.update_self ..

theorem arrive_contents_of_ne {elsewhere : Place} (other : elsewhere ≠ place filename) :
    (disk.arrive place filename bytes file).contents elsewhere = disk.contents elsewhere :=
  Function.update_of_ne other ..

@[simp] theorem arrive_opened_self :
    (disk.arrive place filename bytes file).opened filename = file := Function.update_self ..

theorem arrive_opened_of_ne {name : String} (other : name ≠ filename) :
    (disk.arrive place filename bytes file).opened name = disk.opened name :=
  Function.update_of_ne other ..

theorem arrive_self : disk.arrive place filename [] (disk.opened filename) = disk := by
  simp [arrive]

/-- Nothing is under way to a file that nothing was under way to. -/
theorem Proceeds.idle {mayFail : String → Prop} {after : Disk Place}
    (proceeds : Proceeds place mayFail disk after) {name : String}
    (nothing : (disk.opened name).flying = []) : (after.opened name).flying = [] := by
  obtain ⟨other, arrived, left, moves, _, rfl⟩ := proceeds
  by_cases same : name = other
  · subst same
    rw [arrive_opened_self, (moves.idle nothing).2]
    exact nothing
  · rw [arrive_opened_of_ne same]
    exact nothing

theorem Later.idle {mayFail : String → Prop} {after : Disk Place}
    (later : Later place mayFail disk after) {name : String}
    (nothing : (disk.opened name).flying = []) : (after.opened name).flying = [] := by
  induction later with
  | refl => exact nothing
  | tail _ proceeds inductionHypothesis => exact proceeds.idle inductionHypothesis

end Arrive

end Disk

namespace Writer

/-- A file with what is under way to it and what waits for it. -/
def whole (place : String → Place) (writer : Writer) (disk : Disk Place) (filename : String) :
    List UInt8 :=
  disk.contents (place filename) ++ (disk.opened filename).flying ++ writer.pending filename

/-- Nothing is missing between the file and what waits for it exactly if nothing is under way. -/
theorem contents_pending_eq_whole_iff {place : String → Place} {writer : Writer} {disk : Disk Place}
    {filename : String} :
    disk.contents (place filename) ++ writer.pending filename = writer.whole place disk filename ↔
      (disk.opened filename).flying = [] := by
  rw [whole, List.append_assoc, List.append_cancel_left_eq, List.self_eq_append_left]

/-- Different names with a buffer lead to different files, and bytes are under way only to files
that were opened. -/
structure Apart (place : String → Place) (writer : Writer) (disk : Disk Place) : Prop where
  own : ∀ first ∈ writer.buffers, ∀ second ∈ writer.buffers, place first = place second →
    first = second
  held : ∀ filename ∈ writer.files, filename ∈ writer.buffers
  idle : ∀ filename, filename ∉ writer.files → (disk.opened filename).flying = []

/-- What a flush keeps: the names, every file with what is to come, the other files, the buffers
that are empty, and that bytes are under way only to files that were opened. -/
structure Flushed (place : String → Place) (before : Writer) (disk : Disk Place) (after : Writer)
    (diskAfter : Disk Place) : Prop where
  names : ∀ filename, filename ∈ after.buffers ↔ filename ∈ before.buffers
  whole : ∀ filename ∈ before.buffers,
    after.whole place diskAfter filename = before.whole place disk filename
  others : ∀ elsewhere, (∀ filename ∈ before.buffers, place filename ≠ elsewhere) →
    diskAfter.contents elsewhere = disk.contents elsewhere
  empty : ∀ filename, before.pending filename = [] → after.pending filename = []
  files : ∀ filename ∈ after.files, filename ∈ before.files ∨ filename ∈ before.buffers
  idle : (∀ filename, filename ∉ before.files → (disk.opened filename).flying = []) →
    ∀ filename, filename ∉ after.files → (diskAfter.opened filename).flying = []

section Flush

variable {place : String → Place} {writer : Writer} {disk : Disk Place}

theorem Flushed.refl : Flushed place writer disk writer disk :=
  ⟨fun _ => Iff.rfl, fun _ _ => rfl, fun _ _ => rfl, fun _ empty => empty, fun _ => .inl, id⟩

theorem Flushed.trans {middle last : Writer} {diskMiddle diskLast : Disk Place}
    (first : Flushed place writer disk middle diskMiddle)
    (second : Flushed place middle diskMiddle last diskLast) :
    Flushed place writer disk last diskLast where
  names := fun filename => (second.names filename).trans (first.names filename)
  whole := fun filename member =>
    (second.whole filename ((first.names filename).mpr member)).trans (first.whole filename member)
  others := by
    intro elsewhere other
    rw [second.others elsewhere fun filename member => other filename
      ((first.names filename).mp member), first.others elsewhere other]
  empty := fun filename empty => second.empty filename (first.empty filename empty)
  files := by
    intro filename isOpen
    rcases second.files filename isOpen with wasOpen | held
    · exact first.files filename wasOpen
    · exact .inr ((first.names filename).mp held)
  idle := fun idle => second.idle (first.idle idle)

theorem Apart.flushed (apart : writer.Apart place disk) {after : Writer} {diskAfter : Disk Place}
    (flushed : Flushed place writer disk after diskAfter) : after.Apart place diskAfter where
  own := by
    intro first isFirst second isSecond
    exact apart.own first ((flushed.names first).mp isFirst) second
      ((flushed.names second).mp isSecond)
  held := by
    intro filename isOpen
    rw [flushed.names]
    rcases flushed.files filename isOpen with wasOpen | held
    · exact apart.held filename wasOpen
    · exact held
  idle := flushed.idle apart.idle

/-- A flush that empties every buffer leaves nothing that waits. -/
theorem Flushed.pending_eq_nil {after : Writer} {diskAfter : Disk Place}
    (flushed : Flushed place writer disk after diskAfter)
    (emptied : ∀ filename ∈ writer.buffers, after.pending filename = []) (filename : String) :
    after.pending filename = [] := by
  by_cases held : filename ∈ writer.buffers
  · exact emptied filename held
  · apply flushed.empty
    simp [pending, AList.lookup_eq_none.mpr held]

variable [DecidableEq Place]

/-- Bytes go from the buffer of a name, or from what is under way to its file, into the file. -/
theorem Flushed.of_arrive (apart : writer.Apart place disk) {filename : String}
    (member : filename ∈ writer.buffers) {bytes : List UInt8} {file : AsyncFile} {after : Writer}
    (names : ∀ other, other ∈ after.buffers ↔ other ∈ writer.buffers)
    (others : ∀ other, other ≠ filename → after.pending other = writer.pending other)
    (files : ∀ other, other ∈ after.files ↔ other ∈ writer.files ∨ other = filename)
    (balanced : bytes ++ file.flying ++ after.pending filename =
      (disk.opened filename).flying ++ writer.pending filename)
    (empty : writer.pending filename = [] → after.pending filename = []) :
    Flushed place writer disk after (disk.arrive place filename bytes file) where
  names := names
  whole := by
    intro other held
    unfold Writer.whole
    by_cases same : other = filename
    · subst same
      rw [Disk.arrive_contents_self, Disk.arrive_opened_self]
      simp only [List.append_assoc] at balanced ⊢
      rw [balanced]
    · have elsewhere : place other ≠ place filename :=
        fun together => same (apart.own other held filename member together)
      rw [Disk.arrive_contents_of_ne elsewhere, Disk.arrive_opened_of_ne same, others other same]
  others := by
    intro elsewhere other
    exact Disk.arrive_contents_of_ne (Ne.symm (other filename member))
  empty := by
    intro other nothing
    by_cases same : other = filename
    · subst same
      exact empty nothing
    · rw [others other same]
      exact nothing
  files := by
    intro other isOpen
    rcases (files other).mp isOpen with wasOpen | rfl
    · exact .inl wasOpen
    · exact .inr member
  idle := by
    intro idle other closed
    obtain ⟨wasClosed, different⟩ := not_or.mp (mt (files other).mpr closed)
    rw [Disk.arrive_opened_of_ne different]
    exact idle other wasClosed

/-- A write behind a file that does not fail. -/
theorem Flushed.of_proceeds (apart : writer.Apart place disk) {after : Disk Place}
    (proceeds : Disk.Proceeds place (fun _ => False) disk after) :
    Flushed place writer disk writer after := by
  obtain ⟨filename, bytes, file, moves, fails, rfl⟩ := proceeds
  by_cases isOpen : filename ∈ writer.files
  · have held := apart.held filename isOpen
    refine .of_arrive apart held (fun _ => Iff.rfl) (fun _ _ => rfl) ?_ ?_ id
    · intro other
      rw [iff_self_or]
      rintro rfl
      exact isOpen
    · rw [moves.keeps (by_contra fails)]
  · obtain ⟨rfl, rfl⟩ := moves.idle (apart.idle filename isOpen)
    rw [Disk.arrive_self]
    exact .refl

theorem Flushed.of_later (apart : writer.Apart place disk) {after : Disk Place}
    (later : Disk.Later place (fun _ => False) disk after) :
    Flushed place writer disk writer after := by
  induction later with
  | refl => exact .refl
  | tail _ proceeds inductionHypothesis =>
      exact inductionHypothesis.trans (.of_proceeds (apart.flushed inductionHypothesis) proceeds)

/-- Opening a file changes no buffer and no content. -/
theorem ensureOpen_flushed (apart : writer.Apart place disk) {filename : String}
    (member : filename ∈ writer.buffers) :
    wlp (stepping (Disk.Answers place .clean)) (writer.ensureOpen filename)
      (fun result after => result.2.buffers = writer.buffers ∧
        Flushed place writer disk result.2 after ∧
        (result.1 = .ok () → filename ∈ result.2.files)) disk := by
  unfold ensureOpen
  split
  · rename_i isOpen
    exact ⟨rfl, .refl, fun _ => isOpen⟩
  · rename_i closed
    refine wlp_perform trivial fun reply after answered => ?_
    obtain ⟨middle, later, called, _⟩ := answered
    have waited : Flushed place writer disk writer middle := .of_later apart later
    rcases reply with error | ⟨⟩
    · obtain rfl := called
      exact ⟨rfl, waited, fun fails => nomatch fails⟩
    · obtain rfl := called
      refine ⟨rfl, waited.trans ?_, fun _ => List.mem_append_right _ (List.mem_singleton_self _)⟩
      have apartNow := apart.flushed waited
      refine .of_arrive apartNow member (fun _ => Iff.rfl) (fun _ _ => rfl) (by simp) ?_ id
      show [] ++ [] ++ writer.pending filename = _
      rw [apartNow.idle filename closed]
      rfl

/-- What one flush does. -/
theorem flushBuffer_flushed (apart : writer.Apart place disk) {filename : String}
    (member : filename ∈ writer.buffers) :
    wlp (stepping (Disk.Answers place .clean)) (writer.flushBuffer filename)
      (fun result after => Flushed place writer disk result.2 after ∧
        (result.1 = .ok () → result.2.pending filename = [])) disk := by
  unfold flushBuffer
  split
  · rename_i empty
    exact ⟨.refl, fun _ => empty⟩
  · refine wlp_seq (ensureOpen_flushed apart member) ?_
    rintro ⟨error | ⟨⟩, opened⟩ between ⟨same, openedFlushed, isOpen⟩
    · exact ⟨openedFlushed, fun fails => nomatch fails⟩
    · refine wlp_perform trivial fun reply after answered => ?_
      obtain ⟨middle, later, ⟨arrived, file, writes, rfl⟩, allowed⟩ := answered
      have waited : Flushed place writer disk opened middle :=
        openedFlushed.trans (.of_later (apart.flushed openedFlushed) later)
      have apartNow := apart.flushed waited
      have held : filename ∈ opened.buffers := (waited.names filename).mpr member
      have files : ∀ other, other ∈ opened.files ↔ other ∈ opened.files ∨ other = filename := by
        intro other
        rw [iff_self_or]
        rintro rfl
        exact isOpen rfl
      rcases reply with error | ⟨⟩
      · obtain ⟨_, nothing⟩ := writes.of_error
        have unchanged : (middle.arrive place filename arrived file).contents = middle.contents :=
          allowed
        have noBytes : arrived = [] := by
          have there := congrFun unchanged (place filename)
          rw [Disk.arrive_contents_self] at there
          exact List.append_right_eq_self.mp there
        refine ⟨waited.trans ?_, fun fails => nomatch fails⟩
        refine .of_arrive apartNow held (fun _ => Iff.rfl) (fun _ _ => rfl) files ?_ id
        rw [noBytes, nothing, writes.idle]
        rfl
      · refine ⟨waited.trans ?_, fun _ => by simp [pending]⟩
        refine .of_arrive apartNow held ?_ ?_ files ?_ (fun _ => by simp [pending])
        · intro other
          rw [AList.mem_insert]
          exact or_iff_right_of_imp fun same => same ▸ held
        · intro other different
          simp [pending, AList.lookup_insert_ne different]
        · rw [writes.of_ok, writes.idle]
          simp [pending]

/-- What a flush of all buffers does. -/
theorem flushAllBuffers_flushed (order : List String) {writer : Writer} {disk : Disk Place}
    (apart : writer.Apart place disk) (members : ∀ filename ∈ order, filename ∈ writer.buffers) :
    wlp (stepping (Disk.Answers place .clean)) (writer.flushAllBuffers order)
      (fun result after => Flushed place writer disk result.2 after ∧
        (result.1 = .ok () → ∀ filename ∈ order, result.2.pending filename = [])) disk := by
  induction order generalizing writer disk with
  | nil => exact ⟨.refl, by simp⟩
  | cons filename rest inductionHypothesis =>
      refine wlp_seq (flushBuffer_flushed apart (members filename (List.mem_cons_self ..))) ?_
      rintro ⟨error | ⟨⟩, flushed⟩ middle ⟨kept, emptied⟩
      · exact ⟨kept, fun fails => nomatch fails⟩
      · have membersLeft : ∀ other ∈ rest, other ∈ flushed.buffers := fun other member =>
          (kept.names other).mpr (members other (List.mem_cons_of_mem _ member))
        apply wlp_mono (inductionHypothesis (apart.flushed kept) membersLeft)
        rintro ⟨result, last⟩ after ⟨later, allEmpty⟩
        refine ⟨kept.trans later, fun succeeds => ?_⟩
        rw [List.forall_mem_cons]
        exact ⟨later.empty filename (emptied rfl), allEmpty succeeds⟩

/-- Syncing waits for the writes. -/
theorem syncFiles_flushed (files : List String) (apart : writer.Apart place disk) :
    wlp (stepping (Disk.Answers place .clean)) (syncFiles files)
      (fun _ after => Flushed place writer disk writer after) disk := by
  induction files generalizing disk with
  | nil => exact .refl
  | cons filename rest inductionHypothesis =>
      refine wlp_perform trivial fun reply after answered => ?_
      obtain ⟨_, later, ⟨_, rfl⟩, _⟩ := answered
      have waited : Flushed place writer disk writer after := .of_later apart later
      apply wlp_mono (inductionHypothesis (apart.flushed waited))
      intro _ last rest
      exact waited.trans rest

end Flush

end Writer

/-! ## Turns -/

/-- A turn of the loop: what it handled, the order it was given, what it replied and the
writer it left. -/
structure Handled where
  event : WriterEvent
  order : List String
  reply : Option (Except IoError Unit)
  writer : Writer

/-- The writer, its files and whether its loop goes on. -/
structure Task (Place : Type) where
  writer : Writer
  disk : Disk Place
  goesOn : Bool

/-- The data a turn is sent for a file. -/
def WriterEvent.sentTo (filename : String) : WriterEvent → List UInt8
  | .write name data => if name = filename then data else []
  | .flush | .shutdown | .closed | .tick => []

/-- All data sent for a file. -/
def sentTo (filename : String) (history : List Handled) : List UInt8 :=
  (history.map fun handled => handled.event.sentTo filename).flatten

/-- One turn of a task, up to some moment before the next turn. -/
structure Turns [DecidableEq Place] (place : String → Place) (faults : Faults Place)
    (bufferSizeBytes : Nat) (before : Task Place) (handled : Handled) (after : Task Place) :
    Prop where
  running : before.goesOn = true
  order : handled.order.Perm before.writer.buffers.keys
  leaves : handled.writer = after.writer
  runs : ∃ answered, Prog.Exec (Disk.Answers place faults) before.disk
      (before.writer.handle bufferSizeBytes handled.order handled.event)
      ⟨handled.reply, after.writer, after.goesOn⟩ answered ∧
    Disk.Later place faults.mayFail answered after.disk

/-- A name that is written leads to a file of its own. -/
def OwnFile (place : String → Place) (before : Task Place) (handled : Handled) : Prop :=
  ∀ name data, handled.event = .write name data →
    ∀ other ∈ before.writer.buffers, place other = place name → other = name

/-- The invariant: every file with what is under way to it and what waits for it is what it was
with all that was sent, and the other files are what they were. -/
structure Delivers (place : String → Place) (initial : Place → List UInt8)
    (history : List Handled) (task : Task Place) : Prop where
  apart : task.writer.Apart place task.disk
  unsent : ∀ filename, filename ∉ task.writer.buffers → sentTo filename history = []
  whole : ∀ filename ∈ task.writer.buffers,
    task.writer.whole place task.disk filename = initial (place filename) ++ sentTo filename history
  others : ∀ elsewhere, (∀ filename ∈ task.writer.buffers, place filename ≠ elsewhere) →
    task.disk.contents elsewhere = initial elsewhere

/-- The writer once the data of an event is in its buffer. -/
def Writer.receive (writer : Writer) : WriterEvent → Writer
  | .write filename data => writer.extend filename data
  | .flush | .shutdown | .closed | .tick => writer

section Steps

variable {place : String → Place} {initial : Place → List UInt8}

theorem sentTo_append (filename : String) (history : List Handled) (handled : Handled) :
    sentTo filename (history ++ [handled]) =
      sentTo filename history ++ handled.event.sentTo filename := by
  simp [sentTo]

/-- Data for a file with a name of its own. -/
theorem Delivers.extend {history : List Handled} {task : Task Place}
    (delivers : Delivers place initial history task) {name : String} {data : List UInt8}
    {order : List String} {reply : Option (Except IoError Unit)} {writer : Writer}
    (own : ∀ other ∈ task.writer.buffers, place other = place name → other = name) :
    Delivers place initial (history ++ [⟨.write name data, order, reply, writer⟩])
      { task with writer := task.writer.extend name data } where
  apart := by
    have named : ∀ filename, filename ∈ (task.writer.extend name data).buffers →
        filename = name ∨ filename ∈ task.writer.buffers := by
      intro filename held
      simpa [Writer.extend] using held
    refine ⟨?_, fun filename isOpen => ?_, delivers.apart.idle⟩
    · intro first isFirst second isSecond together
      rcases named first isFirst with rfl | firstHeld
      · rcases named second isSecond with rfl | secondHeld
        · rfl
        · exact (own second secondHeld together.symm).symm
      · rcases named second isSecond with rfl | secondHeld
        · exact own first firstHeld together
        · exact delivers.apart.own first firstHeld second secondHeld together
    · simp [Writer.extend, delivers.apart.held filename isOpen]
  unsent := by
    intro filename absent
    have both : filename ≠ name ∧ filename ∉ task.writer.buffers := by
      simpa [Writer.extend] using absent
    rw [sentTo_append, delivers.unsent filename both.2]
    simp [WriterEvent.sentTo, Ne.symm both.1]
  whole := by
    intro filename held
    rw [sentTo_append, ← List.append_assoc]
    by_cases same : filename = name
    · subst same
      have before : task.writer.whole place task.disk filename =
          initial (place filename) ++ sentTo filename history := by
        by_cases old : filename ∈ task.writer.buffers
        · exact delivers.whole filename old
        · have untouched : task.disk.contents (place filename) = initial (place filename) := by
            apply delivers.others
            intro other otherHeld together
            exact old (own other otherHeld together ▸ otherHeld)
          have idle : (task.disk.opened filename).flying = [] :=
            delivers.apart.idle filename fun isOpen => old (delivers.apart.held filename isOpen)
          have nothing : task.writer.pending filename = [] := by
            simp [Writer.pending, AList.lookup_eq_none.mpr old]
          rw [Writer.whole, untouched, idle, nothing, delivers.unsent filename old,
            List.append_nil]
      rw [← before]
      simp [Writer.whole, Writer.pending, Writer.extend, WriterEvent.sentTo]
    · have old : filename ∈ task.writer.buffers := by
        simpa [Writer.extend, same] using held
      rw [← delivers.whole filename old]
      simp [Writer.whole, Writer.pending, Writer.extend, WriterEvent.sentTo, Ne.symm same,
        AList.lookup_insert_ne same]
  others := by
    intro elsewhere other
    apply delivers.others
    intro filename held
    exact other filename (by simp [Writer.extend, held])

/-- An event without data. -/
theorem Delivers.same {history : List Handled} {task : Task Place}
    (delivers : Delivers place initial history task) {handled : Handled}
    (silent : ∀ filename, handled.event.sentTo filename = []) :
    Delivers place initial (history ++ [handled]) task where
  apart := delivers.apart
  unsent := fun filename absent => by
    rw [sentTo_append, silent, List.append_nil]
    exact delivers.unsent filename absent
  whole := fun filename held => by
    rw [sentTo_append, silent, List.append_nil]
    exact delivers.whole filename held
  others := delivers.others

/-- Receiving the data of an event. -/
theorem Delivers.receive {history : List Handled} {task : Task Place}
    (delivers : Delivers place initial history task) {handled : Handled}
    (own : OwnFile place task handled) :
    Delivers place initial (history ++ [handled])
      { task with writer := task.writer.receive handled.event } := by
  obtain ⟨event, order, reply, writer⟩ := handled
  cases event with
  | write name data => exact delivers.extend (own name data rfl)
  | flush => exact delivers.same fun _ => rfl
  | shutdown => exact delivers.same fun _ => rfl
  | closed => exact delivers.same fun _ => rfl
  | tick => exact delivers.same fun _ => rfl

/-- A flush keeps what is delivered. -/
theorem Delivers.flushed {history : List Handled} {writer after : Writer}
    {disk diskAfter : Disk Place} {goesOn goesOnAfter : Bool}
    (delivers : Delivers place initial history ⟨writer, disk, goesOn⟩)
    (flushed : writer.Flushed place disk after diskAfter) :
    Delivers place initial history ⟨after, diskAfter, goesOnAfter⟩ where
  apart := delivers.apart.flushed flushed
  unsent := fun filename absent =>
    delivers.unsent filename fun held => absent ((flushed.names filename).mpr held)
  whole := fun filename held =>
    (flushed.whole filename ((flushed.names filename).mp held)).trans
      (delivers.whole filename ((flushed.names filename).mp held))
  others := by
    intro elsewhere other
    have before : ∀ filename ∈ writer.buffers, place filename ≠ elsewhere :=
      fun filename held => other filename ((flushed.names filename).mpr held)
    exact (flushed.others elsewhere before).trans (delivers.others elsewhere before)

variable [DecidableEq Place]

/-- A flush of all buffers in some order. -/
private theorem flushAll_flushed {writer : Writer} {disk : Disk Place}
    (apart : writer.Apart place disk) {order : List String}
    (isOrder : ∀ filename, filename ∈ order ↔ filename ∈ writer.buffers) :
    wlp (stepping (Disk.Answers place .clean)) (writer.flushAllBuffers order)
      (fun result after => writer.Flushed place disk result.2 after ∧
        (result.1 = .ok () → ∀ filename, result.2.pending filename = [])) disk := by
  apply wlp_mono (Writer.flushAllBuffers_flushed order apart fun filename => (isOrder filename).mp)
  rintro result after ⟨flushed, emptied⟩
  refine ⟨flushed, fun succeeds => flushed.pending_eq_nil fun filename held => ?_⟩
  exact emptied succeeds filename ((isOrder filename).mpr held)

/-- A turn receives its data and then flushes. -/
theorem Writer.handle_flushed {writer : Writer} {event : WriterEvent} {disk : Disk Place}
    (apart : (writer.receive event).Apart place disk) (bufferSizeBytes : Nat) {order : List String}
    (isOrder : ∀ filename, filename ∈ order ↔ filename ∈ writer.buffers) :
    wlp (stepping (Disk.Answers place .clean)) (writer.handle bufferSizeBytes order event)
      (fun turn after => Flushed place (writer.receive event) disk turn.writer after ∧
        (turn.reply = some (.ok ()) → ∀ filename, turn.writer.pending filename = []))
      disk := by
  cases event with
  | write filename data =>
      unfold handle
      dsimp only
      split
      · have member : filename ∈ (writer.extend filename data).buffers := by
          simp [extend]
        refine wlp_seq (flushBuffer_flushed apart member) ?_
        intro result after flushed
        exact ⟨flushed.1, fun noReply => nomatch noReply⟩
      · exact ⟨Flushed.refl, fun noReply => nomatch noReply⟩
  | flush =>
      refine wlp_seq (flushAll_flushed apart isOrder) ?_
      intro result after flushed
      exact ⟨flushed.1, fun succeeds => flushed.2 (Option.some.inj succeeds)⟩
  | shutdown =>
      refine wlp_seq (flushAll_flushed apart isOrder) ?_
      intro result middle flushed
      refine wlp_seq (syncFiles_flushed _ (apart.flushed flushed.1)) ?_
      intro _ after synced
      exact ⟨flushed.1.trans synced, fun succeeds => flushed.2 (Option.some.inj succeeds)⟩
  | closed =>
      refine wlp_seq (flushAll_flushed apart isOrder) ?_
      intro result after flushed
      exact ⟨flushed.1, fun noReply => nomatch noReply⟩
  | tick =>
      refine wlp_seq (flushAll_flushed apart isOrder) ?_
      intro result after flushed
      exact ⟨flushed.1, fun noReply => nomatch noReply⟩

/-- Step lemma: a turn keeps the invariant, and a flush that succeeds empties the buffers. -/
theorem Turns.delivers {bufferSizeBytes : Nat} {history : List Handled} {before after : Task Place}
    {handled : Handled} (delivers : Delivers place initial history before)
    (turns : Turns place .clean bufferSizeBytes before handled after)
    (own : OwnFile place before handled) :
    Delivers place initial (history ++ [handled]) after ∧
      (handled.reply = some (.ok ()) → ∀ filename, handled.writer.pending filename = []) := by
  have received := delivers.receive own
  have isOrder : ∀ filename, filename ∈ handled.order ↔ filename ∈ before.writer.buffers := by
    intro filename
    rw [turns.order.mem_iff, AList.mem_keys]
  obtain ⟨answered, runs, later⟩ := turns.runs
  obtain ⟨flushed, emptied⟩ := runs.of_stepping
    (Writer.handle_flushed received.apart bufferSizeBytes isOrder)
  have proceeded := Writer.Flushed.of_later (received.apart.flushed flushed) later
  refine ⟨received.flushed (flushed.trans proceeded), ?_⟩
  rw [turns.leaves]
  exact emptied

/-- Run lemma: as long as no write fails once it is handed over, every `write_all` that fails has
put nothing into its file, and every name that is written leads to a file of its own, each file
with what is under way to it and what waits for it is what it was with everything that was sent
for it. So nothing is missing exactly if nothing is under way. No other file changes, and a flush
or shutdown that succeeds empties all buffers. -/
theorem writer_deliversOnce {bufferSizeBytes : Nat} {history : List Handled} {last : Task Place}
    (run : Run (fun before handled after =>
      Turns place .clean bufferSizeBytes before handled after ∧ OwnFile place before handled)
      ⟨.new, { contents := initial }, true⟩ history last) :
    (∀ filename, sentTo filename history ≠ [] →
      last.writer.whole place last.disk filename =
          initial (place filename) ++ sentTo filename history ∧
        (last.disk.contents (place filename) ++ last.writer.pending filename =
            initial (place filename) ++ sentTo filename history ↔
          (last.disk.opened filename).flying = [])) ∧
      (∀ elsewhere, (∀ filename ∈ last.writer.buffers, place filename ≠ elsewhere) →
        last.disk.contents elsewhere = initial elsewhere) ∧
      ∀ handled ∈ history, handled.reply = some (.ok ()) →
        ∀ filename, handled.writer.pending filename = [] := by
  have invariant : Delivers place initial history last ∧
      ∀ handled ∈ history, handled.reply = some (.ok ()) →
        ∀ filename, handled.writer.pending filename = [] := by
    apply run.invariant fun history last => Delivers place initial history last ∧
      ∀ handled ∈ history, handled.reply = some (.ok ()) →
        ∀ filename, handled.writer.pending filename = []
    · refine ⟨⟨⟨?_, by simp [Writer.new], fun _ _ => rfl⟩, fun _ _ => rfl, ?_, fun _ _ => rfl⟩,
        by simp⟩
      · intro first isFirst
        simp [Writer.new] at isFirst
      · intro filename held
        simp [Writer.new] at held
    · rintro history before handled after ⟨delivers, earlier⟩ ⟨turns, own⟩
      obtain ⟨delivered, emptied⟩ := turns.delivers delivers own
      refine ⟨delivered, fun again member => ?_⟩
      rcases List.mem_append.mp member with before | now
      · exact earlier again before
      · rw [List.mem_singleton.mp now]
        exact emptied
  refine ⟨fun filename sent => ?_, invariant.1.others, invariant.2⟩
  have held : filename ∈ last.writer.buffers := by
    by_contra absent
    exact sent (invariant.1.unsent filename absent)
  have whole := invariant.1.whole filename held
  exact ⟨whole, by rw [← whole, Writer.contents_pending_eq_whole_iff]⟩

end Steps

/-! ## Recorded runs -/

/-- The writer with some bytes that wait for `e.jsonl`, whose file is open or not. -/
def sampleWriter (bytes : List UInt8) (files : List String) : Writer :=
  ⟨(∅ : AList fun _ : String => List UInt8).insert "e.jsonl" bytes, files⟩

/-- A disk without any content. -/
def emptyDisk : Disk String := { contents := fun _ => [] }

/-- A file is opened, and bytes are handed over to it. -/
def handedOver (filename : String) (bytes : List UInt8) : Disk String :=
  (emptyDisk.arrive id filename [] {}).arrive id filename [] ⟨bytes, none⟩

/-- Bytes that were handed over arrive. -/
theorem Disk.later_lands {mayFail : String → Prop} (disk : Disk String) (filename : String)
    (bytes : List UInt8) :
    Disk.Later id mayFail (disk.arrive id filename [] ⟨bytes, none⟩)
      ((disk.arrive id filename [] ⟨bytes, none⟩).arrive id filename bytes {}) := by
  refine .single ⟨filename, bytes, {}, ?_, fun fails => absurd rfl fails, rfl⟩
  have proceeds := AsyncFile.Proceeds.arrives bytes []
  rw [List.append_nil] at proceeds
  rwa [Disk.arrive_opened_self]

private theorem exec_firstLine {faults : Faults String} (bytes : List UInt8)
    (allowsOpen : faults.Allows emptyDisk (.openAppend "e.jsonl") (.ok ())
      (emptyDisk.arrive id "e.jsonl" [] {}))
    (allowsWrite : faults.Allows (emptyDisk.arrive id "e.jsonl" [] {})
      (.writeAll "e.jsonl" bytes) (.ok ()) (handedOver "e.jsonl" bytes)) {turn : Turn}
    {program : WriterProg Turn}
    (returns : program.Returns
      [⟨.openAppend "e.jsonl", .ok ()⟩, ⟨.writeAll "e.jsonl" bytes, .ok ()⟩] turn) :
    Prog.Exec (Disk.Answers id faults) emptyDisk program turn (handedOver "e.jsonl" bytes) := by
  have hands : ((emptyDisk.arrive id "e.jsonl" [] {}).opened "e.jsonl").WriteAll bytes (.ok ()) []
      ⟨bytes, none⟩ := by
    rw [Disk.arrive_opened_self]
    exact .hands rfl
  exact returns.exec
    ⟨_, ⟨_, .refl, rfl, allowsOpen⟩, _, ⟨_, .refl, ⟨_, _, hands, rfl⟩, allowsWrite⟩, rfl⟩

/-- The line `a` is received and stays in the buffer. -/
def receivedLine : Handled :=
  ⟨.write "e.jsonl" [97, 10], [], none, sampleWriter [97, 10] []⟩

private theorem turns_receivedLine :
    Turns id .clean 100 ⟨.new, emptyDisk, true⟩ receivedLine
      ⟨sampleWriter [97, 10] [], emptyDisk, true⟩ :=
  ⟨rfl, List.Perm.nil, rfl, _, .ret _ _, .refl⟩

/-- A flush that answers that it has succeeded. -/
def flushedLine : Handled :=
  ⟨.flush, ["e.jsonl"], some (.ok ()), sampleWriter [] ["e.jsonl"]⟩

/-- The line has arrived. -/
def flushedDisk : Disk String := (handedOver "e.jsonl" [97, 10]).arrive id "e.jsonl" [97, 10] {}

private theorem turns_flushedLine :
    Turns id .clean 100 ⟨sampleWriter [97, 10] [], emptyDisk, true⟩ flushedLine
      ⟨sampleWriter [] ["e.jsonl"], flushedDisk, true⟩ := by
  have returns : Prog.Returns ((sampleWriter [97, 10] []).handle 100 ["e.jsonl"] .flush)
      [⟨.openAppend "e.jsonl", .ok ()⟩, ⟨.writeAll "e.jsonl" [97, 10], .ok ()⟩]
      ⟨some (.ok ()), sampleWriter [] ["e.jsonl"], true⟩ := .call _ (.call _ (.ret _))
  exact ⟨rfl, List.Perm.refl _, rfl, _, exec_firstLine _ trivial trivial returns,
    Disk.later_lands _ _ _⟩

/-- A line that is received and flushed, and has arrived. -/
theorem writer_deliversOnce_flushed :
    (∀ filename, sentTo filename [receivedLine, flushedLine] ≠ [] →
      (sampleWriter [] ["e.jsonl"]).whole id flushedDisk filename =
          [] ++ sentTo filename [receivedLine, flushedLine] ∧
        (flushedDisk.contents filename ++ (sampleWriter [] ["e.jsonl"]).pending filename =
            [] ++ sentTo filename [receivedLine, flushedLine] ↔
          (flushedDisk.opened filename).flying = [])) ∧
      (∀ elsewhere, (∀ filename ∈ (sampleWriter [] ["e.jsonl"]).buffers, filename ≠ elsewhere) →
        flushedDisk.contents elsewhere = []) ∧
      ∀ handled ∈ [receivedLine, flushedLine], handled.reply = some (.ok ()) →
        ∀ filename, handled.writer.pending filename = [] := by
  have ownReceived : OwnFile id ⟨.new, emptyDisk, true⟩ receivedLine := by
    intro name data _ other held
    simp [Writer.new] at held
  have ownFlushed : OwnFile id ⟨sampleWriter [97, 10] [], emptyDisk, true⟩ flushedLine :=
    fun _ _ isWrite => nomatch isWrite
  exact writer_deliversOnce ((Run.start.step ⟨turns_receivedLine, ownReceived⟩).step
    ⟨turns_flushedLine, ownFlushed⟩)

/-- The line `1` is received and handed over at once. -/
def handedLine : Handled :=
  ⟨.write "e.jsonl" [49, 10], [], none, sampleWriter [] ["e.jsonl"]⟩

/-- Its first byte arrives, then the write fails. -/
def tornDisk : Disk String :=
  ((handedOver "e.jsonl" [49, 10]).arrive id "e.jsonl" [49] ⟨[10], none⟩).arrive id "e.jsonl" []
    ⟨[], some (.other "No space left on device")⟩

private theorem turns_handedLine :
    Turns id .any 1 ⟨.new, emptyDisk, true⟩ handedLine
      ⟨sampleWriter [] ["e.jsonl"], tornDisk, true⟩ := by
  have returns : Prog.Returns (Writer.new.handle 1 [] (.write "e.jsonl" [49, 10]))
      [⟨.openAppend "e.jsonl", .ok ()⟩, ⟨.writeAll "e.jsonl" [49, 10], .ok ()⟩]
      ⟨none, sampleWriter [] ["e.jsonl"], true⟩ := .call _ (.call _ (.ret _))
  refine ⟨rfl, List.Perm.nil, rfl, _, exec_firstLine _ trivial trivial returns, ?_⟩
  refine .tail (.single ⟨"e.jsonl", [49], ⟨[10], none⟩, ?_, fun _ => trivial, rfl⟩)
    ⟨"e.jsonl", [], ⟨[], _⟩, ?_, fun _ => trivial, rfl⟩
  · exact .arrives [49] [10]
  · rw [Disk.arrive_opened_self]
    exact .fails (List.cons_ne_nil _ _) _

/-- The line `2` is received; its write gets the error of the write before it. -/
def refusedLine : Handled :=
  ⟨.write "e.jsonl" [50, 10], ["e.jsonl"], none, sampleWriter [50, 10] ["e.jsonl"]⟩

private theorem turns_refusedLine :
    Turns id .any 1 ⟨sampleWriter [] ["e.jsonl"], tornDisk, true⟩ refusedLine
      ⟨sampleWriter [50, 10] ["e.jsonl"], tornDisk.arrive id "e.jsonl" [] {}, true⟩ := by
  have returns : Prog.Returns
      ((sampleWriter [] ["e.jsonl"]).handle 1 ["e.jsonl"] (.write "e.jsonl" [50, 10]))
      [⟨.writeAll "e.jsonl" [50, 10], .error (.other "No space left on device")⟩]
      ⟨none, sampleWriter [50, 10] ["e.jsonl"], true⟩ := .call _ (.ret _)
  have reports : (tornDisk.opened "e.jsonl").WriteAll [50, 10]
      (.error (.other "No space left on device")) [] {} := by
    rw [tornDisk, Disk.arrive_opened_self]
    exact .reports _
  exact ⟨rfl, List.Perm.refl _, rfl, _,
    returns.exec ⟨_, ⟨_, .refl, ⟨_, _, reports, rfl⟩, trivial⟩, rfl⟩, .refl⟩

private theorem turns_flushedAgain :
    Turns id .any 1
      ⟨sampleWriter [50, 10] ["e.jsonl"], tornDisk.arrive id "e.jsonl" [] {}, true⟩ flushedLine
      ⟨sampleWriter [] ["e.jsonl"],
        ((tornDisk.arrive id "e.jsonl" [] {}).arrive id "e.jsonl" [] ⟨[50, 10], none⟩).arrive id
          "e.jsonl" [50, 10] {}, true⟩ := by
  have returns : Prog.Returns ((sampleWriter [50, 10] ["e.jsonl"]).handle 1 ["e.jsonl"] .flush)
      [⟨.writeAll "e.jsonl" [50, 10], .ok ()⟩]
      ⟨some (.ok ()), sampleWriter [] ["e.jsonl"], true⟩ := .call _ (.ret _)
  have hands : ((tornDisk.arrive id "e.jsonl" [] {}).opened "e.jsonl").WriteAll [50, 10] (.ok ())
      [] ⟨[50, 10], none⟩ := by
    rw [Disk.arrive_opened_self]
    exact .hands rfl
  exact ⟨rfl, List.Perm.refl _, rfl, _,
    returns.exec ⟨_, ⟨_, .refl, ⟨_, _, hands, rfl⟩, trivial⟩, rfl⟩, Disk.later_lands _ _ _⟩

/-- The rest of the line `1` is lost, although nothing is under way any more and the flush has
succeeded. -/
theorem writer_not_deliversOnce_torn :
    ∃ history last, Run (Turns id .any 1) ⟨.new, emptyDisk, true⟩ history last ∧
      sentTo "e.jsonl" history = [49, 10, 50, 10] ∧
      (last.disk.opened "e.jsonl").flying = [] ∧ last.disk.contents "e.jsonl" = [49, 50, 10] ∧
      last.disk.contents "e.jsonl" ++ last.writer.pending "e.jsonl" ≠
        sentTo "e.jsonl" history := by
  refine ⟨_, _, ((Run.start.step turns_handedLine).step turns_refusedLine).step
    turns_flushedAgain, ?_, ?_, ?_, ?_⟩
  · decide +kernel
  · decide +kernel
  · decide +kernel
  · decide +kernel

end TriAI.Evidence
