import TriAI.Evidence.Rotation
import TriAI.Evidence.Writer
import TriAI.Library.OpenFiles
import TriAI.Library.Subprogram

/-!
Contract: the evidence writer and the rotation, side by side.

Owns: the interleavings of the writer's calls with those of any number of rotations
(`JsonlWriterWithRotation`) and with the writes behind the files, the condition on the steps of
all, and that under it what was flushed stays readable for the retention period.

Does not own: directories, and links, of which only the names are seen. The clock does not go
back, and the time at which bytes arrive becomes the time of their file.

The rotation decides by the times of names that it has listed, and then renames and unlinks
names; the writer writes through handles.
-/

set_option autoImplicit false

namespace TriAI.Evidence

open TriAI.Coding (withExtension)
open TriAI.Library
open TriAI.Library.Interaction

/-! ## The files -/

/-- Bytes that a flush has handed over with success: the records that waited for a file. -/
structure FlushedBytes where
  filename : String
  bytes : List UInt8
  time : DateTime

/-- The files with their times, the handles of the writer with the writes behind them, and what it
has flushed. -/
structure EvidenceWorld (Place : Type) where
  files : OpenFiles Place
  modified : Nat → DateTime
  now : DateTime
  handles : String → Option Nat
  behind : String → AsyncFile := fun _ => {}
  flushed : List FlushedBytes

namespace EvidenceWorld

variable {Place : Type}

/-- Bytes arrive in a file. -/
def extend (world : EvidenceWorld Place) (number : Nat) (bytes : List UInt8) :
    EvidenceWorld Place :=
  { world with
    files := world.files.setContent number (world.files.contents number ++ bytes)
    modified := if bytes = [] then world.modified
      else Function.update world.modified number world.now }

/-- Bytes arrive in the file of a handle, and the write behind it is another then. -/
def arrive (world : EvidenceWorld Place) (filename : String) (number : Nat) (bytes : List UInt8)
    (file : AsyncFile) : EvidenceWorld Place :=
  { world.extend number bytes with behind := Function.update world.behind filename file }

/-- A file is open under a name of the writer; a file that was made has the time of now. -/
def opened (world : EvidenceWorld Place) (filename : String) (number : Nat)
    (files : OpenFiles Place) : EvidenceWorld Place :=
  { world with
    files
    modified := if number < world.files.made then world.modified
      else Function.update world.modified number world.now
    handles := Function.update world.handles filename (some number)
    behind := Function.update world.behind filename {} }

/-- A flush of some bytes has ended with success. -/
def record (world : EvidenceWorld Place) (filename : String) (bytes : List UInt8) :
    EvidenceWorld Place :=
  if bytes = [] then world
  else { world with flushed := world.flushed ++ [⟨filename, bytes, world.now⟩] }

end EvidenceWorld

inductive EvidenceOp where
  | writer (op : WriterOp)
  | rotation (op : RotationOp)
  /-- The write behind one of the writer's files goes on; the reply is its name. -/
  | proceed

@[reducible] def EvidenceOp.Reply : EvidenceOp → Type
  | .writer op => op.Reply
  | .rotation op => op.Reply
  | .proceed => String

section Answers

variable {Place : Type} [DecidableEq Place] (place : String → Place)

/-- What a call of the writer may do. -/
def WriterAnswers (world : EvidenceWorld Place) :
    (op : WriterOp) → op.Reply → EvidenceWorld Place → Prop
  | .openAppend filename, .ok (), after =>
      ∃ number files, world.files.Opens (place filename) false number files ∧
        after = world.opened filename number files
  | .openAppend _, .error _, after => after = world
  | .writeAll filename bytes, .ok (), after =>
      ∃ number arrived file, world.handles filename = some number ∧
        (world.behind filename).WriteAll bytes (.ok ()) arrived file ∧
        after = (world.arrive filename number arrived file).record filename bytes
  | .writeAll filename bytes, .error error, after =>
      ∃ number arrived file, world.handles filename = some number ∧
        (world.behind filename).WriteAll bytes (.error error) arrived file ∧
        after = world.arrive filename number arrived file
  | .syncAll filename, _, after => (world.behind filename).flying = [] ∧ after = world

/-- What a call of a rotation may do. -/
def RotationAnswers (world : EvidenceWorld Place) :
    (op : RotationOp) → op.Reply → EvidenceWorld Place → Prop
  | .now, now, after => now = world.now ∧ after = world
  | .readDir, .ok entries, after =>
      (∀ name, .ok name ∈ entries → world.files.slots (place name) ≠ none) ∧ after = world
  | .metadata name, .ok metadata, after =>
      (∀ number, world.files.slots (place name) = some (.file number) →
        metadata.modified = .ok (world.modified number) ∧
          metadata.len = UInt64.ofNat (world.files.contents number).length) ∧ after = world
  | .rename source target, .ok (), after =>
      ∃ files, world.files.Renames (place source) (place target) files ∧
        after = { world with files }
  | .removeFile name, .ok (), after =>
      world.files.slots (place name) ≠ none ∧
        after = { world with files := world.files.remove (place name) }
  | .readDir, .error _, after | .metadata _, .error _, after | .rename _ _, .error _, after
  | .removeFile _, .error _, after => after = world

def EvidenceAnswers (world : EvidenceWorld Place) :
    (op : EvidenceOp) → op.Reply → EvidenceWorld Place → Prop
  | .writer op, reply, after => WriterAnswers place world op reply after
  | .rotation op, reply, after => RotationAnswers place world op reply after
  | .proceed, filename, after =>
      ∃ number bytes file, world.handles filename = some number ∧
        (world.behind filename).Proceeds bytes file ∧
        after = world.arrive filename number bytes file

end Answers

/-! ## The parties -/

inductive EvidenceParty (Rotator : Type) where
  | writer
  | rotator (rotator : Rotator)
  /-- The threads that write behind the files. -/
  | background
deriving DecidableEq

/-- A party between two turns. -/
inductive EvidenceState where
  | writing (writer : Writer)
  | ended
  | rotating
  | proceeding

section System

variable {Place Rotator : Type} [DecidableEq Place]

/-- A turn of `writer_task`, which is given its buffers in any order, a tick of `run_periodic`,
whatever its rotation returns, and a write behind a file. -/
def EvidenceOffers (config : RotationConfig) (bufferSizeBytes : Nat) :
    EvidenceParty Rotator → EvidenceState → Prog EvidenceOp EvidenceOp.Reply EvidenceState → Prop
  | .writer, .writing writer, program =>
      ∃ event order, order.Perm writer.buffers.keys ∧
        program = (writer.handle bufferSizeBytes order event).embed .writer (fun _ reply => reply)
          >>= fun turn => .ret (if turn.goesOn then .writing turn.writer else .ended)
  | .rotator _, .rotating, program =>
      program = (rotate config).run.embed .rotation (fun _ reply => reply)
        >>= fun _ => .ret .rotating
  | .background, .proceeding, program =>
      program = Prog.perform EvidenceOp.proceed >>= fun _ => .ret .proceeding
  | _, _, _ => False

/-- The writer, any number of rotations of its directory and the writes behind the files. -/
def evidenceSystem (config : RotationConfig) (bufferSizeBytes : Nat) (place : String → Place) :
    System (EvidenceParty Rotator) EvidenceOp EvidenceOp.Reply EvidenceState
      (EvidenceWorld Place) where
  Offers := EvidenceOffers config bufferSizeBytes
  Step := fun _ => EvidenceAnswers place
  Environment := fun world after => ∃ later, world.now ≤ later ∧ after = { world with now := later }

abbrev EvidencePool (Rotator Place : Type) : Type :=
  Pool (EvidenceParty Rotator) EvidenceOp EvidenceOp.Reply EvidenceState (EvidenceWorld Place)

/-- `JsonlWriterWithRotation::new`. -/
def startOfEvidence (files : OpenFiles Place) (modified : Nat → DateTime) (now : DateTime) :
    EvidencePool Rotator Place where
  world := { files, modified, now, handles := fun _ => none, flushed := [] }
  activity := fun party => match party with
    | .writer => .resting (.writing .new)
    | .rotator _ => .resting .rotating
    | .background => .resting .proceeding

/-- What was flushed with success within the retention period is readable under its name, but for
what was flushed last under a name and is still under way. -/
def EvidenceKept (place : String → Place) (retention : Int) (world : EvidenceWorld Place) : Prop :=
  ∀ earlier flushed later, world.flushed = earlier ++ flushed :: later →
    world.now ≤ flushed.time + retention →
    (world.behind flushed.filename).flying = [] ∨
      (∃ other ∈ later, other.filename = flushed.filename) →
    ∃ content, world.files.Reads (place flushed.filename) content ∧ flushed.bytes <:+: content

end System

/-! ## The condition -/

section Careful

variable {Place : Type}

/-- A file that a name stands for has expired by now, by the test of `list_expired`, and nothing
is under way to it. -/
def Expired (retention : Int) (world : EvidenceWorld Place) (name : Place) : Prop :=
  ∀ number, world.files.slots name = some (.file number) →
    world.modified number < world.now - retention ∧
      ∀ filename, world.handles filename = some number → (world.behind filename).flying = []

/-- The writer writes into the file that its name stands for, and that no other of its names has
open; a rotation takes away names of files that are still expired; and no write fails once it is
handed over. -/
def Careful (place : String → Place) (retention : Int) (world : EvidenceWorld Place) :
    (op : EvidenceOp) → op.Reply → EvidenceWorld Place → Prop
  | .writer (.writeAll filename _), _, _ => ∀ number, world.handles filename = some number →
      world.files.slots (place filename) = some (.file number) ∧
        ∀ other, world.handles other = some number → other = filename
  | .rotation (.rename source target), _, _ =>
      Expired retention world (place source) ∧ Expired retention world (place target)
  | .rotation (.removeFile name), _, _ => Expired retention world (place name)
  | .proceed, filename, after => (after.behind filename).failure = none
  | _, _, _ => True

end Careful

/-! ## Invariant -/

section Steps

variable {Place : Type} {place : String → Place} {retention : Int} {world : EvidenceWorld Place}

/-- It is in the file that its name stands for, and that file is not older. -/
def Stored (place : String → Place) (world : EvidenceWorld Place) (flushed : FlushedBytes) : Prop :=
  ∃ number, world.files.slots (place flushed.filename) = some (.file number) ∧
    flushed.time ≤ world.modified number ∧ flushed.bytes <:+: world.files.contents number

/-- A front of it is at the end of the file of its handle, and the rest is under way. -/
def Landing (world : EvidenceWorld Place) (flushed : FlushedBytes) : Prop :=
  ∃ number front, world.handles flushed.filename = some number ∧
    front <:+ world.files.contents number ∧
    front ++ (world.behind flushed.filename).flying = flushed.bytes ∧
    (world.behind flushed.filename).flying ≠ []

/-- What was flushed within the retention period is in its file, or it was flushed last under its
name and is under way. Bytes are under way to files that the names stand for, by one handle. -/
structure Retained (place : String → Place) (retention : Int) (world : EvidenceWorld Place) :
    Prop where
  past : ∀ flushed ∈ world.flushed, flushed.time ≤ world.now
  kept : ∀ earlier flushed later, world.flushed = earlier ++ flushed :: later →
    world.now ≤ flushed.time + retention →
    Stored place world flushed ∨
      Landing world flushed ∧ ∀ other ∈ later, other.filename ≠ flushed.filename
  named : ∀ filename number, world.handles filename = some number →
    (world.behind filename).flying ≠ [] →
    world.files.slots (place filename) = some (.file number)
  alone : ∀ filename other number, world.handles filename = some number →
    (world.behind filename).flying ≠ [] → world.handles other = some number →
    (world.behind other).flying ≠ [] → other = filename

theorem Retained.evidenceKept (retained : Retained place retention world) :
    EvidenceKept place retention world := by
  intro earlier flushed later split inTime settled
  rcases retained.kept earlier flushed later split inTime with stored | ⟨landing, last⟩
  · obtain ⟨number, isFile, _, inside⟩ := stored
    exact ⟨_, OpenFiles.reads_of_slot isFile, inside⟩
  · obtain ⟨_, _, _, _, _, underWay⟩ := landing
    rcases settled with nothing | ⟨other, member, same⟩
    · exact absurd nothing underWay
    · exact absurd same (last other member)

/-- Time passes. -/
private theorem Retained.later (retained : Retained place retention world) {later : DateTime}
    (notBack : world.now ≤ later) : Retained place retention { world with now := later } where
  past := by
    intro flushed member
    exact le_trans (retained.past flushed member) notBack
  kept := by
    intro earlier flushed after split inTime
    exact retained.kept earlier flushed after split (le_trans notBack inTime)
  named := retained.named
  alone := retained.alone

/-- The time of a file after bytes have arrived in it. -/
private theorem le_modified_extend {time : DateTime} {number other : Nat} {bytes : List UInt8}
    (notOlder : time ≤ world.modified other) (past : time ≤ world.now) :
    time ≤ (world.extend number bytes).modified other := by
  unfold EvidenceWorld.extend
  simp only
  split
  · exact notOlder
  · by_cases same : other = number
    · rw [same, Function.update_self]
      exact past
    · rw [Function.update_of_ne same]
      exact notOlder

private theorem modified_extend {number : Nat} {bytes : List UInt8} (written : bytes ≠ []) :
    (world.extend number bytes).modified number = world.now := by
  unfold EvidenceWorld.extend
  simp only [if_neg written, Function.update_self]

private theorem contents_extend {number : Nat} {bytes : List UInt8} :
    (world.extend number bytes).files.contents number = world.files.contents number ++ bytes :=
  Function.update_self ..

private theorem contents_extend_of_ne {number other : Nat} {bytes : List UInt8}
    (different : other ≠ number) :
    (world.extend number bytes).files.contents other = world.files.contents other :=
  Function.update_of_ne different ..

/-- Bytes that arrive in a file leave what is in the files, and make no file older. -/
private theorem Stored.arrive {flushed : FlushedBytes} (stored : Stored place world flushed)
    (past : flushed.time ≤ world.now) (filename : String) (number : Nat) (bytes : List UInt8)
    (file : AsyncFile) : Stored place (world.arrive filename number bytes file) flushed := by
  obtain ⟨other, isFile, notOlder, inside⟩ := stored
  refine ⟨other, isFile, le_modified_extend notOlder past, ?_⟩
  show flushed.bytes <:+: (world.extend number bytes).files.contents other
  by_cases same : other = number
  · rw [same] at inside ⊢
    rw [contents_extend]
    exact inside.trans (List.prefix_append _ _).isInfix
  · rw [contents_extend_of_ne same]
    exact inside

/-- What is under way by another handle stays so. -/
private theorem Landing.arrive_of_ne {flushed : FlushedBytes} (landing : Landing world flushed)
    {filename : String} (different : flushed.filename ≠ filename) {number : Nat}
    {bytes : List UInt8} (file : AsyncFile)
    (apart : bytes ≠ [] → ∀ other, other ≠ filename → world.handles other = some number →
      (world.behind other).flying = []) :
    Landing (world.arrive filename number bytes file) flushed := by
  obtain ⟨other, front, isOpen, atEnd, whole, underWay⟩ := landing
  have behind : (world.arrive filename number bytes file).behind flushed.filename =
      world.behind flushed.filename := Function.update_of_ne different ..
  refine ⟨other, front, isOpen, ?_, by rw [behind, whole], by rwa [behind]⟩
  show front <:+ (world.extend number bytes).files.contents other
  by_cases same : other = number
  · rw [same] at isOpen atEnd ⊢
    have nothing : bytes = [] := by
      by_contra arrived
      exact underWay (apart arrived _ different isOpen)
    rw [contents_extend, nothing, List.append_nil]
    exact atEnd
  · rw [contents_extend_of_ne same]
    exact atEnd

/-- Bytes arrive that were under way. -/
private theorem Landing.arrive_self {flushed : FlushedBytes} (landing : Landing world flushed)
    (past : flushed.time ≤ world.now) {number : Nat}
    (isOpen : world.handles flushed.filename = some number)
    (isFile : world.files.slots (place flushed.filename) = some (.file number))
    {bytes : List UInt8} {file : AsyncFile}
    (keeps : bytes ++ file.flying = (world.behind flushed.filename).flying) :
    Stored place (world.arrive flushed.filename number bytes file) flushed ∨
      Landing (world.arrive flushed.filename number bytes file) flushed := by
  obtain ⟨other, front, isOther, atEnd, whole, underWay⟩ := landing
  obtain rfl : number = other := Option.some_injective _ (isOpen.symm.trans isOther)
  have behind : (world.arrive flushed.filename number bytes file).behind flushed.filename = file :=
    Function.update_self ..
  have reaches : front ++ bytes <:+ (world.arrive flushed.filename number bytes
      file).files.contents number := by
    show front ++ bytes <:+ (world.extend number bytes).files.contents number
    rw [contents_extend]
    obtain ⟨start, same⟩ := atEnd
    exact ⟨start, by rw [← same, List.append_assoc]⟩
  by_cases done : file.flying = []
  · left
    rw [done, List.append_nil] at keeps
    refine ⟨number, isFile, ?_, ?_⟩
    · have now : (world.extend number bytes).modified number = world.now :=
        modified_extend (keeps ▸ underWay)
      exact le_of_le_of_eq past now.symm
    · rw [← whole, ← keeps]
      exact reaches.isInfix
  · right
    refine ⟨number, front ++ bytes, isOpen, reaches, ?_, by rwa [behind]⟩
    rw [behind, List.append_assoc, keeps, whole]

/-- Bytes arrive by a handle. -/
private theorem Retained.arrive (retained : Retained place retention world) {filename : String}
    {number : Nat} {bytes : List UInt8} {file : AsyncFile}
    (isOpen : world.handles filename = some number)
    (isFile : file.flying ≠ [] → world.files.slots (place filename) = some (.file number))
    (apart : bytes ≠ [] ∨ file.flying ≠ [] → ∀ other, other ≠ filename →
      world.handles other = some number → (world.behind other).flying = [])
    (own : ∀ flushed ∈ world.flushed, flushed.filename = filename → Landing world flushed →
      Stored place (world.arrive filename number bytes file) flushed ∨
        Landing (world.arrive filename number bytes file) flushed) :
    Retained place retention (world.arrive filename number bytes file) where
  past := retained.past
  kept := by
    intro earlier flushed later split inTime
    have member : flushed ∈ world.flushed := by
      rw [show world.flushed = earlier ++ flushed :: later from split]
      exact List.mem_append_right _ (List.mem_cons_self ..)
    have past := retained.past flushed member
    rcases retained.kept earlier flushed later split inTime with stored | ⟨landing, last⟩
    · exact .inl (stored.arrive past filename number bytes file)
    · by_cases same : flushed.filename = filename
      · exact (own flushed member same landing).imp_right fun still => ⟨still, last⟩
      · exact .inr ⟨landing.arrive_of_ne same file fun written => apart (.inl written), last⟩
  named := by
    intro other otherNumber isOther underWay
    by_cases same : other = filename
    · subst same
      obtain rfl : number = otherNumber := Option.some_injective _ (isOpen.symm.trans isOther)
      have behind : (world.arrive other number bytes file).behind other = file :=
        Function.update_self ..
      exact isFile (behind ▸ underWay)
    · have behind : (world.arrive filename number bytes file).behind other = world.behind other :=
        Function.update_of_ne same ..
      exact retained.named other otherNumber isOther (behind ▸ underWay)
  alone := by
    intro first second otherNumber isFirst firstUnderWay isSecond secondUnderWay
    have self : (world.arrive filename number bytes file).behind filename = file :=
      Function.update_self ..
    have others : ∀ other, other ≠ filename →
        (world.arrive filename number bytes file).behind other = world.behind other :=
      fun other different => Function.update_of_ne different ..
    by_cases firstSame : first = filename
    · by_cases secondSame : second = filename
      · rw [firstSame, secondSame]
      · subst firstSame
        obtain rfl : number = otherNumber := Option.some_injective _ (isOpen.symm.trans isFirst)
        rw [self] at firstUnderWay
        rw [others second secondSame] at secondUnderWay
        exact absurd (apart (.inr firstUnderWay) second secondSame isSecond) secondUnderWay
    · rw [others first firstSame] at firstUnderWay
      by_cases secondSame : second = filename
      · subst secondSame
        obtain rfl : number = otherNumber := Option.some_injective _ (isOpen.symm.trans isSecond)
        rw [self] at secondUnderWay
        exact absurd (apart (.inr secondUnderWay) first firstSame isFirst) firstUnderWay
      · rw [others second secondSame] at secondUnderWay
        exact retained.alone first second otherNumber isFirst firstUnderWay isSecond secondUnderWay

/-- The write behind a file goes on and does not fail. -/
private theorem Retained.proceeds (retained : Retained place retention world) {filename : String}
    {number : Nat} {bytes : List UInt8} {file : AsyncFile}
    (isOpen : world.handles filename = some number)
    (proceeds : (world.behind filename).Proceeds bytes file) (fine : file.failure = none) :
    Retained place retention (world.arrive filename number bytes file) := by
  have keeps := proceeds.keeps fine
  have wasUnderWay : bytes ≠ [] ∨ file.flying ≠ [] → (world.behind filename).flying ≠ [] := by
    intro moving nothing
    obtain ⟨noBytes, noRest⟩ := List.append_eq_nil_iff.mp (keeps.trans nothing)
    exact moving.elim (absurd noBytes) (absurd noRest)
  refine retained.arrive isOpen ?_ ?_ ?_
  · intro rest
    exact retained.named filename number isOpen (wasUnderWay (.inr rest))
  · intro moving other different isOther
    by_contra underWay
    have same := retained.alone filename other number isOpen (wasUnderWay moving) isOther underWay
    exact different same
  · rintro flushed member rfl landing
    have underWay : (world.behind flushed.filename).flying ≠ [] := by
      obtain ⟨_, _, _, _, _, underWay⟩ := landing
      exact underWay
    exact landing.arrive_self (retained.past flushed member) isOpen
      (retained.named _ number isOpen underWay) keeps

/-- A `write_all` into the file that its name stands for and that is open under no other name. -/
private theorem Retained.writes (retained : Retained place retention world) {filename : String}
    {number : Nat} {bytes arrived : List UInt8} {reply : Except IoError Unit} {file : AsyncFile}
    (isOpen : world.handles filename = some number)
    (writes : (world.behind filename).WriteAll bytes reply arrived file)
    (isFile : world.files.slots (place filename) = some (.file number))
    (alone : ∀ other, world.handles other = some number → other = filename) :
    Retained place retention (world.arrive filename number arrived file) := by
  refine retained.arrive isOpen (fun _ => isFile) ?_ ?_
  · intro _ other different isOther
    exact absurd (alone other isOther) different
  · rintro flushed _ rfl ⟨_, _, _, _, _, underWay⟩
    exact absurd writes.idle underWay

/-- Nothing that was flushed under a name is under way when the next write under it begins. -/
private theorem Retained.stored_of_idle (retained : Retained place retention world)
    {flushed : FlushedBytes} (member : flushed ∈ world.flushed)
    (inTime : world.now ≤ flushed.time + retention)
    (nothing : (world.behind flushed.filename).flying = []) : Stored place world flushed := by
  obtain ⟨earlier, later, split⟩ := List.append_of_mem member
  rcases retained.kept earlier flushed later split inTime with stored | ⟨landing, _⟩
  · exact stored
  · obtain ⟨_, _, _, _, _, underWay⟩ := landing
    exact absurd nothing underWay

/-- What was handed over with success is recorded. -/
private theorem Retained.record (retained : Retained place retention world) {filename : String}
    {bytes : List UInt8}
    (older : ∀ flushed ∈ world.flushed, world.now ≤ flushed.time + retention →
      flushed.filename = filename → Stored place world flushed)
    (new : bytes ≠ [] → Stored place world ⟨filename, bytes, world.now⟩ ∨
      Landing world ⟨filename, bytes, world.now⟩) :
    Retained place retention (world.record filename bytes) := by
  unfold EvidenceWorld.record
  split
  · exact retained
  · rename_i written
    refine ⟨?_, ?_, retained.named, retained.alone⟩
    · intro flushed member
      rcases List.mem_append.mp member with old | isNew
      · exact retained.past flushed old
      · rw [List.mem_singleton.mp isNew]
    · intro earlier flushed later split inTime
      replace split : world.flushed ++ [⟨filename, bytes, world.now⟩] =
        earlier ++ flushed :: later := split
      rcases List.eq_nil_or_concat later with rfl | ⟨front, last, rfl⟩
      · obtain ⟨_, same⟩ := List.append_inj' split rfl
        obtain rfl := List.singleton_inj.mp same
        exact (new written).imp_right fun landing => ⟨landing, by simp⟩
      · rw [List.concat_eq_append, ← List.cons_append, ← List.append_assoc] at split
        obtain ⟨before, same⟩ := List.append_inj' split rfl
        obtain rfl := List.singleton_inj.mp same
        have member : flushed ∈ world.flushed := by
          rw [before]
          exact List.mem_append_right _ (List.mem_cons_self ..)
        by_cases sameName : flushed.filename = filename
        · exact .inl (older flushed member inTime sameName)
        · refine (retained.kept earlier flushed front before inTime).imp_right ?_
          rintro ⟨landing, isLast⟩
          refine ⟨landing, fun other isOther => ?_⟩
          rw [List.concat_eq_append] at isOther
          rcases List.mem_append.mp isOther with inFront | isNew
          · exact isLast other inFront
          · rw [List.mem_singleton.mp isNew]
            exact Ne.symm sameName

/-- Bytes that were handed over are in the file or under way to it. -/
private theorem stored_or_landing {filename : String} {number : Nat}
    {bytes arrived : List UInt8} {file : AsyncFile} (written : bytes ≠ [])
    (isOpen : world.handles filename = some number)
    (isFile : world.files.slots (place filename) = some (.file number))
    (whole : arrived ++ file.flying = bytes) :
    Stored place (world.arrive filename number arrived file) ⟨filename, bytes, world.now⟩ ∨
      Landing (world.arrive filename number arrived file) ⟨filename, bytes, world.now⟩ := by
  have atEnd : arrived <:+ (world.arrive filename number arrived file).files.contents number := by
    show arrived <:+ (world.extend number arrived).files.contents number
    rw [contents_extend]
    exact List.suffix_append ..
  have behind : (world.arrive filename number arrived file).behind filename = file :=
    Function.update_self ..
  by_cases done : file.flying = []
  · left
    rw [done, List.append_nil] at whole
    subst whole
    exact ⟨number, isFile, le_of_eq (modified_extend written).symm, atEnd.isInfix⟩
  · right
    exact ⟨number, arrived, isOpen, atEnd, by rw [behind, whole], by rwa [behind]⟩

/-- A file to which something is under way, or with something that was flushed within the
retention period, has not expired. -/
private theorem not_expired {number : Nat} {name : Place}
    (isFile : world.files.slots name = some (.file number))
    (needed : (∃ filename, world.handles filename = some number ∧
        (world.behind filename).flying ≠ []) ∨
      ∃ time, world.now ≤ time + retention ∧ time ≤ world.modified number) :
    ¬ Expired retention world name := by
  intro expired
  obtain ⟨older, nothing⟩ := expired number isFile
  rcases needed with ⟨filename, isOpen, underWay⟩ | ⟨time, inTime, notOlder⟩
  · exact underWay (nothing filename isOpen)
  · exact absurd (lt_of_le_of_lt notOlder older) (not_lt.mpr (sub_le_iff_le_add.mpr inTime))

/-- A change of names that leaves those of files that have not expired. -/
private theorem Retained.names (retained : Retained place retention world)
    {files : OpenFiles Place} (contents : files.contents = world.files.contents)
    (frame : ∀ name, ¬ Expired retention world name → files.slots name = world.files.slots name) :
    Retained place retention { world with files } where
  past := retained.past
  kept := by
    intro earlier flushed later split inTime
    replace inTime : world.now ≤ flushed.time + retention := inTime
    rcases retained.kept earlier flushed later split inTime with stored | ⟨landing, last⟩
    · left
      obtain ⟨number, isFile, notOlder, inside⟩ := stored
      have needed := not_expired isFile (.inr ⟨_, inTime, notOlder⟩)
      refine ⟨number, (frame _ needed).trans isFile, notOlder, ?_⟩
      show flushed.bytes <:+: files.contents number
      rw [contents]
      exact inside
    · right
      obtain ⟨number, front, isOpen, atEnd, whole, underWay⟩ := landing
      refine ⟨⟨number, front, isOpen, ?_, whole, underWay⟩, last⟩
      show front <:+ files.contents number
      rw [contents]
      exact atEnd
  named := by
    intro filename number isOpen underWay
    have isFile := retained.named filename number isOpen underWay
    have needed : ¬ Expired retention world (place filename) :=
      not_expired isFile (.inl ⟨filename, isOpen, underWay⟩)
    exact (frame _ needed).trans isFile
  alone := retained.alone

variable [DecidableEq Place]

/-- Opening a file under a name that has no handle. -/
private theorem Retained.opened (retained : Retained place retention world) {filename : String}
    {number : Nat} {files : OpenFiles Place}
    (opens : world.files.Opens (place filename) false number files)
    (fresh : world.handles filename = none) :
    Retained place retention (world.opened filename number files) := by
  have modified : ∀ other, other < world.files.made →
      (world.opened filename number files).modified other = world.modified other := by
    intro other old
    unfold EvidenceWorld.opened
    simp only
    split
    · rfl
    · exact Function.update_of_ne (by omega) ..
  have behindSelf : (world.opened filename number files).behind filename = {} :=
    Function.update_self ..
  have behind : ∀ other, other ≠ filename →
      (world.opened filename number files).behind other = world.behind other :=
    fun other different => Function.update_of_ne different ..
  have handles : ∀ other, other ≠ filename →
      (world.opened filename number files).handles other = world.handles other :=
    fun other different => Function.update_of_ne different ..
  have different : ∀ other, ((world.opened filename number files).behind other).flying ≠ [] →
      other ≠ filename := by
    rintro other underWay rfl
    rw [behindSelf] at underWay
    exact underWay rfl
  refine ⟨retained.past, ?_, ?_, ?_⟩
  · intro earlier flushed later split inTime
    rcases retained.kept earlier flushed later split inTime with stored | ⟨landing, last⟩
    · left
      obtain ⟨other, isFile, notOlder, inside⟩ := stored
      obtain ⟨stillFile, sameContent⟩ := opens.keeps isFile
      refine ⟨other, stillFile, ?_, ?_⟩
      · rw [modified other (world.files.bounded _ _ isFile)]
        exact notOlder
      · show flushed.bytes <:+: files.contents other
        rw [sameContent]
        exact inside
    · right
      obtain ⟨other, front, isOpen, atEnd, whole, underWay⟩ := landing
      have isOther : flushed.filename ≠ filename := by
        intro same
        rw [same, fresh] at isOpen
        cases isOpen
      have isFile := retained.named _ other isOpen underWay
      refine ⟨⟨other, front, ?_, ?_, ?_, ?_⟩, last⟩
      · rw [handles _ isOther, isOpen]
      · show front <:+ files.contents other
        rw [(opens.keeps isFile).2]
        exact atEnd
      · rw [behind _ isOther, whole]
      · rw [behind _ isOther]
        exact underWay
  · intro other otherNumber isOpen underWay
    have isOther := different other underWay
    rw [handles _ isOther] at isOpen
    rw [behind _ isOther] at underWay
    exact (opens.keeps (retained.named other otherNumber isOpen underWay)).1
  · intro first second otherNumber isFirst firstUnderWay isSecond secondUnderWay
    have firstOther := different first firstUnderWay
    have secondOther := different second secondUnderWay
    rw [handles _ firstOther] at isFirst
    rw [handles _ secondOther] at isSecond
    rw [behind _ firstOther] at firstUnderWay
    rw [behind _ secondOther] at secondUnderWay
    exact retained.alone first second otherNumber isFirst firstUnderWay isSecond secondUnderWay

/-- Step lemma. -/
theorem Retained.answers (retained : Retained place retention world) {op : EvidenceOp}
    {reply : op.Reply} {after : EvidenceWorld Place}
    (answered : EvidenceAnswers place world op reply after)
    (careful : Careful place retention world op reply after)
    (fresh : ∀ filename, op = .writer (.openAppend filename) → world.handles filename = none) :
    Retained place retention after := by
  cases op with
  | writer op =>
      cases op with
      | openAppend filename =>
          cases reply with
          | error error =>
              obtain rfl := answered
              exact retained
          | ok done =>
              obtain ⟨number, files, opens, rfl⟩ := answered
              exact retained.opened opens (fresh filename rfl)
      | writeAll filename bytes =>
          cases reply with
          | error error =>
              obtain ⟨number, arrived, file, isOpen, writes, rfl⟩ := answered
              obtain ⟨isFile, alone⟩ := careful number isOpen
              exact retained.writes isOpen writes isFile alone
          | ok done =>
              obtain ⟨number, arrived, file, isOpen, writes, rfl⟩ := answered
              obtain ⟨isFile, alone⟩ := careful number isOpen
              refine (retained.writes isOpen writes isFile alone).record ?_ fun written =>
                stored_or_landing written isOpen isFile writes.of_ok
              rintro flushed member inTime rfl
              have stored := retained.stored_of_idle member inTime writes.idle
              exact stored.arrive (retained.past flushed member) _ _ _ _
      | syncAll filename =>
          obtain rfl := answered.2
          exact retained
  | rotation op =>
      cases op with
      | now =>
          obtain rfl := answered.2
          exact retained
      | readDir =>
          cases reply with
          | error error =>
              obtain rfl := answered
              exact retained
          | ok entries =>
              obtain rfl := answered.2
              exact retained
      | metadata name =>
          cases reply with
          | error error =>
              obtain rfl := answered
              exact retained
          | ok metadata =>
              obtain rfl := answered.2
              exact retained
      | rename source target =>
          cases reply with
          | error error =>
              obtain rfl := answered
              exact retained
          | ok done =>
              obtain ⟨files, renames, rfl⟩ := answered
              obtain ⟨others, contents⟩ := renames.keeps
              apply retained.names contents
              intro name notExpired
              apply others
              · rintro rfl
                exact notExpired careful.1
              · rintro rfl
                exact notExpired careful.2
      | removeFile name =>
          cases reply with
          | error error =>
              obtain rfl := answered
              exact retained
          | ok done =>
              obtain ⟨_, rfl⟩ := answered
              have contents : (world.files.remove (place name)).contents = world.files.contents :=
                rfl
              apply retained.names contents
              intro other notExpired
              apply Function.update_of_ne
              rintro rfl
              exact notExpired careful
  | proceed =>
      obtain ⟨number, bytes, file, isOpen, proceeds, rfl⟩ := answered
      have same : (world.arrive reply number bytes file).behind reply = file :=
        Function.update_self ..
      have fine : ((world.arrive reply number bytes file).behind reply).failure = none := careful
      rw [same] at fine
      exact retained.proceeds isOpen proceeds fine

end Steps

/-! ## System -/

/-- What the contract of a party speaks of: the open names of the writer, or nothing. -/
inductive EvidenceView where
  | writer (names : List String)
  | other

/-- The writer opens no name again, and no other party makes its calls. -/
def evidenceContract : Contract EvidenceOp EvidenceOp.Reply EvidenceView where
  Admits := fun view op =>
    match view, op with
    | .writer names, .writer op => opensOnce.Admits names op
    | .other, .writer _ => False
    | _, .rotation _ | _, .proceed => True
  Answers := fun view op reply after =>
    match view, op with
    | .writer names, .writer op =>
        ∃ next, opensOnce.Answers names op reply next ∧ after = .writer next
    | _, _ => after = view

/-- The open names between two turns. -/
def EvidenceState.Rests : EvidenceState → EvidenceView → Prop
  | .writing writer, view => view = .writer writer.files
  | .ended, _ => True
  | .rotating, view | .proceeding, view => view = .other

section System

variable {Place Rotator : Type} {place : String → Place} {retention : Int}

/-- The invariant of the system: every handle of the world is one of the writer. -/
def EvidenceConsistent (place : String → Place) (retention : Int) (world : EvidenceWorld Place)
    (views : EvidenceParty Rotator → EvidenceView) : Prop :=
  Retained place retention world ∧
    (∃ names, views .writer = .writer names ∧
      ∀ filename, world.handles filename ≠ none → filename ∈ names) ∧
    ∀ party, party ≠ .writer → views party = .other

variable [DecidableEq Place] [DecidableEq Rotator]

/-- Calls that are not the writer's change no handle. -/
private theorem handles_of_not_writer {world after : EvidenceWorld Place} {op : EvidenceOp}
    {reply : op.Reply} (answered : EvidenceAnswers place world op reply after)
    (other : ∀ writerOp, op ≠ .writer writerOp) : after.handles = world.handles := by
  cases op with
  | writer op => exact absurd rfl (other op)
  | rotation op =>
      cases op with
      | now => rw [answered.2]
      | readDir =>
          rcases reply with error | entries
          · rw [answered]
          · rw [answered.2]
      | metadata name =>
          rcases reply with error | metadata
          · rw [answered]
          · rw [answered.2]
      | rename source target =>
          rcases reply with error | done
          · rw [answered]
          · obtain ⟨files, _, rfl⟩ := answered
            rfl
      | removeFile name =>
          rcases reply with error | done
          · rw [answered]
          · rw [answered.2]
  | proceed =>
      obtain ⟨number, bytes, file, _, _, rfl⟩ := answered
      rfl

/-- A party whose calls are not the writer's. -/
private theorem wlp_other {α : Type} {program : Prog EvidenceOp EvidenceOp.Reply α}
    (only : program.Only fun op => ∀ writerOp, op ≠ .writer writerOp) :
    wlp evidenceContract program (fun _ view => view = .other) .other := by
  refine only.keeps (fun op other view isOther => ?_) rfl
  subst isOther
  cases op with
  | writer op => exact absurd rfl (other op)
  | rotation op => exact ⟨trivial, fun _ _ same => same⟩
  | proceed => exact ⟨trivial, fun _ _ same => same⟩

/-- What a call of the writer does to its handles. -/
private theorem handles_of_writer {world after : EvidenceWorld Place} {op : WriterOp}
    {reply : op.Reply} (answered : WriterAnswers place world op reply after) {names : List String}
    (held : ∀ filename, world.handles filename ≠ none → filename ∈ names) :
    ∃ next, opensOnce.Answers names op reply next ∧
      ∀ filename, after.handles filename ≠ none → filename ∈ next := by
  cases op with
  | openAppend filename =>
      rcases reply with error | ⟨⟩
      · obtain rfl := answered
        exact ⟨names, rfl, held⟩
      · obtain ⟨number, files, _, rfl⟩ := answered
        refine ⟨names ++ [filename], rfl, fun other isOpen => ?_⟩
        by_cases same : other = filename
        · simp [same]
        · have unchanged : (world.opened filename number files).handles other =
              world.handles other := Function.update_of_ne same ..
          rw [unchanged] at isOpen
          exact List.mem_append_left _ (held other isOpen)
  | writeAll filename bytes =>
      rcases reply with error | ⟨⟩
      · obtain ⟨number, arrived, file, _, _, rfl⟩ := answered
        exact ⟨names, rfl, held⟩
      · obtain ⟨number, arrived, file, _, _, rfl⟩ := answered
        refine ⟨names, rfl, fun other isOpen => held other ?_⟩
        unfold EvidenceWorld.record at isOpen
        split at isOpen
        · exact isOpen
        · exact isOpen
  | syncAll filename =>
      obtain rfl := answered.2
      exact ⟨names, rfl, held⟩

/-- The parties keep the contract. -/
private theorem evidenceSystem_respects (config : RotationConfig) (bufferSizeBytes : Nat) :
    ((evidenceSystem config bufferSizeBytes place : System (EvidenceParty Rotator) _ _ _ _).restrict
      (Careful place retention)).Respects evidenceContract EvidenceState.Rests
        (EvidenceConsistent place retention) where
  offered := by
    intro party state program view rests offers
    cases party with
    | writer =>
        cases state with
        | writing writer =>
            obtain ⟨event, order, _, rfl⟩ := offers
            obtain rfl := rests
            have admits : ∀ names op, opensOnce.Admits names op →
                evidenceContract.Admits (.writer names) (.writer op) := fun _ _ admitted => admitted
            have answers : ∀ names op reply after,
                evidenceContract.Answers (.writer names) (.writer op) reply after →
                  ∃ next, opensOnce.Answers names op reply next ∧ after = .writer next :=
              fun _ _ _ _ answered => answered
            have turned : wlp evidenceContract
                ((writer.handle bufferSizeBytes order event).embed EvidenceOp.writer
                  fun _ reply => reply)
                (fun turn view => view = .writer turn.writer.files) (.writer writer.files) := by
              apply wlp_embed admits answers
              apply wlp_mono (handle_opensOnce bufferSizeBytes order event)
              intro turn names same
              rw [same]
            refine wlp_seq turned fun turn after same => ?_
            rw [wlp_ret]
            split
            · exact same
            · trivial
        | ended => exact offers.elim
        | rotating => exact offers.elim
        | proceeding => exact offers.elim
    | rotator rotator =>
        cases state with
        | rotating =>
            obtain rfl := offers
            obtain rfl := rests
            refine wlp_seq (wlp_other (Prog.only_embed.mono fun op => ?_)) fun _ _ same => same
            rintro ⟨inner, rfl⟩ writerOp
            exact EvidenceOp.noConfusion
        | writing writer => exact offers.elim
        | ended => exact offers.elim
        | proceeding => exact offers.elim
    | background =>
        cases state with
        | proceeding =>
            obtain rfl := offers
            obtain rfl := rests
            exact wlp_perform trivial fun _ _ same => same
        | writing writer => exact offers.elim
        | ended => exact offers.elim
        | rotating => exact offers.elim
  step := by
    rintro party world views op reply after ⟨retained, ⟨names, isWriter, held⟩, others⟩ admits
      ⟨answered, careful⟩
    replace answered : EvidenceAnswers place world op reply after := answered
    by_cases byWriter : party = .writer ∧ ∃ writerOp, op = .writer writerOp
    · obtain ⟨rfl, op, rfl⟩ := byWriter
      rw [isWriter] at admits
      have fresh : ∀ filename, EvidenceOp.writer op = .writer (.openAppend filename) →
          world.handles filename = none := by
        rintro filename ⟨⟩
        by_contra isOpen
        exact admits (held filename isOpen)
      have calls : WriterAnswers place world op reply after := answered
      obtain ⟨next, foreseen, heldAfter⟩ := handles_of_writer calls held
      refine ⟨.writer next, ?_, retained.answers answered careful fresh,
        ⟨next, Function.update_self .., heldAfter⟩, fun party other => ?_⟩
      · rw [isWriter]
        exact ⟨next, foreseen, rfl⟩
      · rw [Function.update_of_ne other]
        exact others party other
    · have notWriter : ∀ writerOp, op ≠ .writer writerOp := by
        rintro writerOp rfl
        have isOther := others party fun isWriter => byWriter ⟨isWriter, writerOp, rfl⟩
        rw [isOther] at admits
        exact admits
      refine ⟨views party, ?_, retained.answers answered careful ?_, ?_⟩
      · generalize views party = view
        cases op with
        | writer op => exact absurd rfl (notWriter op)
        | rotation op => cases view <;> exact rfl
        | proceed => cases view <;> exact rfl
      · rintro filename rfl
        exact absurd rfl (notWriter _)
      · rw [Function.update_eq_self]
        refine ⟨⟨names, isWriter, ?_⟩, others⟩
        rw [handles_of_not_writer answered notWriter]
        exact held
  environment := by
    rintro world views after ⟨retained, handles, others⟩ ⟨later, notBack, rfl⟩
    exact ⟨retained.later notBack, handles, others⟩

/-- In every interleaving of a writer with rotations and with the writes behind its files in which
the writer only writes into files that their names still stand for, each open under one name, a
rotation only takes away names of files that are still expired then and to which nothing is under
way, and no write fails once it is handed over, what was flushed with success within the retention
period is readable under its name, but for what was flushed last under a name and is still under
way. -/
theorem evidence_kept {config : RotationConfig} {bufferSizeBytes : Nat} {place : String → Place}
    {files : OpenFiles Place} {modified : Nat → DateTime} {now : DateTime}
    {pool : EvidencePool Rotator Place}
    (reachable : ((evidenceSystem config bufferSizeBytes place).restrict
      (Careful place config.retention)).Reachable (startOfEvidence files modified now) pool) :
    EvidenceKept place config.retention pool.world := by
  have initially : (startOfEvidence files modified now : EvidencePool Rotator Place).Safe
      evidenceContract EvidenceState.Rests (EvidenceConsistent place config.retention) := by
    refine ⟨fun party => if party = .writer then .writer [] else .other,
      ⟨⟨by simp [startOfEvidence], by simp [startOfEvidence], ?_, ?_⟩, ⟨[], rfl, ?_⟩, ?_⟩, ?_⟩
    · intro filename number isOpen
      cases isOpen
    · intro filename other number isOpen
      cases isOpen
    · intro filename isOpen
      exact absurd rfl isOpen
    · intro party other
      exact if_neg other
    · intro party
      cases party with
      | writer => exact rfl
      | rotator rotator => exact rfl
      | background => exact rfl
  obtain ⟨_, ⟨retained, _⟩, _⟩ :=
    reachable.safe (evidenceSystem_respects config bufferSizeBytes) initially
  exact retained.evidenceKept

end System

/-! ## Two runs -/

/-- An empty directory. -/
def noEvidence : OpenFiles String where
  slots := fun _ => none
  contents := fun _ => []
  made := 0
  bounded := fun _ _ impossible => absurd impossible (Option.some_ne_none _).symm

/-- The defaults of the rotation, and a writer that flushes every record. -/
abbrev defaultEvidence : System (EvidenceParty Unit) EvidenceOp EvidenceOp.Reply EvidenceState
    (EvidenceWorld String) :=
  evidenceSystem {} 1 id

private theorem listed {files : OpenFiles String} {number : Nat}
    (isFile : files.slots "e.jsonl" = some (.file number)) :
    ∀ name, (.ok name : Except IoError String) ∈ [.ok "e.jsonl"] →
      files.slots (id name) ≠ none := by
  intro name member
  rw [List.mem_singleton] at member
  cases member
  exact isFile ▸ Option.some_ne_none _

private theorem metadata_e {world : EvidenceWorld String} {number : Nat} {time : DateTime}
    {len : UInt64} (isFile : world.files.slots "e.jsonl" = some (.file number))
    (modified : world.modified number = time)
    (size : UInt64.ofNat (world.files.contents number).length = len) :
    ∀ other, world.files.slots (id "e.jsonl") = some (.file other) →
      (.ok time : Except IoError DateTime) = .ok (world.modified other) ∧
        len = UInt64.ofNat (world.files.contents other).length := by
  intro other isOther
  rw [id_eq, isFile] at isOther
  cases isOther
  rw [modified, size]
  exact ⟨rfl, rfl⟩

private theorem deleting_e : withExtension "e.jsonl" "jsonl.deleting" = "e.jsonl.deleting" := by
  decide +kernel

/-- The one file of the directory is renamed. -/
private theorem renames_e {files : OpenFiles String} {number : Nat}
    (isFile : files.slots "e.jsonl" = some (.file number))
    (missing : files.slots "e.jsonl.deleting" = none) :
    files.Renames (id "e.jsonl") (id (withExtension "e.jsonl" "jsonl.deleting"))
      (files.move "e.jsonl" "e.jsonl.deleting") := by
  rw [deleting_e]
  refine .moved isFile (by decide +kernel) fun other _ isOther => ?_
  rw [id_eq, missing] at isOther
  cases isOther

private theorem unlinks_e {files : OpenFiles String} {number : Nat}
    (isFile : files.slots "e.jsonl.deleting" = some (.file number)) :
    files.slots (id (withExtension "e.jsonl" "jsonl.deleting")) ≠ none := by
  rw [deleting_e]
  exact isFile ▸ Option.some_ne_none _

/-- A record is flushed and expires, and the rotation deletes its file. The next record is
flushed through the old handle with success, arrives there, and cannot be read. -/
theorem handle_outlives_file :
    ∃ pool, defaultEvidence.Reachable (startOfEvidence noEvidence (fun _ => 0) 0) pool ∧
      ¬ EvidenceKept id (RotationConfig.retention {}) pool.world := by
  have start : defaultEvidence.Reachable (startOfEvidence noEvidence (fun _ => 0) 0)
    (startOfEvidence noEvidence (fun _ => 0) 0) := .refl
  have begins := start.begin .writer _ rfl ⟨.write "e.jsonl" [97, 10], [], .refl _, rfl⟩
  have opened := begins.call .writer rfl (.ok ()) _
    ⟨0, _, .new rfl, rfl⟩
  have wrote := opened.call .writer rfl (.ok ()) _ ⟨0, [], ⟨[97, 10], none⟩, rfl, .hands rfl, rfl⟩
  have waits := wrote.finish .writer rfl
  have proceeds := waits.begin .background _ rfl rfl
  have arrived := proceeds.call .background rfl "e.jsonl" _
    ⟨0, [97, 10], {}, rfl, .arrives [97, 10] [], rfl⟩
  have idles := arrived.finish .background rfl
  have days : defaultEvidence.Reachable _ _ :=
    idles.tail (.environment ⟨15 * day, by decide, rfl⟩)
  have ticks := days.begin (.rotator ()) _ rfl rfl
  have asks := ticks.call (.rotator ()) rfl _ _ ⟨rfl, rfl⟩
  have lists := asks.call (.rotator ()) rfl (.ok [.ok "e.jsonl"]) _ ⟨listed rfl, rfl⟩
  have looks := lists.call (.rotator ()) rfl (.ok ⟨.ok 0, 2⟩) _
    ⟨metadata_e rfl rfl rfl, rfl⟩
  have asksAge := looks.call (.rotator ()) rfl _ _ ⟨rfl, rfl⟩
  have stamps := asksAge.call (.rotator ()) rfl _ _ ⟨rfl, rfl⟩
  have renames := stamps.call (.rotator ()) rfl (.ok ()) _ ⟨_, renames_e rfl rfl, rfl⟩
  have unlinks := renames.call (.rotator ()) rfl (.ok ()) _ ⟨unlinks_e rfl, rfl⟩
  have writesAgain :=
    unlinks.begin .writer _ rfl ⟨.write "e.jsonl" [98, 10], ["e.jsonl"], .refl _, rfl⟩
  have wroteAgain := writesAgain.call .writer rfl (.ok ()) _
    ⟨0, [], ⟨[98, 10], none⟩, rfl, .hands rfl, rfl⟩
  have proceedsAgain := wroteAgain.begin .background _ rfl rfl
  have arrivedAgain := proceedsAgain.call .background rfl "e.jsonl" _
    ⟨0, [98, 10], {}, rfl, .arrives [98, 10] [], rfl⟩
  refine ⟨_, arrivedAgain, fun kept => ?_⟩
  obtain ⟨content, ⟨last, number, leads, isFile, _⟩, _⟩ :=
    kept [⟨"e.jsonl", [97, 10], 0⟩] ⟨"e.jsonl", [98, 10], 15 * day⟩ [] rfl (by decide) (.inl rfl)
  obtain rfl := leads.eq_of_noLink (by rintro target ⟨⟩)
  cases isFile

private theorem careful_write {world after : EvidenceWorld String} {filename : String}
    {bytes : List UInt8} {number : Nat} {reply : Except IoError Unit}
    (isOpen : world.handles = Function.update (fun _ => none) filename (some number))
    (isFile : world.files.slots filename = some (.file number)) :
    Careful id (RotationConfig.retention {}) world (.writer (.writeAll filename bytes)) reply
      after := by
  intro other isOther
  rw [isOpen, Function.update_self] at isOther
  cases isOther
  refine ⟨isFile, fun name isName => ?_⟩
  by_contra different
  rw [isOpen, Function.update_of_ne different] at isName
  cases isName

/-- The old file is renamed, and its temporary name is free. -/
private theorem careful_rename {world after : EvidenceWorld String} {number : Nat}
    {reply : Except String Unit}
    (isFile : world.files.slots "e.jsonl" = some (.file number))
    (missing : world.files.slots "e.jsonl.deleting" = none)
    (old : world.modified number < world.now - RotationConfig.retention {})
    (idle : ∀ filename, world.behind filename = {}) :
    Careful id (RotationConfig.retention {}) world
      (.rotation (.rename "e.jsonl" (withExtension "e.jsonl" "jsonl.deleting"))) reply after := by
  rw [deleting_e]
  constructor
  · intro other isOther
    rw [id_eq, isFile] at isOther
    cases isOther
    exact ⟨old, fun filename _ => by rw [idle]⟩
  · intro other isOther
    rw [id_eq, missing] at isOther
    cases isOther

private theorem careful_remove {world after : EvidenceWorld String} {number : Nat}
    {reply : Except String Unit}
    (isFile : world.files.slots "e.jsonl.deleting" = some (.file number))
    (old : world.modified number < world.now - RotationConfig.retention {})
    (notOpen : ∀ filename, world.handles filename ≠ some number) :
    Careful id (RotationConfig.retention {}) world
      (.rotation (.removeFile (withExtension "e.jsonl" "jsonl.deleting"))) reply after := by
  rw [deleting_e]
  intro other isOther
  rw [id_eq, isFile] at isOther
  cases isOther
  exact ⟨old, fun filename isOpen => absurd isOpen (notOpen filename)⟩

/-- The runs that meet the condition. -/
abbrev carefulEvidence : System (EvidenceParty Unit) EvidenceOp EvidenceOp.Reply EvidenceState
    (EvidenceWorld String) :=
  defaultEvidence.restrict (Careful id (RotationConfig.retention {}))

/-- An old file is deleted while a record is flushed to another, where it arrives and stays. -/
theorem evidence_kept_beside :
    ∃ pool, carefulEvidence.Reachable
        (startOfEvidence (noEvidence.addFile "e.jsonl") (fun _ => 0) (15 * day)) pool ∧
      pool.world.files.slots "e.jsonl" = none ∧
      pool.world.flushed = [⟨"f.jsonl", [98, 10], 15 * day⟩] ∧
      (pool.world.behind "f.jsonl").flying = [] ∧
      EvidenceKept id (RotationConfig.retention {}) pool.world := by
  have start : carefulEvidence.Reachable
    (startOfEvidence (noEvidence.addFile "e.jsonl") (fun _ => 0) (15 * day))
    (startOfEvidence (noEvidence.addFile "e.jsonl") (fun _ => 0) (15 * day)) := .refl
  have ticks := start.begin (.rotator ()) _ rfl rfl
  have asks := ticks.call (.rotator ()) rfl _ _ ⟨⟨rfl, rfl⟩, trivial⟩
  have lists := asks.call (.rotator ()) rfl (.ok [.ok "e.jsonl"]) _ ⟨⟨listed rfl, rfl⟩, trivial⟩
  have begins := lists.begin .writer _ rfl ⟨.write "f.jsonl" [98, 10], [], .refl _, rfl⟩
  have opened := begins.call .writer rfl (.ok ()) _
    ⟨⟨1, _, .new rfl, rfl⟩, trivial⟩
  have looks := opened.call (.rotator ()) rfl (.ok ⟨.ok 0, 0⟩) _
    ⟨⟨metadata_e rfl rfl rfl, rfl⟩, trivial⟩
  have asksAge := looks.call (.rotator ()) rfl _ _ ⟨⟨rfl, rfl⟩, trivial⟩
  have stamps := asksAge.call (.rotator ()) rfl _ _ ⟨⟨rfl, rfl⟩, trivial⟩
  have idle : ∀ filename, Function.update (fun _ => ({} : AsyncFile)) "f.jsonl" {} filename = {} :=
    fun filename => congrFun (Function.update_eq_self "f.jsonl" _) filename
  have renames := stamps.call (.rotator ()) rfl (.ok ()) _
    ⟨⟨_, renames_e rfl rfl, rfl⟩, careful_rename rfl rfl (by decide) idle⟩
  have wrote := renames.call .writer rfl (.ok ()) _
    ⟨⟨1, [], ⟨[98, 10], none⟩, rfl, .hands rfl, rfl⟩, careful_write rfl rfl⟩
  have notOpen : ∀ filename,
      Function.update (fun _ => (none : Option Nat)) "f.jsonl" (some 1) filename ≠ some 0 := by
    intro filename
    by_cases same : filename = "f.jsonl"
    · rw [same, Function.update_self]
      decide
    · rw [Function.update_of_ne same]
      exact (Option.some_ne_none _).symm
  have unlinks := wrote.call (.rotator ()) rfl (.ok ()) _
    ⟨⟨unlinks_e rfl, rfl⟩, careful_remove rfl (by decide) notOpen⟩
  have proceeds := unlinks.begin .background _ rfl rfl
  have arrived := proceeds.call .background rfl "f.jsonl" _
    ⟨⟨1, [98, 10], {}, rfl, .arrives [98, 10] [], rfl⟩, rfl⟩
  exact ⟨_, arrived, rfl, rfl, rfl, evidence_kept arrived⟩

end TriAI.Evidence
