import Mathlib.Logic.Function.Basic

/-!
Contract: names that lead to files, and files that stay open when their names move.

Owns: `OpenFiles`, the names with what they stand for and the files by number; opening,
making, renaming and removing names; and what each of these leaves alone.

Does not own: directories, which do not change here, and why a call fails.
-/

set_option autoImplicit false

namespace TriAI.Library

/-- What a name stands for: a file, or another name. -/
inductive Slot (Name : Type) where
  | file (number : Nat)
  | link (target : Name)

/-- The names and the files. A file is made once and never again. -/
structure OpenFiles (Name : Type) where
  slots : Name → Option (Slot Name)
  contents : Nat → List UInt8
  made : Nat
  bounded : ∀ name number, slots name = some (.file number) → number < made

namespace OpenFiles

variable {Name : Type}

/-- A name leads to a name that is no link. -/
inductive Leads (files : OpenFiles Name) : Name → Name → Prop
  | here {name : Name} (noLink : ∀ target, files.slots name ≠ some (.link target)) :
      Leads files name name
  | follow {name target last : Name} (isLink : files.slots name = some (.link target))
      (rest : Leads files target last) : Leads files name last

theorem Leads.eq_of_noLink {files : OpenFiles Name} {name last : Name}
    (leads : files.Leads name last) (noLink : ∀ target, files.slots name ≠ some (.link target)) :
    last = name := by
  cases leads with
  | here => rfl
  | follow isLink => exact absurd isLink (noLink _)

theorem Leads.of_file {files : OpenFiles Name} {name : Name} {number : Nat}
    (isFile : files.slots name = some (.file number)) : files.Leads name name := by
  refine .here fun target isLink => ?_
  rw [isFile] at isLink
  cases isLink

/-- Reading under a name gives these bytes. -/
def Reads (files : OpenFiles Name) (name : Name) (bytes : List UInt8) : Prop :=
  ∃ last number, files.Leads name last ∧ files.slots last = some (.file number) ∧
    files.contents number = bytes

/-- A name that stands for a file. -/
theorem reads_of_slot {files : OpenFiles Name} {name : Name} {number : Nat}
    (isFile : files.slots name = some (.file number)) :
    files.Reads name (files.contents number) :=
  ⟨name, number, .of_file isFile, isFile, rfl⟩

/-- A file gets another content. -/
def setContent (files : OpenFiles Name) (number : Nat) (bytes : List UInt8) : OpenFiles Name :=
  { files with contents := Function.update files.contents number bytes }

@[simp] theorem setContent_slots (files : OpenFiles Name) (number : Nat) (bytes : List UInt8) :
    (files.setContent number bytes).slots = files.slots := rfl

@[simp] theorem setContent_made (files : OpenFiles Name) (number : Nat) (bytes : List UInt8) :
    (files.setContent number bytes).made = files.made := rfl

@[simp] theorem setContent_contents (files : OpenFiles Name) (number : Nat) (bytes : List UInt8) :
    (files.setContent number bytes).contents = Function.update files.contents number bytes := rfl

private theorem bounded_made (files : OpenFiles Name) :
    ∀ number, some (Slot.file files.made : Slot Name) = some (.file number) →
      number < files.made + 1 := by
  intro number isFile
  cases isFile
  exact Nat.lt_succ_self _

private theorem bounded_none (files : OpenFiles Name) :
    ∀ number, (none : Option (Slot Name)) = some (.file number) → number < files.made :=
  fun _ impossible => absurd impossible (Option.some_ne_none _).symm

variable [DecidableEq Name]

private theorem bounded_update (files : OpenFiles Name) (name : Name) {slot : Option (Slot Name)}
    {made : Nat} (grows : files.made ≤ made)
    (isBounded : ∀ number, slot = some (.file number) → number < made) :
    ∀ other number, Function.update files.slots name slot other = some (.file number) →
      number < made := by
  intro other number isFile
  by_cases same : other = name
  · rw [same, Function.update_self] at isFile
    exact isBounded number isFile
  · rw [Function.update_of_ne same] at isFile
    exact Nat.lt_of_lt_of_le (files.bounded other number isFile) grows

/-- A new empty file under a name. -/
def addFile (files : OpenFiles Name) (name : Name) : OpenFiles Name where
  slots := Function.update files.slots name (some (.file files.made))
  contents := Function.update files.contents files.made []
  made := files.made + 1
  bounded := bounded_update files name (Nat.le_succ _) (bounded_made files)

/-- A name goes; the file stays for those who have it open. -/
def remove (files : OpenFiles Name) (name : Name) : OpenFiles Name :=
  { files with
    slots := Function.update files.slots name none
    bounded := bounded_update files name (Nat.le_refl _) (bounded_none files) }

/-- `source` becomes `target`, whatever `target` was. -/
def move (files : OpenFiles Name) (source target : Name) : OpenFiles Name :=
  remove
    { files with
      slots := Function.update files.slots target (files.slots source)
      bounded := bounded_update files target (Nat.le_refl _) (files.bounded source) }
    source

@[simp] theorem addFile_slots (files : OpenFiles Name) (name : Name) :
    (files.addFile name).slots =
      Function.update files.slots name (some (.file files.made)) := rfl

@[simp] theorem remove_slots (files : OpenFiles Name) (name : Name) :
    (files.remove name).slots = Function.update files.slots name none := rfl

@[simp] theorem move_slots (files : OpenFiles Name) (source target : Name) :
    (files.move source target).slots =
      Function.update (Function.update files.slots target (files.slots source)) source none := rfl

/-- `open` with `O_CREAT`, with or without `O_TRUNC`: the file that is opened. -/
inductive Opens (files : OpenFiles Name) (name : Name) (truncate : Bool) :
    Nat → OpenFiles Name → Prop
  | found {last : Name} {number : Nat} (leads : files.Leads name last)
      (isFile : files.slots last = some (.file number)) :
      Opens files name truncate number
        (if truncate then files.setContent number [] else files)
  | made {last : Name} (leads : files.Leads name last) (missing : files.slots last = none) :
      Opens files name truncate files.made (files.addFile last)

/-- Opening a name that stands for nothing. -/
theorem Opens.new {files : OpenFiles Name} {name : Name} {truncate : Bool}
    (missing : files.slots name = none) :
    files.Opens name truncate files.made (files.addFile name) := by
  refine .made (.here fun target isLink => ?_) missing
  rw [missing] at isLink
  cases isLink

/-- `rename`: a name that becomes itself and two names of one file stay as they are. -/
inductive Renames (files : OpenFiles Name) (source target : Name) : OpenFiles Name → Prop
  | itself {slot : Slot Name} (found : files.slots source = some slot) (same : source = target) :
      Renames files source target files
  | same {number : Nat} (isFile : files.slots source = some (.file number))
      (sameFile : files.slots target = some (.file number)) : Renames files source target files
  | moved {slot : Slot Name} (found : files.slots source = some slot)
      (apart : source ≠ target)
      (different : ∀ number, slot = .file number → files.slots target ≠ some (.file number)) :
      Renames files source target (files.move source target)

/-- What opening a name does that is no link. -/
structure Opened (files : OpenFiles Name) (name : Name) (number : Nat) (after : OpenFiles Name) :
    Prop where
  slot : after.slots name = some (.file number)
  frame : ∀ other, other ≠ name → after.slots other = files.slots other
  origin : files.slots name = some (.file number) ∨ number = files.made ∧ files.slots name = none
  others : ∀ other, other ≠ number → after.contents other = files.contents other
  grows : files.made ≤ after.made

theorem Opens.opened {files after : OpenFiles Name} {name : Name} {truncate : Bool} {number : Nat}
    (opens : files.Opens name truncate number after)
    (noLink : ∀ target, files.slots name ≠ some (.link target)) :
    files.Opened name number after := by
  cases opens with
  | found leads isFile =>
      obtain rfl := leads.eq_of_noLink noLink
      cases truncate with
      | true => exact ⟨isFile, fun _ _ => rfl, .inl isFile,
          fun other different => Function.update_of_ne different _ _, Nat.le_refl _⟩
      | false => exact ⟨isFile, fun _ _ => rfl, .inl isFile, fun _ _ => rfl, Nat.le_refl _⟩
  | made leads missing =>
      obtain rfl := leads.eq_of_noLink noLink
      exact ⟨Function.update_self .., fun other different => Function.update_of_ne different _ _,
        .inr ⟨rfl, missing⟩, fun other different => Function.update_of_ne different _ _,
        Nat.le_succ _⟩

/-- Opening without truncation leaves every name that stands for a file and its content. -/
theorem Opens.keeps {files after : OpenFiles Name} {name other : Name} {number otherNumber : Nat}
    (opens : files.Opens name false number after)
    (isFile : files.slots other = some (.file otherNumber)) :
    after.slots other = some (.file otherNumber) ∧
      after.contents otherNumber = files.contents otherNumber := by
  cases opens with
  | found leads found => exact ⟨isFile, rfl⟩
  | @made last leads missing =>
      have different : other ≠ last := by
        rintro rfl
        rw [isFile] at missing
        cases missing
      have bound := files.bounded other otherNumber isFile
      exact ⟨(Function.update_of_ne different _ _).trans isFile,
        Function.update_of_ne (by omega) _ _⟩

/-- A file that is opened and truncated is empty. -/
theorem Opens.empty {files after : OpenFiles Name} {name : Name} {number : Nat}
    (opens : files.Opens name true number after) : after.contents number = [] := by
  cases opens with
  | found leads isFile => exact Function.update_self ..
  | made leads missing => exact Function.update_self ..

/-- What renaming a file does. -/
structure Renamed (files : OpenFiles Name) (source target : Name) (number : Nat)
    (after : OpenFiles Name) : Prop where
  slot : after.slots target = some (.file number)
  frame : ∀ other, other ≠ source → other ≠ target → after.slots other = files.slots other
  contents : after.contents = files.contents
  made : after.made = files.made

/-- Renaming leaves other names and all contents. -/
theorem Renames.keeps {files after : OpenFiles Name} {source target : Name}
    (renames : files.Renames source target after) :
    (∀ other, other ≠ source → other ≠ target → after.slots other = files.slots other) ∧
      after.contents = files.contents := by
  cases renames with
  | itself found same => exact ⟨fun _ _ _ => rfl, rfl⟩
  | same sourceFile sameFile => exact ⟨fun _ _ _ => rfl, rfl⟩
  | moved found apart different =>
      refine ⟨fun other notSource notTarget => ?_, rfl⟩
      rw [move_slots, Function.update_of_ne notSource, Function.update_of_ne notTarget]

theorem Renames.renamed {files after : OpenFiles Name} {source target : Name} {number : Nat}
    (renames : files.Renames source target after)
    (isFile : files.slots source = some (.file number)) :
    files.Renamed source target number after := by
  cases renames with
  | itself found same =>
      subst same
      exact ⟨isFile, fun _ _ _ => rfl, rfl, rfl⟩
  | same sourceFile sameFile =>
      rw [isFile] at sourceFile
      cases sourceFile
      exact ⟨sameFile, fun _ _ _ => rfl, rfl, rfl⟩
  | moved found apart different =>
      refine ⟨?_, ?_, rfl, rfl⟩
      · rw [move_slots, Function.update_of_ne (Ne.symm apart), Function.update_self, isFile]
      · intro other notSource notTarget
        rw [move_slots, Function.update_of_ne notSource, Function.update_of_ne notTarget]

end OpenFiles

end TriAI.Library
