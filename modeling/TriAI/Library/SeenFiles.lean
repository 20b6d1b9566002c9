import TriAI.Library.OpenFiles

/-!
Contract: what is seen under the names of `OpenFiles`.

Owns: `seen`, which leaves out the numbers of the files; and when replacing a file through a
temporary, or a part of that, leaves what is seen.

Does not own: the calls that replace a file, and why they fail.
-/

set_option autoImplicit false

namespace TriAI.Library

/-- What is seen under a name that stands for something. -/
inductive Seen (Name : Type) where
  | content (bytes : List UInt8)
  | link (target : Name)

namespace OpenFiles

variable {Name : Type}

/-- What a slot shows. -/
def shows (files : OpenFiles Name) : Slot Name → Seen Name
  | .file number => .content (files.contents number)
  | .link target => .link target

/-- What is seen under a name, without following it. -/
def seen (files : OpenFiles Name) (name : Name) : Option (Seen Name) :=
  (files.slots name).map files.shows

/-- Nothing that is seen differs. -/
def SameSeen (files after : OpenFiles Name) : Prop :=
  ∀ name, after.seen name = files.seen name

/-- Nothing that is seen under another name differs. -/
def SameSeenBut (target : Name) (files after : OpenFiles Name) : Prop :=
  ∀ name, name ≠ target → after.seen name = files.seen name

theorem seen_eq_none {files : OpenFiles Name} {name : Name} :
    files.seen name = none ↔ files.slots name = none := by
  unfold seen
  exact Option.map_eq_none_iff

theorem seen_of_file {files : OpenFiles Name} {name : Name} {number : Nat}
    (isFile : files.slots name = some (.file number)) :
    files.seen name = some (.content (files.contents number)) := by
  unfold seen
  rw [isFile]
  rfl

theorem seen_congr {files after : OpenFiles Name} {name : Name}
    (slots : after.slots name = files.slots name)
    (contents : ∀ number, files.slots name = some (.file number) →
      after.contents number = files.contents number) :
    after.seen name = files.seen name := by
  unfold seen
  rw [slots]
  cases slot : files.slots name with
  | none => rfl
  | some found =>
      cases found with
      | link target => rfl
      | file number =>
          show some (Seen.content _) = some (Seen.content _)
          rw [contents number slot]

/-- A name leads to one name. -/
theorem Leads.unique {files : OpenFiles Name} {name last other : Name}
    (leads : files.Leads name last) (again : files.Leads name other) : other = last := by
  induction leads with
  | here noLink => exact again.eq_of_noLink noLink
  | @follow name target last isLink rest inductionHypothesis =>
      cases again with
      | here noLink => exact absurd isLink (noLink target)
      | follow isOther restOther =>
          rw [isLink] at isOther
          cases isOther
          exact inductionHypothesis restOther

theorem Leads.of_missing {files : OpenFiles Name} {name last : Name}
    (leads : files.Leads name last) (missing : files.slots name = none) : last = name := by
  apply leads.eq_of_noLink
  intro target isLink
  rw [missing] at isLink
  cases isLink

/-- A content is read under the names that lead to its file. -/
theorem reads_iff {files : OpenFiles Name} {name last : Name} {bytes : List UInt8}
    (leads : files.Leads name last) :
    files.Reads name bytes ↔
      ∃ number, files.slots last = some (.file number) ∧ files.contents number = bytes := by
  constructor
  · rintro ⟨other, number, again, isFile, isContent⟩
    obtain rfl := leads.unique again
    exact ⟨number, isFile, isContent⟩
  · rintro ⟨number, isFile, isContent⟩
    exact ⟨last, number, leads, isFile, isContent⟩

variable [DecidableEq Name]

/-! ## Writing -/

/-- A file that is opened and written: one that was there, or a new one. -/
inductive Written (files : OpenFiles Name) (name : Name) (bytes : List UInt8) (number : Nat)
    (after : OpenFiles Name) : Prop
  | found {last : Name} (leads : files.Leads name last)
      (isFile : files.slots last = some (.file number)) (slots : after.slots = files.slots)
      (contents : after.contents = Function.update files.contents number bytes)
  | made {last : Name} (leads : files.Leads name last) (missing : files.slots last = none)
      (isNew : number = files.made)
      (slots : after.slots = Function.update files.slots last (some (.file number)))
      (contents : after.contents = Function.update files.contents number bytes)

theorem Opens.written {files opened : OpenFiles Name} {name : Name} {number : Nat}
    (opens : files.Opens name true number opened) (bytes : List UInt8) :
    files.Written name bytes number (opened.setContent number bytes) := by
  cases opens with
  | found leads isFile => exact .found leads isFile rfl (Function.update_idem ..)
  | made leads missing => exact .made leads missing rfl rfl (Function.update_idem ..)

section Writing

variable {files after : OpenFiles Name} {name : Name} {bytes : List UInt8} {number : Nat}

/-- The content is read under the name. -/
theorem Written.seen_last (written : files.Written name bytes number after) {last : Name}
    (leads : files.Leads name last) : after.seen last = some (.content bytes) := by
  have isFile : after.slots last = some (.file number) := by
    cases written with
    | found again isFile slots contents =>
        obtain rfl := leads.unique again
        rw [slots, isFile]
    | made again missing isNew slots contents =>
        obtain rfl := leads.unique again
        rw [slots, Function.update_self]
  have isContent : after.contents number = bytes := by
    cases written with
    | found again isFile slots contents => rw [contents, Function.update_self]
    | made again missing isNew slots contents => rw [contents, Function.update_self]
  rw [seen_of_file isFile, isContent]

/-- What does not show the file that was written stays. -/
theorem Written.frame (written : files.Written name bytes number after) {other : Name}
    (notLast : ¬ files.Leads name other)
    (notFile : files.slots other ≠ some (.file number)) : after.seen other = files.seen other := by
  have contents : ∀ found, files.slots other = some (.file found) →
      after.contents found = files.contents found := by
    intro found isFound
    have different : found ≠ number := by
      rintro rfl
      exact notFile isFound
    cases written with
    | found leads isFile slots contents =>
        rw [contents, Function.update_of_ne different]
    | made leads missing isNew slots contents =>
        rw [contents, Function.update_of_ne different]
  refine seen_congr ?_ contents
  cases written with
  | found leads isFile slots contents => rw [slots]
  | @made last leads missing isNew slots contents =>
      have apart : other ≠ last := by
        rintro rfl
        exact notLast leads
      rw [slots, Function.update_of_ne apart]

/-- Writing what was read before changes nothing. -/
theorem Written.same_of_reads (written : files.Written name bytes number after)
    (reads : files.Reads name bytes) : files.SameSeen after := by
  cases written with
  | found leads isFile slots contents =>
      obtain ⟨found, isFound, isContent⟩ := (reads_iff leads).mp reads
      obtain rfl : found = number := by
        rw [isFile] at isFound
        cases isFound
        rfl
      intro other
      apply seen_congr (by rw [slots])
      intro _ _
      rw [contents, ← isContent, Function.update_eq_self]
  | made leads missing isNew slots contents =>
      obtain ⟨found, isFound, _⟩ := (reads_iff leads).mp reads
      rw [missing] at isFound
      cases isFound

/-- Where the name leads, the content must have been read before if nothing there changed. -/
theorem Written.reads_of_same (written : files.Written name bytes number after) {last : Name}
    (leads : files.Leads name last) (same : after.seen last = files.seen last) :
    files.Reads name bytes := by
  have isSeen := same.symm.trans (written.seen_last leads)
  unfold seen at isSeen
  rw [Option.map_eq_some_iff] at isSeen
  obtain ⟨slot, isSlot, shown⟩ := isSeen
  cases slot with
  | file found =>
      cases shown
      exact (reads_iff leads).mpr ⟨found, isSlot, rfl⟩
  | link target => cases shown

theorem Written.leads (written : files.Written name bytes number after) :
    ∃ last, files.Leads name last := by
  cases written with
  | found leads isFile slots contents => exact ⟨_, leads⟩
  | made leads missing isNew slots contents => exact ⟨_, leads⟩

/-- Exactly what was read before can be written unseen. -/
theorem Written.sameSeen_iff (written : files.Written name bytes number after) :
    files.SameSeen after ↔ files.Reads name bytes := by
  constructor
  · intro same
    obtain ⟨last, leads⟩ := written.leads
    exact written.reads_of_same leads (same last)
  · exact written.same_of_reads

/-- A new file under a free name. -/
theorem Written.of_missing (written : files.Written name bytes number after)
    (missing : files.slots name = none) : files.SameSeenBut name after := by
  intro other different
  apply written.frame
  · intro leads
    exact different (leads.of_missing missing)
  · intro isFile
    cases written with
    | found leads isThere slots contents =>
        obtain rfl := leads.of_missing missing
        rw [missing] at isThere
        cases isThere
    | made leads absent isNew slots contents =>
        have bound := files.bounded other number isFile
        omega

/-- A file of one name. -/
theorem Written.of_only (written : files.Written name bytes number after)
    (isFile : files.slots name = some (.file number))
    (only : ∀ other, other ≠ name → files.slots other ≠ some (.file number)) :
    files.SameSeenBut name after := by
  intro other different
  apply written.frame
  · intro leads
    exact different ((Leads.of_file isFile).unique leads)
  · exact only other different

/-- The file that a name stands for is the one that is written. -/
theorem Written.number_eq (written : files.Written name bytes number after) {found : Nat}
    (isFile : files.slots name = some (.file found)) :
    found = number ∧ after.slots = files.slots := by
  cases written with
  | found leads isThere slots contents =>
      obtain rfl := (Leads.of_file isFile).unique leads
      rw [isFile] at isThere
      cases isThere
      exact ⟨rfl, slots⟩
  | made leads missing isNew slots contents =>
      obtain rfl := (Leads.of_file isFile).unique leads
      rw [isFile] at missing
      cases missing

end Writing

/-! ## Replacing -/

/-- A temporary whose use changes nothing but the target: its name is free; or it is the target
itself, and nothing else shows its file or that had the content already; or both are names of
one file that had the content already. -/
inductive ReplacesOnly (files : OpenFiles Name) (temporary target : Name) (bytes : List UInt8) :
    Prop
  | free (missing : files.slots temporary = none)
  | already (same : temporary = target) (reads : files.Reads temporary bytes)
  | alone {number : Nat} (same : temporary = target)
      (isFile : files.slots temporary = some (.file number))
      (only : ∀ other, other ≠ temporary → files.slots other ≠ some (.file number))
  | joined {number : Nat} (isFile : files.slots temporary = some (.file number))
      (sameFile : files.slots target = some (.file number))
      (content : files.contents number = bytes)

theorem Renames.eq_of_same {files after : OpenFiles Name} {source target : Name}
    (renames : files.Renames source target after) (same : source = target) : after = files := by
  cases renames with
  | itself found same => rfl
  | same isFile sameFile => rfl
  | moved found apart different => exact absurd same apart

theorem Renames.eq_of_file {files after : OpenFiles Name} {source target : Name} {number : Nat}
    (renames : files.Renames source target after)
    (isFile : files.slots source = some (.file number))
    (sameFile : files.slots target = some (.file number)) : after = files := by
  cases renames with
  | itself found same => rfl
  | same isFile sameFile => rfl
  | @moved slot found apart different =>
      rw [isFile] at found
      exact absurd sameFile (different number (Option.some.inj found).symm)

section Replacing

variable {files middle after : OpenFiles Name} {temporary target : Name} {bytes : List UInt8}
  {number : Nat}

/-- Moving the temporary away leaves the names but it and the target. -/
theorem Renames.sameSeenBut (renames : middle.Renames temporary target after)
    (missing : files.slots temporary = none) (same : files.SameSeenBut temporary middle)
    (here : temporary = target ∨ middle.slots target ≠ middle.slots temporary) :
    files.SameSeenBut target after := by
  cases renames with
  | itself found isTarget =>
      rw [← isTarget]
      exact same
  | same isFile sameFile =>
      rcases here with isTarget | different
      · rw [← isTarget]
        exact same
      · exact absurd (sameFile.trans isFile.symm) different
  | moved found apart different =>
      intro other notTarget
      by_cases isTemporary : other = temporary
      · rw [isTemporary, seen_eq_none.mpr missing, seen_eq_none, move_slots, Function.update_self]
      · rw [← same other isTemporary]
        apply seen_congr
        · rw [move_slots, Function.update_of_ne isTemporary, Function.update_of_ne notTarget]
        · exact fun _ _ => rfl

/-- What has to hold before for nothing but the target to change. -/
theorem Written.replaces_only (written : files.Written temporary bytes number middle)
    (renames : middle.Renames temporary target after)
    (same : files.SameSeenBut target after) : files.ReplacesOnly temporary target bytes := by
  by_cases isTarget : temporary = target
  · obtain rfl := renames.eq_of_same isTarget
    subst isTarget
    obtain ⟨last, leads⟩ := written.leads
    by_cases isLast : last = temporary
    · subst isLast
      cases written with
      | found again isFile slots contents =>
          obtain rfl := leads.unique again
          by_cases isContent : files.contents number = bytes
          · exact .already rfl ((reads_iff leads).mpr ⟨number, isFile, isContent⟩)
          · refine .alone rfl isFile ?_
            intro other different isOther
            have isSeen := same other different
            rw [seen_of_file isOther, seen_of_file (slots ▸ isOther), contents,
              Function.update_self] at isSeen
            cases isSeen
            exact isContent rfl
      | made again missing isNew slots contents =>
          obtain rfl := leads.unique again
          exact .free missing
    · exact .already rfl (written.reads_of_same leads (same last isLast))
  · cases renames with
    | itself found isSame => exact absurd isSame isTarget
    | @same shared isFile sameFile =>
        cases written with
        | found leads isThere slots contents =>
            rw [slots] at isFile sameFile
            have reads := Written.reads_of_same (.found leads isThere slots contents)
              (.of_file isFile) (same temporary isTarget)
            obtain ⟨found, isFound, isContent⟩ := (reads_iff (.of_file isFile)).mp reads
            rw [isFile] at isFound
            cases isFound
            exact .joined isFile sameFile isContent
        | @made last leads missing isNew slots contents =>
            by_cases isLast : temporary = last
            · exact .free (isLast ▸ missing)
            · rw [slots, Function.update_of_ne isLast] at isFile
              exact absurd ((Leads.of_file isFile).unique leads).symm isLast
    | moved found apart different =>
        apply ReplacesOnly.free
        rw [← seen_eq_none, ← same temporary isTarget, seen_eq_none, move_slots,
          Function.update_self]

/-- A temporary that is written and becomes the target changes nothing else exactly if
`ReplacesOnly` holds before. -/
theorem Written.replaces_iff (written : files.Written temporary bytes number middle)
    (renames : middle.Renames temporary target after) :
    files.SameSeenBut target after ↔ files.ReplacesOnly temporary target bytes := by
  constructor
  · exact written.replaces_only renames
  · intro only
    cases only with
    | free missing =>
        refine renames.sameSeenBut missing (written.of_missing missing) ?_
        by_cases isTarget : temporary = target
        · exact .inl isTarget
        · apply Or.inr
          cases written with
          | found leads isFile slots contents =>
              obtain rfl := leads.of_missing missing
              rw [missing] at isFile
              cases isFile
          | made leads absent isNew slots contents =>
              obtain rfl := leads.of_missing missing
              rw [slots, Function.update_self, Function.update_of_ne (Ne.symm isTarget)]
              intro isFile
              have bound := files.bounded target number isFile
              omega
    | already isTarget reads =>
        obtain rfl := renames.eq_of_same isTarget
        exact fun other _ => written.same_of_reads reads other
    | alone isTarget isFile only =>
        obtain rfl := renames.eq_of_same isTarget
        obtain ⟨rfl, _⟩ := written.number_eq isFile
        rw [← isTarget]
        exact written.of_only isFile only
    | joined isFile sameFile content =>
        obtain ⟨rfl, slots⟩ := written.number_eq isFile
        obtain rfl := renames.eq_of_file (slots ▸ isFile) (slots ▸ sameFile)
        exact fun other _ => written.same_of_reads
          ((reads_iff (.of_file isFile)).mpr ⟨_, isFile, content⟩) other

end Replacing

end OpenFiles

end TriAI.Library
