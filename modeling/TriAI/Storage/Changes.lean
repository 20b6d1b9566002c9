import TriAI.Storage.Calls

/-!
Contract: what the file calls change on a disk.

Owns: the bytes at a path; `WritesFile`, `Removes` and `Moves`, the three kinds of
change together with what they leave alone; the inversion of each call that
succeeds; and `ChangesWithin`, the changes that stay within a region.

Does not own: the calls.
-/

set_option autoImplicit false

namespace TriAI.Disk

open TriAI.Library.FileTree
open TriAI.Library.Interaction

/-- The bytes of the file at a path; none where there is no file. -/
def bytesAt (disk : Disk) (path : Path) : List UInt8 :=
  match disk.lookup path with
  | some (.file content) => content.bytes
  | _ => []

theorem bytesAt_file {disk : Disk} {path : Path} {content : ByteVec}
    (isFile : disk.lookup path = some (.file content)) : disk.bytesAt path = content.bytes := by
  simp [bytesAt, isFile]

theorem bytesAt_none {disk : Disk} {path : Path} (absent : disk.lookup path = none) :
    disk.bytesAt path = [] := by
  simp [bytesAt, absent]

theorem bytesAt_congr {before after : Disk} {path : Path}
    (same : after.lookup path = before.lookup path) : after.bytesAt path = before.bytesAt path := by
  simp only [bytesAt, same]

/-- `after` has a file with these bytes at `path` and is `before` elsewhere. -/
structure WritesFile (before : Disk) (path : Path) (bytes : List UInt8) (after : Disk) : Prop where
  file : ∃ content, after.lookup path = some (.file content) ∧ content.bytes = bytes
  frame : ∀ other, other ≠ path → after.lookup other = before.lookup other

theorem WritesFile.bytesAt {before after : Disk} {path : Path} {bytes : List UInt8}
    (writes : before.WritesFile path bytes after) : after.bytesAt path = bytes := by
  obtain ⟨content, isFile, same⟩ := writes.file
  rw [bytesAt_file isFile, same]

theorem WritesFile.trans {first second third : Disk} {path : Path} {old new : List UInt8}
    (left : first.WritesFile path old second) (right : second.WritesFile path new third) :
    first.WritesFile path new third where
  file := right.file
  frame := fun other different =>
    (right.frame other different).trans (left.frame other different)

theorem Puts.writesFile {before after : Disk} {path : Path} {content : ByteVec}
    (puts : before.Puts path (.file content) after) :
    before.WritesFile path content.bytes after where
  file := ⟨content, puts.put, rfl⟩
  frame := puts.frame

/-- A file as it is. -/
theorem WritesFile.refl {disk : Disk} {path : Path} {content : ByteVec}
    (isFile : disk.lookup path = some (.file content)) :
    disk.WritesFile path content.bytes disk where
  file := ⟨content, isFile, rfl⟩
  frame := fun _ _ => rfl

/-! ## Files

What each call can do: fail and change nothing, or succeed with its change. -/

theorem putFile_cases (disk : Disk) (path : Path) (content : ByteVec) :
    (∃ error, disk.putFile path content = (.error error, disk)) ∨
    ∃ after, disk.putFile path content = (.ok (), after) ∧
      disk.Puts path (.file content) after := by
  by_cases isDirectory : disk.lookup path = some .directory
  · exact .inl ⟨.isADirectory, dif_pos isDirectory⟩
  by_cases parent : disk.ParentIsDirectory path
  · exact .inr (putFile_ok content parent isDirectory)
  · refine .inl ⟨.notFound, ?_⟩
    unfold putFile
    rw [dif_neg isDirectory, dif_neg parent]

theorem putFile_eq_ok {before after : Disk} {path : Path} {content : ByteVec}
    (ran : before.putFile path content = (.ok (), after)) :
    before.Puts path (.file content) after := by
  rcases putFile_cases before path content with ⟨error, failed⟩ | ⟨written, succeeded, puts⟩
  · simp [failed] at ran
  · rw [succeeded] at ran
    rwa [← (Prod.mk.inj ran).2]

theorem openAppend_cases (disk : Disk) (path : Path) :
    (∃ error, disk.openAppend path = (.error error, disk)) ∨
    ∃ after, disk.openAppend path = (.ok (), after) ∧
      disk.WritesFile path (disk.bytesAt path) after := by
  unfold openAppend
  split
  · rename_i content isFile
    refine .inr ⟨disk, rfl, ?_⟩
    rw [bytesAt_file isFile]
    exact .refl isFile
  · exact .inl ⟨_, rfl⟩
  · rename_i absent
    rw [bytesAt_none absent]
    rcases putFile_cases disk path ⟨[], ByteVec.nil_fits⟩ with failed | ⟨after, ran, puts⟩
    · exact .inl failed
    · exact .inr ⟨after, ran, puts.writesFile⟩

theorem openAppend_eq_ok {before after : Disk} {path : Path}
    (ran : before.openAppend path = (.ok (), after)) :
    before.WritesFile path (before.bytesAt path) after := by
  rcases openAppend_cases before path with ⟨error, failed⟩ | ⟨opened, succeeded, writes⟩
  · simp [failed] at ran
  · rw [succeeded] at ran
    rwa [← (Prod.mk.inj ran).2]

theorem createNew_eq_ok {before after : Disk} {path : Path}
    (ran : before.createNew path = (.ok (), after)) :
    before.lookup path = none ∧ before.WritesFile path [] after := by
  unfold createNew at ran
  split at ran
  · simp at ran
  · rename_i absent
    exact ⟨absent, (putFile_eq_ok ran).writesFile⟩

theorem writeAll_cases (disk : Disk) (path : Path) (bytes : List UInt8) :
    (∃ error, disk.writeAll path bytes = (.error error, disk)) ∨
    ∃ after, disk.writeAll path bytes = (.ok (), after) ∧
      disk.WritesFile path (disk.bytesAt path ++ bytes) after := by
  unfold writeAll
  split
  · exact .inl ⟨_, rfl⟩
  · rename_i content isFile
    rw [bytesAt_file (read_eq_ok.mp isFile)]
    split
    · rename_i fits
      rcases putFile_cases disk path ⟨content.bytes ++ bytes, fits⟩ with failed | ⟨after, ran, puts⟩
      · exact .inl failed
      · exact .inr ⟨after, ran, puts.writesFile⟩
    · exact .inl ⟨_, rfl⟩

theorem writeAll_eq_ok {before after : Disk} {path : Path} {bytes : List UInt8}
    (ran : before.writeAll path bytes = (.ok (), after)) :
    before.WritesFile path (before.bytesAt path ++ bytes) after := by
  rcases writeAll_cases before path bytes with ⟨error, failed⟩ | ⟨written, succeeded, writes⟩
  · simp [failed] at ran
  · rw [succeeded] at ran
    rwa [← (Prod.mk.inj ran).2]

/-- `after` has nothing at `path` and is `before` elsewhere. -/
structure Removes (before : Disk) (path : Path) (after : Disk) : Prop where
  gone : after.lookup path = none
  frame : ∀ other, other ≠ path → after.lookup other = before.lookup other

theorem removeFile_cases (disk : Disk) (path : Path) :
    (∃ error, disk.removeFile path = (.error error, disk)) ∨
    ∃ after, disk.removeFile path = (.ok (), after) ∧ disk.Removes path after := by
  unfold removeFile
  split
  · rename_i content isFile
    refine .inr ⟨_, rfl, disk.lookup_removeSubtree_below (List.prefix_refl path), ?_⟩
    intro other different
    by_cases below : path <+: other
    · obtain ⟨suffix, rfl⟩ := below
      have proper : suffix ≠ [] := by
        intro empty
        simp [empty] at different
      rw [disk.lookup_removeSubtree_below (List.prefix_append _ _),
        disk.lookup_below_file proper isFile]
    · exact disk.lookup_removeSubtree_other below
  · exact .inl ⟨_, rfl⟩
  · exact .inl ⟨_, rfl⟩

/-- `after` has at `target` what was at `source`, nothing at `source`, and is
`before` elsewhere. -/
structure Moves (before : Disk) (source target : Path) (content : ByteVec) (after : Disk) :
    Prop where
  put : after.lookup target = some (.file content)
  gone : source ≠ target → after.lookup source = none
  frame : ∀ other, other ≠ source → other ≠ target → after.lookup other = before.lookup other

theorem rename_cases (disk : Disk) (source target : Path) :
    (∃ error, disk.rename source target = (.error error, disk)) ∨
    ∃ after content, disk.rename source target = (.ok (), after) ∧
      disk.lookup source = some (.file content) ∧ disk.Moves source target content after := by
  unfold rename
  split
  · exact .inl ⟨_, rfl⟩
  · rename_i content isFile
    have isFile := read_eq_ok.mp isFile
    split
    · rename_i same
      subst same
      exact .inr ⟨disk, content, rfl, isFile, isFile, absurd rfl, fun _ _ _ => rfl⟩
    · rename_i different
      rcases putFile_cases disk target content with ⟨error, failed⟩ | ⟨copied, ran, puts⟩
      · rw [failed]
        exact .inl ⟨error, rfl⟩
      · rw [ran]
        have stillFile : copied.lookup source = some (.file content) := by
          rw [puts.frame source different, isFile]
        rcases removeFile_cases copied source with ⟨error, failed⟩ | ⟨after, removed, removes⟩
        · simp [removeFile, stillFile] at failed
        · refine .inr ⟨after, content, removed, isFile, ?_, fun _ => removes.gone, ?_⟩
          · rw [removes.frame target (Ne.symm different), puts.put]
          · intro other notSource notTarget
            rw [removes.frame other notSource, puts.frame other notTarget]

/-- A file can be renamed into a directory. -/
theorem rename_ok {disk : Disk} {source target : Path} {content : ByteVec}
    (isFile : disk.lookup source = some (.file content)) (parent : disk.ParentIsDirectory target)
    (notDirectory : disk.lookup target ≠ some .directory) :
    ∃ after, disk.rename source target = (.ok (), after) ∧
      disk.Moves source target content after := by
  rcases rename_cases disk source target with ⟨error, failed⟩ | ⟨after, found, ran, same, moves⟩
  · unfold rename at failed
    rw [read_eq_ok.mpr isFile] at failed
    by_cases same : source = target
    · simp [same] at failed
    · obtain ⟨copied, put, puts⟩ := putFile_ok content parent notDirectory
      have stillFile : copied.lookup source = some (.file content) := by
        rw [puts.frame source same, isFile]
      simp [same, put, removeFile, stillFile] at failed
  · rw [isFile] at same
    cases same
    exact ⟨after, ran, moves⟩

/-- Whatever a path names lies in a directory. -/
theorem parentIsDirectory_of_lookup {disk : Disk} {path : Path} {entry : Entry}
    (nonempty : path ≠ []) (found : disk.lookup path = some entry) :
    disk.ParentIsDirectory path := by
  refine ⟨nonempty, ?_⟩
  rw [← List.dropLast_append_getLast nonempty] at found
  exact disk.parents _ _ _ found

/-- A file in a directory can be opened for appending. -/
theorem openAppend_ok {disk : Disk} {path : Path} (parent : disk.ParentIsDirectory path)
    (notDirectory : disk.lookup path ≠ some .directory) :
    ∃ after, disk.openAppend path = (.ok (), after) := by
  unfold openAppend
  split
  · exact ⟨disk, rfl⟩
  · rename_i isDirectory
    exact absurd isDirectory notDirectory
  · obtain ⟨after, ran, _⟩ := putFile_ok ⟨[], ByteVec.nil_fits⟩ parent notDirectory
    exact ⟨after, ran⟩

/-- A file can be written as far as file sizes go. -/
theorem writeAll_ok {disk : Disk} {path : Path} {content : ByteVec} {bytes : List UInt8}
    (nonempty : path ≠ []) (isFile : disk.lookup path = some (.file content))
    (room : (content.bytes ++ bytes).length < 2 ^ 63) :
    ∃ after, disk.writeAll path bytes = (.ok (), after) := by
  have parent := parentIsDirectory_of_lookup nonempty isFile
  have notDirectory : disk.lookup path ≠ some .directory := by simp [isFile]
  obtain ⟨after, ran, _⟩ := putFile_ok ⟨content.bytes ++ bytes, room⟩ parent notDirectory
  unfold writeAll
  rw [read_eq_ok.mpr isFile]
  simp only
  rw [dif_pos room]
  exact ⟨after, ran⟩

/-! ## Regions -/

/-- `after` is `before` outside a region, and has no directory more. -/
structure ChangesWithin (region : Path → Prop) (before after : Disk) : Prop where
  frame : ∀ path, ¬ region path → after.lookup path = before.lookup path
  directories : ∀ path, after.lookup path = some .directory → before.lookup path = some .directory

namespace ChangesWithin

variable {region : Path → Prop}

theorem refl (disk : Disk) : disk.ChangesWithin region disk :=
  ⟨fun _ _ => rfl, fun _ isDirectory => isDirectory⟩

theorem trans {first second third : Disk} (left : first.ChangesWithin region second)
    (right : second.ChangesWithin region third) : first.ChangesWithin region third where
  frame := fun path outside => (right.frame path outside).trans (left.frame path outside)
  directories := fun path isDirectory => left.directories path (right.directories path isDirectory)

theorem mono {larger : Path → Prop} {before after : Disk}
    (changes : before.ChangesWithin region after) (wider : ∀ path, region path → larger path) :
    before.ChangesWithin larger after where
  frame := fun path outside => changes.frame path fun inside => outside (wider path inside)
  directories := changes.directories

theorem of_writesFile {before after : Disk} {path : Path} {bytes : List UInt8}
    (writes : before.WritesFile path bytes after) (inside : region path) :
    before.ChangesWithin region after where
  frame := fun other outside => writes.frame other fun same => outside (same ▸ inside)
  directories := fun other isDirectory => by
    by_cases same : other = path
    · obtain ⟨content, isFile, _⟩ := writes.file
      simp [same, isFile] at isDirectory
    · rwa [← writes.frame other same]

theorem of_puts {before after : Disk} {path : Path} {content : ByteVec}
    (puts : before.Puts path (.file content) after) (inside : region path) :
    before.ChangesWithin region after :=
  of_writesFile puts.writesFile inside

theorem of_removes {before after : Disk} {path : Path} (removes : before.Removes path after)
    (inside : region path) : before.ChangesWithin region after where
  frame := fun other outside => removes.frame other fun same => outside (same ▸ inside)
  directories := fun other isDirectory => by
    by_cases same : other = path
    · simp [same, removes.gone] at isDirectory
    · rwa [← removes.frame other same]

theorem of_moves {before after : Disk} {source target : Path} {content : ByteVec}
    (moves : before.Moves source target content after) (fromInside : region source)
    (toInside : region target) : before.ChangesWithin region after where
  frame := fun other outside => moves.frame other (fun same => outside (same ▸ fromInside))
    fun same => outside (same ▸ toInside)
  directories := fun other isDirectory => by
    by_cases isTarget : other = target
    · simp [isTarget, moves.put] at isDirectory
    · by_cases isSource : other = source
      · rw [isSource, moves.gone fun same => isTarget (isSource.trans same)] at isDirectory
        simp at isDirectory
      · rwa [← moves.frame other isSource isTarget]

end ChangesWithin

/-! ## Directories -/

/-- The names in a directory. -/
theorem readDir_eq {disk : Disk} {path : Path} (isDirectory : disk.lookup path = some .directory) :
    ∃ names, disk.readDir path = .ok names ∧
      ∀ name, name ∈ names ↔ ∃ entry, disk.lookup (path ++ [name]) = some entry := by
  unfold readDir
  rw [isDirectory]
  refine ⟨_, rfl, fun name => ?_⟩
  have isKey : ∀ key, key ∈ disk.entries.keys ↔ ∃ entry, disk.lookup key = some entry := by
    intro key
    rw [← Option.isSome_iff_exists]
    exact AList.lookup_isSome.symm
  constructor
  · intro member
    obtain ⟨key, present, isName⟩ := List.mem_filterMap.mp member
    split at isName
    · rename_i directly
      have whole : path ++ [name] = key := by
        rw [← directly]
        exact List.dropLast_append_getLast? name isName
      rw [whole]
      exact (isKey key).mp present
    · simp at isName
  · intro found
    apply List.mem_filterMap.mpr
    exact ⟨path ++ [name], (isKey _).mpr found, by simp⟩

/-- There is nothing to create on the way to a directory. -/
theorem createDirAllBelow_of_directory {disk : Disk} {done path : Path}
    (isDirectory : disk.lookup (done ++ path) = some .directory) :
    disk.createDirAllBelow done path = (.ok (), disk) := by
  induction path generalizing done with
  | nil => rfl
  | cons name rest inductionHypothesis =>
      have whole : done ++ name :: rest = done ++ [name] ++ rest := by simp
      rw [whole] at isDirectory
      have onTheWay : disk.lookup (done ++ [name]) = some .directory := by
        by_cases last : rest = []
        · simpa [last] using isDirectory
        · exact disk.lookup_prefix last isDirectory
      unfold createDirAllBelow
      rw [onTheWay]
      exact inductionHypothesis isDirectory

theorem createDirAll_of_directory {disk : Disk} {path : Path}
    (isDirectory : disk.lookup path = some .directory) :
    disk.createDirAll path = (.ok (), disk) :=
  createDirAllBelow_of_directory isDirectory

/-- Where nothing is, a directory is created below an existing one. -/
theorem createDir_ok {disk : Disk} {path : Path} (parent : disk.ParentIsDirectory path)
    (absent : disk.lookup path = none) :
    ∃ after, disk.createDir path = (.ok (), after) ∧ disk.Puts path .directory after := by
  obtain ⟨_, after, ran, puts⟩ := (decides_createDir disk path).succeeds ⟨absent, parent⟩
  exact ⟨after, Fallible.outcome_attempt_eq ran, puts⟩

/-- A directory can be made where no file is on the way. -/
theorem createDirAllBelow_ok {disk : Disk} {done path : Path}
    (start : disk.lookup done = some .directory)
    (free : ∀ front content, front <+: done ++ path → disk.lookup front ≠ some (.file content)) :
    ∃ after, disk.createDirAllBelow done path = (.ok (), after) ∧
      after.lookup (done ++ path) = some .directory := by
  induction path generalizing disk done with
  | nil => exact ⟨disk, rfl, by rwa [List.append_nil]⟩
  | cons name rest inductionHypothesis =>
      have whole : done ++ name :: rest = done ++ [name] ++ rest := by simp
      rw [whole] at free ⊢
      unfold createDirAllBelow
      cases found : disk.lookup (done ++ [name]) with
      | some entry =>
          cases entry with
          | directory => exact inductionHypothesis found free
          | file content => exact absurd found (free _ content (List.prefix_append _ _))
      | none =>
          have parent : disk.ParentIsDirectory (done ++ [name]) :=
            ⟨by simp, by simpa using start⟩
          obtain ⟨created, ran, puts⟩ := createDir_ok parent found
          simp only [ran]
          apply inductionHypothesis puts.put
          intro front content isFront isFile
          by_cases same : front = done ++ [name]
          · rw [same, puts.put] at isFile
            cases isFile
          · rw [puts.frame front same] at isFile
            exact free front content isFront isFile

theorem createDir_frame {disk : Disk} {path other : Path} (different : other ≠ path) :
    (disk.createDir path).2.lookup other = disk.lookup other := by
  unfold createDir
  split
  · rfl
  · split
    · rename_i parent
      have accepts : disk.Accepts path .directory := parent.accepts fun _ => rfl
      exact disk.lookup_put_other .directory accepts different
    · rfl

/-- Directories are created on the way only: everything else stays. -/
theorem createDirAllBelow_frame {disk : Disk} {done path other : Path}
    (apart : ¬ other <+: done ++ path) :
    (disk.createDirAllBelow done path).2.lookup other = disk.lookup other := by
  induction path generalizing disk done with
  | nil => rfl
  | cons name rest inductionHypothesis =>
      have whole : done ++ name :: rest = done ++ [name] ++ rest := by simp
      rw [whole] at apart
      have different : other ≠ done ++ [name] := by
        intro same
        exact apart (same ▸ List.prefix_append _ _)
      have kept : (disk.createDir (done ++ [name])).2.lookup other = disk.lookup other :=
        createDir_frame different
      unfold createDirAllBelow
      split
      · exact inductionHypothesis apart
      · rfl
      · split
        · rename_i created ran
          rw [ran] at kept
          rw [inductionHypothesis apart, kept]
        · rename_i error unchanged ran
          rw [ran] at kept
          exact kept

theorem createDirAll_frame {disk : Disk} {path other : Path} (apart : ¬ other <+: path) :
    (disk.createDirAll path).2.lookup other = disk.lookup other :=
  createDirAllBelow_frame (by simpa using apart)

end TriAI.Disk

namespace TriAI.Storage

open TriAI.Library.FileTree
open TriAI.Library.Interaction

/-- The paths at which a call may change a file. -/
def StoreOp.writes : StoreOp → List Path
  | .createNew path | .openAppend path | .create path | .writeAll path _ | .removeFile path =>
      [path]
  | .syncAll path => [path]
  | .rename source target => [source, target]
  | .copy _ target => [target]
  | _ => []

/-- A call that creates no directories and only writes within a region. -/
def StoreOp.WritesWithin (region : Path → Prop) (op : StoreOp) : Prop :=
  (∀ path, op ≠ .createDirAll path) ∧ ∀ path ∈ op.writes, region path

/-- Frame of one call. -/
theorem StoreOp.WritesWithin.apply {region : Path → Prop} {op : StoreOp}
    (within : op.WritesWithin region) (tool : Sha256sum) (disk : Disk) :
    disk.ChangesWithin region (op.apply tool disk).2 := by
  have put : ∀ path content, region path →
      disk.ChangesWithin region (disk.putFile path content).2 := by
    intro path content inside
    rcases disk.putFile_cases path content with ⟨error, failed⟩ | ⟨after, ran, puts⟩
    · rw [failed]
      exact .refl disk
    · rw [ran]
      exact .of_puts puts inside
  cases op with
  | createDirAll path => exact absurd rfl (within.1 path)
  | createNew path =>
      have inside : region path := within.2 path (by simp [writes])
      show disk.ChangesWithin region (disk.createNew path).2
      unfold Disk.createNew
      split
      · exact .refl disk
      · exact put path _ inside
  | openAppend path =>
      have inside : region path := within.2 path (by simp [writes])
      show disk.ChangesWithin region (disk.openAppend path).2
      rcases disk.openAppend_cases path with ⟨error, failed⟩ | ⟨after, ran, writes⟩
      · rw [failed]
        exact .refl disk
      · rw [ran]
        exact .of_writesFile writes inside
  | create path => exact put path _ (within.2 path (by simp [writes]))
  | writeAll path bytes =>
      have inside : region path := within.2 path (by simp [writes])
      show disk.ChangesWithin region (disk.writeAll path bytes).2
      rcases disk.writeAll_cases path bytes with ⟨error, failed⟩ | ⟨after, ran, writes⟩
      · rw [failed]
        exact .refl disk
      · rw [ran]
        exact .of_writesFile writes inside
  | removeFile path =>
      have inside : region path := within.2 path (by simp [writes])
      show disk.ChangesWithin region (disk.removeFile path).2
      rcases disk.removeFile_cases path with ⟨error, failed⟩ | ⟨after, ran, removes⟩
      · rw [failed]
        exact .refl disk
      · rw [ran]
        exact .of_removes removes inside
  | rename source target =>
      have fromInside : region source := within.2 source (by simp [writes])
      have toInside : region target := within.2 target (by simp [writes])
      show disk.ChangesWithin region (disk.rename source target).2
      rcases disk.rename_cases source target with ⟨error, failed⟩ | ⟨after, content, ran, _, moves⟩
      · rw [failed]
        exact .refl disk
      · rw [ran]
        exact .of_moves moves fromInside toInside
  | copy source target =>
      have inside : region target := within.2 target (by simp [writes])
      show disk.ChangesWithin region (disk.copy source target).2
      unfold Disk.copy
      split
      · exact .refl disk
      · exact put target _ inside
  | _ => exact .refl disk

namespace Store

variable {ε α : Type}

/-- A call within a region, whose operation `op` is performed at once. -/
theorem only_perform {region : Path → Prop} (op : StoreOp) {next : op.Reply → Except ε α}
    (noDirectory : ∀ path, op ≠ .createDirAll path) (inside : ∀ path ∈ op.writes, region path) :
    Fallible.Only (StoreOp.WritesWithin region)
      (ExceptT.mk (Prog.call op fun reply => .ret (next reply)) : Store ε α) :=
  ⟨⟨noDirectory, inside⟩, fun _ => trivial⟩

/-- A call that writes nothing. -/
theorem only_read {region : Path → Prop} (op : StoreOp) {next : op.Reply → Except ε α}
    (noDirectory : ∀ path, op ≠ .createDirAll path) (reads : op.writes = []) :
    Fallible.Only (StoreOp.WritesWithin region)
      (ExceptT.mk (Prog.call op fun reply => .ret (next reply)) : Store ε α) :=
  only_perform op noDirectory (by simp [reads])

end Store

end TriAI.Storage
