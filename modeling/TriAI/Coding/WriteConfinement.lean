import TriAI.Coding.WrittenTree

/-!
Contract: where the writing tools of a project write (`coding_tools.rs`).

Owns: exactly when all that a call makes, opens and changes lies in the project.

Does not own: what the tree answers to the calls (`Coding.WrittenTree`).

The temporary is written beside the target, which for the root of the project is outside of it,
and `File::create` follows a link that has its name; both are the defect.
-/

set_option autoImplicit false

namespace TriAI.Coding

open TriAI.Library
open TriAI.Library.Interaction
open TriAI.Library.LinkTree
open TriAI.Library.LinkTree.Tree
open TriAI.Library.TextLines

/-! ## Confinement -/

/-- What a call changes, and the file that it opens to write it anew, lie in the project. -/
def WritesInProject (rootCanon : TreePlace) (before : LinkedTree) :
    (op : WriteOp) → op.Reply → LinkedTree → Prop
  | .create _, .ok place, after => rootCanon <+: place ∧ ChangesInside rootCanon before after
  | _, _, after => ChangesInside rootCanon before after

/-- No step of a call writes outside of the project. -/
def WritesConfined (process : UInt32) (tree : LinkedTree) (projectRoot : TreePath)
    (call : WriteCall) : Prop :=
  ∀ rootCanon, canonicalize tree projectRoot = .ok rootCanon →
    AlongRuns WriteAnswers (WritesInProject rootCanon) (call.run process tree projectRoot).run tree

/-! ## The condition -/

/-- The call comes to write a temporary for this path: its arguments are texts, the path is
accepted, and what is to be patched has the old text once. -/
def WriteCall.Reaches (tree : LinkedTree) (projectRoot : TreePath) (rootCanon : TreePlace)
    (path : TreePath) : WriteCall → Prop
  | .writeFile raw content => ∃ rel text,
      requiredStr "path" raw = .ok rel ∧ requiredStr "content" content = .ok text ∧
      IsRelative rel ∧ SafePath tree rootCanon (projectRoot ++ segments (components rel)) path
  | .patchFile raw old new => ∃ rel oldText newText place data patched,
      requiredStr "path" raw = .ok rel ∧ requiredStr "old" old = .ok oldText ∧
      requiredStr "new" new = .ok newText ∧
      IsRelative rel ∧ SafePath tree rootCanon (projectRoot ++ segments (components rel)) path ∧
      LeadsToFile tree path place (utf8Bytes data) ∧ patch data oldText newText = .ok patched

/-- Where the temporary of a path can be opened, it is in the project; and a path that is the root
itself leads to a directory or is its own temporary. -/
def TemporaryInside (process : UInt32) (tree : LinkedTree) (rootCanon : TreePlace)
    (path : TreePath) : Prop :=
  ∀ place after, Creates tree (temporaryPath process path) place after →
    rootCanon <+: place ∧ (path = segments rootCanon →
      tree.IsDirectory rootCanon ∨ temporaryPath process path = path)

/-- A call that writes a temporary writes it in the project. -/
def KeepsInside (process : UInt32) (tree : LinkedTree) (projectRoot : TreePath)
    (call : WriteCall) : Prop :=
  ∀ rootCanon, canonicalize tree projectRoot = .ok rootCanon → ∀ path,
    call.Reaches tree projectRoot rootCanon path → TemporaryInside process tree rootCanon path

/-! ## Programs -/

/-- Every step of the program stays in the project, whatever the tree answers. -/
def Writes.Confines {α : Type} (rootCanon : TreePlace) (program : Writes α) (tree : LinkedTree) :
    Prop :=
  wlp (guarding WriteAnswers (WritesInProject rootCanon)) program.run (fun _ _ => True) tree

namespace Writes

section Programs

variable {α β : Type} {rootCanon : TreePlace} {tree : LinkedTree} {context : String}
  {path source target : TreePath} {file : TreePlace} {bytes : List UInt8}

theorem confines_pure (value : α) : Confines rootCanon (pure value) tree := trivial

theorem confines_ofExcept {result : Except ToolFailure α} {rest : α → Writes β} :
    Confines rootCanon (ofExcept result >>= rest) tree ↔
      ∀ value, result = .ok value → Confines rootCanon (rest value) tree :=
  Fallible.wlp_run_check

theorem confines_createDirAll {rest : Unit → Writes α} :
    Confines rootCanon (createDirAll context path >>= rest) tree ↔
      (∀ reply after, WriteAnswers tree (.createDirAll path) reply after →
        ChangesInside rootCanon tree after) ∧
      ∀ after, WriteAnswers tree (.createDirAll path) (.ok ()) after →
        Confines rootCanon (rest ()) after := by
  constructor
  · exact fun confines => ⟨confines.1, fun after made => confines.2 (.ok ()) after made⟩
  · intro holds
    refine ⟨holds.1, ?_⟩
    intro reply after made
    cases reply with
    | error error => trivial
    | ok value => exact holds.2 after made

theorem confines_readToString {rest : String → Writes α} :
    Confines rootCanon (readToString context path >>= rest) tree ↔
      ∀ text place, LeadsToFile tree path place (utf8Bytes text) →
        Confines rootCanon (rest text) tree := by
  constructor
  · exact fun confines text place leads => confines.2 (.ok text) tree ⟨rfl, place, leads⟩
  · intro holds
    refine ⟨?_, ?_⟩
    · intro reply after answered
      cases reply with
      | error error => exact changesInside_of_same (congrArg lookup answered)
      | ok text => exact changesInside_of_same (congrArg lookup answered.1)
    · intro reply after answered
      cases reply with
      | error error => trivial
      | ok text =>
          obtain ⟨rfl, place, leads⟩ := answered
          exact holds text place leads

theorem confines_create {rest : TreePlace → Writes α} :
    Confines rootCanon (create context path >>= rest) tree ↔
      ∀ place after, Creates tree path place after →
        rootCanon <+: place ∧ Confines rootCanon (rest place) after := by
  constructor
  · intro confines place after creates
    exact ⟨(confines.1 (.ok place) after creates).1, confines.2 (.ok place) after creates⟩
  · intro holds
    refine ⟨?_, ?_⟩
    · intro reply after answered
      cases reply with
      | error error => exact changesInside_of_same (congrArg lookup answered)
      | ok place =>
          have inside := (holds place after answered).1
          exact ⟨inside, changesInside_of_update answered.lookup inside⟩
    · intro reply after answered
      cases reply with
      | error error => trivial
      | ok place => exact (holds place after answered).2

theorem confines_writeAll {rest : Unit → Writes α} (inside : rootCanon <+: file) :
    Confines rootCanon (writeAll context file bytes >>= rest) tree ↔
      ∀ after, WriteAnswers tree (.writeAll file bytes) (.ok ()) after →
        Confines rootCanon (rest ()) after := by
  constructor
  · exact fun confines after written => confines.2 (.ok ()) after written
  · intro holds
    refine ⟨?_, ?_⟩
    · intro reply after answered
      cases reply with
      | error error =>
          obtain ⟨content, front, _, _, isUpdate⟩ := answered
          exact changesInside_of_update isUpdate inside
      | ok value =>
          obtain ⟨content, _, isUpdate⟩ := answered
          exact changesInside_of_update isUpdate inside
    · intro reply after answered
      cases reply with
      | error error => trivial
      | ok value => exact holds after answered

theorem confines_rename :
    Confines rootCanon (rename context source target) tree ↔
      ∀ after, Renames tree source target after → ChangesInside rootCanon tree after := by
  constructor
  · exact fun confines after renames => confines.1 (.ok ()) after renames
  · intro holds
    refine ⟨?_, fun _ _ _ => trivial⟩
    intro reply after answered
    cases reply with
    | error error => exact changesInside_of_same (congrArg lookup answered)
    | ok value => exact holds after answered

/-- What is computed in the end changes nothing. -/
theorem confines_bind_pure {program : Writes α} {value : α → β} :
    Confines rootCanon (program >>= fun result => pure (value result)) tree ↔
      Confines rootCanon program tree := by
  unfold Confines
  rw [Fallible.wlp_run_bind]
  constructor
  · exact fun holds => wlp_mono holds fun _ _ _ => trivial
  · intro holds
    refine wlp_mono holds ?_
    intro reached after _
    cases reached with
    | ok result => trivial
    | error failure => trivial

end Programs

/-! ## The temporary and the target -/

section Targets

variable {process : UInt32} {tool : String} {tree after : LinkedTree} {rootCanon : TreePlace}
  {front : TreePath} {name : FileName} {content : List UInt8}

theorem temporaryPath_concat :
    temporaryPath process (front ++ [.name name]) =
      front ++ [.name (temporaryName process name)] := by
  simp [temporaryPath]

theorem segments_concat (place : TreePlace) :
    segments (place ++ [name]) = segments place ++ [.name name] := by simp [segments]

/-- The path is the root itself, which is an entry of its directory. -/
theorem eq_concat_of_segments (isRoot : front ++ [.name name] = segments rootCanon) :
    ∃ before, rootCanon = before ++ [name] ∧ front = segments before := by
  cases rootCanon using List.reverseRecOn with
  | nil => simp [segments] at isRoot
  | append_singleton before last =>
      rw [segments_concat] at isRoot
      obtain ⟨sameFront, sameLast⟩ := List.append_inj' isRoot rfl
      simp only [List.cons.injEq, Segment.name.injEq, and_true] at sameLast
      exact ⟨before, by rw [sameLast], sameFront⟩

/-- A temporary that is opened in the project becomes its target there. -/
theorem replaceTarget_confines
    (temporary : TemporaryInside process tree rootCanon (front ++ [.name name]))
    (beside : ∀ directory, canonicalize tree front = .ok directory → tree.IsDirectory directory →
      rootCanon <+: directory ∨ front ++ [.name name] = segments rootCanon) :
    Confines rootCanon (replaceTarget tool process (front ++ [.name name]) content) tree := by
  unfold replaceTarget
  rw [confines_create]
  intro place opened creates
  obtain ⟨inside, ofRoot⟩ := temporary place opened creates
  refine ⟨inside, (confines_writeAll inside).mpr ?_⟩
  intro written answered
  obtain ⟨before, isFile, isUpdate⟩ := answered
  rw [confines_rename, temporaryPath_concat]
  intro renamed renames
  obtain ⟨directory, node, arrives, isDirectory, found, replaces, moved⟩ := renames.inDirectory
  have back : KeepsWays written tree :=
    (keepsWays_back isUpdate).trans (keepsWays_back creates.lookup)
  rcases beside directory (canonicalize_kept back arrives isDirectory)
    (back.directory _ isDirectory) with insideLeft | isRoot
  · intro other differs
    rcases eq_of_moved moved differs with rfl | rfl
    · exact insideLeft.trans (List.prefix_append _ _)
    · exact insideLeft.trans (List.prefix_append _ _)
  · obtain ⟨above, rfl, rfl⟩ := eq_concat_of_segments isRoot
    rcases ofRoot isRoot with isDirectory | same
    · have rootStays : written.IsDirectory (above ++ [name]) :=
        isDirectory_update isUpdate (not_isDirectory_of_file isFile)
          (isDirectory_update creates.lookup creates.leaf isDirectory)
      have aboveStays : written.IsDirectory above := isDirectory_of_child rootStays
      obtain rfl := canonicalize_segments (.inl aboveStays) arrives
      exact absurd rootStays replaces
    · rw [temporaryPath_concat] at same
      have sameName := (List.append_inj' same rfl).2
      simp only [List.cons.injEq, Segment.name.injEq, and_true] at sameName
      rw [sameName, Function.update_idem, ← sameName] at moved
      apply changesInside_of_same
      rw [moved, sameName, ← found, sameName]
      exact Function.update_eq_self _ _

/-- Where a temporary is opened in the place of the root, the root is that place. -/
theorem eq_root_of_creates {path : TreePath} {place : TreePlace}
    (creates : Creates tree path place after) (inside : rootCanon <+: place)
    (noDirectory : ¬ tree.IsDirectory rootCanon) : place = rootCanon := by
  obtain ⟨below, rfl⟩ := inside
  by_cases empty : below = []
  · rw [empty, List.append_nil]
  · have opened : after.lookup (rootCanon ++ below) = some (.file []) := by
      rw [creates.lookup, Function.update_self]
    have isDirectory := isDirectory_of_below empty opened
    exact absurd ((keepsWays_back creates.lookup).directory _ isDirectory) noDirectory

/-- The temporary of a root that is a file: it is opened through a link, and when it becomes the
root the link beside it is gone. -/
theorem renames_beside_root {written : LinkedTree} {above : TreePlace} {temporary : FileName}
    {node : Node FileName (List UInt8)} {content : List UInt8}
    (isFile : written.lookup (above ++ [name]) = some (.file content))
    (beside : written.lookup (above ++ [temporary]) = some node) (noDirectory : node ≠ .directory)
    (differs : temporary ≠ name)
    (arrives : canonicalize written (segments above) = .ok above) :
    ∃ renamed, Renames written (segments above ++ [.name temporary])
        (segments above ++ [.name name]) renamed ∧
      ¬ ChangesInside (above ++ [name]) written renamed := by
  have isDirectory : written.IsDirectory above := isDirectory_of_child isFile
  have otherEntry : above ++ [temporary] ≠ above ++ [name] := by simpa using differs
  have sourceLeaf : ¬ written.IsDirectory (above ++ [temporary]) := by
    intro leaf
    unfold IsDirectory at leaf
    rw [beside, Option.some.injEq] at leaf
    exact noDirectory leaf
  obtain ⟨removed, isRemoved⟩ := exists_update written none
    (by rw [List.dropLast_concat]; exact isDirectory) sourceLeaf
  have stillFile : removed.lookup (above ++ [name]) = some (.file content) := by
    rw [isRemoved, Function.update_of_ne otherEntry.symm, isFile]
  obtain ⟨renamed, isRenamed⟩ := exists_update removed (some node)
    (by rw [List.dropLast_concat]; exact isDirectory_update isRemoved sourceLeaf isDirectory)
    (not_isDirectory_of_file stillFile)
  refine ⟨renamed, .moved
    ⟨List.getLast?_concat .., by rw [List.dropLast_concat]; exact arrives, isDirectory⟩
    ⟨List.getLast?_concat .., by rw [List.dropLast_concat]; exact arrives, isDirectory⟩
    beside noDirectory (not_isDirectory_of_file isFile) (by rw [isRenamed, isRemoved]), ?_⟩
  intro inside
  have isInside : above ++ [name] <+: above ++ [temporary] := by
    apply inside
    rw [isRenamed, Function.update_of_ne otherEntry, isRemoved, Function.update_self, beside]
    exact (Option.some_ne_none node).symm
  exact otherEntry (isInside.eq_of_length (by simp)).symm

/-- A temporary that stays in the project is opened there. -/
theorem temporaryInside_of_confines (isReal : tree.IsReal rootCanon)
    (confines : Confines rootCanon (replaceTarget tool process (front ++ [.name name]) content)
      tree) :
    TemporaryInside process tree rootCanon (front ++ [.name name]) := by
  unfold replaceTarget at confines
  rw [confines_create] at confines
  intro place opened creates
  obtain ⟨inside, afterwards⟩ := confines place opened creates
  refine ⟨inside, fun isRoot => ?_⟩
  by_contra neither
  obtain ⟨noDirectory, differs⟩ := not_or.mp neither
  obtain ⟨rootContent, rootFile⟩ := isReal.resolve_left noDirectory
  obtain rfl := eq_root_of_creates creates inside noDirectory
  obtain ⟨above, rfl, rfl⟩ := eq_concat_of_segments isRoot
  rw [temporaryPath_concat] at creates differs
  have otherName : temporaryName process name ≠ name := by simpa using differs
  have aboveDirectory : tree.IsDirectory above := isDirectory_of_child rootFile
  obtain ⟨directory, arrives, _, arrivesOpened, node, beside⟩ := creates.through
  obtain rfl := canonicalize_segments (.inl aboveDirectory) arrives
  have rootOpened : opened.lookup (directory ++ [name]) = some (.file []) := by
    rw [creates.lookup, Function.update_self]
  have noDirectoryBeside : node ≠ .directory := by
    rintro rfl
    have reached := creates.arrives
    rw [← segments_concat] at reached
    obtain same := canonicalize_segments (.inl beside) reached
    rw [same, beside] at rootOpened
    cases rootOpened
  have openedDirectory : opened.IsDirectory directory := isDirectory_of_child rootOpened
  obtain ⟨written, isWritten⟩ := exists_update opened
    (some (.file (content ++ ([] : List UInt8).drop content.length)))
    (by rw [List.dropLast_concat]; exact openedDirectory) (not_isDirectory_of_file rootOpened)
  have renamesInside := confines_rename.mp
    ((confines_writeAll inside).mp afterwards written ⟨[], rootOpened, isWritten⟩)
  have otherEntry : directory ++ [temporaryName process name] ≠ directory ++ [name] := by
    simpa using otherName
  have besideWritten :
      written.lookup (directory ++ [temporaryName process name]) = some node := by
    rw [isWritten, Function.update_of_ne otherEntry, beside]
  have rootWritten : written.lookup (directory ++ [name]) =
      some (.file (content ++ ([] : List UInt8).drop content.length)) := by
    rw [isWritten, Function.update_self]
  obtain ⟨noNul, _⟩ := canonicalize_eq_ok.mp arrivesOpened
  have arrivesWritten : canonicalize written (segments directory) = .ok directory :=
    canonicalize_eq_ok.mpr ⟨noNul, resolve_segments
      (.inl (isDirectory_of_child rootWritten : written.IsDirectory ([] ++ directory)))⟩
  obtain ⟨renamed, renames, outside⟩ := renames_beside_root rootWritten besideWritten
    noDirectoryBeside otherName arrivesWritten
  rw [temporaryPath_concat] at renamesInside
  exact outside (renamesInside renamed renames)

end Targets

end Writes

/-! ## Accepted paths -/

namespace SafePath

variable {tree after : LinkedTree} {projectRoot candidate path front base : TreePath}
  {rootCanon place directory : TreePlace} {name : FileName} {names others : List FileName}

/-- A path that is accepted is the root of the tree or ends with a name. -/
theorem ends (safe : SafePath tree rootCanon (projectRoot ++ segments names) path)
    (roots : canonicalize tree projectRoot = .ok rootCanon) :
    path = [] ∨ ∃ front name, path = front ++ [.name name] := by
  cases safe with
  | @present canon arrives inside =>
      cases canon using List.reverseRecOn with
      | nil => exact .inl rfl
      | append_singleton before name => exact .inr ⟨_, name, Writes.segments_concat before⟩
  | missing missing nearest inside =>
      cases names using List.reverseRecOn with
      | nil =>
          have whole : projectRoot ++ segments [] = projectRoot := List.append_nil projectRoot
          rw [whole, roots] at missing
          cases missing
      | append_singleton before name =>
          exact .inr ⟨projectRoot ++ segments before, name, by
            rw [Writes.segments_concat, List.append_assoc]⟩

/-- The directory of a path that is accepted lies in the project, unless the path is the root
itself. -/
theorem beside (safe : SafePath tree rootCanon candidate path)
    (isPath : path = front ++ [.name name]) (arrives : canonicalize tree front = .ok directory) :
    rootCanon <+: directory ∨ path = segments rootCanon := by
  cases safe with
  | @present canon leads inside =>
      obtain ⟨before, rfl, rfl⟩ := Writes.eq_concat_of_segments isPath.symm
      have isReal : tree.IsReal before := by
        rcases isReal_of_canonicalize leads with found | ⟨content, found⟩
        · exact .inl (isDirectory_of_child found)
        · exact .inl (isDirectory_of_child found)
      obtain rfl := canonicalize_segments isReal arrives
      rcases List.prefix_concat_iff.mp inside with isRoot | insideBefore
      · exact .inr (congrArg segments isRoot.symm)
      · exact .inl insideBefore
  | @missing existing missing nearest inside =>
      rw [isPath] at nearest missing
      have isNearest : existing = directory := by
        refine nearestExisting_eq arrives ?_ nearest
        intro more nonempty isPrefix other leads
        rcases List.prefix_cons_iff.mp isPrefix with empty | ⟨rest, whole, isRest⟩
        · exact nonempty empty
        · rw [whole, List.prefix_nil.mp isRest, missing] at leads
          cases leads
      exact .inl (isNearest ▸ inside)

/-- Directories are made for a missing path only, and in the project. -/
theorem makes (safe : SafePath tree rootCanon candidate path)
    (isPath : path = front ++ [.name name])
    (makes : MakesDirectories tree base place names after)
    (isFront : front = base ++ segments (names ++ others)) (noNul : front.any hasNul = false) :
    names = [] ∨ (rootCanon <+: place ∧ canonicalize tree path = .error .notFound) := by
  cases safe with
  | @present canon leads inside =>
      obtain ⟨before, rfl, rfl⟩ := Writes.eq_concat_of_segments isPath.symm
      have isReal : tree.IsReal ([] ++ before) := by
        rcases isReal_of_canonicalize leads with found | ⟨content, found⟩
        · exact .inl (isDirectory_of_child found)
        · exact .inl (isDirectory_of_child found)
      have arrives : canonicalize tree (segments before) = .ok before :=
        canonicalize_eq_ok.mpr ⟨noNul, resolve_segments isReal⟩
      rw [isFront] at arrives
      exact .inl (makes.names_eq_nil arrives)
  | missing missing nearest inside =>
      by_cases empty : names = []
      · exact .inl empty
      · refine .inr ⟨?_, missing⟩
        have whole : candidate = base ++ segments names ++ (segments others ++ [.name name]) := by
          rw [isPath, isFront]
          simp [segments]
        rw [whole] at nearest
        exact makes.inside_of_missing empty nearest inside

end SafePath

/-! ## Calls -/

section Calls

variable {process : UInt32} {tree after : LinkedTree} {projectRoot front base : TreePath}
  {rootCanon place : TreePlace} {path : TreePath} {name : FileName} {names : List FileName}

theorem TemporaryInside.of_lookup (same : after.lookup = tree.lookup)
    (temporary : TemporaryInside process tree rootCanon path) :
    TemporaryInside process after rootCanon path := by
  intro place opened creates
  have before : Creates tree (temporaryPath process path) place opened :=
    ⟨same ▸ creates.free, same ▸ creates.lookup, creates.arrives⟩
  unfold IsDirectory
  rw [same]
  exact temporary place opened before

/-- The root of the tree has no temporary. -/
theorem not_creates_root : ¬ Creates tree (temporaryPath process []) place after := by
  intro creates
  have isRoot : place = [] := by
    have arrives := (canonicalize_eq_ok.mp creates.arrives).2
    simp only [temporaryPath, List.getLast?_nil, resolve_nil] at arrives
    exact (Except.ok.inj arrives).symm
  exact creates.leaf (isRoot ▸ isDirectory_root)

/-- A temporary in a directory that has just been made is in the project. -/
theorem temporaryInside_of_made (makes : MakesDirectories tree base place names after)
    (nonempty : names ≠ []) (isFront : front = base ++ segments names)
    (noNul : front.any hasNul = false) (inside : rootCanon <+: place)
    (notRoot : front ++ [.name name] ≠ segments rootCanon) :
    TemporaryInside process after rootCanon (front ++ [.name name]) := by
  intro opened last creates
  refine ⟨?_, fun isRoot => absurd isRoot notRoot⟩
  rw [Writes.temporaryPath_concat] at creates
  obtain ⟨directory, arrives, _, _, node, found⟩ := creates.through
  have isMade := (makes.arrives_after (isFront ▸ noNul)).1
  rw [← isFront, arrives] at isMade
  obtain rfl := Except.ok.inj isMade
  rw [creates.lookup, Function.update_apply, makes.empty nonempty] at found
  split at found
  · rename_i isOpened
    rw [← isOpened]
    exact inside.trans ((List.prefix_append _ _).trans (List.prefix_append _ _))
  · cases found

/-- `create_dir_all` makes directories in the project only. -/
theorem createDirAll_changesInside {candidate : TreePath} {reply : Except String Unit}
    (safe : SafePath tree rootCanon candidate (front ++ [.name name]))
    (answered : WriteAnswers tree (.createDirAll front) reply after) :
    ChangesInside rootCanon tree after := by
  have made : after = tree ∨ ∃ base place names others,
      front = base ++ segments (names ++ others) ∧ front.any hasNul = false ∧
        MakesDirectories tree base place names after := by
    cases reply with
    | error error => exact answered
    | ok value =>
        obtain ⟨base, place, names, isFront, noNul, makes⟩ := answered
        exact .inr ⟨base, place, names, [], by rw [List.append_nil, isFront], noNul, makes⟩
  rcases made with rfl | ⟨base, place, names, others, isFront, noNul, makes⟩
  · exact changesInside_of_same rfl
  · rcases safe.makes rfl makes isFront noNul with rfl | ⟨inside, _⟩
    · exact changesInside_of_same makes.lookup_nil
    · exact makes.changesInside inside

/-- The temporary and its target after `create_dir_all`. -/
theorem replaceTarget_confines_of_made {tool : String} {content : List UInt8}
    {candidate : TreePath} (isReal : tree.IsReal rootCanon)
    (safe : SafePath tree rootCanon candidate (front ++ [.name name]))
    (temporary : TemporaryInside process tree rootCanon (front ++ [.name name]))
    (answered : WriteAnswers tree (.createDirAll front) (.ok ()) after) :
    Writes.Confines rootCanon (Writes.replaceTarget tool process (front ++ [.name name]) content)
      after := by
  obtain ⟨base, place, names, isFront, noNul, makes⟩ := answered
  by_cases empty : names = []
  · subst empty
    have same := makes.lookup_nil
    have back : KeepsWays after tree :=
      ⟨fun other isDirectory => by unfold IsDirectory at isDirectory ⊢; rwa [← same],
        fun other target isLink => by rwa [← same]⟩
    apply Writes.replaceTarget_confines (temporary.of_lookup same)
    intro directory arrives isDirectory
    exact safe.beside rfl (canonicalize_kept back arrives isDirectory)
  · have isParent : front = base ++ segments (names ++ []) := by rw [List.append_nil, isFront]
    obtain ⟨inside, missing⟩ := (safe.makes rfl makes isParent noNul).resolve_left empty
    have notRoot : front ++ [.name name] ≠ segments rootCanon := by
      intro isRoot
      rw [isRoot, canonicalize] at missing
      have whole : tree.resolve maxLinks [] (segments rootCanon) = .ok rootCanon :=
        resolve_segments (isReal : tree.IsReal ([] ++ rootCanon))
      rw [whole] at missing
      split at missing
      · cases missing
      · cases missing
    apply Writes.replaceTarget_confines
      (temporaryInside_of_made makes empty isFront noNul inside notRoot)
    intro directory arrives _
    have isMade := (makes.arrives_after (isFront ▸ noNul)).1
    rw [← isFront, arrives] at isMade
    obtain rfl := Except.ok.inj isMade
    exact .inl (inside.trans (List.prefix_append _ _))

/-- A directory that is there is made without a change. -/
theorem createDirAll_of_present (arrives : canonicalize tree front = .ok place)
    (isDirectory : tree.IsDirectory place) :
    WriteAnswers tree (.createDirAll front) (.ok ()) tree := by
  refine ⟨front, place, [], (List.append_nil front).symm, (canonicalize_eq_ok.mp arrives).1,
    arrives, isDirectory, by simp, ?_⟩
  intro other
  rw [if_neg]
  rintro ⟨below, differs, above⟩
  rw [List.append_nil] at above
  exact differs (above.eq_of_length_le below.length_le)

/-- `write_file`, where its path has been accepted. -/
theorem writeTarget_confines_iff {α : Type} {tool : String} {content : List UInt8} {value : α}
    (roots : canonicalize tree projectRoot = .ok rootCanon)
    (safe : SafePath tree rootCanon (projectRoot ++ segments names) path) :
    Writes.Confines rootCanon (Writes.makeParent path >>= fun _ =>
        Writes.replaceTarget tool process path content >>= fun _ => pure value) tree ↔
      TemporaryInside process tree rootCanon path := by
  rcases safe.ends roots with rfl | ⟨front, name, rfl⟩
  · constructor
    · exact fun _ place opened creates => absurd creates not_creates_root
    · intro _
      show Writes.Confines rootCanon
        (Writes.replaceTarget tool process [] content >>= fun _ => pure value) tree
      rw [Writes.confines_bind_pure, Writes.replaceTarget, Writes.confines_create]
      exact fun place opened creates => absurd creates not_creates_root
  · unfold Writes.makeParent
    rw [if_neg (by simp), List.dropLast_concat, Writes.confines_createDirAll]
    simp only [Writes.confines_bind_pure]
    constructor
    · intro confines place opened creates
      have through := creates
      rw [Writes.temporaryPath_concat] at through
      obtain ⟨directory, arrives, isDirectory, _⟩ := through.through
      exact Writes.temporaryInside_of_confines (isReal_of_canonicalize roots)
        (confines.2 tree (createDirAll_of_present arrives isDirectory)) place opened creates
    · intro temporary
      exact ⟨fun reply after answered => createDirAll_changesInside safe answered,
        fun after answered => replaceTarget_confines_of_made (isReal_of_canonicalize roots) safe
          temporary answered⟩

/-- `patch_file`, where its path has been accepted and its text read. -/
theorem patchTarget_confines_iff {α : Type} {tool : String} {content : List UInt8} {value : α}
    (roots : canonicalize tree projectRoot = .ok rootCanon)
    (safe : SafePath tree rootCanon (projectRoot ++ segments names) path) :
    Writes.Confines rootCanon
        (Writes.replaceTarget tool process path content >>= fun _ => pure value) tree ↔
      TemporaryInside process tree rootCanon path := by
  rw [Writes.confines_bind_pure]
  rcases safe.ends roots with rfl | ⟨front, name, rfl⟩
  · constructor
    · exact fun _ place opened creates => absurd creates not_creates_root
    · intro _
      rw [Writes.replaceTarget, Writes.confines_create]
      exact fun place opened creates => absurd creates not_creates_root
  · constructor
    · exact Writes.temporaryInside_of_confines (isReal_of_canonicalize roots)
    · intro temporary
      exact Writes.replaceTarget_confines temporary fun directory arrives _ =>
        safe.beside rfl arrives

/-- `write_file` stays in the project exactly if the temporary of its path does. -/
theorem writeFile_confines_iff (raw content : Option String)
    (roots : canonicalize tree projectRoot = .ok rootCanon) :
    Writes.Confines rootCanon (Writes.writeFile process tree projectRoot raw content) tree ↔
      ∀ path, (WriteCall.writeFile raw content).Reaches tree projectRoot rootCanon path →
        TemporaryInside process tree rootCanon path := by
  unfold Writes.writeFile
  simp only [Writes.confines_ofExcept, safePath_eq_ok, safeRelativePath_eq_ok]
  constructor
  · rintro confines path ⟨rel, text, isRel, isText, relative, safe⟩
    exact (writeTarget_confines_iff roots safe).mp
      (confines rel isRel text isText path ⟨relative, rootCanon, roots, safe⟩)
  · intro inside rel isRel text isText path accepted
    obtain ⟨relative, other, otherRoots, safe⟩ := accepted
    obtain rfl := Except.ok.inj (roots.symm.trans otherRoots)
    exact (writeTarget_confines_iff roots safe).mpr
      (inside path ⟨rel, text, isRel, isText, relative, safe⟩)

/-- `patch_file` stays in the project exactly if the temporary of a path that it patches does. -/
theorem patchFile_confines_iff (raw old new : Option String)
    (roots : canonicalize tree projectRoot = .ok rootCanon) :
    Writes.Confines rootCanon (Writes.patchFile process tree projectRoot raw old new) tree ↔
      ∀ path, (WriteCall.patchFile raw old new).Reaches tree projectRoot rootCanon path →
        TemporaryInside process tree rootCanon path := by
  have patches : ∀ (data oldText newText patched : String),
      (patch data oldText newText).mapError ToolFailure.message = .ok patched ↔
        patch data oldText newText = .ok patched := by
    intro data oldText newText patched
    cases patch data oldText newText with
    | ok other => simp [Except.mapError]
    | error message => simp [Except.mapError]
  unfold Writes.patchFile
  simp only [Writes.confines_ofExcept, Writes.confines_readToString, safePath_eq_ok,
    safeRelativePath_eq_ok, patches]
  constructor
  · rintro confines path ⟨rel, oldText, newText, place, data, patched, isRel, isOld, isNew, relative,
      safe, leads, isPatched⟩
    exact (patchTarget_confines_iff roots safe).mp
      (confines rel isRel oldText isOld newText isNew path ⟨relative, rootCanon, roots, safe⟩ data
        place leads patched isPatched)
  · intro inside rel isRel oldText isOld newText isNew path accepted data place leads patched
      isPatched
    obtain ⟨relative, other, otherRoots, safe⟩ := accepted
    obtain rfl := Except.ok.inj (roots.symm.trans otherRoots)
    exact (patchTarget_confines_iff roots safe).mpr
      (inside path ⟨rel, oldText, newText, place, data, patched, isRel, isOld, isNew, relative,
        safe, leads, isPatched⟩)

theorem writesConfined_iff (call : WriteCall) :
    WritesConfined process tree projectRoot call ↔
      ∀ rootCanon, canonicalize tree projectRoot = .ok rootCanon →
        Writes.Confines rootCanon (call.run process tree projectRoot) tree := by
  have replies : ∀ op : WriteOp, Nonempty op.Reply := by
    intro op
    cases op <;> exact ⟨.error ""⟩
  unfold WritesConfined Writes.Confines
  simp only [alongRuns_iff replies]

end Calls

/-- Exactly when the temporary of a call can be opened in the project only, the call writes in the
project only. -/
theorem writeCall_confined_iff (process : UInt32) (tree : LinkedTree) (projectRoot : TreePath)
    (call : WriteCall) :
    WritesConfined process tree projectRoot call ↔ KeepsInside process tree projectRoot call := by
  rw [writesConfined_iff]
  apply forall₂_congr
  intro rootCanon roots
  cases call with
  | writeFile path content => exact writeFile_confines_iff path content roots
  | patchFile path old new => exact patchFile_confines_iff path old new roots

/-! A project beside which there is nothing. -/

def lonelyEntries : List ((_ : TreePlace) × Node FileName (List UInt8)) :=
  [⟨[], .directory⟩, ⟨[utf8Bytes "project"], .directory⟩]

theorem nodup_lonelyEntries : lonelyEntries.keys.Nodup := by decide +kernel

theorem closed_lonelyEntries : Closed lonelyEntries := by decide +kernel

def lonelyTree : LinkedTree := .ofEntries nodup_lonelyEntries closed_lonelyEntries

/-- The path `.` writes the temporary beside the project. -/
theorem writeFile_escapes :
    ¬ WritesConfined 1 lonelyTree escapedRoot (.writeFile (some ".") (some "x")) := by
  intro confined
  have roots : canonicalize lonelyTree escapedRoot = .ok [utf8Bytes "project"] := by decide +kernel
  have inside := (writeFile_confines_iff (some ".") (some "x") roots).mp
    ((writesConfined_iff _).mp confined _ roots) (segments [utf8Bytes "project"])
    ⟨".", "x", by decide +kernel, by decide +kernel,
      ⟨by decide +kernel, by decide +kernel, by decide +kernel⟩,
      .present (by decide +kernel) List.prefix_rfl⟩
  have parent : lonelyTree.IsDirectory [utf8Bytes "project.tmp1"].dropLast := isDirectory_root
  have leaf : ¬ lonelyTree.IsDirectory [utf8Bytes "project.tmp1"] := by decide +kernel
  obtain ⟨after, isUpdate⟩ := exists_update lonelyTree (some (.file [])) parent leaf
  have opened : after.lookup ([] ++ [utf8Bytes "project.tmp1"]) = some (.file []) := by
    rw [isUpdate]
    exact Function.update_self ..
  have missing : lonelyTree.lookup [utf8Bytes "project.tmp1"] = none := by decide +kernel
  have isTemporary : temporaryPath 1 (segments [utf8Bytes "project"]) =
      [.name (utf8Bytes "project.tmp1")] := by decide +kernel
  have creates : Creates lonelyTree (temporaryPath 1 (segments [utf8Bytes "project"]))
      [utf8Bytes "project.tmp1"] after := by
    refine ⟨fun node found => ?_, isUpdate, ?_⟩
    · rw [missing] at found
      cases found
    · rw [isTemporary]
      exact canonicalize_eq_ok.mpr ⟨by decide +kernel, resolve_file opened⟩
  have outside := (inside _ after creates).1
  revert outside
  decide +kernel

end TriAI.Coding
