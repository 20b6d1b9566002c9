import TriAI.Coding.ProjectWrites
import TriAI.Coding.ReadConfinement

/-!
Contract: the tree that the writing tools of a project run on (`coding_tools.rs`).

Owns: what a tree with links answers to their calls and what becomes of it; which paths lead
where they led; the next ancestor of a missing path; and where missing directories are made.

Does not own: the tools (`Coding.ProjectWrites`), and other programs on the same tree.
-/

set_option autoImplicit false

namespace TriAI.Coding

open TriAI.Library
open TriAI.Library.Interaction
open TriAI.Library.LinkTree
open TriAI.Library.LinkTree.Tree
open TriAI.Library.TextLines

/-! ## What the tree answers -/

/-- Missing directories are made: the path leads to a directory up to some names, of which the
first is not there. -/
structure MakesDirectories (tree : LinkedTree) (front : TreePath) (place : TreePlace)
    (names : List FileName) (after : LinkedTree) : Prop where
  arrives : canonicalize tree front = .ok place
  isDirectory : tree.IsDirectory place
  missing : ∀ name, names.head? = some name → tree.lookup (place ++ [name]) = none
  lookup : ∀ other, after.lookup other =
    if place <+: other ∧ other ≠ place ∧ other <+: place ++ names then some .directory
    else tree.lookup other

/-- A file is opened to be written anew: the one that the path leads to, or one that is made
where the path leads to once it is there. -/
structure Creates (tree : LinkedTree) (path : TreePath) (place : TreePlace) (after : LinkedTree) :
    Prop where
  free : ∀ node, tree.lookup place = some node → ∃ content, node = .file content
  lookup : after.lookup = Function.update tree.lookup place (some (.file []))
  arrives : canonicalize after path = .ok place

/-- The entry that a path names, which is not followed itself. -/
structure NamesEntry (tree : LinkedTree) (path : TreePath) (directory : TreePlace)
    (name : FileName) : Prop where
  last : path.getLast? = some (.name name)
  arrives : canonicalize tree path.dropLast = .ok directory
  isDirectory : tree.IsDirectory directory

/-- An entry becomes another one. It is not a directory here, as it has been opened as a file,
and does not take the place of one. -/
inductive Renames (tree : LinkedTree) (source target : TreePath) (after : LinkedTree) : Prop
  | moved {left entered : TreePlace} {old new : FileName} {node : Node FileName (List UInt8)}
      (isSource : NamesEntry tree source left old) (isTarget : NamesEntry tree target entered new)
      (found : tree.lookup (left ++ [old]) = some node) (noDirectory : node ≠ .directory)
      (replaces : ¬ tree.IsDirectory (entered ++ [new]))
      (lookup : after.lookup = Function.update (Function.update tree.lookup (left ++ [old]) none)
        (entered ++ [new]) (some node)) : Renames tree source target after

/-- What a call does to the tree. Every call may fail: making directories when some of them are
there, a write when a front of its bytes is written, the others without a change. -/
def WriteAnswers (tree : LinkedTree) : (op : WriteOp) → op.Reply → LinkedTree → Prop
  | .createDirAll path, .ok (), after => ∃ front place names, path = front ++ segments names ∧
      path.any hasNul = false ∧ MakesDirectories tree front place names after
  | .createDirAll path, .error _, after => after = tree ∨ ∃ front place names others,
      path = front ++ segments (names ++ others) ∧ path.any hasNul = false ∧
        MakesDirectories tree front place names after
  | .readToString path, .ok text, after =>
      after = tree ∧ ∃ place, LeadsToFile tree path place (utf8Bytes text)
  | .create path, .ok place, after => Creates tree path place after
  | .writeAll file bytes, .ok (), after => ∃ content, tree.lookup file = some (.file content) ∧
      after.lookup =
        Function.update tree.lookup file (some (.file (bytes ++ content.drop bytes.length)))
  | .writeAll file bytes, .error _, after =>
      ∃ content front, tree.lookup file = some (.file content) ∧ front <+: bytes ∧
        after.lookup =
          Function.update tree.lookup file (some (.file (front ++ content.drop front.length)))
  | .rename source target, .ok (), after => Renames tree source target after
  | .readToString _, .error _, after | .create _, .error _, after
  | .rename _ _, .error _, after => after = tree

/-- All that differs lies in the project. -/
def ChangesInside (rootCanon : TreePlace) (before after : LinkedTree) : Prop :=
  ∀ place, after.lookup place ≠ before.lookup place → rootCanon <+: place

/-! ## Changes of a tree -/

section Trees

variable {tree after : LinkedTree} {path front : TreePath} {place directory : TreePlace}
  {name : FileName}

theorem changesInside_of_update {rootCanon : TreePlace} {node : Option (Node FileName (List UInt8))}
    (lookup : after.lookup = Function.update tree.lookup place node) (inside : rootCanon <+: place) :
    ChangesInside rootCanon tree after := by
  intro other differs
  rw [lookup, Function.update_apply] at differs
  split at differs
  · rename_i same
    exact same ▸ inside
  · exact absurd rfl differs

theorem changesInside_of_same {rootCanon : TreePlace} (same : after.lookup = tree.lookup) :
    ChangesInside rootCanon tree after := by
  intro other differs
  rw [same] at differs
  exact absurd rfl differs

/-- What is written leaves no new directory and no new link. -/
theorem keepsWays_back {content : List UInt8}
    (lookup : after.lookup = Function.update tree.lookup place (some (.file content))) :
    KeepsWays after tree where
  directory := by
    intro other isDirectory
    unfold IsDirectory at isDirectory ⊢
    rw [lookup, Function.update_apply] at isDirectory
    split at isDirectory
    · cases isDirectory
    · exact isDirectory
  link := by
    intro other target isLink
    rw [lookup, Function.update_apply] at isLink
    split at isLink
    · cases isLink
    · exact isLink

/-- A place that is no directory stays one that a directory can be beside. -/
theorem isDirectory_update {node : Option (Node FileName (List UInt8))}
    (lookup : after.lookup = Function.update tree.lookup place node)
    (leaf : ¬ tree.IsDirectory place) {other : TreePlace} (isDirectory : tree.IsDirectory other) :
    after.IsDirectory other := by
  have differs : other ≠ place := fun same => leaf (same ▸ isDirectory)
  unfold IsDirectory
  rw [lookup, Function.update_of_ne differs]
  exact isDirectory

theorem Creates.leaf (creates : Creates tree path place after) : ¬ tree.IsDirectory place := by
  intro isDirectory
  obtain ⟨content, isFile⟩ := creates.free _ isDirectory
  cases isFile

theorem canonicalize_kept (kept : KeepsWays tree after)
    (arrives : canonicalize tree path = .ok directory) (isDirectory : tree.IsDirectory directory) :
    canonicalize after path = .ok directory := by
  obtain ⟨noNul, resolves⟩ := canonicalize_eq_ok.mp arrives
  exact canonicalize_eq_ok.mpr ⟨noNul, kept.resolve resolves isDirectory⟩

/-- A file is opened through its directory, which was there before. -/
theorem Creates.through (creates : Creates tree (front ++ [.name name]) place after) :
    ∃ directory, canonicalize tree front = .ok directory ∧ tree.IsDirectory directory ∧
      canonicalize after front = .ok directory ∧
      ∃ node, after.lookup (directory ++ [name]) = some node := by
  obtain ⟨directory, arrives, isDirectory, member⟩ := canonicalize_concat creates.arrives
  have back := keepsWays_back creates.lookup
  exact ⟨directory, canonicalize_kept back arrives isDirectory, back.directory _ isDirectory,
    arrives, mem_children.mp member⟩

/-- An entry that becomes another one of the same directory. -/
theorem Renames.inDirectory {old new : FileName}
    (renames : Renames tree (front ++ [.name old]) (front ++ [.name new]) after) :
    ∃ directory node, canonicalize tree front = .ok directory ∧ tree.IsDirectory directory ∧
      tree.lookup (directory ++ [old]) = some node ∧ ¬ tree.IsDirectory (directory ++ [new]) ∧
      after.lookup = Function.update (Function.update tree.lookup (directory ++ [old]) none)
        (directory ++ [new]) (some node) := by
  obtain @⟨left, entered, oldName, newName, node, isSource, isTarget, found, _, replaces, moved⟩ :=
    renames
  have isOld := isSource.last
  have isNew := isTarget.last
  have leaves := isSource.arrives
  have arrives := isTarget.arrives
  rw [List.getLast?_concat, Option.some.injEq, Segment.name.injEq] at isOld isNew
  rw [List.dropLast_concat] at leaves arrives
  obtain rfl : left = entered := Except.ok.inj (leaves.symm.trans arrives)
  subst isOld isNew
  exact ⟨left, node, arrives, isTarget.isDirectory, found, replaces, moved⟩

/-- Only the two entries of a renaming change. -/
theorem eq_of_moved {first second other : TreePlace} {node : Node FileName (List UInt8)}
    (moved : after.lookup =
      Function.update (Function.update tree.lookup first none) second (some node))
    (differs : after.lookup other ≠ tree.lookup other) : other = second ∨ other = first := by
  rw [moved, Function.update_apply, Function.update_apply] at differs
  split at differs
  · exact .inl ‹_›
  · split at differs
    · exact .inr ‹_›
    · exact absurd rfl differs

/-- Nothing lies below nothing. -/
theorem lookup_below_none (missing : tree.lookup place = none) (below : TreePlace) :
    tree.lookup (place ++ below) = none := by
  by_contra found
  obtain ⟨node, isNode⟩ := Option.ne_none_iff_exists'.mp found
  by_cases empty : below = []
  · rw [empty, List.append_nil, missing] at isNode
    cases isNode
  · have isDirectory := isDirectory_of_below empty isNode
    unfold IsDirectory at isDirectory
    rw [missing] at isDirectory
    cases isDirectory

theorem canonicalize_front {back : TreePath}
    (arrives : canonicalize tree (front ++ back) = .ok place) :
    ∃ middle, canonicalize tree front = .ok middle := by
  obtain ⟨noNul, resolves⟩ := canonicalize_eq_ok.mp arrives
  rw [List.any_append, Bool.or_eq_false_iff] at noNul
  obtain ⟨middle, _, _, first, _⟩ := splits_of_resolve resolves front back rfl
  exact ⟨middle, canonicalize_eq_ok.mpr ⟨noNul.1, first⟩⟩

/-- A path through a missing entry leads nowhere. -/
theorem canonicalize_missing (arrives : canonicalize tree front = .ok directory)
    (missing : tree.lookup (directory ++ [name]) = none) (back : TreePath) :
    ∀ other, canonicalize tree (front ++ .name name :: back) ≠ .ok other := by
  intro other leads
  have whole : front ++ .name name :: back = front ++ [.name name] ++ back := by simp
  rw [whole] at leads
  obtain ⟨middle, through⟩ := canonicalize_front leads
  obtain ⟨here, hereToo, _, member⟩ := canonicalize_concat through
  rw [arrives] at hereToo
  obtain rfl := Except.ok.inj hereToo
  obtain ⟨node, found⟩ := mem_children.mp member
  rw [missing] at found
  cases found

/-! ## The next ancestor -/

theorem ancestors_concat (front : TreePath) (segment : Segment FileName) :
    (front ++ [segment]).inits.reverse.filter (· ≠ []) =
      (front ++ [segment]) :: front.inits.reverse.filter (· ≠ []) := by
  simp [List.inits_append]

theorem nearestExisting_present {segment : Segment FileName}
    (arrives : canonicalize tree (front ++ [segment]) = .ok place) :
    nearestExisting tree (front ++ [segment]) = some place := by
  unfold nearestExisting
  rw [ancestors_concat, List.findSome?_cons, arrives]
  rfl

theorem nearestExisting_absent {segment : Segment FileName}
    (nowhere : ∀ other, canonicalize tree (front ++ [segment]) ≠ .ok other) :
    nearestExisting tree (front ++ [segment]) = nearestExisting tree front := by
  unfold nearestExisting
  rw [ancestors_concat, List.findSome?_cons]
  cases leads : canonicalize tree (front ++ [segment]) with
  | ok other => exact absurd leads (nowhere other)
  | error error => rfl

/-- The next ancestor of a path is what its front leads to, if no more of it leads anywhere. -/
theorem nearestExisting_eq {back : TreePath} {existing : TreePlace}
    (arrives : canonicalize tree front = .ok directory)
    (beyond : ∀ more, more ≠ [] → more <+: back → ∀ other,
      canonicalize tree (front ++ more) ≠ .ok other)
    (found : nearestExisting tree (front ++ back) = some existing) : existing = directory := by
  induction back using List.reverseRecOn with
  | nil =>
      rw [List.append_nil] at found
      cases front using List.reverseRecOn with
      | nil => simp [nearestExisting] at found
      | append_singleton before segment =>
          rw [nearestExisting_present arrives] at found
          exact (Option.some.inj found).symm
  | append_singleton back segment inductionHypothesis =>
      have nowhere := beyond (back ++ [segment]) (by simp) List.prefix_rfl
      rw [← List.append_assoc] at nowhere found
      rw [nearestExisting_absent nowhere] at found
      apply inductionHypothesis _ found
      intro more nonempty isPrefix
      exact beyond more nonempty (isPrefix.trans (List.prefix_append _ _))

end Trees

/-! ## Directories -/

section Directories

variable {tree after : LinkedTree} {front path candidate : TreePath}
  {place rootCanon canon : TreePlace} {names : List FileName} {name : FileName}

theorem MakesDirectories.lookup_nil (makes : MakesDirectories tree front place [] after) :
    after.lookup = tree.lookup := by
  funext other
  rw [makes.lookup, if_neg]
  rintro ⟨below, differs, above⟩
  rw [List.append_nil] at above
  exact differs (above.eq_of_length_le below.length_le)

/-- No directory is missing on a path that leads somewhere. -/
theorem MakesDirectories.names_eq_nil {others : List FileName}
    (makes : MakesDirectories tree front place names after)
    (arrives : canonicalize tree (front ++ segments (names ++ others)) = .ok canon) :
    names = [] := by
  cases names with
  | nil => rfl
  | cons first rest =>
      exact absurd arrives (canonicalize_missing makes.arrives (makes.missing first rfl) _ canon)

/-- Below the first directory that is made there was nothing. -/
theorem MakesDirectories.wasNothing (makes : MakesDirectories tree front place names after)
    {other : TreePlace} (made : place <+: other ∧ other ≠ place ∧ other <+: place ++ names) :
    tree.lookup other = none := by
  obtain ⟨⟨below, rfl⟩, differs, above⟩ := made
  rw [List.prefix_append_right_inj] at above
  cases below with
  | nil => exact absurd (List.append_nil place) differs
  | cons first rest =>
      obtain ⟨back, rfl⟩ := above
      have whole : place ++ first :: rest = place ++ [first] ++ rest := by simp
      rw [whole]
      exact lookup_below_none (makes.missing first rfl) rest

theorem MakesDirectories.keepsWays (makes : MakesDirectories tree front place names after) :
    KeepsWays tree after where
  directory := by
    intro other isDirectory
    unfold IsDirectory
    rw [makes.lookup]
    split
    · rfl
    · exact isDirectory
  link := by
    intro other target isLink
    rw [makes.lookup, if_neg]
    · exact isLink
    · intro made
      rw [makes.wasNothing made] at isLink
      cases isLink

/-- The path leads to the last of the directories that are made. -/
theorem MakesDirectories.arrives_after (makes : MakesDirectories tree front place names after)
    (noNul : (front ++ segments names).any hasNul = false) :
    canonicalize after (front ++ segments names) = .ok (place ++ names) ∧
      after.IsDirectory (place ++ names) := by
  have isLast : after.IsDirectory (place ++ names) := by
    unfold IsDirectory
    rw [makes.lookup]
    split
    · rfl
    · rename_i made
      have isPlace : place ++ names = place := by
        by_contra differs
        exact made ⟨List.prefix_append _ _, differs, List.prefix_rfl⟩
      rw [isPlace]
      exact makes.isDirectory
  have here := canonicalize_kept makes.keepsWays makes.arrives makes.isDirectory
  refine ⟨canonicalize_eq_ok.mpr ⟨noNul, ?_⟩, isLast⟩
  exact resolve_append_segments (canonicalize_eq_ok.mp here).2
    (makes.keepsWays.directory _ makes.isDirectory) (.inl isLast)

/-- A directory that is new is empty. -/
theorem MakesDirectories.empty (makes : MakesDirectories tree front place names after)
    (nonempty : names ≠ []) : after.lookup (place ++ names ++ [name]) = none := by
  rw [makes.lookup, if_neg]
  · cases names with
    | nil => exact absurd rfl nonempty
    | cons first rest =>
        have whole : place ++ first :: rest ++ [name] = place ++ [first] ++ (rest ++ [name]) := by
          simp
        rw [whole]
        exact lookup_below_none (makes.missing first rfl) _
  · rintro ⟨_, _, above⟩
    have tooLong := above.length_le
    rw [List.length_append, List.length_singleton] at tooLong
    omega

/-- The directories for a path that is missing are made in the project. -/
theorem MakesDirectories.inside_of_missing {back : TreePath} {existing : TreePlace}
    (makes : MakesDirectories tree front place names after) (nonempty : names ≠ [])
    (nearest : nearestExisting tree (front ++ segments names ++ back) = some existing)
    (inside : rootCanon <+: existing) : rootCanon <+: place := by
  have isNearest : existing = place := by
    rw [List.append_assoc] at nearest
    refine nearestExisting_eq makes.arrives ?_ nearest
    intro more some isPrefix
    cases names with
    | nil => exact absurd rfl nonempty
    | cons first rest =>
        rcases List.prefix_cons_iff.mp isPrefix with empty | ⟨tail, whole, _⟩
        · exact absurd empty some
        · rw [whole]
          exact canonicalize_missing makes.arrives (makes.missing first rfl) tail
  exact isNearest ▸ inside

theorem MakesDirectories.changesInside (makes : MakesDirectories tree front place names after)
    (inside : rootCanon <+: place) : ChangesInside rootCanon tree after := by
  intro other differs
  rw [makes.lookup] at differs
  split at differs
  · rename_i made
    exact inside.trans made.1
  · exact absurd rfl differs

end Directories

end TriAI.Coding
