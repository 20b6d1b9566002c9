import TriAI.Library.LinkTree
import TriAI.Library.TextLines

/-!
Contract: the paths that the tools of a project accept (`safe_relative_path`).

Owns: the tree that a project lies in; `canonicalize` on it; `safe_relative_path` with the
texts of its errors; and where the path lies that it returns.

Does not own: permissions, the limits on the length of names and paths, and what is done with
the path. The path of the project is an absolute one.
-/

set_option autoImplicit false

namespace TriAI.Coding

open TriAI.Library.LinkTree
open TriAI.Library.LinkTree.Tree
open TriAI.Library.TextLines

/-- The name of an entry. -/
abbrev FileName : Type := List UInt8

/-- A path from the root of the tree. -/
abbrev TreePath : Type := List (Segment FileName)

/-- A place in the tree, which is a path without links. -/
abbrev TreePlace : Type := List FileName

/-- A tree of files with their contents. -/
abbrev LinkedTree : Type := Tree FileName (List UInt8)

/-- What following a path can fail with. -/
inductive PathError where
  | notFound
  | notADirectory
  | tooManyLinks
  | nulByte
deriving DecidableEq

/-- The text of an error of the operating system. -/
def PathError.text : PathError → String
  | .notFound => "No such file or directory (os error 2)"
  | .notADirectory => "Not a directory (os error 20)"
  | .tooManyLinks => "Too many levels of symbolic links (os error 40)"
  | .nulByte => "file name contained an unexpected NUL byte"

def PathError.ofResolve : ResolveError → PathError
  | .notFound => .notFound
  | .notADirectory => .notADirectory
  | .tooManyLinks => .tooManyLinks

/-- How many links the system follows on a path. -/
def maxLinks : Nat := 40

def hasNul : Segment FileName → Bool
  | .name name => decide (0 ∈ name)
  | .parent => false

/-- `fs::canonicalize`. -/
def canonicalize (tree : LinkedTree) (path : TreePath) : Except PathError TreePlace :=
  if path.any hasNul then .error .nulByte
  else (tree.resolve maxLinks [] path).mapError .ofResolve

/-! ## `safe_relative_path` -/

def slash : UInt8 := 47

/-- `.` and `..`. -/
def currentDir : FileName := [46]

def parentDir : FileName := [46, 46]

/-- The parts of a relative path between its slashes; `Path::components` drops the empty ones,
and `.` is ignored. -/
def components (raw : String) : List FileName :=
  ((utf8Bytes raw).splitOn slash).filter fun part => part ≠ [] ∧ part ≠ currentDir

/-- What the next ancestor of a path resolves to, beginning with the path. The root of the tree
has no parent and is not tried. -/
def nearestExisting (tree : LinkedTree) (candidate : TreePath) : Option TreePlace :=
  (candidate.inits.reverse.filter (· ≠ [])).findSome? fun probe =>
    (canonicalize tree probe).toOption

def leavesRoot : String := "Pfad verlässt die Projektwurzel"

/-- The end of `safe_relative_path`: the target or, if it is missing, its next ancestor is to lie
in the project. -/
def checkTarget (tree : LinkedTree) (rootCanon : TreePlace) (candidate : TreePath) :
    Except String TreePath :=
  match canonicalize tree candidate with
  | .ok canon => if rootCanon <+: canon then .ok (segments canon) else .error leavesRoot
  | .error .notFound =>
      match nearestExisting tree candidate with
      | some existing => if rootCanon <+: existing then .ok candidate else .error leavesRoot
      | none => .error (PathError.text .notFound)
  | .error e => .error s!"Pfad nicht auflösbar: {e.text}"

/-- `safe_relative_path`. Parts that are all dropped stand for the root itself, so the check
for an empty path is never reached. -/
def safeRelativePath (tree : LinkedTree) (projectRoot : TreePath) (raw : String) :
    Except String TreePath :=
  if raw = "" then .error "Pfad darf nicht leer sein"
  else if (utf8Bytes raw).head? = some slash then
    .error "Pfad muss relativ zur Projektwurzel sein"
  else if parentDir ∈ components raw then .error "Pfad darf kein '..' oder '/' enthalten"
  else
    match canonicalize tree projectRoot with
    | .error e => .error s!"Projektwurzel nicht auflösbar: {e.text}"
    | .ok rootCanon =>
        if components raw = [] then .ok (segments rootCanon)
        else checkTarget tree rootCanon (projectRoot ++ segments (components raw))

/-! ## Where paths lead -/

section Canonicalize

variable {tree : LinkedTree} {path front : TreePath} {place : TreePlace} {name : FileName}

theorem canonicalize_eq_ok :
    canonicalize tree path = .ok place ↔
      path.any hasNul = false ∧ tree.resolve maxLinks [] path = .ok place := by
  unfold canonicalize
  cases nul : path.any hasNul with
  | true => simp
  | false =>
      cases resolves : tree.resolve maxLinks [] path with
      | error error => simp [Except.mapError]
      | ok reached => simp [Except.mapError]

/-- A path arrives at a directory or a file. -/
theorem isReal_of_canonicalize (arrives : canonicalize tree path = .ok place) :
    tree.IsReal place :=
  isReal_of_resolve isDirectory_root (canonicalize_eq_ok.mp arrives).2

/-- A path that goes on to an entry arrives through the directory of the entry. -/
theorem canonicalize_concat
    (arrives : canonicalize tree (front ++ [.name name]) = .ok place) :
    ∃ directory, canonicalize tree front = .ok directory ∧ tree.IsDirectory directory ∧
      name ∈ tree.children directory := by
  obtain ⟨noNul, resolves⟩ := canonicalize_eq_ok.mp arrives
  rw [List.any_append, Bool.or_eq_false_iff] at noNul
  obtain ⟨directory, left, fewer, first, second⟩ :=
    splits_of_resolve resolves front [.name name] rfl
  have found : ∃ node, tree.lookup (directory ++ [name]) = some node := by
    rcases resolve_name_eq_ok second with ⟨isDirectory, _⟩ | ⟨⟨content, isFile⟩, _⟩ |
      ⟨_, target, _, isLink, _⟩
    · exact ⟨_, isDirectory⟩
    · exact ⟨_, isFile⟩
    · exact ⟨_, isLink⟩
  obtain ⟨node, isNode⟩ := found
  exact ⟨directory, canonicalize_eq_ok.mpr ⟨noNul.1, first⟩, isDirectory_of_child isNode,
    mem_children.mpr ⟨node, isNode⟩⟩

/-- A place is its own canonical path, if that can be asked for at all. -/
theorem canonicalize_segments {other : TreePlace} (isReal : tree.IsReal place)
    (arrives : canonicalize tree (segments place) = .ok other) : other = place := by
  have whole : tree.resolve maxLinks [] (segments place) = .ok place := by
    have isSelf : tree.IsReal ([] ++ place) := isReal
    exact resolve_segments isSelf
  have again := (canonicalize_eq_ok.mp arrives).2
  rw [whole] at again
  exact (Except.ok.inj again).symm

end Canonicalize

/-! ## What is returned -/

/-- An argument that is a relative path without `..`. -/
structure IsRelative (raw : String) : Prop where
  nonempty : raw ≠ ""
  relative : (utf8Bytes raw).head? ≠ some slash
  noParent : parentDir ∉ components raw

/-- A path that `safe_relative_path` returns for a candidate: a place in the project, or the
candidate if it is missing and its next ancestor is in the project. -/
inductive SafePath (tree : LinkedTree) (rootCanon : TreePlace) (candidate : TreePath) :
    TreePath → Prop
  | present {canon : TreePlace} (arrives : canonicalize tree candidate = .ok canon)
      (inside : rootCanon <+: canon) : SafePath tree rootCanon candidate (segments canon)
  | missing {existing : TreePlace} (missing : canonicalize tree candidate = .error .notFound)
      (nearest : nearestExisting tree candidate = some existing)
      (inside : rootCanon <+: existing) : SafePath tree rootCanon candidate candidate

section SafePaths

variable {tree : LinkedTree} {projectRoot candidate path : TreePath} {raw : String}
  {rootCanon place : TreePlace}

theorem checkTarget_eq_ok :
    checkTarget tree rootCanon candidate = .ok path ↔ SafePath tree rootCanon candidate path := by
  constructor
  · intro accepted
    unfold checkTarget at accepted
    split at accepted
    · rename_i canon arrives
      split at accepted
      · rename_i inside
        cases accepted
        exact .present arrives inside
      · cases accepted
    · rename_i missing
      split at accepted
      · rename_i existing nearest
        split at accepted
        · rename_i inside
          cases accepted
          exact .missing missing nearest inside
        · cases accepted
      · cases accepted
    · cases accepted
  · intro safe
    unfold checkTarget
    cases safe with
    | present arrives inside => simp only [arrives, inside, if_true]
    | missing missing nearest inside => simp only [missing, nearest, inside, if_true]

theorem safeRelativePath_eq_ok :
    safeRelativePath tree projectRoot raw = .ok path ↔
      IsRelative raw ∧ ∃ rootCanon, canonicalize tree projectRoot = .ok rootCanon ∧
        SafePath tree rootCanon (projectRoot ++ segments (components raw)) path := by
  have dropped : ∀ rootCanon, canonicalize tree projectRoot = .ok rootCanon →
      components raw = [] →
      (SafePath tree rootCanon (projectRoot ++ segments (components raw)) path ↔
        segments rootCanon = path) := by
    intro rootCanon roots empty
    have whole : projectRoot ++ segments (components raw) = projectRoot := by
      rw [empty]
      exact List.append_nil projectRoot
    rw [whole, ← checkTarget_eq_ok, checkTarget, roots]
    simp
  unfold safeRelativePath
  constructor
  · intro accepted
    split at accepted
    · cases accepted
    · rename_i nonempty
      split at accepted
      · cases accepted
      · rename_i relative
        split at accepted
        · cases accepted
        · rename_i noParent
          split at accepted
          · cases accepted
          · rename_i rootCanon roots
            refine ⟨⟨nonempty, relative, noParent⟩, rootCanon, roots, ?_⟩
            split at accepted
            · rename_i empty
              exact (dropped rootCanon roots empty).mpr (Except.ok.inj accepted)
            · exact checkTarget_eq_ok.mp accepted
  · rintro ⟨isRelative, rootCanon, roots, safe⟩
    rw [if_neg isRelative.nonempty, if_neg isRelative.relative, if_neg isRelative.noParent, roots]
    dsimp only
    split
    · rename_i empty
      rw [(dropped rootCanon roots empty).mp safe]
    · exact checkTarget_eq_ok.mpr safe

/-- The argument names a place in the project. -/
structure Enters (tree : LinkedTree) (projectRoot : TreePath) (raw : String)
    (rootCanon start : TreePlace) : Prop where
  relative : IsRelative raw
  root : canonicalize tree projectRoot = .ok rootCanon
  arrives : canonicalize tree (projectRoot ++ segments (components raw)) = .ok start
  inside : rootCanon <+: start

theorem Enters.accepted (enters : Enters tree projectRoot raw rootCanon place) :
    safeRelativePath tree projectRoot raw = .ok (segments place) :=
  safeRelativePath_eq_ok.mpr
    ⟨enters.relative, rootCanon, enters.root, .present enters.arrives enters.inside⟩

/-- A path that is accepted and leads somewhere is the place that the argument names. -/
theorem enters_of_ok (accepted : safeRelativePath tree projectRoot raw = .ok path)
    (roots : canonicalize tree projectRoot = .ok rootCanon)
    (arrives : canonicalize tree path = .ok place) :
    path = segments place ∧ Enters tree projectRoot raw rootCanon place := by
  obtain ⟨relative, otherRoot, otherRoots, safe⟩ := safeRelativePath_eq_ok.mp accepted
  rw [roots] at otherRoots
  obtain rfl := Except.ok.inj otherRoots
  cases safe with
  | present leads inside =>
      obtain rfl := canonicalize_segments (isReal_of_canonicalize leads) arrives
      exact ⟨rfl, relative, roots, leads, inside⟩
  | missing missing nearest inside =>
      rw [missing] at arrives
      cases arrives

end SafePaths

end TriAI.Coding
