import Mathlib

/-!
Contract: file contents and finite directory trees.

Owns: `ByteVec`, a byte string short enough for a file; `DirTree`, a finite
map from paths to entries in which everything lies below a directory; the
lookup laws of adding an entry and of removing a subtree; and the extension of a file name.

Does not own: operating-system errors, permissions, links or partial writes.
-/

set_option autoImplicit false

namespace TriAI.Library.FileTree

/-- The contents of a file or of a byte buffer in memory. Both file offsets and
allocation sizes are signed 64-bit numbers, so neither is longer than
`2 ^ 63 - 1` bytes. -/
@[ext]
structure ByteVec where
  bytes : List UInt8
  fits : bytes.length < 2 ^ 63
deriving DecidableEq, Repr

theorem ByteVec.nil_fits : ([] : List UInt8).length < 2 ^ 63 := by simp

/-- What a path can name. -/
inductive Entry where
  | file (content : ByteVec)
  | directory
deriving DecidableEq, Repr

variable {Name : Type} [DecidableEq Name]

/-- A finite tree: every entry other than the root lies in a directory. -/
structure DirTree (Name : Type) [DecidableEq Name] where
  entries : AList fun _ : List Name => Entry
  parents : ∀ (path : List Name) (name : Name) (entry : Entry),
    entries.lookup (path ++ [name]) = some entry → entries.lookup path = some .directory

namespace DirTree

/-- The entry at a path. -/
def lookup (tree : DirTree Name) (path : List Name) : Option Entry :=
  tree.entries.lookup path

/-- The tree of an empty root directory. -/
def root : DirTree Name where
  entries := AList.singleton [] .directory
  parents := by
    intro path name entry found
    have isRoot := AList.lookup_isSome.mp (Option.isSome_of_eq_some found)
    rw [AList.mem_keys, AList.keys_singleton, List.mem_singleton] at isRoot
    simp at isRoot

/-- Whatever has something below it is a directory. -/
theorem lookup_prefix (tree : DirTree Name) {path suffix : List Name} {entry : Entry}
    (below : suffix ≠ []) (found : tree.lookup (path ++ suffix) = some entry) :
    tree.lookup path = some .directory := by
  induction suffix using List.reverseRecOn generalizing entry with
  | nil => exact absurd rfl below
  | append_singleton front name inductionHypothesis =>
      rw [← List.append_assoc] at found
      have parent := tree.parents (path ++ front) name entry found
      cases front with
      | nil =>
          rw [List.append_nil] at parent
          exact parent
      | cons head tail => exact inductionHypothesis (List.cons_ne_nil head tail) parent

/-- Nothing lies below a path that names nothing. -/
theorem lookup_below_none (tree : DirTree Name) {path suffix : List Name}
    (absent : tree.lookup path = none) : tree.lookup (path ++ suffix) = none := by
  by_cases below : suffix = []
  · rwa [below, List.append_nil]
  · cases found : tree.lookup (path ++ suffix) with
    | none => rfl
    | some entry =>
        rw [tree.lookup_prefix below found] at absent
        cases absent

/-- Nothing lies below a file. -/
theorem lookup_below_file (tree : DirTree Name) {path suffix : List Name}
    {content : ByteVec} (below : suffix ≠ [])
    (isFile : tree.lookup path = some (.file content)) :
    tree.lookup (path ++ suffix) = none := by
  cases found : tree.lookup (path ++ suffix) with
  | none => rfl
  | some entry =>
      rw [tree.lookup_prefix below found] at isFile
      cases isFile

/-- The conditions under which an entry may be put at a path: the parent is a
directory, and a directory there is not replaced by a file. -/
structure Accepts (tree : DirTree Name) (path : List Name) (entry : Entry) : Prop where
  parent : ∀ front name, path = front ++ [name] → tree.lookup front = some .directory
  keeps : tree.lookup path = some .directory → entry = .directory

/-- Put an entry at a path. -/
def put (tree : DirTree Name) (path : List Name) (entry : Entry)
    (accepts : tree.Accepts path entry) : DirTree Name where
  entries := tree.entries.insert path entry
  parents := by
    intro front name found foundAt
    have parentBefore : tree.lookup front = some .directory := by
      by_cases same : front ++ [name] = path
      · exact accepts.parent front name same.symm
      · rw [AList.lookup_insert_ne same] at foundAt
        exact tree.parents front name found foundAt
    by_cases same : front = path
    · subst same
      rw [AList.lookup_insert, accepts.keeps parentBefore]
    · rw [AList.lookup_insert_ne same]
      exact parentBefore

@[simp] theorem lookup_put_same (tree : DirTree Name) (path : List Name) (entry : Entry)
    (accepts : tree.Accepts path entry) :
    (tree.put path entry accepts).lookup path = some entry :=
  AList.lookup_insert tree.entries

theorem lookup_put_other (tree : DirTree Name) {path other : List Name} (entry : Entry)
    (accepts : tree.Accepts path entry) (different : other ≠ path) :
    (tree.put path entry accepts).lookup other = tree.lookup other :=
  AList.lookup_insert_ne different

/-- The parent of a path, when there is one, is a directory. -/
def ParentIsDirectory (tree : DirTree Name) (path : List Name) : Prop :=
  path ≠ [] ∧ tree.lookup path.dropLast = some .directory

instance (tree : DirTree Name) (path : List Name) :
    Decidable (tree.ParentIsDirectory path) := by
  unfold ParentIsDirectory
  infer_instance

theorem ParentIsDirectory.accepts {tree : DirTree Name} {path : List Name} {entry : Entry}
    (parent : tree.ParentIsDirectory path)
    (keeps : tree.lookup path = some .directory → entry = .directory) :
    tree.Accepts path entry where
  parent := by
    intro front name pathEq
    have parentEq := parent.2
    rwa [pathEq, List.dropLast_concat] at parentEq
  keeps := keeps

/-- Remove a path and everything below it. -/
def removeSubtree (tree : DirTree Name) (path : List Name) : DirTree Name where
  entries := ⟨tree.entries.entries.filter fun item => ¬ path <+: item.1,
    tree.entries.nodupKeys.sublist List.filter_sublist⟩
  parents := by
    intro front name entry found
    rw [← Option.mem_def, AList.mem_lookup_iff, List.mem_filter] at found ⊢
    obtain ⟨member, outside⟩ := found
    have parent := tree.parents front name entry (AList.mem_lookup_iff.mpr member)
    refine ⟨AList.mem_lookup_iff.mp parent, ?_⟩
    simp only [decide_eq_true_eq] at outside ⊢
    intro covers
    exact outside (covers.trans (List.prefix_append front [name]))

theorem lookup_removeSubtree_below (tree : DirTree Name) {path other : List Name}
    (below : path <+: other) : (tree.removeSubtree path).lookup other = none := by
  rw [Option.eq_none_iff_forall_ne_some]
  intro entry found
  have member := AList.mem_lookup_iff.mp found
  have outside := (List.mem_filter.mp member).2
  simp only [decide_eq_true_eq] at outside
  exact outside below

theorem lookup_removeSubtree_other (tree : DirTree Name) {path other : List Name}
    (outside : ¬ path <+: other) :
    (tree.removeSubtree path).lookup other = tree.lookup other := by
  apply Option.ext
  intro entry
  unfold lookup removeSubtree
  rw [← Option.mem_def, ← Option.mem_def, AList.mem_lookup_iff, AList.mem_lookup_iff,
    List.mem_filter]
  exact and_iff_left (by simpa using outside)

end DirTree

/-! ## Names of files -/

/-- The extension of a file name: what follows its last dot, unless nothing
precedes that dot. -/
def extension (name : String) : Option String :=
  if name = ".." then none
  else
    match name.toList.reverse.dropWhile (· ≠ '.') with
    | _ :: _ :: _ => some (String.ofList (name.toList.reverse.takeWhile (· ≠ '.')).reverse)
    | _ => none

/-- The last dot can be found again. -/
theorem append_dot_inj {front front' last last' : List Char} (noDot : '.' ∉ last)
    (noDot' : '.' ∉ last') (same : front ++ '.' :: last = front' ++ '.' :: last') :
    front = front' ∧ last = last' := by
  rcases List.append_eq_append_iff.mp same with ⟨between, left, right⟩ | ⟨between, left, right⟩
  · cases between with
    | nil => simpa [left] using right
    | cons c between => exact absurd (by simp_all) noDot
  · cases between with
    | nil => simpa [left, eq_comm] using right
    | cons c between => exact absurd (by simp_all) noDot'

/-- A name that ends in a dot and more has that extension. -/
theorem extension_append {front last : String} (nonempty : front ≠ "") (noDot : '.' ∉ last.toList)
    (visible : last ≠ "") : extension (front ++ "." ++ last) = some last := by
  have notParent : front ++ "." ++ last ≠ ".." := by
    intro same
    have characters : front.toList ++ '.' :: last.toList = ['.'] ++ '.' :: [] := by
      simpa using congrArg String.toList same
    have empty := (append_dot_inj noDot (by simp) characters).2
    exact visible (by simpa using empty)
  have reversed : (front ++ "." ++ last).toList.reverse =
      last.toList.reverse ++ '.' :: front.toList.reverse := by simp
  have before : ∀ c ∈ last.toList.reverse, decide (c ≠ '.') = true := by
    intro c member
    simp only [decide_eq_true_eq]
    intro isDot
    exact noDot (by simpa [isDot] using member)
  have reversedFront : front.toList.reverse ≠ [] := by simpa using nonempty
  unfold extension
  rw [if_neg notParent, reversed, List.dropWhile_append_of_pos before,
    List.takeWhile_append_of_pos before]
  cases remaining : front.toList.reverse with
  | nil => exact absurd remaining reversedFront
  | cons c rest => simp

end TriAI.Library.FileTree
