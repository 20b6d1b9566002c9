import Mathlib

/-!
Contract: finite file trees with symbolic links, and the resolution of paths in them.

Owns: `LinkTree`, in which everything lies in a directory; `resolve`, which follows at most a
given number of links; and the laws of resolution: what it ends at, that it can be split, and
that it is kept where nothing is taken away.

Does not own: the contents of files, hard links, permissions, and the texts of paths.
-/

set_option autoImplicit false

namespace TriAI.Library.LinkTree

/-- A part of a path. -/
inductive Segment (Name : Type) where
  | name (name : Name)
  | parent
deriving DecidableEq

/-- What a symbolic link says. -/
structure Target (Name : Type) where
  absolute : Bool
  segments : List (Segment Name)
deriving DecidableEq

/-- What can be at a place of a tree. -/
inductive Node (Name Content : Type) where
  | file (content : Content)
  | directory
  | link (target : Target Name)
deriving DecidableEq

variable {Name Content : Type} [DecidableEq Name]

/-- A finite tree below a directory. Its places are the lists of names from there. -/
structure Tree (Name Content : Type) [DecidableEq Name] where
  nodes : AList fun _ : List Name => Node Name Content
  root : nodes.lookup [] = some .directory
  parents : ∀ (place : List Name) (name : Name) (node : Node Name Content),
    nodes.lookup (place ++ [name]) = some node → nodes.lookup place = some .directory

/-- The entries of a tree: the root, and for each entry its directory. -/
def Closed (entries : List ((_ : List Name) × Node Name Content)) : Prop :=
  entries.dlookup [] = some .directory ∧
    ∀ entry ∈ entries, entry.1 ≠ [] → entries.dlookup entry.1.dropLast = some .directory

instance [DecidableEq Content] (entries : List ((_ : List Name) × Node Name Content)) :
    Decidable (Closed entries) := instDecidableAnd

theorem Closed.parent {entries : List ((_ : List Name) × Node Name Content)}
    (closed : Closed entries) (place : List Name) (name : Name) (node : Node Name Content)
    (found : entries.dlookup (place ++ [name]) = some node) :
    entries.dlookup place = some .directory := by
  have directory := closed.2 _ (List.of_mem_dlookup found) (List.concat_ne_nil name place)
  rwa [List.dropLast_concat] at directory

/-- The tree of its entries. -/
def Tree.ofEntries {entries : List ((_ : List Name) × Node Name Content)}
    (nodupKeys : entries.keys.Nodup) (closed : Closed entries) : Tree Name Content where
  nodes := ⟨entries, nodupKeys⟩
  root := closed.1
  parents := closed.parent

/-- Why a path leads nowhere. -/
inductive ResolveError where
  | notFound
  | notADirectory
  | tooManyLinks
deriving DecidableEq

namespace Tree

variable (tree : Tree Name Content)

def lookup (place : List Name) : Option (Node Name Content) := tree.nodes.lookup place

/-- The names in a directory. -/
def children (place : List Name) : List Name :=
  tree.nodes.keys.filterMap fun key => if key.dropLast = place then key.getLast? else none

/-- Follow a path from a directory; `follow` is what a link leads to. -/
def resolveFrom (follow : List Name → List (Segment Name) → Except ResolveError (List Name)) :
    List Name → List (Segment Name) → Except ResolveError (List Name)
  | place, [] => .ok place
  | place, .parent :: rest => resolveFrom follow place.dropLast rest
  | place, .name name :: rest =>
      match tree.lookup (place ++ [name]) with
      | none => .error .notFound
      | some (.file _) => if rest = [] then .ok (place ++ [name]) else .error .notADirectory
      | some .directory => resolveFrom follow (place ++ [name]) rest
      | some (.link target) =>
          follow (if target.absolute then [] else place) (target.segments ++ rest)

/-- Follow a path from a directory through at most so many links. -/
def resolve : Nat → List Name → List (Segment Name) → Except ResolveError (List Name)
  | 0 => tree.resolveFrom fun _ _ => .error .tooManyLinks
  | links + 1 => tree.resolveFrom (resolve links)

/-- The segments of a path without `..`. -/
def segments (path : List Name) : List (Segment Name) := path.map .name

/-- What a directory is to a resolution: a place without links on the way. -/
def IsDirectory (place : List Name) : Prop := tree.lookup place = some .directory

instance [DecidableEq Content] (place : List Name) : Decidable (tree.IsDirectory place) :=
  inferInstanceAs (Decidable (tree.lookup place = some .directory))

/-- A place that a resolution can end at. -/
def IsReal (place : List Name) : Prop :=
  tree.IsDirectory place ∨ ∃ content, tree.lookup place = some (.file content)

variable {tree}

theorem isDirectory_root : tree.IsDirectory [] := tree.root

theorem not_isDirectory_of_file {place : List Name} {content : Content}
    (isFile : tree.lookup place = some (.file content)) : ¬ tree.IsDirectory place := by
  intro isDirectory
  unfold IsDirectory at isDirectory
  rw [isFile] at isDirectory
  cases isDirectory

theorem isDirectory_of_child {place : List Name} {name : Name} {node : Node Name Content}
    (found : tree.lookup (place ++ [name]) = some node) : tree.IsDirectory place :=
  tree.parents place name node found

/-- Whatever has something below it is a directory. -/
theorem isDirectory_of_below {place below : List Name} {node : Node Name Content}
    (nonempty : below ≠ []) (found : tree.lookup (place ++ below) = some node) :
    tree.IsDirectory place := by
  induction below using List.reverseRecOn generalizing node with
  | nil => exact absurd rfl nonempty
  | append_singleton front name inductionHypothesis =>
      rw [← List.append_assoc] at found
      by_cases empty : front = []
      · rw [empty, List.append_nil] at found
        exact isDirectory_of_child found
      · exact inductionHypothesis empty (isDirectory_of_child found)

theorem IsDirectory.dropLast {place : List Name} (directory : tree.IsDirectory place) :
    tree.IsDirectory place.dropLast := by
  cases place using List.reverseRecOn with
  | nil => exact directory
  | append_singleton front name =>
      rw [List.dropLast_concat]
      exact isDirectory_of_child directory

/-- The names in a directory are those of what lies in it. -/
theorem mem_children {place : List Name} {name : Name} :
    name ∈ tree.children place ↔ ∃ node, tree.lookup (place ++ [name]) = some node := by
  have isKey : ∀ key, key ∈ tree.nodes.keys ↔ ∃ node, tree.lookup key = some node := by
    intro key
    rw [← Option.isSome_iff_exists]
    exact AList.lookup_isSome.symm
  rw [← isKey]
  unfold children
  rw [List.mem_filterMap]
  constructor
  · intro found
    obtain ⟨key, member, isName⟩ := found
    split at isName
    · rename_i directly
      rw [← directly, List.dropLast_append_getLast? name isName]
      exact member
    · cases isName
  · intro member
    exact ⟨place ++ [name], member, by simp⟩

/-! ## Resolution -/

section Resolution

variable {links : Nat} {place reached : List Name}

@[simp] theorem resolve_nil : tree.resolve links place [] = .ok place := by
  cases links <;> rfl

theorem resolve_parent {rest : List (Segment Name)} :
    tree.resolve links place (.parent :: rest) = tree.resolve links place.dropLast rest := by
  cases links <;> rfl

theorem resolve_directory {name : Name} {rest : List (Segment Name)}
    (directory : tree.IsDirectory (place ++ [name])) :
    tree.resolve links place (.name name :: rest) = tree.resolve links (place ++ [name]) rest := by
  unfold IsDirectory at directory
  cases links <;> simp only [resolve, resolveFrom, directory]

theorem resolve_file {name : Name} {content : Content}
    (isFile : tree.lookup (place ++ [name]) = some (.file content)) :
    tree.resolve links place [.name name] = .ok (place ++ [name]) := by
  cases links <;> simp only [resolve, resolveFrom, isFile, if_true]

theorem resolve_link {name : Name} {target : Target Name} {rest : List (Segment Name)}
    (isLink : tree.lookup (place ++ [name]) = some (.link target)) :
    tree.resolve (links + 1) place (.name name :: rest) =
      tree.resolve links (if target.absolute then [] else place) (target.segments ++ rest) := by
  simp only [resolve, resolveFrom, isLink]

/-- How a resolution goes on after a name. -/
theorem resolve_name_eq_ok {name : Name} {rest : List (Segment Name)}
    (resolves : tree.resolve links place (.name name :: rest) = .ok reached) :
    (tree.IsDirectory (place ++ [name]) ∧
      tree.resolve links (place ++ [name]) rest = .ok reached) ∨
    ((∃ content, tree.lookup (place ++ [name]) = some (.file content)) ∧ rest = [] ∧
      reached = place ++ [name]) ∨
    ∃ fewer target, links = fewer + 1 ∧ tree.lookup (place ++ [name]) = some (.link target) ∧
      tree.resolve fewer (if target.absolute then [] else place) (target.segments ++ rest) =
        .ok reached := by
  cases found : tree.lookup (place ++ [name]) with
  | none => cases links <;> simp [resolve, resolveFrom, found] at resolves
  | some node =>
      cases node with
      | directory =>
          rw [resolve_directory found] at resolves
          exact .inl ⟨found, resolves⟩
      | file content =>
          by_cases last : rest = []
          · rw [last, resolve_file found] at resolves
            exact .inr (.inl ⟨⟨content, rfl⟩, last, (Except.ok.inj resolves).symm⟩)
          · cases links <;> simp [resolve, resolveFrom, found, last] at resolves
      | link target =>
          cases links with
          | zero => simp [resolve, resolveFrom, found] at resolves
          | succ fewer =>
              rw [resolve_link found] at resolves
              exact .inr (.inr ⟨fewer, target, rfl, rfl, resolves⟩)

/-- Induction on a resolution that arrives, one case for each kind of step. -/
theorem resolve_rec
    {motive : Nat → List Name → List (Segment Name) → List Name → Prop}
    (done : ∀ links place, motive links place [] place)
    (parent : ∀ links place rest reached, motive links place.dropLast rest reached →
      motive links place (.parent :: rest) reached)
    (directory : ∀ links place name rest reached, tree.IsDirectory (place ++ [name]) →
      motive links (place ++ [name]) rest reached → motive links place (.name name :: rest) reached)
    (file : ∀ links place name content, tree.lookup (place ++ [name]) = some (.file content) →
      motive links place [.name name] (place ++ [name]))
    (link : ∀ links place name target rest reached,
      tree.lookup (place ++ [name]) = some (.link target) →
      motive links (if target.absolute then [] else place) (target.segments ++ rest) reached →
      motive (links + 1) place (.name name :: rest) reached)
    {segments : List (Segment Name)} (resolves : tree.resolve links place segments = .ok reached) :
    motive links place segments reached := by
  induction links using Nat.strong_induction_on generalizing place segments with
  | _ links fewerLinks =>
      induction segments generalizing place with
      | nil =>
          rw [resolve_nil] at resolves
          obtain rfl := Except.ok.inj resolves
          exact done links place
      | cons segment rest inductionHypothesis =>
          cases segment with
          | parent =>
              rw [resolve_parent] at resolves
              exact parent links place rest reached (inductionHypothesis resolves)
          | name name =>
              rcases resolve_name_eq_ok resolves with
                ⟨isDirectory, goesOn⟩ | ⟨⟨content, isFile⟩, rfl, rfl⟩ |
                  ⟨fewer, target, rfl, isLink, goesOn⟩
              · exact directory links place name rest reached isDirectory
                  (inductionHypothesis goesOn)
              · exact file links place name content isFile
              · exact link fewer place name target rest reached isLink
                  (fewerLinks fewer (Nat.lt_succ_self fewer) goesOn)

/-- A resolution ends at a directory or a file. -/
theorem isReal_of_resolve {segments : List (Segment Name)}
    (start : tree.IsDirectory place) (resolves : tree.resolve links place segments = .ok reached) :
    tree.IsReal reached := by
  refine resolve_rec (motive := fun _ place _ reached => tree.IsDirectory place →
    tree.IsReal reached) ?_ ?_ ?_ ?_ ?_ resolves start
  · exact fun _ _ isDirectory => .inl isDirectory
  · exact fun _ _ _ _ arrives isDirectory => arrives isDirectory.dropLast
  · exact fun _ _ _ _ _ isDirectory arrives _ => arrives isDirectory
  · exact fun _ _ _ content isFile _ => .inr ⟨content, isFile⟩
  · intro _ place _ target _ _ _ arrives isDirectory
    apply arrives
    split
    · exact isDirectory_root
    · exact isDirectory

/-- A resolution arrives through what its first part arrives at. -/
def Splits (tree : Tree Name Content) (links : Nat) (place : List Name)
    (segments : List (Segment Name)) (reached : List Name) : Prop :=
  ∀ front back, segments = front ++ back → ∃ middle left, left ≤ links ∧
    tree.resolve links place front = .ok middle ∧ tree.resolve left middle back = .ok reached

/-- One step of a resolution that can be split. -/
private theorem splits_cons {segment : Segment Name} {rest : List (Segment Name)}
    (arrives : tree.resolve links place (segment :: rest) = .ok reached)
    (later : ∀ front back, rest = front ++ back → ∃ middle left, left ≤ links ∧
      tree.resolve links place (segment :: front) = .ok middle ∧
      tree.resolve left middle back = .ok reached) :
    Splits tree links place (segment :: rest) reached := by
  intro front back whole
  cases front with
  | nil =>
      rw [List.nil_append] at whole
      exact ⟨place, links, Nat.le_refl _, resolve_nil, whole ▸ arrives⟩
  | cons first front =>
      obtain ⟨rfl, isRest⟩ := List.cons.inj whole
      exact later front back isRest

theorem splits_of_resolve {segments : List (Segment Name)}
    (resolves : tree.resolve links place segments = .ok reached) :
    Splits tree links place segments reached := by
  refine (resolve_rec (motive := fun links place segments reached =>
    tree.resolve links place segments = .ok reached ∧ Splits tree links place segments reached)
    ?_ ?_ ?_ ?_ ?_ resolves).2
  · intro links place
    refine ⟨resolve_nil, ?_⟩
    intro front back whole
    obtain ⟨rfl, rfl⟩ := List.append_eq_nil_iff.mp whole.symm
    exact ⟨place, links, Nat.le_refl _, resolve_nil, resolve_nil⟩
  · intro links place rest reached tail
    rw [resolve_parent]
    refine ⟨tail.1, splits_cons (by rw [resolve_parent]; exact tail.1) ?_⟩
    intro front back whole
    rw [resolve_parent]
    exact tail.2 front back whole
  · intro links place name rest reached isDirectory tail
    rw [resolve_directory isDirectory]
    refine ⟨tail.1, splits_cons (by rw [resolve_directory isDirectory]; exact tail.1) ?_⟩
    intro front back whole
    rw [resolve_directory isDirectory]
    exact tail.2 front back whole
  · intro links place name content isFile
    refine ⟨resolve_file isFile, splits_cons (resolve_file isFile) ?_⟩
    intro front back whole
    obtain ⟨rfl, rfl⟩ := List.append_eq_nil_iff.mp whole.symm
    exact ⟨_, links, Nat.le_refl _, resolve_file isFile, resolve_nil⟩
  · intro links place name target rest reached isLink tail
    rw [resolve_link isLink]
    refine ⟨tail.1, splits_cons (by rw [resolve_link isLink]; exact tail.1) ?_⟩
    intro front back whole
    obtain ⟨middle, left, fewer, first, second⟩ := tail.2 (target.segments ++ front) back
      (by rw [whole, List.append_assoc])
    rw [resolve_link isLink]
    exact ⟨middle, left, Nat.le_succ_of_le fewer, first, second⟩

/-- A path of names that is real is resolved without links. -/
theorem resolve_segments {path : List Name} (isReal : tree.IsReal (place ++ path)) :
    tree.resolve links place (segments path) = .ok (place ++ path) := by
  induction path generalizing place with
  | nil => rw [List.append_nil]; exact resolve_nil
  | cons name rest inductionHypothesis =>
      have whole : place ++ name :: rest = place ++ [name] ++ rest := by simp
      rw [whole] at isReal ⊢
      by_cases last : rest = []
      · subst last
        rw [List.append_nil] at isReal ⊢
        rcases isReal with isDirectory | ⟨content, isFile⟩
        · exact (resolve_directory isDirectory).trans resolve_nil
        · exact resolve_file isFile
      · have isDirectory : tree.IsDirectory (place ++ [name]) := by
          rcases isReal with found | ⟨content, found⟩
          · exact isDirectory_of_below last found
          · exact isDirectory_of_below last found
        exact (resolve_directory isDirectory).trans (inductionHypothesis isReal)

/-- A resolution that arrives at a directory goes on along a real path. -/
theorem resolve_append_segments {front : List (Segment Name)} {path : List Name}
    (resolves : tree.resolve links place front = .ok reached)
    (directory : tree.IsDirectory reached) (isReal : tree.IsReal (reached ++ path)) :
    tree.resolve links place (front ++ segments path) = .ok (reached ++ path) := by
  refine resolve_rec (motive := fun links place front reached => tree.IsDirectory reached →
    tree.IsReal (reached ++ path) →
    tree.resolve links place (front ++ segments path) = .ok (reached ++ path))
    ?_ ?_ ?_ ?_ ?_ resolves directory isReal
  · exact fun _ _ _ isReal => resolve_segments isReal
  · intro _ _ _ _ arrives directory isReal
    rw [List.cons_append, resolve_parent]
    exact arrives directory isReal
  · intro _ _ _ _ _ isDirectory arrives directory isReal
    rw [List.cons_append, resolve_directory isDirectory]
    exact arrives directory isReal
  · exact fun _ _ _ _ isFile directory _ => absurd directory (not_isDirectory_of_file isFile)
  · intro _ _ _ _ _ _ isLink arrives directory isReal
    rw [List.cons_append, resolve_link isLink, ← List.append_assoc]
    exact arrives directory isReal

end Resolution

/-! ## Changes -/

/-- The directories and the links of a tree are in another. -/
structure KeepsWays (tree after : Tree Name Content) : Prop where
  directory : ∀ place, tree.IsDirectory place → after.IsDirectory place
  link : ∀ place target, tree.lookup place = some (.link target) →
    after.lookup place = some (.link target)

theorem KeepsWays.trans {tree middle after : Tree Name Content} (first : KeepsWays tree middle)
    (second : KeepsWays middle after) : KeepsWays tree after where
  directory := fun place isDirectory => second.directory place (first.directory place isDirectory)
  link := fun place target isLink => second.link place target (first.link place target isLink)

/-- A path to a directory is kept with the directories and the links. -/
theorem KeepsWays.resolve {after : Tree Name Content} {links : Nat} {place reached : List Name}
    {segments : List (Segment Name)} (kept : KeepsWays tree after)
    (resolves : tree.resolve links place segments = .ok reached)
    (isDirectory : tree.IsDirectory reached) :
    after.resolve links place segments = .ok reached := by
  refine resolve_rec (motive := fun links place segments reached => tree.IsDirectory reached →
    after.resolve links place segments = .ok reached) ?_ ?_ ?_ ?_ ?_ resolves isDirectory
  · exact fun _ _ _ => resolve_nil
  · intro _ _ _ _ arrives isDirectory
    rw [resolve_parent]
    exact arrives isDirectory
  · intro _ _ _ _ _ here arrives isDirectory
    rw [resolve_directory (kept.directory _ here)]
    exact arrives isDirectory
  · exact fun _ _ _ _ isFile isDirectory => absurd isDirectory (not_isDirectory_of_file isFile)
  · intro _ _ _ _ _ _ isLink arrives isDirectory
    rw [resolve_link (kept.link _ _ isLink)]
    exact arrives isDirectory

/-- Anything can be put into a directory where there is no directory yet. -/
theorem exists_update (tree : Tree Name Content) {place : List Name}
    (node : Option (Node Name Content)) (parent : tree.IsDirectory place.dropLast)
    (leaf : ¬ tree.IsDirectory place) :
    ∃ after : Tree Name Content, after.lookup = Function.update tree.lookup place node := by
  have stored : ∃ nodes : AList fun _ : List Name => Node Name Content,
      ∀ other, nodes.lookup other = Function.update tree.lookup place node other := by
    cases node with
    | none =>
        refine ⟨tree.nodes.erase place, fun other => ?_⟩
        rw [Function.update_apply]
        split
        · rename_i same
          rw [same, AList.lookup_erase]
        · rename_i differs
          exact AList.lookup_erase_ne differs
    | some node =>
        refine ⟨tree.nodes.insert place node, fun other => ?_⟩
        rw [Function.update_apply]
        split
        · rename_i same
          rw [same, AList.lookup_insert]
        · rename_i differs
          exact AList.lookup_insert_ne differs
  obtain ⟨nodes, isUpdate⟩ := stored
  have elsewhere : ∀ other, tree.IsDirectory other → nodes.lookup other = some .directory := by
    intro other isDirectory
    have differs : other ≠ place := fun same => leaf (same ▸ isDirectory)
    rw [isUpdate, Function.update_of_ne differs]
    exact isDirectory
  refine ⟨⟨nodes, elsewhere [] isDirectory_root, ?_⟩, funext isUpdate⟩
  intro other name child found
  apply elsewhere
  rw [isUpdate, Function.update_apply] at found
  split at found
  · rename_i same
    rw [← same, List.dropLast_concat] at parent
    exact parent
  · exact isDirectory_of_child found

end Tree

end TriAI.Library.LinkTree
