import TriAI.Coding.ProjectReads
import TriAI.Library.TraceSafety

/-!
Contract: where the reading tools of a project read (`coding_tools.rs`).

Owns: the replies of a tree to their calls, in any order of its entries; and exactly when all
that a call lists and reads lies in the project.

Does not own: the tools (`Coding.ProjectReads`).

`walk` and `search` ask `is_dir` of each entry, which follows links, and never compare where
they arrive with the root, which is the defect.
-/

set_option autoImplicit false

namespace TriAI.Coding

open TriAI.Library
open TriAI.Library.Interaction
open TriAI.Library.LinkTree
open TriAI.Library.LinkTree.Tree
open TriAI.Library.TextLines

/-! ## Replies -/

/-- The path leads to a directory. -/
def LeadsToDirectory (tree : LinkedTree) (path : TreePath) (place : TreePlace) : Prop :=
  canonicalize tree path = .ok place ∧ tree.IsDirectory place

/-- The path leads to a file. -/
def LeadsToFile (tree : LinkedTree) (path : TreePath) (place : TreePlace)
    (content : List UInt8) : Prop :=
  canonicalize tree path = .ok place ∧ tree.lookup place = some (.file content)

/-- The replies of a tree. A directory is listed in any order and without the entries that cannot
be read, and every call may fail. -/
def TreeReplies (tree : LinkedTree) : (op : ReadOp) → op.Reply → Prop
  | .isDir path, isDir => isDir = true → ∃ place, LeadsToDirectory tree path place
  | .readDir path, .ok names =>
      ∃ place, LeadsToDirectory tree path place ∧ names.Subperm (tree.children place)
  | .readToString path, .ok text => ∃ place, LeadsToFile tree path place (utf8Bytes text)
  | .readDir _, .error _ | .readToString _, .error _ => True

/-- The directory that a call lists and the file that it reads lie in the project. A file that
is no text has been read all the same. -/
def InProject (tree : LinkedTree) (rootCanon : TreePlace) : (op : ReadOp) → op.Reply → Prop
  | .isDir _, _ => True
  | .readDir path, reply =>
      reply.isOk = true → ∀ place, LeadsToDirectory tree path place → rootCanon <+: place
  | .readToString path, _ =>
      ∀ place content, LeadsToFile tree path place content → rootCanon <+: place

/-- All that a call lists and reads lies in the project. -/
def ReadsConfined (tree : LinkedTree) (projectRoot : TreePath) (call : ReadCall) : Prop :=
  ∀ rootCanon, canonicalize tree projectRoot = .ok rootCanon →
    AlongTraces (TreeReplies tree) (InProject tree rootCanon) (call.run tree projectRoot).run

/-! ## The condition -/

/-- The names are those of entries that `walk` and `search` do not pass over. -/
def Followed (names : List FileName) : Prop := ∀ name ∈ names, ¬ isSkipped name

instance (names : List FileName) : Decidable (Followed names) :=
  inferInstanceAs (Decidable (∀ name ∈ names, ¬ isSkipped name))

/-- Every directory fewer than so many levels below `base`, through links as well, lies in the
project. -/
def DirectoriesInside (tree : LinkedTree) (rootCanon : TreePlace) (levels : Nat)
    (base : TreePath) : Prop :=
  ∀ names, names.length < levels → Followed names → ∀ place,
    LeadsToDirectory tree (base ++ segments names) place → rootCanon <+: place

/-- Every file in such a directory that is searched lies in the project. -/
def FilesInside (tree : LinkedTree) (rootCanon : TreePlace) (extension : Option String)
    (levels : Nat) (base : TreePath) : Prop :=
  ∀ names name, names.length < levels → Followed (names ++ [name]) → Wanted extension name →
    ∀ place content, LeadsToFile tree (base ++ segments (names ++ [name])) place content →
      rootCanon <+: place

/-- No link leads a call out of the project. -/
def StaysInside (tree : LinkedTree) (projectRoot : TreePath) : ReadCall → Prop
  | .readFile _ => True
  | .listFiles dir => ∀ rootCanon start,
      Enters tree projectRoot (dirArgument dir) rootCanon start →
      DirectoriesInside tree rootCanon (maxDepth + 1) (segments start)
  | .searchFiles query dir extension => query.filter (· ≠ "") ≠ none → ∀ rootCanon start,
      Enters tree projectRoot (dirArgument dir) rootCanon start →
      DirectoriesInside tree rootCanon (maxDepth + 1) (segments start) ∧
        FilesInside tree rootCanon (extension.filter (· ≠ "")) (maxDepth + 1) (segments start)

section Trees

variable {tree : LinkedTree} {path base : TreePath} {place : TreePlace} {name : FileName}

theorem treeReplies_total (tree : LinkedTree) (op : ReadOp) :
    ∃ reply, TreeReplies tree op reply := by
  cases op with
  | isDir path =>
      refine ⟨false, ?_⟩
      intro isTrue
      cases isTrue
  | readDir path => exact ⟨.error "", trivial⟩
  | readToString path => exact ⟨.error "", trivial⟩

theorem segments_cons (name : FileName) (names : List FileName) :
    base ++ segments (name :: names) = base ++ [.name name] ++ segments names := by
  simp [segments]

/-- What lies further down is reached through a directory. -/
theorem leadsToDirectory_front {names : List FileName}
    (leads : LeadsToDirectory tree (path ++ segments names) place) :
    ∃ directory, LeadsToDirectory tree path directory := by
  induction names using List.reverseRecOn generalizing place with
  | nil => exact ⟨place, by simpa [segments] using leads⟩
  | append_singleton front name inductionHypothesis =>
      have whole : path ++ segments (front ++ [name]) = path ++ segments front ++ [.name name] := by
        simp [segments]
      rw [LeadsToDirectory, whole] at leads
      obtain ⟨directory, arrives, isDirectory, _⟩ := canonicalize_concat leads.1
      exact inductionHypothesis ⟨arrives, isDirectory⟩

/-- An entry that a path leads to is listed first in some order. -/
theorem exists_listing (arrives : canonicalize tree (base ++ [.name name]) = .ok place) :
    ∃ others, TreeReplies tree (.readDir base) (.ok (name :: others)) := by
  obtain ⟨directory, leads, isDirectory, member⟩ := canonicalize_concat arrives
  exact ⟨(tree.children directory).erase name, directory, ⟨leads, isDirectory⟩,
    (List.perm_cons_erase member).symm.subperm⟩

/-- A directory can be listed. -/
theorem exists_listing_of_directory (leads : LeadsToDirectory tree base place) :
    TreeReplies tree (.readDir base) (.ok (tree.children place)) :=
  ⟨place, leads, List.Subperm.refl _⟩

end Trees

/-! ## Programs -/

/-- Every call of the program stays in the project, whatever the tree replies. -/
def Confines {α : Type} (tree : LinkedTree) (rootCanon : TreePlace) (program : Reads α) : Prop :=
  wlp (watching (TreeReplies tree) (InProject tree rootCanon)) program.run (fun _ _ => True) ()

section Programs

variable {α β σ ι : Type} {tree : LinkedTree} {rootCanon : TreePlace} {path : TreePath}

theorem confines_pure (value : α) : Confines tree rootCanon (pure value) := trivial

theorem confines_readDir {context : String} {rest : List FileName → Reads α} :
    Confines tree rootCanon (Reads.readDir context path >>= rest) ↔
      ∀ names, TreeReplies tree (.readDir path) (.ok names) →
        InProject tree rootCanon (.readDir path) (.ok names) ∧
          Confines tree rootCanon (rest names) := by
  constructor
  · intro confines names replied
    exact ⟨confines.1 (.ok names) replied, confines.2 (.ok names) () replied⟩
  · intro holds
    refine ⟨?_, ?_⟩
    · intro reply replied
      cases reply with
      | error error =>
          intro isOk
          cases isOk
      | ok names => exact (holds names replied).1
    · intro reply _ replied
      cases reply with
      | error error => trivial
      | ok names => exact (holds names replied).2

theorem confines_isDir {rest : Bool → Reads α} :
    Confines tree rootCanon (Reads.isDir path >>= rest) ↔
      ∀ isDir, TreeReplies tree (.isDir path) isDir → Confines tree rootCanon (rest isDir) := by
  constructor
  · exact fun confines isDir replied => confines.2 isDir () replied
  · exact fun holds => ⟨fun _ _ => trivial, fun isDir _ replied => holds isDir replied⟩

theorem confines_readToString {rest : Except String String → Reads α} :
    Confines tree rootCanon (Reads.readToString path >>= rest) ↔
      (∀ place content, LeadsToFile tree path place content → rootCanon <+: place) ∧
        ∀ reply, TreeReplies tree (.readToString path) reply →
          Confines tree rootCanon (rest reply) := by
  constructor
  · intro confines
    exact ⟨confines.1 (.error "") trivial, fun reply replied => confines.2 reply () replied⟩
  · exact fun holds => ⟨fun _ _ => holds.1, fun reply _ replied => holds.2 reply replied⟩

theorem confines_ofExcept {result : Except ToolFailure α} {rest : α → Reads β} :
    Confines tree rootCanon (Reads.ofExcept result >>= rest) ↔
      ∀ value, result = .ok value → Confines tree rootCanon (rest value) :=
  Fallible.wlp_run_check

theorem confines_result (result : Except ToolFailure α) :
    Confines tree rootCanon (Reads.ofExcept result) := trivial

/-- A part without an end of its own. -/
theorem confines_bind {program : Reads α} {rest : α → Reads β}
    (first : Confines tree rootCanon program)
    (second : ∀ value, Confines tree rootCanon (rest value)) :
    Confines tree rootCanon (program >>= rest) := by
  refine (Fallible.wlp_run_bind program rest _ _).mpr (wlp_mono first ?_)
  intro reached _ _
  cases reached with
  | ok value => exact second value
  | error failure => trivial

theorem confines_of_bind {program : Reads α} {rest : α → Reads β}
    (confines : Confines tree rootCanon (program >>= rest)) : Confines tree rootCanon program :=
  wlp_mono ((Fallible.wlp_run_bind program rest _ _).mp confines) fun _ _ _ => trivial

theorem confines_foldlM {body : σ → ι → Reads σ} (items : List ι) (state : σ)
    (round : ∀ item ∈ items, ∀ state, Confines tree rootCanon (body state item)) :
    Confines tree rootCanon (items.foldlM body state) := by
  refine Fallible.wlp_run_foldlM items trivial ?_
  exact fun item member state _ _ => round item member state

/-- The first round of a loop. -/
theorem confines_first {body : σ → ι → Reads σ} {item : ι} {items : List ι} {state : σ}
    (confines : Confines tree rootCanon ((item :: items).foldlM body state)) :
    Confines tree rootCanon (body state item) := by
  rw [List.foldlM_cons] at confines
  exact confines_of_bind confines

end Programs

/-! ## Recursion -/

section Recursion

variable {tree : LinkedTree} {rootCanon : TreePlace} {base : TreePath} {levels : Nat}
  {extension : Option String} {query : String}

theorem directoriesInside_succ :
    DirectoriesInside tree rootCanon (levels + 1) base ↔
      (∀ place, LeadsToDirectory tree base place → rootCanon <+: place) ∧
        ∀ name, ¬ isSkipped name →
          (∃ place, LeadsToDirectory tree (base ++ [.name name]) place) →
          DirectoriesInside tree rootCanon levels (base ++ [.name name]) := by
  constructor
  · intro inside
    constructor
    · intro place leads
      exact inside [] (Nat.zero_lt_succ _) (by simp [Followed]) place
        (by simpa [segments] using leads)
    · intro name unskipped _ names fewer followed place leads
      rw [← segments_cons] at leads
      exact inside (name :: names) (Nat.succ_lt_succ fewer)
        (List.forall_mem_cons.mpr ⟨unskipped, followed⟩) place leads
  · rintro ⟨here, below⟩ names fewer followed place leads
    cases names with
    | nil => exact here place (by simpa [segments] using leads)
    | cons name names =>
        rw [segments_cons] at leads
        obtain ⟨unskipped, followed⟩ := List.forall_mem_cons.mp followed
        exact below name unskipped (leadsToDirectory_front leads) names
          (Nat.lt_of_succ_lt_succ fewer) followed place leads

theorem filesInside_succ :
    FilesInside tree rootCanon extension (levels + 1) base ↔
      (∀ name, ¬ isSkipped name → Wanted extension name → ∀ place content,
        LeadsToFile tree (base ++ [.name name]) place content → rootCanon <+: place) ∧
        ∀ name, ¬ isSkipped name →
          (∃ place, LeadsToDirectory tree (base ++ [.name name]) place) →
          FilesInside tree rootCanon extension levels (base ++ [.name name]) := by
  constructor
  · intro inside
    constructor
    · intro name unskipped wanted place content leads
      exact inside [] name (Nat.zero_lt_succ _) (by simpa [Followed] using unskipped) wanted place
        content (by simpa [segments] using leads)
    · intro name unskipped _ names last fewer followed wanted place content leads
      rw [← segments_cons] at leads
      exact inside (name :: names) last (Nat.succ_lt_succ fewer)
        (List.forall_mem_cons.mpr ⟨unskipped, followed⟩) wanted place content leads
  · rintro ⟨here, below⟩ names last fewer followed wanted place content leads
    cases names with
    | nil =>
        exact here last (by simpa [Followed] using followed) wanted place content
          (by simpa [segments] using leads)
    | cons name names =>
        rw [List.cons_append, segments_cons] at leads
        obtain ⟨unskipped, followed⟩ := List.forall_mem_cons.mp followed
        have whole : base ++ [.name name] ++ segments (names ++ [last]) =
            base ++ [.name name] ++ segments names ++ [.name last] := by simp [segments]
        have arrives := leads.1
        rw [whole] at arrives
        obtain ⟨directory, reached, isDirectory, _⟩ := canonicalize_concat arrives
        exact below name unskipped (leadsToDirectory_front ⟨reached, isDirectory⟩) names last
          (Nat.lt_of_succ_lt_succ fewer) followed wanted place content leads

/-- `walk` enters an entry that leads to a directory. -/
theorem walkEntry_confines_iff {enter : TreePath → List TreePath → Reads (List TreePath)}
    {name : FileName} (out : List TreePath) :
    Confines tree rootCanon (walkEntry enter base out name) ↔
      (¬ isSkipped name → (∃ place, LeadsToDirectory tree (base ++ [.name name]) place) →
        Confines tree rootCanon (enter (base ++ [.name name]) (out ++ [base ++ [.name name]]))) := by
  unfold walkEntry
  by_cases skipped : isSkipped name
  · rw [if_pos skipped]
    exact ⟨fun _ unskipped => absurd skipped unskipped, fun _ => confines_pure out⟩
  · rw [if_neg skipped, confines_isDir]
    constructor
    · intro confines _ leads
      exact confines true fun _ => leads
    · intro entered isDir replied
      cases isDir with
      | false => exact confines_pure _
      | true => exact entered skipped (replied rfl)

/-- `walk` lists exactly the directories that lie in its reach. -/
theorem walk_confines_iff (out : List TreePath) :
    Confines tree rootCanon (walk levels base out) ↔
      DirectoriesInside tree rootCanon levels base := by
  induction levels generalizing base out with
  | zero =>
      constructor
      · intro _ names fewer
        omega
      · exact fun _ => confines_pure out
  | succ levels inductionHypothesis =>
      rw [directoriesInside_succ, walk_succ, confines_readDir]
      constructor
      · intro confines
        constructor
        · intro place leads
          exact (confines _ (exists_listing_of_directory leads)).1 rfl place leads
        · intro name unskipped below
          have arrives := below.choose_spec.1
          obtain ⟨others, listed⟩ := exists_listing arrives
          have round := confines_first (confines _ listed).2
          exact (inductionHypothesis _).mp ((walkEntry_confines_iff out).mp round unskipped below)
      · intro inside names _
        refine ⟨fun _ => inside.1, confines_foldlM names out ?_⟩
        intro name _ out
        rw [walkEntry_confines_iff]
        exact fun unskipped below => (inductionHypothesis _).mpr (inside.2 name unskipped below)

/-- `search` enters an entry that leads to a directory, and reads one that it wants. -/
theorem searchEntry_confines {enter : TreePath → List Hit → Reads (List Hit)} {name : FileName}
    (out : List Hit)
    (entered : ¬ isSkipped name →
      (∃ place, LeadsToDirectory tree (base ++ [.name name]) place) →
      Confines tree rootCanon (enter (base ++ [.name name]) out))
    (read : ¬ isSkipped name → Wanted extension name → ∀ place content,
      LeadsToFile tree (base ++ [.name name]) place content → rootCanon <+: place) :
    Confines tree rootCanon (searchEntry query extension enter base out name) := by
  unfold searchEntry
  by_cases skipped : isSkipped name
  · rw [if_pos skipped]
    exact confines_pure out
  · rw [if_neg skipped, confines_isDir]
    intro isDir replied
    cases isDir with
    | true => exact entered skipped (replied rfl)
    | false =>
        rw [if_neg Bool.false_ne_true]
        split
        · rename_i wanted
          refine confines_readToString.mpr ⟨read skipped wanted, ?_⟩
          intro reply _
          cases reply with
          | error error => exact confines_pure out
          | ok data => exact confines_pure _
        · exact confines_pure out

/-- What an entry that is not passed over tells of the directory or the file it leads to. -/
theorem reach_of_searchEntry {enter : TreePath → List Hit → Reads (List Hit)} {name : FileName}
    {out : List Hit}
    (confines : Confines tree rootCanon (searchEntry query extension enter base out name))
    (unskipped : ¬ isSkipped name) :
    ((∃ place, LeadsToDirectory tree (base ++ [.name name]) place) →
      Confines tree rootCanon (enter (base ++ [.name name]) out)) ∧
    (Wanted extension name → ∀ place content,
      LeadsToFile tree (base ++ [.name name]) place content → rootCanon <+: place) := by
  unfold searchEntry at confines
  rw [if_neg unskipped, confines_isDir] at confines
  constructor
  · exact fun leads => confines true fun _ => leads
  · intro wanted
    have scanned := confines false Bool.noConfusion
    rw [if_neg Bool.false_ne_true, if_pos wanted] at scanned
    exact (confines_readToString.mp scanned).1

/-- `search` stays in the project where its reach does. -/
theorem search_confines (out : List Hit)
    (directories : DirectoriesInside tree rootCanon levels base)
    (files : FilesInside tree rootCanon extension levels base) :
    Confines tree rootCanon (search query extension levels base out) := by
  induction levels generalizing base out with
  | zero => exact confines_pure out
  | succ levels inductionHypothesis =>
      obtain ⟨here, below⟩ := directoriesInside_succ.mp directories
      obtain ⟨filesHere, filesBelow⟩ := filesInside_succ.mp files
      by_cases full : maxListEntries ≤ out.length
      · rw [search_full full]
        exact confines_pure out
      · rw [search_succ (Nat.not_le.mp full), confines_readDir]
        intro names _
        refine ⟨fun _ => here, confines_foldlM names out ?_⟩
        intro name _ out
        apply searchEntry_confines out
        · intro unskipped leads
          exact inductionHypothesis out (below name unskipped leads)
            (filesBelow name unskipped leads)
        · exact filesHere name

theorem search_directories
    (confines : Confines tree rootCanon (search query extension levels base [])) :
    DirectoriesInside tree rootCanon levels base ∧
      FilesInside tree rootCanon extension levels base := by
  induction levels generalizing base with
  | zero =>
      constructor
      · intro names fewer
        omega
      · intro names name fewer
        omega
  | succ levels inductionHypothesis =>
      rw [search_succ (by decide), confines_readDir] at confines
      have round : ∀ name place, canonicalize tree (base ++ [.name name]) = .ok place →
          Confines tree rootCanon
            (searchEntry query extension (search query extension levels) base [] name) := by
        intro name place arrives
        obtain ⟨others, listed⟩ := exists_listing arrives
        exact confines_first (confines _ listed).2
      have below : ∀ name, ¬ isSkipped name →
          (∃ place, LeadsToDirectory tree (base ++ [.name name]) place) →
          DirectoriesInside tree rootCanon levels (base ++ [.name name]) ∧
            FilesInside tree rootCanon extension levels (base ++ [.name name]) := by
        intro name unskipped leads
        have arrives := leads.choose_spec.1
        exact inductionHypothesis
          ((reach_of_searchEntry (round name _ arrives) unskipped).1 leads)
      rw [directoriesInside_succ, filesInside_succ]
      refine ⟨⟨?_, fun name unskipped leads => (below name unskipped leads).1⟩, ?_,
        fun name unskipped leads => (below name unskipped leads).2⟩
      · intro place leads
        exact (confines _ (exists_listing_of_directory leads)).1 rfl place leads
      · intro name unskipped wanted place content leads
        exact (reach_of_searchEntry (round name _ leads.1) unskipped).2 wanted place content leads

/-- `search` reads exactly in its reach. -/
theorem search_confines_iff :
    Confines tree rootCanon (search query extension levels base []) ↔
      DirectoriesInside tree rootCanon levels base ∧
        FilesInside tree rootCanon extension levels base :=
  ⟨search_directories, fun inside => search_confines [] inside.1 inside.2⟩

/-- Nothing lies below a path that leads nowhere. -/
theorem reach_of_nowhere (nowhere : ∀ place, canonicalize tree base ≠ .ok place) :
    DirectoriesInside tree rootCanon levels base ∧
      FilesInside tree rootCanon extension levels base := by
  constructor
  · intro names _ _ place leads
    obtain ⟨directory, leads⟩ := leadsToDirectory_front leads
    exact absurd leads.1 (nowhere directory)
  · intro names name _ _ _ place content leads
    have whole : base ++ segments (names ++ [name]) = base ++ segments names ++ [.name name] := by
      simp [segments]
    have arrives := leads.1
    rw [whole] at arrives
    obtain ⟨directory, reached, isDirectory, _⟩ := canonicalize_concat arrives
    obtain ⟨outer, leads⟩ := leadsToDirectory_front ⟨reached, isDirectory⟩
    exact absurd leads.1 (nowhere outer)

end Recursion

/-! ## Calls -/

section Calls

variable {tree : LinkedTree} {projectRoot : TreePath} {rootCanon : TreePlace}

theorem safePath_eq_ok {raw : String} {path : TreePath} :
    safePath tree projectRoot raw = .ok path ↔
      safeRelativePath tree projectRoot raw = .ok path := by
  unfold safePath
  cases safeRelativePath tree projectRoot raw with
  | ok other => simp [Except.mapError]
  | error message => simp [Except.mapError]

/-- What has been accepted reaches as far as the place that the argument names. -/
theorem reach_of_enters {raw : String} {path : TreePath} {levels : Nat}
    (extension : Option String) (accepted : safeRelativePath tree projectRoot raw = .ok path)
    (roots : canonicalize tree projectRoot = .ok rootCanon) :
    (DirectoriesInside tree rootCanon levels path ∧
      FilesInside tree rootCanon extension levels path) ∨
    ∃ start, path = segments start ∧ Enters tree projectRoot raw rootCanon start := by
  cases arrives : canonicalize tree path with
  | error error =>
      apply Or.inl
      apply reach_of_nowhere
      intro place leads
      rw [arrives] at leads
      cases leads
  | ok start => exact .inr ⟨start, enters_of_ok accepted roots arrives⟩

/-- `read_file` reads only what `safe_relative_path` has compared with the root. -/
theorem readFile_confines (path : Option String)
    (roots : canonicalize tree projectRoot = .ok rootCanon) :
    Confines tree rootCanon (readFile tree projectRoot path) := by
  refine confines_ofExcept.mpr ?_
  intro rel _
  refine confines_ofExcept.mpr ?_
  intro target accepted
  refine confines_readToString.mpr ⟨?_, ?_⟩
  · intro place content leads
    exact (enters_of_ok (safePath_eq_ok.mp accepted) roots leads.1).2.inside
  · exact fun reply _ => confines_result (readFileResult rel reply)

/-- `list_files` lists exactly the directories in the reach of its argument. -/
theorem listFiles_confines_iff (dir : Option String)
    (roots : canonicalize tree projectRoot = .ok rootCanon) :
    Confines tree rootCanon (listFiles tree projectRoot dir) ↔
      ∀ start, Enters tree projectRoot (dirArgument dir) rootCanon start →
        DirectoriesInside tree rootCanon (maxDepth + 1) (segments start) := by
  unfold listFiles
  rw [confines_ofExcept]
  constructor
  · intro confines start enters
    have entered := confines (segments start) (safePath_eq_ok.mpr enters.accepted)
    exact (walk_confines_iff []).mp (confines_of_bind entered)
  · intro inside base accepted
    have reach : DirectoriesInside tree rootCanon (maxDepth + 1) base := by
      rcases reach_of_enters none (safePath_eq_ok.mp accepted) roots with
        nowhere | ⟨start, rfl, enters⟩
      · exact nowhere.1
      · exact inside start enters
    exact confines_bind ((walk_confines_iff []).mpr reach) fun _ => confines_pure _

/-- `search_files` lists and reads exactly what is in the reach of its arguments. -/
theorem searchFiles_confines_iff (query dir extension : Option String)
    (roots : canonicalize tree projectRoot = .ok rootCanon) :
    Confines tree rootCanon (searchFiles tree projectRoot query dir extension) ↔
      (query.filter (· ≠ "") ≠ none → ∀ start,
        Enters tree projectRoot (dirArgument dir) rootCanon start →
        DirectoriesInside tree rootCanon (maxDepth + 1) (segments start) ∧
          FilesInside tree rootCanon (extension.filter (· ≠ "")) (maxDepth + 1)
            (segments start)) := by
  unfold searchFiles requiredStr
  rw [confines_ofExcept]
  cases asked : query.filter (· ≠ "") with
  | none =>
      constructor
      · exact fun _ isSome => absurd rfl isSome
      · intro _ text found
        cases found
  | some text =>
      constructor
      · intro confines _ start enters
        have entered := confines text rfl
        rw [confines_ofExcept] at entered
        exact search_confines_iff.mp
          (confines_of_bind (entered (segments start) (safePath_eq_ok.mpr enters.accepted)))
      · intro inside other found
        obtain rfl := Except.ok.inj found
        refine confines_ofExcept.mpr ?_
        intro base accepted
        have reach : DirectoriesInside tree rootCanon (maxDepth + 1) base ∧
            FilesInside tree rootCanon (extension.filter (· ≠ "")) (maxDepth + 1) base := by
          rcases reach_of_enters _ (safePath_eq_ok.mp accepted) roots with
            nowhere | ⟨start, rfl, enters⟩
          · exact nowhere
          · exact inside (Option.some_ne_none text) start enters
        exact confines_bind (search_confines_iff.mpr reach) fun _ => confines_pure _

theorem readsConfined_iff (call : ReadCall) :
    ReadsConfined tree projectRoot call ↔
      ∀ rootCanon, canonicalize tree projectRoot = .ok rootCanon →
        Confines tree rootCanon (call.run tree projectRoot) := by
  unfold ReadsConfined Confines
  simp only [alongTraces_iff (treeReplies_total tree)]

end Calls

/-- Exactly when no link leads out of the project, a reading tool stays in it. -/
theorem readCall_confined_iff (tree : LinkedTree) (projectRoot : TreePath) (call : ReadCall) :
    ReadsConfined tree projectRoot call ↔ StaysInside tree projectRoot call := by
  rw [readsConfined_iff]
  cases call with
  | readFile path =>
      constructor
      · exact fun _ => trivial
      · exact fun _ rootCanon roots => readFile_confines path roots
  | listFiles dir =>
      constructor
      · intro confines rootCanon start enters
        exact (listFiles_confines_iff dir enters.root).mp (confines rootCanon enters.root) start
          enters
      · intro inside rootCanon roots
        exact (listFiles_confines_iff dir roots).mpr (inside rootCanon)
  | searchFiles query dir extension =>
      constructor
      · intro confines asked rootCanon start enters
        exact (searchFiles_confines_iff query dir extension enters.root).mp
          (confines rootCanon enters.root) asked start enters
      · intro inside rootCanon roots
        exact (searchFiles_confines_iff query dir extension roots).mpr
          fun asked => inside asked rootCanon

/-! A project with a link to a directory beside it. -/

def escapingEntries : List ((_ : TreePlace) × Node FileName (List UInt8)) :=
  [⟨[], .directory⟩, ⟨[utf8Bytes "project"], .directory⟩, ⟨[utf8Bytes "private"], .directory⟩,
    ⟨[utf8Bytes "project", utf8Bytes "link"],
      .link { absolute := true, segments := [.name (utf8Bytes "private")] }⟩]

theorem nodup_escapingEntries : escapingEntries.keys.Nodup := by decide +kernel

theorem closed_escapingEntries : Closed escapingEntries := by decide +kernel

def escapingTree : LinkedTree := .ofEntries nodup_escapingEntries closed_escapingEntries

def escapedRoot : TreePath := [.name (utf8Bytes "project")]

theorem enters_escapingTree :
    Enters escapingTree escapedRoot "." [utf8Bytes "project"] [utf8Bytes "project"] :=
  ⟨⟨by decide +kernel, by decide +kernel, by decide +kernel⟩, by decide +kernel,
    by decide +kernel, by decide +kernel⟩

/-- `list_files` lists the directory beside the project. -/
theorem listFiles_escapes : ¬ ReadsConfined escapingTree escapedRoot (.listFiles none) := by
  intro confined
  have reach := (listFiles_confines_iff none enters_escapingTree.root).mp
    (readsConfined_iff (.listFiles none) |>.mp confined _ enters_escapingTree.root) _
    enters_escapingTree
  have inside := reach [utf8Bytes "link"] (by decide) (by decide +kernel) [utf8Bytes "private"]
    ⟨by decide +kernel, by decide +kernel⟩
  revert inside
  decide +kernel

end TriAI.Coding
