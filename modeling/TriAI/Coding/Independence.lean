import TriAI.Coding.Edits

/-!
Contract: concurrent edits of different files are independent if their temporaries are.

Owns: the condition on the temporaries, the invariant that every edit has a file of its own
open, and the theorem about every interleaving.

Does not own: the edits (`Coding.Edits`).

The temporary of a target has the target's name with another extension: `a.txt` and `a.md`
share one, which is the defect.
-/

set_option autoImplicit false

namespace TriAI.Coding

open TriAI.Library
open TriAI.Library.Interaction
open TriAI.Library.TextLines

variable {Id Dir : Type}

/-- The temporaries of different edits are different from each other and from each other's
targets; and no temporary is a link or another name of the file of another temporary. -/
structure TemporariesApart (edits : Id → Edit Dir) (process : UInt32)
    (files : OpenFiles (Place Dir)) : Prop where
  temporaries : ∀ first second, first ≠ second →
    (edits first).target.temporary process ≠ (edits second).target.temporary process
  targets : ∀ first second, first ≠ second →
    (edits first).target.temporary process ≠ (edits second).target
  noLinks : ∀ id target,
    files.slots ((edits id).target.temporary process) ≠ some (.link target)
  noSharing : ∀ first second file, first ≠ second →
    files.slots ((edits first).target.temporary process) = some (.file file) →
    files.slots ((edits second).target.temporary process) ≠ some (.file file)

/-! ## What an edit has done -/

/-- How far the replacement of a target has come. -/
inductive Progress where
  | begun
  | opened (file : Nat)
  | written (file : Nat) (bytes : List UInt8)
  /-- A write failed. -/
  | torn (file : Nat)
  | placed (file : Nat) (bytes : List UInt8)

/-- The file that an edit has opened. -/
def Progress.file : Progress → Option Nat
  | .begun => none
  | .opened file | .written file _ | .torn file | .placed file _ => some file

/-- The view of a thread: its edit and how far it has come. -/
structure EditView (Dir : Type) where
  edit : Edit Dir
  progress : Progress := .begun

/-- What a thread may call, and what it learns. -/
def editContract (process : UInt32) : Contract (EditOp Dir) EditOp.Reply (EditView Dir) where
  Admits := fun view op => match op with
    | .create place => place = view.edit.target.temporary process ∧ view.progress = .begun
    | .writeAll file _ => view.progress = .opened file
    | .rename source target => source = view.edit.target.temporary process ∧
        target = view.edit.target ∧ ∃ file bytes, view.progress = .written file bytes
    | .resolve _ | .createDirAll _ | .readToString _ => True
  Answers := fun view op reply after => match op, reply with
    | .create _, .ok file => after = { view with progress := .opened file }
    | .writeAll file bytes, .ok () => after = { view with progress := .written file bytes }
    | .writeAll file _, .error _ => after = { view with progress := .torn file }
    | .rename _ _, .ok () => ∃ file bytes, view.progress = .written file bytes ∧
        after = { view with progress := .placed file bytes }
    | _, _ => after = view

/-- A thread at rest has not begun, or its edit has ended: with success only if the file with
its own content is in its place. -/
def EditRest : EditState Dir → EditView Dir → Prop
  | .notBegun edit, view => view.edit = edit ∧ view.progress = .begun
  | .ended (.ok bytes), view =>
      view.edit.kind.Yields bytes ∧ ∃ file, view.progress = .placed file bytes
  | .ended (.error _), _ => True

section Programs

variable {process : UInt32} {view : EditView Dir}

private theorem replaceTarget_rest (tool : String) {content : List UInt8}
    (begun : view.progress = .begun) (yields : view.edit.kind.Yields content) :
    wlp (editContract process) (replaceTarget tool process view.edit.target content)
      (fun result after => EditRest (.ended result) after) view := by
  refine wlp_perform ⟨rfl, begun⟩ fun created afterCreate learned => ?_
  cases created with
  | error error => trivial
  | ok file =>
      obtain rfl := learned
      refine wlp_perform rfl fun written afterWrite learned => ?_
      cases written with
      | error error => trivial
      | ok done =>
          obtain rfl := learned
          refine wlp_perform ⟨rfl, rfl, _, _, rfl⟩ fun renamed afterRename learned => ?_
          cases renamed with
          | error error => trivial
          | ok done =>
              obtain ⟨placedFile, bytes, written, rfl⟩ := learned
              cases written
              exact ⟨yields, file, rfl⟩

/-- A whole edit. -/
theorem run_rest (begun : view.progress = .begun) :
    wlp (editContract process) (view.edit.run process)
      (fun result after => EditRest (.ended result) after) view := by
  unfold Edit.run
  split
  · rename_i content isWrite
    refine wlp_perform trivial fun resolved after same => ?_
    obtain rfl : view = after := same.symm
    cases resolved with
    | error error => trivial
    | ok done =>
        refine wlp_perform trivial fun made after same => ?_
        obtain rfl : view = after := same.symm
        cases made with
        | error error => trivial
        | ok done =>
            apply replaceTarget_rest _ begun
            rw [isWrite]
            rfl
  · rename_i old new isPatch
    refine wlp_perform trivial fun resolved after same => ?_
    obtain rfl : view = after := same.symm
    cases resolved with
    | error error => trivial
    | ok done =>
        refine wlp_perform trivial fun read after same => ?_
        obtain rfl : view = after := same.symm
        cases read with
        | error error => trivial
        | ok data =>
            cases patches : patch data old new with
            | error error =>
                simp only [patches]
                trivial
            | ok patched =>
                simp only [patches]
                apply replaceTarget_rest _ begun
                rw [isPatch]
                exact ⟨data, patched, patches, rfl⟩

end Programs

/-! ## Invariant -/

/-- What holds of the file of an edit. -/
def Holds (files : OpenFiles (Place Dir)) (process : UInt32) (edit : Edit Dir) : Progress → Prop
  | .begun | .torn _ => True
  | .opened file => files.contents file = [] ∧
      files.slots (edit.target.temporary process) = some (.file file)
  | .written file bytes => files.contents file = bytes ∧
      files.slots (edit.target.temporary process) = some (.file file)
  | .placed file bytes => files.contents file = bytes ∧
      files.slots edit.target = some (.file file)

/-- The files and how far the edits have come: each edit has a file of its own, which its
temporary stood for at the beginning or which was made since. -/
structure EditsApart (edits : Id → Edit Dir) (process : UInt32) (initial : OpenFiles (Place Dir))
    (files : OpenFiles (Place Dir)) (views : Id → EditView Dir) : Prop where
  edit : ∀ id, (views id).edit = edits id
  begun : ∀ id, (views id).progress = .begun →
    files.slots ((edits id).target.temporary process) =
      initial.slots ((edits id).target.temporary process)
  origin : ∀ id file, (views id).progress.file = some file →
    initial.slots ((edits id).target.temporary process) = some (.file file) ∨
      initial.made ≤ file ∧ file < files.made
  alone : ∀ first second file, first ≠ second → (views first).progress.file = some file →
    (views second).progress.file ≠ some file
  holds : ∀ id, Holds files process (edits id) (views id).progress
  grows : initial.made ≤ files.made

section Steps

variable {edits : Id → Edit Dir} {process : UInt32}
  {initial files after : OpenFiles (Place Dir)} {views : Id → EditView Dir}

/-- What a step of another edit leaves alone. -/
private theorem Holds.frame {edit : Edit Dir} {progress : Progress}
    (holds : Holds files process edit progress)
    (contents : ∀ file, progress.file = some file → after.contents file = files.contents file)
    (temporary : after.slots (edit.target.temporary process) =
      files.slots (edit.target.temporary process))
    (target : after.slots edit.target = files.slots edit.target) :
    Holds after process edit progress := by
  cases progress with
  | begun => trivial
  | torn file => trivial
  | opened file => exact ⟨(contents file rfl).trans holds.1, temporary.trans holds.2⟩
  | written file bytes => exact ⟨(contents file rfl).trans holds.1, temporary.trans holds.2⟩
  | placed file bytes => exact ⟨(contents file rfl).trans holds.1, target.trans holds.2⟩

private theorem startOfEdits_safe (edits : Id → Edit Dir) (process : UInt32)
    (initial : OpenFiles (Place Dir)) :
    (startOfEdits edits initial).Safe (editContract process) EditRest
      (EditsApart edits process initial) := by
  refine ⟨fun id => { edit := edits id }, ⟨fun _ => rfl, fun _ _ => rfl, ?_, ?_, fun _ => trivial,
    Nat.le_refl _⟩, fun _ => ⟨rfl, rfl⟩⟩
  · rintro id file ⟨⟩
  · rintro first second file _ ⟨⟩

variable [DecidableEq Id]

/-- One edit goes a step further. -/
private theorem EditsApart.advance (invariant : EditsApart edits process initial files views)
    (id : Id) (progress : Progress) (notBegun : progress ≠ .begun)
    (origin : ∀ file, progress.file = some file →
      initial.slots ((edits id).target.temporary process) = some (.file file) ∨
        initial.made ≤ file ∧ file < after.made)
    (alone : ∀ other file, other ≠ id → (views other).progress.file = some file →
      progress.file ≠ some file)
    (own : Holds after process (edits id) progress)
    (contents : ∀ other file, other ≠ id → (views other).progress.file = some file →
      after.contents file = files.contents file)
    (temporaries : ∀ other, other ≠ id → after.slots ((edits other).target.temporary process) =
      files.slots ((edits other).target.temporary process))
    (targets : ∀ other, other ≠ id → after.slots (edits other).target =
      files.slots (edits other).target)
    (grows : files.made ≤ after.made) :
    EditsApart edits process initial after
      (Function.update views id { views id with progress := progress }) where
  edit := by
    intro other
    by_cases same : other = id
    · rw [same, Function.update_self]
      exact invariant.edit id
    · rw [Function.update_of_ne same]
      exact invariant.edit other
  begun := by
    intro other begun
    by_cases same : other = id
    · rw [same, Function.update_self] at begun
      exact absurd begun notBegun
    · rw [Function.update_of_ne same] at begun
      exact (temporaries other same).trans (invariant.begun other begun)
  origin := by
    intro other file opened
    by_cases same : other = id
    · rw [same, Function.update_self] at opened
      rw [same]
      exact origin file opened
    · rw [Function.update_of_ne same] at opened
      rcases invariant.origin other file opened with old | new
      · exact .inl old
      · exact .inr ⟨new.1, Nat.lt_of_lt_of_le new.2 grows⟩
  alone := by
    intro first second file different opened
    by_cases firstSame : first = id
    · have secondOther : second ≠ id := fun secondSame =>
        different (firstSame.trans secondSame.symm)
      rw [firstSame, Function.update_self] at opened
      rw [Function.update_of_ne secondOther]
      exact fun alsoOpened => alone second file secondOther alsoOpened opened
    · rw [Function.update_of_ne firstSame] at opened
      by_cases secondSame : second = id
      · rw [secondSame, Function.update_self]
        exact alone first file firstSame opened
      · rw [Function.update_of_ne secondSame]
        exact invariant.alone first second file different opened
  holds := by
    intro other
    by_cases same : other = id
    · rw [same, Function.update_self]
      exact own
    · rw [Function.update_of_ne same]
      exact (invariant.holds other).frame (fun file opened => contents other file same opened)
        (temporaries other same) (targets other same)
  grows := Nat.le_trans invariant.grows grows

/-- A write goes into the edit's own file. -/
private theorem EditsApart.write (invariant : EditsApart edits process initial files views)
    {id : Id} {file : Nat} (isOpened : (views id).progress = .opened file) {bytes : List UInt8}
    {progress : Progress} (notBegun : progress ≠ .begun) (sameFile : progress.file = some file)
    (own : Holds (files.setContent file bytes) process (edits id) progress) :
    EditsApart edits process initial (files.setContent file bytes)
      (Function.update views id { views id with progress := progress }) := by
  have owned : (views id).progress.file = some file := by
    rw [isOpened]
    rfl
  apply invariant.advance id progress notBegun
  · intro number same
    rw [sameFile] at same
    cases same
    exact invariant.origin id file owned
  · intro other number another alsoOwned same
    rw [sameFile] at same
    cases same
    exact invariant.alone other id file another alsoOwned owned
  · exact own
  · intro other number another alsoOwned
    apply Function.update_of_ne
    rintro rfl
    exact invariant.alone other id number another alsoOwned owned
  · exact fun _ _ => rfl
  · exact fun _ _ => rfl
  · exact Nat.le_refl _

variable [DecidableEq Dir]

/-- The file that a temporary is opened as belongs to no other edit. -/
private theorem EditsApart.create (invariant : EditsApart edits process initial files views)
    (apart : TemporariesApart edits process initial) {id : Id} {file : Nat}
    (begun : (views id).progress = .begun)
    (opens : files.Opens ((edits id).target.temporary process) true file after) :
    EditsApart edits process initial after
      (Function.update views id { views id with progress := .opened file }) := by
  have atFirst := invariant.begun id begun
  have opened := opens.opened (by rw [atFirst]; exact apart.noLinks id)
  have different : ∀ other number, other ≠ id → (views other).progress.file = some number →
      number ≠ file := by
    rintro other number another owned rfl
    rcases opened.origin with isFile | ⟨isNew, _⟩
    · rw [atFirst] at isFile
      rcases invariant.origin other number owned with old | new
      · exact apart.noSharing other id number another old isFile
      · have bounded := initial.bounded _ _ isFile
        omega
    · rcases invariant.origin other number owned with old | new
      · have bounded := initial.bounded _ _ old
        have grows := invariant.grows
        omega
      · omega
  apply invariant.advance id
  · rintro ⟨⟩
  · intro number same
    cases same
    rcases opened.origin with isFile | ⟨rfl, _⟩
    · exact .inl (atFirst ▸ isFile)
    · exact .inr ⟨invariant.grows, after.bounded _ _ opened.slot⟩
  · intro other number another owned same
    cases same
    exact different other _ another owned rfl
  · exact ⟨opens.empty, opened.slot⟩
  · exact fun other number another owned =>
      opened.others number (different other number another owned)
  · exact fun other another => opened.frame _ (apart.temporaries other id another)
  · exact fun other another => opened.frame _ (apart.targets id other (Ne.symm another)).symm
  · exact opened.grows

/-- The edit's own file becomes its target. -/
private theorem EditsApart.rename (invariant : EditsApart edits process initial files views)
    (apart : TemporariesApart edits process initial)
    (distinct : ∀ first second, first ≠ second → (edits first).target ≠ (edits second).target)
    {id : Id} {file : Nat} {bytes : List UInt8}
    (isWritten : (views id).progress = .written file bytes)
    (renames : files.Renames ((edits id).target.temporary process) (edits id).target after) :
    EditsApart edits process initial after
      (Function.update views id { views id with progress := .placed file bytes }) := by
  have holds := invariant.holds id
  rw [isWritten] at holds
  have owned : (views id).progress.file = some file := by
    rw [isWritten]
    rfl
  have renamed := renames.renamed holds.2
  apply invariant.advance id
  · rintro ⟨⟩
  · intro number same
    cases same
    rcases invariant.origin id file owned with old | new
    · exact .inl old
    · exact .inr (by rw [renamed.made]; exact new)
  · intro other number another alsoOwned same
    cases same
    exact invariant.alone other id file another alsoOwned owned
  · exact ⟨by rw [renamed.contents]; exact holds.1, renamed.slot⟩
  · exact fun _ _ _ _ => by rw [renamed.contents]
  · intro other another
    exact renamed.frame _ (apart.temporaries other id another) (apart.targets other id another)
  · intro other another
    exact renamed.frame _ (apart.targets id other (Ne.symm another)).symm
      (distinct other id another)
  · exact Nat.le_of_eq renamed.made.symm

/-- Step lemma. -/
theorem EditsApart.answers (invariant : EditsApart edits process initial files views)
    (apart : TemporariesApart edits process initial)
    (distinct : ∀ first second, first ≠ second → (edits first).target ≠ (edits second).target)
    {id : Id} {op : EditOp Dir} {reply : op.Reply}
    (admitted : (editContract process).Admits (views id) op)
    (answers : EditAnswers files op reply after) :
    ∃ view, (editContract process).Answers (views id) op reply view ∧
      EditsApart edits process initial after (Function.update views id view) := by
  have unchanged : EditsApart edits process initial files
      (Function.update views id (views id)) := by
    rw [Function.update_eq_self]
    exact invariant
  cases op with
  | resolve target =>
      obtain rfl := answers
      exact ⟨views id, rfl, unchanged⟩
  | createDirAll directory =>
      obtain rfl := answers
      exact ⟨views id, rfl, unchanged⟩
  | readToString place =>
      cases reply with
      | error error =>
          obtain rfl := answers
          exact ⟨views id, rfl, unchanged⟩
      | ok text =>
          obtain ⟨rfl, _⟩ := answers
          exact ⟨views id, rfl, unchanged⟩
  | create place =>
      obtain ⟨rfl, begun⟩ := admitted
      cases reply with
      | error error =>
          obtain rfl := answers
          exact ⟨views id, rfl, unchanged⟩
      | ok file =>
          replace answers : files.Opens _ true file after := answers
          rw [invariant.edit id] at answers
          exact ⟨_, rfl, invariant.create apart begun answers⟩
  | writeAll file bytes =>
      have isOpened : (views id).progress = .opened file := admitted
      have empty := invariant.holds id
      rw [isOpened] at empty
      cases reply with
      | error error =>
          obtain ⟨front, _, rfl⟩ := answers
          exact ⟨_, rfl, invariant.write isOpened (by rintro ⟨⟩) rfl trivial⟩
      | ok done =>
          obtain rfl := answers
          refine ⟨_, rfl, invariant.write isOpened (by rintro ⟨⟩) rfl ⟨?_, empty.2⟩⟩
          simp [empty.1]
  | rename source target =>
      obtain ⟨rfl, rfl, file, bytes, isWritten⟩ := admitted
      cases reply with
      | error error =>
          obtain rfl := answers
          exact ⟨views id, rfl, unchanged⟩
      | ok done =>
          replace answers : files.Renames _ _ after := answers
          rw [invariant.edit id] at answers
          exact ⟨_, ⟨file, bytes, isWritten, rfl⟩,
            invariant.rename apart distinct isWritten answers⟩

private theorem respects (apart : TemporariesApart edits process initial)
    (distinct : ∀ first second, first ≠ second → (edits first).target ≠ (edits second).target) :
    (editSystem process).Respects (editContract process) EditRest
      (EditsApart edits process initial) where
  offered := by
    rintro id state program view rest ⟨edit, rfl, rfl⟩
    obtain ⟨rfl, begun⟩ := rest
    exact wlp_seq (run_rest begun) fun _ _ ended => ended
  step := fun _ _ _ _ _ _ invariant admitted answered =>
    invariant.answers apart distinct admitted answered
  environment := fun _ _ _ _ impossible => impossible.elim

/-- In every interleaving of edits of different targets whose temporaries are apart, each
edit that ends with success has its own content in its own target. -/
theorem edits_independent
    (distinct : ∀ first second, first ≠ second → (edits first).target ≠ (edits second).target)
    (apart : TemporariesApart edits process initial) {pool : EditPool Id Dir}
    (reachable : (editSystem process).Reachable (startOfEdits edits initial) pool) :
    OwnContents edits pool := by
  obtain ⟨views, invariant, meets⟩ :=
    reachable.safe (respects apart distinct) (startOfEdits_safe edits process initial)
  intro id bytes ended
  have rest := meets id
  rw [ended] at rest
  obtain ⟨yields, file, placed⟩ := rest
  have holds := invariant.holds id
  rw [placed] at holds
  rw [invariant.edit id] at yields
  obtain ⟨rfl, isTarget⟩ := holds
  exact ⟨yields, OpenFiles.reads_of_slot isTarget⟩

end Steps

/-! ## Two runs -/

/-- A directory without files. -/
def emptyDirectory : OpenFiles (Place Unit) where
  slots := fun _ => none
  contents := fun _ => []
  made := 0
  bounded := fun _ _ impossible => absurd impossible (Option.some_ne_none _).symm

/-- The text `x` is written to the one file, and `y` to the other. -/
def twoEdits (first second : String) : Bool → Edit Unit
  | false => ⟨⟨(), first⟩, .writeFile "x"⟩
  | true => ⟨⟨(), second⟩, .writeFile "y"⟩

private theorem temporary_txt :
    (⟨(), "a.txt"⟩ : Place Unit).temporary 7 = ⟨(), "a.tmp7"⟩ := by decide +kernel

private theorem temporary_md :
    (⟨(), "a.md"⟩ : Place Unit).temporary 7 = ⟨(), "a.tmp7"⟩ := by decide +kernel

private theorem creates_txt :
    EditAnswers emptyDirectory (.create ((⟨(), "a.txt"⟩ : Place Unit).temporary 7)) (.ok 0)
      (emptyDirectory.addFile ⟨(), "a.tmp7"⟩) := by
  rw [temporary_txt]
  exact .new rfl

/-- The file that is open already is opened again and truncated. -/
private theorem creates_md {files : OpenFiles (Place Unit)}
    (isFile : files.slots ⟨(), "a.tmp7"⟩ = some (.file 0)) :
    EditAnswers files (.create ((⟨(), "a.md"⟩ : Place Unit).temporary 7)) (.ok 0)
      (files.setContent 0 []) := by
  rw [temporary_md]
  exact .found (.of_file isFile) isFile

private theorem renames_txt {files : OpenFiles (Place Unit)}
    (isFile : files.slots ⟨(), "a.tmp7"⟩ = some (.file 0))
    (missing : files.slots ⟨(), "a.txt"⟩ = none) :
    EditAnswers files (.rename ((⟨(), "a.txt"⟩ : Place Unit).temporary 7) ⟨(), "a.txt"⟩) (.ok ())
      (files.move ⟨(), "a.tmp7"⟩ ⟨(), "a.txt"⟩) := by
  rw [temporary_txt]
  refine .moved isFile (by decide +kernel) fun number _ isNumber => ?_
  rw [missing] at isNumber
  cases isNumber

/-- Two edits that share their temporary: the first ends with success, and its target has
the content of the second. -/
theorem edits_dependent :
    ∃ pool, (editSystem 7).Reachable (startOfEdits (twoEdits "a.txt" "a.md") emptyDirectory) pool ∧
      ¬ OwnContents (twoEdits "a.txt" "a.md") pool := by
  have start : (editSystem 7).Reachable (startOfEdits (twoEdits "a.txt" "a.md") emptyDirectory)
    (startOfEdits (twoEdits "a.txt" "a.md") emptyDirectory) := .refl
  have begins := start.begin false _ rfl ⟨_, rfl, rfl⟩
  have resolved := begins.call false rfl (.ok ()) _ rfl
  have prepared := resolved.call false rfl (.ok ()) _ rfl
  have created := prepared.call false rfl (.ok 0) _ creates_txt
  have wrote := created.call false rfl (.ok ()) _ rfl
  have follows := wrote.begin true _ rfl ⟨_, rfl, rfl⟩
  have alsoResolved := follows.call true rfl (.ok ()) _ rfl
  have alsoPrepared := alsoResolved.call true rfl (.ok ()) _ rfl
  have alsoCreated := alsoPrepared.call true rfl (.ok 0) _ (creates_md rfl)
  have alsoWrote := alsoCreated.call true rfl (.ok ()) _ rfl
  have renamed := alsoWrote.call false rfl (.ok ()) _ (renames_txt rfl rfl)
  have ended := renamed.finish false rfl
  refine ⟨_, ended, fun own => ?_⟩
  obtain ⟨_, last, number, leads, isFile, content⟩ := own false _ rfl
  obtain rfl := leads.eq_of_noLink (by rintro target ⟨⟩)
  cases isFile
  exact absurd content (by decide +kernel)

private theorem apart_b :
    TemporariesApart (twoEdits "a.txt" "b.txt") 7 emptyDirectory where
  temporaries := by decide +kernel
  targets := by decide +kernel
  noLinks := by rintro id target ⟨⟩
  noSharing := by rintro first second file _ ⟨⟩

/-- Two edits whose temporaries are apart: the first ends while the other is under way. -/
theorem edits_independent_b :
    ∃ pool, (editSystem 7).Reachable (startOfEdits (twoEdits "a.txt" "b.txt") emptyDirectory) pool ∧
      pool.activity false = .resting (.ended (.ok (utf8Bytes "x"))) ∧
      OwnContents (twoEdits "a.txt" "b.txt") pool := by
  have start : (editSystem 7).Reachable (startOfEdits (twoEdits "a.txt" "b.txt") emptyDirectory)
    (startOfEdits (twoEdits "a.txt" "b.txt") emptyDirectory) := .refl
  have begins := start.begin false _ rfl ⟨_, rfl, rfl⟩
  have resolved := begins.call false rfl (.ok ()) _ rfl
  have prepared := resolved.call false rfl (.ok ()) _ rfl
  have created := prepared.call false rfl (.ok 0) _ creates_txt
  have follows := created.begin true _ rfl ⟨_, rfl, rfl⟩
  have wrote := follows.call false rfl (.ok ()) _ rfl
  have renamed := wrote.call false rfl (.ok ()) _ (renames_txt rfl rfl)
  have ended := renamed.finish false rfl
  exact ⟨_, ended, rfl, edits_independent (by decide +kernel) apart_b ended⟩

end TriAI.Coding
