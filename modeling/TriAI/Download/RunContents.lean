import TriAI.Download.Concurrent
import TriAI.Staging.Effects

/-!
Contract: what a run of one download does with its files.

Owns: the contract of a single run, which keeps the part file a beginning of the content
and installs nothing but the content, over the rules of the staging operations.

Does not own: other runs of the same download (`Download.Contents`).
-/

set_option autoImplicit false

namespace TriAI.Download

open TriAI.Library.FileTree
open TriAI.Library.Interaction
open TriAI.Library.TextLines
open TriAI.Staging
open TriAI.Storage

/-! ## Programs over files -/

/-- Programs that keep a property of the files. -/
def onFiles (Keeps : Files → Prop) : Contract StoreOp StoreOp.Reply Files where
  Admits := fun files op => ∀ reply after, FileStep files op reply after → Keeps after
  Answers := FileStep

section Store

variable {α β : Type} {Keeps : Files → Prop} {files : Files}

/-- What a call does not write stays. -/
private theorem fileStep_frame {region : Path → Prop} {op : StoreOp}
    (within : op.WritesWithin region) {reply : op.Reply} {after : Files}
    (step : FileStep files op reply after) {other : Path} (outside : ¬ region other) :
    after other = files other := by
  obtain ⟨noDirectory, writes⟩ := within
  have apart : ∀ path ∈ op.writes, other ≠ path := by
    rintro path member rfl
    exact outside (writes other member)
  cases op with
  | createDirAll path => exact absurd rfl (noDirectory path)
  | createNew path =>
      cases reply with
      | error _ => exact congrFun step other
      | ok _ =>
          rw [show after = _ from step,
            Function.update_of_ne (apart path (by simp [StoreOp.writes]))]
  | openAppend path =>
      cases reply with
      | error _ => exact congrFun step other
      | ok _ =>
          rw [show after = _ from step,
            Function.update_of_ne (apart path (by simp [StoreOp.writes]))]
  | create path =>
      cases reply with
      | error _ => exact congrFun step other
      | ok _ =>
          rw [show after = _ from step,
            Function.update_of_ne (apart path (by simp [StoreOp.writes]))]
  | writeAll path bytes =>
      cases reply with
      | error _ => exact congrFun step other
      | ok _ =>
          obtain ⟨before, next, _, _, rfl⟩ := step
          rw [Function.update_of_ne (apart path (by simp [StoreOp.writes]))]
  | removeFile path =>
      cases reply with
      | error _ => exact congrFun step.1 other
      | ok _ =>
          rw [show after = _ from step,
            Function.update_of_ne (apart path (by simp [StoreOp.writes]))]
  | rename source target =>
      cases reply with
      | error _ => exact congrFun step other
      | ok _ =>
          obtain ⟨moved, _, rfl⟩ := step
          split
          · rfl
          · rw [Function.update_of_ne (apart source (by simp [StoreOp.writes])),
              Function.update_of_ne (apart target (by simp [StoreOp.writes]))]
  | copy source target =>
      cases reply with
      | error _ => exact congrFun step other
      | ok _ =>
          obtain ⟨copied, _, rfl⟩ := step
          rw [Function.update_of_ne (apart target (by simp [StoreOp.writes]))]
  | length path =>
      cases reply with
      | error _ => exact congrFun step other
      | ok _ => exact congrFun step.1 other
  | openRead path => exact congrFun step other
  | openWrite path => exact congrFun step other
  | flush path => exact congrFun step other
  | syncAll path => exact congrFun step other
  | syncDir path => exact congrFun step other
  | isFile path => exact congrFun step other
  | read path => exact congrFun step other
  | readDir path => exact congrFun step other
  | sha256sum path => exact congrFun step other

/-- A program that writes within a region keeps what depends on other files only. -/
theorem wlp_onFiles_within {region : Path → Prop} {program : Prog StoreOp StoreOp.Reply α}
    (within : program.Only (StoreOp.WritesWithin region))
    (frames : ∀ after : Files, (∀ path, ¬ region path → after path = files path) → Keeps after) :
    wlp (onFiles Keeps) program
      (fun _ after => ∀ path, ¬ region path → after path = files path) files := by
  have framed : ∀ program : Prog StoreOp StoreOp.Reply α,
      program.Only (StoreOp.WritesWithin region) → ∀ before : Files,
      (∀ path, ¬ region path → before path = files path) →
      wlp (onFiles Keeps) program
        (fun _ after => ∀ path, ¬ region path → after path = files path) before := by
    intro program
    induction program with
    | ret value => exact fun _ _ same => same
    | call op next inductionHypothesis =>
        intro within before same
        have step : ∀ reply after, FileStep before op reply after →
            ∀ path, ¬ region path → after path = files path := by
          intro reply after step path outside
          rw [fileStep_frame within.1 step outside, same path outside]
        refine ⟨fun reply after taken => frames after (step reply after taken), ?_⟩
        intro reply after taken
        exact inductionHypothesis reply (within.2 reply) after (step reply after taken)
  exact framed program within files fun _ _ => rfl

/-- Calls that change no file. -/
private def ReadsOnly (op : StoreOp) : Prop :=
  ∀ (files : Files) (reply : op.Reply) (after : Files), FileStep files op reply after →
    after = files

private theorem readsOnly_of_writes {op : StoreOp} (within : op.WritesWithin fun _ => False) :
    ReadsOnly op := fun _ _ _ step => funext fun _ => fileStep_frame within step id

private theorem wlp_reads {program : Prog StoreOp StoreOp.Reply α} (reads : program.Only ReadsOnly)
    (keeps : Keeps files) : wlp (onFiles Keeps) program (fun _ after => after = files) files := by
  induction program with
  | ret value => rfl
  | call op next inductionHypothesis =>
      constructor
      · intro reply after step
        rw [reads.1 files reply after step]
        exact keeps
      · intro reply after step
        obtain rfl := reads.1 files reply after step
        exact inductionHypothesis reply (reads.2 reply)

/-- What follows a part that only reads. -/
private theorem wlp_after_reads {program : Stage α} {rest : α → Stage β}
    {post : Except IoFailure β → Files → Prop}
    (reads : Fallible.Only ReadsOnly program) (keeps : Keeps files)
    (fails : ∀ failure, post (.error failure) files)
    (continues : ∀ value, wlp (onFiles Keeps) (rest value).run post files) :
    wlp (onFiles Keeps) (program >>= rest).run post files := by
  rw [Fallible.wlp_run_bind]
  apply wlp_mono (wlp_reads reads keeps)
  rintro reached _ rfl
  cases reached with
  | ok value => exact continues value
  | error failure => exact fails failure

/-- A part with a cleanup. -/
private theorem wlp_onError {body : Stage α} {cleanup : Stage Unit}
    {post : Except IoFailure α → Files → Prop}
    (holds : wlp (onFiles Keeps) body.run
      (fun reached after => match reached with
        | .ok value => post (.ok value) after
        | .error failure =>
            wlp (onFiles Keeps) cleanup.run (fun _ last => post (.error failure) last) after)
      files) :
    wlp (onFiles Keeps) (body.onError cleanup).run post files := by
  unfold Fallible.onError
  rw [ExceptT.run_mk]
  apply wlp_seq holds
  intro reached after cleaned
  cases reached with
  | ok value => exact cleaned
  | error failure => exact wlp_seq cleaned fun _ _ holds => holds

private theorem reads_recover (root : Path) : Fallible.Only ReadsOnly (recover root) :=
  Prog.Only.mono (only_recover root) fun _ => readsOnly_of_writes

end Store

/-! ## The staging store -/

section Staging

variable {content : ByteVec} {part : Path} {files : Files}

theorem PartOf.set {path : Path} {value : Option ByteVec} (keeps : PartOf content part files)
    (begins : ∀ found, value = some found → found.bytes <+: content.bytes) :
    PartOf content part (Function.update files path value) := by
  intro found isFound
  by_cases same : part = path
  · rw [same, Function.update_self] at isFound
    exact begins found isFound
  · rw [Function.update_of_ne same] at isFound
    exact keeps found isFound

theorem PartOf.other {path : Path} {value : Option ByteVec} (keeps : PartOf content part files)
    (different : part ≠ path) : PartOf content part (Function.update files path value) := by
  intro found isFound
  rw [Function.update_of_ne different] at isFound
  exact keeps found isFound

variable {root : Path} {blockId : String} {generation : UInt64}

/-- The part file is opened, and its length measured. -/
theorem wlp_openPartForResume
    (keeps : PartOf content (partPath root blockId generation) files) :
    wlp (onFiles (PartOf content (partPath root blockId generation)))
      (openPartForResume root blockId generation).run
      (fun reached after => PartOf content (partPath root blockId generation) after ∧
        ∀ length, reached = .ok length → ∃ found,
          after (partPath root blockId generation) = some found ∧
          length = UInt64.ofNat found.bytes.length ∧
          found = (files (partPath root blockId generation)).getD emptyFile) files := by
  unfold openPartForResume
  apply wlp_after_reads (Fallible.Only.result _) keeps
  · exact fun failure => ⟨keeps, fun _ reached => by cases reached⟩
  intro _
  dsimp only
  have opened : PartOf content (partPath root blockId generation)
      (Function.update files (partPath root blockId generation)
        (some ((files (partPath root blockId generation)).getD emptyFile))) := by
    apply keeps.set
    intro found same
    cases present : files (partPath root blockId generation) with
    | none =>
        rw [present] at same
        cases same
        exact List.nil_prefix
    | some before =>
        rw [present] at same
        cases same
        exact keeps _ present
  rw [Fallible.wlp_run_bind]
  constructor
  · intro reply after step
    cases reply with
    | error _ => exact step ▸ keeps
    | ok _ => exact step ▸ opened
  · intro reply after step
    cases reply with
    | error _ => exact ⟨step ▸ keeps, fun _ reached => by cases reached⟩
    | ok _ =>
        obtain rfl := step
        constructor
        · intro reply last step
          cases reply with
          | error _ => exact step ▸ opened
          | ok _ => exact step.1 ▸ opened
        · intro reply last step
          cases reply with
          | error _ => exact ⟨step ▸ opened, fun _ reached => by cases reached⟩
          | ok length =>
              obtain ⟨rfl, measured⟩ := step
              refine ⟨opened, ?_⟩
              intro _ reached
              cases reached
              exact ⟨_, Function.update_self .., measured _ (Function.update_self ..), rfl⟩

theorem wlp_discardPart
    (keeps : PartOf content (partPath root blockId generation) files) :
    wlp (onFiles (PartOf content (partPath root blockId generation)))
      (discardPart root blockId generation).run
      (fun reached after => PartOf content (partPath root blockId generation) after ∧
        (reached = .ok () → after (partPath root blockId generation) = none)) files := by
  unfold discardPart
  apply wlp_after_reads (Fallible.Only.result _) keeps
  · exact fun failure => ⟨keeps, fun reached => by cases reached⟩
  intro _
  have removed : PartOf content (partPath root blockId generation)
      (Function.update files (partPath root blockId generation) none) :=
    keeps.set fun _ same => by cases same
  rw [Fallible.wlp_run_bind, Fallible.wlp_run_capture]
  constructor
  · intro reply after step
    cases reply with
    | error _ => exact step.1 ▸ keeps
    | ok _ => exact step ▸ removed
  · intro reply after step
    cases reply with
    | error error =>
        obtain ⟨rfl, absent⟩ := step
        refine ⟨keeps, ?_⟩
        intro reached
        apply absent
        by_contra other
        have failed : ignoreNotFound (Except.mapError os (.error error)) = .error (os error) :=
          if_neg other
        rw [failed] at reached
        cases reached
    | ok _ =>
        obtain rfl := step
        exact ⟨removed, fun _ => Function.update_self ..⟩

/-- A chunk continues the part file. -/
private theorem wlp_writeChunk {found : ByteVec} {chunk : List UInt8}
    (keeps : PartOf content part files) (present : files part = some found)
    (continues : found.bytes ++ chunk <+: content.bytes) :
    wlp (onFiles (PartOf content part)) (Store.writeAll os part chunk).run
      (fun reached after => PartOf content part after ∧
        (reached = .ok () → ∃ next, after part = some next ∧
          next.bytes = found.bytes ++ chunk)) files := by
  have written : ∀ before next : ByteVec, files part = some before →
      next.bytes = before.bytes ++ chunk →
      next.bytes = found.bytes ++ chunk ∧
        PartOf content part (Function.update files part (some next)) := by
    intro before next isBefore bytes
    obtain rfl := Option.some.inj (present.symm.trans isBefore)
    refine ⟨bytes, keeps.set ?_⟩
    intro other same
    cases same
    rw [bytes]
    exact continues
  constructor
  · intro reply after step
    cases reply with
    | error _ => exact step ▸ keeps
    | ok _ =>
        obtain ⟨before, next, isBefore, bytes, rfl⟩ := step
        exact (written before next isBefore bytes).2
  · intro reply after step
    cases reply with
    | error _ => exact ⟨step ▸ keeps, fun reached => by cases reached⟩
    | ok _ =>
        obtain ⟨before, next, isBefore, bytes, rfl⟩ := step
        obtain ⟨bytes, kept⟩ := written before next isBefore bytes
        exact ⟨kept, fun _ => ⟨next, Function.update_self .., bytes⟩⟩

private theorem partPath_ne_blobPath :
    partPath root blockId generation ≠ blobPath root blockId generation := by
  intro same
  exact not_isPart_blobPath root blockId generation (same ▸ isPart_partPath root blockId generation)

private theorem partPath_ne_commitPath :
    partPath root blockId generation ≠ commitPath root blockId generation := by
  intro same
  exact not_isPart_commitPath root blockId generation
    (same ▸ isPart_partPath root blockId generation)

/-- The part file becomes the data file, whether or not its marker can be written. -/
private theorem wlp_publish {record : CommitRecord} {found : ByteVec}
    (keeps : PartOf content (partPath root record.blockId record.generation) files)
    (present : files (partPath root record.blockId record.generation) = some found) :
    wlp (onFiles (PartOf content (partPath root record.blockId record.generation)))
      (publish root record).run
      (fun reached after => PartOf content (partPath root record.blockId record.generation) after ∧
        ∀ result, reached = .ok result →
          after (blobPath root record.blockId record.generation) = some found) files := by
  unfold publish
  dsimp only
  have keepsRenamed : PartOf content (partPath root record.blockId record.generation)
      (Function.update (Function.update files (blobPath root record.blockId record.generation)
        (some found)) (partPath root record.blockId record.generation) none) :=
    (keeps.other partPath_ne_blobPath).set fun _ same => by cases same
  have blobRenamed : Function.update (Function.update files
      (blobPath root record.blockId record.generation) (some found))
        (partPath root record.blockId record.generation) none
        (blobPath root record.blockId record.generation) = some found := by
    rw [Function.update_of_ne partPath_ne_blobPath.symm, Function.update_self]
  have renamed : ∀ moved, files (partPath root record.blockId record.generation) = some moved →
      moved = found := fun moved isMoved => Option.some.inj (isMoved.symm.trans present)
  rw [Fallible.wlp_run_bind]
  constructor
  · intro reply after step
    cases reply with
    | error _ => exact step ▸ keeps
    | ok _ =>
        obtain ⟨moved, isMoved, rfl⟩ := step
        obtain rfl := renamed moved isMoved
        rw [if_neg partPath_ne_blobPath]
        exact keepsRenamed
  · intro reply after step
    cases reply with
    | error _ => exact ⟨step ▸ keeps, fun _ reached => by cases reached⟩
    | ok _ =>
        obtain ⟨moved, isMoved, rfl⟩ := step
        obtain rfl := renamed moved isMoved
        rw [if_neg partPath_ne_blobPath]
        have within : Fallible.Only (StoreOp.WritesWithin
            (· = commitPath root record.blockId record.generation)) _ :=
          only_writeMarker root record rfl
        have frames : ∀ after : Files,
            (∀ path, path ≠ commitPath root record.blockId record.generation →
              after path = Function.update (Function.update files
                (blobPath root record.blockId record.generation) (some moved))
                (partPath root record.blockId record.generation) none path) →
            PartOf content (partPath root record.blockId record.generation) after := by
          intro after same found isFound
          rw [same _ partPath_ne_commitPath] at isFound
          exact keepsRenamed found isFound
        apply wlp_mono (wlp_onFiles_within within frames)
        intro reached after same
        refine ⟨frames after same, fun _ _ => ?_⟩
        rw [same _ (commitPath_ne_blobPath root _ _ _ _).symm]
        exact blobRenamed

/-- The calls that bring a file to the disk change no file. -/
private theorem reads_sync {path : Path} :
    Fallible.Only ReadsOnly (do Store.openWrite os path; Store.syncAll os path : Stage Unit) := by
  refine Fallible.Only.bind (Fallible.Only.attempt ⟨fun _ _ _ step => step, fun _ => trivial⟩) ?_
  intro _
  exact Fallible.Only.attempt ⟨fun _ _ _ step => step, fun _ => trivial⟩

/-- The part file is measured; another digest than the expected one removes it. -/
private theorem wlp_measurePart {expectedSha256 : Option String}
    (keeps : PartOf content (partPath root blockId generation) files) :
    wlp (onFiles (PartOf content (partPath root blockId generation)))
      (measurePart root blockId generation expectedSha256).run
      (fun reached after => PartOf content (partPath root blockId generation) after ∧
        ∀ record, reached = .ok record →
          after = files ∧ record.blockId = blockId ∧ record.generation = generation) files := by
  unfold measurePart
  apply wlp_after_reads _ keeps
  · exact fun failure => ⟨keeps, fun _ reached => by cases reached⟩
  · intro bytes
    apply wlp_after_reads _ keeps
    · exact fun failure => ⟨keeps, fun _ reached => by cases reached⟩
    · intro sha
      cases expectedSha256 with
      | none => exact ⟨keeps, fun record reached => by cases reached; exact ⟨rfl, rfl, rfl⟩⟩
      | some expected =>
          simp only [checkDigest]
          split
          · exact ⟨keeps, fun record reached => by cases reached; exact ⟨rfl, rfl, rfl⟩⟩
          · have removed : PartOf content (partPath root blockId generation)
                (Function.update files (partPath root blockId generation) none) :=
              keeps.set fun _ same => by cases same
            rw [Fallible.wlp_run_bind, Fallible.wlp_run_bind, Fallible.wlp_run_capture]
            constructor
            · intro reply after step
              cases reply with
              | error _ => exact step.1 ▸ keeps
              | ok _ => exact step ▸ removed
            · intro reply after step
              cases reply with
              | error _ => exact ⟨step.1 ▸ keeps, fun _ reached => by cases reached⟩
              | ok _ => exact ⟨step ▸ removed, fun _ reached => by cases reached⟩
    · exact Prog.Only.mono (Store.only_read (.sha256sum _) (by simp) rfl) fun _ =>
        readsOnly_of_writes
  · exact Prog.Only.mono (Store.only_read (.length _) (by simp) rfl) fun _ =>
      readsOnly_of_writes

/-- The part file is committed as it is. -/
theorem wlp_finalizePart {expectedSha256 : Option String} {found : ByteVec}
    (keeps : PartOf content (partPath root blockId generation) files)
    (present : files (partPath root blockId generation) = some found) :
    wlp (onFiles (PartOf content (partPath root blockId generation)))
      (finalizePart root blockId generation expectedSha256).run
      (fun reached after => PartOf content (partPath root blockId generation) after ∧
        ∀ result, reached = .ok result →
          after (blobPath root blockId generation) = some found) files := by
  unfold finalizePart
  apply wlp_after_reads _ keeps
  · exact fun failure => ⟨keeps, fun _ reached => by cases reached⟩
  · intro _
    unfold commitPart
    rw [Fallible.wlp_run_bind]
    apply wlp_mono (wlp_measurePart keeps)
    rintro reached after ⟨kept, measured⟩
    cases reached with
    | error failure => exact ⟨kept, fun _ reached => by cases reached⟩
    | ok record =>
        obtain ⟨rfl, rfl, rfl⟩ := measured record rfl
        exact wlp_publish keeps present
  · exact Fallible.Only.bind (Fallible.Only.result _) fun _ => reads_sync

/-- A file beside the target is removed again. -/
private theorem wlp_removeTemporary {temporary : Path}
    (keeps : PartOf content part files) :
    wlp (onFiles (PartOf content part)) (Store.removeFile os temporary).run
      (fun _ after => PartOf content part after) files := by
  have removed : PartOf content part (Function.update files temporary none) :=
    keeps.set fun _ same => by cases same
  constructor
  · intro reply after step
    cases reply with
    | error _ => exact step.1 ▸ keeps
    | ok _ => exact step ▸ removed
  · intro reply after step
    cases reply with
    | error _ => exact step.1 ▸ keeps
    | ok _ => exact step ▸ removed

/-- A step of the restoring, which removes the file beside the target if it fails. -/
private theorem wlp_cleanup {temporary : Path} {body : Stage Unit} {Done : Files → Prop}
    (holds : wlp (onFiles (PartOf content part)) body.run
      (fun reached after => PartOf content part after ∧ (reached = .ok () → Done after)) files) :
    wlp (onFiles (PartOf content part)) (body.onError (Store.removeFile os temporary)).run
      (fun reached after => PartOf content part after ∧ (reached = .ok () → Done after)) files := by
  apply wlp_onError
  apply wlp_mono holds
  rintro reached after ⟨kept, done⟩
  cases reached with
  | ok _ => exact ⟨kept, done⟩
  | error failure =>
      apply wlp_mono (wlp_removeTemporary kept)
      exact fun _ last keptLast => ⟨keptLast, fun reached => by cases reached⟩

private theorem wlp_copy {source target : Path} (keeps : PartOf content part files)
    (present : files source = some content) :
    wlp (onFiles (PartOf content part)) (Store.copy os source target).run
      (fun reached after => PartOf content part after ∧
        (reached = .ok () → after target = some content)) files := by
  have copied : ∀ found, files source = some found → found = content ∧
      PartOf content part (Function.update files target (some found)) := by
    intro found isFound
    obtain rfl := Option.some.inj (isFound.symm.trans present)
    refine ⟨rfl, keeps.set ?_⟩
    intro other same
    cases same
    exact List.prefix_refl _
  constructor
  · intro reply after step
    cases reply with
    | error _ => exact step ▸ keeps
    | ok _ =>
        obtain ⟨found, isFound, rfl⟩ := step
        exact (copied found isFound).2
  · intro reply after step
    cases reply with
    | error _ => exact ⟨step ▸ keeps, fun reached => by cases reached⟩
    | ok _ =>
        obtain ⟨found, isFound, rfl⟩ := step
        obtain ⟨rfl, kept⟩ := copied found isFound
        exact ⟨kept, fun _ => Function.update_self ..⟩

private theorem wlp_rename {source target : Path} (keeps : PartOf content part files)
    (present : files source = some content) :
    wlp (onFiles (PartOf content part)) (Store.rename os source target).run
      (fun reached after => PartOf content part after ∧
        (reached = .ok () → after target = some content)) files := by
  have renamed : ∀ found after, files source = some found →
      (after = if source = target then files
        else Function.update (Function.update files target (some found)) source none) →
      PartOf content part after ∧ after target = some content := by
    intro found after isFound same
    obtain rfl := Option.some.inj (isFound.symm.trans present)
    by_cases onItself : source = target
    · rw [if_pos onItself] at same
      rw [same, ← onItself]
      exact ⟨keeps, present⟩
    · rw [if_neg onItself] at same
      rw [same]
      refine ⟨PartOf.set (keeps.set ?_) (fun _ absent => by cases absent), ?_⟩
      · intro other isContent
        cases isContent
        exact List.prefix_refl _
      · rw [Function.update_of_ne (Ne.symm onItself), Function.update_self]
  constructor
  · intro reply after step
    cases reply with
    | error _ => exact step ▸ keeps
    | ok _ =>
        obtain ⟨found, isFound, same⟩ := step
        exact (renamed found after isFound same).1
  · intro reply after step
    cases reply with
    | error _ => exact ⟨step ▸ keeps, fun reached => by cases reached⟩
    | ok _ =>
        obtain ⟨found, isFound, same⟩ := step
        obtain ⟨kept, done⟩ := renamed found after isFound same
        exact ⟨kept, fun _ => done⟩

/-- The data file is copied and the copy renamed to the target. -/
private theorem wlp_restoreRecord {record : CommitRecord} {processId nanos : Nat}
    {targetDir target : Path} (keeps : PartOf content part files)
    (present : files (blobPath root record.blockId record.generation) = some content) :
    wlp (onFiles (PartOf content part))
      (restoreRecord root record processId nanos targetDir target).run
      (fun reached after => PartOf content part after ∧
        (reached = .ok () → after target = some content)) files := by
  unfold restoreRecord
  dsimp only
  generalize targetDir ++ [restoreName record.blockId record.generation processId nanos] =
    temporary
  rw [Fallible.wlp_run_bind]
  apply wlp_mono (wlp_cleanup (wlp_copy keeps present))
  rintro reached copied ⟨keeps, isCopy⟩
  cases reached with
  | error failure => exact ⟨keeps, fun reached => by cases reached⟩
  | ok _ =>
      dsimp only
      have synced : wlp (onFiles (PartOf content part))
          (do Store.openWrite os temporary; Store.syncAll os temporary : Stage Unit).run
          (fun reached after => PartOf content part after ∧
            (reached = .ok () → after temporary = some content)) copied := by
        apply wlp_mono (wlp_reads reads_sync keeps)
        rintro _ _ rfl
        exact ⟨keeps, fun _ => isCopy rfl⟩
      rw [Fallible.wlp_run_bind]
      apply wlp_mono (wlp_cleanup synced)
      rintro reached after ⟨keeps, isCopy⟩
      cases reached with
      | error failure => exact ⟨keeps, fun reached => by cases reached⟩
      | ok _ =>
          dsimp only
          rw [Fallible.wlp_run_bind]
          apply wlp_mono (wlp_cleanup (wlp_rename keeps (isCopy rfl)))
          rintro reached last ⟨keeps, isTarget⟩
          cases reached with
          | error failure => exact ⟨keeps, fun reached => by cases reached⟩
          | ok _ =>
              have reads : Fallible.Only ReadsOnly (Store.syncDir os targetDir) :=
                Fallible.Only.attempt ⟨fun _ _ _ step => step, fun _ => trivial⟩
              apply wlp_mono (wlp_reads reads keeps)
              rintro _ _ rfl
              exact ⟨keeps, fun _ => isTarget rfl⟩

/-- Whatever lies at the data file of the content is copied to the target. -/
theorem wlp_restoreActive {processId nanos : Nat} {target : Path}
    (keeps : PartOf content part files)
    (present : files (blobPath root blockId generation) = some content) :
    wlp (onFiles (PartOf content part))
      (restoreActive root processId nanos blockId generation target).run
      (fun reached after => PartOf content part after ∧
        (reached = .ok () → after target = some content)) files := by
  unfold restoreActive
  apply wlp_after_reads (Fallible.Only.result _) keeps
  · exact fun failure => ⟨keeps, fun reached => by cases reached⟩
  intro _
  apply wlp_after_reads (reads_recover root) keeps
  · exact fun failure => ⟨keeps, fun reached => by cases reached⟩
  intro records
  cases listed : findRecord blockId generation records with
  | error failure => exact ⟨keeps, fun reached => by cases reached⟩
  | ok record =>
      obtain ⟨rfl, rfl⟩ := of_findRecord listed
      cases parent target with
      | error failure => exact ⟨keeps, fun reached => by cases reached⟩
      | ok targetDir => exact wlp_restoreRecord keeps present

end Staging

/-! ## A single run -/

/-- What a run sees: the files, its handle and its connection. -/
structure RunView where
  files : Files
  handle : DownloadHandle
  connection : Connection

/-- A run keeps the part file a beginning of the content, and is `Completed` only where
the target is the content. -/
def contentContract (content : ByteVec) (part target : Path) :
    Contract DownloadOp DownloadOp.Reply RunView where
  Admits := fun view op =>
    match op with
    | .store op => (onFiles (PartOf content part)).Admits view.files op
    | .handle (.setPhase .completed) => view.files target = some content
    | _ => True
  Answers := fun view op reply after =>
    match op, reply with
    | .store op, reply =>
        ∃ files, FileStep view.files op reply files ∧ after = { view with files }
    | .outside op, reply =>
        ∃ connection, Serves content.bytes view.connection op reply connection ∧
          after = { view with connection }
    | .handle op, reply =>
        ∃ handle, op.apply view.handle = (reply, handle) ∧ after = { view with handle }

section Run

variable {content : ByteVec} {part target : Path} {view : RunView} {α : Type}

/-- A program of the staging store. -/
private theorem content_onStore {program : Prog StoreOp StoreOp.Reply α}
    {post : α → RunView → Prop}
    (holds : wlp (onFiles (PartOf content part)) program
      (fun value files => post value { view with files }) view.files) :
    wlp (contentContract content part target) (Client.onStore program) post view := by
  let focus : Files → RunView := fun files => { view with files }
  have admits : ∀ files op, (onFiles (PartOf content part)).Admits files op →
      (contentContract content part target).Admits (focus files) (.store op) :=
    fun _ _ admitted => admitted
  have answers : ∀ files (op : StoreOp) (reply : op.Reply) after,
      (contentContract content part target).Answers (focus files) (.store op) reply after →
      ∃ next, (onFiles (PartOf content part)).Answers files op reply next ∧ after = focus next :=
    fun _ _ _ _ answered => answered
  exact wlp_embed admits answers holds

/-- A part of a run: it keeps the part file, and if it succeeds more is known. -/
private def Safely (content : ByteVec) (part : Path) (known : α → RunView → Prop)
    (reached : Except DownloadFailure α) (after : RunView) : Prop :=
  PartOf content part after.files ∧ ∀ value, reached = .ok value → known value after

variable {β : Type} {known : α → RunView → Prop} {last : β → RunView → Prop}

private theorem safely_bind {program : Client α} {rest : α → Client β}
    (first : wlp (contentContract content part target) program.run (Safely content part known) view)
    (second : ∀ value after, PartOf content part after.files → known value after →
      wlp (contentContract content part target) (rest value).run (Safely content part last) after) :
    wlp (contentContract content part target) (program >>= rest).run
      (Safely content part last) view := by
  rw [Fallible.wlp_run_bind]
  apply wlp_mono first
  rintro reached after ⟨kept, holds⟩
  cases reached with
  | ok value => exact second value after kept (holds value rfl)
  | error failure => exact ⟨kept, fun _ reached => by cases reached⟩

/-- A check, after which the view is what it was. -/
private theorem safely_check {result : Except DownloadFailure α} {rest : α → Client β}
    (keeps : PartOf content part view.files)
    (second : ∀ value, result = .ok value →
      wlp (contentContract content part target) (rest value).run (Safely content part last) view) :
    wlp (contentContract content part target) (Client.ofExcept result >>= rest).run
      (Safely content part last) view := by
  cases result with
  | ok value => exact second value rfl
  | error failure => exact ⟨keeps, fun _ reached => by cases reached⟩

variable (target) in
private theorem safely_pure {value : α} (keeps : PartOf content part view.files)
    (holds : known value view) :
    wlp (contentContract content part target) (pure value : Client α).run
      (Safely content part known) view := by
  refine ⟨keeps, ?_⟩
  rintro _ same
  cases same
  exact holds

private theorem safely_stage {context : String} {program : Stage α}
    (holds : wlp (onFiles (PartOf content part)) program.run
      (fun reached files => PartOf content part files ∧
        ∀ value, reached = .ok value → known value { view with files }) view.files) :
    wlp (contentContract content part target) (Client.stage context program).run
      (Safely content part known) view := by
  have stored : wlp (contentContract content part target) (Client.onStore program.run)
      (fun reached after => PartOf content part after.files ∧
        ∀ value, reached = .ok value → known value after) view := content_onStore holds
  apply wlp_seq stored
  rintro reached after ⟨kept, knows⟩
  cases reached with
  | ok value =>
      refine ⟨kept, ?_⟩
      rintro _ same
      cases same
      exact knows value rfl
  | error failure => exact ⟨kept, fun _ reached => by cases reached⟩

private theorem safely_ignore {program : Stage α} {known : Unit → RunView → Prop}
    (holds : wlp (onFiles (PartOf content part)) program.run
      (fun _ files => PartOf content part files ∧ known () { view with files }) view.files) :
    wlp (contentContract content part target) (Client.ignore program).run
      (Safely content part known) view := by
  unfold Client.ignore
  rw [ExceptT.run_lift, map_eq_pure_bind, wlp_bind]
  have stored : wlp (contentContract content part target) (Client.onStore program.run)
      (fun _ after => PartOf content part after.files ∧ known () after) view :=
    content_onStore holds
  apply wlp_seq stored
  rintro reached after ⟨kept, knows⟩
  exact ⟨kept, fun _ _ => knows⟩

/-- A call on the handle, which has one answer. -/
private theorem safely_handle {op : HandleOp} {rest : op.Reply → Client β}
    (installed : op = .setPhase .completed → view.files target = some content)
    (second : wlp (contentContract content part target) (rest (op.apply view.handle).1).run
      (Safely content part last) { view with handle := (op.apply view.handle).2 }) :
    wlp (contentContract content part target) (Client.onHandle op >>= rest).run
      (Safely content part last) view := by
  have admitted : (contentContract content part target).Admits view (.handle op) := by
    cases op with
    | setPhase next =>
        cases next with
        | completed => exact installed rfl
        | _ => trivial
    | _ => trivial
  refine ⟨admitted, ?_⟩
  rintro reply _ ⟨handle, applied, rfl⟩
  rw [applied] at second
  exact second

/-! ### Connecting -/

/-- A response that is no redirect, and the connection it leaves. -/
structure Answered (content : List UInt8) (first : Option UInt64) (response : Response)
    (connection : Connection) : Prop where
  announced : connection.announced = response.length.isSome
  length : ∀ length, response.length = some length →
    length = UInt64.ofNat connection.body.length
  whole : first = none → connection.body = content
  ranged : ∀ start, first = some start →
    (response.status = 206 ∧ connection.body = content.drop start.toNat) ∨
      (response.status ≠ 206 ∧ connection.body = content)

private theorem safely_get {url : String} {first : Option UInt64}
    (keeps : PartOf content part view.files) :
    wlp (contentContract content part target) (Client.get url first).run
      (Safely content part fun response after =>
        (¬ (300 ≤ response.status ∧ response.status < 400) →
          Answered content.bytes first response after.connection) ∧
          after.files = view.files ∧ after.handle = view.handle) view := by
  refine ⟨trivial, ?_⟩
  rintro reply _ ⟨connection, serves, rfl⟩
  cases reply with
  | error error => exact ⟨keeps, fun _ reached => by cases reached⟩
  | ok response =>
      refine ⟨keeps, ?_⟩
      rintro _ same
      cases same
      refine ⟨?_, rfl, rfl⟩
      intro noRedirect
      have answer := serves
      unfold Serves at answer
      simp only [if_neg noRedirect] at answer
      obtain ⟨announced, length, body⟩ := answer
      refine ⟨announced, length, ?_, ?_⟩
      · rintro rfl
        exact body
      · rintro start rfl
        exact body

private theorem safely_fetch {urls : UrlLibrary} {requiredScheme : String} {resumeFrom : UInt64}
    (remaining : Nat) (url : String) (keeps : PartOf content part view.files) :
    wlp (contentContract content part target)
      (fetch urls requiredScheme resumeFrom remaining url).run
      (Safely content part fun response after =>
        Answered content.bytes (rangeStart resumeFrom) response after.connection ∧
          after.files = view.files ∧ after.handle = view.handle) view := by
  induction remaining generalizing url view with
  | zero =>
      unfold fetch
      apply safely_bind (safely_get keeps)
      rintro response after kept ⟨answered, files, handle⟩
      split
      · exact ⟨kept, fun _ reached => by cases reached⟩
      · rename_i noRedirect
        exact safely_pure target kept ⟨answered noRedirect, files, handle⟩
  | succ remaining inductionHypothesis =>
      unfold fetch
      apply safely_bind (safely_get keeps)
      rintro response after kept ⟨answered, files, handle⟩
      split
      · apply safely_check kept
        intro next _
        rw [← files, ← handle]
        exact inductionHypothesis next kept
      · rename_i noRedirect
        exact safely_pure target kept ⟨answered noRedirect, files, handle⟩

/-- The body of a response is being read: the part file and the rest of the body are the
content, and the handle counts the part file. -/
structure Reading (content : ByteVec) (part : Path) (start : UInt64) (announced : Option UInt64)
    (view : RunView) : Prop where
  found : ∃ found, view.files part = some found ∧
    content.bytes = found.bytes ++ view.connection.body ∧
    view.handle.bytesDownloaded = UInt64.ofNat found.bytes.length
  isAnnounced : view.connection.announced = announced.isSome
  length : ∀ length, announced = some length →
    start + length = UInt64.ofNat content.bytes.length

/-- The part file was opened. -/
structure Opened (content : ByteVec) (part : Path) (start : UInt64) (view : RunView) : Prop where
  found : ∃ found, view.files part = some found ∧ found.bytes <+: content.bytes ∧
    start = UInt64.ofNat found.bytes.length ∧ view.handle.bytesDownloaded = start

variable {root : Path} {blockId : String} {generation : UInt64}

private theorem safely_openPart {context : String}
    (keeps : PartOf content (partPath root blockId generation) view.files) :
    wlp (contentContract content (partPath root blockId generation) target)
      (openPart root blockId generation context).run
      (Safely content (partPath root blockId generation) fun start after =>
        Opened content (partPath root blockId generation) start after ∧
          (view.files (partPath root blockId generation) = none → start = 0) ∧
          after.connection = view.connection) view := by
  unfold openPart
  have opened : wlp (contentContract content (partPath root blockId generation) target)
      (Client.stage context (openPartForResume root blockId generation)).run
      (Safely content (partPath root blockId generation) fun start after =>
        (∃ found, after.files (partPath root blockId generation) = some found ∧
          start = UInt64.ofNat found.bytes.length ∧
          found = (view.files (partPath root blockId generation)).getD emptyFile) ∧
        after.connection = view.connection) view := by
    apply safely_stage
    apply wlp_mono (wlp_openPartForResume keeps)
    rintro reached files ⟨kept, measured⟩
    exact ⟨kept, fun start isStart => ⟨measured start isStart, rfl⟩⟩
  apply safely_bind opened
  rintro start after kept ⟨⟨found, isFound, isStart, same⟩, connection⟩
  refine safely_handle (fun same => by cases same) ?_
  apply safely_pure target kept
  refine ⟨⟨found, isFound, kept found isFound, isStart, rfl⟩, ?_, connection⟩
  intro absent
  rw [isStart, same, absent]
  rfl

/-- The body of the response continues what was opened. -/
private theorem reading_of_opened {start : UInt64} {response : Response}
    (opened : Opened content part start view)
    (announced : view.connection.announced = response.length.isSome)
    (length : ∀ length, response.length = some length →
      length = UInt64.ofNat view.connection.body.length)
    (body : view.connection.body = content.bytes.drop start.toNat) :
    Reading content part start response.length view := by
  obtain ⟨found, isFound, ⟨rest, whole⟩, isStart, counted⟩ := opened.found
  have short : found.bytes.length < 2 ^ 64 := lt_trans found.fits (by decide)
  have startNat : start.toNat = found.bytes.length := by
    rw [isStart, UInt64.toNat_ofNat_of_lt' short]
  have isRest : view.connection.body = rest := by
    rw [body, startNat, ← whole, List.drop_left]
  refine ⟨⟨found, isFound, ?_, counted.trans isStart⟩, announced, ?_⟩
  · rw [isRest, whole]
  · intro announcedLength isLength
    rw [isStart, length announcedLength isLength, isRest, ← UInt64.ofNat_add, ← whole,
      List.length_append]

private theorem safely_bodyStart {resumeFrom : UInt64} {response : Response}
    (keeps : PartOf content (partPath root blockId generation) view.files)
    (opened : Opened content (partPath root blockId generation) resumeFrom view)
    (answered : Answered content.bytes (rangeStart resumeFrom) response view.connection) :
    wlp (contentContract content (partPath root blockId generation) target)
      (bodyStart root blockId generation resumeFrom response).run
      (Safely content (partPath root blockId generation) fun start after =>
        Reading content (partPath root blockId generation) start response.length after) view := by
  unfold bodyStart
  split
  · rename_i restarts
    have discarded : wlp (contentContract content (partPath root blockId generation) target)
        (Client.stage "verworfene Teildatei nicht loeschbar: "
          (discardPart root blockId generation)).run
        (Safely content (partPath root blockId generation) fun _ after =>
          after.files (partPath root blockId generation) = none ∧
            after.connection = view.connection) view := by
      apply safely_stage
      apply wlp_mono (wlp_discardPart keeps)
      rintro reached files ⟨kept, gone⟩
      exact ⟨kept, fun _ isOk => ⟨gone isOk, rfl⟩⟩
    apply safely_bind discarded
    rintro _ after kept ⟨gone, connection⟩
    apply wlp_mono (safely_openPart kept)
    rintro reached later ⟨keptLater, knows⟩
    refine ⟨keptLater, ?_⟩
    intro start isStart
    obtain ⟨openedAgain, fresh, sameConnection⟩ := knows start isStart
    have noStart := fresh gone
    have isRanged : rangeStart resumeFrom = some resumeFrom := if_pos restarts.1
    have body : later.connection.body = content.bytes := by
      rw [sameConnection, connection]
      rcases answered.ranged resumeFrom isRanged with ⟨partial206, _⟩ | ⟨_, whole⟩
      · exact absurd partial206 restarts.2
      · exact whole
    apply reading_of_opened openedAgain
    · rw [sameConnection, connection, answered.announced]
    · rw [sameConnection, connection]
      exact answered.length
    · rw [body, noStart]
      rfl
  · rename_i continues
    apply safely_pure target keeps
    apply reading_of_opened opened answered.announced answered.length
    by_cases resumes : 0 < resumeFrom
    · have isRanged : rangeStart resumeFrom = some resumeFrom := if_pos resumes
      have isPartial : response.status = 206 := by
        by_contra other
        exact continues ⟨resumes, other⟩
      rcases answered.ranged resumeFrom isRanged with ⟨_, rest⟩ | ⟨notPartial, _⟩
      · exact rest
      · exact absurd isPartial notPartial
    · have isWhole : rangeStart resumeFrom = none := if_neg resumes
      have isZero : resumeFrom.toNat = 0 := by
        have notPositive : ¬ 0 < resumeFrom.toNat := resumes
        omega
      rw [answered.whole isWhole, isZero]
      rfl

private theorem safely_connect {job : Job} {urls : UrlLibrary} {requiredScheme : String}
    (keeps : PartOf content (partPath job.root job.blockId job.generation) view.files) :
    wlp (contentContract content (partPath job.root job.blockId job.generation) target)
      (job.connect urls requiredScheme).run
      (Safely content (partPath job.root job.blockId job.generation) fun connected after =>
        Reading content (partPath job.root job.blockId job.generation) connected.1 connected.2
          after) view := by
  unfold Job.connect
  apply safely_bind (safely_openPart keeps)
  rintro resumeFrom opened keepsOpened ⟨isOpened, _, _⟩
  apply safely_bind (safely_fetch _ _ keepsOpened)
  rintro response fetched keepsFetched ⟨answered, files, handle⟩
  have stillOpened : Opened content (partPath job.root job.blockId job.generation) resumeFrom
      fetched := by
    obtain ⟨found, isFound, begins, isStart, counted⟩ := isOpened.found
    exact ⟨found, by rw [files, isFound], begins, isStart, by rw [handle, counted]⟩
  apply safely_bind (safely_bodyStart keepsFetched stillOpened answered)
  intro start ready keepsReady reading
  refine safely_handle (fun same => by cases same) ?_
  refine safely_check keepsReady ?_
  intro _ _
  apply safely_pure target keepsReady
  exact ⟨reading.found, reading.isAnnounced, reading.length⟩

/-! ### Reading -/

/-- The end of the body: the part file is the content, unless the connection broke before
the length it announced. -/
structure ReadToEnd (content : ByteVec) (part : Path) (start : UInt64)
    (announced : Option UInt64) (view : RunView) : Prop where
  found : ∃ found, view.files part = some found ∧ found.bytes <+: content.bytes ∧
    view.handle.bytesDownloaded = UInt64.ofNat found.bytes.length ∧
    (announced = none → found = content)
  length : ∀ length, announced = some length →
    start + length = UInt64.ofNat content.bytes.length

private theorem safely_read (keeps : PartOf content part view.files) :
    wlp (contentContract content part target) Client.read.run
      (Safely content part fun chunk after =>
        after.files = view.files ∧ after.handle = view.handle ∧
          view.connection.body = chunk ++ after.connection.body ∧
          (chunk = [] → view.connection.body = [] ∨ view.connection.announced = true) ∧
          after.connection.announced = view.connection.announced) view := by
  refine ⟨trivial, ?_⟩
  rintro reply _ ⟨connection, serves, rfl⟩
  cases reply with
  | error failure => exact ⟨keeps, fun _ reached => by cases reached⟩
  | ok chunk =>
      obtain ⟨_, ends, body, announced⟩ := serves
      refine ⟨keeps, ?_⟩
      rintro _ same
      cases same
      exact ⟨rfl, rfl, body, ends, announced⟩

private theorem safely_readBody {start : UInt64} {announced : Option UInt64} (rounds : Nat)
    (keeps : PartOf content (partPath root blockId generation) view.files)
    (reading : Reading content (partPath root blockId generation) start announced view) :
    wlp (contentContract content (partPath root blockId generation) target)
      (readBody root blockId generation rounds).run
      (Safely content (partPath root blockId generation) fun reached after =>
        reached = .complete →
          ReadToEnd content (partPath root blockId generation) start announced after) view := by
  induction rounds generalizing view with
  | zero => exact safely_pure target keeps fun reached => by cases reached
  | succ rounds inductionHypothesis =>
      unfold readBody
      have polled : wlp (contentContract content (partPath root blockId generation) target)
          Client.cancelRequested.run
          (Safely content (partPath root blockId generation) fun _ after => after = view) view := by
        refine ⟨trivial, ?_⟩
        rintro cancelled _ ⟨connection, rfl, rfl⟩
        exact ⟨keeps, fun _ _ => rfl⟩
      apply safely_bind polled
      intro cancelled after _ same
      rw [same]
      cases cancelled with
      | true =>
          have discarded : wlp (contentContract content (partPath root blockId generation) target)
              (Client.ignore (discardPart root blockId generation)).run
              (Safely content (partPath root blockId generation) fun _ _ => True) view := by
            apply safely_ignore
            apply wlp_mono (wlp_discardPart keeps)
            exact fun _ _ holds => ⟨holds.1, trivial⟩
          apply safely_bind discarded
          rintro _ after kept _
          refine safely_handle (fun same => by cases same) ?_
          exact safely_pure target kept fun reached => by cases reached
      | false =>
          apply safely_bind (safely_read keeps)
          rintro chunk after kept ⟨files, handle, body, ends, announcedSame⟩
          obtain ⟨found, isFound, whole, counted⟩ := reading.found
          have isFoundStill : after.files (partPath root blockId generation) = some found := by
            rw [files, isFound]
          split
          · rename_i noChunk
            apply safely_pure target kept
            refine fun _ => ⟨⟨found, isFoundStill, ⟨_, whole.symm⟩, by rw [handle, counted], ?_⟩,
              reading.length⟩
            intro notAnnounced
            have isEnd : view.connection.body = [] := by
              rcases ends noChunk with isEnd | announced
              · exact isEnd
              · rw [reading.isAnnounced, notAnnounced] at announced
                cases announced
            rw [isEnd, List.append_nil] at whole
            exact ByteVec.ext whole.symm
          · have continues : found.bytes ++ chunk ++ after.connection.body = content.bytes := by
              rw [whole, body, List.append_assoc]
            have written : wlp (contentContract content (partPath root blockId generation) target)
                (Client.stage "Schreibfehler beim Staging: "
                  (Store.writeAll os (partPath root blockId generation) chunk)).run
                (Safely content (partPath root blockId generation) fun _ later =>
                  (∃ next, later.files (partPath root blockId generation) = some next ∧
                    next.bytes = found.bytes ++ chunk) ∧
                  later.connection = after.connection ∧ later.handle = after.handle) after := by
              apply safely_stage
              apply wlp_mono (wlp_writeChunk kept isFoundStill ⟨_, continues⟩)
              rintro reached later ⟨keptLater, knows⟩
              exact ⟨keptLater, fun _ isOk => ⟨knows isOk, rfl, rfl⟩⟩
            apply safely_bind written
            rintro _ later keptLater ⟨⟨next, isNext, bytes⟩, sameConnection, sameHandle⟩
            refine safely_handle (fun same => by cases same) ?_
            apply inductionHypothesis
            · exact keptLater
            · refine ⟨⟨next, isNext, ?_, ?_⟩, ?_, reading.length⟩
              · show content.bytes = next.bytes ++ later.connection.body
                rw [bytes, sameConnection, continues]
              · show later.handle.bytesDownloaded + UInt64.ofNat chunk.length = _
                rw [sameHandle, handle, counted, bytes, List.length_append, UInt64.ofNat_add]
              · show later.connection.announced = _
                rw [sameConnection, announcedSame, reading.isAnnounced]

/-! ### Installing -/

/-- A part with a cleanup. -/
private theorem safely_onError {body : Client α} {cleanup : Client Unit}
    (first : wlp (contentContract content part target) body.run (Safely content part known) view)
    (second : ∀ after, PartOf content part after.files →
      wlp (contentContract content part target) cleanup.run
        (Safely content part fun _ _ => True) after) :
    wlp (contentContract content part target) (body.onError cleanup).run
      (Safely content part known) view := by
  unfold Fallible.onError
  rw [ExceptT.run_mk]
  apply wlp_seq first
  rintro reached after ⟨kept, knows⟩
  cases reached with
  | ok value => exact ⟨kept, knows⟩
  | error failure =>
      apply wlp_seq (second after kept)
      exact fun _ last holds => ⟨holds.1, fun _ reached => by cases reached⟩

/-- A file of the store is removed, and another path keeps its file. -/
private theorem safely_removeFile {path other : Path} (keeps : PartOf content part view.files)
    (apart : other ≠ path) :
    wlp (contentContract content part target) (Client.ignore (Store.removeFile os path)).run
      (Safely content part fun _ after => after.files other = view.files other) view := by
  apply safely_ignore
  have removed : PartOf content part (Function.update view.files path none) :=
    keeps.set fun _ same => by cases same
  constructor
  · intro reply after step
    cases reply with
    | error _ => exact step.1 ▸ keeps
    | ok _ => exact step ▸ removed
  · intro reply after step
    cases reply with
    | error _ => exact ⟨step.1 ▸ keeps, congrFun step.1 other⟩
    | ok _ =>
        refine ⟨step ▸ removed, ?_⟩
        rw [show after = _ from step]
        exact Function.update_of_ne apart none view.files

private theorem safely_removeStaged {other : Path} (keeps : PartOf content part view.files)
    (apartBlob : other ≠ blobPath root blockId generation)
    (apartCommit : other ≠ commitPath root blockId generation) :
    wlp (contentContract content part target) (removeStaged root blockId generation).run
      (Safely content part fun _ after => after.files other = view.files other) view := by
  unfold removeStaged
  apply safely_bind (safely_removeFile keeps apartBlob)
  intro _ after kept same
  apply wlp_mono (safely_removeFile kept apartCommit)
  rintro reached last ⟨keptLast, sameLast⟩
  exact ⟨keptLast, fun value isOk => (sameLast value isOk).trans same⟩

/-- What was received as announced is the content. -/
private theorem isContent_of_readToEnd {start : UInt64} {announced : Option UInt64}
    (ended : ReadToEnd content part start announced view)
    (received : checkReceived (view.handle.bytesDownloaded - start) announced = .ok ()) :
    view.files part = some content := by
  obtain ⟨found, isFound, begins, counted, whole⟩ := ended.found
  rw [isFound]
  cases announced with
  | none => rw [whole rfl]
  | some length =>
      have isLength : view.handle.bytesDownloaded - start = length := by
        by_contra other
        unfold checkReceived at received
        simp only [ne_eq, if_pos other] at received
        cases received
      have isWhole : view.handle.bytesDownloaded = UInt64.ofNat content.bytes.length := by
        rw [← ended.length length rfl, ← isLength]
        grind
      have sameLength : found.bytes.length = content.bytes.length := by
        have same := congrArg UInt64.toNat (counted.symm.trans isWhole)
        have foundShort := lt_trans found.fits (show 2 ^ 63 < 2 ^ 64 by decide)
        have contentShort := lt_trans content.fits (show 2 ^ 63 < 2 ^ 64 by decide)
        rwa [UInt64.toNat_ofNat_of_lt' foundShort, UInt64.toNat_ofNat_of_lt' contentShort] at same
      exact congrArg some (ByteVec.ext (begins.eq_of_length sameLength))

variable {job : Job}

private theorem safely_verify {start : UInt64} {announced : Option UInt64}
    (keeps : PartOf content (partPath job.root job.blockId job.generation) view.files)
    (ended : ReadToEnd content (partPath job.root job.blockId job.generation) start announced
      view) :
    wlp (contentContract content (partPath job.root job.blockId job.generation) target)
      (job.verify start announced).run
      (Safely content (partPath job.root job.blockId job.generation) fun _ after =>
        after.files (blobPath job.root job.blockId job.generation) = some content) view := by
  unfold Job.verify
  have synced : wlp
      (contentContract content (partPath job.root job.blockId job.generation) target)
      (Client.stage "Teildatei nicht durchsynchronisierbar: "
        (Store.syncAll os (partPath job.root job.blockId job.generation))).run
      (Safely content (partPath job.root job.blockId job.generation) fun _ after =>
        after = view) view := by
    apply safely_stage
    have reads : Fallible.Only ReadsOnly
        (Store.syncAll os (partPath job.root job.blockId job.generation)) :=
      Fallible.Only.attempt ⟨fun _ _ _ step => step, fun _ => trivial⟩
    apply wlp_mono (wlp_reads reads keeps)
    rintro reached _ rfl
    exact ⟨keeps, fun _ _ => rfl⟩
  apply safely_bind synced
  intro _ after _ same
  rw [same]
  refine safely_handle (fun same => by cases same) ?_
  refine safely_check keeps ?_
  rintro ⟨⟩ received
  have isContent := isContent_of_readToEnd ended received
  refine safely_handle (fun same => by cases same) ?_
  have finalized : wlp
      (contentContract content (partPath job.root job.blockId job.generation) target)
      (Client.stage "Verifikation fehlgeschlagen: "
        (finalizePart job.root job.blockId job.generation job.request.sha256)).run
      (Safely content (partPath job.root job.blockId job.generation) fun _ later =>
        later.files (blobPath job.root job.blockId job.generation) = some content)
      { view with handle := (HandleOp.apply (.setPhase .verifying) view.handle).2 } := by
    apply safely_stage
    apply wlp_mono (wlp_finalizePart keeps isContent)
    exact fun _ _ holds => holds
  apply safely_bind finalized
  intro _ later kept isBlob
  unfold inspectStaged
  apply safely_onError
  · have inspected : wlp
        (contentContract content (partPath job.root job.blockId job.generation) target)
        (Client.stage "keine gueltige GGUF-Datei: "
          (inspectFile (blobPath job.root job.blockId job.generation))).run
        (Safely content (partPath job.root job.blockId job.generation) fun _ last =>
          last.files (blobPath job.root job.blockId job.generation) = some content) later := by
      apply safely_stage
      have reads : Fallible.Only ReadsOnly
          (inspectFile (blobPath job.root job.blockId job.generation)) := by
        refine Fallible.Only.bind (Fallible.Only.attempt
          ⟨fun _ _ _ step => step, fun _ => trivial⟩) ?_
        exact fun _ => Fallible.Only.result _
      apply wlp_mono (wlp_reads reads kept)
      rintro reached _ rfl
      exact ⟨kept, fun _ _ => isBlob⟩
    apply safely_bind inspected
    intro _ last keptLast isBlobLast
    exact safely_pure target keptLast isBlobLast
  · intro last keptLast
    apply wlp_mono (safely_removeStaged keptLast partPath_ne_blobPath partPath_ne_commitPath)
    exact fun _ final holds => ⟨holds.1, fun _ _ => trivial⟩

private theorem safely_install
    (keeps : PartOf content (partPath job.root job.blockId job.generation) view.files)
    (isBlob : view.files (blobPath job.root job.blockId job.generation) = some content)
    (apartBlob : targetPath job.modelsDir job.request ≠
      blobPath job.root job.blockId job.generation)
    (apartCommit : targetPath job.modelsDir job.request ≠
      commitPath job.root job.blockId job.generation) :
    wlp (contentContract content (partPath job.root job.blockId job.generation)
        (targetPath job.modelsDir job.request)) job.install.run
      (Safely content (partPath job.root job.blockId job.generation) fun _ _ => True) view := by
  unfold Job.install
  have made : wlp (contentContract content (partPath job.root job.blockId job.generation)
        (targetPath job.modelsDir job.request))
      (Client.stage "Modellverzeichnis nicht anlegbar: "
        (Store.createDirAll os job.modelsDir)).run
      (Safely content (partPath job.root job.blockId job.generation) fun _ after =>
        after.files = view.files) view := by
    apply safely_stage
    have reads : Fallible.Only ReadsOnly (Store.createDirAll os job.modelsDir) :=
      Fallible.Only.attempt ⟨fun _ _ _ step => step, fun _ => trivial⟩
    apply wlp_mono (wlp_reads reads keeps)
    rintro reached _ rfl
    exact ⟨keeps, fun _ _ => rfl⟩
  apply safely_bind made
  intro _ after kept same
  have restored : wlp (contentContract content (partPath job.root job.blockId job.generation)
        (targetPath job.modelsDir job.request))
      (Client.stage "Uebernahme ins Modellverzeichnis fehlgeschlagen: "
        (restoreActive job.root job.processId job.nanos job.blockId job.generation
          (targetPath job.modelsDir job.request))).run
      (Safely content (partPath job.root job.blockId job.generation) fun _ later =>
        later.files (targetPath job.modelsDir job.request) = some content) after := by
    apply safely_stage
    apply wlp_mono (wlp_restoreActive kept (by rw [same, isBlob]))
    exact fun _ _ holds => ⟨holds.1, fun _ isOk => holds.2 isOk⟩
  apply safely_bind restored
  intro _ later keptLater isTarget
  apply safely_bind (safely_removeStaged keptLater apartBlob apartCommit)
  intro _ cleaned keptCleaned stays
  have isTargetStill : cleaned.files (targetPath job.modelsDir job.request) = some content :=
    stays.trans isTarget
  refine ⟨isTargetStill, ?_⟩
  rintro reply _ ⟨handle, _, rfl⟩
  exact ⟨keptCleaned, fun _ _ => trivial⟩

/-- The target is no file of its block: their names are longer. -/
theorem target_ne_fileName (root modelsDir : Path) (name : String) (generation : UInt64)
    (extension : String) :
    modelsDir ++ [name] ≠ root ++ [fileName name generation extension] := by
  intro same
  have names := List.append_inj_right' same rfl
  have lengths := congrArg (fun path : Path => (path.map String.length).sum) names
  have dot : ".".length = 1 := rfl
  simp [fileName] at lengths
  omega

/-- A run keeps its contract. -/
theorem wlp_runDownload (job : Job) (urls : UrlLibrary) (rounds : Nat)
    (keeps : PartOf content (partPath job.root job.blockId job.generation) view.files)
    (apartBlob : targetPath job.modelsDir job.request ≠
      blobPath job.root job.blockId job.generation)
    (apartCommit : targetPath job.modelsDir job.request ≠
      commitPath job.root job.blockId job.generation) :
    wlp (contentContract content (partPath job.root job.blockId job.generation)
        (targetPath job.modelsDir job.request)) (job.runDownload urls rounds)
      (fun _ _ => True) view := by
  unfold Job.runDownload
  have attempted : wlp (contentContract content (partPath job.root job.blockId job.generation)
        (targetPath job.modelsDir job.request)) (job.tryDownload urls "https" rounds).run
      (Safely content (partPath job.root job.blockId job.generation) fun _ _ => True) view := by
    unfold Job.tryDownload
    apply safely_bind (safely_connect keeps)
    rintro ⟨start, announced⟩ ready kept reading
    apply safely_bind (safely_readBody rounds kept reading)
    intro bodyEnd read keptRead ended
    cases bodyEnd with
    | complete =>
        apply safely_bind (safely_verify keptRead (ended rfl))
        intro _ verified keptVerified isBlob
        exact safely_install keptVerified isBlob apartBlob apartCommit
    | cancelled => exact safely_pure _ keptRead trivial
    | unfinished => exact safely_pure _ keptRead trivial
  apply wlp_seq attempted
  intro outcome after _
  cases outcome with
  | ok _ => trivial
  | error message =>
      refine ⟨trivial, ?_⟩
      rintro phase _ ⟨handle, _, rfl⟩
      show wlp _ (if phase = DownloadPhase.cancelled then _ else _) _ _
      split
      · trivial
      · refine ⟨trivial, ?_⟩
        rintro _ _ ⟨handle, _, rfl⟩
        refine ⟨trivial, ?_⟩
        rintro _ _ ⟨handle, _, rfl⟩
        trivial

end Run

end TriAI.Download
