import TriAI.Staging.Effects
import TriAI.Storage.Faults

/-!
Contract: the staging store when any file call may fail.

Owns: what `finalize_part` and `restore_active` guarantee when they succeed, and that whatever
fails in them leaves the target of the restoring as it was; the one exception, a directory that
cannot be synced after the rename, is the condition of the steps.

Does not own: crashes (`Staging.CrashSafety`).
-/

set_option autoImplicit false

namespace TriAI.Staging

open TriAI.Library.FileTree
open TriAI.Library.Interaction
open TriAI.Library.TextLines
open TriAI.Storage

/-- One of the three files of a block. -/
def IsStaged (root : Path) (blockId : String) (generation : UInt64) (path : Path) : Prop :=
  path = partPath root blockId generation ∨ path = blobPath root blockId generation ∨
    path = commitPath root blockId generation

/-! ## Steps -/

/-- The sync of the target's directory fails only while the target is as it was. -/
def SyncsInTime (target : Path) (entry : Option Entry) (disk : Disk) :
    (op : StoreOp) → op.Reply → Prop
  | .syncDir path, .error _ => path = target.dropLast → disk.lookup target = entry
  | _, _ => True

/-- Any call may fail, but for the sync of the target's directory. -/
def SyncedAttempts (tool : Sha256sum) (target : Path) (entry : Option Entry) (disk : Disk)
    (op : StoreOp) (reply : op.Reply) (after : Disk) : Prop :=
  Attempts tool disk op reply after ∧ SyncsInTime target entry disk op reply

section Specs

variable {tool : Sha256sum} {target : Path} {entry : Option Entry} {disk : Disk} {α : Type}

/-- A program that writes within a region changes nothing else. -/
theorem wlp_changesWithin {region : Path → Prop} {program : Prog StoreOp StoreOp.Reply α}
    (only : program.Only (StoreOp.WritesWithin region)) :
    wlp (stepping (SyncedAttempts tool target entry)) program
      (fun _ after => disk.ChangesWithin region after) disk := by
  refine only.keeps ?_ (Disk.ChangesWithin.refl disk)
  intro op within before changes
  exact ⟨trivial, fun reply after stepped => changes.trans (stepped.1.changesWithin within)⟩

/-- A program that writes elsewhere leaves the target as it is. -/
theorem wlp_asItWas {region : Path → Prop} {program : Prog StoreOp StoreOp.Reply α}
    (only : program.Only (StoreOp.WritesWithin region)) (outside : ¬ region target)
    (asItWas : disk.lookup target = entry) :
    wlp (stepping (SyncedAttempts tool target entry)) program
      (fun _ after => after.lookup target = entry) disk :=
  wlp_mono (wlp_changesWithin only) fun _ _ changes =>
    (changes.frame target outside).trans asItWas

variable {root : Path} {blockId : String} {generation : UInt64} {expected : Option String}

/-- A part file that was measured has the expected digest. -/
private theorem wlp_measurePart_faulty (outside : ¬ IsStaged root blockId generation target)
    (asItWas : disk.lookup target = entry) :
    wlp (stepping (SyncedAttempts tool target entry))
      (measurePart root blockId generation expected).run
      (Keeping (fun after => after.lookup target = entry) fun record after =>
        record.blockId = blockId ∧ record.generation = generation ∧
        ∃ content, after.lookup (partPath root blockId generation) = some (.file content) ∧
          ExpectedDigest tool (partPath root blockId generation) content.bytes expected)
      disk := by
  have part : IsStaged root blockId generation (partPath root blockId generation) :=
    .inl rfl
  unfold measurePart
  have anyLength : wlp (stepping (SyncedAttempts tool target entry))
      (Store.length os (partPath root blockId generation)).run
      (Keeping (fun after => after.lookup target = entry) fun _ _ => True) disk :=
    wlp_and (wlp_asItWas (Store.only_read (.length _) (by simp) rfl) outside asItWas)
      ⟨trivial, fun _ _ _ _ _ => trivial⟩
  apply wlp_keeping_bind anyLength
  intro bytes measured asItWas _
  have hashed : wlp (stepping (SyncedAttempts tool target entry))
      (Store.sha256sum os (partPath root blockId generation)).run
      (Keeping (fun after => after.lookup target = entry) fun sha after => ∃ content,
        after.lookup (partPath root blockId generation) = some (.file content) ∧
          sha = tool.digest (partPath root blockId generation) content.bytes) measured := by
    refine wlp_and (wlp_asItWas (Store.only_read (.sha256sum _) (by simp) rfl) outside asItWas)
      ⟨trivial, ?_⟩
    intro reply after stepped
    cases reply with
    | error error =>
        intro _ same
        cases same
    | ok sha =>
        obtain ⟨rfl, content, isFile, digest⟩ := stepped.1.sha256sum_ok
        intro value same
        cases same
        exact ⟨content, isFile, digest⟩
  apply wlp_keeping_bind hashed
  rintro sha before asItWas ⟨content, isFile, rfl⟩
  have checked : wlp (stepping (SyncedAttempts tool target entry))
      (checkDigest (partPath root blockId generation)
        (tool.digest (partPath root blockId generation) content.bytes) expected).run
      (Keeping (fun after => after.lookup target = entry) fun _ after =>
        after.lookup (partPath root blockId generation) = some (.file content) ∧
          ExpectedDigest tool (partPath root blockId generation) content.bytes expected)
      before := by
    refine wlp_and (wlp_asItWas (only_checkDigest part _ expected) outside asItWas) ?_
    cases expected with
    | none =>
        refine fun _ _ => ⟨isFile, ?_⟩
        intro _ impossible
        cases impossible
    | some digest =>
        simp only [checkDigest]
        split
        · rename_i matching
          refine fun _ _ => ⟨isFile, ?_⟩
          intro other same
          cases same
          exact matching
        · rw [Fallible.wlp_run_bind, Fallible.wlp_run_capture]
          refine ⟨trivial, ?_⟩
          intro _ _ _ _ same
          cases same
  apply wlp_keeping_bind checked
  rintro _ after asItWas ⟨stillFile, digest⟩
  refine ⟨asItWas, ?_⟩
  intro record same
  cases same
  exact ⟨rfl, rfl, content, stillFile, digest⟩

/-- What was in the part file is in the data file when its marker is published. -/
private theorem wlp_publish_faulty {record : CommitRecord} {content : ByteVec}
    (outside : ¬ IsStaged root record.blockId record.generation target)
    (asItWas : disk.lookup target = entry)
    (isFile : disk.lookup (partPath root record.blockId record.generation) =
      some (.file content)) :
    wlp (stepping (SyncedAttempts tool target entry)) (publish root record).run
      (Keeping (fun after => after.lookup target = entry) fun _ after =>
        after.lookup (blobPath root record.blockId record.generation) = some (.file content))
      disk := by
  refine wlp_and (wlp_asItWas (only_publish (.inl rfl) (.inr (.inl rfl)) (.inr (.inr rfl))) outside
    asItWas) ?_
  have renames : ∀ reply after, SyncedAttempts tool target entry disk
      (.rename (partPath root record.blockId record.generation)
        (blobPath root record.blockId record.generation)) reply after → reply = .ok () →
      after.lookup (blobPath root record.blockId record.generation) = some (.file content) := by
    rintro _ after stepped rfl
    obtain ⟨moved, isMoved, moves⟩ := stepped.1.rename_ok
    rw [isFile] at isMoved
    cases isMoved
    exact moves.put
  have marks : Fallible.Only (StoreOp.WritesWithin
      (· = commitPath root record.blockId record.generation)) _ :=
    only_writeMarker root record rfl
  unfold publish
  dsimp only
  rw [Fallible.wlp_run_bind]
  refine ⟨trivial, fun reply before stepped => ?_⟩
  cases reply with
  | error error =>
      intro _ same
      cases same
  | ok done =>
      have isBlob := renames _ _ stepped rfl
      apply wlp_mono (wlp_changesWithin marks)
      intro _ after changes _ _
      exact (changes.frame _ (commitPath_ne_blobPath root _ _ _ _).symm).trans isBlob

/-- What was committed is in the data file, and has the expected digest. -/
theorem wlp_finalizePart_faulty (outside : ¬ IsStaged root blockId generation target)
    (asItWas : disk.lookup target = entry) :
    wlp (stepping (SyncedAttempts tool target entry))
      (finalizePart root blockId generation expected).run
      (Keeping (fun after => after.lookup target = entry) fun _ after => ∃ content,
        after.lookup (blobPath root blockId generation) = some (.file content) ∧
          ExpectedDigest tool (partPath root blockId generation) content.bytes expected)
      disk := by
  unfold finalizePart
  have part : IsStaged root blockId generation (partPath root blockId generation) :=
    .inl rfl
  have synced : wlp (stepping (SyncedAttempts tool target entry))
      (syncPart root blockId generation).run
      (Keeping (fun after => after.lookup target = entry) fun _ _ => True) disk :=
    wlp_mono (wlp_asItWas (only_syncPart part) outside asItWas)
      fun _ _ stays => ⟨stays, fun _ _ => trivial⟩
  apply wlp_keeping_bind synced
  intro _ before asItWas _
  unfold commitPart
  apply wlp_keeping_bind (wlp_measurePart_faulty outside asItWas)
  rintro record measured asItWas ⟨rfl, rfl, content, isFile, digest⟩
  apply wlp_mono (wlp_publish_faulty outside asItWas isFile)
  rintro reached after ⟨stays, published⟩
  exact ⟨stays, fun result same => ⟨content, published result same, digest⟩⟩

/-! ## Restoring -/

/-- The target is replaced by the content, or as it was. -/
def Replaced (target : Path) (entry : Option Entry) (content : ByteVec)
    (reached : Except IoFailure Unit) (after : Disk) : Prop :=
  match reached with
  | .ok () => after.lookup target = some (.file content)
  | .error _ => after.lookup target = entry

/-- A step of the restoring that leaves the target as it is, with its cleanup. -/
private theorem wlp_beside {β : Type} {temporary : Path} {body : Stage Unit}
    {rest : Unit → Stage β} {post : Except IoFailure β → Disk → Prop}
    (apart : target ≠ temporary) (asItWas : disk.lookup target = entry)
    (only : body.run.Only (StoreOp.WritesWithin (· = temporary))) {Done : Disk → Prop}
    (does : wlp (stepping (SyncedAttempts tool target entry)) body.run
      (IfOk fun _ after => Done after) disk)
    (fails : ∀ failure after, after.lookup target = entry → post (.error failure) after)
    (continues : ∀ after, after.lookup target = entry → Done after →
      wlp (stepping (SyncedAttempts tool target entry)) (rest ()).run post after) :
    wlp (stepping (SyncedAttempts tool target entry))
      (body.onError (Store.removeFile os temporary) >>= rest).run post disk := by
  rw [Fallible.wlp_run_bind]
  unfold Fallible.onError
  rw [ExceptT.run_mk]
  apply wlp_seq (wlp_and (wlp_changesWithin only) does)
  rintro reached after ⟨changes, done⟩
  have stillThere : after.lookup target = entry := (changes.frame target apart).trans asItWas
  cases reached with
  | ok value => exact continues after stillThere (done value rfl)
  | error failure =>
      have cleans : Prog.Only (StoreOp.WritesWithin (· = temporary))
          (Store.removeFile os temporary : Stage Unit).run :=
        Store.only_perform (.removeFile _) (by simp) (by simp [StoreOp.writes])
      apply wlp_seq (wlp_changesWithin cleans)
      intro _ last cleaned
      exact fails failure last ((cleaned.frame target apart).trans stillThere)

/-- The data file is copied beside the target, and the copy renamed to it. -/
private theorem wlp_restoreRecord {record : CommitRecord} {processId nanos : Nat}
    {content : ByteVec}
    (isFile : disk.lookup (blobPath root record.blockId record.generation) =
      some (.file content))
    (asItWas : disk.lookup target = entry)
    (apart : target ≠ target.dropLast ++
      [restoreName record.blockId record.generation processId nanos]) :
    wlp (stepping (SyncedAttempts tool target entry))
      (restoreRecord root record processId nanos target.dropLast target).run
      (Replaced target entry content) disk := by
  unfold restoreRecord
  dsimp only
  generalize target.dropLast ++ [restoreName record.blockId record.generation processId nanos] =
    temporary at apart
  have copies : wlp (stepping (SyncedAttempts tool target entry))
      (Store.copy os (blobPath root record.blockId record.generation) temporary).run
      (IfOk fun _ after => after.lookup temporary = some (.file content)) disk := by
    refine ⟨trivial, ?_⟩
    intro reply after stepped
    cases reply with
    | error error =>
        intro _ same
        cases same
    | ok done =>
        obtain ⟨copied, isCopied, isTemporary⟩ := stepped.1.copy_ok
        rw [isFile] at isCopied
        cases isCopied
        exact fun _ _ => isTemporary
  apply wlp_beside apart asItWas (Store.only_perform (.copy _ _) (by simp) (by simp [StoreOp.writes]))
    copies fun _ _ stays => stays
  intro copied stays isTemporary
  have syncs : wlp (stepping (SyncedAttempts tool target entry))
      (do Store.openWrite os temporary; Store.syncAll os temporary : Stage Unit).run
      (IfOk fun _ after => after.lookup temporary = some (.file content)) copied := by
    rw [Fallible.wlp_run_bind]
    refine ⟨trivial, fun reply opened stepped => ?_⟩
    obtain rfl := stepped.1.unchanged (.inl rfl)
    cases reply with
    | error error =>
        intro _ same
        cases same
    | ok done =>
        refine ⟨trivial, fun reply after stepped _ _ => ?_⟩
        rw [stepped.1.unchanged (.inr (.inl rfl))]
        exact isTemporary
  apply wlp_beside apart stays
    (Fallible.Only.bind (Store.only_read (.openWrite _) (by simp) rfl) fun _ =>
      Store.only_perform (.syncAll _) (by simp) (by simp [StoreOp.writes]))
    syncs fun _ _ stays => stays
  intro synced stays isTemporary
  -- The rename replaces the target at once or leaves all as it was.
  rw [Fallible.wlp_run_bind]
  unfold Fallible.onError
  rw [ExceptT.run_mk]
  refine ⟨trivial, ?_⟩
  intro reply renamed stepped
  cases reply with
  | error error =>
      have unchanged := stepped.1.rename_error
      have cleans : Prog.Only (StoreOp.WritesWithin (· = temporary))
          (Store.removeFile os temporary : Stage Unit).run :=
        Store.only_perform (.removeFile _) (by simp) (by simp [StoreOp.writes])
      apply wlp_seq (wlp_changesWithin cleans)
      intro _ last cleaned
      have stillThere : renamed.lookup target = entry := by
        rw [unchanged]
        exact stays
      exact (cleaned.frame target apart).trans stillThere
  | ok done =>
      obtain ⟨moved, isMoved, moves⟩ := stepped.1.rename_ok
      rw [isTemporary] at isMoved
      cases isMoved
      refine ⟨trivial, ?_⟩
      intro reply last syncedLast
      obtain rfl := syncedLast.1.unchanged (.inr (.inr rfl))
      cases reply with
      | ok done => exact moves.put
      | error error => exact syncedLast.2 rfl

/-- Whatever fails, the target is replaced by the content of the data file or left as it was. -/
theorem wlp_restoreActive_faulty {processId nanos : Nat} {content : ByteVec}
    (isFile : disk.lookup (blobPath root blockId generation) = some (.file content))
    (asItWas : disk.lookup target = entry)
    (apart : target ≠ target.dropLast ++ [restoreName blockId generation processId nanos]) :
    wlp (stepping (SyncedAttempts tool target entry))
      (restoreActive root processId nanos blockId generation target).run
      (Replaced target entry content) disk := by
  unfold restoreActive
  cases validateId blockId with
  | error failure => exact asItWas
  | ok valid =>
      show wlp _ (recover root >>= _).run _ _
      rw [Fallible.wlp_run_bind]
      have nowhere : Fallible.Only (StoreOp.WritesWithin fun _ => False) (recover root) :=
        only_recover root
      apply wlp_mono (wlp_changesWithin nowhere)
      intro reached recovered unchanged
      have asItWas : recovered.lookup target = entry := (unchanged.frame _ id).trans asItWas
      have isFile : recovered.lookup (blobPath root blockId generation) = some (.file content) :=
        (unchanged.frame _ id).trans isFile
      cases reached with
      | error failure => exact asItWas
      | ok records =>
          dsimp only
          cases listed : findRecord blockId generation records with
          | error failure => exact asItWas
          | ok record =>
              obtain ⟨rfl, rfl⟩ := of_findRecord listed
              unfold parent
              split
              · exact asItWas
              · exact wlp_restoreRecord isFile asItWas apart

end Specs

end TriAI.Staging
