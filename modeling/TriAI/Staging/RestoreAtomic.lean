import TriAI.Library.Subprogram
import TriAI.Staging.CrashSafety
import TriAI.Storage.Faults

/-!
Contract: `restore_active` is atomic for its target.

Owns: that wherever the call is stopped, and whatever fails in it, the target is as it was or
holds the staged bytes that `recover` verified; and the one target of which this is not so.

Does not own: writers of the store beside the call.

The temporary lies beside the target, under a name with the process number and the time. A
target of that very name is written in place.
-/

set_option autoImplicit false

namespace TriAI.Staging

open TriAI.Library.FileTree
open TriAI.Library.Interaction
open TriAI.Library.TextLines
open TriAI.Storage

/-- What a crash inside a call leaves: what a failing call may leave, or a file of which not all
is stored yet. -/
def tornCall (disk : Disk) (op : StoreOp) (after : Disk) : Prop :=
  LeftBehind disk op after ∨ tornStage disk op after

/-- The content of a block of which `recover` can verify a record. -/
def Recoverable (tool : Sha256sum) (root : Path) (disk : Disk) (blockId : String)
    (generation : UInt64) (content : ByteVec) : Prop :=
  ∃ name record, Marks tool root disk name record ∧ record.IsFor blockId generation ∧
    disk.lookup (blobPath root blockId generation) = some (.file content)

/-- The target is as it was, or holds the staged bytes. -/
def AtomicAt (tool : Sha256sum) (root : Path) (blockId : String) (generation : UInt64)
    (target : Path) (before after : Disk) : Prop :=
  after.lookup target = before.lookup target ∨
    ∃ content, Recoverable tool root before blockId generation content ∧
      after.lookup target = some (.file content)

section Atomic

variable {tool : Sha256sum} {root target : Path} {disk : Disk} {Safe : Disk → Prop}

/-! ## Recovering -/

section Recovering

/-- A call that only looks is safe where the disk is. -/
private theorem wlp_looks {ε α : Type} (op : StoreOp) (looks : op.Looks) (safe : Safe disk)
    {next : op.Reply → Except ε α} {post : α → Disk → Prop}
    (gives : ∀ reply value, Attempts tool disk op reply disk → next reply = .ok value →
      post value disk) :
    wlp (crashing (Attempts tool) tornCall Safe)
      (ExceptT.mk (Prog.call op fun reply => .ret (next reply)) : Store ε α).run
      (Keeping (· = disk) post) disk := by
  refine ⟨⟨safe, ?_⟩, ?_⟩
  · rintro after (left | cut)
    · cases op with
      | read | readDir | length | isFile | sha256sum => exact left.elim
      | _ => exact looks.elim
    · cases op with
      | read | readDir | length | isFile | sha256sum => exact cut.elim
      | _ => exact looks.elim
  · intro reply after attempts
    obtain rfl := attempts.looks looks
    exact ⟨rfl, fun value same => gives reply value attempts same⟩

/-- Data of which the digest agrees with the record. -/
private theorem wlp_verifySha (safe : Safe disk) {record : CommitRecord} {content : ByteVec}
    (isFile : disk.lookup (blobPath root record.blockId record.generation) =
      some (.file content)) :
    wlp (crashing (Attempts tool) tornCall Safe) (verifySha root record).run
      (Keeping (· = disk) fun found _ => ∀ other, found = some other → other = record ∧
        record.sha256 = tool.digest (blobPath root record.blockId record.generation)
          content.bytes) disk := by
  have hashes : wlp (crashing (Attempts tool) tornCall Safe)
      (Store.sha256sum os (blobPath root record.blockId record.generation)).run
      (Keeping (· = disk) fun sha _ =>
        sha = tool.digest (blobPath root record.blockId record.generation) content.bytes)
      disk := by
    refine wlp_looks (.sha256sum _) trivial safe ?_
    intro reply sha attempts succeeds
    cases reply with
    | error error => cases succeeds
    | ok digest =>
        obtain rfl := Except.ok.inj succeeds
        obtain ⟨_, hashed, isHashed, same⟩ := attempts.sha256sum_ok
        rw [isFile] at isHashed
        cases isHashed
        exact same
  unfold verifySha
  rw [Fallible.wlp_run_bind, Fallible.wlp_run_capture]
  apply wlp_mono hashes
  rintro reached after ⟨rfl, digest⟩
  refine ⟨rfl, ?_⟩
  intro found same other isFound
  cases same
  split at isFound
  · rename_i agrees
    cases isFound
    cases reached with
    | error error => cases agrees
    | ok sha =>
        have isSha := digest sha rfl
        obtain rfl := Option.some.inj agrees
        exact ⟨rfl, isSha⟩
  · cases isFound

/-- Data that agree with the record in size and digest. -/
private theorem wlp_verifyBlob (safe : Safe disk) (record : CommitRecord) :
    wlp (crashing (Attempts tool) tornCall Safe) (verifyBlob root record).run
      (Keeping (· = disk) fun found _ => ∀ other, found = some other → other = record ∧
        Verified tool root disk record) disk := by
  have nothing : wlp (crashing (Attempts tool) tornCall Safe)
      (pure none : Stage (Option CommitRecord)).run
      (Keeping (· = disk) fun found _ => ∀ other, found = some other → other = record ∧
        Verified tool root disk record) disk := by
    refine ⟨rfl, ?_⟩
    intro found same other isFound
    cases same
    cases isFound
  have isFile : wlp (crashing (Attempts tool) tornCall Safe)
      (Store.isFile (blobPath root record.blockId record.generation) : Stage Bool).run
      (Keeping (· = disk) fun found _ => found = true → ∃ content,
        disk.lookup (blobPath root record.blockId record.generation) = some (.file content))
      disk := by
    refine wlp_looks (.isFile _) trivial safe ?_
    intro reply found attempts succeeds present
    cases succeeds
    subst present
    exact attempts.isFile_true
  unfold verifyBlob
  dsimp only
  apply wlp_keeping_bind isFile
  intro present after same found
  subst after
  cases present with
  | false => exact nothing
  | true =>
      obtain ⟨content, isFile⟩ := found rfl
      have measures : wlp (crashing (Attempts tool) tornCall Safe)
          (Store.length os (blobPath root record.blockId record.generation)).run
          (Keeping (· = disk) fun bytes _ => bytes = UInt64.ofNat content.bytes.length)
          disk := by
        refine wlp_looks (.length _) trivial safe ?_
        intro reply bytes attempts succeeds
        cases reply with
        | error error => cases succeeds
        | ok measured =>
            obtain rfl := Except.ok.inj succeeds
            exact attempts.length_ok isFile
      simp only [if_true]
      apply wlp_keeping_bind measures
      intro bytes after same measured
      subst after
      split
      · rename_i agrees
        apply wlp_mono (wlp_verifySha safe isFile)
        rintro reached _ ⟨rfl, verifies⟩
        refine ⟨rfl, ?_⟩
        intro found succeeds other isFound
        obtain ⟨rfl, digest⟩ := verifies found succeeds other isFound
        refine ⟨rfl, content, isFile, ?_⟩
        apply CommitRecord.ext
        · rfl
        · rfl
        · exact agrees.symm.trans measured
        · exact digest
      · exact nothing

/-- What is read from a directory entry is the record of a marker. -/
private theorem wlp_recoverEntry (safe : Safe disk) (name : String) :
    wlp (crashing (Attempts tool) tornCall Safe) (recoverEntry root name).run
      (Keeping (· = disk) fun found _ => ∀ record, found = some record →
        Marks tool root disk name record) disk := by
  have nothing : wlp (crashing (Attempts tool) tornCall Safe)
      (pure none : Stage (Option CommitRecord)).run
      (Keeping (· = disk) fun found _ => ∀ record, found = some record →
        Marks tool root disk name record) disk := by
    refine ⟨rfl, ?_⟩
    intro found same record isFound
    cases same
    cases isFound
  unfold recoverEntry
  split
  · rename_i isCommit
    have reads : wlp (crashing (Attempts tool) tornCall Safe)
        (Store.read os (root ++ [name])).run
        (Keeping (· = disk) fun content _ =>
          disk.lookup (root ++ [name]) = some (.file content)) disk := by
      refine wlp_looks (.read _) trivial safe ?_
      intro reply content attempts succeeds
      cases reply with
      | error error => cases succeeds
      | ok read =>
          obtain rfl := Except.ok.inj succeeds
          exact attempts.read_ok.2
    apply wlp_keeping_bind reads
    intro content after same isFile
    subst after
    have decodes : wlp (crashing (Attempts tool) tornCall Safe)
        (Store.ofExcept (decodeText content) : Stage String).run
        (Keeping (· = disk) fun text _ => content.bytes = utf8Bytes text) disk := by
      refine ⟨rfl, ?_⟩
      intro text decoded
      unfold decodeText at decoded
      split at decoded
      · rename_i isText
        cases decoded
        exact fromUtf8_eq_some.mp isText
      · cases decoded
    apply wlp_keeping_bind decodes
    intro text after same decoded
    subst after
    cases parsed : parseRecord text with
    | none => exact nothing
    | some record =>
        apply wlp_mono (wlp_verifyBlob safe record)
        rintro reached _ ⟨rfl, verifies⟩
        refine ⟨rfl, ?_⟩
        intro found succeeds other isFound
        obtain ⟨rfl, verified⟩ := verifies found succeeds other isFound
        exact ⟨isCommit, content, text, isFile, decoded, parsed, verified⟩
  · exact nothing

/-- Every record is that of a marker. -/
private def AllMarked (tool : Sha256sum) (root : Path) (disk : Disk)
    (records : List CommitRecord) : Prop :=
  ∀ record ∈ records, ∃ name, Marks tool root disk name record

/-- The records that `recover` returns. -/
private theorem wlp_recover (safe : Safe disk) :
    wlp (crashing (Attempts tool) tornCall Safe) (recover root).run
      (Keeping (· = disk) fun records _ => AllMarked tool root disk records) disk := by
  unfold recover
  have lists : wlp (crashing (Attempts tool) tornCall Safe) (Store.readDir os root).run
      (Keeping (· = disk) fun _ _ => True) disk :=
    wlp_looks (.readDir _) trivial safe fun _ _ _ _ => trivial
  apply wlp_keeping_bind lists
  intro names after same _
  subst after
  have collects : wlp (crashing (Attempts tool) tornCall Safe)
      (names.foldlM (fun out name => do return out ++ (← recoverEntry root name).toList) []
        : Stage (List CommitRecord)).run
      (Keeping (· = disk) fun records _ => AllMarked tool root disk records) disk := by
    refine wlp_keeping_foldlM names ?_ ?_ ?_
    · rfl
    · simp [AllMarked]
    intro out name after same found
    subst after
    apply wlp_keeping_bind (wlp_recoverEntry safe name)
    intro entry after same marks
    subst after
    refine ⟨rfl, ?_⟩
    intro records succeeds record member
    cases succeeds
    rcases List.mem_append.mp member with earlier | new
    · exact found record earlier
    · exact ⟨name, marks record (Option.mem_toList.mp new)⟩
  apply wlp_keeping_bind collects
  intro out after same found
  refine ⟨same, ?_⟩
  intro records succeeds record member
  cases succeeds
  exact found record (List.mem_mergeSort.mp member)

end Recovering

/-! ## Restoring -/

section Restoring

variable {entry : Option Entry} {temporary : Path}

/-- A call is admitted where the target is as it was, if it writes elsewhere. -/
private theorem admits_beside {region : Path → Prop} {op : StoreOp}
    (within : op.WritesWithin region) (outside : ¬ region target)
    (safe : ∀ after, after.lookup target = entry → Safe after)
    (asItWas : disk.lookup target = entry) :
    (crashing (Attempts tool) tornCall Safe).Admits disk op := by
  refine ⟨safe disk asItWas, ?_⟩
  rintro after (left | cut)
  · exact safe after (((left.changesWithin within).frame target outside).trans asItWas)
  · exact safe after (((cut_changesWithin within cut).frame target outside).trans asItWas)

/-- A program that writes elsewhere is safe everywhere. -/
private theorem wlp_elsewhere {α : Type} {region : Path → Prop}
    {program : Prog StoreOp StoreOp.Reply α} (only : program.Only (StoreOp.WritesWithin region))
    (outside : ¬ region target) (safe : ∀ after, after.lookup target = entry → Safe after)
    (asItWas : disk.lookup target = entry) :
    wlp (crashing (Attempts tool) tornCall Safe) program
      (fun _ after => after.lookup target = entry) disk := by
  refine only.keeps ?_ asItWas
  intro op within before stays
  refine ⟨admits_beside within outside safe stays, ?_⟩
  intro reply after attempts
  exact ((attempts.changesWithin within).frame target outside).trans stays

/-- The cleanup removes the temporary only. -/
private theorem only_removeTemporary (temporary : Path) :
    Prog.Only (StoreOp.WritesWithin (· = temporary))
      (Store.removeFile os temporary : Stage Unit).run :=
  Store.only_perform (.removeFile _) (by simp) (by simp [StoreOp.writes])

/-- A step that writes the temporary only, with its cleanup. -/
private theorem wlp_onTemporary {α : Type} {body : Stage Unit} {rest : Unit → Stage α}
    (apart : target ≠ temporary) (safe : ∀ after, after.lookup target = entry → Safe after)
    (asItWas : disk.lookup target = entry)
    (only : body.run.Only (StoreOp.WritesWithin (· = temporary))) {Done : Disk → Prop}
    (does : wlp (crashing (Attempts tool) tornCall Safe) body.run
      (IfOk fun _ after => Done after) disk)
    (continues : ∀ after, after.lookup target = entry → Done after →
      wlp (crashing (Attempts tool) tornCall Safe) (rest ()).run (fun _ last => Safe last) after) :
    wlp (crashing (Attempts tool) tornCall Safe)
      (body.onError (Store.removeFile os temporary) >>= rest).run (fun _ last => Safe last)
      disk := by
  rw [Fallible.wlp_run_bind, Fallible.wlp_run_onError]
  apply wlp_mono (wlp_and (wlp_elsewhere only apart safe asItWas) does)
  rintro reached after ⟨stillThere, done⟩
  cases reached with
  | ok value => exact continues after stillThere (done value rfl)
  | error failure =>
      apply wlp_mono (wlp_elsewhere (only_removeTemporary temporary) apart safe stillThere)
      intro _ last cleaned
      exact safe last cleaned

/-- The data file is copied beside the target, and the copy renamed to it. -/
private theorem wlp_restoreRecord_safe {record : CommitRecord} {processId nanos : Nat}
    {content : ByteVec}
    (isFile : disk.lookup (blobPath root record.blockId record.generation) =
      some (.file content))
    (asItWas : disk.lookup target = entry)
    (apart : target ≠ target.dropLast ++
      [restoreName record.blockId record.generation processId nanos])
    (safe : ∀ after, after.lookup target = entry → Safe after)
    (restored : ∀ after, after.lookup target = some (.file content) → Safe after) :
    wlp (crashing (Attempts tool) tornCall Safe)
      (restoreRecord root record processId nanos target.dropLast target).run
      (fun _ last => Safe last) disk := by
  unfold restoreRecord
  dsimp only
  generalize target.dropLast ++ [restoreName record.blockId record.generation processId nanos] =
    temporary at apart
  have copies : wlp (crashing (Attempts tool) tornCall Safe)
      (Store.copy os (blobPath root record.blockId record.generation) temporary).run
      (IfOk fun _ after => after.lookup temporary = some (.file content)) disk := by
    have within : (StoreOp.copy (blobPath root record.blockId record.generation)
        temporary).WritesWithin (· = temporary) := ⟨by simp, by simp [StoreOp.writes]⟩
    refine ⟨admits_beside within apart safe asItWas, ?_⟩
    intro reply after attempts
    cases reply with
    | error error =>
        intro _ same
        cases same
    | ok done =>
        obtain ⟨copied, isCopied, isTemporary⟩ := attempts.copy_ok
        rw [isFile] at isCopied
        cases isCopied
        exact fun _ _ => isTemporary
  apply wlp_onTemporary apart safe asItWas
    (Store.only_perform (.copy _ _) (by simp) (by simp [StoreOp.writes])) copies
  intro copied stays isTemporary
  have syncs : wlp (crashing (Attempts tool) tornCall Safe)
      (do Store.openWrite os temporary; Store.syncAll os temporary : Stage Unit).run
      (IfOk fun _ after => after.lookup temporary = some (.file content)) copied := by
    have opens : (StoreOp.openWrite temporary).WritesWithin (· = temporary) :=
      ⟨by simp, by simp [StoreOp.writes]⟩
    have stores : (StoreOp.syncAll temporary).WritesWithin (· = temporary) :=
      ⟨by simp, by simp [StoreOp.writes]⟩
    rw [Fallible.wlp_run_bind]
    refine ⟨admits_beside opens apart safe stays, fun reply opened attempts => ?_⟩
    obtain rfl := attempts.unchanged (.inl rfl)
    cases reply with
    | error error =>
        intro _ same
        cases same
    | ok done =>
        refine ⟨admits_beside stores apart safe stays, fun reply after attempts _ _ => ?_⟩
        rw [attempts.unchanged (.inr (.inl rfl))]
        exact isTemporary
  apply wlp_onTemporary apart safe stays
    (Fallible.Only.bind (Store.only_read (.openWrite _) (by simp) rfl) fun _ =>
      Store.only_perform (.syncAll _) (by simp) (by simp [StoreOp.writes])) syncs
  intro synced stays isTemporary
  -- The rename replaces the target at once or leaves all as it was.
  rw [Fallible.wlp_run_bind, Fallible.wlp_run_onError]
  refine ⟨⟨safe synced stays, ?_⟩, ?_⟩
  · rintro after (left | cut)
    · exact left.elim
    · exact cut.elim
  intro reply renamed attempts
  cases reply with
  | error error =>
      obtain rfl := attempts.rename_error
      apply wlp_mono (wlp_elsewhere (only_removeTemporary temporary) apart safe stays)
      intro _ last cleaned
      exact safe last cleaned
  | ok done =>
      obtain ⟨moved, isMoved, moves⟩ := attempts.rename_ok
      rw [isTemporary] at isMoved
      cases isMoved
      refine ⟨⟨restored renamed moves.put, ?_⟩, ?_⟩
      · rintro after (left | cut)
        · exact left.elim
        · exact cut.elim
      · intro reply last attempts
        obtain rfl := attempts.unchanged (.inr (.inr rfl))
        exact restored last moves.put

end Restoring

/-! ## The call -/

variable {blockId : String} {generation : UInt64} {processId nanos : Nat}

/-- Wherever `restore_active` is stopped, and whatever fails in it, the target is as it was or
holds the staged bytes that were verified. -/
theorem restoreActive_atomic
    (apart : target ≠ target.dropLast ++ [restoreName blockId generation processId nanos])
    {after : Disk}
    (halted : Prog.Halted (Attempts tool) tornCall disk
      (restoreActive root processId nanos blockId generation target).run after) :
    AtomicAt tool root blockId generation target disk after := by
  have unchanged : AtomicAt tool root blockId generation target disk disk := .inl rfl
  have holds : wlp (crashing (Attempts tool) tornCall
      (AtomicAt tool root blockId generation target disk))
      (restoreActive root processId nanos blockId generation target).run
      (fun _ last => AtomicAt tool root blockId generation target disk last) disk := by
    unfold restoreActive
    cases validateId blockId with
    | error failure => exact unchanged
    | ok valid =>
        show wlp _ (recover root >>= _).run _ _
        rw [Fallible.wlp_run_bind]
        apply wlp_mono (wlp_recover unchanged)
        rintro reached recovered ⟨same, found⟩
        subst recovered
        cases reached with
        | error failure => exact unchanged
        | ok records =>
            dsimp only
            cases listed : findRecord blockId generation records with
            | error failure => exact unchanged
            | ok record =>
                obtain ⟨rfl, rfl⟩ := of_findRecord listed
                obtain ⟨name, marks⟩ := found records rfl record (mem_of_findRecord listed)
                obtain ⟨_, _, _, _, _, _, content, isFile, _⟩ := id marks
                unfold parent
                split
                · exact unchanged
                · refine wlp_restoreRecord_safe isFile rfl apart (fun _ stays => .inl stays) ?_
                  intro restored isRestored
                  exact .inr ⟨content, ⟨name, record, marks, ⟨rfl, rfl⟩, isFile⟩, isRestored⟩
  exact halted.safe holds

/-! ## A crash inside the copy -/

/-- `recover` leaves the disk as it is. -/
theorem recover_keeps (tool : Sha256sum) (root : Path) (disk : Disk) :
    (Fallible.outcome (StoreOp.apply tool) (recover root) disk).2 = disk := by
  have ran : Prog.Exec (Attempts tool) disk (recover root).run
      (Fallible.outcome (StoreOp.apply tool) (recover root) disk).1
      (Fallible.outcome (StoreOp.apply tool) (recover root) disk).2 :=
    .of_runWith (fun _ _ => .inl rfl) _ _
  have recovers : wlp (crashing (Attempts tool) tornCall fun _ => True) (recover root).run
      (Keeping (· = disk) fun records _ => AllMarked tool root disk records) disk :=
    wlp_recover trivial
  exact (ran.of_crashing recovers).1

/-- A crash inside the copy leaves a front of the staged bytes in the temporary. -/
theorem halted_copying {records : List CommitRecord} {record : CommitRecord} {content : ByteVec}
    {front : List UInt8} {after : Disk} (valid : validateId blockId = .ok ())
    (recovered : (Fallible.outcome (StoreOp.apply tool) (recover root) disk).1 = .ok records)
    (listed : findRecord blockId generation records = .ok record) (nonempty : target ≠ [])
    (isFile : disk.lookup (blobPath root blockId generation) = some (.file content))
    (isFront : front <+: content.bytes)
    (writes : disk.WritesFile
      (target.dropLast ++ [restoreName blockId generation processId nanos]) front after) :
    Prog.Halted (Attempts tool) tornCall disk
      (restoreActive root processId nanos blockId generation target).run after := by
  have ranParent : parent target = .ok target.dropLast := by
    unfold parent
    rw [if_neg nonempty]
  obtain ⟨rfl, rfl⟩ := of_findRecord listed
  apply Prog.Halted.of_interrupted fun _ _ => .inl rfl
  unfold restoreActive
  rw [valid]
  apply Fallible.Interrupted.inSecond (Store.outcome_ofExcept ..)
  apply Fallible.Interrupted.inSecond (Prod.ext recovered (recover_keeps tool root disk))
  rw [listed, ranParent]
  apply Fallible.Interrupted.inSecond (Store.outcome_ofExcept ..)
  apply Fallible.Interrupted.inSecond (Store.outcome_ofExcept ..)
  unfold restoreRecord
  apply Fallible.Interrupted.inFirst
  unfold Fallible.onError Fallible.Interrupted
  apply Prog.Interrupted.inFirst
  apply Fallible.Interrupted.inAttempt
  exact .inCall (.inl ⟨content, front, isFile, isFront, writes⟩)

end Atomic

/-! ## Two crashes -/

/-- The target at which the temporary of the sample call lies. -/
def temporaryTarget : Path := [restoreName "a" 1 7 5]

theorem stagedBytes_fits : ([97, 98, 99] : List UInt8).length < 2 ^ 63 := by decide

theorem oldBytes_fits : ([1, 2] : List UInt8).length < 2 ^ 63 := by decide

/-- A staged block, and a file of another content at that target. -/
def targetDisk : Disk := ((stagedDisk "a").putFile temporaryTarget ⟨[1, 2], oldBytes_fits⟩).2

/-- The disk after a crash before the first byte was copied to the temporary. -/
def copyingDisk (disk : Disk) : Disk :=
  (disk.putFile temporaryTarget ⟨[], ByteVec.nil_fits⟩).2

/-- Such a crash can happen wherever the block can be recovered. -/
private theorem halted_copyingDisk {disk : Disk} {target : Path} {content : ByteVec}
    (recovered : (Fallible.outcome (StoreOp.apply exampleSha256sum) (recover ["store"]) disk).1 =
      .ok [recordOf exampleSha256sum ["store"] "a" 1 [97, 98, 99]])
    (nonempty : target ≠ []) (inRoot : target.dropLast = [])
    (isFile : disk.lookup (blobPath ["store"] "a" 1) = some (.file content))
    (created : (disk.putFile temporaryTarget ⟨[], ByteVec.nil_fits⟩).1 = .ok ()) :
    Prog.Halted (Attempts exampleSha256sum) tornCall disk
      (restoreActive ["store"] 7 5 "a" 1 target).run (copyingDisk disk) := by
  have listed : findRecord "a" 1 [recordOf exampleSha256sum ["store"] "a" 1 [97, 98, 99]] =
      .ok (recordOf exampleSha256sum ["store"] "a" 1 [97, 98, 99]) := by
    decide +kernel
  have writes : disk.WritesFile (target.dropLast ++ [restoreName "a" 1 7 5]) [] (copyingDisk disk) := by
    rw [inRoot]
    exact (Disk.putFile_eq_ok (Prod.ext created rfl)).writesFile
  exact halted_copying (by decide +kernel) recovered listed nonempty isFile List.nil_prefix writes

/-- The crash leaves another target as it was. -/
theorem restoreActive_atomic_copying :
    AtomicAt exampleSha256sum ["store"] "a" 1 ["out.bin"] (stagedDisk "a")
      (copyingDisk (stagedDisk "a")) := by
  have apart : ["out.bin"] ≠ (["out.bin"] : Path).dropLast ++ [restoreName "a" 1 7 5] := by
    decide +kernel
  have staged : (stagedDisk "a").lookup (blobPath ["store"] "a" 1) =
      some (.file ⟨[97, 98, 99], stagedBytes_fits⟩) := by
    decide +kernel
  exact restoreActive_atomic apart
    (halted_copyingDisk (by decide +kernel) (by decide) rfl staged (by decide +kernel))

/-- A target at the temporary is truncated. -/
theorem restoreActive_not_atomic :
    Prog.Halted (Attempts exampleSha256sum) tornCall targetDisk
        (restoreActive ["store"] 7 5 "a" 1 temporaryTarget).run (copyingDisk targetDisk) ∧
      ¬ AtomicAt exampleSha256sum ["store"] "a" 1 temporaryTarget targetDisk
        (copyingDisk targetDisk) := by
  have old : targetDisk.lookup temporaryTarget = some (.file ⟨[1, 2], oldBytes_fits⟩) := by
    decide +kernel
  have cut : (copyingDisk targetDisk).lookup temporaryTarget =
      some (.file ⟨[], ByteVec.nil_fits⟩) := by
    decide +kernel
  have staged : targetDisk.lookup (blobPath ["store"] "a" 1) =
      some (.file ⟨[97, 98, 99], stagedBytes_fits⟩) := by
    decide +kernel
  refine ⟨halted_copyingDisk (by decide +kernel) (by decide +kernel) rfl staged
    (by decide +kernel), ?_⟩
  rintro (unchanged | ⟨content, ⟨_, _, _, _, isStaged⟩, isRestored⟩)
  · rw [cut, old] at unchanged
    simp at unchanged
  · rw [cut] at isRestored
    rw [staged] at isStaged
    simp only [Option.some.injEq, Entry.file.injEq] at isRestored isStaged
    rw [← isRestored] at isStaged
    simp at isStaged

end TriAI.Staging
