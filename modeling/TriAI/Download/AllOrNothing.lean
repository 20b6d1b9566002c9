import TriAI.Download.Contents
import TriAI.Staging.Faults

/-!
Contract: a download replaces its target or leaves it.

Owns: the runs of a download in which any call may fail, with whatever the server sends and
whenever the download is cancelled; the condition on them; and that under it a run that does not
end `Completed` leaves the target as it was, and one that does puts a model with the pinned
digest there.

Does not own: other runs of the same download (`Download.Contents`), and the staging store
(`Staging.Faults`).
-/

set_option autoImplicit false

namespace TriAI.Download

open TriAI.Library.FileTree
open TriAI.Library.Interaction
open TriAI.Library.TextLines
open TriAI.Staging
open TriAI.Storage

/-- Any call may fail, but for the sync of the models directory after the target was
replaced; what the server sends and when the download is cancelled is arbitrary. -/
def SyncedAnswers {Outside : Type} (tool : Sha256sum) (target : Path) (entry : Option Entry)
    (world : World Outside) (op : DownloadOp) (reply : op.Reply) (after : World Outside) : Prop :=
  World.Answers (SyncedAttempts tool target entry) (fun _ _ _ _ => True) world op reply after

/-- A file that the inspector accepts and that has the pinned digest, where one is given. -/
def IsPinnedModel (tool : Sha256sum) (sha256 : Option String) (content : ByteVec) : Prop :=
  GgufRegistry.Accepts content ∧
    ∀ expected, sha256 = some expected → eqIgnoreAsciiCase (tool.hex content.bytes) expected = true

/-- A run ends `Completed` with such a file as the target, or leaves the target as it was. -/
def AllOrNothing {Outside : Type} (tool : Sha256sum) (target : Path) (sha256 : Option String)
    (before after : World Outside) : Prop :=
  (after.handle.phase = .completed →
    ∃ content, after.disk.lookup target = some (.file content) ∧
      IsPinnedModel tool sha256 content) ∧
  (after.handle.phase ≠ .completed → after.disk.lookup target = before.disk.lookup target)

section Runs

variable {Outside α β : Type} {tool : Sha256sum} {target : Path} {entry : Option Entry}
  {world : World Outside}

/-- The run is not `Completed`, and the target is as it was. -/
structure AsItWas (target : Path) (entry : Option Entry) (world : World Outside) : Prop where
  target : world.disk.lookup target = entry
  unfinished : world.handle.phase ≠ .completed

/-- Calls that neither write the target nor report the end. -/
def Harmless (target : Path) : DownloadOp → Prop
  | .store op => op.WritesWithin (· ≠ target)
  | .outside _ => True
  | .handle op => op ≠ .setPhase .completed

/-- Step lemma. -/
theorem AsItWas.answers {kept : Option Entry} {op : DownloadOp} (harmless : Harmless target op)
    (asItWas : AsItWas target kept world) {reply : op.Reply} {after : World Outside}
    (answered : SyncedAnswers tool target entry world op reply after) :
    AsItWas target kept after := by
  cases op with
  | store op =>
      obtain ⟨disk, stepped, rfl⟩ := answered
      have changes := stepped.1.changesWithin harmless
      exact ⟨(changes.frame target (absurd rfl)).trans asItWas.target, asItWas.unfinished⟩
  | outside op =>
      obtain ⟨outside, _, rfl⟩ := answered
      exact ⟨asItWas.target, asItWas.unfinished⟩
  | handle op =>
      obtain ⟨applied, same⟩ := answered
      have isHandle : (op.apply world.handle).2 = after.handle := by rw [applied]
      refine ⟨by rw [same]; exact asItWas.target, ?_⟩
      rw [← isHandle]
      cases op with
      | setPhase next =>
          intro completed
          have isNext : next = .completed := completed
          exact harmless (by rw [isNext])
      | phase => exact asItWas.unfinished
      | bytesDownloaded => exact asItWas.unfinished
      | setBytesDownloaded bytes => exact asItWas.unfinished
      | addBytesDownloaded bytes => exact asItWas.unfinished
      | setTotalBytes total => exact asItWas.unfinished
      | setMessage message => exact asItWas.unfinished

/-- A program of harmless calls. -/
theorem wlp_harmless {kept : Option Entry} {program : Prog DownloadOp DownloadOp.Reply α}
    (only : program.Only (Harmless target)) (asItWas : AsItWas target kept world) :
    wlp (stepping (SyncedAnswers tool target entry)) program
      (fun _ after => AsItWas target kept after) world := by
  refine only.keeps ?_ asItWas
  intro op harmless view asItWas
  exact ⟨trivial, fun reply after answered => asItWas.answers harmless answered⟩

/-- A program of the staging store. -/
theorem wlp_onStore {program : Prog StoreOp StoreOp.Reply α}
    {post : α → World Outside → Prop}
    (holds : wlp (stepping (SyncedAttempts tool target entry)) program
      (fun value disk => post value { world with disk }) world.disk) :
    wlp (stepping (SyncedAnswers tool target entry)) (Client.onStore program) post world := by
  let focus : Disk → World Outside := fun disk => { world with disk }
  have admits : ∀ disk (op : StoreOp),
      (stepping (SyncedAttempts tool target entry)).Admits disk op →
      (stepping (SyncedAnswers tool target entry)).Admits (focus disk) (.store op) :=
    fun _ _ admitted => admitted
  have answers : ∀ disk (op : StoreOp) (reply : op.Reply) after,
      SyncedAnswers tool target entry (focus disk) (.store op) reply after →
      ∃ next, SyncedAttempts tool target entry disk op reply next ∧ after = focus next :=
    fun _ _ _ _ answered => answered
  exact wlp_embed admits answers holds

/-- A step of the staging store that leaves the target as it was. -/
theorem wlp_stage {context : String} {program : Stage α} {known : α → Disk → Prop}
    (unfinished : world.handle.phase ≠ .completed)
    (holds : wlp (stepping (SyncedAttempts tool target entry)) program.run
      (Keeping (fun after => after.lookup target = entry) known) world.disk) :
    wlp (stepping (SyncedAnswers tool target entry)) (Client.stage context program).run
      (Keeping (AsItWas target entry) fun value after => known value after.disk) world := by
  have stored : wlp (stepping (SyncedAnswers tool target entry)) (Client.onStore program.run)
      (fun reached after => AsItWas target entry after ∧
        IfOk (fun value (after : World Outside) => known value after.disk) reached after)
      world := by
    apply wlp_onStore
    apply wlp_mono holds
    rintro reached disk ⟨stays, knows⟩
    exact ⟨⟨stays, unfinished⟩, knows⟩
  apply wlp_seq stored
  rintro reached after ⟨asItWas, knows⟩
  cases reached with
  | ok value =>
      refine ⟨asItWas, ?_⟩
      intro _ same
      cases same
      exact knows value rfl
  | error failure =>
      refine ⟨asItWas, ?_⟩
      intro _ impossible
      cases impossible

/-! ### Programs of harmless calls -/

theorem only_stage {context : String} {program : Stage α}
    (only : Fallible.Only (StoreOp.WritesWithin (· ≠ target)) program) :
    Fallible.Only (Harmless target) (Client.stage context program) :=
  .attempt (Prog.Only.embed only)

theorem only_ignore {program : Stage α}
    (only : Fallible.Only (StoreOp.WritesWithin (· ≠ target)) program) :
    Fallible.Only (Harmless target) (Client.ignore program) :=
  .lift (Prog.Only.bind (Prog.Only.embed only) fun _ => trivial)

theorem only_onHandle {op : HandleOp} (notEnd : op ≠ .setPhase .completed) :
    Fallible.Only (Harmless target) (Client.onHandle op) :=
  .lift ⟨notEnd, fun _ => trivial⟩

theorem only_get (url : String) (first : Option UInt64) :
    Fallible.Only (Harmless target) (Client.get url first) :=
  .attempt ⟨trivial, fun _ => trivial⟩

theorem only_read : Fallible.Only (Harmless target) Client.read :=
  .attempt ⟨trivial, fun _ => trivial⟩

theorem only_cancelRequested : Fallible.Only (Harmless target) Client.cancelRequested :=
  .lift ⟨trivial, fun _ => trivial⟩

theorem only_fetch (urls : UrlLibrary) (requiredScheme : String) (resumeFrom : UInt64)
    (remaining : Nat) (url : String) :
    Fallible.Only (Harmless target) (fetch urls requiredScheme resumeFrom remaining url) := by
  induction remaining generalizing url with
  | zero =>
      unfold fetch
      apply Fallible.Only.bind (only_get url _)
      intro response
      split
      · exact Fallible.Only.result _
      · exact Fallible.Only.result _
  | succ remaining inductionHypothesis =>
      unfold fetch
      apply Fallible.Only.bind (only_get url _)
      intro response
      split
      · apply Fallible.Only.bind (Fallible.Only.result _)
        exact fun next => inductionHypothesis next
      · exact Fallible.Only.result _

variable {root : Path} {blockId : String} {generation : UInt64}

theorem only_openPart {context : String} (apart : partPath root blockId generation ≠ target) :
    Fallible.Only (Harmless target) (openPart root blockId generation context) := by
  unfold openPart
  apply Fallible.Only.bind (only_stage (only_openPartForResume apart))
  intro resumeFrom
  apply Fallible.Only.bind (only_onHandle HandleOp.noConfusion)
  exact fun _ => Fallible.Only.result _

theorem only_bodyStart {resumeFrom : UInt64} {response : Response}
    (apart : partPath root blockId generation ≠ target) :
    Fallible.Only (Harmless target) (bodyStart root blockId generation resumeFrom response) := by
  unfold bodyStart
  split
  · apply Fallible.Only.bind (only_stage (only_discardPart apart))
    exact fun _ => only_openPart apart
  · exact Fallible.Only.result _

theorem only_connect {job : Job} {urls : UrlLibrary} {requiredScheme : String}
    (apart : partPath job.root job.blockId job.generation ≠ target) :
    Fallible.Only (Harmless target) (job.connect urls requiredScheme) := by
  unfold Job.connect
  apply Fallible.Only.bind (only_openPart apart)
  intro resumeFrom
  apply Fallible.Only.bind (only_fetch urls requiredScheme resumeFrom maxRedirects _)
  intro response
  apply Fallible.Only.bind (only_bodyStart apart)
  intro start
  apply Fallible.Only.bind (only_onHandle HandleOp.noConfusion)
  intro _
  apply Fallible.Only.bind (Fallible.Only.result _)
  exact fun _ => Fallible.Only.result _

theorem only_readBody (apart : partPath root blockId generation ≠ target) (rounds : Nat) :
    Fallible.Only (Harmless target) (readBody root blockId generation rounds) := by
  induction rounds with
  | zero => exact Fallible.Only.result _
  | succ rounds inductionHypothesis =>
      unfold readBody
      apply Fallible.Only.bind only_cancelRequested
      intro cancelled
      split
      · apply Fallible.Only.bind (only_ignore (only_discardPart apart))
        intro _
        apply Fallible.Only.bind (only_onHandle (by simp))
        exact fun _ => Fallible.Only.result _
      · apply Fallible.Only.bind only_read
        intro chunk
        split
        · exact Fallible.Only.result _
        · apply Fallible.Only.bind (only_stage (Store.only_perform (.writeAll _ _) (by simp)
            (by simpa [StoreOp.writes] using apart)))
          intro _
          apply Fallible.Only.bind (only_onHandle HandleOp.noConfusion)
          exact fun _ => inductionHypothesis

/-- The staged files are removed. -/
theorem only_removeStaged (blobApart : blobPath root blockId generation ≠ target)
    (commitApart : commitPath root blockId generation ≠ target) :
    Fallible.Only (Harmless target) (removeStaged root blockId generation) := by
  unfold removeStaged
  apply Fallible.Only.bind (only_ignore (Store.only_perform (.removeFile _) (by simp)
    (by simpa [StoreOp.writes] using blobApart)))
  exact fun _ => only_ignore (Store.only_perform (.removeFile _) (by simp)
    (by simpa [StoreOp.writes] using commitApart))

/-! ### Verifying and installing -/

/-- The staged file is one the inspector accepts. -/
private theorem wlp_inspectFile {content : ByteVec} {path : Path} {disk : Disk}
    (isFile : disk.lookup path = some (.file content)) (asItWas : disk.lookup target = entry) :
    wlp (stepping (SyncedAttempts tool target entry)) (inspectFile path).run
      (Keeping (fun after => after.lookup target = entry) fun _ after =>
        after.lookup path = some (.file content) ∧ GgufRegistry.Accepts content) disk := by
  unfold inspectFile
  have reads : wlp (stepping (SyncedAttempts tool target entry)) (Store.read os path).run
      (Keeping (fun after => after.lookup target = entry) fun found after =>
        after.lookup path = some (.file content) ∧ found = content) disk := by
    have only : (Store.read os path).run.Only (StoreOp.WritesWithin fun _ => False) :=
      Store.only_read (.read _) (by simp) rfl
    refine wlp_and (wlp_asItWas only id asItWas) ⟨trivial, ?_⟩
    intro reply after stepped
    cases reply with
    | error error =>
        intro _ same
        cases same
    | ok found =>
        obtain ⟨rfl, isFound⟩ := stepped.1.read_ok
        intro value same
        cases same
        rw [isFile] at isFound
        cases isFound
        exact ⟨isFile, rfl⟩
  apply wlp_keeping_bind reads
  rintro found after asItWas ⟨stillFile, rfl⟩
  refine ⟨asItWas, ?_⟩
  intro metadata accepted
  exact ⟨stillFile, metadata, accepted⟩

variable (job : Job)

/-- What a verified download has staged: a model with the pinned digest. -/
private theorem wlp_verify {start : UInt64} {announced : Option UInt64}
    (outside : ¬ IsStaged job.root job.blockId job.generation target)
    (asItWas : AsItWas target entry world) :
    wlp (stepping (SyncedAnswers tool target entry)) (job.verify start announced).run
      (Keeping (AsItWas target entry) fun _ after => ∃ content,
        after.disk.lookup (blobPath job.root job.blockId job.generation) =
          some (.file content) ∧
        GgufRegistry.Accepts content ∧
        ExpectedDigest tool (partPath job.root job.blockId job.generation) content.bytes
          job.request.sha256) world := by
  have part : partPath job.root job.blockId job.generation ≠ target := by
    rintro rfl
    exact outside (.inl rfl)
  have blob : blobPath job.root job.blockId job.generation ≠ target := by
    rintro rfl
    exact outside (.inr (.inl rfl))
  have commit : commitPath job.root job.blockId job.generation ≠ target := by
    rintro rfl
    exact outside (.inr (.inr rfl))
  have harmless : ∀ {γ : Type} {program : Client γ} {before : World Outside},
      Fallible.Only (Harmless target) program → AsItWas target entry before →
      wlp (stepping (SyncedAnswers tool target entry)) program.run
        (Keeping (AsItWas target entry) fun _ _ => True) before :=
    fun only asItWas => wlp_mono (wlp_harmless only asItWas) fun _ _ stays =>
      ⟨stays, fun _ _ => trivial⟩
  unfold Job.verify
  apply wlp_keeping_bind (harmless (only_stage (Store.only_perform (.syncAll _) (by simp)
    (by simpa [StoreOp.writes] using part))) asItWas)
  intro _ synced asItWas _
  apply wlp_keeping_bind (harmless (only_onHandle HandleOp.noConfusion) asItWas)
  intro downloaded shown asItWas _
  apply wlp_keeping_bind (harmless (Fallible.Only.result _) asItWas)
  intro _ checked asItWas _
  apply wlp_keeping_bind (harmless (only_onHandle (by simp)) asItWas)
  intro _ verifying asItWas _
  apply wlp_keeping_bind (wlp_stage asItWas.unfinished
    (wlp_finalizePart_faulty outside asItWas.target))
  rintro record staged asItWas ⟨content, isBlob, digest⟩
  unfold inspectStaged
  have inspected : wlp (stepping (SyncedAnswers tool target entry))
      (do
        let _ ← Client.stage "keine gueltige GGUF-Datei: "
          (inspectFile (blobPath job.root job.blockId job.generation))
        pure () : Client Unit).run
      (Keeping (AsItWas target entry) fun _ after =>
        after.disk.lookup (blobPath job.root job.blockId job.generation) =
          some (.file content) ∧ GgufRegistry.Accepts content) staged := by
    apply wlp_keeping_bind (wlp_stage asItWas.unfinished (wlp_inspectFile isBlob asItWas.target))
    intro _ after asItWas accepted
    exact ⟨asItWas, fun _ _ => accepted⟩
  unfold Fallible.onError
  rw [ExceptT.run_mk]
  apply wlp_seq inspected
  rintro reached after ⟨asItWas, accepted⟩
  cases reached with
  | ok value =>
      refine ⟨asItWas, fun _ _ => ?_⟩
      obtain ⟨isBlob, accepts⟩ := accepted value rfl
      exact ⟨content, isBlob, accepts, digest⟩
  | error failure =>
      apply wlp_seq (wlp_harmless (only_removeStaged blob commit) asItWas)
      refine fun _ last stays => ⟨stays, ?_⟩
      intro _ impossible
      cases impossible

/-- A step whose result is dropped does not fail. -/
private theorem wlp_ignore (program : Stage α) (world : World Outside) :
    wlp (stepping (SyncedAnswers tool target entry)) (Client.ignore program).run
      (fun reached _ => reached = .ok ()) world := by
  unfold Client.ignore
  rw [ExceptT.run_lift, map_eq_pure_bind]
  apply wlp_stepping_skip
  exact fun _ _ => rfl

/-- The staged files are removed, if they can be. -/
private theorem wlp_removeStaged {kept : Option Entry}
    (blobApart : blobPath root blockId generation ≠ target)
    (commitApart : commitPath root blockId generation ≠ target)
    (asItWas : AsItWas target kept world) :
    wlp (stepping (SyncedAnswers tool target entry)) (removeStaged root blockId generation).run
      (fun reached after => AsItWas target kept after ∧ reached = .ok ()) world := by
  refine wlp_and (wlp_harmless (only_removeStaged blobApart commitApart) asItWas) ?_
  unfold removeStaged
  rw [Fallible.wlp_run_bind]
  apply wlp_mono (wlp_ignore _ world)
  rintro _ after rfl
  exact wlp_ignore _ after

/-- How an installation ends. -/
def Installed (target : Path) (entry : Option Entry) (content : ByteVec)
    (reached : Except DownloadFailure Unit) (after : World Outside) : Prop :=
  match reached with
  | .ok () => after.handle.phase = .completed ∧ after.disk.lookup target = some (.file content)
  | .error _ => AsItWas target entry after

/-- The models directory is made if it is missing. -/
private theorem wlp_createModelsDir {context : String} {modelsDir blob : Path} {content : ByteVec}
    (apart : ¬ target <+: modelsDir) (isBlob : world.disk.lookup blob = some (.file content))
    (asItWas : AsItWas target entry world) :
    wlp (stepping (SyncedAnswers tool target entry))
      (Client.stage context (Store.createDirAll os modelsDir)).run
      (Keeping (AsItWas target entry) fun _ after =>
        after.disk.lookup blob = some (.file content)) world := by
  have made : wlp (stepping (SyncedAttempts tool target entry))
      (Store.createDirAll os modelsDir).run
      (Keeping (fun after => after.lookup target = entry) fun _ after =>
        after.lookup blob = some (.file content)) world.disk := by
    refine ⟨trivial, ?_⟩
    intro reply after stepped
    refine ⟨(stepped.1.createDirAll_frame apart).trans asItWas.target, fun _ _ => ?_⟩
    apply Disk.lookup_of_file
    rw [stepped.1.createDirAll_file]
    exact Disk.file_of_lookup isBlob
  exact wlp_stage asItWas.unfinished made

/-- Whatever fails, the target is replaced by what was staged or left as it was. -/
private theorem wlp_install {content : ByteVec}
    (isTarget : target = targetPath job.modelsDir job.request)
    (outside : ¬ IsStaged job.root job.blockId job.generation target)
    (apart : target ≠ target.dropLast ++
      [restoreName job.blockId job.generation job.processId job.nanos])
    (isBlob : world.disk.lookup (blobPath job.root job.blockId job.generation) =
      some (.file content))
    (asItWas : AsItWas target entry world) :
    wlp (stepping (SyncedAnswers tool target entry)) job.install.run
      (Installed target entry content) world := by
  have below : ¬ target <+: job.modelsDir := by
    intro isFront
    have longer := isFront.length_le
    rw [isTarget, targetPath, List.length_append, List.length_singleton] at longer
    omega
  unfold Job.install
  rw [Fallible.wlp_run_bind]
  apply wlp_mono (wlp_createModelsDir below isBlob asItWas)
  rintro reached made ⟨asItWas, staysBlob⟩
  cases reached with
  | error failure => exact asItWas
  | ok value =>
      have isBlob := staysBlob value rfl
      dsimp only
      have stored : wlp (stepping (SyncedAnswers tool target entry))
          (Client.onStore (restoreActive job.root job.processId job.nanos job.blockId
            job.generation target).run)
          (fun reached after => Replaced target entry content reached after.disk ∧
            after.handle.phase ≠ .completed) made := by
        apply wlp_onStore
        apply wlp_mono (wlp_restoreActive_faulty isBlob asItWas.target apart)
        exact fun _ _ replaced => ⟨replaced, asItWas.unfinished⟩
      rw [← isTarget, Fallible.wlp_run_bind]
      apply wlp_seq stored
      rintro reached restored ⟨replaced, unfinished⟩
      cases reached with
      | error failure => exact ⟨replaced, unfinished⟩
      | ok done =>
          have isNew : AsItWas target (some (.file content)) restored := ⟨replaced, unfinished⟩
          have blobApart : blobPath job.root job.blockId job.generation ≠ target := by
            rintro rfl
            exact outside (.inr (.inl rfl))
          have commitApart : commitPath job.root job.blockId job.generation ≠ target := by
            rintro rfl
            exact outside (.inr (.inr rfl))
          show wlp _ (removeStaged _ _ _ >>= _).run _ _
          rw [Fallible.wlp_run_bind]
          apply wlp_mono (wlp_removeStaged blobApart commitApart isNew)
          rintro _ cleaned ⟨isNew, rfl⟩
          refine ⟨trivial, ?_⟩
          rintro reply after ⟨applied, same⟩
          have isHandle : (HandleOp.apply (.setPhase .completed) cleaned.handle).2 =
              after.handle := by rw [applied]
          refine ⟨by rw [← isHandle]; rfl, ?_⟩
          rw [same]
          exact isNew.target

/-! ### A run -/

/-- How a run ends: with a staged model as the target, or as it began. -/
def Concluded (tool : Sha256sum) (job : Job) (target : Path) (entry : Option Entry)
    (after : World Outside) : Prop :=
  AsItWas target entry after ∨ after.handle.phase = .completed ∧ ∃ content,
    after.disk.lookup target = some (.file content) ∧ GgufRegistry.Accepts content ∧
    ExpectedDigest tool (partPath job.root job.blockId job.generation) content.bytes
      job.request.sha256

private theorem wlp_tryDownload (urls : UrlLibrary) (requiredScheme : String) (rounds : Nat)
    (isTarget : target = targetPath job.modelsDir job.request)
    (outside : ¬ IsStaged job.root job.blockId job.generation target)
    (apart : target ≠ target.dropLast ++
      [restoreName job.blockId job.generation job.processId job.nanos])
    (asItWas : AsItWas target entry world) :
    wlp (stepping (SyncedAnswers tool target entry))
      (job.tryDownload urls requiredScheme rounds).run
      (fun reached after => Concluded tool job target entry after ∧
        (∀ failure, reached = .error failure → AsItWas target entry after)) world := by
  have part : partPath job.root job.blockId job.generation ≠ target := by
    rintro rfl
    exact outside (.inl rfl)
  unfold Job.tryDownload
  rw [Fallible.wlp_run_bind]
  apply wlp_mono (wlp_harmless (only_connect part) asItWas)
  intro reached connected asItWas
  cases reached with
  | error failure => exact ⟨.inl asItWas, fun _ _ => asItWas⟩
  | ok announcement =>
      dsimp only
      rw [Fallible.wlp_run_bind]
      apply wlp_mono (wlp_harmless (only_readBody part rounds) asItWas)
      intro reached read asItWas
      cases reached with
      | error failure => exact ⟨.inl asItWas, fun _ _ => asItWas⟩
      | ok bodyEnd =>
          cases bodyEnd with
          | cancelled => exact ⟨.inl asItWas, fun _ _ => asItWas⟩
          | unfinished => exact ⟨.inl asItWas, fun _ _ => asItWas⟩
          | complete =>
              show wlp _ (job.verify _ _ >>= _).run _ _
              rw [Fallible.wlp_run_bind]
              apply wlp_mono (wlp_verify job outside asItWas)
              rintro reached verified ⟨asItWas, staged⟩
              cases reached with
              | error failure => exact ⟨.inl asItWas, fun _ _ => asItWas⟩
              | ok done =>
                  obtain ⟨content, isBlob, accepts, digest⟩ := staged done rfl
                  apply wlp_mono (wlp_install job isTarget outside apart isBlob asItWas)
                  intro reached after installed
                  cases reached with
                  | error failure => exact ⟨.inl installed, fun _ _ => installed⟩
                  | ok done =>
                      refine ⟨.inr ⟨installed.1, content, installed.2, accepts, digest⟩, ?_⟩
                      intro _ impossible
                      cases impossible

theorem wlp_runDownload_faulty (urls : UrlLibrary) (rounds : Nat)
    (isTarget : target = targetPath job.modelsDir job.request)
    (outside : ¬ IsStaged job.root job.blockId job.generation target)
    (apart : target ≠ target.dropLast ++
      [restoreName job.blockId job.generation job.processId job.nanos])
    (asItWas : AsItWas target entry world) :
    wlp (stepping (SyncedAnswers tool target entry)) (job.runDownload urls rounds)
      (fun _ after => Concluded tool job target entry after) world := by
  unfold Job.runDownload
  apply wlp_seq (wlp_tryDownload job urls "https" rounds isTarget outside apart asItWas)
  rintro reached after ⟨ended, failed⟩
  cases reached with
  | ok done => exact ended
  | error failure =>
      have only : (Job.conclude (.error failure)).Only (Harmless target) := by
        refine ⟨HandleOp.noConfusion, fun phase => ?_⟩
        show Prog.Only _ (if phase = DownloadPhase.cancelled then _ else _)
        split
        · trivial
        · exact ⟨HandleOp.noConfusion, fun _ => ⟨by simp [Harmless], fun _ => trivial⟩⟩
      apply wlp_mono (wlp_harmless only (failed failure rfl))
      exact fun _ _ asItWas => .inl asItWas

end Runs

section Names

/-- The target is none of the files of its block: their names are longer. -/
theorem target_not_staged (root modelsDir : Path) (name : String) (generation : UInt64) :
    ¬ IsStaged root name generation (modelsDir ++ [name]) := by
  have longer := target_ne_fileName root modelsDir name generation
  rintro (isPart | isBlob | isCommit)
  · exact longer "part" isPart
  · exact longer "bin" isBlob
  · exact longer "commit" isCommit

/-- The target is not the file beside it that becomes the target. -/
theorem target_ne_restore (directory : Path) (name : String) (generation : UInt64)
    (processId nanos : Nat) :
    directory ++ [name] ≠
      (directory ++ [name]).dropLast ++ [restoreName name generation processId nanos] := by
  intro same
  rw [List.dropLast_concat] at same
  have names := List.append_inj_right' same rfl
  have lengths := congrArg (fun path : Path => (path.map String.length).sum) names
  have start : ".restore-".length = 9 := rfl
  have named : restoreName name generation processId nanos =
      ".restore-" ++ name ++ "-" ++ toString generation.toNat ++ "-" ++ toString processId ++
        "-" ++ toString nanos ++ ".tmp" := rfl
  simp [named, start] at lengths
  omega

/-- A digest that sha256sum has marked by a backslash is longer than any pinned one. -/
theorem hex_of_digest {tool : Sha256sum} (lawful : tool.Lawful) {path : Path}
    {data : List UInt8} {expected : String} (valid : validSha256Hex expected = true)
    (matching : eqIgnoreAsciiCase (tool.digest path data) expected = true) :
    eqIgnoreAsciiCase (tool.hex data) expected = true := by
  have short : expected.length ≤ 64 := by
    have bytes : (utf8Bytes expected).length = 64 := (of_decide_eq_true valid).1
    exact bytes ▸ length_le_utf8Bytes expected
  have letters : (tool.digest path data).toList.map Char.toLower =
      expected.toList.map Char.toLower := of_decide_eq_true matching
  have lengths : (tool.digest path data).length = expected.length := by
    have same := congrArg List.length letters
    simpa only [List.length_map, String.length_toList] using same
  unfold Sha256sum.digest at matching lengths
  split at lengths
  · have backslash : "\\".length = 1 := rfl
    rw [String.length_append, lawful.length, backslash] at lengths
    omega
  · rename_i plain
    rwa [if_neg plain] at matching

/-- The checks of `create` on a pinned digest. -/
theorem validSha256_of_checkRequest {urls : UrlLibrary} {request : DownloadRequest}
    (accepted : checkRequest urls request = .ok ()) {expected : String}
    (pinned : request.sha256 = some expected) : validSha256Hex expected = true := by
  unfold checkRequest at accepted
  cases named : validateFileName request.fileName with
  | error error =>
      rw [named] at accepted
      cases accepted
  | ok _ =>
      cases linked : checkUrl urls request.url with
      | error error =>
          rw [named, linked] at accepted
          cases accepted
      | ok _ =>
          rw [named, linked, pinned] at accepted
          have checked : checkSha256 (some expected) = .ok () := accepted
          simp only [checkSha256] at checked
          split at checked
          · assumption
          · cases checked

end Names

/-! ## All runs -/

/-- Any call may fail; what the server sends and when the download is cancelled is
arbitrary. -/
def FaultyAnswers {Outside : Type} (tool : Sha256sum) (world : World Outside) (op : DownloadOp)
    (reply : op.Reply) (after : World Outside) : Prop :=
  World.Answers (Attempts tool) (fun _ _ _ _ => True) world op reply after

/-- Where the sync of the models directory fails only while the target is as it was before the
run, a run that does not end `Completed` has left it so, and one that does has put a model with
the pinned digest there. -/
theorem runDownload_allOrNothing {Outside : Type} {tool : Sha256sum} (lawful : tool.Lawful)
    {urls : UrlLibrary} {request : DownloadRequest}
    (accepted : checkRequest urls request = .ok ()) (root modelsDir : Path)
    (stableHash : String → UInt64) (processId nanos rounds : Nat) {world after : World Outside}
    (begins : world.handle = {})
    (run : Prog.Exec (SyncedAnswers tool (targetPath modelsDir request)
      (world.disk.lookup (targetPath modelsDir request))) world
      ((jobOf root modelsDir stableHash processId nanos request).runDownload urls rounds)
      () after) :
    AllOrNothing tool (targetPath modelsDir request) request.sha256 world after := by
  have asItWas : AsItWas (targetPath modelsDir request)
      (world.disk.lookup (targetPath modelsDir request)) world :=
    ⟨rfl, by rw [begins]; exact DownloadPhase.noConfusion⟩
  have ended := run.of_stepping (wlp_runDownload_faulty
    (jobOf root modelsDir stableHash processId nanos request) urls rounds rfl
    (target_not_staged root modelsDir request.fileName (stableHash request.url))
    (target_ne_restore modelsDir request.fileName (stableHash request.url) processId nanos)
    asItWas)
  rcases ended with asItWas | ⟨completed, content, isTarget, accepts, digest⟩
  · exact ⟨fun completed => absurd completed asItWas.unfinished, fun _ => asItWas.target⟩
  · refine ⟨fun _ => ⟨content, isTarget, accepts, ?_⟩, fun other => absurd completed other⟩
    intro expected pinned
    exact hex_of_digest lawful (validSha256_of_checkRequest accepted pinned)
      (digest expected pinned)

/-! ## Two runs -/

/-- A request for the sample, with its digest. -/
def pinnedRequest : DownloadRequest where
  url := "https://host/m"
  fileName := "m"
  expectedSizeBytes := some 24
  sha256 := some "a4e5e156ddec27e286f75328784d7106b60a4eb1d246e950a001a3f944fbda99"

theorem pinnedRequest_accepted : checkRequest sampleShared.urls pinnedRequest = .ok () := by
  decide +kernel

theorem sampleTool_lawful : sampleShared.tool.Lawful where
  length := by
    intro content
    show "a4e5e156ddec27e286f75328784d7106b60a4eb1d246e950a001a3f944fbda99".length = 64
    decide +kernel
  digits := by
    intro content c member
    have hexadecimal : ("a4e5e156ddec27e286f75328784d7106b60a4eb1d246e950a001a3f944fbda99".toList.all
        fun c => c.isDigit || "abcdef".toList.contains c) = true := by
      decide +kernel
    simpa using List.all_eq_true.mp hexadecimal c member
  escapes := by
    intro c escaped
    exact of_decide_eq_true escaped

/-- The world of a run of the sample, whose calls work as the disk has it. -/
def sampleAnswers : (op : DownloadOp) → World Connection → op.Reply × World Connection
  | .store op, world =>
      ((op.apply sampleShared.tool world.disk).1,
        { world with disk := (op.apply sampleShared.tool world.disk).2 })
  | .outside op, world =>
      ((serveWhole sampleBytes op world.outside).1,
        { world with outside := (serveWhole sampleBytes op world.outside).2 })
  | .handle op, world =>
      ((op.apply world.handle).1, { world with handle := (op.apply world.handle).2 })

/-- Here the sync of the models directory fails. -/
def sampleFails : (op : DownloadOp) → World Connection → op.Reply × World Connection
  | .store (.syncDir path), world =>
      if path = ["models"] then (.error (.other "input/output error"), world)
      else sampleAnswers (.store (.syncDir path)) world
  | op, world => sampleAnswers op world

theorem sampleAnswers_faulty (op : DownloadOp) (world : World Connection) :
    FaultyAnswers sampleShared.tool world op (sampleAnswers op world).1
      (sampleAnswers op world).2 := by
  cases op with
  | store op => exact ⟨_, .inl rfl, rfl⟩
  | outside op => exact ⟨_, trivial, rfl⟩
  | handle op => exact ⟨rfl, rfl⟩

theorem sampleFails_faulty (op : DownloadOp) (world : World Connection) :
    FaultyAnswers sampleShared.tool world op (sampleFails op world).1
      (sampleFails op world).2 := by
  cases op with
  | store op =>
      cases op with
      | syncDir path =>
          by_cases isModels : path = ["models"]
          · have fails : sampleFails (.store (.syncDir path)) world =
                (.error (.other "input/output error"), world) := if_pos isModels
            rw [fails]
            exact ⟨world.disk, .inr ⟨rfl, .inl rfl⟩, rfl⟩
          · have works : sampleFails (.store (.syncDir path)) world =
                sampleAnswers (.store (.syncDir path)) world := if_neg isModels
            rw [works]
            exact sampleAnswers_faulty _ world
      | _ => exact sampleAnswers_faulty _ world
  | _ => exact sampleAnswers_faulty _ world

def sampleStart : World Connection := { disk := sampleDisk, handle := {}, outside := {} }

private theorem sampleStart_empty : sampleStart.disk.lookup ["models", "m"] = none := by
  decide +kernel

abbrev pinnedRun : Prog DownloadOp DownloadOp.Reply Unit :=
  (jobOf ["downloads"] ["models"] (fun _ => 1) 1 0 pinnedRequest).runDownload sampleShared.urls 2

/-- The models directory cannot be synced after the rename: the run ends `Failed`, and the model
is there. -/
theorem runDownload_nothingButAll :
    ∃ after, Prog.Exec (FaultyAnswers sampleShared.tool) sampleStart pinnedRun () after ∧
      after.handle.phase = .failed ∧
      after.disk.file ["models", "m"] = some sampleShared.content ∧
      ¬ AllOrNothing sampleShared.tool ["models", "m"] pinnedRequest.sha256 sampleStart after := by
  have failed : (pinnedRun.runWith sampleFails sampleStart).2.handle.phase = .failed := by
    decide +kernel
  have isThere : (pinnedRun.runWith sampleFails sampleStart).2.disk.file ["models", "m"] =
      some sampleShared.content := by
    decide +kernel
  refine ⟨_, .of_runWith_unit sampleFails_faulty pinnedRun sampleStart, failed, isThere, ?_⟩
  intro allOrNothing
  have same := allOrNothing.2 (by rw [failed]; exact DownloadPhase.noConfusion)
  rw [Disk.lookup_of_file isThere, sampleStart_empty] at same
  cases same

/-- While the target is missing, the sync of its directory may fail; it does not once the target
is there. -/
private theorem sampleAnswers_synced (op : DownloadOp) (world : World Connection) :
    SyncedAnswers sampleShared.tool ["models", "m"] none world op (sampleAnswers op world).1
      (sampleAnswers op world).2 := by
  cases op with
  | store op =>
      refine ⟨_, ⟨.inl rfl, ?_⟩, rfl⟩
      cases op with
      | syncDir path =>
          cases found : world.disk.lookup path with
          | some entry =>
              have synced : (sampleAnswers (.store (.syncDir path)) world).1 = .ok () := by
                simp [sampleAnswers, StoreOp.apply, Disk.syncDir, Disk.openRead, found]
              rw [synced]
              trivial
          | none =>
              have failed : (sampleAnswers (.store (.syncDir path)) world).1 =
                  .error .notFound := by
                simp [sampleAnswers, StoreOp.apply, Disk.syncDir, Disk.openRead, found]
              rw [failed]
              intro isModels
              subst isModels
              cases target : world.disk.lookup ["models", "m"] with
              | none => rfl
              | some entry =>
                  have isDirectory := world.disk.parents ["models"] "m" entry target
                  cases found.symm.trans isDirectory
      | _ => trivial
  | outside op => exact ⟨_, trivial, rfl⟩
  | handle op => exact ⟨rfl, rfl⟩

/-- The run of a request whose model has the pinned digest. -/
theorem runDownload_allOrNothing_pinned :
    ∃ after, after.handle.phase = .completed ∧
      AllOrNothing sampleShared.tool ["models", "m"] pinnedRequest.sha256 sampleStart after := by
  have completed : (pinnedRun.runWith sampleAnswers sampleStart).2.handle.phase = .completed := by
    decide +kernel
  have run : Prog.Exec (SyncedAnswers sampleShared.tool ["models", "m"]
      (sampleStart.disk.lookup ["models", "m"])) sampleStart pinnedRun ()
      (pinnedRun.runWith sampleAnswers sampleStart).2 := by
    rw [sampleStart_empty]
    exact .of_runWith_unit sampleAnswers_synced pinnedRun sampleStart
  exact ⟨_, completed, runDownload_allOrNothing sampleTool_lawful pinnedRequest_accepted
    ["downloads"] ["models"] (fun _ => 1) 1 0 2 rfl run⟩

end TriAI.Download
