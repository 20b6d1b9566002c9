import TriAI.Download.AllOrNothing

/-!
Contract: the pinned size of a download.

Owns: runs over any server, which remember its last response and how much of the body of that
was read; the size of what such a run installs; and when that is the pinned size.

Does not own: which content is installed (`Download.Contents`).
-/

set_option autoImplicit false

namespace TriAI.Download

open TriAI.Library.FileTree
open TriAI.Library.Interaction
open TriAI.Staging
open TriAI.Storage

/-! ## The world -/

/-- The last response of a server, and how many bytes of its body were read. -/
structure Delivery where
  response : Option Response := none
  received : Nat := 0

/-- A server may answer anything. -/
def Delivery.Answers (delivery : Delivery) : (op : OutsideOp) → op.Reply → Delivery → Prop
  | .get _ _, .ok response, after => after = { response := some response }
  | .read _, .ok chunk, after =>
      after = { delivery with received := delivery.received + chunk.length }
  | _, _, after => after = delivery

/-- The calls of the staging store change the files as their replies say; the server is any. -/
def DeliveredAnswers : World Delivery → (op : DownloadOp) → op.Reply → World Delivery → Prop :=
  World.Answers (fun disk op reply after => FileStep disk.file op reply after.file)
    Delivery.Answers

/-- The size of the part file, which may be missing. -/
def partBytes (files : Files) (part : Path) : Nat := ((files part).getD emptyFile).bytes.length

/-- What a response leaves of the part file: a response that is not partial begins anew. -/
def resumedBytes (offset : Nat) (response : Response) : Nat :=
  if response.status = 206 then offset else 0

section Rules

variable {α β : Type} {world : World Delivery}

/-- A program of the staging store. -/
private theorem delivered_onStore {Keeps : Files → Prop} {program : Prog StoreOp StoreOp.Reply α}
    {post : α → Files → Prop} (holds : wlp (onFiles Keeps) program post world.disk.file) :
    wlp (stepping DeliveredAnswers) (Client.onStore program)
      (fun value after => post value after.disk.file ∧ after.handle = world.handle ∧
        after.outside = world.outside) world := by
  let onDisk : Contract StoreOp StoreOp.Reply Disk :=
    stepping fun disk op reply after => FileStep disk.file op reply after.file
  let focus : Disk → World Delivery := fun disk => { world with disk }
  have coarser : ∀ (disk : Disk) (op : StoreOp) (reply : op.Reply) after,
      onDisk.Answers disk op reply after →
      (onFiles Keeps).Answers disk.file op reply after.file := fun _ _ _ _ answered => answered
  have stored : wlp onDisk program (fun value after => post value after.file) world.disk :=
    wlp_project (fun _ _ _ => trivial) coarser holds
  have admits : ∀ disk (op : StoreOp), onDisk.Admits disk op →
      (stepping DeliveredAnswers).Admits (focus disk) (.store op) := fun _ _ admitted => admitted
  have answers : ∀ disk (op : StoreOp) (reply : op.Reply) after,
      DeliveredAnswers (focus disk) (.store op) reply after →
      ∃ next, onDisk.Answers disk op reply next ∧ after = focus next :=
    fun _ _ _ _ answered => answered
  apply wlp_embed admits answers
  apply wlp_mono stored
  exact fun _ _ holds => ⟨holds, rfl, rfl⟩

/-- A step of the staging store. -/
private theorem delivered_stage {Keeps : Files → Prop} {context : String} {program : Stage α}
    {known : α → Files → Prop}
    (holds : wlp (onFiles Keeps) program.run (IfOk known) world.disk.file) :
    wlp (stepping DeliveredAnswers) (Client.stage context program).run
      (IfOk fun value after => known value after.disk.file ∧ after.handle = world.handle ∧
        after.outside = world.outside) world := by
  apply wlp_seq (delivered_onStore holds)
  rintro reached after ⟨knows, same⟩
  cases reached with
  | ok value => exact ifOk_ok ⟨knows value rfl, same⟩
  | error failure => exact ifOk_error _ _ _

/-- A step of the staging store whose result is dropped. -/
private theorem delivered_ignore {Keeps : Files → Prop} {program : Stage α}
    {known : Files → Prop}
    (holds : wlp (onFiles Keeps) program.run (fun _ after => known after) world.disk.file) :
    wlp (stepping DeliveredAnswers) (Client.ignore program).run
      (IfOk fun _ after => known after.disk.file ∧ after.handle = world.handle ∧
        after.outside = world.outside) world := by
  unfold Client.ignore
  rw [ExceptT.run_lift, map_eq_pure_bind, wlp_bind]
  apply wlp_seq (delivered_onStore holds)
  intro _ after knows _ _
  exact knows

/-- A call on the handle, which has one answer. -/
private theorem delivered_handle {op : HandleOp} {rest : op.Reply → Client β}
    {post : β → World Delivery → Prop}
    (second : ∀ next : World Delivery, next.disk = world.disk →
      next.handle = (op.apply world.handle).2 → next.outside = world.outside →
      wlp (stepping DeliveredAnswers) (rest (op.apply world.handle).1).run (IfOk post) next) :
    wlp (stepping DeliveredAnswers) (Client.onHandle op >>= rest).run (IfOk post) world := by
  refine ⟨trivial, ?_⟩
  rintro reply after ⟨applied, same⟩
  have isReply : (op.apply world.handle).1 = reply := by rw [applied]
  have isHandle : (op.apply world.handle).2 = after.handle := by rw [applied]
  rw [← isReply]
  exact second after (by rw [same]) isHandle.symm (by rw [same])

end Rules

/-! ## A run -/

/-- The part file holds so many bytes, and the handle counts them. -/
structure Filled (part : Path) (bytes : Nat) (world : World Delivery) : Prop where
  found : ∃ found, world.disk.file part = some found ∧ found.bytes.length = bytes
  counted : world.handle.bytesDownloaded = UInt64.ofNat bytes
  underway : world.handle.phase ≠ .completed

theorem Filled.same {part : Path} {bytes : Nat} {world after : World Delivery}
    (filled : Filled part bytes world) (disk : after.disk.file part = world.disk.file part)
    (handle : after.handle = world.handle) : Filled part bytes after := by
  obtain ⟨found, isFound, length⟩ := filled.found
  exact ⟨⟨found, disk.trans isFound, length⟩, by rw [handle, filled.counted],
    by rw [handle]; exact filled.underway⟩

theorem Filled.lt {part : Path} {bytes : Nat} {world : World Delivery}
    (filled : Filled part bytes world) : bytes < 2 ^ 64 := by
  obtain ⟨found, _, rfl⟩ := filled.found
  exact lt_trans found.fits (by decide)

section Run

variable {root : Path} {blockId : String} {generation : UInt64} {world : World Delivery}

private theorem delivered_openPart {context : String}
    (underway : world.handle.phase ≠ .completed) :
    wlp (stepping DeliveredAnswers) (openPart root blockId generation context).run
      (IfOk fun start after =>
        Filled (partPath root blockId generation)
            (partBytes world.disk.file (partPath root blockId generation)) after ∧
          start = UInt64.ofNat
            (partBytes world.disk.file (partPath root blockId generation)) ∧
          after.outside = world.outside) world := by
  have keeps : PartOf ((world.disk.file (partPath root blockId generation)).getD emptyFile)
      (partPath root blockId generation) world.disk.file := by
    intro found isFound
    rw [isFound]
    exact List.prefix_refl _
  unfold openPart
  apply wlp_ifOk_bind (delivered_stage (wlp_mono (wlp_openPartForResume keeps)
    fun _ _ holds => holds.2))
  rintro start after ⟨⟨found, isFound, isStart, same⟩, handle, outside⟩
  apply delivered_handle
  intro counted disk isCounted sameOutside
  apply ifOk_ok
  have isBytes : found.bytes.length =
      partBytes world.disk.file (partPath root blockId generation) := by rw [same]; rfl
  rw [isBytes] at isStart
  refine ⟨⟨⟨found, by rw [disk, isFound], isBytes⟩, ?_, ?_⟩, isStart, sameOutside.trans outside⟩
  · rw [isCounted]
    exact isStart
  · rw [isCounted]
    show after.handle.phase ≠ _
    rw [handle]
    exact underway

private theorem delivered_get {url : String} {first : Option UInt64} :
    wlp (stepping DeliveredAnswers) (Client.get url first).run
      (IfOk fun response after => after.disk = world.disk ∧ after.handle = world.handle ∧
        after.outside = { response := some response }) world := by
  refine ⟨trivial, ?_⟩
  rintro reply _ ⟨outside, answered, rfl⟩
  cases reply with
  | error error => exact ifOk_error _ _ _
  | ok response => exact ifOk_ok ⟨rfl, rfl, answered⟩

private theorem delivered_fetch {urls : UrlLibrary} {requiredScheme : String}
    {resumeFrom : UInt64} (remaining : Nat) (url : String) :
    wlp (stepping DeliveredAnswers) (fetch urls requiredScheme resumeFrom remaining url).run
      (IfOk fun response after => after.disk = world.disk ∧ after.handle = world.handle ∧
        after.outside = { response := some response }) world := by
  induction remaining generalizing url world with
  | zero =>
      unfold fetch
      apply wlp_ifOk_bind delivered_get
      intro response after answered
      split
      · exact ifOk_error _ _ _
      · exact ifOk_ok answered
  | succ remaining inductionHypothesis =>
      unfold fetch
      apply wlp_ifOk_bind delivered_get
      intro response after answered
      split
      · apply wlp_ifOk_check
        intro next _
        rw [← answered.1, ← answered.2.1]
        exact inductionHypothesis next
      · exact ifOk_ok answered

/-- The body begins where the part file ends. -/
private theorem delivered_bodyStart {offset : Nat} {resumeFrom : UInt64} {response : Response}
    (filled : Filled (partPath root blockId generation) offset world)
    (isOffset : resumeFrom = UInt64.ofNat offset) :
    wlp (stepping DeliveredAnswers) (bodyStart root blockId generation resumeFrom response).run
      (IfOk fun start after =>
        Filled (partPath root blockId generation) (resumedBytes offset response) after ∧
          start = UInt64.ofNat (resumedBytes offset response) ∧
          after.outside = world.outside) world := by
  unfold bodyStart
  split
  · rename_i restarts
    have noBytes : resumedBytes offset response = 0 := if_neg restarts.2
    have keeps : PartOf ((world.disk.file (partPath root blockId generation)).getD emptyFile)
        (partPath root blockId generation) world.disk.file := by
      intro found isFound
      rw [isFound]
      exact List.prefix_refl _
    have discarded : wlp (onFiles (PartOf
          ((world.disk.file (partPath root blockId generation)).getD emptyFile)
          (partPath root blockId generation))) (discardPart root blockId generation).run
        (IfOk fun _ after => after (partPath root blockId generation) = none)
        world.disk.file := by
      apply wlp_mono (wlp_discardPart keeps)
      rintro reached after ⟨_, gone⟩ ⟨⟩ isOk
      exact gone isOk
    apply wlp_ifOk_bind (delivered_stage discarded)
    rintro _ after ⟨gone, handle, outside⟩
    have underway : after.handle.phase ≠ .completed := by
      rw [handle]
      exact filled.underway
    apply wlp_mono (delivered_openPart underway)
    intro reached later knows start isStart
    obtain ⟨reopened, started, same⟩ := knows start isStart
    have empty : partBytes after.disk.file (partPath root blockId generation) = 0 := by
      unfold partBytes
      rw [gone]
      rfl
    rw [empty] at reopened started
    rw [noBytes]
    exact ⟨reopened, started, same.trans outside⟩
  · rename_i continues
    have allBytes : resumedBytes offset response = offset := by
      by_cases isPartial : response.status = 206
      · exact if_pos isPartial
      · have notResumed : ¬ 0 < resumeFrom := fun resumes => continues ⟨resumes, isPartial⟩
        have isZero : resumeFrom.toNat = 0 := by
          have notPositive : ¬ 0 < resumeFrom.toNat := notResumed
          omega
        rw [isOffset, UInt64.toNat_ofNat_of_lt' filled.lt] at isZero
        rw [isZero]
        exact if_neg isPartial
    apply ifOk_ok
    rw [allBytes]
    exact ⟨filled, isOffset, rfl⟩

variable {job : Job}

/-- What is known of the body that follows: where it begins, and what was announced. -/
structure Connected (job : Job) (offset : Nat) (connected : UInt64 × Option UInt64)
    (response : Response) (world : World Delivery) : Prop where
  filled : Filled (partPath job.root job.blockId job.generation) (resumedBytes offset response)
    world
  start : connected.1 = UInt64.ofNat (resumedBytes offset response)
  announced : connected.2 = response.length
  checked : checkTotal job.request.expectedSizeBytes
    (response.length.map fun length => connected.1 + length) = .ok ()
  outside : world.outside = { response := some response }

private theorem delivered_connect {urls : UrlLibrary} {requiredScheme : String}
    (underway : world.handle.phase ≠ .completed) :
    wlp (stepping DeliveredAnswers) (job.connect urls requiredScheme).run
      (IfOk fun connected after => ∃ response,
        Connected job (partBytes world.disk.file
          (partPath job.root job.blockId job.generation)) connected response after) world := by
  unfold Job.connect
  apply wlp_ifOk_bind (delivered_openPart underway)
  rintro resumeFrom opened ⟨filled, isOffset, _⟩
  apply wlp_ifOk_bind (delivered_fetch _ _)
  rintro response fetched ⟨disk, handle, outside⟩
  have stillFilled := filled.same (congrArg (fun disk : Disk => disk.file _) disk) handle
  apply wlp_ifOk_bind (delivered_bodyStart stillFilled isOffset)
  rintro start ready ⟨filled, isStart, same⟩
  apply delivered_handle
  intro shown sameDisk isShown sameOutside
  apply wlp_ifOk_check
  rintro ⟨⟩ checked
  apply ifOk_ok
  refine ⟨response, ⟨?_, ?_, ?_⟩, isStart, rfl, checked, sameOutside.trans (same.trans outside)⟩
  · rw [sameDisk]
    exact filled.found
  · rw [isShown]
    exact filled.counted
  · rw [isShown]
    exact filled.underway

/-- The end of the loop over the body: every byte received was appended, unless the download
was cancelled or goes on. -/
structure BodyRead (part : Path) (resumed : Nat) (response : Response) (reached : BodyEnd)
    (world : World Delivery) : Prop where
  complete : reached = .complete → Filled part (resumed + world.outside.received) world ∧
    world.outside.response = some response
  other : reached ≠ .complete → world.handle.phase ≠ .completed

private theorem delivered_writeChunk {part : Path} {bytes : Nat} {chunk : List UInt8}
    (filled : Filled part bytes world) :
    wlp (stepping DeliveredAnswers)
      (Client.stage "Schreibfehler beim Staging: " (Store.writeAll os part chunk)).run
      (IfOk fun _ after => (∃ found, after.disk.file part = some found ∧
          found.bytes.length = bytes + chunk.length) ∧ after.handle = world.handle ∧
        after.outside = world.outside) world := by
  obtain ⟨found, isFound, length⟩ := filled.found
  have written : wlp (onFiles fun _ => True) (Store.writeAll os part chunk).run
      (IfOk fun _ after => ∃ next, after part = some next ∧
        next.bytes.length = bytes + chunk.length) world.disk.file := by
    refine ⟨fun _ _ _ => trivial, ?_⟩
    intro reply after step
    cases reply with
    | error _ => exact ifOk_error _ _ _
    | ok _ =>
        obtain ⟨before, next, isBefore, appended, rfl⟩ := step
        obtain rfl := Option.some.inj (isFound.symm.trans isBefore)
        intro _ _
        refine ⟨next, Function.update_self .., ?_⟩
        rw [appended, List.length_append, length]
  exact delivered_stage written

/-- Step and run lemma of the loop over the body. -/
private theorem delivered_readBody {resumed : Nat} {response : Response} (rounds : Nat)
    (filled : Filled (partPath root blockId generation) (resumed + world.outside.received) world)
    (answered : world.outside.response = some response) :
    wlp (stepping DeliveredAnswers) (readBody root blockId generation rounds).run
      (IfOk fun reached after =>
        BodyRead (partPath root blockId generation) resumed response reached after) world := by
  induction rounds generalizing world with
  | zero =>
      apply ifOk_ok
      exact ⟨BodyEnd.noConfusion, fun _ => filled.underway⟩
  | succ rounds inductionHypothesis =>
      unfold readBody
      have polled : wlp (stepping DeliveredAnswers) Client.cancelRequested.run
          (IfOk fun _ after => after = world) world := by
        refine ⟨trivial, ?_⟩
        rintro cancelled after ⟨outside, same, rfl⟩ _ _
        obtain rfl := same
        rfl
      apply wlp_ifOk_bind polled
      intro cancelled after same
      rw [same]
      cases cancelled with
      | true =>
          have discarded : wlp (onFiles fun _ => True) (discardPart root blockId generation).run
              (fun _ _ => True) world.disk.file := by
            have within : Fallible.Only (StoreOp.WritesWithin fun _ => True)
                (discardPart root blockId generation) := only_discardPart trivial
            apply wlp_mono (wlp_onFiles_within within fun _ _ => trivial)
            exact fun _ _ _ => trivial
          apply wlp_ifOk_bind (delivered_ignore discarded)
          intro _ discarded _
          apply delivered_handle
          intro cancelled _ isCancelled _
          apply ifOk_ok
          refine ⟨BodyEnd.noConfusion, fun _ => ?_⟩
          rw [isCancelled]
          exact DownloadPhase.noConfusion
      | false =>
          have received : wlp (stepping DeliveredAnswers) Client.read.run
              (IfOk fun chunk after => after.disk = world.disk ∧ after.handle = world.handle ∧
                after.outside = { world.outside with
                  received := world.outside.received + chunk.length }) world := by
            refine ⟨trivial, ?_⟩
            rintro reply _ ⟨outside, delivers, rfl⟩
            cases reply with
            | error failure => exact ifOk_error _ _ _
            | ok chunk => exact ifOk_ok ⟨rfl, rfl, delivers⟩
          apply wlp_ifOk_bind received
          rintro chunk after ⟨disk, handle, outside⟩
          have stillFilled := filled.same (congrArg (fun disk : Disk => disk.file _) disk) handle
          split
          · rename_i noChunk
            apply ifOk_ok
            refine ⟨fun _ => ?_, fun other => absurd rfl other⟩
            rw [outside, noChunk]
            exact ⟨stillFilled, answered⟩
          · apply wlp_ifOk_bind (delivered_writeChunk stillFilled)
            rintro _ later ⟨written, sameHandle, sameOutside⟩
            apply delivered_handle
            intro counted sameDisk isCounted stillOutside
            have total : resumed + counted.outside.received =
                resumed + world.outside.received + chunk.length := by
              rw [stillOutside, sameOutside, outside]
              exact (Nat.add_assoc ..).symm
            apply inductionHypothesis
            · rw [total]
              refine ⟨by rw [sameDisk]; exact written, ?_, ?_⟩
              · rw [isCounted]
                show later.handle.bytesDownloaded + UInt64.ofNat chunk.length = _
                rw [sameHandle, stillFilled.counted, ← UInt64.ofNat_add]
              · rw [isCounted]
                show later.handle.phase ≠ _
                rw [sameHandle]
                exact stillFilled.underway
            · rw [stillOutside, sameOutside, outside]
              exact answered

private theorem delivered_inspectStaged (root : Path) (blockId : String) (generation : UInt64) :
    wlp (stepping DeliveredAnswers) (inspectStaged root blockId generation).run
      (IfOk fun _ after => after.disk.file = world.disk.file ∧
        after.outside = world.outside) world := by
  unfold inspectStaged
  apply wlp_ifOk_onError
  have reads : Fallible.Only (StoreOp.WritesWithin fun _ => False)
      (inspectFile (blobPath root blockId generation)) :=
    Fallible.Only.bind (Store.only_read (.read _) (by simp) rfl) fun _ => Fallible.Only.result _
  have inspected : wlp (onFiles fun _ => True)
      (inspectFile (blobPath root blockId generation)).run
      (IfOk fun _ after => after = world.disk.file) world.disk.file := by
    apply wlp_mono (wlp_onFiles_within reads fun _ _ => trivial)
    intro _ after same _ _
    exact funext fun path => same path id
  apply wlp_ifOk_bind (delivered_stage inspected)
  rintro _ after ⟨same, _, outside⟩
  exact ifOk_ok ⟨same, outside⟩

/-- What is staged: the part file as it was. -/
structure Staged (job : Job) (bytes : Nat) (files : Files) : Prop where
  found : ∃ found, files (blobPath job.root job.blockId job.generation) = some found ∧
    found.bytes.length = bytes ∧
    PartOf found (partPath job.root job.blockId job.generation) files

private theorem delivered_verify {bytes : Nat} {start : UInt64} {announced : Option UInt64}
    (filled : Filled (partPath job.root job.blockId job.generation) bytes world) :
    wlp (stepping DeliveredAnswers) (job.verify start announced).run
      (IfOk fun _ after => Staged job bytes after.disk.file ∧
        checkReceived (UInt64.ofNat bytes - start) announced = .ok () ∧
        after.outside = world.outside) world := by
  obtain ⟨found, isFound, length⟩ := filled.found
  unfold Job.verify
  have synced : wlp (onFiles fun _ => True)
      (Store.syncAll os (partPath job.root job.blockId job.generation)).run
      (IfOk fun _ after => after = world.disk.file) world.disk.file :=
    ⟨fun _ _ _ => trivial, fun _ _ step _ _ => step⟩
  apply wlp_ifOk_bind (delivered_stage synced)
  rintro _ synced ⟨same, handle, outside⟩
  apply delivered_handle
  intro read readDisk _ readOutside
  have isBytes : (HandleOp.apply .bytesDownloaded synced.handle).1 = UInt64.ofNat bytes := by
    show synced.handle.bytesDownloaded = _
    rw [handle, filled.counted]
  rw [isBytes]
  apply wlp_ifOk_check
  rintro ⟨⟩ received
  apply delivered_handle
  intro verifying disk _ sameOutside
  have sameFiles : verifying.disk.file = world.disk.file := by rw [disk, readDisk, same]
  have keeps : PartOf found (partPath job.root job.blockId job.generation)
      verifying.disk.file := by
    intro other isOther
    rw [sameFiles, isFound] at isOther
    cases isOther
    exact List.prefix_refl _
  have finalized : wlp
      (onFiles (PartOf found (partPath job.root job.blockId job.generation)))
      (finalizePart job.root job.blockId job.generation job.request.sha256).run
      (IfOk fun _ after => Staged job bytes after) verifying.disk.file := by
    apply wlp_mono (wlp_finalizePart keeps (by rw [sameFiles, isFound]))
    rintro reached after ⟨kept, isBlob⟩ value isOk
    exact ⟨found, isBlob value isOk, length, kept⟩
  apply wlp_ifOk_bind (delivered_stage finalized)
  rintro _ finalized ⟨staged, _, finalOutside⟩
  apply wlp_mono (delivered_inspectStaged _ _ _)
  intro reached inspected knows value isOk
  obtain ⟨inspectedFiles, stillOutside⟩ := knows value isOk
  refine ⟨by rw [inspectedFiles]; exact staged, received, ?_⟩
  rw [stillOutside, finalOutside, sameOutside, readOutside, outside]

private theorem delivered_removeFile {path other : Path} (apart : other ≠ path) :
    wlp (stepping DeliveredAnswers) (Client.ignore (Store.removeFile os path)).run
      (IfOk fun _ after => after.disk.file other = world.disk.file other ∧
        after.outside = world.outside) world := by
  have within : Fallible.Only (StoreOp.WritesWithin (· = path)) (Store.removeFile os path) :=
    Store.only_perform (.removeFile _) (by simp) (by simp [StoreOp.writes])
  have removed : wlp (onFiles fun _ => True) (Store.removeFile os path).run
      (fun _ after => after other = world.disk.file other) world.disk.file := by
    apply wlp_mono (wlp_onFiles_within within fun _ _ => trivial)
    exact fun _ _ same => same other apart
  apply wlp_mono (delivered_ignore removed)
  intro reached after knows value isOk
  obtain ⟨same, _, outside⟩ := knows value isOk
  exact ⟨same, outside⟩

private theorem delivered_install {bytes : Nat} (staged : Staged job bytes world.disk.file)
    (apart : ∀ extension, targetPath job.modelsDir job.request ≠
      job.root ++ [fileName job.blockId job.generation extension]) :
    wlp (stepping DeliveredAnswers) job.install.run
      (IfOk fun _ after =>
        (∃ file, after.disk.file (targetPath job.modelsDir job.request) = some file ∧
          file.bytes.length = bytes) ∧ after.outside = world.outside) world := by
  obtain ⟨found, isBlob, length, keeps⟩ := staged.found
  unfold Job.install
  have made : wlp (onFiles fun _ => True) (Store.createDirAll os job.modelsDir).run
      (IfOk fun _ after => after = world.disk.file) world.disk.file := by
    refine ⟨fun _ _ _ => trivial, ?_⟩
    intro reply after step _ _
    exact step
  apply wlp_ifOk_bind (delivered_stage made)
  rintro _ made ⟨same, _, outside⟩
  have restored : wlp
      (onFiles (PartOf found (partPath job.root job.blockId job.generation)))
      (restoreActive job.root job.processId job.nanos job.blockId job.generation
        (targetPath job.modelsDir job.request)).run
      (IfOk fun _ after => after (targetPath job.modelsDir job.request) = some found)
      made.disk.file := by
    rw [same]
    apply wlp_mono (wlp_restoreActive keeps isBlob)
    rintro reached after ⟨_, isTarget⟩ ⟨⟩ isOk
    exact isTarget isOk
  apply wlp_ifOk_bind (delivered_stage restored)
  rintro _ restored ⟨isTarget, _, sameOutside⟩
  unfold removeStaged
  apply wlp_ifOk_bind
    (wlp_ifOk_bind (delivered_removeFile (apart "bin")) fun _ _ removed =>
      wlp_mono (delivered_removeFile (apart "commit")) fun _ _ knows value isOk =>
        And.intro ((knows value isOk).1.trans removed.1) ((knows value isOk).2.trans removed.2))
  rintro _ cleaned ⟨stays, stillOutside⟩
  refine ⟨trivial, ?_⟩
  rintro reply after ⟨_, ended⟩ _ _
  rw [ended]
  exact ⟨⟨found, stays.trans isTarget, length⟩,
    stillOutside.trans (sameOutside.trans outside)⟩

end Run

/-! ## The size -/

/-- The last response announces its length, or what it left of the part file and what it
brought make up the size. -/
def SizeSettled (offset : Nat) (size : UInt64) (delivery : Delivery) : Prop :=
  ∃ response, delivery.response = some response ∧
    (response.length ≠ none ∨
      resumedBytes offset response + delivery.received = size.toNat)

/-- The target holds a file of the size. -/
def HasSize (target : Path) (size : UInt64) (files : Files) : Prop :=
  ∃ file, files target = some file ∧ file.bytes.length = size.toNat

/-- What a run that ends `Completed` has installed. -/
structure CompletedWith (job : Job) (offset : Nat) (response : Response) (world : World Delivery) :
    Prop where
  answered : world.outside.response = some response
  file : ∃ file, world.disk.file (targetPath job.modelsDir job.request) = some file ∧
    file.bytes.length = resumedBytes offset response + world.outside.received
  checked : checkTotal job.request.expectedSizeBytes
    (response.length.map fun length =>
      UInt64.ofNat (resumedBytes offset response) + length) = .ok ()
  received : checkReceived (UInt64.ofNat (resumedBytes offset response +
    world.outside.received) - UInt64.ofNat (resumedBytes offset response)) response.length = .ok ()

section Size

variable {job : Job} {world : World Delivery}

private theorem delivered_tryDownload (urls : UrlLibrary) (requiredScheme : String) (rounds : Nat)
    (underway : world.handle.phase ≠ .completed)
    (apart : ∀ extension, targetPath job.modelsDir job.request ≠
      job.root ++ [fileName job.blockId job.generation extension]) :
    wlp (stepping DeliveredAnswers) (job.tryDownload urls requiredScheme rounds).run
      (IfOk fun _ after => after.handle.phase = .completed →
        ∃ response, CompletedWith job (partBytes world.disk.file
          (partPath job.root job.blockId job.generation)) response after) world := by
  unfold Job.tryDownload
  apply wlp_ifOk_bind (delivered_connect underway)
  rintro ⟨start, announced⟩ ready ⟨response, connected⟩
  have isStart := connected.start
  have isAnnounced := connected.announced
  have checked := connected.checked
  have answered : ready.outside.response = some response := by rw [connected.outside]
  have nothingYet : ready.outside.received = 0 := by rw [connected.outside]
  have filled : Filled (partPath job.root job.blockId job.generation) (resumedBytes
      (partBytes world.disk.file (partPath job.root job.blockId job.generation)) response +
        ready.outside.received) ready := by
    rw [nothingYet]
    exact connected.filled
  dsimp only at isStart isAnnounced checked
  rw [isStart] at checked
  apply wlp_ifOk_bind (delivered_readBody rounds filled answered)
  intro reached read bodyRead
  cases reached with
  | complete =>
      obtain ⟨filled, stillAnswered⟩ := bodyRead.complete rfl
      apply wlp_ifOk_bind (delivered_verify filled)
      rintro _ verified ⟨staged, received, outside⟩
      apply wlp_mono (delivered_install staged apart)
      intro outcome installed knows value isOk _
      obtain ⟨isTarget, sameOutside⟩ := knows value isOk
      rw [isStart, isAnnounced] at received
      have sameDelivery := sameOutside.trans outside
      refine ⟨response, ?_, ?_, checked, ?_⟩
      · rw [sameDelivery, stillAnswered]
      · rw [sameDelivery]
        exact isTarget
      · rw [sameDelivery]
        exact received
  | cancelled =>
      apply ifOk_ok
      exact fun completed => absurd completed (bodyRead.other BodyEnd.noConfusion)
  | unfinished =>
      apply ifOk_ok
      exact fun completed => absurd completed (bodyRead.other BodyEnd.noConfusion)

private theorem delivered_runDownload (urls : UrlLibrary) (rounds : Nat)
    (underway : world.handle.phase ≠ .completed)
    (apart : ∀ extension, targetPath job.modelsDir job.request ≠
      job.root ++ [fileName job.blockId job.generation extension]) :
    wlp (stepping DeliveredAnswers) (job.runDownload urls rounds)
      (fun _ after => after.handle.phase = .completed →
        ∃ response, CompletedWith job (partBytes world.disk.file
          (partPath job.root job.blockId job.generation)) response after) world := by
  unfold Job.runDownload
  apply wlp_seq (delivered_tryDownload urls "https" rounds underway apart)
  intro outcome after knows
  cases outcome with
  | ok value => exact knows value rfl
  | error message =>
      refine ⟨trivial, ?_⟩
      rintro phase reported ⟨applied, _⟩
      have isPhase : after.handle.phase = phase := congrArg Prod.fst applied
      have sameHandle : after.handle = reported.handle := congrArg Prod.snd applied
      show wlp _ (if phase = DownloadPhase.cancelled then _ else _) _ _
      split
      · rename_i cancelled
        intro completed
        rw [← sameHandle, isPhase, cancelled] at completed
        cases completed
      · refine ⟨trivial, ?_⟩
        rintro _ messaged _
        refine ⟨trivial, ?_⟩
        rintro _ failed ⟨applied, _⟩ completed
        have isFailed : DownloadPhase.failed = failed.handle.phase :=
          congrArg (fun reply => reply.2.phase) applied
        rw [completed] at isFailed
        cases isFailed

/-- Where a length was announced, what was installed has the pinned size. -/
theorem CompletedWith.hasSize {offset : Nat} {response : Response} {size length : UInt64}
    (installed : CompletedWith job offset response world)
    (pinned : job.request.expectedSizeBytes = some size)
    (announced : response.length = some length) :
    HasSize (targetPath job.modelsDir job.request) size world.disk.file := by
  obtain ⟨file, isFile, bytes⟩ := installed.file
  have checked := installed.checked
  have received := installed.received
  rw [pinned, announced, Option.map_some] at checked
  rw [announced] at received
  have isTotal : size = UInt64.ofNat (resumedBytes offset response) + length := by
    by_contra other
    unfold checkTotal at checked
    simp only [ne_eq, if_pos other] at checked
    cases checked
  have isLength : UInt64.ofNat (resumedBytes offset response + world.outside.received) -
      UInt64.ofNat (resumedBytes offset response) = length := by
    by_contra other
    unfold checkReceived at received
    simp only [ne_eq, if_pos other] at received
    cases received
  have isSize : size = UInt64.ofNat file.bytes.length := by
    rw [isTotal, ← isLength, bytes]
    grind
  refine ⟨file, isFile, ?_⟩
  rw [isSize, UInt64.toNat_ofNat_of_lt' (lt_trans file.fits (by decide))]

end Size

/-- A run that ends `Completed` has installed a file of the pinned size exactly if the last
response announced its length, or the bytes resumed and received happen to make it up. -/
theorem runDownload_honoursSize_iff (urls : UrlLibrary) (request : DownloadRequest)
    (size : UInt64) (pinned : request.expectedSizeBytes = some size) (root modelsDir : Path)
    (stableHash : String → UInt64) (processId nanos rounds : Nat) {world after : World Delivery}
    (begins : world.handle = {})
    (run : Prog.Exec DeliveredAnswers world
      ((jobOf root modelsDir stableHash processId nanos request).runDownload urls rounds) () after)
    (completed : after.handle.phase = .completed) :
    HasSize (targetPath modelsDir request) size after.disk.file ↔
      SizeSettled (partBytes world.disk.file
        (partPath root request.fileName (stableHash request.url))) size after.outside := by
  have underway : world.handle.phase ≠ .completed := by
    rw [begins]
    exact DownloadPhase.noConfusion
  have ended := run.of_stepping (delivered_runDownload urls rounds underway
    (target_ne_fileName root modelsDir request.fileName (stableHash request.url)))
  obtain ⟨response, installed⟩ := ended completed
  obtain ⟨file, isFile, bytes⟩ := installed.file
  constructor
  · rintro ⟨other, isOther, isSize⟩
    obtain rfl := Option.some.inj (isOther.symm.trans isFile)
    exact ⟨response, installed.answered, .inr (bytes.symm.trans isSize)⟩
  · rintro ⟨other, isOther, settled⟩
    obtain rfl := Option.some.inj (isOther.symm.trans installed.answered)
    rcases settled with announced | total
    · obtain ⟨length, isLength⟩ := Option.ne_none_iff_exists'.mp announced
      exact installed.hasSize pinned isLength
    · exact ⟨file, isFile, bytes.trans total⟩

/-! ## Two runs -/

/-- A request for the sample that pins a size. -/
def sizedRequest (size : UInt64) : DownloadRequest where
  url := "https://host/m"
  fileName := "m"
  expectedSizeBytes := some size
  sha256 := none

/-- A server that announces no length and delivers the sample at once. -/
def deliverSample : (op : OutsideOp) → Delivery → op.Reply × Delivery
  | .get _ _, _ => (.ok ⟨200, none, none⟩, { response := some ⟨200, none, none⟩ })
  | .read _, delivery =>
      if delivery.received = 0 then
        (.ok sampleBytes, { delivery with received := delivery.received + sampleBytes.length })
      else (.ok [], delivery)
  | .cancelRequested, delivery => (false, delivery)

/-- The world of a run of the sample. -/
def deliveredSample : (op : DownloadOp) → World Delivery → op.Reply × World Delivery
  | .store op, world =>
      ((op.apply sampleShared.tool world.disk).1,
        { world with disk := (op.apply sampleShared.tool world.disk).2 })
  | .outside op, world =>
      ((deliverSample op world.outside).1,
        { world with outside := (deliverSample op world.outside).2 })
  | .handle op, world =>
      ((op.apply world.handle).1, { world with handle := (op.apply world.handle).2 })

theorem deliveredSample_answers (op : DownloadOp) (world : World Delivery) :
    DeliveredAnswers world op (deliveredSample op world).1 (deliveredSample op world).2 := by
  cases op with
  | store op => exact ⟨_, fileStep_apply sampleShared.tool rfl, rfl⟩
  | outside op =>
      refine ⟨(deliverSample op world.outside).2, ?_, rfl⟩
      show Delivery.Answers world.outside op (deliverSample op world.outside).1 _
      cases op with
      | get url first => rfl
      | read limit =>
          by_cases isFirst : world.outside.received = 0
          · simp [Delivery.Answers, deliverSample, isFirst]
          · simp [Delivery.Answers, deliverSample, isFirst]
      | cancelRequested => rfl
  | handle op => exact ⟨rfl, rfl⟩

def deliveredStart : World Delivery := { disk := sampleDisk, handle := {}, outside := {} }

abbrev sizedRun (size : UInt64) : Prog DownloadOp DownloadOp.Reply Unit :=
  (jobOf ["downloads"] ["models"] (fun _ => 1) 1 0 (sizedRequest size)).runDownload
    sampleShared.urls 2

/-- A file of 24 bytes is installed under a pin of 5. -/
theorem runDownload_ignoresSize :
    ∃ after, Prog.Exec DeliveredAnswers deliveredStart (sizedRun 5) () after ∧
      after.handle.phase = .completed ∧ ¬ HasSize ["models", "m"] 5 after.disk.file := by
  have completed : ((sizedRun 5).runWith deliveredSample deliveredStart).2.handle.phase =
      .completed := by
    decide +kernel
  have installed : ((sizedRun 5).runWith deliveredSample deliveredStart).2.disk.file
      ["models", "m"] = some sampleShared.content := by
    decide +kernel
  refine ⟨_, .of_runWith_unit deliveredSample_answers (sizedRun 5) deliveredStart, completed, ?_⟩
  rintro ⟨file, isFile, size⟩
  obtain rfl := Option.some.inj (installed.symm.trans isFile)
  exact absurd size (by decide)

/-- The same file under a pin of 24. -/
theorem runDownload_honoursSize_sample :
    ∃ after : World Delivery, after.handle.phase = .completed ∧
      (HasSize ["models", "m"] 24 after.disk.file ↔ SizeSettled 0 24 after.outside) := by
  have completed : ((sizedRun 24).runWith deliveredSample deliveredStart).2.handle.phase =
      .completed := by
    decide +kernel
  exact ⟨_, completed, runDownload_honoursSize_iff sampleShared.urls (sizedRequest 24) 24 rfl
    ["downloads"] ["models"] (fun _ => 1) 1 0 2 rfl
    (.of_runWith_unit deliveredSample_answers (sizedRun 24) deliveredStart) completed⟩

end TriAI.Download
