import TriAI.Download.LocalCalls
import TriAI.Library.MachineInt

/-!
Contract: the table of downloads (`DownloadManager` of `download.rs`).

Owns: `create`, `status` and `cancel` with the threads that `create` starts, and what the
requests of any number of clients see of the downloads.

Does not own: the disk and the connections, whose answers may be any. A request holds the lock
of the table, which only keeps other requests out; here their calls interleave as well. Fewer
than `2 ^ 64` downloads are created.
-/

set_option autoImplicit false

namespace TriAI.Download

open TriAI.Library.Interaction
open TriAI.Library.MachineInt
open TriAI.Staging
open TriAI.Storage

/-! ## Requests -/

structure DownloadStatus where
  id : String
  phase : DownloadPhase
  bytesDownloaded : UInt64
  totalBytes : Option UInt64
  message : Option DownloadFailure
deriving DecidableEq

/-- `DownloadError`. -/
inductive ManagerError where
  | request (error : DownloadError)
  | notFound
  | io (error : IoFailure)
deriving DecidableEq

/-- A handle is named by the number of the handles that were made before it. -/
inductive ManagerOp where
  /-- `resources::read`, of which `ssd_free_mb` is used. -/
  | ssdFreeMb
  /-- `next_id.fetch_add(1)` and `DownloadHandle::new`. -/
  | begin
  | insert (id : String) (handle : Nat)
  | spawn (handle : Nat) (job : Job)
  /-- `handles.get(id)`. -/
  | get (id : String)
  /-- `handle.cancel.store(true)`. -/
  | raise (id : String) (handle : Nat)
  | phase (id : String) (handle : Nat)
  | bytesDownloaded (handle : Nat)
  | totalBytes (handle : Nat)
  | message (handle : Nat)
  /-- The thread of a download begins. -/
  | started (handle : Nat)
  | worker (handle : Nat) (op : DownloadOp)

@[reducible] def ManagerOp.Reply : ManagerOp → Type
  | .ssdFreeMb => Except IoFailure UInt64
  | .begin => UInt64 × Nat
  | .get _ => Option Nat
  | .phase _ _ => DownloadPhase
  | .bytesDownloaded _ => UInt64
  | .totalBytes _ => Option UInt64
  | .message _ => Option DownloadFailure
  | .started _ => Job
  | .worker _ op => op.Reply
  | .insert _ _ | .spawn _ _ | .raise _ _ => Unit

abbrev Requesting (α : Type) : Type := Fallible ManagerError ManagerOp ManagerOp.Reply α

namespace Requesting

def call (op : ManagerOp) : Requesting op.Reply := ExceptT.lift (Prog.perform op)

/-- A check of the request. -/
def check (result : Except DownloadError Unit) : Requesting Unit :=
  ExceptT.mk (.ret (result.mapError .request))

end Requesting

open Requesting

/-- What all downloads have in common. -/
structure Manager where
  root : Path
  modelsDir : Path
  ssdReserveMb : UInt64
  stableHash : String → UInt64
  processId : Nat
  nanos : Nat → Nat
  urls : UrlLibrary
  rounds : Nat → Nat

/-- `ensure_ssd_headroom`. -/
def ensureSsdHeadroom (ssdReserveMb expectedBytes : UInt64) : Requesting Unit := do
  let ssdFreeMb ← Fallible.attempt .io (Prog.perform ManagerOp.ssdFreeMb)
  let needed := saturatingAdd (divCeil expectedBytes 1048576) ssdReserveMb
  check (if ssdFreeMb < needed then
      .error (.invalidRequest ("zu wenig freier Speicherplatz: " ++ toString ssdFreeMb.toNat ++
        " MB frei, " ++ toString needed.toNat ++ " MB benoetigt (Modell + " ++
        toString ssdReserveMb.toNat ++ " MB Reserve)"))
    else .ok ())

/-- The check of `create` on the expected size. -/
def checkHeadroom (ssdReserveMb : UInt64) : Option UInt64 → Requesting Unit
  | some expected => ensureSsdHeadroom ssdReserveMb expected
  | none => pure ()

/-- `format!("dl-{number}")`. -/
def downloadId (number : UInt64) : String := "dl-" ++ Nat.repr number.toNat

namespace Manager

variable (self : Manager)

/-- The checks of `create`. -/
def checks (request : DownloadRequest) : Requesting Unit := do
  check (validateFileName request.fileName)
  check (checkUrl self.urls request.url)
  checkHeadroom self.ssdReserveMb request.expectedSizeBytes
  check (checkSha256 request.sha256)

/-- `create` of a request that passed its checks. -/
def start (request : DownloadRequest) : Requesting String := do
  let (number, handle) ← call .begin
  call (.insert (downloadId number) handle)
  call (.spawn handle (jobOf self.root self.modelsDir self.stableHash self.processId
    (self.nanos handle) request))
  pure (downloadId number)

/-- `DownloadManager::create`. -/
def create (request : DownloadRequest) : Requesting String := do
  self.checks request
  self.start request

/-- The thread of a download. -/
def thread (handle : Nat) : Prog ManagerOp ManagerOp.Reply Unit := do
  let job : Job ← Prog.perform (ManagerOp.started handle)
  (job.runDownload self.urls (self.rounds handle)).embed (ManagerOp.worker handle)
    fun _ reply => reply

end Manager

/-- `handles.get(id).ok_or(DownloadError::NotFound)`. -/
def find (id : String) : Requesting Nat := do
  match ← call (.get id) with
  | some handle => pure handle
  | none => throw .notFound

/-- `DownloadManager::status`. -/
def status (id : String) : Requesting DownloadStatus := do
  let handle ← find id
  let phase ← call (.phase id handle)
  let bytesDownloaded ← call (.bytesDownloaded handle)
  let totalBytes ← call (.totalBytes handle)
  let message ← call (.message handle)
  pure { id, phase, bytesDownloaded, totalBytes, message }

/-- `DownloadManager::cancel`. -/
def cancel (id : String) : Requesting Unit := do
  let handle ← find id
  call (.raise id handle)

/-! ## The system -/

inductive ManagerRequest where
  | create (request : DownloadRequest)
  | status (id : String)
  | cancel (id : String)

inductive ManagerAnswer where
  | create (result : Except ManagerError String)
  | status (result : Except ManagerError DownloadStatus)
  | cancel (result : Except ManagerError Unit)

def Manager.answer (self : Manager) : ManagerRequest → Prog ManagerOp ManagerOp.Reply ManagerAnswer
  | .create request => (self.create request).run >>= fun result => .ret (.create result)
  | .status id => (status id).run >>= fun result => .ret (.status result)
  | .cancel id => (cancel id).run >>= fun result => .ret (.cancel result)

/-- A client, or the thread of a download. -/
inductive Party where
  | client (number : Nat)
  | worker (handle : Nat)
deriving DecidableEq

/-- The answers that a client got, or whether the thread of a download has ended. -/
inductive PartyState where
  | client (answers : List ManagerAnswer)
  | worker (handle : Nat) (ended : Bool)

/-- The manager, its handles with their flags, the threads that were started, the phases that
were reported, and the ids for which `cancel` raised a flag. -/
structure ManagerWorld where
  created : Nat := 0
  handles : Nat → DownloadHandle := fun _ => {}
  flags : Nat → Bool := fun _ => false
  table : String → Option Nat := fun _ => none
  jobs : Nat → Option Job := fun _ => none
  reported : List (String × DownloadPhase) := []
  cancelled : List String := []

/-- A call of the thread of a download. -/
def ManagerWorld.AnswersWorker (world : ManagerWorld) (handle : Nat) :
    (op : DownloadOp) → op.Reply → ManagerWorld → Prop
  | .handle op, reply, after =>
      after = { world with
        handles := Function.update world.handles handle (op.apply (world.handles handle)).2 } ∧
      reply = (op.apply (world.handles handle)).1
  | .outside .cancelRequested, reply, after => reply = world.flags handle ∧ after = world
  | .outside _, _, after | .store _, _, after => after = world

def ManagerWorld.Answers (world : ManagerWorld) :
    (op : ManagerOp) → op.Reply → ManagerWorld → Prop
  | .ssdFreeMb, _, after => after = world
  | .begin, reply, after => world.created < 2 ^ 64 ∧
      reply = (UInt64.ofNat (world.created + 1), world.created) ∧
      after = { world with created := world.created + 1 }
  | .insert id handle, _, after =>
      after = { world with table := Function.update world.table id (some handle) }
  | .spawn handle job, _, after =>
      after = { world with jobs := Function.update world.jobs handle (some job) }
  | .get id, reply, after => reply = world.table id ∧ after = world
  | .raise id handle, _, after =>
      after = { world with
        flags := Function.update world.flags handle true
        cancelled := world.cancelled ++ [id] }
  | .phase id handle, reply, after => reply = (world.handles handle).phase ∧
      after = { world with reported := world.reported ++ [(id, reply)] }
  | .bytesDownloaded handle, reply, after =>
      reply = (world.handles handle).bytesDownloaded ∧ after = world
  | .totalBytes handle, reply, after => reply = (world.handles handle).totalBytes ∧ after = world
  | .message handle, reply, after => reply = (world.handles handle).message ∧ after = world
  | .started handle, reply, after => world.jobs handle = some reply ∧ after = world
  | .worker handle op, reply, after => world.AnswersWorker handle op reply after

/-- Clients make any requests, and each thread runs once. -/
def managerSystem (self : Manager) :
    System Party ManagerOp ManagerOp.Reply PartyState ManagerWorld where
  Offers := fun _ state program =>
    match state with
    | .client answers => ∃ request, program =
        self.answer request >>= fun answer => .ret (.client (answers ++ [answer]))
    | .worker handle ended => ended = false ∧ program =
        self.thread handle >>= fun _ => .ret (.worker handle true)
  Step := fun _ => ManagerWorld.Answers
  Environment := fun _ _ => False

abbrev ManagerPool : Type := Pool Party ManagerOp ManagerOp.Reply PartyState ManagerWorld

/-- A manager without downloads. -/
def freshManager : ManagerPool where
  world := {}
  activity := fun party => .resting (match party with
    | .client _ => .client []
    | .worker handle => .worker handle false)

/-! ## Phases -/

/-- The phases that can be entered from a phase. -/
def DownloadPhase.Enters : DownloadPhase → DownloadPhase → Prop
  | .downloading, .verifying | .downloading, .cancelled | .verifying, .completed => True
  | .downloading, .failed | .verifying, .failed => True
  | _, _ => False

instance (phase next : DownloadPhase) : Decidable (phase.Enters next) := by
  cases phase <;> cases next <;> unfold DownloadPhase.Enters <;> infer_instance

/-- The phases that can come after a phase. -/
def DownloadPhase.Leads : DownloadPhase → DownloadPhase → Prop :=
  Relation.ReflTransGen DownloadPhase.Enters

/-- The phases after which no other one comes. -/
def DownloadPhase.Final : DownloadPhase → Prop
  | .completed | .failed | .cancelled => True
  | _ => False

theorem DownloadPhase.Leads.eq_of_final {phase next : DownloadPhase} (leads : phase.Leads next)
    (final : phase.Final) : next = phase := by
  rcases Relation.ReflTransGen.cases_head leads with same | ⟨middle, enters, _⟩
  · exact same.symm
  · cases phase <;> first | exact enters.elim | exact final.elim

/-! ## The thread of a download -/

/-- What a thread knows of its handle, and whether it saw its flag. -/
structure WorkerView where
  phase : DownloadPhase := .downloading
  hasMessage : Bool := false
  noticed : Bool := false

/-- A thread enters phases in their order, `Failed` only with a message and `Cancelled` only
when it saw its flag. -/
def workerContract : Contract DownloadOp DownloadOp.Reply WorkerView where
  Admits := fun view op =>
    match op with
    | .handle (.setPhase next) => view.phase.Enters next ∧
        (next = .failed → view.hasMessage = true) ∧ (next = .cancelled → view.noticed = true)
    | _ => True
  Answers := fun view op reply after =>
    match op, reply with
    | .handle .phase, phase => phase = view.phase ∧ after = view
    | .handle (.setPhase next), _ => after = { view with phase := next }
    | .handle (.setMessage _), _ => after = { view with hasMessage := true }
    | .outside .cancelRequested, cancelled =>
        after = { view with noticed := view.noticed || cancelled }
    | _, _ => after = view

/-- The calls that tell a thread nothing. -/
def Plain : DownloadOp → Prop
  | .store _ | .outside (.get _ _) | .outside (.read _) => True
  | .handle .bytesDownloaded | .handle (.setBytesDownloaded _) => True
  | .handle (.addBytesDownloaded _) | .handle (.setTotalBytes _) => True
  | _ => False

section Worker

variable {α : Type} {job : Job} {root : Path} {blockId context : String} {generation : UInt64}
  {view : WorkerView}

theorem plain_keeps {program : Prog DownloadOp DownloadOp.Reply α} (plain : program.Only Plain) :
    wlp workerContract program (fun _ after => after = view) view := by
  refine plain.keeps ?_ rfl
  rintro op allowed _ rfl
  cases op with
  | store op => exact ⟨trivial, fun _ _ same => same⟩
  | outside op =>
      cases op with
      | cancelRequested => exact allowed.elim
      | get url first => exact ⟨trivial, fun _ _ same => same⟩
      | read limit => exact ⟨trivial, fun _ _ same => same⟩
  | handle op =>
      cases op with
      | phase => exact allowed.elim
      | setPhase next => exact allowed.elim
      | setMessage message => exact allowed.elim
      | _ => exact ⟨trivial, fun _ _ same => same⟩

theorem plain_onStore (program : Prog StoreOp StoreOp.Reply α) :
    (Client.onStore program).Only Plain :=
  only_onStore (only_true program) fun _ _ => trivial

theorem plain_stage (context : String) (program : Stage α) :
    Fallible.Only Plain (Client.stage context program) :=
  Fallible.Only.attempt (plain_onStore program.run)

theorem plain_ignore (program : Stage α) : Fallible.Only Plain (Client.ignore program) :=
  Fallible.Only.lift ((plain_onStore program.run).bind fun _ => trivial)

theorem plain_openPart : Fallible.Only Plain (openPart root blockId generation context) := by
  unfold openPart
  apply Fallible.Only.bind (plain_stage _ _)
  intro resumeFrom
  exact Fallible.Only.bind (Fallible.Only.lift (only_perform trivial)) fun _ =>
    Fallible.Only.result _

theorem plain_fetch {urls : UrlLibrary} {requiredScheme : String} {resumeFrom : UInt64}
    (remaining : Nat) (url : String) :
    Fallible.Only Plain (fetch urls requiredScheme resumeFrom remaining url) := by
  induction remaining generalizing url with
  | zero =>
      unfold fetch
      apply Fallible.Only.bind (Fallible.Only.attempt (only_perform trivial))
      intro response
      split
      · exact Fallible.Only.result _
      · exact Fallible.Only.result _
  | succ remaining inductionHypothesis =>
      unfold fetch
      apply Fallible.Only.bind (Fallible.Only.attempt (only_perform trivial))
      intro response
      split
      · exact Fallible.Only.bind (Fallible.Only.result _) fun next => inductionHypothesis next
      · exact Fallible.Only.result _

theorem plain_connect (urls : UrlLibrary) (requiredScheme : String) :
    Fallible.Only Plain (job.connect urls requiredScheme) := by
  unfold Job.connect
  apply Fallible.Only.bind plain_openPart
  intro resumeFrom
  apply Fallible.Only.bind (plain_fetch _ _)
  intro response
  apply Fallible.Only.bind
  · unfold bodyStart
    split
    · exact Fallible.Only.bind (plain_stage _ _) fun _ => plain_openPart
    · exact Fallible.Only.result _
  · intro start
    apply Fallible.Only.bind (Fallible.Only.lift (only_perform trivial))
    intro _
    exact Fallible.Only.bind (Fallible.Only.result _) fun _ => Fallible.Only.result _

/-- The download is not over. -/
def WorkerView.AtWork (view : WorkerView) : Prop :=
  view.phase = .downloading ∨ view.phase = .verifying

/-- A part that is plain, and the rest after it. -/
theorem plain_bind {β : Type} {part : Client α} {rest : α → Client β}
    {post : Except DownloadFailure β → WorkerView → Prop} (plain : Fallible.Only Plain part)
    (fails : ∀ error, post (.error error) view)
    (continues : ∀ value, wlp workerContract (rest value).run post view) :
    wlp workerContract (part >>= rest).run post view := by
  rw [Fallible.wlp_run_bind]
  refine wlp_mono (plain_keeps plain) ?_
  rintro reached _ rfl
  cases reached with
  | error error => exact fails error
  | ok value => exact continues value

/-- The loop over the body leaves the phase, unless the download is cancelled. -/
theorem readBody_phase (rounds : Nat) (downloading : view.phase = .downloading) :
    wlp workerContract (readBody root blockId generation rounds).run
      (fun reached after => reached = .ok .cancelled ∨ after.phase = .downloading) view := by
  induction rounds generalizing view with
  | zero => exact .inr downloading
  | succ rounds inductionHypothesis =>
      refine ⟨trivial, fun requested after learned => ?_⟩
      obtain rfl := learned
      cases requested with
      | true =>
          refine plain_bind (plain_ignore _) (fun _ => .inr downloading) fun _ => ?_
          refine ⟨⟨?_, nofun, fun _ => ?_⟩, ?_⟩
          · rw [show ({ view with noticed := view.noticed || true } : WorkerView).phase =
              .downloading from downloading]
            trivial
          · simp
          · exact fun _ _ _ => .inl rfl
      | false =>
          refine plain_bind (Fallible.Only.attempt (only_perform trivial))
            (fun _ => .inr downloading) fun chunk => ?_
          show wlp _ (ExceptT.run (if chunk = [] then _ else _)) _ _
          by_cases isEnd : chunk = []
          · rw [if_pos isEnd]
            exact .inr downloading
          · rw [if_neg isEnd]
            refine plain_bind (plain_stage _ _) (fun _ => .inr downloading) fun _ => ?_
            refine plain_bind (Fallible.Only.lift (only_perform trivial))
              (fun _ => .inr downloading) fun _ => ?_
            exact inductionHypothesis downloading

theorem verify_phase (resumeFrom : UInt64) (announced : Option UInt64)
    (downloading : view.phase = .downloading) :
    wlp workerContract (job.verify resumeFrom announced).run
      (fun reached after => after.AtWork ∧ (reached = .ok () → after.phase = .verifying)) view := by
  have fails : ∀ error : DownloadFailure, view.AtWork ∧
      ((.error error : Except DownloadFailure Unit) = .ok () → view.phase = .verifying) :=
    fun _ => ⟨.inl downloading, nofun⟩
  unfold Job.verify
  refine plain_bind (plain_stage _ _) fails fun _ => ?_
  refine plain_bind (Fallible.Only.lift (only_perform trivial)) fails fun downloaded => ?_
  refine plain_bind (Fallible.Only.result _) fails fun _ => ?_
  refine ⟨⟨?_, nofun, nofun⟩, ?_⟩
  · rw [downloading]
    trivial
  rintro _ _ rfl
  have verifying : ∀ reached : Except DownloadFailure Unit,
      ({ view with phase := .verifying } : WorkerView).AtWork ∧
        (reached = .ok () → ({ view with phase := .verifying } : WorkerView).phase = .verifying) :=
    fun _ => ⟨.inr rfl, fun _ => rfl⟩
  refine plain_bind (plain_stage _ _) (fun _ => verifying _) fun _ => ?_
  have plain : Fallible.Only Plain (inspectStaged job.root job.blockId job.generation) := by
    apply Fallible.Only.onError
    · exact Fallible.Only.bind (plain_stage _ _) fun _ => Fallible.Only.result _
    · exact Fallible.Only.bind (plain_ignore _) fun _ => plain_ignore _
  refine wlp_mono (plain_keeps plain) ?_
  rintro reached _ rfl
  exact verifying reached

theorem install_phase (verifying : view.phase = .verifying) :
    wlp workerContract job.install.run
      (fun reached after => reached = .ok () ∨ after.AtWork) view := by
  have fails : ∀ error : DownloadFailure,
      (.error error : Except DownloadFailure Unit) = .ok () ∨ view.AtWork :=
    fun _ => .inr (.inr verifying)
  unfold Job.install
  refine plain_bind (plain_stage _ _) fails fun _ => ?_
  refine plain_bind (plain_stage _ _) fails fun _ => ?_
  refine plain_bind (Fallible.Only.bind (plain_ignore _) fun _ => plain_ignore _) fails fun _ => ?_
  refine ⟨⟨?_, nofun, nofun⟩, ?_⟩
  · rw [verifying]
    trivial
  · exact fun _ _ _ => .inl rfl

/-- A download that fails is not over. -/
theorem tryDownload_phase (urls : UrlLibrary) (requiredScheme : String) (rounds : Nat)
    (downloading : view.phase = .downloading) :
    wlp workerContract (job.tryDownload urls requiredScheme rounds).run
      (fun reached after => reached = .ok () ∨ after.AtWork) view := by
  unfold Job.tryDownload
  refine plain_bind (plain_connect _ _) (fun _ => .inr (.inl downloading)) fun connected => ?_
  obtain ⟨start, announced⟩ := connected
  dsimp only
  rw [Fallible.wlp_run_bind]
  refine wlp_mono (readBody_phase rounds downloading) ?_
  rintro reached after ended
  cases reached with
  | error error =>
      rcases ended with impossible | downloading
      · cases impossible
      · exact .inr (.inl downloading)
  | ok bodyEnd =>
      cases bodyEnd with
      | cancelled => exact .inl rfl
      | unfinished => exact .inl rfl
      | complete =>
          rcases ended with impossible | downloading
          · cases impossible
          show wlp _ ((job.verify start announced >>= fun _ => job.install).run) _ after
          rw [Fallible.wlp_run_bind]
          refine wlp_mono (verify_phase start announced downloading) ?_
          rintro verified after ⟨atWork, verifying⟩
          cases verified with
          | error error => exact .inr atWork
          | ok done => exact install_phase (verifying rfl)

/-- A whole thread. -/
theorem runDownload_meets (urls : UrlLibrary) (rounds : Nat)
    (downloading : view.phase = .downloading) :
    wlp workerContract (job.runDownload urls rounds) (fun _ _ => True) view := by
  unfold Job.runDownload
  refine wlp_seq (tryDownload_phase urls "https" rounds downloading) ?_
  rintro outcome after ended
  cases outcome with
  | ok done => trivial
  | error failure =>
      have atWork : after.AtWork := by
        rcases ended with impossible | atWork
        · cases impossible
        · exact atWork
      refine ⟨trivial, ?_⟩
      rintro phase after ⟨same, rfl⟩
      rw [show phase = after.phase from same]
      show wlp _ (if after.phase = .cancelled then _ else _) _ _
      by_cases isCancelled : after.phase = .cancelled
      · rw [if_pos isCancelled]
        trivial
      · rw [if_neg isCancelled]
        refine ⟨trivial, ?_⟩
        rintro _ _ rfl
        refine ⟨⟨?_, fun _ => rfl, nofun⟩, fun _ _ _ => trivial⟩
        rcases atWork with phase | phase
        · rw [show ({ after with hasMessage := true } : WorkerView).phase = .downloading from phase]
          trivial
        · rw [show ({ after with hasMessage := true } : WorkerView).phase = .verifying from phase]
          trivial

end Worker

/-! ## Requests of a client -/

/-- The id of a handle. -/
def idOf (handle : Nat) : String := downloadId (UInt64.ofNat (handle + 1))

theorem idOf_injective {left right : Nat} (leftBound : left < 2 ^ 64) (rightBound : right < 2 ^ 64)
    (same : idOf left = idOf right) : left = right := by
  unfold idOf downloadId at same
  have texts := congrArg String.toList same
  rw [String.toList_append, String.toList_append] at texts
  have numbers := Nat.repr_injective (String.toList_injective (List.append_cancel_left texts))
  rw [UInt64.toNat_ofNat', UInt64.toNat_ofNat'] at numbers
  omega

/-- What a client knows: the handles it made, the id it looked up last with its handle, and the
handle whose phase it read last with that phase. -/
structure ClientView where
  made : List Nat := []
  found : Option (String × Nat) := none
  saw : Option (Nat × DownloadPhase) := none

inductive PartyView where
  | client (view : ClientView)
  | worker (handle : Nat) (view : WorkerView)

/-- What each party may call, and what it learns. -/
def managerContract : Contract ManagerOp ManagerOp.Reply PartyView where
  Admits := fun view op =>
    match view, op with
    | .client view, .insert id handle => handle ∈ view.made ∧ id = idOf handle
    | .client view, .raise id handle => view.found = some (id, handle)
    | .client view, .phase id handle => view.found = some (id, handle)
    | .worker own view, .worker handle op => handle = own ∧ workerContract.Admits view op
    | .client _, .started _ => False
    | .client _, .worker _ _ => False
    | .client _, _ => True
    | .worker _ _, .started _ => True
    | .worker _ _, _ => False
  Answers := fun view op reply after =>
    match view, op, reply with
    | .client view, .begin, (number, handle) => number = UInt64.ofNat (handle + 1) ∧
        after = .client { view with made := view.made ++ [handle] }
    | .client view, .get id, found =>
        after = .client { view with found := found.map fun handle => (id, handle) }
    | .client view, .phase _ handle, phase =>
        after = .client { view with saw := some (handle, phase) }
    | .client view, .message handle, message =>
        (view.saw = some (handle, .failed) → message.isSome) ∧ after = .client view
    | .worker own view, .worker _ op, reply =>
        ∃ next, workerContract.Answers view op reply next ∧ after = .worker own next
    | view, _, _ => after = view

/-- The ids that a client got from `create`. -/
def createdIds (answers : List ManagerAnswer) : List String :=
  answers.filterMap fun
    | .create (.ok id) => some id
    | _ => none

/-- A status that says `Failed` has a message. -/
def Explained : ManagerAnswer → Prop
  | .status (.ok status) => status.phase = .failed → status.message.isSome
  | _ => True

/-- A client got the ids of the handles it made. -/
def PartyRest : PartyState → PartyView → Prop
  | .client answers, .client view =>
      createdIds answers = view.made.map idOf ∧ ∀ answer ∈ answers, Explained answer
  | .worker handle ended, .worker own view => own = handle ∧ (ended = false → view = {})
  | _, _ => False

section Requests

variable {self : Manager} {view : ClientView} {α : Type}

/-- What a request leaves. -/
def LeavesAnswer (before : ClientView) (answer : ManagerAnswer) : PartyView → Prop
  | .client after => after.made.map idOf = before.made.map idOf ++ createdIds [answer] ∧
      Explained answer
  | .worker _ _ => False

/-- The calls before a download is begun. -/
def Checks : ManagerOp → Prop
  | .ssdFreeMb => True
  | _ => False

theorem checks_only (self : Manager) (request : DownloadRequest) :
    Fallible.Only Checks (self.checks request) := by
  unfold Manager.checks
  apply Fallible.Only.bind (Fallible.Only.result _)
  intro _
  apply Fallible.Only.bind (Fallible.Only.result _)
  intro _
  apply Fallible.Only.bind
  · cases request.expectedSizeBytes with
    | none => exact Fallible.Only.result _
    | some expected =>
        apply Fallible.Only.bind (Fallible.Only.attempt (only_perform trivial))
        exact fun _ => Fallible.Only.result _
  · exact fun _ => Fallible.Only.result _

theorem checks_keeps {program : Prog ManagerOp ManagerOp.Reply α} (only : program.Only Checks) :
    wlp managerContract program (fun _ after => after = .client view) (.client view) := by
  refine only.keeps ?_ rfl
  rintro op allowed _ rfl
  cases op with
  | ssdFreeMb => exact ⟨trivial, fun _ _ same => same⟩
  | _ => exact allowed.elim

/-- A call of a request, and the rest after it. -/
theorem wlp_call_run {β : Type} {op : ManagerOp} {rest : op.Reply → Requesting β}
    {post : Except ManagerError β → PartyView → Prop} {party : PartyView}
    (admitted : managerContract.Admits party op)
    (continues : ∀ reply after, managerContract.Answers party op reply after →
      wlp managerContract (rest reply).run post after) :
    wlp managerContract (call op >>= rest).run post party :=
  ⟨admitted, continues⟩

theorem start_answered (request : DownloadRequest) :
    wlp managerContract (self.start request).run
      (fun result after => LeavesAnswer view (.create result) after) (.client view) := by
  unfold Manager.start
  refine wlp_call_run trivial ?_
  rintro ⟨number, handle⟩ _ ⟨isNumber, rfl⟩
  refine wlp_call_run ⟨by simp, ?_⟩ ?_
  · rw [isNumber]
    rfl
  rintro _ _ rfl
  refine wlp_call_run trivial ?_
  rintro _ _ rfl
  refine ⟨?_, trivial⟩
  rw [isNumber]
  simp [createdIds, idOf]

theorem create_answered (request : DownloadRequest) :
    wlp managerContract (self.create request).run
      (fun result after => LeavesAnswer view (.create result) after) (.client view) := by
  unfold Manager.create
  rw [Fallible.wlp_run_bind]
  refine wlp_mono (checks_keeps (checks_only self request)) ?_
  rintro reached _ rfl
  cases reached with
  | ok done => exact start_answered request
  | error error => exact ⟨by simp [createdIds], trivial⟩

/-- A request for a download that is looked up first. -/
theorem find_answered {id : String} {rest : Nat → Requesting α}
    {wrap : Except ManagerError α → ManagerAnswer}
    (fails : ∀ after : ClientView, after.made = view.made →
      LeavesAnswer view (wrap (.error .notFound)) (.client after))
    (continues : ∀ handle, wlp managerContract (rest handle).run
      (fun result after => LeavesAnswer view (wrap result) after)
      (.client { view with found := some (id, handle) })) :
    wlp managerContract (find id >>= rest).run
      (fun result after => LeavesAnswer view (wrap result) after) (.client view) := by
  refine ⟨trivial, ?_⟩
  rintro found _ rfl
  cases found with
  | none => exact fails _ rfl
  | some handle => exact continues handle

theorem status_answered (id : String) :
    wlp managerContract (status id).run
      (fun result after => LeavesAnswer view (.status result) after) (.client view) := by
  unfold status
  refine find_answered (fun after same => ⟨by simp [createdIds, same], trivial⟩) fun handle => ?_
  refine wlp_call_run rfl ?_
  rintro phase _ rfl
  refine wlp_call_run trivial ?_
  rintro bytesDownloaded _ rfl
  refine wlp_call_run trivial ?_
  rintro totalBytes _ rfl
  refine wlp_call_run trivial ?_
  rintro message _ ⟨explained, rfl⟩
  refine ⟨by simp [createdIds], fun failed => explained ?_⟩
  exact congrArg (fun phase => some (handle, phase)) failed

theorem cancel_answered (id : String) :
    wlp managerContract (cancel id).run
      (fun result after => LeavesAnswer view (.cancel result) after) (.client view) := by
  unfold cancel
  refine find_answered (fun after same => ⟨by simp [createdIds, same], trivial⟩) fun handle => ?_
  refine wlp_call_run rfl ?_
  rintro _ _ rfl
  exact ⟨by simp [createdIds], trivial⟩

theorem answer_answered (request : ManagerRequest) :
    wlp managerContract (self.answer request) (LeavesAnswer view) (.client view) := by
  cases request with
  | create request => exact wlp_seq (create_answered request) fun _ _ answered => answered
  | status id => exact wlp_seq (status_answered id) fun _ _ answered => answered
  | cancel id => exact wlp_seq (cancel_answered id) fun _ _ answered => answered

/-- The thread of a download. -/
theorem thread_meets (handle : Nat) :
    wlp managerContract (self.thread handle)
      (fun _ after => PartyRest (.worker handle true) after) (.worker handle {}) := by
  refine ⟨trivial, ?_⟩
  rintro job _ rfl
  have admits : ∀ view op, workerContract.Admits view op →
      managerContract.Admits (.worker handle view) (.worker handle op) :=
    fun _ _ admitted => ⟨rfl, admitted⟩
  have answers : ∀ view op (reply : DownloadOp.Reply op) after,
      managerContract.Answers (.worker handle view) (.worker handle op) reply after →
        ∃ next, workerContract.Answers view op reply next ∧ after = .worker handle next :=
    fun _ _ _ _ answered => answered
  have holds : wlp workerContract (job.runDownload self.urls (self.rounds handle))
      (fun _ next => PartyRest (.worker handle true) (.worker handle next)) {} :=
    wlp_mono (runDownload_meets self.urls (self.rounds handle) rfl) fun _ _ _ => ⟨rfl, nofun⟩
  exact wlp_embed admits answers holds

end Requests

/-! ## Invariant -/

/-- The phases that were reported of an id. -/
def phasesOf (reported : List (String × DownloadPhase)) (id : String) : List DownloadPhase :=
  (reported.filter fun entry => entry.1 = id).map Prod.snd

def viewsOf (clients : Nat → ClientView) (workers : Nat → WorkerView) : Party → PartyView
  | .client number => .client (clients number)
  | .worker handle => .worker handle (workers handle)

/-- The table names handles by their ids, a handle is what its thread knows of it, and what was
reported of it came before. -/
structure Tracked (world : ManagerWorld) (clients : Nat → ClientView)
    (workers : Nat → WorkerView) : Prop where
  bound : world.created ≤ 2 ^ 64
  made : ∀ number, ∀ handle ∈ (clients number).made, handle < world.created
  once : ∀ number, (clients number).made.Nodup
  own : ∀ number other handle, handle ∈ (clients number).made →
    handle ∈ (clients other).made → number = other
  table : ∀ id handle, world.table id = some handle → id = idOf handle ∧ handle < world.created
  found : ∀ number id handle, (clients number).found = some (id, handle) →
    id = idOf handle ∧ handle < world.created
  saw : ∀ number handle, (clients number).saw = some (handle, .failed) →
    (world.handles handle).message.isSome
  phase : ∀ handle, (world.handles handle).phase = (workers handle).phase
  message : ∀ handle, (workers handle).hasMessage = true → (world.handles handle).message.isSome
  failed : ∀ handle, (workers handle).phase = .failed → (workers handle).hasMessage = true
  noticed : ∀ handle, (workers handle).noticed = true → world.flags handle = true
  stopped : ∀ handle, (workers handle).phase = .cancelled → (workers handle).noticed = true
  flag : ∀ handle, world.flags handle = true → idOf handle ∈ world.cancelled
  reported : ∀ entry ∈ world.reported, ∃ handle < world.created, entry.1 = idOf handle ∧
    entry.2.Leads (world.handles handle).phase
  order : ∀ id, (phasesOf world.reported id).Pairwise DownloadPhase.Leads

section Steps

variable {world after : ManagerWorld} {clients : Nat → ClientView} {workers : Nat → WorkerView}
  {number handle : Nat} {id : String}

private theorem update_client (view : ClientView) :
    Function.update (viewsOf clients workers) (.client number) (.client view) =
      viewsOf (Function.update clients number view) workers := by
  funext party
  cases party with
  | worker handle => exact Function.update_of_ne (by simp) ..
  | client other =>
      by_cases same : other = number
      · subst same
        simp [viewsOf]
      · rw [Function.update_of_ne (by simpa using same)]
        simp [viewsOf, same]

private theorem update_worker (view : WorkerView) :
    Function.update (viewsOf clients workers) (.worker handle) (.worker handle view) =
      viewsOf clients (Function.update workers handle view) := by
  funext party
  cases party with
  | client number => exact Function.update_of_ne (by simp) ..
  | worker other =>
      by_cases same : other = handle
      · subst same
        simp [viewsOf]
      · rw [Function.update_of_ne (by simpa using same)]
        simp [viewsOf, same]

/-- A client learns something about the table or a phase. -/
private theorem Tracked.learn (tracked : Tracked world clients workers) {view : ClientView}
    (same : view.made = (clients number).made)
    (found : ∀ id handle, view.found = some (id, handle) →
      id = idOf handle ∧ handle < world.created)
    (saw : ∀ handle, view.saw = some (handle, .failed) → (world.handles handle).message.isSome) :
    Tracked world (Function.update clients number view) workers := by
  have made : ∀ other, (Function.update clients number view other).made = (clients other).made := by
    apply (Function.forall_update_iff clients fun other view =>
      view.made = (clients other).made).mpr
    exact ⟨same, fun _ _ => rfl⟩
  exact { tracked with
    made := by
      simp only [made]
      exact tracked.made
    once := by
      simp only [made]
      exact tracked.once
    own := by
      simp only [made]
      exact tracked.own
    found := (Function.forall_update_iff clients fun _ view => ∀ id handle,
      view.found = some (id, handle) → id = idOf handle ∧ handle < world.created).mpr
        ⟨found, fun other _ => tracked.found other⟩
    saw := (Function.forall_update_iff clients fun _ view => ∀ handle,
      view.saw = some (handle, .failed) → (world.handles handle).message.isSome).mpr
        ⟨saw, fun other _ => tracked.saw other⟩ }

/-- A client makes a handle. -/
private theorem Tracked.begin (tracked : Tracked world clients workers)
    (bound : world.created < 2 ^ 64) :
    Tracked { world with created := world.created + 1 }
      (Function.update clients number
        { clients number with made := (clients number).made ++ [world.created] }) workers := by
  have fresh : ∀ other, world.created ∉ (clients other).made := by
    intro other member
    exact Nat.lt_irrefl _ (tracked.made other _ member)
  exact { tracked with
    bound := by
      show world.created + 1 ≤ 2 ^ 64
      omega
    made := by
      refine (Function.forall_update_iff clients fun _ view =>
        ∀ handle ∈ view.made, handle < world.created + 1).mpr ⟨?_, ?_⟩
      · intro handle member
        rcases List.mem_append.mp member with earlier | last
        · have before := tracked.made number handle earlier
          omega
        · rw [List.mem_singleton.mp last]
          omega
      · intro other _ handle member
        have before := tracked.made other handle member
        omega
    once := by
      refine (Function.forall_update_iff clients fun _ view => view.made.Nodup).mpr ⟨?_, ?_⟩
      · show ((clients number).made ++ [world.created]).Nodup
        rw [List.nodup_append]
        refine ⟨tracked.once number, List.nodup_singleton _, ?_⟩
        intro handle member last isLast same
        rw [List.mem_singleton.mp isLast] at same
        exact fresh number (same ▸ member)
      · exact fun other _ => tracked.once other
    own := by
      intro first second handle
      by_cases isFirst : first = number
      · by_cases isSecond : second = number
        · exact fun _ _ => isFirst.trans isSecond.symm
        · rw [isFirst, Function.update_self, Function.update_of_ne isSecond]
          intro member elsewhere
          rcases List.mem_append.mp member with earlier | last
          · exact tracked.own number second handle earlier elsewhere
          · rw [List.mem_singleton.mp last] at elsewhere
            exact absurd elsewhere (fresh second)
      · rw [Function.update_of_ne isFirst]
        by_cases isSecond : second = number
        · rw [isSecond, Function.update_self]
          intro elsewhere member
          rcases List.mem_append.mp member with earlier | last
          · exact tracked.own first number handle elsewhere earlier
          · rw [List.mem_singleton.mp last] at elsewhere
            exact absurd elsewhere (fresh first)
        · rw [Function.update_of_ne isSecond]
          exact tracked.own first second handle
    table := by
      intro id handle isEntry
      obtain ⟨isId, before⟩ := tracked.table id handle isEntry
      exact ⟨isId, by show handle < world.created + 1; omega⟩
    found := by
      refine (Function.forall_update_iff clients fun _ view => ∀ id handle,
        view.found = some (id, handle) → id = idOf handle ∧ handle < world.created + 1).mpr
          ⟨?_, fun other _ => ?_⟩
      · intro id handle isFound
        obtain ⟨isId, before⟩ := tracked.found number id handle isFound
        exact ⟨isId, by omega⟩
      · intro id handle isFound
        obtain ⟨isId, before⟩ := tracked.found other id handle isFound
        exact ⟨isId, by omega⟩
    saw := (Function.forall_update_iff clients fun _ view => ∀ handle,
      view.saw = some (handle, .failed) → (world.handles handle).message.isSome).mpr
        ⟨tracked.saw number, fun other _ => tracked.saw other⟩
    reported := by
      intro entry member
      obtain ⟨handle, before, isId, leads⟩ := tracked.reported entry member
      exact ⟨handle, by show handle < world.created + 1; omega, isId, leads⟩ }

/-- A client puts a handle that it made into the table. -/
private theorem Tracked.insert (tracked : Tracked world clients workers)
    (made : handle ∈ (clients number).made) :
    Tracked { world with table := Function.update world.table (idOf handle) (some handle) } clients
      workers :=
  { tracked with
    table := by
      refine (Function.forall_update_iff world.table fun id entry => ∀ handle,
        entry = some handle → id = idOf handle ∧ handle < world.created).mpr
          ⟨?_, fun id _ => tracked.table id⟩
      intro found same
      rw [← Option.some.inj same]
      exact ⟨rfl, tracked.made number handle made⟩ }

/-- A client raises the flag of the handle that it found. -/
private theorem Tracked.raise (tracked : Tracked world clients workers) :
    Tracked { world with
      flags := Function.update world.flags handle true
      cancelled := world.cancelled ++ [idOf handle] } clients workers :=
  { tracked with
    noticed := by
      intro other noticed
      by_cases same : other = handle
      · rw [same]
        exact Function.update_self ..
      · exact (Function.update_of_ne same ..).trans (tracked.noticed other noticed)
    flag := by
      refine (Function.forall_update_iff world.flags fun other raised => raised = true →
        idOf other ∈ world.cancelled ++ [idOf handle]).mpr ⟨?_, ?_⟩
      · exact fun _ => List.mem_append_right _ (List.mem_singleton_self _)
      · exact fun other _ raised => List.mem_append_left _ (tracked.flag other raised) }

/-- A client reads the phase of the handle that it found. -/
private theorem Tracked.report (tracked : Tracked world clients workers)
    (found : (clients number).found = some (id, handle)) :
    Tracked { world with reported := world.reported ++ [(id, (world.handles handle).phase)] }
      (Function.update clients number
        { clients number with saw := some (handle, (world.handles handle).phase) }) workers := by
  obtain ⟨rfl, before⟩ := tracked.found number id handle found
  have reported : Tracked
      { world with reported := world.reported ++ [(idOf handle, (world.handles handle).phase)] }
      clients workers :=
    { tracked with
      reported := by
        intro entry member
        rcases List.mem_append.mp member with earlier | last
        · exact tracked.reported entry earlier
        · rw [List.mem_singleton.mp last]
          exact ⟨handle, before, rfl, .refl⟩
      order := by
        intro id
        unfold phasesOf
        rw [List.filter_append, List.map_append, List.pairwise_append]
        refine ⟨tracked.order id, ?_, ?_⟩
        · by_cases isId : idOf handle = id <;> simp [isId]
        · intro phase earlier next last
          by_cases isId : idOf handle = id
          · obtain ⟨entry, member, rfl⟩ := List.mem_map.mp earlier
            obtain ⟨entryReported, entryId⟩ := List.mem_filter.mp member
            obtain ⟨other, otherBefore, otherId, leads⟩ := tracked.reported entry entryReported
            have sameHandle : other = handle := by
              have bound := tracked.bound
              refine idOf_injective (by omega) (by omega) ?_
              rw [← otherId, isId]
              simpa using entryId
            have isLast : next = (world.handles handle).phase := by simpa [isId] using last
            rw [isLast, ← sameHandle]
            exact leads
          · simp [isId] at last }
  refine reported.learn rfl (reported.found number) ?_
  intro other same
  obtain ⟨rfl, failed⟩ := Prod.mk.inj (Option.some.inj same)
  rw [tracked.phase] at failed
  exact tracked.message handle (tracked.failed handle failed)

/-- A thread goes on. -/
private theorem Tracked.work (tracked : Tracked world clients workers) {entry : DownloadHandle}
    {view : WorkerView} (same : entry.phase = view.phase)
    (leads : (world.handles handle).phase.Leads entry.phase)
    (kept : (world.handles handle).message.isSome → entry.message.isSome)
    (message : view.hasMessage = true → entry.message.isSome)
    (failed : view.phase = .failed → view.hasMessage = true)
    (noticed : view.noticed = true → world.flags handle = true)
    (stopped : view.phase = .cancelled → view.noticed = true) :
    Tracked { world with handles := Function.update world.handles handle entry } clients
      (Function.update workers handle view) := by
  have stays : ∀ other, (world.handles other).message.isSome →
      (Function.update world.handles handle entry other).message.isSome :=
    (Function.forall_update_iff world.handles fun other entry =>
      (world.handles other).message.isSome → entry.message.isSome).mpr ⟨kept, fun _ _ => id⟩
  have onward : ∀ other, (world.handles other).phase.Leads
      (Function.update world.handles handle entry other).phase :=
    (Function.forall_update_iff world.handles fun other entry =>
      (world.handles other).phase.Leads entry.phase).mpr ⟨leads, fun _ _ => .refl⟩
  exact { tracked with
    saw := fun number other isSaw => stays other (tracked.saw number other isSaw)
    phase := by
      intro other
      by_cases isHandle : other = handle
      · rw [isHandle, Function.update_self]
        exact (congrArg DownloadHandle.phase (Function.update_self ..)).trans same
      · rw [Function.update_of_ne isHandle]
        exact (congrArg DownloadHandle.phase (Function.update_of_ne isHandle ..)).trans
          (tracked.phase other)
    message := by
      intro other
      by_cases isHandle : other = handle
      · rw [isHandle, Function.update_self]
        intro has
        show (Function.update world.handles handle entry handle).message.isSome = true
        rw [Function.update_self]
        exact message has
      · rw [Function.update_of_ne isHandle]
        exact fun has => stays other (tracked.message other has)
    failed := (Function.forall_update_iff workers fun _ view =>
      view.phase = .failed → view.hasMessage = true).mpr
        ⟨failed, fun other _ => tracked.failed other⟩
    noticed := (Function.forall_update_iff workers fun other view =>
      view.noticed = true → world.flags other = true).mpr
        ⟨noticed, fun other _ => tracked.noticed other⟩
    stopped := (Function.forall_update_iff workers fun _ view =>
      view.phase = .cancelled → view.noticed = true).mpr
        ⟨stopped, fun other _ => tracked.stopped other⟩
    reported := by
      intro reported member
      obtain ⟨other, before, isId, earlier⟩ := tracked.reported reported member
      exact ⟨other, before, isId, earlier.trans (onward other)⟩ }

/-- A thread changes neither its phase nor its message. -/
private theorem Tracked.silent (tracked : Tracked world clients workers) {entry : DownloadHandle}
    (phase : entry.phase = (world.handles handle).phase)
    (message : entry.message = (world.handles handle).message) :
    Tracked { world with handles := Function.update world.handles handle entry } clients
      (Function.update workers handle (workers handle)) := by
  apply tracked.work
  · rw [phase]
    exact tracked.phase handle
  · rw [phase]
    exact .refl
  · rw [message]
    exact id
  · rw [message]
    exact tracked.message handle
  · exact tracked.failed handle
  · exact tracked.noticed handle
  · exact tracked.stopped handle

private theorem Tracked.answersWorker (tracked : Tracked world clients workers)
    {op : DownloadOp} {reply : op.Reply} (admitted : workerContract.Admits (workers handle) op)
    (answered : world.AnswersWorker handle op reply after) :
    ∃ next, workerContract.Answers (workers handle) op reply next ∧
      Tracked after clients (Function.update workers handle next) := by
  cases op with
  | store op =>
      obtain rfl := answered
      exact ⟨workers handle, rfl, by rwa [Function.update_eq_self]⟩
  | outside op =>
      cases op with
      | cancelRequested =>
          obtain ⟨isFlag, rfl⟩ := answered
          refine ⟨_, rfl, ?_⟩
          have worked : Tracked
              { after with handles := Function.update after.handles handle (after.handles handle) }
              clients (Function.update workers handle
                { workers handle with noticed := (workers handle).noticed || reply }) := by
            refine tracked.work (tracked.phase handle) .refl id (tracked.message handle)
              (tracked.failed handle) ?_ ?_
            · intro noticed
              rcases Bool.or_eq_true_iff.mp noticed with before | now
              · exact tracked.noticed handle before
              · exact isFlag.symm.trans now
            · intro stopped
              exact Bool.or_eq_true_iff.mpr (.inl (tracked.stopped handle stopped))
          rwa [Function.update_eq_self] at worked
      | get url first =>
          obtain rfl := answered
          exact ⟨workers handle, rfl, by rwa [Function.update_eq_self]⟩
      | read limit =>
          obtain rfl := answered
          exact ⟨workers handle, rfl, by rwa [Function.update_eq_self]⟩
  | handle op =>
      obtain ⟨rfl, isReply⟩ := answered
      cases op with
      | phase =>
          exact ⟨workers handle, ⟨isReply.trans (tracked.phase handle), rfl⟩,
            tracked.silent rfl rfl⟩
      | setPhase next =>
          obtain ⟨enters, explained, raised⟩ := admitted
          refine ⟨_, rfl, tracked.work rfl ?_ id (tracked.message handle) explained
            (tracked.noticed handle) raised⟩
          rw [tracked.phase]
          exact .single enters
      | setMessage message =>
          refine ⟨_, rfl, tracked.work (tracked.phase handle) .refl (fun _ => rfl) (fun _ => rfl)
            (fun _ => rfl) (tracked.noticed handle) (tracked.stopped handle)⟩
      | bytesDownloaded => exact ⟨workers handle, rfl, tracked.silent rfl rfl⟩
      | setBytesDownloaded bytes => exact ⟨workers handle, rfl, tracked.silent rfl rfl⟩
      | addBytesDownloaded bytes => exact ⟨workers handle, rfl, tracked.silent rfl rfl⟩
      | setTotalBytes total => exact ⟨workers handle, rfl, tracked.silent rfl rfl⟩

private theorem Tracked.answersClient (tracked : Tracked world clients workers)
    {op : ManagerOp} {reply : op.Reply}
    (admitted : managerContract.Admits (.client (clients number)) op)
    (answered : world.Answers op reply after) :
    ∃ view, managerContract.Answers (.client (clients number)) op reply (.client view) ∧
      Tracked after (Function.update clients number view) workers := by
  have unchanged : ∀ {later : ManagerWorld}, Tracked later clients workers →
      Tracked later (Function.update clients number (clients number)) workers := by
    intro later kept
    rwa [Function.update_eq_self]
  cases op with
  | ssdFreeMb =>
      obtain rfl := answered
      exact ⟨_, rfl, unchanged tracked⟩
  | begin =>
      obtain ⟨bound, rfl, rfl⟩ := answered
      exact ⟨_, ⟨rfl, rfl⟩, tracked.begin bound⟩
  | insert id handle =>
      obtain ⟨made, rfl⟩ := admitted
      obtain rfl := answered
      exact ⟨_, rfl, unchanged (tracked.insert made)⟩
  | spawn handle job =>
      obtain rfl := answered
      exact ⟨_, rfl, unchanged { tracked with }⟩
  | get id =>
      obtain ⟨rfl, rfl⟩ := answered
      refine ⟨_, rfl, tracked.learn rfl ?_ (tracked.saw number)⟩
      intro other handle same
      obtain ⟨found, isEntry, isFound⟩ := Option.map_eq_some_iff.mp same
      obtain ⟨rfl, rfl⟩ := Prod.mk.inj isFound
      exact tracked.table _ _ isEntry
  | raise id handle =>
      obtain rfl := answered
      obtain ⟨rfl, _⟩ := tracked.found number id handle admitted
      exact ⟨_, rfl, unchanged tracked.raise⟩
  | phase id handle =>
      obtain ⟨rfl, rfl⟩ := answered
      exact ⟨_, rfl, tracked.report admitted⟩
  | bytesDownloaded handle =>
      obtain ⟨_, rfl⟩ := answered
      exact ⟨_, rfl, unchanged tracked⟩
  | totalBytes handle =>
      obtain ⟨_, rfl⟩ := answered
      exact ⟨_, rfl, unchanged tracked⟩
  | message handle =>
      obtain ⟨rfl, rfl⟩ := answered
      exact ⟨_, ⟨fun saw => tracked.saw number handle saw, rfl⟩, unchanged tracked⟩
  | started handle => exact admitted.elim
  | worker handle op => exact admitted.elim

/-- Step lemma. -/
private theorem Tracked.answers (tracked : Tracked world clients workers) {party : Party}
    {op : ManagerOp} {reply : op.Reply}
    (admitted : managerContract.Admits (viewsOf clients workers party) op)
    (answered : world.Answers op reply after) :
    ∃ view, managerContract.Answers (viewsOf clients workers party) op reply view ∧
      ∃ clients' workers', Function.update (viewsOf clients workers) party view =
        viewsOf clients' workers' ∧ Tracked after clients' workers' := by
  cases party with
  | client number =>
      obtain ⟨view, learned, kept⟩ := tracked.answersClient admitted answered
      exact ⟨_, learned, _, _, update_client view, kept⟩
  | worker handle =>
      cases op with
      | started other =>
          obtain ⟨_, rfl⟩ := answered
          exact ⟨_, rfl, clients, workers, Function.update_eq_self .., tracked⟩
      | worker other op =>
          obtain ⟨rfl, allowed⟩ := admitted
          obtain ⟨view, learned, kept⟩ := tracked.answersWorker allowed answered
          exact ⟨_, ⟨view, learned, rfl⟩, _, _, update_worker view, kept⟩
      | _ => exact admitted.elim

end Steps

/-! ## Every run -/

/-- What the requests of all clients see: each `create` gets an id of its own; what is reported
of an id only goes on, and not after a final phase; `Cancelled` is reported of ids only for
which `cancel` was called; and a status that says `Failed` says why. -/
structure WellReported (pool : ManagerPool) (answers : Nat → List ManagerAnswer) : Prop where
  once : ∀ number, (createdIds (answers number)).Nodup
  own : ∀ number other id, id ∈ createdIds (answers number) → id ∈ createdIds (answers other) →
    number = other
  onward : ∀ id, (phasesOf pool.world.reported id).Pairwise fun earlier later =>
    earlier.Leads later ∧ (earlier.Final → later = earlier)
  asked : ∀ id, (id, .cancelled) ∈ pool.world.reported → id ∈ pool.world.cancelled
  explained : ∀ number, ∀ answer ∈ answers number, Explained answer

private theorem respects (self : Manager) :
    (managerSystem self).Respects managerContract PartyRest
      (fun world views => ∃ clients workers, views = viewsOf clients workers ∧
        Tracked world clients workers) where
  offered := by
    intro _ state program view rest offered
    cases state with
    | client answers =>
        obtain ⟨request, rfl⟩ := offered
        cases view with
        | worker handle view => exact rest.elim
        | client view =>
            refine wlp_seq (answer_answered request) ?_
            intro answer after answered
            cases after with
            | worker handle after => exact answered.elim
            | client after =>
                refine ⟨?_, ?_⟩
                · rw [answered.1, ← rest.1]
                  exact List.filterMap_append
                · intro other member
                  rcases List.mem_append.mp member with earlier | last
                  · exact rest.2 other earlier
                  · rw [List.mem_singleton.mp last]
                    exact answered.2
    | worker handle ended =>
        obtain ⟨notEnded, rfl⟩ := offered
        cases view with
        | client view => exact rest.elim
        | worker own view =>
            obtain ⟨rfl, fresh⟩ := rest
            rw [fresh notEnded]
            exact wlp_seq (thread_meets own) fun _ _ ended => ended
  step := by
    rintro party world views op reply after ⟨clients, workers, rfl, tracked⟩ admitted answered
    obtain ⟨view, learned, clients', workers', same, kept⟩ := tracked.answers admitted answered
    exact ⟨view, learned, clients', workers', same, kept⟩
  environment := fun _ _ _ _ impossible => impossible.elim

private theorem freshManager_safe : freshManager.Safe managerContract PartyRest
    (fun world views => ∃ clients workers, views = viewsOf clients workers ∧
      Tracked world clients workers) := by
  refine ⟨viewsOf (fun _ => {}) (fun _ => {}), ⟨_, _, rfl, ?_⟩, ?_⟩
  · exact
      { bound := Nat.zero_le _
        made := fun _ _ impossible => absurd impossible List.not_mem_nil
        once := fun _ => List.nodup_nil
        own := fun _ _ _ impossible => absurd impossible List.not_mem_nil
        table := nofun
        found := nofun
        saw := nofun
        phase := fun _ => rfl
        message := nofun
        failed := nofun
        noticed := nofun
        stopped := nofun
        flag := nofun
        reported := fun _ impossible => absurd impossible List.not_mem_nil
        order := fun _ => .nil }
  · intro party
    cases party with
    | client number => exact ⟨rfl, fun _ impossible => absurd impossible List.not_mem_nil⟩
    | worker handle => exact ⟨rfl, fun _ => rfl⟩

/-- What a client at rest got. -/
def answersOf (pool : ManagerPool) (number : Nat) : List ManagerAnswer :=
  match pool.activity (.client number) with
  | .resting (.client answers) => answers
  | _ => []

/-- In every interleaving of the requests of any number of clients and of the threads of the
downloads, whatever disk and servers answer, the downloads are well reported. -/
theorem downloads_wellReported (self : Manager) {pool : ManagerPool}
    (reachable : (managerSystem self).Reachable freshManager pool) :
    WellReported pool (answersOf pool) := by
  obtain ⟨views, ⟨clients, workers, rfl, tracked⟩, meets⟩ :=
    reachable.safe (respects self) freshManager_safe
  have rest : ∀ number, createdIds (answersOf pool number) = [] ∨
      createdIds (answersOf pool number) = (clients number).made.map idOf := by
    intro number
    have owed := meets (.client number)
    unfold answersOf
    split
    · rename_i answers atRest
      rw [atRest] at owed
      exact .inr owed.1
    · exact .inl rfl
  have inMade : ∀ number, ∀ handle ∈ (clients number).made, handle < 2 ^ 64 := by
    intro number handle member
    have before := tracked.made number handle member
    have bound := tracked.bound
    omega
  have injective : ∀ number other, ∀ left ∈ (clients number).made,
      ∀ right ∈ (clients other).made, idOf left = idOf right → left = right :=
    fun number other left leftMade right rightMade same =>
      idOf_injective (inMade number left leftMade) (inMade other right rightMade) same
  refine ⟨?_, ?_, ?_, ?_, ?_⟩
  · intro number
    rcases rest number with none | some
    · rw [none]
      exact List.nodup_nil
    · rw [some]
      exact (tracked.once number).map_on fun left leftMade right rightMade =>
        injective number number left leftMade right rightMade
  · intro number other id first second
    rcases rest number with none | some
    · rw [none] at first
      exact absurd first List.not_mem_nil
    rcases rest other with none' | some'
    · rw [none'] at second
      exact absurd second List.not_mem_nil
    rw [some] at first
    rw [some'] at second
    obtain ⟨left, leftMade, rfl⟩ := List.mem_map.mp first
    obtain ⟨right, rightMade, same⟩ := List.mem_map.mp second
    obtain rfl := injective other number right rightMade left leftMade same
    exact tracked.own number other right leftMade rightMade
  · intro id
    refine (tracked.order id).imp fun leads => ⟨leads, fun final => leads.eq_of_final final⟩
  · intro id member
    obtain ⟨handle, _, isId, leads⟩ := tracked.reported (id, .cancelled) member
    have stopped := leads.eq_of_final trivial
    rw [tracked.phase] at stopped
    rw [show id = idOf handle from isId]
    exact tracked.flag handle (tracked.noticed handle (tracked.stopped handle stopped))
  · intro number answer member
    have owed := meets (.client number)
    unfold answersOf at member
    split at member
    · rename_i answers atRest
      rw [atRest] at owed
      exact owed.2 answer member
    · exact absurd member List.not_mem_nil

/-- A manager whose URLs are all on one host. -/
def oneHost : Manager where
  root := ["stage"]
  modelsDir := ["models"]
  ssdReserveMb := 5120
  stableHash := fun _ => 7
  processId := 1
  nanos := id
  urls :=
    { parse := fun text => .ok ⟨"https", some "host", text⟩
      join := fun _ text => .ok ⟨"https", some "host", text⟩ }
  rounds := fun _ => 1

/-- One client creates a download and another one asks for it, before its thread has begun. -/
theorem downloads_wellReported_polled :
    ∃ pool, answersOf pool 0 = [.create (.ok "dl-1")] ∧
      answersOf pool 1 = [.status (.ok ⟨"dl-1", .downloading, 0, none, none⟩)] ∧
      WellReported pool (answersOf pool) := by
  have start : (managerSystem oneHost).Reachable freshManager freshManager := .refl
  have begins := start.begin (.client 0) _ rfl
    ⟨.create ⟨"https://host/m.gguf", "m.gguf", none, none⟩, rfl⟩
  have numbered := begins.call (.client 0) rfl (1, 0) _ ⟨by decide, rfl, rfl⟩
  have inserted := numbered.call (.client 0) rfl () _ rfl
  have spawned := inserted.call (.client 0) rfl () _ rfl
  have created := spawned.finish (.client 0) rfl
  have asks := created.begin (.client 1) _ rfl ⟨.status "dl-1", rfl⟩
  have found := asks.call (.client 1) rfl (some 0) _ ⟨rfl, rfl⟩
  have phase := found.call (.client 1) rfl .downloading _ ⟨rfl, rfl⟩
  have bytes := phase.call (.client 1) rfl 0 _ ⟨rfl, rfl⟩
  have total := bytes.call (.client 1) rfl none _ ⟨rfl, rfl⟩
  have message := total.call (.client 1) rfl none _ ⟨rfl, rfl⟩
  have answered := message.finish (.client 1) rfl
  exact ⟨_, rfl, rfl, downloads_wellReported oneHost answered⟩

end TriAI.Download
