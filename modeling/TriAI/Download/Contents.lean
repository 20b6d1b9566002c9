import TriAI.Download.RunContents

/-!
Contract: what the runs of one download install.

Owns: that runs whose changes do not overlap install the content; and two runs that
overlap and do not.

Does not own: the contract of a single run (`Download.RunContents`).
-/

set_option autoImplicit false

namespace TriAI.Download

open TriAI.Library.FileTree
open TriAI.Library.Interaction
open TriAI.Staging
open TriAI.Storage

/-! ## All runs -/

section Runs

variable {shared : SharedDownload}

/-- What a run sees of the shared world. -/
def viewOf (world : SharedWorld) (id : Nat) : RunView where
  files := world.disk.file
  handle := world.handles id
  connection := world.connections id

/-- The invariant: the part file is a beginning of the content, every run keeps its
contract from here on, and what has been installed is the content. -/
structure ContentsKept (shared : SharedDownload) (pool : SharedPool) : Prop where
  part : PartOf shared.content shared.part pool.world.disk.file
  owed : ∀ id program, pool.activity id = .running program →
    wlp (contentContract shared.content shared.part shared.target) program (fun _ _ => True)
      (viewOf pool.world id)
  installed : ∀ id, (pool.world.handles id).phase = .completed →
    pool.world.installed id = some shared.content

/-- An answer of the shared world is one its run foresees. -/
private theorem answers_viewOf {id : Nat} {world after : SharedWorld} {op : DownloadOp}
    {reply : op.Reply} (answered : world.Answers shared id op reply after) :
    (contentContract shared.content shared.part shared.target).Answers (viewOf world id) op reply
      (viewOf after id) := by
  cases op with
  | store op =>
      obtain ⟨disk, applied, rfl⟩ := answered
      exact ⟨disk.file, fileStep_apply shared.tool applied, rfl⟩
  | outside op =>
      obtain ⟨connection, serves, rfl⟩ := answered
      exact ⟨connection, serves, by simp [viewOf]⟩
  | handle op =>
      obtain ⟨handle, applied, rfl⟩ := answered
      exact ⟨handle, applied, by simp [viewOf]⟩

/-- The handle and the connection of another run stay. -/
private theorem viewOf_other {id other : Nat} {world after : SharedWorld} {op : DownloadOp}
    {reply : op.Reply} (answered : world.Answers shared id op reply after)
    (different : other ≠ id) (same : after.disk.file = world.disk.file) :
    viewOf after other = viewOf world other := by
  cases op with
  | store op =>
      obtain ⟨disk, _, rfl⟩ := answered
      simp only [viewOf, same]
  | outside op =>
      obtain ⟨connection, _, rfl⟩ := answered
      simp [viewOf, Function.update_of_ne different]
  | handle op =>
      obtain ⟨handle, _, rfl⟩ := answered
      simp [viewOf, Function.update_of_ne different]

/-- What an admitted call leaves in the part file and installs. -/
private theorem kept_of_answers {id : Nat} {world after : SharedWorld} {op : DownloadOp}
    {reply : op.Reply} (part : PartOf shared.content shared.part world.disk.file)
    (installed : ∀ id, (world.handles id).phase = .completed →
      world.installed id = some shared.content)
    (admitted : (contentContract shared.content shared.part shared.target).Admits
      (viewOf world id) op) (answered : world.Answers shared id op reply after) :
    PartOf shared.content shared.part after.disk.file ∧
      ∀ id, (after.handles id).phase = .completed → after.installed id = some shared.content := by
  cases op with
  | store op =>
      obtain ⟨disk, applied, rfl⟩ := answered
      exact ⟨admitted reply disk.file (fileStep_apply shared.tool applied), installed⟩
  | outside op =>
      obtain ⟨connection, _, rfl⟩ := answered
      exact ⟨part, installed⟩
  | handle op =>
      obtain ⟨handle, applied, rfl⟩ := answered
      refine ⟨part, ?_⟩
      intro other completed
      have isHandle : (op.apply (world.handles id)).2 = handle := by rw [applied]
      by_cases same : other = id
      · subst same
        simp only [Function.update_self] at completed
        rw [← isHandle] at completed
        cases op with
        | setPhase next =>
            cases next with
            | completed => exact (Function.update_self ..).trans admitted
            | downloading => cases completed
            | verifying => cases completed
            | failed => cases completed
            | cancelled => cases completed
        | phase => exact installed other completed
        | bytesDownloaded => exact installed other completed
        | setBytesDownloaded bytes => exact installed other completed
        | addBytesDownloaded bytes => exact installed other completed
        | setTotalBytes total => exact installed other completed
        | setMessage message => exact installed other completed
      · simp only [Function.update_of_ne same] at completed
        have before := installed other completed
        cases op with
        | setPhase next =>
            cases next with
            | completed => exact (Function.update_of_ne same ..).trans before
            | _ => exact before
        | _ => exact before

/-- A run has its contract ahead of it when it begins. -/
private theorem wlp_run (id : Nat) {view : RunView}
    (part : PartOf shared.content shared.part view.files) :
    wlp (contentContract shared.content shared.part shared.target) (shared.run id)
      (fun _ _ => True) view := by
  have contract : wlp (contentContract shared.content shared.part shared.target)
      ((shared.job id).runDownload shared.urls (shared.rounds id)) (fun _ _ => True) view :=
    wlp_runDownload (shared.job id) shared.urls (shared.rounds id) part
      (target_ne_fileName shared.root shared.modelsDir shared.fileName _ "bin")
      (target_ne_fileName shared.root shared.modelsDir shared.fileName _ "commit")
  apply wlp_seq contract
  exact fun _ _ _ => trivial

/-- What needs no file keeps the contract whatever the files are. -/
private theorem wlp_needsNoFile {program : Prog DownloadOp DownloadOp.Reply Bool}
    (needsNone : program.Only fun op => ¬ NeedsFile op) {view : RunView} :
    wlp (contentContract shared.content shared.part shared.target) program
      (fun _ _ => True) view := by
  induction program generalizing view with
  | ret _ => trivial
  | call op next inductionHypothesis =>
      refine ⟨?_, fun reply _ _ => inductionHypothesis reply (needsNone.2 reply)⟩
      cases op with
      | store op => exact absurd trivial needsNone.1
      | outside op => trivial
      | handle op =>
          cases op with
          | setPhase phase =>
              cases phase with
              | completed => exact absurd trivial needsNone.1
              | _ => trivial
          | _ => trivial

/-- A run that is not at work has its contract ahead of it whatever the other runs do. -/
private theorem wlp_not_atWork {pool : SharedPool} {id : Nat}
    {program : Prog DownloadOp DownloadOp.Reply Bool}
    (running : pool.activity id = .running program) (idle : ¬ AtWork shared pool id)
    {view : RunView} (part : PartOf shared.content shared.part view.files) :
    wlp (contentContract shared.content shared.part shared.target) program
      (fun _ _ => True) view := by
  by_cases begins : program = shared.run id
  · rw [begins]
    exact wlp_run id part
  · by_cases needsNone : program.Only fun op => ¬ NeedsFile op
    · exact wlp_needsNoFile needsNone
    · exact absurd ⟨program, running, begins, needsNone⟩ idle

/-- Step lemma. -/
theorem ContentsKept.step {pool next : SharedPool} (moves : (sharedSystem shared).Moves pool next)
    (alone : Alone shared pool next) (kept : ContentsKept shared pool) :
    ContentsKept shared next := by
  cases moves with
  | @begin id begun program atRest offered =>
      obtain ⟨_, rfl⟩ := offered
      refine ⟨kept.part, ?_, kept.installed⟩
      intro other program running
      by_cases same : other = id
      · subst same
        obtain rfl : shared.run other = program := by simpa using running
        exact wlp_run other kept.part
      · simp only [Function.update_of_ne same] at running
        exact kept.owed other program running
  | @call id op continues reply after calling answered =>
      have owed := kept.owed id _ calling
      obtain ⟨part, installed⟩ := kept_of_answers kept.part kept.installed owed.1 answered
      refine ⟨part, ?_, installed⟩
      intro other program running
      by_cases same : other = id
      · subst same
        obtain rfl : continues reply = program := by simpa using running
        exact owed.2 reply _ (answers_viewOf answered)
      · have stays : Function.update pool.activity id (.running (continues reply)) other =
            pool.activity other := Function.update_of_ne same ..
        have before : pool.activity other = .running program := stays.symm.trans running
        by_cases sameFiles : after.disk.file = pool.world.disk.file
        · rw [viewOf_other answered same sameFiles]
          exact kept.owed other program before
        · have idle : ¬ AtWork shared pool other := fun atWork =>
            alone sameFiles other atWork stays
          exact wlp_not_atWork before idle part
  | @finish id begun returned =>
      refine ⟨kept.part, ?_, kept.installed⟩
      intro other program running
      by_cases same : other = id
      · subst same
        simp at running
      · simp only [Function.update_of_ne same] at running
        exact kept.owed other program running
  | environment moved => exact moved.elim

/-- Where no file changes while another run is at work, every run that ends `Completed`
has installed the content. -/
theorem completed_installs_content (shared : SharedDownload) (disk : Disk)
    (begins : PartOf shared.content shared.part disk.file) {pool : SharedPool}
    (run : AloneRun shared disk pool) (id : Nat)
    (completed : (pool.world.handles id).phase = .completed) :
    pool.world.installed id = some shared.content := by
  have kept : ContentsKept shared pool := by
    clear completed
    induction run with
    | refl =>
        refine ⟨begins, ?_, ?_⟩
        · intro id program running
          cases running
        · intro id completed
          cases completed
    | tail _ step inductionHypothesis => exact ContentsKept.step step.1 step.2 inductionHypothesis
  exact kept.installed id completed

end Runs

/-! ## Two runs -/

/-- A server that announces no length and delivers the content at once. -/
def serveWhole (content : List UInt8) : (op : OutsideOp) → Connection → op.Reply × Connection
  | .get _ _, _ => (.ok ⟨200, none, none⟩, { body := content })
  | .read limit, connection =>
      if connection.body.length ≤ limit then (.ok connection.body, { connection with body := [] })
      else (.error (os (.other "broken pipe")), connection)
  | .cancelRequested, connection => (false, connection)

theorem serves_serveWhole (content : List UInt8) (op : OutsideOp) (connection : Connection) :
    Serves content connection op (serveWhole content op connection).1
      (serveWhole content op connection).2 := by
  cases op with
  | get url first => cases first <;> simp [Serves, serveWhole, Response.length]
  | read limit =>
      by_cases fits : connection.body.length ≤ limit
      · simpa [Serves, serveWhole, fits] using Or.inl
      · simp [Serves, serveWhole, fits]
  | cancelRequested => rfl

/-- What the world answers to a run of this server. -/
def SharedWorld.answer (shared : SharedDownload) (id : Nat) :
    (op : DownloadOp) → SharedWorld → op.Reply × SharedWorld
  | .store op, world =>
      ((op.apply shared.tool world.disk).1,
        { world with disk := (op.apply shared.tool world.disk).2 })
  | .outside op, world =>
      ((serveWhole shared.content.bytes op (world.connections id)).1,
        { world with
          connections := Function.update world.connections id
            (serveWhole shared.content.bytes op (world.connections id)).2 })
  | .handle op, world =>
      ((op.apply (world.handles id)).1,
        { world with
          handles := Function.update world.handles id (op.apply (world.handles id)).2
          installed := installedAt shared world id op })

theorem answers_answer (shared : SharedDownload) (id : Nat) (op : DownloadOp)
    (world : SharedWorld) :
    world.Answers shared id op (world.answer shared id op).1 (world.answer shared id op).2 := by
  cases op with
  | store op => exact ⟨_, rfl, rfl⟩
  | outside op => exact ⟨_, serves_serveWhole _ op _, rfl⟩
  | handle op => exact ⟨_, rfl, rfl⟩

/-- The bytes of a GGUF file without metadata and tensors. -/
def sampleBytes : List UInt8 :=
  [71, 71, 85, 70, 3, 0, 0, 0, 0, 0, 0, 0, 0, 0, 0, 0, 0, 0, 0, 0, 0, 0, 0, 0]

private theorem sampleBytes_fits : sampleBytes.length < 2 ^ 63 := by decide

/-- Downloads of this file into an empty models directory. -/
def sampleShared : SharedDownload where
  root := ["downloads"]
  modelsDir := ["models"]
  stableHash := fun _ => 1
  processId := 1
  nanos := fun id => id
  url := "https://host/m"
  fileName := "m"
  expectedSizeBytes := fun _ => none
  urls := {
    parse := fun text => .ok { scheme := "https", host := some "host", text }
    join := fun base _ => .ok base }
  rounds := fun _ => 2
  tool := {
    hex := fun _ => "a4e5e156ddec27e286f75328784d7106b60a4eb1d246e950a001a3f944fbda99"
    escapes := fun c => c ∈ ['\\', '\n', '\r'] }
  content := ⟨sampleBytes, sampleBytes_fits⟩

def sampleDisk : Disk :=
  ((Disk.createDir DirTree.root ["models"]).2.createDir ["downloads"]).2

/-- The first run has opened the part file, and shown its length. -/
def firstOpened : Prog DownloadOp DownloadOp.Reply Bool × SharedWorld :=
  (sampleShared.run 0).advance (SharedWorld.answer sampleShared 0) 3 { disk := sampleDisk }

/-- The second run has written all it received. -/
def secondWrote : Prog DownloadOp DownloadOp.Reply Bool × SharedWorld :=
  (sampleShared.run 1).advance (SharedWorld.answer sampleShared 1) 8 firstOpened.2

/-- The first run has ended. -/
def firstEnded : Prog DownloadOp DownloadOp.Reply Bool × SharedWorld :=
  firstOpened.1.advance (SharedWorld.answer sampleShared 0) 100 secondWrote.2

/-- The world answers the next call of a run. -/
private theorem moves_answer (shared : SharedDownload) (id : Nat)
    (activity : Nat → Activity DownloadOp DownloadOp.Reply Bool) (world : SharedWorld)
    (op : DownloadOp) (next : op.Reply → Prog DownloadOp DownloadOp.Reply Bool) :
    (sharedSystem shared).Moves
      ⟨world, Function.update activity id (.running (.call op next))⟩
      ⟨(world.answer shared id op).2,
        Function.update activity id (.running (next (world.answer shared id op).1))⟩ := by
  have calling : Function.update activity id (.running (.call op next)) id =
      .running (.call op next) := Function.update_self ..
  have moves : (sharedSystem shared).Moves
      ⟨world, Function.update activity id (.running (.call op next))⟩ _ :=
    .call calling (answers_answer shared id op world)
  simpa only [Function.update_idem] using moves

/-- Two runs that append to one part file: the first ends `Completed` and has installed the
content twice over. -/
theorem completed_installs_twice :
    ∃ pool, (sharedSystem sampleShared).Reachable (freshPool sampleDisk) pool ∧
      (pool.world.handles 0).phase = .completed ∧
      pool.world.installed 0 ≠ some sampleShared.content := by
  have answered := moves_answer sampleShared
  have begun : (sharedSystem sampleShared).Reachable (freshPool sampleDisk)
      (freshPool sampleDisk) := .refl
  have first := begun.begin 0 (sampleShared.run 0) rfl ⟨rfl, rfl⟩
  have opened : (sharedSystem sampleShared).Reachable (freshPool sampleDisk) _ :=
    first.trans (Pool.advance _ 0 _ (answered 0 _) 3 _ _)
  have second := opened.begin 1 (sampleShared.run 1) rfl ⟨rfl, rfl⟩
  have wrote := second.trans (Pool.advance _ 1 _ (answered 1 _) 8 _ _)
  rw [Function.update_comm (by decide)] at wrote
  have ended := wrote.trans (Pool.advance _ 0 _ (answered 0 _) 100 _ _)
  have completed : (firstEnded.2.handles 0).phase = .completed := by decide +kernel
  have twice : firstEnded.2.installed 0 ≠ some sampleShared.content := by decide +kernel
  exact ⟨⟨firstEnded.2, _⟩, ended, completed, twice⟩

/-- The only run so far. -/
def onlyEnded : Prog DownloadOp DownloadOp.Reply Bool × SharedWorld :=
  (sampleShared.run 0).advance (SharedWorld.answer sampleShared 0) 100 { disk := sampleDisk }

private theorem alone_single {id : Nat} {op : DownloadOp}
    {next : op.Reply → Prog DownloadOp DownloadOp.Reply Bool} {world after : SharedWorld}
    {reply : op.Reply} :
    Alone sampleShared
      ⟨world, Function.update (freshPool sampleDisk).activity id (.running (.call op next))⟩
      ⟨after, Function.update (freshPool sampleDisk).activity id (.running (next reply))⟩ := by
  intro _ other atWork same
  obtain ⟨program, running, _⟩ := atWork
  by_cases isOnly : other = id
  · subst isOnly
    simp only [Function.update_self, Activity.running.injEq] at same
    exact Prog.next_ne op next reply same
  · simp only [Function.update_of_ne isOnly] at running
    cases running

/-- A run that no other joins installs the content. -/
theorem completed_installs_content_single :
    ∃ pool, AloneRun sampleShared sampleDisk pool ∧
      (pool.world.handles 0).phase = .completed ∧
      pool.world.installed 0 = some sampleShared.content := by
  have begun : AloneRun sampleShared sampleDisk (freshPool sampleDisk) := .refl
  have begins : (sharedSystem sampleShared).Moves (freshPool sampleDisk) _ :=
    .begin (rfl : (freshPool sampleDisk).activity 0 = .resting false) ⟨rfl, rfl⟩
  have first : AloneRun sampleShared sampleDisk _ :=
    begun.tail ⟨begins, fun changed => absurd rfl changed⟩
  have ended : AloneRun sampleShared sampleDisk _ :=
    first.trans (Pool.advance (SharedWorld.answer sampleShared 0) 0 _
      (fun world op next => ⟨moves_answer sampleShared 0 _ world op next, alone_single⟩) 100 _ _)
  have completed : (onlyEnded.2.handles 0).phase = .completed := by decide +kernel
  have empty : PartOf sampleShared.content sampleShared.part sampleDisk.file := by
    intro found isFile
    have missing : sampleDisk.file sampleShared.part = none := by decide +kernel
    rw [missing] at isFile
    cases isFile
  exact ⟨⟨onlyEnded.2, _⟩, ended, completed,
    completed_installs_content sampleShared sampleDisk empty ended 0 completed⟩

end TriAI.Download
