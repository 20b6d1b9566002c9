import TriAI.Catalog.Soundness
import TriAI.Download.Client

/-!
Contract: rescans of the model catalogue that run side by side.

Owns: `rescan_and_apply` with the scan and the write as separate steps, the rescan a
completed download triggers, the route of a manual rescan, and their interleavings with
changes of the file system; and which completed downloads the stored catalogue contains
when no rescan is running.

Does not own: the scan itself (`Catalog.Sources`), which sees the file system of one
moment here, and the download up to its outcome (`Download.Client`).
-/

set_option autoImplicit false

namespace TriAI.Catalog

open TriAI.Download (DownloadPhase)
open TriAI.Library.FileTree
open TriAI.Library.Interaction
open TriAI.Storage

/-! ## Rescans -/

inductive RescanOp where
  /-- `rescan_in_progress.swap(true)`. -/
  | swapInProgress
  /-- `rescan_in_progress.store(false)`. -/
  | clearInProgress
  | scan
  /-- `*catalog.write() = catalog`; the code does not know when it was scanned. -/
  | writeCatalog (catalog : ModelCatalog) (scannedAt : Nat)
  /-- `try_download`, up to the phase it leaves. -/
  | tryDownload

@[reducible] def RescanOp.Reply : RescanOp → Type
  | .swapInProgress => Bool
  | .scan => CatalogScan × Nat
  | .tryDownload => DownloadPhase
  | .clearInProgress | .writeCatalog _ _ => Unit

abbrev RescanProg (α : Type) : Type := Prog RescanOp RescanOp.Reply α

/-- `rescan_and_apply`. -/
def rescanAndApply : RescanProg (Nat × List String) := do
  let scanned : CatalogScan × Nat ← Prog.perform RescanOp.scan
  let modelCount := scanned.1.catalog.entries.keys.card
  let _ ← Prog.perform (RescanOp.writeCatalog scanned.1.catalog scanned.2)
  pure (modelCount, scanned.1.warnings)

/-- `rescan_catalog_if_download_completed`. -/
def rescanCatalogIfDownloadCompleted (phase : DownloadPhase) : RescanProg Unit :=
  if phase ≠ .completed then pure ()
  else do
    let _ ← rescanAndApply
    pure ()

/-- `run_download`, as far as the catalogue is concerned. -/
def runDownload : RescanProg Unit := do
  let phase : DownloadPhase ← Prog.perform RescanOp.tryDownload
  rescanCatalogIfDownloadCompleted phase

/-- The request `RescanModels`, with the thread it starts. -/
def rescanModels : RescanProg Unit := do
  let alreadyRunning : Bool ← Prog.perform RescanOp.swapInProgress
  if alreadyRunning then pure ()
  else do
    let _ ← rescanAndApply
    Prog.perform RescanOp.clearInProgress

/-! ## Interleavings -/

/-- A completed download: its file in the models directory, and the number of downloads
completed by then. -/
structure CompletedDownload where
  fileName : String
  path : Path
  content : ByteVec
  time : Nat

/-- The file is there, and a scan of the models directory lists, resolves and hashes it. -/
structure CompletedDownload.Found (download : CompletedDownload) (host : ModelHost)
    (modelsDir : Path) : Prop where
  listed : ∃ models model, host.ggufModels modelsDir = .ok models ∧ model ∈ models ∧
    model.relativePath = download.fileName
  resolved : host.resolveUnder modelsDir download.fileName = .ok (some download.path)
  content : host.content download.path = some download.content
  hashed : ∃ digest, sha256File host download.path = .ok digest

/-- The catalogue has an entry for the content which lists the file. -/
def Contains (tool : Sha256sum) (download : CompletedDownload) (catalog : ModelCatalog) : Prop :=
  ∃ entry, catalog.entries.lookup ("sha256:" ++ tool.hex download.content.bytes) = some entry ∧
    ⟨.directGguf, download.path⟩ ∈ entry.locations

/-- What the threads share; and what the statements about it remember: the number of completed
downloads, those of them whose file has been found unchanged since, and when the stored
catalogue was scanned. -/
structure RescanWorld where
  host : ModelHost
  catalog : ModelCatalog := {}
  inProgress : Bool := false
  clock : Nat := 0
  scannedAt : Nat := 0
  completed : Set CompletedDownload := ∅

section Semantics

variable (config : SourceConfig)

/-- The file system changes. -/
def RescanWorld.moveTo (world : RescanWorld) (host : ModelHost) : RescanWorld :=
  { world with
    host
    completed := { download ∈ world.completed | download.Found host config.modelsDir } }

/-- A download has installed its file. -/
def RescanWorld.complete (world : RescanWorld) (host : ModelHost) (fileName : String)
    (path : Path) (content : ByteVec) : RescanWorld :=
  let counted : RescanWorld := { world with
    clock := world.clock + 1
    completed := insert ⟨fileName, path, content, world.clock + 1⟩ world.completed }
  counted.moveTo config host

def RescanWorld.Answers (world : RescanWorld) :
    (op : RescanOp) → op.Reply → RescanWorld → Prop
  | .swapInProgress, before, after =>
      before = world.inProgress ∧ after = { world with inProgress := true }
  | .clearInProgress, _, after => after = { world with inProgress := false }
  | .scan, reply, after => reply = (scan world.host config, world.clock) ∧ after = world
  | .writeCatalog catalog scannedAt, _, after => after = { world with catalog, scannedAt }
  | .tryDownload, .completed, after =>
      ∃ host fileName path content, host.sha256sum = world.host.sha256sum ∧
        after = world.complete config host fileName path content
  | .tryDownload, _, after => after = world

/-- Any number of threads, each of which may serve a rescan or run a download any number
of times, on a file system that others change. -/
def rescanSystem : System Nat RescanOp RescanOp.Reply Unit RescanWorld where
  Offers := fun _ _ program => program = rescanModels ∨ program = runDownload
  Step := fun _ world => world.Answers config
  Environment := fun world after =>
    ∃ host, host.sha256sum = world.host.sha256sum ∧ after = world.moveTo config host

end Semantics

abbrev RescanPool : Type := Pool Nat RescanOp RescanOp.Reply Unit RescanWorld

/-- Before any rescan, with any catalogue. -/
def idlePool (host : ModelHost) (catalog : ModelCatalog) : RescanPool where
  world := { host, catalog }
  activity := fun _ => .resting ()

/-- No scan from before a completion is stored in place of one from after it. -/
def InOrder (world : RescanWorld) : (op : RescanOp) → op.Reply → RescanWorld → Prop
  | .writeCatalog _ scannedAt, _, _ =>
      ∀ download ∈ world.completed, download.time ≤ world.scannedAt → download.time ≤ scannedAt
  | _, _, _ => True

/-! ## What a scan contains -/

section Scans

variable {host : ModelHost} {tool : Sha256sum} {download : CompletedDownload}

/-- An addition keeps what the catalogue contains. -/
theorem Contains.add {catalog next : ModelCatalog} {source : SourceKind} {path : Path}
    {ollamaName : Option String} {metadata : CatalogMetadata}
    (contains : Contains tool download catalog)
    (added : catalog.add source path ollamaName metadata = .ok next) :
    Contains tool download next := by
  obtain ⟨entry, found, listed⟩ := contains
  obtain ⟨digest, _, entries⟩ := add_eq_ok added
  by_cases same : "sha256:" ++ tool.hex download.content.bytes = digest
  · rw [← same] at entries
    refine ⟨_, by rw [entries, Finmap.lookup_insert], ?_⟩
    rw [found]
    exact Finset.mem_insert_of_mem listed
  · exact ⟨entry, by rw [entries, Finmap.lookup_insert_of_ne _ same, found], listed⟩

/-- The addition of a file lists it. -/
theorem contains_scanGgufModel (lawful : host.sha256sum.Lawful) {modelsDir : Path}
    {model : GgufModel} {result : CatalogScan} (found : download.Found host modelsDir)
    (names : model.relativePath = download.fileName) :
    Contains host.sha256sum download
      (scanGgufModel host modelsDir .directGguf result model).catalog := by
  obtain ⟨digest, hashed⟩ := found.hashed
  obtain ⟨content, isContent, rfl⟩ := sha256File_eq_ok lawful hashed
  obtain rfl := Option.some.inj (found.content.symm.trans isContent)
  unfold scanGgufModel
  rw [names, found.resolved]
  simp only [hashed, addFile, ModelCatalog.addDirectGguf, ModelCatalog.add, metadataForFile_digest,
    normalizeSha256_digestOf lawful]
  refine ⟨_, Finmap.lookup_insert _, ?_⟩
  exact Finset.mem_insert_self _ _

/-- A scan contains every file it finds. -/
theorem contains_scan (lawful : host.sha256sum.Lawful) (config : SourceConfig)
    (found : download.Found host config.modelsDir) :
    Contains host.sha256sum download (scan host config).catalog := by
  have adds : ∀ catalog (source : SourceKind) path name metadata next,
      Contains host.sha256sum download catalog →
      catalog.add source path name metadata = .ok next →
      Contains host.sha256sum download next :=
    fun _ _ _ _ _ _ contains added => contains.add added
  apply scan_keeps_direct config
  · exact fun source catalog path _ _ name next contains _ added =>
      adds catalog source path name _ next contains added
  · exact fun _ catalog _ _ _ next contains added =>
      adds catalog .ollama _ _ _ next contains added
  · obtain ⟨models, model, listed, member, names⟩ := found.listed
    obtain ⟨before, after, rfl⟩ := List.append_of_mem member
    unfold scanGgufRoot
    rw [listed]
    simp only [List.foldl_append, List.foldl_cons]
    apply CatalogScan.foldl_keeps
    · intro result other contains
      apply scanGgufModel_keeps _ contains
      intro catalog path digest size name next contains _ added
      exact adds catalog .directGguf path name _ next contains added
    · exact contains_scanGgufModel lawful found names

end Scans

/-! ## What a thread owes -/

/-- The completion whose file a thread has to bring into the catalogue, or 0, and the
scan it holds. -/
structure RescanView where
  due : Nat := 0
  held : Option (ModelCatalog × Nat) := none

/-- A thread stores the scan it holds, and that scan is not from before its own
download. -/
def rescanContract : Contract RescanOp RescanOp.Reply RescanView where
  Admits := fun view op =>
    match op with
    | .writeCatalog catalog scannedAt =>
        view.held = some (catalog, scannedAt) ∧ view.due ≤ scannedAt
    | .tryDownload => view.due = 0
    | _ => True
  Answers := fun view op reply after =>
    match op, reply with
    | .scan, scanned =>
        view.due ≤ scanned.2 ∧ after = { view with held := some (scanned.1.catalog, scanned.2) }
    | .writeCatalog _ _, _ => after = {}
    | .tryDownload, .completed => ∃ time, after = { due := time }
    | _, _ => after = view

theorem wlp_rescanAndApply (view : RescanView) :
    wlp rescanContract rescanAndApply (fun _ after => after = {}) view := by
  refine ⟨trivial, ?_⟩
  rintro scanned _ ⟨fresh, rfl⟩
  refine ⟨⟨rfl, fresh⟩, ?_⟩
  rintro _ _ rfl
  rfl

theorem wlp_rescanModels {view : RescanView} (idle : view.due = 0) :
    wlp rescanContract rescanModels (fun _ after => after.due = 0) view := by
  refine ⟨trivial, ?_⟩
  rintro alreadyRunning _ rfl
  cases alreadyRunning with
  | true => exact idle
  | false =>
      apply wlp_seq (wlp_rescanAndApply _)
      rintro _ _ rfl
      refine ⟨trivial, ?_⟩
      rintro _ _ rfl
      rfl

theorem wlp_runDownload {view : RescanView} (idle : view.due = 0) :
    wlp rescanContract runDownload (fun _ after => after.due = 0) view := by
  refine ⟨idle, ?_⟩
  intro phase after answered
  cases phase with
  | completed =>
      apply wlp_seq (wlp_rescanAndApply _)
      rintro _ _ rfl
      rfl
  | downloading =>
      obtain rfl := answered
      exact idle
  | verifying =>
      obtain rfl := answered
      exact idle
  | failed =>
      obtain rfl := answered
      exact idle
  | cancelled =>
      obtain rfl := answered
      exact idle

/-- How the shared world agrees with what the threads owe: every completed download is in
the catalogues scanned since, and is in the stored one or owed by a thread. -/
structure RescanConsistent (tool : Sha256sum) (config : SourceConfig) (world : RescanWorld)
    (views : Nat → RescanView) : Prop where
  isTool : world.host.sha256sum = tool
  found : ∀ download ∈ world.completed, download.Found world.host config.modelsDir
  counted : ∀ download ∈ world.completed, 0 < download.time ∧ download.time ≤ world.clock
  stored : ∀ download ∈ world.completed, download.time ≤ world.scannedAt →
    Contains tool download world.catalog
  scannedAt : world.scannedAt ≤ world.clock
  held : ∀ id catalog scannedAt, (views id).held = some (catalog, scannedAt) →
    scannedAt ≤ world.clock ∧ ∀ download ∈ world.completed, download.time ≤ scannedAt →
      Contains tool download catalog
  due : ∀ id, (views id).due ≤ world.clock
  brought : ∀ download ∈ world.completed, download.time ≤ world.scannedAt ∨
    ∃ id, (views id).due = download.time

section Steps

variable {tool : Sha256sum} {config : SourceConfig} {world : RescanWorld}
  {views : Nat → RescanView}

/-- The file system may change: what is not found any more is not counted. -/
theorem RescanConsistent.moveTo (consistent : RescanConsistent tool config world views)
    {host : ModelHost} (sameTool : host.sha256sum = world.host.sha256sum) :
    RescanConsistent tool config (world.moveTo config host) views where
  isTool := sameTool.trans consistent.isTool
  found := fun _ member => member.2
  counted := fun download member => consistent.counted download member.1
  stored := fun download member => consistent.stored download member.1
  scannedAt := consistent.scannedAt
  held := by
    intro id catalog scannedAt holds
    obtain ⟨before, contains⟩ := consistent.held id catalog scannedAt holds
    exact ⟨before, fun download member => contains download member.1⟩
  due := consistent.due
  brought := fun download member => consistent.brought download member.1

/-- A thread whose view does not change. -/
theorem RescanConsistent.sameView (consistent : RescanConsistent tool config world views)
    (id : Nat) : RescanConsistent tool config world (Function.update views id (views id)) := by
  rw [Function.update_eq_self]
  exact consistent

/-- A scan contains what is found when it is made. -/
theorem RescanConsistent.scanned (lawful : tool.Lawful)
    (consistent : RescanConsistent tool config world views) (id : Nat) :
    RescanConsistent tool config world (Function.update views id
      { views id with held := some ((scan world.host config).catalog, world.clock) }) := by
  have lawful : world.host.sha256sum.Lawful := consistent.isTool ▸ lawful
  have dues : ∀ other, (Function.update views id
      { views id with held := some ((scan world.host config).catalog, world.clock) } other).due =
        (views other).due := by
    intro other
    by_cases same : other = id
    · rw [same, Function.update_self]
    · rw [Function.update_of_ne same]
  refine ⟨consistent.isTool, consistent.found, consistent.counted, consistent.stored,
    consistent.scannedAt, ?_, ?_, ?_⟩
  · intro other catalog scannedAt holds
    by_cases same : other = id
    · rw [same, Function.update_self] at holds
      obtain ⟨rfl, rfl⟩ := Prod.mk.inj (Option.some.inj holds)
      refine ⟨le_rfl, ?_⟩
      intro download member _
      rw [← consistent.isTool]
      exact contains_scan lawful config (consistent.found download member)
    · rw [Function.update_of_ne same] at holds
      exact consistent.held other catalog scannedAt holds
  · intro other
    rw [dues]
    exact consistent.due other
  · intro download member
    rcases consistent.brought download member with already | ⟨other, due⟩
    · exact .inl already
    · exact .inr ⟨other, by rw [dues, due]⟩

/-- A scan is stored in order. -/
theorem RescanConsistent.write (consistent : RescanConsistent tool config world views)
    {id : Nat} {catalog : ModelCatalog} {scannedAt : Nat}
    (holds : (views id).held = some (catalog, scannedAt)) (fresh : (views id).due ≤ scannedAt)
    (inOrder : ∀ download ∈ world.completed, download.time ≤ world.scannedAt →
      download.time ≤ scannedAt) :
    RescanConsistent tool config { world with catalog, scannedAt }
      (Function.update views id {}) := by
  obtain ⟨before, contains⟩ := consistent.held id catalog scannedAt holds
  refine ⟨consistent.isTool, consistent.found, consistent.counted, contains, before, ?_, ?_, ?_⟩
  · intro other held heldAt otherHolds
    by_cases same : other = id
    · rw [same, Function.update_self] at otherHolds
      cases otherHolds
    · rw [Function.update_of_ne same] at otherHolds
      exact consistent.held other held heldAt otherHolds
  · intro other
    by_cases same : other = id
    · rw [same, Function.update_self]
      exact Nat.zero_le _
    · rw [Function.update_of_ne same]
      exact consistent.due other
  · intro download member
    rcases consistent.brought download member with already | ⟨other, due⟩
    · exact .inl (inOrder download member already)
    · by_cases same : other = id
      · rw [same] at due
        exact .inl (due ▸ fresh)
      · refine .inr ⟨other, ?_⟩
        rw [Function.update_of_ne same]
        exact due

/-- A download completes, and its thread owes a rescan. -/
theorem RescanConsistent.complete (consistent : RescanConsistent tool config world views)
    {id : Nat} (idle : (views id).due = 0) {host : ModelHost}
    (sameTool : host.sha256sum = world.host.sha256sum) (fileName : String) (path : Path)
    (content : ByteVec) :
    RescanConsistent tool config (world.complete config host fileName path content)
      (Function.update views id { due := world.clock + 1 }) where
  isTool := sameTool.trans consistent.isTool
  found := fun _ member => member.2
  counted := by
    rintro download ⟨rfl | member, _⟩
    · exact ⟨Nat.succ_pos _, le_rfl⟩
    · obtain ⟨positive, before⟩ := consistent.counted download member
      exact ⟨positive, Nat.le_succ_of_le before⟩
  stored := by
    rintro download ⟨rfl | member, _⟩ before
    · exact absurd (before.trans consistent.scannedAt) (Nat.not_succ_le_self _)
    · exact consistent.stored download member before
  scannedAt := Nat.le_succ_of_le consistent.scannedAt
  held := by
    intro other catalog scannedAt holds
    by_cases same : other = id
    · rw [same, Function.update_self] at holds
      cases holds
    · rw [Function.update_of_ne same] at holds
      obtain ⟨earlier, contains⟩ := consistent.held other catalog scannedAt holds
      refine ⟨Nat.le_succ_of_le earlier, ?_⟩
      rintro download ⟨rfl | member, _⟩ before
      · exact absurd (before.trans earlier) (Nat.not_succ_le_self _)
      · exact contains download member before
  due := by
    intro other
    by_cases same : other = id
    · rw [same, Function.update_self]
      exact le_rfl
    · rw [Function.update_of_ne same]
      exact Nat.le_succ_of_le (consistent.due other)
  brought := by
    rintro download ⟨rfl | member, _⟩
    · exact .inr ⟨id, by rw [Function.update_self]⟩
    · rcases consistent.brought download member with already | ⟨other, due⟩
      · exact .inl already
      · by_cases same : other = id
        · rw [same, idle] at due
          have positive := (consistent.counted download member).1
          omega
        · exact .inr ⟨other, by rw [Function.update_of_ne same, due]⟩

end Steps

/-- Step lemma: in a run whose scans are stored in order, the threads keep what they owe. -/
theorem rescanSystem_respects {tool : Sha256sum} (lawful : tool.Lawful) (config : SourceConfig) :
    ((rescanSystem config).restrict InOrder).Respects rescanContract
      (fun (_ : Unit) view => view.due = 0) (RescanConsistent tool config) where
  offered := by
    rintro id state program view idle (rfl | rfl)
    · exact wlp_rescanModels idle
    · exact wlp_runDownload idle
  step := by
    rintro id world views op reply after consistent admitted ⟨answered, inOrder⟩
    cases op with
    | swapInProgress =>
        obtain ⟨_, rfl⟩ := answered
        have same := consistent.sameView id
        exact ⟨views id, rfl, ⟨same.isTool, same.found, same.counted, same.stored, same.scannedAt,
          same.held, same.due, same.brought⟩⟩
    | clearInProgress =>
        obtain rfl := answered
        have same := consistent.sameView id
        exact ⟨views id, rfl, ⟨same.isTool, same.found, same.counted, same.stored, same.scannedAt,
          same.held, same.due, same.brought⟩⟩
    | scan =>
        obtain ⟨rfl, rfl⟩ := answered
        exact ⟨_, ⟨consistent.due id, rfl⟩, consistent.scanned lawful id⟩
    | writeCatalog catalog scannedAt =>
        obtain rfl := answered
        exact ⟨{}, rfl, consistent.write admitted.1 admitted.2 inOrder⟩
    | tryDownload =>
        cases reply with
        | completed =>
            obtain ⟨host, fileName, path, content, sameTool, rfl⟩ := answered
            exact ⟨_, ⟨world.clock + 1, rfl⟩,
              consistent.complete admitted sameTool fileName path content⟩
        | downloading =>
            obtain rfl := answered
            exact ⟨views id, rfl, consistent.sameView id⟩
        | verifying =>
            obtain rfl := answered
            exact ⟨views id, rfl, consistent.sameView id⟩
        | failed =>
            obtain rfl := answered
            exact ⟨views id, rfl, consistent.sameView id⟩
        | cancelled =>
            obtain rfl := answered
            exact ⟨views id, rfl, consistent.sameView id⟩
  environment := by
    rintro world views after consistent ⟨host, sameTool, rfl⟩
    exact consistent.moveTo sameTool

/-- In every run whose scans are stored in order: when no rescan is running, the stored
catalogue contains every completed download whose file has been found unchanged since. -/
theorem rescan_notLost (host : ModelHost) (lawful : host.sha256sum.Lawful)
    (config : SourceConfig) (catalog : ModelCatalog) {pool : RescanPool}
    (reachable : ((rescanSystem config).restrict InOrder).Reachable (idlePool host catalog) pool)
    (finished : ∀ id, pool.activity id = .resting ()) :
    ∀ download ∈ pool.world.completed,
      Contains host.sha256sum download pool.world.catalog := by
  have initially : (idlePool host catalog).Safe rescanContract (fun (_ : Unit) view => view.due = 0)
      (RescanConsistent host.sha256sum config) := by
    refine ⟨fun _ => {}, ?_, fun _ => rfl⟩
    exact {
      isTool := rfl
      found := fun _ member => member.elim
      counted := fun _ member => member.elim
      stored := fun _ member => member.elim
      scannedAt := le_rfl
      held := fun _ _ _ holds => by cases holds
      due := fun _ => le_rfl
      brought := fun _ member => member.elim }
  obtain ⟨views, consistent, meets⟩ :=
    System.Reachable.safe (rescanSystem_respects lawful config) reachable initially
  intro download member
  apply consistent.stored download member
  rcases consistent.brought download member with already | ⟨id, due⟩
  · exact already
  · have idle : (views id).due = 0 := by
      have owed := meets id
      rw [finished id] at owed
      exact owed
    have positive := (consistent.counted download member).1
    omega

/-! ## Two runs -/

/-- A host with an empty models directory, and a host with a GGUF file in it. -/
def emptyHost : ModelHost :=
  { hostWithLayers [] with
    content := fun _ => none
    ggufModels := fun _ => .ok []
    regularFilesUnder := fun _ => .ok [] }

def filledHost : ModelHost := hostWithLayers []

/-- The download of that file, completed first. -/
def firstDownload : CompletedDownload where
  fileName := "a.gguf"
  path := ["models", "a.gguf"]
  content := emptyGguf
  time := 1

theorem firstDownload_found : firstDownload.Found filledHost ollamaConfig.modelsDir where
  listed := ⟨_, _, rfl, List.mem_singleton.mpr rfl, rfl⟩
  resolved := rfl
  content := rfl
  hashed := ⟨"sha256:" ++ emptyGgufHex, by decide +kernel⟩

/-- A world whose first download completes. -/
def withFirstDownload (world : RescanWorld) : RescanWorld :=
  world.complete ollamaConfig filledHost "a.gguf" ["models", "a.gguf"] emptyGguf

/-- A manual rescan that scans before a download completes, and stores its scan after
the rescan of the download: the model is missing when all have finished. -/
theorem rescan_lost :
    ∃ pool, (rescanSystem ollamaConfig).Reachable (idlePool emptyHost {}) pool ∧
      (∀ id, pool.activity id = .resting ()) ∧ firstDownload ∈ pool.world.completed ∧
      ¬ Contains emptyHost.sha256sum firstDownload pool.world.catalog := by
  have begun : (rescanSystem ollamaConfig).Reachable (idlePool emptyHost {})
      (idlePool emptyHost {}) := .refl
  have manual := begun.begin 0 rescanModels rfl (.inl rfl)
  have swapped := manual.call 0 rfl false { host := emptyHost, inProgress := true } ⟨rfl, rfl⟩
  have scanned := swapped.call 0 rfl ({}, 0) { host := emptyHost, inProgress := true } ⟨rfl, rfl⟩
  have download := scanned.begin 1 runDownload rfl (.inr rfl)
  have completed := download.call 1 rfl .completed
    (withFirstDownload { host := emptyHost, inProgress := true })
    ⟨filledHost, "a.gguf", ["models", "a.gguf"], emptyGguf, rfl, rfl⟩
  have rescanned := completed.call 1 rfl (scan filledHost ollamaConfig, 1)
    (withFirstDownload { host := emptyHost, inProgress := true }) ⟨rfl, rfl⟩
  have stored := rescanned.call 1 rfl () _ rfl
  have returned := stored.finish 1 rfl
  have overwritten := returned.call 0 rfl ()
    { withFirstDownload { host := emptyHost, inProgress := true } with catalog := {} } rfl
  have cleared := overwritten.call 0 rfl ()
    { withFirstDownload { host := emptyHost, inProgress := false } with catalog := {} } rfl
  have finished := cleared.finish 0 rfl
  refine ⟨_, finished, ?_, ⟨.inl rfl, firstDownload_found⟩, ?_⟩
  · intro id
    match id with
    | 0 => rfl
    | 1 => rfl
    | _ + 2 => rfl
  · rintro ⟨entry, found, _⟩
    cases found

/-- The same download without another rescan is in the catalogue. -/
theorem rescan_notLost_single :
    ∃ pool, ((rescanSystem ollamaConfig).restrict InOrder).Reachable (idlePool emptyHost {}) pool ∧
      (∀ id, pool.activity id = .resting ()) ∧ firstDownload ∈ pool.world.completed ∧
      Contains emptyHost.sha256sum firstDownload pool.world.catalog := by
  have begun : ((rescanSystem ollamaConfig).restrict InOrder).Reachable (idlePool emptyHost {})
      (idlePool emptyHost {}) := .refl
  have download := begun.begin 1 runDownload rfl (.inr rfl)
  have completed := download.call 1 rfl .completed (withFirstDownload { host := emptyHost })
    ⟨⟨filledHost, "a.gguf", ["models", "a.gguf"], emptyGguf, rfl, rfl⟩, trivial⟩
  have rescanned := completed.call 1 rfl (scan filledHost ollamaConfig, 1)
    (withFirstDownload { host := emptyHost }) ⟨⟨rfl, rfl⟩, trivial⟩
  have inOrder : ∀ download ∈ (withFirstDownload { host := emptyHost }).completed,
      download.time ≤ 0 → download.time ≤ 1 := fun _ _ before => before.trans (Nat.zero_le 1)
  have stored := rescanned.call 1 rfl ()
    { withFirstDownload { host := emptyHost } with
      catalog := (scan filledHost ollamaConfig).catalog
      scannedAt := 1 } ⟨rfl, inOrder⟩
  have finished := stored.finish 1 rfl
  refine ⟨_, finished, ?_, ⟨.inl rfl, firstDownload_found⟩, ?_⟩
  · intro id
    match id with
    | 0 => rfl
    | 1 => rfl
    | _ + 2 => rfl
  · apply rescan_notLost emptyHost emptyGgufTool_lawful ollamaConfig {} finished
    · intro id
      match id with
      | 0 => rfl
      | 1 => rfl
      | _ + 2 => rfl
    · exact ⟨.inl rfl, firstDownload_found⟩

end TriAI.Catalog
