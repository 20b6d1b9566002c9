import TriAI.Catalog.Model
import TriAI.Library.Json
import TriAI.MiniModel.Model
import TriAI.Persistence.SessionLog
import TriAI.Storage.Calls

/-!
Contract: the configuration of the runner (`config.rs`).

Owns: `Config::load` with `apply_env`, `resolve_paths` and `validate`; what every loaded
configuration satisfies, and that loading has nothing left to do on it.

Does not own: the grammar of TOML, which is a parameter. Paths and values of the environment
are texts.
-/

set_option autoImplicit false

namespace TriAI.Configuration

open TriAI.Catalog (trim)
open TriAI.Library (bind_eq_ok)
open TriAI.Library.TextLines
open TriAI.MiniModel (joinPath)
open TriAI.Persistence (isAsciiAlphanumeric)

/-! ## Paths -/

/-- `Path::is_absolute`. -/
def isAbsolute (path : String) : Bool := path.toList.head? = some '/'

/-- A path from the root. -/
def AbsolutePath : Type := { path : String // isAbsolute path = true }

/-- `absolutize`. -/
def absolutize (base path : String) : String :=
  if isAbsolute path then path else joinPath base path

/-- A path, last character first, without separators and `.` components at its end. -/
def withoutTrailing : List Char → List Char
  | '/' :: rest => withoutTrailing rest
  | '.' :: '/' :: rest => withoutTrailing rest
  | path => path

/-- `Path::parent`, of an absolute path. -/
def parent (path : String) : Option String :=
  match withoutTrailing path.toList.reverse with
  | [] => none
  | last =>
      match withoutTrailing (last.dropWhile (· ≠ '/')) with
      | [] => some "/"
      | front => some (String.ofList front.reverse)

/-! ## The configuration -/

structure ServerConfig where
  listenAddr : String := "127.0.0.1:8900"
  inferenceTimeoutSecs : UInt64 := 120
  authToken : Option String := none
  userId : String := "local-system"
deriving DecidableEq

structure PathConfig where
  projectRoot : String := "."
  modelsDir : Option String := none
  ollamaRoot : Option String := none
  lmStudioRoots : List String := []
  janRoots : List String := []
  stageDir : String := "./staging"
  llamaServer : String := "vendor/bin/llama-cpp/llama-server"
  eventLog : String := "tri-ai-events.jsonl"
deriving DecidableEq

structure WorkerConfig where
  port : UInt16 := 8901
  readinessTimeoutSecs : UInt64 := 60
  defaultContext : UInt32 := 4096
  defaultGpuLayers : UInt32 := 999
deriving DecidableEq

structure ReserveConfig where
  vramMb : UInt64 := 1024
  ramMb : UInt64 := 2048
  ssdMb : UInt64 := 5120
deriving DecidableEq

/-- `Config`; `{}` is `Config::default`. -/
structure Config where
  server : ServerConfig := {}
  paths : PathConfig := {}
  worker : WorkerConfig := {}
  reserves : ReserveConfig := {}
deriving DecidableEq

inductive ConfigError where
  | io (path : String) (source : IoError)
  | toml (path source : String)
  | invalidEnv (name value : String)
  | invalidValue (message : String)
deriving DecidableEq

/-! ## The environment -/

/-- `env::var`, of variables that are texts. -/
abbrev Environment : Type := String → Option String

section Overrides

variable (env : Environment) (name : String)

/-- `override_string` and `override_path`. -/
def overrideString (target : String) : String := (env name).getD target

/-- `override_optional_string` and `override_optional_path`. -/
def overrideOptional (target : Option String) : Option String := (env name).or target

/-- `override_paths`. -/
def overridePaths (target : List String) : List String :=
  match env name with
  | some value => ((value.toList.splitOn ':').map String.ofList).filter (· ≠ "")
  | none => target

/-- `override_number`, of a number below `bound`. -/
def overrideNumber {α : Type} (bound : Nat) (ofNat : Nat → α) (target : α) :
    Except ConfigError α :=
  match env name with
  | none => .ok target
  | some value =>
      match parseUnsigned bound value with
      | some number => .ok (ofNat number)
      | none => .error (.invalidEnv name value)

end Overrides

/-- `Config::apply_env`. -/
def applyEnv (env : Environment) (self : Config) : Except ConfigError Config := do
  let inferenceTimeoutSecs ← overrideNumber env "TRI_AI_INFERENCE_TIMEOUT_SECS" (2 ^ 64)
    UInt64.ofNat self.server.inferenceTimeoutSecs
  let port ← overrideNumber env "TRI_AI_WORKER_PORT" (2 ^ 16) UInt16.ofNat self.worker.port
  let readinessTimeoutSecs ← overrideNumber env "TRI_AI_WORKER_READINESS_TIMEOUT_SECS" (2 ^ 64)
    UInt64.ofNat self.worker.readinessTimeoutSecs
  let defaultContext ← overrideNumber env "TRI_AI_DEFAULT_CONTEXT" (2 ^ 32) UInt32.ofNat
    self.worker.defaultContext
  let defaultGpuLayers ← overrideNumber env "TRI_AI_DEFAULT_GPU_LAYERS" (2 ^ 32) UInt32.ofNat
    self.worker.defaultGpuLayers
  let vramMb ← overrideNumber env "TRI_AI_VRAM_RESERVE_MB" (2 ^ 64) UInt64.ofNat
    self.reserves.vramMb
  let ramMb ← overrideNumber env "TRI_AI_RAM_RESERVE_MB" (2 ^ 64) UInt64.ofNat
    self.reserves.ramMb
  let ssdMb ← overrideNumber env "TRI_AI_SSD_RESERVE_MB" (2 ^ 64) UInt64.ofNat
    self.reserves.ssdMb
  return {
    server := {
      listenAddr := overrideString env "TRI_AI_LISTEN_ADDR" self.server.listenAddr
      inferenceTimeoutSecs
      authToken := overrideOptional env "TRI_AI_AUTH_TOKEN" self.server.authToken
      userId := overrideString env "TRI_AI_USER_ID" self.server.userId }
    paths := {
      projectRoot := overrideString env "TRI_AI_PROJECT_ROOT" self.paths.projectRoot
      modelsDir := overrideOptional env "TRI_AI_MODELS_DIR" self.paths.modelsDir
      ollamaRoot := overrideOptional env "TRI_AI_OLLAMA_ROOT" self.paths.ollamaRoot
      lmStudioRoots := overridePaths env "TRI_AI_LM_STUDIO_ROOTS" self.paths.lmStudioRoots
      janRoots := overridePaths env "TRI_AI_JAN_ROOTS" self.paths.janRoots
      stageDir := overrideString env "TRI_AI_STAGE_DIR" self.paths.stageDir
      llamaServer := overrideString env "TRI_AI_LLAMA_SERVER" self.paths.llamaServer
      eventLog := overrideString env "TRI_AI_EVENT_LOG" self.paths.eventLog }
    worker := { port, readinessTimeoutSecs, defaultContext, defaultGpuLayers }
    reserves := { vramMb, ramMb, ssdMb } }

/-! ## Resolving and checking -/

/-- `Config::resolve_paths`. -/
def resolvePaths (configBase : String) (self : Config) : Config :=
  let projectRoot := absolutize configBase self.paths.projectRoot
  { self with paths := {
      projectRoot
      modelsDir := self.paths.modelsDir.map (absolutize projectRoot)
      ollamaRoot := self.paths.ollamaRoot.map (absolutize projectRoot)
      lmStudioRoots := self.paths.lmStudioRoots.map (absolutize projectRoot)
      janRoots := self.paths.janRoots.map (absolutize projectRoot)
      stageDir := absolutize projectRoot self.paths.stageDir
      llamaServer := absolutize projectRoot self.paths.llamaServer
      eventLog := absolutize projectRoot self.paths.eventLog } }

/-- `str::rsplit_once`, the part before the last separator. -/
def beforeLast (separator : Char) (text : List Char) : Option (List Char) :=
  if separator ∈ text then some (text.reverse.dropWhile (· ≠ separator)).tail.reverse else none

/-- `is_loopback_bind`. -/
def isLoopbackBind (addr : String) : Bool :=
  let host := (beforeLast ':' addr.toList).getD addr.toList
  let isBracket := fun c => c = '[' ∨ c = ']'
  let host := (host.dropWhile isBracket).rdropWhile isBracket
  String.ofList host ∈ ["127.0.0.1", "localhost", "::1"]

/-- The bytes of `server.user_id`. -/
def isUserIdByte (byte : UInt8) : Bool :=
  isAsciiAlphanumeric byte || (utf8Bytes "-_").contains byte

/-- `Ord::clamp`. -/
def clamp (value low high : UInt64) : UInt64 :=
  if value < low then low else if high < value then high else value

/-- `Config::validate`. -/
def validate (self : Config) : Except ConfigError Config :=
  if trim self.server.listenAddr = "" then
    .error (.invalidValue "server.listen_addr darf nicht leer sein")
  else if !isLoopbackBind self.server.listenAddr ∧ self.server.authToken.all (· = "") then
    .error (.invalidValue
      "externe Bind-Adresse benoetigt TRI_AI_AUTH_TOKEN oder server.auth_token")
  else if self.server.userId = "" ∨ 128 < (utf8Bytes self.server.userId).length ∨
      !(utf8Bytes self.server.userId).all isUserIdByte then
    .error (.invalidValue
      "server.user_id darf nur ASCII-Buchstaben, Ziffern, '-' und '_' enthalten")
  else if self.worker.port = 0 then
    .error (.invalidValue "worker.port muss zwischen 1 und 65535 liegen")
  else
    .ok { self with
      server.inferenceTimeoutSecs := clamp self.server.inferenceTimeoutSecs 1 600
      worker.readinessTimeoutSecs := clamp self.worker.readinessTimeoutSecs 1 300
      worker.defaultContext := max self.worker.defaultContext 512 }

/-- What `Config::load` reads. -/
structure Sources where
  env : Environment
  currentDir : Except IoError AbsolutePath
  readToString : String → Except IoError String
  /-- `toml::from_str`. -/
  fromStr : String → Except String Config

/-- The configuration file, and the defaults where there is none and none was asked for. -/
def readConfig (sources : Sources) (absolutePath : String) : Except ConfigError Config :=
  match sources.readToString absolutePath with
  | .ok text => (sources.fromStr text).mapError (.toml absolutePath)
  | .error source =>
      if source = .notFound ∧ sources.env "TRI_AI_CONFIG" = none then .ok {}
      else .error (.io absolutePath source)

/-- `Config::load`. -/
def load (sources : Sources) : Except ConfigError Config := do
  let path := (sources.env "TRI_AI_CONFIG").getD "tri-ai-runner.toml"
  let currentDir ← sources.currentDir.mapError (.io ".")
  let absolutePath := absolutize currentDir.val path
  let configBase := (parent absolutePath).getD currentDir.val
  let config ← readConfig sources absolutePath
  let config ← applyEnv sources.env config
  validate (resolvePaths configBase config)

/-- `Config::models_dir`. -/
def modelsDir (self : Config) : String :=
  self.paths.modelsDir.getD (joinPath self.paths.projectRoot "models")

/-! ## What is loaded -/

/-- All paths of a configuration. -/
def PathConfig.all (paths : PathConfig) : List String :=
  paths.projectRoot :: paths.stageDir :: paths.llamaServer :: paths.eventLog ::
    (paths.modelsDir.toList ++ paths.ollamaRoot.toList ++ paths.lmStudioRoots ++ paths.janRoots)

/-- What `validate` asks of a configuration. -/
structure Accepted (config : Config) : Prop where
  listens : trim config.server.listenAddr ≠ ""
  /-- Beyond the loopback interface there is a token. -/
  guarded : isLoopbackBind config.server.listenAddr = false →
    ∃ token, config.server.authToken = some token ∧ token ≠ ""
  user : config.server.userId ≠ "" ∧ (utf8Bytes config.server.userId).length ≤ 128 ∧
    ∀ byte ∈ utf8Bytes config.server.userId, isUserIdByte byte = true
  port : config.worker.port ≠ 0

/-- What the server relies on. -/
structure WellFormed (config : Config) : Prop extends Accepted config where
  inferenceTimeout : 1 ≤ config.server.inferenceTimeoutSecs ∧
    config.server.inferenceTimeoutSecs ≤ 600
  readinessTimeout : 1 ≤ config.worker.readinessTimeoutSecs ∧
    config.worker.readinessTimeoutSecs ≤ 300
  context : 512 ≤ config.worker.defaultContext
  paths : ∀ path ∈ config.paths.all, isAbsolute path = true

/-! ## Paths stay absolute -/

theorem isAbsolute_append {base : String} (absolute : isAbsolute base = true) (rest : String) :
    isAbsolute (base ++ rest) = true := by
  have starts : base.toList.head? = some '/' := by simpa [isAbsolute] using absolute
  simp [isAbsolute, String.toList_append, List.head?_append, starts]

theorem isAbsolute_absolutize {base : String} (absolute : isAbsolute base = true)
    (path : String) : isAbsolute (absolutize base path) = true := by
  unfold absolutize
  by_cases already : isAbsolute path = true
  · rw [if_pos already]
    exact already
  · rw [if_neg already]
    have starts : base.toList.head? = some '/' := by simpa [isAbsolute] using absolute
    unfold joinPath
    cases last : base.toList.getLast? with
    | none =>
        rw [List.getLast?_eq_none_iff] at last
        rw [last] at starts
        cases starts
    | some c =>
        simp only
        by_cases slash : c = '/'
        · rw [if_pos slash]
          exact isAbsolute_append absolute path
        · rw [if_neg slash]
          exact isAbsolute_append (isAbsolute_append absolute "/") path

theorem absolutize_of_isAbsolute {path : String} (absolute : isAbsolute path = true)
    (base : String) : absolutize base path = path := if_pos absolute

theorem withoutTrailing_suffix (path : List Char) : withoutTrailing path <:+ path := by
  fun_induction withoutTrailing path with
  | case1 rest inductionHypothesis => exact inductionHypothesis.trans (List.suffix_cons _ _)
  | case2 rest inductionHypothesis =>
      exact inductionHypothesis.trans ((List.suffix_cons _ _).trans (List.suffix_cons _ _))
  | case3 path => exact List.suffix_refl path

/-- The parent of an absolute path is absolute. -/
theorem isAbsolute_parent {path up : String} (absolute : isAbsolute path = true)
    (isParent : parent path = some up) : isAbsolute up = true := by
  have starts : path.toList.head? = some '/' := by simpa [isAbsolute] using absolute
  unfold parent at isParent
  split at isParent
  · cases isParent
  · split at isParent
    · cases isParent
      decide
    · rename_i _ notRoot
      cases isParent
      -- What is left is the beginning of the path.
      generalize left : withoutTrailing _ = front at notRoot ⊢
      have isSuffix : front <:+ path.toList.reverse := by
        rw [← left]
        exact (withoutTrailing_suffix _).trans
          ((List.dropWhile_suffix _).trans (withoutTrailing_suffix _))
      have isPrefix : front.reverse <+: path.toList := by
        simpa using List.reverse_prefix.mpr isSuffix
      obtain ⟨rest, whole⟩ := isPrefix
      have notEmpty : front.reverse ≠ [] := by
        intro empty
        exact notRoot (List.reverse_eq_nil_iff.mp empty)
      rw [← whole, List.head?_append_of_ne_nil _ notEmpty] at starts
      simp [isAbsolute, starts]

/-! ## Loading -/

theorem isAbsolute_of_mem_resolvePaths {base : String} (absolute : isAbsolute base = true)
    (config : Config) :
    ∀ path ∈ (resolvePaths base config).paths.all, isAbsolute path = true := by
  have root : isAbsolute (absolutize base config.paths.projectRoot) = true :=
    isAbsolute_absolutize absolute _
  have resolved : ∀ path, isAbsolute (absolutize
      (absolutize base config.paths.projectRoot) path) = true :=
    isAbsolute_absolutize root
  intro path member
  simp only [resolvePaths, PathConfig.all, List.mem_cons, List.mem_append, Option.mem_toList,
    Option.map_eq_some_iff, List.mem_map] at member
  grind

/-- Absolute paths are left as they are. -/
theorem resolvePaths_of_isAbsolute {config : Config}
    (absolute : ∀ path ∈ config.paths.all, isAbsolute path = true) (base : String) :
    resolvePaths base config = config := by
  have fixed : ∀ base, ∀ path ∈ config.paths.all, absolutize base path = path :=
    fun base path member => absolutize_of_isAbsolute (absolute path member) base
  have fixedOption : ∀ base (path : Option String), path.toList ⊆ config.paths.all →
      path.map (absolutize base) = path := by
    intro base path members
    cases path with
    | none => rfl
    | some path => simpa using fixed base path (members (by simp))
  have fixedList : ∀ base (paths : List String), paths ⊆ config.paths.all →
      paths.map (absolutize base) = paths := by
    intro base paths members
    exact (List.map_congr_left fun path member => fixed base path (members member)).trans
      (List.map_id' paths)
  have within : ∀ path ∈ [config.paths.stageDir, config.paths.llamaServer, config.paths.eventLog],
      path ∈ config.paths.all := by
    intro path member
    simp only [PathConfig.all, List.mem_cons] at member ⊢
    tauto
  have optional : config.paths.modelsDir.toList ⊆ config.paths.all ∧
      config.paths.ollamaRoot.toList ⊆ config.paths.all := by
    constructor <;>
    · intro path member
      simp only [PathConfig.all, List.mem_cons, List.mem_append]
      tauto
  have listed : config.paths.lmStudioRoots ⊆ config.paths.all ∧
      config.paths.janRoots ⊆ config.paths.all := by
    constructor <;>
    · intro path member
      simp only [PathConfig.all, List.mem_cons, List.mem_append]
      tauto
  simp only [resolvePaths]
  rw [fixed base _ (by simp [PathConfig.all]), fixed _ config.paths.stageDir (within _ (by simp)),
    fixed _ config.paths.llamaServer (within _ (by simp)),
    fixed _ config.paths.eventLog (within _ (by simp)),
    fixedOption _ config.paths.modelsDir optional.1,
    fixedOption _ config.paths.ollamaRoot optional.2,
    fixedList _ config.paths.lmStudioRoots listed.1, fixedList _ config.paths.janRoots listed.2]

/-- The configuration that `validate` makes of one it accepts. -/
def clamped (config : Config) : Config :=
  { config with
    server.inferenceTimeoutSecs := clamp config.server.inferenceTimeoutSecs 1 600
    worker.readinessTimeoutSecs := clamp config.worker.readinessTimeoutSecs 1 300
    worker.defaultContext := max config.worker.defaultContext 512 }

theorem validate_eq_ok {config after : Config} :
    validate config = .ok after ↔ Accepted config ∧ after = clamped config := by
  have refused : (!isLoopbackBind config.server.listenAddr ∧
      config.server.authToken.all (· = "")) ↔
      ¬ (isLoopbackBind config.server.listenAddr = false →
        ∃ token, config.server.authToken = some token ∧ token ≠ "") := by
    cases config.server.authToken <;> simp
  unfold validate
  by_cases listens : trim config.server.listenAddr = ""
  · rw [if_pos listens]
    exact iff_of_false (by simp) fun accepted => accepted.1.listens listens
  rw [if_neg listens]
  by_cases guarded : isLoopbackBind config.server.listenAddr = false →
      ∃ token, config.server.authToken = some token ∧ token ≠ ""
  swap
  · rw [if_pos (refused.mpr guarded)]
    exact iff_of_false (by simp) fun accepted => guarded accepted.1.guarded
  rw [if_neg fun unguarded => refused.mp unguarded guarded]
  by_cases user : config.server.userId ≠ "" ∧ (utf8Bytes config.server.userId).length ≤ 128 ∧
      ∀ byte ∈ utf8Bytes config.server.userId, isUserIdByte byte = true
  swap
  · rw [if_pos (by simp at user ⊢; grind)]
    exact iff_of_false (by simp) fun accepted => user accepted.1.user
  rw [if_neg (by simp; grind)]
  by_cases port : config.worker.port = 0
  · rw [if_pos port]
    exact iff_of_false (by simp) fun accepted => accepted.1.port port
  rw [if_neg port, Except.ok.injEq]
  constructor
  · intro same
    exact ⟨⟨listens, guarded, user, port⟩, same.symm⟩
  · intro accepted
    exact accepted.2.symm

theorem clamp_bounds {low high : UInt64} (ordered : low ≤ high) (value : UInt64) :
    low ≤ clamp value low high ∧ clamp value low high ≤ high := by
  unfold clamp
  by_cases small : value < low
  · rw [if_pos small]
    exact ⟨UInt64.le_refl low, ordered⟩
  · rw [if_neg small]
    rw [UInt64.not_lt] at small
    by_cases large : high < value
    · rw [if_pos large]
      exact ⟨ordered, UInt64.le_refl high⟩
    · rw [if_neg large]
      exact ⟨small, UInt64.not_lt.mp large⟩

theorem clamp_of_bounds {value low high : UInt64} (least : low ≤ value) (most : value ≤ high) :
    clamp value low high = value := by
  rw [clamp, if_neg (UInt64.not_lt.mpr least), if_neg (UInt64.not_lt.mpr most)]

theorem Accepted.wellFormed_clamped {config : Config} (accepted : Accepted config)
    (paths : ∀ path ∈ config.paths.all, isAbsolute path = true) : WellFormed (clamped config) where
  listens := accepted.listens
  guarded := accepted.guarded
  user := accepted.user
  port := accepted.port
  inferenceTimeout := clamp_bounds (by decide) _
  readinessTimeout := clamp_bounds (by decide) _
  context := by
    simp only [clamped, UInt32.max_def]
    grind
  paths := paths

/-- A well-formed configuration is accepted as it is. -/
theorem WellFormed.validate_eq {config : Config} (wellFormed : WellFormed config) :
    validate config = .ok config := by
  rw [validate_eq_ok]
  refine ⟨wellFormed.toAccepted, ?_⟩
  unfold clamped
  rw [clamp_of_bounds wellFormed.inferenceTimeout.1 wellFormed.inferenceTimeout.2,
    clamp_of_bounds wellFormed.readinessTimeout.1 wellFormed.readinessTimeout.2,
    show max config.worker.defaultContext 512 = config.worker.defaultContext by
      rw [UInt32.max_def]
      have context := wellFormed.context
      grind]

/-- The base against which `project_root` is resolved is absolute. -/
private theorem isAbsolute_configBase (currentDir : AbsolutePath) (path : String) :
    isAbsolute ((parent (absolutize currentDir.val path)).getD currentDir.val) = true := by
  cases isParent : parent (absolutize currentDir.val path) with
  | none => exact currentDir.property
  | some up => exact isAbsolute_parent (isAbsolute_absolutize currentDir.property path) isParent

theorem wellFormed_of_load {sources : Sources} {config : Config}
    (loaded : load sources = .ok config) : WellFormed config := by
  unfold load at loaded
  obtain ⟨currentDir, _, loaded⟩ := bind_eq_ok.mp loaded
  obtain ⟨file, _, loaded⟩ := bind_eq_ok.mp loaded
  obtain ⟨overridden, _, loaded⟩ := bind_eq_ok.mp loaded
  obtain ⟨accepted, rfl⟩ := validate_eq_ok.mp loaded
  exact accepted.wellFormed_clamped
    (isAbsolute_of_mem_resolvePaths (isAbsolute_configBase currentDir _) overridden)

/-- A configuration that was loaded is well formed, and neither resolving its paths against
another directory nor checking it again changes it. -/
theorem load_settled {sources : Sources} {config : Config} (loaded : load sources = .ok config) :
    WellFormed config ∧ validate config = .ok config ∧
      ∀ base, resolvePaths base config = config := by
  have wellFormed := wellFormed_of_load loaded
  exact ⟨wellFormed, wellFormed.validate_eq, resolvePaths_of_isAbsolute wellFormed.paths⟩

/-- A file that binds the server to every interface, with a token, in `/srv`. -/
def externalSources : Sources where
  env := fun name => if name = "TRI_AI_CONFIG" then some "tri-ai.toml" else none
  currentDir := .ok ⟨"/srv", by decide⟩
  readToString := fun path => if path = "/srv/tri-ai.toml" then .ok "" else .error .notFound
  fromStr := fun _ => .ok
    { server := { listenAddr := "0.0.0.0:8900", authToken := some "test-token" }
      paths := { projectRoot := "workspace", modelsDir := some "/weights" } }

/-- What is loaded from it. -/
def externalConfig : Config where
  server := { listenAddr := "0.0.0.0:8900", authToken := some "test-token" }
  paths :=
    { projectRoot := "/srv/workspace", modelsDir := some "/weights"
      stageDir := "/srv/workspace/./staging"
      llamaServer := "/srv/workspace/vendor/bin/llama-cpp/llama-server"
      eventLog := "/srv/workspace/tri-ai-events.jsonl" }

theorem load_externalSources : load externalSources = .ok externalConfig := by decide +kernel

theorem load_settled_external :
    WellFormed externalConfig ∧ validate externalConfig = .ok externalConfig ∧
      ∀ base, resolvePaths base externalConfig = externalConfig :=
  load_settled load_externalSources

end TriAI.Configuration
