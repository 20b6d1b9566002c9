import TriAI.Engine.Model

/-!
Contract: the two mini models of a manifest and their controller (`supervisor/manifest.rs`,
`supervisor/fallback.rs`).

Owns: the manifest with its checks; `MiniModelSupervisor`, which selects one of the two
models; and `ensureReady`, which makes the engine serve the selected one.

Does not own: the engine. Model files do not change while the controller runs: they are a
parameter. Paths are texts. Left out are the fields of a manifest entry that nothing
reads, and the advice that a failure is about.
-/

set_option autoImplicit false

namespace TriAI.MiniModel

open TriAI.Supervisor

/-- The model files: what `fs::metadata` says (a regular file, its length) and what
reading a file to its end gives. -/
structure ModelFiles where
  metadata : String → Except SysError (Bool × UInt64)
  content : String → Except SysError (List UInt8)

/-! ## The manifest -/

/-- `MiniModelSpec`. -/
structure MiniModelSpec where
  id : String
  path : String
  sizeBytes : UInt64
  sha256 : String
deriving DecidableEq

/-- `MiniModelManifest`. -/
structure MiniModelManifest where
  schemaVersion : UInt32
  primaryMiniModel : MiniModelSpec
  fallbackMiniModel : MiniModelSpec

/-- The text of `TriAIError::Io`. -/
def ioText (error : SysError) : String := "IO error: " ++ error.message

/-- `is_sha256`. -/
def isSha256 (value : String) : Bool :=
  value.utf8ByteSize == 64 && value.toList.all fun c =>
    c.isDigit || ('a' ≤ c && c ≤ 'f') || ('A' ≤ c && c ≤ 'F')

/-- `Path::join` of a relative path. -/
def joinPath (root path : String) : String :=
  match root.toList.getLast? with
  | some c => if c = '/' then root ++ path else root ++ "/" ++ path
  | none => path

/-- `sha256_of_file`. -/
def sha256OfFile (sha256Hex : List UInt8 → String) (files : ModelFiles) (path : String) :
    Except SysError String :=
  (files.content path).map sha256Hex

namespace MiniModelSpec

variable (self : MiniModelSpec)

/-- `resolved_path`. -/
def resolvedPath (projectRoot : String) : Except String String :=
  if self.path.toList.head? = some '/' ∨
      (self.path.toList.splitOn '/').any (· = ['.', '.']) then
    .error "mini-model path escapes project root"
  else .ok (joinPath projectRoot self.path)

/-- `MiniModelSpec::validate`. -/
def validate (files : ModelFiles) (projectRoot : String) : Except String Unit :=
  if self.id = "" ∨ self.sizeBytes = 0 ∨ !isSha256 self.sha256 then
    .error "invalid mini-model manifest entry"
  else
    match self.resolvedPath projectRoot with
    | .error error => .error error
    | .ok path =>
        match files.metadata path with
        | .error error => .error (ioText error)
        | .ok (isFile, len) =>
            if !isFile ∨ len ≠ self.sizeBytes then
              .error "mini-model size does not match manifest"
            else .ok ()

/-- `verify_digest`. -/
def verifyDigest (sha256Hex : List UInt8 → String) (files : ModelFiles) (projectRoot : String) :
    Except String Unit :=
  match self.resolvedPath projectRoot with
  | .error error => .error error
  | .ok path =>
      match sha256OfFile sha256Hex files path with
      | .error error => .error (ioText error)
      | .ok actual =>
          if actual ≠ self.sha256 then .error "mini-model digest does not match manifest"
          else .ok ()

variable {self}

/-- What a digest that is verified says. -/
theorem verifyDigest_eq_ok {sha256Hex : List UInt8 → String} {files : ModelFiles}
    {projectRoot : String} :
    self.verifyDigest sha256Hex files projectRoot = .ok () ↔
      ∃ path, self.resolvedPath projectRoot = .ok path ∧
        sha256OfFile sha256Hex files path = .ok self.sha256 := by
  unfold verifyDigest
  cases resolves : self.resolvedPath projectRoot with
  | error error => simp
  | ok path =>
      cases reads : sha256OfFile sha256Hex files path with
      | error error => simp [reads]
      | ok actual =>
          by_cases same : actual = self.sha256
          · simp [reads, same]
          · simp [reads, same]

end MiniModelSpec

/-- `MiniModelManifest::validate`. -/
def MiniModelManifest.validate (self : MiniModelManifest) (files : ModelFiles)
    (projectRoot : String) : Except String Unit :=
  if self.schemaVersion ≠ 1 then .error "unsupported mini-model manifest schema"
  else do
    self.primaryMiniModel.validate files projectRoot
    self.fallbackMiniModel.validate files projectRoot
    if self.primaryMiniModel.sha256 = self.fallbackMiniModel.sha256 then
      .error "primary and fallback must differ"
    else .ok ()

/-! ## The controller -/

inductive ActiveMiniModel where
  | primary
  | fallback
deriving DecidableEq

/-- `MiniRuntimeConfig`. -/
structure MiniRuntimeConfig where
  binary : String
  host : String
  port : UInt16
  gpuLayers : UInt32
  ctxSize : UInt32
  readinessTimeout : Nat

structure MiniModelSupervisor where
  manifest : MiniModelManifest
  active : ActiveMiniModel := .primary
  failoverCount : UInt64 := 0

/-- The entry of a manifest. -/
def MiniModelManifest.spec (self : MiniModelManifest) : ActiveMiniModel → MiniModelSpec
  | .primary => self.primaryMiniModel
  | .fallback => self.fallbackMiniModel

/-- `worker_config`. -/
def workerConfig (spec : MiniModelSpec) (projectRoot : String) (runtime : MiniRuntimeConfig) :
    Except String WorkerConfig :=
  (spec.resolvedPath projectRoot).map fun path =>
    { binary := runtime.binary
      model := spec.id
      modelPath := some path
      host := runtime.host
      port := runtime.port
      gpuLayers := runtime.gpuLayers
      ctxSize := runtime.ctxSize }

/-- A file that is not the model of the manifest. -/
def corruptModel (message : String) : WorkerFailure := { code := .corruptModel, message }

namespace MiniModelSupervisor

variable (sha256Hex : List UInt8 → String) (files : ModelFiles) (self : MiniModelSupervisor)

/-- `active_spec`. -/
def activeSpec : MiniModelSpec := self.manifest.spec self.active

/-- `fail_over`. Every reason has this effect. -/
def failOver : MiniModelSupervisor :=
  { self with
    active := .fallback
    failoverCount := if self.failoverCount.toNat + 1 < 2 ^ 64 then self.failoverCount + 1
      else self.failoverCount }

/-- The part of `start_selected` that makes the engine serve a configuration. -/
def serve (engine : Engine) (cfg : WorkerConfig) (runtime : MiniRuntimeConfig)
    (iterations : Nat) : Sys (Except WorkerFailure Unit × Engine) :=
  match engine.state with
  | .ready => do
      match ← engine.stopModel with
      | (.error error, engine) => pure (.error (slotBusy error.message), engine)
      | (.ok (), engine) => engine.startModelReady cfg runtime.readinessTimeout iterations
  | .idle => engine.startModelReady cfg runtime.readinessTimeout iterations
  | .degraded | .failed => engine.recoverWithFallback cfg runtime.readinessTimeout iterations
  | .loading | .busy | .draining | .rollback | .stopping =>
      pure (.error (slotBusy "mini-model switch requires an idle or failed engine"), engine)

/-- `start_selected`. -/
def startSelected (engine : Engine) (projectRoot : String) (runtime : MiniRuntimeConfig)
    (iterations : Nat) : Sys (Except WorkerFailure ActiveMiniModel × Engine) :=
  match self.activeSpec.verifyDigest sha256Hex files projectRoot with
  | .error error => pure (.error (corruptModel error), engine)
  | .ok () =>
      if engine.activeModel = some self.activeSpec.id ∧ engine.state = .ready then
        pure (.ok self.active, engine)
      else
        match workerConfig self.activeSpec projectRoot runtime with
        | .error error => pure (.error (corruptModel error), engine)
        | .ok cfg => do
            match ← serve engine cfg runtime iterations with
            | (.error failure, engine) => pure (.error failure, engine)
            | (.ok (), engine) => pure (.ok self.active, engine)

/-- The controller once the VRAM pressure is looked at. -/
def underPressure (vramPressure : Bool) : MiniModelSupervisor :=
  if vramPressure ∧ self.active ≠ .fallback then self.failOver else self

/-- `ensure_ready`: the result, the controller and the engine. -/
def ensureReady (engine : Engine) (projectRoot : String) (runtime : MiniRuntimeConfig)
    (vramPressure : Bool) (iterations : Nat) :
    Sys (Except WorkerFailure ActiveMiniModel × MiniModelSupervisor × Engine) := do
  let self := self.underPressure vramPressure
  match ← self.startSelected sha256Hex files engine projectRoot runtime iterations with
  | (.ok active, engine) => pure (.ok active, self, engine)
  | (.error failure, engine) =>
      if self.active = .primary then do
        let self := self.failOver
        let (result, engine) ←
          self.startSelected sha256Hex files engine projectRoot runtime iterations
        pure (result, self, engine)
      else pure (.error failure, self, engine)

end MiniModelSupervisor

end TriAI.MiniModel
