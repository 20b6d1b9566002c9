import TriAI.Chat.Rounds
import TriAI.Engine.Model
import TriAI.GgufRegistry
import TriAI.Planner.LayerSplit

/-!
Contract: the planning requests of `http.rs`.

Owns: `/api/engine/plan`, `/api/engine/plan/auto` and `StartModelPlanned`: the profiles they
plan for, the stored plan, the checks of a start and the configuration of its worker.

Does not own: the planner, the catalog, the reader of a model file and the start of a worker.
What a request finds there is its `Host`; errors of the file system are their texts.
-/

set_option autoImplicit false

namespace TriAI.Planner

open TriAI.Chat (ApiError ApiErrorCode)
open TriAI.GgufRegistry (GgufMetadata)
open TriAI.Library.MachineInt
open TriAI.Supervisor (WorkerConfig WorkerFailure WorkerFailureCode)

/-- The fields of `resources::Snapshot` that are planned with. -/
structure Snapshot where
  vramFreeMb : UInt64
  ramAvailableMb : UInt64
  ssdFreeMb : UInt64

/-- The fields of `Config` that planning reads. -/
structure Config where
  vramReserveMb : UInt64
  ramReserveMb : UInt64
  ssdReserveMb : UInt64
  defaultContext : UInt32
  llamaServer : String
  port : UInt16

/-- What a request finds: the startable models of the catalog, the models directory, the
files, the resources, and the engine. -/
structure Host where
  startLocation : String → Option String
  resolveUnder : String → Except String (Option String)
  fileLength : String → Except String UInt64
  inspect : String → Except String GgufMetadata
  snapshot : Except String Snapshot
  engineState : EngineState
  startModelReady : WorkerConfig → Except WorkerFailure Unit

def stalePlan (message : String) : ApiError := ⟨.stalePlan, message⟩

def modelBusy : ApiError :=
  ⟨.modelBusy, "genau ein lokales Modell darf gleichzeitig aktiv sein"⟩

def defaultResourcesFromSnapshot (snapshot : Snapshot) (config : Config) : Resources where
  vramFreeMb := snapshot.vramFreeMb
  ramFreeMb := snapshot.ramAvailableMb
  ssdFreeMb := snapshot.ssdFreeMb
  vramReserveMb := config.vramReserveMb
  ramReserveMb := config.ramReserveMb
  ssdReserveMb := config.ssdReserveMb

/-- The resources a request measures. -/
def measuredResources (config : Config) (host : Host) : Except ApiError Resources :=
  (host.snapshot.map (defaultResourcesFromSnapshot · config)).mapError fun error =>
    ⟨.internal, "Ressourcen-Snapshot nicht lesbar: " ++ error⟩

def validateModelPath (model : String) : Except String Unit :=
  let chars := model.toList
  let windowsAbsolute :=
    match chars with
    | drive :: ':' :: slash :: _ => drive.isAlpha && (slash = '/' || slash = '\\')
    | _ => false
  if chars = [] then
    .error "Modellpfad ist leer"
  else if chars.tails.any (['.', '.'].isPrefixOf ·) then
    .error "Modellpfad darf kein '..' enthalten"
  else if chars.head? = some '/' || chars.head? = some '\\' || windowsAbsolute then
    .error "Modellpfad muss relativ zum konfigurierten Modellverzeichnis sein"
  else
    .ok ()

/-! ## Plans -/

section Plans

variable (share : LayerShare) (config : Config) (host : Host)

/-- `plan_and_respond`, whose plan is stored. -/
def planAndRespond (profile : ModelProfile) (resources : Option Resources) :
    Except ApiError Plan := do
  let resources ← resources.elim (measuredResources config host) .ok
  return plan share profile resources

def handleEnginePlan (profile : ModelProfile) (resources : Option Resources) :
    Except ApiError Plan := do
  (validateModelPath profile.model).mapError (⟨.invalidRequest, ·⟩)
  planAndRespond share config host profile resources

/-- The profile that `handle_engine_plan_auto` derives from a file. -/
def autoProfile (model : String) (length : UInt64) (metadata : GgufMetadata) (layers : UInt64) :
    ModelProfile :=
  let fileSizeMb := max (divCeil length 1048576) 1
  let defaultContext := config.defaultContext.toUInt64
  let contextTokens :=
    (min (min (metadata.contextLength.getD defaultContext) defaultContext) 4294967295).toUInt32
  { model := model
    fileSizeMb := fileSizeMb
    estimatedGpuMb := fileSizeMb
    estimatedRamMb := fileSizeMb
    layers := (min layers 4294967295).toUInt32
    contextTokens := contextTokens
    requestedContextTokens := contextTokens }

def handleEnginePlanAuto (model : String) : Except ApiError Plan := do
  let path ← (host.startLocation model).elim
    (.error ⟨.notFound, "Modell '" ++ model ++ "' ist nicht im Katalog startbar"⟩) .ok
  let length ← (host.fileLength path).mapError
    fun error => ⟨.internal, "Modelldatei nicht lesbar: " ++ error⟩
  let metadata ← (host.inspect path).mapError
    fun error => ⟨.internal, "GGUF-Metadaten nicht lesbar: " ++ error⟩
  let layers ← metadata.layers.elim
    (.error ⟨.internal, "GGUF-Datei nennt keine Layer-Anzahl (block_count) - " ++
      "automatische Planung nicht moeglich"⟩) .ok
  planAndRespond share config host (autoProfile config model length metadata layers) none

end Plans

/-! ## Starts -/

def validatePlanIdentity (latest : Option Plan) (model planId : String) :
    Except ApiError Plan :=
  match latest with
  | none => .error (stalePlan "vor dem Start muss ein aktueller Plan erzeugt werden")
  | some plan =>
      if plan.planId ≠ planId ∨ plan.model ≠ model then
        .error (stalePlan "plan_id gehoert nicht zum letzten Plan fuer dieses Modell")
      else if plan.safe then
        .ok plan
      else
        .error ⟨.resourceDenied, "Modellstart abgelehnt: " ++ plan.reason⟩

def validateResourceGeneration (plan : Plan) (currentGeneration : String) :
    Except ApiError Unit :=
  if plan.resourceGeneration ≠ currentGeneration then
    .error (stalePlan "Ressourcen haben sich seit der Planung geaendert")
  else
    .ok ()

section Starts

variable (share : LayerShare) (config : Config) (host : Host)

/-- The profile that `resolve_worker_config` plans for. -/
def startProfile (model : String) (length : UInt64) (layers : UInt32) : ModelProfile :=
  let fileSizeMb := saturatingAdd length 1048575 / 1048576
  { model := model
    fileSizeMb := fileSizeMb
    estimatedGpuMb := fileSizeMb
    estimatedRamMb := saturatingMul fileSizeMb 5 / 4
    layers := layers
    contextTokens := max config.defaultContext 512
    requestedContextTokens := config.defaultContext }

/-- The layers of a file; 32 where it does not say. -/
def startLayers (path : String) : UInt64 :=
  ((host.inspect path).toOption.bind (·.layers)).getD 32

def resolveWorkerConfig (model path : String) (resources : Resources) :
    Except ApiError WorkerConfig := do
  let length ← (host.fileLength path).mapError
    fun error => ⟨.internal, "GGUF-Metadaten nicht lesbar: " ++ error⟩
  let layers ←
    if startLayers host path ≤ 4294967295 then
      .ok (startLayers host path).toUInt32
    else
      .error ⟨.invalidRequest, "GGUF-Layerzahl liegt ausserhalb des unterstuetzten Bereichs"⟩
  let plan := plan share (startProfile config model length layers) resources
  if plan.safe then
    return {
      binary := config.llamaServer
      model := model
      modelPath := some path
      host := "127.0.0.1"
      port := config.port
      gpuLayers := plan.gpuLayers
      ctxSize := plan.ctxSize }
  else
    throw ⟨.resourceDenied, "Modellstart abgelehnt: " ++ plan.reason⟩

/-- The file of a model: that of the catalog, or else one of the models directory. -/
def resolveModelPath (model : String) : Except ApiError String :=
  match host.startLocation model with
  | some path => .ok path
  | none => do
      (validateModelPath model).mapError (⟨.invalidRequest, ·⟩)
      match host.resolveUnder model with
      | .ok (some path) =>
          let _ ← (host.inspect path).mapError
            fun error => ⟨.invalidRequest, "GGUF-Metadaten ungueltig: " ++ error⟩
          return path
      | .ok none =>
          throw ⟨.invalidRequest,
            "Modell-ID '" ++ model ++ "' ist nicht startbar oder nicht bekannt"⟩
      | .error error =>
          throw ⟨.internal, "Modellpfad nicht sicher aufloesbar: " ++ error⟩

def resolveStartConfig (model : String) (resources : Resources) :
    Except ApiError WorkerConfig := do
  let path ← resolveModelPath host model
  resolveWorkerConfig share config host model path resources

def apiErrorCodeForWorkerFailure : WorkerFailureCode → ApiErrorCode
  | .workerTimeout => .workerTimeout
  | .workerCrashed | .spawnFailed => .workerCrashed
  | .outOfMemory => .outOfMemory
  | .portConflict => .portConflict
  | .corruptModel => .corruptModel
  | .slotBusy => .modelBusy

/-- The checks of `start_model_ready_with_plan`, and the worker it then starts. -/
def configWithPlan (model : String) (resources : Resources) (plan : Plan) :
    Except ApiError WorkerConfig := do
  if host.engineState ≠ .idle then
    throw modelBusy
  let resolved ← resolveStartConfig share config host model resources
  return { resolved with gpuLayers := plan.gpuLayers, ctxSize := plan.ctxSize }

/-- The checks of `StartModelPlanned`, and the worker it then starts. -/
def plannedWorker (latest : Option Plan) (model planId : String) :
    Except ApiError WorkerConfig := do
  let plan ← validatePlanIdentity latest model planId
  let resources ← measuredResources config host
  validateResourceGeneration plan (resourceGeneration resources)
  configWithPlan share config host model resources plan

/-- `StartModelPlanned`: the accepted model. -/
def startModelPlanned (latest : Option Plan) (model planId : String) : Except ApiError String := do
  let worker ← plannedWorker share config host latest model planId
  (host.startModelReady worker).mapError
    fun failure => ⟨apiErrorCodeForWorkerFailure failure.code, failure.message⟩
  return model

end Starts

end TriAI.Planner
