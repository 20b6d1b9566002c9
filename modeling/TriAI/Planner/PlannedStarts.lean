import TriAI.Planner.PlanAndStart

/-!
Contract: the numbers that a planned start hands to its worker.

Owns: runs of planning requests with the plan they store, what a start that reaches its worker
has checked, and which plan the layers and the context of the worker come from.

Does not own: the requests.
-/

set_option autoImplicit false

namespace TriAI.Planner

open TriAI.Chat (ApiError)
open TriAI.GgufRegistry (GgufMetadata)
open TriAI.Library.MachineInt
open TriAI.Supervisor (WorkerConfig)

/-! ## Runs -/

/-- A request of a run, with what it found. A planned start changes no stored plan. -/
inductive PlanRequest where
  | plan (profile : ModelProfile) (resources : Option Resources)
  | planAuto (model : String)
  | startPlanned (model planId : String)

/-- The plan that a request stores. -/
def PlanRequest.stores (share : LayerShare) (config : Config) (host : Host) :
    PlanRequest → Option Plan
  | .plan profile resources => (handleEnginePlan share config host profile resources).toOption
  | .planAuto model => (handleEnginePlanAuto share config host model).toOption
  | .startPlanned _ _ => none

/-- `latest_plan` after some requests. -/
def latestPlan (share : LayerShare) (config : Config) (requests : List (Host × PlanRequest)) :
    Option Plan :=
  requests.foldl (fun latest request => (request.2.stores share config request.1).or latest) none

/-- What the planner computes for a request: the client's profile and resources, or the profile
of the file in the catalog; the measured resources where the client sends none. -/
def PlanRequest.PlansFor (config : Config) (host : Host) (profile : ModelProfile)
    (resources : Resources) : PlanRequest → Prop
  | .plan sent given => sent = profile ∧
      (given = some resources ∨ given = none ∧ measuredResources config host = .ok resources)
  | .planAuto model => ∃ path length metadata layers, host.startLocation model = some path ∧
      host.fileLength path = .ok length ∧ host.inspect path = .ok metadata ∧
      metadata.layers = some layers ∧ profile = autoProfile config model length metadata layers ∧
      measuredResources config host = .ok resources
  | .startPlanned _ _ => False

/-! ## Starts -/

/-- The layers and the context of a worker are those of a plan. -/
def Follows (worker : WorkerConfig) (plan : Plan) : Prop :=
  worker.gpuLayers = plan.gpuLayers ∧ worker.ctxSize = plan.ctxSize

/-- A worker follows a safe plan for a profile with the size and the layers of its file, under
the resources that the start measured. -/
def PlannedForFile (share : LayerShare) (config : Config) (host : Host)
    (worker : WorkerConfig) : Prop :=
  ∃ path length profile resources, worker.modelPath = some path ∧
    host.fileLength path = .ok length ∧ measuredResources config host = .ok resources ∧
    profile.fileSizeMb.toNat = startSize length ∧
    profile.layers.toNat = (startLayers host path).toNat ∧
    (plan share profile resources).safe = true ∧ Follows worker (plan share profile resources)

/-- What a start has checked: the last plan that a request stored is safe, for this model, and
of the generation of the measured resources; and the start's own plan for its file is safe. -/
structure Checked (share : LayerShare) (config : Config) (requests : List (Host × PlanRequest))
    (host : Host) (model planId : String) (worker : WorkerConfig) : Prop where
  stored : ∃ before madeAt request after profile planned, requests =
      before ++ (madeAt, request) :: after ∧
    (∀ later ∈ after, later.2.stores share config later.1 = none) ∧
    PlanRequest.PlansFor config madeAt profile planned request ∧
    (plan share profile planned).safe = true ∧
    (plan share profile planned).planId = planId ∧ profile.model = model ∧
    (∃ resources, measuredResources config host = .ok resources ∧
      resourceGeneration planned = resourceGeneration resources) ∧
    Follows worker (plan share profile planned)
  ownPlan : ∃ path length resources, worker.modelPath = some path ∧
    resolveModelPath host model = .ok path ∧ host.fileLength path = .ok length ∧
    measuredResources config host = .ok resources ∧ startLayers host path ≤ 4294967295 ∧
    (plan share (startProfile config model length (startLayers host path).toUInt32)
      resources).safe = true

section Inversion

variable {share : LayerShare} {config : Config} {host : Host}

private theorem bind_eq_ok {ε α β : Type} {first : Except ε α} {next : α → Except ε β} {value : β}
    (done : first >>= next = .ok value) :
    ∃ middle, first = .ok middle ∧ next middle = .ok value := by
  cases first with
  | error _ => cases done
  | ok middle => exact ⟨middle, rfl, done⟩

private theorem mapError_eq_ok {ε δ α : Type} {result : Except ε α} {change : ε → δ} {value : α}
    (done : result.mapError change = .ok value) : result = .ok value := by
  cases result with
  | error _ => cases done
  | ok _ =>
      cases done
      rfl

private theorem toOption_eq_ok {ε α : Type} {result : Except ε α} {value : α}
    (done : result.toOption = some value) : result = .ok value := by
  cases result with
  | error _ => cases done
  | ok _ =>
      cases done
      rfl

private theorem elim_eq_ok {ε α : Type} {found : Option α} {error : ε} {value : α}
    (done : found.elim (.error error) .ok = Except.ok value) : found = some value := by
  cases found with
  | none => cases done
  | some _ =>
      cases done
      rfl

theorem planAndRespond_eq_ok {profile : ModelProfile} {given : Option Resources} {stored : Plan}
    (done : planAndRespond share config host profile given = .ok stored) :
    ∃ resources, (given = some resources ∨
      given = none ∧ measuredResources config host = .ok resources) ∧
      plan share profile resources = stored := by
  obtain ⟨resources, found, planned⟩ := bind_eq_ok done
  refine ⟨resources, ?_, Except.ok.inj planned⟩
  cases given with
  | none => exact .inr ⟨rfl, found⟩
  | some sent => exact .inl (congrArg some (Except.ok.inj found))

/-- What a stored plan was computed for. -/
theorem plansFor_of_stores {request : PlanRequest} {stored : Plan}
    (stores : request.stores share config host = some stored) :
    ∃ profile resources, PlanRequest.PlansFor config host profile resources request ∧
      plan share profile resources = stored := by
  cases request with
  | plan sent given =>
      have done := toOption_eq_ok stores
      obtain ⟨_, _, responded⟩ := bind_eq_ok done
      obtain ⟨resources, found, planned⟩ := planAndRespond_eq_ok responded
      exact ⟨sent, resources, ⟨rfl, found⟩, planned⟩
  | planAuto model =>
      have done := toOption_eq_ok stores
      obtain ⟨path, located, done⟩ := bind_eq_ok done
      obtain ⟨length, readable, done⟩ := bind_eq_ok done
      obtain ⟨metadata, inspected, done⟩ := bind_eq_ok done
      obtain ⟨layers, counted, done⟩ := bind_eq_ok done
      obtain ⟨resources, found, planned⟩ := planAndRespond_eq_ok done
      have measured := found.resolve_left (by simp)
      refine ⟨_, resources, ⟨path, length, metadata, layers, elim_eq_ok located,
        mapError_eq_ok readable, mapError_eq_ok inspected, elim_eq_ok counted, rfl,
        measured.2⟩, planned⟩
  | startPlanned model planId => cases stores

/-- The stored plan is that of the last request that stored one. -/
theorem latestPlan_eq_some {requests : List (Host × PlanRequest)} {stored : Plan}
    (latest : latestPlan share config requests = some stored) :
    ∃ before madeAt request after, requests = before ++ (madeAt, request) :: after ∧
      (∀ later ∈ after, later.2.stores share config later.1 = none) ∧
      request.stores share config madeAt = some stored := by
  induction requests using List.reverseRecOn with
  | nil => cases latest
  | append_singleton requests last inductionHypothesis =>
      unfold latestPlan at latest inductionHypothesis
      rw [List.foldl_append, List.foldl_cons, List.foldl_nil] at latest
      cases made : last.2.stores share config last.1 with
      | some other =>
          rw [made] at latest
          exact ⟨requests, last.1, last.2, [], rfl, by simp, made.trans latest⟩
      | none =>
          rw [made, Option.none_or] at latest
          obtain ⟨before, madeAt, request, after, rfl, silent, stores⟩ := inductionHypothesis latest
          refine ⟨before, madeAt, request, after ++ [last], by simp, ?_, stores⟩
          intro later member
          rcases List.mem_append.mp member with earlier | isLast
          · exact silent later earlier
          · rw [List.mem_singleton.mp isLast]
            exact made

/-- What the identity check of a start lets through. -/
theorem validatePlanIdentity_eq_ok {latest : Option Plan} {model planId : String} {stored : Plan}
    (done : validatePlanIdentity latest model planId = .ok stored) :
    latest = some stored ∧ stored.planId = planId ∧ stored.model = model ∧
      stored.safe = true := by
  cases latest with
  | none => cases done
  | some found =>
      simp only [validatePlanIdentity] at done
      split_ifs at done with differs safe
      cases done
      rw [not_or, not_not, not_not] at differs
      exact ⟨rfl, differs.1, differs.2, safe⟩

theorem validateResourceGeneration_eq_ok {stored : Plan} {generation : String}
    (done : validateResourceGeneration stored generation = .ok ()) :
    stored.resourceGeneration = generation := by
  unfold validateResourceGeneration at done
  split_ifs at done with differs
  exact not_not.mp differs

/-- The configuration of a worker comes from the file, whose own plan is safe. -/
theorem resolveWorkerConfig_eq_ok {model path : String} {resources : Resources}
    {worker : WorkerConfig}
    (done : resolveWorkerConfig share config host model path resources = .ok worker) :
    ∃ length, host.fileLength path = .ok length ∧ startLayers host path ≤ 4294967295 ∧
      (plan share (startProfile config model length (startLayers host path).toUInt32)
        resources).safe = true ∧ worker.modelPath = some path := by
  obtain ⟨length, readable, done⟩ := bind_eq_ok done
  by_cases small : startLayers host path ≤ 4294967295
  · simp only [if_pos small, bind, Except.bind] at done
    by_cases safe : (plan share (startProfile config model length
        (startLayers host path).toUInt32) resources).safe = true
    · rw [if_pos safe] at done
      cases done
      exact ⟨length, mapError_eq_ok readable, small, safe, rfl⟩
    · rw [if_neg safe] at done
      cases done
  · simp only [if_neg small, bind, Except.bind] at done
    cases done

/-- What a start has checked when it reaches its worker. -/
theorem checked_of_plannedWorker {requests : List (Host × PlanRequest)} {model planId : String}
    {worker : WorkerConfig}
    (done : plannedWorker share config host (latestPlan share config requests) model planId =
      .ok worker) : Checked share config requests host model planId worker := by
  obtain ⟨stored, identity, done⟩ := bind_eq_ok done
  obtain ⟨resources, measured, done⟩ := bind_eq_ok done
  obtain ⟨_, generation, done⟩ := bind_eq_ok done
  obtain ⟨latest, isPlan, sameModel, safe⟩ := validatePlanIdentity_eq_ok identity
  unfold configWithPlan at done
  split_ifs at done with busy
  · cases done
  obtain ⟨resolved, resolves, done⟩ := bind_eq_ok done
  obtain ⟨path, located, resolves⟩ := bind_eq_ok resolves
  obtain ⟨length, readable, small, own, isPath⟩ := resolveWorkerConfig_eq_ok resolves
  cases done
  constructor
  · obtain ⟨before, madeAt, request, after, parts, silent, stores⟩ := latestPlan_eq_some latest
    obtain ⟨profile, planned, plansFor, rfl⟩ := plansFor_of_stores stores
    obtain ⟨isModel, isGeneration⟩ := plan_planId share profile planned
    refine ⟨before, madeAt, request, after, profile, planned, parts, silent, plansFor, safe,
      isPlan, isModel.symm.trans sameModel, ⟨resources, measured, ?_⟩, rfl, rfl⟩
    exact isGeneration.symm.trans (validateResourceGeneration_eq_ok generation)
  · exact ⟨path, length, resources, isPath, located, readable, measured, small, own⟩

end Inversion

/-! ## A plan for other layers -/

/-- No plan puts more layers on the GPU than its profile has. -/
theorem gpuLayers_le (share : LayerShare) (profile : ModelProfile) (resources : Resources) :
    (plan share profile resources).gpuLayers.toNat ≤ profile.layers.toNat := by
  show (draft share profile (normalizeResources resources) .default _
    (decision profile (normalizeResources resources) .default)).gpuLayers.toNat ≤ _
  cases decision profile (normalizeResources resources) .default with
  | gpuFast => exact Nat.le_refl _
  | ramBalanced =>
      show (min _ (if profile.layers = 0 then 0 else profile.layers - 1)).toNat ≤ _
      rw [toNat_min]
      split
      · exact (Nat.min_le_right _ _).trans (Nat.zero_le _)
      · rename_i known
        have one : (1 : UInt32) ≤ profile.layers := by
          rw [UInt32.le_iff_toNat_le]
          exact toNat_pos known
        rw [UInt32.toNat_sub_of_le _ _ one]
        exact (Nat.min_le_right _ _).trans (Nat.sub_le _ _)
  | unknownLayers | cpuSafe | noLane => exact Nat.zero_le _

/-- The host with 64000 MiB of VRAM and the file of 32 layers. -/
def roomyHost : Host :=
  { tightHost (some 4096) with snapshot := .ok ⟨64000, 4096, 100000⟩ }

/-- A profile that a client sends for that file: 100 layers. -/
def otherLayers : ModelProfile where
  model := "m"
  fileSizeMb := 100
  estimatedGpuMb := 100
  estimatedRamMb := 100
  layers := 100
  contextTokens := 4096
  requestedContextTokens := 4096

/-- What the client's plan makes of the start: 100 layers on the GPU. -/
def startedWorker : WorkerConfig where
  binary := "llama-server"
  model := "m"
  modelPath := some "/models/m.gguf"
  host := "127.0.0.1"
  port := 8901
  gpuLayers := 100
  ctxSize := 4096

/-- The plan that the client's request stores. -/
def otherPlan : Plan :=
  plan f64LayerShare otherLayers
    (defaultResourcesFromSnapshot ⟨64000, 4096, 100000⟩ tightConfig)

theorem startedWorker_starts :
    plannedWorker f64LayerShare tightConfig roomyHost
      (latestPlan f64LayerShare tightConfig [(roomyHost, .plan otherLayers none)]) "m"
      otherPlan.planId = .ok startedWorker := by
  decide +kernel

/-- The start has checked the client's plan and its own. -/
theorem startedWorker_checked :
    Checked f64LayerShare tightConfig [(roomyHost, .plan otherLayers none)] roomyHost "m"
      otherPlan.planId startedWorker :=
  checked_of_plannedWorker startedWorker_starts

/-- No plan for the 32 layers of the file has the 100 layers of the client. -/
theorem startedWorker_not_forFile :
    plannedWorker f64LayerShare tightConfig roomyHost
        (latestPlan f64LayerShare tightConfig [(roomyHost, .plan otherLayers none)]) "m"
        otherPlan.planId = .ok startedWorker ∧
      ¬ PlannedForFile f64LayerShare tightConfig roomyHost startedWorker := by
  refine ⟨startedWorker_starts, ?_⟩
  intro forFile
  obtain ⟨path, length, profile, resources, isPath, _, _, _, layers, _, follows⟩ := forFile
  have few := gpuLayers_le f64LayerShare profile resources
  have count : (startLayers roomyHost path).toNat = 32 := rfl
  rw [← follows.1, layers, count] at few
  exact absurd few (by decide)

end TriAI.Planner
