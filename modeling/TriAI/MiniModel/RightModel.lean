import TriAI.Library.Runs
import TriAI.Library.Subprogram
import TriAI.MiniModel.Model
import TriAI.Supervisor.Effects

/-!
Contract: which worker runs when the controller of the mini models reports success.

Owns: `Spawned`, the commands the children were started with; `Serving`, the invariant of
an engine that only the controller drives; and the theorem about every run.

Does not own: an engine that others drive as well.

The controller recognizes a running model by its id alone, and a manifest may give both of
its models one id.
-/

set_option autoImplicit false

namespace TriAI.MiniModel

open TriAI.Library.Interaction
open TriAI.Library.Runs
open TriAI.Supervisor
open TriAI.Supervisor.WorkerSupervisor

/-- The command each child was started with. -/
abbrev Spawned : Type := Nat → Option Command

/-- A spawn that succeeds records its command. -/
def Spawned.Answers (before : Spawned) : (op : SysOp) → op.Reply → Spawned → Prop
  | .spawn command, .ok (child, _), after =>
      after = Function.update before child.pid (some command)
  | _, _, after => after = before

/-- The supervisor holds a child that was started with the command. -/
def Holds (supervisor : WorkerSupervisor) (command : Command) (spawned : Spawned) : Prop :=
  ∃ child, supervisor.child = some child ∧ spawned child.pid = some command

/-- A start that succeeds holds its child. -/
def HoldsIfOk {ε : Type} (command : Command) (result : Except ε Unit × WorkerSupervisor)
    (spawned : Spawned) : Prop :=
  result.1 = .ok () → Holds result.2 command spawned

theorem holdsIfOk_error {ε : Type} {command : Command} {error : ε} {supervisor : WorkerSupervisor}
    {spawned : Spawned} : HoldsIfOk command (.error error, supervisor) spawned := by
  intro fails
  cases fails

/-! ## Starting -/

private theorem startLocked_holds (self : WorkerSupervisor) (cfg : WorkerConfig)
    (spawned : Spawned) :
    wlp (stepping Spawned.Answers) (self.startLocked cfg)
      (HoldsIfOk cfg.command) spawned := by
  unfold startLocked
  refine wlp_perform trivial fun reply after answered => ?_
  rcases reply with error | ⟨child, _ | _⟩
  · refine wlp_stepping_skip (fun _ _ => ?_) after
    exact holdsIfOk_error
  · refine wlp_stepping_skip (fun _ => wlp_stepping_skip fun _ _ => ?_) after
    exact holdsIfOk_error
  · refine wlp_perform trivial fun capture last same _ => ?_
    refine ⟨child, rfl, ?_⟩
    rw [same, answered, Function.update_self]

theorem start_holds (self : WorkerSupervisor) (cfg : WorkerConfig) (spawned : Spawned) :
    wlp (stepping Spawned.Answers) (self.start cfg)
      (HoldsIfOk cfg.command) spawned := by
  unfold start
  split
  · exact holdsIfOk_error
  · refine wlp_perform trivial fun acquired seen _ => ?_
    cases acquired with
    | error error =>
        exact holdsIfOk_error
    | ok lease =>
        refine wlp_stepping_skip (fun _ seen => ?_) seen
        unfold startLeased
        refine wlp_perform trivial fun opened seen _ => ?_
        cases opened with
        | error error =>
            exact holdsIfOk_error
        | ok lock =>
            refine wlp_stepping_skip (fun locked seen => ?_) seen
            cases locked with
            | true => exact wlp_stepping_skip (fun _ => startLocked_holds _ cfg) seen
            | false =>
                refine wlp_stepping_skip (fun _ => wlp_stepping_skip fun _ _ => ?_) seen
                exact holdsIfOk_error

private theorem giveUp_holds (self : WorkerSupervisor) (terminate : Bool)
    (failure : String → WorkerFailure) (command : Command) (spawned : Spawned) :
    wlp (stepping Spawned.Answers) (self.giveUp terminate failure)
      (HoldsIfOk command) spawned := by
  unfold giveUp
  refine wlp_stepping_skip (fun _ _ => ?_) spawned
  exact holdsIfOk_error

/-- Run lemma of the waiting loop: it starts no child. -/
theorem waitReady_holds {self : WorkerSupervisor} (cfg : WorkerConfig)
    (timeout deadline iterations : Nat) {command : Command} {spawned : Spawned}
    (holds : Holds self command spawned) :
    wlp (stepping Spawned.Answers) (self.waitReady cfg timeout deadline iterations)
      (HoldsIfOk command) spawned := by
  induction iterations generalizing spawned with
  | zero => exact ⟨trivial, fun reply => reply.elim⟩
  | succ iterations inductionHypothesis =>
      unfold waitReady
      cases self.child with
      | none => exact giveUp_holds self _ _ command spawned
      | some child =>
          refine wlp_perform trivial fun status seen unchanged => ?_
          obtain rfl : seen = spawned := unchanged
          rcases status with error | _ | status
          · exact giveUp_holds self _ _ command seen
          · refine wlp_perform trivial fun connected seen unchanged => ?_
            obtain rfl := unchanged
            cases connected with
            | true =>
                refine ⟨trivial, fun response probed unchanged => ?_⟩
                obtain rfl := unchanged
                show wlp _ (if response.bind healthStatusReady = some false then _ else _) _ _
                split
                · refine wlp_perform trivial fun _ later unchanged => ?_
                  obtain rfl := unchanged
                  exact inductionHypothesis holds
                · exact fun _ => holds
            | false =>
                refine wlp_perform trivial fun time seen unchanged => ?_
                obtain rfl := unchanged
                split
                · exact giveUp_holds self _ _ command _
                · refine wlp_perform trivial fun _ later unchanged => ?_
                  obtain rfl := unchanged
                  exact inductionHypothesis holds
          · exact giveUp_holds self _ _ command seen

theorem startAndWait_holds (self : WorkerSupervisor) (cfg : WorkerConfig)
    (timeout iterations : Nat) (spawned : Spawned) :
    wlp (stepping Spawned.Answers) (self.startAndWait cfg timeout iterations)
      (HoldsIfOk cfg.command) spawned := by
  unfold startAndWait
  refine wlp_perform trivial fun connected seen _ => ?_
  cases connected with
  | true =>
      exact holdsIfOk_error
  | false =>
      refine wlp_seq (start_holds self cfg seen) ?_
      rintro ⟨error | ⟨⟩, started⟩ later holds
      · exact holdsIfOk_error
      · refine wlp_perform trivial fun time now unchanged => ?_
        obtain rfl := unchanged
        exact waitReady_holds cfg timeout _ iterations (holds rfl)

theorem startAndWaitWithRetry_holds (self : WorkerSupervisor) (cfg : WorkerConfig)
    (timeout iterations : Nat) (spawned : Spawned) :
    wlp (stepping Spawned.Answers) (self.startAndWaitWithRetry cfg timeout iterations)
      (HoldsIfOk cfg.command) spawned := by
  unfold startAndWaitWithRetry
  refine wlp_seq (startAndWait_holds self cfg timeout iterations spawned) ?_
  rintro ⟨first | ⟨⟩, stopped⟩ later holds
  · by_cases conflict : first.code = .portConflict
    · simp only [conflict, if_true]
      refine wlp_perform trivial fun connected seen _ => ?_
      cases connected with
      | true =>
          exact holdsIfOk_error
      | false => exact startAndWait_holds _ cfg timeout iterations seen
    · simp only [conflict, if_false]
      exact holdsIfOk_error
  · exact holds

/-! ## Serving -/

/-- The engine is ready with the model of a configuration, whose worker it holds. -/
structure ServesConfig (cfg : WorkerConfig) (engine : Engine) (spawned : Spawned) : Prop where
  state : engine.state = .ready
  activeModel : engine.activeModel = some cfg.model
  holds : Holds engine.supervisor cfg.command spawned

/-- What an attempt to serve a configuration leaves. -/
def Attempted {ε : Type} (cfg : WorkerConfig) (result : Except ε Unit × Engine)
    (spawned : Spawned) : Prop :=
  match result with
  | (.ok (), engine) => ServesConfig cfg engine spawned
  | (.error _, engine) => engine.state ≠ .ready

/-- A worker that is started and waited for serves, or the engine has failed. -/
private theorem startAndWait_attempted (self : Engine) (cfg : WorkerConfig)
    (timeout iterations : Nat) (spawned : Spawned) :
    wlp (stepping Spawned.Answers)
      (do
        match ← self.supervisor.startAndWaitWithRetry cfg timeout iterations with
        | (.ok (), ready) => pure (.ok (), self.running ready cfg .ready)
        | (.error failure, stopped) => pure (.error failure, self.settled stopped .failed))
      (Attempted cfg) spawned := by
  refine wlp_seq (startAndWaitWithRetry_holds self.supervisor cfg timeout iterations spawned) ?_
  rintro ⟨failure | ⟨⟩, supervisor⟩ after holds
  · simp [Attempted, Engine.settled]
  · exact ⟨rfl, rfl, holds rfl⟩

theorem startModelReady_attempted {self : Engine} (notReady : self.state ≠ .ready)
    (cfg : WorkerConfig) (timeout iterations : Nat) (spawned : Spawned) :
    wlp (stepping Spawned.Answers) (self.startModelReady cfg timeout iterations) (Attempted cfg)
      spawned := by
  unfold Engine.startModelReady
  split
  · exact notReady
  · exact startAndWait_attempted self cfg timeout iterations spawned

theorem recoverWithFallback_attempted {self : Engine} (notReady : self.state ≠ .ready)
    (cfg : WorkerConfig) (timeout iterations : Nat) (spawned : Spawned) :
    wlp (stepping Spawned.Answers) (self.recoverWithFallback cfg timeout iterations)
      (Attempted cfg) spawned := by
  unfold Engine.recoverWithFallback
  split
  · exact notReady
  · exact startAndWait_attempted self cfg timeout iterations spawned

/-- A stop leaves an engine that is not ready. -/
theorem stopModel_notReady {self : Engine} (ready : self.state = .ready) (spawned : Spawned) :
    wlp (stepping Spawned.Answers) self.stopModel (fun result _ => result.2.state ≠ .ready)
      spawned := by
  unfold Engine.stopModel
  split
  · rename_i busy
    rw [ready] at busy
    cases busy
  · refine wlp_stepping_skip (fun stopped after => ?_) spawned
    obtain ⟨error | ⟨⟩, supervisor⟩ := stopped
    · simp
    · simp [Engine.settled]

theorem serve_attempted (engine : Engine) (cfg : WorkerConfig) (runtime : MiniRuntimeConfig)
    (iterations : Nat) (spawned : Spawned) :
    wlp (stepping Spawned.Answers) (MiniModelSupervisor.serve engine cfg runtime iterations)
      (Attempted cfg) spawned := by
  unfold MiniModelSupervisor.serve
  split
  · rename_i ready
    refine wlp_seq (stopModel_notReady ready spawned) ?_
    rintro ⟨error | ⟨⟩, stopped⟩ after notReady
    · exact notReady
    · exact startModelReady_attempted notReady cfg _ iterations after
  · rename_i idle
    exact startModelReady_attempted (by simp [idle]) cfg _ iterations spawned
  · rename_i degraded
    exact recoverWithFallback_attempted (by simp [degraded]) cfg _ iterations spawned
  · rename_i failed
    exact recoverWithFallback_attempted (by simp [failed]) cfg _ iterations spawned
  all_goals
    rename_i state
    simp [Attempted, state]

/-! ## The controller -/

section Controller

variable (sha256Hex : List UInt8 → String) (files : ModelFiles) (manifest : MiniModelManifest)
  (projectRoot : String)

/-- The supervisor holds a worker that was started with the path of an entry. -/
def RunsModel (spec : MiniModelSpec) (engine : Engine) (spawned : Spawned) : Prop :=
  ∃ path command, spec.resolvedPath projectRoot = .ok path ∧
    Holds engine.supervisor command spawned ∧ command.args.take 2 = ["--model", path]

/-- The worker of an entry runs, and its file has the digest of the entry. -/
def RightModel (active : ActiveMiniModel) (engine : Engine) (spawned : Spawned) : Prop :=
  RunsModel projectRoot (manifest.spec active) engine spawned ∧
    (manifest.spec active).verifyDigest sha256Hex files projectRoot = .ok ()

/-- The invariant: an engine that is ready runs the entry whose id it reports. -/
def Serving (engine : Engine) (spawned : Spawned) : Prop :=
  engine.state = .ready → ∃ which, engine.activeModel = some (manifest.spec which).id ∧
    RunsModel projectRoot (manifest.spec which) engine spawned

/-- What the controller leaves: it returns a right model, if any. -/
def Ensured (result : Except WorkerFailure ActiveMiniModel) (engine : Engine)
    (spawned : Spawned) : Prop :=
  Serving manifest projectRoot engine spawned ∧
    ∀ active, result = .ok active →
      RightModel sha256Hex files manifest projectRoot active engine spawned

end Controller

variable {sha256Hex : List UInt8 → String} {files : ModelFiles} {manifest : MiniModelManifest}
  {projectRoot : String}

/-- A worker that was started for an entry. -/
theorem ServesConfig.runsModel {spec : MiniModelSpec} {runtime : MiniRuntimeConfig}
    {cfg : WorkerConfig} {engine : Engine} {spawned : Spawned}
    (serves : ServesConfig cfg engine spawned)
    (configures : workerConfig spec projectRoot runtime = .ok cfg) :
    engine.activeModel = some spec.id ∧ RunsModel projectRoot spec engine spawned := by
  unfold workerConfig at configures
  cases resolves : spec.resolvedPath projectRoot with
  | error error =>
      rw [resolves] at configures
      cases configures
  | ok path =>
      rw [resolves] at configures
      obtain rfl := Except.ok.inj configures
      exact ⟨serves.activeModel, path, _, resolves, serves.holds, rfl⟩

/-- Two entries with one id are one entry. -/
theorem eq_of_id (distinct : manifest.primaryMiniModel.id ≠ manifest.fallbackMiniModel.id)
    {first second : ActiveMiniModel}
    (same : (manifest.spec first).id = (manifest.spec second).id) : first = second := by
  cases first <;> cases second
  · rfl
  · exact absurd same distinct
  · exact absurd same.symm distinct
  · rfl

/-- One attempt. -/
theorem startSelected_ensured {self : MiniModelSupervisor}
    (distinct : self.manifest.primaryMiniModel.id ≠ self.manifest.fallbackMiniModel.id)
    {engine : Engine} {spawned : Spawned} (serving : Serving self.manifest projectRoot engine spawned)
    (runtime : MiniRuntimeConfig) (iterations : Nat) :
    wlp (stepping Spawned.Answers)
      (self.startSelected sha256Hex files engine projectRoot runtime iterations)
      (fun result after =>
        Ensured sha256Hex files self.manifest projectRoot result.1 result.2 after) spawned := by
  unfold MiniModelSupervisor.startSelected
  split
  · exact ⟨serving, fun _ fails => nomatch fails⟩
  · rename_i verified
    split
    · rename_i current
      refine ⟨serving, fun active same => ?_⟩
      obtain rfl := Except.ok.inj same
      obtain ⟨which, isModel, runs⟩ := serving current.2
      have isActive : which = self.active := by
        apply eq_of_id distinct
        exact Option.some.inj (isModel.symm.trans current.1)
      rw [isActive] at runs
      exact ⟨runs, verified⟩
    · split
      · exact ⟨serving, fun _ fails => nomatch fails⟩
      · rename_i cfg configures
        refine wlp_seq (serve_attempted engine cfg runtime iterations spawned) ?_
        rintro ⟨failure | ⟨⟩, engine⟩ after attempted
        · exact ⟨fun ready => absurd ready attempted, fun _ fails => nomatch fails⟩
        · obtain ⟨isModel, runs⟩ := ServesConfig.runsModel attempted configures
          refine ⟨fun _ => ⟨self.active, isModel, runs⟩, fun active same => ?_⟩
          obtain rfl := Except.ok.inj same
          exact ⟨runs, verified⟩

theorem manifest_underPressure (self : MiniModelSupervisor) (vramPressure : Bool) :
    (self.underPressure vramPressure).manifest = self.manifest := by
  unfold MiniModelSupervisor.underPressure
  split
  · rfl
  · rfl

/-- One call of `ensure_ready`. -/
theorem ensureReady_ensured {self : MiniModelSupervisor}
    (distinct : self.manifest.primaryMiniModel.id ≠ self.manifest.fallbackMiniModel.id)
    {engine : Engine} {spawned : Spawned} (serving : Serving self.manifest projectRoot engine spawned)
    (runtime : MiniRuntimeConfig) (vramPressure : Bool) (iterations : Nat) :
    wlp (stepping Spawned.Answers)
      (self.ensureReady sha256Hex files engine projectRoot runtime vramPressure iterations)
      (fun result after => result.2.1.manifest = self.manifest ∧
        Ensured sha256Hex files self.manifest projectRoot result.1 result.2.2 after) spawned := by
  unfold MiniModelSupervisor.ensureReady
  have same := manifest_underPressure self vramPressure
  generalize self.underPressure vramPressure = chosen at same
  rw [← same] at distinct serving ⊢
  refine wlp_seq (startSelected_ensured distinct serving runtime iterations) ?_
  rintro ⟨failure | active, engine⟩ after ensured
  · dsimp only
    split
    · have distinctAgain : chosen.failOver.manifest.primaryMiniModel.id ≠
          chosen.failOver.manifest.fallbackMiniModel.id := distinct
      refine wlp_seq (startSelected_ensured distinctAgain ensured.1 runtime iterations) ?_
      exact fun result last again => ⟨rfl, again⟩
    · exact ⟨rfl, ensured⟩
  · exact ⟨rfl, ensured⟩

/-! ## Runs -/

/-- A call of `ensure_ready` with its result, and the engine and the children it leaves. -/
structure Call where
  projectRoot : String
  runtime : MiniRuntimeConfig
  vramPressure : Bool
  result : Except WorkerFailure ActiveMiniModel
  engine : Engine
  spawned : Spawned

/-- The controller, the engine it drives and the children that were started. -/
structure Controlled where
  controller : MiniModelSupervisor
  engine : Engine
  spawned : Spawned

/-- A new controller with a new engine. -/
def Controlled.new (manifest : MiniModelManifest) : Controlled :=
  ⟨{ manifest }, {}, fun _ => none⟩

/-- One call of a run. -/
structure Calls (sha256Hex : List UInt8 → String) (files : ModelFiles) (before : Controlled)
    (call : Call) (after : Controlled) : Prop where
  leaves : call.engine = after.engine ∧ call.spawned = after.spawned
  runs : ∃ iterations, Prog.Exec Spawned.Answers before.spawned
    (before.controller.ensureReady sha256Hex files before.engine call.projectRoot call.runtime
      call.vramPressure iterations) (call.result, after.controller, after.engine) after.spawned

/-- Run lemma: with two ids and one project root, whatever model a call returns is the one
that runs. -/
theorem ensureReady_rightModel
    (distinct : manifest.primaryMiniModel.id ≠ manifest.fallbackMiniModel.id)
    {history : List Call} {last : Controlled}
    (run : Run (fun before call after =>
      Calls sha256Hex files before call after ∧ call.projectRoot = projectRoot)
      (Controlled.new manifest) history last) :
    ∀ call ∈ history, ∀ active, call.result = .ok active →
      RightModel sha256Hex files manifest projectRoot active call.engine call.spawned := by
  have invariant : (last.controller.manifest = manifest ∧
      Serving manifest projectRoot last.engine last.spawned) ∧
      ∀ call ∈ history, ∀ active, call.result = .ok active →
        RightModel sha256Hex files manifest projectRoot active call.engine call.spawned := by
    apply run.invariant fun history last => (last.controller.manifest = manifest ∧
      Serving manifest projectRoot last.engine last.spawned) ∧
      ∀ call ∈ history, ∀ active, call.result = .ok active →
        RightModel sha256Hex files manifest projectRoot active call.engine call.spawned
    · refine ⟨⟨rfl, fun ready => ?_⟩, by simp⟩
      cases ready
    · rintro history before call after ⟨⟨isManifest, serving⟩, earlier⟩ ⟨calls, isRoot⟩
      obtain ⟨⟨isEngine, isSpawned⟩, iterations, exec⟩ := calls
      obtain rfl := isManifest
      obtain rfl := isRoot
      obtain ⟨isManifest, ensured⟩ := exec.of_stepping (ensureReady_ensured distinct serving
        call.runtime call.vramPressure iterations)
      refine ⟨⟨isManifest, ensured.1⟩, fun again member => ?_⟩
      rcases List.mem_append.mp member with before | now
      · exact earlier again before
      · rw [List.mem_singleton.mp now, isEngine, isSpawned]
        exact ensured.2
  exact invariant.2

/-! ## Recorded runs -/

/-- Two model files of one byte. -/
def sampleFiles : ModelFiles where
  metadata := fun _ => .ok (true, 1)
  content := fun path => .ok (if path = "/r/a.gguf" then [1] else [2])

/-- The digests of the two contents. -/
def sampleDigest (bytes : List UInt8) : String :=
  if bytes = [1] then "4bf5122f344554c53bde2ebb8cd2b7e3d1600ad631c385a5d7cce23c7785459a"
  else "dbc1b4c900ffe48d575b5da5c638040125f65db0fe3e24494b76ea986457d986"

/-- A manifest of the two files. -/
def sampleManifest (primary fallback : String) : MiniModelManifest where
  schemaVersion := 1
  primaryMiniModel :=
    ⟨primary, "a.gguf", 1, "4bf5122f344554c53bde2ebb8cd2b7e3d1600ad631c385a5d7cce23c7785459a"⟩
  fallbackMiniModel :=
    ⟨fallback, "b.gguf", 1, "dbc1b4c900ffe48d575b5da5c638040125f65db0fe3e24494b76ea986457d986"⟩

def sampleRuntime : MiniRuntimeConfig := ⟨"/bin/sleep", "127.0.0.1", 19101, 0, 4096, 0⟩

/-- The configuration of the primary model. -/
def sampleConfig (primary : String) : WorkerConfig :=
  ⟨"/bin/sleep", primary, some "/r/a.gguf", "127.0.0.1", 19101, 0, 4096⟩

/-- The replies of a first call whose worker is ready at once. -/
def sampleTrace (primary : String) : List (Event SysOp SysOp.Reply) :=
  [⟨.connect "127.0.0.1" 19101, false⟩, ⟨.acquireSlot primary, .ok ⟨primary⟩⟩,
    ⟨.openLockFile, .ok ⟨3⟩⟩, ⟨.flock ⟨3⟩, true⟩,
    ⟨.spawn (sampleConfig primary).command, .ok (⟨100⟩, true)⟩, ⟨.startCapture ⟨100⟩, ⟨1⟩⟩,
    ⟨.now, (0 : Nat)⟩, ⟨.tryWait ⟨100⟩, .ok none⟩, ⟨.connect "127.0.0.1" 19101, true⟩,
    ⟨.healthResponse "127.0.0.1" 19101, none⟩]

/-- The engine that it leaves. -/
def sampleEngine (primary : String) : Engine where
  supervisor :=
    { child := some ⟨100⟩, state := .ready, activeModel := some primary,
      slotLock := some ⟨3⟩, processSlot := some ⟨primary⟩, stderrCapture := some ⟨1⟩ }
  state := .ready
  activeModel := some primary
  workerEndpoint := some ("127.0.0.1", 19101)
  lastConfig := some (sampleConfig primary)

/-- The children that were started. -/
def sampleSpawned (primary : String) : Spawned :=
  Function.update (fun _ => none) 100 (some (sampleConfig primary).command)

/-- The first call and what it leaves. -/
def sampleCall (primary : String) : Call :=
  ⟨"/r", sampleRuntime, false, .ok .primary, sampleEngine primary, sampleSpawned primary⟩

def sampleControlled (primary fallback : String) : Controlled :=
  ⟨{ manifest := sampleManifest primary fallback }, sampleEngine primary, sampleSpawned primary⟩

private theorem calls_sampleCall (primary fallback : String) :
    Calls sampleDigest sampleFiles (Controlled.new (sampleManifest primary fallback))
      (sampleCall primary) (sampleControlled primary fallback) := by
  refine ⟨⟨rfl, rfl⟩, 1, ?_⟩
  have served : Prog.Returns
      (MiniModelSupervisor.serve {} (sampleConfig primary) sampleRuntime 1) (sampleTrace primary)
      (.ok (), sampleEngine primary) :=
    .call _ (.call _ (.call _ (.call _ (.call _ (.call _ (.call _ (.call _ (.call _
      (.call _ (.ret _))))))))))
  have resolves : (sampleManifest primary fallback).primaryMiniModel.resolvedPath "/r" =
      .ok "/r/a.gguf" := by
    have inside : ¬ ("a.gguf".toList.head? = some '/' ∨
        ("a.gguf".toList.splitOn '/').any (· = ['.', '.']) = true) := by decide +kernel
    have joined : joinPath "/r" "a.gguf" = "/r/a.gguf" := by decide +kernel
    exact (if_neg inside).trans (congrArg Except.ok joined)
  have verified : (sampleManifest primary fallback).primaryMiniModel.verifyDigest sampleDigest
      sampleFiles "/r" = .ok () := by
    refine MiniModelSpec.verifyDigest_eq_ok.mpr ⟨"/r/a.gguf", resolves, ?_⟩
    show Except.ok (sampleDigest [1]) = _
    rfl
  have selected : Prog.Returns
      (MiniModelSupervisor.startSelected sampleDigest sampleFiles
        { manifest := sampleManifest primary fallback } {} "/r" sampleRuntime 1)
      (sampleTrace primary ++ []) (.ok .primary, sampleEngine primary) := by
    unfold MiniModelSupervisor.startSelected workerConfig MiniModelSupervisor.activeSpec
      MiniModelManifest.spec
    simp only [verified, resolves, Except.map]
    show Prog.Returns
      (MiniModelSupervisor.serve {} (sampleConfig primary) sampleRuntime 1 >>= _) _ _
    exact served.bind (.ret _)
  have returns : Prog.Returns
      (MiniModelSupervisor.ensureReady sampleDigest sampleFiles
        { manifest := sampleManifest primary fallback } {} "/r" sampleRuntime false 1)
      (sampleTrace primary ++ [] ++ [])
      (.ok .primary, { manifest := sampleManifest primary fallback }, sampleEngine primary) := by
    unfold MiniModelSupervisor.ensureReady
    exact selected.bind (.ret _)
  rw [List.append_nil, List.append_nil] at returns
  have spawns : Follows Spawned.Answers (fun _ => none) (sampleTrace primary)
      (sampleSpawned primary) :=
    ⟨_, rfl, _, rfl, _, rfl, _, rfl, _, rfl, _, rfl, _, rfl, _, rfl, _, rfl, _, rfl, rfl⟩
  exact returns.exec spawns

/-- The primary model runs after the first call. -/
theorem ensureReady_rightModel_first :
    RightModel sampleDigest sampleFiles (sampleManifest "primary" "fallback") "/r" .primary
      (sampleEngine "primary") (sampleSpawned "primary") := by
  have distinct : (sampleManifest "primary" "fallback").primaryMiniModel.id ≠
      (sampleManifest "primary" "fallback").fallbackMiniModel.id := by decide
  exact ensureReady_rightModel distinct
    (Run.start.step ⟨calls_sampleCall "primary" "fallback", rfl⟩)
    (sampleCall "primary") (List.mem_singleton.mpr rfl) .primary rfl

/-- A second call, under VRAM pressure. -/
def pressureCall : Call :=
  ⟨"/r", sampleRuntime, true, .ok .fallback, sampleEngine "m", sampleSpawned "m"⟩

private theorem calls_pressureCall :
    Calls sampleDigest sampleFiles (sampleControlled "m" "m") pressureCall
      ⟨{ manifest := sampleManifest "m" "m", active := .fallback, failoverCount := 1 },
        sampleEngine "m", sampleSpawned "m"⟩ := by
  refine ⟨⟨rfl, rfl⟩, 0, ?_⟩
  have returns : Prog.Returns
      (MiniModelSupervisor.ensureReady sampleDigest sampleFiles
        { manifest := sampleManifest "m" "m" } (sampleEngine "m") "/r" sampleRuntime true 0) []
      (.ok .fallback,
        { manifest := sampleManifest "m" "m", active := .fallback, failoverCount := 1 },
        sampleEngine "m") := .ret _
  exact returns.exec rfl

/-- Two models with one id: the fallback is reported while the primary runs. -/
theorem ensureReady_not_rightModel_sameId :
    (sampleManifest "m" "m").validate sampleFiles "/r" = .ok () ∧
      ∃ history last, Run (Calls sampleDigest sampleFiles) (Controlled.new (sampleManifest "m" "m"))
        history last ∧
        ∃ call ∈ history, call.result = .ok .fallback ∧
          ¬ RightModel sampleDigest sampleFiles (sampleManifest "m" "m") "/r" .fallback
            call.engine call.spawned := by
  refine ⟨rfl, _, _, (Run.start.step (calls_sampleCall "m" "m")).step calls_pressureCall,
    pressureCall, by simp, rfl, ?_⟩
  rintro ⟨⟨path, command, resolves, ⟨child, held, started⟩, args⟩, _⟩
  obtain rfl := Option.some.inj held
  obtain rfl := Option.some.inj started
  obtain rfl := Except.ok.inj resolves
  revert args
  decide +kernel

end TriAI.MiniModel
