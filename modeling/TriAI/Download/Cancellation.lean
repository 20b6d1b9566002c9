import TriAI.Download.LocalCalls
import TriAI.Library.Polling

/-!
Contract: a download that is cancelled while it runs (`download.rs`).

Owns: `cancel`, its interleavings with `run_download`, and what a cancellation that was
acknowledged in time comes to.

Does not own: the disk and the server, which may reply anything here.
-/

set_option autoImplicit false

namespace TriAI.Download

open TriAI.Library.FileTree
open TriAI.Library.Interaction
open TriAI.Staging
open TriAI.Storage

/-! ## Runs and cancellations -/

/-- `DownloadHandle` with its flag, and what the statements about it remember: that a `cancel`
returned `Ok` before the phase was terminal, that the run has found the flag set, and
that the file was put into the models directory. -/
structure CancelWorld where
  handle : DownloadHandle := {}
  flag : Bool := false
  acknowledged : Bool := false
  noticed : Bool := false
  installed : Bool := false
deriving DecidableEq, Repr

def DownloadPhase.terminal : DownloadPhase → Bool
  | .downloading | .verifying => false
  | .completed | .failed | .cancelled => true

/-- The call of `restore_active` by which the target appears. -/
def Job.installs (job : Job) : StoreOp → Bool
  | .rename _ target => target = targetPath job.modelsDir job.request
  | _ => false

/-- The answers to the run. The disk and the server may reply anything. -/
def CancelWorld.Answers (job : Job) (world : CancelWorld) :
    (op : DownloadOp) → op.Reply → CancelWorld → Prop
  | .store op, _, after => after = { world with installed := world.installed || job.installs op }
  | .outside .cancelRequested, cancelled, after =>
      cancelled = world.flag ∧ after = { world with noticed := world.noticed || cancelled }
  | .outside _, _, after => after = world
  | .handle op, reply, after =>
      op.apply world.handle = (reply, after.handle) ∧ after = { world with handle := after.handle }

/-- `cancel` of this download in another thread: it sets the flag, and later returns
`Ok`. -/
inductive CancelCall : CancelWorld → CancelWorld → Prop where
  | store (world : CancelWorld) : CancelCall world { world with flag := true }
  | returned {world : CancelWorld} (stored : world.flag = true) :
      CancelCall world { world with
        acknowledged := world.acknowledged || !world.handle.phase.terminal }

/-- One run, and any number of cancellations at any time. -/
def cancelSystem (job : Job) : System Unit DownloadOp DownloadOp.Reply Unit CancelWorld where
  Offers := fun _ _ _ => False
  Step := fun _ => CancelWorld.Answers job
  Environment := CancelCall

abbrev CancelPool : Type := Pool Unit DownloadOp DownloadOp.Reply Unit CancelWorld

/-- A download that `create` has just begun. -/
def createdPool (program : Prog DownloadOp DownloadOp.Reply Unit) : CancelPool where
  world := {}
  activity := fun _ => .running program

/-- The run is over. -/
def Ended (pool : CancelPool) : Prop :=
  pool.activity () = .running (.ret ()) ∨ ∃ state, pool.activity () = .resting state

/-! ## Cancellations in time -/

/-- A cancellation stops the effects of a run: the file it installs and the phases it
enters. -/
def Job.cancelPolling (job : Job) : Polling DownloadOp DownloadOp.Reply where
  Begins := fun
    | .store op => job.installs op = true
    | .handle (.setPhase _) => True
    | _ => False
  Looks := fun op => op = .outside .cancelRequested
  Stopping := fun
    | .outside .cancelRequested, cancelled => cancelled = true
    | _, _ => True

/-- The run can still come to a poll of its flag. -/
def PollAhead (job : Job) (pool : CancelPool) : Prop :=
  match pool.activity () with
  | .running program => job.cancelPolling.StillLooks program
  | .resting _ => False

/-- A move in time: a cancellation is not acknowledged where the run can come to no poll
any more, and no call between an acknowledgement and the next poll takes the run past
its last poll. -/
def Timely (job : Job) (next : CancelPool) : Prop :=
  next.world.acknowledged = true → next.world.noticed = true ∨ PollAhead job next

/-- A run whose every move is in time. -/
def TimelyRun (job : Job) (urls : UrlLibrary) (rounds : Nat) : CancelPool → Prop :=
  Relation.ReflTransGen (fun pool next => (cancelSystem job).Moves pool next ∧ Timely job next)
    (createdPool (job.runDownload urls rounds))

/-- What an acknowledged cancellation promises: the phase becomes no other terminal one,
it is `Cancelled` once the run is over, and the file is not installed. -/
structure CancelKept (pool : CancelPool) : Prop where
  phase : pool.world.handle.phase.terminal = true → pool.world.handle.phase = .cancelled
  final : Ended pool → pool.world.handle.phase = .cancelled
  notInstalled : pool.world.installed = false

/-! ## Where the run looks and acts -/

section Parts

variable {job : Job} {α : Type}

/-- The calls that do not poll the flag. -/
abbrev Job.Blind (job : Job) (op : DownloadOp) : Prop := ¬ job.cancelPolling.Looks op

/-- The calls that neither poll the flag nor install nor enter a phase. -/
abbrev Job.Idle (job : Job) (op : DownloadOp) : Prop :=
  job.Blind op ∧ ¬ job.cancelPolling.Begins op

/-- No local call polls the flag. -/
private theorem blind_local : AllowsLocal job.Blind where
  store := fun _ => DownloadOp.noConfusion
  handle := fun _ => DownloadOp.noConfusion

private theorem blind_get {url : String} {first : Option UInt64} :
    job.Blind (.outside (.get url first)) := by
  intro looks
  cases looks

private theorem idle_onStore {program : Prog StoreOp StoreOp.Reply α}
    (only : program.Only fun op => job.installs op = false) :
    (Client.onStore program).Only job.Idle := by
  apply only_onStore only
  intro op spares
  refine ⟨blind_local.store op, ?_⟩
  intro begins
  rw [show job.installs op = true from begins] at spares
  cases spares

private theorem idle_stage {context : String} {program : Stage α}
    (only : Fallible.Only (fun op => job.installs op = false) program) :
    Fallible.Only job.Idle (Client.stage context program) :=
  Fallible.Only.attempt (idle_onStore only)

private theorem idle_openPart {root : Path} {blockId : String} {generation : UInt64}
    {context : String} : Fallible.Only job.Idle (openPart root blockId generation context) := by
  unfold openPart
  apply Fallible.Only.bind
  · apply idle_stage
    unfold openPartForResume
    apply Fallible.Only.bind (Fallible.Only.result _)
    intro _
    refine Fallible.Only.bind (Fallible.Only.attempt (only_perform rfl)) ?_
    intro _
    exact Fallible.Only.attempt (only_perform rfl)
  · intro resumeFrom
    refine Fallible.Only.bind (Fallible.Only.lift (only_perform ⟨blind_local.handle _, id⟩)) ?_
    exact fun _ => Fallible.Only.result _

private theorem spares_discardPart {root : Path} {blockId : String} {generation : UInt64} :
    Fallible.Only (fun op => job.installs op = false) (discardPart root blockId generation) := by
  unfold discardPart
  apply Fallible.Only.bind (Fallible.Only.result _)
  intro _
  refine Fallible.Only.bind (Fallible.Only.capture (Fallible.Only.attempt (only_perform rfl))) ?_
  exact fun _ => Fallible.Only.result _

private theorem idle_fetch {urls : UrlLibrary} {requiredScheme : String} {resumeFrom : UInt64}
    (remaining : Nat) (url : String) :
    Fallible.Only job.Idle (fetch urls requiredScheme resumeFrom remaining url) := by
  induction remaining generalizing url with
  | zero =>
      unfold fetch
      refine Fallible.Only.bind (Fallible.Only.attempt (only_perform ⟨blind_get, id⟩)) ?_
      intro response
      split
      · exact Fallible.Only.result _
      · exact Fallible.Only.result _
  | succ remaining inductionHypothesis =>
      unfold fetch
      refine Fallible.Only.bind (Fallible.Only.attempt (only_perform ⟨blind_get, id⟩)) ?_
      intro response
      split
      · exact Fallible.Only.bind (Fallible.Only.result _) fun next => inductionHypothesis next
      · exact Fallible.Only.result _

private theorem idle_connect (urls : UrlLibrary) (requiredScheme : String) :
    Fallible.Only job.Idle (job.connect urls requiredScheme) := by
  unfold Job.connect
  apply Fallible.Only.bind idle_openPart
  intro resumeFrom
  apply Fallible.Only.bind (idle_fetch _ _)
  intro response
  apply Fallible.Only.bind
  · unfold bodyStart
    split
    · exact Fallible.Only.bind (idle_stage spares_discardPart) fun _ => idle_openPart
    · exact Fallible.Only.result _
  · intro start
    refine Fallible.Only.bind (Fallible.Only.lift (only_perform ⟨blind_local.handle _, id⟩)) ?_
    intro _
    exact Fallible.Only.bind (Fallible.Only.result _) fun _ => Fallible.Only.result _

/-- The loop over the body enters a phase only after its last poll. -/
private theorem actsLast_readBody {root : Path} {blockId : String} {generation : UInt64}
    (rounds : Nat) :
    job.cancelPolling.ActsLast (readBody root blockId generation rounds).run := by
  induction rounds with
  | zero => trivial
  | succ rounds inductionHypothesis =>
      refine ⟨fun begins => begins.elim, ?_⟩
      intro cancelled
      cases cancelled with
      | true =>
          apply Polling.ActsLast.of_blind
          apply Fallible.Only.bind (blind_local.ignore _)
          intro _
          exact Fallible.Only.bind (blind_local.onHandle _) fun _ => Fallible.Only.result _
      | false =>
          refine ⟨fun begins => begins.elim, ?_⟩
          intro reply
          cases reply with
          | error error => trivial
          | ok chunk =>
              show job.cancelPolling.ActsLast (ExceptT.run (if chunk = [] then _ else _))
              split
              · trivial
              · rw [ExceptT.run_bind]
                have idle : Fallible.Only job.Idle (Client.stage "Schreibfehler beim Staging: "
                    (Store.writeAll os (partPath root blockId generation) chunk)) :=
                  idle_stage (Fallible.Only.attempt (only_perform rfl))
                apply Polling.ActsLast.of_idle (idle.mono fun _ idle => idle.2)
                intro written
                cases written with
                | error failure => trivial
                | ok _ => exact ⟨fun begins => begins.elim, fun _ => inductionHypothesis⟩

/-- A download installs its file, and enters a phase, only after its last poll. -/
theorem actsLast_runDownload (job : Job) (urls : UrlLibrary) (rounds : Nat) :
    job.cancelPolling.ActsLast (job.runDownload urls rounds) := by
  unfold Job.runDownload
  apply Polling.ActsLast.bind _ blind_local.conclude
  unfold Job.tryDownload
  rw [ExceptT.run_bind]
  apply Polling.ActsLast.of_idle ((idle_connect urls "https").mono fun _ idle => idle.2)
  intro connected
  cases connected with
  | error failure => trivial
  | ok connection =>
      obtain ⟨start, announced⟩ := connection
      dsimp only
      rw [ExceptT.run_bind]
      apply Polling.ActsLast.bind (actsLast_readBody rounds)
      intro reached
      cases reached with
      | error failure => trivial
      | ok bodyEnd => exact blind_local.afterBody start announced bodyEnd

end Parts

/-! ## A run that has found its flag set -/

/-- The phase of a run, and whether it has found the flag set. -/
structure Progress where
  phase : DownloadPhase
  noticed : Bool

/-- A run that has found the flag set neither installs nor enters a phase other than
`Cancelled`. -/
def Job.obedient (job : Job) : Contract DownloadOp DownloadOp.Reply Progress where
  Admits := fun progress op => progress.noticed = true →
    match op with
    | .store op => job.installs op = false
    | .handle (.setPhase next) => next = .cancelled
    | _ => True
  Answers := fun progress op reply after =>
    match op, reply with
    | .outside .cancelRequested, cancelled =>
        after = { progress with noticed := progress.noticed || cancelled }
    | .handle (.setPhase next), _ => after = { progress with phase := next }
    | _, _ => after = progress

section Obedience

variable {job : Job} {progress : Progress}

/-- Without a poll, nothing is found. -/
private theorem obedient_blind {α : Type} {program : Prog DownloadOp DownloadOp.Reply α}
    (blind : program.Only job.Blind) (unnoticed : progress.noticed = false) :
    wlp job.obedient program (fun _ after => after.noticed = false) progress := by
  induction program generalizing progress with
  | ret value => exact unnoticed
  | call op next inductionHypothesis =>
      refine ⟨fun noticed => by simp [unnoticed] at noticed, ?_⟩
      intro reply after answered
      apply inductionHypothesis reply (blind.2 reply)
      cases op with
      | store op =>
          obtain rfl := answered
          exact unnoticed
      | outside op =>
          cases op with
          | cancelRequested => exact absurd rfl blind.1
          | get url first =>
              obtain rfl := answered
              exact unnoticed
          | read limit =>
              obtain rfl := answered
              exact unnoticed
      | handle op =>
          cases op with
          | setPhase entered =>
              obtain rfl := answered
              exact unnoticed
          | _ =>
              obtain rfl := answered
              exact unnoticed

/-- The staging store alone changes no phase. -/
private theorem obedient_onStore {α : Type} {program : Prog StoreOp StoreOp.Reply α}
    (spares : program.Only fun op => job.installs op = false) :
    wlp job.obedient (Client.onStore program) (fun _ after => after = progress) progress := by
  induction program with
  | ret value => rfl
  | call op next inductionHypothesis =>
      refine ⟨fun _ => spares.1, ?_⟩
      rintro reply after rfl
      exact inductionHypothesis reply (spares.2 reply)

/-- The end of a loop that finds the flag set. -/
private def StoppedAt (reached : Except DownloadFailure BodyEnd) (after : Progress) : Prop :=
  after.noticed = true → reached = .ok .cancelled ∧ after.phase = .cancelled

private theorem obedient_readBody {root : Path} {blockId : String} {generation : UInt64}
    (rounds : Nat) (unnoticed : progress.noticed = false) :
    wlp job.obedient (readBody root blockId generation rounds).run StoppedAt progress := by
  induction rounds generalizing progress with
  | zero => exact fun noticed => by simp [unnoticed] at noticed
  | succ rounds inductionHypothesis =>
      refine ⟨fun _ => trivial, ?_⟩
      rintro cancelled after rfl
      cases cancelled with
      | true =>
          show wlp job.obedient (ExceptT.run (do
            Client.ignore (discardPart root blockId generation)
            Client.onHandle (.setPhase .cancelled)
            pure BodyEnd.cancelled)) _ _
          rw [Fallible.wlp_run_bind]
          unfold Client.ignore
          rw [ExceptT.run_lift, map_eq_pure_bind, wlp_bind, wlp_bind]
          apply wlp_mono (obedient_onStore spares_discardPart)
          rintro _ after rfl
          refine ⟨fun _ => rfl, ?_⟩
          rintro _ after rfl
          exact fun _ => ⟨rfl, rfl⟩
      | false =>
          have still : ({ progress with noticed := progress.noticed || false } : Progress) =
              progress := by simp
          refine ⟨fun _ => trivial, ?_⟩
          rintro reply after answered
          obtain rfl : after = progress := answered.trans still
          cases reply with
          | error error => exact fun noticed => by simp [unnoticed] at noticed
          | ok chunk =>
              show wlp job.obedient (ExceptT.run (if chunk = [] then _ else _)) _ _
              split
              · exact fun noticed => by simp [unnoticed] at noticed
              · rw [Fallible.wlp_run_bind]
                apply wlp_mono (obedient_blind (blind_local.stage _ _) unnoticed)
                intro written later unnoticed
                cases written with
                | error failure => exact fun noticed => by simp [unnoticed] at noticed
                | ok _ =>
                    refine ⟨fun _ => trivial, ?_⟩
                    rintro _ last rfl
                    exact inductionHypothesis unnoticed

/-- A run that finds the flag set obeys, and ends in the phase `Cancelled`. -/
theorem obedient_runDownload (urls : UrlLibrary) (rounds : Nat)
    (unnoticed : progress.noticed = false) :
    wlp job.obedient (job.runDownload urls rounds)
      (fun _ after => after.noticed = true → after.phase = .cancelled) progress := by
  unfold Job.runDownload
  have attempted : wlp job.obedient (job.tryDownload urls "https" rounds).run
      (fun reached after => after.noticed = true → reached = .ok () ∧ after.phase = .cancelled)
      progress := by
    unfold Job.tryDownload
    have blind : (job.connect urls "https").run.Only job.Blind :=
      (idle_connect urls "https").mono fun _ idle => idle.1
    rw [Fallible.wlp_run_bind]
    apply wlp_mono (obedient_blind blind unnoticed)
    intro connected later unnoticed
    cases connected with
    | error failure => exact fun noticed => by simp [unnoticed] at noticed
    | ok connection =>
        obtain ⟨start, announced⟩ := connection
        dsimp only
        rw [Fallible.wlp_run_bind]
        apply wlp_mono (obedient_readBody rounds unnoticed)
        intro reached last stopped
        cases reached with
        | error failure =>
            intro noticed
            cases (stopped noticed).1
        | ok bodyEnd =>
            dsimp only
            cases noticed : last.noticed with
            | true =>
                obtain ⟨reachedEnd, cancelled⟩ := stopped noticed
                cases reachedEnd
                exact fun _ => ⟨rfl, cancelled⟩
            | false =>
                apply wlp_mono
                  (obedient_blind (blind_local.afterBody start announced bodyEnd) noticed)
                intro _ final unnoticed nowNoticed
                simp [unnoticed] at nowNoticed
  apply wlp_seq attempted
  intro outcome after stopped
  cases noticed : after.noticed with
  | false =>
      apply wlp_mono (obedient_blind (blind_local.conclude outcome) noticed)
      intro _ last unnoticed nowNoticed
      simp [unnoticed] at nowNoticed
  | true =>
      obtain ⟨rfl, cancelled⟩ := stopped noticed
      exact fun _ => cancelled

end Obedience

/-! ## All runs -/

section Steps

variable {job : Job} {world after : CancelWorld} {op : DownloadOp} {reply : op.Reply}

/-- What a run sees of an answer. -/
private theorem progress_of_answers (answered : world.Answers job op reply after) :
    job.obedient.Answers ⟨world.handle.phase, world.noticed⟩ op reply
      ⟨after.handle.phase, after.noticed⟩ := by
  cases op with
  | store op =>
      obtain rfl := answered
      rfl
  | outside op =>
      cases op with
      | cancelRequested =>
          obtain ⟨_, rfl⟩ := answered
          rfl
      | get url first =>
          obtain rfl := answered
          rfl
      | read limit =>
          obtain rfl := answered
          rfl
  | handle op =>
      obtain ⟨applied, same⟩ := answered
      have noticed : after.noticed = world.noticed := by rw [same]
      have handle : (op.apply world.handle).2 = after.handle := by rw [applied]
      cases op with
      | setPhase next =>
          show Progress.mk _ _ = _
          rw [← handle, noticed]
          rfl
      | _ =>
          show Progress.mk _ _ = _
          rw [← handle, noticed]
          rfl

/-- Calls that begin nothing keep the phase and install nothing. -/
private theorem answers_idle (answered : world.Answers job op reply after)
    (idle : ¬ job.cancelPolling.Begins op) :
    after.handle.phase = world.handle.phase ∧ after.installed = world.installed := by
  cases op with
  | store op =>
      obtain rfl := answered
      have spares : job.installs op = false := by simpa [Job.cancelPolling] using idle
      simp [spares]
  | outside op =>
      cases op with
      | cancelRequested =>
          obtain ⟨_, rfl⟩ := answered
          exact ⟨rfl, rfl⟩
      | get url first =>
          obtain rfl := answered
          exact ⟨rfl, rfl⟩
      | read limit =>
          obtain rfl := answered
          exact ⟨rfl, rfl⟩
  | handle op =>
      obtain ⟨applied, same⟩ := answered
      have installed : after.installed = world.installed := by rw [same]
      have handle : (op.apply world.handle).2 = after.handle := by rw [applied]
      rw [← handle]
      refine ⟨?_, installed⟩
      cases op with
      | setPhase next => exact absurd trivial idle
      | _ => rfl

/-- What an obedient run does once it has found the flag set. -/
private theorem answers_obedient (answered : world.Answers job op reply after)
    (admitted : job.obedient.Admits ⟨world.handle.phase, world.noticed⟩ op)
    (noticed : world.noticed = true) :
    after.installed = world.installed ∧
      (after.handle.phase = world.handle.phase ∨ after.handle.phase = .cancelled) := by
  by_cases begins : job.cancelPolling.Begins op
  · have obeyed := admitted noticed
    cases op with
    | store op =>
        have installs : job.installs op = true := begins
        rw [show job.installs op = false from obeyed] at installs
        cases installs
    | outside op => exact begins.elim
    | handle op =>
        obtain ⟨applied, same⟩ := answered
        have installed : after.installed = world.installed := by rw [same]
        have handle : (op.apply world.handle).2 = after.handle := by rw [applied]
        cases op with
        | setPhase next =>
            obtain rfl := obeyed
            rw [← handle]
            exact ⟨installed, .inr rfl⟩
        | _ => exact begins.elim
  · obtain ⟨phase, installed⟩ := answers_idle answered begins
    exact ⟨installed, .inl phase⟩

/-- Only a poll finds the flag set. -/
private theorem answers_noticed (answered : world.Answers job op reply after)
    (before : world.noticed = false) (noticed : after.noticed = true) :
    job.cancelPolling.Looks op := by
  cases op with
  | store op =>
      obtain rfl := answered
      simp [before] at noticed
  | outside op =>
      cases op with
      | cancelRequested => rfl
      | get url first =>
          obtain rfl := answered
          simp [before] at noticed
      | read limit =>
          obtain rfl := answered
          simp [before] at noticed
  | handle op =>
      obtain ⟨_, same⟩ := answered
      rw [same, before] at noticed
      cases noticed

end Steps

/-- What holds in every state of a run, whenever it is cancelled. -/
structure Followed (job : Job) (pool : CancelPool) : Prop where
  acts : ∀ program, pool.activity () = .running program → job.cancelPolling.ActsLast program
  ahead : PollAhead job pool →
    pool.world.handle.phase = .downloading ∧ pool.world.installed = false
  obeys : ∀ program, pool.activity () = .running program →
    wlp job.obedient program (fun _ after => after.noticed = true → after.phase = .cancelled)
      ⟨pool.world.handle.phase, pool.world.noticed⟩
  rested : ∀ state, pool.activity () = .resting state → pool.world.noticed = true →
    pool.world.handle.phase = .cancelled
  noticed : pool.world.noticed = true → pool.world.installed = false ∧
    (pool.world.handle.phase = .downloading ∨ pool.world.handle.phase = .cancelled)

/-- Step lemma. -/
theorem Followed.step {job : Job} {pool next : CancelPool}
    (moves : (cancelSystem job).Moves pool next) (followed : Followed job pool) :
    Followed job next := by
  cases moves with
  | begin atRest offered => exact offered.elim
  | @call id op continues reply after calling answered =>
      have acts := followed.acts _ calling
      have obeys := followed.obeys _ calling
      have aheadBefore : job.cancelPolling.Looks op ∨
          (∃ reply, job.cancelPolling.StillLooks (continues reply)) →
          pool.world.handle.phase = .downloading ∧ pool.world.installed = false := by
        intro looks
        apply followed.ahead
        unfold PollAhead
        rw [calling]
        exact looks
      refine ⟨?_, ?_, ?_, ?_, ?_⟩
      · intro program running
        obtain rfl : continues reply = program := by simpa using running
        exact acts.2 reply
      · intro ahead
        have looks : job.cancelPolling.StillLooks (continues reply) := by
          simpa [PollAhead] using ahead
        have idle : ¬ job.cancelPolling.Begins op := fun begins => acts.1 begins reply looks
        obtain ⟨phase, installed⟩ := answers_idle answered idle
        rw [phase, installed]
        exact aheadBefore (.inr ⟨reply, looks⟩)
      · intro program running
        obtain rfl : continues reply = program := by simpa using running
        exact obeys.2 reply _ (progress_of_answers answered)
      · intro state resting
        simp at resting
      · intro noticed
        cases before : pool.world.noticed with
        | false =>
            have looks := answers_noticed answered before noticed
            have idle : ¬ job.cancelPolling.Begins op := by
              obtain rfl : op = .outside .cancelRequested := looks
              exact fun begins => begins.elim
            obtain ⟨phase, installed⟩ := answers_idle answered idle
            obtain ⟨downloading, notInstalled⟩ := aheadBefore (.inl looks)
            exact ⟨installed.trans notInstalled, .inl (phase.trans downloading)⟩
        | true =>
            obtain ⟨installed, phase⟩ := answers_obedient answered obeys.1 before
            obtain ⟨notInstalled, entered⟩ := followed.noticed before
            refine ⟨installed.trans notInstalled, ?_⟩
            rcases phase with same | cancelled
            · rw [same]
              exact entered
            · exact .inr cancelled
  | @finish id state returned =>
      refine ⟨?_, ?_, ?_, ?_, followed.noticed⟩
      · intro program running
        simp at running
      · intro ahead
        simp [PollAhead] at ahead
      · intro program running
        simp at running
      · intro _ _
        exact followed.obeys _ returned
  | environment moved =>
      cases moved with
      | store => exact ⟨followed.acts, followed.ahead, followed.obeys, followed.rested,
          followed.noticed⟩
      | returned _ => exact ⟨followed.acts, followed.ahead, followed.obeys, followed.rested,
          followed.noticed⟩

/-- Run lemma. -/
theorem followed_of_reachable {job : Job} {urls : UrlLibrary} {rounds : Nat} {pool : CancelPool}
    (reachable : (cancelSystem job).Reachable (createdPool (job.runDownload urls rounds)) pool) :
    Followed job pool := by
  induction reachable with
  | refl =>
      refine ⟨?_, fun _ => ⟨rfl, rfl⟩, ?_, ?_, ?_⟩
      · rintro program running
        cases running
        exact actsLast_runDownload job urls rounds
      · rintro program running
        cases running
        exact obedient_runDownload urls rounds rfl
      · rintro state resting
        cases resting
      · intro noticed
        cases noticed
  | tail _ moves inductionHypothesis => exact inductionHypothesis.step moves

theorem TimelyRun.reachable {job : Job} {urls : UrlLibrary} {rounds : Nat} {pool : CancelPool}
    (run : TimelyRun job urls rounds pool) :
    (cancelSystem job).Reachable (createdPool (job.runDownload urls rounds)) pool := by
  induction run with
  | refl => exact .refl
  | tail _ step inductionHypothesis => exact inductionHypothesis.tail step.1

/-- In every run whose moves are in time, an acknowledged cancellation is kept. -/
theorem runDownload_keepsCancel (job : Job) (urls : UrlLibrary) (rounds : Nat)
    {pool : CancelPool} (run : TimelyRun job urls rounds pool)
    (acknowledged : pool.world.acknowledged = true) : CancelKept pool := by
  have followed : Followed job pool := followed_of_reachable run.reachable
  have timely : Timely job pool := by
    cases run with
    | refl =>
        intro acknowledged
        cases acknowledged
    | tail _ step => exact step.2
  rcases timely acknowledged with noticed | ahead
  · obtain ⟨notInstalled, entered⟩ := followed.noticed noticed
    refine ⟨?_, ?_, notInstalled⟩
    · intro terminal
      rcases entered with downloading | cancelled
      · rw [downloading] at terminal
        cases terminal
      · exact cancelled
    · rintro (returned | ⟨state, resting⟩)
      · exact followed.obeys _ returned noticed
      · exact followed.rested state resting noticed
  · obtain ⟨downloading, notInstalled⟩ := followed.ahead ahead
    refine ⟨?_, ?_, notInstalled⟩
    · intro terminal
      rw [downloading] at terminal
      cases terminal
    · rintro (returned | ⟨state, resting⟩)
      · simp [PollAhead, returned, Polling.StillLooks] at ahead
      · simp [PollAhead, resting] at ahead

/-! ## Two cancellations -/

/-- A download into an empty models directory. -/
def sampleJob : Job where
  root := ["stage", "downloads"]
  modelsDir := ["models"]
  blockId := "m"
  generation := 1
  processId := 1
  nanos := 0
  request := { url := "https://host/m", fileName := "m", expectedSizeBytes := none, sha256 := none }

/-- Addresses that lead nowhere. -/
def noUrls : UrlLibrary where
  parse := fun _ => .error "relative URL without a base"
  join := fun _ _ => .error "relative URL without a base"

/-- The sample download, followed for one read. -/
def sampleDownload : Prog DownloadOp DownloadOp.Reply Unit := sampleJob.runDownload noUrls 1

/-- A cancellation that is acknowledged before the connection fails: the download ends as
`Failed`. -/
theorem sampleDownload_cancelLost :
    ∃ pool, (cancelSystem sampleJob).Reachable (createdPool sampleDownload) pool ∧
      pool.world.acknowledged = true ∧ Ended pool ∧ pool.world.handle.phase = .failed := by
  have begun : (cancelSystem sampleJob).Reachable (createdPool sampleDownload)
      (createdPool sampleDownload) := .refl
  have opened := begun.call () rfl (.ok ()) {} rfl
  have measured := opened.call () rfl (.ok 0) {} rfl
  have shown := measured.call () rfl () {} ⟨rfl, rfl⟩
  have stored : (cancelSystem sampleJob).Reachable (createdPool sampleDownload) _ :=
    shown.tail (.environment (.store _))
  have acknowledged : (cancelSystem sampleJob).Reachable (createdPool sampleDownload) _ :=
    stored.tail (.environment (.returned rfl))
  have refused := acknowledged.call () rfl (.error "Connection refused")
    { flag := true, acknowledged := true } rfl
  have asked := refused.call () rfl .downloading { flag := true, acknowledged := true } ⟨rfl, rfl⟩
  have told := asked.call () rfl ()
    { flag := true, acknowledged := true
      handle := { message := some { text := "Download fehlgeschlagen: Connection refused" } } }
    ⟨rfl, rfl⟩
  have failed := told.call () rfl ()
    { flag := true, acknowledged := true
      handle := {
        phase := .failed
        message := some { text := "Download fehlgeschlagen: Connection refused" } } }
    ⟨rfl, rfl⟩
  exact ⟨_, failed, rfl, .inl rfl, rfl⟩

/-- A move of the run before any acknowledgement, or after it where a poll is ahead. -/
theorem TimelyRun.call {job : Job} {urls : UrlLibrary} {rounds : Nat} {pool : CancelPool}
    (run : TimelyRun job urls rounds pool) {op : DownloadOp}
    {next : op.Reply → Prog DownloadOp DownloadOp.Reply Unit}
    (calling : pool.activity () = .running (.call op next)) (reply : op.Reply)
    (after : CancelWorld) (answered : CancelWorld.Answers job pool.world op reply after)
    (timely : after.acknowledged = true → after.noticed = true) :
    TimelyRun job urls rounds
      ⟨after, Function.update pool.activity () (.running (next reply))⟩ :=
  run.tail ⟨.call calling answered, fun acknowledged => .inl (timely acknowledged)⟩

/-- A cancellation that is acknowledged while the download reads: it ends as `Cancelled`. -/
theorem sampleDownload_cancelled :
    ∃ pool, pool.world.acknowledged = true ∧ Ended pool ∧
      TimelyRun sampleJob noUrls 1 pool ∧ CancelKept pool := by
  have begun : TimelyRun sampleJob noUrls 1 (createdPool sampleDownload) := .refl
  have opened := begun.call rfl (.ok ()) {} rfl (fun claimed => by cases claimed)
  have measured := opened.call rfl (.ok 0) {} rfl (fun claimed => by cases claimed)
  have shown := measured.call rfl () {} ⟨rfl, rfl⟩ (fun claimed => by cases claimed)
  have answered := shown.call rfl (.ok ⟨200, none, none⟩) {} rfl (fun claimed => by cases claimed)
  have announced := answered.call rfl () {} ⟨rfl, rfl⟩ (fun claimed => by cases claimed)
  have stored : TimelyRun sampleJob noUrls 1 _ :=
    announced.tail ⟨.environment (.store _), fun claimed => by cases claimed⟩
  have acknowledged : TimelyRun sampleJob noUrls 1 _ :=
    stored.tail ⟨.environment (.returned rfl), fun _ => .inr (.inl rfl)⟩
  have noticed := acknowledged.call rfl true
    { flag := true, acknowledged := true, noticed := true } ⟨rfl, rfl⟩ fun _ => rfl
  have discarded := noticed.call rfl (.ok ())
    { flag := true, acknowledged := true, noticed := true } rfl fun _ => rfl
  have ended := discarded.call rfl ()
    { flag := true, acknowledged := true, noticed := true, handle := { phase := .cancelled } }
    ⟨rfl, rfl⟩ fun _ => rfl
  exact ⟨_, rfl, .inl rfl, ended, runDownload_keepsCancel sampleJob noUrls 1 ended rfl⟩

end TriAI.Download
