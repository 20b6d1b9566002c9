import TriAI.Analysis.Gates
import TriAI.Library.RateLimit

/-!
Contract: the schedule of the analysis jobs (`analysis/job.rs`).

Owns: `AnalysisScheduler` with `submit` and `take_due`; over every sequence of calls, when each
kind of analysis runs and which jobs are accepted.

Does not own: the clock, which can go back, and the analyses.
-/

set_option autoImplicit false

namespace TriAI.Analysis

open List (Sublist)
open TriAI.Library.MachineInt
open TriAI.Library.RateLimit

inductive AnalysisKind where
  | transferBottleneck
  | moeHotset
  | modelCalibration
  | anomalyDetection
deriving DecidableEq

structure AnalysisJob where
  kind : AnalysisKind
  window : AggregateWindow
deriving DecidableEq

/-- `AnalysisJob::idempotency_key`. -/
def AnalysisJob.idempotencyKey (self : AnalysisJob) : AnalysisKind × UInt64 × UInt64 :=
  (self.kind, self.window.startMs, self.window.endMs)

structure AnalysisScheduler where
  /-- The entries of the map in the order of its keys, in milliseconds. -/
  intervals : List (AnalysisKind × UInt64)
  lastRunMs : AnalysisKind → Option UInt64
  submitted : Finset (AnalysisKind × UInt64 × UInt64)

namespace AnalysisScheduler

/-- `AnalysisScheduler::default()` -/
def default : AnalysisScheduler where
  intervals :=
    [(.transferBottleneck, 60000), (.moeHotset, 300000), (.modelCalibration, 900000),
      (.anomalyDetection, 60000)]
  lastRunMs := fun _ => none
  submitted := ∅

def submit (self : AnalysisScheduler) (job : AnalysisJob) : Bool × AnalysisScheduler :=
  if job.window.isValid ∧ job.idempotencyKey ∉ self.submitted then
    (true, { self with submitted := insert job.idempotencyKey self.submitted })
  else (false, self)

/-- The round of `take_due` for one kind. -/
def takeKind (nowMs : UInt64)
    (round : List AnalysisKind × (AnalysisKind → Option UInt64)) (entry : AnalysisKind × UInt64) :
    List AnalysisKind × (AnalysisKind → Option UInt64) :=
  let last := (round.2 entry.1).getD 0
  if entry.2 ≤ saturatingSub nowMs last then
    (round.1 ++ [entry.1], Function.update round.2 entry.1 (some nowMs))
  else round

def takeDue (self : AnalysisScheduler) (nowMs : UInt64) : List AnalysisKind × AnalysisScheduler :=
  let round := self.intervals.foldl (takeKind nowMs) ([], self.lastRunMs)
  (round.1, { self with lastRunMs := round.2 })

end AnalysisScheduler

/-! ## Runs -/

inductive SchedulerCall where
  | submit (job : AnalysisJob)
  | takeDue (nowMs : UInt64)

/-- A scheduler with the jobs that it accepted and what it found due. -/
structure SchedulerRun where
  scheduler : AnalysisScheduler := .default
  accepted : List AnalysisJob := []
  taken : List (UInt64 × List AnalysisKind) := []

def SchedulerRun.call (run : SchedulerRun) : SchedulerCall → SchedulerRun
  | .submit job =>
      { run with
        scheduler := (run.scheduler.submit job).2
        accepted := run.accepted ++ if (run.scheduler.submit job).1 then [job] else [] }
  | .takeDue nowMs =>
      { run with
        scheduler := (run.scheduler.takeDue nowMs).2
        taken := run.taken ++ [(nowMs, (run.scheduler.takeDue nowMs).1)] }

/-- The times at which a kind was found due. -/
def SchedulerRun.timesOf (run : SchedulerRun) (kind : AnalysisKind) : List Nat :=
  (run.taken.filter fun taken => kind ∈ taken.2).map fun taken => taken.1.toNat

/-- The times at which the scheduler is asked what is due. -/
def readingsOf (calls : List SchedulerCall) : List Nat :=
  calls.filterMap fun
    | .takeDue nowMs => some nowMs.toNat
    | .submit _ => none

def jobsOf (calls : List SchedulerCall) : List AnalysisJob :=
  calls.filterMap fun
    | .submit job => some job
    | .takeDue _ => none

/-- A kind runs at readings that are an interval apart, the first one an interval after 0, and
while the clock does not go back it could not run more often. -/
structure Paced (interval : Nat) (readings times : List Nat) : Prop where
  among : Sublist times readings
  apart : Apart interval (0 :: times)
  most : readings.Pairwise (· ≤ ·) → ∀ others, Sublist others readings →
    Apart interval (0 :: others) → others.length ≤ times.length

/-- Of the valid jobs with one key exactly one is accepted. -/
structure AcceptedOnce (jobs accepted : List AnalysisJob) : Prop where
  among : Sublist accepted (jobs.filter fun job => job.window.isValid)
  once : (accepted.map AnalysisJob.idempotencyKey).Nodup
  each : ∀ job ∈ jobs, job.window.isValid = true →
    job.idempotencyKey ∈ accepted.map AnalysisJob.idempotencyKey

/-! ## One call -/

namespace AnalysisScheduler

/-- A kind is due when its interval has passed since it was last found due, or since 0. -/
def isDue (nowMs : UInt64) (lastRunMs : AnalysisKind → Option UInt64)
    (entry : AnalysisKind × UInt64) : Bool :=
  entry.2 ≤ saturatingSub nowMs ((lastRunMs entry.1).getD 0)

/-- The kinds are decided one by one, each from its own last run. -/
theorem foldl_takeKind (nowMs : UInt64) {entries : List (AnalysisKind × UInt64)}
    (distinct : (entries.map Prod.fst).Nodup) (due : List AnalysisKind)
    (lastRunMs : AnalysisKind → Option UInt64) :
    entries.foldl (takeKind nowMs) (due, lastRunMs) =
      (due ++ (entries.filter (isDue nowMs lastRunMs)).map Prod.fst,
        fun kind => if kind ∈ (entries.filter (isDue nowMs lastRunMs)).map Prod.fst
          then some nowMs else lastRunMs kind) := by
  induction entries generalizing due lastRunMs with
  | nil => simp
  | cons entry rest inductionHypothesis =>
      rw [List.map_cons, List.nodup_cons] at distinct
      rw [List.foldl_cons]
      by_cases now : isDue nowMs lastRunMs entry = true
      · have others : rest.filter
            (isDue nowMs (Function.update lastRunMs entry.1 (some nowMs))) =
              rest.filter (isDue nowMs lastRunMs) := by
          apply List.filter_congr
          intro other member
          have differs : other.1 ≠ entry.1 :=
            fun same => distinct.1 (same ▸ List.mem_map_of_mem member)
          unfold isDue
          rw [Function.update_of_ne differs]
        have step : takeKind nowMs (due, lastRunMs) entry =
            (due ++ [entry.1], Function.update lastRunMs entry.1 (some nowMs)) :=
          if_pos (by simpa [isDue] using now)
        rw [step, inductionHypothesis distinct.2, others, List.filter_cons_of_pos now,
          List.map_cons, List.append_assoc, List.singleton_append]
        congr 1
        funext kind
        by_cases same : kind = entry.1
        · subst same
          simp
        · simp [same]
      · have step : takeKind nowMs (due, lastRunMs) entry = (due, lastRunMs) :=
          if_neg (by simpa [isDue] using now)
        rw [step, inductionHypothesis distinct.2, List.filter_cons_of_neg now]

variable {self : AnalysisScheduler}

theorem mem_takeDue (distinct : (self.intervals.map Prod.fst).Nodup) {nowMs : UInt64}
    {entry : AnalysisKind × UInt64} (listed : entry ∈ self.intervals) :
    entry.1 ∈ (self.takeDue nowMs).1 ↔ isDue nowMs self.lastRunMs entry = true := by
  unfold takeDue
  rw [foldl_takeKind nowMs distinct, List.nil_append, List.mem_map]
  constructor
  · rintro ⟨other, member, same⟩
    obtain ⟨otherListed, due⟩ := List.mem_filter.mp member
    rwa [← List.inj_on_of_nodup_map distinct otherListed listed same]
  · exact fun due => ⟨entry, List.mem_filter.mpr ⟨listed, due⟩, rfl⟩

theorem lastRunMs_takeDue (distinct : (self.intervals.map Prod.fst).Nodup) (nowMs : UInt64)
    (kind : AnalysisKind) :
    (self.takeDue nowMs).2.lastRunMs kind =
      if kind ∈ (self.takeDue nowMs).1 then some nowMs else self.lastRunMs kind := by
  unfold takeDue
  rw [foldl_takeKind nowMs distinct, List.nil_append]

end AnalysisScheduler

/-! ## Whole runs -/

/-- What a run has come to: the last run of a kind is the last time at which it was found due,
and the keys are those of the accepted jobs. -/
structure SchedulerRun.Follows (run : SchedulerRun) (calls : List SchedulerCall) : Prop where
  intervals : run.scheduler.intervals = AnalysisScheduler.default.intervals
  last : ∀ kind, ((run.scheduler.lastRunMs kind).getD 0).toNat =
    ((run.timesOf kind).getLast?).getD 0
  times : ∀ entry ∈ AnalysisScheduler.default.intervals,
    run.timesOf entry.1 = passes entry.2.toNat 0 (readingsOf calls)
  submitted : run.scheduler.submitted = (run.accepted.map AnalysisJob.idempotencyKey).toFinset
  jobs : AcceptedOnce (jobsOf calls) run.accepted

private theorem distinct_intervals :
    (AnalysisScheduler.default.intervals.map Prod.fst).Nodup := by decide

section Steps

variable {run : SchedulerRun} {calls : List SchedulerCall}

theorem SchedulerRun.timesOf_takeDue (run : SchedulerRun) (nowMs : UInt64) (kind : AnalysisKind) :
    (run.call (.takeDue nowMs)).timesOf kind =
      run.timesOf kind ++ if kind ∈ (run.scheduler.takeDue nowMs).1 then [nowMs.toNat] else [] := by
  unfold timesOf call
  rw [List.filter_append, List.map_append]
  by_cases due : kind ∈ (run.scheduler.takeDue nowMs).1 <;> simp [due]

/-- Asking what is due is one more reading for every kind. -/
theorem SchedulerRun.Follows.takeDue (follows : run.Follows calls) (nowMs : UInt64) :
    (run.call (.takeDue nowMs)).Follows (calls ++ [.takeDue nowMs]) := by
  have distinct : (run.scheduler.intervals.map Prod.fst).Nodup := by
    rw [follows.intervals]
    exact distinct_intervals
  have moreReadings : readingsOf (calls ++ [.takeDue nowMs]) = readingsOf calls ++ [nowMs.toNat] :=
    List.filterMap_append
  have sameJobs : jobsOf (calls ++ [.takeDue nowMs]) = jobsOf calls := by
    unfold jobsOf
    rw [List.filterMap_append]
    exact List.append_nil _
  constructor
  · exact follows.intervals
  · intro kind
    rw [timesOf_takeDue]
    show (((run.scheduler.takeDue nowMs).2.lastRunMs kind).getD 0).toNat = _
    rw [AnalysisScheduler.lastRunMs_takeDue distinct]
    by_cases due : kind ∈ (run.scheduler.takeDue nowMs).1
    · simp [due]
    · rw [if_neg due, if_neg due, List.append_nil]
      exact follows.last kind
  · intro entry listed
    have isDue : entry.1 ∈ (run.scheduler.takeDue nowMs).1 ↔
        entry.2.toNat ≤ nowMs.toNat -
          ((passes entry.2.toNat 0 (readingsOf calls)).getLast?).getD 0 := by
      rw [AnalysisScheduler.mem_takeDue distinct (follows.intervals ▸ listed),
        ← follows.times entry listed, ← follows.last]
      simp [AnalysisScheduler.isDue, UInt64.le_iff_toNat_le, toNat_saturatingSub]
    rw [timesOf_takeDue, moreReadings, passes_append_singleton, follows.times entry listed]
    simp only [isDue]
  · exact follows.submitted
  · rw [sameJobs]
    exact follows.jobs

/-- A job that is accepted is valid and the first one with its key. -/
theorem SchedulerRun.Follows.submit (follows : run.Follows calls) (job : AnalysisJob) :
    (run.call (.submit job)).Follows (calls ++ [.submit job]) := by
  have sameReadings : readingsOf (calls ++ [.submit job]) = readingsOf calls := by
    unfold readingsOf
    rw [List.filterMap_append]
    exact List.append_nil _
  have moreJobs : jobsOf (calls ++ [.submit job]) = jobsOf calls ++ [job] :=
    List.filterMap_append
  have known : job.idempotencyKey ∈ run.scheduler.submitted ↔
      job.idempotencyKey ∈ run.accepted.map AnalysisJob.idempotencyKey := by
    rw [follows.submitted, List.mem_toFinset]
  by_cases isNew : job.window.isValid ∧ job.idempotencyKey ∉ run.scheduler.submitted
  · have accepts : run.scheduler.submit job =
        (true, { run.scheduler with
          submitted := insert job.idempotencyKey run.scheduler.submitted }) := if_pos isNew
    have called : run.call (.submit job) =
        { run with
          scheduler := { run.scheduler with
            submitted := insert job.idempotencyKey run.scheduler.submitted }
          accepted := run.accepted ++ [job] } := by
      simp only [call, accepts, if_true]
    rw [called]
    refine ⟨follows.intervals, follows.last, ?_, ?_, ?_⟩
    · rw [sameReadings]
      exact follows.times
    · show insert _ _ = _
      rw [follows.submitted]
      ext key
      simp
    · rw [moreJobs]
      constructor
      · rw [List.filter_append]
        apply follows.jobs.among.append
        simp [isNew.1]
      · rw [List.map_append, List.map_singleton, List.nodup_append]
        refine ⟨follows.jobs.once, List.nodup_singleton _, ?_⟩
        intro key accepted other isKey same
        rw [List.mem_singleton.mp isKey] at same
        exact isNew.2 (known.mpr (same ▸ accepted))
      · intro other member valid
        rw [List.map_append, List.mem_append]
        rcases List.mem_append.mp member with earlier | last
        · exact .inl (follows.jobs.each other earlier valid)
        · rw [List.mem_singleton.mp last]
          exact .inr (List.mem_singleton_self _)
  · have refuses : run.scheduler.submit job = (false, run.scheduler) := if_neg isNew
    have called : run.call (.submit job) = run := by
      simp [call, refuses]
    rw [called]
    refine ⟨follows.intervals, follows.last, ?_, follows.submitted, ?_⟩
    · rw [sameReadings]
      exact follows.times
    · rw [moreJobs]
      refine ⟨?_, follows.jobs.once, ?_⟩
      · rw [List.filter_append]
        exact follows.jobs.among.trans (List.sublist_append_left _ _)
      · intro other member valid
        rcases List.mem_append.mp member with earlier | last
        · exact follows.jobs.each other earlier valid
        · rw [List.mem_singleton.mp last] at valid ⊢
          by_contra unknown
          exact isNew ⟨valid, fun submitted => unknown (known.mp submitted)⟩

theorem SchedulerRun.follows (calls : List SchedulerCall) :
    (calls.foldl SchedulerRun.call {}).Follows calls := by
  induction calls using List.reverseRecOn with
  | nil =>
      exact ⟨rfl, fun _ => rfl, fun _ _ => rfl, rfl, .slnil, .nil,
        fun _ member => absurd member List.not_mem_nil⟩
  | append_singleton calls call inductionHypothesis =>
      rw [List.foldl_append, List.foldl_cons, List.foldl_nil]
      cases call with
      | submit job => exact inductionHypothesis.submit job
      | takeDue nowMs => exact inductionHypothesis.takeDue nowMs

end Steps

end TriAI.Analysis
