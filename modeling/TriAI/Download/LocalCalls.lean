import TriAI.Download.Client

/-!
Contract: the parts of a download that stay on this machine.

Owns: `AllowsLocal`, a set of calls that holds every call on the staging store and the handle;
and the parts of `try_download` that make no others.

Does not own: the requests to the server and the polls of the flag.
-/

set_option autoImplicit false

namespace TriAI.Download

open TriAI.Library.FileTree
open TriAI.Library.Interaction
open TriAI.Staging
open TriAI.Storage

/-- Every call on the staging store and on the handle is allowed. -/
structure AllowsLocal (allowed : DownloadOp → Prop) : Prop where
  store : ∀ op, allowed (.store op)
  handle : ∀ op, allowed (.handle op)

theorem only_onStore {α : Type} {allowed : StoreOp → Prop} {wider : DownloadOp → Prop}
    {program : Prog StoreOp StoreOp.Reply α} (only : program.Only allowed)
    (widen : ∀ op, allowed op → wider (.store op)) : (Client.onStore program).Only wider := by
  induction program with
  | ret value => trivial
  | call op next inductionHypothesis =>
      exact ⟨widen op only.1, fun reply => inductionHypothesis reply (only.2 reply)⟩

theorem only_true {Op α : Type} {Reply : Op → Type} (program : Prog Op Reply α) :
    program.Only fun _ => True := by
  induction program with
  | ret value => trivial
  | call op next inductionHypothesis => exact ⟨trivial, inductionHypothesis⟩

theorem only_perform {Op : Type} {Reply : Op → Type} {allowed : Op → Prop} {op : Op}
    (holds : allowed op) : (Prog.perform op : Prog Op Reply (Reply op)).Only allowed :=
  ⟨holds, fun _ => trivial⟩

namespace AllowsLocal

variable {allowed : DownloadOp → Prop} {α : Type} {root : Path} {blockId : String}
  {generation : UInt64} {job : Job}

theorem onStore (allows : AllowsLocal allowed) (program : Prog StoreOp StoreOp.Reply α) :
    (Client.onStore program).Only allowed :=
  only_onStore (only_true program) fun op _ => allows.store op

theorem stage (allows : AllowsLocal allowed) (context : String) (program : Stage α) :
    Fallible.Only allowed (Client.stage context program) :=
  Fallible.Only.attempt (allows.onStore program.run)

theorem ignore (allows : AllowsLocal allowed) (program : Stage α) :
    Fallible.Only allowed (Client.ignore program) :=
  Fallible.Only.lift ((allows.onStore program.run).bind fun _ => trivial)

theorem onHandle (allows : AllowsLocal allowed) (op : HandleOp) :
    Fallible.Only allowed (Client.onHandle op) :=
  Fallible.Only.lift ⟨allows.handle op, fun _ => trivial⟩

theorem openPart (allows : AllowsLocal allowed) (context : String) :
    Fallible.Only allowed (openPart root blockId generation context) := by
  unfold Download.openPart
  apply Fallible.Only.bind (allows.stage _ _)
  intro resumeFrom
  exact Fallible.Only.bind (allows.onHandle _) fun _ => Fallible.Only.result _

theorem bodyStart (allows : AllowsLocal allowed) (resumeFrom : UInt64) (response : Response) :
    Fallible.Only allowed (bodyStart root blockId generation resumeFrom response) := by
  unfold Download.bodyStart
  split
  · exact Fallible.Only.bind (allows.stage _ _) fun _ => allows.openPart _
  · exact Fallible.Only.result _

theorem removeStaged (allows : AllowsLocal allowed) :
    Fallible.Only allowed (removeStaged root blockId generation) := by
  apply Fallible.Only.bind (allows.ignore _)
  exact fun _ => allows.ignore _

theorem verify (allows : AllowsLocal allowed) (resumeFrom : UInt64) (announced : Option UInt64) :
    Fallible.Only allowed (job.verify resumeFrom announced) := by
  unfold Job.verify
  apply Fallible.Only.bind (allows.stage _ _)
  intro _
  apply Fallible.Only.bind (allows.onHandle _)
  intro downloaded
  apply Fallible.Only.bind (Fallible.Only.result _)
  intro _
  apply Fallible.Only.bind (allows.onHandle _)
  intro _
  apply Fallible.Only.bind (allows.stage _ _)
  intro _
  apply Fallible.Only.onError _ allows.removeStaged
  exact Fallible.Only.bind (allows.stage _ _) fun _ => Fallible.Only.result _

theorem install (allows : AllowsLocal allowed) : Fallible.Only allowed job.install := by
  unfold Job.install
  apply Fallible.Only.bind (allows.stage _ _)
  intro _
  apply Fallible.Only.bind (allows.stage _ _)
  intro _
  apply Fallible.Only.bind allows.removeStaged
  exact fun _ => allows.onHandle _

/-- What follows the loop over the body. -/
theorem afterBody (allows : AllowsLocal allowed) (start : UInt64) (announced : Option UInt64)
    (reached : BodyEnd) :
    Fallible.Only allowed
      (match reached with
        | .complete => do
            job.verify start announced
            job.install
        | .cancelled | .unfinished => pure ()) := by
  cases reached with
  | complete => exact Fallible.Only.bind (allows.verify _ _) fun _ => allows.install
  | cancelled => exact Fallible.Only.result _
  | unfinished => exact Fallible.Only.result _

theorem conclude (allows : AllowsLocal allowed) (outcome : Except DownloadFailure Unit) :
    (Job.conclude outcome).Only allowed := by
  cases outcome with
  | ok _ => trivial
  | error message =>
      refine ⟨allows.handle _, ?_⟩
      intro phase
      show Prog.Only allowed (if phase = DownloadPhase.cancelled then _ else _)
      split
      · trivial
      · exact ⟨allows.handle _, fun _ => ⟨allows.handle _, fun _ => trivial⟩⟩

end AllowsLocal

end TriAI.Download
