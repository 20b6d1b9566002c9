import TriAI.Evidence.Delivery

/-!
Contract: what the failure of one evidence file does to another.

Owns: `failsAs`, the calls that fail in a turn; `FlushFails`, when the flush of one buffer
fails; and the theorem which says exactly when a flush of all buffers reaches a file whose
calls and writes never fail.

Does not own: what the other files contain.
-/

set_option autoImplicit false

namespace TriAI.Evidence

open TriAI.Library.Interaction
open TriAI.Library.Runs

/-- The file a call is about. -/
def WriterOp.filename : WriterOp → String
  | .openAppend filename | .writeAll filename _ | .syncAll filename => filename

/-- The call ended in an error. -/
def WriterOp.Failed : (op : WriterOp) → op.Reply → Prop
  | .openAppend _, reply | .writeAll _ _, reply | .syncAll _, reply => reply ≠ .ok ()

variable {Place : Type}

/-- Exactly the calls of `fails` fail, and no write behind the file `watched` does. -/
def failsAs (watched : String) (fails : WriterOp → Prop) : Faults Place where
  mayFail := fun filename => filename ≠ watched
  Allows := fun _ op reply _ => op.Failed reply ↔ fails op

/-- The flush of a buffer fails: there is something to write, and the file cannot be opened
or written. -/
def Writer.FlushFails (writer : Writer) (fails : WriterOp → Prop) (filename : String) : Prop :=
  writer.pending filename ≠ [] ∧
    (filename ∉ writer.files ∧ fails (.openAppend filename) ∨
      fails (.writeAll filename (writer.pending filename)))

/-- No call on the file fails. -/
def Works (fails : WriterOp → Prop) (filename : String) : Prop :=
  ∀ op : WriterOp, op.filename = filename → ¬ fails op

/-- A file that works is flushed. -/
theorem Works.not_flushFails {fails : WriterOp → Prop} {filename : String}
    (works : Works fails filename) (writer : Writer) : ¬ writer.FlushFails fails filename := by
  rintro ⟨_, ⟨_, opening⟩ | writing⟩
  · exact works _ rfl opening
  · exact works _ rfl writing

/-! ## One file -/

/-- The bytes are under way to the file only if it was opened. -/
def Idle (watched : String) (writer : Writer) (disk : Disk Place) : Prop :=
  watched ∉ writer.files → (disk.opened watched).flying = []

/-- Nothing of what was sent for the file is lost. -/
structure Keeps (place : String → Place) (watched : String) (writer : Writer) (disk : Disk Place)
    (after : Writer) (diskAfter : Disk Place) : Prop where
  whole : after.whole place diskAfter watched = writer.whole place disk watched
  idle : Idle watched after diskAfter

section Keeps

variable {place : String → Place} {watched : String} {writer : Writer} {disk : Disk Place}

theorem Keeps.trans {middle last : Writer} {diskMiddle diskLast : Disk Place}
    (first : Keeps place watched writer disk middle diskMiddle)
    (second : Keeps place watched middle diskMiddle last diskLast) :
    Keeps place watched writer disk last diskLast :=
  ⟨second.whole.trans first.whole, second.idle⟩

variable [DecidableEq Place]

/-- Another file is another place. -/
theorem Keeps.of_arrive_other (own : ∀ other, place other = place watched → other = watched)
    {filename : String} (different : filename ≠ watched) (bytes : List UInt8) (file : AsyncFile)
    {after : Writer} (samePending : after.pending watched = writer.pending watched)
    (sameFiles : watched ∈ after.files ↔ watched ∈ writer.files)
    (idle : Idle watched writer disk) :
    Keeps place watched writer disk after (disk.arrive place filename bytes file) where
  whole := by
    have elsewhere : place watched ≠ place filename :=
      fun together => different (own filename together.symm)
    unfold Writer.whole
    rw [Disk.arrive_contents_of_ne elsewhere, Disk.arrive_opened_of_ne (Ne.symm different),
      samePending]
  idle := by
    intro closed
    rw [Disk.arrive_opened_of_ne (Ne.symm different)]
    exact idle (mt sameFiles.mpr closed)

/-- The writes behind the files go on, and none behind this file fails. -/
theorem Keeps.of_later (own : ∀ other, place other = place watched → other = watched)
    (idle : Idle watched writer disk) {after : Disk Place}
    (later : Disk.Later place (· ≠ watched) disk after) :
    Keeps place watched writer disk writer after := by
  induction later with
  | refl => exact ⟨rfl, idle⟩
  | @tail middle _ _ proceeds inductionHypothesis =>
      refine inductionHypothesis.trans ⟨?_, fun closed =>
        proceeds.idle (inductionHypothesis.idle closed)⟩
      obtain ⟨filename, bytes, file, moves, fails, rfl⟩ := proceeds
      by_cases same : filename = watched
      · subst same
        have kept : bytes ++ file.flying = (middle.opened filename).flying :=
          moves.keeps (by_contra fun failed => fails failed rfl)
        unfold Writer.whole
        rw [Disk.arrive_contents_self, Disk.arrive_opened_self, ← kept]
        simp only [List.append_assoc]
      · exact (Keeps.of_arrive_other own same bytes file rfl Iff.rfl inductionHypothesis.idle).whole

end Keeps

/-! ## One buffer -/

/-- What the flush of the buffer `flushed` does, as far as the file `watched` and the next
flushes are concerned. -/
structure FlushOutcome (place : String → Place) (fails : WriterOp → Prop) (watched flushed : String)
    (writer : Writer) (disk : Disk Place) (result : Except IoError Unit) (after : Writer)
    (diskAfter : Disk Place) : Prop where
  fate : result = .ok () ↔ ¬ writer.FlushFails fails flushed
  emptied : result = .ok () → after.pending flushed = []
  others : ∀ other, other ≠ flushed → after.pending other = writer.pending other ∧
    (other ∈ after.files ↔ other ∈ writer.files)
  kept : Keeps place watched writer disk after diskAfter

section Flush

variable {place : String → Place} {fails : WriterOp → Prop} {watched : String} {writer : Writer}
  {disk : Disk Place} {result : Except IoError Unit} {after : Writer} {diskAfter : Disk Place}

/-- A flush of another buffer does not decide the fate of this one. -/
theorem FlushOutcome.flushFails_iff {flushed other : String}
    (outcome : FlushOutcome place fails watched flushed writer disk result after diskAfter)
    (different : other ≠ flushed) :
    after.FlushFails fails other ↔ writer.FlushFails fails other := by
  obtain ⟨samePending, sameFiles⟩ := outcome.others other different
  unfold Writer.FlushFails
  rw [samePending, sameFiles]

variable [DecidableEq Place]

private theorem error_ne_ok (error : IoError) :
    (Except.error error : Except IoError Unit) ≠ .ok () := by
  intro same
  cases same

/-- Opening the file. -/
private theorem ensureOpen_outcome
    (own : ∀ other, place other = place watched → other = watched)
    (idle : Idle watched writer disk) (flushed : String) :
    wlp (stepping (Disk.Answers place (failsAs watched fails))) (writer.ensureOpen flushed)
      (fun result after => result.2.buffers = writer.buffers ∧
        (result.1 = .ok () ↔ ¬ (flushed ∉ writer.files ∧ fails (.openAppend flushed))) ∧
        (result.1 = .ok () → flushed ∈ result.2.files) ∧
        (∀ other, other ≠ flushed → (other ∈ result.2.files ↔ other ∈ writer.files)) ∧
        Keeps place watched writer disk result.2 after) disk := by
  unfold Writer.ensureOpen
  split
  · rename_i isOpen
    exact ⟨rfl, by simp [isOpen], fun _ => isOpen, fun _ _ => Iff.rfl, rfl, idle⟩
  · rename_i closed
    refine wlp_perform trivial fun reply after answered => ?_
    obtain ⟨middle, later, called, failed⟩ := answered
    have waited := Keeps.of_later own idle later
    cases reply with
    | error error =>
        obtain rfl := called
        have fails := failed.mp (error_ne_ok error)
        exact ⟨rfl, by simp [closed, fails], fun succeeds => absurd succeeds (error_ne_ok error),
          fun _ _ => Iff.rfl, waited⟩
    | ok done =>
        obtain rfl := called
        have works : ¬ fails (.openAppend flushed) := fun fails => failed.mpr fails rfl
        refine ⟨rfl, by simp [works], by simp, fun other different => by simp [different],
          waited.trans ?_⟩
        by_cases same : flushed = watched
        · subst same
          refine ⟨?_, fun stillClosed => absurd (by simp) stillClosed⟩
          unfold Writer.whole
          rw [Disk.arrive_contents_self, Disk.arrive_opened_self, waited.idle closed]
          simp [Writer.pending]
        · exact .of_arrive_other own same [] {} rfl (by simp [Ne.symm same]) waited.idle

/-- What one flush does. -/
theorem flushBuffer_outcome (works : Works fails watched)
    (own : ∀ other, place other = place watched → other = watched)
    (idle : Idle watched writer disk) (flushed : String) :
    wlp (stepping (Disk.Answers place (failsAs watched fails))) (writer.flushBuffer flushed)
      (fun result after =>
        FlushOutcome place fails watched flushed writer disk result.1 result.2 after) disk := by
  unfold Writer.flushBuffer
  split
  · rename_i empty
    refine ⟨?_, fun _ => empty, fun _ _ => ⟨rfl, Iff.rfl⟩, rfl, idle⟩
    simp [Writer.FlushFails, empty]
  · rename_i waiting
    refine wlp_seq (ensureOpen_outcome own idle flushed) ?_
    rintro ⟨opening, opened⟩ between ⟨sameBuffers, openFate, isOpen, sameFiles, openKept⟩
    have samePending : ∀ other, opened.pending other = writer.pending other := by
      intro other
      unfold Writer.pending
      rw [sameBuffers]
    cases opening with
    | error error =>
        have cannotOpen : flushed ∉ writer.files ∧ fails (.openAppend flushed) := by
          by_contra canOpen
          cases openFate.mpr canOpen
        refine ⟨?_, fun succeeds => absurd succeeds (error_ne_ok error), fun other different =>
          ⟨samePending other, sameFiles other different⟩, openKept⟩
        exact iff_of_false (error_ne_ok error)
          (not_not_intro ⟨waiting, .inl cannotOpen⟩)
    | ok done =>
        have canOpen := openFate.mp rfl
        have held : flushed ∈ opened.files := isOpen rfl
        refine wlp_perform trivial fun reply after answered => ?_
        obtain ⟨middle, later, ⟨arrived, file, writes, rfl⟩, failed⟩ := answered
        have waited := openKept.trans (Keeps.of_later own openKept.idle later)
        cases reply with
        | error error =>
            have cannotWrite : fails (.writeAll flushed (opened.pending flushed)) :=
              failed.mp (error_ne_ok error)
            have different : flushed ≠ watched := fun same =>
              works (.writeAll flushed _) same cannotWrite
            rw [samePending] at cannotWrite
            refine ⟨?_, fun succeeds => absurd succeeds (error_ne_ok error), fun other different =>
              ⟨samePending other, sameFiles other different⟩, waited.trans ?_⟩
            · exact iff_of_false (error_ne_ok error)
                (not_not_intro ⟨waiting, .inr cannotWrite⟩)
            · exact .of_arrive_other own different arrived file rfl Iff.rfl waited.idle
        | ok done =>
            have canWrite : ¬ fails (.writeAll flushed (writer.pending flushed)) := by
              rw [← samePending]
              exact fun fails => failed.mpr fails rfl
            refine ⟨?_, fun _ => by simp [Writer.pending], fun other different => ⟨?_, ?_⟩,
              waited.trans ?_⟩
            · apply iff_of_true rfl
              rintro ⟨_, opening | writing⟩
              · exact canOpen opening
              · exact canWrite writing
            · rw [← samePending]
              simp [Writer.pending, AList.lookup_insert_ne different]
            · exact sameFiles other different
            · by_cases same : flushed = watched
              · subst same
                refine ⟨?_, fun closed => absurd held closed⟩
                unfold Writer.whole
                rw [Disk.arrive_contents_self, Disk.arrive_opened_self, writes.idle,
                  List.append_assoc (middle.contents _), writes.of_ok]
                simp [Writer.pending]
              · refine .of_arrive_other own same arrived file ?_ Iff.rfl waited.idle
                simp [Writer.pending, AList.lookup_insert_ne (Ne.symm same)]

/-! ## All buffers -/

/-- The flush of all buffers comes to the file: nothing waits for it, or no flush before its
own fails. -/
def Reaches (fails : WriterOp → Prop) (watched : String) (writer : Writer) (order : List String) :
    Prop :=
  writer.pending watched = [] ∨
    ∀ other ∈ order.takeWhile (· ≠ watched), ¬ writer.FlushFails fails other

/-- What a flush of all buffers does to the file that is watched. -/
structure AllOutcome (place : String → Place) (fails : WriterOp → Prop) (watched : String)
    (order : List String) (writer : Writer) (disk : Disk Place) (after : Writer)
    (diskAfter : Disk Place) : Prop where
  kept : Keeps place watched writer disk after diskAfter
  absent : watched ∉ order → after.pending watched = writer.pending watched
  present : watched ∈ order → (after.pending watched = [] ↔ Reaches fails watched writer order)

/-- The loop of `flush_all_buffers`. -/
theorem flushAllBuffers_outcome (works : Works fails watched)
    (own : ∀ other, place other = place watched → other = watched)
    (idle : Idle watched writer disk) {order : List String} (nodup : order.Nodup) :
    wlp (stepping (Disk.Answers place (failsAs watched fails))) (writer.flushAllBuffers order)
      (fun result after => AllOutcome place fails watched order writer disk result.2 after)
      disk := by
  induction order generalizing writer disk with
  | nil => exact ⟨⟨rfl, idle⟩, fun _ => rfl, fun impossible => absurd impossible List.not_mem_nil⟩
  | cons flushed rest inductionHypothesis =>
      obtain ⟨notAgain, nodupRest⟩ := List.nodup_cons.mp nodup
      refine wlp_seq (flushBuffer_outcome works own idle flushed) ?_
      rintro ⟨error | done, middle⟩ diskMiddle outcome
      · have fails : writer.FlushFails fails flushed := by
          by_contra succeeds
          exact error_ne_ok error (outcome.fate.mpr succeeds)
        have different : watched ≠ flushed := by
          rintro rfl
          exact works.not_flushFails writer fails
        have samePending := (outcome.others watched different).1
        refine ⟨outcome.kept, fun _ => samePending, fun _ => ?_⟩
        simp [Reaches, samePending, Ne.symm different, fails]
      · have succeeds : ¬ writer.FlushFails fails flushed := outcome.fate.mp rfl
        apply wlp_mono (inductionHypothesis outcome.kept.idle nodupRest)
        intro result after later
        refine ⟨outcome.kept.trans later.kept, ?_, ?_⟩
        · intro absent
          obtain ⟨different, absentRest⟩ := not_or.mp (mt List.mem_cons.mpr absent)
          exact (later.absent absentRest).trans (outcome.others watched different).1
        · intro present
          by_cases same : watched = flushed
          · subst same
            have empty : result.2.pending watched = [] :=
              (later.absent notAgain).trans (outcome.emptied rfl)
            exact iff_of_true empty (.inr (by simp))
          · have presentRest : watched ∈ rest := (List.mem_cons.mp present).resolve_left same
            have unaffected : ∀ other ∈ rest.takeWhile (· ≠ watched),
                (middle.FlushFails fails other ↔ writer.FlushFails fails other) := by
              intro other before
              apply outcome.flushFails_iff
              rintro rfl
              exact notAgain ((List.takeWhile_sublist _).subset before)
            rw [later.present presentRest]
            unfold Reaches
            rw [(outcome.others watched same).1, forall₂_congr fun other before =>
              not_congr (unaffected other before)]
            simp [Ne.symm same, succeeds]

/-- A sync waits until nothing is under way to its file. -/
theorem syncFiles_waits (own : ∀ other, place other = place watched → other = watched)
    (files : List String) (idle : Idle watched writer disk) :
    wlp (stepping (Disk.Answers place (failsAs watched fails))) (Writer.syncFiles files)
      (fun _ after => Keeps place watched writer disk writer after ∧
        (watched ∈ files ∨ (disk.opened watched).flying = [] →
          (after.opened watched).flying = [])) disk := by
  induction files generalizing disk with
  | nil => exact ⟨⟨rfl, idle⟩, fun waited => waited.resolve_left List.not_mem_nil⟩
  | cons filename rest inductionHypothesis =>
      refine wlp_perform trivial fun reply after answered => ?_
      obtain ⟨_, later, ⟨nothing, rfl⟩, _⟩ := answered
      have waited := Keeps.of_later own idle later
      apply wlp_mono (inductionHypothesis waited.idle)
      rintro _ last ⟨kept, synced⟩
      refine ⟨waited.trans kept, ?_⟩
      rintro (member | before)
      · rcases List.mem_cons.mp member with rfl | inRest
        · exact synced (.inr nothing)
        · exact synced (.inl inRest)
      · exact synced (.inr (Disk.Later.idle later before))

end Flush

/-! ## Turns -/

section Turns

variable {place : String → Place} {watched : String} {initial : Place → List UInt8}
  {bufferSizeBytes : Nat}

/-- Receiving what a turn was sent. -/
private theorem whole_receive (writer : Writer) (disk : Disk Place) (event : WriterEvent) :
    (writer.receive event).whole place disk watched =
      writer.whole place disk watched ++ event.sentTo watched := by
  cases event with
  | write filename data =>
      by_cases same : filename = watched
      · subst same
        simp [Writer.receive, Writer.whole, Writer.pending, Writer.extend, WriterEvent.sentTo]
      · simp [Writer.receive, Writer.whole, Writer.pending, Writer.extend, WriterEvent.sentTo, same,
          AList.lookup_insert_ne (Ne.symm same)]
  | flush => simp [Writer.receive, WriterEvent.sentTo]
  | shutdown => simp [Writer.receive, WriterEvent.sentTo]
  | closed => simp [Writer.receive, WriterEvent.sentTo]
  | tick => simp [Writer.receive, WriterEvent.sentTo]

variable [DecidableEq Place]

/-- A turn in which exactly the calls of `fails` fail, and none on the file `watched`, nor a write
behind it. -/
structure TurnsWorking (place : String → Place) (bufferSizeBytes : Nat) (watched : String)
    (before : Task Place) (turn : Handled × (WriterOp → Prop)) (after : Task Place) : Prop where
  turns : Turns place (failsAs watched turn.2) bufferSizeBytes before turn.1 after
  works : Works turn.2 watched

/-- The turns of a run without the calls that failed. -/
def handledOf (history : List (Handled × (WriterOp → Prop))) : List Handled := history.map Prod.fst

/-- What a turn does to the file that is watched: nothing of what it was sent is lost, a turn that
answers leaves nothing waiting exactly if it comes to the file, and a shutdown waits until
nothing is under way. -/
private theorem handle_outcome {writer : Writer} {event : WriterEvent} {disk : Disk Place}
    {fails : WriterOp → Prop} (works : Works fails watched)
    (own : ∀ other, place other = place watched → other = watched)
    (idle : Idle watched writer disk) {order : List String}
    (isOrder : order.Perm writer.buffers.keys) :
    wlp (stepping (Disk.Answers place (failsAs watched fails)))
      (writer.handle bufferSizeBytes order event)
      (fun turn after =>
        Keeps place watched (writer.receive event) disk turn.writer after ∧
        (turn.reply ≠ none →
          (turn.writer.pending watched = [] ↔ Reaches fails watched writer order)) ∧
        (event = .shutdown → (after.opened watched).flying = [])) disk := by
  have nodup : order.Nodup := isOrder.nodup_iff.mpr writer.buffers.nodupKeys
  have flushAll : wlp (stepping (Disk.Answers place (failsAs watched fails)))
      (writer.flushAllBuffers order)
      (fun result after => Keeps place watched writer disk result.2 after ∧
        (result.2.pending watched = [] ↔ Reaches fails watched writer order)) disk := by
    apply wlp_mono (flushAllBuffers_outcome works own idle nodup)
    intro result after outcome
    refine ⟨outcome.kept, ?_⟩
    by_cases present : watched ∈ order
    · exact outcome.present present
    · have nothing : writer.pending watched = [] := by
        have missing : watched ∉ writer.buffers := fun held =>
          present (isOrder.mem_iff.mpr (AList.mem_keys.mp held))
        simp [Writer.pending, AList.lookup_eq_none.mpr missing]
      exact iff_of_true ((outcome.absent present).trans nothing) (.inl nothing)
  cases event with
  | write filename data =>
      have received : Idle watched (writer.extend filename data) disk := idle
      unfold Writer.handle
      dsimp only
      split
      · refine wlp_seq (flushBuffer_outcome works own received filename) ?_
        intro result after outcome
        exact ⟨outcome.kept, fun replies => absurd rfl replies, WriterEvent.noConfusion⟩
      · exact ⟨⟨rfl, received⟩, fun replies => absurd rfl replies, WriterEvent.noConfusion⟩
  | flush =>
      refine wlp_seq flushAll ?_
      intro result after outcome
      exact ⟨outcome.1, fun _ => outcome.2, WriterEvent.noConfusion⟩
  | shutdown =>
      refine wlp_seq flushAll ?_
      intro result middle outcome
      refine wlp_seq (syncFiles_waits own result.2.files outcome.1.idle) ?_
      rintro _ after ⟨synced, waited⟩
      refine ⟨outcome.1.trans synced, fun _ => outcome.2, fun _ => waited ?_⟩
      exact or_iff_not_imp_left.mpr outcome.1.idle
  | closed =>
      refine wlp_seq flushAll ?_
      intro result after outcome
      exact ⟨outcome.1, fun replies => absurd rfl replies, WriterEvent.noConfusion⟩
  | tick =>
      refine wlp_seq flushAll ?_
      intro result after outcome
      exact ⟨outcome.1, fun replies => absurd rfl replies, WriterEvent.noConfusion⟩

/-- The same of a turn with what goes on behind the files after it. -/
private theorem TurnsWorking.outcome
    (own : ∀ other, place other = place watched → other = watched) {before after : Task Place}
    {handled : Handled} {fails : WriterOp → Prop}
    (turn : TurnsWorking place bufferSizeBytes watched before (handled, fails) after)
    (idle : Idle watched before.writer before.disk) :
    Keeps place watched (before.writer.receive handled.event) before.disk after.writer
        after.disk ∧
      (handled.reply ≠ none →
        (after.writer.pending watched = [] ↔
          Reaches fails watched before.writer handled.order)) ∧
      (handled.event = .shutdown → (after.disk.opened watched).flying = []) := by
  obtain ⟨answered, runs, later⟩ := turn.turns.runs
  obtain ⟨kept, waits, synced⟩ :=
    runs.of_stepping (handle_outcome turn.works own idle turn.turns.order)
  exact ⟨kept.trans (.of_later own kept.idle later), waits,
    fun isShutdown => Disk.Later.idle later (synced isShutdown)⟩

/-- In every run, the file with what is under way to it and what waits for it is what it was with
all that it was sent. -/
theorem whole_of_run (own : ∀ other, place other = place watched → other = watched)
    {history : List (Handled × (WriterOp → Prop))} {last : Task Place}
    (run : Run (TurnsWorking place bufferSizeBytes watched)
      ⟨.new, { contents := initial }, true⟩ history last) :
    last.writer.whole place last.disk watched =
        initial (place watched) ++ sentTo watched (handledOf history) ∧
      Idle watched last.writer last.disk := by
  apply run.invariant fun history last => last.writer.whole place last.disk watched =
      initial (place watched) ++ sentTo watched (handledOf history) ∧
    Idle watched last.writer last.disk
  · exact ⟨by simp [Writer.whole, Writer.pending, Writer.new, sentTo, handledOf], fun _ => rfl⟩
  · rintro history before ⟨handled, fails⟩ after ⟨earlier, idle⟩ turn
    obtain ⟨kept, _, _⟩ := turn.outcome own idle
    refine ⟨?_, kept.idle⟩
    rw [kept.whole, whole_receive, earlier]
    simp [handledOf, sentTo_append]

/-- When the writer has answered a flush or a shutdown, a file whose calls and writes never failed
has everything that it was sent exactly if the flush came to it, and what it handed over has
arrived. It comes to the file if nothing waited for it, or no flush of a buffer that the map gives
before its own failed. After a shutdown everything has arrived. -/
theorem flush_isolates (own : ∀ other, place other = place watched → other = watched)
    {history : List (Handled × (WriterOp → Prop))} {before after : Task Place}
    (run : Run (TurnsWorking place bufferSizeBytes watched)
      ⟨.new, { contents := initial }, true⟩ history before)
    {handled : Handled} {fails : WriterOp → Prop}
    (turn : TurnsWorking place bufferSizeBytes watched before (handled, fails) after)
    (answers : handled.reply ≠ none) :
    (after.disk.contents (place watched) =
        initial (place watched) ++ sentTo watched (handledOf history ++ [handled]) ↔
      Reaches fails watched before.writer handled.order ∧
        (after.disk.opened watched).flying = []) ∧
    (handled.event = .shutdown → (after.disk.opened watched).flying = []) := by
  obtain ⟨whole, _⟩ := whole_of_run own (run.step turn)
  obtain ⟨_, waits, synced⟩ := turn.outcome own (whole_of_run own run).2
  have sent : handledOf (history ++ [(handled, fails)]) = handledOf history ++ [handled] := by
    simp [handledOf]
  refine ⟨?_, synced⟩
  rw [← waits answers, ← sent, ← whole]
  simp [Writer.whole, and_comm]

end Turns

/-! ## Recorded runs -/

/-- Every call on `a.jsonl` fails and no other. -/
def failsA (op : WriterOp) : Prop := op.filename = "a.jsonl"

private theorem works_b : Works failsA "b.jsonl" := by
  intro op isB isA
  have same : "b.jsonl" = "a.jsonl" := isB.symm.trans isA
  exact absurd same (by decide)

/-- A line waits for `a.jsonl`. -/
def oneWaiting : Writer := Writer.new.extend "a.jsonl" [97, 10]

/-- A line waits for each of two files. -/
def twoWaiting : Writer := oneWaiting.extend "b.jsonl" [98, 10]

def receivesA : Handled := ⟨.write "a.jsonl" [97, 10], [], none, oneWaiting⟩

def receivesB : Handled := ⟨.write "b.jsonl" [98, 10], ["a.jsonl"], none, twoWaiting⟩

private theorem run_received :
    Run (TurnsWorking id 100 "b.jsonl") ⟨.new, emptyDisk, true⟩
      [(receivesA, failsA), (receivesB, failsA)] ⟨twoWaiting, emptyDisk, true⟩ := by
  have first : Turns id (failsAs "b.jsonl" failsA) 100 ⟨.new, emptyDisk, true⟩ receivesA
      ⟨oneWaiting, emptyDisk, true⟩ := ⟨rfl, .nil, rfl, _, .ret _ _, .refl⟩
  have second : Turns id (failsAs "b.jsonl" failsA) 100 ⟨oneWaiting, emptyDisk, true⟩ receivesB
      ⟨twoWaiting, emptyDisk, true⟩ := ⟨rfl, .refl _, rfl, _, .ret _ _, .refl⟩
  exact (Run.start.step ⟨first, works_b⟩).step ⟨second, works_b⟩

private theorem succeeds_b (op : WriterOp) (reply : op.Reply) (isB : op.filename = "b.jsonl")
    (succeeds : ¬ op.Failed reply) : op.Failed reply ↔ failsA op :=
  iff_of_false succeeds (works_b op isB)

private theorem not_opens_a (disk : Disk String) :
    Disk.Answers id (failsAs "b.jsonl" failsA) disk (.openAppend "a.jsonl")
      (.error (.other "Permission denied")) disk :=
  ⟨_, .refl, rfl, iff_of_true (error_ne_ok _) rfl⟩

/-- The shutdown comes to `b.jsonl` first. -/
def shutsDownB : Handled :=
  ⟨.shutdown, ["b.jsonl", "a.jsonl"], some (.error (.other "Permission denied")),
    ⟨twoWaiting.buffers.insert "b.jsonl" [], ["b.jsonl"]⟩⟩

/-- The line for `b.jsonl` has arrived. -/
def arrivedB : Disk String := (handedOver "b.jsonl" [98, 10]).arrive id "b.jsonl" [98, 10] {}

private theorem turns_shutsDownB :
    TurnsWorking id 100 "b.jsonl" ⟨twoWaiting, emptyDisk, true⟩ (shutsDownB, failsA)
      ⟨shutsDownB.writer, arrivedB, false⟩ := by
  refine ⟨⟨rfl, .refl _, rfl, arrivedB, ?_, .refl⟩, works_b⟩
  have returns : Prog.Returns (twoWaiting.handle 100 ["b.jsonl", "a.jsonl"] .shutdown)
      [⟨.openAppend "b.jsonl", .ok ()⟩, ⟨.writeAll "b.jsonl" [98, 10], .ok ()⟩,
        ⟨.openAppend "a.jsonl", .error (.other "Permission denied")⟩,
        ⟨.syncAll "b.jsonl", .ok ()⟩]
      ⟨shutsDownB.reply, shutsDownB.writer, false⟩ :=
    .call _ (.call _ (.call _ (.call _ (.ret _))))
  have opens : Disk.Answers id (failsAs "b.jsonl" failsA) emptyDisk (.openAppend "b.jsonl") (.ok ())
      (emptyDisk.arrive id "b.jsonl" [] {}) :=
    ⟨_, .refl, rfl, succeeds_b _ _ rfl (not_not_intro rfl)⟩
  have hands : ((emptyDisk.arrive id "b.jsonl" [] {}).opened "b.jsonl").WriteAll [98, 10]
      (.ok ()) [] ⟨[98, 10], none⟩ := by
    rw [Disk.arrive_opened_self]
    exact .hands rfl
  have writes : Disk.Answers id (failsAs "b.jsonl" failsA) (emptyDisk.arrive id "b.jsonl" [] {})
      (.writeAll "b.jsonl" [98, 10]) (.ok ()) (handedOver "b.jsonl" [98, 10]) :=
    ⟨_, .refl, ⟨_, _, hands, rfl⟩, succeeds_b _ _ rfl (not_not_intro rfl)⟩
  have nothing : (arrivedB.opened "b.jsonl").flying = [] := by
    rw [arrivedB, Disk.arrive_opened_self]
  have syncs : Disk.Answers id (failsAs "b.jsonl" failsA) (handedOver "b.jsonl" [98, 10])
      (.syncAll "b.jsonl") (.ok ()) arrivedB :=
    ⟨_, Disk.later_lands _ _ _, ⟨nothing, rfl⟩, succeeds_b _ _ rfl (not_not_intro rfl)⟩
  exact returns.exec ⟨_, opens, _, writes, _, not_opens_a _, _, syncs, rfl⟩

/-- Here `b.jsonl` has its line although `a.jsonl` fails. -/
theorem flush_isolates_b :
    arrivedB.contents "b.jsonl" = [] ++ sentTo "b.jsonl" [receivesA, receivesB, shutsDownB] := by
  have reached : Reaches failsA "b.jsonl" twoWaiting shutsDownB.order :=
    .inr (by simp [shutsDownB])
  have isolates := flush_isolates (fun _ same => same) run_received turns_shutsDownB
    (Option.some_ne_none _)
  exact isolates.1.mpr ⟨reached, isolates.2 rfl⟩

/-- The shutdown comes to `a.jsonl` first and ends there. -/
def shutsDownA : Handled :=
  ⟨.shutdown, ["a.jsonl", "b.jsonl"], some (.error (.other "Permission denied")), twoWaiting⟩

private theorem turns_shutsDownA :
    TurnsWorking id 100 "b.jsonl" ⟨twoWaiting, emptyDisk, true⟩ (shutsDownA, failsA)
      ⟨twoWaiting, emptyDisk, false⟩ := by
  refine ⟨⟨rfl, .swap _ _ _, rfl, emptyDisk, ?_, .refl⟩, works_b⟩
  have returns : Prog.Returns (twoWaiting.handle 100 ["a.jsonl", "b.jsonl"] .shutdown)
      [⟨.openAppend "a.jsonl", .error (.other "Permission denied")⟩]
      ⟨shutsDownA.reply, twoWaiting, false⟩ := .call _ (.ret _)
  exact returns.exec ⟨_, not_opens_a _, rfl⟩

/-- The line for `b.jsonl` is lost: the writer has answered and ended, nothing is under way, and
the file, whose calls all succeed, is empty. -/
theorem flush_not_isolates_a :
    ∃ history last, Run (TurnsWorking id 100 "b.jsonl") ⟨.new, emptyDisk, true⟩
        (history ++ [(shutsDownA, failsA)]) last ∧ shutsDownA.reply ≠ none ∧
      (last.disk.opened "b.jsonl").flying = [] ∧
      last.disk.contents "b.jsonl" ≠ sentTo "b.jsonl" (handledOf history ++ [shutsDownA]) := by
  refine ⟨_, _, run_received.step turns_shutsDownA, Option.some_ne_none _, rfl, ?_⟩
  decide +kernel

end TriAI.Evidence
