import TriAI.Chat.Conversation
import TriAI.Chat.OutputLimit
import TriAI.Http.Proxy

/-!
Contract: one response on the connection of a chat request.

Owns: which traces of `handle_v1_chat` write a second response, and the theorem that these
are exactly the ones in which the loop of the stream judges wrongly whether the response
has begun.

Does not own: the handler (`Http.Proxy`).
-/

set_option autoImplicit false

namespace TriAI.Http

open TriAI.Chat
open TriAI.Library
open TriAI.Library.Interaction

abbrev ProxyEvent : Type := Event ProxyOp ProxyOp.Reply

abbrev ProxyHistory : Type := List ProxyEvent

/-- A byte of the worker's response goes out to the client. -/
inductive Forwards : ProxyEvent → Prop
  | done (first : UInt8) (rest : List UInt8) : Forwards ⟨.writeClient (first :: rest), .done⟩
  | gone (bytes : List UInt8) {sent : Nat} (some : 0 < sent) :
      Forwards ⟨.writeClient bytes, .gone sent⟩
  | failed (bytes : List UInt8) {sent : Nat} (some : 0 < sent) (error : String) :
      Forwards ⟨.writeClient bytes, .failed sent error⟩

/-- A response with a status line of its own. -/
inductive Responds : ProxyEvent → Prop
  | respond (status : Nat) (body : Except ApiError Json) : Responds ⟨.respond status body, ()⟩

/-- A response after a byte of the worker's response or after another response. -/
def SecondResponse (before : ProxyHistory) (event : ProxyEvent) : Prop :=
  Responds event ∧ ∃ earlier ∈ before, Forwards earlier ∨ Responds earlier

/-- No response is written after a byte was forwarded, and none after another. -/
def OneResponse (trace : ProxyHistory) : Prop := ¬ Somewhere SecondResponse trace

/-- The cancellation or the end of the time is seen. -/
inductive Stops : ProxyEvent → Prop
  | cancelled : Stops ⟨.loadFlag, true⟩
  | late : Stops ⟨.deadlinePassed, true⟩

/-- A write to the client that fails after some bytes, in a way that does not say that the
client is gone. -/
inductive Tears : ProxyEvent → Prop
  | torn (bytes : List UInt8) {sent : Nat} (some : 0 < sent) (error : String) :
      Tears ⟨.writeClient bytes, .failed sent error⟩

/-- What the loop takes for an error before the response although bytes went out: a
cancellation or the end of the time after a byte was forwarded, and a first write that fails
when some bytes are out. -/
def Misjudges (before : ProxyHistory) (event : ProxyEvent) : Prop :=
  (∃ earlier ∈ before, Forwards earlier) ∧ Stops event ∨
    (¬ ∃ earlier ∈ before, Forwards earlier) ∧ Tears event

/-- An event that sends nothing to the client and stops nothing. -/
structure Quiet (event : ProxyEvent) : Prop where
  silent : ¬ Responds event
  noBytes : ¬ Forwards event
  goesOn : ¬ Stops event
  whole : ¬ Tears event

/-- The replies that make a call quiet. -/
def quietReply : (op : ProxyOp) → op.Reply → Bool
  | .loadFlag, seen | .deadlinePassed, seen => !seen
  | .writeClient _, _ | .respond _ _, _ => false
  | .lockEngine, _ | .connect, _ | .send _, _ | .readWorker, _ | .shutdownWorker, _
  | .unfinished, _ | .chat _, _ => true

theorem quiet_of_quietReply {op : ProxyOp} {reply : op.Reply}
    (isQuiet : quietReply op reply = true) :
    Quiet ⟨op, reply⟩ where
  silent := by
    rintro ⟨⟩
    cases isQuiet
  noBytes := by
    rintro ⟨⟩
    · cases isQuiet
    · cases isQuiet
    · cases isQuiet
  goesOn := by
    rintro ⟨⟩
    · cases isQuiet
    · cases isQuiet
  whole := by
    rintro ⟨⟩
    cases isQuiet

/-! ## Histories without a response -/

/-- So far no response was written and nothing was misjudged, and bytes went out exactly if
the response has started. -/
structure Unanswered (started : Bool) (history : ProxyHistory) : Prop where
  silent : ∀ event ∈ history, ¬ Responds event
  judged : ¬ Somewhere Misjudges history
  forwarded : (∃ event ∈ history, Forwards event) ↔ started = true

/-- The history at the end of a stream: if an error is reported, bytes went out before it
exactly if that was misjudged. -/
structure StreamEnded (reports : Prop) (history : ProxyHistory) : Prop where
  silent : ∀ event ∈ history, ¬ Responds event
  judged : ¬ reports → ¬ Somewhere Misjudges history
  misjudged : reports → ((∃ event ∈ history, Forwards event) ↔ Somewhere Misjudges history)

section Histories

variable {started : Bool} {history : ProxyHistory} {event : ProxyEvent}

private theorem silent_append (silentBefore : ∀ event ∈ history, ¬ Responds event)
    (silent : ¬ Responds event) : ∀ earlier ∈ history ++ [event], ¬ Responds earlier := by
  simp only [List.mem_append, List.mem_singleton]
  rintro earlier (before | rfl)
  · exact silentBefore earlier before
  · exact silent

/-- A quiet event. -/
theorem Unanswered.quiet (unanswered : Unanswered started history) (isQuiet : Quiet event) :
    Unanswered started (history ++ [event]) where
  silent := silent_append unanswered.silent isQuiet.silent
  judged := by
    rw [somewhere_append_singleton]
    rintro (before | ⟨_, stops⟩ | ⟨_, tears⟩)
    · exact unanswered.judged before
    · exact isQuiet.goesOn stops
    · exact isQuiet.whole tears
  forwarded := by
    rw [← unanswered.forwarded]
    simp [or_and_right, exists_or, isQuiet.noBytes]

/-- A block goes out whole. -/
theorem Unanswered.wrote (unanswered : Unanswered started history) (first : UInt8)
    (rest : List UInt8) :
    Unanswered true (history ++ [⟨.writeClient (first :: rest), .done⟩]) where
  silent := silent_append unanswered.silent (by rintro ⟨⟩)
  judged := by
    rw [somewhere_append_singleton]
    rintro (before | ⟨_, ⟨⟩⟩ | ⟨_, ⟨⟩⟩)
    exact unanswered.judged before
  forwarded := by
    apply iff_of_true _ rfl
    exact ⟨_, List.mem_append_right _ (List.mem_singleton_self _), .done first rest⟩

/-- The response ends where no error is reported once it has started. -/
theorem Unanswered.ended (unanswered : Unanswered started history) {reports : Prop}
    (early : reports → started = false) : StreamEnded reports history where
  silent := unanswered.silent
  judged := fun _ => unanswered.judged
  misjudged := by
    intro reported
    rw [unanswered.forwarded, early reported]
    exact iff_of_false (by decide) unanswered.judged

/-- The loop is stopped, which it takes for an error before the response. -/
theorem Unanswered.stops (unanswered : Unanswered started history) (stops : Stops event)
    {reports : Prop} (reported : reports) : StreamEnded reports (history ++ [event]) where
  silent := silent_append unanswered.silent (by rintro ⟨⟩; cases stops)
  judged := absurd reported
  misjudged := by
    intro _
    have noBytes : ¬ Forwards event := by
      rintro ⟨⟩ <;> cases stops
    have whole : ¬ Tears event := by
      rintro ⟨⟩
      cases stops
    rw [somewhere_append_singleton]
    simp [Misjudges, unanswered.judged, stops, whole, noBytes, or_and_right, exists_or]

/-- The client is gone, which is no error. -/
theorem Unanswered.clientGone (unanswered : Unanswered started history) (bytes : List UInt8)
    (sent : Nat) {reports : Prop} (unreported : ¬ reports) :
    StreamEnded reports (history ++ [⟨.writeClient bytes, .gone sent⟩]) where
  silent := silent_append unanswered.silent (by rintro ⟨⟩)
  judged := by
    rw [somewhere_append_singleton]
    rintro _ (before | ⟨_, ⟨⟩⟩ | ⟨_, ⟨⟩⟩)
    exact unanswered.judged before
  misjudged := fun reported => absurd reported unreported

/-- A write to the client fails, which is reported unless the response had started. -/
theorem Unanswered.writeFailed (unanswered : Unanswered started history) (bytes : List UInt8)
    (sent : Nat) (error : String) {reports : Prop} (reported : reports ↔ started = false) :
    StreamEnded reports (history ++ [⟨.writeClient bytes, .failed sent error⟩]) where
  silent := silent_append unanswered.silent (by rintro ⟨⟩)
  judged := by
    intro unreported
    have isStarted : started = true := by
      cases started with
      | true => rfl
      | false => exact absurd (reported.mpr rfl) unreported
    rw [somewhere_append_singleton]
    rintro (before | ⟨_, ⟨⟩⟩ | ⟨nothing, _⟩)
    · exact unanswered.judged before
    · exact nothing (unanswered.forwarded.mpr isStarted)
  misjudged := by
    intro isReported
    have nothing : ¬ ∃ earlier ∈ history, Forwards earlier := by
      rw [unanswered.forwarded, reported.mp isReported]
      decide
    rw [somewhere_append_singleton]
    constructor
    · rintro ⟨earlier, member, forwards⟩
      rcases List.mem_append.mp member with before | now
      · exact absurd ⟨earlier, before, forwards⟩ nothing
      · rw [List.mem_singleton.mp now] at forwards
        cases forwards with
        | failed _ some _ => exact .inr (.inr ⟨nothing, .torn bytes some error⟩)
    · rintro (before | ⟨something, _⟩ | ⟨_, ⟨_, some, _⟩⟩)
      · exact absurd before unanswered.judged
      · exact absurd something nothing
      · exact ⟨_, List.mem_append_right _ (List.mem_singleton_self _), .failed bytes some error⟩

/-- A quiet event after the end of the stream. -/
theorem StreamEnded.quiet {reports : Prop} (ended : StreamEnded reports history)
    (isQuiet : Quiet event) : StreamEnded reports (history ++ [event]) where
  silent := silent_append ended.silent isQuiet.silent
  judged := by
    intro unreported
    rw [somewhere_append_singleton]
    simp [Misjudges, ended.judged unreported, isQuiet.goesOn, isQuiet.whole]
  misjudged := by
    intro reported
    rw [somewhere_append_singleton, ← ended.misjudged reported]
    simp [Misjudges, isQuiet.goesOn, isQuiet.whole, isQuiet.noBytes, or_and_right, exists_or]

/-- Whether the trace has one response, and whether nothing was misjudged, is the same. -/
def Judges (history : ProxyHistory) : Prop := OneResponse history ↔ ¬ Somewhere Misjudges history

private theorem oneResponse_of_silent (silent : ∀ event ∈ history, ¬ Responds event) :
    OneResponse history := by
  rintro ⟨before, event, after, rfl, responds, _⟩
  exact silent event (by simp) responds

/-- No error is reported. -/
theorem StreamEnded.judges_silent {reports : Prop} (ended : StreamEnded reports history)
    (unreported : ¬ reports) : Judges history :=
  iff_of_true (oneResponse_of_silent ended.silent) (ended.judged unreported)

/-- An error is reported. -/
theorem StreamEnded.judges_respond {reports : Prop} (ended : StreamEnded reports history)
    (reported : reports) (status : Nat) (body : Except ApiError Json) :
    Judges (history ++ [⟨.respond status body, ()⟩]) := by
  have second : SecondResponse history ⟨.respond status body, ()⟩ ↔
      ∃ earlier ∈ history, Forwards earlier := by
    constructor
    · rintro ⟨_, earlier, member, forwards | responds⟩
      · exact ⟨earlier, member, forwards⟩
      · exact absurd responds (ended.silent earlier member)
    · rintro ⟨earlier, member, forwards⟩
      exact ⟨.respond status body, earlier, member, .inl forwards⟩
  have noMisjudgement : ¬ Misjudges history ⟨.respond status body, ()⟩ := by
    rintro (⟨_, ⟨⟩⟩ | ⟨_, ⟨⟩⟩)
  have before : ¬ Somewhere SecondResponse history := oneResponse_of_silent ended.silent
  unfold Judges OneResponse
  rw [somewhere_append_singleton, somewhere_append_singleton, second, ended.misjudged reported]
  simp [before, noMisjudgement]

end Histories

/-! ## The handler -/

/-- The stream ends with an error that is reported. -/
def Reports {α : Type} (result : Except ApiError α) : Prop := ∃ error, result = .error error

private theorem reports_brokenOff (started : Bool) (after before : String) :
    Reports (settleStream (.error (brokenOff started after before))) ↔ started = false := by
  cases started with
  | true => simp [Reports, brokenOff, settleStream]
  | false => simp [Reports, brokenOff, settleStream]

private theorem not_reports_ok : ¬ Reports (settleStream (.ok ())) := by
  rintro ⟨error, same⟩
  cases same

/-- A quiet call whose reply decides how the program goes on. -/
private theorem wlp_quiet {α : Type} {op : ProxyOp} {rest : op.Reply → ProxyProg α} {started : Bool}
    {history : ProxyHistory} {post : α → ProxyHistory → Prop}
    (unanswered : Unanswered started history)
    (continues : ∀ reply,
      (quietReply op reply = true → Unanswered started (history ++ [⟨op, reply⟩])) →
      wlp (stepping recording) (rest reply) post (history ++ [⟨op, reply⟩])) :
    wlp (stepping recording) (Prog.perform op >>= rest) post history := by
  refine wlp_perform trivial fun reply after answered => ?_
  obtain rfl := answered
  exact continues reply fun isQuiet => unanswered.quiet (quiet_of_quietReply isQuiet)

/-- Run lemma of the loop. -/
theorem streamLoop_ended (rounds : Nat) {started : Bool} {history : ProxyHistory}
    (unanswered : Unanswered started history) :
    wlp (stepping recording) (streamLoop rounds started)
      (fun result after => StreamEnded (Reports (settleStream result)) after) history := by
  induction rounds generalizing started history with
  | zero => exact ⟨trivial, fun reply => reply.elim⟩
  | succ rounds inductionHypothesis =>
      refine wlp_quiet unanswered fun cancelled goesOn => ?_
      cases cancelled with
      | true =>
          refine wlp_perform trivial fun _ last shut => ?_
          obtain rfl := shut
          exact (unanswered.stops .cancelled ⟨_, rfl⟩).quiet (quiet_of_quietReply rfl)
      | false =>
          refine wlp_quiet (goesOn rfl) fun late inTime => ?_
          cases late with
          | true => exact (goesOn rfl).stops .late ⟨_, rfl⟩
          | false =>
              refine wlp_quiet (inTime rfl) fun read hasRead => ?_
              cases read with
              | ended => exact (hasRead rfl).ended (absurd · not_reports_ok)
              | again => exact inductionHypothesis (hasRead rfl)
              | failed error => exact (hasRead rfl).ended (reports_brokenOff ..).mp
              | data first rest =>
                  refine wlp_perform trivial fun written afterWrite wrote => ?_
                  obtain rfl := wrote
                  cases written with
                  | done => exact inductionHypothesis ((hasRead rfl).wrote first rest)
                  | gone sent => exact (hasRead rfl).clientGone _ sent not_reports_ok
                  | failed sent error =>
                      exact (hasRead rfl).writeFailed _ sent error (reports_brokenOff ..)

/-- The connection to the worker. -/
theorem proxyWorker_ended (rounds : Nat) (body : Json) {history : ProxyHistory}
    (unanswered : Unanswered false history) :
    wlp (stepping recording) (proxyWorkerRawResponseToClient rounds body)
      (fun result after => StreamEnded (Reports (settleStream result)) after) history := by
  refine wlp_quiet unanswered fun connected afterConnect => ?_
  cases connected with
  | error message => exact (afterConnect rfl).ended fun _ => rfl
  | ok done =>
      refine wlp_quiet (afterConnect rfl) fun cancelled goesOn => ?_
      cases cancelled with
      | true => exact (afterConnect rfl).stops .cancelled ⟨_, rfl⟩
      | false =>
          refine wlp_quiet (goesOn rfl) fun sent afterSend => ?_
          cases sent with
          | error error => exact (afterSend rfl).ended fun _ => rfl
          | ok done => exact streamLoop_ended rounds (afterSend rfl)

/-- A request that has begun is finished: the engine stays locked and busy. -/
private theorem finishStream_busy {engine busy : Engine} {model : String}
    (begins : engine.beginRequest model = (.ok (), busy)) (result : Except StreamProxyError Unit) :
    finishStream busy result = settleStream result := by
  unfold Engine.beginRequest at begins
  split at begins
  · cases begins
  · cases begins
    rfl

/-- A worker that has an endpoint is asked. -/
private theorem askWorker_ended (rounds : Nat) (body : Json) (endpoint : Option (String × UInt16))
    {history : ProxyHistory} (unanswered : Unanswered false history) :
    wlp (stepping recording) (askWorker rounds body endpoint)
      (fun result after => StreamEnded (Reports (settleStream result)) after) history := by
  cases endpoint with
  | none => exact unanswered.ended fun _ => rfl
  | some address => exact proxyWorker_ended rounds body unanswered

theorem streamActiveWorkerResponse_ended (rounds : Nat) (model : String) (body : Json)
    {history : ProxyHistory} (unanswered : Unanswered false history) :
    wlp (stepping recording) (streamActiveWorkerResponse rounds model body)
      (fun result after => StreamEnded (Reports result) after) history := by
  refine wlp_quiet unanswered fun engine locked => ?_
  split
  · exact (locked rfl).ended fun _ => rfl
  · split
    · exact (locked rfl).ended fun _ => rfl
    · split
      · exact (locked rfl).ended fun _ => rfl
      · rename_i busy begins
        refine wlp_seq (askWorker_ended rounds body _ (locked rfl)) fun result after ended => ?_
        show StreamEnded (Reports (finishStream busy result)) after
        rw [finishStream_busy begins]
        exact ended

/-- The calls that do not stream. -/
def StaysInside : ChatOp → Prop
  | .streamActiveWorkerResponse _ => False
  | .proxyActiveWorkerJson _ | .readAttachment .. | .execute .. => True

/-- A chat that does not stream makes no such call. -/
private theorem runChatCompletion_staysInside (parse : String → Except String Json)
    (request : ChatRequest) :
    wlp (onlyCalls StaysInside) (runChatCompletionWithTools parse request.model request.workerBody
      request.attachmentIndex).run (fun _ _ => True) () := by
  have rule : ChatRule parse (onlyCalls StaysInside) (fun _ => True) request.attachmentIndex :=
    { sends := fun _ _ => trivial
      appends := fun _ _ _ _ _ _ => trivial
      calls := by
        intro _ _ _ call _ _ _ _
        apply wlp_executeToolCall
        intro op runs
        cases runs with
        | read => trivial
        | execute => trivial }
  exact wlp_chatRounds rule request.model maxToolRounds trivial none

/-- A call that does not stream sends nothing to the client. -/
private theorem chatCall_keeps (rounds : Nat) (model : String) (op : ChatOp)
    (history : ProxyHistory) (inside : StaysInside op) (unanswered : Unanswered false history) :
    wlp (stepping recording) (chatCall rounds model op) (fun _ => Unanswered false) history := by
  cases op with
  | streamActiveWorkerResponse body => exact inside.elim
  | proxyActiveWorkerJson body =>
      exact wlp_quiet unanswered fun reply kept => kept rfl
  | readAttachment index attachmentId chunkIndex =>
      exact wlp_quiet unanswered fun reply kept => kept rfl
  | execute name args => exact wlp_quiet unanswered fun reply kept => kept rfl

/-- The chat until its response. -/
private theorem serveChat_ended (parse : String → Except String Json) (rounds : Nat)
    (request : ChatRequest) {history : ProxyHistory} (unanswered : Unanswered false history) :
    wlp (stepping recording) ((serveChat parse request).expand (chatCall rounds request.model))
      (fun outcome after => StreamEnded (outcome ≠ .streamed) after) history := by
  unfold serveChat
  split
  · split
    · exact unanswered.ended fun _ => rfl
    · refine wlp_seq (streamActiveWorkerResponse_ended rounds request.model request.workerBody
        unanswered) fun result after ended => ?_
      have same : (ChatOutcome.of (fun _ => .streamed) result ≠ .streamed) = Reports result := by
        cases result with
        | ok done => simp [ChatOutcome.of, Reports]
        | error error => simp [ChatOutcome.of, Reports]
      show StreamEnded (ChatOutcome.of (fun _ => .streamed) result ≠ .streamed) after
      rw [same]
      exact ended
  · have inside : wlp (onlyCalls StaysInside)
        ((runChatCompletionWithTools parse request.model request.workerBody
          request.attachmentIndex).run >>= fun result => Prog.ret (ChatOutcome.of .answered result))
        (fun _ _ => True) () := by
      rw [wlp_bind]
      exact wlp_mono (runChatCompletion_staysInside parse request) fun _ _ _ => trivial
    apply wlp_mono (wlp_expand (chatCall_keeps rounds request.model) inside unanswered)
    exact fun _ _ kept => kept.ended fun _ => rfl

/-- The response to a chat. -/
private theorem respondOutcome_judges (outcome : ChatOutcome) {history : ProxyHistory}
    (ended : StreamEnded (outcome ≠ .streamed) history) :
    wlp (stepping recording) (respondOutcome outcome) (fun _ => Judges) history := by
  cases outcome with
  | answered response =>
      refine ⟨trivial, fun _ after responded => ?_⟩
      obtain rfl := responded
      exact ended.judges_respond (by simp) 200 _
  | streamed => exact ended.judges_silent (absurd rfl)
  | failed error =>
      refine ⟨trivial, fun _ after responded => ?_⟩
      obtain rfl := responded
      exact ended.judges_respond (by simp) _ _

/-- The traces of `handle_v1_chat` that have one response are exactly the ones in which
neither a cancellation nor the end of the time is seen after a byte was forwarded and no first
write fails when some bytes are out. -/
theorem oneResponse_iff {parse : String → Except String Json} {rounds : Nat} {body : String}
    {trace : ProxyHistory}
    (returns : Prog.Returns (handleV1ChatConnection parse rounds body) trace ()) :
    OneResponse trace ↔ ¬ Somewhere Misjudges trace := by
  have start : Unanswered false [] := ⟨by simp, somewhere_nil, by simp⟩
  have judged : wlp (stepping recording) (handleV1ChatConnection parse rounds body)
      (fun _ => Judges) [] := by
    unfold handleV1ChatConnection
    split
    · exact respondOutcome_judges (.failed _) (start.ended fun _ => rfl)
    · split
      · exact respondOutcome_judges (.failed _) (start.ended fun _ => rfl)
      · exact wlp_seq (serveChat_ended parse rounds _ start) fun outcome after ended =>
          respondOutcome_judges outcome ended
  exact returns.recorded judged

/-! ## Two requests -/

/-- A request that asks for a stream. -/
def streamRequest : Json := sampleRequest [("stream", .bool true)]

/-- An engine that is ready for it. -/
def streamEngine : Engine :=
  { state := .ready, activeModel := some "m", workerEndpoint := some ("127.0.0.1", 19101) }

/-- Its handler streams and responds to the result. -/
private theorem handler_streams (rounds : Nat) :
    ∃ workerBody, handleV1ChatConnection (fun _ => .ok streamRequest) rounds "" =
      streamActiveWorkerResponse rounds "m" workerBody >>= fun result =>
        respondOutcome (.of (fun _ => .streamed) result) := by
  obtain ⟨request, reads, model, streams, plain⟩ : ∃ request,
      readChat streamRequest = .ok request ∧ request.model = "m" ∧
        request.streamRequested = true ∧ request.attachmentIndex = none :=
    ⟨_, rfl, rfl, rfl, rfl⟩
  refine ⟨request.workerBody, ?_⟩
  unfold handleV1ChatConnection
  simp only [reads]
  unfold serveChat
  rw [if_pos streams, plain, if_neg (by decide), ← model]
  exact bind_assoc _ _ _

/-- The request is cancelled after the first byte. -/
private theorem returns_cancelled (workerBody : Json) :
    Prog.Returns (streamActiveWorkerResponse 2 "m" workerBody)
      [⟨.lockEngine, streamEngine⟩, ⟨.connect, .ok ()⟩, ⟨.loadFlag, false⟩,
        ⟨.send workerBody, .ok ()⟩, ⟨.loadFlag, false⟩, ⟨.deadlinePassed, false⟩,
        ⟨.readWorker, .data 72 []⟩, ⟨.writeClient [72], .done⟩, ⟨.loadFlag, true⟩,
        ⟨.shutdownWorker, ()⟩]
      (.error { code := .cancelled, message := "Request wurde abgebrochen" }) :=
  .call _ (.call _ (.call _ (.call _ (.call _ (.call _ (.call _ (.call _ (.call _ (.call _
    (.ret _))))))))))

/-- It is answered twice: the client gets an error response behind the byte. -/
theorem oneResponse_cancelled :
    ∃ trace, Prog.Returns (handleV1ChatConnection (fun _ => .ok streamRequest) 2 "") trace () ∧
      ¬ OneResponse trace := by
  obtain ⟨workerBody, handler⟩ := handler_streams 2
  rw [handler]
  refine ⟨_, (returns_cancelled workerBody).bind (.call () (.ret ())), not_not_intro ?_⟩
  refine ⟨_, _, [], rfl, .respond _ _, _, ?_, .inl (.done 72 [])⟩
  simp

/-- The worker ends after the first byte. -/
private theorem returns_ended (workerBody : Json) :
    Prog.Returns (streamActiveWorkerResponse 2 "m" workerBody)
      [⟨.lockEngine, streamEngine⟩, ⟨.connect, .ok ()⟩, ⟨.loadFlag, false⟩,
        ⟨.send workerBody, .ok ()⟩, ⟨.loadFlag, false⟩, ⟨.deadlinePassed, false⟩,
        ⟨.readWorker, .data 72 []⟩, ⟨.writeClient [72], .done⟩, ⟨.loadFlag, false⟩,
        ⟨.deadlinePassed, false⟩, ⟨.readWorker, .ended⟩]
      (.ok ()) :=
  .call _ (.call _ (.call _ (.call _ (.call _ (.call _ (.call _ (.call _ (.call _ (.call _
    (.call _ (.ret _)))))))))))

/-- A stream that is forwarded to its end. -/
theorem oneResponse_iff_ended :
    ∃ trace, Prog.Returns (handleV1ChatConnection (fun _ => .ok streamRequest) 2 "") trace () ∧
      (∃ event ∈ trace, Forwards event) ∧ (OneResponse trace ↔ ¬ Somewhere Misjudges trace) := by
  obtain ⟨workerBody, handler⟩ := handler_streams 2
  obtain ⟨trace, returns, forwards⟩ : ∃ trace,
      Prog.Returns (handleV1ChatConnection (fun _ => .ok streamRequest) 2 "") trace () ∧
        ∃ event ∈ trace, Forwards event := by
    rw [handler]
    exact ⟨_, (returns_ended workerBody).bind (.ret ()), _, by simp, .done 72 []⟩
  exact ⟨trace, returns, forwards, oneResponse_iff returns⟩

end TriAI.Http
