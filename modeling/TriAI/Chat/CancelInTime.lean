import TriAI.Chat.Cancellation

/-!
Contract: which cancellations stop the tools of a chat request.

Owns: the points at which a request looks at its flag, and that it heeds it there; the
runs whose cancellations are acknowledged in time; and that no tool is started in them
after the acknowledgement.

Does not own: the request, its route and their interleavings (`Chat.Cancellation`).
-/

set_option autoImplicit false

namespace TriAI.Chat

open TriAI.Library
open TriAI.Library.Interaction

/-! ## Where the request looks -/

/-- The start of a tool is the effect a cancellation stops. The request loads the flag
before it sends and before every read; where a read brings no end of the response, the
flag is loaded again before anything else. -/
def cancelPolling : Polling ServeOp ServeOp.Reply where
  Begins := fun
    | .startTool _ => True
    | _ => False
  Looks := fun
    | .loadFlag | .read => True
    | _ => False
  Stopping := fun
    | .loadFlag, cancelled => cancelled = true
    | .read, reply => reply ≠ .ended
    | _, _ => True

/-- A result that is an error. -/
def IsError {ε α : Type} (result : Except ε α) : Prop := ∃ error, result = .error error

section Served

variable {parseResponse : List UInt8 → Except String Json} {parse : String → Except String Json}

/-- A request that is cancelled ends its reading with an error. -/
private theorem quiet_readWorkerResponse (rounds : Nat) (response : List UInt8) :
    cancelPolling.Quiet (readWorkerResponse parseResponse rounds response) IsError := by
  cases rounds with
  | zero => exact ⟨id, fun reply => reply.elim⟩
  | succ rounds =>
      unfold readWorkerResponse
      split
      · refine ⟨id, ?_⟩
        intro cancelled _ stopping
        obtain rfl : cancelled = true := stopping trivial
        exact ⟨_, rfl⟩
      · exact ⟨_, rfl⟩

private theorem heeds_readWorkerResponse (rounds : Nat) (response : List UInt8) :
    cancelPolling.Heeds IsError (readWorkerResponse parseResponse rounds response) := by
  induction rounds generalizing response with
  | zero => exact ⟨fun looks => looks.elim, fun reply => reply.elim⟩
  | succ rounds inductionHypothesis =>
      unfold readWorkerResponse
      split
      · constructor
        · intro _ cancelled stopping
          obtain rfl : cancelled = true := stopping
          exact ⟨_, rfl⟩
        · intro cancelled
          cases cancelled with
          | true => trivial
          | false =>
              refine ⟨fun looks => looks.elim, ?_⟩
              intro late
              cases late with
              | true => trivial
              | false =>
                  constructor
                  · intro _ reply notEnded
                    cases reply with
                    | ended => exact absurd rfl notEnded
                    | data bytes => exact quiet_readWorkerResponse rounds _
                    | again => exact quiet_readWorkerResponse rounds _
                    | failed error => exact ⟨_, rfl⟩
                  · intro reply
                    cases reply with
                    | ended => trivial
                    | data bytes => exact inductionHypothesis _
                    | again => exact inductionHypothesis _
                    | failed error => trivial
      · trivial

private theorem heeds_proxyWorkerJson (rounds : Nat) (body : Json) :
    cancelPolling.Heeds IsError (proxyWorkerJson parseResponse rounds body) := by
  refine ⟨fun looks => looks.elim, ?_⟩
  intro connected
  cases connected with
  | error error => trivial
  | ok _ =>
      constructor
      · intro _ cancelled stopping
        obtain rfl : cancelled = true := stopping
        exact ⟨_, rfl⟩
      · intro cancelled
        cases cancelled with
        | true => trivial
        | false =>
            refine ⟨fun looks => looks.elim, ?_⟩
            intro sent
            cases sent with
            | error error => trivial
            | ok _ => exact heeds_readWorkerResponse rounds []

/-- The worker's answer to a request that is cancelled while it reads is an error. -/
theorem heeds_proxyActiveWorkerJson (rounds : Nat) (model : String) (body : Json) :
    cancelPolling.Heeds IsError (proxyActiveWorkerJson parseResponse rounds model body) := by
  refine ⟨fun looks => looks.elim, ?_⟩
  intro acquired
  cases acquired with
  | error error => trivial
  | ok endpoint =>
      have heeds : cancelPolling.Heeds IsError (askEndpoint parseResponse rounds body endpoint) := by
        cases endpoint with
        | none => trivial
        | some _ => exact heeds_proxyWorkerJson rounds body
      apply heeds.bind
      · rintro result ⟨message, rfl⟩
        refine ⟨id, ?_⟩
        intro finished _ _
        cases finished with
        | error error => exact ⟨_, rfl⟩
        | ok _ => exact ⟨_, rfl⟩
      · intro result
        refine ⟨fun looks => looks.elim, ?_⟩
        intro finished
        cases finished with
        | error error => trivial
        | ok _ => trivial

/-- The replies that end a chat. -/
def workerErrors : (op : ChatOp) → op.Reply → Prop
  | .proxyActiveWorkerJson _, reply => IsError reply
  | _, _ => False

theorem heeds_serveCall (rounds : Nat) (model : String) (op : ChatOp) :
    cancelPolling.Heeds (workerErrors op) (serveCall parseResponse rounds model op) := by
  cases op with
  | proxyActiveWorkerJson body => exact heeds_proxyActiveWorkerJson rounds model body
  | streamActiveWorkerResponse body => exact ⟨fun looks => looks.elim, fun _ => trivial⟩
  | readAttachment index attachmentId chunkIndex =>
      exact ⟨fun looks => looks.elim, fun _ => ⟨fun looks => looks.elim, fun _ => trivial⟩⟩
  | execute name args =>
      exact ⟨fun looks => looks.elim, fun _ => ⟨fun looks => looks.elim, fun _ => trivial⟩⟩

end Served

/-! ## The rounds of tools -/

private theorem failsAfter_executeToolCall {attachmentIndex : Option AttachmentIndex}
    {call : ToolCall} : FailsAfter workerErrors (executeToolCall attachmentIndex call).run := by
  have toolReply : ∀ {reply : Except String String} {rest : String → ToolResult},
      FailsAfter workerErrors ((ExceptT.mk (.ret reply) >>= fun content =>
        pure (rest content) : ChatProg String ToolResult)).run := by
    intro reply rest
    cases reply <;> trivial
  unfold executeToolCall
  split
  · split
    · trivial
    · cases requestedAttachment call.args with
      | error message => trivial
      | ok attachmentId => exact ⟨fun _ isError => isError.elim, fun reply => toolReply⟩
  · split
    · exact ⟨fun _ isError => isError.elim, fun reply => toolReply⟩
    · trivial

private theorem failsAfter_checked {ε α : Type} (check : Except ε α) :
    FailsAfter workerErrors (checked check).run := trivial

private theorem failsAfter_executeCalls {parse : String → Except String Json}
    {attachmentIndex : Option AttachmentIndex} (calls : List Json) :
    FailsAfter workerErrors (executeCalls parse attachmentIndex calls).run := by
  induction calls with
  | nil => trivial
  | cons value rest inductionHypothesis =>
      unfold executeCalls
      apply (failsAfter_checked _).bind
      intro call
      apply failsAfter_executeToolCall.bind
      intro result
      apply inductionHypothesis.bind
      intro results
      trivial

private theorem failsAfter_chatRound {parse : String → Except String Json} {model : String}
    {attachmentIndex : Option AttachmentIndex} (body : Json) (usage : Option Usage) :
    FailsAfter workerErrors (chatRound parse model attachmentIndex body usage).run := by
  have asks : FailsAfter workerErrors (ExceptT.mk (Prog.perform
      (ChatOp.proxyActiveWorkerJson body)) : ChatProg ApiError Json).run :=
    ⟨fun reply isError => isError.imp fun error isError => by rw [isError], fun _ => trivial⟩
  unfold chatRound
  apply asks.bind
  intro worker
  apply (failsAfter_checked _).attempt.bind
  intro normalized
  apply (failsAfter_executeCalls _).attempt.bind
  intro results
  trivial

/-- An error of the worker ends the rounds at once. -/
theorem failsAfter_chatRounds {parse : String → Except String Json} {model : String}
    {attachmentIndex : Option AttachmentIndex} (further : Nat) (body : Json)
    (usage : Option Usage) :
    FailsAfter workerErrors (chatRounds parse model attachmentIndex further body usage).run := by
  induction further generalizing body usage with
  | zero =>
      unfold chatRounds
      apply (failsAfter_chatRound body usage).bind
      rintro ⟨normalized, total, results⟩
      cases results <;> trivial
  | succ further inductionHypothesis =>
      unfold chatRounds
      apply (failsAfter_chatRound body usage).bind
      rintro ⟨normalized, total, results⟩
      cases results with
      | nil => trivial
      | cons first rest =>
          apply (failsAfter_checked _).attempt.bind
          intro message
          apply (failsAfter_checked _).attempt.bind
          intro nextBody
          exact inductionHypothesis nextBody total

/-- A request heeds its cancellation at every look. -/
theorem heeds_toolRequest (parseResponse : List UInt8 → Except String Json)
    (parse : String → Except String Json) (rounds : Nat) (model : String) (workerBody : Json)
    (attachmentIndex : Option AttachmentIndex) :
    cancelPolling.Heeds (fun _ => True)
      (toolRequest parseResponse parse rounds model workerBody attachmentIndex) := by
  refine ⟨fun looks => looks.elim, fun _ => ?_⟩
  have fails : FailsAfter workerErrors
      (runChatCompletionWithTools parse model workerBody attachmentIndex).run :=
    failsAfter_chatRounds maxToolRounds workerBody none
  have serves : ∀ op, cancelPolling.Heeds (workerErrors op)
      (serveCall parseResponse rounds model op) := heeds_serveCall rounds model
  apply (fails.heeds_expand serves).bind
  · intro _ _
    exact ⟨id, fun _ _ _ => trivial⟩
  · intro _
    exact ⟨fun looks => looks.elim, fun _ => trivial⟩

/-! ## Runs in time -/

/-- The request can start another tool before its next look: a tool call of a response
that was read to its end is still to be started. -/
def ToolsAhead (pool : CancelPool) : Prop :=
  match pool.activity .request with
  | .resting _ => False
  | .running program => cancelPolling.Ahead program

/-- A move in time: no cancellation is acknowledged while tools are ahead, and no response
ends once one is. -/
structure Timely (pool next : CancelPool) : Prop where
  acknowledged : pool.world.acknowledged = false → next.world.acknowledged = true →
    ¬ ToolsAhead pool
  ended : pool.world.acknowledged = true →
    next.world.responsesEnded = pool.world.responsesEnded

/-- The runs whose every move is in time. -/
def TimelyRun (program : ServeProg Unit) (pool : CancelPool) : Prop :=
  Relation.ReflTransGen (fun before after => cancelSystem.Moves before after ∧
    Timely before after) (requestPool program) pool

/-! ## The invariant -/

/-- How far a connection is with its route; it answers 202 after it stored the flag. -/
inductive RouteAt (flag : Bool) : Activity ServeOp ServeOp.Reply Unit → Prop where
  | resting : RouteAt flag (.resting ())
  | running : RouteAt flag (.running cancelRoute)
  | storing : RouteAt flag (.running (.call .storeFlag fun _ => .call (.respond 202) .ret))
  | accepting (stored : flag = true) : RouteAt flag (.running (.call (.respond 202) .ret))
  | refusing : RouteAt flag (.running (.call (.respond 404) .ret))
  | returned : RouteAt flag (.running (.ret ()))

theorem RouteAt.stored {flag : Bool} {activity : Activity ServeOp ServeOp.Reply Unit}
    (route : RouteAt flag activity) : RouteAt true activity := by
  cases route with
  | resting => exact .resting
  | running => exact .running
  | storing => exact .storing
  | accepting => exact .accepting rfl
  | refusing => exact .refusing
  | returned => exact .returned

/-- Nothing was started after the acknowledgement, and what is left of the request is
quiet from then on. -/
structure Honoured (pool : CancelPool) : Prop where
  flagged : pool.world.acknowledged = true → pool.world.flag = true
  notStarted : pool.world.startedAfterAck = false
  heeds : ∀ program, pool.activity .request = .running program →
    cancelPolling.Heeds (fun _ => True) program
  quiet : pool.world.acknowledged = true → ∀ program,
    pool.activity .request = .running program → cancelPolling.Quiet program fun _ => True
  routes : ∀ number, RouteAt pool.world.flag (pool.activity (.connection number))

/-- A call of the request leaves the flag and the acknowledgement alone; a tool that it
starts is remembered; and what a look replies is what it replies to a stopped request. -/
private theorem request_answers {world after : CancelWorld} {op : ServeOp} {reply : op.Reply}
    (answered : CancelWorld.Answers .request world op reply after) :
    after.flag = world.flag ∧ after.acknowledged = world.acknowledged ∧
      (world.acknowledged = false ∨ ¬ cancelPolling.Begins op →
        after.startedAfterAck = world.startedAfterAck) ∧
      (world.flag = true → after.responsesEnded = world.responsesEnded →
        cancelPolling.Looks op → cancelPolling.Stopping op reply) := by
  cases op with
  | registerRequest =>
      obtain rfl := answered
      exact ⟨rfl, rfl, fun _ => rfl, fun _ _ looks => looks.elim⟩
  | unregisterRequest =>
      obtain rfl := answered
      exact ⟨rfl, rfl, fun _ => rfl, fun _ _ looks => looks.elim⟩
  | loadFlag =>
      obtain ⟨rfl, rfl⟩ := answered
      exact ⟨rfl, rfl, fun _ => rfl, fun flagged _ _ => flagged⟩
  | read =>
      cases reply with
      | ended =>
          obtain rfl := answered
          exact ⟨rfl, rfl, fun _ => rfl, fun _ same => by simp at same⟩
      | data bytes =>
          obtain rfl := answered
          exact ⟨rfl, rfl, fun _ => rfl, fun _ _ _ ended => by cases ended⟩
      | again =>
          obtain rfl := answered
          exact ⟨rfl, rfl, fun _ => rfl, fun _ _ _ ended => by cases ended⟩
      | failed error =>
          obtain rfl := answered
          exact ⟨rfl, rfl, fun _ => rfl, fun _ _ _ ended => by cases ended⟩
  | startTool tool =>
      obtain rfl := answered
      refine ⟨rfl, rfl, ?_, fun _ _ looks => looks.elim⟩
      rintro (notYet | idle)
      · simp [notYet]
      · exact absurd trivial idle
  | lookupFlag => exact answered.elim
  | storeFlag => exact answered.elim
  | respond status => exact answered.elim
  | unfinished => exact reply.elim
  | acquireWorker model =>
      obtain rfl := answered
      exact ⟨rfl, rfl, fun _ => rfl, fun _ _ looks => looks.elim⟩
  | connect =>
      obtain rfl := answered
      exact ⟨rfl, rfl, fun _ => rfl, fun _ _ looks => looks.elim⟩
  | send body =>
      obtain rfl := answered
      exact ⟨rfl, rfl, fun _ => rfl, fun _ _ looks => looks.elim⟩
  | deadlinePassed =>
      obtain rfl := answered
      exact ⟨rfl, rfl, fun _ => rfl, fun _ _ looks => looks.elim⟩
  | finishRequest =>
      obtain rfl := answered
      exact ⟨rfl, rfl, fun _ => rfl, fun _ _ looks => looks.elim⟩
  | awaitTool tool =>
      obtain rfl := answered
      exact ⟨rfl, rfl, fun _ => rfl, fun _ _ looks => looks.elim⟩
  | stream body =>
      obtain rfl := answered
      exact ⟨rfl, rfl, fun _ => rfl, fun _ _ looks => looks.elim⟩

/-- What a connection does next, call by call. -/
private theorem connection_answers {number : Nat} {world after : CancelWorld} {op : ServeOp}
    {next : op.Reply → ServeProg Unit} {reply : op.Reply}
    (route : RouteAt world.flag (.running (.call op next)))
    (answered : CancelWorld.Answers (.connection number) world op reply after) :
    after.startedAfterAck = world.startedAfterAck ∧
      (after.flag = world.flag ∨ after.flag = true) ∧
      (after.acknowledged = world.acknowledged ∨ world.flag = true) ∧
      RouteAt after.flag (.running (next reply)) := by
  cases route with
  | running =>
      obtain ⟨rfl, rfl⟩ := answered
      refine ⟨rfl, .inl rfl, .inl rfl, ?_⟩
      cases after.registered with
      | true => exact .storing
      | false => exact .refusing
  | storing =>
      obtain rfl := answered
      exact ⟨rfl, .inr rfl, .inl rfl, .accepting rfl⟩
  | accepting stored =>
      obtain rfl := answered
      exact ⟨rfl, .inl rfl, .inr stored, .returned⟩
  | refusing =>
      obtain rfl := answered
      exact ⟨rfl, .inl rfl, .inl (by simp), .returned⟩

private theorem routes_update {flag : Bool}
    {activity : Party → Activity ServeOp ServeOp.Reply Unit} {number : Nat}
    {moved : Activity ServeOp ServeOp.Reply Unit}
    (routes : ∀ number, RouteAt flag (activity (.connection number)))
    (arrived : RouteAt flag moved) (other : Nat) :
    RouteAt flag (Function.update activity (.connection number) moved (.connection other)) := by
  by_cases same : other = number
  · rw [same, Function.update_self]
    exact arrived
  · rw [Function.update_of_ne (by simpa using same)]
    exact routes other

private theorem request_update {activity : Party → Activity ServeOp ServeOp.Reply Unit}
    {number : Nat} {moved : Activity ServeOp ServeOp.Reply Unit} :
    Function.update activity (.connection number) moved .request = activity .request :=
  Function.update_of_ne (by simp) _ _

/-- A connection that moves along its route disturbs nothing. -/
private theorem Honoured.connection {pool : CancelPool} (honoured : Honoured pool) {number : Nat}
    {moved : Activity ServeOp ServeOp.Reply Unit} (arrived : RouteAt pool.world.flag moved) :
    Honoured { pool with
      activity := Function.update pool.activity (.connection number) moved } := by
  refine ⟨honoured.flagged, honoured.notStarted, ?_, ?_, ?_⟩
  · simp only [request_update]
    exact honoured.heeds
  · simp only [request_update]
    exact honoured.quiet
  · exact routes_update honoured.routes arrived

/-- Step lemma. -/
theorem Honoured.step {pool next : CancelPool} (moves : cancelSystem.Moves pool next)
    (timely : Timely pool next) (honoured : Honoured pool) : Honoured next := by
  cases moves with
  | @begin id state program atRest offered =>
      obtain ⟨⟨number, rfl⟩, rfl⟩ := offered
      exact honoured.connection .running
  | @call id op callNext reply after calling answered =>
      cases id with
      | request =>
          obtain ⟨sameFlag, sameAck, sameStarted, stops⟩ := request_answers answered
          have others : ∀ number, Function.update pool.activity .request
              (.running (callNext reply)) (Party.connection number) =
                pool.activity (.connection number) :=
            fun number => Function.update_of_ne (by simp) _ _
          have heeds := honoured.heeds _ calling
          refine ⟨?_, ?_, ?_, ?_, ?_⟩
          · simp only [sameFlag, sameAck]
            exact honoured.flagged
          · rw [← honoured.notStarted]
            apply sameStarted
            cases acknowledged : pool.world.acknowledged with
            | false => exact .inl rfl
            | true => exact .inr (honoured.quiet acknowledged _ calling).1
          · rintro program running
            simp only [Function.update_self] at running
            cases running
            exact heeds.2 reply
          · rintro acknowledged program running
            simp only [Function.update_self] at running
            cases running
            have before : pool.world.acknowledged = true := sameAck ▸ acknowledged
            have quiet := honoured.quiet before _ calling
            exact quiet.2 reply () (stops (honoured.flagged before) (timely.ended before))
          · intro number
            simp only [others, sameFlag]
            exact honoured.routes number
      | connection number =>
          have route := honoured.routes number
          rw [calling] at route
          obtain ⟨sameStarted, flags, acks, arrived⟩ := connection_answers route answered
          have keepsFlag : pool.world.flag = true → after.flag = true := by
            intro flagged
            rcases flags with same | stored
            · rw [same, flagged]
            · exact stored
          refine ⟨?_, ?_, ?_, ?_, ?_⟩
          · intro acknowledged
            rcases acks with same | flagged
            · exact keepsFlag (honoured.flagged (same ▸ acknowledged))
            · exact keepsFlag flagged
          · simp only [sameStarted]
            exact honoured.notStarted
          · simp only [request_update]
            exact honoured.heeds
          · simp only [request_update]
            intro acknowledged program running
            cases before : pool.world.acknowledged with
            | true => exact honoured.quiet before program running
            | false =>
                have behind := timely.acknowledged before acknowledged
                apply (honoured.heeds program running).quiet
                simpa [ToolsAhead, running] using behind
          · apply routes_update _ arrived
            rcases flags with kept | stored
            · rw [kept]
              exact honoured.routes
            · rw [stored]
              exact fun other => (honoured.routes other).stored
  | @finish id state returned =>
      cases id with
      | request =>
          refine ⟨honoured.flagged, honoured.notStarted, ?_, ?_, ?_⟩
          · intro program running
            simp only [Function.update_self] at running
            cases running
          · intro _ program running
            simp only [Function.update_self] at running
            cases running
          · intro number
            simp only [Function.update_of_ne (show Party.connection number ≠ .request by simp)]
            exact honoured.routes number
      | connection number =>
          exact honoured.connection .resting
  | environment moved => exact moved.elim

/-- In every run whose cancellations are acknowledged in time, no tool is started after
the acknowledgement. -/
theorem toolRequest_noToolAfterAck (parseResponse : List UInt8 → Except String Json)
    (parse : String → Except String Json) (rounds : Nat) (model : String) (workerBody : Json)
    (attachmentIndex : Option AttachmentIndex) {pool : CancelPool}
    (run : TimelyRun
      (toolRequest parseResponse parse rounds model workerBody attachmentIndex) pool) :
    pool.world.startedAfterAck = false := by
  have honoured : Honoured pool := by
    induction run with
    | refl =>
        refine ⟨by simp [requestPool], rfl, ?_, by simp [requestPool], fun _ => .resting⟩
        rintro program running
        cases running
        exact heeds_toolRequest parseResponse parse rounds model workerBody attachmentIndex
    | tail _ step inductionHypothesis => exact inductionHypothesis.step step.1 step.2
  exact honoured.notStarted

/-! ## Two cancellations -/

/-- A move that neither acknowledges nor ends a response is in time. -/
theorem Timely.of_same {pool next : CancelPool}
    (acknowledged : next.world.acknowledged = pool.world.acknowledged)
    (ended : next.world.responsesEnded = pool.world.responsesEnded) : Timely pool next where
  acknowledged := by
    intro before after
    rw [acknowledged, before] at after
    cases after
  ended := fun _ => ended

/-- A request that waits for a read has no tool ahead. -/
theorem not_toolsAhead_reading {pool : CancelPool} {next : ReadReply → ServeProg Unit}
    (reading : pool.activity .request = .running (.call .read next)) : ¬ ToolsAhead pool := by
  unfold ToolsAhead
  rw [reading]
  rintro (begins | ⟨blind, _⟩)
  · exact begins
  · exact blind trivial

theorem TimelyRun.call {program : ServeProg Unit} {pool : CancelPool}
    (run : TimelyRun program pool) (party : Party) {op : ServeOp}
    {next : op.Reply → ServeProg Unit}
    (calling : pool.activity party = .running (.call op next)) (reply : op.Reply)
    (after : CancelWorld) (answered : CancelWorld.Answers party pool.world op reply after)
    (timely : Timely pool ⟨after, Function.update pool.activity party (.running (next reply))⟩) :
    TimelyRun program ⟨after, Function.update pool.activity party (.running (next reply))⟩ :=
  run.tail ⟨.call calling answered, timely⟩

theorem TimelyRun.begin {program : ServeProg Unit} {pool : CancelPool}
    (run : TimelyRun program pool) (number : Nat)
    (atRest : pool.activity (.connection number) = .resting ()) :
    TimelyRun program { pool with
      activity := Function.update pool.activity (.connection number) (.running cancelRoute) } :=
  run.tail ⟨.begin atRest ⟨⟨number, rfl⟩, rfl⟩, .of_same rfl rfl⟩

/-- A response that calls a tool, once there is one. -/
def gitStatusResponse (bytes : List UInt8) : Except String Json :=
  if bytes = [] then .error "unvollständige HTTP-Antwort vom Worker"
  else .ok (batchResponse [callOf "git_status" []])

/-- A request whose worker calls a tool, followed for three reads. -/
def gitStatusRequest : ServeProg Unit :=
  toolRequest gitStatusResponse (fun _ => .error "kein JSON") 3 "m" (sampleBody []) none

/-- A cancellation that is acknowledged between the end of the response and its first
tool call: the tool is started all the same. -/
theorem gitStatusRequest_toolAfterAck :
    ∃ pool, cancelSystem.Reachable (requestPool gitStatusRequest) pool ∧
      pool.world.acknowledged = true ∧ pool.world.startedAfterAck = true := by
  have begun : cancelSystem.Reachable (requestPool gitStatusRequest)
      (requestPool gitStatusRequest) := .refl
  have registered := begun.call .request rfl () { registered := true } rfl
  have acquired := registered.call .request rfl (.ok (some ("127.0.0.1", 8081))) _ rfl
  have connected := acquired.call .request rfl (.ok ()) _ rfl
  have looked := connected.call .request rfl false _ ⟨rfl, rfl⟩
  have sent := looked.call .request rfl (.ok ()) _ rfl
  have lookedAgain := sent.call .request rfl false _ ⟨rfl, rfl⟩
  have inTime := lookedAgain.call .request rfl false _ rfl
  have received := inTime.call .request rfl (.data [72]) _ rfl
  have lookedThere := received.call .request rfl false _ ⟨rfl, rfl⟩
  have stillInTime := lookedThere.call .request rfl false _ rfl
  have ended := stillInTime.call .request rfl .ended _ rfl
  have finished := ended.call .request rfl (.ok ()) _ rfl
  have cancelling := finished.begin (.connection 0) cancelRoute rfl ⟨⟨0, rfl⟩, rfl⟩
  have found := cancelling.call (.connection 0) rfl true _ ⟨rfl, rfl⟩
  have stored := found.call (.connection 0) rfl () _ rfl
  have acknowledged := stored.call (.connection 0) rfl () _ rfl
  have started := acknowledged.call .request rfl () _ rfl
  exact ⟨_, started, rfl, rfl⟩

/-- A cancellation that is acknowledged while the request waits for its response: the
request ends without a tool. -/
theorem gitStatusRequest_cancelled :
    ∃ pool, pool.world.acknowledged = true ∧ pool.world.registered = false ∧
      TimelyRun gitStatusRequest pool ∧ pool.world.startedAfterAck = false := by
  have begun : TimelyRun gitStatusRequest (requestPool gitStatusRequest) := .refl
  have registered := begun.call .request rfl () { registered := true } rfl (.of_same rfl rfl)
  have acquired := registered.call .request rfl (.ok (some ("127.0.0.1", 8081))) _ rfl
    (.of_same rfl rfl)
  have connected := acquired.call .request rfl (.ok ()) _ rfl (.of_same rfl rfl)
  have looked := connected.call .request rfl false _ ⟨rfl, rfl⟩ (.of_same rfl rfl)
  have sent := looked.call .request rfl (.ok ()) _ rfl (.of_same rfl rfl)
  have lookedAgain := sent.call .request rfl false _ ⟨rfl, rfl⟩ (.of_same rfl rfl)
  have inTime := lookedAgain.call .request rfl false _ rfl (.of_same rfl rfl)
  have cancelling := inTime.begin 0 rfl
  have found := cancelling.call (.connection 0) rfl true _ ⟨rfl, rfl⟩ (.of_same rfl rfl)
  have stored := found.call (.connection 0) rfl () _ rfl (.of_same rfl rfl)
  have acknowledged := stored.call (.connection 0) rfl () _ rfl
    ⟨fun _ _ => not_toolsAhead_reading rfl, fun _ => rfl⟩
  have waited := acknowledged.call .request rfl .again _ rfl (.of_same rfl rfl)
  have noticed := waited.call .request rfl true _ ⟨rfl, rfl⟩ (.of_same rfl rfl)
  have finished := noticed.call .request rfl (.ok ()) _ rfl (.of_same rfl rfl)
  have unregistered := finished.call .request rfl () _ rfl (.of_same rfl rfl)
  exact ⟨_, rfl, rfl, unregistered, toolRequest_noToolAfterAck gitStatusResponse
    (fun _ => .error "kein JSON") 3 "m" (sampleBody []) none unregistered⟩

end TriAI.Chat
