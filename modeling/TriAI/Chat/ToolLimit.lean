import TriAI.Chat.ToolBatch

/-!
Contract: the limit on the rounds of tools (`run_chat_completion_with_tools`).

Owns: the batches and worker answers of a run, counted on its trace; and the exact
condition under which a request executes no more batches than the limit.

Does not own: what a batch executes (`Chat.ToolBatch`).
-/

set_option autoImplicit false

namespace TriAI.Chat

open TriAI.Library
open TriAI.Library.Interaction

/-! ## Counting -/

/-- The answers of the worker in a trace. -/
def workerAnswers : List (Event ChatOp ChatOp.Reply) → List (Except ApiError Json)
  | [] => []
  | ⟨.proxyActiveWorkerJson _, answer⟩ :: rest => answer :: workerAnswers rest
  | _ :: rest => workerAnswers rest

/-- The batches of tools in a trace; `started` says that the current one is counted. -/
def batchesFrom (started : Bool) : List (Event ChatOp ChatOp.Reply) → Nat
  | [] => 0
  | event :: rest =>
      if event.op.tool.isSome then (if started then 0 else 1) + batchesFrom true rest
      else batchesFrom false rest

/-- The batches of a trace: the groups of tools run between two calls of the worker. -/
def batches (trace : List (Event ChatOp ChatOp.Reply)) : Nat := batchesFrom false trace

/-- The request stays within the limit: the worker is contacted at most once more than
tools are executed, and these in at most as many batches as the limit allows. -/
def WithinToolLimit (trace : List (Event ChatOp ChatOp.Reply)) : Prop :=
  batches trace ≤ maxToolRounds ∧ (workerAnswers trace).length ≤ maxToolRounds + 1

section Parsed

variable (parse : String → Except String Json) (model : String)
  (attachmentIndex : Option AttachmentIndex)

/-- An answer of the worker whose first tool call is executed. -/
def StartsBatch (answer : Except ApiError Json) : Prop :=
  ∃ worker normalized first rest plan, answer = .ok worker ∧
    normalizeChatResponse worker model = .ok normalized ∧
    toolCallsOf normalized = first :: rest ∧ planCall parse attachmentIndex first = .ok plan

end Parsed

variable {parse : String → Except String Json} {model : String}
  {attachmentIndex : Option AttachmentIndex} {trace : List (Event ChatOp ChatOp.Reply)}

@[simp] theorem isSome_tool_event (tool : PlannedTool) (reply : Except String String) :
    (PlannedTool.event tool reply).op.tool.isSome = true := by
  cases tool <;> rfl

/-- Every call of a batch runs a tool. -/
theorem BatchRun.tools {calls : List Json} {result : Except String (List ToolResult)}
    (run : BatchRun parse attachmentIndex calls trace result) :
    ∀ event ∈ trace, event.op.tool.isSome := by
  induction run with
  | done => simp
  | refused => simp
  | failed => simp
  | ran _ _ inductionHypothesis => simpa using inductionHypothesis

/-- A batch runs a tool exactly if its first call is not refused. -/
theorem BatchRun.eq_nil_iff {calls : List Json} {result : Except String (List ToolResult)}
    (run : BatchRun parse attachmentIndex calls trace result) :
    trace = [] ↔ ∀ first rest, calls = first :: rest →
      ∀ plan, planCall parse attachmentIndex first ≠ .ok plan := by
  cases run with
  | done => simp
  | refused plan => simp [plan]
  | failed plan => simp [plan]
  | ran plan others => simp [plan]

/-- A batch with results has run a tool. -/
theorem BatchRun.ne_nil {calls : List Json} {results : List ToolResult}
    (run : BatchRun parse attachmentIndex calls trace (.ok results)) (some : results ≠ []) :
    trace ≠ [] := by
  generalize succeeds : (Except.ok results : Except String (List ToolResult)) = result at run
  cases run with
  | done =>
      cases succeeds
      exact absurd rfl some
  | refused => cases succeeds
  | failed => cases succeeds
  | ran => simp

/-- Tools alone are one batch, which the next call of the worker ends. -/
theorem batchesFrom_append {tools later : List (Event ChatOp ChatOp.Reply)}
    (areTools : ∀ event ∈ tools, event.op.tool.isSome) (started : Bool) :
    batchesFrom started (tools ++ later) =
      if tools = [] then batchesFrom started later
      else (if started then 0 else 1) + batchesFrom true later := by
  induction tools generalizing started with
  | nil => simp
  | cons event rest inductionHypothesis =>
      obtain ⟨isTool, restTools⟩ := List.forall_mem_cons.mp areTools
      rw [List.cons_append, batchesFrom, if_pos isTool, inductionHypothesis restTools]
      cases rest <;> simp

/-- Tools are no answers of the worker. -/
theorem workerAnswers_append {tools later : List (Event ChatOp ChatOp.Reply)}
    (areTools : ∀ event ∈ tools, event.op.tool.isSome) :
    workerAnswers (tools ++ later) = workerAnswers later := by
  induction tools with
  | nil => rfl
  | cons event rest inductionHypothesis =>
      obtain ⟨isTool, restTools⟩ := List.forall_mem_cons.mp areTools
      obtain ⟨op, reply⟩ := event
      cases op with
      | proxyActiveWorkerJson body => cases isTool
      | streamActiveWorkerResponse body => cases isTool
      | readAttachment index attachmentId chunkIndex => exact inductionHypothesis restTools
      | execute name args => exact inductionHypothesis restTools

/-! ## Rounds -/

/-- A check of a chat makes no call. -/
private theorem returns_check {α β : Type} {code : ApiErrorCode} {check : Except String α}
    {rest : α → ChatProg ApiError β} {result : Except ApiError β}
    (returns : Prog.Returns (asApiError code (checked check) >>= rest).run trace result) :
    trace = [] ∨ ∃ value, check = .ok value ∧ Prog.Returns (rest value).run trace result := by
  cases check with
  | error message => exact .inl (Fallible.returns_ret.mp returns).1
  | ok value => exact .inr ⟨value, rfl, returns⟩

/-- One round: an answer of the worker, and the tools it calls. -/
theorem chatRound_run {body : Json} {usage : Option Usage}
    {result : Except ApiError (Json × Option Usage × List ToolResult)}
    (returns : Prog.Returns (chatRound parse model attachmentIndex body usage).run trace result) :
    ∃ answer tools, trace = ⟨.proxyActiveWorkerJson body, answer⟩ :: tools ∧
      (∀ event ∈ tools, event.op.tool.isSome) ∧
      (tools ≠ [] ↔ StartsBatch parse model attachmentIndex answer) ∧
      ∀ normalized total results, result = .ok (normalized, total, results) →
        ∃ worker, answer = .ok worker ∧ normalizeChatResponse worker model = .ok normalized ∧
          BatchRun parse attachmentIndex (toolCallsOf normalized) tools (.ok results) := by
  unfold chatRound at returns
  rcases Fallible.returns_bind.mp returns with
    ⟨error, performed, rfl⟩ | ⟨first, second, worker, rfl, performed, returnsRest⟩
  · obtain rfl := Fallible.returns_perform.mp performed
    refine ⟨.error error, [], rfl, by simp, ?_, by simp⟩
    simp [StartsBatch]
  · obtain rfl := Fallible.returns_perform.mp performed
    refine ⟨.ok worker, second, rfl, ?_⟩
    cases normalizes : normalizeChatResponse worker model with
    | error message =>
        rw [normalizes] at returnsRest
        obtain ⟨rfl, rfl⟩ := Fallible.returns_ret.mp returnsRest
        refine ⟨by simp, ?_, by simp⟩
        simp [StartsBatch, normalizes]
    | ok normalized =>
        rw [normalizes] at returnsRest
        have mapped : Prog.Returns (asApiError .invalidRequest
            (executeToolCalls parse normalized attachmentIndex) >>= fun results =>
              pure (normalized, accumulateUsage usage worker, results)).run second result :=
          returnsRest
        obtain ⟨reached, attempted, rfl⟩ := Fallible.returns_map.mp mapped
        obtain ⟨executed, returnsBatch, rfl⟩ := Fallible.returns_attempt.mp attempted
        have run := executeCalls_run returnsBatch
        refine ⟨run.tools, ?_, ?_⟩
        · rw [ne_eq, run.eq_nil_iff]
          constructor
          · intro some
            push Not at some
            obtain ⟨head, rest, calls, plan, planned⟩ := some
            exact ⟨worker, normalized, head, rest, plan, rfl, normalizes, calls, planned⟩
          · rintro ⟨_, again, head, rest, plan, same, normalizesAgain, calls, planned⟩ refused
            cases same
            obtain rfl := Except.ok.inj (normalizes.symm.trans normalizesAgain)
            exact refused head rest calls plan planned
        · intro normalized' total results succeeds
          cases executed with
          | error message => cases succeeds
          | ok all =>
              cases succeeds
              exact ⟨worker, rfl, normalizes, run⟩

/-- The counts of a round and of what follows it. -/
private theorem counts_round {body : Json} {answer : Except ApiError Json}
    {tools later : List (Event ChatOp ChatOp.Reply)}
    (areTools : ∀ event ∈ tools, event.op.tool.isSome)
    (fresh : batchesFrom true later = batches later) (started : Bool) :
    batchesFrom started (⟨.proxyActiveWorkerJson body, answer⟩ :: (tools ++ later)) =
        (if tools = [] then 0 else 1) + batches later ∧
      workerAnswers (⟨.proxyActiveWorkerJson body, answer⟩ :: (tools ++ later)) =
        answer :: workerAnswers later := by
  constructor
  · show batchesFrom false (tools ++ later) = _
    rw [batchesFrom_append areTools, fresh]
    split
    · rw [Nat.zero_add]
      rfl
    · rfl
  · show answer :: workerAnswers (tools ++ later) = _
    rw [workerAnswers_append areTools]

/-- The body after a round: the one before it, grown by the message of the answer and the
results of the tools that it called. -/
def HandsOn (parse : String → Except String Json) (model : String)
    (attachmentIndex : Option AttachmentIndex) (body : Json) (answer : Except ApiError Json)
    (tools : List (Event ChatOp ChatOp.Reply)) (nextBody : Json) : Prop :=
  ∃ worker normalized message results, answer = .ok worker ∧
    normalizeChatResponse worker model = .ok normalized ∧
    BatchRun parse attachmentIndex (toolCallsOf normalized) tools (.ok results) ∧
    results ≠ [] ∧ assistantMessage normalized = some message ∧
    appendToolResults body message results = .ok nextBody

/-- The first of the rounds, and the round that its tool results lead to. -/
private theorem chatRounds_first {further : Nat} {body : Json} {usage : Option Usage}
    {result : Except ApiError Json}
    (returns : Prog.Returns
      (chatRounds parse model attachmentIndex further body usage).run trace result) :
    ∃ roundTrace later reached, trace = roundTrace ++ later ∧
      Prog.Returns (chatRound parse model attachmentIndex body usage).run roundTrace reached ∧
      (later = [] ∨ ∃ fewer normalized total results message nextBody nextUsage nextResult,
        further = fewer + 1 ∧ reached = .ok (normalized, total, results) ∧ results ≠ [] ∧
        assistantMessage normalized = some message ∧
        appendToolResults body message results = .ok nextBody ∧
        Prog.Returns (chatRounds parse model attachmentIndex fewer nextBody nextUsage).run later
          nextResult) := by
  cases further with
  | zero =>
      unfold chatRounds at returns
      rcases Fallible.returns_bind.mp returns with
        ⟨error, returnsRound, rfl⟩ | ⟨first, second, ⟨normalized, total, results⟩, rfl,
          returnsRound, returnsRest⟩
      · exact ⟨trace, [], _, (List.append_nil trace).symm, returnsRound, .inl rfl⟩
      · refine ⟨first, second, _, rfl, returnsRound, .inl ?_⟩
        cases results with
        | nil => exact (Fallible.returns_ret.mp returnsRest).1
        | cons result rest => exact (Fallible.returns_ret.mp returnsRest).1
  | succ fewer =>
      unfold chatRounds at returns
      rcases Fallible.returns_bind.mp returns with
        ⟨error, returnsRound, rfl⟩ | ⟨first, second, ⟨normalized, total, results⟩, rfl,
          returnsRound, returnsRest⟩
      · exact ⟨trace, [], _, (List.append_nil trace).symm, returnsRound, .inl rfl⟩
      · refine ⟨first, second, _, rfl, returnsRound, ?_⟩
        cases results with
        | nil => exact .inl (Fallible.returns_ret.mp returnsRest).1
        | cons head rest =>
            rcases returns_check returnsRest with ended | ⟨message, found, returnsMessage⟩
            · exact .inl ended
            · rcases returns_check returnsMessage with ended | ⟨nextBody, appends, returnsNext⟩
              · exact .inl ended
              · exact .inr ⟨fewer, normalized, total, head :: rest, message, nextBody, total, _,
                  rfl, rfl, by simp, okOr_eq_ok.mp found, appends, returnsNext⟩

/-- A trace of the rounds: the first round, and further ones where it ran tools. -/
theorem chatRounds_split {further : Nat} {body : Json} {usage : Option Usage}
    {result : Except ApiError Json}
    (returns : Prog.Returns
      (chatRounds parse model attachmentIndex further body usage).run trace result) :
    ∃ answer tools later, trace = ⟨.proxyActiveWorkerJson body, answer⟩ :: (tools ++ later) ∧
      (∀ event ∈ tools, event.op.tool.isSome) ∧
      (tools ≠ [] ↔ StartsBatch parse model attachmentIndex answer) ∧
      (later = [] ∨ ∃ fewer nextBody nextUsage nextResult, further = fewer + 1 ∧
        HandsOn parse model attachmentIndex body answer tools nextBody ∧
        Prog.Returns (chatRounds parse model attachmentIndex fewer nextBody nextUsage).run later
          nextResult) := by
  obtain ⟨roundTrace, later, reached, rfl, returnsRound, ends⟩ := chatRounds_first returns
  obtain ⟨answer, tools, rfl, areTools, starts, ran⟩ := chatRound_run returnsRound
  refine ⟨answer, tools, later, rfl, areTools, starts, ?_⟩
  rcases ends with ended | ⟨fewer, normalized, total, results, message, nextBody, nextUsage,
    nextResult, isSucc, same, some, found, appends, returnsNext⟩
  · exact .inl ended
  · obtain ⟨worker, answered, normalizes, run⟩ := ran normalized total results same
    exact .inr ⟨fewer, nextBody, nextUsage, nextResult, isSucc,
      ⟨worker, normalized, message, results, answered, normalizes, run, some, found, appends⟩,
      returnsNext⟩

/-- Run lemma: the batches and the worker's answers of the rounds. One more batch than
further rounds is executed exactly if the last possible answer starts one. -/
theorem chatRounds_run {further : Nat} {body : Json} {usage : Option Usage}
    {result : Except ApiError Json}
    (returns : Prog.Returns
      (chatRounds parse model attachmentIndex further body usage).run trace result) :
    batchesFrom true trace = batches trace ∧ (workerAnswers trace).length ≤ further + 1 ∧
      (batches trace ≤ further ↔ ∀ answer, (workerAnswers trace)[further]? = some answer →
        ¬ StartsBatch parse model attachmentIndex answer) := by
  induction further generalizing trace body usage result with
  | zero =>
      obtain ⟨answer, tools, later, rfl, areTools, starts, ends⟩ := chatRounds_split returns
      rcases ends with rfl | ⟨fewer, _, _, _, isSucc, _⟩
      · have fresh : batchesFrom true ([] : List (Event ChatOp ChatOp.Reply)) = batches [] := rfl
        unfold batches
        rw [(counts_round areTools fresh true).1, (counts_round areTools fresh false).1,
          (counts_round areTools fresh false).2]
        refine ⟨rfl, Nat.le_refl 1, ?_⟩
        have onlyAnswer : (∀ given, [answer][0]? = some given →
            ¬ StartsBatch parse model attachmentIndex given) ↔ tools = [] := by
          simpa using (not_congr starts).symm
        rw [workerAnswers, onlyAnswer]
        by_cases none : tools = []
        · simp [none, batches, batchesFrom]
        · simp [none]
      · omega
  | succ further inductionHypothesis =>
      obtain ⟨answer, tools, later, rfl, areTools, starts, ends⟩ := chatRounds_split returns
      rcases ends with rfl | ⟨fewer, nextBody, nextUsage, nextResult, isSucc, hands, returnsNext⟩
      · have fresh : batchesFrom true ([] : List (Event ChatOp ChatOp.Reply)) = batches [] := rfl
        unfold batches
        rw [(counts_round areTools fresh true).1, (counts_round areTools fresh false).1,
          (counts_round areTools fresh false).2]
        have atMostOne : (if tools = [] then 0 else 1) + batches [] ≤ further + 1 := by
          rw [show batches [] = 0 from rfl]
          split <;> omega
        exact ⟨rfl, by simp [workerAnswers], ⟨fun _ => by simp [workerAnswers], fun _ => atMostOne⟩⟩
      · obtain rfl := Nat.succ.inj isSucc
        obtain ⟨_, _, _, _, _, _, run, some, _, _⟩ := hands
        have ran := run.ne_nil some
        obtain ⟨fresh, answers, exact⟩ := inductionHypothesis returnsNext
        unfold batches
        rw [(counts_round areTools fresh true).1, (counts_round areTools fresh false).1,
          (counts_round areTools fresh false).2]
        refine ⟨rfl, ?_, ?_⟩
        · simpa using answers
        · rw [if_neg ran, List.getElem?_cons_succ, ← exact]
          omega

/-- A request stays within the limit of rounds exactly if the answer after the last
round, if there is one, does not start a batch. -/
theorem runChatCompletionWithTools_withinToolLimit_iff (parse : String → Except String Json)
    (model : String) (workerBody : Json) (attachmentIndex : Option AttachmentIndex)
    {trace : List (Event ChatOp ChatOp.Reply)} {result : Except ApiError Json}
    (returns : Prog.Returns
      (runChatCompletionWithTools parse model workerBody attachmentIndex).run trace result) :
    WithinToolLimit trace ↔ ∀ answer, (workerAnswers trace)[maxToolRounds]? = some answer →
      ¬ StartsBatch parse model attachmentIndex answer := by
  obtain ⟨_, answers, exact⟩ := chatRounds_run returns
  unfold WithinToolLimit
  rw [← exact]
  exact and_iff_left answers

/-! ## Two workers -/

/-- A worker that calls a tool in its first answers and then answers without one. -/
def callingHandler (calls : Nat) : (op : ChatOp) → Nat → op.Reply × Nat
  | .proxyActiveWorkerJson _, answered =>
      (.ok (if answered < calls then batchResponse [callOf "git_status" []] else finalResponse),
        answered + 1)
  | .streamActiveWorkerResponse _, answered => (.ok (), answered)
  | .readAttachment index attachmentId chunkIndex, answered =>
      (index.read attachmentId chunkIndex, answered)
  | .execute _ _, answered => (.ok "{}", answered)

/-- A request to such a worker. -/
def callingChat : ChatProg ApiError Json :=
  runChatCompletionWithTools (fun _ => .error "kein JSON") "m" (sampleBody []) none

/-- A worker that calls a tool four times stays within the limit. -/
theorem callingChat_withinToolLimit :
    WithinToolLimit (callingChat.run.traceWith (callingHandler 4) 0) ↔
      ∀ answer, (workerAnswers (callingChat.run.traceWith (callingHandler 4) 0))[maxToolRounds]? =
        some answer → ¬ StartsBatch (fun _ => .error "kein JSON") "m" none answer :=
  runChatCompletionWithTools_withinToolLimit_iff (fun _ => .error "kein JSON") "m"
    (sampleBody []) none (Prog.Returns.of_traceWith (callingHandler 4) callingChat.run 0)

/-- A worker that calls a tool five times has five batches executed, and then gets the
error that four rounds are the limit. -/
theorem callingChat_exceeds_toolLimit :
    batches (callingChat.run.traceWith (callingHandler 5) 0) = 5 ∧
      ¬ WithinToolLimit (callingChat.run.traceWith (callingHandler 5) 0) ∧
      ∃ last, (callingChat.run.runWith (callingHandler 5) 0).1 = .error last ∧
        last.message = "Tool-Limit von vier Runden erreicht" := by
  have five : batches (callingChat.run.traceWith (callingHandler 5) 0) = 5 := by
    decide +kernel
  refine ⟨five, ?_, _, rfl, rfl⟩
  intro within
  have exceeded := within.1
  rw [five] at exceeded
  exact absurd exceeded (by decide)

end TriAI.Chat
