import TriAI.Chat.ToolOffer
import TriAI.Library.Fallible

/-!
Contract: one batch of tool calls (`execute_tool_calls`).

Owns: the tool a call asks for or the message that refuses it; the runs of a batch,
call by call; and which tools have been run when a batch ends with an error.

Does not own: the rounds of batches, and what a tool does.
-/

set_option autoImplicit false

namespace TriAI.Chat

open TriAI.Library
open TriAI.Library.Interaction

/-! ## Plans -/

/-- A tool that is about to be run. -/
inductive PlannedTool where
  | readAttachment (index : AttachmentIndex) (attachmentId : String) (chunkIndex : Option Nat)
  | execute (name : String) (args : Fields)

/-- The run of a tool that is answered by `reply`. -/
def PlannedTool.event : PlannedTool → Except String String → Event ChatOp ChatOp.Reply
  | .readAttachment index attachmentId chunkIndex, reply =>
      ⟨.readAttachment index attachmentId chunkIndex, reply⟩
  | .execute name args, reply => ⟨.execute name args, reply⟩

/-- The tool of a call that is read, or why it is refused. -/
def planTool (attachmentIndex : Option AttachmentIndex) (call : ToolCall) :
    Except String PlannedTool :=
  if call.name = "read_attachment" then
    match attachmentIndex with
    | none => .error "read_attachment ohne Attachment-Index aufgerufen"
    | some index =>
        (requestedAttachment call.args).map fun attachmentId =>
          .readAttachment index attachmentId
            (((call.args.lookup "chunk_index").bind Json.asU64).map UInt64.toNat)
  else if isAllowedToolName call.name then .ok (.execute call.name call.args)
  else .error s!"Tool '{call.name}' ist nicht freigegeben"

section Parsed

variable (parse : String → Except String Json) (attachmentIndex : Option AttachmentIndex)

/-- The identifier and the tool of a value of `tool_calls`, or why it is refused: it
is malformed or its name is not allowed. -/
def planCall (value : Json) : Except String (String × PlannedTool) :=
  match readToolCall parse value with
  | .error message => .error message
  | .ok call => (planTool attachmentIndex call).map (Prod.mk call.callId)

/-- The runs of the calls of a batch. -/
inductive BatchRun :
    List Json → List (Event ChatOp ChatOp.Reply) → Except String (List ToolResult) → Prop where
  | done : BatchRun [] [] (.ok [])
  | refused {value : Json} {rest : List Json} {message : String}
      (plan : planCall parse attachmentIndex value = .error message) :
      BatchRun (value :: rest) [] (.error message)
  | failed {value : Json} {rest : List Json} {callId : String} {tool : PlannedTool}
      {message : String} (plan : planCall parse attachmentIndex value = .ok (callId, tool)) :
      BatchRun (value :: rest) [tool.event (.error message)] (.error message)
  | ran {value : Json} {rest : List Json} {callId content : String} {tool : PlannedTool}
      {trace : List (Event ChatOp ChatOp.Reply)} {result : Except String (List ToolResult)}
      (plan : planCall parse attachmentIndex value = .ok (callId, tool))
      (others : BatchRun rest trace result) :
      BatchRun (value :: rest) (tool.event (.ok content) :: trace)
        (result.map fun results => { callId, content } :: results)

/-- Every call of a list was run, in order, and answered. -/
def Executed (calls : List Json) (trace : List (Event ChatOp ChatOp.Reply)) : Prop :=
  List.Forall₂ (fun value event => ∃ callId tool content,
    planCall parse attachmentIndex value = .ok (callId, tool) ∧
      event = PlannedTool.event tool (.ok content)) calls trace

end Parsed

variable {parse : String → Except String Json} {attachmentIndex : Option AttachmentIndex}
  {trace : List (Event ChatOp ChatOp.Reply)}

/-- A tool call that is read runs its tool, unless it is refused. -/
theorem executeToolCall_run {call : ToolCall} {result : Except String ToolResult}
    (returns : Prog.Returns (executeToolCall attachmentIndex call).run trace result) :
    (∃ message, planTool attachmentIndex call = .error message ∧ trace = [] ∧
        result = .error message) ∨
      ∃ tool reply, planTool attachmentIndex call = .ok tool ∧
        trace = [PlannedTool.event tool reply] ∧
        result = reply.map fun content => { callId := call.callId, content } := by
  unfold executeToolCall at returns
  unfold planTool
  by_cases named : call.name = "read_attachment"
  · rw [if_pos named] at returns ⊢
    cases attachmentIndex with
    | none =>
        obtain ⟨rfl, rfl⟩ := Fallible.returns_ret.mp returns
        exact .inl ⟨_, rfl, rfl, rfl⟩
    | some index =>
        cases requested : requestedAttachment call.args with
        | error message =>
            rw [requested] at returns
            obtain ⟨rfl, rfl⟩ := Fallible.returns_ret.mp returns
            exact .inl ⟨message, by simp [Except.map], rfl, rfl⟩
        | ok attachmentId =>
            rw [requested] at returns
            obtain ⟨reply, performed, rfl⟩ := Fallible.returns_map.mp returns
            have called := Fallible.returns_perform.mp performed
            refine .inr ⟨.readAttachment index attachmentId _, reply, ?_, called, rfl⟩
            simp [Except.map]
  · rw [if_neg named] at returns ⊢
    by_cases allowed : isAllowedToolName call.name
    · rw [if_pos allowed] at returns ⊢
      obtain ⟨reply, performed, rfl⟩ := Fallible.returns_map.mp returns
      have called := Fallible.returns_perform.mp performed
      exact .inr ⟨.execute call.name call.args, reply, rfl, called, rfl⟩
    · rw [if_neg allowed] at returns ⊢
      obtain ⟨rfl, rfl⟩ := Fallible.returns_ret.mp returns
      exact .inl ⟨_, rfl, rfl, rfl⟩

/-- The runs of a batch are those its calls have, one after the other. -/
theorem executeCalls_run {calls : List Json} {result : Except String (List ToolResult)}
    (returns : Prog.Returns (executeCalls parse attachmentIndex calls).run trace result) :
    BatchRun parse attachmentIndex calls trace result := by
  induction calls generalizing trace result with
  | nil =>
      obtain ⟨rfl, rfl⟩ := Fallible.returns_ret.mp returns
      exact .done
  | cons value rest inductionHypothesis =>
      unfold executeCalls at returns
      cases reads : readToolCall parse value with
      | error message =>
          rw [reads] at returns
          obtain ⟨rfl, rfl⟩ := Fallible.returns_ret.mp returns
          exact .refused (by simp [planCall, reads])
      | ok call =>
          rw [reads] at returns
          have afterReading : Prog.Returns (executeToolCall attachmentIndex call >>= fun result =>
              executeCalls parse attachmentIndex rest >>= fun results =>
                pure (result :: results)).run trace result := returns
          have plans : planCall parse attachmentIndex value =
              (planTool attachmentIndex call).map (Prod.mk call.callId) := by
            simp [planCall, reads]
          rcases Fallible.returns_bind.mp afterReading with
            ⟨message, returnsCall, rfl⟩ | ⟨first, later, answered, rfl, returnsCall, returnsRest⟩
          · rcases executeToolCall_run returnsCall with
              ⟨reason, refused, rfl, same⟩ | ⟨tool, reply, planned, rfl, same⟩
            · cases same
              exact .refused (by rw [plans, refused]; rfl)
            · cases reply with
              | ok content => cases same
              | error reason =>
                  cases same
                  exact .failed (by rw [plans, planned]; rfl)
          · rcases executeToolCall_run returnsCall with
              ⟨reason, _, _, same⟩ | ⟨tool, reply, planned, rfl, same⟩
            · cases same
            · cases reply with
              | error reason => cases same
              | ok content =>
                  cases same
                  obtain ⟨others, returnsOthers, rfl⟩ := Fallible.returns_map.mp returnsRest
                  exact .ran (by rw [plans, planned]; rfl) (inductionHypothesis returnsOthers)

/-! ## Errors -/

/-- A batch that ends with an error has run every call before the one at fault. -/
theorem BatchRun.before_error {calls : List Json} {message : String}
    (run : BatchRun parse attachmentIndex calls trace (.error message)) :
    ∃ before call after done, calls = before ++ call :: after ∧
      Executed parse attachmentIndex before done ∧
      ((planCall parse attachmentIndex call = .error message ∧ trace = done) ∨
        ∃ callId tool, planCall parse attachmentIndex call = .ok (callId, tool) ∧
          trace = done ++ [PlannedTool.event tool (.error message)]) := by
  generalize fails : (Except.error message : Except String (List ToolResult)) = result at run
  induction run with
  | done => cases fails
  | @refused value rest reason plan =>
      cases fails
      exact ⟨[], value, rest, [], rfl, .nil, .inl ⟨plan, rfl⟩⟩
  | @failed value rest callId tool reason plan =>
      cases fails
      exact ⟨[], value, rest, [], rfl, .nil, .inr ⟨callId, tool, plan, rfl⟩⟩
  | @ran value rest callId content tool later result plan others inductionHypothesis =>
      cases result with
      | ok results => cases fails
      | error reason =>
          cases fails
          obtain ⟨before, call, after, done, rfl, executed, ends⟩ := inductionHypothesis rfl
          refine ⟨value :: before, call, after, tool.event (.ok content) :: done, rfl,
            .cons ⟨callId, tool, content, plan, rfl⟩ executed, ?_⟩
          rcases ends with ⟨refused, rfl⟩ | ⟨failedId, failedTool, accepted, rfl⟩
          · exact .inl ⟨refused, rfl⟩
          · exact .inr ⟨failedId, failedTool, accepted, rfl⟩

/-- A batch whose call is refused has run the calls before it, in order, and no other;
it has left the project alone exactly if the refused call is the first. A batch that
ends with another error has run the call at fault, too. -/
theorem executeToolCalls_refused (parse : String → Except String Json) (response : Json)
    (attachmentIndex : Option AttachmentIndex) {trace : List (Event ChatOp ChatOp.Reply)}
    {message : String}
    (returns : Prog.Returns (executeToolCalls parse response attachmentIndex).run trace
      (.error message)) :
    ∃ before call after done, toolCallsOf response = before ++ call :: after ∧
      Executed parse attachmentIndex before done ∧
      ((planCall parse attachmentIndex call = .error message ∧ trace = done ∧
          (trace = [] ↔ before = []) ∧
          (before = [] → ∀ (Project : Type)
            (step : Project → (op : ChatOp) → op.Reply → Project → Prop) (project left : Project),
            Follows step project trace left → left = project)) ∨
        ∃ callId tool, planCall parse attachmentIndex call = .ok (callId, tool) ∧
          trace = done ++ [PlannedTool.event tool (.error message)]) := by
  obtain ⟨before, call, after, done, calls, executed, ends⟩ :=
    (executeCalls_run returns).before_error
  refine ⟨before, call, after, done, calls, executed, ?_⟩
  rcases ends with ⟨refused, rfl⟩ | failed
  · have lengths := executed.length_eq
    have nothing : trace = [] ↔ before = [] := by
      rw [← List.length_eq_zero_iff, ← List.length_eq_zero_iff, lengths]
    refine .inl ⟨refused, rfl, nothing, ?_⟩
    intro first Project step project left follows
    rw [nothing.mpr first] at follows
    exact follows.symm
  · exact .inr failed

/-! ## A batch with a call that is refused -/

/-- A tool call of an answer. -/
def callOf (name : String) (args : Fields) : Json :=
  .object [("id", .string "call_1"),
    ("function", .object [("name", .string name), ("arguments", .object args)])]

/-- An answer with these tool calls. -/
def batchResponse (calls : List Json) : Json :=
  .object [("choices", .array [.object [("message", .object [
    ("role", .string "assistant"), ("tool_calls", .array calls)])]])]

/-- The tools over the files of a project; `write_file` writes one. -/
def projectHandler : (op : ChatOp) → List (String × String) → op.Reply × List (String × String)
  | .proxyActiveWorkerJson _, files => (.ok finalResponse, files)
  | .streamActiveWorkerResponse _, files => (.ok (), files)
  | .readAttachment index attachmentId chunkIndex, files =>
      (index.read attachmentId chunkIndex, files)
  | .execute "write_file" args, files =>
      match requiredString args "path", requiredString args "content" with
      | .ok path, .ok content => (.ok "{}", (path, content) :: files)
      | .error message, _ | _, .error message => (.error message, files)
  | .execute _ _, files => (.ok "{}", files)

/-- A call that writes a file, and one that no tool is allowed for. -/
def writeCall : Json := callOf "write_file" [("path", .string "a.txt"), ("content", .string "x")]

def unknownCall : Json := callOf "delete_all" []

/-- The refused call is the first: nothing is written. -/
theorem executeToolCalls_refused_first :
    ∃ before call after done, [unknownCall, writeCall] = before ++ call :: after ∧
      Executed (fun _ => .error "kein JSON") none before done ∧
      ((planCall (fun _ => .error "kein JSON") none call =
            .error "Tool 'delete_all' ist nicht freigegeben" ∧ ([] : List (Event ChatOp
            ChatOp.Reply)) = done ∧ (([] : List (Event ChatOp ChatOp.Reply)) = [] ↔ before = []) ∧
          (before = [] → ∀ (Project : Type)
            (step : Project → (op : ChatOp) → op.Reply → Project → Prop) (project left : Project),
            Follows step project [] left → left = project)) ∨
        ∃ callId tool, planCall (fun _ => .error "kein JSON") none call = .ok (callId, tool) ∧
          [] = done ++ [PlannedTool.event tool
            (.error "Tool 'delete_all' ist nicht freigegeben")]) :=
  executeToolCalls_refused (fun _ => .error "kein JSON") (batchResponse [unknownCall, writeCall])
    none (.ret _)

/-- The refused call is the second: the file of the first is written. -/
theorem executeToolCalls_refused_second :
    planCall (fun _ => .error "kein JSON") none unknownCall =
        .error "Tool 'delete_all' ist nicht freigegeben" ∧
      (executeToolCalls (fun _ => .error "kein JSON")
          (batchResponse [writeCall, unknownCall]) none).run.runWith projectHandler [] =
        (.error "Tool 'delete_all' ist nicht freigegeben", [("a.txt", "x")]) :=
  ⟨rfl, rfl⟩

end TriAI.Chat
