import TriAI.Chat.ToolBatch
import TriAI.Library.Polling

/-!
Contract: a chat request that other connections cancel (`http.rs`).

Owns: the connection to the worker call by call (`proxy_worker_json`), with the points
at which it loads the flag of the request; the route that cancels a request; and their
interleavings.

Does not own: the tools, of which only the start and the end are seen, and the
streaming proxy, which the rounds of tools never use; and which cancellations are
honoured (`Chat.CancelInTime`). A response is followed for any number of reads.
-/

set_option autoImplicit false

namespace TriAI.Chat

open TriAI.Library
open TriAI.Library.Interaction

/-! ## Calls -/

/-- What a read of the worker's connection brings. -/
inductive ReadReply where
  | ended
  | data (bytes : List UInt8)
  /-- `Interrupted`, `WouldBlock` or `TimedOut`. -/
  | again
  | failed (error : String)

/-- The calls of a request that is served and of the route that cancels it. -/
inductive ServeOp where
  /-- From the lock of the engine to `worker_endpoint`. -/
  | acquireWorker (model : String)
  /-- From `to_socket_addrs` to the timeouts of the connection. -/
  | connect
  | loadFlag
  | send (body : Json)
  | deadlinePassed
  | read
  | finishRequest
  | startTool (tool : PlannedTool)
  | awaitTool (tool : PlannedTool)
  | stream (body : Json)
  /-- More reads than are followed. -/
  | unfinished
  | registerRequest
  | unregisterRequest
  | lookupFlag
  | storeFlag
  | respond (status : Nat)

@[reducible] def ServeOp.Reply : ServeOp → Type
  | .acquireWorker _ => Except ApiError (Option (String × UInt16))
  | .connect | .send _ | .finishRequest => Except String Unit
  | .loadFlag | .deadlinePassed | .lookupFlag => Bool
  | .read => ReadReply
  | .awaitTool _ => Except String String
  | .stream _ => Except ApiError Unit
  | .unfinished => Empty
  | .startTool _ | .registerRequest | .unregisterRequest | .storeFlag | .respond _ => Unit

abbrev ServeProg (α : Type) : Type := Prog ServeOp ServeOp.Reply α

/-! ## The request -/

/-- The largest response a worker may give: 8 MiB. -/
def maxWorkerResponse : Nat := 8 * 1024 * 1024

section Served

-- `parse_worker_json_response` of the bytes that were read.
variable (parseResponse : List UInt8 → Except String Json)

/-- The loop that reads the response, for the first `rounds` rounds. -/
def readWorkerResponse : Nat → List UInt8 → ServeProg (Except String Json)
  | 0, _ => Prog.perform ServeOp.unfinished >>= fun reply => reply.elim
  | rounds + 1, response =>
      if response.length ≤ maxWorkerResponse then do
        let cancelled : Bool ← Prog.perform ServeOp.loadFlag
        if cancelled then pure (.error "Request wurde abgebrochen")
        else do
          let late : Bool ← Prog.perform ServeOp.deadlinePassed
          if late then pure (.error "Worker-Read-Timeout")
          else do
            let reply : ReadReply ← Prog.perform ServeOp.read
            match reply with
            | .ended => pure (parseResponse response)
            | .data bytes => readWorkerResponse rounds (response ++ bytes)
            | .again => readWorkerResponse rounds response
            | .failed error => pure (.error s!"Worker-Antwort nicht lesbar: {error}")
      else pure (.error "Worker-Antwort überschreitet 8 MiB")

/-- `proxy_worker_json`. -/
def proxyWorkerJson (rounds : Nat) (body : Json) : ServeProg (Except String Json) := do
  let connected : Except String Unit ← Prog.perform ServeOp.connect
  match connected with
  | .error error => pure (.error error)
  | .ok () => do
      let cancelled : Bool ← Prog.perform ServeOp.loadFlag
      if cancelled then pure (.error "Request wurde abgebrochen")
      else do
        let sent : Except String Unit ← Prog.perform (ServeOp.send body)
        match sent with
        | .error error => pure (.error s!"Worker-Anfrage nicht sendbar: {error}")
        | .ok () => readWorkerResponse parseResponse rounds []

/-- The endpoint is asked, if the engine knows one. -/
def askEndpoint (rounds : Nat) (body : Json) :
    Option (String × UInt16) → ServeProg (Except String Json)
  | some _ => proxyWorkerJson parseResponse rounds body
  | none => pure (.error "kein Worker-Endpunkt fuer das aktive Modell hinterlegt")

/-- `finish_request`, and the result as one of the interface. -/
def finishAnswer (result : Except String Json) : ServeProg (Except ApiError Json) := do
  let finished : Except String Unit ← Prog.perform ServeOp.finishRequest
  match finished with
  | .error error => pure (.error {
      code := .internal
      message := s!"Request-Zustand konnte nicht abgeschlossen werden: {error}" })
  | .ok () => pure (result.mapError fun message =>
      { code := .internal, message := s!"Worker-Proxy fehlgeschlagen: {message}" })

/-- `proxy_active_worker_json`. -/
def proxyActiveWorkerJson (rounds : Nat) (model : String) (body : Json) :
    ServeProg (Except ApiError Json) := do
  let acquired : Except ApiError (Option (String × UInt16)) ←
    Prog.perform (ServeOp.acquireWorker model)
  match acquired with
  | .error error => pure (.error error)
  | .ok endpoint => do
      let result ← askEndpoint parseResponse rounds body endpoint
      finishAnswer result

/-- A tool is started, and its result awaited. -/
def runTool (tool : PlannedTool) : ServeProg (Except String String) := do
  let _ ← Prog.perform (ServeOp.startTool tool)
  Prog.perform (ServeOp.awaitTool tool)

/-- How a request makes the calls of its chat. -/
def serveCall (rounds : Nat) (model : String) : (op : ChatOp) → ServeProg op.Reply
  | .proxyActiveWorkerJson body => proxyActiveWorkerJson parseResponse rounds model body
  | .streamActiveWorkerResponse body => Prog.perform (ServeOp.stream body)
  | .readAttachment index attachmentId chunkIndex =>
      runTool (.readAttachment index attachmentId chunkIndex)
  | .execute name args => runTool (.execute name args)

/-- A chat request with its tools, between `register_request` and the end of its guard. -/
def toolRequest (parse : String → Except String Json) (rounds : Nat) (model : String)
    (workerBody : Json) (attachmentIndex : Option AttachmentIndex) : ServeProg Unit := do
  let _ ← Prog.perform ServeOp.registerRequest
  let _ ← (runChatCompletionWithTools parse model workerBody attachmentIndex).run.expand
    (serveCall parseResponse rounds model)
  Prog.perform ServeOp.unregisterRequest

end Served

/-- `POST /api/requests/<id>/cancel` for the identifier of the request. -/
def cancelRoute : ServeProg Unit := do
  let found : Bool ← Prog.perform ServeOp.lookupFlag
  if found then do
    let _ ← Prog.perform ServeOp.storeFlag
    Prog.perform (ServeOp.respond 202)
  else Prog.perform (ServeOp.respond 404)

/-! ## Interleavings -/

/-- The request, and the connections that cancel it. -/
inductive Party where
  | request
  | connection (number : Nat)
deriving DecidableEq

/-- What the parties share: whether the request is registered, and its flag; and what the
statements about it remember: that a cancellation was answered by 202, how many responses
were read to their end, and whether a tool was started after that answer. -/
structure CancelWorld where
  registered : Bool := false
  flag : Bool := false
  acknowledged : Bool := false
  responsesEnded : Nat := 0
  startedAfterAck : Bool := false
deriving DecidableEq

/-- The answers of the world. The worker, the clock, the engine and the tools may reply
anything; a connection calls nothing but the flag and its own client. -/
def CancelWorld.Answers : Party → CancelWorld → (op : ServeOp) → op.Reply → CancelWorld → Prop
  | .request, world, .registerRequest, _, after => after = { world with registered := true }
  | .request, world, .unregisterRequest, _, after => after = { world with registered := false }
  | .request, world, .loadFlag, cancelled, after => cancelled = world.flag ∧ after = world
  | .request, world, .read, .ended, after =>
      after = { world with responsesEnded := world.responsesEnded + 1 }
  | .request, world, .startTool _, _, after =>
      after = { world with startedAfterAck := world.startedAfterAck || world.acknowledged }
  | .connection _, world, .lookupFlag, found, after => found = world.registered ∧ after = world
  | .connection _, world, .storeFlag, _, after => after = { world with flag := true }
  | .connection _, world, .respond status, _, after =>
      after = { world with acknowledged := world.acknowledged || status == 202 }
  | .request, _, .lookupFlag, _, _ | .request, _, .storeFlag, _, _
  | .request, _, .respond _, _, _ => False
  | .request, world, _, _, after => after = world
  | .connection _, _, _, _, _ => False

/-- Any connection may cancel the request at any time and any number of times. -/
def cancelSystem : System Party ServeOp ServeOp.Reply Unit CancelWorld where
  Offers := fun party _ program => (∃ number, party = .connection number) ∧ program = cancelRoute
  Step := CancelWorld.Answers
  Environment := fun _ _ => False

abbrev CancelPool : Type := Pool Party ServeOp ServeOp.Reply Unit CancelWorld

/-- The request before its first call, and every connection at rest. -/
def requestPool (program : ServeProg Unit) : CancelPool where
  world := {}
  activity := fun
    | .request => .running program
    | .connection _ => .resting ()

end TriAI.Chat
