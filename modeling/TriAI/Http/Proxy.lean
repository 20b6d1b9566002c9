import TriAI.Chat.Rounds
import TriAI.Engine.Model
import TriAI.Library.History

/-!
Contract: the connection of a chat request whose answer is streamed (`http.rs`).

Owns: `proxy_worker_raw_response_to_client` with its loop, `stream_active_worker_response`,
and `handle_v1_chat` with every response it writes, call by call.

Does not own: what a chat asks of the worker and of its tools where it does not stream;
none of that touches the client. A stream is followed for any number of reads.
-/

set_option autoImplicit false

namespace TriAI.Http

open TriAI.Chat
open TriAI.Library
open TriAI.Library.Interaction

/-- What a read of the worker's connection brings; a read that does not end has a byte. -/
inductive WorkerRead where
  | ended
  | data (first : UInt8) (rest : List UInt8)
  /-- `Interrupted`, `WouldBlock` or `TimedOut`. -/
  | again
  | failed (error : String)

/-- What `write_all` to the client ends with, and how many bytes went out before a
failure. -/
inductive ClientWrite where
  | done
  /-- `BrokenPipe`, `ConnectionAborted` or `ConnectionReset`. -/
  | gone (sent : Nat)
  | failed (sent : Nat) (error : String)

/-- The calls of a chat request. -/
inductive ProxyOp where
  /-- The lock of the engine, and the engine after its `refresh`. -/
  | lockEngine
  /-- From `to_socket_addrs` to the timeouts of the connection. -/
  | connect
  | loadFlag
  | send (body : Json)
  | deadlinePassed
  | readWorker
  | writeClient (bytes : List UInt8)
  | shutdownWorker
  /-- More reads than are followed. -/
  | unfinished
  /-- A call of a chat that does not stream. -/
  | chat (op : ChatOp)
  /-- `write_response`. -/
  | respond (status : Nat) (body : Except ApiError Json)

@[reducible] def ProxyOp.Reply : ProxyOp → Type
  | .lockEngine => Engine
  | .connect | .send _ => Except String Unit
  | .loadFlag | .deadlinePassed => Bool
  | .readWorker => WorkerRead
  | .writeClient _ => ClientWrite
  | .unfinished => Empty
  | .chat op => op.Reply
  | .shutdownWorker | .respond _ _ => Unit

abbrev ProxyProg (α : Type) : Type := Prog ProxyOp ProxyOp.Reply α

/-! ## The stream -/

/-- `StreamProxyError`. -/
inductive StreamProxyError where
  | beforeResponse (message : String)
  | afterResponse (message : String)
  | cancelled

/-- An error of the stream, as the loop classifies it. -/
def brokenOff (started : Bool) (after before : String) : StreamProxyError :=
  if started then .afterResponse after else .beforeResponse before

/-- The loop of `proxy_worker_raw_response_to_client`, for the first `rounds` rounds. -/
def streamLoop : Nat → Bool → ProxyProg (Except StreamProxyError Unit)
  | 0, _ => Prog.perform ProxyOp.unfinished >>= fun reply => reply.elim
  | rounds + 1, started => do
      let cancelled : Bool ← Prog.perform ProxyOp.loadFlag
      if cancelled then do
        Prog.perform ProxyOp.shutdownWorker
        pure (.error .cancelled)
      else do
        let late : Bool ← Prog.perform ProxyOp.deadlinePassed
        if late then pure (.error (.beforeResponse "Worker-Read-Timeout"))
        else do
          let read : WorkerRead ← Prog.perform ProxyOp.readWorker
          match read with
          | .ended => pure (.ok ())
          | .again => streamLoop rounds started
          | .failed error =>
              pure (.error (brokenOff started s!"Worker-Stream brach ab: {error}"
                s!"Worker-Antwort nicht lesbar: {error}"))
          | .data first rest => do
              let written : ClientWrite ← Prog.perform (ProxyOp.writeClient (first :: rest))
              match written with
              | .done => streamLoop rounds true
              | .gone _ => pure (.ok ())
              | .failed _ error =>
                  pure (.error (brokenOff started s!"Client-Stream brach ab: {error}"
                    s!"Client-Antwort nicht sendbar: {error}"))

/-- `proxy_worker_raw_response_to_client`. -/
def proxyWorkerRawResponseToClient (rounds : Nat) (body : Json) :
    ProxyProg (Except StreamProxyError Unit) := do
  let connected : Except String Unit ← Prog.perform ProxyOp.connect
  match connected with
  | .error message => pure (.error (.beforeResponse message))
  | .ok () => do
      let cancelled : Bool ← Prog.perform ProxyOp.loadFlag
      if cancelled then pure (.error .cancelled)
      else do
        let sent : Except String Unit ← Prog.perform (ProxyOp.send body)
        match sent with
        | .error error => pure (.error (.beforeResponse s!"Worker-Anfrage nicht sendbar: {error}"))
        | .ok () => streamLoop rounds false

/-- `error_for_state`, for a state that is not `Ready`. -/
def errorForState : EngineState → ApiError
  | .idle => { code := .notReady, message := "kein Modell ist geladen" }
  | .failed => { code := .internal, message := "Runner befindet sich im Fehlerzustand" }
  | .busy | .loading | .degraded | .draining | .rollback | .stopping | .ready =>
      { code := .modelBusy, message := "genau ein lokales Modell darf gleichzeitig aktiv sein" }

/-- The response to the end of a stream. -/
def settleStream : Except StreamProxyError Unit → Except ApiError Unit
  | .ok () | .error (.afterResponse _) => .ok ()
  | .error (.beforeResponse message) =>
      .error { code := .internal, message := s!"Worker-Stream fehlgeschlagen: {message}" }
  | .error .cancelled => .error { code := .cancelled, message := "Request wurde abgebrochen" }

/-- `finish_request` and the response. -/
def finishStream (engine : Engine) (result : Except StreamProxyError Unit) : Except ApiError Unit :=
  match engine.finishRequest with
  | (.error error, _) => .error {
      code := .internal
      message := s!"Request-Zustand konnte nicht abgeschlossen werden: {error.message}" }
  | (.ok (), _) => settleStream result

/-- The endpoint is asked, if the engine knows one. -/
def askWorker (rounds : Nat) (body : Json) :
    Option (String × UInt16) → ProxyProg (Except StreamProxyError Unit)
  | some _ => proxyWorkerRawResponseToClient rounds body
  | none =>
      pure (.error (.beforeResponse "kein Worker-Endpunkt fuer das aktive Modell hinterlegt"))

/-- `stream_active_worker_response`. -/
def streamActiveWorkerResponse (rounds : Nat) (model : String) (body : Json) :
    ProxyProg (Except ApiError Unit) := do
  let engine : Engine ← Prog.perform ProxyOp.lockEngine
  if engine.state ≠ .ready then pure (.error (errorForState engine.state))
  else if engine.activeModel ≠ some model then
    pure (.error {
      code := .invalidRequest
      message := s!"angefordertes Modell '{model}' ist nicht das aktuell geladene Modell" })
  else
    match engine.beginRequest model with
    | (.error error, _) => pure (.error {
        code := .modelBusy
        message := s!"Request konnte nicht gestartet werden: {error.message}" })
    | (.ok (), busy) => do
        let result ← askWorker rounds body busy.workerEndpoint
        pure (finishStream busy result)

/-! ## The request -/

/-- `status_code_for` of an error. -/
def statusCodeFor : ApiErrorCode → Nat
  | .modelBusy | .stalePlan | .notReady | .resourceDenied | .portConflict => 409
  | .invalidRequest => 400
  | .workerTimeout => 504
  | .cancelled => 499
  | .workerCrashed | .outOfMemory | .corruptModel | .internal => 500
  | .notFound => 404

def respondError (error : ApiError) : ProxyProg Unit :=
  Prog.perform (ProxyOp.respond (statusCodeFor error.code) (.error error))

/-- The response to the outcome of a chat. -/
def respondOutcome : ChatOutcome → ProxyProg Unit
  | .answered response => Prog.perform (ProxyOp.respond 200 (.ok response))
  | .streamed => pure ()
  | .failed error => respondError error

/-- How a request makes the calls of its chat. -/
def chatCall (rounds : Nat) (model : String) : (op : ChatOp) → ProxyProg op.Reply
  | .streamActiveWorkerResponse body => streamActiveWorkerResponse rounds model body
  | .proxyActiveWorkerJson body => Prog.perform (ProxyOp.chat (.proxyActiveWorkerJson body))
  | .readAttachment index attachmentId chunkIndex =>
      Prog.perform (ProxyOp.chat (.readAttachment index attachmentId chunkIndex))
  | .execute name args => Prog.perform (ProxyOp.chat (.execute name args))

/-- `handle_v1_chat` on a connection; `parse` is the parser of JSON. -/
def handleV1ChatConnection (parse : String → Except String Json) (rounds : Nat) (body : String) :
    ProxyProg Unit :=
  match parse body with
  | .error error =>
      respondError { code := .invalidRequest, message := s!"ungültige Anfrage: {error}" }
  | .ok parsed =>
      match readChat parsed with
      | .error message => respondError { code := .invalidRequest, message }
      | .ok request =>
          (serveChat parse request).expand (chatCall rounds request.model) >>= respondOutcome

end TriAI.Http
