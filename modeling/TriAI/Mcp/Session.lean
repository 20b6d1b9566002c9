import TriAI.Chat.Prompt
import TriAI.Library.Json

/-!
Contract: one request to an MCP server (`mcp.rs`).

Owns: `McpSession::request` over time: the writes, the lines that the reader thread hands on, and
the wait for the answer; and the exact condition under which the timeout bounds the wait.

Does not own: the start and the end of the server, and what the requests ask for. The parsing of
a line is the parameter `parse`, the text of a number the parameter `numberText`.

Every receive has the whole timeout to itself, so a line that is not the answer grants it anew.
-/

set_option autoImplicit false

namespace TriAI.Mcp

open TriAI.Chat (trimEnd trimStart)
open TriAI.Library

/-! ## Lines -/

section Parsed

variable (parse : String → Option Json) (numberText : JsonNumber → String)

/-- The ID that the answer to a request must have. -/
def wantedId (request : Json) : String := ((request.get "id").bind Json.asStr).getD ""

/-- The comparison of the IDs. -/
def isMatch (wanted : String) (msg : Json) : Bool :=
  match msg.get "id" with
  | some (.string s) => s == wanted
  | some (.number n) => numberText n == wanted
  | _ => false

/-- What the loop returns for an answer. -/
def answer (msg : Json) : Except String Json :=
  match msg.get "error" with
  | some err =>
      let message := ((err.pointer ["message"]).bind Json.asStr).getD "unbekannter MCP-Fehler"
      .error s!"MCP-Server-Fehler: {message}"
  | none => .ok msg

/-- One round of the loop with a line: what it returns, if it does not go on. -/
def handleLine (wanted raw : String) : Option (Except String Json) :=
  let line := trimStart (trimEnd raw)
  if line = "" then none
  else
    match parse line with
    | none => none
    | some msg => if isMatch numberText wanted msg then some (answer msg) else none

/-- The line is the answer to a request. -/
def Answers (wanted raw : String) : Prop :=
  trimStart (trimEnd raw) ≠ "" ∧
    ∃ msg, parse (trimStart (trimEnd raw)) = some msg ∧ isMatch numberText wanted msg = true

theorem handleLine_eq_none_iff (wanted raw : String) :
    handleLine parse numberText wanted raw = none ↔ ¬ Answers parse numberText wanted raw := by
  unfold handleLine Answers
  dsimp only
  split
  · rename_i empty
    simp [empty]
  · rename_i visible
    cases parsed : parse (trimStart (trimEnd raw)) with
    | none => simp
    | some msg => simp [visible]

end Parsed

/-! ## Receives -/

/-- What comes next from the reader thread: a line, the end of the channel, or nothing. -/
inductive Arrival where
  | line (time : Nat) (text : String)
  | closed (time : Nat)
  | silent

/-- A receive that has ended, with the line if it has one. -/
structure Receipt where
  ends : Nat
  line : Option String

/-- `recv_timeout`, begun at a time. -/
def recvTimeout (timeout now : Nat) : Arrival → Receipt
  | .line time text =>
      if time ≤ now + timeout then { ends := max now time, line := some text }
      else { ends := now + timeout, line := none }
  | .closed time =>
      if time ≤ now + timeout then { ends := max now time, line := none }
      else { ends := now + timeout, line := none }
  | .silent => { ends := now + timeout, line := none }

/-- A request that waits, with the time at which its next receive begins, or has returned. -/
inductive RequestState where
  | waiting (now : Nat)
  | returned (result : Except String Json)

/-- The writes of a request, given how they end. -/
def sendRequest (payload newline flush : Except String Unit) : Except String Unit := do
  payload.mapError fun e => s!"MCP-request nicht schreibbar: {e}"
  newline.mapError fun e => s!"MCP-request (newline) nicht schreibbar: {e}"
  flush.mapError fun e => s!"MCP-request (flush) fehlgeschlagen: {e}"

section Waiting

variable (parse : String → Option Json) (numberText : JsonNumber → String) (timeout : Nat)
  (wanted : String)

/-- One round of the loop, which takes so long after its receive. -/
def waitRound (now : Nat) (arrival : Arrival) (work : Nat) : RequestState :=
  let receipt := recvTimeout timeout now arrival
  match receipt.line with
  | none => .returned (.error "MCP-Antwort-Timeout oder stdout geschlossen")
  | some line =>
      match handleLine parse numberText wanted line with
      | none => .waiting (receipt.ends + work)
      | some result => .returned result

variable (arrivals : Nat → Arrival) (work : Nat → Nat) (start : Nat)

/-- `McpSession::request` after so many rounds of its loop, given how its writes have ended. -/
def requestAfter (sent : Except String Unit) : Nat → RequestState
  | 0 =>
      match sent with
      | .error message => .returned (.error message)
      | .ok () => .waiting start
  | rounds + 1 =>
      match requestAfter sent rounds with
      | .returned result => .returned result
      | .waiting now =>
          waitRound parse numberText timeout wanted now (arrivals rounds) (work rounds)

/-- The request returns at the latest with the first receive that ends when the timeout has
passed since the start of the wait. -/
def ReturnsInTime (sent : Except String Unit) : Prop :=
  ∀ rounds now,
    requestAfter parse numberText timeout wanted arrivals work start sent rounds = .waiting now →
    start + timeout ≤ (recvTimeout timeout now (arrivals rounds)).ends →
    ∃ result, requestAfter parse numberText timeout wanted arrivals work start sent (rounds + 1) =
      .returned result

/-! ## The lines that keep a request waiting -/

/-- The time of an arrival, if it has one. -/
def Arrival.time : Arrival → Nat
  | .line time _ | .closed time => time
  | .silent => 0

/-- When a round begins, if each one before it has received a line. -/
def roundStart : Nat → Nat
  | 0 => start
  | rounds + 1 => max (roundStart rounds) (arrivals rounds).time + work rounds

/-- What arrives is a line that is not the answer, within the timeout of its receive. -/
def Distracts (round : Nat) : Prop :=
  ∃ time text, arrivals round = .line time text ∧
    time ≤ roundStart arrivals work start round + timeout ∧
    ¬ Answers parse numberText wanted text

/-- Each of the lines that keep the request waiting is received before the timeout has passed
since the start of the wait. -/
def DistractedEarly : Prop :=
  ∀ last, (∀ round ≤ last, Distracts parse numberText timeout wanted arrivals work start round) →
    max (roundStart arrivals work start last) (arrivals last).time < start + timeout

end Waiting

variable {parse : String → Option Json} {numberText : JsonNumber → String} {timeout : Nat}
  {wanted : String} {arrivals : Nat → Arrival} {work : Nat → Nat} {start : Nat}

/-- A round goes on exactly with a line in time that is not the answer. -/
theorem waitRound_eq_waiting {now after taken : Nat} {arrival : Arrival} :
    waitRound parse numberText timeout wanted now arrival taken = .waiting after ↔
      ∃ time text, arrival = .line time text ∧ time ≤ now + timeout ∧
        ¬ Answers parse numberText wanted text ∧ after = max now time + taken := by
  unfold waitRound
  cases arrival with
  | line time text =>
      by_cases inTime : time ≤ now + timeout
      · rw [recvTimeout, if_pos inTime]
        cases handled : handleLine parse numberText wanted text with
        | none =>
            have ignored := (handleLine_eq_none_iff parse numberText wanted text).mp handled
            simp [handled, inTime, ignored, eq_comm]
        | some result =>
            have answers : Answers parse numberText wanted text := by
              by_contra ignored
              have none := (handleLine_eq_none_iff parse numberText wanted text).mpr ignored
              rw [handled] at none
              cases none
            simp [handled, answers]
      · rw [recvTimeout, if_neg inTime]
        simp [inTime]
  | closed time =>
      by_cases inTime : time ≤ now + timeout
      · rw [recvTimeout, if_pos inTime]
        simp
      · rw [recvTimeout, if_neg inTime]
        simp
  | silent => simp [recvTimeout]

/-- A receive ends with such a line as soon as the line is there. -/
theorem Distracts.ends_eq {round : Nat}
    (distracts : Distracts parse numberText timeout wanted arrivals work start round) :
    (recvTimeout timeout (roundStart arrivals work start round) (arrivals round)).ends =
      max (roundStart arrivals work start round) (arrivals round).time := by
  obtain ⟨time, text, isLine, within, _⟩ := distracts
  rw [isLine, recvTimeout, if_pos within]
  rfl

theorem requestAfter_error (message : String) (rounds : Nat) :
    requestAfter parse numberText timeout wanted arrivals work start (.error message) rounds =
      .returned (.error message) := by
  induction rounds with
  | zero => rfl
  | succ rounds inductionHypothesis =>
      unfold requestAfter
      rw [inductionHypothesis]

/-- A request still waits exactly if each of its rounds has received a line that is not the
answer. -/
theorem requestAfter_eq_waiting {rounds now : Nat} :
    requestAfter parse numberText timeout wanted arrivals work start (.ok ()) rounds =
        .waiting now ↔
      (∀ round < rounds, Distracts parse numberText timeout wanted arrivals work start round) ∧
        now = roundStart arrivals work start rounds := by
  induction rounds generalizing now with
  | zero => simp [requestAfter, roundStart, eq_comm]
  | succ rounds inductionHypothesis =>
      constructor
      · intro waits
        unfold requestAfter at waits
        split at waits
        · cases waits
        · rename_i before waited
          obtain ⟨distracted, rfl⟩ := inductionHypothesis.mp waited
          obtain ⟨time, text, isLine, inTime, ignored, rfl⟩ := waitRound_eq_waiting.mp waits
          refine ⟨?_, by rw [roundStart, isLine]; rfl⟩
          intro round earlier
          rcases Nat.lt_succ_iff_lt_or_eq.mp earlier with before | same
          · exact distracted round before
          · rw [same]
            exact ⟨time, text, isLine, inTime, ignored⟩
      · intro distracted
        obtain ⟨distracted, rfl⟩ := distracted
        have waited := inductionHypothesis.mpr
          ⟨fun round earlier => distracted round (Nat.lt_succ_of_lt earlier), rfl⟩
        obtain ⟨time, text, isLine, inTime, ignored⟩ := distracted rounds (Nat.lt_succ_self rounds)
        unfold requestAfter
        rw [waited]
        apply waitRound_eq_waiting.mpr
        exact ⟨time, text, isLine, inTime, ignored, by rw [roundStart, isLine]; rfl⟩

/-- The timeout bounds the wait of a request exactly if no line that is not the answer is
received, after others of its kind, once the timeout has passed. -/
theorem request_returnsInTime_iff (parse : String → Option Json)
    (numberText : JsonNumber → String) (timeout : Nat) (request : Json)
    (arrivals : Nat → Arrival) (work : Nat → Nat) (start : Nat)
    (payload newline flush : Except String Unit) :
    ReturnsInTime parse numberText timeout (wantedId request) arrivals work start
        (sendRequest payload newline flush) ↔
      (sendRequest payload newline flush = .ok () →
        DistractedEarly parse numberText timeout (wantedId request) arrivals work start) := by
  cases sendRequest payload newline flush with
  | error message =>
      constructor
      · intro _ sent
        cases sent
      · intro _ rounds now waits
        rw [requestAfter_error] at waits
        cases waits
  | ok sent =>
      constructor
      · intro inTime _ last distracted
        by_contra late
        have waits := requestAfter_eq_waiting.mpr
          ⟨fun round earlier => distracted round (Nat.le_of_lt earlier), rfl⟩
        have further := requestAfter_eq_waiting.mpr
          ⟨fun round earlier => distracted round (Nat.le_of_lt_succ earlier), rfl⟩
        have ends := (distracted last (Nat.le_refl last)).ends_eq
        obtain ⟨result, returned⟩ := inTime last _ waits (by omega)
        rw [further] at returned
        cases returned
      · intro early rounds now waits late
        cases state : requestAfter parse numberText timeout (wantedId request) arrivals work start
            (.ok ()) (rounds + 1) with
        | returned result => exact ⟨result, rfl⟩
        | waiting after =>
            obtain ⟨distracted, _⟩ := requestAfter_eq_waiting.mp state
            obtain ⟨_, rfl⟩ := requestAfter_eq_waiting.mp waits
            have sooner := early rfl rounds fun round notLater =>
              distracted round (Nat.lt_succ_of_le notLater)
            have ends := (distracted rounds (Nat.lt_succ_self rounds)).ends_eq
            omega

/-! ## A server that never answers -/

/-- A log line every twenty seconds. -/
def logLines (round : Nat) : Arrival := .line (20 * (round + 1)) "log"

private theorem distracts_logLines (round : Nat) :
    Distracts (fun _ => none) (fun _ => "") 30 "1" logLines (fun _ => 0) 0 round := by
  have begins : roundStart logLines (fun _ => 0) 0 round = 20 * round := by
    induction round with
    | zero => rfl
    | succ round inductionHypothesis =>
        rw [roundStart, inductionHypothesis]
        simp only [logLines, Arrival.time]
        omega
  refine ⟨20 * (round + 1), "log", rfl, by omega, ?_⟩
  rintro ⟨_, msg, parsed, _⟩
  cases parsed

/-- With a timeout of thirty seconds a request waits for ever on log lines. -/
theorem logLines_keep_waiting :
    (∀ rounds, ∃ now, requestAfter (fun _ => none) (fun _ => "") 30 "1" logLines (fun _ => 0) 0
        (.ok ()) rounds = .waiting now) ∧
      ¬ ReturnsInTime (fun _ => none) (fun _ => "") 30 "1" logLines (fun _ => 0) 0 (.ok ()) := by
  have waits : ∀ rounds, ∃ now, requestAfter (fun _ => none) (fun _ => "") 30 "1" logLines
      (fun _ => 0) 0 (.ok ()) rounds = .waiting now := fun rounds =>
    ⟨_, requestAfter_eq_waiting.mpr ⟨fun round _ => distracts_logLines round, rfl⟩⟩
  refine ⟨waits, ?_⟩
  intro inTime
  have second := requestAfter_eq_waiting.mpr
    ⟨fun round (_ : round < 1) => distracts_logLines round, rfl⟩
  obtain ⟨result, returned⟩ := inTime 1 _ second (by decide)
  obtain ⟨now, still⟩ := waits 2
  rw [still] at returned
  cases returned

end TriAI.Mcp
