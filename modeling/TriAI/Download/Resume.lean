import TriAI.Download.AllOrNothing

/-!
Contract: a download that resumes at a server of its content.

Owns: the server of a content, the world of a download in which only the state of the disk
makes a call fail, what the calls come to there, and the connection up to the body.

Does not own: downloads that are cancelled, redirects, and what becomes of the body.
-/

set_option autoImplicit false

namespace TriAI.Download

open TriAI.Library.FileTree
open TriAI.Library.Interaction
open TriAI.Library.TextLines
open TriAI.Staging
open TriAI.Storage

/-! ## The server -/

/-- A server of a content. It may ignore the range of a request, it may announce the length of a
body, and `portion` is how much of what is left it delivers at a time. -/
structure Server where
  content : List UInt8
  ignoresRange : Bool
  announces : Bool
  portion : List UInt8 → Nat

namespace Server

variable (server : Server)

def response (status : Nat) (body : List UInt8) : Response where
  status := status
  location := none
  contentLength := if server.announces then some (toString body.length) else none

/-- The reply to a request, and the body that follows. A range that begins at the end of the
content or later is answered by 416. -/
def respond (url : String) : Option UInt64 → Except String Response × List UInt8
  | none => (.ok (server.response 200 server.content), server.content)
  | some first =>
      if server.ignoresRange then (.ok (server.response 200 server.content), server.content)
      else if first.toNat < server.content.length then
        (.ok (server.response 206 (server.content.drop first.toNat)),
          server.content.drop first.toNat)
      else (.error (url ++ ": status code 416"), [])

/-- How much a read delivers: at least one byte, while there is one. -/
def delivers (limit : Nat) (body : List UInt8) : Nat := max 1 (min (server.portion body) limit)

def answer : (op : OutsideOp) → List UInt8 → op.Reply × List UInt8
  | .get url first, _ => server.respond url first
  | .read limit, body =>
      (.ok (body.take (server.delivers limit body)), body.drop (server.delivers limit body))
  | .cancelRequested, body => (false, body)

end Server

/-- The world of a retry: its disk, its handle, and what is left of the body. -/
abbrev RetryWorld : Type := World (List UInt8)

def RetryWorld.answer (tool : Sha256sum) (server : Server) :
    (op : DownloadOp) → RetryWorld → op.Reply × RetryWorld
  | .store op, world =>
      ((op.apply tool world.disk).1, { world with disk := (op.apply tool world.disk).2 })
  | .outside op, world =>
      ((server.answer op world.outside).1,
        { world with outside := (server.answer op world.outside).2 })
  | .handle op, world =>
      ((op.apply world.handle).1, { world with handle := (op.apply world.handle).2 })

/-! ## Calls -/

section Calls

variable {α : Type} {tool : Sha256sum} {server : Server} {world : RetryWorld} {disk : Disk}

theorem runWith_onStore (program : Prog StoreOp StoreOp.Reply α) :
    (Client.onStore program).runWith (RetryWorld.answer tool server) world =
      ((program.runWith (StoreOp.apply tool) world.disk).1,
        { world with disk := (program.runWith (StoreOp.apply tool) world.disk).2 }) := by
  let focus : Disk → RetryWorld := fun disk => { world with disk }
  have answers : ∀ (op : StoreOp) (disk : Disk),
      (RetryWorld.answer tool server (.store op) (focus disk)).1 = (op.apply tool disk).1 ∧
        (RetryWorld.answer tool server (.store op) (focus disk)).2 =
          focus (op.apply tool disk).2 := fun _ _ => ⟨rfl, rfl⟩
  show (program.embed DownloadOp.store fun _ reply => reply).runWith
    (RetryWorld.answer tool server) (focus world.disk) = _
  refine Prog.runWith_embed ?_ program world.disk
  exact answers

theorem outcome_stage_ok {context : String} {program : Stage α} {value : α}
    (ran : Fallible.outcome (StoreOp.apply tool) program world.disk = (.ok value, disk)) :
    Fallible.outcome (RetryWorld.answer tool server) (Client.stage context program) world =
      (.ok value, { world with disk }) := by
  apply Fallible.outcome_attempt_ok
  rw [runWith_onStore]
  unfold Fallible.outcome at ran
  rw [ran]

theorem outcome_stage_error {context : String} {program : Stage α} {error : IoFailure}
    (ran : Fallible.outcome (StoreOp.apply tool) program world.disk = (.error error, disk)) :
    Fallible.outcome (RetryWorld.answer tool server) (Client.stage context program) world =
      (.error { text := context, cause := some error }, { world with disk }) := by
  unfold Client.stage
  rw [Fallible.outcome_attempt, runWith_onStore]
  unfold Fallible.outcome at ran
  rw [ran]
  rfl

/-- A step whose result is dropped. -/
theorem outcome_ignore (program : Stage α) :
    Fallible.outcome (RetryWorld.answer tool server) (Client.ignore program) world =
      (.ok (), { world with
        disk := (Fallible.outcome (StoreOp.apply tool) program world.disk).2 }) := by
  unfold Client.ignore Fallible.outcome
  rw [ExceptT.run_lift, map_eq_pure_bind, Prog.runWith_bind, Prog.runWith_bind, runWith_onStore]
  rfl

theorem outcome_onHandle (op : HandleOp) :
    Fallible.outcome (RetryWorld.answer tool server) (Client.onHandle op) world =
      (.ok (op.apply world.handle).1, { world with handle := (op.apply world.handle).2 }) := rfl

theorem outcome_checked {result : Except DownloadFailure α} {value : α}
    (succeeds : result = .ok value) :
    Fallible.outcome (RetryWorld.answer tool server) (Client.ofExcept result) world =
      (.ok value, world) := by
  rw [succeeds]
  rfl

end Calls

/-! ## To the body -/

section Connect

variable {tool : Sha256sum} {server : Server} {world : RetryWorld} {root : Path}
  {blockId : String} {generation : UInt64}

theorem outcome_openPart (tool : Sha256sum) (server : Server) (world : RetryWorld)
    (generation : UInt64) (context : String) (valid : validateId blockId = .ok ())
    (ready : Ready root world.disk) :
    ∃ disk start, start =
        UInt64.ofNat (world.disk.bytesAt (partPath root blockId generation)).length ∧
      Fallible.outcome (RetryWorld.answer tool server) (openPart root blockId generation context)
        world =
          (.ok start, { world with
            disk := disk
            handle := { world.handle with bytesDownloaded := start } }) ∧
      world.disk.WritesFile (partPath root blockId generation)
        (world.disk.bytesAt (partPath root blockId generation)) disk := by
  obtain ⟨disk, opened, writes⟩ := openPartForResume_ok valid ready
  refine ⟨disk, _, rfl, ?_, writes⟩
  unfold openPart
  rw [Fallible.outcome_bind_ok (outcome_stage_ok opened),
    Fallible.outcome_bind_ok (outcome_onHandle _)]
  rfl

/-- A request that is answered directly. -/
theorem outcome_fetch {urls : UrlLibrary} {requiredScheme url : String} {resumeFrom : UInt64}
    {status : Nat} {body : List UInt8} (remaining : Nat)
    (answered : server.respond url (rangeStart resumeFrom) =
      (.ok (server.response status body), body))
    (direct : ¬ (300 ≤ status ∧ status < 400)) :
    Fallible.outcome (RetryWorld.answer tool server)
        (fetch urls requiredScheme resumeFrom remaining url) world =
      (.ok (server.response status body), { world with outside := body }) := by
  have got : Fallible.outcome (RetryWorld.answer tool server)
      (Client.get url (rangeStart resumeFrom)) world =
        (.ok (server.response status body), { world with outside := body }) := by
    apply Fallible.outcome_attempt_ok
    show ((server.respond url (rangeStart resumeFrom)).1,
      ({ world with outside := (server.respond url (rangeStart resumeFrom)).2 } : RetryWorld)) = _
    rw [answered]
  have unredirected : ¬ (300 ≤ (server.response status body).status ∧
      (server.response status body).status < 400) := direct
  unfold fetch
  rw [Fallible.outcome_bind_ok got, if_neg unredirected]
  rfl

/-- A request that is refused. -/
theorem outcome_fetch_error {urls : UrlLibrary} {requiredScheme url : String}
    {resumeFrom : UInt64} {error : String} {body : List UInt8} (remaining : Nat)
    (answered : server.respond url (rangeStart resumeFrom) = (.error error, body)) :
    Fallible.outcome (RetryWorld.answer tool server)
        (fetch urls requiredScheme resumeFrom remaining url) world =
      (.error { text := "Download fehlgeschlagen: " ++ error },
        { world with outside := body }) := by
  have got : Fallible.outcome (RetryWorld.answer tool server)
      (Client.get url (rangeStart resumeFrom)) world =
        (.error { text := "Download fehlgeschlagen: " ++ error },
          { world with outside := body }) := by
    unfold Client.get
    rw [Fallible.outcome_attempt]
    show (Except.mapError _ (server.respond url (rangeStart resumeFrom)).1,
      ({ world with outside := (server.respond url (rangeStart resumeFrom)).2 } : RetryWorld)) = _
    rw [answered]
    rfl
  unfold fetch
  exact Fallible.outcome_bind_error got

/-- What was received is counted by one word. -/
theorem toNat_received {received : List UInt8} (small : received.length < 2 ^ 63) :
    (UInt64.ofNat received.length).toNat = received.length := by
  apply UInt64.toNat_ofNat_of_lt'
  show received.length < 2 ^ 64
  omega

theorem received_pos {received : List UInt8} (small : received.length < 2 ^ 63) :
    0 < UInt64.ofNat received.length ↔ received ≠ [] := by
  rw [UInt64.lt_iff_toNat_lt, toNat_received small]
  exact List.length_pos_iff

/-- Where there is something after what was received, or the range does not matter, the request is
answered by the content or by its rest. -/
theorem respond_ok (url : String) {received rest : List UInt8}
    (content : server.content = received ++ rest) (small : server.content.length < 2 ^ 63)
    (something : rest = [] → received = [] ∨ server.ignoresRange = true) :
    ∃ status body, server.respond url (rangeStart (UInt64.ofNat received.length)) =
        (.ok (server.response status body), body) ∧
      ((status = 200 ∧ body = server.content) ∨
        (status = 206 ∧ received ≠ [] ∧ body = rest)) := by
  have length : server.content.length = received.length + rest.length := by
    rw [content, List.length_append]
  have smallReceived : received.length < 2 ^ 63 := by omega
  have positive := received_pos smallReceived
  unfold rangeStart
  by_cases empty : received = []
  · rw [if_neg (by rw [positive]; exact absurd empty)]
    exact ⟨200, server.content, rfl, .inl ⟨rfl, rfl⟩⟩
  · rw [if_pos (positive.mpr empty)]
    unfold Server.respond
    dsimp only
    by_cases ignores : server.ignoresRange = true
    · rw [if_pos ignores]
      exact ⟨200, server.content, rfl, .inl ⟨rfl, rfl⟩⟩
    · have more : rest ≠ [] := fun none => by
        rcases something none with isEmpty | ignored
        · exact empty isEmpty
        · exact ignores ignored
      have inside : (UInt64.ofNat received.length).toNat < server.content.length := by
        have atLeastOne := List.length_pos_iff.mpr more
        rw [toNat_received smallReceived]
        omega
      have isRest : server.content.drop (UInt64.ofNat received.length).toNat = rest := by
        rw [toNat_received smallReceived, content, List.drop_left]
      rw [if_neg ignores, if_pos inside, isRest]
      exact ⟨206, rest, rfl, .inr ⟨rfl, empty, rfl⟩⟩

theorem Server.response_length {status : Nat} {body : List UInt8} (small : body.length < 2 ^ 64) :
    (server.response status body).length =
      if server.announces then some (UInt64.ofNat body.length) else none := by
  unfold Response.length Server.response
  cases server.announces with
  | false => rfl
  | true =>
      show (parseUnsigned (2 ^ 64) (toString body.length)).map UInt64.ofNat = _
      rw [parseUnsigned_toString small]
      rfl

/-- The part file holds a beginning of the content, which the body completes. -/
structure Begun (content : List UInt8) (part : Path) (start : UInt64) (body : List UInt8)
    (world : RetryWorld) : Prop where
  file : ∃ begun, world.disk.lookup part = some (.file begun) ∧ begun.bytes ++ body = content ∧
    start = UInt64.ofNat begun.bytes.length
  downloaded : world.handle.bytesDownloaded = start

theorem outcome_bodyStart (tool : Sha256sum) (world : RetryWorld) {status : Nat}
    {received rest body : List UInt8} {resumeFrom : UInt64}
    (valid : validateId blockId = .ok ()) (ready : Ready root world.disk)
    (content : server.content = received ++ rest) (small : server.content.length < 2 ^ 63)
    (resumes : Begun server.content (partPath root blockId generation) resumeFrom rest world)
    (isReceived : world.disk.bytesAt (partPath root blockId generation) = received)
    (answered : (status = 200 ∧ body = server.content) ∨
      (status = 206 ∧ received ≠ [] ∧ body = rest)) :
    ∃ after start, Fallible.outcome (RetryWorld.answer tool server)
        (bodyStart root blockId generation resumeFrom (server.response status body)) world =
          (.ok start, after) ∧
      Begun server.content (partPath root blockId generation) start body after ∧
      after.outside = world.outside ∧ world.disk.ChangesWithin (IsPart root) after.disk := by
  obtain ⟨begun, isFile, whole, isStart⟩ := resumes.file
  have isBegun : begun.bytes = received := by rw [← isReceived, Disk.bytesAt_file isFile]
  have length : server.content.length = received.length + rest.length := by
    rw [content, List.length_append]
  have positive : 0 < resumeFrom ↔ received ≠ [] := by
    rw [isStart, isBegun]
    exact received_pos (by omega)
  unfold bodyStart
  by_cases again : 0 < resumeFrom ∧ (server.response status body).status ≠ 206
  · -- the server sends the whole content, so the part file is begun anew
    rw [if_pos again]
    obtain ⟨discarded, ranDiscard, removes⟩ := discardPart_ok valid isFile
    have changes : world.disk.ChangesWithin (IsPart root) discarded :=
      .of_removes removes (isPart_partPath root _ _)
    have stillReady := ready.changesWithin changes (root_not_isPart root)
    obtain ⟨disk, start, isStart, opened, writes⟩ := outcome_openPart tool server
      { world with disk := discarded } generation "Staging-Datei nicht neu oeffenbar: " valid
      stillReady
    have isEmpty : discarded.bytesAt (partPath root blockId generation) = [] :=
      Disk.bytesAt_none removes.gone
    obtain ⟨file, isNew, isNothing⟩ := writes.file
    have isContent : body = server.content := by
      rcases answered with ⟨_, isContent⟩ | ⟨is206, _, _⟩
      · exact isContent
      · exact absurd is206 again.2
    refine ⟨{ world with disk, handle := { world.handle with bytesDownloaded := start } }, start,
      ?_, ⟨⟨file, isNew, ?_, ?_⟩, rfl⟩, rfl, ?_⟩
    · rw [Fallible.outcome_bind_ok (outcome_stage_ok ranDiscard)]
      exact opened
    · rw [isNothing, isContent]
      exact congrArg (· ++ server.content) isEmpty
    · rw [isStart, isNothing]
    · exact changes.trans (.of_writesFile writes (isPart_partPath root _ _))
  · rw [if_neg again]
    refine ⟨world, resumeFrom, rfl, ?_, rfl, .refl _⟩
    rcases answered with ⟨is200, isContent⟩ | ⟨_, _, isRest⟩
    · have empty : received = [] := by
        by_contra nonempty
        refine again ⟨positive.mpr nonempty, ?_⟩
        show status ≠ 206
        omega
      rw [isContent]
      refine ⟨⟨begun, isFile, ?_, isStart⟩, resumes.downloaded⟩
      rw [isBegun, empty, List.nil_append]
    · rw [isRest]
      exact resumes

/-- What the body completes has the size of the content. -/
theorem Begun.size {content : List UInt8} {part : Path} {start : UInt64} {body : List UInt8}
    (begun : Begun content part start body world) :
    start + UInt64.ofNat body.length = UInt64.ofNat content.length := by
  obtain ⟨file, _, whole, isStart⟩ := begun.file
  rw [isStart, ← whole, List.length_append, UInt64.ofNat_add]

/-- The announced size is the requested one, where there are both. -/
theorem checkTotal_ok {expected announced : Option UInt64} {size : UInt64}
    (asExpected : ∀ bytes, expected = some bytes → bytes = size)
    (asAnnounced : ∀ bytes, announced = some bytes → bytes = size) :
    checkTotal expected announced = .ok () := by
  unfold checkTotal
  split
  · rename_i left right
    rw [asExpected left rfl, asAnnounced right rfl, if_neg (not_not.mpr rfl)]
  · rfl

/-- The connection of a retry that is not refused. -/
theorem outcome_connect {job : Job} (urls : UrlLibrary) (requiredScheme : String)
    {received rest : List UInt8} (valid : validateId job.blockId = .ok ())
    (ready : Ready job.root world.disk)
    (isReceived : world.disk.bytesAt (partPath job.root job.blockId job.generation) = received)
    (content : server.content = received ++ rest) (small : server.content.length < 2 ^ 63)
    (something : rest = [] → received = [] ∨ server.ignoresRange = true)
    (size : ∀ bytes, job.request.expectedSizeBytes = some bytes →
      bytes = UInt64.ofNat server.content.length) :
    ∃ after start, Fallible.outcome (RetryWorld.answer tool server)
        (job.connect urls requiredScheme) world =
          (.ok (start, if server.announces then some (UInt64.ofNat after.outside.length) else none),
            after) ∧
      Begun server.content (partPath job.root job.blockId job.generation) start after.outside
        after ∧
      world.disk.ChangesWithin (IsPart job.root) after.disk := by
  obtain ⟨disk, resumeFrom, isStart, opened, writes⟩ := outcome_openPart tool server world
    job.generation "Staging-Datei nicht oeffenbar: " valid ready
  have changes : world.disk.ChangesWithin (IsPart job.root) disk :=
    .of_writesFile writes (isPart_partPath job.root _ _)
  rw [isReceived] at isStart writes
  obtain ⟨status, body, answered, which⟩ :=
    respond_ok job.request.url content small something
  rw [← isStart] at answered
  have direct : ¬ (300 ≤ status ∧ status < 400) := by
    rcases which with ⟨is200, _⟩ | ⟨is206, _⟩ <;> omega
  let requested : RetryWorld := {
    disk := disk
    handle := { world.handle with bytesDownloaded := resumeFrom }
    outside := body }
  obtain ⟨file, isFile, bytes⟩ := writes.file
  have resumes : Begun server.content (partPath job.root job.blockId job.generation) resumeFrom
      rest requested := ⟨⟨file, isFile, by rw [bytes, content], by rw [isStart, bytes]⟩, rfl⟩
  obtain ⟨begun, start, began, isBegun, outside, more⟩ := outcome_bodyStart tool requested valid
    (ready.changesWithin changes (root_not_isPart job.root)) content small resumes
    writes.bytesAt which
  rw [show requested.outside = body from rfl] at outside
  have smallBody : body.length < 2 ^ 64 := by
    obtain ⟨_, _, whole, _⟩ := isBegun.file
    have lengths := congrArg List.length whole
    rw [List.length_append] at lengths
    omega
  have length : (server.response status body).length =
      if server.announces then some (UInt64.ofNat body.length) else none :=
    server.response_length smallBody
  have checked : checkTotal job.request.expectedSizeBytes
      ((server.response status body).length.map fun length => start + length) = .ok () := by
    apply checkTotal_ok size
    intro bytes isTotal
    rw [length] at isTotal
    split at isTotal
    · rw [← isBegun.size]
      exact (Option.some.inj isTotal).symm
    · cases isTotal
  refine ⟨{ begun with handle := { begun.handle with
      totalBytes := (server.response status body).length.map fun length => start + length } },
    start, ?_, ⟨?_, isBegun.downloaded⟩, changes.trans more⟩
  · unfold Job.connect
    rw [Fallible.outcome_bind_ok opened,
      Fallible.outcome_bind_ok (outcome_fetch maxRedirects answered direct),
      Fallible.outcome_bind_ok began, Fallible.outcome_bind_ok (outcome_onHandle _),
      Fallible.outcome_bind_ok (outcome_checked checked), outside, length]
    rfl
  · rw [outside]
    exact isBegun.file

end Connect

end TriAI.Download
