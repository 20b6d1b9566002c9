import TriAI.Error
import TriAI.Library.Interaction

/-!
Contract: the background task of the evidence writer (`evidence/jsonl.rs`).

Owns: the buffers and open files of `writer_task`, `flush_buffer`, `flush_all_buffers` and
what one turn of the loop of `writer_task` does, which opens no file again; and `AsyncFile`, what
a `tokio::fs::File` does with the bytes it is handed.

Does not own: the channel, the timer and the rotation of files. Log messages are left out.
-/

set_option autoImplicit false

namespace TriAI.Evidence

open TriAI.Library.Interaction

/-- The calls of the task; a file is named below `base_path`. -/
inductive WriterOp where
  /-- `OpenOptions::new().create(true).append(true).open`. -/
  | openAppend (filename : String)
  /-- `write_all`. -/
  | writeAll (filename : String) (bytes : List UInt8)
  /-- `sync_all`. -/
  | syncAll (filename : String)

@[reducible] def WriterOp.Reply : WriterOp → Type
  | .openAppend _ | .writeAll _ _ | .syncAll _ => Except IoError Unit

/-- A program over these calls. -/
abbrev WriterProg (α : Type) : Type := Prog WriterOp WriterOp.Reply α

/-! ## Files -/

/-- A `tokio::fs::File`: the bytes that it was handed and that are not in the file yet, and the
error of a write that has failed since, which the next write returns. -/
structure AsyncFile where
  flying : List UInt8 := []
  failure : Option IoError := none

/-- The write behind a file goes on: bytes arrive in the file, or it fails and the rest is lost.
`AsyncFile.Proceeds file bytes after` tells the bytes that arrive. -/
inductive AsyncFile.Proceeds : AsyncFile → List UInt8 → AsyncFile → Prop
  | arrives (front rest : List UInt8) : Proceeds ⟨front ++ rest, none⟩ front ⟨rest, none⟩
  | fails {flying : List UInt8} (under : flying ≠ []) (error : IoError) :
      Proceeds ⟨flying, none⟩ [] ⟨[], some error⟩

/-- `write_all` waits for the write before it, and returns its error if it has failed. Else it
hands its bytes over and returns before they have arrived. Of many bytes a front is handed over
first, which has arrived when the rest is, or has failed. -/
inductive AsyncFile.WriteAll (bytes : List UInt8) :
    AsyncFile → Except IoError Unit → List UInt8 → AsyncFile → Prop
  | reports (error : IoError) : WriteAll bytes ⟨[], some error⟩ (.error error) [] {}
  | hands {front rest : List UInt8} (all : front ++ rest = bytes) :
      WriteAll bytes {} (.ok ()) front ⟨rest, none⟩
  | fails {front : List UInt8} (isFront : front <+: bytes) (error : IoError) :
      WriteAll bytes {} (.error error) front {}

section AsyncFile

variable {file after : AsyncFile} {bytes arrived : List UInt8}

/-- A write that does not fail keeps what is under way. -/
theorem AsyncFile.Proceeds.keeps (proceeds : file.Proceeds arrived after)
    (fine : after.failure = none) : arrived ++ after.flying = file.flying := by
  cases proceeds with
  | arrives => rfl
  | fails => cases fine

/-- Nothing arrives where nothing is under way. -/
theorem AsyncFile.Proceeds.idle (proceeds : file.Proceeds arrived after)
    (nothing : file.flying = []) : arrived = [] ∧ after = file := by
  cases proceeds with
  | arrives =>
      obtain ⟨rfl, rfl⟩ := List.append_eq_nil_iff.mp nothing
      exact ⟨rfl, rfl⟩
  | fails under => exact absurd nothing under

/-- A write begins when nothing is under way. -/
theorem AsyncFile.WriteAll.idle {reply : Except IoError Unit}
    (writes : file.WriteAll bytes reply arrived after) : file.flying = [] := by
  cases writes with
  | reports => rfl
  | hands => rfl
  | fails => rfl

theorem AsyncFile.WriteAll.of_ok (writes : file.WriteAll bytes (.ok ()) arrived after) :
    arrived ++ after.flying = bytes := by
  cases writes with
  | hands all => exact all

theorem AsyncFile.WriteAll.of_error {error : IoError}
    (writes : file.WriteAll bytes (.error error) arrived after) :
    arrived <+: bytes ∧ after.flying = [] := by
  cases writes with
  | reports => exact ⟨List.nil_prefix, rfl⟩
  | fails isFront => exact ⟨isFront, rfl⟩

end AsyncFile

/-! ## Task -/

/-- The variables of `writer_task`. The order of either map decides nothing but what
`flush_all_buffers` is given. -/
structure Writer where
  buffers : AList fun _ : String => List UInt8
  files : List String

namespace Writer

variable (writer : Writer)

/-- The writer before the first turn. -/
def new : Writer := ⟨∅, []⟩

/-- The bytes that wait for a file. -/
def pending (filename : String) : List UInt8 := (writer.buffers.lookup filename).getD []

/-- `buffers.entry(filename).or_insert_with(Vec::new).extend(data)`. -/
def extend (filename : String) (data : List UInt8) : Writer :=
  { writer with buffers := writer.buffers.insert filename (writer.pending filename ++ data) }

/-- The handle of a file, opened if it is not. -/
def ensureOpen (filename : String) : WriterProg (Except IoError Unit × Writer) :=
  if filename ∈ writer.files then pure (.ok (), writer)
  else do
    match ← Prog.perform (WriterOp.openAppend filename) with
    | .error error => pure (.error error, writer)
    | .ok () => pure (.ok (), { writer with files := writer.files ++ [filename] })

/-- `flush_buffer`. -/
def flushBuffer (filename : String) : WriterProg (Except IoError Unit × Writer) :=
  if writer.pending filename = [] then pure (.ok (), writer)
  else do
    match ← writer.ensureOpen filename with
    | (.error error, writer) => pure (.error error, writer)
    | (.ok (), writer) =>
        match ← Prog.perform (WriterOp.writeAll filename (writer.pending filename)) with
        | .error error => pure (.error error, writer)
        | .ok () => pure (.ok (), { writer with buffers := writer.buffers.insert filename [] })

/-- `flush_all_buffers`, over the names in the order of the map. -/
def flushAllBuffers (writer : Writer) : List String → WriterProg (Except IoError Unit × Writer)
  | [] => pure (.ok (), writer)
  | filename :: rest => do
      match ← writer.flushBuffer filename with
      | (.error error, writer) => pure (.error error, writer)
      | (.ok (), writer) => writer.flushAllBuffers rest

/-- The `sync_all` of every open file, whose failures are ignored. -/
def syncFiles : List String → WriterProg Unit
  | [] => pure ()
  | filename :: rest => do
      let _ ← Prog.perform (WriterOp.syncAll filename)
      syncFiles rest

end Writer

/-- What a turn of the loop of `writer_task` handles: a message, the closed channel or a
tick of the timer. -/
inductive WriterEvent where
  | write (filename : String) (data : List UInt8)
  | flush
  | shutdown
  | closed
  | tick

/-- What a turn of the loop leaves: the reply that is sent, if any, and whether the loop
goes on. -/
structure Turn where
  reply : Option (Except IoError Unit)
  writer : Writer
  goesOn : Bool

/-- One turn of the loop of `writer_task`. `order` is the order of the buffers. -/
def Writer.handle (writer : Writer) (bufferSizeBytes : Nat) (order : List String) :
    WriterEvent → WriterProg Turn
  | .write filename data =>
      let extended := writer.extend filename data
      if bufferSizeBytes ≤ (extended.pending filename).length then do
        let (_, flushed) ← extended.flushBuffer filename
        pure ⟨none, flushed, true⟩
      else pure ⟨none, extended, true⟩
  | .flush => do
      let (result, flushed) ← writer.flushAllBuffers order
      pure ⟨some result, flushed, true⟩
  | .shutdown => do
      let (result, flushed) ← writer.flushAllBuffers order
      Writer.syncFiles flushed.files
      pure ⟨some result, flushed, false⟩
  | .closed => do
      let (_, flushed) ← writer.flushAllBuffers order
      pure ⟨none, flushed, false⟩
  | .tick => do
      let (_, flushed) ← writer.flushAllBuffers order
      pure ⟨none, flushed, true⟩

/-! ## Handles -/

/-- The names under which the writer has files open: it opens each only once. -/
def opensOnce : Contract WriterOp WriterOp.Reply (List String) where
  Admits := fun names op =>
    match op with
    | .openAppend filename => filename ∉ names
    | .writeAll _ _ | .syncAll _ => True
  Answers := fun names op reply after =>
    match op, reply with
    | .openAppend filename, .ok () => after = names ++ [filename]
    | _, _ => after = names

section OpensOnce

variable {writer : Writer}

private theorem ensureOpen_opensOnce (filename : String) :
    wlp opensOnce (writer.ensureOpen filename) (fun result names => result.2.files = names)
      writer.files := by
  unfold Writer.ensureOpen
  split
  · exact rfl
  · rename_i closed
    refine wlp_perform closed fun reply after answered => ?_
    rcases reply with error | ⟨⟩
    · exact answered.symm
    · exact answered.symm

private theorem flushBuffer_opensOnce (filename : String) :
    wlp opensOnce (writer.flushBuffer filename) (fun result names => result.2.files = names)
      writer.files := by
  unfold Writer.flushBuffer
  split
  · exact rfl
  · refine wlp_seq (ensureOpen_opensOnce filename) ?_
    rintro ⟨error | ⟨⟩, opened⟩ names same
    · exact same
    · refine wlp_perform trivial fun reply after answered => ?_
      rcases reply with error | ⟨⟩
      · exact same.trans answered.symm
      · exact same.trans answered.symm

private theorem flushAllBuffers_opensOnce (order : List String) :
    wlp opensOnce (writer.flushAllBuffers order) (fun result names => result.2.files = names)
      writer.files := by
  induction order generalizing writer with
  | nil => exact rfl
  | cons filename rest inductionHypothesis =>
      refine wlp_seq (flushBuffer_opensOnce filename) ?_
      rintro ⟨error | ⟨⟩, flushed⟩ names rfl
      · exact rfl
      · exact inductionHypothesis

private theorem syncFiles_opensOnce (files names : List String) :
    wlp opensOnce (Writer.syncFiles files) (fun _ after => after = names) names := by
  induction files with
  | nil => exact rfl
  | cons filename rest inductionHypothesis =>
      refine wlp_perform trivial fun reply after answered => ?_
      obtain rfl : after = names := answered
      exact inductionHypothesis

/-- A turn opens no file again. -/
theorem handle_opensOnce (bufferSizeBytes : Nat) (order : List String) (event : WriterEvent) :
    wlp opensOnce (writer.handle bufferSizeBytes order event)
      (fun turn names => turn.writer.files = names) writer.files := by
  cases event with
  | write filename data =>
      unfold Writer.handle
      dsimp only
      split
      · exact wlp_seq (flushBuffer_opensOnce filename) fun _ _ same => same
      · exact rfl
  | flush => exact wlp_seq (flushAllBuffers_opensOnce order) fun _ _ same => same
  | shutdown =>
      refine wlp_seq (flushAllBuffers_opensOnce order) fun result names same => ?_
      refine wlp_seq (syncFiles_opensOnce result.2.files names) fun _ after unchanged => ?_
      exact same.trans unchanged.symm
  | closed => exact wlp_seq (flushAllBuffers_opensOnce order) fun _ _ same => same
  | tick => exact wlp_seq (flushAllBuffers_opensOnce order) fun _ _ same => same

end OpensOnce

end TriAI.Evidence
