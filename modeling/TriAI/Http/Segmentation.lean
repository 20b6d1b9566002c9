import TriAI.Http.Reader

/-!
Contract: what a request that is read depends on.

Owns: the ways of cutting a stream into reads, the stream's request whatever the cut, and
exactly when the cut decides whether it is read.

Does not own: reads that fail (`Http.Reader`).

The limit on the header is tested between two reads, on whatever has come: a header that ends
up to one read behind the limit passes if that read brings its end.
-/

set_option autoImplicit false

namespace TriAI.Http

open TriAI.Chat (isWhitespace splitWhitespace)
open TriAI.Library.TextLines
open TriAI.Storage

/-- A way of cutting a stream into non-empty reads. -/
def IsCut (stream : List UInt8) (cut : List (List UInt8)) : Prop :=
  cut.flatten = stream ∧ ∀ chunk ∈ cut, chunk ≠ [] ∧ chunk.length ≤ 4096

/-- The reads of a connection that brings a stream and is closed. -/
def readsOf (cut : List (List UInt8)) : List SocketRead := cut.map .data

/-- The valid id that a request brings. -/
def ParsedRequest.ownId (request : ParsedRequest) : Option String :=
  (request.headers "x-request-id").filter fun value => validRequestId value

/-- The same request, but for an id that was generated. -/
structure ParsedRequest.Agrees (first second : ParsedRequest) : Prop where
  method : first.method = second.method
  path : first.path = second.path
  body : first.body = second.body
  headers : first.headers = second.headers
  requestId : first.ownId ≠ none → first.requestId = second.requestId

/-- The same request, or a rejection of both. -/
def SameOutcome : Except IoFailure ParsedRequest → Except IoFailure ParsedRequest → Prop
  | .ok first, .ok second => first.Agrees second
  | .error _, .error _ => True
  | _, _ => False

/-- The outcome does not depend on where the network has cut a stream. -/
def CutIndependent (stream : List UInt8) : Prop :=
  ∀ process firstSequence secondSequence first second, IsCut stream first → IsCut stream second →
    SameOutcome (readRequest process firstSequence (readsOf first))
      (readRequest process secondSequence (readsOf second))

/-- The end of the header is beyond the limit, but by no more than the end of one read. -/
def LongHeader (stream : List UInt8) : Prop :=
  ∃ position, findHeaderEnd stream = some position ∧
    64 * 1024 + 1 < position + 4 ∧ position + 4 ≤ 64 * 1024 + 4096

/-- But for its length the header is in order, and the body is complete. -/
def Acceptable (stream : List UInt8) : Prop :=
  ∃ position head, findHeaderEnd stream = some position ∧
    parseHead (fromUtf8Lossy (stream.take position)) = .ok head ∧
    position + 4 + head.contentLength ≤ stream.length

/-! ## The end of the header -/

/-- The first blank line is found. -/
theorem findHeaderEnd_eq_some {bytes : List UInt8} {position : Nat} :
    findHeaderEnd bytes = some position ↔
      blankLine <+: bytes.drop position ∧
        ∀ earlier < position, ¬ blankLine <+: bytes.drop earlier := by
  induction bytes generalizing position with
  | nil => simp [findHeaderEnd, blankLine]
  | cons byte rest inductionHypothesis =>
      rw [findHeaderEnd]
      by_cases here : blankLine <+: byte :: rest
      · rw [if_pos here]
        cases position with
        | zero => simp [here]
        | succ position =>
            simp only [Option.some.injEq, Nat.right_eq_add, Nat.add_eq_zero_iff, one_ne_zero,
              and_false, false_iff, not_and]
            exact fun _ none => none 0 (Nat.succ_pos _) here
      · rw [if_neg here]
        cases position with
        | zero => simp [here]
        | succ position =>
            simp only [Option.map_eq_some_iff, Nat.add_right_cancel_iff, exists_eq_right,
              inductionHypothesis, List.drop_succ_cons]
            refine and_congr_right fun _ => ⟨fun none earlier before => ?_, fun none => ?_⟩
            · cases earlier with
              | zero => exact here
              | succ earlier => exact none earlier (by omega)
            · exact fun earlier before => none (earlier + 1) (by omega)

theorem findHeaderEnd_le {bytes : List UInt8} {position : Nat}
    (found : findHeaderEnd bytes = some position) : position + 4 ≤ bytes.length := by
  have size := (findHeaderEnd_eq_some.mp found).1.length_le
  simp only [blankLine, List.length_cons, List.length_nil, List.length_drop] at size
  omega

/-- The end is found as soon as it has come, and stays where it is. -/
theorem findHeaderEnd_append {bytes : List UInt8} {position : Nat}
    (size : position + 4 ≤ bytes.length) (more : List UInt8) :
    findHeaderEnd (bytes ++ more) = some position ↔ findHeaderEnd bytes = some position := by
  have same : ∀ earlier ≤ position,
      (blankLine <+: (bytes ++ more).drop earlier ↔ blankLine <+: bytes.drop earlier) := by
    intro earlier before
    rw [List.drop_append_of_le_length (by omega)]
    constructor
    · intro isPrefix
      apply List.prefix_of_prefix_length_le isPrefix (List.prefix_append _ more)
      simp only [blankLine, List.length_cons, List.length_nil, List.length_drop]
      omega
    · exact fun isPrefix => isPrefix.trans (List.prefix_append _ more)
  rw [findHeaderEnd_eq_some, findHeaderEnd_eq_some, same position (Nat.le_refl _)]
  refine and_congr_right fun _ => forall_congr' fun earlier => ?_
  exact imp_congr_right fun before => not_congr (same earlier before.le)

private theorem findHeaderEnd_early {buf more : List UInt8} {position : Nat}
    (found : findHeaderEnd (buf ++ more) = some position) (early : buf.length < position + 4) :
    findHeaderEnd buf = none := by
  cases foundHere : findHeaderEnd buf with
  | none => rfl
  | some other =>
      have size := findHeaderEnd_le foundHere
      rw [(findHeaderEnd_append size more).mpr foundHere] at found
      obtain rfl := Option.some.inj found
      omega

private theorem findHeaderEnd_missing {buf more : List UInt8}
    (missing : findHeaderEnd (buf ++ more) = none) : findHeaderEnd buf = none := by
  cases foundHere : findHeaderEnd buf with
  | none => rfl
  | some other =>
      rw [(findHeaderEnd_append (findHeaderEnd_le foundHere) more).mpr foundHere] at missing
      cases missing

/-! ## The loop over the header -/

theorem readHeader_found {buf : List UInt8} {position : Nat}
    (found : findHeaderEnd buf = some position) (reads : List SocketRead) :
    readHeader buf reads = .ok { position, buf, rest := reads } := by
  rw [readHeader, found]

theorem readHeader_large {buf : List UInt8} (missing : findHeaderEnd buf = none)
    (large : 64 * 1024 < buf.length) (reads : List SocketRead) :
    ∃ error, readHeader buf reads = .error error := by
  rw [readHeader, missing]
  simp only [if_pos large]
  exact ⟨_, rfl⟩

/-- One read further. -/
theorem readHeader_next {buf : List UInt8} {reads : List SocketRead}
    (missing : findHeaderEnd buf = none) (small : buf.length ≤ 64 * 1024) {chunk : List UInt8}
    (nonempty : chunk ≠ []) :
    readHeader buf (.data chunk :: reads) = readHeader (buf ++ chunk) reads := by
  obtain ⟨first, others, rfl⟩ := List.exists_cons_of_ne_nil nonempty
  rw [readHeader, missing]
  simp only [if_neg (Nat.not_lt.mpr small)]
  rfl

theorem readHeader_closed {buf : List UInt8} (missing : findHeaderEnd buf = none) :
    ∃ error, readHeader buf [] = .error error := by
  rw [readHeader, missing]
  simp only
  split
  · exact ⟨_, rfl⟩
  · exact ⟨_, rfl⟩

/-- No read but the one that brings the end of the header ends behind the limit. -/
def Passes (size : Nat) (cut : List (List UInt8)) (headerEnd : Nat) : Prop :=
  ∀ front, front <+: cut → size + front.flatten.length < headerEnd →
    size + front.flatten.length ≤ 64 * 1024

section Cut

variable {stream buf : List UInt8} {cut : List (List UInt8)} {position : Nat}

theorem readHeader_passes (found : findHeaderEnd stream = some position)
    (whole : buf ++ cut.flatten = stream) (nonempty : ∀ chunk ∈ cut, chunk ≠ [])
    (passes : Passes buf.length cut (position + 4)) :
    ∃ header rest, readHeader buf (readsOf cut) = .ok ⟨position, header, readsOf rest⟩ ∧
      header ++ rest.flatten = stream ∧ position + 4 ≤ header.length ∧
      ∀ chunk ∈ rest, chunk ≠ [] := by
  induction cut generalizing buf with
  | nil =>
      rw [List.flatten_nil, List.append_nil] at whole
      rw [whole]
      exact ⟨stream, [], readHeader_found found [], by simp, findHeaderEnd_le found, by simp⟩
  | cons chunk rest inductionHypothesis =>
      rw [← whole] at found
      by_cases arrived : position + 4 ≤ buf.length
      · rw [findHeaderEnd_append arrived] at found
        exact ⟨buf, chunk :: rest, readHeader_found found _, whole, arrived, nonempty⟩
      · have missing := findHeaderEnd_early found (by omega)
        have small : buf.length ≤ 64 * 1024 := by
          simpa using passes [] List.nil_prefix (by simpa using arrived)
        obtain ⟨first, others⟩ := List.forall_mem_cons.mp nonempty
        show ∃ header rest', readHeader buf (.data chunk :: readsOf rest) = _ ∧ _
        rw [readHeader_next missing small first]
        rw [whole] at found
        apply inductionHypothesis (by rwa [List.append_assoc]) others
        intro front isPrefix early
        have longer := passes (chunk :: front) (List.cons_prefix_cons.mpr ⟨rfl, isPrefix⟩)
        simp only [List.flatten_cons, List.length_append] at early longer ⊢
        omega

theorem readHeader_fails (found : findHeaderEnd stream = some position)
    (whole : buf ++ cut.flatten = stream) (nonempty : ∀ chunk ∈ cut, chunk ≠ [])
    (blocked : ¬ Passes buf.length cut (position + 4)) :
    ∃ error, readHeader buf (readsOf cut) = .error error := by
  unfold Passes at blocked
  push Not at blocked
  obtain ⟨front, isPrefix, early, behind⟩ := blocked
  induction cut generalizing buf front with
  | nil =>
      obtain rfl := List.prefix_nil.mp isPrefix
      rw [← whole] at found
      have missing := findHeaderEnd_early found (by simpa using early)
      exact readHeader_large missing (by simpa using behind) _
  | cons chunk rest inductionHypothesis =>
      have missing : findHeaderEnd buf = none := by
        rw [← whole] at found
        exact findHeaderEnd_early found (by omega)
      by_cases small : buf.length ≤ 64 * 1024
      · obtain ⟨first, others⟩ := List.forall_mem_cons.mp nonempty
        cases front with
        | nil => simp only [List.flatten_nil, List.length_nil] at behind; omega
        | cons head tail =>
            obtain ⟨rfl, tailPrefix⟩ := List.cons_prefix_cons.mp isPrefix
            show ∃ error, readHeader buf (.data head :: readsOf rest) = _
            rw [readHeader_next missing small first]
            simp only [List.flatten_cons, List.length_append] at early behind
            apply inductionHypothesis (by rwa [List.append_assoc]) others tail tailPrefix
            · rw [List.length_append]
              omega
            · rw [List.length_append]
              omega
      · exact readHeader_large missing (by omega) _

theorem readHeader_endless (missing : findHeaderEnd stream = none)
    (whole : buf ++ cut.flatten = stream) (nonempty : ∀ chunk ∈ cut, chunk ≠ []) :
    ∃ error, readHeader buf (readsOf cut) = .error error := by
  induction cut generalizing buf with
  | nil =>
      rw [← whole] at missing
      exact readHeader_closed (findHeaderEnd_missing missing)
  | cons chunk rest inductionHypothesis =>
      have missingHere : findHeaderEnd buf = none := by
        rw [← whole] at missing
        exact findHeaderEnd_missing missing
      by_cases small : buf.length ≤ 64 * 1024
      · obtain ⟨first, others⟩ := List.forall_mem_cons.mp nonempty
        show ∃ error, readHeader buf (.data chunk :: readsOf rest) = _
        rw [readHeader_next missingHere small first]
        exact inductionHypothesis (by rwa [List.append_assoc]) others
      · exact readHeader_large missingHere (by omega) _

/-! ## The loop over the body -/

theorem readBody_enough {bodyEnd : Nat} (enough : bodyEnd ≤ buf.length) (reads : List SocketRead) :
    readBody buf bodyEnd reads = .ok buf := by
  rw [readBody, if_pos enough]

/-- One read further. -/
theorem readBody_next {bodyEnd : Nat} (more : buf.length < bodyEnd) {chunk : List UInt8}
    (nonempty : chunk ≠ []) (reads : List SocketRead) :
    readBody buf bodyEnd (.data chunk :: reads) = readBody (buf ++ chunk) bodyEnd reads := by
  obtain ⟨first, others, rfl⟩ := List.exists_cons_of_ne_nil nonempty
  rw [readBody, if_neg (Nat.not_le.mpr more)]
  rfl

theorem readBody_complete {bodyEnd : Nat} (whole : buf ++ cut.flatten = stream)
    (nonempty : ∀ chunk ∈ cut, chunk ≠ []) (complete : bodyEnd ≤ stream.length) :
    ∃ body, readBody buf bodyEnd (readsOf cut) = .ok body ∧ bodyEnd ≤ body.length ∧
      body <+: stream := by
  induction cut generalizing buf with
  | nil =>
      rw [List.flatten_nil, List.append_nil] at whole
      rw [whole]
      exact ⟨stream, readBody_enough complete _, complete, List.prefix_refl _⟩
  | cons chunk rest inductionHypothesis =>
      by_cases enough : bodyEnd ≤ buf.length
      · exact ⟨buf, readBody_enough enough _, enough, whole ▸ List.prefix_append _ _⟩
      · obtain ⟨first, others⟩ := List.forall_mem_cons.mp nonempty
        show ∃ body, readBody buf bodyEnd (.data chunk :: readsOf rest) = _ ∧ _
        rw [readBody_next (by omega) first]
        exact inductionHypothesis (by rwa [List.append_assoc]) others

theorem readBody_incomplete {bodyEnd : Nat} (whole : buf ++ cut.flatten = stream)
    (nonempty : ∀ chunk ∈ cut, chunk ≠ []) (incomplete : stream.length < bodyEnd) :
    ∃ error, readBody buf bodyEnd (readsOf cut) = .error error := by
  induction cut generalizing buf with
  | nil =>
      rw [List.flatten_nil, List.append_nil] at whole
      rw [whole, readBody, if_neg (by omega)]
      exact ⟨_, rfl⟩
  | cons chunk rest inductionHypothesis =>
      have size := congrArg List.length whole
      rw [List.length_append] at size
      obtain ⟨first, others⟩ := List.forall_mem_cons.mp nonempty
      show ∃ error, readBody buf bodyEnd (.data chunk :: readsOf rest) = _
      rw [readBody_next (by omega) first]
      exact inductionHypothesis (by rwa [List.append_assoc]) others

/-! ## The request -/

private theorem IsCut.whole (isCut : IsCut stream cut) : [] ++ cut.flatten = stream := isCut.1

/-- What is read of a stream if the limit on the header does not stop it. -/
theorem readRequest_ok (isCut : IsCut stream cut) (found : findHeaderEnd stream = some position)
    {head : RequestHead} (parsed : parseHead (fromUtf8Lossy (stream.take position)) = .ok head)
    (complete : position + 4 + head.contentLength ≤ stream.length)
    (passes : Passes 0 cut (position + 4)) (process : UInt32) (sequence : UInt64) :
    readRequest process sequence (readsOf cut) =
      .ok (head.request ((stream.take (position + 4 + head.contentLength)).drop (position + 4))
        process sequence) := by
  obtain ⟨header, rest, readHead, whole, arrived, nonempty⟩ :=
    readHeader_passes found isCut.whole (fun chunk member => (isCut.2 chunk member).1) passes
  have sameText : header.take position = stream.take position := by
    rw [← whole, List.take_append_of_le_length (by omega)]
  obtain ⟨body, readRest, enough, bodyWhole⟩ := readBody_complete whole nonempty complete
  have sameBody : body.take (position + 4 + head.contentLength) =
      stream.take (position + 4 + head.contentLength) := by
    obtain ⟨more, rfl⟩ := bodyWhole
    rw [List.take_append_of_le_length enough]
  unfold readRequest
  rw [readHead]
  simp only [bind, Except.bind, sameText, parsed, readRest, sameBody]
  rfl

/-- What is not acceptable is rejected, however it is cut. -/
theorem readRequest_rejects (isCut : IsCut stream cut) (process : UInt32) (sequence : UInt64)
    (reason : ¬ Acceptable stream ∨ ∃ position, findHeaderEnd stream = some position ∧
      ¬ Passes 0 cut (position + 4)) :
    ∃ error, readRequest process sequence (readsOf cut) = .error error := by
  have nonempty : ∀ chunk ∈ cut, chunk ≠ [] := fun chunk member => (isCut.2 chunk member).1
  unfold readRequest
  cases found : findHeaderEnd stream with
  | none =>
      obtain ⟨error, fails⟩ := readHeader_endless found isCut.whole nonempty
      rw [fails]
      exact ⟨error, rfl⟩
  | some position =>
      by_cases passes : Passes 0 cut (position + 4)
      · have unacceptable : ¬ Acceptable stream := by
          rcases reason with unacceptable | ⟨other, foundOther, blocked⟩
          · exact unacceptable
          · rw [found] at foundOther
            cases foundOther
            exact absurd passes blocked
        obtain ⟨header, rest, readHead, whole, arrived, restNonempty⟩ :=
          readHeader_passes found isCut.whole nonempty passes
        have sameText : header.take position = stream.take position := by
          rw [← whole, List.take_append_of_le_length (by omega)]
        rw [readHead]
        simp only [bind, Except.bind, sameText]
        cases parsed : parseHead (fromUtf8Lossy (stream.take position)) with
        | error error => exact ⟨error, rfl⟩
        | ok head =>
            have incomplete : stream.length < position + 4 + head.contentLength := by
              by_contra complete
              exact unacceptable ⟨position, head, found, parsed, by omega⟩
            obtain ⟨error, fails⟩ := readBody_incomplete whole restNonempty incomplete
            simp only [fails]
            exact ⟨error, rfl⟩
      · obtain ⟨error, fails⟩ := readHeader_fails found isCut.whole nonempty passes
        rw [fails]
        exact ⟨error, rfl⟩

end Cut

/-! ## Cuts -/

/-- Reads of one byte each stop behind the limit. -/
private theorem singles_blocked {stream : List UInt8} {headerEnd : Nat}
    (long : 64 * 1024 + 1 < headerEnd) (size : headerEnd ≤ stream.length) :
    ¬ Passes 0 (stream.map fun byte => [byte]) headerEnd := by
  intro passes
  have isPrefix := (List.take_prefix (64 * 1024 + 1) stream).map fun byte => [byte]
  have bound := passes _ isPrefix
  have flat : ((stream.take (64 * 1024 + 1)).map fun byte => [byte]).flatten.length =
      64 * 1024 + 1 := by
    rw [← List.flatMap_def, List.flatMap_singleton', List.length_take]
    omega
  rw [flat] at bound
  omega

private theorem singles_isCut (stream : List UInt8) :
    IsCut stream (stream.map fun byte => [byte]) := by
  refine ⟨by rw [← List.flatMap_def, List.flatMap_singleton'], fun chunk member => ?_⟩
  obtain ⟨byte, _, rfl⟩ := List.mem_map.mp member
  simp

/-- Reads of 4096 bytes each. -/
private theorem exists_blocks (stream : List UInt8) :
    ∃ cut, IsCut stream cut ∧
      ∀ front, front <+: cut → 4096 ∣ front.flatten.length ∨ front.flatten = stream := by
  by_cases short : stream.length ≤ 4096
  · by_cases empty : stream = []
    · refine ⟨[], ⟨by simp [empty], by simp⟩, fun front isPrefix => .inr ?_⟩
      rw [List.prefix_nil.mp isPrefix, empty]
      rfl
    · refine ⟨[stream], ⟨by simp, by simpa using ⟨empty, short⟩⟩, fun front isPrefix => ?_⟩
      cases front with
      | nil => exact .inl (by simp)
      | cons head tail =>
          obtain ⟨rfl, tailPrefix⟩ := List.cons_prefix_cons.mp isPrefix
          rw [List.prefix_nil.mp tailPrefix]
          exact .inr (by simp)
  · obtain ⟨cut, isCut, boundaries⟩ := exists_blocks (stream.drop 4096)
    have first : (stream.take 4096).length = 4096 := by
      rw [List.length_take]
      omega
    refine ⟨stream.take 4096 :: cut, ⟨?_, ?_⟩, fun front isPrefix => ?_⟩
    · rw [List.flatten_cons, isCut.1, List.take_append_drop]
    · apply List.forall_mem_cons.mpr ⟨⟨?_, by omega⟩, isCut.2⟩
      intro empty
      rw [empty] at first
      cases first
    · cases front with
      | nil => exact .inl (by simp)
      | cons head tail =>
          obtain ⟨rfl, tailPrefix⟩ := List.cons_prefix_cons.mp isPrefix
          rcases boundaries tail tailPrefix with divides | all
          · left
            rw [List.flatten_cons, List.length_append, first]
            omega
          · right
            rw [List.flatten_cons, all, List.take_append_drop]
termination_by stream.length
decreasing_by
  rw [List.length_drop]
  omega

/-- Some read ends within the 4096 bytes behind a point. -/
private theorem exists_boundary {cut : List (List UInt8)}
    (small : ∀ chunk ∈ cut, chunk.length ≤ 4096) {point : Nat}
    (size : point < cut.flatten.length) :
    ∃ front, front <+: cut ∧ point < front.flatten.length ∧
      front.flatten.length ≤ point + 4096 := by
  induction cut generalizing point with
  | nil => simp at size
  | cons chunk rest inductionHypothesis =>
      obtain ⟨first, others⟩ := List.forall_mem_cons.mp small
      by_cases here : point < chunk.length
      · exact ⟨[chunk], by simp, by simpa using here, by simp; omega⟩
      · rw [List.flatten_cons, List.length_append] at size
        have remaining : point - chunk.length < rest.flatten.length := by omega
        obtain ⟨front, isPrefix, behind, near⟩ := inductionHypothesis others remaining
        refine ⟨chunk :: front, List.cons_prefix_cons.mpr ⟨rfl, isPrefix⟩, ?_, ?_⟩
        · rw [List.flatten_cons, List.length_append]
          omega
        · rw [List.flatten_cons, List.length_append]
          omega

/-! ## Independence -/

/-- Two requests of one header and one body. -/
private theorem request_agrees (head : RequestHead) (body : List UInt8) (process : UInt32)
    (first second : UInt64) :
    (head.request body process first).Agrees (head.request body process second) where
  method := rfl
  path := rfl
  body := rfl
  headers := rfl
  requestId := by
    intro own
    unfold ParsedRequest.ownId at own
    unfold RequestHead.request requestIdOf at *
    simp only at own ⊢
    cases header : head.headers "x-request-id" with
    | none => simp [header] at own
    | some value =>
        rw [header] at own
        by_cases valid : validRequestId value = true
        · simp only [dif_pos valid]
        · simp [valid] at own

/-- A stream that is acceptable but for the length of its header is read or not by its cut. -/
private theorem cut_matters {stream : List UInt8} (acceptable : Acceptable stream)
    (long : LongHeader stream) : ¬ CutIndependent stream := by
  intro independent
  obtain ⟨position, head, found, parsed, complete⟩ := acceptable
  obtain ⟨other, foundOther, behind, near⟩ := long
  rw [found] at foundOther
  cases foundOther
  obtain ⟨blocks, isBlocks, boundaries⟩ := exists_blocks stream
  have size := findHeaderEnd_le found
  have passes : Passes 0 blocks (position + 4) := by
    intro front isPrefix early
    rcases boundaries front isPrefix with divides | all
    · omega
    · rw [all] at early
      omega
  have same := independent 0 0 0 _ _ isBlocks (singles_isCut stream)
  obtain ⟨error, fails⟩ := readRequest_rejects (singles_isCut stream) 0 0
    (.inr ⟨position, found, singles_blocked behind size⟩)
  rw [readRequest_ok isBlocks found parsed complete passes 0 0, fails] at same
  exact same

/-- Whether and how a request is read does not depend on where the network has cut the stream,
if and only if the stream is not acceptable in any case or its header does not end between one
byte and one read behind the limit. -/
theorem cutIndependent_iff (stream : List UInt8) :
    CutIndependent stream ↔ ¬ (Acceptable stream ∧ LongHeader stream) := by
  constructor
  · intro independent bad
    exact cut_matters bad.1 bad.2 independent
  · intro notBad process firstSequence secondSequence first second isFirst isSecond
    by_cases acceptable : Acceptable stream
    · obtain ⟨position, head, found, parsed, complete⟩ := acceptable
      by_cases short : position + 4 ≤ 64 * 1024 + 1
      · have passes : ∀ cut, Passes 0 cut (position + 4) := by
          intro cut front _ early
          omega
        rw [readRequest_ok isFirst found parsed complete (passes _),
          readRequest_ok isSecond found parsed complete (passes _)]
        exact request_agrees head _ process firstSequence secondSequence
      · have far : 64 * 1024 + 4096 < position + 4 := by
          by_contra near
          exact notBad ⟨⟨position, head, found, parsed, complete⟩,
            position, found, by omega, by omega⟩
        have size := findHeaderEnd_le found
        have blocked : ∀ cut, IsCut stream cut → ¬ Passes 0 cut (position + 4) := by
          intro cut isCut passes
          have inside : 64 * 1024 < cut.flatten.length := by
            rw [isCut.1]
            omega
          obtain ⟨front, isPrefix, behind, near⟩ :=
            exists_boundary (fun chunk member => (isCut.2 chunk member).2) inside
          have bound := passes front isPrefix (by omega)
          omega
        obtain ⟨firstError, firstFails⟩ := readRequest_rejects isFirst process firstSequence
          (.inr ⟨position, found, blocked first isFirst⟩)
        obtain ⟨secondError, secondFails⟩ := readRequest_rejects isSecond process secondSequence
          (.inr ⟨position, found, blocked second isSecond⟩)
        rw [firstFails, secondFails]
        trivial
    · obtain ⟨firstError, firstFails⟩ :=
        readRequest_rejects isFirst process firstSequence (.inl acceptable)
      obtain ⟨secondError, secondFails⟩ :=
        readRequest_rejects isSecond process secondSequence (.inl acceptable)
      rw [firstFails, secondFails]
      trivial

/-! ## A long request -/

/-- The request line of a path of so many letters. -/
def longGet (letters : Nat) : String :=
  "GET /" ++ String.ofList (List.replicate letters 'a') ++ " HTTP/1.1"

private theorem utf8Bytes_letters (letters : Nat) :
    utf8Bytes (String.ofList (List.replicate letters 'a')) = List.replicate letters 97 := by
  rw [utf8Bytes_eq_flatMap, String.toList_ofList]
  induction letters with
  | zero => rfl
  | succ letters inductionHypothesis =>
      rw [List.replicate_succ, List.flatMap_cons, inductionHypothesis]
      rfl

private theorem length_longGet (letters : Nat) :
    (utf8Bytes (longGet letters)).length = letters + 14 := by
  have start : (utf8Bytes "GET /").length = 5 := by decide +kernel
  have tail : (utf8Bytes " HTTP/1.1").length = 9 := by decide +kernel
  simp only [longGet, utf8Bytes_append, utf8Bytes_letters, List.length_append,
    List.length_replicate, start, tail]
  omega

/-- A blank line behind bytes without a carriage return. -/
private theorem findHeaderEnd_blankLine {front : List UInt8} (noReturn : 13 ∉ front) :
    findHeaderEnd (front ++ blankLine) = some front.length := by
  induction front with
  | nil => rfl
  | cons byte rest inductionHypothesis =>
      simp only [List.mem_cons, not_or] at noReturn
      have notHere : ¬ blankLine <+: byte :: (rest ++ blankLine) := by
        intro isPrefix
        exact noReturn.1 (List.cons_prefix_cons.mp isPrefix).1
      rw [List.cons_append, findHeaderEnd, if_neg notHere, inductionHypothesis noReturn.2]
      rfl

private theorem longGet_noReturn (letters : Nat) : 13 ∉ utf8Bytes (longGet letters) := by
  have start : 13 ∉ utf8Bytes "GET /" := by decide +kernel
  have tail : 13 ∉ utf8Bytes " HTTP/1.1" := by decide +kernel
  simp only [longGet, utf8Bytes_append, utf8Bytes_letters, List.mem_append, not_or]
  refine ⟨⟨start, fun member => ?_⟩, tail⟩
  exact absurd (List.eq_of_mem_replicate member) (by decide)

/-- The characters of the request line. -/
private theorem mem_longGet {letters : Nat} {c : Char} (member : c ∈ (longGet letters).toList) :
    c ∈ "GET / HTTP/1.1a".toList := by
  simp only [longGet, String.toList_append, String.toList_ofList, List.mem_append] at member
  rcases member with (inStart | inPath) | inTail
  · exact List.Sublist.subset (by decide +kernel) inStart
  · rw [List.eq_of_mem_replicate inPath]
    decide +kernel
  · exact List.Sublist.subset (by decide +kernel) inTail

private theorem parseHead_longGet (letters : Nat) :
    ∃ head, parseHead (longGet letters) = .ok head ∧ head.contentLength = 0 := by
  have noNewline : '\n' ∉ (longGet letters).toList :=
    fun member => absurd (mem_longGet member) (by decide +kernel)
  have noColon : ':' ∉ (longGet letters).toList :=
    fun member => absurd (mem_longGet member) (by decide +kernel)
  have starts : (longGet letters).toList = "GET".toList ++
      ' ' :: ("/" ++ String.ofList (List.replicate letters 'a') ++ " HTTP/1.1").toList := by
    simp [longGet]
  have nonempty : longGet letters ≠ "" := by
    intro empty
    rw [empty] at starts
    simp at starts
  have single := lines_of_not_mem noNewline nonempty
  have noLength : parseContentLength (longGet letters) = .ok 0 := by
    simp [parseContentLength, single, contentLengthOf, splitOnce, noColon]
  have method : (splitWhitespace (longGet letters)).head? = some "GET" := by
    have noBlank : ∀ c ∈ "GET".toList, isWhitespace c = false := by
      simp [isWhitespace]
    have blank : isWhitespace ' ' = true := by decide +kernel
    rw [splitWhitespace, starts, List.splitOnP_append_cons_of_forall_mem noBlank ' ' blank]
    simp
  unfold parseHead
  simp only [single, List.head?_cons, Option.getD_some, method, noLength]
  exact ⟨_, rfl, rfl⟩

private theorem longGet_acceptable (letters : Nat) :
    Acceptable (utf8Bytes (longGet letters) ++ blankLine) := by
  obtain ⟨head, parsed, noBody⟩ := parseHead_longGet letters
  refine ⟨_, head, findHeaderEnd_blankLine (longGet_noReturn letters), ?_, ?_⟩
  · rw [List.take_left, fromUtf8Lossy_utf8Bytes]
    exact parsed
  · rw [noBody, List.length_append]
    exact Nat.le_refl _

/-- A request line of 65534 bytes: it is read if it comes with reads of 4096 bytes, and
rejected if the first three bytes of the blank line come one by one. -/
theorem longGet_cutDependent : ¬ CutIndependent (utf8Bytes (longGet 65520) ++ blankLine) := by
  apply cut_matters (longGet_acceptable 65520)
  refine ⟨_, findHeaderEnd_blankLine (longGet_noReturn 65520), ?_, ?_⟩
  · rw [length_longGet]
    decide
  · rw [length_longGet]
    decide

end TriAI.Http
