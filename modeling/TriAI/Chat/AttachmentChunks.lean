import TriAI.Coding.ToolOutput

/-!
Contract: the chunks of the attachments of a chat request (`attachments.rs`).

Owns: what an accepted attachment has passed; the loop that cuts a text, over the positions
of its bytes; and that the chunks of an attachment are its text, cut between characters.

Does not own: the system message.
-/

set_option autoImplicit false

namespace TriAI.Chat

open TriAI.Coding (CutsAt splitBytes_append splitBytes_prefix splitBytes_size_le
  utf8ByteSize_ofList_append utf8ByteSize_ofList_cons)
open TriAI.Library

/-! ## The loop over byte positions -/

theorem cutsAt_iff {text : String} {position : Nat} :
    CutsAt text position ↔
      (String.ofList (splitBytes position text.toList).1).utf8ByteSize = position := by
  constructor
  · intro cuts
    obtain ⟨front, ⟨rest, whole⟩, ends⟩ := cuts
    rw [← ends, ← whole, ← front.ofList_toList, String.toList_ofList, splitBytes_append]
  · intro ends
    exact ⟨_, by rw [String.toList_ofList]; exact splitBytes_prefix _ _, ends⟩

instance (text : String) (position : Nat) : Decidable (CutsAt text position) :=
  decidable_of_iff _ cutsAt_iff.symm

/-- The inner loop of `chunk_attachment`: the end goes back to a boundary of a character. -/
def backToBoundary (text : String) : Nat → Nat
  | 0 => 0
  | stop + 1 => if CutsAt text (stop + 1) then stop + 1 else backToBoundary text stop

/-- `&text[start..stop]`, if it does not panic. -/
def slice (text : String) (start stop : Nat) : Option String :=
  if CutsAt text start ∧ CutsAt text stop ∧ start ≤ stop then
    let before := (splitBytes start text.toList).1
    some (String.ofList ((splitBytes stop text.toList).1.drop before.length))
  else none

/-- The outer loop of `chunk_attachment` from a start on, if it ends within the rounds. -/
def cutFrom (text : String) : Nat → Nat → Option (List String)
  | 0, start => if start < text.utf8ByteSize then none else some []
  | rounds + 1, start =>
      if start < text.utf8ByteSize then do
        let stop := backToBoundary text (min (start + chunkBytes) text.utf8ByteSize)
        let chunk ← slice text start stop
        let chunks ← cutFrom text rounds stop
        return chunk :: chunks
      else some []

/-! ## Cutting characters -/

theorem splitBytes_whole (limit : Nat) (chars : List Char) :
    (splitBytes limit chars).1 ++ (splitBytes limit chars).2 = chars := by
  induction chars generalizing limit with
  | nil => rfl
  | cons c rest inductionHypothesis =>
      unfold splitBytes
      split
      · exact congrArg (c :: ·) (inductionHypothesis _)
      · rfl

/-- A cut behind a front cuts what is behind it. -/
theorem splitBytes_add (front rest : List Char) (limit : Nat) :
    (splitBytes ((String.ofList front).utf8ByteSize + limit) (front ++ rest)).1 =
      front ++ (splitBytes limit rest).1 := by
  induction front with
  | nil =>
      rw [show (String.ofList []).utf8ByteSize = 0 from rfl, Nat.zero_add]
      rfl
  | cons c front inductionHypothesis =>
      have fits : c.utf8Size ≤ c.utf8Size + (String.ofList front).utf8ByteSize + limit := by omega
      have left : c.utf8Size + (String.ofList front).utf8ByteSize + limit - c.utf8Size =
          (String.ofList front).utf8ByteSize + limit := by omega
      rw [utf8ByteSize_ofList_cons, List.cons_append, splitBytes, if_pos fits, left]
      exact congrArg (c :: ·) inductionHypothesis

/-- A limit that the whole keeps cuts nothing off. -/
theorem splitBytes_of_le {limit : Nat} {chars : List Char}
    (small : (String.ofList chars).utf8ByteSize ≤ limit) : (splitBytes limit chars).1 = chars := by
  have whole := splitBytes_add chars [] (limit - (String.ofList chars).utf8ByteSize)
  rw [Nat.add_sub_cancel' small, List.append_nil] at whole
  rw [whole]
  exact List.append_nil chars

/-- Where no front ends at a limit, the limit before it cuts the same. -/
theorem splitBytes_succ {limit : Nat} {chars : List Char}
    (inside : (String.ofList (splitBytes (limit + 1) chars).1).utf8ByteSize ≠ limit + 1) :
    (splitBytes (limit + 1) chars).1 = (splitBytes limit chars).1 := by
  induction chars generalizing limit with
  | nil => rfl
  | cons c rest inductionHypothesis =>
      have positive := c.utf8Size_pos
      unfold splitBytes at inside ⊢
      by_cases fits : c.utf8Size ≤ limit
      · have fitsNext : c.utf8Size ≤ limit + 1 := by omega
        have shift : limit + 1 - c.utf8Size = limit - c.utf8Size + 1 := by omega
        rw [if_pos fitsNext, shift] at inside
        rw [if_pos fitsNext, if_pos fits, shift]
        apply congrArg (c :: ·)
        apply inductionHypothesis
        intro ends
        apply inside
        rw [utf8ByteSize_ofList_cons, ends]
        omega
      · by_cases fitsNext : c.utf8Size ≤ limit + 1
        · exfalso
          have exact : limit + 1 - c.utf8Size = 0 := by omega
          have nothing := splitBytes_size_le 0 rest
          rw [if_pos fitsNext, exact] at inside
          apply inside
          rw [utf8ByteSize_ofList_cons]
          omega
        · rw [if_neg fitsNext, if_neg fits]

/-- Going back ends behind the longest front within the limit. -/
theorem backToBoundary_eq (text : String) (limit : Nat) :
    backToBoundary text limit =
      (String.ofList (splitBytes limit text.toList).1).utf8ByteSize := by
  induction limit with
  | zero =>
      have nothing := splitBytes_size_le 0 text.toList
      unfold backToBoundary
      omega
  | succ limit inductionHypothesis =>
      unfold backToBoundary
      split
      · rename_i cuts
        exact (cutsAt_iff.mp cuts).symm
      · rename_i inside
        rw [inductionHypothesis, splitBytes_succ (fun ends => inside (cutsAt_iff.mpr ends))]

/-- A round cuts the longest front of the rest that a chunk keeps. -/
theorem stop_eq (front rest : List Char) :
    backToBoundary (String.ofList (front ++ rest))
        (min ((String.ofList front).utf8ByteSize + chunkBytes)
          (String.ofList (front ++ rest)).utf8ByteSize) =
      (String.ofList (front ++ (splitBytes chunkBytes rest).1)).utf8ByteSize := by
  rw [backToBoundary_eq, String.toList_ofList, ← splitBytes_add front rest chunkBytes]
  rcases Nat.le_total ((String.ofList front).utf8ByteSize + chunkBytes)
    (String.ofList (front ++ rest)).utf8ByteSize with within | past
  · rw [Nat.min_eq_left within]
  · rw [Nat.min_eq_right past, splitBytes_of_le (Nat.le_refl _), splitBytes_of_le past]

theorem slice_append (front middle rest : List Char) :
    slice (String.ofList (front ++ (middle ++ rest))) (String.ofList front).utf8ByteSize
        (String.ofList (front ++ middle)).utf8ByteSize = some (String.ofList middle) := by
  have starts : CutsAt (String.ofList (front ++ (middle ++ rest)))
      (String.ofList front).utf8ByteSize :=
    ⟨String.ofList front, by simp, rfl⟩
  have stops : CutsAt (String.ofList (front ++ (middle ++ rest)))
      (String.ofList (front ++ middle)).utf8ByteSize :=
    ⟨String.ofList (front ++ middle), by simp [← List.append_assoc], rfl⟩
  have ordered : (String.ofList front).utf8ByteSize ≤
      (String.ofList (front ++ middle)).utf8ByteSize := by
    rw [utf8ByteSize_ofList_append]
    exact Nat.le_add_right _ _
  unfold slice
  simp only [if_pos (And.intro starts (And.intro stops ordered)), String.toList_ofList,
    splitBytes_append]
  rw [← List.append_assoc, splitBytes_append, List.drop_left]

/-- The first character of what is left fits a chunk. -/
theorem splitBytes_cons_ne_nil (c : Char) (rest : List Char) :
    (splitBytes chunkBytes (c :: rest)).1 ≠ [] := by
  have small := c.utf8Size_le_four
  have fits : c.utf8Size ≤ chunkBytes := Nat.le_trans small (by decide)
  unfold splitBytes
  rw [if_pos fits]
  exact List.cons_ne_nil _ _

/-- A round takes a character. -/
theorem length_splitBytes_lt (c : Char) (rest : List Char) :
    (splitBytes chunkBytes (c :: rest)).2.length < (c :: rest).length := by
  have whole := congrArg List.length (splitBytes_whole chunkBytes (c :: rest))
  have taken := List.length_pos_iff.mpr (splitBytes_cons_ne_nil c rest)
  rw [List.length_append] at whole
  omega

theorem chunkTexts_cons (rounds : Nat) (c : Char) (rest : List Char) :
    chunkTexts (rounds + 1) (c :: rest) =
      String.ofList (splitBytes chunkBytes (c :: rest)).1 ::
        chunkTexts rounds (splitBytes chunkBytes (c :: rest)).2 :=
  rfl

/-- A round of the cut. -/
theorem chunkTexts_of_ne_nil (rounds : Nat) {chars : List Char} (left : chars ≠ []) :
    chunkTexts (rounds + 1) chars =
      String.ofList (splitBytes chunkBytes chars).1 ::
        chunkTexts rounds (splitBytes chunkBytes chars).2 := by
  cases chars with
  | nil => exact absurd rfl left
  | cons c rest => rfl

/-- The loop over positions ends, and cuts the characters as `chunkTexts` does. -/
theorem cutFrom_eq (front rest : List Char) {rounds : Nat} (enough : rest.length ≤ rounds) :
    cutFrom (String.ofList (front ++ rest)) rounds (String.ofList front).utf8ByteSize =
      some (chunkTexts rounds rest) := by
  induction rounds generalizing front rest with
  | zero =>
      have empty : rest = [] := List.eq_nil_of_length_eq_zero (Nat.le_zero.mp enough)
      rw [empty, List.append_nil]
      simp [cutFrom, chunkTexts]
  | succ rounds inductionHypothesis =>
      cases rest with
      | nil =>
          rw [List.append_nil]
          simp [cutFrom, chunkTexts]
      | cons c rest =>
          have positive := c.utf8Size_pos
          have further : (String.ofList front).utf8ByteSize <
              (String.ofList (front ++ c :: rest)).utf8ByteSize := by
            rw [utf8ByteSize_ofList_append, utf8ByteSize_ofList_cons]
            omega
          have shorter := length_splitBytes_lt c rest
          have later := inductionHypothesis (front ++ (splitBytes chunkBytes (c :: rest)).1)
            (splitBytes chunkBytes (c :: rest)).2 (by omega)
          have cut := slice_append front (splitBytes chunkBytes (c :: rest)).1
            (splitBytes chunkBytes (c :: rest)).2
          rw [List.append_assoc] at later
          rw [splitBytes_whole] at cut later
          unfold cutFrom
          simp only [if_pos further, stop_eq, cut, later]
          rfl

/-! ## The chunks of a text -/

theorem toList_join_chunkTexts (rounds : Nat) (chars : List Char)
    (enough : chars.length ≤ rounds) :
    (String.join (chunkTexts rounds chars)).toList = chars := by
  induction rounds generalizing chars with
  | zero =>
      have empty : chars = [] := List.eq_nil_of_length_eq_zero (Nat.le_zero.mp enough)
      rw [empty]
      rfl
  | succ rounds inductionHypothesis =>
      cases chars with
      | nil => rfl
      | cons c rest =>
          have shorter := length_splitBytes_lt c rest
          rw [chunkTexts_cons, String.join_cons, String.toList_append, String.toList_ofList,
            inductionHypothesis _ (by omega), splitBytes_whole]

/-- A chunk is not empty and keeps the limit. -/
theorem chunkTexts_bounded (rounds : Nat) (chars : List Char) :
    ∀ chunk ∈ chunkTexts rounds chars, chunk ≠ "" ∧ chunk.utf8ByteSize ≤ chunkBytes := by
  induction rounds generalizing chars with
  | zero => exact List.forall_mem_nil _
  | succ rounds inductionHypothesis =>
      cases chars with
      | nil => exact List.forall_mem_nil _
      | cons c rest =>
          rw [chunkTexts_cons, List.forall_mem_cons]
          refine ⟨⟨?_, splitBytes_size_le _ _⟩, inductionHypothesis _⟩
          intro empty
          apply splitBytes_cons_ne_nil c rest
          rw [← String.toList_ofList (l := (splitBytes chunkBytes (c :: rest)).1), empty]
          rfl

/-! ## What is accepted -/

/-- The attachments of a request. -/
def attachmentValues (raw : Json) : List Json :=
  ((raw.get "attachments").bind Json.asArray).getD []

/-- The ID and the text of the attachment at a position of a request. -/
def submitted (position : Nat) (value : Json) : String × Option String :=
  ((((value.get "id").bind Json.asStr).filter (· ≠ "")).getD s!"attachment_{position}",
    ((value.get "content").or (value.get "text")).bind Json.asStr)

/-- The name and the media type of an attachment of a request. -/
def described (value : Json) : Option String × Option String :=
  ((value.get "name").bind Json.asStr,
    ((value.get "media_type").bind Json.asStr).filter (· ≠ ""))

/-- What the loop has checked of an attachment. -/
structure Attachment.Checked (attachment : Attachment) : Prop where
  validName : validateName attachment.name = .ok ()
  validId : validateId attachment.id = .ok ()
  validType : validateType attachment.name attachment.mediaType = .ok ()
  validText : validateText attachment.text = .ok ()

theorem requiredString_eq_ok {object : Fields} {key text : String}
    (required : requiredString object key = .ok text) :
    (object.lookup key).bind Json.asStr = some text := by
  unfold requiredString at required
  split at required
  · rename_i value isText
    split at required
    · cases required
    · rw [isText, Except.ok.inj required]
  · cases required

theorem readAttachment_eq_ok {before : List Attachment} {position : Nat} {value : Json}
    {attachment : Attachment} (reads : readAttachment before position value = .ok attachment) :
    attachment.Checked ∧ attachment.id ∉ before.map Attachment.id ∧
      submitted position value = (attachment.id, some attachment.text) ∧
      described value = (some attachment.name, attachment.mediaType) := by
  unfold readAttachment at reads
  obtain ⟨object, isObject, reads⟩ := bind_eq_ok.mp reads
  obtain ⟨name, isName, reads⟩ := bind_eq_ok.mp reads
  obtain ⟨_, validName, reads⟩ := bind_eq_ok.mp reads
  obtain ⟨_, validId, reads⟩ := bind_eq_ok.mp reads
  split at reads
  · cases reads
  · rename_i fresh
    obtain ⟨_, validType, reads⟩ := bind_eq_ok.mp reads
    obtain ⟨text, isText, reads⟩ := bind_eq_ok.mp reads
    obtain ⟨_, validText, reads⟩ := bind_eq_ok.mp reads
    dsimp only at reads
    split at reads
    · cases reads
    · split at reads
      · cases reads
      · obtain rfl := Except.ok.inj reads
        have sameObject := okOr_eq_ok.mp isObject
        have sameName := requiredString_eq_ok isName
        have sameText := okOr_eq_ok.mp isText
        refine ⟨⟨validName, validId, validType, validText⟩, fresh, ?_, ?_⟩
        · simp [submitted, Json.get, sameObject, ← sameText]
        · simp [described, Json.get, sameObject, sameName]

/-- What passes every check is read. -/
theorem readAttachment_of_checked {before : List Attachment} {position : Nat} {object : Fields}
    {attachment : Attachment} (isName : requiredString object "name" = .ok attachment.name)
    (isId : (((object.lookup "id").bind Json.asStr).filter (· ≠ "")).getD
      s!"attachment_{position}" = attachment.id)
    (isType : ((object.lookup "media_type").bind Json.asStr).filter (· ≠ "") =
      attachment.mediaType)
    (isText : ((object.lookup "content").or (object.lookup "text")).bind Json.asStr =
      some attachment.text)
    (checked : attachment.Checked) (fresh : attachment.id ∉ before.map Attachment.id)
    (small : attachment.text.utf8ByteSize ≤ maxAttachmentBytes)
    (fits : (before.map fun other => other.text.utf8ByteSize).sum +
      attachment.text.utf8ByteSize ≤ maxTotalAttachmentBytes) :
    readAttachment before position (.object object) = .ok attachment := by
  unfold readAttachment
  have goesOn : ∀ {α : Type} (value : α) (rest : α → Except String Attachment),
      (Except.ok value >>= rest) = rest value := fun _ _ => rfl
  simp only [Json.asObject, okOr, goesOn, isName, isId, isType, isText, checked.validName,
    checked.validId, checked.validType, checked.validText, if_neg fresh,
    if_neg (Nat.not_lt.mpr small), if_neg (Nat.not_lt.mpr fits), gt_iff_lt]
  rfl

/-- The loop adds an attachment for each value, with an ID of its own. -/
theorem readAttachments_eq_ok {before attachments : List Attachment} {values : List Json}
    (reads : readAttachments before values = .ok attachments)
    (checked : ∀ attachment ∈ before, attachment.Checked)
    (distinct : (before.map Attachment.id).Nodup) :
    (∀ attachment ∈ attachments, attachment.Checked) ∧
      (attachments.map Attachment.id).Nodup ∧
      attachments.map (fun attachment => (attachment.id, some attachment.text)) =
        before.map (fun attachment => (attachment.id, some attachment.text)) ++
          values.mapIdx (fun position => submitted (before.length + position)) ∧
      attachments.map (fun attachment => (some attachment.name, attachment.mediaType)) =
        before.map (fun attachment => (some attachment.name, attachment.mediaType)) ++
          values.map described := by
  induction values generalizing before with
  | nil =>
      obtain rfl := Except.ok.inj reads
      exact ⟨checked, distinct, by simp, by simp⟩
  | cons value rest inductionHypothesis =>
      unfold readAttachments at reads
      obtain ⟨attachment, readsFirst, reads⟩ := bind_eq_ok.mp reads
      obtain ⟨checkedFirst, fresh, isSubmitted, isDescribed⟩ := readAttachment_eq_ok readsFirst
      have checkedNext : ∀ other ∈ before ++ [attachment], other.Checked := by
        rw [List.forall_mem_append, List.forall_mem_singleton]
        exact ⟨checked, checkedFirst⟩
      have distinctNext : ((before ++ [attachment]).map Attachment.id).Nodup := by
        rw [List.map_append, List.map_singleton]
        exact List.nodup_append.mpr
          ⟨distinct, List.nodup_singleton _, by simpa using fresh⟩
      have later := inductionHypothesis reads checkedNext distinctNext
      refine ⟨later.1, later.2.1, ?_, ?_⟩
      · rw [later.2.2.1, List.mapIdx_cons, Nat.add_zero, isSubmitted, List.map_append,
          List.map_singleton, List.append_assoc, List.singleton_append, List.length_append,
          List.length_singleton]
        simp only [Nat.add_assoc, Nat.add_comm 1]
      · rw [later.2.2.2, List.map_cons, isDescribed, List.map_append, List.map_singleton,
          List.append_assoc, List.singleton_append]

namespace AttachmentIndex

/-- What an accepted index is. -/
structure Accepted (raw : Json) (index : AttachmentIndex) : Prop where
  checked : ∀ attachment ∈ index.attachments, attachment.Checked
  distinct : (index.attachments.map Attachment.id).Nodup
  submits : index.attachments.map (fun attachment => (attachment.id, some attachment.text)) =
    (attachmentValues raw).mapIdx submitted
  describes : index.attachments.map (fun attachment =>
    (some attachment.name, attachment.mediaType)) = (attachmentValues raw).map described
  chunks : index.chunks = index.attachments.flatMap chunkAttachment

theorem accepted_of_fromOpenaiRequest {raw : Json} {index : AttachmentIndex}
    (accepts : fromOpenaiRequest raw = .ok (some index)) : index.Accepted raw := by
  unfold fromOpenaiRequest at accepts
  split at accepts
  · cases accepts
  · rename_i value isValue
    split at accepts
    · cases accepts
    · cases accepts
    · rename_i values _ isValues
      split at accepts
      · cases accepts
      · obtain ⟨attachments, reads, made⟩ := bind_eq_ok.mp accepts
        obtain rfl := Option.some.inj (Except.ok.inj made)
        have read := readAttachments_eq_ok reads (List.forall_mem_nil _) List.nodup_nil
        have same : attachmentValues raw = values := by simp [attachmentValues, isValue, isValues]
        exact ⟨read.1, read.2.1, by simpa [same] using read.2.2.1,
          by simpa [same] using read.2.2.2, rfl⟩

variable {raw : Json} {index : AttachmentIndex}

theorem filter_chunkAttachment (attachment : Attachment) (key : String) :
    ((chunkAttachment attachment).filter fun chunk => chunk.attachmentId = key) =
      if attachment.id = key then chunkAttachment attachment else [] := by
  have own : ∀ chunk ∈ chunkAttachment attachment, chunk.attachmentId = attachment.id := by
    intro chunk isChunk
    obtain ⟨position, within, same⟩ := List.mem_mapIdx.mp isChunk
    exact same ▸ rfl
  split
  · rename_i same
    rw [List.filter_eq_self]
    intro chunk isChunk
    simpa [own chunk isChunk] using same
  · rename_i different
    rw [List.filter_eq_nil_iff]
    intro chunk isChunk
    simpa [own chunk isChunk] using different

/-- The chunks under the ID of an attachment are its own. -/
theorem filter_flatMap_chunkAttachment {attachments : List Attachment}
    (distinct : (attachments.map Attachment.id).Nodup) {attachment : Attachment}
    (member : attachment ∈ attachments) :
    ((attachments.flatMap chunkAttachment).filter fun chunk =>
      chunk.attachmentId = attachment.id) = chunkAttachment attachment := by
  induction attachments with
  | nil => cases member
  | cons first rest inductionHypothesis =>
      rw [List.map_cons, List.nodup_cons] at distinct
      rw [List.flatMap_cons, List.filter_append, filter_chunkAttachment]
      rcases List.mem_cons.mp member with isFirst | inRest
      · have noOther : ((rest.flatMap chunkAttachment).filter fun chunk =>
            chunk.attachmentId = attachment.id) = [] := by
          rw [List.filter_flatMap, List.flatMap_eq_nil_iff]
          intro other isOther
          have different : other.id ≠ attachment.id := by
            intro same
            apply distinct.1
            rw [← isFirst, ← same]
            exact List.mem_map_of_mem isOther
          rw [filter_chunkAttachment, if_neg different]
        rw [noOther, isFirst, if_pos rfl, List.append_nil]
      · have different : first.id ≠ attachment.id := by
          intro same
          apply distinct.1
          rw [same]
          exact List.mem_map_of_mem inRest
        rw [if_neg different, List.nil_append]
        exact inductionHypothesis distinct.2 inRest

variable {raw : Json} {index : AttachmentIndex} {attachment : Attachment}

theorem Accepted.chunkCount_eq (accepted : index.Accepted raw)
    (member : attachment ∈ index.attachments) :
    index.chunkCount attachment.id = (chunkAttachment attachment).length := by
  rw [chunkCount, accepted.chunks, filter_flatMap_chunkAttachment accepted.distinct member]

theorem Accepted.read_none (accepted : index.Accepted raw)
    (member : attachment ∈ index.attachments) :
    index.read attachment.id none = .ok attachment.text := by
  have found : (index.attachments.find? fun other => other.id = attachment.id).isSome := by
    rw [List.find?_isSome]
    exact ⟨attachment, member, decide_eq_true rfl⟩
  obtain ⟨other, isOther⟩ := Option.isSome_iff_exists.mp found
  have sameId : other.id = attachment.id := by simpa using List.find?_some isOther
  have same : other = attachment :=
    List.inj_on_of_nodup_map accepted.distinct (List.mem_of_find?_eq_some isOther) member sameId
  unfold read
  rw [(accepted.checked attachment member).validId]
  simp only [isOther, same]
  rfl

theorem find?_chunkAttachment (attachment : Attachment) {chunkIndex : Nat} {text : String}
    (isChunk : (chunkTexts attachment.text.length attachment.text.toList)[chunkIndex]? =
      some text) :
    ((chunkAttachment attachment).find? fun chunk => chunk.chunkIndex = chunkIndex) =
      some { attachmentId := attachment.id, chunkIndex, text } := by
  have found : ((chunkAttachment attachment).find? fun chunk =>
      chunk.chunkIndex = chunkIndex).isSome := by
    rw [List.find?_isSome]
    refine ⟨{ attachmentId := attachment.id, chunkIndex, text }, ?_, decide_eq_true rfl⟩
    apply List.mem_of_getElem? (i := chunkIndex)
    rw [chunkAttachment, List.getElem?_mapIdx, isChunk]
    rfl
  obtain ⟨chunk, isFound⟩ := Option.isSome_iff_exists.mp found
  have atIndex : chunk.chunkIndex = chunkIndex := by simpa using List.find?_some isFound
  obtain ⟨position, isAt⟩ := List.mem_iff_getElem?.mp (List.mem_of_find?_eq_some isFound)
  rw [chunkAttachment, List.getElem?_mapIdx] at isAt
  obtain ⟨other, isOther, rfl⟩ := Option.map_eq_some_iff.mp isAt
  rw [show position = chunkIndex from atIndex, isChunk] at isOther
  rw [isFound, ← Option.some.inj isOther, show position = chunkIndex from atIndex]

theorem Accepted.read_some (accepted : index.Accepted raw)
    (member : attachment ∈ index.attachments) {chunkIndex : Nat} {text : String}
    (isChunk : (chunkTexts attachment.text.length attachment.text.toList)[chunkIndex]? =
      some text) :
    index.read attachment.id (some chunkIndex) = .ok text := by
  have own := filter_flatMap_chunkAttachment accepted.distinct member
  have found := find?_chunkAttachment attachment isChunk
  rw [← own, ← accepted.chunks, List.find?_filter] at found
  unfold read
  rw [(accepted.checked attachment member).validId]
  simp only [decide_eq_true_eq] at found
  simp only [found]
  rfl

theorem mapM_range'_eq_ok {ε α : Type} {step : Nat → Except ε α} {values : List α} {start : Nat}
    (steps : ∀ position value, values[position]? = some value →
      step (start + position) = .ok value) :
    (List.range' start values.length).mapM step = .ok values := by
  induction values generalizing start with
  | nil => rfl
  | cons value rest inductionHypothesis =>
      have first := steps 0 value rfl
      have later : (List.range' (start + 1) rest.length).mapM step = .ok rest := by
        apply inductionHypothesis
        intro position other isOther
        rw [Nat.add_assoc, Nat.add_comm 1]
        exact steps (position + 1) other isOther
      rw [List.length_cons, List.range'_succ, List.mapM_cons, later, ← Nat.add_zero start, first]
      rfl

/-- Every chunk is read, in order. -/
theorem Accepted.mapM_read (accepted : index.Accepted raw)
    (member : attachment ∈ index.attachments) :
    (List.range (index.chunkCount attachment.id)).mapM
        (fun chunkIndex => index.read attachment.id (some chunkIndex)) =
      .ok (chunkTexts attachment.text.length attachment.text.toList) := by
  have count : index.chunkCount attachment.id =
      (chunkTexts attachment.text.length attachment.text.toList).length := by
    rw [accepted.chunkCount_eq member, chunkAttachment, List.length_mapIdx]
  rw [count, List.range_eq_range']
  apply mapM_range'_eq_ok
  intro chunkIndex text isChunk
  rw [Nat.zero_add]
  exact accepted.read_some member isChunk

end AttachmentIndex

/-- The chunks of every attachment of an accepted request are its text, cut: the loop ends
with them, reading them one by one gives them in order, and none is empty or too long. -/
theorem attachments_chunked {raw : Json} {index : AttachmentIndex}
    (accepts : AttachmentIndex.fromOpenaiRequest raw = .ok (some index)) :
    (index.attachments.map Attachment.id).Nodup ∧
      index.attachments.map (fun attachment => (attachment.id, some attachment.text)) =
        (attachmentValues raw).mapIdx submitted ∧
      ∀ attachment ∈ index.attachments, ∃ chunks,
        (∃ rounds, cutFrom attachment.text rounds 0 = some chunks) ∧
        (List.range (index.chunkCount attachment.id)).mapM
            (fun chunkIndex => index.read attachment.id (some chunkIndex)) = .ok chunks ∧
        index.read attachment.id none = .ok (String.join chunks) ∧
        String.join chunks = attachment.text ∧
        ∀ chunk ∈ chunks, chunk ≠ "" ∧ chunk.utf8ByteSize ≤ chunkBytes := by
  have accepted := AttachmentIndex.accepted_of_fromOpenaiRequest accepts
  refine ⟨accepted.distinct, accepted.submits, ?_⟩
  intro attachment member
  have enough : attachment.text.toList.length ≤ attachment.text.length :=
    Nat.le_of_eq String.length_toList
  have ends := cutFrom_eq [] attachment.text.toList enough
  have joined : String.join (chunkTexts attachment.text.length attachment.text.toList) =
      attachment.text := by
    apply String.toList_inj.mp
    exact toList_join_chunkTexts _ _ enough
  rw [List.nil_append, String.ofList_toList] at ends
  refine ⟨_, ⟨attachment.text.length, ends⟩, accepted.mapM_read member, ?_, joined,
    chunkTexts_bounded _ _⟩
  rw [joined]
  exact accepted.read_none member

/-- A request with one attachment. -/
def attachmentRequest (name mediaType text : String) : Json :=
  .object [("attachments", .array [.object
    [("name", .string name), ("media_type", .string mediaType), ("content", .string text)]])]

theorem utf8ByteSize_replicate (count : Nat) :
    (String.ofList (List.replicate count 'a')).utf8ByteSize = count := by
  induction count with
  | zero => rfl
  | succ count inductionHypothesis =>
      rw [List.replicate_succ, utf8ByteSize_ofList_cons, inductionHypothesis, Nat.add_comm]
      rfl

/-- The characters of a text whose last but one stands across the end of the first chunk. -/
def acrossChars : List Char := List.replicate 4095 'a' ++ ['ü', 'b']

theorem acrossChars_chunks :
    chunkTexts (String.ofList acrossChars).length acrossChars =
      [String.ofList (List.replicate 4095 'a'), "üb"] := by
  have front : (splitBytes chunkBytes acrossChars).1 = List.replicate 4095 'a' := by
    have cut := splitBytes_add (List.replicate 4095 'a') ['ü', 'b'] 1
    rw [utf8ByteSize_replicate] at cut
    exact cut.trans (List.append_nil _)
  have back : (splitBytes chunkBytes acrossChars).2 = ['ü', 'b'] := by
    have whole := splitBytes_whole chunkBytes acrossChars
    rw [front] at whole
    exact List.append_cancel_left whole
  have left : acrossChars ≠ [] := List.append_ne_nil_of_right_ne_nil _ (List.cons_ne_nil _ _)
  have long : (String.ofList acrossChars).length = 4095 + 2 := by
    rw [← String.length_toList, String.toList_ofList, acrossChars, List.length_append,
      List.length_replicate]
    rfl
  rw [long, chunkTexts_of_ne_nil _ left, front, back,
    chunkTexts_of_ne_nil _ (by simp)]
  rfl

theorem acrossChars_size : (String.ofList acrossChars).utf8ByteSize = 4098 := by
  unfold acrossChars
  rw [utf8ByteSize_ofList_append, utf8ByteSize_replicate]
  rfl

theorem validateText_acrossChars : validateText (String.ofList acrossChars) = .ok () := by
  have notEmpty : String.ofList acrossChars ≠ "" := by
    intro empty
    have size := acrossChars_size
    rw [empty] at size
    cases size
  unfold validateText
  rw [if_neg notEmpty, if_neg]
  rw [String.toList_ofList, acrossChars]
  simp [-List.reduceReplicate]

/-- A text attachment without an ID. -/
def plainText (name text : String) : Fields :=
  [("name", .string name), ("media_type", .string "text/plain"), ("content", .string text)]

/-- A request with a text and a short program. -/
def textRequest (text : String) : Json :=
  .object [("attachments", .array [.object (plainText "notes.txt" text),
    .object (plainText "main.rs" "fn main() {}")])]

def textAttachments (text : String) : List Attachment :=
  [⟨"attachment_0", "notes.txt", some "text/plain", text⟩,
    ⟨"attachment_1", "main.rs", some "text/plain", "fn main() {}"⟩]

theorem textRequest_accepted {text : String} (valid : validateText text = .ok ())
    (small : text.utf8ByteSize ≤ maxAttachmentBytes) :
    AttachmentIndex.fromOpenaiRequest (textRequest text) =
      .ok (some ⟨textAttachments text, (textAttachments text).flatMap chunkAttachment⟩) := by
  have fits : text.utf8ByteSize + "fn main() {}".utf8ByteSize ≤ maxTotalAttachmentBytes :=
    Nat.le_trans (Nat.add_le_add_right small _) (by decide)
  have first : readAttachment [] 0 (.object (plainText "notes.txt" text)) =
      .ok ⟨"attachment_0", "notes.txt", some "text/plain", text⟩ := by
    have named : validateName "notes.txt" = .ok () := by rfl
    have identified : validateId "attachment_0" = .ok () := by rfl
    have typed : validateType "notes.txt" (some "text/plain") = .ok () := by rfl
    refine readAttachment_of_checked rfl rfl rfl rfl ⟨named, identified, typed, valid⟩
      List.not_mem_nil small ?_
    rw [List.map_nil, List.sum_nil, Nat.zero_add]
    exact Nat.le_trans (Nat.le_add_right _ _) fits
  have second : readAttachment [⟨"attachment_0", "notes.txt", some "text/plain", text⟩] 1
      (.object (plainText "main.rs" "fn main() {}")) =
        .ok ⟨"attachment_1", "main.rs", some "text/plain", "fn main() {}"⟩ := by
    refine readAttachment_of_checked rfl rfl rfl rfl ⟨rfl, rfl, rfl, rfl⟩ (by simp) (by decide) ?_
    rw [List.map_singleton, List.sum_singleton]
    exact fits
  exact bind_eq_ok.mpr ⟨textAttachments text,
    bind_eq_ok.mpr ⟨_, first, bind_eq_ok.mpr ⟨_, second, rfl⟩⟩, rfl⟩

theorem attachments_chunked_across :
    ∃ index, AttachmentIndex.fromOpenaiRequest (textRequest (String.ofList acrossChars)) =
        .ok (some index) ∧
      index.read "attachment_0" (some 0) = .ok (String.ofList (List.replicate 4095 'a')) ∧
      index.read "attachment_0" (some 1) = .ok "üb" ∧
      ∀ attachment ∈ index.attachments, ∃ chunks,
        (List.range (index.chunkCount attachment.id)).mapM
            (fun chunkIndex => index.read attachment.id (some chunkIndex)) = .ok chunks ∧
          String.join chunks = attachment.text := by
  have small : (String.ofList acrossChars).utf8ByteSize ≤ maxAttachmentBytes := by
    rw [acrossChars_size]
    decide
  have accepts := textRequest_accepted validateText_acrossChars small
  have accepted := AttachmentIndex.accepted_of_fromOpenaiRequest accepts
  have chunks := acrossChars_chunks
  rw [← String.toList_ofList (l := acrossChars), String.ofList_toList] at chunks
  refine ⟨_, accepts, ?_, ?_, ?_⟩
  · exact accepted.read_some List.mem_cons_self (by rw [chunks]; rfl)
  · exact accepted.read_some List.mem_cons_self (by rw [chunks]; rfl)
  · intro attachment member
    obtain ⟨chunks, _, inOrder, _, joined, _⟩ := (attachments_chunked accepts).2.2 attachment member
    exact ⟨chunks, inOrder, joined⟩

end TriAI.Chat
