import TriAI.Coding.Edits
import TriAI.Library.Fallible
import TriAI.Library.TextSearch

/-!
Contract: when `patch_file` replaces the only occurrence of a text.

Owns: what `patch_file` accepts and what it puts into its target, if every call succeeds, in
terms of all positions at which the old text occurs.

Does not own: the calls that fail, and the interleavings of several edits
(`Coding.Independence`).

Occurrences are counted from left to right without overlap, so those that overlap the first
one are not seen, which is the defect.
-/

set_option autoImplicit false

namespace TriAI.Coding

open TriAI.Library.Interaction
open TriAI.Library.TextLines
open TriAI.Library.TextSearch

/-! ## The new text -/

section Text

variable {data old new patched : String}

theorem toList_ne_nil (nonempty : old ≠ "") : old.toList ≠ [] := by simpa using nonempty

theorem occurrences_eq (nonempty : old ≠ "") :
    occurrences data old = (segments old.toList data.toList).length - 1 := by
  rw [occurrences, splitOn_segments data nonempty, List.length_map]

/-- The count is one exactly if all occurrences overlap the first one. -/
theorem occurrences_eq_one (nonempty : old ≠ "") :
    occurrences data old = 1 ↔ Clustered old.toList data.toList := by
  rw [occurrences_eq nonempty, ← segments_length (toList_ne_nil nonempty)]
  omega

/-- A text is accepted exactly if the count is one. -/
theorem patch_accepts (nonempty : old ≠ "") :
    (∃ patched, patch data old new = .ok patched) ↔ Clustered old.toList data.toList := by
  rw [← occurrences_eq_one nonempty]
  unfold patch
  constructor
  · rintro ⟨patched, accepted⟩
    split at accepted
    · cases accepted
    · split at accepted
      · cases accepted
      · omega
  · intro once
    simp [once]

/-- An accepted text keeps what stands before and after its first occurrence. -/
theorem patch_replaces (nonempty : old ≠ "") (accepted : patch data old new = .ok patched) :
    ∃ front back, data.toList = front ++ old.toList ++ back ∧
      patched = String.ofList (front ++ new.toList ++ back) := by
  have cluster := (patch_accepts nonempty).mp ⟨patched, accepted⟩
  have once := (occurrences_eq_one nonempty).mpr cluster
  obtain ⟨front, back, found, again⟩ := (clustered_iff (toList_ne_nil nonempty)).mp cluster
  refine ⟨front, back, (splitFirst_some found).1, ?_⟩
  have pieces : data.splitOn old = [String.ofList front, String.ofList back] := by
    rw [splitOn_segments data nonempty, segments_of_some (toList_ne_nil nonempty) found,
      segments_of_none again]
    rfl
  simp only [patch, once, one_ne_zero, if_false, lt_irrefl, pieces, Except.ok.injEq] at accepted
  rw [← accepted, String.intercalate_cons_cons, String.intercalate_singleton]
  simp [String.append_assoc]

end Text

/-! ## The call -/

section Call

variable {Dir : Type}

/-- Every call succeeds, and the target holds the text. -/
def Served (data : String) : (op : EditOp Dir) → op.Reply → Prop
  | .readToString _, reply => reply = .ok data
  | .create _, reply => ∃ file, reply = .ok file
  | .resolve _, reply | .createDirAll _, reply | .writeAll _ _, reply | .rename _ _, reply =>
      reply = .ok ()

/-- The bytes are written to the temporary, which is put in the place of the target. -/
def Places (process : UInt32) (target : Place Dir) (content : List UInt8)
    (trace : EditTrace Dir) : Prop :=
  ∃ file, trace = [⟨.create (target.temporary process), .ok file⟩,
    ⟨.writeAll file content, .ok ()⟩, ⟨.rename (target.temporary process) target, .ok ()⟩]

variable {process : UInt32} {target : Place Dir} {data old new : String}
  {trace : EditTrace Dir} {result : EditResult}

theorem replaceTarget_returns {tool : String} {content : List UInt8}
    (served : ∀ event ∈ trace, Served data event.op event.reply)
    (returns : Prog.Returns (replaceTarget tool process target content) trace result) :
    Places process target content trace ∧ result = .ok content := by
  obtain ⟨created, rest, rfl, creates⟩ := Fallible.returns_call.mp returns
  obtain ⟨file, rfl⟩ := served _ (List.mem_cons_self ..)
  obtain ⟨written, rest, rfl, writes⟩ := Fallible.returns_call.mp creates
  obtain rfl : written = .ok () := served ⟨.writeAll file content, written⟩ (by simp)
  obtain ⟨renamed, rest, rfl, renames⟩ := Fallible.returns_call.mp writes
  obtain rfl : renamed = .ok () :=
    served ⟨.rename (target.temporary process) target, renamed⟩ (by simp)
  obtain ⟨rfl, rfl⟩ := Fallible.returns_ret.mp renames
  exact ⟨⟨file, rfl⟩, rfl⟩

/-- What `patch_file` does where every call succeeds: it refuses the text, or places the
patched one. -/
theorem patchFile_returns (served : ∀ event ∈ trace, Served data event.op event.reply)
    (returns : Prog.Returns (patchFile process target old new) trace result) :
    (∃ error, patch data old new = .error error ∧ result = .error error) ∨
      ∃ patched placing, patch data old new = .ok patched ∧
        trace = ⟨.resolve target, .ok ()⟩ :: ⟨.readToString target, .ok data⟩ :: placing ∧
        Places process target (utf8Bytes patched) placing ∧
        result = .ok (utf8Bytes patched) := by
  obtain ⟨resolved, rest, rfl, resolves⟩ := Fallible.returns_call.mp returns
  obtain rfl : resolved = .ok () := served ⟨.resolve target, resolved⟩ (List.mem_cons_self ..)
  obtain ⟨read, rest, rfl, reads⟩ := Fallible.returns_call.mp resolves
  obtain rfl : read = .ok data := served ⟨.readToString target, read⟩ (by simp)
  cases accepted : patch data old new with
  | error error =>
      have refused : Prog.Returns (.ret (.error error)) rest result := by
        simpa only [Prog.bind, accepted, Prog.pure_eq_ret] using reads
      obtain ⟨rfl, rfl⟩ := Fallible.returns_ret.mp refused
      exact .inl ⟨error, rfl, rfl⟩
  | ok patched =>
      have replaces : Prog.Returns (replaceTarget "patch_file" process target (utf8Bytes patched))
          rest result := by simpa only [Prog.bind, accepted] using reads
      have placed := replaceTarget_returns (fun event member => served event (by simp [member]))
        replaces
      exact .inr ⟨patched, rest, rfl, rfl, placed.1, placed.2⟩

/-- Every call of `patch_file` in which all its calls succeed is accepted exactly if the old
text occurs at one position, and then places the text with that occurrence replaced. -/
def PatchesTheOne (process : UInt32) (target : Place Dir) (data old new : String) : Prop :=
  ∀ trace result, Prog.Returns (patchFile process target old new) trace result →
    (∀ event ∈ trace, Served data event.op event.reply) →
    ((∃ bytes, result = .ok bytes) ↔ ∃! position, OccursAt old.toList data.toList position) ∧
    ∀ bytes, result = .ok bytes → ∃ front back placing,
      data.toList = front ++ old.toList ++ back ∧
      bytes = utf8Bytes (String.ofList (front ++ new.toList ++ back)) ∧
      trace = ⟨.resolve target, .ok ()⟩ :: ⟨.readToString target, .ok data⟩ :: placing ∧
      Places process target bytes placing

/-- The old text occurs at several positions, all of which overlap the first one. -/
def OnlyOverlaps (data old : String) : Prop :=
  Clustered old.toList data.toList ∧ ¬ ∃! position, OccursAt old.toList data.toList position

/-- A call that succeeds accepts the text exactly if all occurrences overlap the first. -/
theorem patchFile_accepts (nonempty : old ≠ "")
    (served : ∀ event ∈ trace, Served data event.op event.reply)
    (returns : Prog.Returns (patchFile process target old new) trace result) :
    (∃ bytes, result = .ok bytes) ↔ Clustered old.toList data.toList := by
  have accepts : (∃ patched, patch data old new = .ok patched) ↔ _ := patch_accepts nonempty
  rw [← accepts]
  rcases patchFile_returns served returns with
    ⟨error, refused, rfl⟩ | ⟨patched, placing, accepted, _, _, rfl⟩
  · simp [refused]
  · simp [accepted]

/-- A call in which every call succeeds. -/
theorem exists_served (process : UInt32) (target : Place Dir) (data old new : String) :
    ∃ trace result, Prog.Returns (patchFile process target old new) trace result ∧
      ∀ event ∈ trace, Served data event.op event.reply := by
  cases accepted : patch data old new with
  | error error =>
      refine ⟨[⟨.resolve target, .ok ()⟩, ⟨.readToString target, .ok data⟩], .error error,
        .call _ (.call _ ?_), ?_⟩
      · simp only [Prog.bind, accepted, Prog.pure_eq_ret]
        exact .ret _
      · simp [Served]
  | ok patched =>
      refine ⟨[⟨.resolve target, .ok ()⟩, ⟨.readToString target, .ok data⟩,
        ⟨.create (target.temporary process), .ok 0⟩, ⟨.writeAll 0 (utf8Bytes patched), .ok ()⟩,
        ⟨.rename (target.temporary process) target, .ok ()⟩], .ok (utf8Bytes patched),
        .call _ (.call _ ?_), ?_⟩
      · simp only [Prog.bind, accepted]
        exact .call _ (.call _ (.call _ (.ret _)))
      · simp [Served]

/-- A text whose occurrences all overlap the first is accepted although there are several. -/
theorem not_patchesTheOne (process : UInt32) (target : Place Dir) (new : String)
    (nonempty : old ≠ "") (overlaps : OnlyOverlaps data old) :
    ¬ PatchesTheOne process target data old new := by
  intro patches
  obtain ⟨trace, result, returns, served⟩ := exists_served process target data old new
  obtain ⟨accepts, _⟩ := patches trace result returns served
  apply overlaps.2
  exact accepts.mp ((patchFile_accepts nonempty served returns).mpr overlaps.1)

/-- Exactly the texts whose occurrences do not all overlap the first, if there are several. -/
theorem patchFile_patchesTheOne_iff (process : UInt32) (target : Place Dir)
    {data old : String} (new : String) (nonempty : old ≠ "") :
    PatchesTheOne process target data old new ↔ ¬ OnlyOverlaps data old := by
  constructor
  · exact fun patches overlaps => not_patchesTheOne process target new nonempty overlaps patches
  · intro apart trace result returns served
    rw [patchFile_accepts nonempty served returns]
    constructor
    · constructor
      · intro cluster
        by_contra several
        exact apart ⟨cluster, several⟩
      · exact Clustered.of_unique (toList_ne_nil nonempty)
    · rintro bytes rfl
      rcases patchFile_returns served returns with
        ⟨error, _, refused⟩ | ⟨patched, placing, accepted, calls, places, same⟩
      · cases refused
      · obtain rfl := Except.ok.inj same
        obtain ⟨front, back, parts, rfl⟩ := patch_replaces nonempty accepted
        exact ⟨front, back, placing, parts, rfl, calls, places⟩

end Call

/-- A file of a project. -/
def samplePlace : Place String := ⟨"/project", "a.txt"⟩

/-- The one occurrence of `aa` in `xaax`. -/
theorem patchFile_patchesTheOne_sample :
    PatchesTheOne 7 samplePlace "xaax" "aa" "b" := by
  refine (patchFile_patchesTheOne_iff 7 samplePlace "b" (by decide)).mpr ?_
  rintro ⟨_, several⟩
  refine several ⟨1, by decide +kernel, fun position occurs => ?_⟩
  have fits := occurs.length_le
  have short : "xaax".toList.length = 4 := by decide +kernel
  have two : "aa".toList.length = 2 := by decide +kernel
  rw [List.length_drop, short, two] at fits
  have bound : position ≤ 2 := by omega
  interval_cases position
  · exact absurd occurs (by decide +kernel)
  · rfl
  · exact absurd occurs (by decide +kernel)

/-- `aa` occurs twice in `aaa`, which is accepted. -/
theorem patchFile_not_patchesTheOne : ¬ PatchesTheOne 7 samplePlace "aaa" "aa" "b" := by
  refine not_patchesTheOne 7 samplePlace "b" (by decide) ⟨?_, ?_⟩
  · refine (clustered_iff (toList_ne_nil (by decide))).mpr ⟨[], ['a'], ?_, ?_⟩
    · decide +kernel
    · decide +kernel
  · rintro ⟨position, _, only⟩
    have first : OccursAt "aa".toList "aaa".toList 0 := by decide +kernel
    have second : OccursAt "aa".toList "aaa".toList 1 := by decide +kernel
    have atFirst := only 0 first
    have atSecond := only 1 second
    omega

end TriAI.Coding
