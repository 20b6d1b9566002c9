import TriAI.Staging.Store

/-!
Contract: the names and the marker text of a staged block can be read back.

Owns: the extension of a staged name, the distinctness of staged names, and what
`recover` reads from a marker.

Does not own: the disk.
-/

set_option autoImplicit false

namespace TriAI.Staging

open TriAI.Library
open TriAI.Library.FileTree (append_dot_inj extension_append)
open TriAI.Library.TextLines
open TriAI.Storage

/-! ## File names -/

/-- The extensions of staged names. -/
def IsStagedExtension (extension : String) : Prop :=
  extension = "part" ∨ extension = "bin" ∨ extension = "commit"

private theorem IsStagedExtension.noDot {extension : String} (staged : IsStagedExtension extension) :
    '.' ∉ extension.toList := by
  rcases staged with rfl | rfl | rfl <;> decide

private theorem dot_not_mem_toString (n : Nat) : '.' ∉ (toString n).toList := by
  intro member
  have isDigit := isDigit_of_mem_toString member
  simp at isDigit

/-- Its last component is the extension of a staged name. -/
theorem extension_fileName {blockId extension : String} {generation : UInt64}
    (staged : IsStagedExtension extension) :
    FileTree.extension (fileName blockId generation extension) = some extension := by
  unfold fileName
  apply extension_append
  · simp
  · exact staged.noDot
  · rcases staged with rfl | rfl | rfl <;> decide

theorem toString_inj {m n : Nat} (same : toString m = toString n) : m = n := by
  have left := parseUnsigned_toString (Nat.lt_succ_of_le (Nat.le_max_left m n))
  have right := parseUnsigned_toString (Nat.lt_succ_of_le (Nat.le_max_right m n))
  rw [same, right] at left
  exact (Option.some.inj left).symm

/-- Different blocks have different names. -/
theorem fileName_inj {blockId blockId' extension extension' : String}
    {generation generation' : UInt64} (staged : IsStagedExtension extension)
    (staged' : IsStagedExtension extension')
    (same : fileName blockId generation extension = fileName blockId' generation' extension') :
    blockId = blockId' ∧ generation = generation' ∧ extension = extension' := by
  have characters := congrArg String.toList same
  simp only [fileName, String.toList_append, List.append_assoc] at characters
  have whole : (blockId.toList ++ '.' :: (toString generation.toNat).toList) ++
        '.' :: extension.toList =
      (blockId'.toList ++ '.' :: (toString generation'.toNat).toList) ++
        '.' :: extension'.toList := by
    simpa using characters
  obtain ⟨front, last⟩ := append_dot_inj staged.noDot staged'.noDot whole
  obtain ⟨ids, digits⟩ := append_dot_inj (dot_not_mem_toString _) (dot_not_mem_toString _) front
  refine ⟨String.toList_injective ids, ?_, String.toList_injective last⟩
  exact UInt64.toNat_inj.mp (toString_inj (String.toList_injective digits))

/-! ## Marker texts -/

/-- An identifier that is one line and is not shortened when it is read back. -/
def IsPlain (blockId : String) : Prop :=
  '\n' ∉ blockId.toList ∧ blockId.toList.getLast? ≠ some '\r'

instance (blockId : String) : Decidable (IsPlain blockId) := by
  unfold IsPlain
  infer_instance

/-- The first three lines of a marker, before `tail`. -/
def markerText (record : CommitRecord) (tail : String) : String :=
  record.blockId ++ "\n" ++ (toString record.generation.toNat ++ "\n" ++
    (toString record.bytes.toNat ++ "\n" ++ tail))

theorem isPlain_toString (n : Nat) : IsPlain (toString n) := by
  constructor
  · intro member
    have isDigit := isDigit_of_mem_toString member
    simp at isDigit
  · intro last
    have isDigit := isDigit_of_mem_toString (List.mem_of_getLast? last)
    simp at isDigit

theorem lines_markerText {record : CommitRecord} (plain : IsPlain record.blockId) (tail : String) :
    lines (markerText record tail) =
      record.blockId :: toString record.generation.toNat :: toString record.bytes.toNat ::
        lines tail := by
  unfold markerText
  rw [lines_cons _ plain.1 plain.2, lines_cons _ (isPlain_toString _).1 (isPlain_toString _).2,
    lines_cons _ (isPlain_toString _).1 (isPlain_toString _).2]

theorem parseU64_toString (n : UInt64) : parseU64 (toString n.toNat) = n := by
  unfold parseU64
  rw [parseUnsigned_toString n.toNat_lt]
  simp

/-- With one more line a marker is read as a record. -/
private theorem parseRecord_markerText {record : CommitRecord} {tail sha256 : String}
    (plain : IsPlain record.blockId) (single : lines tail = [sha256]) :
    parseRecord (markerText record tail) = some { record with sha256 } := by
  unfold parseRecord
  rw [lines_markerText plain, single]
  simp only [parseU64_toString]

/-- A record is read back from its marker. -/
theorem parseRecord_commitText {record : CommitRecord} (plain : IsPlain record.blockId)
    (digest : IsPlain record.sha256) : parseRecord (commitText record) = some record := by
  have single : lines (record.sha256 ++ "\n") = [record.sha256] := by
    simpa [lines, splitInclusive] using lines_cons "" digest.1 digest.2
  exact parseRecord_markerText plain single

/-- Only a plain identifier is read back. -/
theorem isPlain_of_blockId {record found : CommitRecord}
    (parsed : parseRecord (commitText record) = some found)
    (sameId : found.blockId = record.blockId) : IsPlain record.blockId := by
  have first : ∃ rest, lines (commitText record) = record.blockId :: rest := by
    unfold parseRecord at parsed
    split at parsed
    · rename_i blockId _ _ _ four
      obtain rfl : blockId = record.blockId := by rw [← sameId, ← Option.some.inj parsed]
      exact ⟨_, four⟩
    · simp at parsed
  obtain ⟨rest, isFirst⟩ := first
  have oneLine : '\n' ∉ record.blockId.toList := by
    apply newline_not_mem_of_mem_lines
    rw [isFirst]
    exact List.mem_cons_self ..
  refine ⟨oneLine, fun carriageReturn => ?_⟩
  rw [commitText, lines_cons_strip _ oneLine] at isFirst
  have stripped := congrArg String.toList (List.cons.inj isFirst).1
  simp only [stripEnding, List.getLast?_concat, List.dropLast_concat, carriageReturn, if_true,
    String.toList_ofList] at stripped
  have shorter := congrArg List.length stripped
  have nonempty := List.length_pos_of_mem (List.mem_of_getLast? carriageReturn)
  rw [List.length_dropLast] at shorter
  omega

theorem isPlain_of_parseRecord {record : CommitRecord}
    (parsed : parseRecord (commitText record) = some record) : IsPlain record.blockId :=
  isPlain_of_blockId parsed rfl

/-- It is also read back from a marker without its last newline. -/
theorem parseRecord_of_unended {record : CommitRecord} {text : String}
    (plain : IsPlain record.blockId) (digest : IsPlain record.sha256)
    (visible : record.sha256 ≠ "") (unended : text ++ "\n" = commitText record) :
    parseRecord text = some record := by
  have same : text = markerText record record.sha256 := by
    apply String.toList_injective
    have characters := congrArg String.toList unended
    simpa [commitText, markerText, ← List.append_assoc] using characters
  rw [same]
  exact parseRecord_markerText plain (lines_of_not_mem digest.1 visible)

end TriAI.Staging
