import TriAI.Catalog.Digests
import TriAI.Library.Json
import TriAI.MiniModel.RightModel

/-!
Contract: the digest texts of a mini model manifest (`MiniModelManifest::validate`,
`MiniModelSpec::verify_digest`).

Owns: the value of a hexadecimal text; the texts that `is_sha256` accepts; and when the two
comparisons of the manifest are comparisons of values.

Does not own: the digest of a file, of which only the text is seen.

Both comparisons are of texts: a digest that is written with a capital letter never verifies,
and two entries whose texts differ in case only pass as different models.
-/

set_option autoImplicit false

namespace TriAI.MiniModel

open TriAI.Catalog (LowerDigits LowerHex)
open TriAI.Chat (toAsciiLowercase)
open TriAI.Library.TextLines
open TriAI.Supervisor

/-! ## Hexadecimal values -/

/-- The value of a hexadecimal digit. -/
def digitValue (c : Char) : Nat :=
  if c.isDigit then c.toNat - 48
  else if 97 ≤ c.toNat ∧ c.toNat ≤ 102 then c.toNat - 87
  else c.toNat - 55

/-- The value of a hexadecimal text. -/
def hexValue (text : String) : Nat := Nat.ofDigits 16 (text.toList.reverse.map digitValue)

/-- The ranges of the hexadecimal digits. -/
def IsHex (c : Char) : Prop :=
  (48 ≤ c.toNat ∧ c.toNat ≤ 57) ∨ (97 ≤ c.toNat ∧ c.toNat ≤ 102) ∨ (65 ≤ c.toNat ∧ c.toNat ≤ 70)

theorem digitValue_eq (c : Char) :
    digitValue c = if 48 ≤ c.toNat ∧ c.toNat ≤ 57 then c.toNat - 48
      else if 97 ≤ c.toNat ∧ c.toNat ≤ 102 then c.toNat - 87 else c.toNat - 55 := by
  unfold digitValue
  rw [if_congr Char.isDigit_iff_toNat rfl rfl]
  rfl

theorem IsHex.digitValue_lt {c : Char} (isHex : IsHex c) : digitValue c < 16 := by
  unfold IsHex at isHex
  rw [digitValue_eq]
  split
  · omega
  · split
    · omega
    · omega

/-- What lower case makes of a hexadecimal digit. -/
theorem IsHex.toNat_toLower {c : Char} (isHex : IsHex c) :
    c.toLower.toNat = if 65 ≤ c.toNat ∧ c.toNat ≤ 70 then c.toNat + 32 else c.toNat := by
  unfold IsHex at isHex
  have upper : ('A'.val ≤ c.val ∧ c.val ≤ 'Z'.val) ↔ 65 ≤ c.toNat ∧ c.toNat ≤ 90 :=
    and_congr UInt32.le_iff_toNat_le UInt32.le_iff_toNat_le
  unfold Char.toLower
  by_cases capital : 65 ≤ c.toNat ∧ c.toNat ≤ 90
  · rw [dif_pos (upper.mpr capital)]
    have sum : (c.val + ('a'.val - 'A'.val)).toNat = c.toNat + 32 := by
      have small : c.val.toNat = c.toNat := rfl
      have shift : ('a'.val - 'A'.val).toNat = 32 := by decide
      rw [UInt32.toNat_add, shift, small]
      omega
    have letter : 65 ≤ c.toNat ∧ c.toNat ≤ 70 := by omega
    rw [if_pos letter]
    exact sum
  · have other : ¬ (65 ≤ c.toNat ∧ c.toNat ≤ 70) := by omega
    rw [dif_neg fun above => capital (upper.mp above), if_neg other]

/-- A hexadecimal digit that is not a capital. -/
def IsSmall (c : Char) : Prop :=
  (48 ≤ c.toNat ∧ c.toNat ≤ 57) ∨ (97 ≤ c.toNat ∧ c.toNat ≤ 102)

theorem IsHex.of_small {c : Char} (isSmall : IsSmall c) : IsHex c := by
  unfold IsSmall at isSmall
  unfold IsHex
  omega

theorem IsHex.isSmall_toLower {c : Char} (isHex : IsHex c) : IsSmall c.toLower := by
  have lowered := isHex.toNat_toLower
  unfold IsHex at isHex
  unfold IsSmall
  split at lowered
  · omega
  · omega

/-- Case does not change the value of a digit. -/
theorem IsHex.digitValue_toLower {c : Char} (isHex : IsHex c) :
    digitValue c.toLower = digitValue c := by
  have lowered := isHex.toNat_toLower
  unfold IsHex at isHex
  rw [digitValue_eq, digitValue_eq]
  grind

/-- Digits without capitals are told apart by their values. -/
theorem digitValue_inj {c d : Char} (isSmall : IsSmall c) (isSmall' : IsSmall d)
    (same : digitValue c = digitValue d) : c = d := by
  unfold IsSmall at isSmall isSmall'
  rw [digitValue_eq, digitValue_eq] at same
  have sameCode : c.toNat = d.toNat := by grind
  exact Char.toNat_inj.mp sameCode

theorem eq_of_map_digitValue {left right : List Char} (small : ∀ c ∈ left, IsSmall c)
    (small' : ∀ c ∈ right, IsSmall c) (same : left.map digitValue = right.map digitValue) :
    left = right := by
  induction left generalizing right with
  | nil => exact (List.map_eq_nil_iff.mp same.symm).symm
  | cons c rest inductionHypothesis =>
      cases right with
      | nil => cases same
      | cons d rest' =>
          obtain ⟨first, later⟩ := List.cons.inj same
          obtain ⟨smallFirst, smallRest⟩ := List.forall_mem_cons.mp small
          obtain ⟨smallFirst', smallRest'⟩ := List.forall_mem_cons.mp small'
          rw [digitValue_inj smallFirst smallFirst' first,
            inductionHypothesis smallRest smallRest' later]

/-! ## Texts -/

/-- A text of 64 hexadecimal digits. -/
structure IsDigest (text : String) : Prop where
  length : text.toList.length = 64
  digits : ∀ c ∈ text.toList, IsHex c

theorem IsDigest.of_lower {text : String} (lower : LowerDigits text) : IsDigest text where
  length := lower.length
  digits := fun c member => .of_small (lower.lower c member).range

/-- The texts that `is_sha256` accepts. -/
theorem isDigest_of_isSha256 {text : String} (accepted : isSha256 text = true) :
    IsDigest text := by
  unfold isSha256 at accepted
  rw [Bool.and_eq_true, List.all_eq_true] at accepted
  obtain ⟨bytes, allHex⟩ := accepted
  have digits : ∀ c ∈ text.toList, IsHex c := by
    intro c member
    have isHex := allHex c member
    simp only [Bool.or_eq_true, Bool.and_eq_true, decide_eq_true_eq, Char.isDigit_iff_toNat,
      Char.le_def, UInt32.le_iff_toNat_le] at isHex
    unfold IsHex
    rcases isHex with (digit | small) | capital
    · exact .inl digit
    · exact .inr (.inl small)
    · exact .inr (.inr capital)
  refine ⟨?_, digits⟩
  have size : text.utf8ByteSize = (utf8Bytes text).length := rfl
  have encoded : ∀ c ∈ text.toList, (String.utf8EncodeChar c).length = 1 := by
    intro c member
    have isHex := digits c member
    unfold IsHex at isHex
    rw [String.length_utf8EncodeChar]
    have ascii : c.val ≤ 0x7f := by
      rw [UInt32.le_iff_toNat_le]
      show c.toNat ≤ 127
      omega
    simp [Char.utf8Size, ascii]
  have ones : text.toList.map (fun c => (String.utf8EncodeChar c).length) =
      text.toList.map fun _ => 1 := List.map_congr_left encoded
  rw [beq_iff_eq, size, utf8Bytes_eq_flatMap, List.length_flatMap, ones] at bytes
  simpa using bytes

/-- A digest text with its capitals made small. -/
theorem IsDigest.toLower {text : String} (isDigest : IsDigest text) :
    hexValue (toAsciiLowercase text) = hexValue text := by
  unfold hexValue toAsciiLowercase
  rw [String.toList_ofList, ← List.map_reverse, List.map_map]
  have same : text.toList.reverse.map (digitValue ∘ Char.toLower) =
      text.toList.reverse.map digitValue := by
    apply List.map_congr_left
    intro c member
    exact (isDigest.digits c (List.mem_reverse.mp member)).digitValue_toLower
  rw [same]

theorem IsDigest.toAsciiLowercase {text : String} (isDigest : IsDigest text) :
    (toAsciiLowercase text).toList.length = 64 ∧
      ∀ c ∈ (Chat.toAsciiLowercase text).toList, IsSmall c := by
  unfold Chat.toAsciiLowercase
  rw [String.toList_ofList]
  refine ⟨by rw [List.length_map, isDigest.length], ?_⟩
  intro c member
  obtain ⟨digit, isIn, rfl⟩ := List.mem_map.mp member
  exact (isDigest.digits digit isIn).isSmall_toLower

/-- Texts without capitals are told apart by their values. -/
theorem hexValue_inj {left right : String} (small : ∀ c ∈ left.toList, IsSmall c)
    (small' : ∀ c ∈ right.toList, IsSmall c)
    (sameLength : left.toList.length = right.toList.length)
    (same : hexValue left = hexValue right) : left = right := by
  have sameDigits : left.toList.reverse.map digitValue =
      right.toList.reverse.map digitValue := by
    apply Nat.ofDigits_inj_of_len_eq (by decide) _ _ _ same
    · simp [sameLength]
    · intro value member
      obtain ⟨c, isIn, rfl⟩ := List.mem_map.mp member
      exact (IsHex.of_small (small c (List.mem_reverse.mp isIn))).digitValue_lt
    · intro value member
      obtain ⟨c, isIn, rfl⟩ := List.mem_map.mp member
      exact (IsHex.of_small (small' c (List.mem_reverse.mp isIn))).digitValue_lt
  have sameReversed := eq_of_map_digitValue
    (fun c member => small c (List.mem_reverse.mp member))
    (fun c member => small' c (List.mem_reverse.mp member)) sameDigits
  exact String.toList_inj.mp (List.reverse_injective sameReversed)

/-- The texts of one value differ in case only. -/
theorem hexValue_eq_iff {left right : String} (isDigest : IsDigest left)
    (isDigest' : IsDigest right) :
    hexValue left = hexValue right ↔ toAsciiLowercase left = toAsciiLowercase right := by
  have small := isDigest.toAsciiLowercase
  have small' := isDigest'.toAsciiLowercase
  rw [← isDigest.toLower, ← isDigest'.toLower]
  constructor
  · exact hexValue_inj small.2 small'.2 (small.1.trans small'.1.symm)
  · intro same
    rw [same]

/-- The text of a digest that is printed is the recorded one in small letters. -/
theorem hexValue_eq_lower {printed recorded : String} (lower : LowerDigits printed)
    (isDigest : IsDigest recorded) :
    hexValue printed = hexValue recorded ↔ printed = toAsciiLowercase recorded := by
  have unchanged : toAsciiLowercase printed = printed := by
    have same : printed.toList.map Char.toLower = printed.toList :=
      (List.map_congr_left fun c member => (lower.lower c member).toLower).trans (List.map_id _)
    unfold toAsciiLowercase
    rw [same, String.ofList_toList]
  rw [hexValue_eq_iff (.of_lower lower) isDigest, unchanged]

/-! ## The two comparisons -/

section Comparisons

variable {sha256Hex : List UInt8 → String} {files : ModelFiles} {projectRoot : String}

/-- The file of the entry has the digest that its text denotes. -/
def HasDenoted (sha256Hex : List UInt8 → String) (files : ModelFiles) (projectRoot : String)
    (spec : MiniModelSpec) : Prop :=
  ∃ path content, spec.resolvedPath projectRoot = .ok path ∧ files.content path = .ok content ∧
    hexValue (sha256Hex content) = hexValue spec.sha256

/-- `verify_digest` is a comparison of values. -/
def VerifiesDenoted (sha256Hex : List UInt8 → String) (files : ModelFiles) (projectRoot : String)
    (spec : MiniModelSpec) : Prop :=
  spec.verifyDigest sha256Hex files projectRoot = .ok () ↔
    HasDenoted sha256Hex files projectRoot spec

/-- The text of the digest has no capitals. -/
def WrittenSmall (spec : MiniModelSpec) : Prop := toAsciiLowercase spec.sha256 = spec.sha256

theorem verifyDigest_content {spec : MiniModelSpec} :
    spec.verifyDigest sha256Hex files projectRoot = .ok () ↔
      ∃ path content, spec.resolvedPath projectRoot = .ok path ∧
        files.content path = .ok content ∧ sha256Hex content = spec.sha256 := by
  rw [MiniModelSpec.verifyDigest_eq_ok]
  unfold sha256OfFile
  constructor
  · intro verified
    obtain ⟨path, resolved, reads⟩ := verified
    cases contents : files.content path with
    | error error => simp [contents, Except.map] at reads
    | ok content =>
        refine ⟨path, content, resolved, contents, ?_⟩
        simpa [contents, Except.map] using reads
  · intro verified
    obtain ⟨path, content, resolved, contents, same⟩ := verified
    exact ⟨path, resolved, by rw [contents, ← same]; rfl⟩

/-- The comparison of texts is one of values exactly if the text has no capitals, or the file
has another digest anyway. -/
theorem verifiesDenoted_iff (lawful : ∀ content, LowerDigits (sha256Hex content))
    {spec : MiniModelSpec} (isDigest : IsDigest spec.sha256) :
    VerifiesDenoted sha256Hex files projectRoot spec ↔
      WrittenSmall spec ∨ ¬ HasDenoted sha256Hex files projectRoot spec := by
  have denoted_of_same : ∀ content, sha256Hex content = spec.sha256 →
      hexValue (sha256Hex content) = hexValue spec.sha256 := fun _ => congrArg hexValue
  have small_of_same : ∀ content, sha256Hex content = spec.sha256 → WrittenSmall spec := by
    intro content same
    have printed := hexValue_eq_lower (lawful content) isDigest
    unfold WrittenSmall
    rw [← printed.mp (denoted_of_same content same), same]
  unfold VerifiesDenoted
  rw [verifyDigest_content]
  constructor
  · intro sameMeaning
    by_cases denoted : HasDenoted sha256Hex files projectRoot spec
    · obtain ⟨path, content, _, _, same⟩ := sameMeaning.mpr denoted
      exact .inl (small_of_same content same)
    · exact .inr denoted
  · intro either
    constructor
    · intro verified
      obtain ⟨path, content, resolved, contents, same⟩ := verified
      exact ⟨path, content, resolved, contents, denoted_of_same content same⟩
    · intro denoted
      have small : WrittenSmall spec := either.resolve_right (not_not_intro denoted)
      obtain ⟨path, content, resolved, contents, same⟩ := denoted
      refine ⟨path, content, resolved, contents, ?_⟩
      rw [(hexValue_eq_lower (lawful content) isDigest).mp same, small]

/-- Both comparisons of an accepted manifest are of values. -/
def ReadsAsValues (sha256Hex : List UInt8 → String) (files : ModelFiles) (projectRoot : String)
    (manifest : MiniModelManifest) : Prop :=
  (manifest.validate files projectRoot = .ok () →
    ∀ which, VerifiesDenoted sha256Hex files projectRoot (manifest.spec which)) ∧
  (hexValue manifest.primaryMiniModel.sha256 = hexValue manifest.fallbackMiniModel.sha256 →
    manifest.validate files projectRoot ≠ .ok ())

/-- The checks of a manifest but for the comparison of its digests. -/
structure OtherwiseValid (files : ModelFiles) (projectRoot : String)
    (manifest : MiniModelManifest) : Prop where
  schema : manifest.schemaVersion = 1
  specs : ∀ which, (manifest.spec which).validate files projectRoot = .ok ()

theorem validate_eq_ok {manifest : MiniModelManifest} :
    manifest.validate files projectRoot = .ok () ↔
      OtherwiseValid files projectRoot manifest ∧
        manifest.primaryMiniModel.sha256 ≠ manifest.fallbackMiniModel.sha256 := by
  unfold MiniModelManifest.validate
  constructor
  · intro accepted
    split at accepted
    · cases accepted
    · rename_i schema
      obtain ⟨_, primary, rest⟩ := Library.bind_eq_ok.mp accepted
      obtain ⟨_, fallback, rest⟩ := Library.bind_eq_ok.mp rest
      split at rest
      · cases rest
      · rename_i differ
        refine ⟨⟨not_not.mp schema, ?_⟩, differ⟩
        intro which
        cases which with
        | primary => exact primary
        | fallback => exact fallback
  · intro valid
    rw [if_neg (not_not_intro valid.1.schema)]
    refine Library.bind_eq_ok.mpr ⟨(), valid.1.specs .primary, ?_⟩
    refine Library.bind_eq_ok.mpr ⟨(), valid.1.specs .fallback, ?_⟩
    rw [if_neg valid.2]

/-- An entry that is accepted has a digest text. -/
theorem OtherwiseValid.isDigest {manifest : MiniModelManifest}
    (valid : OtherwiseValid files projectRoot manifest) (which : ActiveMiniModel) :
    IsDigest (manifest.spec which).sha256 := by
  have accepted := valid.specs which
  unfold MiniModelSpec.validate at accepted
  split at accepted
  · cases accepted
  · rename_i fine
    apply isDigest_of_isSha256
    simp only [not_or, Bool.not_eq_true, Bool.not_eq_false'] at fine
    exact fine.2.2

/-- The comparisons are of values exactly if a manifest that is valid but for them has texts
that are the same or differ by more than case, and in the latter case no text with capitals
stands for a file with its digest. -/
theorem manifest_readsAsValues_iff (lawful : ∀ content, LowerDigits (sha256Hex content))
    (manifest : MiniModelManifest) :
    ReadsAsValues sha256Hex files projectRoot manifest ↔
      (OtherwiseValid files projectRoot manifest →
        manifest.primaryMiniModel.sha256 ≠ manifest.fallbackMiniModel.sha256 →
        toAsciiLowercase manifest.primaryMiniModel.sha256 ≠
            toAsciiLowercase manifest.fallbackMiniModel.sha256 ∧
          ∀ which, WrittenSmall (manifest.spec which) ∨
            ¬ HasDenoted sha256Hex files projectRoot (manifest.spec which)) := by
  constructor
  · intro reads valid differ
    have accepted := validate_eq_ok.mpr ⟨valid, differ⟩
    have values := hexValue_eq_iff (valid.isDigest .primary) (valid.isDigest .fallback)
    refine ⟨fun same => reads.2 (values.mpr same) accepted, ?_⟩
    intro which
    exact (verifiesDenoted_iff lawful (valid.isDigest which)).mp (reads.1 accepted which)
  · intro condition
    constructor
    · intro accepted which
      obtain ⟨valid, differ⟩ := validate_eq_ok.mp accepted
      exact (verifiesDenoted_iff lawful (valid.isDigest which)).mpr
        ((condition valid differ).2 which)
    · intro same accepted
      obtain ⟨valid, differ⟩ := validate_eq_ok.mp accepted
      have values := hexValue_eq_iff (valid.isDigest .primary) (valid.isDigest .fallback)
      exact (condition valid differ).1 (values.mp same)

end Comparisons

/-! ## A digest with capitals -/

theorem lawful_sampleDigest (content : List UInt8) : LowerDigits (sampleDigest content) := by
  have lowerDigits : ∀ text ∈ ["4bf5122f344554c53bde2ebb8cd2b7e3d1600ad631c385a5d7cce23c7785459a",
      "dbc1b4c900ffe48d575b5da5c638040125f65db0fe3e24494b76ea986457d986"],
      text.toList.length = 64 ∧
        (text.toList.all fun c => c.isDigit || decide (c ∈ "abcdef".toList)) = true := by
    decide +kernel
  have isOne : sampleDigest content ∈
      ["4bf5122f344554c53bde2ebb8cd2b7e3d1600ad631c385a5d7cce23c7785459a",
        "dbc1b4c900ffe48d575b5da5c638040125f65db0fe3e24494b76ea986457d986"] := by
    unfold sampleDigest
    split <;> simp
  obtain ⟨length, digits⟩ := lowerDigits _ isOne
  refine ⟨length, fun c member => ?_⟩
  have digit := List.all_eq_true.mp digits c member
  simpa [LowerHex] using digit

/-- The manifest of the two files, the first digest in capitals. -/
def capitalManifest : MiniModelManifest :=
  { sampleManifest "primary" "fallback" with
    primaryMiniModel :=
      ⟨"primary", "a.gguf", 1,
        "4BF5122F344554C53BDE2EBB8CD2B7E3D1600AD631C385A5D7CCE23C7785459A"⟩ }

theorem manifest_readsAsValues_sample :
    ReadsAsValues sampleDigest sampleFiles "/r" capitalManifest ↔
      (OtherwiseValid sampleFiles "/r" capitalManifest →
        capitalManifest.primaryMiniModel.sha256 ≠ capitalManifest.fallbackMiniModel.sha256 →
        toAsciiLowercase capitalManifest.primaryMiniModel.sha256 ≠
            toAsciiLowercase capitalManifest.fallbackMiniModel.sha256 ∧
          ∀ which, WrittenSmall (capitalManifest.spec which) ∨
            ¬ HasDenoted sampleDigest sampleFiles "/r" (capitalManifest.spec which)) :=
  manifest_readsAsValues_iff lawful_sampleDigest capitalManifest

/-- The manifest is accepted and the file has the digest, and yet it does not verify. -/
theorem not_readsAsValues_capital :
    capitalManifest.validate sampleFiles "/r" = .ok () ∧
      ¬ ReadsAsValues sampleDigest sampleFiles "/r" capitalManifest := by
  have accepted : capitalManifest.validate sampleFiles "/r" = .ok () := by decide +kernel
  refine ⟨accepted, ?_⟩
  intro reads
  have verifies := reads.1 accepted .primary
  have denoted : HasDenoted sampleDigest sampleFiles "/r" (capitalManifest.spec .primary) :=
    ⟨"/r/a.gguf", [1], by decide +kernel, rfl, by decide +kernel⟩
  have refused : (capitalManifest.spec .primary).verifyDigest sampleDigest sampleFiles "/r" ≠
      .ok () := by decide +kernel
  exact refused (verifies.mpr denoted)

end TriAI.MiniModel
