import TriAI.Catalog.Digests
import TriAI.Library.ListOrder

/-!
Contract: the order of the additions to the catalogue.

Owns: the spellings of a digest that are accepted; that additions commute and absorb their
repetitions; and that the views depend on which additions were made, and on nothing else.

Does not own: which additions a scan makes.
-/

set_option autoImplicit false

namespace TriAI.Catalog

open TriAI.Chat (isWhitespace toAsciiLowercase trimEnd trimStart)
open TriAI.Library

/-! ## Spellings -/

/-- A spelling of a digest: the digits in either case after one of the schemes or none, with
white space around them. -/
structure Spells (value digits : String) : Prop where
  lower : LowerDigits digits
  spelled : ∃ before scheme hex after : List Char,
    value.toList = before ++ (scheme ++ hex) ++ after ∧
    (∀ c ∈ before, isWhitespace c = true) ∧ (∀ c ∈ after, isWhitespace c = true) ∧
    scheme.map Char.toLower ∈ ["".toList, "sha256:".toList, "sha256-".toList] ∧
    hex.map Char.toLower = digits.toList

/-- Every text is what is trimmed of it with white space around. -/
theorem exists_padding (text : String) :
    ∃ before after : List Char, text.toList = before ++ (trim text).toList ++ after ∧
      (∀ c ∈ before, isWhitespace c = true) ∧ (∀ c ∈ after, isWhitespace c = true) := by
  refine ⟨(text.toList.rdropWhile isWhitespace).takeWhile isWhitespace,
    text.toList.rtakeWhile isWhitespace, ?_, ?_, ?_⟩
  · unfold trim trimEnd trimStart
    rw [String.toList_ofList, String.toList_ofList, List.takeWhile_append_dropWhile,
      List.rdropWhile_append_rtakeWhile]
  · exact fun c member => List.mem_takeWhile_imp member
  · exact fun c member => List.mem_rtakeWhile_imp member

/-- Lower case of a character, as a number. -/
theorem toNat_toLower (c : Char) :
    c.toLower.toNat = if 0x41 ≤ c.toNat ∧ c.toNat ≤ 0x5a then c.toNat + 32 else c.toNat := by
  have upper : (c.val ≥ 'A'.val ∧ c.val ≤ 'Z'.val) ↔ 0x41 ≤ c.toNat ∧ c.toNat ≤ 0x5a :=
    and_congr UInt32.le_iff_toNat_le UInt32.le_iff_toNat_le
  unfold Char.toLower
  split
  · rename_i isUpper
    have bounds := upper.mp isUpper
    rw [if_pos bounds]
    show (c.val + ('a'.val - 'A'.val)).toNat = c.val.toNat + 32
    have step : ('a'.val - 'A'.val).toNat = 32 := by decide
    rw [UInt32.toNat_add, step, Nat.mod_eq_of_lt]
    have toNat : c.toNat = c.val.toNat := rfl
    omega
  · rename_i notUpper
    rw [if_neg (mt upper.mpr notUpper)]

/-- Lower case keeps what is white space. -/
theorem isWhitespace_toLower (c : Char) : isWhitespace c.toLower = isWhitespace c := by
  have lowered := toNat_toLower c
  unfold isWhitespace
  rw [decide_eq_decide]
  simp only [List.mem_cons, List.not_mem_nil, or_false]
  split at lowered <;> omega

/-- A hexadecimal digit in lower case. -/
theorem lowerHex_of_isHexDigit {c : Char} (digit : isHexDigit c.toLower = true) :
    LowerHex c.toLower := by
  have lowered := toNat_toLower c
  unfold isHexDigit at digit
  rw [decide_eq_true_eq] at digit
  have range : (0x30 ≤ c.toLower.toNat ∧ c.toLower.toNat ≤ 0x39) ∨
      (0x61 ≤ c.toLower.toNat ∧ c.toLower.toNat ≤ 0x66) := by
    split at lowered <;> omega
  rcases range with number | letter
  · exact .inl (Char.isDigit_iff_toNat.mpr number)
  · right
    have letters : ∀ n : Nat, 0x61 ≤ n ∧ n ≤ 0x66 → Char.ofNat n ∈ "abcdef".toList := by
      rintro n ⟨low, high⟩
      interval_cases n <;> decide
    have member := letters _ letter
    rwa [Char.ofNat_toNat] at member

/-- A scheme before the text, if there is one, is what `strip_prefix` takes away. -/
theorem exists_scheme (text : List Char) :
    ∃ scheme ∈ ["".toList, "sha256:".toList, "sha256-".toList],
      text = scheme ++ withoutScheme text := by
  unfold withoutScheme
  split
  · exact ⟨"sha256:".toList, by simp, rfl⟩
  · exact ⟨"sha256-".toList, by simp, rfl⟩
  · exact ⟨"".toList, by simp, rfl⟩

theorem withoutScheme_append {scheme digits : List Char}
    (isScheme : scheme ∈ ["".toList, "sha256:".toList, "sha256-".toList])
    (hexDigits : ∀ c ∈ digits, isHexDigit c = true) :
    withoutScheme (scheme ++ digits) = digits := by
  simp only [List.mem_cons, List.not_mem_nil, or_false] at isScheme
  rcases isScheme with rfl | rfl | rfl
  · exact withoutScheme_hex hexDigits
  · rfl
  · rfl

theorem visible_scheme {scheme : List Char} {c : Char}
    (isScheme : scheme ∈ ["".toList, "sha256:".toList, "sha256-".toList]) (member : c ∈ scheme) :
    isWhitespace c = false := by
  simp only [List.mem_cons, List.not_mem_nil, or_false] at isScheme
  have oneOf : c ∈ ['s', 'h', 'a', '2', '5', '6', ':', '-'] := by
    rcases isScheme with rfl | rfl | rfl
    · cases member
    · have inScheme : c ∈ ['s', 'h', 'a', '2', '5', '6', ':'] := member
      exact List.mem_append_left ['-'] inScheme
    · have inScheme : c ∈ ['s', 'h', 'a', '2', '5', '6', '-'] := member
      simp only [List.mem_cons] at inScheme ⊢
      tauto
  simp only [List.mem_cons, List.not_mem_nil, or_false] at oneOf
  rcases oneOf with rfl | rfl | rfl | rfl | rfl | rfl | rfl | rfl <;> decide

/-- Every spelling of a digest is accepted, and leads to the entry of the digest. -/
theorem Spells.normalizeSha256_eq {value digits : String} (spells : Spells value digits) :
    normalizeSha256 value = .ok ("sha256:" ++ digits) := by
  obtain ⟨lower, before, scheme, hex, after, parts, spaceBefore, spaceAfter, isScheme, isHex⟩ :=
    spells
  have hexDigits : ∀ c ∈ digits.toList, isHexDigit c = true :=
    fun c member => (lower.lower c member).isHexDigit
  have lowered : (scheme ++ hex).map Char.toLower = scheme.map Char.toLower ++ digits.toList := by
    rw [List.map_append, isHex]
  have visible : ∀ c ∈ scheme ++ hex, isWhitespace c = false := by
    intro c member
    rw [← isWhitespace_toLower]
    have memberLower := List.mem_map_of_mem (f := Char.toLower) member
    rw [lowered, List.mem_append] at memberLower
    rcases memberLower with inScheme | inDigits
    · exact visible_scheme isScheme inScheme
    · exact (lower.lower _ inDigits).visible
  have trimmed : trim value = String.ofList (scheme ++ hex) := by
    rw [← String.ofList_toList (s := value), parts]
    exact trim_padded spaceBefore visible spaceAfter
  unfold normalizeSha256 toAsciiLowercase
  simp only [trimmed, String.toList_ofList, lowered, withoutScheme_append isScheme hexDigits]
  rw [if_pos ⟨lower.length, List.all_eq_true.mpr hexDigits⟩, String.ofList_toList]

/-- Whatever is accepted is a spelling of the digest it leads to. -/
theorem spells_of_normalizeSha256 {value id : String} (accepted : normalizeSha256 value = .ok id) :
    ∃ digits, Spells value digits ∧ id = "sha256:" ++ digits := by
  obtain ⟨before, after, parts, spaceBefore, spaceAfter⟩ := exists_padding value
  unfold normalizeSha256 toAsciiLowercase at accepted
  simp only [String.toList_ofList] at accepted
  split at accepted
  · rename_i valid
    cases accepted
    obtain ⟨scheme, isScheme, split⟩ := exists_scheme ((trim value).toList.map Char.toLower)
    obtain ⟨front, hex, whole, frontLower, hexLower⟩ := List.map_eq_append_iff.mp split
    refine ⟨_, ⟨⟨?_, ?_⟩, before, front, hex, after, ?_, spaceBefore, spaceAfter, ?_, ?_⟩, rfl⟩
    · rw [String.toList_ofList]
      exact valid.1
    · intro c member
      rw [String.toList_ofList, ← hexLower, List.mem_map] at member
      obtain ⟨original, inHex, rfl⟩ := member
      apply lowerHex_of_isHexDigit
      apply List.all_eq_true.mp valid.2
      rw [← hexLower]
      exact List.mem_map_of_mem inHex
    · rw [← whole]
      exact parts
    · rw [frontLower]
      exact isScheme
    · rw [String.toList_ofList, hexLower]
  · cases accepted

/-! ## Additions commute -/

theorem withOption_comm {T : Type} [DecidableEq T] (first second : Option T) (values : Finset T) :
    withOption first (withOption second values) = withOption second (withOption first values) :=
  Finset.union_right_comm values _ _

theorem withOption_absorbs {T : Type} [DecidableEq T] (value : Option T) (values : Finset T) :
    withOption value (withOption value values) = withOption value values := by
  unfold withOption
  rw [Finset.union_assoc, Finset.union_self]

namespace EntryAccumulator

variable (accumulator : EntryAccumulator) (location location' : CatalogLocation)
  (ollamaName ollamaName' : Option String) (metadata metadata' : CatalogMetadata)

theorem merge_comm :
    (accumulator.merge location ollamaName metadata).merge location' ollamaName' metadata' =
      (accumulator.merge location' ollamaName' metadata').merge location ollamaName metadata := by
  have verified : ∀ family family' : Option String,
      (if metadata'.familyVerified then
        withOption family' (if metadata.familyVerified then
          withOption family accumulator.verifiedFamilies else accumulator.verifiedFamilies)
      else if metadata.familyVerified then withOption family accumulator.verifiedFamilies
        else accumulator.verifiedFamilies) =
      (if metadata.familyVerified then
        withOption family (if metadata'.familyVerified then
          withOption family' accumulator.verifiedFamilies else accumulator.verifiedFamilies)
      else if metadata'.familyVerified then withOption family' accumulator.verifiedFamilies
        else accumulator.verifiedFamilies) := by
    intro family family'
    split <;> split
    · exact withOption_comm family' family _
    · rfl
    · rfl
    · rfl
  have names : ∀ a b c d e f : Option (Lex (Nat × String)),
      withOption a (withOption b (withOption c (withOption d (withOption e
        (withOption f accumulator.names))))) =
      withOption d (withOption e (withOption f (withOption a (withOption b
        (withOption c accumulator.names))))) := by
    intro a b c d e f
    unfold withOption
    simp only [Finset.union_assoc]
    congr 1
    rw [← Finset.union_assoc, ← Finset.union_assoc, Finset.union_comm]
    simp only [Finset.union_assoc]
  unfold merge
  simp only [EntryAccumulator.mk.injEq, true_and]
  -- the backends are equal because there is only one
  exact ⟨names .., withOption_comm .., Finset.insert_comm .., withOption_comm ..,
    withOption_comm .., verified .., withOption_comm .., withOption_comm .., withOption_comm ..,
    withOption_comm .., Finset.union_right_comm .., withOption_comm ..⟩

theorem merge_absorbs :
    (accumulator.merge location ollamaName metadata).merge location ollamaName metadata =
      accumulator.merge location ollamaName metadata := by
  have verified : ∀ family : Option String,
      (if metadata.familyVerified then
        withOption family (if metadata.familyVerified then
          withOption family accumulator.verifiedFamilies else accumulator.verifiedFamilies)
      else if metadata.familyVerified then withOption family accumulator.verifiedFamilies
        else accumulator.verifiedFamilies) =
      (if metadata.familyVerified then withOption family accumulator.verifiedFamilies
        else accumulator.verifiedFamilies) := by
    intro family
    split
    · exact withOption_absorbs family _
    · rfl
  have names : ∀ a b c : Option (Lex (Nat × String)),
      withOption a (withOption b (withOption c (withOption a (withOption b
        (withOption c accumulator.names))))) =
      withOption a (withOption b (withOption c accumulator.names)) := by
    intro a b c
    rw [withOption_comm c a, withOption_comm b a, withOption_absorbs, withOption_comm c b,
      withOption_absorbs, withOption_absorbs]
  have union : ∀ some more : Finset String, some ∪ more ∪ more = some ∪ more := by
    intro some more
    rw [Finset.union_assoc, Finset.union_self]
  unfold merge
  simp only [EntryAccumulator.mk.injEq, true_and]
  exact ⟨names .., withOption_absorbs .., Finset.insert_idem .., withOption_absorbs ..,
    Finset.insert_idem .., withOption_absorbs .., verified .., withOption_absorbs ..,
    withOption_absorbs .., withOption_absorbs .., withOption_absorbs .., union ..,
    withOption_absorbs ..⟩

end EntryAccumulator

namespace Addition

/-- The name an addition gives to the model. -/
def ollamaName : Addition → Option String
  | .ollama _ ollamaName _ => cleaned ollamaName
  | _ => none

theorem apply_eq (catalog : ModelCatalog) (addition : Addition) :
    addition.apply catalog =
      catalog.add addition.location.source addition.location.path addition.ollamaName
        addition.metadata := by
  cases addition <;> rfl

/-- The entry of a digest after an addition. -/
def mergedEntry (addition : Addition) (catalog : ModelCatalog) (digest : String) :
    EntryAccumulator :=
  ((catalog.entries.lookup digest).getD { digest }).merge addition.location addition.ollamaName
    addition.metadata

end Addition

namespace ModelCatalog

variable {catalog : ModelCatalog} {addition : Addition} {digest : String}

theorem receive_of_ok (accepted : normalizeSha256 addition.metadata.digest = .ok digest) :
    catalog.receive addition =
      ⟨catalog.entries.insert digest (addition.mergedEntry catalog digest)⟩ := by
  unfold receive
  rw [Addition.apply_eq, add, accepted]
  rfl

theorem receive_of_error {error : CatalogError}
    (refused : normalizeSha256 addition.metadata.digest = .error error) :
    catalog.receive addition = catalog := by
  unfold receive
  rw [Addition.apply_eq, add, refused]
  rfl

end ModelCatalog

/-- Two additions to different entries. -/
private theorem mergedEntry_of_ne {catalog : ModelCatalog} {addition : Addition}
    {digest other : String} (different : digest ≠ other) (entry : EntryAccumulator) :
    addition.mergedEntry ⟨catalog.entries.insert other entry⟩ digest =
      addition.mergedEntry catalog digest := by
  unfold Addition.mergedEntry
  rw [Finmap.lookup_insert_of_ne catalog.entries different]

/-- Two additions to one entry. -/
private theorem mergedEntry_of_eq {catalog : ModelCatalog} {addition : Addition}
    {digest : String} (entry : EntryAccumulator) :
    addition.mergedEntry ⟨catalog.entries.insert digest entry⟩ digest =
      entry.merge addition.location addition.ollamaName addition.metadata := by
  unfold Addition.mergedEntry
  rw [Finmap.lookup_insert]
  rfl

/-- Additions commute, and a second one of a kind changes nothing. -/
theorem orderFree_receive : OrderFree ModelCatalog.receive where
  comm := by
    intro catalog first second
    cases acceptedFirst : normalizeSha256 first.metadata.digest with
    | error _ =>
        rw [ModelCatalog.receive_of_error acceptedFirst,
          ModelCatalog.receive_of_error acceptedFirst]
    | ok digest =>
        cases acceptedSecond : normalizeSha256 second.metadata.digest with
        | error _ =>
            rw [ModelCatalog.receive_of_error acceptedSecond,
              ModelCatalog.receive_of_error acceptedSecond]
        | ok digest' =>
            rw [ModelCatalog.receive_of_ok acceptedFirst, ModelCatalog.receive_of_ok acceptedSecond,
              ModelCatalog.receive_of_ok acceptedSecond, ModelCatalog.receive_of_ok acceptedFirst]
            by_cases same : digest = digest'
            · subst same
              rw [mergedEntry_of_eq, mergedEntry_of_eq, Finmap.insert_insert, Finmap.insert_insert]
              unfold Addition.mergedEntry
              rw [EntryAccumulator.merge_comm]
            · rw [mergedEntry_of_ne (Ne.symm same), mergedEntry_of_ne same,
                Finmap.insert_insert_of_ne _ same]
  absorbs := by
    intro catalog addition
    cases accepted : normalizeSha256 addition.metadata.digest with
    | error _ => rw [ModelCatalog.receive_of_error accepted]
    | ok digest =>
        rw [ModelCatalog.receive_of_ok accepted, ModelCatalog.receive_of_ok accepted,
          mergedEntry_of_eq, Finmap.insert_insert]
        unfold Addition.mergedEntry
        rw [EntryAccumulator.merge_absorbs]

/-! ## What the views depend on -/

/-- The catalogue of a list of additions. -/
def ModelCatalog.build (additions : List Addition) : ModelCatalog :=
  additions.foldl ModelCatalog.receive {}

/-- The identifiers of a catalogue are the digests that were accepted. -/
theorem mem_build {additions : List Addition} {id : String}
    (present : id ∈ (ModelCatalog.build additions).entries) :
    ∃ addition ∈ additions, normalizeSha256 addition.metadata.digest = .ok id := by
  induction additions using List.reverseRecOn with
  | nil => exact absurd present (Finmap.notMem_empty)
  | append_singleton additions addition inductionHypothesis =>
      unfold ModelCatalog.build at present
      rw [List.foldl_append, List.foldl_cons, List.foldl_nil] at present
      have earlier : id ∈ (ModelCatalog.build additions).entries →
          ∃ addition' ∈ additions ++ [addition],
            normalizeSha256 addition'.metadata.digest = .ok id := by
        intro before
        obtain ⟨found, member, accepted⟩ := inductionHypothesis before
        exact ⟨found, List.mem_append_left _ member, accepted⟩
      cases accepted : normalizeSha256 addition.metadata.digest with
      | error _ =>
          rw [ModelCatalog.receive_of_error accepted] at present
          exact earlier present
      | ok digest =>
          rw [ModelCatalog.receive_of_ok accepted, Finmap.mem_insert] at present
          rcases present with rfl | before
          · exact ⟨addition, List.mem_append_right _ (List.mem_singleton_self _), accepted⟩
          · exact earlier before

/-- An addition that was made is found in the entry of its digest. -/
theorem lookup_build {additions : List Addition} {addition : Addition} {id : String}
    (made : addition ∈ additions) (accepted : normalizeSha256 addition.metadata.digest = .ok id) :
    ∃ entry, (ModelCatalog.build additions).entries.lookup id = some entry ∧
      addition.location ∈ entry.locations := by
  have again : (ModelCatalog.build additions).receive addition = ModelCatalog.build additions :=
    orderFree_receive.foldl_absorbs made {}
  rw [← again, ModelCatalog.receive_of_ok accepted]
  exact ⟨_, Finmap.lookup_insert _, Finset.mem_insert_self _ _⟩

/-- Two identifiers that spell one digest are the same. -/
theorem eq_of_spells {additions : List Addition} {id digits : String}
    (present : id ∈ (ModelCatalog.build additions).entries) (spells : Spells id digits) :
    id = "sha256:" ++ digits := by
  obtain ⟨addition, _, accepted⟩ := mem_build present
  obtain ⟨own, ownSpells, rfl⟩ := spells_of_normalizeSha256 accepted
  have normalized := spells.normalizeSha256_eq
  rw [ownSpells.lower.normalizeSha256_eq] at normalized
  exact Except.ok.inj normalized

/-- The views do not depend on the order of the additions nor on repetitions, and all
additions that spell one digest are in its one entry. -/
theorem catalog_orderFree :
    (∀ left right : List Addition, left.Perm right →
      (ModelCatalog.build left).entryList = (ModelCatalog.build right).entryList ∧
      (ModelCatalog.build left).summaries = (ModelCatalog.build right).summaries) ∧
    (∀ (front back : List Addition) (addition : Addition), addition ∈ front ++ back →
      (ModelCatalog.build (front ++ addition :: back)).entryList =
        (ModelCatalog.build (front ++ back)).entryList ∧
      (ModelCatalog.build (front ++ addition :: back)).summaries =
        (ModelCatalog.build (front ++ back)).summaries) ∧
    (∀ (additions : List Addition) (digits : String),
      (∃ addition ∈ additions, Spells addition.metadata.digest digits) →
      ∃ entry, (ModelCatalog.build additions).entries.lookup ("sha256:" ++ digits) = some entry ∧
        (∀ addition ∈ additions, Spells addition.metadata.digest digits →
          addition.location ∈ entry.locations) ∧
        ∀ id ∈ (ModelCatalog.build additions).entries, Spells id digits →
          id = "sha256:" ++ digits) := by
  refine ⟨?_, ?_, ?_⟩
  · intro left right perm
    have same : ModelCatalog.build left = ModelCatalog.build right :=
      orderFree_receive.foldl_perm perm {}
    rw [same]
    exact ⟨rfl, rfl⟩
  · intro front back addition occurs
    have same : ModelCatalog.build (front ++ addition :: back) =
        ModelCatalog.build (front ++ back) := by
      apply orderFree_receive.foldl_eq_of_mem_iff
      intro item
      rw [List.mem_append, List.mem_cons, ← or_assoc, or_comm (a := item ∈ front), or_assoc,
        ← List.mem_append]
      constructor
      · rintro (rfl | member)
        · exact occurs
        · exact member
      · exact .inr
    rw [same]
    exact ⟨rfl, rfl⟩
  · rintro additions digits ⟨first, made, spells⟩
    obtain ⟨entry, found, _⟩ := lookup_build made spells.normalizeSha256_eq
    refine ⟨entry, found, ?_, fun id present spelled => eq_of_spells present spelled⟩
    intro addition other otherSpells
    obtain ⟨entry', found', located⟩ := lookup_build other otherSpells.normalizeSha256_eq
    rw [found] at found'
    cases found'
    exact located

end TriAI.Catalog
