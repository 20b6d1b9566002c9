import TriAI.Catalog.Order

/-!
Contract: the entries of the catalogue that cannot be started.

Owns: when the sources of an entry disagree or speak against it; that additions only widen an
entry, so that a blocked one stays blocked; and where a start location comes from.

Does not own: the order of the additions (`Catalog.Order`), and which additions a scan makes.
-/

set_option autoImplicit false

namespace TriAI.Catalog

/-! ## Entries -/

namespace EntryAccumulator

/-- The sources of an entry give one of its fields several values. -/
def HasConflict (accumulator : EntryAccumulator) : Prop :=
  1 < accumulator.sizes.card ∨ 1 < accumulator.backends.card ∨ 1 < accumulator.families.card ∨
    1 < accumulator.formats.card ∨ 1 < accumulator.parameters.card ∨
    1 < accumulator.quantizations.card ∨ 1 < accumulator.contextLengths.card

/-- A source of an entry gives a reason against it. -/
def HasReason (accumulator : EntryAccumulator) : Prop := accumulator.unavailableReasons.Nonempty

def Blocked (accumulator : EntryAccumulator) : Prop :=
  accumulator.HasConflict ∨ accumulator.HasReason

variable {accumulator before after : EntryAccumulator}

theorem conflict_eq_none {T : Type} [LinearOrder T] (field : String) (values : Finset T)
    (text : T → String) : conflict field values text = none ↔ ¬ 1 < values.card := by
  unfold conflict
  split
  · rename_i several
    simp [several]
  · rename_i single
    simp [single]

theorem conflicts_eq_nil : accumulator.conflicts = [] ↔ ¬ accumulator.HasConflict := by
  unfold conflicts HasConflict
  simp only [List.filterMap_eq_nil_iff, List.forall_mem_cons, id_eq, conflict_eq_none, not_or]
  simp

theorem reasons_eq_nil : accumulator.reasons = [] ↔ ¬ accumulator.Blocked := by
  have listed : accumulator.unavailableReasons.sort = [] ↔ ¬ accumulator.HasReason := by
    unfold HasReason
    rw [← List.length_eq_zero_iff, Finset.length_sort, Finset.card_eq_zero,
      Finset.not_nonempty_iff_eq_empty]
  unfold reasons Blocked
  rw [List.append_eq_nil_iff, listed, not_or, and_comm, ← conflicts_eq_nil]
  by_cases agree : accumulator.conflicts = []
  · simp [agree]
  · simp [agree]

/-- Exactly the entries that nothing blocks can be started. -/
theorem startable_iff : accumulator.toEntry.startable = true ↔ ¬ accumulator.Blocked := by
  rw [← reasons_eq_nil]
  show (if accumulator.reasons = [] then none else _ : Option String).isNone = true ↔ _
  split
  · rename_i none
    simp [none]
  · rename_i some
    simp [some]

/-! ## Additions to an entry -/

/-- Everything that was said of one entry is said of another. -/
structure Within (before after : EntryAccumulator) : Prop where
  sizes : before.sizes ⊆ after.sizes
  backends : before.backends ⊆ after.backends
  families : before.families ⊆ after.families
  formats : before.formats ⊆ after.formats
  parameters : before.parameters ⊆ after.parameters
  quantizations : before.quantizations ⊆ after.quantizations
  contextLengths : before.contextLengths ⊆ after.contextLengths
  unavailableReasons : before.unavailableReasons ⊆ after.unavailableReasons

theorem subset_withOption {T : Type} [DecidableEq T] (value : Option T) (values : Finset T) :
    values ⊆ withOption value values := Finset.subset_union_left

theorem within_merge (accumulator : EntryAccumulator) (location : CatalogLocation)
    (ollamaName : Option String) (metadata : CatalogMetadata) :
    accumulator.Within (accumulator.merge location ollamaName metadata) where
  sizes := subset_withOption _ _
  backends := Finset.subset_insert _ _
  families := subset_withOption _ _
  formats := subset_withOption _ _
  parameters := subset_withOption _ _
  quantizations := subset_withOption _ _
  contextLengths := subset_withOption _ _
  unavailableReasons := subset_withOption _ _

theorem HasConflict.widen (conflict : before.HasConflict) (within : before.Within after) :
    after.HasConflict := by
  have more : ∀ {T : Type} {few many : Finset T}, few ⊆ many → 1 < few.card → 1 < many.card :=
    fun subset several => Nat.lt_of_lt_of_le several (Finset.card_le_card subset)
  exact conflict.imp (more within.sizes) <| .imp (more within.backends) <|
    .imp (more within.families) <| .imp (more within.formats) <|
    .imp (more within.parameters) <| .imp (more within.quantizations) (more within.contextLengths)

theorem Blocked.widen (blocked : before.Blocked) (within : before.Within after) :
    after.Blocked :=
  blocked.imp (fun conflict => conflict.widen within)
    fun reason => reason.mono within.unavailableReasons

end EntryAccumulator

/-! ## Additions to the catalogue -/

/-- The catalogue has an entry of this identifier, and it is blocked. -/
def ModelCatalog.Blocks (catalog : ModelCatalog) (id : String) : Prop :=
  ∃ entry, catalog.entries.lookup id = some entry ∧ entry.Blocked

/-- What the additions say of the entry they led to. -/
structure Recorded (additions : List Addition) (id : String) (entry : EntryAccumulator) :
    Prop where
  digest : entry.digest = id
  located : ∀ location ∈ entry.locations, ∃ addition ∈ additions,
    addition.location = location ∧ normalizeSha256 addition.metadata.digest = .ok id

section Additions

variable {catalog : ModelCatalog} {additions : List Addition} {id : String}
  {entry : EntryAccumulator}

theorem Recorded.append (recorded : Recorded additions id entry) (more : List Addition) :
    Recorded (additions ++ more) id entry where
  digest := recorded.digest
  located := by
    intro location member
    obtain ⟨addition, made, located⟩ := recorded.located location member
    exact ⟨addition, List.mem_append_left _ made, located⟩

/-- Step lemma. -/
theorem Recorded.merge (recorded : Recorded additions id entry) (addition : Addition)
    (accepted : normalizeSha256 addition.metadata.digest = .ok id) :
    Recorded (additions ++ [addition]) id
      (entry.merge addition.location addition.ollamaName addition.metadata) where
  digest := recorded.digest
  located := by
    intro location member
    rcases Finset.mem_insert.mp member with rfl | earlier
    · exact ⟨addition, List.mem_append_right _ (List.mem_singleton_self _), rfl, accepted⟩
    · exact (recorded.append [addition]).located location earlier

theorem build_append_singleton (additions : List Addition) (addition : Addition) :
    ModelCatalog.build (additions ++ [addition]) =
      (ModelCatalog.build additions).receive addition := by
  unfold ModelCatalog.build
  rw [List.foldl_append, List.foldl_cons, List.foldl_nil]

/-- Run lemma: the entries hold what was added under their identifiers. -/
theorem recorded_build (found : (ModelCatalog.build additions).entries.lookup id = some entry) :
    Recorded additions id entry := by
  induction additions using List.reverseRecOn generalizing entry with
  | nil => exact absurd found (by simp [ModelCatalog.build])
  | append_singleton additions addition inductionHypothesis =>
      rw [build_append_singleton] at found
      cases accepted : normalizeSha256 addition.metadata.digest with
      | error _ =>
          rw [ModelCatalog.receive_of_error accepted] at found
          exact (inductionHypothesis found).append _
      | ok digest =>
          rw [ModelCatalog.receive_of_ok accepted] at found
          by_cases same : id = digest
          · subst same
            rw [Finmap.lookup_insert] at found
            obtain rfl := Option.some.inj found
            apply Recorded.merge _ addition accepted
            cases earlier : (ModelCatalog.build additions).entries.lookup id with
            | none => exact ⟨rfl, fun location member => absurd member (Finset.notMem_empty _)⟩
            | some entry => exact inductionHypothesis earlier
          · rw [Finmap.lookup_insert_of_ne _ same] at found
            exact (inductionHypothesis found).append _

/-- Step lemma: an addition leaves a blocked entry blocked. -/
theorem ModelCatalog.Blocks.receive (blocks : catalog.Blocks id) (addition : Addition) :
    (catalog.receive addition).Blocks id := by
  obtain ⟨entry, found, blocked⟩ := blocks
  cases accepted : normalizeSha256 addition.metadata.digest with
  | error _ =>
      rw [ModelCatalog.receive_of_error accepted]
      exact ⟨entry, found, blocked⟩
  | ok digest =>
      rw [ModelCatalog.receive_of_ok accepted]
      by_cases same : id = digest
      · subst same
        refine ⟨_, Finmap.lookup_insert _, ?_⟩
        unfold Addition.mergedEntry
        rw [found]
        exact blocked.widen (entry.within_merge _ _ _)
      · exact ⟨entry, (Finmap.lookup_insert_of_ne _ same).trans found, blocked⟩

/-- Run lemma. -/
theorem ModelCatalog.Blocks.append (blocks : (ModelCatalog.build additions).Blocks id)
    (later : List Addition) : (ModelCatalog.build (additions ++ later)).Blocks id := by
  induction later using List.reverseRecOn with
  | nil => rwa [List.append_nil]
  | append_singleton later addition inductionHypothesis =>
      rw [← List.append_assoc, build_append_singleton]
      exact inductionHypothesis.receive addition

/-- The views show a blocked entry as one that cannot be started. -/
theorem ModelCatalog.Blocks.not_startable (blocks : (ModelCatalog.build additions).Blocks id) :
    ∀ view ∈ (ModelCatalog.build additions).entryList, view.id = id → view.startable = false := by
  intro view member same
  obtain ⟨entry, found, blocked⟩ := blocks
  obtain ⟨key, _, shown⟩ := List.mem_filterMap.mp member
  obtain ⟨accumulator, present, rfl⟩ := Option.map_eq_some_iff.mp shown
  have own : accumulator.digest = key := (recorded_build present).digest
  obtain rfl : key = id := own.symm.trans same
  rw [found] at present
  obtain rfl := Option.some.inj present
  rw [← Bool.not_eq_true, EntryAccumulator.startable_iff]
  exact not_not.mpr blocked

theorem ModelCatalog.Blocks.startLocation_eq_none (blocks : catalog.Blocks id) :
    catalog.startLocation id = none := by
  obtain ⟨entry, found, blocked⟩ := blocks
  cases starts : catalog.startLocation id with
  | none => rfl
  | some location =>
      obtain ⟨other, present, startable, _⟩ := ModelCatalog.startLocation_eq_some starts
      rw [found] at present
      obtain rfl := Option.some.inj present
      exact absurd blocked (EntryAccumulator.startable_iff.mp startable)

end Additions

/-- A blocked entry is never started, whatever is added later; and a start location was added
from its source under a digest of the entry, which nothing blocks. -/
theorem catalog_staysBlocked :
    (∀ (additions later : List Addition) (id : String),
      (ModelCatalog.build additions).Blocks id →
      (ModelCatalog.build (additions ++ later)).Blocks id ∧
      (∀ view ∈ (ModelCatalog.build (additions ++ later)).entryList,
        view.id = id → view.startable = false) ∧
      (ModelCatalog.build (additions ++ later)).startLocation id = none) ∧
    (∀ (additions : List Addition) (id : String) (source : SourceKind) (path : Path),
      (ModelCatalog.build additions).startLocation id = some (source, path) →
      (∃ addition ∈ additions, addition.location = ⟨source, path⟩ ∧
        normalizeSha256 addition.metadata.digest = .ok id) ∧
      ∃ entry, (ModelCatalog.build additions).entries.lookup id = some entry ∧
        ¬ entry.HasConflict ∧ ¬ entry.HasReason) := by
  constructor
  · intro additions later id blocks
    have still := blocks.append later
    exact ⟨still, still.not_startable, still.startLocation_eq_none⟩
  · intro additions id source path starts
    obtain ⟨entry, found, startable, member⟩ := ModelCatalog.startLocation_eq_some starts
    have free := EntryAccumulator.startable_iff.mp startable
    exact ⟨(recorded_build found).located _ member, entry, found, not_or.mp free⟩

/-- A file with the digest of 64 times the digit a. -/
def sampleAddition (name : String) (size : Nat) : Addition :=
  .directGguf [name] { digest := String.ofList (List.replicate 64 'a'), sizeBytes := some size }

def sampleId : String := "sha256:" ++ String.ofList (List.replicate 64 'a')

/-- Two files of one digest and two sizes: the first one starts, the entry of both never does. -/
theorem catalog_staysBlocked_sizes :
    (ModelCatalog.build [sampleAddition "a" 1]).startLocation sampleId =
        some (.directGguf, ["a"]) ∧
      ∀ later, (ModelCatalog.build
        ([sampleAddition "a" 1, sampleAddition "b" 2] ++ later)).startLocation sampleId = none := by
  have blocks : (ModelCatalog.build [sampleAddition "a" 1, sampleAddition "b" 2]).Blocks
      sampleId := by
    have sizes : ((ModelCatalog.build [sampleAddition "a" 1, sampleAddition "b" 2]).entries.lookup
        sampleId).elim 0 (fun entry => entry.sizes.card) = 2 := by decide +kernel
    unfold ModelCatalog.Blocks
    generalize (ModelCatalog.build _).entries.lookup sampleId = found at sizes ⊢
    cases found with
    | none => cases sizes
    | some entry => exact ⟨entry, rfl, .inl (.inl (Nat.lt_of_lt_of_eq Nat.one_lt_two sizes.symm))⟩
  exact ⟨by decide +kernel, fun later => (catalog_staysBlocked.1 _ later _ blocks).2.2⟩

end TriAI.Catalog
