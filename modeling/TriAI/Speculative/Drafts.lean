import TriAI.Speculative.Decoder

/-!
Contract: the drafts of the decoder.

Owns: for which prompts `generateDraft` and `generate` return, with how many drafts, and where
the token ids of the drafts are exact sums.

Does not own: which drafts are accepted (`Speculative.Acceptance`).
-/

set_option autoImplicit false

namespace TriAI.Speculative

/-! ## The loop -/

section Loop

variable {promptTokens : List UInt32}

/-- The draft of a place in the prompt. -/
def draftAt (promptTokens : List UInt32) (index : Nat) : DraftToken where
  tokenId := promptTokens.getD index 0 + UInt32.ofNat index
  logProb := 4 / 5 - index * (1 / 10)
  layer := 0

theorem draftToken_of_lt {index : Nat} (inside : index < promptTokens.length) :
    SpeculativeDecoder.draftToken promptTokens index = .ok (draftAt promptTokens index) := by
  unfold SpeculativeDecoder.draftToken draftAt
  rw [if_neg (by omega), Nat.mod_eq_of_lt inside, List.getElem?_eq_getElem inside,
    List.getD_eq_getElem _ _ inside]

/-- A loop over places of the prompt returns. -/
theorem mapM_draftToken {indices : List Nat}
    (inside : ∀ index ∈ indices, index < promptTokens.length) :
    indices.mapM (SpeculativeDecoder.draftToken promptTokens) =
      .ok (indices.map (draftAt promptTokens)) := by
  induction indices with
  | nil => rfl
  | cons index rest inductionHypothesis =>
      obtain ⟨here, later⟩ := List.forall_mem_cons.mp inside
      rw [List.mapM_cons, draftToken_of_lt here, inductionHypothesis later]
      rfl

variable (decoder : SpeculativeDecoder)

/-- The decoder after its drafts. -/
def afterDrafts (drafts : List DraftToken) (count : Nat) : SpeculativeDecoder :=
  { decoder with
    draftQueue := decoder.draftQueue ++ drafts
    totalDraftGenerated := decoder.totalDraftGenerated + count }

/-- An empty prompt is divided by its length, unless no draft is asked for. -/
theorem generateDraft_nil :
    decoder.generateDraft [] =
      if decoder.config.maxDraftTokens = 0 then .ok ([], afterDrafts decoder [] 0)
      else .error .remainderByZero := by
  unfold SpeculativeDecoder.generateDraft
  by_cases none : decoder.config.maxDraftTokens = 0
  · rw [if_pos none, none]
    rfl
  · have one : min decoder.config.maxDraftTokens 1 = 1 := by omega
    simp only [List.isEmpty_nil, if_true]
    rw [if_neg none, one]
    rfl

theorem generateDraft_of_ne_nil (filled : promptTokens ≠ []) :
    decoder.generateDraft promptTokens =
      let count := min decoder.config.maxDraftTokens promptTokens.length
      let drafts := (List.range count).map (draftAt promptTokens)
      .ok (drafts, afterDrafts decoder drafts count) := by
  have notEmpty : promptTokens.isEmpty = false := by simpa using filled
  have inside : ∀ index ∈ List.range (min decoder.config.maxDraftTokens promptTokens.length),
      index < promptTokens.length := by
    intro index member
    have bound := List.mem_range.mp member
    omega
  unfold SpeculativeDecoder.generateDraft
  simp only [notEmpty, Bool.false_eq_true, if_false]
  rw [mapM_draftToken inside]
  rfl

end Loop

/-! ## Totality -/

section Totality

variable (decoder : SpeculativeDecoder) (promptTokens : List UInt32)

/-- The drafts are returned, as many as are asked for and as the prompt has, with token ids that
are exact sums; and the tokens are generated, whatever the verifier answers. -/
structure DraftsTotally : Prop where
  drafted : ∃ drafts after, decoder.generateDraft promptTokens = .ok (drafts, after) ∧
    drafts.length = min decoder.config.maxDraftTokens promptTokens.length ∧
    ∀ index draft token, drafts[index]? = some draft →
      promptTokens[index % promptTokens.length]? = some token →
      draft.tokenId.toNat = token.toNat + (UInt32.ofNat index).toNat
  generated : ∀ verifierCallback, ∃ accepted after,
    decoder.generate promptTokens verifierCallback = .ok (accepted, after)

/-- The prompt is not empty, or nothing is drafted; and the token at each place for which a draft
is made has room for the place. -/
structure RoomForDrafts (maxDraftTokens : Nat) (promptTokens : List UInt32) : Prop where
  filled : promptTokens ≠ [] ∨ maxDraftTokens = 0
  room : ∀ index token, index < maxDraftTokens → promptTokens[index]? = some token →
    token.toNat + index % 2 ^ 32 < 2 ^ 32

theorem generate_returns {drafts : List DraftToken} {after : SpeculativeDecoder}
    (drafted : decoder.generateDraft promptTokens = .ok (drafts, after))
    (verifierCallback : List DraftToken → List ℚ) :
    ∃ accepted last, decoder.generate promptTokens verifierCallback = .ok (accepted, last) := by
  unfold SpeculativeDecoder.generate
  rw [drafted]
  exact ⟨_, _, rfl⟩

/-- A sum of words that is exact. -/
theorem toNat_add_eq_iff (token : UInt32) (index : Nat) :
    (token + UInt32.ofNat index).toNat = token.toNat + (UInt32.ofNat index).toNat ↔
      token.toNat + index % 2 ^ 32 < 2 ^ 32 := by
  rw [UInt32.toNat_add, UInt32.toNat_ofNat']
  omega

theorem draftsTotally_nil :
    DraftsTotally decoder [] ↔ RoomForDrafts decoder.config.maxDraftTokens [] := by
  have outcome := generateDraft_nil decoder
  by_cases none : decoder.config.maxDraftTokens = 0
  · rw [if_pos none] at outcome
    refine iff_of_true ⟨⟨[], _, outcome, by simp, by simp⟩, ?_⟩ ⟨.inr none, by simp⟩
    exact generate_returns decoder [] outcome
  · rw [if_neg none] at outcome
    apply iff_of_false
    · intro total
      obtain ⟨drafts, after, drafted, _⟩ := total.drafted
      rw [outcome] at drafted
      cases drafted
    · intro room
      exact room.filled.elim (fun filled => filled rfl) none

theorem getElem?_drafts {promptTokens : List UInt32} {count index : Nat} {draft : DraftToken} :
    ((List.range count).map (draftAt promptTokens))[index]? = some draft ↔
      index < count ∧ draftAt promptTokens index = draft := by
  rw [List.getElem?_map, Option.map_eq_some_iff]
  constructor
  · rintro ⟨place, found, same⟩
    obtain ⟨inside, rfl⟩ := List.getElem?_eq_some_iff.mp found
    rw [List.getElem_range] at same
    exact ⟨by simpa using inside, same⟩
  · rintro ⟨inside, same⟩
    exact ⟨index, List.getElem?_range inside, same⟩

theorem draftsTotally_of_ne_nil (filled : promptTokens ≠ []) :
    DraftsTotally decoder promptTokens ↔
      RoomForDrafts decoder.config.maxDraftTokens promptTokens := by
  have outcome := generateDraft_of_ne_nil decoder filled
  have draft_tokenId : ∀ index token, promptTokens[index]? = some token →
      (draftAt promptTokens index).tokenId = token + UInt32.ofNat index := by
    intro index token found
    show promptTokens.getD index 0 + _ = _
    rw [List.getD_eq_getElem?_getD, found, Option.getD_some]
  constructor
  · intro total
    obtain ⟨drafts, after, drafted, _, exactly⟩ := total.drafted
    rw [outcome, Except.ok.injEq, Prod.mk.injEq] at drafted
    refine ⟨.inl filled, ?_⟩
    intro index token asked found
    have inside := (List.getElem?_eq_some_iff.mp found).1
    have sum := exactly index (draftAt promptTokens index) token
    rw [← drafted.1, getElem?_drafts, Nat.mod_eq_of_lt inside, draft_tokenId index token found,
      toNat_add_eq_iff] at sum
    exact sum ⟨by omega, rfl⟩ found
  · intro room
    refine ⟨⟨_, _, outcome, by simp, ?_⟩, generate_returns decoder promptTokens outcome⟩
    intro index draft token drafted found
    rw [getElem?_drafts] at drafted
    have inside : index < promptTokens.length := by omega
    rw [Nat.mod_eq_of_lt inside] at found
    rw [← drafted.2, draft_tokenId index token found, toNat_add_eq_iff]
    exact room.room index token (by omega) found

/-- Exactly the prompts with room for their drafts are drafted totally. -/
theorem generateDraft_total_iff :
    DraftsTotally decoder promptTokens ↔
      RoomForDrafts decoder.config.maxDraftTokens promptTokens := by
  by_cases filled : promptTokens = []
  · subst filled
    exact draftsTotally_nil decoder
  · exact draftsTotally_of_ne_nil decoder promptTokens filled

end Totality

/-- The default decoder divides by the length of an empty prompt; and where the second token of a
prompt is the largest, its draft is token 0. -/
theorem generateDraft_not_total :
    (SpeculativeDecoder.new .default).generateDraft [] = .error .remainderByZero ∧
      ¬ DraftsTotally (.new .default) [] ∧ ¬ DraftsTotally (.new .default) [0, 4294967295] := by
  refine ⟨rfl, ?_, ?_⟩
  · rw [draftsTotally_nil]
    intro room
    exact room.filled.elim (fun filled => filled rfl) (by decide)
  · rw [draftsTotally_of_ne_nil _ _ (by decide)]
    intro room
    exact absurd (room.room 1 4294967295 (by decide) rfl) (by decide)

end TriAI.Speculative
