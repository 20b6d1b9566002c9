import TriAI.Speculative.Decoder

/-!
Contract: which draft tokens the decoder accepts.

Owns: what `verifyAndAccept` accepts of every draft, and when that is the prefix before the
first draft that is rejected or not covered by the verifier.

Does not own: the decoder.
-/

set_option autoImplicit false

namespace TriAI.Speculative

/-! ## Prefixes -/

section Prefixes

variable {α : Type} {keep : α → Bool} {items : List α}

/-- The kept items are the first ones, and those kept behind a dropped one. -/
theorem filter_eq_takeWhile_append (keep : α → Bool) (items : List α) :
    items.filter keep = items.takeWhile keep ++ (items.dropWhile keep).filter keep := by
  induction items with
  | nil => rfl
  | cons item rest inductionHypothesis =>
      by_cases kept : keep item = true
      · rw [List.filter_cons_of_pos kept, List.takeWhile_cons_of_pos kept,
          List.dropWhile_cons_of_pos kept, List.cons_append, ← inductionHypothesis]
      · rw [List.takeWhile_cons_of_neg kept, List.dropWhile_cons_of_neg kept, List.nil_append]

/-- Nothing behind a dropped item is kept. -/
theorem filter_dropWhile_eq_nil_iff :
    (items.dropWhile keep).filter keep = [] ↔
      items.Pairwise fun earlier later => keep earlier = false → keep later = false := by
  induction items with
  | nil => simp
  | cons item rest inductionHypothesis =>
      rw [List.pairwise_cons]
      by_cases kept : keep item = true
      · rw [List.dropWhile_cons_of_pos kept, inductionHypothesis]
        simp [kept]
      · have dropped : keep item = false := Bool.not_eq_true _ ▸ kept
        rw [List.dropWhile_cons_of_neg kept, List.filter_cons_of_neg kept, List.filter_eq_nil_iff]
        constructor
        · intro none
          have later : ∀ other ∈ rest, keep other = false := fun other member =>
            Bool.eq_false_iff.mpr (none other member)
          exact ⟨fun other member _ => later other member,
            List.pairwise_of_forall_mem_list fun _ _ other member _ => later other member⟩
        · rintro ⟨after, _⟩ other member
          exact Bool.eq_false_iff.mp (after other member dropped)

theorem map_fst_zip_eq_take {β : Type} (left : List α) (right : List β) :
    (left.zip right).map Prod.fst = left.take right.length := by
  induction left generalizing right with
  | nil => simp
  | cons item rest inductionHypothesis =>
      cases right with
      | nil => simp
      | cons other others => simp [inductionHypothesis]

end Prefixes

/-! ## Acceptance -/

section Acceptance

variable (decoder : SpeculativeDecoder) (draftTokens : List DraftToken)
  (verifierLogprobs : List ℚ)

/-- The drafts with an answer of the verifier, and whether it accepts them. -/
def acceptsPair (pair : DraftToken × ℚ) : Bool := decoder.accepts pair.1 pair.2

/-- The drafts before the first one that is rejected or has no answer. -/
def verifiedPrefix : List DraftToken :=
  ((draftTokens.zip verifierLogprobs).takeWhile (acceptsPair decoder)).map Prod.fst

/-- The drafts that are not rejected: those that are accepted, and those without an answer. -/
def unrejected : List DraftToken :=
  ((draftTokens.zip verifierLogprobs).filter (acceptsPair decoder)).map Prod.fst ++
    draftTokens.drop verifierLogprobs.length

theorem unrejected_nil : unrejected decoder draftTokens [] = draftTokens := by
  unfold unrejected
  rw [List.zip_nil_right]
  rfl

theorem unrejected_cons (draft : DraftToken) (logProb : ℚ) :
    unrejected decoder (draft :: draftTokens) (logProb :: verifierLogprobs) =
      if decoder.accepts draft logProb then
        draft :: unrejected decoder draftTokens verifierLogprobs
      else unrejected decoder draftTokens verifierLogprobs := by
  unfold unrejected
  rw [List.zip_cons_cons, List.filter_cons, List.length_cons, List.drop_succ_cons]
  show (List.map Prod.fst (if decoder.accepts draft logProb then _ else _)) ++ _ = _
  split
  · rfl
  · rfl

/-- The loop from any place on. -/
private theorem foldl_verify (start : Nat) (before : List UInt32 × Nat) :
    ((draftTokens.zipIdx start).foldl (decoder.verify verifierLogprobs) before).1 =
      before.1 ++
        (unrejected decoder draftTokens (verifierLogprobs.drop start)).map DraftToken.tokenId := by
  induction draftTokens generalizing start before with
  | nil => simp [unrejected]
  | cons draft rest inductionHypothesis =>
      rw [List.zipIdx_cons, List.foldl_cons, inductionHypothesis]
      unfold SpeculativeDecoder.verify
      cases answer : verifierLogprobs[start]? with
      | none =>
          have covered := List.getElem?_eq_none_iff.mp answer
          rw [List.drop_eq_nil_of_le covered, List.drop_eq_nil_of_le (Nat.le_succ_of_le covered),
            unrejected_nil, unrejected_nil]
          simp
      | some logProb =>
          have inside := (List.getElem?_eq_some_iff.mp answer).1
          have here := (List.getElem?_eq_some_iff.mp answer).2
          rw [List.drop_eq_getElem_cons inside, here, unrejected_cons]
          by_cases accepted : decoder.accepts draft logProb = true
          · simp [accepted]
          · simp [accepted]

/-- Every draft that is not rejected is accepted. -/
theorem acceptedTokens_eq :
    (decoder.verifyAndAccept draftTokens verifierLogprobs).1.acceptedTokens =
      (unrejected decoder draftTokens verifierLogprobs).map DraftToken.tokenId := by
  have loop := foldl_verify decoder draftTokens verifierLogprobs 0 ([], 0)
  rwa [List.nil_append, List.drop_zero] at loop

/-- The accepted tokens are those of the drafts before the first one that is rejected or has no
answer, and none of a draft without an answer. -/
structure AcceptsVerifiedPrefix : Prop where
  exactly : (decoder.verifyAndAccept draftTokens verifierLogprobs).1.acceptedTokens =
    (verifiedPrefix decoder draftTokens verifierLogprobs).map DraftToken.tokenId
  onlyVerified : (decoder.verifyAndAccept draftTokens verifierLogprobs).1.acceptedTokens <+:
    (draftTokens.take verifierLogprobs.length).map DraftToken.tokenId

/-- Every draft has an answer, and behind a rejected draft all are rejected. -/
def RejectsTheRest : Prop :=
  draftTokens.length ≤ verifierLogprobs.length ∧
    (draftTokens.zip verifierLogprobs).Pairwise fun earlier later =>
      decoder.accepts earlier.1 earlier.2 = false → decoder.accepts later.1 later.2 = false

instance : Decidable (RejectsTheRest decoder draftTokens verifierLogprobs) := by
  unfold RejectsTheRest
  infer_instance

theorem verifiedPrefix_isPrefix :
    verifiedPrefix decoder draftTokens verifierLogprobs <+:
      draftTokens.take verifierLogprobs.length := by
  rw [← map_fst_zip_eq_take]
  exact (List.takeWhile_prefix _).map _

/-- Exactly where every draft has an answer and a rejection is not followed by an accepted draft,
the accepted tokens are the verified prefix. -/
theorem verifyAndAccept_prefix_iff :
    AcceptsVerifiedPrefix decoder draftTokens verifierLogprobs ↔
      RejectsTheRest decoder draftTokens verifierLogprobs := by
  have split : unrejected decoder draftTokens verifierLogprobs =
      verifiedPrefix decoder draftTokens verifierLogprobs ++
        ((((draftTokens.zip verifierLogprobs).dropWhile (acceptsPair decoder)).filter
          (acceptsPair decoder)).map Prod.fst ++ draftTokens.drop verifierLogprobs.length) := by
    unfold unrejected verifiedPrefix
    rw [filter_eq_takeWhile_append, List.map_append, List.append_assoc]
  have exactly_iff : (unrejected decoder draftTokens verifierLogprobs).map DraftToken.tokenId =
      (verifiedPrefix decoder draftTokens verifierLogprobs).map DraftToken.tokenId ↔
        RejectsTheRest decoder draftTokens verifierLogprobs := by
    unfold RejectsTheRest
    rw [split, List.map_append, List.append_right_eq_self, List.map_eq_nil_iff,
      List.append_eq_nil_iff, List.map_eq_nil_iff, filter_dropWhile_eq_nil_iff,
      List.drop_eq_nil_iff, and_comm]
    rfl
  constructor
  · intro accepts
    rw [← exactly_iff, ← acceptedTokens_eq]
    exact accepts.exactly
  · intro rejects
    have exactly := (acceptedTokens_eq decoder draftTokens verifierLogprobs).trans
      (exactly_iff.mpr rejects)
    refine ⟨exactly, ?_⟩
    rw [exactly]
    exact (verifiedPrefix_isPrefix decoder draftTokens verifierLogprobs).map _

end Acceptance

/-- Two drafts, of which the verifier rejects the first and accepts the second. -/
def sampleDrafts : List DraftToken := [⟨10, 1 / 10, 0⟩, ⟨20, 9 / 10, 0⟩]

/-- The token behind the rejected one is accepted; and so is a token without an answer. -/
theorem verifyAndAccept_not_prefix :
    ¬ AcceptsVerifiedPrefix (.new .default) sampleDrafts [8 / 10, 8 / 10] ∧
      ¬ AcceptsVerifiedPrefix (.new .default) sampleDrafts [] := by
  constructor
  · rw [verifyAndAccept_prefix_iff]
    decide +kernel
  · rw [verifyAndAccept_prefix_iff]
    decide +kernel

end TriAI.Speculative
