import Mathlib

/-!
Contract: the occurrences of a pattern in a text.

Owns: the positions at which a pattern occurs, the search for the first of them, the text
cut at the occurrences that a search from left to right finds, and that `String.splitOn`
cuts there.

Does not own: which text is searched.
-/

set_option autoImplicit false

namespace TriAI.Library.TextSearch

variable {α : Type} [DecidableEq α] {pattern text front back : List α}

/-- The pattern begins at a position of the text. -/
def OccursAt (pattern text : List α) (position : Nat) : Prop := pattern <+: text.drop position

instance (pattern text : List α) (position : Nat) : Decidable (OccursAt pattern text position) :=
  inferInstanceAs (Decidable (pattern <+: text.drop position))

/-! ## The first occurrence -/

/-- What stands before and after the first occurrence of a pattern. -/
def splitFirst (pattern : List α) : List α → Option (List α × List α)
  | [] => none
  | item :: rest =>
      if pattern <+: item :: rest then some ([], (item :: rest).drop pattern.length)
      else (splitFirst pattern rest).map fun parts => (item :: parts.1, parts.2)

omit [DecidableEq α] in
theorem occursAt_cons_succ {item : α} {position : Nat} :
    OccursAt pattern (item :: text) (position + 1) ↔ OccursAt pattern text position := Iff.rfl

omit [DecidableEq α] in
/-- Past a front, the occurrences are those of the rest. -/
theorem occursAt_append_add {position : Nat} :
    OccursAt pattern (front ++ text) (front.length + position) ↔
      OccursAt pattern text position := by
  unfold OccursAt
  rw [List.drop_length_add_append]

theorem splitFirst_none (nonempty : pattern ≠ []) :
    splitFirst pattern text = none ↔ ∀ position, ¬ OccursAt pattern text position := by
  induction text with
  | nil => simp [splitFirst, OccursAt, nonempty]
  | cons item rest inductionHypothesis =>
      unfold splitFirst
      by_cases here : pattern <+: item :: rest
      · simp only [here, if_true]
        constructor
        · intro never
          cases never
        · intro nowhere
          exact absurd here (nowhere 0)
      · simp only [here, if_false, Option.map_eq_none_iff, inductionHypothesis]
        constructor
        · intro later position
          cases position with
          | zero => exact here
          | succ position => exact later position
        · exact fun nowhere position => nowhere (position + 1)

/-- The search finds the first occurrence. -/
theorem splitFirst_some (found : splitFirst pattern text = some (front, back)) :
    text = front ++ pattern ++ back ∧
      ∀ position, OccursAt pattern text position → front.length ≤ position := by
  induction text generalizing front with
  | nil => cases found
  | cons item rest inductionHypothesis =>
      unfold splitFirst at found
      by_cases here : pattern <+: item :: rest
      · simp only [here, if_true, Option.some.injEq, Prod.mk.injEq] at found
        obtain ⟨rfl, rfl⟩ := found
        refine ⟨?_, fun position _ => Nat.zero_le position⟩
        exact (List.prefix_iff_eq_append.mp here).symm
      · simp only [here, if_false, Option.map_eq_some_iff, Prod.mk.injEq, Prod.exists] at found
        obtain ⟨before, after, later, rfl, rfl⟩ := found
        obtain ⟨parts, first⟩ := inductionHypothesis later
        refine ⟨by simp [parts], ?_⟩
        intro position occurs
        cases position with
        | zero => exact absurd occurs here
        | succ position =>
            have behind := first position (occursAt_cons_succ.mp occurs)
            rw [List.length_cons]
            omega

theorem splitFirst_back_lt (nonempty : pattern ≠ [])
    (found : splitFirst pattern text = some (front, back)) : back.length < text.length := by
  have positive := List.length_pos_of_ne_nil nonempty
  have parts := congrArg List.length (splitFirst_some found).1
  simp only [List.length_append] at parts
  omega

/-! ## All occurrences a search from left to right finds -/

/-- The text between these occurrences; every search goes on behind the last one. -/
def segments (pattern text : List α) : List (List α) :=
  if _nonempty : pattern = [] then [text]
  else
    match _found : splitFirst pattern text with
    | none => [text]
    | some (front, back) => front :: segments pattern back
termination_by text.length
decreasing_by exact splitFirst_back_lt _nonempty _found

theorem segments_of_none (absent : splitFirst pattern text = none) :
    segments pattern text = [text] := by
  unfold segments
  split
  · rfl
  · split
    · rfl
    · rename_i found
      rw [absent] at found
      cases found

theorem segments_of_some (nonempty : pattern ≠ [])
    (first : splitFirst pattern text = some (front, back)) :
    segments pattern text = front :: segments pattern back := by
  rw [segments, dif_neg nonempty]
  split
  · rename_i absent
    rw [first] at absent
    cases absent
  · rename_i found
    rw [first] at found
    cases found
    rfl

/-- The pieces with more text in front of the first one. -/
def withFront (front : List α) : List (List α) → List (List α)
  | [] => [front]
  | first :: others => (front ++ first) :: others

omit [DecidableEq α] in
theorem withFront_append (first second : List α) (pieces : List (List α)) :
    withFront first (withFront second pieces) = withFront (first ++ second) pieces := by
  cases pieces with
  | nil => rfl
  | cons => simp [withFront]

theorem segments_nil : segments pattern [] = [[]] := segments_of_none rfl

/-- A text that does not begin with the pattern. -/
theorem segments_cons {item : α} (elsewhere : ¬ pattern <+: item :: text) :
    segments pattern (item :: text) = withFront [item] (segments pattern text) := by
  have nonempty : pattern ≠ [] := by
    rintro rfl
    exact elsewhere (List.nil_prefix)
  have next : splitFirst pattern (item :: text) =
      (splitFirst pattern text).map fun parts => (item :: parts.1, parts.2) := by
    rw [splitFirst, if_neg elsewhere]
  cases found : splitFirst pattern text with
  | none =>
      rw [segments_of_none found, segments_of_none (by rw [next, found]; rfl)]
      rfl
  | some parts =>
      obtain ⟨front, back⟩ := parts
      rw [segments_of_some nonempty found,
        segments_of_some nonempty (by rw [next, found]; rfl : _ = some (item :: front, back))]
      rfl

/-- A text that begins with the pattern. -/
theorem segments_append (nonempty : pattern ≠ []) :
    segments pattern (pattern ++ text) = [] :: segments pattern text := by
  refine segments_of_some nonempty ?_
  cases pattern with
  | nil => exact absurd rfl nonempty
  | cons item rest => simp [splitFirst]

theorem withFront_nil_segments : withFront [] (segments pattern text) = segments pattern text := by
  unfold segments
  split
  · rfl
  · split
    · rfl
    · rfl

/-- A text shorter than the pattern is not cut. -/
theorem segments_short (short : text.length < pattern.length) :
    segments pattern text = [text] := by
  induction text with
  | nil => exact segments_nil
  | cons item rest inductionHypothesis =>
      have elsewhere : ¬ pattern <+: item :: rest := fun here => by
        have fits := here.length_le
        omega
      rw [segments_cons elsewhere, inductionHypothesis (by simp at short; omega)]
      rfl

/-! ## Occurrences that overlap -/

/-- The pattern occurs, and nowhere behind its first occurrence. -/
def Clustered (pattern text : List α) : Prop :=
  ∃ first, OccursAt pattern text first ∧
    ∀ position, OccursAt pattern text position →
      first ≤ position ∧ position < first + pattern.length

omit [DecidableEq α] in
theorem Clustered.of_unique (nonempty : pattern ≠ [])
    (unique : ∃! position, OccursAt pattern text position) : Clustered pattern text := by
  obtain ⟨first, occurs, only⟩ := unique
  have positive := List.length_pos_of_ne_nil nonempty
  refine ⟨first, occurs, fun position also => ?_⟩
  have same := only position also
  omega

/-- A search finds one occurrence, and none behind it. -/
theorem clustered_iff (nonempty : pattern ≠ []) :
    Clustered pattern text ↔ ∃ front back, splitFirst pattern text = some (front, back) ∧
      splitFirst pattern back = none := by
  constructor
  · rintro ⟨first, occurs, cluster⟩
    cases found : splitFirst pattern text with
    | none => exact absurd occurs ((splitFirst_none nonempty).mp found first)
    | some parts =>
        obtain ⟨front, back⟩ := parts
        obtain ⟨rfl, foremost⟩ := splitFirst_some found
        refine ⟨front, back, rfl, (splitFirst_none nonempty).mpr fun position again => ?_⟩
        have here := foremost first occurs
        rw [List.append_assoc] at cluster
        have behind := (cluster (front.length + (pattern.length + position))
          (occursAt_append_add.mpr (occursAt_append_add.mpr again))).2
        have leftmost := (cluster (front.length + 0)
          (occursAt_append_add.mpr (List.prefix_append pattern back))).1
        omega
  · rintro ⟨front, back, found, nowhere⟩
    obtain ⟨rfl, foremost⟩ := splitFirst_some found
    rw [List.append_assoc] at foremost ⊢
    refine ⟨front.length + 0, occursAt_append_add.mpr (List.prefix_append pattern back), ?_⟩
    intro position occurs
    refine ⟨foremost position occurs, ?_⟩
    by_contra behind
    obtain ⟨distance, rfl⟩ := Nat.exists_eq_add_of_le (not_lt.mp behind)
    rw [Nat.add_zero, Nat.add_assoc, occursAt_append_add, occursAt_append_add] at occurs
    exact (splitFirst_none nonempty).mp nowhere distance occurs

theorem segments_ne_nil : segments pattern text ≠ [] := by
  unfold segments
  split
  · simp
  · split
    · simp
    · simp

/-- Two pieces are left exactly where a search finds one occurrence. -/
theorem segments_length (nonempty : pattern ≠ []) :
    (segments pattern text).length = 2 ↔ Clustered pattern text := by
  rw [clustered_iff nonempty]
  cases found : splitFirst pattern text with
  | none => simp [segments_of_none found]
  | some parts =>
      obtain ⟨front, back⟩ := parts
      rw [segments_of_some nonempty found]
      cases again : splitFirst pattern back with
      | none => simp [segments_of_none again, again]
      | some others =>
          rw [segments_of_some nonempty again]
          simp [again, segments_ne_nil]

/-! ## Cutting a string -/

open String in
/-- Where the last part of a text begins. -/
theorem unoffsetBy_back (front back : List Char) :
    Pos.Raw.unoffsetBy ⟨utf8Len (front ++ back)⟩ ⟨utf8Len back⟩ = ⟨utf8Len front⟩ := by
  rw [Pos.Raw.unoffsetBy, utf8Len_append, Nat.add_sub_cancel]

open String in
/-- The loop of `String.splitOn`: `middle` is the piece so far, `seen` the part of the pattern
that agrees with the text. -/
theorem splitOnAux_segments (size : Nat) (left middle seen unseen rest : List Char)
    (pieces : List String) (more : unseen ≠ []) (sized : seen.length + rest.length = size) :
    splitOnAux (ofList (left ++ middle ++ seen ++ rest)) (ofList (seen ++ unseen))
      ⟨utf8Len left⟩ ⟨utf8Len (left ++ middle ++ seen)⟩ ⟨utf8Len seen⟩ pieces =
    pieces.reverse ++
      (withFront middle (segments (seen ++ unseen) (seen ++ rest))).map String.ofList := by
  -- a piece that ends leaves less text; within a piece the unseen part gets shorter
  induction size using Nat.strong_induction_on generalizing left middle seen unseen rest pieces with
  | _ size shorter =>
  induction unseen generalizing seen rest with
  | nil => exact absurd rfl more
  | cons expected unseen inductionHypothesis =>
  rw [splitOnAux]
  cases rest with
  | nil =>
      rw [if_pos ((atEnd_of_valid _ _).mpr rfl)]
      have short : (seen ++ []).length < (seen ++ expected :: unseen).length := by simp
      have cut := extract_of_valid left (middle ++ seen) []
      rw [← utf8Len_append, ← List.append_assoc] at cut
      rw [segments_short short, cut]
      simp [withFront]
  | cons item rest =>
      have notOver : ¬ Pos.Raw.atEnd (ofList (left ++ middle ++ seen ++ item :: rest))
          ⟨utf8Len (left ++ middle ++ seen)⟩ = true := by
        rw [atEnd_of_valid]
        simp
      rw [if_neg notOver, get_of_valid, get_of_valid, List.headD_cons, List.headD_cons]
      by_cases agrees : item = expected
      · subst agrees
        rw [if_pos (beq_self_eq_true item)]
        dsimp only
        rw [next_of_valid, next_of_valid]
        have seenNext : utf8Len seen + item.utf8Size = utf8Len (seen ++ [item]) := by simp
        have textNext : utf8Len (left ++ middle ++ seen) + item.utf8Size =
            utf8Len (left ++ middle ++ (seen ++ [item])) := by simp [Nat.add_assoc]
        have patternParts : seen ++ item :: unseen = seen ++ [item] ++ unseen := by simp
        have textParts : left ++ middle ++ seen ++ item :: rest =
            left ++ middle ++ (seen ++ [item]) ++ rest := by simp
        have restParts : seen ++ item :: rest = seen ++ [item] ++ rest := by simp
        rw [seenNext, textNext, patternParts, textParts, restParts]
        by_cases last : unseen = []
        · subst last
          rw [if_pos ((atEnd_of_valid _ _).mpr rfl)]
          have cut : Pos.Raw.extract (ofList (left ++ middle ++ (seen ++ [item]) ++ rest))
              ⟨utf8Len left⟩ (Pos.Raw.unoffsetBy ⟨utf8Len (left ++ middle ++ (seen ++ [item]))⟩
                ⟨utf8Len (seen ++ [item])⟩) = ofList middle := by
            have front := extract_of_valid left middle (seen ++ [item] ++ rest)
            rw [← List.append_assoc (left ++ middle)] at front
            rw [unoffsetBy_back, utf8Len_append, front]
          have smaller : rest.length < size := by
            simp at sized
            omega
          have goesOn := shorter rest.length smaller (left ++ middle ++ (seen ++ [item])) [] []
            (seen ++ [item]) rest (ofList middle :: pieces) (by simp) (by simp)
          simp only [List.append_nil, List.nil_append, withFront_nil_segments] at goesOn
          have complete : segments (seen ++ [item]) (seen ++ [item] ++ rest) =
              [] :: segments (seen ++ [item]) rest := segments_append (by simp)
          rw [List.append_nil, cut, complete]
          exact goesOn.trans (by simp [withFront])
        · rw [if_neg (by rw [atEnd_of_valid]; exact last)]
          exact inductionHypothesis (seen ++ [item]) rest last (by simp at sized ⊢; omega)
      · have differs : (item == expected) = false := by simpa using agrees
        rw [differs, if_neg Bool.false_ne_true]
        have elsewhere : ¬ seen ++ expected :: unseen <+: seen ++ item :: rest := by
          rw [List.prefix_append_right_inj, List.cons_prefix_cons]
          exact fun same => agrees same.1.symm
        obtain ⟨head, tail, parts⟩ : ∃ head tail, seen ++ item :: rest = head :: tail := by
          cases seen <;> simp
        have next : utf8Len (left ++ middle) + head.utf8Size =
            utf8Len (left ++ (middle ++ [head]) ++ []) := by simp [Nat.add_assoc]
        have textParts : left ++ middle ++ seen ++ item :: rest =
            left ++ (middle ++ [head]) ++ [] ++ tail := by
          rw [List.append_assoc, parts]
          simp
        have smaller : tail.length < size := by
          have lengths := congrArg List.length parts
          simp at lengths sized
          omega
        have goesOn := shorter tail.length smaller left (middle ++ [head]) []
          (seen ++ expected :: unseen) tail pieces (by simp) (by simp)
        rw [unoffsetBy_back, List.append_assoc (left ++ middle), parts, next_of_valid]
        rw [parts] at elsewhere
        rw [segments_cons elsewhere, withFront_append, next]
        simp only [List.append_nil, List.nil_append] at goesOn ⊢
        have sameText : left ++ middle ++ head :: tail = left ++ (middle ++ [head]) ++ tail := by simp
        rw [sameText]
        exact goesOn

/-- `String.splitOn` cuts a text at the occurrences that a search from left to right finds. -/
theorem splitOn_segments {pattern : String} (data : String) (nonempty : pattern ≠ "") :
    data.splitOn pattern = (segments pattern.toList data.toList).map String.ofList := by
  have cut := splitOnAux_segments data.toList.length [] [] [] pattern.toList data.toList []
    (by simpa using nonempty) (by simp)
  simp only [List.nil_append, String.ofList_toList, withFront_nil_segments,
    List.reverse_nil] at cut
  rw [String.splitOn, if_neg (by simpa using nonempty)]
  exact cut

end TriAI.Library.TextSearch
