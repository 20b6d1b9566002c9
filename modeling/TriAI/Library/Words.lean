import Mathlib

/-!
Contract: lists as words between separators.

Owns: `wordsOf`, the nonempty pieces between the items that separate; the list with one
separator for each; joined words and what is left when some of them are dropped; and where a
pattern is in separated, trimmed and joined lists.

Does not own: which characters separate words.
-/

set_option autoImplicit false

namespace TriAI.Library.Words

variable {α : Type} {separates : α → Bool}

/-! ## Words -/

/-- The words of a list. -/
def wordsOf (separates : α → Bool) (items : List α) : List (List α) :=
  (items.splitOnP separates).filter fun word => !word.isEmpty

theorem separates_of_mem_splitOnP {items piece : List α}
    (member : piece ∈ items.splitOnP separates) : ∀ item ∈ piece, separates item = false := by
  induction items generalizing piece with
  | nil =>
      rw [List.splitOnP_nil, List.mem_singleton] at member
      simp [member]
  | cons first rest inductionHypothesis =>
      rw [List.splitOnP_cons_eq_if_modifyHead] at member
      split at member
      · rcases List.mem_cons.mp member with rfl | later
        · simp
        · exact inductionHypothesis later
      · rename_i joins
        cases pieces : rest.splitOnP separates with
        | nil => exact absurd pieces (List.splitOnP_ne_nil _ _)
        | cons head tail =>
            rw [pieces] at member inductionHypothesis
            rcases List.mem_cons.mp member with rfl | later
            · exact List.forall_mem_cons.mpr
                ⟨by simpa using joins, inductionHypothesis (List.mem_cons_self ..)⟩
            · exact inductionHypothesis (List.mem_cons_of_mem _ later)

/-- A word is not empty and nothing in it separates. -/
theorem word_of_mem {items word : List α} (member : word ∈ wordsOf separates items) :
    word ≠ [] ∧ ∀ item ∈ word, separates item = false := by
  obtain ⟨piece, nonempty⟩ := List.mem_filter.mp member
  exact ⟨by simpa using nonempty, separates_of_mem_splitOnP piece⟩

@[simp] theorem wordsOf_nil : wordsOf separates [] = [] := rfl

/-- The words on both sides of a separator. -/
theorem wordsOf_append_cons {left right : List α} {separator : α}
    (isSeparator : separates separator = true) :
    wordsOf separates (left ++ separator :: right) =
      wordsOf separates left ++ wordsOf separates right := by
  unfold wordsOf
  rw [List.splitOnP_append_cons left right isSeparator, List.filter_append]

/-- Separators at the end add no word. -/
theorem wordsOf_append_separators {items back : List α}
    (separators : ∀ item ∈ back, separates item = true) :
    wordsOf separates (items ++ back) = wordsOf separates items := by
  induction back generalizing items with
  | nil => rw [List.append_nil]
  | cons first rest inductionHypothesis =>
      obtain ⟨isSeparator, later⟩ := List.forall_mem_cons.mp separators
      have restOnly : wordsOf separates rest = [] := by
        have none := @inductionHypothesis [] later
        rwa [List.nil_append, wordsOf_nil] at none
      rw [wordsOf_append_cons isSeparator, restOnly, List.append_nil]

/-- A list in which nothing separates is a word. -/
theorem wordsOf_singleton {word : List α} (nonempty : word ≠ [])
    (joined : ∀ item ∈ word, separates item = false) : wordsOf separates word = [word] := by
  unfold wordsOf
  rw [List.splitOnP_eq_singleton joined]
  simp [nonempty]

/-- Words that are joined by a separator are found again. -/
theorem wordsOf_intercalate {separator : α} (isSeparator : separates separator = true)
    {words : List (List α)}
    (areWords : ∀ word ∈ words, word ≠ [] ∧ ∀ item ∈ word, separates item = false) :
    wordsOf separates ([separator].intercalate words) = words := by
  induction words with
  | nil => rfl
  | cons word rest inductionHypothesis =>
      obtain ⟨isWord, later⟩ := List.forall_mem_cons.mp areWords
      cases rest with
      | nil =>
          rw [List.intercalate_singleton]
          exact wordsOf_singleton isWord.1 isWord.2
      | cons next others =>
          rw [List.intercalate_cons_cons, List.append_assoc, List.singleton_append,
            wordsOf_append_cons isSeparator, wordsOf_singleton isWord.1 isWord.2,
            inductionHypothesis later]
          rfl

/-! ## Joined words -/

/-- What is in joined words is in a word or joins them. -/
theorem mem_intercalate {separator : List α} {words : List (List α)} {item : α}
    (member : item ∈ separator.intercalate words) :
    item ∈ separator ∨ ∃ word ∈ words, item ∈ word := by
  induction words with
  | nil => simp at member
  | cons word rest inductionHypothesis =>
      cases rest with
      | nil =>
          rw [List.intercalate_singleton] at member
          exact .inr ⟨word, List.mem_cons_self .., member⟩
      | cons next others =>
          rw [List.intercalate_cons_cons, List.mem_append, List.mem_append] at member
          rcases member with (inWord | joins) | later
          · exact .inr ⟨word, List.mem_cons_self .., inWord⟩
          · exact .inl joins
          · rcases inductionHypothesis later with joins | ⟨other, isWord, inWord⟩
            · exact .inl joins
            · exact .inr ⟨other, List.mem_cons_of_mem _ isWord, inWord⟩

/-- Every separator as the same one. -/
def blur (separates : α → Bool) (separator item : α) : α :=
  if separates item then separator else item

/-- The pieces of a list, joined by one separator. -/
theorem map_blur (separator : α) (items : List α) :
    items.map (blur separates separator) =
      [separator].intercalate (items.splitOnP separates) := by
  induction items with
  | nil => rfl
  | cons first rest inductionHypothesis =>
      rw [List.map_cons, inductionHypothesis, List.splitOnP_cons_eq_if_modifyHead, blur]
      split
      · rw [List.intercalate_cons_of_ne_nil (List.splitOnP_ne_nil _ _)]
        rfl
      · cases pieces : rest.splitOnP separates with
        | nil => exact absurd pieces (List.splitOnP_ne_nil _ _)
        | cons head tail => exact List.intercalate_cons_cons_left.symm

/-- What is left when words are dropped. -/
theorem intercalate_sublist {separator : List α} {few all : List (List α)}
    (dropped : few.Sublist all) :
    (separator.intercalate few).Sublist (separator.intercalate all) := by
  induction dropped with
  | slnil => exact List.Sublist.refl _
  | cons word dropped inductionHypothesis =>
      rename_i few all
      cases all with
      | nil =>
          rw [List.sublist_nil.mp dropped]
          exact List.nil_sublist _
      | cons next rest =>
          rw [List.intercalate_cons_cons]
          exact inductionHypothesis.trans (List.sublist_append_right _ _)
  | cons_cons word dropped inductionHypothesis =>
      rename_i few all
      cases few with
      | nil =>
          rw [List.intercalate_singleton]
          cases all with
          | nil => rw [List.intercalate_singleton]
          | cons next rest =>
              rw [List.intercalate_cons_cons, List.append_assoc]
              exact List.sublist_append_left _ _
      | cons first others =>
          cases all with
          | nil => cases dropped
          | cons next rest =>
              rw [List.intercalate_cons_cons, List.intercalate_cons_cons]
              exact (List.Sublist.refl _).append inductionHypothesis

/-- Joined words of a list, as a part of the list with one separator. -/
theorem intercalate_words_sublist (separator : α) {items : List α} {few : List (List α)}
    (dropped : few.Sublist (wordsOf separates items)) :
    ([separator].intercalate few).Sublist (items.map (blur separates separator)) := by
  rw [map_blur]
  exact intercalate_sublist (dropped.trans List.filter_sublist)

/-! ## Patterns -/

/-- A pattern without an item that a list begins with begins before that item. -/
theorem prefix_append_cons_iff {pattern front : List α} {item : α} (absent : item ∉ pattern)
    (rest : List α) : pattern <+: front ++ item :: rest ↔ pattern <+: front := by
  constructor
  · intro begins
    rcases List.prefix_or_prefix_of_prefix begins (List.prefix_append front (item :: rest)) with
      inFront | ⟨back, rfl⟩
    · exact inFront
    · rw [List.prefix_append_right_inj] at begins
      cases back with
      | nil => rw [List.append_nil]
      | cons first others =>
          have isItem := (List.cons_prefix_cons.mp begins).1
          rw [isItem] at absent
          exact absurd (List.mem_append_right _ (List.mem_cons_self ..)) absent
  · exact fun begins => begins.trans (List.prefix_append _ _)

/-- A pattern without the separator is on one of its sides. -/
theorem infix_append_cons_iff {pattern left right : List α} {separator : α}
    (absent : separator ∉ pattern) :
    pattern <:+: left ++ separator :: right ↔ pattern <:+: left ∨ pattern <:+: right := by
  induction left with
  | nil =>
      have begins : pattern <+: [] ++ separator :: right ↔ pattern <+: [] :=
        prefix_append_cons_iff absent right
      rw [List.nil_append] at begins ⊢
      rw [List.infix_cons_iff, begins, List.prefix_nil, List.infix_nil]
  | cons first rest inductionHypothesis =>
      have begins : pattern <+: (first :: rest) ++ separator :: right ↔ pattern <+: first :: rest :=
        prefix_append_cons_iff absent right
      rw [List.cons_append] at begins ⊢
      rw [List.infix_cons_iff, List.infix_cons_iff, begins, inductionHypothesis, or_assoc]

/-- A pattern that does not end in an item that is dropped is found before the items that are
dropped at the end. -/
theorem infix_rdropWhile_iff {drops : α → Bool} {text : List α} {front : List α} {last : α}
    (visible : drops last = false) :
    front ++ [last] <:+: text.rdropWhile drops ↔ front ++ [last] <:+: text := by
  constructor
  · exact fun found => found.trans (List.rdropWhile_prefix drops text).isInfix
  · rintro ⟨ahead, behind, rfl⟩
    induction behind using List.reverseRecOn with
    | nil =>
        rw [List.append_nil, ← List.append_assoc,
          List.rdropWhile_concat_neg _ _ _ (by simp [visible])]
        exact ⟨ahead, [], by simp⟩
    | append_singleton behind final inductionHypothesis =>
        rw [← List.append_assoc]
        by_cases dropped : drops final = true
        · rw [List.rdropWhile_concat_pos _ _ _ dropped]
          exact inductionHypothesis
        · rw [List.rdropWhile_concat_neg _ _ _ dropped]
          exact ⟨ahead, behind ++ [final], by simp⟩

theorem rdropWhile_append (drops : α → Bool) (front back : List α) :
    (front ++ back).rdropWhile drops =
      if back.rdropWhile drops = [] then front.rdropWhile drops
      else front ++ back.rdropWhile drops := by
  unfold List.rdropWhile
  rw [List.reverse_append, List.dropWhile_append]
  by_cases empty : back.reverse.dropWhile drops = []
  · simp [empty]
  · simp [empty]

/-- What is left does not end in an item that is dropped. -/
theorem getLast?_rdropWhile {drops : α → Bool} {items : List α} {item : α}
    (isLast : (items.rdropWhile drops).getLast? = some item) : drops item = false := by
  have nonempty := List.ne_nil_of_mem (List.mem_of_getLast? isLast)
  rw [List.getLast?_eq_some_getLast nonempty, Option.some.injEq] at isLast
  rw [← isLast, ← Bool.not_eq_true]
  exact List.rdropWhile_last_not drops items nonempty

section Patterns

variable [DecidableEq α] {separator : α}

private theorem exists_splitOn_last (items back : List α) (absent : separator ∉ back) :
    ∃ front word, (items ++ back).splitOn separator = front ++ [word ++ back] := by
  induction items with
  | nil =>
      refine ⟨[], [], ?_⟩
      rw [List.nil_append, List.splitOn_eq_singleton absent]
      rfl
  | cons first rest inductionHypothesis =>
      obtain ⟨front, word, split⟩ := inductionHypothesis
      rw [List.cons_append, List.splitOn_cons_eq_if_modifyHead, split]
      split_ifs
      · exact ⟨[] :: front, word, rfl⟩
      · cases front with
        | nil => exact ⟨[], first :: word, rfl⟩
        | cons head tail => exact ⟨(first :: head) :: tail, word, rfl⟩

private theorem exists_splitOn_first (front items : List α) (absent : separator ∉ front) :
    ∃ word back, (front ++ items).splitOn separator = (front ++ word) :: back := by
  induction front with
  | nil =>
      cases pieces : items.splitOn separator with
      | nil => exact absurd pieces (List.splitOn_ne_nil _ _)
      | cons head tail => exact ⟨head, tail, pieces⟩
  | cons first rest inductionHypothesis =>
      obtain ⟨other, absentRest⟩ := not_or.mp (mt List.mem_cons.mpr absent)
      obtain ⟨word, back, split⟩ := inductionHypothesis absentRest
      refine ⟨word, back, ?_⟩
      rw [List.cons_append, List.splitOn_cons_eq_if_modifyHead, split,
        if_neg (by simpa using Ne.symm other)]
      rfl

/-- Three parts with a separator between them are in joined words exactly where a word ends with
the first, the next one is the second, and the one after that begins with the third. -/
theorem infix_intercalate_iff {first second third : List α} {words : List (List α)}
    (firstClean : separator ∉ first) (secondClean : separator ∉ second)
    (thirdClean : separator ∉ third) (clean : ∀ word ∈ words, separator ∉ word) :
    first ++ separator :: (second ++ separator :: third) <:+: [separator].intercalate words ↔
      ∃ front ahead rest back,
        words = front ++ (ahead ++ first) :: second :: (third ++ rest) :: back := by
  constructor
  · rintro ⟨ahead, back, whole⟩
    have nonempty : words ≠ [] := by
      intro empty
      rw [empty, List.intercalate_nil] at whole
      simp at whole
    have split := congrArg (List.splitOn separator) whole
    rw [List.splitOn_intercalate separator clean nonempty] at split
    have arranged : ahead ++ (first ++ separator :: (second ++ separator :: third)) ++ back =
        (ahead ++ first) ++ separator :: (second ++ separator :: (third ++ back)) := by
      simp
    obtain ⟨front, word, splitFirst⟩ := exists_splitOn_last ahead first firstClean
    obtain ⟨rest, later, splitThird⟩ := exists_splitOn_first third back thirdClean
    rw [arranged, List.splitOn_append_cons_self, List.splitOn_append_cons_self_of_not_mem secondClean,
      splitFirst, splitThird] at split
    exact ⟨front, word, rest, later, by simpa using split.symm⟩
  · rintro ⟨front, ahead, rest, back, rfl⟩
    have tailInfix : first ++ separator :: (second ++ separator :: third) <:+:
        [separator].intercalate ((ahead ++ first) :: second :: (third ++ rest) :: back) := by
      rw [List.intercalate_cons_cons, List.intercalate_cons_cons]
      cases back with
      | nil => exact ⟨ahead, rest, by simp⟩
      | cons next others =>
          rw [List.intercalate_cons_cons]
          exact ⟨ahead, rest ++ [separator] ++ [separator].intercalate (next :: others), by simp⟩
    induction front with
    | nil => exact tailInfix
    | cons word others inductionHypothesis =>
        obtain ⟨before, after, whole⟩ :=
          inductionHypothesis (fun word member => clean word (List.mem_cons_of_mem _ member))
        rw [List.cons_append, List.intercalate_cons_of_ne_nil (by simp), ← whole]
        exact ⟨word ++ [separator] ++ before, after, by simp⟩

end Patterns

end TriAI.Library.Words
