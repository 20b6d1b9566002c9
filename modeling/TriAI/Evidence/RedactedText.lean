import TriAI.Evidence.Noninterference

/-!
Contract: the redaction of a text inside a record.

Owns: that redaction of an escaped text is an escaped text, and is another one if a pattern
occurs in it; and that it stays within the quotes of a text whose last piece is clean.

Does not own: a text whose last piece is not clean.
-/

set_option autoImplicit false

namespace TriAI.Evidence

open TriAI.Library TriAI.Library.JsonText

/-! ## Escaped texts -/

/-- The characters that one character is escaped to, but for the last one, start no
pattern. -/
private def startsPattern (c : Char) : Bool :=
  secretPatterns.any fun pattern => pattern.head? = some (fold c)

private theorem not_matchesAt {pattern : Text} (member : pattern ∈ secretPatterns) {c : Char}
    (noStart : startsPattern c = false) (rest : Text) : matchesAt pattern (c :: rest) = false := by
  rw [Bool.eq_false_iff]
  intro here
  obtain ⟨first, letters, same⟩ :=
    List.exists_cons_of_ne_nil (ne_nil_of_regular (secretPatterns_regular member))
  have isPrefix := matchesAt_iff.mp here
  rw [same, List.map_cons, List.cons_prefix_cons] at isPrefix
  have starts : startsPattern c = true := by
    rw [startsPattern, List.any_eq_true]
    exact ⟨pattern, member, by simp [same, isPrefix.1]⟩
  rw [starts] at noStart
  exact absurd noStart (by simp)

private theorem escapeChar_shape (c : Char) :
    ∃ init last, escapeChar c = init ++ [last] ∧ (∀ x ∈ init, startsPattern x = false) ∧
      (∀ x ∈ init, isStop x = false) ∧ (init ≠ [] → fold last = last) := by
  have checked := escapeChar_induction
    (motive := fun c escaped => escaped ≠ [] ∧
      (escaped.dropLast.all fun x => !startsPattern x && !isStop x) = true ∧
      (escaped.dropLast ≠ [] →
        fold (escaped.getLastD ' ') = escaped.getLastD ' ')) c
    (fun _ => by simp) (by decide) (by decide) (by decide)
  obtain ⟨nonempty, init, last⟩ := checked
  obtain isNil | ⟨front, final, same⟩ := List.eq_nil_or_concat' (escapeChar c)
  · exact absurd isNil nonempty
  · rw [same, List.dropLast_concat] at init last
    rw [List.getLastD_concat] at last
    simp only [List.all_eq_true, Bool.and_eq_true, Bool.not_eq_true'] at init
    exact ⟨front, final, same, fun x member => (init x member).1, fun x member => (init x member).2,
      last⟩

private theorem replaceAll_init {pattern : Text} (member : pattern ∈ secretPatterns) {init : Text}
    (noStart : ∀ x ∈ init, startsPattern x = false) (noStop : ∀ x ∈ init, isStop x = false)
    (rest : Text) :
    replaceAll pattern false (init ++ rest) = init ++ replaceAll pattern false rest := by
  induction init with
  | nil => rfl
  | cons c init inductionHypothesis =>
      rw [List.forall_mem_cons] at noStart noStop
      rw [List.cons_append, replaceAll, noStop.1, not_matchesAt member noStart.1]
      simp [inductionHypothesis noStart.2 noStop.2]

private theorem replaceAll_dropped {pattern piece : Text} (free : StopFree piece) (rest : Text) :
    replaceAll pattern true (piece ++ rest) = replaceAll pattern true rest := by
  induction piece with
  | nil => rfl
  | cons c piece inductionHypothesis =>
      rw [List.cons_append, replaceAll, free.of_cons.1]
      simp [inductionHypothesis free.of_cons.2]

private theorem escape_letters {pattern letters : Text} (regular : isRegular pattern = true)
    (part : ∀ letter ∈ letters, letter ∈ pattern) : escape letters = letters := by
  apply escape_eq_self
  intro c member
  have letter := letter_of_regular regular (part c member)
  apply escapeChar_of_isLetter
  rw [letter.1]
  exact letter.2

private theorem escape_marker : escape (marker ++ [']']) = marker ++ [']'] := by decide

/-- One pattern leaves an escaped text of an escaped text. -/
private theorem replaceAll_escape {pattern : Text} (member : pattern ∈ secretPatterns)
    (inMatch : Bool) (text : Text) :
    ∃ left, replaceAll pattern inMatch (escape text) = escape left := by
  induction text generalizing inMatch with
  | nil => exact ⟨[], by cases inMatch <;> rfl⟩
  | cons c text inductionHypothesis =>
      have regular := secretPatterns_regular member
      rw [escape_cons]
      by_cases stops : isStop c = true
      · have noLetter : escapeChar c = [c] := by
          simp only [isStop, Bool.or_eq_true, decide_eq_true_eq] at stops
          obtain (isComma | isBrace) | isBracket := stops
          all_goals
            subst_vars
            decide
        obtain ⟨left, same⟩ := inductionHypothesis false
        refine ⟨c :: left, ?_⟩
        rw [escape_cons, noLetter, List.singleton_append, replaceAll, stops, same]
        rfl
      · obtain ⟨init, last, shape, noStart, noStop, lastPlain⟩ := escapeChar_shape c
        have stopFree : StopFree (escapeChar c) := by
          rw [stopFree_iff, any_isStop_escapeChar]
          simpa using stops
        cases inMatch with
        | true =>
            obtain ⟨left, same⟩ := inductionHypothesis true
            exact ⟨left, by rw [replaceAll_dropped stopFree, same]⟩
        | false =>
            rw [shape, List.append_assoc, replaceAll_init member noStart noStop,
              List.singleton_append, replaceAll]
            have lastFree : isStop last = false := stopFree last (by simp [shape])
            rw [lastFree]
            by_cases here : matchesAt pattern (last :: escape text) = true
            · obtain ⟨left, same⟩ := inductionHypothesis true
              obtain isNil | nonempty := eq_or_ne init []
              · refine ⟨pattern ++ ((marker ++ [']']) ++ left), ?_⟩
                rw [escape_append, escape_append, escape_letters regular fun _ inside => inside,
                  escape_marker]
                simp [isNil, here, same]
              · obtain ⟨first, letters, isPattern⟩ :=
                  List.exists_cons_of_ne_nil (ne_nil_of_regular regular)
                have isPrefix := matchesAt_iff.mp here
                rw [isPattern, List.map_cons, List.cons_prefix_cons, lastPlain nonempty] at isPrefix
                have part : ∀ letter ∈ letters, letter ∈ pattern := by
                  intro letter inside
                  rw [isPattern]
                  exact List.mem_cons_of_mem _ inside
                refine ⟨c :: (letters ++ ((marker ++ [']']) ++ left)), ?_⟩
                rw [escape_cons, escape_append, escape_append, escape_letters regular part,
                  escape_marker, shape]
                have patternIs : pattern = last :: letters := by rw [isPattern, isPrefix.1]
                simp only [Bool.false_eq_true, if_false, if_pos here, same]
                simp [patternIs]
            · obtain ⟨left, same⟩ := inductionHypothesis false
              refine ⟨c :: left, ?_⟩
              rw [escape_cons, shape]
              simp [here, same]

theorem exists_redactSecrets_escape (text : Text) :
    ∃ left, redactSecrets (escape text) = escape left := by
  have all : ∀ patterns : List Text, (∀ pattern ∈ patterns, pattern ∈ secretPatterns) →
      ∀ text, ∃ left, redactWith patterns (escape text) = escape left := by
    intro patterns
    induction patterns with
    | nil => exact fun _ text => ⟨text, rfl⟩
    | cons pattern patterns inductionHypothesis =>
        intro members text
        obtain ⟨left, same⟩ := replaceAll_escape (members pattern List.mem_cons_self) false text
        obtain ⟨final, rest⟩ := inductionHypothesis
          (fun other member => members other (List.mem_cons_of_mem _ member)) left
        refine ⟨final, ?_⟩
        rw [← rest, ← same]
        rfl
  rw [redactSecrets]
  exact all secretPatterns (fun _ member => member) text

/-- What a text between quotes stands for after redaction. -/
def redactText (text : Text) : Text :=
  match parse ('\"' :: redactSecrets (escape text) ++ ['\"']) with
  | some (.string left) => left
  | _ => []

theorem redactSecrets_escape (text : Text) :
    redactSecrets (escape text) = escape (redactText text) := by
  obtain ⟨left, same⟩ := exists_redactSecrets_escape text
  have read := parse_render (.string left)
  rw [render, quote, ← same] at read
  rw [redactText, read, same]

/-! ## Stops -/

theorem countP_escape (text : Text) : (escape text).countP isStop = text.countP isStop := by
  induction text with
  | nil => rfl
  | cons c text inductionHypothesis =>
      have single := escapeChar_induction
        (motive := fun c escaped => escaped.countP isStop = [c].countP isStop) c
        (fun _ => rfl) (by decide) (by decide) (by decide)
      rw [escape_cons, List.countP_append, inductionHypothesis, single, ← List.countP_append]
      rfl

private theorem replaceAll_of_not_occurs {pattern text : Text}
    (absent : ¬ Occurs pattern text) : replaceAll pattern false text = text := by
  induction text with
  | nil => rfl
  | cons c text inductionHypothesis =>
      have later : ¬ Occurs pattern text := fun occurs => absent (occurs.append_left [c])
      have notHere : matchesAt pattern (c :: text) = false := by
        rw [Bool.eq_false_iff]
        exact fun here => absent ⟨[], c :: text, rfl, here⟩
      simp [replaceAll, notHere, inductionHypothesis later]

/-- A match adds a stop. -/
private theorem countP_replaceAll {pattern : Text} (regular : isRegular pattern = true)
    (inMatch : Bool) (text : Text) :
    text.countP isStop ≤ (replaceAll pattern inMatch text).countP isStop ∧
      (inMatch = false → Occurs pattern text →
        text.countP isStop < (replaceAll pattern inMatch text).countP isStop) := by
  induction text generalizing inMatch with
  | nil =>
      refine ⟨le_rfl, fun _ occurs => ?_⟩
      have found := (isSome_firstAt regular).mpr occurs
      simp [firstAt] at found
  | cons c text inductionHypothesis =>
      by_cases stops : isStop c = true
      · have tail := inductionHypothesis false
        have notHere := matchesAt_cons_of_noLetter regular (isLetter_fold_of_isStop stops) text
        simp only [replaceAll, stops, if_true, List.countP_cons]
        refine ⟨Nat.add_le_add_right tail.1 _, fun _ occurs => ?_⟩
        have later := occurs_cons.mp occurs
        simp only [notHere, Bool.false_eq_true, false_or] at later
        exact Nat.add_lt_add_right (tail.2 rfl later) _
      · cases inMatch with
        | true =>
            have tail := inductionHypothesis true
            simp [replaceAll, stops, tail.1]
        | false =>
            by_cases here : matchesAt pattern (c :: text) = true
            · have tail := (inductionHypothesis true).1
              have bracket : isStop ']' = true := by decide
              have whole : replaceAll pattern false (c :: text) =
                  pattern ++ marker ++ ']' :: replaceAll pattern true text := by
                simp [replaceAll, stops, here]
              rw [whole, List.countP_append, List.countP_cons_of_pos bracket,
                List.countP_cons_of_neg stops]
              constructor
              · omega
              · intro _ _
                omega
            · have tail := inductionHypothesis false
              have whole : replaceAll pattern false (c :: text) =
                  c :: replaceAll pattern false text := by
                simp [replaceAll, stops, here]
              rw [whole, List.countP_cons_of_neg stops, List.countP_cons_of_neg stops]
              refine ⟨tail.1, fun _ occurs => ?_⟩
              have later := occurs_cons.mp occurs
              simp only [here, Bool.false_eq_true, false_or] at later
              exact tail.2 rfl later

/-- A text is left alone exactly if it is clean. -/
theorem countP_redactSecrets (text : Text) :
    (Clean text → redactSecrets text = text) ∧
      (¬ Clean text → text.countP isStop < (redactSecrets text).countP isStop) := by
  have all : ∀ patterns : List Text, (∀ pattern ∈ patterns, isRegular pattern = true) →
      ∀ text, text.countP isStop ≤ (redactWith patterns text).countP isStop ∧
        ((∀ pattern ∈ patterns, ¬ Occurs pattern text) → redactWith patterns text = text) ∧
        ((∃ pattern ∈ patterns, Occurs pattern text) →
          text.countP isStop < (redactWith patterns text).countP isStop) := by
    intro patterns
    induction patterns with
    | nil => simp [redactWith]
    | cons pattern patterns inductionHypothesis =>
        intro regular text
        have others := inductionHypothesis
          fun other member => regular other (List.mem_cons_of_mem _ member)
        obtain ⟨grows, strictly⟩ :=
          countP_replaceAll (regular pattern List.mem_cons_self) false text
        have step : redactWith (pattern :: patterns) text =
            redactWith patterns (replaceAll pattern false text) := rfl
        rw [step]
        obtain ⟨later, laterSame, laterMore⟩ := others (replaceAll pattern false text)
        refine ⟨grows.trans later, fun absent => ?_, fun present => ?_⟩
        · rw [List.forall_mem_cons] at absent
          have same := replaceAll_of_not_occurs absent.1
          rw [same] at laterSame ⊢
          exact laterSame absent.2
        · by_cases first : Occurs pattern text
          · exact lt_of_lt_of_le (strictly rfl first) later
          · rw [replaceAll_of_not_occurs first] at laterMore ⊢
            apply laterMore
            obtain ⟨other, member, occurs⟩ := present
            cases List.mem_cons.mp member with
            | inl same => exact absurd (same ▸ occurs) first
            | inr inside => exact ⟨other, inside, occurs⟩
  have whole := all secretPatterns (fun _ => secretPatterns_regular) text
  rw [redactSecrets]
  refine ⟨whole.2.1, fun notClean => whole.2.2 ?_⟩
  unfold Clean at notClean
  push Not at notClean
  exact notClean

/-- A text between quotes stays the same exactly if it is clean where it is escaped. -/
theorem redactText_eq_self {text : Text} : redactText text = text ↔ Clean (escape text) := by
  obtain ⟨same, more⟩ := countP_redactSecrets (escape text)
  have escaped := redactSecrets_escape text
  constructor
  · intro isSame
    by_contra notClean
    have grows := more notClean
    rw [escaped, isSame] at grows
    exact absurd grows (lt_irrefl _)
  · intro clean
    rw [same clean] at escaped
    exact (escape_injective escaped).symm

/-- A text between quotes that changes gets a stop. -/
theorem countP_redactText (text : Text) :
    redactText text = text ∨ text.countP isStop < (redactText text).countP isStop := by
  by_cases clean : Clean (escape text)
  · exact .inl (redactText_eq_self.mpr clean)
  · have grows := (countP_redactSecrets (escape text)).2 clean
    rw [redactSecrets_escape, countP_escape, countP_escape] at grows
    exact .inr grows

/-! ## Closed texts -/

/-- Nothing changes before the first match, if a character that is no letter ends it. -/
theorem redactSecrets_append_cons {text : Text} (clean : Clean text) {c : Char}
    (noLetter : isLetter (fold c) = false) (rest : Text) :
    redactSecrets (text ++ c :: rest) = text ++ c :: redactSecrets rest := by
  have single : ∀ pattern ∈ secretPatterns, ∀ rest,
      replaceAll pattern false (text ++ c :: rest) =
        text ++ c :: replaceAll pattern false rest := by
    intro pattern member rest
    have regular := secretPatterns_regular member
    have absent := clean pattern member
    clear clean
    induction text with
    | nil =>
        rw [List.nil_append, List.nil_append, replaceAll,
          matchesAt_cons_of_noLetter regular noLetter]
        simp
    | cons first text inductionHypothesis =>
        rw [occurs_cons, not_or, Bool.not_eq_true] at absent
        have same := matchesAt_append_cons regular (first :: text) noLetter rest
        rw [absent.1, List.cons_append] at same
        rw [List.cons_append, replaceAll, same, inductionHypothesis absent.2]
        simp
  have all : ∀ patterns : List Text, (∀ pattern ∈ patterns, pattern ∈ secretPatterns) →
      ∀ rest, redactWith patterns (text ++ c :: rest) = text ++ c :: redactWith patterns rest := by
    intro patterns
    induction patterns with
    | nil => exact fun _ _ => rfl
    | cons pattern patterns inductionHypothesis =>
        intro members rest
        show redactWith patterns (replaceAll pattern false (text ++ c :: rest)) = _
        rw [single pattern (members pattern List.mem_cons_self)]
        exact inductionHypothesis
          (fun other member => members other (List.mem_cons_of_mem _ member)) _
  rw [redactSecrets, redactSecrets]
  exact all secretPatterns (fun _ member => member) rest

theorem clean_nil : Clean [] := by
  intro pattern member occurs
  have found := (isSome_firstAt (secretPatterns_regular member)).mpr occurs
  simp [firstAt] at found

theorem redactSecrets_cons {c : Char} (noLetter : isLetter (fold c) = false) (rest : Text) :
    redactSecrets (c :: rest) = c :: redactSecrets rest :=
  redactSecrets_append_cons clean_nil noLetter rest

/-- A text in which every secret word is followed by a stop. -/
def ClosedText (text : Text) : Prop := Clean (escape (lastPiece text))

theorem escapeChar_of_isStop {c : Char} (stop : isStop c = true) : escapeChar c = [c] := by
  simp only [isStop, Bool.or_eq_true, decide_eq_true_eq] at stop
  obtain (isComma | isBrace) | isBracket := stop
  all_goals
    subst_vars
    decide

/-- A match in a closed text ends before the closing quote. -/
theorem redactSecrets_closed {text : Text} (closed : ClosedText text) (rest : Text) :
    redactSecrets (escape text ++ '\"' :: rest) =
      escape (redactText text) ++ '\"' :: redactSecrets rest := by
  have quoteOutside : isLetter (fold '\"') = false := by decide
  have tail := redactSecrets_append_cons closed quoteOutside rest
  have tailSame := (countP_redactSecrets (escape (lastPiece text))).1 closed
  rw [← redactSecrets_escape]
  cases eq_lastPiece_or text with
  | inl same =>
      rw [← same] at tail tailSame
      rw [tail, tailSame]
  | inr split =>
      obtain ⟨ahead, stop, stops, same⟩ := split
      have escaped : escape text = escape ahead ++ stop :: escape (lastPiece text) := by
        conv_lhs => rw [same]
        rw [escape_append, escape_cons, escapeChar_of_isStop stops]
        rfl
      rw [escaped, List.append_assoc, List.cons_append, redactSecrets_append_stop _ stops,
        redactSecrets_append_stop _ stops, tail, tailSame]
      simp

/-! ## Values whose texts are closed -/

/-- A letter that is only found inside texts. -/
def isForeign (c : Char) : Bool := isLetter c && !isWordChar c

theorem exists_foreign {pattern : Text} (member : pattern ∈ secretPatterns) :
    ∃ letter ∈ pattern, isForeign letter = true := by
  have all : secretPatterns.all (fun pattern => pattern.any isForeign) = true := by decide
  exact List.any_eq_true.mp (List.all_eq_true.mp all pattern member)

theorem isForeign_fold_of_isWordChar {c : Char} (word : isWordChar c = true) :
    isForeign (fold c) = false := by
  rw [isWordChar, Bool.or_eq_true] at word
  cases word with
  | inl digit =>
      have digits : ∀ code < 58, 48 ≤ code → isForeign (fold (Char.ofNat code)) = false := by
        decide
      rw [Char.isDigit, Bool.and_eq_true, decide_eq_true_eq, decide_eq_true_eq] at digit
      have low : 48 ≤ c.toNat := digit.1
      have high : c.toNat ≤ 57 := digit.2
      have checked := digits c.toNat (by omega) low
      rwa [Char.ofNat_toNat] at checked
  | inr letter =>
      have letters : (['t', 'r', 'u', 'e', 'f', 'a', 'l', 's', 'n', 'E', '+', '-', '.'].all
          fun c => !isForeign (fold c)) = true := by decide
      have checked := List.all_eq_true.mp letters c (by simpa using letter)
      simpa using checked

private theorem clean_word {word : Text} (isWord : word.all isWordChar = true) : Clean word := by
  intro pattern member occurs
  obtain ⟨ahead, rest, rfl, here⟩ := occurs
  obtain ⟨letter, inside, foreign⟩ := exists_foreign member
  have found := (matchesAt_iff.mp here).subset inside
  obtain ⟨c, inRest, rfl⟩ := List.mem_map.mp found
  have word := List.all_eq_true.mp isWord c (List.mem_append_right _ inRest)
  rw [isForeign_fold_of_isWordChar word] at foreign
  exact absurd foreign (by simp)

/-- A text that starts with a character that is no letter. -/
def StartsOutside (text : Text) : Prop :=
  ∃ c rest, text = c :: rest ∧ isLetter (fold c) = false

theorem startsOutside_moreItems (items : List Value) (rest : Text) :
    StartsOutside (renderMoreItems items ++ ']' :: rest) := by
  cases items with
  | nil => exact ⟨_, _, rfl, by decide⟩
  | cons item items => exact ⟨_, _, rfl, by decide⟩

theorem startsOutside_moreFields (fields : List (Text × Value)) (rest : Text) :
    StartsOutside (renderMoreFields fields ++ '}' :: rest) := by
  cases fields with
  | nil => exact ⟨_, _, rfl, by decide⟩
  | cons field fields => exact ⟨_, _, rfl, by decide⟩

private theorem redactSecrets_word {word rest : Text} (isWord : word.all isWordChar = true)
    (outside : StartsOutside rest) : redactSecrets (word ++ rest) = word ++ redactSecrets rest := by
  obtain ⟨c, rest, rfl, noLetter⟩ := outside
  rw [redactSecrets_append_cons (clean_word isWord) noLetter, redactSecrets_cons noLetter]

/-- A closed text with its quotes. -/
theorem redactSecrets_quote {text : Text} (closed : ClosedText text) (rest : Text) :
    redactSecrets (quote text ++ rest) = quote (redactText text) ++ redactSecrets rest := by
  have split : quote text ++ rest = '\"' :: (escape text ++ '\"' :: rest) := by simp [quote]
  rw [split, redactSecrets_cons (by decide), redactSecrets_closed closed]
  simp [quote]

mutual

/-- The redaction of a value whose texts are closed. -/
theorem redactSecrets_render (value : Value) (closed : value.AllTexts ClosedText) {rest : Text}
    (outside : StartsOutside rest) :
    redactSecrets (render value ++ rest) =
      render (value.mapTexts redactText) ++ redactSecrets rest := by
  match value with
  | .null => exact redactSecrets_word (by decide) outside
  | .bool true => exact redactSecrets_word (by decide) outside
  | .bool false => exact redactSecrets_word (by decide) outside
  | .number literal => exact redactSecrets_word literal.isWord.2 outside
  | .string text => exact redactSecrets_quote closed rest
  | .array [] =>
      show redactSecrets ('[' :: ']' :: rest) = '[' :: ']' :: redactSecrets rest
      rw [redactSecrets_cons (by decide), redactSecrets_cons (by decide)]
  | .array (item :: items) =>
      have split : render (.array (item :: items)) ++ rest =
          '[' :: (render item ++ (renderMoreItems items ++ ']' :: rest)) := by
        simp [render, renderItems]
      rw [split, redactSecrets_cons (by decide),
        redactSecrets_render item closed.1 (startsOutside_moreItems items rest),
        redactSecrets_moreItems items closed.2 rest]
      simp [Value.mapTexts, Value.mapItems, render, renderItems]
  | .object [] =>
      show redactSecrets ('{' :: '}' :: rest) = '{' :: '}' :: redactSecrets rest
      rw [redactSecrets_cons (by decide), redactSecrets_cons (by decide)]
  | .object ((key, value) :: fields) =>
      have split : render (.object ((key, value) :: fields)) ++ rest =
          '{' :: (quote key ++ ':' ::
            (render value ++ (renderMoreFields fields ++ '}' :: rest))) := by
        simp [render, renderFields]
      rw [split, redactSecrets_cons (by decide), redactSecrets_quote closed.1,
        redactSecrets_cons (by decide),
        redactSecrets_render value closed.2.1 (startsOutside_moreFields fields rest),
        redactSecrets_moreFields fields closed.2.2 rest]
      simp [Value.mapTexts, Value.mapFields, render, renderFields]

theorem redactSecrets_moreItems (items : List Value)
    (closed : Value.AllItems ClosedText items) (rest : Text) :
    redactSecrets (renderMoreItems items ++ ']' :: rest) =
      renderMoreItems (Value.mapItems redactText items) ++ ']' :: redactSecrets rest := by
  match items with
  | [] => exact redactSecrets_cons (by decide) rest
  | item :: items =>
      have split : renderMoreItems (item :: items) ++ ']' :: rest =
          ',' :: (render item ++ (renderMoreItems items ++ ']' :: rest)) := by
        simp [renderMoreItems]
      rw [split, redactSecrets_cons (by decide),
        redactSecrets_render item closed.1 (startsOutside_moreItems items rest),
        redactSecrets_moreItems items closed.2 rest]
      simp [Value.mapItems, renderMoreItems]

theorem redactSecrets_moreFields (fields : List (Text × Value))
    (closed : Value.AllFields ClosedText fields) (rest : Text) :
    redactSecrets (renderMoreFields fields ++ '}' :: rest) =
      renderMoreFields (Value.mapFields redactText fields) ++ '}' :: redactSecrets rest := by
  match fields with
  | [] => exact redactSecrets_cons (by decide) rest
  | (key, value) :: fields =>
      have split : renderMoreFields ((key, value) :: fields) ++ '}' :: rest =
          ',' :: (quote key ++ ':' ::
            (render value ++ (renderMoreFields fields ++ '}' :: rest))) := by
        simp [renderMoreFields]
      rw [split, redactSecrets_cons (by decide), redactSecrets_quote closed.1,
        redactSecrets_cons (by decide),
        redactSecrets_render value closed.2.1 (startsOutside_moreFields fields rest),
        redactSecrets_moreFields fields closed.2.2 rest]
      simp [Value.mapFields, renderMoreFields]

end

/-- The redaction of an object whose texts are closed. -/
theorem redactSecrets_object {fields : List (Text × Value)}
    (closed : Value.AllFields ClosedText fields) :
    redactSecrets (render (.object fields)) =
      render (.object (Value.mapFields redactText fields)) := by
  have brace : redactSecrets ['}'] = ['}'] := by
    rw [redactSecrets_cons (by decide), (countP_redactSecrets []).1 clean_nil]
  cases fields with
  | nil =>
      show redactSecrets ('{' :: ['}']) = '{' :: ['}']
      rw [redactSecrets_cons (by decide), brace]
  | cons field fields =>
      obtain ⟨key, value⟩ := field
      have split : render (.object ((key, value) :: fields)) =
          '{' :: (quote key ++ ':' :: (render value ++ (renderMoreFields fields ++ ['}']))) := by
        simp [render, renderFields]
      rw [split, redactSecrets_cons (by decide), redactSecrets_quote closed.1,
        redactSecrets_cons (by decide),
        redactSecrets_render value closed.2.1 (startsOutside_moreFields fields []),
        redactSecrets_moreFields fields closed.2.2 [], (countP_redactSecrets []).1 clean_nil]
      simp [Value.mapFields, render, renderFields]

end TriAI.Evidence
