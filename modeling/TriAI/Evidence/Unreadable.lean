import TriAI.Evidence.RedactedText
import TriAI.Library.JsonReader

/-!
Contract: lines that redaction makes unreadable.

Owns: that a match which goes past the closing quote of its text leaves no JSON text.

Does not own: matches within their texts.
-/

set_option autoImplicit false

namespace TriAI.Evidence

open TriAI.Library TriAI.Library.JsonText TriAI.Library.JsonText.Reader

/-! ## One piece of a line -/

private theorem isForeign_fold_of_isOutsideChar {c : Char} (allowed : isOutsideChar c = true) :
    isForeign (fold c) = false := by
  simp only [isOutsideChar, Bool.or_eq_true, decide_eq_true_eq] at allowed
  obtain (isWord | isBlank) | isOther := allowed
  · exact isForeign_fold_of_isWordChar isWord
  · simp only [JsonText.isBlank, Bool.or_eq_true, decide_eq_true_eq] at isBlank
    obtain ((isSpace | isTab) | isLine) | isReturn := isBlank
    all_goals
      subst_vars
      decide
  · have others : (['\"', '{', '}', '[', ']', ':', ','].all
        fun c => !isForeign (fold c)) = true := by decide
    have checked := List.all_eq_true.mp others c isOther
    simpa using checked

/-- No pattern is read outside of strings. -/
private theorem run_outside {letters text : Text} {reader : Reader}
    (outside : reader.isInside = false) (here : letters <+: text.map fold)
    (areLetters : ∀ letter ∈ letters, isLetter letter = true)
    (foreign : ∃ letter ∈ letters, isForeign letter = true) : reader.run text = none := by
  induction letters generalizing text reader with
  | nil => simp at foreign
  | cons letter letters inductionHypothesis =>
      cases text with
      | nil => simp at here
      | cons c text =>
          rw [List.map_cons, List.cons_prefix_cons] at here
          obtain ⟨rfl, rest⟩ := here
          rw [List.forall_mem_cons] at areLetters
          rw [run_cons]
          cases stepped : reader.step c with
          | none => rfl
          | some next =>
              have moves := moves_of_step outside stepped
              have notForeign := isForeign_fold_of_isOutsideChar moves.allowed
              have notQuote : c ≠ '\"' := by
                intro isQuote
                subst isQuote
                exact absurd areLetters.1 (by decide)
              apply inductionHypothesis (moves.other notQuote) rest areLetters.2
              obtain ⟨other, member, isForeign⟩ := foreign
              cases List.mem_cons.mp member with
              | inl same =>
                  rw [same, notForeign] at isForeign
                  exact absurd isForeign (by simp)
              | inr inside => exact ⟨other, inside, isForeign⟩

private theorem not_run_outside {pattern text : Text} (member : pattern ∈ secretPatterns)
    {reader : Reader} (outside : reader.isInside = false) (here : matchesAt pattern text = true) :
    reader.run text = none :=
  run_outside outside (matchesAt_iff.mp here)
    (fun _ inside => (letter_of_regular (secretPatterns_regular member) inside).2)
    (exists_foreign member)

/-- What a match leaves is the content of a string. -/
private theorem run_marked {frames : List Frame} {before : Option (List (Text × Value))}
    {content : Content} {pattern : Text} (member : pattern ∈ secretPatterns) (count : Nat)
    {last : Reader}
    (ran : run ⟨frames, .inText before content⟩
      (pattern ++ marker ++ List.replicate count ']') = some last) :
    ∃ text, last = ⟨frames, .inText before ⟨text, .plain⟩⟩ := by
  have regular := secretPatterns_regular member
  have patternQuote : '\"' ∉ pattern := not_mem_of_regular regular (by decide)
  have split : pattern ++ marker ++ List.replicate count ']' =
      pattern ++ '[' :: (marker.tail ++ List.replicate count ']') := by
    simp [marker]
  rw [split, run_append, Option.bind_eq_some_iff] at ran
  obtain ⟨middle, ranPattern, rest⟩ := ran
  obtain ⟨after, rfl⟩ | ⟨-, tail, ⟨front, same⟩, -⟩ := run_inText ranPattern
  · rw [run_cons, Option.bind_eq_some_iff] at rest
    obtain ⟨next, stepped, rest⟩ := rest
    obtain ⟨isQuote, -, -⟩ | ⟨-, ⟨read, phase⟩, moved, rfl⟩ := step_inText stepped
    · exact absurd isQuote (by decide)
    · obtain rfl : phase = .plain :=
        (step_unescaped (by decide) (by decide) (by decide) (by decide) moved).2
      have brackets : ∀ c, c ≠ ']' → c ∉ marker.tail →
          c ∉ marker.tail ++ List.replicate count ']' := by
        intro c notBracket notMarker inside
        cases List.mem_append.mp inside with
        | inl inMarker => exact notMarker inMarker
        | inr isBracket => exact notBracket (List.eq_of_mem_replicate isBracket)
      exact run_plain (brackets _ (by decide) (by decide)) (brackets _ (by decide) (by decide)) rest
  · apply absurd _ patternQuote
    rw [same]
    exact List.mem_append_right _ List.mem_cons_self

/-- The pattern of a cut is one of the list. -/
private theorem cutOf_mem {text : Text} {cut : Cut} (isCut : cutOf text = some cut) :
    cut.pattern ∈ secretPatterns ∧ cut.position < text.length ∧
      matchesAt cut.pattern (text.drop cut.position) = true := by
  have found : ∀ pattern ∈ secretPatterns, ∀ position, firstAt pattern text = some position →
      ∀ count, (Cut.mk position pattern count).pattern ∈ secretPatterns ∧ position < text.length ∧
        matchesAt pattern (text.drop position) = true :=
    fun pattern member position isFirst _ =>
      ⟨member, firstAt_lt isFirst, matchesAt_of_firstAt isFirst⟩
  have all : ∀ patterns : List Text, (∀ pattern ∈ patterns, pattern ∈ secretPatterns) →
      ∀ start : Option Cut,
        (∀ held, start = some held → held.pattern ∈ secretPatterns ∧ held.position < text.length ∧
          matchesAt held.pattern (text.drop held.position) = true) →
        ∀ held, cutWith patterns text start = some held →
          held.pattern ∈ secretPatterns ∧ held.position < text.length ∧
            matchesAt held.pattern (text.drop held.position) = true := by
    intro patterns
    induction patterns with
    | nil => exact fun _ _ fits => fits
    | cons pattern patterns inductionHypothesis =>
        intro members start fits
        apply inductionHypothesis fun other isIn => members other (List.mem_cons_of_mem _ isIn)
        intro held isHeld
        have member := members pattern List.mem_cons_self
        cases start with
        | none =>
            simp only [Cut.next, Option.map_eq_some_iff] at isHeld
            obtain ⟨position, isFirst, rfl⟩ := isHeld
            exact found pattern member position isFirst 1
        | some cut =>
            simp only [Cut.next] at isHeld
            split at isHeld
            next =>
              obtain rfl := Option.some.inj isHeld
              exact fits _ rfl
            next position isFirst =>
              obtain rfl := Option.some.inj isHeld
              rw [Option.filter_eq_some_iff] at isFirst
              exact found pattern member position isFirst.1 _
  apply all secretPatterns (fun _ member => member) none _ cut isCut
  intro held isHeld
  cases isHeld

/-- Readers that have parted stay so over a piece and what is left of it. -/
private theorem parted_piece {first second firstLast secondLast : Reader} {text : Text}
    (free : StopFree text) (parted : Parted first second)
    (firstRun : first.run text = some firstLast) (settled : IsSettled firstLast)
    (secondRun : second.run (redactSecrets text) = some secondLast) :
    Parted firstLast secondLast := by
  rw [redactSecrets_stopFree free] at secondRun
  cases isCut : cutOf text with
  | none =>
      rw [isCut] at secondRun
      exact parted.run firstRun secondRun
  | some cut =>
      obtain ⟨member, inside, here⟩ := cutOf_mem isCut
      rw [isCut, Cut.leave, List.append_assoc, run_append, Option.bind_eq_some_iff] at secondRun
      rw [← List.take_append_drop cut.position text, run_append,
        Option.bind_eq_some_iff] at firstRun
      obtain ⟨firstMiddle, firstRun, firstRest⟩ := firstRun
      obtain ⟨secondMiddle, secondRun, secondRest⟩ := secondRun
      have plain : ∀ c ∈ text.drop cut.position, isSeparator c = false :=
        fun c isIn => free c (List.mem_of_mem_drop isIn)
      have marked : matchesAt cut.pattern
          (cut.pattern ++ marker ++ List.replicate cut.count ']') = true := by
        rw [matchesAt_iff, List.append_assoc, List.map_append,
          map_fold_of_regular (secretPatterns_regular member)]
        exact List.prefix_append _ _
      have firstInside : firstMiddle.isInside = true := by
        by_contra outside
        rw [Bool.not_eq_true] at outside
        rw [not_run_outside member outside here] at firstRest
        exact absurd firstRest (by simp)
      have secondInside : secondMiddle.isInside = true := by
        by_contra outside
        rw [Bool.not_eq_true] at outside
        rw [not_run_outside member outside marked] at secondRest
        exact absurd secondRest (by simp)
      cases parted.run firstRun secondRun with
      | inside outside =>
          rw [outside] at secondInside
          exact absurd secondInside (by simp)
      | outside outside =>
          rw [outside] at firstInside
          exact absurd firstInside (by simp)
      | deeperInside same deeper =>
          obtain ⟨read, rfl⟩ := run_marked member cut.count secondRest
          obtain ⟨⟨after, phase⟩, rfl⟩ | ⟨closed, rest, ⟨front, split⟩, left⟩ :=
            run_inText firstRest
          · obtain rfl : phase = .plain := settled _ _ rfl
            refine Parted.deeperInside (by rfl) ?_
            simpa using deeper
          · rw [split] at plain
            have restPlain : ∀ c ∈ rest, isSeparator c = false := fun c isIn =>
              plain c (List.mem_append_right _ (List.mem_cons_of_mem _ isIn))
            exact parted_of_left restPlain left settled (.inl (by simpa using deeper))
      | deeperOutside firstOutside secondOutside deeper =>
          rw [firstOutside] at firstInside
          exact absurd firstInside (by simp)
      | ahead same =>
          obtain ⟨read, rfl⟩ := run_marked member cut.count secondRest
          obtain ⟨⟨after, phase⟩, rfl⟩ | ⟨closed, rest, ⟨front, split⟩, left⟩ :=
            run_inText firstRest
          · obtain rfl : phase = .plain := settled _ _ rfl
            exact .ahead rfl
          · rw [split] at plain
            have restPlain : ∀ c ∈ rest, isSeparator c = false := fun c isIn =>
              plain c (List.mem_append_right _ (List.mem_cons_of_mem _ isIn))
            rw [run_done restPlain left]
            exact .outside rfl
      | aheadAfter => exact absurd firstInside (by simp [isInside])

/-! ## The rest of a line -/

private theorem settled_of_finish {reader : Reader} (ends : reader.finish.isSome = true) :
    IsSettled reader := by
  obtain ⟨value, ends⟩ := Option.isSome_iff_exists.mp ends
  have outside := (finish_eq_some ends).1
  intro before content isText
  simp [isInside, isText] at outside

/-- A stop is in no escape. -/
private theorem settled_of_stop {reader next : Reader} {stop : Char} (stops : isStop stop = true)
    (stepped : reader.step stop = some next) : IsSettled reader := by
  obtain ⟨frames, mode⟩ := reader
  intro before content isText
  obtain rfl : mode = .inText before content := isText
  obtain ⟨-, plain, -⟩ | ⟨-, after, moved, -⟩ := step_inText stepped
  · exact plain
  · simp only [isStop, Bool.or_eq_true, decide_eq_true_eq] at stops
    obtain (isComma | isBrace) | isBracket := stops
    all_goals
      subst_vars
      exact (step_unescaped (by decide) (by decide) (by decide) (by decide) moved).1

/-- After readers have parted, a text that ends the one does not end the other after
redaction. -/
theorem not_finishes_of_parted {first second : Reader} {text : Text}
    (parted : Parted first second) (finishes : Finishes first text) :
    ¬ Finishes second (redactSecrets text) := by
  intro secondFinishes
  obtain ⟨last, ran, ends⟩ := finishes
  obtain ⟨secondLast, secondRan, secondEnds⟩ := secondFinishes
  induction hLength : text.length using Nat.strong_induction_on generalizing text first second with
  | _ length inductionHypothesis =>
      by_cases free : StopFree text
      · have still := parted_piece free parted ran (settled_of_finish ends) secondRan
        obtain ⟨value, ends⟩ := Option.isSome_iff_exists.mp ends
        rw [still.finish ends] at secondEnds
        exact absurd secondEnds (by simp)
      · obtain ⟨piece, stop, rest, pieceFree, stops, rfl⟩ := exists_firstStop free
        rw [redactSecrets_append_stop piece stops, run_append, Option.bind_eq_some_iff] at secondRan
        rw [run_append, Option.bind_eq_some_iff] at ran
        obtain ⟨middle, ran, more⟩ := ran
        obtain ⟨secondMiddle, secondRan, secondMore⟩ := secondRan
        rw [run_cons, Option.bind_eq_some_iff] at more secondMore
        obtain ⟨next, stepped, more⟩ := more
        obtain ⟨secondNext, secondStepped, secondMore⟩ := secondMore
        have still := parted_piece pieceFree parted ran (settled_of_stop stops stepped) secondRan
        apply inductionHypothesis rest.length _ (still.step stepped secondStepped) more secondMore
          rfl
        rw [← hLength, List.length_append, List.length_cons]
        omega

/-! ## A text that is not closed -/

private theorem escape_of_brackets {front text : Text} {count : Nat}
    (same : front ++ List.replicate count ']' = escape text) : ∃ rest, front = escape rest := by
  induction count generalizing text with
  | zero => exact ⟨text, by simpa using same⟩
  | succ count inductionHypothesis =>
      rw [List.replicate_succ', ← List.append_assoc] at same
      obtain rfl | ⟨init, c, rfl⟩ := List.eq_nil_or_concat' text
      · simp [escape] at same
      · have single := escapeChar_induction
          (motive := fun c escaped => escaped.getLast? = some ']' → escaped = [']']) c
          (fun _ isLast => by simpa using isLast) (by decide) (by decide) (by decide)
        have last : (escapeChar c).getLast? = some ']' := by
          have whole := congrArg List.getLast? same
          obtain isNil | ⟨start, final, shape⟩ := List.eq_nil_or_concat' (escapeChar c)
          · have nonempty := escapeChar_induction (motive := fun c escaped => escaped ≠ []) c
              (fun _ => by simp) (by decide) (by decide) (by decide)
            exact absurd isNil nonempty
          · rw [escape_append, escape_cons, shape] at whole
            rw [shape]
            simpa [escape] using whole.symm
        rw [escape_append, escape_cons, single last] at same
        exact inductionHypothesis (List.append_cancel_right (by simpa [escape] using same))

/-- A match that goes past the closing quote of its text, up to the end of the piece. -/
private theorem parted_of_dirty {frames otherFrames : List Frame}
    {before otherBefore : Option (List (Text × Value))} {closed otherRead text rest : Text}
    (sameDepth : otherFrames.length = frames.length)
    (sameKind : otherBefore.isSome = before.isSome) (free : StopFree text)
    (dirty : ¬ Clean (escape text)) (restFree : StopFree rest) {last otherLast : Reader}
    (ran : run ⟨frames, .afterText before closed⟩ rest = some last) (settled : IsSettled last)
    (otherRan : run ⟨otherFrames, .inText otherBefore ⟨otherRead, .plain⟩⟩
      (redactSecrets (escape text ++ '\"' :: rest)) = some otherLast) :
    Parted last otherLast := by
  have escapeFree := stopFree_escape.mpr free
  obtain ⟨cut, isCut⟩ := Option.ne_none_iff_exists'.mp (mt cutOf_eq_none.mp dirty)
  obtain ⟨left, isLeft⟩ := exists_redactSecrets_escape text
  rw [redactSecrets_stopFree escapeFree, isCut, Cut.leave] at isLeft
  obtain ⟨shown, isShown⟩ := escape_of_brackets isLeft
  rw [redactSecrets_piece escapeFree restFree isCut, isShown, run_append, run_escape,
    Option.bind_some] at otherRan
  have noQuote : ∀ count, '\"' ∉ List.replicate count ']' := fun count isIn =>
    absurd (List.eq_of_mem_replicate isIn) (by decide)
  have noSlash : ∀ count, '\\' ∉ List.replicate count ']' := fun count isIn =>
    absurd (List.eq_of_mem_replicate isIn) (by decide)
  obtain ⟨final, rfl⟩ := run_plain (noQuote _) (noSlash _) otherRan
  exact parted_of_left restFree ran settled (.inr ⟨sameDepth, sameKind⟩)

/-- A match that goes past the closing quote of its text leaves no JSON text. -/
private theorem not_finishes_of_dirty {frames otherFrames : List Frame}
    {before otherBefore : Option (List (Text × Value))} {read otherRead text rest : Text}
    (sameDepth : otherFrames.length = frames.length)
    (sameKind : otherBefore.isSome = before.isSome) (free : StopFree text)
    (dirty : ¬ Clean (escape text))
    (finishes : Finishes ⟨frames, .inText before ⟨read, .plain⟩⟩ (escape text ++ '\"' :: rest)) :
    ¬ Finishes ⟨otherFrames, .inText otherBefore ⟨otherRead, .plain⟩⟩
      (redactSecrets (escape text ++ '\"' :: rest)) := by
  have closes : Reader.step ⟨frames, .inText before ⟨read ++ text, .plain⟩⟩ '\"' =
      some ⟨frames, .afterText before (read ++ text)⟩ := by
    simp [Reader.step]
  rw [finishes_of_run (run_escape before text read), finishes_of_step closes] at finishes
  intro otherFinishes
  by_cases restFree : StopFree rest
  · obtain ⟨last, ran, ends⟩ := finishes
    obtain ⟨otherLast, otherRan, otherEnds⟩ := otherFinishes
    have parted := parted_of_dirty sameDepth sameKind free dirty restFree ran
      (settled_of_finish ends) otherRan
    obtain ⟨value, ends⟩ := Option.isSome_iff_exists.mp ends
    rw [parted.finish ends] at otherEnds
    exact absurd otherEnds (by simp)
  · obtain ⟨piece, stop, more, pieceFree, stops, rfl⟩ := exists_firstStop restFree
    have split : escape text ++ '\"' :: (piece ++ stop :: more) =
        (escape text ++ '\"' :: piece) ++ stop :: more := by simp
    rw [split, redactSecrets_append_stop _ stops, finishes_append] at otherFinishes
    obtain ⟨otherLast, otherRan, otherFinishes⟩ := otherFinishes
    obtain ⟨last, ran, finishes⟩ := finishes_append.mp finishes
    obtain ⟨next, stepped, finishes⟩ := finishes_cons.mp finishes
    obtain ⟨otherNext, otherStepped, otherFinishes⟩ := finishes_cons.mp otherFinishes
    have parted := parted_of_dirty sameDepth sameKind free dirty pieceFree ran
      (settled_of_stop stops stepped) otherRan
    exact not_finishes_of_parted (parted.step stepped otherStepped) finishes otherFinishes

/-- A text that is not closed leaves no JSON text. -/
private theorem not_finishes_of_open {frames otherFrames : List Frame}
    {before otherBefore : Option (List (Text × Value))} {text rest : Text}
    (sameDepth : otherFrames.length = frames.length)
    (sameKind : otherBefore.isSome = before.isSome) (isOpen : ¬ ClosedText text)
    (finishes : Finishes ⟨frames, .inText before ⟨[], .plain⟩⟩ (escape text ++ '\"' :: rest)) :
    ¬ Finishes ⟨otherFrames, .inText otherBefore ⟨[], .plain⟩⟩
      (redactSecrets (escape text ++ '\"' :: rest)) := by
  have lastFree := stopFree_lastPiece text
  cases eq_lastPiece_or text with
  | inl same =>
      rw [same] at finishes ⊢
      exact not_finishes_of_dirty sameDepth sameKind lastFree isOpen finishes
  | inr split =>
      obtain ⟨ahead, stop, stops, same⟩ := split
      have shape : escape text ++ '\"' :: rest =
          escape ahead ++ stop :: (escape (lastPiece text) ++ '\"' :: rest) := by
        conv_lhs => rw [same]
        rw [escape_append, escape_cons, escapeChar_of_isStop stops]
        simp
      have escaped : ∀ front more, escape front ++ stop :: more =
          escape (front ++ [stop]) ++ more := by
        intro front more
        rw [escape_append, escape_cons, escapeChar_of_isStop stops]
        simp [escape]
      rw [shape, escaped, finishes_of_run (run_escape before _ [])] at finishes
      rw [shape, redactSecrets_append_stop _ stops, redactSecrets_escape, escaped,
        finishes_of_run (run_escape otherBefore _ [])]
      exact not_finishes_of_dirty sameDepth sameKind lastFree isOpen finishes

/-! ## Values with a text that is not closed -/

/-- A character that both readers take and that begins no secret word. -/
private theorem not_finishes_of_step {c : Char} {text : Text}
    {first second firstNext secondNext : Reader} (noLetter : isLetter (fold c) = false)
    (firstStep : first.step c = some firstNext) (secondStep : second.step c = some secondNext)
    (later : Finishes firstNext text → ¬ Finishes secondNext (redactSecrets text))
    (finishes : Finishes first (c :: text)) : ¬ Finishes second (redactSecrets (c :: text)) := by
  rw [redactSecrets_cons noLetter, finishes_of_step secondStep]
  exact later ((finishes_of_step firstStep).mp finishes)

/-- A text with its quotes ahead of which both readers expect a text. -/
private theorem not_finishes_of_quote {frames otherFrames : List Frame}
    {before otherBefore : Option (List (Text × Value))} {text rest : Text}
    (sameDepth : otherFrames.length = frames.length)
    (sameKind : otherBefore.isSome = before.isSome) (isOpen : ¬ ClosedText text)
    {first second : Reader}
    (firstStep : first.step '\"' = some ⟨frames, .inText before ⟨[], .plain⟩⟩)
    (secondStep : second.step '\"' = some ⟨otherFrames, .inText otherBefore ⟨[], .plain⟩⟩)
    (finishes : Finishes first (quote text ++ rest)) :
    ¬ Finishes second (redactSecrets (quote text ++ rest)) := by
  have split : quote text ++ rest = '\"' :: (escape text ++ '\"' :: rest) := by simp [quote]
  rw [split] at finishes ⊢
  exact not_finishes_of_step (by decide) firstStep secondStep
    (not_finishes_of_open sameDepth sameKind isOpen) finishes

/-- After a text with its quotes that is closed. -/
private theorem finishes_quote {frames : List Frame}
    {before : Option (List (Text × Value))} {text rest : Text} {reader : Reader}
    (step : reader.step '\"' = some ⟨frames, .inText before ⟨[], .plain⟩⟩) :
    Finishes reader (quote text ++ rest) ↔ Finishes ⟨frames, .afterText before text⟩ rest := by
  have split : quote text ++ rest = '\"' :: ((escape text ++ ['\"']) ++ rest) := by simp [quote]
  rw [split, finishes_of_step step, finishes_of_run (run_quote before text)]

/-- The first item of an array that is not closed is read like any value. -/
private theorem finishes_firstItem {frames : List Frame} {value : Value}
    (isOpen : ¬ value.AllTexts ClosedText) (rest : Text) :
    Finishes ⟨frames, .firstItem⟩ (redactSecrets (render value ++ rest)) ↔
      Finishes ⟨.array [] :: frames, .start⟩ (redactSecrets (render value ++ rest)) := by
  cases value with
  | null => exact absurd trivial isOpen
  | bool value => exact absurd trivial isOpen
  | number literal => exact absurd trivial isOpen
  | string text =>
      rw [render, quote, List.cons_append, List.cons_append, redactSecrets_cons (by decide),
        finishes_cons, finishes_cons]
      rfl
  | array items =>
      rw [render, List.cons_append, List.cons_append, redactSecrets_cons (by decide),
        finishes_cons, finishes_cons]
      rfl
  | object fields =>
      rw [render, List.cons_append, List.cons_append, redactSecrets_cons (by decide),
        finishes_cons, finishes_cons]
      rfl

/-- A value that both readers expect, and what follows it, if the value is closed. -/
private theorem exists_holds {frames otherFrames : List Frame} {value : Value}
    (closed : value.AllTexts ClosedText) {rest : Text} (outside : StartsOutside rest)
    (finishes : Finishes ⟨frames, .start⟩ (render value ++ rest))
    (otherFinishes : Finishes ⟨otherFrames, .start⟩ (redactSecrets (render value ++ rest))) :
    (∃ reader, reader.Holds frames value ∧ Finishes reader rest) ∧
      ∃ reader, reader.Holds otherFrames (value.mapTexts redactText) ∧
        Finishes reader (redactSecrets rest) := by
  obtain ⟨reader, read, holds⟩ := holds_render value frames
  obtain ⟨otherReader, otherRead, otherHolds⟩ :=
    holds_render (value.mapTexts redactText) otherFrames
  rw [finishes_of_run read] at finishes
  rw [redactSecrets_render value closed outside, finishes_of_run otherRead] at otherFinishes
  exact ⟨⟨_, holds, finishes⟩, _, otherHolds, otherFinishes⟩

/-- What is shown of a value: no text that ends a reader before the value ends another one
after redaction. -/
private def Breaks (value : Value) : Prop :=
  ∀ {frames otherFrames : List Frame}, otherFrames.length = frames.length →
    ∀ rest, Finishes ⟨frames, .start⟩ (render value ++ rest) →
      ¬ Finishes ⟨otherFrames, .start⟩ (redactSecrets (render value ++ rest))

private def BreaksItems (items : List Value) : Prop :=
  ∀ {frames otherFrames : List Frame} {before otherBefore : List Value} {item otherItem : Value}
    {first second : Reader}, otherFrames.length = frames.length →
    first.Holds (.array before :: frames) item →
    second.Holds (.array otherBefore :: otherFrames) otherItem →
    ∀ rest, Finishes first (renderMoreItems items ++ ']' :: rest) →
      ¬ Finishes second (redactSecrets (renderMoreItems items ++ ']' :: rest))

private def BreaksFields (fields : List (Text × Value)) : Prop :=
  ∀ {frames otherFrames : List Frame} {before otherBefore : List (Text × Value)}
    {key otherKey : Text} {value otherValue : Value} {first second : Reader},
    otherFrames.length = frames.length →
    first.Holds (.object before key :: frames) value →
    second.Holds (.object otherBefore otherKey :: otherFrames) otherValue →
    ∀ rest, Finishes first (renderMoreFields fields ++ '}' :: rest) →
      ¬ Finishes second (redactSecrets (renderMoreFields fields ++ '}' :: rest))

/-- An item and the items after it, when both readers expect the item. -/
private theorem not_finishes_of_item {item : Value} {items : List Value}
    (isOpen : ¬ (item.AllTexts ClosedText ∧ Value.AllItems ClosedText items))
    (itemBreaks : ¬ item.AllTexts ClosedText → Breaks item)
    (restBreaks : ¬ Value.AllItems ClosedText items → BreaksItems items)
    {frames otherFrames : List Frame} {before otherBefore : List Value}
    (sameDepth : otherFrames.length = frames.length) (rest : Text)
    (finishes : Finishes ⟨.array before :: frames, .start⟩
      (render item ++ (renderMoreItems items ++ ']' :: rest))) :
    ¬ Finishes ⟨.array otherBefore :: otherFrames, .start⟩
      (redactSecrets (render item ++ (renderMoreItems items ++ ']' :: rest))) := by
  intro otherFinishes
  by_cases closed : item.AllTexts ClosedText
  · obtain ⟨⟨reader, holds, finishes⟩, otherReader, otherHolds, otherFinishes⟩ :=
      exists_holds closed (startsOutside_moreItems items rest) finishes otherFinishes
    have restOpen : ¬ Value.AllItems ClosedText items := fun rest => isOpen ⟨closed, rest⟩
    exact restBreaks restOpen sameDepth holds otherHolds rest finishes otherFinishes
  · have deeper : (Frame.array otherBefore :: otherFrames).length =
        (Frame.array before :: frames).length := by simp [sameDepth]
    exact itemBreaks closed deeper _ finishes otherFinishes

/-- A field and the fields after it, when both readers expect the key. -/
private theorem not_finishes_of_field {key : Text} {value : Value}
    {fields : List (Text × Value)}
    (isOpen : ¬ (ClosedText key ∧ value.AllTexts ClosedText ∧ Value.AllFields ClosedText fields))
    (valueBreaks : ¬ value.AllTexts ClosedText → Breaks value)
    (restBreaks : ¬ Value.AllFields ClosedText fields → BreaksFields fields)
    {frames otherFrames : List Frame} {before otherBefore : List (Text × Value)}
    {first second : Reader} (sameDepth : otherFrames.length = frames.length)
    (firstStep : first.step '\"' = some ⟨frames, .inText (some before) ⟨[], .plain⟩⟩)
    (secondStep :
      second.step '\"' = some ⟨otherFrames, .inText (some otherBefore) ⟨[], .plain⟩⟩)
    (rest : Text)
    (finishes : Finishes first
      (quote key ++ ':' :: (render value ++ (renderMoreFields fields ++ '}' :: rest)))) :
    ¬ Finishes second (redactSecrets
      (quote key ++ ':' :: (render value ++ (renderMoreFields fields ++ '}' :: rest)))) := by
  by_cases keyClosed : ClosedText key
  · have colon : Reader.step ⟨frames, .afterText (some before) key⟩ ':' =
        some ⟨.object before key :: frames, .start⟩ := rfl
    have otherColon : Reader.step ⟨otherFrames, .afterText (some otherBefore) (redactText key)⟩
        ':' = some ⟨.object otherBefore (redactText key) :: otherFrames, .start⟩ := rfl
    rw [finishes_quote firstStep, finishes_of_step colon] at finishes
    rw [redactSecrets_quote keyClosed, redactSecrets_cons (by decide), finishes_quote secondStep,
      finishes_of_step otherColon]
    intro otherFinishes
    by_cases closed : value.AllTexts ClosedText
    · obtain ⟨⟨reader, holds, finishes⟩, otherReader, otherHolds, otherFinishes⟩ :=
        exists_holds closed (startsOutside_moreFields fields rest) finishes otherFinishes
      have restOpen : ¬ Value.AllFields ClosedText fields :=
        fun rest => isOpen ⟨keyClosed, closed, rest⟩
      exact restBreaks restOpen sameDepth holds otherHolds rest finishes otherFinishes
    · have deeper : (Frame.object otherBefore (redactText key) :: otherFrames).length =
          (Frame.object before key :: frames).length := by simp [sameDepth]
      exact valueBreaks closed deeper _ finishes otherFinishes
  · exact not_finishes_of_quote sameDepth (by rfl) keyClosed firstStep secondStep finishes

mutual

/-- A value with a text that is not closed leaves no JSON text. -/
private theorem breaks_of_open (value : Value) (isOpen : ¬ value.AllTexts ClosedText) :
    Breaks value := by
  intro frames otherFrames sameDepth rest finishes
  match value with
  | .null => exact absurd trivial isOpen
  | .bool _ => exact absurd trivial isOpen
  | .number _ => exact absurd trivial isOpen
  | .string text => exact not_finishes_of_quote sameDepth (by rfl) isOpen rfl rfl finishes
  | .array [] => exact absurd trivial isOpen
  | .object [] => exact absurd trivial isOpen
  | .array (item :: items) =>
      have split : render (.array (item :: items)) ++ rest =
          '[' :: (render item ++ (renderMoreItems items ++ ']' :: rest)) := by
        simp [render, renderItems]
      rw [split] at finishes ⊢
      have opens : Reader.step ⟨frames, .start⟩ '[' = some ⟨frames, .firstItem⟩ := rfl
      have otherOpens : Reader.step ⟨otherFrames, .start⟩ '[' =
          some ⟨otherFrames, .firstItem⟩ := rfl
      apply not_finishes_of_step (by decide) opens otherOpens _ finishes
      intro finishes otherFinishes
      rw [Finishes, run_firstItem] at finishes
      have otherStarts : Finishes ⟨.array [] :: otherFrames, .start⟩
          (redactSecrets (render item ++ (renderMoreItems items ++ ']' :: rest))) := by
        by_cases closed : item.AllTexts ClosedText
        · rw [redactSecrets_render item closed (startsOutside_moreItems items rest), Finishes,
            run_firstItem] at otherFinishes
          rw [redactSecrets_render item closed (startsOutside_moreItems items rest)]
          exact otherFinishes
        · exact (finishes_firstItem closed _).mp otherFinishes
      exact not_finishes_of_item isOpen (breaks_of_open item) (breaksItems_of_open items) sameDepth
        rest finishes otherStarts
  | .object ((key, value) :: fields) =>
      have split : render (.object ((key, value) :: fields)) ++ rest =
          '{' :: (quote key ++ ':' ::
            (render value ++ (renderMoreFields fields ++ '}' :: rest))) := by
        simp [render, renderFields]
      rw [split] at finishes ⊢
      exact not_finishes_of_step (by decide) rfl rfl
        (not_finishes_of_field isOpen (breaks_of_open value) (breaksFields_of_open fields)
          sameDepth rfl rfl rest) finishes

private theorem breaksItems_of_open (items : List Value)
    (isOpen : ¬ Value.AllItems ClosedText items) : BreaksItems items := by
  intro frames otherFrames before otherBefore item otherItem first second sameDepth holds
    otherHolds rest finishes
  match items with
  | [] => exact absurd trivial isOpen
  | next :: items =>
      have split : renderMoreItems (next :: items) ++ ']' :: rest =
          ',' :: (render next ++ (renderMoreItems items ++ ']' :: rest)) := by
        simp [renderMoreItems]
      rw [split] at finishes ⊢
      exact not_finishes_of_step (by decide) (holds.step (by decide)) (otherHolds.step (by decide))
        (not_finishes_of_item isOpen (breaks_of_open next) (breaksItems_of_open items) sameDepth
          rest) finishes

private theorem breaksFields_of_open (fields : List (Text × Value))
    (isOpen : ¬ Value.AllFields ClosedText fields) : BreaksFields fields := by
  intro frames otherFrames before otherBefore key otherKey value otherValue first second sameDepth
    holds otherHolds rest finishes
  match fields with
  | [] => exact absurd trivial isOpen
  | (next, nextValue) :: fields =>
      have split : renderMoreFields ((next, nextValue) :: fields) ++ '}' :: rest =
          ',' :: (quote next ++ ':' ::
            (render nextValue ++ (renderMoreFields fields ++ '}' :: rest))) := by
        simp [renderMoreFields]
      rw [split] at finishes ⊢
      exact not_finishes_of_step (by decide) (holds.step (by decide)) (otherHolds.step (by decide))
        (not_finishes_of_field isOpen (breaks_of_open nextValue) (breaksFields_of_open fields)
          sameDepth rfl rfl rest) finishes

end

/-- The redacted line of a value with a text that is not closed is no JSON text. -/
theorem parse_redactSecrets_of_open {value : Value} (isOpen : ¬ value.AllTexts ClosedText) :
    parse (redactSecrets (render value)) = none := by
  have finishes : Finishes ⟨[], .start⟩ (render value ++ []) := by
    rw [List.append_nil]
    obtain ⟨reader, ran, holds⟩ := holds_render value []
    exact ⟨reader, ran, by rw [holds.finish]; rfl⟩
  have broken := breaks_of_open value isOpen (Eq.refl [].length) [] finishes
  rw [List.append_nil] at broken
  rw [← Option.not_isSome_iff_eq_none]
  intro read
  apply broken
  obtain ⟨_, read⟩ := Option.isSome_iff_exists.mp read
  obtain ⟨last, ran, ends⟩ := Option.bind_eq_some_iff.mp read
  exact ⟨last, ran, by rw [ends]; rfl⟩

end TriAI.Evidence
