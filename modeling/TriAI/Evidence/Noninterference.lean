import TriAI.Evidence.Redaction

/-!
Contract: what an evidence line shows of the value of a secret field.

Owns: the piece of a line that holds the value; that two values without `,`, `}` and `]`
give the same line exactly if patterns are found in their pieces equally often; and that a
value with one of these characters never gives the line of a value without them.

Does not own: which lines of two values that both have such a character are alike; what
follows the first of them is on both lines.
-/

set_option autoImplicit false

namespace TriAI.Evidence

open TriAI.Library TriAI.Library.JsonText

/-! ## Pieces of a line -/

/-- What follows the last stop. -/
def lastPiece : Text → Text
  | [] => []
  | c :: rest => if rest.any isStop then lastPiece rest else if isStop c then rest else c :: rest

theorem stopFree_lastPiece (text : Text) : StopFree (lastPiece text) := by
  induction text with
  | nil => simp [lastPiece, StopFree]
  | cons c text inductionHypothesis =>
      unfold lastPiece
      split_ifs with later stops
      · exact inductionHypothesis
      · intro other member
        simp only [List.any_eq_true, not_exists, not_and, Bool.not_eq_true] at later
        exact later other member
      · intro other member
        simp only [List.any_eq_true, not_exists, not_and, Bool.not_eq_true] at later stops
        cases List.mem_cons.mp member with
        | inl same => rw [same]; exact stops
        | inr inside => exact later other inside

/-- A text is its last piece, or ends with it after a stop. -/
theorem eq_lastPiece_or (text : Text) :
    text = lastPiece text ∨
      ∃ ahead stop, isStop stop = true ∧ text = ahead ++ stop :: lastPiece text := by
  induction text with
  | nil => exact .inl rfl
  | cons c text inductionHypothesis =>
      unfold lastPiece
      split_ifs with later stops
      · right
        cases inductionHypothesis with
        | inl same =>
            obtain ⟨stop, member, stops⟩ := List.any_eq_true.mp later
            rw [same] at member
            rw [stopFree_lastPiece text stop member] at stops
            exact absurd stops (by simp)
        | inr split =>
            obtain ⟨ahead, stop, stops, same⟩ := split
            exact ⟨c :: ahead, stop, stops, by rw [List.cons_append, ← same]⟩
      · exact .inr ⟨[], c, stops, rfl⟩
      · exact .inl rfl

theorem stopFree_iff {text : Text} : StopFree text ↔ text.any isStop = false := by
  simp [StopFree]

theorem lastPiece_append {text piece : Text} (free : StopFree piece) :
    lastPiece (text ++ piece) = lastPiece text ++ piece := by
  induction text with
  | nil =>
      cases piece with
      | nil => rfl
      | cons c piece =>
          have noStop := stopFree_iff.mp free.of_cons.2
          simp [lastPiece, noStop, free.of_cons.1]
  | cons c text inductionHypothesis =>
      have noStop := stopFree_iff.mp free
      simp only [List.cons_append, lastPiece, List.any_append, noStop, Bool.or_false]
      split_ifs
      · exact inductionHypothesis
      · rfl
      · rfl

/-- What is ahead of a text's last piece is redacted by itself. -/
theorem redactSecrets_lastPiece (text : Text) :
    ∃ ahead, ∀ more,
      redactSecrets (text ++ more) = ahead ++ redactSecrets (lastPiece text ++ more) := by
  cases eq_lastPiece_or text with
  | inl same =>
      exact ⟨[], fun more => by rw [List.nil_append, ← same]⟩
  | inr split =>
      obtain ⟨ahead, stop, stops, same⟩ := split
      refine ⟨redactSecrets ahead ++ [stop], fun more => ?_⟩
      have joined : text ++ more = ahead ++ stop :: (lastPiece text ++ more) := by
        conv_lhs => rw [same]
        simp
      rw [joined, redactSecrets_append_stop ahead stops]
      simp

/-! ## Escaping -/

/-- A character that matches a letter of a pattern is not escaped. -/
theorem escapeChar_of_isLetter {c : Char} (letter : isLetter (fold c) = true) :
    escapeChar c = [c] := by
  have checked := escapeChar_induction
    (motive := fun c escaped => isLetter (fold c) = true → escaped = [c]) c
    (fun _ _ => rfl) (by decide) (by decide) (by decide)
  exact checked letter

/-- What occurs in a text occurs where the text is escaped. -/
theorem Occurs.escape {pattern text : Text} (regular : isRegular pattern = true)
    (occurs : Occurs pattern text) : Occurs pattern (escape text) := by
  obtain ⟨ahead, rest, rfl, here⟩ := occurs
  obtain ⟨after, same⟩ := matchesAt_iff.mp here
  obtain ⟨found, tail, rfl, foundIs, tailIs⟩ := List.map_eq_append_iff.mp same.symm
  have unescaped : JsonText.escape found = found := by
    apply escape_eq_self
    intro c member
    apply escapeChar_of_isLetter
    apply (letter_of_regular regular _).2
    rw [← foundIs]
    exact List.mem_map_of_mem member
  refine ⟨JsonText.escape ahead, JsonText.escape (found ++ tail), escape_append _ _, ?_⟩
  rw [matchesAt_iff, escape_append, unescaped, List.map_append, foundIs]
  exact List.prefix_append _ _

theorem any_isStop_escapeChar (c : Char) : (escapeChar c).any isStop = isStop c :=
  escapeChar_induction (motive := fun c escaped => escaped.any isStop = isStop c) c
    (fun _ => by simp) (by decide) (by decide) (by decide)

/-- Only stops of a text are stops where the text is escaped. -/
theorem stopFree_escape {text : Text} : StopFree (escape text) ↔ StopFree text := by
  have same : (escape text).any isStop = text.any isStop := by
    rw [JsonText.escape, List.any_flatMap]
    congr 1
    funext c
    exact any_isStop_escapeChar c
  rw [stopFree_iff, stopFree_iff, same]

/-! ## Cuts of a longer piece -/

/-- Where a pattern first occurs in a text with a character that is no letter. -/
theorem firstAt_append_cons {pattern : Text} (regular : isRegular pattern = true) (text : Text)
    {c : Char} (noLetter : isLetter (fold c) = false) (rest : Text) :
    firstAt pattern (text ++ c :: rest) =
      (firstAt pattern text).or ((firstAt pattern rest).map (· + (text.length + 1))) := by
  induction text with
  | nil =>
      have same := matchesAt_cons_of_noLetter regular noLetter rest
      simp [firstAt, same]
  | cons first text inductionHypothesis =>
      have same := matchesAt_append_cons regular (first :: text) noLetter rest
      rw [List.cons_append] at same
      rw [List.cons_append, firstAt, firstAt, same, inductionHypothesis]
      split_ifs
      · rfl
      · cases firstAt pattern text with
        | some position => rfl
        | none =>
            cases firstAt pattern rest with
            | none => rfl
            | some position => simp [Nat.add_assoc]

/-- The cuts of a text and of a longer one: the same place, or beyond the text. -/
private def Extends (length : Nat) (short long : Option Cut) : Prop :=
  match short with
  | none => ∀ held, long = some held → length < held.position
  | some cut => cut.position < length ∧ ∃ count, long = some { cut with count := count }

private theorem Extends.next {text rest pattern : Text} {c : Char} {short long : Option Cut}
    (regular : isRegular pattern = true) (noLetter : isLetter (fold c) = false)
    (same : Extends text.length short long) :
    Extends text.length (Cut.next text pattern short)
      (Cut.next (text ++ c :: rest) pattern long) := by
  have first := firstAt_append_cons regular text noLetter rest
  cases found : firstAt pattern text with
  | some position =>
      have inside := firstAt_lt found
      rw [found, Option.some_or] at first
      cases short with
      | none =>
          cases long with
          | none => simp [Extends, Cut.next, found, first, inside]
          | some cut =>
              have beyond := same cut rfl
              have below : position < cut.position := by omega
              simp [Extends, Cut.next, found, first, inside, below, Option.filter]
      | some cut =>
          obtain ⟨within, count, rfl⟩ := same
          by_cases below : position < cut.position
          · simp [Extends, Cut.next, found, first, inside, below, Option.filter]
          · simp [Extends, Cut.next, found, first, within, below, Option.filter]
  | none =>
      rw [found, Option.none_or] at first
      cases short with
      | none =>
          have unfound : Cut.next text pattern none = none := by simp [Cut.next, found]
          rw [unfound]
          intro held isHeld
          cases long with
          | none =>
              simp only [Cut.next, first, Option.map_eq_some_iff] at isHeld
              obtain ⟨position, ⟨later, -, rfl⟩, rfl⟩ := isHeld
              show text.length < later + (text.length + 1)
              omega
          | some cut =>
              have beyond := same cut rfl
              simp only [Cut.next, first] at isHeld
              split at isHeld
              next => rwa [← Option.some.inj isHeld]
              next position isFound =>
                rw [Option.filter_eq_some_iff, Option.map_eq_some_iff] at isFound
                obtain ⟨⟨later, -, rfl⟩, -⟩ := isFound
                rw [← Option.some.inj isHeld]
                show text.length < later + (text.length + 1)
                omega
      | some cut =>
          obtain ⟨within, count, rfl⟩ := same
          have beyond : (firstAt pattern (text ++ c :: rest)).filter (· < cut.position) = none := by
            rw [first, Option.filter_eq_none_iff]
            intro position isFound
            obtain ⟨later, -, rfl⟩ := Option.map_eq_some_iff.mp isFound
            simp only [decide_eq_true_eq]
            omega
          simp [Extends, Cut.next, found, beyond, within]

/-- What is after a character that is no letter does not move a cut. -/
theorem cutOf_append_cons {text : Text} {c : Char} (noLetter : isLetter (fold c) = false)
    (rest : Text) {cut : Cut} (isCut : cutOf text = some cut) :
    cut.position < text.length ∧
      ∃ count, cutOf (text ++ c :: rest) = some { cut with count := count } := by
  have extended : ∀ patterns : List Text, (∀ pattern ∈ patterns, isRegular pattern = true) →
      ∀ short long, Extends text.length short long →
        Extends text.length (cutWith patterns text short)
          (cutWith patterns (text ++ c :: rest) long) := by
    intro patterns
    induction patterns with
    | nil => exact fun _ _ _ same => same
    | cons pattern patterns inductionHypothesis =>
        intro regular short long same
        exact inductionHypothesis
          (fun other member => regular other (List.mem_cons_of_mem _ member)) _ _
          (same.next (regular pattern List.mem_cons_self) noLetter)
  have unstarted : Extends text.length none none := fun held isHeld => nomatch isHeld
  have whole := extended secretPatterns (fun _ => secretPatterns_regular) none none unstarted
  rw [show cutWith secretPatterns text none = some cut from isCut] at whole
  exact whole

/-- How often a pattern is found in a piece, each time ahead of those found before. -/
def replacements (text : Text) : Nat := (cutOf text).elim 0 Cut.count

/-- What is left of a piece that has a pattern ahead of a quote. -/
theorem redactSecrets_piece {head rest : Text} (headFree : StopFree head)
    (restFree : StopFree rest) {cut : Cut} (isCut : cutOf head = some cut) :
    redactSecrets (head ++ '\"' :: rest) =
      head.take cut.position ++ (cut.pattern ++ marker) ++
        List.replicate (replacements (head ++ '\"' :: rest)) ']' := by
  have quoteOutside : isLetter (fold '\"') = false := by decide
  obtain ⟨inside, count, longer⟩ := cutOf_append_cons quoteOutside rest isCut
  have quoteFree : StopFree ('\"' :: rest) := StopFree.cons (by decide) restFree
  rw [redactSecrets_stopFree (headFree.append quoteFree), replacements, longer]
  simp [Cut.leave, List.take_append_of_le_length (Nat.le_of_lt inside)]

/-! ## The line of a secret field -/

/-- The line up to the quote ahead of the value. -/
def opening (place : Place) (key : Text) : Text := place.left ++ quote key ++ [':']

/-- The piece of the line that a value without stops is in. -/
def pieceOf (place : Place) (key value : Text) : Text :=
  lastPiece (opening place key) ++ '\"' :: (escape value ++ ['\"'])

/-- What makes two values of a field give the same line. -/
structure Hidden (place : Place) (key first second : Text) : Prop where
  /-- A pattern is ahead of the value in its piece. -/
  marked : ¬ Clean (lastPiece (opening place key))
  firstFree : StopFree first
  secondFree : StopFree second
  /-- Patterns are found equally often. -/
  alike : replacements (pieceOf place key first) = replacements (pieceOf place key second)

private theorem render_string (place : Place) (key value : Text) :
    render (place.fill key (.string value)) =
      opening place key ++ '\"' :: (escape value ++ ['\"']) ++ place.right := by
  simp [Place.render_fill, opening, render, quote]

private theorem redactSecrets_right (place : Place) (text : Text) :
    redactSecrets (text ++ place.right) = redactSecrets text ++ redactSecrets place.right := by
  obtain ⟨stop, rest, same, isEnd⟩ := place.right_head
  have stops : isStop stop = true := by
    cases isEnd with
    | inl isComma => rw [isComma]; decide
    | inr isBrace => rw [isBrace]; decide
  have alone := redactSecrets_append_stop [] stops rest
  have empty : redactSecrets [] = [] := by decide +kernel
  rw [List.nil_append, empty, List.nil_append] at alone
  rw [same, redactSecrets_append_stop text stops, alone]

private theorem stopFree_valueText {value : Text} (free : StopFree value) :
    StopFree (escape value ++ ['\"']) :=
  (stopFree_escape.mpr free).append (StopFree.cons (by decide) stopFree_nil)

/-- The line is the same up to and after the piece of the value. -/
private theorem line_frame (place : Place) (key : Text) :
    ∃ ahead, ∀ value, redactSecrets (render (place.fill key (.string value))) =
      ahead ++ redactSecrets (pieceOf place key value) ++ redactSecrets place.right := by
  obtain ⟨ahead, split⟩ := redactSecrets_lastPiece (opening place key)
  refine ⟨ahead, fun value => ?_⟩
  rw [render_string, redactSecrets_right, split, pieceOf]

/-- Bytes are the same exactly if texts are. -/
private theorem lineOf_eq_iff {first second : Value} :
    lineOf first = lineOf second ↔
      redactSecrets (render first) = redactSecrets (render second) := by
  constructor
  · intro same
    have decoded := congrArg TextLines.fromUtf8 same
    simp only [lineOf, TextLines.fromUtf8_utf8Bytes, Option.some.injEq] at decoded
    have letters := congrArg String.toList decoded
    rw [String.toList_ofList, String.toList_ofList] at letters
    exact List.append_cancel_right letters
  · intro same
    rw [lineOf, lineOf, same]

private theorem line_eq_iff (filename : String) (place : Place) (key first second : Text) :
    JsonlWriter.write filename (place.fill key (.string first)) =
        JsonlWriter.write filename (place.fill key (.string second)) ↔
      redactSecrets (pieceOf place key first) = redactSecrets (pieceOf place key second) := by
  obtain ⟨ahead, frame⟩ := line_frame place key
  simp [JsonlWriter.write, lineOf_eq_iff, frame]

/-! ## Values with a stop -/

private theorem replaceAll_any {pattern text : Text} (regular : isRegular pattern = true)
    (shown : text.any (fun c => !isStop c) = true) :
    (replaceAll pattern false text).any (fun c => !isStop c) = true := by
  induction text with
  | nil => simp at shown
  | cons c text inductionHypothesis =>
      by_cases stops : isStop c = true
      · simp only [List.any_cons, stops, Bool.not_true, Bool.false_or] at shown
        simp [replaceAll, stops, inductionHypothesis shown]
      · by_cases here : matchesAt pattern (c :: text) = true
        · obtain ⟨letter, member⟩ := List.exists_mem_of_ne_nil _ (ne_nil_of_regular regular)
          have noStop : isStop letter = false := by
            rw [Bool.eq_false_iff]
            intro isStop
            have outside := isLetter_of_isStop isStop
            rw [(letter_of_regular regular member).2] at outside
            exact absurd outside (by simp)
          rw [List.any_eq_true]
          exact ⟨letter, by simp [replaceAll, stops, here, member], by simp [noStop]⟩
        · simp [replaceAll, stops, here]

/-- A character that is no stop leaves one. -/
private theorem redactSecrets_any {text : Text} (shown : text.any (fun c => !isStop c) = true) :
    (redactSecrets text).any (fun c => !isStop c) = true := by
  have all : ∀ patterns : List Text, (∀ pattern ∈ patterns, isRegular pattern = true) →
      ∀ text : Text, text.any (fun c => !isStop c) = true →
        (redactWith patterns text).any (fun c => !isStop c) = true := by
    intro patterns
    induction patterns with
    | nil => exact fun _ _ shown => shown
    | cons pattern patterns inductionHypothesis =>
        intro regular text shown
        exact inductionHypothesis
          (fun other member => regular other (List.mem_cons_of_mem _ member)) _
          (replaceAll_any (regular pattern List.mem_cons_self) shown)
  rw [redactSecrets]
  exact all secretPatterns (fun _ => secretPatterns_regular) text shown

/-- A text up to its first stop. -/
theorem exists_firstStop {text : Text} (some : ¬ StopFree text) :
    ∃ piece stop rest, StopFree piece ∧ isStop stop = true ∧ text = piece ++ stop :: rest := by
  induction text with
  | nil => exact absurd stopFree_nil some
  | cons c text inductionHypothesis =>
      by_cases stops : isStop c = true
      · exact ⟨[], c, text, stopFree_nil, stops, rfl⟩
      · have later : ¬ StopFree text := by
          intro free
          exact some (StopFree.cons (Bool.eq_false_iff.mpr stops) free)
        obtain ⟨piece, stop, rest, free, isStop, same⟩ := inductionHypothesis later
        exact ⟨c :: piece, stop, rest, StopFree.cons (Bool.eq_false_iff.mpr stops) free, isStop,
          by rw [same]; rfl⟩

/-- What is left of the piece of a value without stops ends at brackets; of another value,
something follows them. -/
private theorem piece_ne {place : Place} {key hidden shown : Text}
    (marked : ¬ Clean (lastPiece (opening place key))) (free : StopFree hidden)
    (stops : ¬ StopFree shown) :
    redactSecrets (pieceOf place key hidden) ≠ redactSecrets (pieceOf place key shown) := by
  intro same
  have headFree := stopFree_lastPiece (opening place key)
  obtain ⟨cut, isCut⟩ := Option.ne_none_iff_exists'.mp (mt cutOf_eq_none.mp marked)
  obtain ⟨piece, stop, rest, pieceFree, ends, split⟩ :=
    exists_firstStop (mt stopFree_escape.mp stops)
  have text : pieceOf place key shown =
      (lastPiece (opening place key) ++ '\"' :: piece) ++ stop :: (rest ++ ['\"']) := by
    simp [pieceOf, split]
  have shows : (redactSecrets (rest ++ ['\"'])).any (fun c => !isStop c) = true := by
    apply redactSecrets_any
    rw [List.any_append]
    exact Bool.or_eq_true_iff.mpr (.inr (by decide))
  rw [text, redactSecrets_append_stop _ ends, redactSecrets_piece headFree pieceFree isCut,
    pieceOf, redactSecrets_piece headFree (stopFree_valueText free) isCut,
    List.append_assoc _ (List.replicate _ _)] at same
  have brackets := List.append_cancel_left same
  obtain ⟨c, member, noStop⟩ := List.any_eq_true.mp shows
  have isBracket : c ∈ List.replicate
      (replacements (lastPiece (opening place key) ++ '\"' :: (escape hidden ++ ['\"']))) ']' := by
    rw [brackets]
    exact List.mem_append_right _ (List.mem_cons_of_mem _ member)
  rw [List.eq_of_mem_replicate isBracket] at noStop
  exact absurd noStop (by decide)

/-! ## Main results -/

private theorem piece_eq_iff {place : Place} {key first second : Text}
    (marked : ¬ Clean (lastPiece (opening place key))) (firstFree : StopFree first)
    (secondFree : StopFree second) :
    redactSecrets (pieceOf place key first) = redactSecrets (pieceOf place key second) ↔
      replacements (pieceOf place key first) = replacements (pieceOf place key second) := by
  have headFree := stopFree_lastPiece (opening place key)
  obtain ⟨cut, isCut⟩ := Option.ne_none_iff_exists'.mp (mt cutOf_eq_none.mp marked)
  unfold pieceOf
  rw [redactSecrets_piece headFree (stopFree_valueText firstFree) isCut,
    redactSecrets_piece headFree (stopFree_valueText secondFree) isCut]
  constructor
  · intro same
    have brackets := congrArg List.length (List.append_cancel_left same)
    simpa using brackets
  · intro same
    rw [same]

/-- A secret name without stops is itself in the piece of the value. -/
private theorem marked_of_name {place : Place} {key : Text} (secret : ¬ Clean key)
    (keyFree : StopFree key) : ¬ Clean (lastPiece (opening place key)) := by
  intro clean
  apply secret
  intro pattern member occurs
  have nameFree : StopFree (quote key ++ [':']) :=
    StopFree.cons (by decide) ((stopFree_valueText keyFree).append
      (StopFree.cons (by decide) stopFree_nil))
  have inside : lastPiece (opening place key) =
      lastPiece place.left ++ ['\"'] ++ escape key ++ ['\"', ':'] := by
    rw [opening, List.append_assoc, lastPiece_append nameFree]
    simp [quote]
  apply clean pattern member
  rw [inside]
  exact ((occurs.escape (secretPatterns_regular member)).append_left _).append_right _

/-- Two values of a secret field give the same line if no `,`, `}` or `]` is in either of
them or in the name after the pattern, and patterns are found equally often. This is also
necessary unless such a character is in the name or in both values. -/
theorem write_sameLine_iff (filename : String) (place : Place) (key first second : Text)
    (secret : ¬ Clean key) :
    (Hidden place key first second →
      JsonlWriter.write filename (place.fill key (.string first)) =
        JsonlWriter.write filename (place.fill key (.string second))) ∧
    (StopFree key → StopFree first ∨ StopFree second →
      JsonlWriter.write filename (place.fill key (.string first)) =
        JsonlWriter.write filename (place.fill key (.string second)) →
      Hidden place key first second) := by
  rw [line_eq_iff]
  constructor
  · intro hidden
    exact (piece_eq_iff hidden.marked hidden.firstFree hidden.secondFree).mpr hidden.alike
  · intro keyFree someFree same
    have marked : ¬ Clean (lastPiece (opening place key)) := marked_of_name secret keyFree
    have firstFree : StopFree first := by
      by_contra stops
      cases someFree with
      | inl free => exact stops free
      | inr free => exact piece_ne marked free stops same.symm
    have secondFree : StopFree second := by
      by_contra stops
      exact piece_ne marked firstFree stops same
    exact ⟨marked, firstFree, secondFree, (piece_eq_iff marked firstFree secondFree).mp same⟩

/-- A record with one field, `api_key`. -/
private def keyRecord : Place := .here [] []

private def apiKey : Text := ['a', 'p', 'i', '_', 'k', 'e', 'y']

private theorem apiKey_secret : ¬ Clean apiKey := by
  intro clean
  exact absurd (cutOf_eq_none.mpr clean) (by decide +kernel)

/-- The keys `sk-1` and `sk-2` give one line. -/
theorem write_sameLine_keys :
    JsonlWriter.write "runs.jsonl" (keyRecord.fill apiKey (.string ['s', 'k', '-', '1'])) =
      JsonlWriter.write "runs.jsonl" (keyRecord.fill apiKey (.string ['s', 'k', '-', '2'])) := by
  apply (write_sameLine_iff "runs.jsonl" keyRecord apiKey ['s', 'k', '-', '1']
    ['s', 'k', '-', '2'] apiKey_secret).1
  refine ⟨?_, stopFree_iff.mpr (by decide), stopFree_iff.mpr (by decide), by decide +kernel⟩
  intro clean
  exact absurd (cutOf_eq_none.mpr clean) (by decide +kernel)

/-- The keys `x,1` and `x,2` do not: what follows the comma is on the line. -/
theorem write_not_sameLine_comma :
    ¬ ∀ (filename : String) (place : Place) (key first second : Text), ¬ Clean key →
      JsonlWriter.write filename (place.fill key (.string first)) =
        JsonlWriter.write filename (place.fill key (.string second)) := by
  intro claim
  have same := claim "runs.jsonl" keyRecord apiKey ['x', ',', '1'] ['x', ',', '2'] apiKey_secret
  rw [line_eq_iff] at same
  exact absurd same (by decide +kernel)

end TriAI.Evidence
