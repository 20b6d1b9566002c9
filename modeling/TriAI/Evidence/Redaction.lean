import TriAI.Evidence.Writer
import TriAI.Library.JsonText
import TriAI.Library.TextLines

/-!
Contract: the redaction of evidence lines (`evidence/jsonl.rs`).

Owns: `SECRET_PATTERNS`, `redact_secrets` and the line that `JsonlWriter::write` sends; the
pieces of a text between `,`, `}` and `]`, each redacted by itself; and what is left of a
piece, which depends only on where each pattern first occurs in it.

Does not own: how a record becomes JSON data. `serde_json::to_string` is the compact text of
a value. Of Unicode case folding only what maps to a letter of a pattern is modelled.
-/

set_option autoImplicit false

namespace TriAI.Evidence

open TriAI.Library TriAI.Library.JsonText

/-- `SECRET_PATTERNS`. -/
def secretPatterns : List Text :=
  [['s', 'k', '-'],
    ['a', 'p', 'i', '_', 'k', 'e', 'y'],
    ['p', 'a', 's', 's', 'w', 'o', 'r', 'd'],
    ['s', 'e', 'c', 'r', 'e', 't'],
    ['t', 'o', 'k', 'e', 'n'],
    ['b', 'e', 'a', 'r', 'e', 'r'],
    ['a', 'u', 't', 'h', 'o', 'r', 'i', 'z', 'a', 't', 'i', 'o', 'n'],
    ['x', '-', 'a', 'p', 'i', '-', 'k', 'e', 'y'],
    ['o', 'p', 'e', 'n', 'a', 'i', '-'],
    ['a', 'n', 't', 'h', 'r', 'o', 'p', 'i', 'c', '-'],
    ['c', 'l', 'a', 'u', 'd', 'e', '-'],
    ['g', 'p', 't', '-'],
    ['a', 'w', 's', '_', 'a', 'c', 'c', 'e', 's', 's'],
    ['a', 'w', 's', '_', 's', 'e', 'c', 'r', 'e', 't']]

/-- The characters that end a match. -/
def isStop (c : Char) : Bool := c = ',' || c = '}' || c = ']'

/-- The letter that a character matches under `(?i)`: besides the capital letter, the
Kelvin sign is a `k` and the long s is an `s`. -/
def fold (c : Char) : Char :=
  if c = '\u212a' then 'k' else if c = '\u017f' then 's' else c.toLower

/-- The pattern matches at the start of the text. -/
def matchesAt (pattern text : Text) : Bool := pattern.isPrefixOf (text.map fold)

/-- What `replace_all` puts after the pattern, up to its last character. -/
def marker : Text := ['[', 'R', 'E', 'D', 'A', 'C', 'T', 'E', 'D']

/-- `replace_all` of the expression for `pattern`; `inMatch` while a match lasts. -/
def replaceAll (pattern : Text) : Bool → Text → Text
  | _, [] => []
  | inMatch, c :: rest =>
      if isStop c then c :: replaceAll pattern false rest
      else if inMatch then replaceAll pattern true rest
      else if matchesAt pattern (c :: rest) then
        pattern ++ marker ++ ']' :: replaceAll pattern true rest
      else c :: replaceAll pattern false rest

/-- One turn of the loop of `redact_secrets` after another. -/
def redactWith (patterns : List Text) (text : Text) : Text :=
  patterns.foldl (fun result pattern => replaceAll pattern false result) text

/-- `redact_secrets`. -/
def redactSecrets (text : Text) : Text := redactWith secretPatterns text

/-- The bytes `JsonlWriter::write` sends for a record. -/
def lineOf (record : Value) : List UInt8 :=
  TextLines.utf8Bytes (String.ofList (redactSecrets (render record) ++ ['\n']))

/-- `JsonlWriter::write`. -/
def JsonlWriter.write (filename : String) (record : Value) : WriterEvent :=
  .write filename (lineOf record)

/-! ## Pieces -/

def StopFree (text : Text) : Prop := ∀ c ∈ text, isStop c = false

instance (text : Text) : Decidable (StopFree text) := by
  unfold StopFree
  infer_instance

theorem StopFree.append {left right : Text} (leftFree : StopFree left)
    (rightFree : StopFree right) : StopFree (left ++ right) := by
  intro c member
  cases List.mem_append.mp member with
  | inl onLeft => exact leftFree c onLeft
  | inr onRight => exact rightFree c onRight

theorem stopFree_nil : StopFree [] := by simp [StopFree]

theorem StopFree.cons {c : Char} {text : Text} (noStop : isStop c = false)
    (free : StopFree text) : StopFree (c :: text) :=
  List.forall_mem_cons.mpr ⟨noStop, free⟩

theorem StopFree.of_cons {c : Char} {text : Text} (free : StopFree (c :: text)) :
    isStop c = false ∧ StopFree text :=
  ⟨free c List.mem_cons_self, fun other member => free other (List.mem_cons_of_mem _ member)⟩

/-- The letters of patterns. -/
def isLetter (c : Char) : Bool := c.isLower || c = '-' || c = '_'

/-- What is used of a single pattern: it is not empty, and a letter of it stands for
itself. -/
def isRegular (pattern : Text) : Bool :=
  !pattern.isEmpty && pattern.all fun letter => fold letter == letter && isLetter letter

theorem secretPatterns_regular {pattern : Text} (member : pattern ∈ secretPatterns) :
    isRegular pattern = true := by
  have all : secretPatterns.all isRegular = true := by decide
  exact List.all_eq_true.mp all pattern member

theorem ne_nil_of_regular {pattern : Text} (regular : isRegular pattern = true) :
    pattern ≠ [] := by
  intro empty
  subst empty
  exact absurd regular (by decide)

theorem letter_of_regular {pattern : Text} (regular : isRegular pattern = true)
    {letter : Char} (member : letter ∈ pattern) :
    fold letter = letter ∧ isLetter letter = true := by
  simp only [isRegular, Bool.and_eq_true, List.all_eq_true, beq_iff_eq] at regular
  exact regular.2 letter member

/-- A character that is no letter is in no pattern. -/
theorem not_mem_of_regular {pattern : Text} (regular : isRegular pattern = true)
    {c : Char} (noLetter : isLetter c = false) : c ∉ pattern := by
  intro member
  rw [(letter_of_regular regular member).2] at noLetter
  exact absurd noLetter (by simp)

theorem isLetter_of_isStop {c : Char} (stop : isStop c = true) : isLetter c = false := by
  simp only [isStop, Bool.or_eq_true, decide_eq_true_eq] at stop
  obtain (isComma | isBrace) | isBracket := stop
  all_goals
    subst_vars
    decide

theorem map_fold_of_regular {pattern : Text} (regular : isRegular pattern = true) :
    pattern.map fold = pattern := by
  calc
    pattern.map fold = pattern.map id :=
      List.map_congr_left fun _ member => (letter_of_regular regular member).1
    _ = pattern := List.map_id pattern

theorem stopFree_of_regular {pattern : Text} (regular : isRegular pattern = true) :
    StopFree pattern := by
  intro c member
  rw [Bool.eq_false_iff]
  intro stop
  exact not_mem_of_regular regular (isLetter_of_isStop stop) member

private theorem fold_stop {c : Char} (stop : isStop c = true) : fold c = c := by
  simp only [isStop, Bool.or_eq_true, decide_eq_true_eq] at stop
  obtain (isComma | isBrace) | isBracket := stop
  all_goals
    subst_vars
    decide

theorem matchesAt_iff {pattern text : Text} :
    matchesAt pattern text = true ↔ pattern <+: text.map fold :=
  List.isPrefixOf_iff_prefix

/-- A list that goes past `left` has the next element. -/
private theorem mem_of_prefix_append_cons {α : Type} {short left : List α} {middle : α}
    {right : List α} (isPrefix : short <+: left ++ middle :: right)
    (longer : left.length < short.length) : middle ∈ short := by
  obtain ⟨rest, same⟩ := isPrefix
  have found : (short ++ rest)[left.length]? = some middle := by
    rw [same]
    simp
  rw [List.getElem?_append_left longer] at found
  exact List.mem_of_getElem? found

/-- A match does not reach over a character that is no letter. -/
theorem matchesAt_append_cons {pattern : Text} (regular : isRegular pattern = true)
    (text : Text) {c : Char} (noLetter : isLetter (fold c) = false) (rest : Text) :
    matchesAt pattern (text ++ c :: rest) = matchesAt pattern text := by
  rw [Bool.eq_iff_iff, matchesAt_iff, matchesAt_iff, List.map_append, List.map_cons]
  by_cases short : pattern.length ≤ (text.map fold).length
  · exact List.isPrefix_append_of_length short
  · constructor
    · intro reaches
      have member := mem_of_prefix_append_cons reaches (by omega)
      exact absurd member (not_mem_of_regular regular noLetter)
    · intro isPrefix
      exact absurd isPrefix.length_le short

theorem matchesAt_nil {pattern : Text} (regular : isRegular pattern = true) :
    matchesAt pattern [] = false := by
  rw [Bool.eq_false_iff]
  intro here
  exact ne_nil_of_regular regular (List.prefix_nil.mp (matchesAt_iff.mp here))

theorem matchesAt_cons_of_noLetter {pattern : Text} (regular : isRegular pattern = true)
    {c : Char} (noLetter : isLetter (fold c) = false) (rest : Text) :
    matchesAt pattern (c :: rest) = false := by
  have same := matchesAt_append_cons regular [] noLetter rest
  rwa [matchesAt_nil regular, List.nil_append] at same

theorem isLetter_fold_of_isStop {c : Char} (stop : isStop c = true) :
    isLetter (fold c) = false := by
  rw [fold_stop stop, isLetter_of_isStop stop]

theorem replaceAll_append_stop {pattern : Text} (regular : isRegular pattern = true)
    (inMatch : Bool) (text : Text) {stop : Char} (stops : isStop stop = true) (rest : Text) :
    replaceAll pattern inMatch (text ++ stop :: rest) =
      replaceAll pattern inMatch text ++ stop :: replaceAll pattern false rest := by
  induction text generalizing inMatch with
  | nil => simp [replaceAll, stops]
  | cons c text inductionHypothesis =>
      have noLetter := isLetter_fold_of_isStop stops
      have same := matchesAt_append_cons regular (c :: text) noLetter rest
      rw [List.cons_append] at same
      simp only [List.cons_append, replaceAll, same, inductionHypothesis]
      split_ifs <;> simp

theorem redactWith_append_stop {patterns : List Text}
    (regular : ∀ pattern ∈ patterns, isRegular pattern = true) (text : Text) {stop : Char}
    (stops : isStop stop = true) (rest : Text) :
    redactWith patterns (text ++ stop :: rest) =
      redactWith patterns text ++ stop :: redactWith patterns rest := by
  induction patterns generalizing text rest with
  | nil => rfl
  | cons pattern patterns inductionHypothesis =>
      have first := regular pattern List.mem_cons_self
      have others := fun pattern member => regular pattern (List.mem_cons_of_mem _ member)
      simp only [redactWith, List.foldl_cons, replaceAll_append_stop first false text stops]
      exact inductionHypothesis others _ _

/-- The pieces of a text are redacted by themselves. -/
theorem redactSecrets_append_stop (text : Text) {stop : Char} (stops : isStop stop = true)
    (rest : Text) :
    redactSecrets (text ++ stop :: rest) = redactSecrets text ++ stop :: redactSecrets rest :=
  redactWith_append_stop (fun _ => secretPatterns_regular) text stops rest

/-! ## Where a pattern first occurs -/

def firstAt (pattern : Text) : Text → Option Nat
  | [] => none
  | c :: rest =>
      if matchesAt pattern (c :: rest) then some 0 else (firstAt pattern rest).map (· + 1)

theorem firstAt_lt {pattern text : Text} {position : Nat}
    (found : firstAt pattern text = some position) : position < text.length := by
  induction text generalizing position with
  | nil => simp [firstAt] at found
  | cons c text inductionHypothesis =>
      unfold firstAt at found
      split at found
      · simp only [Option.some.injEq] at found
        simp [← found]
      · rw [Option.map_eq_some_iff] at found
        obtain ⟨before, found, rfl⟩ := found
        have below := inductionHypothesis found
        simp only [List.length_cons]
        omega

/-- The text at the place where a pattern occurs. -/
theorem matchesAt_of_firstAt {pattern text : Text} {position : Nat}
    (found : firstAt pattern text = some position) :
    matchesAt pattern (text.drop position) = true := by
  induction text generalizing position with
  | nil => simp [firstAt] at found
  | cons c text inductionHypothesis =>
      unfold firstAt at found
      split at found
      next here =>
        simp only [Option.some.injEq] at found
        simpa [← found] using here
      next =>
        rw [Option.map_eq_some_iff] at found
        obtain ⟨before, found, rfl⟩ := found
        exact inductionHypothesis found

/-- A pattern occurs in a text. -/
def Occurs (pattern text : Text) : Prop := ∃ ahead rest, text = ahead ++ rest ∧
  matchesAt pattern rest = true

/-- A pattern occurs at the start of a text or after its first character. -/
theorem occurs_cons {pattern : Text} {c : Char} {text : Text} :
    Occurs pattern (c :: text) ↔ matchesAt pattern (c :: text) = true ∨ Occurs pattern text := by
  constructor
  · intro occurs
    obtain ⟨ahead, rest, same, here⟩ := occurs
    cases ahead with
    | nil =>
        rw [List.nil_append] at same
        exact .inl (same ▸ here)
    | cons first ahead =>
        obtain ⟨rfl, rfl⟩ := List.cons.inj same
        exact .inr ⟨ahead, rest, rfl, here⟩
  · intro either
    cases either with
    | inl here => exact ⟨[], c :: text, rfl, here⟩
    | inr later =>
        obtain ⟨ahead, rest, rfl, here⟩ := later
        exact ⟨c :: ahead, rest, rfl, here⟩

theorem Occurs.append_left {pattern text : Text} (occurs : Occurs pattern text) (left : Text) :
    Occurs pattern (left ++ text) := by
  obtain ⟨ahead, rest, rfl, here⟩ := occurs
  exact ⟨left ++ ahead, rest, by simp, here⟩

theorem Occurs.append_right {pattern text : Text} (occurs : Occurs pattern text) (right : Text) :
    Occurs pattern (text ++ right) := by
  obtain ⟨ahead, rest, rfl, here⟩ := occurs
  refine ⟨ahead, rest ++ right, by simp, ?_⟩
  rw [matchesAt_iff, List.map_append] at *
  exact List.prefix_append_of_prefix here

theorem isSome_firstAt {pattern text : Text} (regular : isRegular pattern = true) :
    (firstAt pattern text).isSome = true ↔ Occurs pattern text := by
  constructor
  · intro found
    obtain ⟨position, found⟩ := Option.isSome_iff_exists.mp found
    exact ⟨text.take position, text.drop position, (List.take_append_drop _ _).symm,
      matchesAt_of_firstAt found⟩
  · intro occurs
    obtain ⟨ahead, rest, rfl, here⟩ := occurs
    induction ahead with
    | nil =>
        cases rest with
        | nil =>
            have isPrefix := matchesAt_iff.mp here
            exact absurd (List.prefix_nil.mp isPrefix) (ne_nil_of_regular regular)
        | cons c rest => simp [firstAt, here]
    | cons c ahead inductionHypothesis =>
        rw [List.cons_append, firstAt]
        split_ifs
        · rfl
        · simpa using inductionHypothesis

/-- No pattern of the list occurs in a text. -/
def Clean (text : Text) : Prop := ∀ pattern ∈ secretPatterns, ¬ Occurs pattern text

private theorem replaceAll_inMatch {pattern text : Text} (free : StopFree text) :
    replaceAll pattern true text = [] := by
  induction text with
  | nil => rfl
  | cons c text inductionHypothesis =>
      simp [replaceAll, free.of_cons.1, inductionHypothesis free.of_cons.2]

/-- What one pattern leaves of a piece. -/
theorem replaceAll_stopFree {pattern text : Text} (free : StopFree text) :
    replaceAll pattern false text =
      match firstAt pattern text with
      | none => text
      | some position => text.take position ++ pattern ++ marker ++ [']'] := by
  induction text with
  | nil => rfl
  | cons c text inductionHypothesis =>
      by_cases here : matchesAt pattern (c :: text) = true
      · simp [replaceAll, firstAt, free.of_cons.1, here, replaceAll_inMatch free.of_cons.2]
      · have tail := inductionHypothesis free.of_cons.2
        cases found : firstAt pattern text with
        | none =>
            rw [found] at tail
            simp [replaceAll, firstAt, free.of_cons.1, here, found, tail]
        | some position =>
            rw [found] at tail
            simp [replaceAll, firstAt, free.of_cons.1, here, found, tail]

/-! ## What is left of a piece -/

/-- What is used of two patterns, the first of them ahead in the list: the second does not
occur in what replaces a match of the first, and does not have the first inside it but at
its end. -/
def areApart (first second : Text) : Bool :=
  (firstAt second (first ++ marker)).isNone &&
    (List.range second.length).all fun offset =>
      !first.isPrefixOf (second.drop (offset + 1)) ||
        second.length ≤ offset + 1 + first.length

theorem secretPatterns_apart :
    secretPatterns.Pairwise fun first second => areApart first second = true := by
  decide +kernel

/-- Cutting a text where a pattern occurs does not change what occurs ahead of it. -/
private theorem matchesAt_cut {pattern second : Text} (regular : isRegular pattern = true)
    (secondRegular : isRegular second = true) (apart : areApart pattern second = true)
    {ahead rest : Text} (nonempty : ahead ≠ []) (here : matchesAt pattern rest = true) :
    matchesAt second (ahead ++ (pattern ++ marker)) = matchesAt second (ahead ++ rest) := by
  obtain ⟨after, same⟩ := matchesAt_iff.mp here
  rw [Bool.eq_iff_iff, matchesAt_iff, matchesAt_iff, List.map_append, List.map_append,
    List.map_append, map_fold_of_regular regular, ← same, ← List.append_assoc,
    ← List.append_assoc]
  by_cases short : second.length ≤ (ahead.map fold ++ pattern).length
  · rw [List.isPrefix_append_of_length short, List.isPrefix_append_of_length short]
  · have positive : 0 < ahead.length := List.length_pos_of_ne_nil nonempty
    constructor
    · intro reaches
      have bracket : marker.map fold = '[' :: (marker.map fold).tail := by decide
      rw [bracket] at reaches
      have member := mem_of_prefix_append_cons reaches (by omega)
      exact absurd member (not_mem_of_regular secondRegular (by decide))
    · intro reaches
      exfalso
      have inside : ahead.map fold ++ pattern <+: second :=
        List.prefix_of_prefix_length_le (List.prefix_append _ _) reaches (by omega)
      obtain ⟨tail, secondIs⟩ := inside
      simp only [areApart, Bool.and_eq_true, List.all_eq_true, List.mem_range] at apart
      have clash := apart.2 (ahead.length - 1) (by
        rw [← secondIs]
        simp
        omega)
      have back : ahead.length - 1 + 1 = (ahead.map fold).length := by
        rw [List.length_map]
        omega
      have again : pattern.isPrefixOf (pattern ++ tail) = true :=
        List.isPrefixOf_iff_prefix.mpr (List.prefix_append _ _)
      rw [back, ← secondIs, List.append_assoc, List.drop_left, again] at clash
      rw [← secondIs] at short
      simp only [Bool.not_true, Bool.false_or, decide_eq_true_eq, List.length_append] at clash short
      omega

/-- Where a pattern first occurs in a text that is cut at another one. -/
private theorem firstAt_cut {pattern second : Text} (regular : isRegular pattern = true)
    (secondRegular : isRegular second = true) (apart : areApart pattern second = true)
    (ahead : Text) {rest : Text} (here : matchesAt pattern rest = true) :
    firstAt second (ahead ++ (pattern ++ marker)) =
      (firstAt second (ahead ++ rest)).filter (· < ahead.length) := by
  induction ahead with
  | nil =>
      simp only [areApart, Bool.and_eq_true, Option.isNone_iff_eq_none] at apart
      rw [List.nil_append, apart.1]
      cases firstAt second ([] ++ rest) <;> simp
  | cons c ahead inductionHypothesis =>
      have same := matchesAt_cut regular secondRegular apart (List.cons_ne_nil c ahead) here
      simp only [List.cons_append] at same ⊢
      rw [firstAt, firstAt, same, inductionHypothesis]
      split_ifs
      · simp [Option.filter]
      · cases firstAt second (ahead ++ rest) with
        | none => rfl
        | some position => by_cases below : position < ahead.length <;> simp [Option.filter, below]

/-- What the patterns up to one have done to a piece: it ends at a position, with a pattern
and as many closing brackets as patterns were found. -/
structure Cut where
  position : Nat
  pattern : Text
  count : Nat
deriving DecidableEq

/-- A pattern is found if it occurs ahead of the patterns found before it. -/
def Cut.next (text pattern : Text) : Option Cut → Option Cut
  | none => (firstAt pattern text).map fun position => ⟨position, pattern, 1⟩
  | some cut =>
      match (firstAt pattern text).filter (· < cut.position) with
      | none => some cut
      | some position => some ⟨position, pattern, cut.count + 1⟩

def cutWith (patterns : List Text) (text : Text) (cut : Option Cut) : Option Cut :=
  patterns.foldl (fun cut pattern => Cut.next text pattern cut) cut

/-- What all the patterns do to a piece. -/
def cutOf (text : Text) : Option Cut := cutWith secretPatterns text none

/-- What is left of a piece. -/
def Cut.leave (text : Text) : Option Cut → Text
  | none => text
  | some cut =>
      text.take cut.position ++ (cut.pattern ++ marker) ++ List.replicate cut.count ']'

/-- A cut as it is while the patterns `todo` are still ahead. -/
structure Cut.Fits (cut : Cut) (text : Text) (todo : List Text) : Prop where
  regular : isRegular cut.pattern = true
  inside : cut.position < text.length
  here : matchesAt cut.pattern (text.drop cut.position) = true
  apart : ∀ pattern ∈ todo, areApart cut.pattern pattern = true

theorem Cut.Fits.of_firstAt {pattern text : Text} {todo : List Text} {position : Nat}
    (regular : isRegular pattern = true) (found : firstAt pattern text = some position)
    (apart : ∀ second ∈ todo, areApart pattern second = true) (count : Nat) :
    Cut.Fits ⟨position, pattern, count⟩ text todo :=
  ⟨regular, firstAt_lt found, matchesAt_of_firstAt found, apart⟩

private theorem stopFree_marker : StopFree marker := by
  have all : marker.all (fun c => !isStop c) = true := by decide
  intro c member
  simpa using List.all_eq_true.mp all c member

private theorem stopFree_take {text : Text} (free : StopFree text) (count : Nat) :
    StopFree (text.take count) :=
  fun c member => free c (List.mem_of_mem_take member)

private theorem replaceAll_brackets {pattern : Text} (regular : isRegular pattern = true)
    (text : Text) (count : Nat) :
    replaceAll pattern false (text ++ List.replicate count ']') =
      replaceAll pattern false text ++ List.replicate count ']' := by
  induction count generalizing text with
  | zero => simp
  | succ count inductionHypothesis =>
      have stops : isStop ']' = true := by decide
      have rest := inductionHypothesis []
      simp only [List.nil_append] at rest
      rw [List.replicate_succ, replaceAll_append_stop regular false text stops, rest]
      rfl

/-- One pattern on what is left of a piece. -/
private theorem replaceAll_leave {text pattern : Text} {todo : List Text} {cut : Option Cut}
    (free : StopFree text) (regular : isRegular pattern = true)
    (fits : ∀ held, cut = some held → held.Fits text (pattern :: todo)) :
    replaceAll pattern false (Cut.leave text cut) =
      Cut.leave text (Cut.next text pattern cut) := by
  cases cut with
  | none =>
      rw [Cut.leave, replaceAll_stopFree free, Cut.next]
      cases firstAt pattern text with
      | none => rfl
      | some position => simp [Cut.leave]
  | some cut =>
      have fit := fits cut rfl
      have short : (text.take cut.position).length = cut.position := by
        rw [List.length_take]
        exact Nat.min_eq_left (Nat.le_of_lt fit.inside)
      have pieceFree : StopFree (text.take cut.position ++ (cut.pattern ++ marker)) :=
        (stopFree_take free _).append ((stopFree_of_regular fit.regular).append stopFree_marker)
      have first := firstAt_cut fit.regular regular (fit.apart pattern List.mem_cons_self)
        (text.take cut.position) fit.here
      rw [List.take_append_drop, short] at first
      rw [Cut.leave, replaceAll_brackets regular, replaceAll_stopFree pieceFree, first, Cut.next]
      cases found : (firstAt pattern text).filter (· < cut.position) with
      | none => rfl
      | some position =>
          have below : position < cut.position := by
            simp only [Option.filter_eq_some_iff, decide_eq_true_eq] at found
            exact found.2
          have ahead : (text.take cut.position ++ (cut.pattern ++ marker)).take position =
              text.take position := by
            rw [List.take_append_of_le_length (by omega), List.take_take,
              Nat.min_eq_left (Nat.le_of_lt below)]
          simp [Cut.leave, ahead, List.replicate_succ]

private theorem redactWith_leave {patterns : List Text} {text : Text} {cut : Option Cut}
    (free : StopFree text) (regular : ∀ pattern ∈ patterns, isRegular pattern = true)
    (apart : patterns.Pairwise fun first second => areApart first second = true)
    (fits : ∀ held, cut = some held → held.Fits text patterns) :
    redactWith patterns (Cut.leave text cut) = Cut.leave text (cutWith patterns text cut) := by
  induction patterns generalizing cut with
  | nil => rfl
  | cons pattern patterns inductionHypothesis =>
      have first := regular pattern List.mem_cons_self
      rw [List.pairwise_cons] at apart
      simp only [redactWith, cutWith, List.foldl_cons]
      rw [replaceAll_leave free first fits]
      apply inductionHypothesis (fun other member => regular other (List.mem_cons_of_mem _ member))
        apart.2
      intro held isHeld
      cases cut with
      | none =>
          simp only [Cut.next, Option.map_eq_some_iff] at isHeld
          obtain ⟨position, found, rfl⟩ := isHeld
          exact Cut.Fits.of_firstAt first found apart.1 1
      | some cut =>
          have fit := fits cut rfl
          simp only [Cut.next] at isHeld
          split at isHeld
          next =>
            obtain rfl := Option.some.inj isHeld
            exact ⟨fit.regular, fit.inside, fit.here,
              fun other member => fit.apart other (List.mem_cons_of_mem _ member)⟩
          next position found =>
            obtain rfl := Option.some.inj isHeld
            rw [Option.filter_eq_some_iff] at found
            exact Cut.Fits.of_firstAt first found.1 apart.1 _

/-- A piece is cut where the first of all patterns occurs. -/
theorem redactSecrets_stopFree {text : Text} (free : StopFree text) :
    redactSecrets text = Cut.leave text (cutOf text) := by
  have none_fits : ∀ held, (none : Option Cut) = some held → held.Fits text secretPatterns :=
    fun _ isHeld => nomatch isHeld
  show redactWith secretPatterns (Cut.leave text none) = Cut.leave text (cutOf text)
  rw [redactWith_leave free (fun _ => secretPatterns_regular) secretPatterns_apart none_fits]
  rfl

private theorem cutWith_eq_none {patterns : List Text} {text : Text} {cut : Option Cut} :
    cutWith patterns text cut = none ↔
      cut = none ∧ ∀ pattern ∈ patterns, firstAt pattern text = none := by
  induction patterns generalizing cut with
  | nil => simp [cutWith]
  | cons pattern patterns inductionHypothesis =>
      have step : Cut.next text pattern cut = none ↔
          cut = none ∧ firstAt pattern text = none := by
        cases cut with
        | none => simp [Cut.next]
        | some cut =>
            simp only [Cut.next]
            split <;> simp
      have rest := @inductionHypothesis (Cut.next text pattern cut)
      rw [step, and_assoc] at rest
      rw [List.forall_mem_cons]
      exact rest

/-- A piece is cut unless it is clean. -/
theorem cutOf_eq_none {text : Text} : cutOf text = none ↔ Clean text := by
  have unstarted := @cutWith_eq_none secretPatterns text none
  simp only [true_and] at unstarted
  rw [cutOf, unstarted]
  constructor
  · intro absent pattern member occurs
    have found := (isSome_firstAt (secretPatterns_regular member)).mpr occurs
    rw [absent pattern member] at found
    exact absurd found (by simp)
  · intro clean pattern member
    rw [← Option.not_isSome_iff_eq_none]
    intro found
    exact clean pattern member ((isSome_firstAt (secretPatterns_regular member)).mp found)

attribute [irreducible] redactSecrets

end TriAI.Evidence
