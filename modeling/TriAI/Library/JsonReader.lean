import TriAI.Library.JsonText

/-!
Contract: how the reader of JSON texts moves in and out of strings.

Owns: whether a reader is inside a string and how many arrays and objects are open; what
one character does to either, outside and inside of strings; and readers from which no
text can be finished because another reader finishes it.

Does not own: which values are read.
-/

set_option autoImplicit false

namespace TriAI.Library.JsonText.Reader

/-! ## Inside and outside -/

def isInside (reader : Reader) : Bool :=
  match reader.mode with
  | .inText _ _ => true
  | _ => false

/-- The arrays and objects that are open. -/
def depth (reader : Reader) : Nat :=
  reader.frames.length +
    match reader.mode with
    | .firstItem | .key _ _ | .inText (some _) _ | .colon _ _ => 1
    | _ => 0

def opens (c : Char) : Nat := if c = '{' ∨ c = '[' then 1 else 0

def closes (c : Char) : Nat := if c = '}' ∨ c = ']' then 1 else 0

/-- The characters that are read outside of strings. -/
def isOutsideChar (c : Char) : Bool :=
  isWordChar c || isBlank c || c ∈ ['\"', '{', '}', '[', ']', ':', ',']

/-- What a character outside of strings leads to. -/
structure Moves (depth : Nat) (c : Char) (next : Reader) : Prop where
  allowed : isOutsideChar c = true
  quote : c = '\"' → ∃ frames before, next = ⟨frames, .inText before ⟨[], .plain⟩⟩
  other : c ≠ '\"' → next.isInside = false
  depth_eq : next.depth + closes c = depth + opens c

private theorem blank_ne {c : Char} (blank : isBlank c = true) :
    c ≠ '\"' ∧ opens c = 0 ∧ closes c = 0 := by
  simp only [isBlank, Bool.or_eq_true, decide_eq_true_eq] at blank
  obtain ((isSpace | isTab) | isLine) | isReturn := blank
  all_goals
    subst_vars
    decide

private theorem word_ne {c : Char} (word : isWordChar c = true) :
    c ≠ '\"' ∧ opens c = 0 ∧ closes c = 0 := by
  have no : ∀ special : Char, isWordChar special = false → c ≠ special := by
    intro special none same
    rw [← same, word] at none
    exact absurd none (by simp)
  have notBrace := no '{' (by decide)
  have notBracket := no '[' (by decide)
  have notClose := no '}' (by decide)
  have notEnd := no ']' (by decide)
  exact ⟨no '\"' (by decide), by simp [opens, notBrace, notBracket],
    by simp [closes, notClose, notEnd]⟩

/-- A character that is no quote leaves the reader outside of strings. -/
private theorem moves_mark {depth : Nat} {c : Char} {next : Reader}
    (allowed : isOutsideChar c = true) (notQuote : c ≠ '\"') (outside : next.isInside = false)
    (moved : next.depth + closes c = depth + opens c) : Moves depth c next where
  allowed := allowed
  quote := fun isQuote => absurd isQuote notQuote
  other := fun _ => outside
  depth_eq := moved

private theorem moves_blank {reader : Reader} {c : Char} (outside : reader.isInside = false)
    (blank : isBlank c = true) : Moves reader.depth c reader := by
  obtain ⟨notQuote, noOpen, noClose⟩ := blank_ne blank
  exact moves_mark (by simp [isOutsideChar, blank]) notQuote outside (by rw [noOpen, noClose])

private theorem moves_beginValue {frames : List Frame} {c : Char} {next : Reader}
    (begun : beginValue frames c = some next) : Moves frames.length c next := by
  unfold beginValue at begun
  split_ifs at begun with isQuote isBrace isBracket isWord
  · obtain rfl := Option.some.inj begun
    subst isQuote
    exact ⟨by decide, fun _ => ⟨frames, none, rfl⟩, fun no => absurd rfl no, rfl⟩
  · obtain rfl := Option.some.inj begun
    subst isBrace
    exact moves_mark (by decide) (by decide) rfl rfl
  · obtain rfl := Option.some.inj begun
    subst isBracket
    exact moves_mark (by decide) (by decide) rfl rfl
  · obtain rfl := Option.some.inj begun
    obtain ⟨notQuote, noOpen, noClose⟩ := word_ne isWord
    exact moves_mark (by simp [isOutsideChar, isWord]) notQuote rfl (by rw [noOpen, noClose]; rfl)

private theorem moves_afterValue {frames : List Frame} {value : Value} {c : Char}
    {next : Reader} (continued : afterValue frames value c = some next) :
    Moves frames.length c next := by
  by_cases blank : isBlank c = true
  · rw [afterValue.eq_def, if_pos blank] at continued
    obtain rfl := Option.some.inj continued
    have still : isInside ⟨frames, .done value⟩ = false := rfl
    exact moves_blank still blank
  · rw [afterValue.eq_def, if_neg blank] at continued
    cases frames with
    | nil => simp at continued
    | cons frame rest =>
        cases frame with
        | array items =>
            simp only at continued
            split_ifs at continued with isComma isEnd
            · obtain rfl := Option.some.inj continued
              subst isComma
              exact moves_mark (by decide) (by decide) rfl rfl
            · obtain rfl := Option.some.inj continued
              subst isEnd
              exact moves_mark (by decide) (by decide) rfl rfl
        | object fields key =>
            simp only at continued
            split_ifs at continued with isComma isEnd
            · obtain rfl := Option.some.inj continued
              subst isComma
              exact moves_mark (by decide) (by decide) rfl rfl
            · obtain rfl := Option.some.inj continued
              subst isEnd
              exact moves_mark (by decide) (by decide) rfl rfl

/-- A character outside of strings. -/
theorem moves_of_step {reader next : Reader} {c : Char} (outside : reader.isInside = false)
    (stepped : reader.step c = some next) : Moves reader.depth c next := by
  obtain ⟨frames, mode⟩ := reader
  cases mode with
  | start =>
      simp only [step] at stepped
      split_ifs at stepped with blank
      · obtain rfl := Option.some.inj stepped
        exact moves_blank rfl blank
      · exact moves_beginValue stepped
  | firstItem =>
      simp only [step] at stepped
      split_ifs at stepped with blank isEnd
      · obtain rfl := Option.some.inj stepped
        exact moves_blank rfl blank
      · obtain rfl := Option.some.inj stepped
        subst isEnd
        exact moves_mark (by decide) (by decide) rfl rfl
      · exact moves_beginValue stepped
  | key fields isFirst =>
      simp only [step] at stepped
      split_ifs at stepped with blank isQuote isEnd
      · obtain rfl := Option.some.inj stepped
        exact moves_blank rfl blank
      · obtain rfl := Option.some.inj stepped
        subst isQuote
        exact ⟨by decide, fun _ => ⟨frames, some fields, rfl⟩, fun no => absurd rfl no, rfl⟩
      · obtain rfl := Option.some.inj stepped
        obtain rfl := isEnd.1
        exact moves_mark (by decide) (by decide) rfl rfl
  | inText before content => simp [isInside] at outside
  | colon fields key =>
      simp only [step] at stepped
      split_ifs at stepped with blank isColon
      · obtain rfl := Option.some.inj stepped
        exact moves_blank rfl blank
      · obtain rfl := Option.some.inj stepped
        subst isColon
        exact moves_mark (by decide) (by decide) rfl rfl
  | word letters =>
      simp only [step] at stepped
      split_ifs at stepped with isWord
      · obtain rfl := Option.some.inj stepped
        obtain ⟨notQuote, noOpen, noClose⟩ := word_ne isWord
        exact moves_mark (by simp [isOutsideChar, isWord]) notQuote rfl
          (by rw [noOpen, noClose]; rfl)
      · obtain ⟨value, -, continued⟩ := Option.bind_eq_some_iff.mp stepped
        exact moves_afterValue continued
  | done value => exact moves_afterValue stepped

/-! ## Inside strings -/

/-- A character inside a string: its closing quote, or one more of its content. -/
theorem step_inText {frames : List Frame} {before : Option (List (Text × Value))}
    {content : Content} {c : Char} {next : Reader}
    (stepped : step ⟨frames, .inText before content⟩ c = some next) :
    (c = '\"' ∧ content.phase = .plain ∧ next = ⟨frames, .afterText before content.text⟩) ∨
      (¬ (c = '\"' ∧ content.phase = .plain) ∧
        ∃ after, content.step c = some after ∧ next = ⟨frames, .inText before after⟩) := by
  simp only [step] at stepped
  split_ifs at stepped with isEnd
  · exact .inl ⟨isEnd.1, isEnd.2, (Option.some.inj stepped).symm⟩
  · obtain ⟨after, moved, rfl⟩ := Option.map_eq_some_iff.mp stepped
    exact .inr ⟨isEnd, after, moved, rfl⟩

private theorem unit_phase {high : Option Nat} {unit : Nat} {first second : Text}
    {firstAfter secondAfter : Content} (firstUnit : Content.unit first high unit = some firstAfter)
    (secondUnit : Content.unit second high unit = some secondAfter) :
    firstAfter.phase = secondAfter.phase := by
  cases high with
  | none =>
      simp only [Content.unit] at firstUnit secondUnit
      split_ifs at firstUnit secondUnit
      all_goals
        rw [← Option.some.inj firstUnit, ← Option.some.inj secondUnit]
  | some high =>
      simp only [Content.unit] at firstUnit secondUnit
      split_ifs at firstUnit secondUnit
      rw [← Option.some.inj firstUnit, ← Option.some.inj secondUnit]

/-- What is read does not matter for where in an escape the reader is. -/
theorem step_phase {first second firstAfter secondAfter : Content} {c : Char}
    (same : first.phase = second.phase) (firstStep : first.step c = some firstAfter)
    (secondStep : second.step c = some secondAfter) : firstAfter.phase = secondAfter.phase := by
  obtain ⟨firstText, phase⟩ := first
  obtain ⟨secondText, secondPhase⟩ := second
  obtain rfl : phase = secondPhase := same
  cases phase with
  | plain =>
      simp only [Content.step] at firstStep secondStep
      split_ifs at firstStep secondStep
      all_goals
        rw [← Option.some.inj firstStep, ← Option.some.inj secondStep]
  | slash high =>
      simp only [Content.step] at firstStep secondStep
      split_ifs at firstStep secondStep
      · rw [← Option.some.inj firstStep, ← Option.some.inj secondStep]
      · obtain ⟨letter, -, rfl⟩ := Option.map_eq_some_iff.mp firstStep
        obtain ⟨other, -, rfl⟩ := Option.map_eq_some_iff.mp secondStep
        rfl
  | digits high count unit =>
      simp only [Content.step] at firstStep secondStep
      obtain ⟨digit, isDigit, firstStep⟩ := Option.bind_eq_some_iff.mp firstStep
      obtain ⟨other, isOther, secondStep⟩ := Option.bind_eq_some_iff.mp secondStep
      obtain rfl : digit = other := Option.some.inj (isDigit.symm.trans isOther)
      split_ifs at firstStep secondStep
      · exact unit_phase firstStep secondStep
      · rw [← Option.some.inj firstStep, ← Option.some.inj secondStep]
  | high unit =>
      simp only [Content.step] at firstStep secondStep
      split_ifs at firstStep secondStep
      rw [← Option.some.inj firstStep, ← Option.some.inj secondStep]

/-- Only a backslash begins an escape. -/
theorem step_plain {content after : Content} {c : Char} (plain : content.phase = .plain)
    (noSlash : c ≠ '\\') (stepped : content.step c = some after) : after.phase = .plain := by
  simp only [Content.step, plain, if_neg noSlash] at stepped
  split_ifs at stepped
  rw [← Option.some.inj stepped]

/-- A colon follows no value. -/
theorem afterValue_colon (frames : List Frame) (value : Value) (next : Reader) :
    afterValue frames value ':' ≠ some next := by
  cases frames with
  | nil => simp [afterValue, isBlank]
  | cons frame frames => cases frame <;> simp [afterValue, isBlank]

/-- A character that is in no escape ends none. -/
theorem step_unescaped {content after : Content} {c : Char} (noEscape : c ≠ 'u')
    (unescapable : unescapeChar c = none) (noDigit : hexValue c = none) (noSlash : c ≠ '\\')
    (stepped : content.step c = some after) :
    content.phase = .plain ∧ after.phase = .plain := by
  obtain ⟨text, phase⟩ := content
  cases phase with
  | plain => exact ⟨rfl, step_plain rfl noSlash stepped⟩
  | slash high => simp [Content.step, noEscape, unescapable] at stepped
  | digits high count unit => simp [Content.step, noDigit] at stepped
  | high unit => simp [Content.step, noSlash] at stepped

/-! ## Readers that part -/

/-- Readers such that no text ends both: one is inside a string and the other is not; or
the second has fewer arrays and objects open; or the second is in a key while the first is
in a value. -/
inductive Parted : Reader → Reader → Prop
  | inside {frames : List Frame} {before : Option (List (Text × Value))} {text : Text}
      {second : Reader} (outside : second.isInside = false) :
      Parted ⟨frames, .inText before ⟨text, .plain⟩⟩ second
  | outside {frames : List Frame} {before : Option (List (Text × Value))} {text : Text}
      {first : Reader} (outside : first.isInside = false) :
      Parted first ⟨frames, .inText before ⟨text, .plain⟩⟩
  | deeperInside {frames otherFrames : List Frame}
      {before otherBefore : Option (List (Text × Value))} {content other : Content}
      (same : content.phase = other.phase)
      (deeper : depth ⟨otherFrames, .inText otherBefore other⟩ <
        depth ⟨frames, .inText before content⟩) :
      Parted ⟨frames, .inText before content⟩ ⟨otherFrames, .inText otherBefore other⟩
  | deeperOutside {first second : Reader} (firstOutside : first.isInside = false)
      (secondOutside : second.isInside = false) (deeper : second.depth < first.depth) :
      Parted first second
  | ahead {frames otherFrames : List Frame} {fields : List (Text × Value)}
      {content other : Content} (same : content.phase = other.phase) :
      Parted ⟨frames, .inText none content⟩ ⟨otherFrames, .inText (some fields) other⟩
  | aheadAfter {frames otherFrames : List Frame} {value : Value} {fields : List (Text × Value)}
      {key : Text} : Parted ⟨frames, .done value⟩ ⟨otherFrames, .colon fields key⟩

@[simp] theorem depth_inText (frames : List Frame) (before : Option (List (Text × Value)))
    (content : Content) :
    depth ⟨frames, .inText before content⟩ = frames.length + if before.isSome then 1 else 0 := by
  cases before <;> rfl

@[simp] theorem depth_afterText (frames : List Frame) (before : Option (List (Text × Value)))
    (text : Text) :
    depth ⟨frames, .afterText before text⟩ = frames.length + if before.isSome then 1 else 0 := by
  cases before <;> rfl

@[simp] theorem isInside_afterText (frames : List Frame)
    (before : Option (List (Text × Value))) (text : Text) :
    isInside ⟨frames, .afterText before text⟩ = false := by
  cases before <;> rfl

/-- What moves a reader outside of strings ends no string and begins no escape in one, unless
it is a quote. -/
private theorem stays_plain {depth : Nat} {c : Char} {next : Reader} {text : Text}
    {after : Content} (moves : Moves depth c next) (notQuote : c ≠ '\"')
    (stepped : Content.step ⟨text, .plain⟩ c = some after) :
    next.isInside = false ∧ ∃ content, after = ⟨content, .plain⟩ := by
  have noSlash : c ≠ '\\' := by
    intro isSlash
    subst isSlash
    exact absurd moves.allowed (by decide)
  obtain ⟨content, phase⟩ := after
  obtain rfl : phase = .plain := step_plain rfl noSlash stepped
  exact ⟨moves.other notQuote, content, rfl⟩

theorem Parted.step {first second firstNext secondNext : Reader} {c : Char}
    (parted : Parted first second) (firstStep : first.step c = some firstNext)
    (secondStep : second.step c = some secondNext) : Parted firstNext secondNext := by
  cases parted with
  | inside outside =>
      have moves := moves_of_step outside secondStep
      obtain ⟨isQuote, -, rfl⟩ | ⟨notEnd, after, stepped, rfl⟩ := step_inText firstStep
      · obtain ⟨frames, before, rfl⟩ := moves.quote isQuote
        exact .outside (by simp)
      · have notQuote : c ≠ '\"' := fun isQuote => notEnd ⟨isQuote, rfl⟩
        obtain ⟨outside, content, rfl⟩ := stays_plain moves notQuote stepped
        exact .inside outside
  | outside outside =>
      have moves := moves_of_step outside firstStep
      obtain ⟨isQuote, -, rfl⟩ | ⟨notEnd, after, stepped, rfl⟩ := step_inText secondStep
      · obtain ⟨frames, before, rfl⟩ := moves.quote isQuote
        exact .inside (by simp)
      · have notQuote : c ≠ '\"' := fun isQuote => notEnd ⟨isQuote, rfl⟩
        obtain ⟨outside, content, rfl⟩ := stays_plain moves notQuote stepped
        exact .outside outside
  | deeperInside same deeper =>
      obtain ⟨isQuote, plain, rfl⟩ | ⟨notEnd, after, stepped, rfl⟩ := step_inText firstStep
      · obtain ⟨-, -, rfl⟩ | ⟨otherNotEnd, -, -, -⟩ := step_inText secondStep
        · apply Parted.deeperOutside (by simp) (by simp)
          simpa using deeper
        · exact absurd ⟨isQuote, same ▸ plain⟩ otherNotEnd
      · obtain ⟨isQuote, plain, -⟩ | ⟨-, otherAfter, otherStepped, rfl⟩ := step_inText secondStep
        · exact absurd ⟨isQuote, same.trans plain⟩ notEnd
        · apply Parted.deeperInside (step_phase same stepped otherStepped)
          simpa using deeper
  | deeperOutside firstOutside secondOutside deeper =>
      have firstMoves := moves_of_step firstOutside firstStep
      have secondMoves := moves_of_step secondOutside secondStep
      have firstDepth := firstMoves.depth_eq
      have secondDepth := secondMoves.depth_eq
      have still : secondNext.depth < firstNext.depth := by omega
      by_cases isQuote : c = '\"'
      · obtain ⟨frames, before, rfl⟩ := firstMoves.quote isQuote
        obtain ⟨otherFrames, otherBefore, rfl⟩ := secondMoves.quote isQuote
        exact .deeperInside rfl still
      · exact .deeperOutside (firstMoves.other isQuote) (secondMoves.other isQuote) still
  | ahead same =>
      obtain ⟨isQuote, plain, rfl⟩ | ⟨notEnd, after, stepped, rfl⟩ := step_inText firstStep
      · obtain ⟨-, -, rfl⟩ | ⟨otherNotEnd, -, -, -⟩ := step_inText secondStep
        · exact .aheadAfter
        · exact absurd ⟨isQuote, same ▸ plain⟩ otherNotEnd
      · obtain ⟨isQuote, plain, -⟩ | ⟨-, otherAfter, otherStepped, rfl⟩ := step_inText secondStep
        · exact absurd ⟨isQuote, same.trans plain⟩ notEnd
        · exact .ahead (step_phase same stepped otherStepped)
  | aheadAfter =>
      by_cases blank : isBlank c = true
      · simp only [Reader.step, afterValue, blank, if_true] at firstStep secondStep
        rw [← Option.some.inj firstStep, ← Option.some.inj secondStep]
        exact .aheadAfter
      · rw [Bool.not_eq_true] at blank
        simp only [Reader.step, blank, Bool.false_eq_true, if_false] at secondStep
        split_ifs at secondStep with isColon
        subst isColon
        exact absurd firstStep (afterValue_colon _ _ _)

theorem Parted.run {first second firstNext secondNext : Reader} {text : Text}
    (parted : Parted first second) (firstRun : run first text = some firstNext)
    (secondRun : run second text = some secondNext) : Parted firstNext secondNext := by
  induction text generalizing first second with
  | nil =>
      rw [run_nil, Option.some.injEq] at firstRun secondRun
      rwa [← firstRun, ← secondRun]
  | cons c text inductionHypothesis =>
      rw [run_cons, Option.bind_eq_some_iff] at firstRun secondRun
      obtain ⟨firstMiddle, firstStep, firstRest⟩ := firstRun
      obtain ⟨secondMiddle, secondStep, secondRest⟩ := secondRun
      exact inductionHypothesis (parted.step firstStep secondStep) firstRest secondRest

/-- Where a text can end. -/
theorem finish_eq_some {reader : Reader} {value : Value} (ends : reader.finish = some value) :
    reader.isInside = false ∧ reader.depth = 0 := by
  obtain ⟨frames, mode⟩ := reader
  cases frames with
  | nil => cases mode <;> simp_all [finish, isInside, depth]
  | cons frame frames => simp [finish] at ends

theorem Parted.finish {first second : Reader} {value : Value} (parted : Parted first second)
    (ends : first.finish = some value) : second.finish = none := by
  have firstEnds := finish_eq_some ends
  cases parted with
  | inside outside => simp [isInside] at firstEnds
  | outside outside => simp [Reader.finish]
  | deeperInside same deeper => simp [isInside] at firstEnds
  | deeperOutside firstOutside secondOutside deeper => omega
  | ahead same => simp [isInside] at firstEnds
  | aheadAfter => simp [Reader.finish]

/-- A text brings a reader to an end. -/
def Finishes (reader : Reader) (text : Text) : Prop :=
  ∃ last, reader.run text = some last ∧ last.finish.isSome = true

theorem finishes_append {reader : Reader} {left right : Text} :
    Finishes reader (left ++ right) ↔
      ∃ middle, reader.run left = some middle ∧ Finishes middle right := by
  unfold Finishes
  rw [run_append]
  constructor
  · intro finishes
    obtain ⟨last, ran, ends⟩ := finishes
    obtain ⟨middle, first, second⟩ := Option.bind_eq_some_iff.mp ran
    exact ⟨middle, first, last, second, ends⟩
  · intro finishes
    obtain ⟨middle, first, last, second, ends⟩ := finishes
    exact ⟨last, Option.bind_eq_some_iff.mpr ⟨middle, first, second⟩, ends⟩

theorem finishes_cons {reader : Reader} {c : Char} {text : Text} :
    Finishes reader (c :: text) ↔ ∃ next, reader.step c = some next ∧ Finishes next text := by
  have single : reader.run [c] = reader.step c := by
    rw [run_cons]
    cases reader.step c <;> rfl
  rw [← List.singleton_append, finishes_append, single]

theorem finishes_of_run {reader middle : Reader} {left right : Text}
    (ran : reader.run left = some middle) :
    Finishes reader (left ++ right) ↔ Finishes middle right := by
  rw [finishes_append]
  constructor
  · intro finishes
    obtain ⟨reached, isReached, finishes⟩ := finishes
    obtain rfl : middle = reached := Option.some.inj (ran.symm.trans isReached)
    exact finishes
  · exact fun finishes => ⟨middle, ran, finishes⟩

theorem finishes_of_step {reader next : Reader} {c : Char} {text : Text}
    (stepped : reader.step c = some next) :
    Finishes reader (c :: text) ↔ Finishes next text := by
  have ran : reader.run [c] = some next := by
    rw [run_cons, stepped]
    rfl
  exact finishes_of_run ran

/-! ## Texts without `,`, `}` and `]` -/

def isSeparator (c : Char) : Bool := c = ',' || c = '}' || c = ']'

private theorem isSeparator_eq_false {c : Char} (plain : isSeparator c = false) :
    c ≠ ',' ∧ c ≠ '}' ∧ c ≠ ']' := by
  simpa [isSeparator, and_assoc] using plain

/-- Such a text goes on after a value only with blanks. -/
private theorem afterValue_plain {frames : List Frame} {value : Value} {c : Char}
    {next : Reader} (plain : isSeparator c = false)
    (continued : afterValue frames value c = some next) : next = ⟨frames, .done value⟩ := by
  obtain ⟨notComma, notBrace, notBracket⟩ := isSeparator_eq_false plain
  rw [afterValue.eq_def] at continued
  split_ifs at continued with blank
  · exact (Option.some.inj continued).symm
  · cases frames with
    | nil => simp at continued
    | cons frame frames => cases frame <;> simp_all

theorem run_done {frames : List Frame} {value : Value} {text : Text} {last : Reader}
    (plain : ∀ c ∈ text, isSeparator c = false)
    (ran : run ⟨frames, .done value⟩ text = some last) : last = ⟨frames, .done value⟩ := by
  induction text with
  | nil => exact (Option.some.inj ran).symm
  | cons c text inductionHypothesis =>
      rw [List.forall_mem_cons] at plain
      rw [run_cons, Option.bind_eq_some_iff] at ran
      obtain ⟨middle, stepped, rest⟩ := ran
      obtain rfl := afterValue_plain plain.1 stepped
      exact inductionHypothesis plain.2 rest

/-- A reader that is in the value of a field, or further in. -/
def InValue (level : Nat) (reader : Reader) : Prop :=
  level ≤ reader.depth ∧
    (reader.depth = level →
      match reader.mode with
      | .firstItem | .key _ _ | .inText (some _) _ => False
      | _ => True)

private theorem InValue.beginValue {level : Nat} {frames : List Frame} {c : Char} {next : Reader}
    (within : level ≤ frames.length) (begun : beginValue frames c = some next) :
    InValue level next := by
  unfold Reader.beginValue at begun
  split_ifs at begun
  · obtain rfl := Option.some.inj begun
    exact ⟨within, fun _ => trivial⟩
  · obtain rfl := Option.some.inj begun
    refine ⟨Nat.le_succ_of_le within, fun same => ?_⟩
    have above : frames.length + 1 = level := same
    omega
  · obtain rfl := Option.some.inj begun
    refine ⟨Nat.le_succ_of_le within, fun same => ?_⟩
    have above : frames.length + 1 = level := same
    omega
  · obtain rfl := Option.some.inj begun
    exact ⟨within, fun _ => trivial⟩

private theorem InValue.step {level : Nat} {reader next : Reader} {c : Char}
    (plain : isSeparator c = false) (inValue : InValue level reader)
    (stepped : reader.step c = some next) : InValue level next := by
  obtain ⟨notComma, notBrace, notBracket⟩ := isSeparator_eq_false plain
  obtain ⟨frames, mode⟩ := reader
  obtain ⟨within, atLevel⟩ := inValue
  cases mode with
  | start =>
      simp only [Reader.step] at stepped
      split_ifs at stepped
      · rw [← Option.some.inj stepped]
        exact ⟨within, atLevel⟩
      · exact InValue.beginValue within stepped
  | firstItem =>
      simp only [Reader.step, notBracket, if_false] at stepped
      split_ifs at stepped
      · rw [← Option.some.inj stepped]
        exact ⟨within, atLevel⟩
      · exact InValue.beginValue (by simpa [depth] using within) stepped
  | key fields isFirst =>
      simp only [Reader.step, notBrace, false_and, if_false] at stepped
      split_ifs at stepped
      · rw [← Option.some.inj stepped]
        exact ⟨within, atLevel⟩
      · rw [← Option.some.inj stepped]
        exact ⟨within, atLevel⟩
  | inText before content =>
      obtain ⟨-, -, rfl⟩ | ⟨-, after, -, rfl⟩ := step_inText stepped
      · cases before with
        | none => exact ⟨within, fun _ => trivial⟩
        | some fields => exact ⟨within, fun same => absurd (atLevel same) (by simp)⟩
      · cases before with
        | none => exact ⟨within, fun _ => trivial⟩
        | some fields => exact ⟨within, fun same => absurd (atLevel same) (by simp)⟩
  | colon fields key =>
      simp only [Reader.step] at stepped
      split_ifs at stepped
      · rw [← Option.some.inj stepped]
        exact ⟨within, atLevel⟩
      · rw [← Option.some.inj stepped]
        exact ⟨within, fun _ => trivial⟩
  | word letters =>
      simp only [Reader.step] at stepped
      split_ifs at stepped
      · rw [← Option.some.inj stepped]
        exact ⟨within, fun _ => trivial⟩
      · obtain ⟨value, -, continued⟩ := Option.bind_eq_some_iff.mp stepped
        rw [afterValue_plain plain continued]
        exact ⟨within, fun _ => trivial⟩
  | done value =>
      rw [afterValue_plain plain stepped]
      exact ⟨within, fun _ => trivial⟩

private theorem InValue.run {level : Nat} {reader last : Reader} {text : Text}
    (plain : ∀ c ∈ text, isSeparator c = false) (inValue : InValue level reader)
    (ran : reader.run text = some last) : InValue level last := by
  induction text generalizing reader with
  | nil =>
      rw [run_nil, Option.some.injEq] at ran
      rwa [← ran]
  | cons c text inductionHypothesis =>
      rw [List.forall_mem_cons] at plain
      rw [run_cons, Option.bind_eq_some_iff] at ran
      obtain ⟨middle, stepped, rest⟩ := ran
      exact inductionHypothesis plain.2 (inValue.step plain.1 stepped) rest

/-- A text from inside a string: the string goes on, or its closing quote is read. -/
theorem run_inText {frames : List Frame} {before : Option (List (Text × Value))}
    {content : Content} {text : Text} {last : Reader}
    (ran : run ⟨frames, .inText before content⟩ text = some last) :
    (∃ after, last = ⟨frames, .inText before after⟩) ∨
      ∃ closed rest, (∃ front, text = front ++ '\"' :: rest) ∧
        run ⟨frames, .afterText before closed⟩ rest = some last := by
  induction text generalizing content with
  | nil => exact .inl ⟨content, (Option.some.inj ran).symm⟩
  | cons c text inductionHypothesis =>
      rw [run_cons, Option.bind_eq_some_iff] at ran
      obtain ⟨middle, stepped, rest⟩ := ran
      obtain ⟨rfl, -, rfl⟩ | ⟨-, after, -, rfl⟩ := step_inText stepped
      · exact .inr ⟨content.text, text, ⟨[], rfl⟩, rest⟩
      · obtain inside | ⟨closed, tail, ⟨front, rfl⟩, ended⟩ := inductionHypothesis rest
        · exact .inl inside
        · exact .inr ⟨closed, tail, ⟨c :: front, rfl⟩, ended⟩

/-- Content without quotes and backslashes, after a character that is in no escape. -/
theorem run_plain {frames : List Frame} {before : Option (List (Text × Value))} {read : Text}
    {text : Text} {last : Reader} (noQuote : '\"' ∉ text) (noSlash : '\\' ∉ text)
    (ran : run ⟨frames, .inText before ⟨read, .plain⟩⟩ text = some last) :
    ∃ read, last = ⟨frames, .inText before ⟨read, .plain⟩⟩ := by
  induction text generalizing read with
  | nil => exact ⟨read, (Option.some.inj ran).symm⟩
  | cons c text inductionHypothesis =>
      rw [List.mem_cons, not_or] at noQuote noSlash
      rw [run_cons, Option.bind_eq_some_iff] at ran
      obtain ⟨middle, stepped, rest⟩ := ran
      obtain ⟨isQuote, -, -⟩ | ⟨-, ⟨after, phase⟩, moved, rfl⟩ := step_inText stepped
      · exact absurd isQuote.symm noQuote.1
      · have notSlash : c ≠ '\\' := fun isSlash => noSlash.1 isSlash.symm
        obtain rfl : phase = .plain := step_plain rfl notSlash moved
        exact inductionHypothesis noQuote.2 noSlash.2 rest

/-- A reader inside of no escape. -/
def IsSettled (reader : Reader) : Prop :=
  ∀ before content, reader.mode = .inText before content → content.phase = .plain

/-- A reader that leaves a string by a text without `,`, `}` and `]` has parted from one
that is still in such a string, or in a string further out. -/
theorem parted_of_left {frames otherFrames : List Frame}
    {before otherBefore : Option (List (Text × Value))} {closed otherText rest : Text}
    {last : Reader} (plain : ∀ c ∈ rest, isSeparator c = false)
    (ran : run ⟨frames, .afterText before closed⟩ rest = some last) (settled : IsSettled last)
    (lower : (otherFrames.length + if otherBefore.isSome then 1 else 0) <
        (frames.length + if before.isSome then 1 else 0) ∨
      otherFrames.length = frames.length ∧ otherBefore.isSome = before.isSome) :
    Parted last ⟨otherFrames, .inText otherBefore ⟨otherText, .plain⟩⟩ := by
  cases before with
  | none =>
      rw [run_done plain ran]
      exact .outside rfl
  | some fields =>
      have started : InValue (frames.length + 1) ⟨frames, .colon fields closed⟩ :=
        ⟨le_rfl, fun _ => trivial⟩
      obtain ⟨within, atLevel⟩ := started.run plain ran
      obtain ⟨lastFrames, mode⟩ := last
      cases mode with
      | inText lastBefore lastContent =>
          obtain ⟨lastText, phase⟩ := lastContent
          obtain rfl : phase = .plain := settled lastBefore _ rfl
          by_cases deeper : depth ⟨otherFrames, .inText otherBefore ⟨otherText, .plain⟩⟩ <
              depth ⟨lastFrames, .inText lastBefore ⟨lastText, .plain⟩⟩
          · exact .deeperInside rfl deeper
          · simp only [depth_inText, Option.isSome_some, if_true] at lower within deeper atLevel
            have same : otherFrames.length = frames.length ∧ otherBefore.isSome = true := by
              cases lower with
              | inl below => omega
              | inr same => exact same
            simp only [same.1, same.2, if_true] at deeper
            have isLevel : lastFrames.length + (if lastBefore.isSome then 1 else 0) =
                frames.length + 1 := by omega
            have isValue := atLevel isLevel
            cases lastBefore with
            | some fields => exact absurd isValue (by simp)
            | none =>
                obtain ⟨otherFields, rfl⟩ := Option.isSome_iff_exists.mp same.2
                exact .ahead rfl
      | _ => exact .outside rfl

end TriAI.Library.JsonText.Reader
