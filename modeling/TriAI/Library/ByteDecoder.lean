import Mathlib

/-!
Contract: little-endian words and decoders over a byte cursor.

Owns:
- the fixed-width little-endian encoding of naturals and its inverse;
- `Cursor`, a position in a fixed byte string, and `Decoder`, a computation that
  advances it or fails;
- `Succeeds`, the inversion rules of a successful decoder;
- `Decodes`, the completeness rules: a decoder undoes an encoding wherever the
  encoding stands in front of the cursor;
- `Mirrors`, which says of two decoders that on everything the first one accepts the second
  one consumes the same bytes and returns a related value, or rejects exactly the values that
  do not fit it; and its rules for sequences, guards and repetition.

Does not own: any file format. The error type is a parameter.
-/

set_option autoImplicit false

namespace TriAI.Library.ByteDecoder

/-! ## Little-endian words -/

/-- The `width` low bytes of `value`, least significant first. -/
def littleEndian : Nat → Nat → List UInt8
  | 0, _ => []
  | width + 1, value => UInt8.ofNat value :: littleEndian width (value / 256)

/-- The value of a byte string read least significant byte first. -/
def fromLittleEndian : List UInt8 → Nat
  | [] => 0
  | byte :: rest => byte.toNat + 256 * fromLittleEndian rest

@[simp] theorem littleEndian_length (width value : Nat) :
    (littleEndian width value).length = width := by
  induction width generalizing value with
  | zero => rfl
  | succ width inductionHypothesis =>
      simp [littleEndian, inductionHypothesis]

theorem fromLittleEndian_littleEndian {width value : Nat} (fits : value < 256 ^ width) :
    fromLittleEndian (littleEndian width value) = value := by
  induction width generalizing value with
  | zero =>
      rw [pow_zero] at fits
      simp only [littleEndian, fromLittleEndian]
      omega
  | succ width inductionHypothesis =>
      have quotientFits : value / 256 < 256 ^ width := by
        rw [Nat.div_lt_iff_lt_mul (by decide), ← pow_succ]
        exact fits
      rw [littleEndian, fromLittleEndian, inductionHypothesis quotientFits,
        UInt8.toNat_ofNat']
      omega

/-! ## Cursors -/

/-- A position in a byte string that does not change while it is read. -/
structure Cursor where
  bytes : List UInt8
  position : Nat
deriving DecidableEq, Repr

namespace Cursor

/-- Move forward without looking. -/
def advance (cursor : Cursor) (count : Nat) : Cursor :=
  { cursor with position := cursor.position + count }

@[simp] theorem advance_bytes (cursor : Cursor) (count : Nat) :
    (cursor.advance count).bytes = cursor.bytes := rfl

@[simp] theorem advance_position (cursor : Cursor) (count : Nat) :
    (cursor.advance count).position = cursor.position + count := rfl

@[simp] theorem advance_zero (cursor : Cursor) : cursor.advance 0 = cursor := rfl

theorem advance_advance (cursor : Cursor) (first second : Nat) :
    (cursor.advance first).advance second = cursor.advance (first + second) := by
  simp [advance, Nat.add_assoc]

/-- The unread bytes are exactly `suffix`. -/
def Faces (cursor : Cursor) (suffix : List UInt8) : Prop :=
  cursor.position ≤ cursor.bytes.length ∧ cursor.bytes.drop cursor.position = suffix

theorem Faces.length {cursor : Cursor} {suffix : List UInt8} (faces : cursor.Faces suffix) :
    cursor.position + suffix.length = cursor.bytes.length := by
  have within := faces.1
  rw [← faces.2, List.length_drop]
  omega

theorem Faces.advance {cursor : Cursor} {chunk rest : List UInt8}
    (faces : cursor.Faces (chunk ++ rest)) : (cursor.advance chunk.length).Faces rest := by
  have total := faces.length
  rw [List.length_append] at total
  refine ⟨?_, ?_⟩
  · rw [advance_position, advance_bytes]
    omega
  · rw [advance_position, advance_bytes, ← List.drop_drop, faces.2, List.drop_left]

end Cursor

/-! ## Decoders -/

/-- A computation that consumes bytes from the cursor or fails with `ε`. -/
abbrev Decoder (ε : Type) := StateT Cursor (Except ε)

section Rules

variable {ε α β : Type}

/-- The decoder accepts at `cursor`, returns `value` and stops at `after`. -/
def Succeeds (decoder : Decoder ε α) (cursor : Cursor) (value : α) (after : Cursor) : Prop :=
  decoder cursor = .ok (value, after)

theorem succeeds_pure {value result : α} {cursor after : Cursor} :
    Succeeds (pure value : Decoder ε α) cursor result after ↔
      result = value ∧ after = cursor := by
  simp only [Succeeds, pure, StateT.pure, Except.pure, Except.ok.injEq, Prod.mk.injEq]
  exact ⟨fun equal => ⟨equal.1.symm, equal.2.symm⟩, fun equal => ⟨equal.1.symm, equal.2.symm⟩⟩

theorem succeeds_bind {first : Decoder ε α} {second : α → Decoder ε β}
    {cursor after : Cursor} {result : β} :
    Succeeds (first >>= second) cursor result after ↔
      ∃ value middle, Succeeds first cursor value middle ∧
        Succeeds (second value) middle result after := by
  simp only [Succeeds, bind, StateT.bind, Except.bind]
  cases outcome : first cursor with
  | error failure => simp
  | ok pair =>
      constructor
      · intro accepted
        exact ⟨pair.1, pair.2, rfl, accepted⟩
      · rintro ⟨value, middle, equal, accepted⟩
        cases equal
        exact accepted

theorem not_succeeds_throw {failure : ε} {cursor after : Cursor} {result : α} :
    ¬ Succeeds (throw failure : Decoder ε α) cursor result after := by
  intro accepted
  simp [Succeeds, throw, throwThe, MonadExceptOf.throw, StateT.lift, Except.bind, bind]
    at accepted

/-- A guard that rejects: acceptance means the condition did not hold. -/
theorem succeeds_unless {condition : Prop} [Decidable condition] {failure : ε}
    {next : Decoder ε α} {cursor after : Cursor} {result : α} :
    Succeeds (if condition then throw failure else next) cursor result after ↔
      ¬ condition ∧ Succeeds next cursor result after := by
  by_cases holds : condition
  · rw [if_pos holds]
    exact ⟨fun accepted => absurd accepted not_succeeds_throw,
      fun accepted => absurd holds accepted.1⟩
  · rw [if_neg holds]
    exact ⟨fun accepted => ⟨holds, accepted⟩, fun accepted => accepted.2⟩

/-- Consume exactly `count` bytes. -/
def take (failure : ε) (count : Nat) : Decoder ε (List UInt8) := fun cursor =>
  if cursor.position + count ≤ cursor.bytes.length then
    .ok ((cursor.bytes.drop cursor.position).take count, cursor.advance count)
  else
    .error failure

/-- Run one decoder `count` times and collect the results. -/
def times (decoder : Decoder ε α) : Nat → Decoder ε (List α)
  | 0 => pure []
  | count + 1 => do
      let head ← decoder
      let tail ← times decoder count
      pure (head :: tail)

/-! ## Decoding undoes encoding -/

/-- Wherever `encoding` stands in front of the cursor, in a byte string shorter
than `limit`, the decoder returns `value` and consumes exactly `encoding`. -/
def Decodes (limit : Nat) (decoder : Decoder ε α) (encoding : List UInt8) (value : α) :
    Prop :=
  ∀ (cursor : Cursor) (rest : List UInt8), cursor.bytes.length < limit →
    cursor.Faces (encoding ++ rest) →
      Succeeds decoder cursor value (cursor.advance encoding.length)

variable {limit : Nat}

theorem Decodes.pure (value : α) : Decodes limit (pure value : Decoder ε α) [] value := by
  intro cursor rest _ _
  exact succeeds_pure.mpr ⟨rfl, Cursor.advance_zero cursor⟩

theorem Decodes.bind {first : Decoder ε α} {second : α → Decoder ε β}
    {firstEncoding secondEncoding : List UInt8} {value : α} {result : β}
    (firstDecodes : Decodes limit first firstEncoding value)
    (secondDecodes : Decodes limit (second value) secondEncoding result) :
    Decodes limit (first >>= second) (firstEncoding ++ secondEncoding) result := by
  intro cursor rest short faces
  rw [List.append_assoc] at faces
  refine succeeds_bind.mpr ⟨value, cursor.advance firstEncoding.length,
    firstDecodes cursor _ short faces, ?_⟩
  have second := secondDecodes (cursor.advance firstEncoding.length) rest short faces.advance
  rwa [Cursor.advance_advance, ← List.length_append] at second

/-- A last step that consumes nothing. -/
theorem Decodes.bind_pure {first : Decoder ε α} {function : α → β}
    {encoding : List UInt8} {value : α} (firstDecodes : Decodes limit first encoding value) :
    Decodes limit (first >>= fun result => Pure.pure (function result)) encoding
      (function value) := by
  have last : Decodes limit (Pure.pure (function value) : Decoder ε β) [] (function value) :=
    Decodes.pure (function value)
  rw [← List.append_nil encoding]
  exact firstDecodes.bind last

theorem Decodes.unless {condition : Prop} [Decidable condition] {failure : ε}
    {next : Decoder ε α} {encoding : List UInt8} {value : α}
    (passes : ¬ condition) (nextDecodes : Decodes limit next encoding value) :
    Decodes limit (if condition then throw failure else next) encoding value := by
  rw [if_neg passes]
  exact nextDecodes

theorem Decodes.take (failure : ε) (chunk : List UInt8) :
    Decodes limit (take failure chunk.length) chunk chunk := by
  intro cursor rest _ faces
  have total := faces.length
  rw [List.length_append] at total
  unfold Succeeds ByteDecoder.take
  rw [if_pos (by omega), faces.2, List.take_left]

/-- Repetition undoes concatenation. -/
theorem Decodes.times {decoder : Decoder ε β} {encode : α → List UInt8} {decoded : α → β}
    (values : List α)
    (each : ∀ value ∈ values, Decodes limit decoder (encode value) (decoded value)) :
    Decodes limit (times decoder values.length) (values.flatMap encode)
      (values.map decoded) := by
  induction values with
  | nil => exact Decodes.pure []
  | cons head tail inductionHypothesis =>
      have headDecodes := each head (List.mem_cons_self ..)
      have tailDecodes := inductionHypothesis fun value member =>
        each value (List.mem_cons_of_mem head member)
      rw [List.flatMap_cons]
      exact headDecodes.bind tailDecodes.bind_pure

/-! ## What a successful decoder has seen -/

theorem succeeds_take {failure : ε} {count : Nat} {cursor after : Cursor}
    {chunk : List UInt8} :
    Succeeds (take failure count) cursor chunk after ↔
      cursor.position + count ≤ cursor.bytes.length ∧
        chunk = (cursor.bytes.drop cursor.position).take count ∧
        after = cursor.advance count := by
  unfold Succeeds take
  by_cases within : cursor.position + count ≤ cursor.bytes.length
  · rw [if_pos within]
    simp only [within, true_and, Except.ok.injEq, Prod.mk.injEq]
    exact ⟨fun equal => ⟨equal.1.symm, equal.2.symm⟩, fun equal => ⟨equal.1.symm, equal.2.symm⟩⟩
  · rw [if_neg within]
    simp [within]

end Rules

/-! ## Two decoders of one format -/

section TwoDecoders

variable {ε δ α β γ η : Type}

/-- Whatever `first` accepts: `second` accepts it with a related value and stops at the
same place if the value fits, and rejects it otherwise. -/
def Mirrors (Fits : α → Prop) (Same : α → β → Prop) (first : Decoder ε α)
    (second : Decoder δ β) : Prop :=
  ∀ cursor value after, Succeeds first cursor value after →
    (Fits value → ∃ other, Succeeds second cursor other after ∧ Same value other) ∧
      (¬ Fits value → ∀ other last, ¬ Succeeds second cursor other last)

namespace Mirrors

variable {Fits : α → Prop} {Same : α → β → Prop} {first : Decoder ε α} {second : Decoder δ β}

/-- A second decoder that rejects nothing more. -/
theorem of_total
    (accepts : ∀ cursor value after, Succeeds first cursor value after →
      ∃ other, Succeeds second cursor other after ∧ Same value other) :
    Mirrors (fun _ => True) Same first second := by
  intro cursor value after accepted
  constructor
  · intro _
    exact accepts cursor value after accepted
  · intro unfit
    exact absurd trivial unfit

theorem pure {value : α} {other : β} (fits : Fits value) (same : Same value other) :
    Mirrors Fits Same (pure value : Decoder ε α) (pure other : Decoder δ β) := by
  intro cursor result after accepted
  obtain ⟨rfl, rfl⟩ := succeeds_pure.mp accepted
  constructor
  · intro _
    exact ⟨other, succeeds_pure.mpr ⟨rfl, rfl⟩, same⟩
  · intro unfit
    exact absurd fits unfit

/-- A first part that rejects more makes every result of the sequence unfit. -/
theorem bind {Fits' : γ → Prop} {Same' : γ → η → Prop} {rest : α → Decoder ε γ}
    {otherRest : β → Decoder δ η} (mirrors : Mirrors Fits Same first second)
    (continues : ∀ value other, Fits value → Same value other →
      Mirrors Fits' Same' (rest value) (otherRest other))
    (unfit : ∀ value, ¬ Fits value → ∀ cursor result after,
      Succeeds (rest value) cursor result after → ¬ Fits' result) :
    Mirrors Fits' Same' (first >>= rest) (second >>= otherRest) := by
  intro cursor result after accepted
  obtain ⟨value, middle, firstAccepted, restAccepted⟩ := succeeds_bind.mp accepted
  obtain ⟨accepts, rejects⟩ := mirrors cursor value middle firstAccepted
  by_cases fits : Fits value
  · obtain ⟨other, secondAccepted, same⟩ := accepts fits
    obtain ⟨restAccepts, restRejects⟩ :=
      continues value other fits same middle result after restAccepted
    constructor
    · intro resultFits
      obtain ⟨last, lastAccepted, lastSame⟩ := restAccepts resultFits
      exact ⟨last, succeeds_bind.mpr ⟨other, middle, secondAccepted, lastAccepted⟩, lastSame⟩
    · intro resultUnfit last final lastAccepted
      obtain ⟨other', middle', secondAccepted', restAccepted'⟩ :=
        succeeds_bind.mp lastAccepted
      have same := secondAccepted.symm.trans secondAccepted'
      obtain ⟨rfl, rfl⟩ := Prod.mk.inj (Except.ok.inj same)
      exact restRejects resultUnfit last final restAccepted'
  · constructor
    · intro resultFits
      exact absurd resultFits (unfit value fits middle result after restAccepted)
    · intro _ last final lastAccepted
      obtain ⟨other, middle', secondAccepted, _⟩ := succeeds_bind.mp lastAccepted
      exact rejects fits other middle' secondAccepted

/-- A first part that rejects nothing more. -/
theorem bind_total {Fits' : γ → Prop} {Same' : γ → η → Prop} {rest : α → Decoder ε γ}
    {otherRest : β → Decoder δ η} (mirrors : Mirrors (fun _ => True) Same first second)
    (continues : ∀ value other, Same value other →
      Mirrors Fits' Same' (rest value) (otherRest other)) :
    Mirrors Fits' Same' (first >>= rest) (second >>= otherRest) :=
  mirrors.bind (fun value other _ same => continues value other same)
    fun _ unfit => absurd trivial unfit

/-- A guard of the first decoder that covers the one of the second. -/
theorem guarded {condition otherCondition : Prop} [Decidable condition]
    [Decidable otherCondition] {failure : ε} {otherFailure : δ}
    (covers : otherCondition → condition) (mirrors : Mirrors Fits Same first second) :
    Mirrors Fits Same (if condition then throw failure else first)
      (if otherCondition then throw otherFailure else second) := by
  intro cursor value after accepted
  obtain ⟨passes, accepted⟩ := succeeds_unless.mp accepted
  have otherPasses : ¬ otherCondition := fun holds => passes (covers holds)
  rw [if_neg otherPasses]
  exact mirrors cursor value after accepted

theorem take (failure : ε) (otherFailure : δ) (count : Nat) :
    Mirrors (fun _ => True) Eq (take failure count) (take otherFailure count) := by
  apply of_total
  intro cursor chunk after accepted
  exact ⟨chunk, succeeds_take.mpr (succeeds_take.mp accepted), rfl⟩

/-- A list fits if every item does. -/
theorem times (mirrors : Mirrors Fits Same first second) (count : Nat) :
    Mirrors (fun values => ∀ value ∈ values, Fits value) (List.Forall₂ Same)
      (times first count) (times second count) := by
  induction count with
  | zero => exact pure (by simp) .nil
  | succ count inductionHypothesis =>
      apply bind mirrors
      · intro head otherHead fits same
        apply bind inductionHypothesis
        · intro tail otherTail tailFit tailSame
          exact pure (List.forall_mem_cons.mpr ⟨fits, tailFit⟩) (.cons same tailSame)
        · intro tail unfit cursor result after accepted
          obtain ⟨rfl, -⟩ := succeeds_pure.mp accepted
          exact fun allFit => unfit (List.forall_mem_cons.mp allFit).2
      · intro head unfit cursor result after accepted
        obtain ⟨tail, _, _, atEnd⟩ := succeeds_bind.mp accepted
        obtain ⟨rfl, -⟩ := succeeds_pure.mp atEnd
        exact fun allFit => unfit (List.forall_mem_cons.mp allFit).1

theorem mono {Same' : α → β → Prop} (mirrors : Mirrors Fits Same first second)
    (weaken : ∀ value other, Same value other → Same' value other) :
    Mirrors Fits Same' first second := by
  intro cursor value after accepted
  obtain ⟨accepts, rejects⟩ := mirrors cursor value after accepted
  refine ⟨fun fits => ?_, rejects⟩
  obtain ⟨other, otherAccepted, same⟩ := accepts fits
  exact ⟨other, otherAccepted, weaken value other same⟩

/-- Where every value the first decoder returns fits, the second rejects nothing more. -/
theorem total (mirrors : Mirrors Fits Same first second)
    (allFit : ∀ cursor value after, Succeeds first cursor value after → Fits value) :
    Mirrors (fun _ => True) Same first second := by
  apply of_total
  intro cursor value after accepted
  exact (mirrors cursor value after accepted).1 (allFit cursor value after accepted)

end Mirrors

end TwoDecoders

end TriAI.Library.ByteDecoder
