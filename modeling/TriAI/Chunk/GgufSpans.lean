import TriAI.Chunk.Gguf
import TriAI.Library.Tiling

/-!
Contract: the tensor spans of an accepted GGUF header.

Owns: what the two loops over the tensors establish together. The first loop
leaves `OffsetsFit`; under it the second loop cannot fail and computes
`located`, whose spans tile the file from the first tensor to its end.

Does not own: the decoding of the header fields.
-/

set_option autoImplicit false

namespace TriAI.Chunk.Gguf

open TriAI.Library.ByteDecoder
open TriAI.Library.FileTree
open TriAI.Library.MachineInt
open TriAI.Library.Tiling

/-- The bytes of the file that belong to a tensor. -/
def GgufTensorInfo.span (tensor : GgufTensorInfo) : Span :=
  ⟨tensor.dataOffset.toNat, tensor.size.toNat⟩

@[simp] theorem toNat_fileLen (file : ByteVec) :
    (fileLen file).toNat = file.bytes.length := by
  have fits := file.fits
  unfold fileLen
  rw [UInt64.toNat_ofNat']
  omega

/-! ## The first loop -/

/-- Strictly increasing offsets, the first one above `previous`. -/
def Increasing : Option UInt64 → List GgufTensorInfo → Prop
  | _, [] => True
  | previous, tensor :: rest =>
      (∀ last ∈ previous, last < tensor.offset) ∧ Increasing (some tensor.offset) rest

/-- What the first loop checks, in exact arithmetic. -/
structure OffsetsFit (start fileLen : UInt64) (previous : Option UInt64)
    (tensors : List GgufTensorInfo) : Prop where
  increasing : Increasing previous tensors
  within : ∀ tensor ∈ tensors, start.toNat + tensor.offset.toNat ≤ fileLen.toNat

private theorem any_not_above {previous : Option UInt64} {offset : UInt64} :
    (previous.any fun last => offset ≤ last) = false ↔ ∀ last ∈ previous, last < offset := by
  cases previous with
  | none => simp
  | some last => simp [UInt64.not_le]

/-- Spec of the first loop: it accepts exactly the offsets that fit. -/
theorem checkOffsets_ok_iff {start fileLen : UInt64} {previous : Option UInt64}
    {tensors : List GgufTensorInfo} :
    checkOffsets start fileLen previous tensors = .ok () ↔
      OffsetsFit start fileLen previous tensors := by
  induction tensors generalizing previous with
  | nil => exact ⟨fun _ => ⟨trivial, by simp⟩, fun _ => rfl⟩
  | cons tensor rest inductionHypothesis =>
      have fileLt := fileLen.toNat_lt
      unfold checkOffsets
      constructor
      · intro accepted
        split at accepted
        · cases accepted
        · rename_i above
          split at accepted
          · cases accepted
          · rename_i absolute added
            split at accepted
            · cases accepted
            · rename_i inside
              have absoluteNat := checkedAdd_eq_some.mp added
              have insideNat := UInt64.le_iff_toNat_le.mp (UInt64.not_lt.mp inside)
              have restFits := inductionHypothesis.mp accepted
              refine ⟨⟨any_not_above.mp (by simpa using above), restFits.increasing⟩, ?_⟩
              intro candidate member
              rcases List.mem_cons.mp member with isHead | inRest
              · subst candidate
                omega
              · exact restFits.within candidate inRest
      · rintro ⟨⟨above, increasing⟩, within⟩
        have headWithin := within tensor (List.mem_cons_self ..)
        have added : checkedAdd start tensor.offset = some (start + tensor.offset) :=
          checkedAdd_eq_some.mpr (toNat_add_of_lt (by omega))
        have absoluteNat := checkedAdd_eq_some.mp added
        rw [if_neg (by simpa using any_not_above.mpr above), added]
        simp only
        rw [if_neg (UInt64.not_lt.mpr (UInt64.le_iff_toNat_le.mpr (by omega)))]
        exact inductionHypothesis.mpr ⟨increasing, fun candidate member =>
          within candidate (List.mem_cons_of_mem tensor member)⟩

/-! ## The second loop -/

/-- The list the second loop computes when no span underflows. -/
def located (start fileLen : UInt64) : List GgufTensorInfo → List GgufTensorInfo
  | [] => []
  | tensor :: rest =>
      { tensor with
        size := endRelative start fileLen rest - tensor.offset
        dataOffset := start + tensor.offset } :: located start fileLen rest

/-- The fields of a tensor that the second loop leaves alone. -/
def GgufTensorInfo.declared (tensor : GgufTensorInfo) :
    String × List UInt64 × UInt32 × UInt64 :=
  (tensor.name, tensor.dims, tensor.dtype, tensor.offset)

theorem located_declared (start fileLen : UInt64) (tensors : List GgufTensorInfo) :
    (located start fileLen tensors).map GgufTensorInfo.declared =
      tensors.map GgufTensorInfo.declared := by
  induction tensors with
  | nil => rfl
  | cons tensor rest inductionHypothesis =>
      rw [located, List.map_cons, List.map_cons, inductionHypothesis]
      rfl

section Spans

variable {start fileLen : UInt64}

/-- The end of a tensor is not before its offset, and not beyond the file; it is
strictly after the offset when another tensor follows. -/
theorem endRelative_bounds (startWithin : start.toNat ≤ fileLen.toNat)
    {tensor : GgufTensorInfo} {rest : List GgufTensorInfo} {previous : Option UInt64}
    (fits : OffsetsFit start fileLen previous (tensor :: rest)) :
    tensor.offset.toNat ≤ (endRelative start fileLen rest).toNat ∧
      start.toNat + (endRelative start fileLen rest).toNat ≤ fileLen.toNat ∧
      (rest ≠ [] → tensor.offset.toNat < (endRelative start fileLen rest).toNat) ∧
      (rest = [] → start.toNat + (endRelative start fileLen rest).toNat = fileLen.toNat) := by
  have headWithin := fits.within tensor (List.mem_cons_self ..)
  cases rest with
  | nil =>
      have exact := toNat_sub_of_le startWithin
      simp only [endRelative, exact, ne_eq, not_true_eq_false, false_implies, forall_const,
        true_and]
      omega
  | cons next tail =>
      have nextWithin := fits.within next (by simp)
      have above := UInt64.lt_iff_toNat_lt.mp
        (fits.increasing.2.1 tensor.offset rfl)
      simp only [endRelative, ne_eq, reduceCtorEq, not_false_eq_true, forall_const,
        false_implies, and_true]
      omega

theorem OffsetsFit.tail {previous : Option UInt64} {tensor : GgufTensorInfo}
    {rest : List GgufTensorInfo}
    (fits : OffsetsFit start fileLen previous (tensor :: rest)) :
    OffsetsFit start fileLen (some tensor.offset) rest :=
  ⟨fits.increasing.2, fun candidate member =>
    fits.within candidate (List.mem_cons_of_mem tensor member)⟩

/-- Spec of the second loop: after the first one it does not fail. -/
theorem assignSpans_eq_located (startWithin : start.toNat ≤ fileLen.toNat)
    {previous : Option UInt64} {tensors : List GgufTensorInfo}
    (fits : OffsetsFit start fileLen previous tensors) :
    assignSpans start fileLen tensors = .ok (located start fileLen tensors) := by
  induction tensors generalizing previous with
  | nil => rfl
  | cons tensor rest inductionHypothesis =>
      have bounds := endRelative_bounds startWithin fits
      have spanned : checkedSub (endRelative start fileLen rest) tensor.offset =
          some (endRelative start fileLen rest - tensor.offset) := by
        rw [checkedSub_eq_some, toNat_sub_of_le bounds.1]
        exact (Nat.add_sub_of_le bounds.1).symm
      rw [assignSpans, spanned, located]
      simp only
      rw [inductionHypothesis fits.tail]
      rfl

/-- What the two unchecked operations on one tensor compute. -/
theorem located_exact (startWithin : start.toNat ≤ fileLen.toNat)
    {tensor : GgufTensorInfo} {rest : List GgufTensorInfo} {previous : Option UInt64}
    (fits : OffsetsFit start fileLen previous (tensor :: rest)) :
    (start + tensor.offset).toNat = start.toNat + tensor.offset.toNat ∧
      (endRelative start fileLen rest - tensor.offset).toNat =
        (endRelative start fileLen rest).toNat - tensor.offset.toNat := by
  have fileLt := fileLen.toNat_lt
  have headWithin := fits.within tensor (List.mem_cons_self ..)
  exact ⟨toNat_add_of_lt (by omega),
    toNat_sub_of_le (endRelative_bounds startWithin fits).1⟩

/-- The spans follow each other from the first tensor to the end of the file. -/
theorem located_tiles (startWithin : start.toNat ≤ fileLen.toNat)
    {tensor : GgufTensorInfo} {rest : List GgufTensorInfo} {previous : Option UInt64}
    (fits : OffsetsFit start fileLen previous (tensor :: rest)) :
    Tiles (start.toNat + tensor.offset.toNat) fileLen.toNat
      ((located start fileLen (tensor :: rest)).map GgufTensorInfo.span) := by
  induction rest generalizing tensor previous with
  | nil =>
      have bounds := endRelative_bounds startWithin fits
      obtain ⟨offsetExact, sizeExact⟩ := located_exact startWithin fits
      have atEnd := bounds.2.2.2 rfl
      refine ⟨offsetExact, ?_⟩
      change (start + tensor.offset).toNat +
        (endRelative start fileLen [] - tensor.offset).toNat = fileLen.toNat
      omega
  | cons next tail inductionHypothesis =>
      have bounds := endRelative_bounds startWithin fits
      obtain ⟨offsetExact, sizeExact⟩ := located_exact startWithin fits
      have restTiles := inductionHypothesis fits.tail
      refine ⟨offsetExact, ?_⟩
      have meets : (start + tensor.offset).toNat +
          (endRelative start fileLen (next :: tail) - tensor.offset).toNat =
            start.toNat + next.offset.toNat := by
        rw [offsetExact, sizeExact]
        change start.toNat + tensor.offset.toNat +
          (next.offset.toNat - tensor.offset.toNat) = _
        have below := bounds.1
        change tensor.offset.toNat ≤ next.offset.toNat at below
        omega
      rw [← meets] at restTiles
      exact restTiles

/-- Absolute offsets are exact sums, and they fit into a word. -/
theorem located_offset_exact (startWithin : start.toNat ≤ fileLen.toNat)
    {previous : Option UInt64} {tensors : List GgufTensorInfo}
    (fits : OffsetsFit start fileLen previous tensors) :
    ∀ tensor ∈ located start fileLen tensors,
      start.toNat + tensor.offset.toNat < 2 ^ 64 ∧
        tensor.dataOffset.toNat = start.toNat + tensor.offset.toNat := by
  induction tensors generalizing previous with
  | nil => simp [located]
  | cons head rest inductionHypothesis =>
      intro tensor member
      rcases List.mem_cons.mp member with isHead | inRest
      · subst tensor
        have fileLt := fileLen.toNat_lt
        have headWithin := fits.within head (List.mem_cons_self ..)
        exact ⟨by simp only; omega, (located_exact startWithin fits).1⟩
      · exact inductionHypothesis fits.tail tensor inRest

theorem endRelative_located (tensors : List GgufTensorInfo) :
    endRelative start fileLen (located start fileLen tensors) =
      endRelative start fileLen tensors := by
  cases tensors <;> rfl

/-- Sizes are exact differences, and no difference is negative. -/
theorem located_size_exact (startWithin : start.toNat ≤ fileLen.toNat)
    {previous : Option UInt64} {tensors : List GgufTensorInfo}
    (fits : OffsetsFit start fileLen previous tensors) (index : Nat)
    (inside : index < (located start fileLen tensors).length) :
    ((located start fileLen tensors)[index].offset.toNat ≤
      (endRelative start fileLen ((located start fileLen tensors).drop (index + 1))).toNat) ∧
    (located start fileLen tensors)[index].size.toNat =
      (endRelative start fileLen ((located start fileLen tensors).drop (index + 1))).toNat -
        (located start fileLen tensors)[index].offset.toNat := by
  induction tensors generalizing previous index with
  | nil => simp [located] at inside
  | cons head rest inductionHypothesis =>
      cases index with
      | zero =>
          simp only [located, List.getElem_cons_zero, List.drop_succ_cons, List.drop_zero,
            endRelative_located]
          exact ⟨(endRelative_bounds startWithin fits).1, (located_exact startWithin fits).2⟩
      | succ index =>
          simp only [located, List.getElem_cons_succ, List.drop_succ_cons]
          exact inductionHypothesis fits.tail index (by simpa [located] using inside)

/-- Every tensor but the last has a byte. -/
theorem located_nonempty (startWithin : start.toNat ≤ fileLen.toNat)
    {previous : Option UInt64} {tensors : List GgufTensorInfo}
    (fits : OffsetsFit start fileLen previous tensors) :
    ∀ tensor ∈ (located start fileLen tensors).dropLast, 0 < tensor.size.toNat := by
  induction tensors generalizing previous with
  | nil => simp [located]
  | cons head rest inductionHypothesis =>
      cases rest with
      | nil => simp [located]
      | cons next tail =>
          intro tensor member
          rw [located, located, List.dropLast_cons_cons] at member
          rcases List.mem_cons.mp member with isHead | inRest
          · subst tensor
            have bounds := endRelative_bounds startWithin fits
            have sizeExact := (located_exact startWithin fits).2
            have grows := bounds.2.2.1 (List.cons_ne_nil next tail)
            simp only
            omega
          · exact inductionHypothesis fits.tail tensor inRest

end Spans

/-! ## Accepted headers -/

/-- What acceptance says about the part after the header fields. -/
theorem locateTensors_ok_iff {file : ByteVec} {headerEnd : UInt64}
    {metadata : GgufMetadata} {tensors : List GgufTensorInfo} {header : ParsedHeader} :
    locateTensors file headerEnd metadata tensors = .ok header ↔
      ∃ start, alignUp headerEnd alignment = some start ∧
        start.toNat ≤ file.bytes.length ∧
        OffsetsFit start (fileLen file) none tensors ∧
        header = ⟨metadata, located start (fileLen file) tensors, start⟩ := by
  unfold locateTensors
  cases aligned : alignUp headerEnd alignment with
  | none => simp [throw, throwThe, MonadExceptOf.throw]
  | some start =>
      simp only [Option.some.injEq, exists_eq_left']
      constructor
      · intro accepted
        split at accepted
        · cases accepted
        · rename_i inside
          have insideNat := UInt64.le_iff_toNat_le.mp (UInt64.not_lt.mp inside)
          rw [toNat_fileLen] at insideNat
          cases checked : checkOffsets start (fileLen file) none tensors with
          | error error =>
              rw [checked] at accepted
              cases accepted
          | ok _ =>
              have fits := checkOffsets_ok_iff.mp checked
              rw [checked, assignSpans_eq_located (by rw [toNat_fileLen]; exact insideNat) fits]
                at accepted
              cases accepted
              exact ⟨insideNat, fits, rfl⟩
      · rintro ⟨insideNat, fits, rfl⟩
        have startWithin : start.toNat ≤ (fileLen file).toNat := by
          rw [toNat_fileLen]
          exact insideNat
        rw [if_neg (UInt64.not_lt.mpr (UInt64.le_iff_toNat_le.mpr startWithin)),
          checkOffsets_ok_iff.mpr fits, assignSpans_eq_located startWithin fits]
        rfl

/-- Acceptance, split into the header fields and the location of the tensors. -/
theorem parseHeader_ok_iff {file : ByteVec} {header : ParsedHeader} :
    parseHeader file = .ok header ↔
      ∃ metadata tensors cursor,
        Succeeds headerFields ⟨file.bytes, 0⟩ (metadata, tensors) cursor ∧
        locateTensors file (UInt64.ofNat cursor.position) metadata tensors = .ok header := by
  unfold parseHeader Succeeds
  cases outcome : headerFields ⟨file.bytes, 0⟩ with
  | error error => simp [throw, throwThe, MonadExceptOf.throw]
  | ok result =>
      obtain ⟨⟨metadata, tensors⟩, cursor⟩ := result
      simp

/-- The spans of an accepted header, in exact arithmetic. `sectionExact`,
`offsetExact` and `sizeExact` say that the unchecked subtraction, the unchecked
addition and the span subtraction do not wrap. -/
structure SpansTile (file : ByteVec) (header : ParsedHeader) : Prop where
  sectionExact : header.dataSectionStart.toNat ≤ file.bytes.length ∧
    (fileLen file - header.dataSectionStart).toNat =
      file.bytes.length - header.dataSectionStart.toNat
  offsetExact : ∀ tensor ∈ header.tensors,
    header.dataSectionStart.toNat + tensor.offset.toNat < 2 ^ 64 ∧
      tensor.dataOffset.toNat = header.dataSectionStart.toNat + tensor.offset.toNat
  sizeExact : ∀ (index : Nat) (inside : index < header.tensors.length),
    (header.tensors[index].offset.toNat ≤
      (endRelative header.dataSectionStart (fileLen file)
        (header.tensors.drop (index + 1))).toNat) ∧
    header.tensors[index].size.toNat =
      (endRelative header.dataSectionStart (fileLen file)
        (header.tensors.drop (index + 1))).toNat - header.tensors[index].offset.toNat
  adjacent : ∀ (index : Nat) (inside : index + 1 < header.tensors.length),
    header.tensors[index].dataOffset.toNat + header.tensors[index].size.toNat =
      header.tensors[index + 1].dataOffset.toNat
  reachesEnd : ∀ last ∈ header.tensors.getLast?,
    last.dataOffset.toNat + last.size.toNat = file.bytes.length
  inside : ∀ tensor ∈ header.tensors,
    header.dataSectionStart.toNat ≤ tensor.dataOffset.toNat ∧
      tensor.dataOffset.toNat + tensor.size.toNat ≤ file.bytes.length
  disjoint : header.tensors.Pairwise fun left right =>
    Disjoint left.span.positions right.span.positions
  onlyLastEmpty : ∀ tensor ∈ header.tensors.dropLast, 0 < tensor.size.toNat

/-- The located tensors tile the rest of the file. -/
private theorem located_tiles_file {file : ByteVec} {start : UInt64}
    {tensors : List GgufTensorInfo} (startInside : start.toNat ≤ file.bytes.length)
    (fits : OffsetsFit start (fileLen file) none tensors) :
    ∃ low, start.toNat ≤ low ∧ Tiles low file.bytes.length
      ((located start (fileLen file) tensors).map GgufTensorInfo.span) := by
  cases tensors with
  | nil => exact ⟨file.bytes.length, startInside, rfl⟩
  | cons tensor rest =>
      have placed := located_tiles (by rw [toNat_fileLen]; exact startInside) fits
      rw [toNat_fileLen] at placed
      exact ⟨_, Nat.le_add_right _ _, placed⟩

/-- An accepted file starts with the magic. -/
theorem parseHeader_magic {file : ByteVec} {header : ParsedHeader}
    (accepted : parseHeader file = .ok header) :
    4 ≤ file.bytes.length ∧ file.bytes.take 4 = magic := by
  obtain ⟨metadata, tensors, cursor, fields, _⟩ := parseHeader_ok_iff.mp accepted
  unfold headerFields at fields
  obtain ⟨found, middle, first, rest⟩ := succeeds_bind.mp fields
  obtain ⟨within, foundEq, -⟩ := succeeds_take.mp first
  have isMagic := not_not.mp (succeeds_unless.mp rest).1
  rw [isMagic] at foundEq
  exact ⟨by simpa using within, foundEq.symm⟩

/-- The tensors of an accepted header tile its file from the first one on. -/
theorem parseHeader_tiles {file : ByteVec} {header : ParsedHeader}
    (accepted : parseHeader file = .ok header) :
    ∃ low, Tiles low file.bytes.length (header.tensors.map GgufTensorInfo.span) := by
  obtain ⟨metadata, tensors, cursor, _, placed⟩ := parseHeader_ok_iff.mp accepted
  obtain ⟨start, _, startInside, fits, rfl⟩ := locateTensors_ok_iff.mp placed
  obtain ⟨low, _, tiles⟩ := located_tiles_file startInside fits
  exact ⟨low, tiles⟩

/-- Spans that tile the rest of the file satisfy everything positional. -/
private theorem spansTile_of_fits {file : ByteVec} {metadata : GgufMetadata}
    {start : UInt64} {tensors : List GgufTensorInfo}
    (startInside : start.toNat ≤ file.bytes.length)
    (fits : OffsetsFit start (fileLen file) none tensors) :
    SpansTile file ⟨metadata, located start (fileLen file) tensors, start⟩ := by
  have startWithin : start.toNat ≤ (fileLen file).toNat := by
    rw [toNat_fileLen]
    exact startInside
  obtain ⟨low, startLow, tiles⟩ := located_tiles_file startInside fits
  have apart := tiles.pairwise_disjoint
  rw [List.pairwise_map] at apart
  refine
    { sectionExact := ⟨startInside, ?_⟩
      offsetExact := located_offset_exact startWithin fits
      sizeExact := located_size_exact startWithin fits
      adjacent := ?_
      reachesEnd := ?_
      inside := ?_
      disjoint := apart
      onlyLastEmpty := located_nonempty startWithin fits }
  · rw [toNat_sub_of_le startWithin, toNat_fileLen]
  · intro index inside
    have meets := tiles.stop_eq_next_start index (by simpa using inside)
    simpa [GgufTensorInfo.span, Span.stop] using meets
  · intro last isLast
    have atEnd := tiles.last_stop last.span (by
      rw [List.getLast?_map]
      exact Option.mem_map_of_mem _ isLast)
    exact atEnd
  · intro tensor member
    have between := tiles.within tensor.span (List.mem_map_of_mem member)
    exact ⟨Nat.le_trans startLow between.1, between.2⟩

/-- The span computation of an accepted header never wraps, and its spans tile
the file from the first tensor on. -/
theorem parseHeader_spansTile (file : ByteVec) (header : ParsedHeader)
    (accepted : parseHeader file = .ok header) : SpansTile file header := by
  obtain ⟨metadata, tensors, cursor, _, placed⟩ := parseHeader_ok_iff.mp accepted
  obtain ⟨start, _, startInside, fits, rfl⟩ := locateTensors_ok_iff.mp placed
  exact spansTile_of_fits startInside fits

/-- Two tensors `a` and `b` at offsets 0 and 5, the second one empty: 24 bytes of
fixed fields, 33 bytes for each tensor, 6 bytes of padding and 5 bytes of data. -/
def twoTensorFile : ByteVec where
  bytes := magic ++ littleEndian 4 3 ++ littleEndian 8 2 ++ littleEndian 8 0 ++
    (littleEndian 8 1 ++ [97] ++ littleEndian 4 1 ++ littleEndian 8 5 ++ littleEndian 4 0 ++
      littleEndian 8 0) ++
    (littleEndian 8 1 ++ [98] ++ littleEndian 4 1 ++ littleEndian 8 0 ++ littleEndian 4 0 ++
      littleEndian 8 5) ++
    List.replicate 6 0 ++ [1, 2, 3, 4, 5]
  fits := by simp [magic]

def twoTensorHeader : ParsedHeader where
  metadata := { version := 3, tensorCount := 2, metadataKvCount := 0, kv := ∅ }
  tensors :=
    [{ name := "a", dims := [5], dtype := 0, offset := 0, size := 5, dataOffset := 96 },
      { name := "b", dims := [0], dtype := 0, offset := 5, size := 0, dataOffset := 101 }]
  dataSectionStart := 96

theorem parseHeader_spansTile_twoTensorFile : SpansTile twoTensorFile twoTensorHeader :=
  parseHeader_spansTile twoTensorFile twoTensorHeader (by rfl)

end TriAI.Chunk.Gguf
