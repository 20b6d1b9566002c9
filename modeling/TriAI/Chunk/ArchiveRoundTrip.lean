import TriAI.Chunk.LoadOutcome
import TriAI.Chunk.PackedArchive
import TriAI.Chunk.RecordedCrates

/-!
Contract: packing a GGUF file and loading its tensors back.

Owns: where the index records each tensor, what a loader opened on a packed
archive reads, and the exact condition under which every tensor comes back.

Does not own: damaged archives (`Chunk.Fallback`).

The compressed size doubles as the compression flag. A chunk whose frame happens
to be exactly as long as its raw bytes is read as uncompressed.
-/

set_option autoImplicit false

namespace TriAI.Chunk

open TriAI.Library.ByteDecoder (littleEndian)
open TriAI.Library.FileTree
open TriAI.Library.Interaction
open TriAI.Library.MachineInt
open TriAI.Library.Tiling
open TriAI.Chunk.Gguf (GgufTensorInfo ParsedHeader parseHeader)

/-! ## Where the index records a tensor -/

/-- A tensor entry with its place. -/
def TensorEntry.placedAt (entry : TensorEntry) (chunkId : String) (offset : UInt64) :
    TensorEntry :=
  { entry with chunkId := some chunkId, chunkOffset := some offset }

section Placing

variable {infos : List GgufTensorInfo}

theorem TensorIndex.place_other (index : TensorIndex) {n m : Nat} (different : n ≠ m)
    (chunkId : String) (offset : UInt64) :
    (index.place m chunkId offset).tensors[n]? = index.tensors[n]? :=
  List.getElem?_modify_ne _ _ different.symm

theorem TensorIndex.place_same (index : TensorIndex) (n : Nat) (chunkId : String)
    (offset : UInt64) :
    (index.place n chunkId offset).tensors[n]? =
      index.tensors[n]?.map (·.placedAt chunkId offset) :=
  List.getElem?_modify_eq _ _ _

/-- A group places only its own tensors. -/
theorem placeGroup_other (chunkId : String) {n : Fin infos.length}
    (group : List (Fin infos.length)) (outside : n ∉ group) (offset : Nat)
    (index : TensorIndex) :
    (placeGroup infos chunkId group offset index).tensors[n.val]? =
      index.tensors[n.val]? := by
  induction group generalizing offset index with
  | nil => rfl
  | cons m rest inductionHypothesis =>
      have different : n ≠ m := fun same => outside (same ▸ List.mem_cons_self ..)
      unfold placeGroup
      rw [inductionHypothesis fun inRest => outside (List.mem_cons_of_mem m inRest),
        index.place_other fun same => different (Fin.ext same)]

/-- A group places each tensor behind the sizes of those before it. -/
theorem placeGroup_at (chunkId : String) {n : Fin infos.length}
    (before after : List (Fin infos.length)) (first : n ∉ before) (last : n ∉ after)
    (offset : Nat) (index : TensorIndex) :
    (placeGroup infos chunkId (before ++ n :: after) offset index).tensors[n.val]? =
      index.tensors[n.val]?.map
        (·.placedAt chunkId (UInt64.ofNat (offset + groupSize infos before))) := by
  induction before generalizing offset index with
  | nil =>
      rw [List.nil_append, placeGroup, placeGroup_other chunkId after last, index.place_same]
      rfl
  | cons m rest inductionHypothesis =>
      have different : n ≠ m := fun same => first (same ▸ List.mem_cons_self ..)
      rw [List.cons_append, placeGroup,
        inductionHypothesis (fun inRest => first (List.mem_cons_of_mem m inRest)),
        index.place_other fun same => different (Fin.ext same), groupSize_cons, Nat.add_assoc]

theorem placeNumbered_other {n : Fin infos.length}
    (items : List (List (Fin infos.length) × Nat)) (outside : ∀ item ∈ items, n ∉ item.1)
    (index : TensorIndex) :
    (items.foldl (placeNumbered infos) index).tensors[n.val]? = index.tensors[n.val]? := by
  induction items generalizing index with
  | nil => rfl
  | cons item rest inductionHypothesis =>
      rw [List.foldl_cons, inductionHypothesis fun other member =>
        outside other (List.mem_cons_of_mem item member)]
      exact placeGroup_other _ _ (outside item (List.mem_cons_self ..)) 0 index

end Placing

section RoundTrip

variable {crates : Crates} {config : PackerConfig} {file : ByteVec}
  {infos : List GgufTensorInfo}

theorem mem_groupTensors_of_numbered {item : List (Fin infos.length) × Nat}
    (member : item ∈ numberedGroups config infos) : item.1 ∈ groupTensors config infos :=
  forall_numberedGroups.mpr (fun _ listed => listed) item member

/-- Every tensor belongs to a numbered group. -/
theorem exists_numberedGroup (config : PackerConfig) (n : Fin infos.length) :
    ∃ item ∈ numberedGroups config infos, n ∈ item.1 := by
  have listed : n ∈ (groupTensors config infos).flatten := by
    rw [groupTensors_flatten]
    exact List.mem_finRange n
  obtain ⟨group, member, inGroup⟩ := List.mem_flatten.mp listed
  have groups : (numberedGroups config infos).map Prod.fst = groupTensors config infos :=
    List.zipIdx_map_fst 0 _
  rw [← groups] at member
  obtain ⟨item, itemMember, rfl⟩ := List.mem_map.mp member
  exact ⟨item, itemMember, inGroup⟩

/-- No tensor is in two groups, or twice in one. -/
theorem numberedGroups_split {front back : List (List (Fin infos.length) × Nat)}
    {before after : List (Fin infos.length)} {n : Fin infos.length} {number : Nat}
    (split : numberedGroups config infos = front ++ (before ++ n :: after, number) :: back) :
    (∀ item ∈ front, n ∉ item.1) ∧ (∀ item ∈ back, n ∉ item.1) ∧
      n ∉ before ∧ n ∉ after := by
  have groups : (numberedGroups config infos).map Prod.fst = groupTensors config infos :=
    List.zipIdx_map_fst 0 _
  have once : (((numberedGroups config infos).map Prod.fst).flatten).Nodup := by
    rw [groups, groupTensors_flatten]
    exact List.nodup_finRange _
  rw [split] at once
  have around : (((front.map Prod.fst).flatten ++ before) ++
      n :: (after ++ (back.map Prod.fst).flatten)).Nodup := by simpa using once
  have elsewhere := (List.nodup_cons.mp (List.nodup_middle.mp around)).1
  simp only [List.mem_append, List.mem_flatten, List.mem_map, not_or, not_exists, not_and,
    forall_exists_index, and_imp] at elsewhere
  obtain ⟨⟨inFront, inBefore⟩, inAfter, inBack⟩ := elsewhere
  exact ⟨fun item member => inFront _ item member rfl,
    fun item member => inBack _ item member rfl, inBefore, inAfter⟩

/-- The entry of a tensor in the index of a packed archive. -/
theorem packedIndex_entry (id digest : String) (len : UInt64)
    {before after : List (Fin infos.length)} {n : Fin infos.length} {number : Nat}
    (member : (before ++ n :: after, number) ∈ numberedGroups config infos) :
    (packedIndex config infos id digest len).tensors[n.val]? =
      some ((unplacedEntry (infos.get n)).placedAt (chunkName number)
        (UInt64.ofNat (groupSize infos before))) := by
  obtain ⟨front, back, split⟩ := List.append_of_mem member
  obtain ⟨inFront, inBack, inBefore, inAfter⟩ := numberedGroups_split split
  have unplaced : (unplacedIndex infos id digest len).tensors[n.val]? =
      some (unplacedEntry (infos.get n)) := by
    unfold unplacedIndex
    rw [TensorIndex.tensors_foldl_add]
    simp [TensorIndex.new]
  unfold packedIndex
  rw [split, List.foldl_append, List.foldl_cons, placeNumbered_other back inBack]
  refine (placeGroup_at _ before after inBefore inAfter 0 _).trans ?_
  rw [placeNumbered_other front inFront, unplaced, Nat.zero_add]
  rfl

/-! ## The loader of a packed archive -/

/-- A group and its number determine each other. -/
theorem numberedGroups_inj {left right : List (Fin infos.length) × Nat}
    (leftMember : left ∈ numberedGroups config infos)
    (rightMember : right ∈ numberedGroups config infos) (same : left.2 = right.2) :
    left = right := by
  obtain ⟨leftInside, leftGroup⟩ := List.mem_zipIdx' leftMember
  obtain ⟨rightInside, rightGroup⟩ := List.mem_zipIdx' rightMember
  refine Prod.ext ?_ same
  rw [leftGroup, rightGroup]
  exact getElem_congr_idx same

/-- The manifest lists each chunk once, under its name. -/
theorem find_descriptorOf (id digest : String) {item : List (Fin infos.length) × Nat}
    (member : item ∈ numberedGroups config infos) :
    (packedManifest crates config file infos id digest).chunks.find?
        (·.chunkId = chunkName item.2) =
      some (descriptorOf crates config file infos item) := by
  rw [packedManifest_chunks, List.find?_map]
  have found : (numberedGroups config infos).find?
      ((fun chunk : ChunkDescriptor => decide (chunk.chunkId = chunkName item.2)) ∘
        descriptorOf crates config file infos) = some item := by
    cases search : (numberedGroups config infos).find?
        ((fun chunk : ChunkDescriptor => decide (chunk.chunkId = chunkName item.2)) ∘
          descriptorOf crates config file infos) with
    | none =>
        have missed := List.find?_eq_none.mp search item member
        simp [descriptorOf] at missed
    | some other =>
        have matched := List.find?_some search
        have named : chunkName other.2 = chunkName item.2 := of_decide_eq_true matched
        exact congrArg some (numberedGroups_inj (List.mem_of_find?_eq_some search) member
          (chunkName_injective named))
  rw [found]
  rfl

variable {input output : Path} {header : ParsedHeader}

variable (crates config) in
/-- What opening the archive of a file gives. -/
def packedLoader (input output : Path) (file : ByteVec) (header : ParsedHeader)
    (loaderConfig : LoaderConfig) (fallback : Option FallbackReader) : ChunkLoader where
  archive := output
  manifest := (packedResult crates config input output file header).manifest
  index := (packedResult crates config input output file header).tensorIndex
  config := loaderConfig
  fallback

variable (crates config) in
/-- The archive of a file, with the ids that `packGguf` gives it. -/
abbrev HasDocuments (input output : Path) (file : ByteVec) (header : ParsedHeader)
    (disk : Disk) : Prop :=
  Documented crates config file header.tensors output (modelIdOf input header)
    (crates.sha256Hex file.bytes) (Gguf.fileLen file) disk

variable (crates config) in
/-- The same with its chunks. -/
abbrev HasArchive (input output : Path) (file : ByteVec) (header : ParsedHeader)
    (disk : Disk) : Prop :=
  Archived crates config file header.tensors output (modelIdOf input header)
    (crates.sha256Hex file.bytes) (Gguf.fileLen file) disk

/-- Opening an archive reads back the manifest and the index. -/
theorem openAt_packed (lawful : crates.Lawful) {disk : Disk}
    (documents : HasDocuments crates config input output file header disk)
    (loaderConfig : LoaderConfig) {fallback : Option FallbackReader}
    (opened : Fallible.outcome FsOp.apply
      (ChunkLoader.openFallback crates loaderConfig
        (packedResult crates config input output file header).tensorIndex) disk =
          (.ok fallback, disk)) :
    Fallible.outcome FsOp.apply (ChunkLoader.openAt crates output loaderConfig) disk =
      (.ok (packedLoader crates config input output file header loaderConfig fallback,
        Cache.new loaderConfig.cacheBudgetBytes), disk) := by
  obtain ⟨⟨manifestFits, manifestFound⟩, ⟨indexFits, indexFound⟩⟩ := documents
  have manifestRead : Fallible.outcome FsOp.apply (Fs.read (output ++ ["manifest.json"])) disk =
      (.ok ⟨_, manifestFits⟩, disk) := by
    rw [Fs.outcome_read, Disk.read_eq_ok.mpr manifestFound]
    rfl
  have indexRead : Fallible.outcome FsOp.apply (Fs.read (output ++ ["tensor_index.json"])) disk =
      (.ok ⟨_, indexFits⟩, disk) := by
    rw [Fs.outcome_read, Disk.read_eq_ok.mpr indexFound]
    rfl
  unfold ChunkLoader.openAt
  rw [Fallible.outcome_bind_ok manifestRead, lawful.manifest_from_to, decoded_some,
    Fallible.outcome_bind_ok (Fs.outcome_ofExcept _ disk),
    Fallible.outcome_bind_ok indexRead, lawful.index_from_to, decoded_some,
    Fallible.outcome_bind_ok (Fs.outcome_ofExcept _ disk)]
  exact Fallible.outcome_bind_ok opened

theorem openAt_packed_noFallback (lawful : crates.Lawful) {disk : Disk}
    (documents : HasDocuments crates config input output file header disk)
    {loaderConfig : LoaderConfig} (noFallback : loaderConfig.fallbackGgufPath = none) :
    Fallible.outcome FsOp.apply (ChunkLoader.openAt crates output loaderConfig) disk =
      (.ok (packedLoader crates config input output file header loaderConfig none,
        Cache.new loaderConfig.cacheBudgetBytes), disk) := by
  refine openAt_packed lawful documents loaderConfig ?_
  unfold ChunkLoader.openFallback
  rw [noFallback]
  rfl

/-- What a loader reads from the primary file of a verified chunk. -/
theorem primary_packed (lawful : crates.Lawful) (lowest : 1 ≤ config.zstdLevel)
    (highest : config.zstdLevel ≤ 22) {disk : Disk}
    (archive : HasArchive crates config input output file header disk)
    (loaderConfig : LoaderConfig) (fallback : Option FallbackReader)
    {item : List (Fin header.tensors.length) × Nat}
    (member : item ∈ numberedGroups config header.tensors)
    (verified : PassesVerify crates config file header.tensors item.1) :
    (packedLoader crates config input output file header loaderConfig fallback).primary crates
        disk (descriptorOf crates config file header.tensors item) =
      .ok (readBack crates config file header.tensors item.1) := by
  obtain ⟨fits, found⟩ := archive.chunks item member
  have wasRead : Disk.read disk (chunkPath output (chunkName item.2)) =
      .ok ⟨storedOf crates config file header.tensors item.1, fits⟩ := Disk.read_eq_ok.mpr found
  have matched : matchesChunk crates (descriptorOf crates config file header.tensors item)
      (readBack crates config file header.tensors item.1) :=
    (matchesChunk_descriptorOf (readBack_length item.1)).mpr verified
  unfold ChunkLoader.primary
  change ((Disk.read disk (chunkPath output (chunkName item.2))).mapError TriAIError.io >>=
    ChunkLoader.acceptStored crates _ _) = _
  rw [wasRead]
  change ChunkLoader.acceptStored crates _ _ ⟨_, fits⟩ = _
  unfold ChunkLoader.acceptStored
  rw [decodeStored_descriptorOf lawful lowest highest item fits]
  change (if _ ∧ ¬ _ then _ else _) = _
  rw [if_neg fun rejected => rejected.2 matched]

/-! ## Slices of a chunk -/

theorem groupBytes_append (left right : List (Fin infos.length)) :
    groupBytes file infos (left ++ right) =
      groupBytes file infos left ++ groupBytes file infos right :=
  List.flatMap_append

theorem groupSize_append (left right : List (Fin infos.length)) :
    groupSize infos (left ++ right) = groupSize infos left + groupSize infos right := by
  unfold groupSize
  rw [List.map_append, List.sum_append]

/-- A tensor lies in its chunk behind the sizes of those before it. -/
theorem slice_groupBytes (fits : FitsFile file infos) (before after : List (Fin infos.length))
    (n : Fin infos.length) :
    slice (groupBytes file infos (before ++ n :: after)) (groupSize infos before)
        (infos.get n).size.toNat = tensorBytes file (infos.get n) := by
  have middle := slice_append_middle (groupBytes file infos before) (tensorBytes file (infos.get n))
    (groupBytes file infos after)
  rwa [groupBytes_length fits, tensorBytes_length fits, ← groupBytes_cons,
    ← groupBytes_append] at middle

/-- Data in which every tensor of a group lies at its place is the raw bytes. -/
theorem eq_groupBytes (group : List (Fin infos.length)) {data : List UInt8}
    (length : data.length = groupSize infos group)
    (slices : ∀ before n after, group = before ++ n :: after →
      slice data (groupSize infos before) (infos.get n).size.toNat = tensorBytes file (infos.get n)) :
    data = groupBytes file infos group := by
  suffices tails : ∀ rest done, group = done ++ rest →
      data.drop (groupSize infos done) = groupBytes file infos rest from tails group [] rfl
  intro rest
  induction rest with
  | nil =>
      intro done whole
      rw [List.append_nil] at whole
      rw [← whole, ← length, List.drop_length]
      rfl
  | cons n rest inductionHypothesis =>
      intro done whole
      have remaining : group = (done ++ [n]) ++ rest := by simpa using whole
      have tail := inductionHypothesis (done ++ [n]) remaining
      have single : groupSize infos [n] = (infos.get n).size.toNat := groupSize_cons n []
      rw [groupSize_append, single] at tail
      rw [groupBytes_cons, ← slices done n rest whole, ← tail]
      unfold slice
      rw [← List.drop_drop]
      exact (List.take_append_drop _ _).symm

/-! ## The round trip -/

/-- Every tensor comes back: a loader opened on the archive returns, for the chunk
and offset the index records, the bytes the tensor has in the source file. The
loader may be given any fallback, also none, so it is the primary file it reads. -/
def LoadsBack (crates : Crates) (disk : Disk) (output : Path) (file : ByteVec)
    (tensors : List GgufTensorInfo) (index : TensorIndex) : Prop :=
  ∀ loaderConfig : LoaderConfig, loaderConfig.fallbackGgufPath = none →
    ∃ loader, Fallible.outcome FsOp.apply (ChunkLoader.openAt crates output loaderConfig) disk =
        (.ok (loader, Cache.new loaderConfig.cacheBudgetBytes), disk) ∧
      ∀ (fallback : Option FallbackReader) (n : Fin tensors.length),
        ∃ entry chunkId offset, index.tensors[n.val]? = some entry ∧
          entry.chunkId = some chunkId ∧ entry.chunkOffset = some offset ∧
          entry.size = (tensors.get n).size ∧
          wlp (overDisk disk) (ChunkLoader.loadChunk crates { loader with fallback } chunkId).run
            (fun reached _ => ∃ chunk, reached = .ok chunk ∧
              slice chunk.data.bytes offset.toNat entry.size.toNat = tensorBytes file (tensors.get n))
            (Cache.new loaderConfig.cacheBudgetBytes)

/-- Packing succeeds and every tensor comes back. -/
def PacksAndLoadsBack (crates : Crates) (disk : Disk) (input output : Path)
    (config : PackerConfig) (file : ByteVec) (tensors : List GgufTensorInfo) : Prop :=
  ∃ result after,
    Fallible.outcome FsOp.apply (packGguf crates input output config) disk =
      (.ok result, after) ∧
    LoadsBack crates after output file tensors result.tensorIndex

/-- The sizes tell compressed chunks from uncompressed ones: no frame is as long as
the bytes it encodes, unless it is these bytes. -/
def SizesTell (crates : Crates) (config : PackerConfig) (file : ByteVec)
    (tensors : List GgufTensorInfo) : Prop :=
  ∀ group ∈ groupTensors config tensors,
    shouldCompressChunk config (categoriesOf tensors group) = true →
      (crates.zstdEncode config.zstdLevel (rawOf file tensors group)).length =
          (rawOf file tensors group).bytes.length →
        crates.zstdEncode config.zstdLevel (rawOf file tensors group) =
          (rawOf file tensors group).bytes

/-- Under that condition, and only then, a chunk is read back as it was. -/
theorem readBack_eq_iff (group : List (Fin infos.length)) :
    readBack crates config file infos group = rawOf file infos group ↔
      (shouldCompressChunk config (categoriesOf infos group) = true →
        (crates.zstdEncode config.zstdLevel (rawOf file infos group)).length =
            (rawOf file infos group).bytes.length →
          crates.zstdEncode config.zstdLevel (rawOf file infos group) =
            (rawOf file infos group).bytes) := by
  have small := (rawOf file infos group).fits
  unfold readBack storedOf packedBytes
  by_cases compress : shouldCompressChunk config (categoriesOf infos group) = true
  · rw [if_pos compress]
    by_cases same : (crates.zstdEncode config.zstdLevel (rawOf file infos group)).length =
        (rawOf file infos group).bytes.length
    · rw [if_pos same, ByteVec.ext_iff, asVec_bytes (by omega)]
      exact ⟨fun equal _ _ => equal, fun told => told compress same⟩
    · rw [if_neg same]
      exact ⟨fun _ _ coincides => absurd coincides same, fun _ => rfl⟩
  · rw [if_neg compress, if_pos rfl, ByteVec.ext_iff, asVec_bytes small]
    exact ⟨fun _ compresses => absurd compresses compress, fun _ => rfl⟩

/-- An uncached load of a packed and verified chunk. -/
private theorem uncached_packed (lawful : crates.Lawful) (lowest : 1 ≤ config.zstdLevel)
    (highest : config.zstdLevel ≤ 22) {disk : Disk}
    (archive : HasArchive crates config input output file header disk)
    (loaderConfig : LoaderConfig) (fallback : Option FallbackReader)
    {item : List (Fin header.tensors.length) × Nat}
    (member : item ∈ numberedGroups config header.tensors)
    (verified : PassesVerify crates config file header.tensors item.1) :
    (packedLoader crates config input output file header loaderConfig fallback).uncached crates
        disk (descriptorOf crates config file header.tensors item) =
      .ok (readBack crates config file header.tensors item.1, loaderConfig.verifyOnLoad) := by
  unfold ChunkLoader.uncached
  rw [primary_packed lawful lowest highest archive loaderConfig fallback member verified]
  rfl

/-- Loading a chunk of a packed archive returns what is read back of it. -/
private theorem load_packed_iff (lawful : crates.Lawful) (lowest : 1 ≤ config.zstdLevel)
    (highest : config.zstdLevel ≤ 22) {disk : Disk}
    (archive : HasArchive crates config input output file header disk)
    (loaderConfig : LoaderConfig) (fallback : Option FallbackReader)
    {item : List (Fin header.tensors.length) × Nat}
    (member : item ∈ numberedGroups config header.tensors)
    (verified : PassesVerify crates config file header.tensors item.1)
    (Property : ByteVec → Prop) :
    wlp (overDisk disk)
        ((packedLoader crates config input output file header loaderConfig fallback).loadChunk
          crates (chunkName item.2)).run
        (fun reached _ => ∃ chunk, reached = .ok chunk ∧ Property chunk.data)
        (Cache.new loaderConfig.cacheBudgetBytes) ↔
      Property (readBack crates config file header.tensors item.1) := by
  rw [ChunkLoader.wlp_loadChunk_data (by rfl) (find_descriptorOf _ _ member),
    uncached_packed lawful lowest highest archive loaderConfig fallback member verified]
  simp

/-- The offset of a tensor in its chunk fits the index. -/
private theorem toNat_chunkOffset (fits : FitsFile file infos)
    {before after : List (Fin infos.length)} {n : Fin infos.length}
    (member : before ++ n :: after ∈ groupTensors config infos) :
    (UInt64.ofNat (groupSize infos before)).toNat = groupSize infos before := by
  have whole := groupSize_le fits member
  have small := file.fits
  rw [groupSize_append] at whole
  rw [UInt64.toNat_ofNat']
  omega

/-- The I/O of packing succeeds: the output can be created and every file of the
archive fits the file system. -/
structure IoSucceeds (crates : Crates) (disk : Disk) (input output : Path)
    (config : PackerConfig) (file : ByteVec) (header : ParsedHeader) : Prop where
  parent : disk.ParentIsDirectory output
  files : FilesFit crates config file header.tensors (modelIdOf input header)
    (crates.sha256Hex file.bytes) (Gguf.fileLen file)

/-- If every chunk of a packed archive is read back as it was, every tensor is. -/
private theorem loadsBack_of_readBack (lawful : crates.Lawful)
    (accepted : parseHeader file = .ok header) {disk : Disk}
    (packable : Packable crates config disk input output file header) {after : Disk}
    (archive : HasArchive crates config input output file header after)
    (exact : ∀ group ∈ groupTensors config header.tensors,
      readBack crates config file header.tensors group =
        rawOf file header.tensors group) :
    LoadsBack crates after output file header.tensors
      (packedResult crates config input output file header).tensorIndex := by
  have fits := fitsFile_of_accepted accepted
  intro loaderConfig noFallback
  refine ⟨_, openAt_packed_noFallback lawful archive.toDocumented noFallback,
    fun fallback n => ?_⟩
  obtain ⟨⟨group, number⟩, member, inGroup⟩ := exists_numberedGroup config n
  obtain ⟨before, later, rfl⟩ := List.append_of_mem inGroup
  have listed := mem_groupTensors_of_numbered member
  refine ⟨_, _, _, packedIndex_entry _ _ _ member, rfl, rfl, rfl, ?_⟩
  refine (load_packed_iff lawful packable.lowest packable.highest archive loaderConfig fallback
    member (packable.verified _ listed) fun data => slice data.bytes _ _ = _).mpr ?_
  rw [exact _ listed, rawOf_bytes fits listed, toNat_chunkOffset fits listed]
  exact slice_groupBytes fits before later n

/-- If every tensor of a packed archive comes back, every chunk is read back as it
was. -/
private theorem readBack_of_loadsBack (lawful : crates.Lawful)
    (accepted : parseHeader file = .ok header) {disk : Disk}
    (packable : Packable crates config disk input output file header) {after : Disk}
    (archive : HasArchive crates config input output file header after)
    (loads : LoadsBack crates after output file header.tensors
      (packedResult crates config input output file header).tensorIndex)
    (group : List (Fin header.tensors.length))
    (listed : group ∈ groupTensors config header.tensors) :
    readBack crates config file header.tensors group = rawOf file header.tensors group := by
  have fits := fitsFile_of_accepted accepted
  have rawBytes := rawOf_bytes fits listed
  obtain ⟨loader, opened, loadsEach⟩ := loads {} rfl
  rw [openAt_packed_noFallback lawful archive.toDocumented rfl] at opened
  cases opened
  have groups : (numberedGroups config header.tensors).map Prod.fst =
      groupTensors config header.tensors := List.zipIdx_map_fst 0 _
  rw [← groups] at listed
  obtain ⟨⟨group, number⟩, member, rfl⟩ := List.mem_map.mp listed
  apply ByteVec.ext
  rw [rawBytes]
  refine eq_groupBytes group ?_ ?_
  · rw [readBack_length, rawBytes, groupBytes_length fits]
  · rintro before n later rfl
    have inGroups := mem_groupTensors_of_numbered member
    obtain ⟨entry, chunkId, offset, found, chunkEq, offsetEq, -, loaded⟩ := loadsEach none n
    have placed := packedIndex_entry (modelIdOf input header) (crates.sha256Hex file.bytes)
      (Gguf.fileLen file) member
    obtain rfl := Option.some.inj (found.symm.trans placed)
    cases chunkEq
    cases offsetEq
    have slices := (load_packed_iff lawful packable.lowest packable.highest archive _ none member
      (packable.verified _ inGroups) fun data => slice data.bytes _ _ = _).mp loaded
    rwa [toNat_chunkOffset fits inGroups] at slices

/-- Packing with I/O that succeeds and loading every tensor back works exactly if
the sizes tell compressed chunks from uncompressed ones. -/
theorem packGguf_loadsBack_iff (crates : Crates) (lawful : crates.Lawful) (disk : Disk)
    (input output : Path) (config : PackerConfig) (file : ByteVec) (header : ParsedHeader)
    (isFile : Disk.read disk input = .ok file) (accepted : parseHeader file = .ok header)
    (nonempty : header.tensors ≠ []) (target : 0 < config.targetChunkBytes)
    (lowest : 1 ≤ config.zstdLevel) (highest : config.zstdLevel ≤ 22)
    (absent : disk.lookup output = none)
    (io : IoSucceeds crates disk input output config file header) :
    PacksAndLoadsBack crates disk input output config file header.tensors ↔
      SizesTell crates config file header.tensors := by
  have decided : Fallible.Decides FsOp.apply (packGguf crates input output config) disk _ _ :=
    packGguf_decides lawful isFile accepted
  constructor
  · rintro ⟨result, after, ran, loads⟩ group member
    obtain ⟨packable, rfl, archive⟩ := decided.of_ok ran
    rw [← readBack_eq_iff]
    exact readBack_of_loadsBack lawful accepted packable archive loads group member
  · intro told
    have exact : ∀ group ∈ groupTensors config header.tensors,
        readBack crates config file header.tensors group =
          rawOf file header.tensors group :=
      fun group member => (readBack_eq_iff group).mpr (told group member)
    have packable : Packable crates config disk input output file header :=
      { absent, lowest, highest, nonempty, parent := io.parent, files := io.files
        target := fun zero => by rw [zero] at target; exact absurd target (by decide)
        verified := fun group member => by unfold PassesVerify; rw [exact group member] }
    obtain ⟨result, after, ran, rfl, archive⟩ := decided.succeeds packable
    exact ⟨_, after, ran, loadsBack_of_readBack lawful accepted packable archive exact⟩

end RoundTrip

/-! ## Recorded runs -/

/-- A disk with one file, `m.gguf`. -/
def diskWith (file : ByteVec) : Disk :=
  DirTree.root.put ["m.gguf"] (.file file)
    (DirTree.ParentIsDirectory.accepts (by decide) fun found => by cases found)

/-- One attention tensor of four bytes: 75 bytes of header and 21 of padding. -/
def attentionFile : ByteVec where
  bytes := Gguf.magic ++ littleEndian 4 3 ++ littleEndian 8 1 ++ littleEndian 8 0 ++
    (littleEndian 8 19 ++ "blk.0.attn_q.weight".toByteArray.data.toList ++ littleEndian 4 1 ++
      littleEndian 8 1 ++ littleEndian 4 0 ++ littleEndian 8 0) ++
    List.replicate 21 0 ++ [0, 0, 128, 63]
  fits := by decide +kernel

def attentionHeader : ParsedHeader where
  metadata := { version := 3, tensorCount := 1, metadataKvCount := 0, kv := ∅ }
  tensors :=
    [{ name := "blk.0.attn_q.weight", dims := [1], dtype := 0, offset := 0, size := 4
       dataOffset := 96 }]
  dataSectionStart := 96

def attentionDigests : CrateRecord where
  digests :=
    [(attentionFile.bytes, "dfc7dce2a0be420d010aaff737934f600e36a8c7ac3a2c5d3ff4bc8aae4e9c3b"),
      ([0, 0, 128, 63], "e00e5eb9444182f352323374ef4e08ebcb784725fdd4fd612d7730540b3e0c8c")]

/-- The crates with the documents that packing `attentionFile` writes. -/
def attentionRecord : CrateRecord :=
  { attentionDigests with
    manifests := [(packedResult attentionDigests.crates {} ["m.gguf"] ["archive"] attentionFile
      attentionHeader).manifest]
    indexes := [(packedResult attentionDigests.crates {} ["m.gguf"] ["archive"] attentionFile
      attentionHeader).tensorIndex] }

theorem attentionRecord_lawful : attentionRecord.crates.Lawful :=
  CrateRecord.crates_lawful (by decide +kernel) (by decide +kernel) (by decide +kernel)

/-- The attention tensor is stored as it is and comes back. -/
theorem packGguf_loadsBack_attentionFile :
    PacksAndLoadsBack attentionRecord.crates (diskWith attentionFile) ["m.gguf"] ["archive"] {}
      attentionFile attentionHeader.tensors := by
  refine (packGguf_loadsBack_iff attentionRecord.crates attentionRecord_lawful
    (diskWith attentionFile) ["m.gguf"] ["archive"] {} attentionFile attentionHeader rfl rfl
    (by decide) (by decide) (by decide) (by decide) rfl ⟨by decide, ?_, ?_, ?_⟩).mpr ?_
  · decide +kernel
  · decide +kernel
  · decide +kernel
  · unfold SizesTell
    decide +kernel

/-- One tokenizer tensor of seventeen sevens: 67 bytes of header and 29 of padding. -/
def sevensFile : ByteVec where
  bytes := Gguf.magic ++ littleEndian 4 3 ++ littleEndian 8 1 ++ littleEndian 8 0 ++
    (littleEndian 8 11 ++ "tokenizer.x".toByteArray.data.toList ++ littleEndian 4 1 ++
      littleEndian 8 17 ++ littleEndian 4 24 ++ littleEndian 8 0) ++
    List.replicate 29 0 ++ List.replicate 17 7
  fits := by decide +kernel

def sevensHeader : ParsedHeader where
  metadata := { version := 3, tensorCount := 1, metadataKvCount := 0, kv := ∅ }
  tensors :=
    [{ name := "tokenizer.x", dims := [17], dtype := 24, offset := 0, size := 17
       dataOffset := 96 }]
  dataSectionStart := 96

/-- The frame that zstd level 3 makes of seventeen sevens is seventeen bytes long. -/
def sevensDigests : CrateRecord where
  frames :=
    [((3, ⟨List.replicate 17 7, by decide⟩),
      [40, 181, 47, 253, 0, 88, 69, 0, 0, 16, 7, 7, 1, 0, 29, 192, 2])]
  digests :=
    [(sevensFile.bytes, "b6cc782bd8adc3c2c1f2b853a9bcd12e1ec65de3243ddf31f957502fed8a60e8"),
      (List.replicate 17 7, "d9ec871b62bbf87964e30cf3c8231df7895d4eafffb4c76aab9654c6ad7d0d7f"),
      ([40, 181, 47, 253, 0, 88, 69, 0, 0, 16, 7, 7, 1, 0, 29, 192, 2],
        "f7f7e7a36b39817d9d7f9abae2ca7afe5cbdc5e4de1634bf8dac3803c9249957")]

/-- The crates with the documents that packing `sevensFile` writes. -/
def sevensRecord : CrateRecord :=
  { sevensDigests with
    manifests := [(packedResult sevensDigests.crates {} ["m.gguf"] ["archive"] sevensFile
      sevensHeader).manifest]
    indexes := [(packedResult sevensDigests.crates {} ["m.gguf"] ["archive"] sevensFile
      sevensHeader).tensorIndex] }

theorem sevensRecord_lawful : sevensRecord.crates.Lawful :=
  CrateRecord.crates_lawful (by decide +kernel) (by decide +kernel) (by decide +kernel)

/-- The frame is taken for raw bytes, fails verification, and nothing is packed. -/
theorem packGguf_not_loadsBack_sevensFile :
    IoSucceeds sevensRecord.crates (diskWith sevensFile) ["m.gguf"] ["archive"] {} sevensFile
        sevensHeader ∧
      ¬ PacksAndLoadsBack sevensRecord.crates (diskWith sevensFile) ["m.gguf"] ["archive"] {}
        sevensFile sevensHeader.tensors := by
  refine ⟨⟨by decide, ?_, ?_, ?_⟩, ?_⟩
  · decide +kernel
  · decide +kernel
  · decide +kernel
  · rintro ⟨result, after, ran, -⟩
    have isFile : Disk.read (diskWith sevensFile) ["m.gguf"] = .ok sevensFile := rfl
    have accepted : parseHeader sevensFile = .ok sevensHeader := rfl
    have packable := ((packGguf_decides sevensRecord_lawful isFile accepted).of_ok ran).1
    have verified := packable.verified [⟨0, by decide⟩] (by decide +kernel)
    exact absurd verified (by unfold PassesVerify; decide +kernel)

end TriAI.Chunk
