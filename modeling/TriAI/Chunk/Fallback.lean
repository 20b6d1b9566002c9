import TriAI.Chunk.ArchiveRoundTrip

/-!
Contract: loading a chunk whose file is damaged from the original GGUF file.

Owns: what `reconstructChunk` makes of a packed index, and the exact condition
under which it yields the packed bytes.

Does not own: loading from the primary file (`Chunk.ArchiveRoundTrip`).

The packer numbers tensors by position, the fallback looks them up by name. Where
two tensors of a file have one name, the fallback finds the first for both.
-/

set_option autoImplicit false

namespace TriAI.Chunk

open TriAI.Library.ByteDecoder (littleEndian)
open TriAI.Library.FileTree
open TriAI.Library.Interaction
open TriAI.Library.MachineInt
open TriAI.Library.Tiling
open TriAI.Chunk.Gguf (GgufTensorInfo ParsedHeader parseHeader)

/-! ## The packed index by name -/

/-- What the fallback uses of an index entry. -/
structure NamedSpan where
  name : String
  dataOffset : Option UInt64
  size : UInt64

def TensorEntry.namedSpan (entry : TensorEntry) : NamedSpan :=
  ⟨entry.name, entry.dataOffset, entry.size⟩

/-- Placing a tensor leaves the name, offset and size of every entry alone. -/
theorem TensorIndex.place_namedSpans (index : TensorIndex) (n : Nat) (chunkId : String)
    (offset : UInt64) :
    (index.place n chunkId offset).tensors.map TensorEntry.namedSpan =
      index.tensors.map TensorEntry.namedSpan := by
  refine List.ext_getElem? fun position => ?_
  rw [List.getElem?_map, List.getElem?_map]
  by_cases same : position = n
  · subst same
    rw [index.place_same]
    cases index.tensors[position]? <;> rfl
  · rw [index.place_other same]

section Index

variable {infos : List GgufTensorInfo} {config : PackerConfig}

theorem placeGroup_namedSpans (chunkId : String) (group : List (Fin infos.length))
    (offset : Nat) (index : TensorIndex) :
    (placeGroup infos chunkId group offset index).tensors.map TensorEntry.namedSpan =
      index.tensors.map TensorEntry.namedSpan := by
  induction group generalizing offset index with
  | nil => rfl
  | cons n rest inductionHypothesis =>
      unfold placeGroup
      rw [inductionHypothesis, index.place_namedSpans]

theorem placeGroup_sha256 (chunkId : String) (group : List (Fin infos.length))
    (offset : Nat) (index : TensorIndex) :
    (placeGroup infos chunkId group offset index).ggufSha256 = index.ggufSha256 := by
  induction group generalizing offset index with
  | nil => rfl
  | cons n rest inductionHypothesis =>
      unfold placeGroup
      rw [inductionHypothesis]
      rfl

/-- The index lists the names, offsets and sizes of the file in its order. -/
theorem packedIndex_namedSpans (id digest : String) (len : UInt64) :
    (packedIndex config infos id digest len).tensors.map TensorEntry.namedSpan =
      infos.map fun x => ⟨x.name, some x.dataOffset, x.size⟩ := by
  have folded : ∀ (items : List (List (Fin infos.length) × Nat)) (index : TensorIndex),
      (items.foldl (placeNumbered infos) index).tensors.map TensorEntry.namedSpan =
        index.tensors.map TensorEntry.namedSpan := by
    intro items
    induction items with
    | nil => exact fun _ => rfl
    | cons item rest inductionHypothesis =>
        intro index
        rw [List.foldl_cons, inductionHypothesis]
        exact placeGroup_namedSpans _ _ _ _
  unfold packedIndex unplacedIndex
  rw [folded, TensorIndex.tensors_foldl_add, TensorIndex.new, List.nil_append, List.map_map]
  rfl

/-- The index records the digest of the file. -/
theorem packedIndex_sha256 (id digest : String) (len : UInt64) :
    (packedIndex config infos id digest len).ggufSha256 = digest := by
  have placed : ∀ (items : List (List (Fin infos.length) × Nat)) (index : TensorIndex),
      (items.foldl (placeNumbered infos) index).ggufSha256 = index.ggufSha256 := by
    intro items
    induction items with
    | nil => exact fun _ => rfl
    | cons item rest inductionHypothesis =>
        intro index
        rw [List.foldl_cons, inductionHypothesis]
        exact placeGroup_sha256 _ _ _ _
  have added : ∀ (entries : List TensorEntry) (index : TensorIndex),
      (entries.foldl TensorIndex.add index).ggufSha256 = index.ggufSha256 := by
    intro entries
    induction entries with
    | nil => exact fun _ => rfl
    | cons entry rest inductionHypothesis =>
        intro index
        rw [List.foldl_cons, inductionHypothesis]
        rfl
  unfold packedIndex unplacedIndex
  rw [placed, added]
  rfl

/-- A lookup by name finds the first tensor of the file with that name. -/
theorem packedIndex_find (id digest : String) (len : UInt64) (name : String) :
    ((packedIndex config infos id digest len).tensors.find? (·.name = name)).map
        TensorEntry.namedSpan =
      (infos.find? (·.name = name)).map fun x => ⟨x.name, some x.dataOffset, x.size⟩ := by
  have entries : ((packedIndex config infos id digest len).tensors.map
        TensorEntry.namedSpan).find? (·.name = name) =
      ((packedIndex config infos id digest len).tensors.find? (·.name = name)).map
        TensorEntry.namedSpan := List.find?_map
  have tensors : (infos.map fun x => (⟨x.name, some x.dataOffset, x.size⟩ : NamedSpan)).find?
        (·.name = name) =
      (infos.find? (·.name = name)).map fun x => ⟨x.name, some x.dataOffset, x.size⟩ :=
    List.find?_map
  rw [packedIndex_namedSpans] at entries
  exact entries.symm.trans tensors

end Index

/-! ## Reconstruction -/

section Reconstruction

variable {crates : Crates} {config : PackerConfig} {file : ByteVec}
  {infos : List GgufTensorInfo} {original : Path}

/-- The bytes of the first tensor with a name. -/
def firstNamedBytes (file : ByteVec) (infos : List GgufTensorInfo) (name : String) :
    List UInt8 :=
  match infos.find? (·.name = name) with
  | some x => tensorBytes file x
  | none => []

/-- The names of the tensors of a group. -/
def groupNames (infos : List GgufTensorInfo) (group : List (Fin infos.length)) : List String :=
  group.map fun n => (infos.get n).name

/-- What the fallback concatenates for a group. -/
def reconstructedBytes (file : ByteVec) (infos : List GgufTensorInfo)
    (group : List (Fin infos.length)) : List UInt8 :=
  (groupNames infos group).flatMap (firstNamedBytes file infos)

/-- Reading the span of a tensor from the mapped file. -/
private theorem readSpan_tensor (fits : FitsFile file infos) {x : GgufTensorInfo}
    (member : x ∈ infos) :
    FallbackReader.readSpan ⟨file, original⟩ x.dataOffset x.size = .ok (tensorBytes file x) := by
  obtain ⟨position, inside, rfl⟩ := List.getElem_of_mem member
  have within : infos[position].dataOffset.toNat + infos[position].size.toNat ≤
      file.bytes.length := fits.inside ⟨position, inside⟩
  have small := file.fits
  have stop : checkedAdd infos[position].dataOffset infos[position].size =
      some (infos[position].dataOffset + infos[position].size) :=
    checkedAdd_eq_some.mpr (toNat_add_of_lt (by omega))
  unfold FallbackReader.readSpan
  rw [stop]
  simp only
  rw [if_neg (by rw [toNat_add_of_lt (by omega)]; omega)]
  rfl

/-- Step lemma: a round appends the first tensor of that name. -/
private theorem reconstructTensor_eq (fits : FitsFile file infos) (id digest : String)
    (len : UInt64) (out : ByteVec) (n : Fin infos.length) :
    reconstructTensor ⟨file, original⟩ (packedIndex config infos id digest len) out
        (infos.get n).name =
      extend out (firstNamedBytes file infos (infos.get n).name) := by
  have found : ((packedIndex config infos id digest len).tensors.find?
      (·.name = (infos.get n).name)).map TensorEntry.namedSpan = _ :=
    packedIndex_find id digest len (infos.get n).name
  unfold reconstructTensor firstNamedBytes
  cases search : infos.find? (·.name = (infos.get n).name) with
  | none =>
      have missed := List.find?_eq_none.mp search (infos.get n) (List.getElem_mem n.isLt)
      simp at missed
  | some x =>
      rw [search, Option.map_some] at found
      obtain ⟨entry, entryFound, spanEq⟩ := Option.map_eq_some_iff.mp found
      rw [entryFound]
      have offsetEq : entry.dataOffset = some x.dataOffset := congrArg NamedSpan.dataOffset spanEq
      have sizeEq : entry.size = x.size := congrArg NamedSpan.size spanEq
      simp only
      rw [offsetEq, sizeEq]
      simp only
      rw [readSpan_tensor fits (List.mem_of_find?_eq_some search)]
      rfl

/-- Two extensions are one. -/
theorem extend_extend (buffer : ByteVec) (first second : List UInt8) :
    (extend buffer first >>= fun middle => extend middle second) =
      extend buffer (first ++ second) := by
  unfold extend
  by_cases firstFits : (buffer.bytes ++ first).length < 2 ^ 63
  · rw [dif_pos firstFits]
    change (if _ : ((buffer.bytes ++ first) ++ second).length < 2 ^ 63 then _ else _) = _
    simp only [List.append_assoc]
  · have bothOver : ¬ (buffer.bytes ++ (first ++ second)).length < 2 ^ 63 := by
      rw [List.length_append] at firstFits
      rw [List.length_append, List.length_append]
      omega
    rw [dif_neg firstFits, dif_neg bothOver]
    rfl

/-- Run lemma: reconstruction concatenates what fits into a buffer. -/
theorem reconstructChunk_eq (fits : FitsFile file infos) (id digest : String) (len : UInt64)
    (group : List (Fin infos.length)) :
    reconstructChunk ⟨file, original⟩ (packedIndex config infos id digest len)
        (groupNames infos group) =
      extend emptyVec (reconstructedBytes file infos group) := by
  suffices loop : ∀ out : ByteVec,
      (groupNames infos group).foldlM
          (reconstructTensor ⟨file, original⟩ (packedIndex config infos id digest len)) out =
        extend out (reconstructedBytes file infos group) from loop emptyVec
  induction group with
  | nil =>
      intro out
      have unchanged : extend out [] = .ok ⟨out.bytes ++ [], by simpa using out.fits⟩ :=
        dif_pos (by simpa using out.fits)
      refine Eq.trans ?_ unchanged.symm
      exact congrArg Except.ok (ByteVec.ext (by simp))
  | cons n rest inductionHypothesis =>
      intro out
      have names : groupNames infos (n :: rest) = (infos.get n).name :: groupNames infos rest := rfl
      have bytes : reconstructedBytes file infos (n :: rest) =
          firstNamedBytes file infos (infos.get n).name ++ reconstructedBytes file infos rest := rfl
      rw [names, bytes, List.foldlM_cons, reconstructTensor_eq fits, ← extend_extend]
      exact congrArg _ (funext inductionHypothesis)

/-! ## Loading a damaged chunk -/

variable {input output : Path} {header : ParsedHeader}

/-- The fallback arm returns what was packed exactly if the first tensors of these
names are the tensors of the group. -/
theorem loadFallback_packed_iff (accepted : parseHeader file = .ok header)
    (loaderConfig : LoaderConfig) (primaryError : TriAIError)
    {item : List (Fin header.tensors.length) × Nat}
    (member : item ∈ numberedGroups config header.tensors) :
    (∃ data, (packedLoader crates config input output file header loaderConfig
        (some ⟨file, original⟩)).loadFallback crates
          (descriptorOf crates config file header.tensors item) primaryError = .ok data ∧
        data.bytes = groupBytes file header.tensors item.1) ↔
      reconstructedBytes file header.tensors item.1 =
        groupBytes file header.tensors item.1 := by
  have fits := fitsFile_of_accepted accepted
  have rawBytes := rawOf_bytes fits (mem_groupTensors_of_numbered member)
  have small := (rawOf file header.tensors item.1).fits
  rw [rawBytes] at small
  have rebuilt : reconstructChunk ⟨file, original⟩
      (packedResult crates config input output file header).tensorIndex
      (descriptorOf crates config file header.tensors item).tensorNames =
        extend emptyVec (reconstructedBytes file header.tensors item.1) :=
    reconstructChunk_eq fits _ _ _ item.1
  unfold ChunkLoader.loadFallback
  change (∃ data, (reconstructChunk ⟨file, original⟩
      (packedResult crates config input output file header).tensorIndex
      (descriptorOf crates config file header.tensors item).tensorNames >>= _) = .ok data ∧ _) ↔ _
  rw [rebuilt]
  unfold extend
  by_cases room : (emptyVec.bytes ++ reconstructedBytes file header.tensors item.1).length < 2 ^ 63
  · rw [dif_pos room]
    change (∃ data, ChunkLoader.acceptRebuilt crates
      (descriptorOf crates config file header.tensors item) ⟨_, room⟩ = .ok data ∧ _) ↔ _
    unfold ChunkLoader.acceptRebuilt
    constructor
    · rintro ⟨data, accepted, dataEq⟩
      split at accepted
      · cases accepted
      · cases accepted
        exact dataEq
    · intro same
      have matched : matchesChunk crates (descriptorOf crates config file header.tensors item)
          ⟨emptyVec.bytes ++ reconstructedBytes file header.tensors item.1, room⟩ := by
        have sameRaw : emptyVec.bytes ++ reconstructedBytes file header.tensors item.1 =
            (rawOf file header.tensors item.1).bytes := by
          rw [rawBytes, same]
          rfl
        exact (matchesChunk_descriptorOf (congrArg List.length sameRaw)).mpr
          (congrArg crates.sha256Hex sameRaw)
      rw [if_neg (not_not.mpr matched)]
      exact ⟨_, rfl, same⟩
  · rw [dif_neg room]
    constructor
    · rintro ⟨data, failed, -⟩
      cases failed
    · intro same
      rw [same] at room
      exact absurd small room

/-- Marking a result as verified keeps its data. -/
private theorem exists_map_eq_ok (result : Except TriAIError ByteVec)
    (Property : ByteVec → Prop) :
    (∃ loaded, (result.map fun data => (data, true)) = .ok loaded ∧ Property loaded.1) ↔
      ∃ data, result = .ok data ∧ Property data := by
  cases result with
  | error error => simp [Except.map]
  | ok data => simp [Except.map]

/-- A loader opened on a packed archive with the original file as fallback. -/
private theorem openAt_packed_fallback (lawful : crates.Lawful)
    (accepted : parseHeader file = .ok header) {damaged : Disk}
    (documents : HasDocuments crates config input output file header damaged)
    (intact : Disk.read damaged original = .ok file) {loaderConfig : LoaderConfig}
    (withFallback : loaderConfig.fallbackGgufPath = some original) :
    Fallible.outcome FsOp.apply (ChunkLoader.openAt crates output loaderConfig) damaged =
      (.ok (packedLoader crates config input output file header loaderConfig
        (some ⟨file, original⟩), Cache.new loaderConfig.cacheBudgetBytes), damaged) := by
  obtain ⟨longEnough, isMagic⟩ := Gguf.parseHeader_magic accepted
  have wasRead : Fallible.outcome FsOp.apply (Fs.read original) damaged =
      (.ok file, damaged) := by
    rw [Fs.outcome_read, intact]
    rfl
  have digested : Fallible.outcome FsOp.apply (sha256OfFile crates original) damaged =
      (.ok (crates.sha256Hex file.bytes), damaged) := Fallible.outcome_bind_ok wasRead
  have opened : Fallible.outcome FsOp.apply (FallbackReader.openAt crates original
      (packedResult crates config input output file header).tensorIndex.ggufSha256) damaged =
        (.ok ⟨file, original⟩, damaged) := by
    have same : crates.sha256Hex file.bytes =
        (packedResult crates config input output file header).tensorIndex.ggufSha256 :=
      (packedIndex_sha256 _ _ _).symm
    unfold FallbackReader.openAt
    rw [Fallible.outcome_bind_ok wasRead,
      if_neg (by rw [not_or, Nat.not_lt, not_not]; exact ⟨longEnough, isMagic⟩),
      Fallible.outcome_bind_ok digested, if_neg (not_not.mpr same)]
    rfl
  refine openAt_packed lawful documents loaderConfig ?_
  unfold ChunkLoader.openFallback
  rw [withFallback]
  exact Fallible.outcome_bind_ok opened

/-- Loading a chunk whose primary file cannot be read returns what the fallback makes. -/
private theorem load_damaged_iff (accepted : parseHeader file = .ok header)
    (loaderConfig : LoaderConfig) {damaged : Disk}
    {item : List (Fin header.tensors.length) × Nat}
    (member : item ∈ numberedGroups config header.tensors)
    (primaryFails : ∀ data, (packedLoader crates config input output file header loaderConfig
        (some ⟨file, original⟩)).primary crates damaged
          (descriptorOf crates config file header.tensors item) ≠ .ok data) :
    wlp (overDisk damaged)
        ((packedLoader crates config input output file header loaderConfig
          (some ⟨file, original⟩)).loadChunk crates (chunkName item.2)).run
        (fun reached _ => ∃ chunk, reached = .ok chunk ∧
          chunk.data.bytes = groupBytes file header.tensors item.1)
        (Cache.new loaderConfig.cacheBudgetBytes) ↔
      reconstructedBytes file header.tensors item.1 =
        groupBytes file header.tensors item.1 := by
  refine (ChunkLoader.wlp_loadChunk_data (by rfl) (find_descriptorOf _ _ member)
    fun data => data.bytes = groupBytes file header.tensors item.1).trans ?_
  unfold ChunkLoader.uncached
  cases primary : (packedLoader crates config input output file header loaderConfig
      (some ⟨file, original⟩)).primary crates damaged
        (descriptorOf crates config file header.tensors item) with
  | ok data => exact absurd primary (primaryFails data)
  | error primaryError =>
      exact (exists_map_eq_ok _ _).trans
        (loadFallback_packed_iff accepted loaderConfig primaryError member)

/-- The chunks of a packed manifest by number. -/
private theorem packedManifest_getElem {id digest : String} {number : Nat}
    {desc : ChunkDescriptor}
    (listed : (packedManifest crates config file infos id digest).chunks[number]? = some desc) :
    ∃ group, (groupTensors config infos)[number]? = some group ∧
      (group, number) ∈ numberedGroups config infos ∧
      desc = descriptorOf crates config file infos (group, number) := by
  rw [packedManifest_chunks, List.getElem?_map, numberedGroups, List.getElem?_zipIdx] at listed
  cases found : (groupTensors config infos)[number]? with
  | none =>
      rw [found] at listed
      cases listed
  | some group =>
      rw [found] at listed
      simp only [Option.map_some, Nat.zero_add, Option.some.injEq] at listed
      exact ⟨group, rfl, List.mk_mem_zipIdx_iff_getElem?.mpr found, listed.symm⟩

/-- No loader that opens on the disk can read the chunk from its own file. -/
def PrimaryFails (crates : Crates) (disk : Disk) (output : Path) (loaderConfig : LoaderConfig)
    (desc : ChunkDescriptor) : Prop :=
  ∀ loader cache, (Fallible.outcome FsOp.apply
      (ChunkLoader.openAt crates output loaderConfig) disk).1 = .ok (loader, cache) →
    ∀ data, loader.primary crates disk desc ≠ .ok data

/-- A loader opens on the disk and loads the chunk with these bytes. -/
def LoadsBytes (crates : Crates) (disk : Disk) (output : Path) (loaderConfig : LoaderConfig)
    (desc : ChunkDescriptor) (raw : List UInt8) : Prop :=
  ∃ loader cache, Fallible.outcome FsOp.apply
      (ChunkLoader.openAt crates output loaderConfig) disk = (.ok (loader, cache), disk) ∧
    wlp (overDisk disk) (loader.loadChunk crates desc.chunkId).run
      (fun reached _ => ∃ chunk, reached = .ok chunk ∧ chunk.data.bytes = raw) cache

/-- On a disk with the documents of an archive and the original file, a chunk whose
own file cannot be read is loaded exactly if the first tensors named like its
tensors have its bytes. -/
private theorem loadsBytes_documented_iff (lawful : crates.Lawful)
    (accepted : parseHeader file = .ok header) {damaged : Disk}
    (documents : HasDocuments crates config input output file header damaged)
    (intact : Disk.read damaged original = .ok file) {loaderConfig : LoaderConfig}
    (withFallback : loaderConfig.fallbackGgufPath = some original)
    {item : List (Fin header.tensors.length) × Nat}
    (member : item ∈ numberedGroups config header.tensors)
    (primaryFails : PrimaryFails crates damaged output loaderConfig
      (descriptorOf crates config file header.tensors item)) :
    LoadsBytes crates damaged output loaderConfig
        (descriptorOf crates config file header.tensors item)
        (groupBytes file header.tensors item.1) ↔
      reconstructedBytes file header.tensors item.1 =
        groupBytes file header.tensors item.1 := by
  have opened := openAt_packed_fallback lawful accepted documents intact withFallback
  have loads := load_damaged_iff accepted loaderConfig member
    (primaryFails _ _ (congrArg Prod.fst opened))
  constructor
  · rintro ⟨loader, cache, openedAs, loaded⟩
    cases opened.symm.trans openedAs
    exact loads.mp loaded
  · exact fun same => ⟨_, _, opened, loads.mpr same⟩

/-- An archive keeps its documents while their two files are kept. -/
private theorem hasDocuments_of_kept {disk packed damaged : Disk}
    {result : PackResult} (lawful : crates.Lawful) (isFile : Disk.read disk input = .ok file)
    (accepted : parseHeader file = .ok header)
    (ran : Fallible.outcome FsOp.apply (packGguf crates input output config) disk =
      (.ok result, packed))
    (manifestKept : damaged.lookup (output ++ ["manifest.json"]) =
      packed.lookup (output ++ ["manifest.json"]))
    (indexKept : damaged.lookup (output ++ ["tensor_index.json"]) =
      packed.lookup (output ++ ["tensor_index.json"])) :
    HasDocuments crates config input output file header damaged := by
  obtain ⟨-, -, archive⟩ := (packGguf_decides lawful isFile accepted).of_ok ran
  constructor
  · rw [manifestKept]
    exact archive.manifest
  · rw [indexKept]
    exact archive.index

/-- After packing, whatever happens to the file of a chunk: if reading it fails, a
loader with the original file as fallback returns the packed bytes exactly if the
first tensors named like the tensors of the chunk have these bytes. -/
theorem loadChunk_fallback_iff (crates : Crates) (lawful : crates.Lawful)
    (disk packed damaged : Disk) (input output original : Path) (config : PackerConfig)
    (file : ByteVec) (header : ParsedHeader) (result : PackResult)
    (isFile : Disk.read disk input = .ok file) (accepted : parseHeader file = .ok header)
    (ran : Fallible.outcome FsOp.apply (packGguf crates input output config) disk =
      (.ok result, packed))
    (number : Nat) (desc : ChunkDescriptor)
    (listed : result.manifest.chunks[number]? = some desc)
    (manifestKept : damaged.lookup (output ++ ["manifest.json"]) =
      packed.lookup (output ++ ["manifest.json"]))
    (indexKept : damaged.lookup (output ++ ["tensor_index.json"]) =
      packed.lookup (output ++ ["tensor_index.json"]))
    (intact : Disk.read damaged original = .ok file)
    (loaderConfig : LoaderConfig)
    (withFallback : loaderConfig.fallbackGgufPath = some original)
    (primaryFails : PrimaryFails crates damaged output loaderConfig desc) :
    ∃ group, (groupTensors config header.tensors)[number]? = some group ∧
      (LoadsBytes crates damaged output loaderConfig desc
          (groupBytes file header.tensors group) ↔
        reconstructedBytes file header.tensors group =
          groupBytes file header.tensors group) := by
  have documents := hasDocuments_of_kept lawful isFile accepted ran manifestKept indexKept
  obtain ⟨-, rfl, -⟩ := (packGguf_decides lawful isFile accepted).of_ok ran
  obtain ⟨group, found, member, rfl⟩ := packedManifest_getElem listed
  exact ⟨group, found, loadsBytes_documented_iff lawful accepted documents intact withFallback
    member primaryFails⟩

/-- When no two tensors share a name, the fallback reconstructs every chunk. -/
theorem reconstructedBytes_of_distinct {infos : List GgufTensorInfo}
    (distinct : (infos.map (·.name)).Nodup) (group : List (Fin infos.length)) :
    reconstructedBytes file infos group = groupBytes file infos group := by
  unfold reconstructedBytes groupNames groupBytes
  rw [List.flatMap_map]
  refine List.flatMap_congr fun n _ => ?_
  unfold firstNamedBytes
  cases search : infos.find? (·.name = (infos.get n).name) with
  | none =>
      have missed := List.find?_eq_none.mp search (infos.get n) (List.getElem_mem n.isLt)
      simp at missed
  | some x =>
      have sameName : x.name = (infos.get n).name := by simpa using List.find?_some search
      rw [List.inj_on_of_nodup_map distinct (List.mem_of_find?_eq_some search)
        (List.getElem_mem n.isLt) sameName]
      rfl

/-- A loader works on the directory it was opened on. -/
private theorem openAt_archive {loaderConfig : LoaderConfig} {disk : Disk} {loader : ChunkLoader}
    {cache : Cache} (opened : (Fallible.outcome FsOp.apply
      (ChunkLoader.openAt crates output loaderConfig) disk).1 = .ok (loader, cache)) :
    loader.archive = output := by
  unfold ChunkLoader.openAt at opened
  obtain ⟨manifestBytes, _, -, opened⟩ := Fallible.outcome_bind_eq_ok opened
  obtain ⟨manifest, _, -, opened⟩ := Fallible.outcome_bind_eq_ok opened
  obtain ⟨indexBytes, _, -, opened⟩ := Fallible.outcome_bind_eq_ok opened
  obtain ⟨index, _, -, opened⟩ := Fallible.outcome_bind_eq_ok opened
  obtain ⟨fallback, _, -, opened⟩ := Fallible.outcome_bind_eq_ok opened
  cases opened
  rfl

/-- A chunk file that cannot be read fails the primary read. -/
theorem primaryFails_of_unreadable {disk : Disk} {desc : ChunkDescriptor} {error : IoError}
    (unreadable : Disk.read disk (chunkPath output desc.chunkId) = .error error)
    (loaderConfig : LoaderConfig) : PrimaryFails crates disk output loaderConfig desc := by
  intro loader cache opened data loaded
  unfold ChunkLoader.primary at loaded
  rw [openAt_archive opened, unreadable] at loaded
  cases loaded

end Reconstruction

/-! ## Recorded runs -/

/-- Packing `m.gguf` into `archive`. -/
def packInto (crates : Crates) (config : PackerConfig) (file : ByteVec) :
    Except TriAIError PackResult × Disk :=
  Fallible.outcome FsOp.apply (packGguf crates ["m.gguf"] ["archive"] config) (diskWith file)

/-- What that leaves, without one chunk file. -/
def archiveWithout (crates : Crates) (config : PackerConfig) (file : ByteVec)
    (chunkId : String) : Disk :=
  (packInto crates config file).2.removeSubtree (chunkPath ["archive"] chunkId)

/-- Removing a chunk file keeps every path that is not below it. -/
private theorem archiveWithout_kept {crates : Crates} {config : PackerConfig} {file : ByteVec}
    {chunkId : String} {path : Path} (outside : ¬ chunkPath ["archive"] chunkId <+: path) :
    (archiveWithout crates config file chunkId).lookup path =
      (packInto crates config file).2.lookup path :=
  DirTree.lookup_removeSubtree_other _ outside

private theorem exists_packed {crates : Crates} {config : PackerConfig} {file : ByteVec}
    (packs : (packInto crates config file).1.isOk = true) :
    ∃ result, packInto crates config file = (.ok result, (packInto crates config file).2) := by
  rcases packed : packInto crates config file with ⟨_ | result, after⟩
  · rw [packed] at packs
    cases packs
  · exact ⟨result, rfl⟩

def attentionChunk : ChunkDescriptor :=
  descriptorOf attentionRecord.crates {} attentionFile attentionHeader.tensors
    ([⟨0, by decide⟩], 0)

def archiveWithoutAttention : Disk :=
  archiveWithout attentionRecord.crates {} attentionFile "chunk_0000"

/-- The chunk of the attention tensor is loaded although its file is gone. -/
theorem loadChunk_fallback_attentionFile :
    LoadsBytes attentionRecord.crates archiveWithoutAttention ["archive"]
      { fallbackGgufPath := some ["m.gguf"] } attentionChunk [0, 0, 128, 63] := by
  obtain ⟨result, ran⟩ : ∃ result, packInto attentionRecord.crates {} attentionFile =
      (.ok result, (packInto attentionRecord.crates {} attentionFile).2) :=
    exists_packed (by decide +kernel)
  have isFile : Disk.read (diskWith attentionFile) ["m.gguf"] = .ok attentionFile := rfl
  have accepted : parseHeader attentionFile = .ok attentionHeader := rfl
  obtain ⟨-, rfl, -⟩ := (packGguf_decides attentionRecord_lawful isFile accepted).of_ok ran
  have removed : Disk.read archiveWithoutAttention
      (chunkPath ["archive"] attentionChunk.chunkId) = .error .notFound :=
    Disk.read_removed _ _
  obtain ⟨group, found, exact⟩ := loadChunk_fallback_iff attentionRecord.crates
    attentionRecord_lawful (diskWith attentionFile) _ archiveWithoutAttention ["m.gguf"]
    ["archive"] ["m.gguf"] {} attentionFile attentionHeader _ isFile accepted ran 0
    attentionChunk rfl (archiveWithout_kept (by decide)) (archiveWithout_kept (by decide))
    (Disk.read_eq_ok.mpr (by decide +kernel)) { fallbackGgufPath := some ["m.gguf"] } rfl
    (primaryFails_of_unreadable removed _)
  have isGroup : (groupTensors {} attentionHeader.tensors)[0]? = some [⟨0, by decide⟩] := by
    decide +kernel
  obtain rfl := Option.some.inj (found.symm.trans isGroup)
  exact exact.mpr (by decide +kernel)

/-- Two tensors of 32 ones and 4 twos with one name: 126 bytes of header and 2 of
padding. -/
def twinsFile : ByteVec where
  bytes := Gguf.magic ++ littleEndian 4 3 ++ littleEndian 8 2 ++ littleEndian 8 0 ++
    (littleEndian 8 19 ++ "blk.0.attn_q.weight".toByteArray.data.toList ++ littleEndian 4 1 ++
      littleEndian 8 8 ++ littleEndian 4 0 ++ littleEndian 8 0) ++
    (littleEndian 8 19 ++ "blk.0.attn_q.weight".toByteArray.data.toList ++ littleEndian 4 1 ++
      littleEndian 8 1 ++ littleEndian 4 0 ++ littleEndian 8 32) ++
    List.replicate 2 0 ++ List.replicate 32 1 ++ List.replicate 4 2
  fits := by decide +kernel

def twinsHeader : ParsedHeader where
  metadata := { version := 3, tensorCount := 2, metadataKvCount := 0, kv := ∅ }
  tensors :=
    [{ name := "blk.0.attn_q.weight", dims := [8], dtype := 0, offset := 0, size := 32
       dataOffset := 128 },
      { name := "blk.0.attn_q.weight", dims := [1], dtype := 0, offset := 32, size := 4
        dataOffset := 160 }]
  dataSectionStart := 128

set_option maxRecDepth 1000 in
theorem twinsFile_accepted : parseHeader twinsFile = .ok twinsHeader := rfl

/-- One chunk for each tensor. -/
def chunkEach : PackerConfig := { targetChunkBytes := 1 }

def twinsDigests : CrateRecord where
  digests :=
    [(twinsFile.bytes, "11c9fcac497983344f236e5f6bd74b17e2d702e8d4ab724e4dff1669e66de614"),
      (List.replicate 32 1, "72cd6e8422c407fb6d098690f1130b7ded7ec2f7f5e1d30bd9d521f015363793"),
      (List.replicate 4 2, "bb72b4e4eb29dc59328668f32e0511e3ac0e5ce4026b1591965216e49ca1f5d7")]

/-- The crates with the documents that packing `twinsFile` writes. -/
def twinsRecord : CrateRecord :=
  { twinsDigests with
    manifests := [(packedResult twinsDigests.crates chunkEach ["m.gguf"] ["archive"] twinsFile
      twinsHeader).manifest]
    indexes := [(packedResult twinsDigests.crates chunkEach ["m.gguf"] ["archive"] twinsFile
      twinsHeader).tensorIndex] }

theorem twinsRecord_lawful : twinsRecord.crates.Lawful :=
  CrateRecord.crates_lawful (by decide +kernel) (by decide +kernel) (by decide +kernel)

def secondTwinChunk : ChunkDescriptor :=
  descriptorOf twinsRecord.crates chunkEach twinsFile twinsHeader.tensors ([⟨1, by decide⟩], 1)

def archiveWithoutSecondTwin : Disk :=
  archiveWithout twinsRecord.crates chunkEach twinsFile "chunk_0001"

/-- The file is packed and the original is intact, but without its chunk file the
second twin cannot be loaded: the fallback takes the bytes of the first. -/
theorem loadChunk_not_fallback_twinsFile :
    (packInto twinsRecord.crates chunkEach twinsFile).1.isOk = true ∧
      Disk.read archiveWithoutSecondTwin ["m.gguf"] = .ok twinsFile ∧
      PrimaryFails twinsRecord.crates archiveWithoutSecondTwin ["archive"]
        { fallbackGgufPath := some ["m.gguf"] } secondTwinChunk ∧
      ¬ LoadsBytes twinsRecord.crates archiveWithoutSecondTwin ["archive"]
        { fallbackGgufPath := some ["m.gguf"] } secondTwinChunk (List.replicate 4 2) := by
  have packs : (packInto twinsRecord.crates chunkEach twinsFile).1.isOk = true := by
    decide +kernel
  have intact : Disk.read archiveWithoutSecondTwin ["m.gguf"] = .ok twinsFile :=
    Disk.read_eq_ok.mpr (by decide +kernel)
  have removed : Disk.read archiveWithoutSecondTwin
      (chunkPath ["archive"] secondTwinChunk.chunkId) = .error .notFound :=
    Disk.read_removed _ _
  have primaryFails : PrimaryFails twinsRecord.crates archiveWithoutSecondTwin ["archive"]
      { fallbackGgufPath := some ["m.gguf"] } secondTwinChunk :=
    primaryFails_of_unreadable removed _
  refine ⟨packs, intact, primaryFails, fun loads => ?_⟩
  obtain ⟨result, ran⟩ := exists_packed packs
  have isFile : Disk.read (diskWith twinsFile) ["m.gguf"] = .ok twinsFile := rfl
  have accepted := twinsFile_accepted
  have documents : HasDocuments twinsRecord.crates chunkEach ["m.gguf"] ["archive"] twinsFile
      twinsHeader archiveWithoutSecondTwin :=
    hasDocuments_of_kept twinsRecord_lawful isFile accepted ran
      (archiveWithout_kept (by decide)) (archiveWithout_kept (by decide))
  have member : ([⟨1, by decide⟩], 1) ∈ numberedGroups chunkEach twinsHeader.tensors := by
    decide +kernel
  have raw : List.replicate 4 2 =
      groupBytes twinsFile twinsHeader.tensors [⟨1, by decide⟩] := by decide +kernel
  rw [raw] at loads
  have same := (loadsBytes_documented_iff twinsRecord_lawful accepted documents intact rfl
    member primaryFails).mp loads
  exact absurd same (by decide +kernel)

end TriAI.Chunk
