import TriAI.Chunk.ArchiveRoundTrip
import TriAI.Library.Subprogram

/-!
Contract: the groups of a packed archive.

Owns: that no group is empty, that a group of several tensors is no larger than the target, that
a separated expert is alone, and where the index of every archive that is written records a
tensor.

Does not own: the bytes of the chunks (`Chunk.PackGroups`).
-/

set_option autoImplicit false

namespace TriAI.Chunk

open TriAI.Library.FileTree
open TriAI.Library.Interaction
open TriAI.Library.MachineInt
open TriAI.Chunk.Gguf (GgufTensorInfo ParsedHeader parseHeader)

/-! ## The grouping loop -/

section Grouping

variable (config : PackerConfig) (infos : List GgufTensorInfo)

/-- A tensor that has to be alone in its chunk. -/
def IsSeparated (n : Fin infos.length) : Prop :=
  classifyTensor (infos.get n).name = .moeExpert ∧ .moeExpert ∈ config.separateCategories

/-- One tensor, or several that the running total found to fit. -/
structure GroupFits (group : List (Fin infos.length)) : Prop where
  limited : group.length ≤ 1 ∨
    min (groupSize infos group) (2 ^ 64 - 1) ≤ config.targetChunkBytes.toNat
  alone : ∀ n ∈ group, IsSeparated config infos n → group = [n]

/-- The invariant of the loop. -/
structure GroupingSound (state : Grouping infos.length) : Prop where
  used : state.used.toNat = min (groupSize infos state.group) (2 ^ 64 - 1)
  pending : GroupFits config infos state.group
  ordinary : ∀ n ∈ state.group, ¬ IsSeparated config infos n
  nonempty : ∀ group ∈ state.groups, group ≠ []
  closed : ∀ group ∈ state.groups, GroupFits config infos group

variable {config infos}

theorem GroupFits.singleton (n : Fin infos.length) : GroupFits config infos [n] where
  limited := .inl (Nat.le_refl 1)
  alone := by
    intro m member _
    rw [List.mem_singleton.mp member]

/-- Closing the pending group. -/
theorem GroupingSound.close {state : Grouping infos.length}
    (sound : GroupingSound config infos state) (pending : state.group ≠ []) :
    GroupingSound config infos state.close where
  used := by simp [Grouping.close, groupSize]
  pending := ⟨.inl (Nat.zero_le 1), by simp [Grouping.close]⟩
  ordinary := by simp [Grouping.close]
  nonempty := by
    intro group member
    rcases List.mem_append.mp member with before | isLast
    · exact sound.nonempty group before
    · rw [List.mem_singleton.mp isLast]
      exact pending
  closed := by
    intro group member
    rcases List.mem_append.mp member with before | isLast
    · exact sound.closed group before
    · rw [List.mem_singleton.mp isLast]
      exact sound.pending

/-- A group of its own for a separated tensor. -/
theorem GroupingSound.separate {state : Grouping infos.length}
    (sound : GroupingSound config infos state) (n : Fin infos.length) :
    GroupingSound config infos { state with groups := state.groups ++ [[n]] } where
  used := sound.used
  pending := sound.pending
  ordinary := sound.ordinary
  nonempty := by
    intro group member
    rcases List.mem_append.mp member with before | isLast
    · exact sound.nonempty group before
    · rw [List.mem_singleton.mp isLast]
      exact List.cons_ne_nil n []
  closed := by
    intro group member
    rcases List.mem_append.mp member with before | isLast
    · exact sound.closed group before
    · rw [List.mem_singleton.mp isLast]
      exact .singleton n

theorem groupSize_concat (group : List (Fin infos.length)) (n : Fin infos.length) :
    groupSize infos (group ++ [n]) = groupSize infos group + (infos.get n).size.toNat := by
  simp [groupSize]

/-- An ordinary tensor joins the pending group, which is empty or has room for it. -/
theorem GroupingSound.join {state : Grouping infos.length}
    (sound : GroupingSound config infos state) {n : Fin infos.length}
    (ordinary : ¬ IsSeparated config infos n)
    (room : state.group = [] ∨
      ¬ config.targetChunkBytes < saturatingAdd state.used (infos.get n).size) :
    GroupingSound config infos
      { state with
        group := state.group ++ [n]
        used := saturatingAdd state.used (infos.get n).size } := by
  have none : ∀ m ∈ state.group ++ [n], ¬ IsSeparated config infos m := by
    intro m member
    rcases List.mem_append.mp member with before | isLast
    · exact sound.ordinary m before
    · rw [List.mem_singleton.mp isLast]
      exact ordinary
  have used : (saturatingAdd state.used (infos.get n).size).toNat =
      min (groupSize infos (state.group ++ [n])) (2 ^ 64 - 1) := by
    rw [toNat_saturatingAdd, sound.used, groupSize_concat]
    omega
  refine ⟨used, ⟨?_, fun m member separated => absurd separated (none m member)⟩, none,
    sound.nonempty, sound.closed⟩
  rcases room with empty | fits
  · rw [empty]
    exact .inl (Nat.le_refl 1)
  · have within := UInt64.le_iff_toNat_le.mp (UInt64.not_lt.mp fits)
    rw [used] at within
    exact .inr within

/-- Step lemma. -/
theorem GroupingSound.groupTensor {state : Grouping infos.length}
    (sound : GroupingSound config infos state) (n : Fin infos.length) :
    GroupingSound config infos (groupTensor config infos state n) := by
  unfold Chunk.groupTensor
  dsimp only
  split
  · split
    · rename_i pending
      exact (sound.close pending).separate n
    · exact sound.separate n
  · rename_i plain
    have ordinary : ¬ IsSeparated config infos n := by
      rintro ⟨expert, listed⟩
      exact plain ⟨expert, by rw [expert]; exact listed⟩
    split
    · rename_i full
      exact (sound.close full.1).join ordinary (.inl rfl)
    · rename_i room
      apply sound.join ordinary
      by_cases empty : state.group = []
      · exact .inl empty
      · exact .inr fun above => room ⟨empty, above⟩

variable (config infos)

/-- Run lemma. -/
theorem groupTensors_sound :
    (∀ group ∈ groupTensors config infos, group ≠ []) ∧
      ∀ group ∈ groupTensors config infos, GroupFits config infos group := by
  have folded : ∀ (numbers : List (Fin infos.length)) (state : Grouping infos.length),
      GroupingSound config infos state →
      GroupingSound config infos (numbers.foldl (groupTensor config infos) state) := by
    intro numbers
    induction numbers with
    | nil => exact fun _ sound => sound
    | cons n rest inductionHypothesis =>
        exact fun state sound => inductionHypothesis _ (sound.groupTensor n)
  have start : GroupingSound config infos ⟨[], 0, []⟩ :=
    ⟨by simp [groupSize], ⟨.inl (Nat.zero_le 1), by simp⟩, by simp, by simp, by simp⟩
  have sound := folded (List.finRange infos.length) _ start
  unfold groupTensors
  dsimp only
  split
  · rename_i pending
    have whole := sound.close pending
    exact ⟨whole.nonempty, whole.closed⟩
  · exact ⟨sound.nonempty, sound.closed⟩

/-- What the groups of a list of tensors are. -/
structure GroupsTensors (groups : List (List (Fin infos.length))) : Prop where
  inOrder : groups.flatten = List.finRange infos.length
  nonempty : ∀ group ∈ groups, group ≠ []
  limited : ∀ group ∈ groups,
    group.length = 1 ∨ groupSize infos group ≤ config.targetChunkBytes.toNat
  expertsAlone : .moeExpert ∈ config.separateCategories →
    ∀ group ∈ groups, ∀ n ∈ group, classifyTensor (infos.get n).name = .moeExpert → group = [n]

variable {config infos}

/-- The running total is exact below the largest word. -/
theorem groupTensors_groupsTensors
    (total : config.targetChunkBytes ≠ maxWord ∨
      groupSize infos (List.finRange infos.length) < 2 ^ 64) :
    GroupsTensors config infos (groupTensors config infos) := by
  obtain ⟨nonempty, fits⟩ := groupTensors_sound config infos
  refine ⟨groupTensors_flatten config infos, nonempty, ?_, ?_⟩
  · intro group member
    have part : groupSize infos group ≤ groupSize infos (List.finRange infos.length) := by
      rw [← groupTensors_flatten config infos]
      unfold groupSize
      exact List.Sublist.sum_le_sum
        ((List.sublist_flatten_of_mem member).map fun n => (infos.get n).size.toNat)
        fun _ _ => Nat.zero_le _
    have some := List.length_pos_iff.mpr (nonempty group member)
    have target := config.targetChunkBytes.toNat_lt
    rcases (fits group member).limited with single | within
    · exact .inl (by omega)
    · refine .inr ?_
      rcases total with below | together
      · have notMax : config.targetChunkBytes.toNat ≠ 2 ^ 64 - 1 := fun same =>
          below (UInt64.toNat_inj.mp same)
        omega
      · omega
  · intro listed group member n inGroup expert
    exact (fits group member).alone n inGroup ⟨expert, listed⟩

end Grouping

/-! ## The index of an archive -/

/-- `read_exact` fills its buffer, or fails. -/
def ReadsExactly : (op : FsOp) → op.Reply → Prop
  | .readAt _ _ size, .ok bytes => bytes.length = size.toNat
  | _, _ => True

/-- Each tensor is recorded behind the sizes of those before it in its group. -/
def RecordsOffsets (config : PackerConfig) (infos : List GgufTensorInfo) (index : TensorIndex) :
    Prop :=
  ∀ before n after number,
    (before ++ n :: after, number) ∈ (groupTensors config infos).zipIdx →
      ∃ offset, index.tensors[(n : Fin infos.length).val]? =
          some ((unplacedEntry (infos.get n)).placedAt (chunkName number) offset) ∧
        offset.toNat = groupSize infos before

section Index

variable {crates : Crates} {config : PackerConfig} {infos : List GgufTensorInfo}
  {input output : Path} {α β : Type}

/-- What holds of a success, whatever the file calls answer. -/
def Yields (program : Fs α) (post : α → Prop) : Prop :=
  wlp (anyReply ReadsExactly) program.run (Keeping (fun _ => True) fun value _ => post value) ()

theorem Yields.bind {program : Fs α} {rest : α → Fs β} {middle : α → Prop} {post : β → Prop}
    (first : Yields program middle) (second : ∀ value, middle value → Yields (rest value) post) :
    Yields (program >>= rest) post :=
  wlp_keeping_bind first fun value _ _ known => second value known

theorem Yields.result {value : α} {post : α → Prop} (holds : post value) :
    Yields (pure value) post := by
  refine ⟨trivial, ?_⟩
  intro other same
  cases same
  exact holds

theorem Yields.fails {failure : TriAIError} {post : α → Prop} :
    Yields (throw failure : Fs α) post := by
  refine ⟨trivial, ?_⟩
  intro other same
  cases same

theorem Yields.ofExcept {result : Except TriAIError α} :
    Yields (Fs.ofExcept result) (fun value => result = .ok value) :=
  ⟨trivial, fun _ same => same⟩

theorem Yields.anything (program : Fs α) : Yields program fun _ => True := by
  have always : ∀ (body : Prog FsOp FsOp.Reply (Except TriAIError α)),
      wlp (anyReply ReadsExactly) body (Keeping (fun _ => True) fun _ _ => True) () := by
    intro body
    induction body with
    | ret value => exact ⟨trivial, fun _ _ => trivial⟩
    | call op next inductionHypothesis =>
        exact ⟨trivial, fun reply _ _ => inductionHypothesis reply⟩
  exact always program.run

theorem Yields.readAt (path : Path) (offset size : UInt64) :
    Yields (Fs.readAt path offset size) fun bytes => bytes.length = size.toNat := by
  refine ⟨trivial, ?_⟩
  intro reply _ exactly
  cases reply with
  | error failure =>
      refine ⟨trivial, ?_⟩
      intro bytes same
      cases same
  | ok bytes =>
      refine ⟨trivial, ?_⟩
      intro other same
      cases same
      exact exactly

theorem extend_length {buffer raw : ByteVec} {bytes : List UInt8}
    (extended : extend buffer bytes = .ok raw) :
    raw.bytes.length = buffer.bytes.length + bytes.length := by
  unfold extend at extended
  split at extended
  · cases extended
    exact List.length_append
  · cases extended

/-- The loop over the tensors of a chunk places them one behind the other. -/
theorem packTensors_yields (chunkId : String) (group : List (Fin infos.length))
    (draft : ChunkDraft) :
    Yields (group.foldlM (packTensor input infos chunkId) draft) fun final =>
      final.index = placeGroup infos chunkId group draft.raw.bytes.length draft.index := by
  induction group generalizing draft with
  | nil => exact .result rfl
  | cons n rest inductionHypothesis =>
      have round : Yields (packTensor input infos chunkId draft n) fun next =>
          next.raw.bytes.length = draft.raw.bytes.length + (infos.get n).size.toNat ∧
          next.index = draft.index.place n chunkId (UInt64.ofNat draft.raw.bytes.length) := by
        unfold packTensor
        refine (Yields.readAt _ _ _).bind fun bytes exactly => ?_
        refine Yields.ofExcept.bind fun raw extended => .result ⟨?_, rfl⟩
        rw [extend_length extended, exactly]
      rw [List.foldlM_cons]
      apply round.bind
      rintro next ⟨longer, placed⟩
      have later := inductionHypothesis next
      rwa [longer, placed] at later

/-- The loop over the chunks places the groups. -/
theorem packChunks_yields (items : List (List (Fin infos.length) × Nat))
    (state : TensorIndex × ChunkManifest) :
    Yields (items.foldlM (packChunk crates input output config infos) state) fun final =>
      final.1 = items.foldl (placeNumbered infos) state.1 := by
  induction items generalizing state with
  | nil => exact .result rfl
  | cons item rest inductionHypothesis =>
      have round : Yields (packChunk crates input output config infos state item) fun next =>
          next.1 = placeNumbered infos state.1 item := by
        unfold packChunk
        refine (packTensors_yields (chunkName item.2) item.1 _).bind fun draft placed => ?_
        refine (Yields.anything _).bind fun _ _ => (Yields.anything _).bind fun _ _ => ?_
        exact .result placed
      rw [List.foldlM_cons]
      apply round.bind
      intro next placed
      have later := inductionHypothesis next
      rwa [placed] at later

/-- Every archive that is written has the index of its file. -/
theorem writeArchive_yields (id digest : String) (len : UInt64) :
    Yields (writeArchive crates input output config infos id digest len) fun result =>
      result.tensorIndex = packedIndex config infos id digest len := by
  unfold writeArchive
  refine (Yields.anything _).bind fun _ _ => ?_
  refine (packChunks_yields _ _).bind fun state placed => ?_
  unfold finishArchive
  refine (Yields.anything _).bind fun _ _ => (Yields.anything _).bind fun _ _ => ?_
  refine (Yields.anything _).bind fun _ _ => .result ?_
  exact placed

theorem recordsOffsets_packedIndex {file : ByteVec} (fits : FitsFile file infos)
    (id digest : String) (len : UInt64) :
    RecordsOffsets config infos (packedIndex config infos id digest len) := by
  intro before n after number member
  refine ⟨_, packedIndex_entry id digest len member, ?_⟩
  have listed : (before ++ n :: after, number) ∈ numberedGroups config infos := member
  have whole : groupSize infos (before ++ n :: after) ≤ file.bytes.length :=
    groupSize_le fits (mem_groupTensors_of_numbered listed)
  have part : groupSize infos before ≤ groupSize infos (before ++ n :: after) := by
    simp [groupSize]
  have small := file.fits
  rw [UInt64.toNat_ofNat']
  omega

theorem Yields.onError {body : Fs α} {cleanup : Fs Unit} {post : α → Prop}
    (yields : Yields body post) : Yields (body.onError cleanup) post := by
  unfold Yields
  rw [Fallible.wlp_run_onError]
  apply wlp_mono yields
  intro reached _ known
  cases reached with
  | ok value => exact known
  | error failure =>
      apply wlp_mono (Yields.anything cleanup)
      intro _ _ _
      refine ⟨trivial, ?_⟩
      intro value same
      cases same

/-- `pack_gguf` from the header on, for a file that it has read. -/
def packRead (crates : Crates) (input output : Path) (config : PackerConfig) (file : ByteVec) :
    Fs PackResult := do
  let header ← Fs.ofExcept (parseHeader file)
  if header.tensors = [] then
    throw (.other "GGUF contains no tensors")
  else do
    let digest ← sha256OfFile crates input
    let len ← Fs.length input
    Fs.createDir output
    (Fs.createDir (output ++ ["chunks"])).onError (Fs.removeDir output)
    (writeArchive crates input output config header.tensors (modelIdOf input header) digest
      len).onError (Fs.removeDirAll output)

/-- What is read is parsed, and the index is that of its tensors. -/
theorem packRead_yields (file : ByteVec) :
    Yields (packRead crates input output config file) fun result =>
      ∃ header, parseHeader file = .ok header ∧
        RecordsOffsets config header.tensors result.tensorIndex := by
  unfold packRead
  refine Yields.ofExcept.bind fun header accepted => ?_
  split
  · exact .fails
  · refine (Yields.anything _).bind fun digest _ => (Yields.anything _).bind fun len _ => ?_
    refine (Yields.anything _).bind fun _ _ => (Yields.anything _).bind fun _ _ => ?_
    apply Yields.onError
    apply wlp_mono (writeArchive_yields _ digest len)
    rintro reached _ ⟨_, written⟩
    refine ⟨trivial, ?_⟩
    intro result same
    refine ⟨header, accepted, ?_⟩
    rw [written result same]
    exact recordsOffsets_packedIndex (fitsFile_of_accepted accepted) _ _ _

/-- A run of `pack_gguf` that returns an archive has first found no output and read its input. -/
theorem packGguf_reads {trace : List (Event FsOp FsOp.Reply)} {result : PackResult}
    (returns : Prog.Returns (packGguf crates input output config).run trace (.ok result)) :
    ∃ file rest, trace = ⟨.pathExists output, false⟩ :: ⟨.read input, .ok file⟩ :: rest ∧
      Prog.Returns (packRead crates input output config file).run rest (.ok result) := by
  cases returns with
  | @call _ _ afterCheck _ outputExists checked =>
      replace checked : Prog.Returns (if outputExists ∨ config.targetChunkBytes = 0 ∨
          ¬ (1 ≤ config.zstdLevel ∧ config.zstdLevel ≤ 22) then
            (throw (.other "invalid pack destination or configuration") : Fs PackResult)
          else Fs.read input >>= packRead crates input output config).run afterCheck
          (.ok result) := checked
      split at checked
      · cases checked
      · rename_i accepted
        cases checked with
        | @call _ _ afterRead _ read continues =>
            cases read with
            | error error => cases continues
            | ok file =>
                have absent : outputExists = false := by
                  cases outputExists with
                  | false => rfl
                  | true => exact absurd (.inl rfl) accepted
                exact ⟨file, afterRead, by rw [absent], continues⟩

end Index

/-- The groups of every list of tensors, and where every archive that is written records those of
the file that was read. Only if the target is the largest word the sizes have to be below it
together, as they are in an accepted file. -/
theorem packGguf_groupsTensors (config : PackerConfig) :
    (∀ infos, config.targetChunkBytes ≠ maxWord ∨
        groupSize infos (List.finRange infos.length) < 2 ^ 64 →
      GroupsTensors config infos (groupTensors config infos)) ∧
    (∀ file header, parseHeader file = .ok header →
      GroupsTensors config header.tensors (groupTensors config header.tensors)) ∧
    ∀ crates input output trace result,
      Prog.Returns (packGguf crates input output config).run trace (.ok result) →
      (∀ event ∈ trace, ReadsExactly event.op event.reply) →
      ∃ file header rest,
        trace = ⟨.pathExists output, false⟩ :: ⟨.read input, .ok file⟩ :: rest ∧
        parseHeader file = .ok header ∧
        RecordsOffsets config header.tensors result.tensorIndex := by
  refine ⟨fun infos => groupTensors_groupsTensors, ?_, ?_⟩
  · intro file header accepted
    apply groupTensors_groupsTensors
    have together := (fitsFile_of_accepted accepted).together
    have small := file.fits
    exact .inr (by omega)
  · intro crates input output trace result returns exactly
    obtain ⟨file, rest, rfl, continues⟩ := packGguf_reads returns
    have exactlyRest : ∀ event ∈ rest, ReadsExactly event.op event.reply := fun event member =>
      exactly event (List.mem_cons_of_mem _ (List.mem_cons_of_mem _ member))
    obtain ⟨header, accepted, records⟩ :=
      (continues.sound exactlyRest (packRead_yields file)).2 result rfl
    exact ⟨file, header, rest, rfl, accepted, records⟩

theorem apply_readsExactly (op : FsOp) (disk : Disk) : ReadsExactly op (op.apply disk).1 := by
  cases op with
  | readAt path offset size =>
      show ReadsExactly (.readAt path offset size) (Disk.readAt disk path offset size)
      unfold Disk.readAt
      split
      · trivial
      · split
        · trivial
        · split
          · trivial
          · simp only [ReadsExactly, List.length_take, List.length_drop]
            omega
  | _ => trivial

/-- The run that packs the file of one attention tensor. -/
theorem packGguf_groupsTensors_attentionFile :
    GroupsTensors {} attentionHeader.tensors (groupTensors {} attentionHeader.tensors) ∧
    ∃ trace result, Prog.Returns
        (packGguf attentionRecord.crates ["m.gguf"] ["archive"] {}).run trace (.ok result) ∧
      ∃ file header rest,
        trace = ⟨.pathExists ["archive"], false⟩ :: ⟨.read ["m.gguf"], .ok file⟩ :: rest ∧
        parseHeader file = .ok header ∧
        RecordsOffsets {} header.tensors result.tensorIndex := by
  obtain ⟨_, grouped, recorded⟩ := packGguf_groupsTensors {}
  refine ⟨grouped attentionFile attentionHeader rfl, ?_⟩
  have packs : ((packGguf attentionRecord.crates ["m.gguf"] ["archive"] {}).run.runWith FsOp.apply
      (diskWith attentionFile)).1.isOk = true := by
    decide +kernel
  have returns := Prog.Returns.of_traceWith FsOp.apply
    (packGguf attentionRecord.crates ["m.gguf"] ["archive"] {}).run (diskWith attentionFile)
  have exactly := forall_mem_traceWith apply_readsExactly
    (packGguf attentionRecord.crates ["m.gguf"] ["archive"] {}).run (diskWith attentionFile)
  rcases ran : (packGguf attentionRecord.crates ["m.gguf"] ["archive"] {}).run.runWith FsOp.apply
      (diskWith attentionFile) with ⟨failure | result, after⟩
  · rw [ran] at packs
    cases packs
  · rw [ran] at returns
    exact ⟨_, result, returns, recorded _ _ _ _ result returns exactly⟩

end TriAI.Chunk
