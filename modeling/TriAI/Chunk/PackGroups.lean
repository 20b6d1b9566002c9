import TriAI.Chunk.GgufSpans
import TriAI.Chunk.Packer

/-!
Contract: the groups of tensors that become chunks, and their bytes.

Owns: that the groups are a partition of the tensors in order, what each chunk
consists of (`groupBytes`, `categoriesOf`, `placeGroup`), and that a chunk of an
accepted file fits into memory.

Does not own: the writing of the archive.
-/

set_option autoImplicit false

namespace TriAI.Chunk

open TriAI.Library.FileTree
open TriAI.Library.Interaction
open TriAI.Library.Tiling
open TriAI.Chunk.Gguf (GgufTensorInfo ParsedHeader parseHeader parseHeader_tiles)

/-! ## The grouping loop -/

section Grouping

variable (config : PackerConfig) (infos : List GgufTensorInfo)

/-- Step lemma: a round appends its tensor to what is already grouped. -/
theorem groupTensor_appends (state : Grouping infos.length) (n : Fin infos.length) :
    (groupTensor config infos state n).groups.flatten ++
        (groupTensor config infos state n).group =
      state.groups.flatten ++ state.group ++ [n] := by
  unfold groupTensor
  simp only
  split
  · split
    · simp [Grouping.close]
    · rename_i noGroup
      simp [not_not.mp noGroup]
  · split
    · simp [Grouping.close]
    · simp

/-- The groups are the tensors, in order. -/
theorem groupTensors_flatten :
    (groupTensors config infos).flatten = List.finRange infos.length := by
  have folded : ∀ (numbers : List (Fin infos.length)) (state : Grouping infos.length),
      (numbers.foldl (groupTensor config infos) state).groups.flatten ++
          (numbers.foldl (groupTensor config infos) state).group =
        state.groups.flatten ++ state.group ++ numbers := by
    intro numbers
    induction numbers with
    | nil => simp
    | cons n rest inductionHypothesis =>
        intro state
        rw [List.foldl_cons, inductionHypothesis, groupTensor_appends, List.append_assoc]
        rfl
  have whole := folded (List.finRange infos.length) ⟨[], 0, []⟩
  unfold groupTensors
  simp only
  split
  · simpa using whole
  · rename_i noGroup
    rw [not_not.mp noGroup] at whole
    simpa using whole

end Grouping

/-! ## The contents of a chunk -/

section Contents

variable (file : ByteVec) (infos : List GgufTensorInfo)

/-- The bytes of a tensor in the source file. -/
def tensorBytes (file : ByteVec) (x : GgufTensorInfo) : List UInt8 :=
  slice file.bytes x.dataOffset.toNat x.size.toNat

/-- The bytes of a chunk before compression. -/
def groupBytes (group : List (Fin infos.length)) : List UInt8 :=
  group.flatMap fun n => tensorBytes file (infos.get n)

/-- The summed sizes of a group. -/
def groupSize (group : List (Fin infos.length)) : Nat :=
  (group.map fun n => (infos.get n).size.toNat).sum

/-- One category after another, each one once. -/
def addCategory (categories : List TensorCategory) (n : Fin infos.length) :
    List TensorCategory :=
  if classifyTensor (infos.get n).name ∈ categories then categories
  else categories ++ [classifyTensor (infos.get n).name]

def categoriesOf (group : List (Fin infos.length)) : List TensorCategory :=
  group.foldl (addCategory infos) []

/-- The index after placing a group whose first tensor starts at `offset`. -/
def placeGroup (chunkId : String) :
    List (Fin infos.length) → Nat → TensorIndex → TensorIndex
  | [], _, index => index
  | n :: rest, offset, index =>
      placeGroup chunkId rest (offset + (infos.get n).size.toNat)
        (index.place n chunkId (UInt64.ofNat offset))

/-- Tensors inside the file whose sizes together do not exceed it. -/
structure FitsFile : Prop where
  inside : ∀ n : Fin infos.length,
    (infos.get n).dataOffset.toNat + (infos.get n).size.toNat ≤ file.bytes.length
  together : groupSize infos (List.finRange infos.length) ≤ file.bytes.length

variable {file infos}

/-- The tensors of an accepted header fit its file. -/
theorem fitsFile_of_accepted {header : ParsedHeader}
    (accepted : parseHeader file = .ok header) : FitsFile file header.tensors := by
  obtain ⟨low, tiles⟩ := parseHeader_tiles accepted
  constructor
  · intro n
    have member : (header.tensors.get n) ∈ header.tensors := List.getElem_mem n.isLt
    exact (tiles.within _ (List.mem_map_of_mem member)).2
  · have sizes := tiles.sum_size
    have sameSum : groupSize header.tensors (List.finRange header.tensors.length) =
        ((header.tensors.map GgufTensorInfo.span).map Span.size).sum := by
      unfold groupSize
      rw [List.map_map]
      congr 1
      refine List.ext_getElem (by simp) fun position _ _ => ?_
      simp [GgufTensorInfo.span]
    omega

theorem tensorBytes_length (fits : FitsFile file infos) (n : Fin infos.length) :
    (tensorBytes file (infos.get n)).length = (infos.get n).size.toNat :=
  slice_length (fits.inside n)

theorem groupBytes_cons (n : Fin infos.length) (rest : List (Fin infos.length)) :
    groupBytes file infos (n :: rest) = tensorBytes file (infos.get n) ++ groupBytes file infos rest :=
  rfl

theorem groupSize_cons (n : Fin infos.length) (rest : List (Fin infos.length)) :
    groupSize infos (n :: rest) = (infos.get n).size.toNat + groupSize infos rest := by
  unfold groupSize
  rw [List.map_cons, List.sum_cons]

theorem groupBytes_length (fits : FitsFile file infos) (group : List (Fin infos.length)) :
    (groupBytes file infos group).length = groupSize infos group := by
  induction group with
  | nil => rfl
  | cons n rest inductionHypothesis =>
      rw [groupBytes_cons, groupSize_cons, List.length_append, tensorBytes_length fits,
        inductionHypothesis]

/-- A chunk is no longer than the file. -/
theorem groupSize_le (fits : FitsFile file infos) {config : PackerConfig}
    {group : List (Fin infos.length)} (member : group ∈ groupTensors config infos) :
    groupSize infos group ≤ file.bytes.length := by
  refine Nat.le_trans ?_ fits.together
  rw [← groupTensors_flatten config infos]
  unfold groupSize
  exact List.Sublist.sum_le_sum ((List.sublist_flatten_of_mem member).map fun n => (infos.get n).size.toNat)
    (fun _ _ => Nat.zero_le _)

end Contents

end TriAI.Chunk
