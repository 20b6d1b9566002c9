import TriAI.Chunk.CacheAccounting
import TriAI.Chunk.Warmup
import TriAI.Library.ListOrder

/-!
Contract: the order in which the warmup loads chunks, and what it reports as covered.

Owns: the chunks a configuration selects and their priorities; that the planning loop computes
them; the loads that a run starts; and the exact conditions under which these are in the order of
priority and the report counts the tensors of the reported chunks.

Does not own: what a load returns.
-/

set_option autoImplicit false

namespace TriAI.Chunk

open TriAI.Library
open TriAI.Library.Interaction

/-! ## The chunks of an index -/

namespace TensorIndex

/-- The priorities of the eager tensors of a chunk. -/
def priorities (tensors : List TensorEntry) (id : String) : List Nat :=
  (tensors.filter fun tensor => tensor.chunkId = some id).map fun tensor =>
    tensor.category.warmupPriority.toNat

/-- The smallest priority of the eager tensors of a chunk. -/
def chunkPriority (index : TensorIndex) (id : String) : Nat :=
  (priorities index.eagerTensors id).min?.getD 0

/-- The chunks that hold eager tensors. -/
def eagerChunks (index : TensorIndex) : List String :=
  (index.eagerTensors.filterMap (·.chunkId)).dedup

/-- By priority, then by id. -/
def Before (index : TensorIndex) (first second : String) : Prop :=
  index.chunkPriority first < index.chunkPriority second ∨
    index.chunkPriority first = index.chunkPriority second ∧ first < second

instance (index : TensorIndex) : DecidableRel index.Before := fun first second =>
  inferInstanceAs (Decidable (index.chunkPriority first < index.chunkPriority second ∨
    index.chunkPriority first = index.chunkPriority second ∧ first < second))

theorem Before.irrefl (index : TensorIndex) (id : String) : ¬ index.Before id id := by
  rintro (less | ⟨_, less⟩)
  · exact absurd less (lt_irrefl _)
  · exact absurd less (lt_irrefl _)

theorem Before.asymm {index : TensorIndex} {first second : String}
    (before : index.Before first second) : ¬ index.Before second first := by
  rintro (less | ⟨same, less⟩)
  · rcases before with later | ⟨same, _⟩
    · omega
    · omega
  · rcases before with later | ⟨_, later⟩
    · omega
    · exact absurd (less.trans later) (lt_irrefl _)

end TensorIndex

/-- How many chunks a configuration selects at most. -/
def WarmupConfig.limit (config : WarmupConfig) : Option Nat :=
  if config.criticalOnly then some 3
  else if 0 < config.maxChunks then some config.maxChunks.toNat
  else none

/-- An eager chunk with fewer chunks before it than the limit. -/
def WarmupConfig.Selects (config : WarmupConfig) (index : TensorIndex) (id : String) : Prop :=
  id ∈ index.eagerChunks ∧
    ∀ limit, config.limit = some limit → rank index.Before index.eagerChunks id < limit

instance (config : WarmupConfig) (index : TensorIndex) :
    DecidablePred (config.Selects index) := fun id =>
  decidable_of_iff
    (id ∈ index.eagerChunks ∧
      config.limit.all fun limit => rank index.Before index.eagerChunks id < limit)
    (by simp [WarmupConfig.Selects, Option.all_eq_true])

/-! ## The planning loop -/

section Planning

open TensorIndex

private theorem min?_concat (numbers : List Nat) (number : Nat) :
    (numbers ++ [number]).min? =
      some ((numbers.min?.map fun least => min least number).getD number) := by
  cases numbers with
  | nil => rfl
  | cons head rest =>
      rw [List.cons_append, List.min?_cons', List.min?_cons', List.foldl_append]
      rfl

private theorem toNat_min (first second : UInt8) :
    (min first second).toNat = min first.toNat second.toNat := by
  change (if first ≤ second then first else second).toNat = _
  split
  · rename_i below
    exact (min_eq_left (UInt8.le_iff_toNat_le.mp below)).symm
  · rename_i above
    have less := UInt8.not_le.mp above
    exact (min_eq_right (UInt8.lt_iff_toNat_lt.mp less).le).symm

/-- The entry of a chunk has the smallest priority of its tensors. -/
theorem planTensors_priority (tensors : List TensorEntry) (id : String) :
    ((planTensors tensors)[id]?.map fun planned => planned.priority.toNat) =
      (priorities tensors id).min? := by
  induction tensors using List.reverseRecOn with
  | nil => rfl
  | append_singleton front tensor inductionHypothesis =>
      have step : planTensors (front ++ [tensor]) = planTensor (planTensors front) tensor := by
        rw [planTensors, List.foldl_append]
        rfl
      rw [step]
      by_cases here : tensor.chunkId = some id
      · have last : priorities (front ++ [tensor]) id =
            priorities front id ++ [tensor.category.warmupPriority.toNat] := by
          simp [priorities, here]
        rw [last, min?_concat, ← inductionHypothesis]
        simp only [planTensor, here, Std.TreeMap.getElem?_alter, Std.ReflCmp.compare_self]
        cases (planTensors front)[id]? with
        | none => simp [Planned.add, toNat_min]
        | some planned => simp [Planned.add, toNat_min]
      · have last : priorities (front ++ [tensor]) id = priorities front id := by
          simp [priorities, here]
        rw [last, ← inductionHypothesis]
        unfold planTensor
        split
        · rfl
        · rename_i other isOther
          have apart : ¬ compare other id = .eq := by
            intro same
            rw [Std.LawfulEqCmp.eq_of_compare same] at isOther
            exact here isOther
          rw [Std.TreeMap.getElem?_alter, if_neg apart]

theorem mem_eagerChunks {index : TensorIndex} {id : String} :
    id ∈ index.eagerChunks ↔ priorities index.eagerTensors id ≠ [] := by
  simp [eagerChunks, priorities, List.filter_eq_nil_iff]

/-- What the loop plans for a chunk. -/
theorem priority_of_mem {index : TensorIndex} {work : String × Planned}
    (member : work ∈ (planTensors index.eagerTensors).toList) :
    work.2.priority.toNat = index.chunkPriority work.1 := by
  have found := Std.TreeMap.mem_toList_iff_getElem?_eq_some.mp member
  have priority := planTensors_priority index.eagerTensors work.1
  rw [found] at priority
  rw [chunkPriority, ← priority]
  rfl

/-- The planned chunks are the eager ones. -/
theorem mem_planned_iff {index : TensorIndex} {id : String} :
    id ∈ (planTensors index.eagerTensors).toList.map Prod.fst ↔ id ∈ index.eagerChunks := by
  have priority := planTensors_priority index.eagerTensors id
  rw [mem_eagerChunks, List.mem_map]
  constructor
  · rintro ⟨⟨_, planned⟩, member, rfl⟩ none
    have found := Std.TreeMap.mem_toList_iff_getElem?_eq_some.mp member
    rw [found, none] at priority
    cases priority
  · intro some
    cases found : (planTensors index.eagerTensors)[id]? with
    | none =>
        rw [found] at priority
        exact absurd (List.min?_eq_none_iff.mp priority.symm) some
    | some planned =>
        exact ⟨(id, planned), Std.TreeMap.mem_toList_iff_getElem?_eq_some.mpr found, rfl⟩

end Planning

/-! ## The work list -/

section Work

variable {index : TensorIndex} {config : WarmupConfig}

private theorem nodup_planned (index : TensorIndex) :
    ((planTensors index.eagerTensors).toList.map Prod.fst).Nodup := by
  rw [List.Nodup, List.pairwise_map]
  apply (Std.TreeMap.distinct_keys_toList (t := planTensors index.eagerTensors)).imp
  intro first second apart same
  exact apart (by rw [same]; exact Std.ReflCmp.compare_self)

theorem WorkLe.total (first second : String × Planned) :
    WorkLe first second ∨ WorkLe second first := by
  unfold WorkLe
  simp only [UInt8.lt_iff_toNat_lt, ← UInt8.toNat_inj]
  rcases le_total first.1 second.1 with below | above
  · rcases Nat.lt_or_ge second.2.priority.toNat first.2.priority.toNat with less | notLess
    · exact .inr (.inl less)
    · exact .inl (by simp only [below, and_true]; omega)
  · rcases Nat.lt_or_ge first.2.priority.toNat second.2.priority.toNat with less | notLess
    · exact .inl (.inl less)
    · exact .inr (by simp only [above, and_true]; omega)

theorem WorkLe.trans {first second third : String × Planned} (left : WorkLe first second)
    (right : WorkLe second third) : WorkLe first third := by
  unfold WorkLe at left right ⊢
  simp only [UInt8.lt_iff_toNat_lt, ← UInt8.toNat_inj] at left right ⊢
  rcases left with less | ⟨same, below⟩
  · exact .inl (by omega)
  · rcases right with less | ⟨alike, belowThird⟩
    · exact .inl (by omega)
    · exact .inr ⟨same.trans alike, below.trans belowThird⟩

/-- The planned chunks after the first sort. -/
private def sortedIds (index : TensorIndex) : List String :=
  ((planTensors index.eagerTensors).toList.insertionSort WorkLe).map Prod.fst

private theorem sortedIds_perm (index : TensorIndex) :
    (sortedIds index).Perm index.eagerChunks := by
  have sorted : (sortedIds index).Perm ((planTensors index.eagerTensors).toList.map Prod.fst) :=
    (List.perm_insertionSort WorkLe _).map Prod.fst
  refine sorted.trans ((List.perm_ext_iff_of_nodup (nodup_planned index) ?_).mpr ?_)
  · exact List.nodup_dedup _
  · exact fun id => mem_planned_iff

private theorem sortedIds_sorted (index : TensorIndex) :
    (sortedIds index).Pairwise index.Before := by
  have : Std.Total WorkLe := ⟨WorkLe.total⟩
  have : IsTrans (String × Planned) WorkLe := ⟨fun _ _ _ => WorkLe.trans⟩
  have sorted := List.pairwise_insertionSort WorkLe (planTensors index.eagerTensors).toList
  have distinct : (sortedIds index).Nodup :=
    (sortedIds_perm index).nodup_iff.mpr (List.nodup_dedup _)
  rw [sortedIds, List.Nodup, List.pairwise_map] at distinct
  rw [sortedIds, List.pairwise_map]
  refine (sorted.and distinct).imp_of_mem ?_
  intro first second firstMember secondMember both
  obtain ⟨below, apart⟩ := both
  rw [List.mem_insertionSort] at firstMember secondMember
  have firstPriority := priority_of_mem firstMember
  have secondPriority := priority_of_mem secondMember
  unfold TensorIndex.Before
  rw [← firstPriority, ← secondPriority]
  rcases below with less | ⟨same, below⟩
  · exact .inl (UInt8.lt_iff_toNat_lt.mp less)
  · exact .inr ⟨congrArg UInt8.toNat same, lt_of_le_of_ne below apart⟩

/-- The first items up to a limit. -/
private def upTo {α : Type} (items : List α) : Option Nat → List α
  | none => items
  | some limit => items.take limit

private theorem map_truncate (config : WarmupConfig) (work : List (String × Planned)) :
    (config.truncate work).map Prod.fst = upTo (work.map Prod.fst) config.limit := by
  unfold WarmupConfig.truncate WarmupConfig.limit
  split
  · exact List.map_take
  · split
    · exact List.map_take
    · rfl

/-- The selected chunks in the order of priority. -/
private def selectedIds (config : WarmupConfig) (index : TensorIndex) : List String :=
  upTo (sortedIds index) config.limit

private theorem selectedIds_sublist (config : WarmupConfig) (index : TensorIndex) :
    (selectedIds config index).Sublist (sortedIds index) := by
  unfold selectedIds
  cases config.limit with
  | none => exact List.Sublist.refl _
  | some limit => exact List.take_sublist _ _

private theorem mem_selectedIds {id : String} :
    id ∈ selectedIds config index ↔ config.Selects index id := by
  unfold selectedIds WarmupConfig.Selects
  cases config.limit with
  | none => simp [upTo, (sortedIds_perm index).mem_iff]
  | some limit =>
      simp only [upTo, Option.some.injEq, forall_eq']
      rw [mem_take_iff_rank (TensorIndex.Before.irrefl index)
        (fun _ _ => TensorIndex.Before.asymm) (sortedIds_sorted index),
        (sortedIds_perm index).mem_iff, rank_perm (sortedIds_perm index)]

/-- The chunks of the work list. -/
def WarmupConfig.ids (config : WarmupConfig) (index : TensorIndex) : List String :=
  (config.work index).map Prod.fst

private theorem ids_eq (config : WarmupConfig) (index : TensorIndex) :
    config.ids index =
      if config.strictOrder then (selectedIds config index).insertionSort (· ≤ ·)
      else selectedIds config index := by
  have truncated : (config.truncate
      ((planTensors index.eagerTensors).toList.insertionSort WorkLe)).map Prod.fst =
      selectedIds config index := map_truncate config _
  unfold WarmupConfig.ids WarmupConfig.work
  dsimp only
  split
  · rw [← truncated]
    exact List.map_insertionSort _ _ Prod.fst _ fun _ _ _ _ => Iff.rfl
  · exact truncated

private theorem ids_perm (config : WarmupConfig) (index : TensorIndex) :
    (config.ids index).Perm (selectedIds config index) := by
  rw [ids_eq]
  split
  · exact List.perm_insertionSort _ _
  · exact List.Perm.refl _

/-- The work list holds the selected chunks. -/
theorem mem_ids {id : String} : id ∈ config.ids index ↔ config.Selects index id :=
  (ids_perm config index).mem_iff.trans mem_selectedIds

theorem nodup_ids (config : WarmupConfig) (index : TensorIndex) : (config.ids index).Nodup := by
  have distinct : (sortedIds index).Nodup :=
    (sortedIds_perm index).nodup_iff.mpr (List.nodup_dedup _)
  exact (ids_perm config index).nodup_iff.mpr (distinct.sublist (selectedIds_sublist config index))

private theorem ordered_of_sorted {ids : List String} {priority : String → Nat}
    (sorted : ids.Pairwise (· ≤ ·))
    (ordered : ids.Pairwise fun first second => priority first ≤ priority second)
    {first second : String} (isFirst : first ∈ ids) (isSecond : second ∈ ids)
    (less : first < second) : priority first ≤ priority second := by
  induction ids with
  | nil => cases isFirst
  | cons head rest inductionHypothesis =>
      rw [List.pairwise_cons] at sorted ordered
      rcases List.mem_cons.mp isFirst with rfl | firstLater
      · rcases List.mem_cons.mp isSecond with rfl | secondLater
        · exact absurd less (lt_irrefl _)
        · exact ordered.1 second secondLater
      · rcases List.mem_cons.mp isSecond with rfl | secondLater
        · exact absurd (sorted.1 first firstLater) (not_le_of_gt less)
        · exact inductionHypothesis sorted.2 ordered.2 firstLater secondLater

/-- Where the order is strict, the ids of the selected chunks follow their priorities. -/
def IdsAgree (config : WarmupConfig) (index : TensorIndex) : Prop :=
  config.strictOrder = true → ∀ first second, config.Selects index first →
    config.Selects index second → first < second →
      index.chunkPriority first ≤ index.chunkPriority second

/-- The work list is in the order of priority exactly if the ids agree with it. -/
theorem ids_ordered_iff :
    (config.ids index).Pairwise (fun first second =>
      index.chunkPriority first ≤ index.chunkPriority second) ↔ IdsAgree config index := by
  unfold IdsAgree
  rw [ids_eq]
  split
  · rename_i strict
    have sorted : ((selectedIds config index).insertionSort (· ≤ ·)).Pairwise (· ≤ ·) :=
      List.pairwise_insertionSort _ _
    constructor
    · intro ordered _ first second firstSelected secondSelected less
      refine ordered_of_sorted sorted ordered ?_ ?_ less
      · rwa [List.mem_insertionSort, mem_selectedIds]
      · rwa [List.mem_insertionSort, mem_selectedIds]
    · intro agree
      have distinct : ((selectedIds config index).insertionSort (· ≤ ·)).Nodup := by
        have distinct := nodup_ids config index
        rwa [ids_eq, if_pos strict] at distinct
      refine (sorted.and distinct).imp_of_mem ?_
      intro first second firstMember secondMember both
      rw [List.mem_insertionSort, mem_selectedIds] at firstMember secondMember
      exact agree strict first second firstMember secondMember (lt_of_le_of_ne both.1 both.2)
  · rename_i relaxed
    constructor
    · exact fun _ strict => absurd strict relaxed
    · intro _
      apply ((sortedIds_sorted index).sublist (selectedIds_sublist config index)).imp
      intro first second before
      rcases before with less | ⟨same, _⟩
      · exact less.le
      · exact same.le

end Work

/-! ## Runs -/

/-- The load a call begins: `load_chunk` looks into the cache first, and only there. -/
def WarmupOp.starts : WarmupOp → List String
  | .loader (.lookup id) => [id]
  | _ => []

/-- Whatever the files, the clock and the other users of the loader answer; the loads are noted
in their order. -/
def noting (loads : List String) (op : WarmupOp) (_reply : op.Reply) (after : List String) :
    Prop :=
  after = loads ++ op.starts

section Runs

variable {crates : Crates} {loader : ChunkLoader} {loads : List String} {α : Type}

/-- Calls that begin no load. -/
private theorem wlp_silent {program : Prog WarmupOp WarmupOp.Reply α}
    (only : program.Only fun op => op.starts = []) :
    wlp (stepping noting) program (fun _ after => after = loads) loads := by
  refine Prog.Only.keeps ?_ only (rfl : loads = loads)
  intro op silent view isLoads
  refine ⟨trivial, ?_⟩
  intro reply after noted
  rw [noted, silent, List.append_nil, isLoads]

private theorem wlp_now_bind {rest : Nat → Warming α}
    {post : Except TriAIError α → List String → Prop}
    (continues : ∀ now, wlp (stepping noting) (rest now).run post loads) :
    wlp (stepping noting) (Warming.onLoader Loading.now >>= rest).run post loads := by
  refine ⟨trivial, ?_⟩
  intro now after noted
  have same : after = loads := noted.trans (List.append_nil loads)
  rw [same]
  exact continues now

private theorem wlp_stats_bind {rest : CacheStats → Warming α}
    {post : Except TriAIError α → List String → Prop}
    (continues : ∀ stats, wlp (stepping noting) (rest stats).run post loads) :
    wlp (stepping noting) (Warming.onLoader Loading.stats >>= rest).run post loads := by
  refine ⟨trivial, ?_⟩
  intro stats after noted
  have same : after = loads := noted.trans (List.append_nil loads)
  rw [same]
  exact continues stats

private theorem wlp_recordEager_bind {strategy : WarmupStrategy} {rest : Unit → Warming α}
    {post : Except TriAIError α → List String → Prop}
    (continues : wlp (stepping noting) (rest ()).run post loads) :
    wlp (stepping noting) (strategy.recordEager >>= rest).run post loads := by
  unfold WarmupStrategy.recordEager
  split
  · refine ⟨trivial, ?_⟩
    intro _ after noted
    have same : after = loads := noted.trans (List.append_nil loads)
    rw [same]
    exact continues
  · exact continues

/-- After its lookup a load begins no other. -/
private theorem only_loadFromDisk (desc : ChunkDescriptor) :
    Fallible.Only (fun op => (WarmupOp.loader op).starts = [])
      (loader.loadFromDisk crates desc) := by
  unfold ChunkLoader.loadFromDisk ChunkLoader.loadPrimary
  apply Fallible.Only.bind
  · apply Fallible.Only.capture
    have reads : Fallible.Only (fun op => (WarmupOp.loader op).starts = [])
        (Loading.readFile (chunkPath loader.archive desc.chunkId)) :=
      .attempt ⟨rfl, fun _ => trivial⟩
    exact reads.bind fun packed => Fallible.Only.result _
  · intro primary
    split
    · exact Fallible.Only.result _
    · apply Fallible.Only.bind (Fallible.Only.result _)
      exact fun data => Fallible.Only.result _

private theorem wlp_loadChunk (id : String) :
    wlp (stepping noting) (Warming.onLoader (loader.loadChunk crates id)).run
      (fun _ after => after = loads ++ [id]) loads := by
  refine ⟨trivial, ?_⟩
  rintro found after rfl
  apply wlp_silent
  apply Prog.Only.embed
  cases found with
  | some chunk => trivial
  | none =>
      cases listed : loader.manifest.chunks.find? (·.chunkId = id) with
      | none => trivial
      | some desc =>
          refine Fallible.Only.bind (only_loadFromDisk desc) ?_
          intro loaded
          exact ⟨rfl, fun now => ⟨rfl, fun _ => trivial⟩⟩

/-- One round of the loading loop begins one load. -/
private theorem wlp_warmChunk (id : String) (categories : List TensorCategory) :
    wlp (stepping noting) (warmChunk crates loader id categories).run
      (fun reached after => after = loads ++ [id] ∧
        IfOk (fun metric _ => metric.chunkId = id) reached after) loads := by
  unfold warmChunk
  refine wlp_now_bind fun stamp => wlp_stats_bind fun pre => ?_
  rw [Fallible.wlp_run_bind]
  apply wlp_mono (wlp_loadChunk id)
  rintro loaded _ rfl
  cases loaded with
  | error error =>
      refine ⟨rfl, ?_⟩
      intro metric same
      cases same
  | ok chunk =>
      refine wlp_stats_bind fun post => wlp_now_bind fun last => ⟨rfl, ?_⟩
      intro metric same
      cases same
      rfl

/-- The loading loop begins the loads of the work list in its order, up to the first that
fails. -/
private theorem wlp_warmChunks (work : List (String × Planned)) :
    wlp (stepping noting) (warmChunks crates loader work).run
      (fun reached after => ∃ front, front <+: work.map Prod.fst ∧ after = loads ++ front ∧
        IfOk (fun metrics _ => front = work.map Prod.fst ∧
          metrics.map (·.chunkId) = work.map Prod.fst) reached after) loads := by
  induction work generalizing loads with
  | nil =>
      refine ⟨[], List.nil_prefix, (List.append_nil loads).symm, ?_⟩
      intro metrics same
      cases same
      exact ⟨rfl, rfl⟩
  | cons head rest inductionHypothesis =>
      obtain ⟨id, planned⟩ := head
      unfold warmChunks
      rw [Fallible.wlp_run_bind]
      apply wlp_mono (wlp_warmChunk id planned.categories)
      rintro reached _ ⟨rfl, isId⟩
      cases reached with
      | error error =>
          refine ⟨[id], by simp, rfl, ?_⟩
          intro metrics same
          cases same
      | ok metric =>
          show wlp _ (warmChunks crates loader rest >>= _).run _ _
          rw [Fallible.wlp_run_bind]
          apply wlp_mono inductionHypothesis
          rintro reached _ ⟨front, isFront, rfl, whole⟩
          have isPrefix : id :: front <+: id :: rest.map Prod.fst :=
            (List.prefix_cons_inj id).mpr isFront
          cases reached with
          | error error =>
              refine ⟨id :: front, isPrefix, by simp, ?_⟩
              intro metrics same
              cases same
          | ok metrics =>
              refine ⟨id :: front, isPrefix, by simp, ?_⟩
              intro all same
              cases same
              obtain ⟨isWhole, names⟩ := whole metrics rfl
              simp [isWhole, names, isId metric rfl]

variable (crates loader)

/-- What a run loads and reports. -/
theorem wlp_execute (strategy : WarmupStrategy) :
    wlp (stepping noting) (strategy.execute crates loader).run
      (fun reached after => after <+: strategy.config.ids loader.index ∧
        IfOk (fun report loads => loads = strategy.config.ids loader.index ∧
          report.perChunk.map (·.chunkId) = strategy.config.ids loader.index ∧
          report.tensorsCovered = UInt32.ofNat loader.index.eagerTensors.length) reached after)
      [] := by
  unfold WarmupStrategy.execute
  refine wlp_now_bind fun start => wlp_recordEager_bind (wlp_stats_bind fun before => ?_)
  rw [Fallible.wlp_run_bind]
  apply wlp_mono (wlp_warmChunks (strategy.config.work loader.index))
  rintro reached _ ⟨front, isFront, rfl, whole⟩
  cases reached with
  | error error =>
      refine ⟨isFront, ?_⟩
      intro report same
      cases same
  | ok metrics =>
      refine wlp_now_bind fun last => wlp_stats_bind fun final => ⟨isFront, ?_⟩
      intro report same
      cases same
      obtain ⟨isWhole, names⟩ := whole metrics rfl
      exact ⟨isWhole, names, rfl⟩

/-! ### A run that finds every chunk in the cache -/

/-- The chunk a lookup finds. -/
def foundChunk (id : String) : LoadedChunk :=
  { chunkId := id, data := ⟨[], by decide⟩, verified := true, lastAccessed := 0 }

/-- Every chunk is in the cache. -/
def answerCached : (op : WarmupOp) → List String → op.Reply × List String
  | .loader (.readFile _), loads => (.error .notFound, loads)
  | .loader .now, loads => (0, loads)
  | .loader (.lookup id), loads => (some (foundChunk id), loads ++ [id])
  | .loader (.insert _), loads => ((), loads)
  | .loader .clear, loads => ((), loads)
  | .loader .stats, loads => ({}, loads)
  | .recordAccess _, loads => ((), loads)

theorem answerCached_noting (op : WarmupOp) (loads : List String) :
    noting loads op (answerCached op loads).1 (answerCached op loads).2 := by
  cases op with
  | loader op => cases op <;> simp [noting, answerCached, WarmupOp.starts]
  | recordAccess key => simp [noting, answerCached, WarmupOp.starts]

/-- What is reported of such a load. -/
def foundMetric (work : String × Planned) : ChunkLoadMetric :=
  { chunkId := work.1, categories := work.2.categories, duration := 0, bytes := 0
    wasCacheHit := false }

private theorem warmChunks_cached (work : List (String × Planned)) (loads : List String) :
    Fallible.outcome answerCached (warmChunks crates loader work) loads =
      (.ok (work.map foundMetric), loads ++ work.map Prod.fst) := by
  induction work generalizing loads with
  | nil =>
      rw [List.map_nil, List.map_nil, List.append_nil]
      rfl
  | cons head rest inductionHypothesis =>
      have first : Fallible.outcome answerCached
          (warmChunk crates loader head.1 head.2.categories) loads =
          (.ok (foundMetric head), loads ++ [head.1]) := rfl
      unfold warmChunks
      rw [Fallible.outcome_bind_ok first, Fallible.outcome_bind_ok (inductionHypothesis _),
        List.append_assoc]
      rfl

/-- Some run reports all chunks of the work list. -/
theorem execute_returns (strategy : WarmupStrategy) :
    ∃ report after, Prog.Exec noting [] (strategy.execute crates loader).run (.ok report)
      after := by
  have began : Fallible.outcome answerCached strategy.recordEager [] = (.ok (), []) := by
    unfold WarmupStrategy.recordEager
    split
    · rfl
    · rfl
  have timed : ∀ loads, Fallible.outcome answerCached (Warming.onLoader Loading.now) loads =
      (.ok 0, loads) := fun _ => rfl
  have counted : ∀ loads, Fallible.outcome answerCached (Warming.onLoader Loading.stats) loads =
      (.ok {}, loads) := fun _ => rfl
  have loaded := warmChunks_cached crates loader (strategy.config.work loader.index) []
  let report : WarmupReport :=
    { totalDuration := 0
      chunksLoaded := UInt32.ofNat ((strategy.config.work loader.index).map foundMetric).length
      tensorsCovered := UInt32.ofNat loader.index.eagerTensors.length
      perChunk := (strategy.config.work loader.index).map foundMetric
      cacheHits := 0 - 0 }
  have finished : Fallible.outcome answerCached (strategy.execute crates loader) [] =
      (.ok report, strategy.config.ids loader.index) := by
    unfold WarmupStrategy.execute
    rw [Fallible.outcome_bind_ok (timed _), Fallible.outcome_bind_ok began,
      Fallible.outcome_bind_ok (counted _), Fallible.outcome_bind_ok loaded,
      Fallible.outcome_bind_ok (timed _), Fallible.outcome_bind_ok (counted _)]
    rfl
  have run := Prog.Exec.of_runWith answerCached_noting (strategy.execute crates loader).run []
  have ran : (strategy.execute crates loader).run.runWith answerCached [] =
      (.ok report, strategy.config.ids loader.index) := finished
  rw [ran] at run
  exact ⟨report, _, run⟩

end Runs

/-! ## The order of the loads -/

/-- Each selected chunk is loaded once, in the order of priority; a run that fails does not get
to all of them. -/
structure LoadsInOrder (config : WarmupConfig) (index : TensorIndex)
    (result : Except TriAIError WarmupReport) (loads : List String) : Prop where
  selected : ∀ id ∈ loads, config.Selects index id
  once : loads.Nodup
  all : result.isOk → ∀ id, config.Selects index id → id ∈ loads
  ordered : loads.Pairwise fun first second =>
    index.chunkPriority first ≤ index.chunkPriority second

/-- Some run loads the whole work list. -/
theorem idsAgree_of_loadsInOrder (crates : Crates) (loader : ChunkLoader)
    (strategy : WarmupStrategy)
    (inOrder : ∀ result loads,
      Prog.Exec noting [] (strategy.execute crates loader).run result loads →
        LoadsInOrder strategy.config loader.index result loads) :
    IdsAgree strategy.config loader.index := by
  obtain ⟨report, loads, run⟩ := execute_returns crates loader strategy
  obtain ⟨_, reported⟩ := run.of_stepping (wlp_execute crates loader strategy)
  have ordered := (inOrder _ _ run).ordered
  rw [(reported report rfl).1] at ordered
  exact ids_ordered_iff.mp ordered

/-- The loads of every run are in the order of priority exactly if the ids agree with it, or
the order is not strict. -/
theorem execute_loadsInOrder_iff (crates : Crates) (loader : ChunkLoader)
    (strategy : WarmupStrategy) :
    (∀ result loads, Prog.Exec noting [] (strategy.execute crates loader).run result loads →
      LoadsInOrder strategy.config loader.index result loads) ↔
      IdsAgree strategy.config loader.index := by
  constructor
  · exact idsAgree_of_loadsInOrder crates loader strategy
  · intro agree result loads run
    obtain ⟨isFront, reported⟩ := run.of_stepping (wlp_execute crates loader strategy)
    refine ⟨?_, (nodup_ids _ _).sublist isFront.sublist, ?_,
      (ids_ordered_iff.mpr agree).sublist isFront.sublist⟩
    · exact fun id member => mem_ids.mp (isFront.subset member)
    · intro isOk id selected
      cases result with
      | error error => cases isOk
      | ok report =>
          rw [(reported report rfl).1]
          exact mem_ids.mpr selected

/-- An archive whose first chunk holds a norm, and whose second the tokenizer. -/
def normFirstIndex : TensorIndex where
  modelId := "m"
  ggufSha256 := ""
  ggufSize := 0
  totalBytes := 0
  tensors :=
    [{ name := "output_norm.weight", category := .norms, dims := [], dtype := 0, ggufOffset := 0
       dataOffset := none, size := 0, chunkId := some "chunk_0000", chunkOffset := some 0 },
     { name := "tokenizer.tokens", category := .tokenizer, dims := [], dtype := 0, ggufOffset := 0
       dataOffset := none, size := 0, chunkId := some "chunk_0001", chunkOffset := some 0 }]

def normFirstLoader : ChunkLoader :=
  { oneByteLoader with index := normFirstIndex }

/-- By default the norm is loaded before the tokenizer. -/
theorem execute_normBeforeTokenizer :
    ¬ ∀ result loads, Prog.Exec noting []
        (WarmupStrategy.execute idleCrates { config := {} } normFirstLoader).run result loads →
      LoadsInOrder {} normFirstIndex result loads := by
  intro inOrder
  have agree : IdsAgree {} normFirstIndex :=
    idsAgree_of_loadsInOrder idleCrates normFirstLoader { config := {} } inOrder
  have wrong := agree rfl "chunk_0000" "chunk_0001" (by decide +kernel) (by decide +kernel)
    (by decide +kernel)
  revert wrong
  decide +kernel

/-! ## The tensors a report covers -/

/-- The eager tensors of some chunks. -/
def TensorIndex.covered (index : TensorIndex) (ids : List String) : List TensorEntry :=
  index.eagerTensors.filter fun tensor => tensor.chunkId.any (· ∈ ids)

/-- The eager tensors outside the selected chunks. -/
def TensorIndex.leftOut (config : WarmupConfig) (index : TensorIndex) : List TensorEntry :=
  index.eagerTensors.filter fun tensor => ¬ tensor.chunkId.any fun id => config.Selects index id

/-- What a report covers are the tensors of the selected chunks. -/
theorem length_covered (config : WarmupConfig) (index : TensorIndex) :
    (index.covered (config.ids index)).length + (index.leftOut config).length =
      index.eagerTensors.length := by
  have same : index.covered (config.ids index) =
      index.eagerTensors.filter fun tensor => tensor.chunkId.any (config.Selects index ·) := by
    unfold TensorIndex.covered
    apply List.filter_congr
    intro tensor _
    congr 1
    funext id
    exact decide_eq_decide.mpr mem_ids
  rw [same, TensorIndex.leftOut]
  have parts := List.length_eq_length_filter_add (l := index.eagerTensors)
    fun tensor => tensor.chunkId.any (config.Selects index ·)
  simpa using parts.symm

/-- What a report counts. -/
def CountsCovered (crates : Crates) (loader : ChunkLoader) (strategy : WarmupStrategy) : Prop :=
  ∀ report loads, Prog.Exec noting [] (strategy.execute crates loader).run (.ok report) loads →
    report.tensorsCovered.toNat =
      (loader.index.covered (report.perChunk.map (·.chunkId))).length

/-- The cast of the number of eager tensors, and what some run reports. -/
theorem mod_of_countsCovered (crates : Crates) (loader : ChunkLoader) (strategy : WarmupStrategy)
    (covers : CountsCovered crates loader strategy) :
    loader.index.eagerTensors.length % 2 ^ 32 =
      (loader.index.covered (strategy.config.ids loader.index)).length := by
  obtain ⟨report, loads, run⟩ := execute_returns crates loader strategy
  obtain ⟨_, reported⟩ := run.of_stepping (wlp_execute crates loader strategy)
  obtain ⟨_, names, count⟩ := reported report rfl
  have same := covers report loads run
  rwa [names, count, UInt32.toNat_ofNat'] at same

/-- Every report counts the tensors of its chunks exactly if no eager tensor lies outside the
selected chunks, but for as many as the cast to `u32` drops. -/
theorem execute_countsCovered_iff (crates : Crates) (loader : ChunkLoader)
    (strategy : WarmupStrategy) :
    CountsCovered crates loader strategy ↔
      (loader.index.leftOut strategy.config).length =
        loader.index.eagerTensors.length / 2 ^ 32 * 2 ^ 32 := by
  have parts := length_covered strategy.config loader.index
  constructor
  · intro covers
    have cast := mod_of_countsCovered crates loader strategy covers
    omega
  · intro dropped report loads run
    obtain ⟨_, reported⟩ := run.of_stepping (wlp_execute crates loader strategy)
    obtain ⟨_, names, count⟩ := reported report rfl
    rw [names, count, UInt32.toNat_ofNat']
    omega

/-- Only the chunk of the tokenizer is loaded, and two tensors are reported. -/
theorem execute_countsTheTruncated :
    ¬ CountsCovered idleCrates normFirstLoader { config := { maxChunks := 1 } } := by
  intro covers
  have cast := mod_of_countsCovered idleCrates normFirstLoader _ covers
  revert cast
  decide +kernel

end TriAI.Chunk
