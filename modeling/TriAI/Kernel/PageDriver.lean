import Mathlib
import TriAI.Library.Subprogram

/-!
Contract: the kernel module `tri_ai_worker.c` of the engine.

Owns: `tri_ioctl` with its commands, in which a critical section under `g_tracked_lock` is
one call; what the calls of any number of threads leave of the page table in every
interleaving, what the statistics say, and what unloading gives back.

Does not own: the pages' contents, the log, and loading the module. The kernel unloads a
module that no thread uses. A thread that is inside an `ioctl` goes on to its end.
-/

set_option autoImplicit false

namespace TriAI.Kernel.PageDriver

open TriAI.Library.Interaction

/-- The errors of an `ioctl`. -/
inductive Errno where
  | eperm
  | eio
  | ebadf
  | enomem
  | efault
  | einval
  | enotty
deriving DecidableEq

/-- What an `ioctl` returns: 0, or a negative error number. -/
abbrev Outcome : Type := Except Errno Unit

/-! ## The page table -/

inductive Tier where
  | vram
  | ram
  | disk
deriving DecidableEq

structure TrackedPage where
  page : Nat
  sizeBytes : UInt64
  tier : Tier
  isHot : Bool
  isPinned : Bool
  allocatedAt : UInt64
deriving DecidableEq

structure TriStats where
  vramPages : UInt64 := 0
  ramPages : UInt64 := 0
  diskPages : UInt64 := 0
  evictions : UInt64 := 0
  prefetches : UInt64 := 0
  overallPressure : Int32 := 0
deriving DecidableEq

structure PrefetchReq where
  fd : Int32
  offset : Int64
  len : UInt64

/-- `MAX_TRACKED_PAGES`. -/
def maxTrackedPages : Nat := 256

/-- `MAX_ORDER`. -/
def maxOrder : Nat := 11

/-- `get_order`, with pages of 4 KiB. -/
def getOrder (size : UInt64) : Nat := Nat.size ((size - 1) >>> 12).toNat

/-- `validate_size`. -/
def validateSize (sizeMb : UInt64) : Outcome :=
  if sizeMb = 0 then .error .einval
  else if maxOrder ≤ getOrder (sizeMb * 1024 * 1024) then .error .enomem
  else if 4096 < sizeMb then .error .einval
  else .ok ()

/-- The globals of the module, and with which order every page is allocated to it. What is
freed otherwise than it was allocated is counted. -/
structure World where
  tracked : List TrackedPage := []
  evictions : UInt64 := 0
  prefetches : UInt64 := 0
  live : Nat → Option Nat := fun _ => none
  badFrees : Nat := 0

namespace World

/-- `__free_pages`. -/
def freePages (world : World) (page order : Nat) : World :=
  if world.live page = some order then
    { world with live := Function.update world.live page none }
  else { world with badFrees := world.badFrees + 1 }

/-- The critical section of `allocate_hugepage`. -/
def track (world : World) (page : Nat) (sizeBytes jiffies : UInt64) : Bool × World :=
  if maxTrackedPages ≤ world.tracked.length then (false, world)
  else (true, { world with tracked := world.tracked ++
    [{ page, sizeBytes, tier := .vram, isHot := false, isPinned := false
       allocatedAt := jiffies }] })

/-- Which pages `evict_pages` moves. -/
def evictable (tracked : TrackedPage) : Bool :=
  !tracked.isPinned && (tracked.tier = .vram && !tracked.isHot)

/-- One round of the loop of `evict_pages`. -/
def evictOne (tracked : TrackedPage) : TrackedPage :=
  if evictable tracked then { tracked with tier := .ram } else tracked

/-- The critical section of `evict_pages`. -/
def evict (world : World) : World :=
  { world with
    tracked := world.tracked.map evictOne
    evictions := world.evictions + UInt64.ofNat (world.tracked.countP evictable) }

/-- One round of the loop of `get_stats`. -/
def countTier (stats : TriStats) (tracked : TrackedPage) : TriStats :=
  match tracked.tier with
  | .vram => { stats with vramPages := stats.vramPages + 1 }
  | .ram => { stats with ramPages := stats.ramPages + 1 }
  | .disk => { stats with diskPages := stats.diskPages + 1 }

/-- The critical section of `get_stats`. -/
def stats (world : World) : TriStats :=
  let stats := world.tracked.foldl countTier {}
  { stats with
    evictions := world.evictions
    prefetches := world.prefetches
    overallPressure := if 200 < stats.vramPages then 1 else 0 }

/-- `tri_ai_exit`, as far as pages are concerned. -/
def exit (world : World) : World :=
  { world.tracked.foldl
      (fun world tracked => world.freePages tracked.page (getOrder tracked.sizeBytes)) world with
    tracked := [] }

end World

/-! ## The commands -/

/-- The calls of an `ioctl`. -/
inductive DriverOp where
  /-- `capable(CAP_SYS_ADMIN)`. -/
  | capable
  /-- `copy_from_user`. -/
  | copyWord
  | copyInt
  | copyPrefetchReq
  | allocPages (order : Nat)
  | freePages (page order : Nat)
  | track (page : Nat) (sizeBytes : UInt64)
  | evict
  | countTiers
  /-- `copy_to_user`. -/
  | copyStats (stats : TriStats)
  | zallocCpumask
  | setCpusAllowed (cpu : Int32)
  | fget (fd : Int32)
  /-- Whether the file has a mapping with operations. -/
  | hasMapping
  | kernelRead (offset : Int64)
  | fput
  /-- `g_prefetches++`, which is not under the lock. -/
  | loadPrefetches
  | storePrefetches (count : UInt64)

@[reducible] def DriverOp.Reply : DriverOp → Type
  | .capable | .track _ _ | .copyStats _ | .zallocCpumask | .fget _ | .hasMapping => Bool
  | .copyWord => Option UInt64
  | .copyInt => Option Int32
  | .copyPrefetchReq => Option PrefetchReq
  | .allocPages _ => Option Nat
  | .countTiers => TriStats
  | .loadPrefetches => UInt64
  | .freePages _ _ | .evict | .setCpusAllowed _ | .kernelRead _ | .fput | .storePrefetches _ => Unit

abbrev Driver (α : Type) : Type := Prog DriverOp DriverOp.Reply α

/-- `allocate_hugepage`. -/
def allocateHugepage (sizeMb : UInt64) : Driver Outcome :=
  match validateSize sizeMb with
  | .error error => pure (.error error)
  | .ok () => do
      let order := getOrder (sizeMb * 1024 * 1024)
      let page : Option Nat ← Prog.perform (DriverOp.allocPages order)
      match page with
      | none => pure (.error .enomem)
      | some page => do
          let tracked : Bool ← Prog.perform (DriverOp.track page (sizeMb * 1024 * 1024))
          if tracked then pure (.ok ())
          else do
            Prog.perform (DriverOp.freePages page order)
            pure (.error .enomem)

/-- `pin_cpu`. -/
def pinCpu (nrCpuIds : Int32) (cpuId : Int32) : Driver Outcome :=
  if cpuId < 0 ∨ nrCpuIds ≤ cpuId then pure (.error .einval)
  else do
    let allocated : Bool ← Prog.perform DriverOp.zallocCpumask
    if allocated then do
      Prog.perform (DriverOp.setCpusAllowed cpuId)
      pure (.ok ())
    else pure (.error .enomem)

/-- `prefetch_disk`. -/
def prefetchDisk : Driver Outcome := do
  let req : Option PrefetchReq ← Prog.perform DriverOp.copyPrefetchReq
  match req with
  | none => pure (.error .efault)
  | some req =>
      if req.len = 0 ∨ 2 ^ 40 < req.len.toNat then pure (.error .einval)
      else do
        let isFile : Bool ← Prog.perform (DriverOp.fget req.fd)
        if isFile then do
          let mapped : Bool ← Prog.perform DriverOp.hasMapping
          if mapped then do
            Prog.perform (DriverOp.kernelRead req.offset)
            Prog.perform DriverOp.fput
            let prefetches : UInt64 ← Prog.perform DriverOp.loadPrefetches
            Prog.perform (DriverOp.storePrefetches (prefetches + 1))
            pure (.ok ())
          else do
            Prog.perform DriverOp.fput
            pure (.error .eio)
        else pure (.error .ebadf)

/-- `evict_pages`; the priority is only logged. -/
def evictPages (_minPriority : UInt64) : Driver Outcome := do
  Prog.perform DriverOp.evict
  pure (.ok ())

/-- `get_stats`. -/
def getStats : Driver Outcome := do
  let stats : TriStats ← Prog.perform DriverOp.countTiers
  let copied : Bool ← Prog.perform (DriverOp.copyStats stats)
  pure (if copied then .ok () else .error .efault)

/-- `_IOWR`, of the magic `t`. -/
def iowr (nr size : UInt32) : UInt32 :=
  (3 : UInt32) <<< 30 ||| size <<< 16 ||| (0x74 : UInt32) <<< 8 ||| nr

def allocHugepageCmd : UInt32 := iowr 0 8
def pinCpuCmd : UInt32 := iowr 1 4
def prefetchDiskCmd : UInt32 := iowr 2 24
def evictCmd : UInt32 := iowr 3 8
def getStatsCmd : UInt32 := iowr 4 48

/-- The argument of a command, copied from the user. -/
def withArgument {α : Type} (copied : Option α) (command : α → Driver Outcome) : Driver Outcome :=
  match copied with
  | none => pure (.error .efault)
  | some argument => command argument

/-- `tri_ioctl`. -/
def triIoctl (nrCpuIds : Int32) (cmd : UInt32) : Driver Outcome := do
  let allowed : Bool ← Prog.perform DriverOp.capable
  if !allowed then pure (.error .eperm)
  else if cmd = allocHugepageCmd then do
    let sizeMb : Option UInt64 ← Prog.perform DriverOp.copyWord
    withArgument sizeMb allocateHugepage
  else if cmd = pinCpuCmd then do
    let cpuId : Option Int32 ← Prog.perform DriverOp.copyInt
    withArgument cpuId (pinCpu nrCpuIds)
  else if cmd = prefetchDiskCmd then prefetchDisk
  else if cmd = evictCmd then do
    let minPriority : Option UInt64 ← Prog.perform DriverOp.copyWord
    withArgument minPriority evictPages
  else if cmd = getStatsCmd then getStats
  else pure (.error .enotty)

/-! ## Sizes -/

/-- Up to 4096 MiB the number of bytes does not wrap around. -/
theorem toNat_megabytes {sizeMb : UInt64} (small : sizeMb.toNat ≤ 4096) :
    (sizeMb * 1024 * 1024).toNat = sizeMb.toNat * 1048576 := by
  simp only [UInt64.toNat_mul]
  simp
  omega

/-- Of the sizes up to 4096 MiB only those up to 4 MiB are below the largest order. -/
theorem validateSize_iff (sizeMb : UInt64) :
    validateSize sizeMb = .ok () ↔ 1 ≤ sizeMb.toNat ∧ sizeMb.toNat ≤ 4 := by
  have notZero : sizeMb = 0 ↔ sizeMb.toNat = 0 := by
    rw [← UInt64.toNat_inj]
    rfl
  unfold validateSize
  by_cases zero : sizeMb = 0
  · rw [if_pos zero]
    rw [notZero] at zero
    exact iff_of_false (by simp) (by omega)
  · rw [if_neg zero]
    rw [notZero] at zero
    by_cases large : 4096 < sizeMb
    · have large' : 4096 < sizeMb.toNat := by simpa [UInt64.lt_iff_toNat_lt] using large
      rw [if_pos large]
      apply iff_of_false
      · split <;> simp
      · omega
    · have small : sizeMb.toNat ≤ 4096 := by simpa [UInt64.lt_iff_toNat_lt] using large
      have bytes : (sizeMb * 1024 * 1024 - 1).toNat = sizeMb.toNat * 1048576 - 1 := by
        have product := toNat_megabytes small
        have positive : (1 : UInt64) ≤ sizeMb * 1024 * 1024 := by
          rw [UInt64.le_iff_toNat_le, product]
          show 1 ≤ _
          omega
        rw [UInt64.toNat_sub_of_le _ _ positive, product]
        rfl
      have order : maxOrder ≤ getOrder (sizeMb * 1024 * 1024) ↔ 4 < sizeMb.toNat := by
        unfold maxOrder getOrder
        rw [← not_iff_not, Nat.not_le, Nat.lt_succ_iff, Nat.size_le, UInt64.toNat_shiftRight, bytes]
        simp [Nat.shiftRight_eq_div_pow]
        omega
      rw [if_neg large]
      by_cases fits : sizeMb.toNat ≤ 4
      · rw [if_neg (by omega)]
        exact iff_of_true rfl ⟨by omega, fits⟩
      · rw [if_pos (by omega)]
        exact iff_of_false (by simp) (by omega)

/-! ## Threads -/

/-- A call by a thread. A page that is handed out is not in use. -/
def World.Answers (world : World) : (op : DriverOp) → op.Reply → World → Prop
  | .allocPages order, some page, after => world.live page = none ∧
      after = { world with live := Function.update world.live page (some order) }
  | .freePages page order, _, after => after = world.freePages page order
  | .track page sizeBytes, tracked, after =>
      ∃ jiffies, (tracked, after) = world.track page sizeBytes jiffies
  | .evict, _, after => after = world.evict
  | .countTiers, stats, after => stats = world.stats ∧ after = world
  | .loadPrefetches, prefetches, after => prefetches = world.prefetches ∧ after = world
  | .storePrefetches prefetches, _, after => after = { world with prefetches }
  | _, _, after => after = world

variable {Id : Type}

/-- Any number of threads that call the module, one command after the other. -/
def driverSystem (Id : Type) (nrCpuIds : Int32) :
    System Id DriverOp DriverOp.Reply Outcome World where
  Offers := fun _ _ program => ∃ cmd, program = triIoctl nrCpuIds cmd
  Step := fun _ world => world.Answers
  Environment := fun _ _ => False

abbrev DriverPool (Id : Type) : Type := Pool Id DriverOp DriverOp.Reply Outcome World

/-- The module after it has been loaded. -/
def loaded (Id : Type) : DriverPool Id where
  world := {}
  activity := fun _ => .resting (.ok ())

/-- What a thread has to itself: a page that is allocated and not tracked. -/
inductive ThreadView where
  | nothing
  | owns (page order : Nat)

/-- A size that `validate_size` accepts. -/
def IsSize (sizeBytes : UInt64) : Prop :=
  ∃ sizeMb, validateSize sizeMb = .ok () ∧ sizeBytes = sizeMb * 1024 * 1024

theorem IsSize.le {sizeBytes : UInt64} (isSize : IsSize sizeBytes) :
    sizeBytes.toNat ≤ 2 ^ 22 := by
  obtain ⟨sizeMb, valid, rfl⟩ := isSize
  have small := (validateSize_iff sizeMb).mp valid
  rw [toNat_megabytes (by omega)]
  omega

/-- What a thread may call, and what it has to itself then. -/
def driverContract : Contract DriverOp DriverOp.Reply ThreadView where
  Admits := fun view op =>
    match op with
    | .allocPages _ => view = .nothing
    | .track page sizeBytes => view = .owns page (getOrder sizeBytes) ∧ IsSize sizeBytes
    | .freePages page order => view = .owns page order
    | _ => True
  Answers := fun view op reply after =>
    match op, reply with
    | .allocPages order, some page => after = .owns page order
    | .track _ _, tracked => after = if tracked then .nothing else view
    | .freePages _ _, _ => after = .nothing
    | _, _ => after = view

/-- A thread that returns has nothing to itself. -/
def DriverRest (_outcome : Outcome) (view : ThreadView) : Prop := view = .nothing

/-- A call that neither allocates a page nor moves one. -/
def UsesNoPage : DriverOp → Prop
  | .allocPages _ | .track _ _ | .freePages _ _ => False
  | _ => True

theorem wlp_of_usesNoPage {program : Driver Outcome} (only : program.Only UsesNoPage) :
    wlp driverContract program DriverRest .nothing := by
  refine Prog.Only.keeps ?_ only rfl
  rintro op allowed view rfl
  cases op <;> first
    | exact allowed.elim
    | exact ⟨trivial, fun _ _ same => same⟩

theorem pinCpu_usesNoPage (nrCpuIds cpuId : Int32) :
    (pinCpu nrCpuIds cpuId).Only UsesNoPage := by
  unfold pinCpu
  split
  · trivial
  · refine ⟨trivial, fun allocated => ?_⟩
    cases allocated with
    | true => exact ⟨trivial, fun _ => trivial⟩
    | false => trivial

theorem prefetchDisk_usesNoPage : prefetchDisk.Only UsesNoPage := by
  refine ⟨trivial, fun req => ?_⟩
  cases req with
  | none => trivial
  | some req =>
      show Prog.Only UsesNoPage (if req.len = 0 ∨ 2 ^ 40 < req.len.toNat then _ else _)
      split
      · trivial
      · refine ⟨trivial, fun isFile => ?_⟩
        cases isFile with
        | false => trivial
        | true =>
            refine ⟨trivial, fun mapped => ?_⟩
            cases mapped with
            | false => exact ⟨trivial, fun _ => trivial⟩
            | true => exact ⟨trivial, fun _ => ⟨trivial, fun _ => ⟨trivial, fun _ =>
                ⟨trivial, fun _ => trivial⟩⟩⟩⟩

theorem getStats_usesNoPage : getStats.Only UsesNoPage :=
  ⟨trivial, fun _ => ⟨trivial, fun _ => trivial⟩⟩

theorem allocateHugepage_wlp (sizeMb : UInt64) :
    wlp driverContract (allocateHugepage sizeMb) DriverRest .nothing := by
  unfold allocateHugepage
  cases valid : validateSize sizeMb with
  | error error => rfl
  | ok done =>
      refine ⟨rfl, fun page view learned => ?_⟩
      cases page with
      | none =>
          obtain rfl : view = .nothing := learned
          rfl
      | some page =>
          obtain rfl : view = .owns page (getOrder (sizeMb * 1024 * 1024)) := learned
          refine ⟨⟨rfl, sizeMb, valid, rfl⟩, fun tracked view learned => ?_⟩
          cases tracked with
          | true => exact learned
          | false =>
              obtain rfl : view = .owns page (getOrder (sizeMb * 1024 * 1024)) := learned
              exact ⟨rfl, fun _ view learned => learned⟩

theorem triIoctl_wlp (nrCpuIds : Int32) (cmd : UInt32) :
    wlp driverContract (triIoctl nrCpuIds cmd) DriverRest .nothing := by
  refine ⟨trivial, fun allowed view same => ?_⟩
  obtain rfl : view = .nothing := same
  show wlp driverContract (if !allowed then _ else _) _ _
  split
  · rfl
  split
  · refine ⟨trivial, fun sizeMb view same => ?_⟩
    obtain rfl : view = .nothing := same
    cases sizeMb with
    | none => rfl
    | some sizeMb => exact allocateHugepage_wlp sizeMb
  · apply wlp_of_usesNoPage
    split
    · refine ⟨trivial, fun cpuId => ?_⟩
      cases cpuId with
      | none => trivial
      | some cpuId => exact pinCpu_usesNoPage nrCpuIds cpuId
    split
    · exact prefetchDisk_usesNoPage
    split
    · refine ⟨trivial, fun minPriority => ?_⟩
      cases minPriority with
      | none => trivial
      | some minPriority => exact ⟨trivial, fun _ => trivial⟩
    split
    · exact getStats_usesNoPage
    · trivial

/-! ## Invariant -/

/-- What `allocate_hugepage` and `evict_pages` leave of a tracked page. -/
structure TrackedPage.Sound (tracked : TrackedPage) : Prop where
  size : IsSize tracked.sizeBytes
  tier : tracked.tier ≠ .disk
  cold : tracked.isHot = false
  unpinned : tracked.isPinned = false

/-- Every page that is allocated is either tracked or in the hands of one thread. -/
structure Accounted (world : World) (views : Id → ThreadView) : Prop where
  few : world.tracked.length ≤ maxTrackedPages
  sound : ∀ tracked ∈ world.tracked, tracked.Sound
  distinct : (world.tracked.map TrackedPage.page).Nodup
  live : ∀ page order, world.live page = some order ↔
    (∃ tracked ∈ world.tracked, tracked.page = page ∧ getOrder tracked.sizeBytes = order) ∨
      ∃ id, views id = .owns page order
  untracked : ∀ id page order, views id = .owns page order →
    page ∉ world.tracked.map TrackedPage.page
  apart : ∀ first second page order other, views first = .owns page order →
    views second = .owns page other → first = second
  evictions : world.evictions.toNat = world.tracked.countP (·.tier = .ram)
  freed : world.badFrees = 0

section Steps

variable [DecidableEq Id] {world : World} {views : Id → ThreadView} {id : Id} {page order : Nat}

omit [DecidableEq Id] in
/-- A page that is allocated to nobody is in nobody's hands. -/
private theorem Accounted.unused (accounted : Accounted world views)
    (fresh : world.live page = none) :
    page ∉ world.tracked.map TrackedPage.page ∧ ∀ id order, views id ≠ .owns page order := by
  constructor
  · intro member
    obtain ⟨tracked, isTracked, same⟩ := List.mem_map.mp member
    have live := (accounted.live page _).mpr (.inl ⟨tracked, isTracked, same, rfl⟩)
    rw [fresh] at live
    cases live
  · intro id order owns
    have live := (accounted.live page order).mpr (.inr ⟨id, owns⟩)
    rw [fresh] at live
    cases live

/-- A thread gets a page. -/
private theorem Accounted.allocate (accounted : Accounted world views)
    (fresh : world.live page = none) (nothing : views id = .nothing) :
    Accounted { world with live := Function.update world.live page (some order) }
      (Function.update views id (.owns page order)) where
  few := accounted.few
  sound := accounted.sound
  distinct := accounted.distinct
  live := by
    obtain ⟨notTracked, notOwned⟩ := accounted.unused fresh
    intro other size
    by_cases same : other = page
    · subst same
      simp only [Function.update_self, Option.some.injEq]
      constructor
      · rintro rfl
        exact .inr ⟨id, by simp⟩
      · rintro (⟨tracked, isTracked, isPage, _⟩ | ⟨owner, owns⟩)
        · exact absurd (List.mem_map.mpr ⟨tracked, isTracked, isPage⟩) notTracked
        · by_cases own : owner = id
          · subst own
            simp only [Function.update_self, ThreadView.owns.injEq] at owns
            exact owns.2
          · rw [Function.update_of_ne own] at owns
            exact absurd owns (notOwned owner size)
    · simp only [Function.update_of_ne same, accounted.live]
      refine or_congr_right ⟨?_, ?_⟩
      · rintro ⟨owner, owns⟩
        have own : owner ≠ id := by
          rintro rfl
          rw [nothing] at owns
          cases owns
        exact ⟨owner, (Function.update_of_ne own ..).trans owns⟩
      · rintro ⟨owner, owns⟩
        by_cases own : owner = id
        · subst own
          simp only [Function.update_self, ThreadView.owns.injEq] at owns
          exact absurd owns.1.symm same
        · rw [Function.update_of_ne own] at owns
          exact ⟨owner, owns⟩
  untracked := by
    intro owner other size owns
    by_cases own : owner = id
    · subst own
      simp only [Function.update_self, ThreadView.owns.injEq] at owns
      obtain ⟨rfl, rfl⟩ := owns
      exact (accounted.unused fresh).1
    · rw [Function.update_of_ne own] at owns
      exact accounted.untracked owner other size owns
  apart := by
    intro first second other size another ownsFirst ownsSecond
    have notOwned := (accounted.unused fresh).2
    by_cases isFirst : first = id
    · by_cases isSecond : second = id
      · rw [isFirst, isSecond]
      · subst isFirst
        simp only [Function.update_self, ThreadView.owns.injEq] at ownsFirst
        rw [Function.update_of_ne isSecond, ← ownsFirst.1] at ownsSecond
        exact absurd ownsSecond (notOwned second another)
    · rw [Function.update_of_ne isFirst] at ownsFirst
      by_cases isSecond : second = id
      · subst isSecond
        simp only [Function.update_self, ThreadView.owns.injEq] at ownsSecond
        rw [← ownsSecond.1] at ownsFirst
        exact absurd ownsFirst (notOwned first size)
      · rw [Function.update_of_ne isSecond] at ownsSecond
        exact accounted.apart first second other size another ownsFirst ownsSecond
  evictions := accounted.evictions
  freed := accounted.freed

/-- The owner of a page gives it away, to the page table or to the kernel. -/
private theorem Accounted.without (accounted : Accounted world views)
    (owns : views id = .owns page order) (other size : Nat) :
    (∃ owner, Function.update views id .nothing owner = .owns other size) ↔
      (∃ owner, views owner = .owns other size) ∧ other ≠ page := by
  constructor
  · rintro ⟨owner, ownsOther⟩
    have own : owner ≠ id := by
      rintro rfl
      simp at ownsOther
    rw [Function.update_of_ne own] at ownsOther
    refine ⟨⟨owner, ownsOther⟩, ?_⟩
    rintro rfl
    exact own (accounted.apart owner id other size order ownsOther owns)
  · rintro ⟨⟨owner, ownsOther⟩, different⟩
    have own : owner ≠ id := by
      rintro rfl
      rw [owns] at ownsOther
      exact different (ThreadView.owns.inj ownsOther).1.symm
    exact ⟨owner, (Function.update_of_ne own ..).trans ownsOther⟩

private theorem owned_of_without {owner : Id} {other size : Nat}
    (owns : Function.update views id .nothing owner = .owns other size) :
    views owner = .owns other size := by
  by_cases own : owner = id
  · subst own
    simp at owns
  · rwa [Function.update_of_ne own] at owns

/-- A thread frees the page it has. -/
private theorem Accounted.free (accounted : Accounted world views)
    (owns : views id = .owns page order) :
    Accounted (world.freePages page order) (Function.update views id .nothing) := by
  have live : world.live page = some order := (accounted.live page order).mpr (.inr ⟨id, owns⟩)
  have notTracked := accounted.untracked id page order owns
  rw [World.freePages, if_pos live]
  refine ⟨accounted.few, accounted.sound, accounted.distinct, ?_, ?_, ?_, accounted.evictions,
    accounted.freed⟩
  · intro other size
    rw [accounted.without owns]
    by_cases same : other = page
    · subst same
      simp only [Function.update_self, reduceCtorEq, ne_eq, not_true, and_false, or_false,
        false_iff]
      rintro ⟨tracked, isTracked, isPage, _⟩
      exact notTracked (List.mem_map.mpr ⟨tracked, isTracked, isPage⟩)
    · simp [accounted.live, same]
  · intro owner other size ownsOther
    exact accounted.untracked owner other size (owned_of_without ownsOther)
  · intro first second other size another ownsFirst ownsSecond
    exact accounted.apart first second other size another (owned_of_without ownsFirst)
      (owned_of_without ownsSecond)

/-- A thread puts the page it has into the table. -/
private theorem Accounted.track (accounted : Accounted world views) {sizeBytes jiffies : UInt64}
    (owns : views id = .owns page (getOrder sizeBytes)) (size : IsSize sizeBytes) :
    Accounted (world.track page sizeBytes jiffies).2 (Function.update views id
      (if (world.track page sizeBytes jiffies).1 then .nothing else views id)) := by
  unfold World.track
  by_cases full : maxTrackedPages ≤ world.tracked.length
  · simpa [if_pos full, Function.update_eq_self] using accounted
  · have notTracked := accounted.untracked id page _ owns
    have live := (accounted.live page _).mpr (.inr ⟨id, owns⟩)
    simp only [if_neg full, if_true]
    constructor
    · rw [List.length_append]
      exact Nat.not_le.mp full
    · intro tracked member
      rcases List.mem_append.mp member with old | new
      · exact accounted.sound tracked old
      · obtain rfl := List.mem_singleton.mp new
        exact ⟨size, by simp, rfl, rfl⟩
    · rw [List.map_append, List.nodup_append]
      refine ⟨accounted.distinct, by simp, ?_⟩
      intro other member another isNew same
      obtain rfl := List.mem_singleton.mp isNew
      exact notTracked (same ▸ member)
    · intro other order
      rw [accounted.without owns]
      by_cases same : other = page
      · subst same
        rw [live, Option.some.injEq]
        constructor
        · intro sameOrder
          exact .inl ⟨_, List.mem_append_right _ (List.mem_singleton_self _), rfl, sameOrder⟩
        · rintro (⟨tracked, member, isPage, sameOrder⟩ | ⟨_, different⟩)
          · rcases List.mem_append.mp member with old | new
            · exact absurd (List.mem_map.mpr ⟨tracked, old, isPage⟩) notTracked
            · obtain rfl := List.mem_singleton.mp new
              exact sameOrder
          · exact absurd rfl different
      · rw [accounted.live]
        refine or_congr ⟨?_, ?_⟩ ⟨fun owned => ⟨owned, same⟩, fun owned => owned.1⟩
        · rintro ⟨tracked, member, isPage⟩
          exact ⟨tracked, List.mem_append_left _ member, isPage⟩
        · rintro ⟨tracked, member, isPage, sameOrder⟩
          rcases List.mem_append.mp member with old | new
          · exact ⟨tracked, old, isPage, sameOrder⟩
          · obtain rfl := List.mem_singleton.mp new
            exact absurd isPage.symm same
    · intro owner other order ownsOther
      have different := ((accounted.without owns other order).mp ⟨owner, ownsOther⟩).2
      have old := accounted.untracked owner other order (owned_of_without ownsOther)
      rw [List.map_append, List.mem_append]
      rintro (member | isNew)
      · exact old member
      · exact different (List.mem_singleton.mp isNew)
    · intro first second other order another ownsFirst ownsSecond
      exact accounted.apart first second other order another (owned_of_without ownsFirst)
        (owned_of_without ownsSecond)
    · rw [List.countP_append, accounted.evictions]
      rfl
    · exact accounted.freed

@[simp] theorem evictOne_page (tracked : TrackedPage) :
    (World.evictOne tracked).page = tracked.page := by
  unfold World.evictOne
  split <;> rfl

@[simp] theorem evictOne_sizeBytes (tracked : TrackedPage) :
    (World.evictOne tracked).sizeBytes = tracked.sizeBytes := by
  unfold World.evictOne
  split <;> rfl

theorem TrackedPage.Sound.evictOne {tracked : TrackedPage} (sound : tracked.Sound) :
    (World.evictOne tracked).Sound := by
  unfold World.evictOne
  split
  · exact ⟨sound.size, by simp, sound.cold, sound.unpinned⟩
  · exact sound

/-- Every eviction leaves one more page in the second tier. -/
private theorem evict_counts {pages : List TrackedPage}
    (sound : ∀ tracked ∈ pages, tracked.Sound) :
    (pages.map World.evictOne).countP (·.tier = .ram) =
      pages.countP (·.tier = .ram) + pages.countP World.evictable := by
  induction pages with
  | nil => rfl
  | cons tracked rest inductionHypothesis =>
      obtain ⟨first, others⟩ := List.forall_mem_cons.mp sound
      simp only [List.map_cons, List.countP_cons, inductionHypothesis others]
      cases tier : tracked.tier with
      | vram =>
          have moves : World.evictable tracked = true := by
            simp [World.evictable, tier, first.cold, first.unpinned]
          simp [World.evictOne, moves]
          omega
      | ram =>
          have stays : World.evictable tracked = false := by simp [World.evictable, tier]
          simp [World.evictOne, stays, tier]
          omega
      | disk => exact absurd tier first.tier

omit [DecidableEq Id] in
/-- Eviction moves pages between the tiers and nothing else. -/
private theorem Accounted.evict (accounted : Accounted world views) :
    Accounted world.evict views := by
  have samePages : (world.tracked.map World.evictOne).map TrackedPage.page =
      world.tracked.map TrackedPage.page := by
    rw [List.map_map]
    exact List.map_congr_left fun tracked _ => evictOne_page tracked
  have counts := evict_counts accounted.sound
  have few : (world.tracked.map World.evictOne).countP (·.tier = .ram) ≤ maxTrackedPages := by
    have atMost : (world.tracked.map World.evictOne).countP (·.tier = .ram) ≤
        (world.tracked.map World.evictOne).length := List.countP_le_length
    have short := accounted.few
    rw [List.length_map] at atMost
    omega
  constructor
  · rw [World.evict, List.length_map]
    exact accounted.few
  · intro tracked member
    obtain ⟨old, wasTracked, rfl⟩ := List.mem_map.mp member
    exact (accounted.sound old wasTracked).evictOne
  · rw [World.evict, samePages]
    exact accounted.distinct
  · intro page order
    rw [show world.evict.live = world.live from rfl, accounted.live]
    simp [World.evict]
  · intro id page order owns
    rw [World.evict, samePages]
    exact accounted.untracked id page order owns
  · exact accounted.apart
  · have evictions := accounted.evictions
    show (world.evictions + UInt64.ofNat _).toNat = _
    rw [World.evict, counts]
    simp only [UInt64.toNat_add, UInt64.toNat_ofNat']
    unfold maxTrackedPages at few
    omega
  · exact accounted.freed

end Steps

theorem loaded_safe : (loaded Id).Safe driverContract DriverRest Accounted := by
  refine ⟨fun _ => .nothing, ?_, fun _ => rfl⟩
  constructor <;> simp [loaded]

section Pools

variable [DecidableEq Id] {nrCpuIds : Int32}

theorem driverSystem_respects :
    (driverSystem Id nrCpuIds).Respects driverContract DriverRest Accounted where
  offered := by
    rintro id outcome _ view rest ⟨cmd, rfl⟩
    obtain rfl : view = .nothing := rest
    exact triIoctl_wlp nrCpuIds cmd
  step := by
    intro id world views op reply after accounted admitted answered
    cases op with
    | allocPages order =>
        cases reply with
        | none =>
            obtain rfl : after = world := answered
            refine ⟨_, rfl, ?_⟩
            rw [Function.update_eq_self]
            exact accounted
        | some page =>
            obtain ⟨fresh, rfl⟩ := answered
            exact ⟨_, rfl, accounted.allocate fresh admitted⟩
    | track page sizeBytes =>
        obtain ⟨jiffies, done⟩ := answered
        obtain ⟨rfl, rfl⟩ := Prod.mk.inj done
        exact ⟨_, rfl, accounted.track admitted.1 admitted.2⟩
    | freePages page order =>
        obtain rfl : after = world.freePages page order := answered
        exact ⟨_, rfl, accounted.free admitted⟩
    | evict =>
        obtain rfl : after = world.evict := answered
        refine ⟨_, rfl, ?_⟩
        rw [Function.update_eq_self]
        exact accounted.evict
    | countTiers =>
        obtain ⟨_, rfl⟩ := answered
        refine ⟨_, rfl, ?_⟩
        rw [Function.update_eq_self]
        exact accounted
    | loadPrefetches =>
        obtain ⟨_, rfl⟩ := answered
        refine ⟨_, rfl, ?_⟩
        rw [Function.update_eq_self]
        exact accounted
    | storePrefetches prefetches =>
        obtain rfl : after = { world with prefetches } := answered
        refine ⟨_, rfl, ?_⟩
        rw [Function.update_eq_self]
        exact ⟨accounted.few, accounted.sound, accounted.distinct, accounted.live,
          accounted.untracked, accounted.apart, accounted.evictions, accounted.freed⟩
    | capable | copyWord | copyInt | copyPrefetchReq | copyStats _ | zallocCpumask
    | setCpusAllowed _ | fget _ | hasMapping | kernelRead _ | fput =>
        obtain rfl : after = world := answered
        refine ⟨_, rfl, ?_⟩
        rw [Function.update_eq_self]
        exact accounted
  environment := fun _ _ _ _ impossible => impossible.elim

/-! ## Pages -/

omit [DecidableEq Id] in
/-- Freeing pages that are allocated as they are recorded. -/
private theorem freePages_foldl {pages : List TrackedPage} (world : World)
    (distinct : (pages.map TrackedPage.page).Nodup)
    (live : ∀ tracked ∈ pages, world.live tracked.page = some (getOrder tracked.sizeBytes)) :
    let after := pages.foldl
      (fun world tracked => world.freePages tracked.page (getOrder tracked.sizeBytes)) world
    after.badFrees = world.badFrees ∧ ∀ page, after.live page =
      if page ∈ pages.map TrackedPage.page then none else world.live page := by
  induction pages generalizing world with
  | nil => simp
  | cons tracked rest inductionHypothesis =>
      rw [List.map_cons, List.nodup_cons] at distinct
      obtain ⟨first, others⟩ := List.forall_mem_cons.mp live
      have freed : world.freePages tracked.page (getOrder tracked.sizeBytes) =
          { world with live := Function.update world.live tracked.page none } := if_pos first
      have stillLive : ∀ other ∈ rest, Function.update world.live tracked.page none other.page =
          some (getOrder other.sizeBytes) := by
        intro other member
        have different : other.page ≠ tracked.page := by
          intro same
          exact distinct.1 (same ▸ List.mem_map_of_mem member)
        rw [Function.update_of_ne different]
        exact others other member
      simp only [List.foldl_cons, freed]
      obtain ⟨noBadFree, left⟩ := inductionHypothesis
        { world with live := Function.update world.live tracked.page none } distinct.2 stillLive
      refine ⟨noBadFree, fun page => ?_⟩
      rw [left, List.map_cons]
      by_cases inRest : page ∈ rest.map TrackedPage.page
      · rw [if_pos inRest, if_pos (List.mem_cons_of_mem _ inRest)]
      · by_cases same : page = tracked.page
        · subst same
          simp
        · simp [inRest, same]

/-- What `tri_ai_exit` frees. -/
structure FreesAll (world : World) : Prop where
  freed : world.exit.badFrees = 0
  nothing : ∀ page, world.exit.live page = none

/-- In every interleaving at most 256 pages of at most 1 GiB are tracked and every page is freed
as it was allocated; when no thread uses the module exactly the tracked pages are allocated to it,
and unloading it gives back every one of them. -/
theorem pages_accounted {pool : DriverPool Id}
    (reachable : (driverSystem Id nrCpuIds).Reachable (loaded Id) pool) :
    pool.world.tracked.length ≤ 256 ∧
      (pool.world.tracked.map fun tracked => tracked.sizeBytes.toNat).sum ≤ 2 ^ 30 ∧
      pool.world.badFrees = 0 ∧
      ((∀ id, ∃ outcome, pool.activity id = .resting outcome) →
        (∀ page order, pool.world.live page = some order ↔
          ∃ tracked ∈ pool.world.tracked, tracked.page = page ∧
            getOrder tracked.sizeBytes = order) ∧ FreesAll pool.world) := by
  obtain ⟨views, accounted, meets⟩ := reachable.safe driverSystem_respects loaded_safe
  refine ⟨accounted.few, ?_, accounted.freed, fun unused => ?_⟩
  · have small : ∀ size ∈ pool.world.tracked.map fun tracked => tracked.sizeBytes.toNat,
        size ≤ 2 ^ 22 := by
      intro size member
      obtain ⟨tracked, isTracked, rfl⟩ := List.mem_map.mp member
      exact (accounted.sound tracked isTracked).size.le
    calc (pool.world.tracked.map fun tracked => tracked.sizeBytes.toNat).sum
        ≤ (pool.world.tracked.map fun tracked => tracked.sizeBytes.toNat).length • 2 ^ 22 :=
          List.sum_le_card_nsmul _ _ small
      _ = pool.world.tracked.length * 2 ^ 22 := by rw [List.length_map, smul_eq_mul]
      _ ≤ 256 * 2 ^ 22 := Nat.mul_le_mul_right _ accounted.few
      _ = 2 ^ 30 := by norm_num
  · have nothing : ∀ id, views id = .nothing := by
      intro id
      obtain ⟨outcome, atRest⟩ := unused id
      have owed := meets id
      rw [atRest] at owed
      exact owed
    have live : ∀ page order, pool.world.live page = some order ↔
        ∃ tracked ∈ pool.world.tracked, tracked.page = page ∧
          getOrder tracked.sizeBytes = order := by
      intro page order
      simp [accounted.live, nothing]
    obtain ⟨noBadFree, left⟩ := freePages_foldl pool.world accounted.distinct
      fun tracked isTracked => (live _ _).mpr ⟨tracked, isTracked, rfl, rfl⟩
    refine ⟨live, noBadFree.trans accounted.freed, fun page => ?_⟩
    show (pool.world.tracked.foldl _ pool.world).live page = none
    rw [left]
    by_cases isTracked : page ∈ pool.world.tracked.map TrackedPage.page
    · rw [if_pos isTracked]
    · rw [if_neg isTracked]
      by_contra allocated
      obtain ⟨order, allocated⟩ := Option.ne_none_iff_exists'.mp allocated
      obtain ⟨tracked, member, rfl, _⟩ := (live page order).mp allocated
      exact isTracked (List.mem_map_of_mem member)

/-! ## Statistics -/

/-- The tiers that the loop of `get_stats` counts. -/
private theorem countTier_foldl (pages : List TrackedPage) (stats : TriStats) :
    let after := pages.foldl World.countTier stats
    after.vramPages = stats.vramPages + UInt64.ofNat (pages.countP (·.tier = .vram)) ∧
      after.ramPages = stats.ramPages + UInt64.ofNat (pages.countP (·.tier = .ram)) ∧
      after.diskPages = stats.diskPages + UInt64.ofNat (pages.countP (·.tier = .disk)) := by
  induction pages generalizing stats with
  | nil => simp
  | cons tracked rest inductionHypothesis =>
      obtain ⟨vram, ram, disk⟩ := inductionHypothesis (World.countTier stats tracked)
      simp only [List.foldl_cons, List.countP_cons, vram, ram, disk]
      cases tier : tracked.tier <;>
        simp [World.countTier, tier, UInt64.ofNat_add, UInt64.add_assoc, UInt64.add_comm 1]

/-- In every interleaving the statistics count every tracked page once, none of them on disk,
and there have been as many evictions as there are pages in main memory. -/
theorem stats_sound {pool : DriverPool Id}
    (reachable : (driverSystem Id nrCpuIds).Reachable (loaded Id) pool) :
    pool.world.stats.vramPages.toNat + pool.world.stats.ramPages.toNat =
        pool.world.tracked.length ∧
      pool.world.stats.diskPages = 0 ∧
      pool.world.stats.evictions = pool.world.stats.ramPages ∧
      (pool.world.stats.overallPressure = 1 ↔ 200 < pool.world.stats.vramPages.toNat) := by
  obtain ⟨views, accounted, _⟩ := reachable.safe driverSystem_respects loaded_safe
  obtain ⟨vram, ram, disk⟩ := countTier_foldl pool.world.tracked {}
  rw [UInt64.zero_add] at vram ram disk
  have noDisk : pool.world.tracked.countP (·.tier = .disk) = 0 := by
    rw [List.countP_eq_zero]
    intro tracked isTracked
    simpa using (accounted.sound tracked isTracked).tier
  have isRam : pool.world.tracked.countP (fun tracked => ¬ decide (tracked.tier = .vram) = true) =
      pool.world.tracked.countP (·.tier = .ram) := by
    apply List.countP_congr
    intro tracked isTracked
    have notOnDisk := (accounted.sound tracked isTracked).tier
    cases tier : tracked.tier <;> simp_all
  have all := pool.world.tracked.length_eq_countP_add_countP (·.tier = .vram)
  rw [isRam] at all
  have few := accounted.few
  have evictions := accounted.evictions
  unfold maxTrackedPages at few
  have vramCount : pool.world.stats.vramPages.toNat =
      pool.world.tracked.countP (·.tier = .vram) := by
    rw [show pool.world.stats.vramPages = _ from vram]
    exact Nat.mod_eq_of_lt (by omega)
  have ramCount : pool.world.stats.ramPages.toNat =
      pool.world.tracked.countP (·.tier = .ram) := by
    rw [show pool.world.stats.ramPages = _ from ram]
    exact Nat.mod_eq_of_lt (by omega)
  refine ⟨?_, ?_, ?_, ?_⟩
  · omega
  · rw [show pool.world.stats.diskPages = _ from disk, noDisk]
    rfl
  · rw [← UInt64.toNat_inj, ramCount]
    exact evictions
  · show (if 200 < pool.world.stats.vramPages then (1 : Int32) else 0) = 1 ↔ _
    have same : 200 < pool.world.stats.vramPages ↔ 200 < pool.world.stats.vramPages.toNat :=
      UInt64.lt_iff_toNat_lt
    rw [← same]
    by_cases high : 200 < pool.world.stats.vramPages
    · simp [high]
    · simp [high]

end Pools

/-! ## A recorded run -/

/-- One thread allocates a page of 2 MiB and evicts it. -/
private theorem evictedPool : ∃ pool : DriverPool Unit,
    (driverSystem Unit 8).Reachable (loaded Unit) pool ∧
      pool.world.tracked = [⟨7, 2 * 1024 * 1024, .ram, false, false, 0⟩] ∧
      ∀ id, ∃ outcome, pool.activity id = .resting outcome := by
  have idle : (driverSystem Unit 8).Reachable (loaded Unit) (loaded Unit) := .refl
  have begun := idle.begin () (triIoctl 8 allocHugepageCmd) rfl ⟨_, rfl⟩
  have allowed := begun.call () rfl true _ rfl
  have copied := allowed.call () rfl (some 2) _ rfl
  have allocated := copied.call () rfl (some 7) _ ⟨rfl, rfl⟩
  have tracked := allocated.call () rfl true _ ⟨0, rfl⟩
  have returned := tracked.finish () rfl
  have begun := returned.begin () (triIoctl 8 evictCmd) rfl ⟨_, rfl⟩
  have allowed := begun.call () rfl true _ rfl
  have copied := allowed.call () rfl (some 0) _ rfl
  have evicted := copied.call () rfl () _ rfl
  exact ⟨_, evicted.finish () rfl, rfl, fun _ => ⟨_, rfl⟩⟩

theorem pages_accounted_evicted : ∃ pool : DriverPool Unit,
    pool.world.tracked = [⟨7, 2 * 1024 * 1024, .ram, false, false, 0⟩] ∧
      pool.world.tracked.length ≤ 256 ∧
      (pool.world.tracked.map fun tracked => tracked.sizeBytes.toNat).sum ≤ 2 ^ 30 ∧
      pool.world.badFrees = 0 ∧ FreesAll pool.world := by
  obtain ⟨pool, reachable, tracked, unused⟩ := evictedPool
  obtain ⟨few, small, freed, atRest⟩ := pages_accounted reachable
  exact ⟨pool, tracked, few, small, freed, (atRest unused).2⟩

theorem stats_sound_evicted : ∃ pool : DriverPool Unit,
    pool.world.tracked = [⟨7, 2 * 1024 * 1024, .ram, false, false, 0⟩] ∧
      pool.world.stats.vramPages.toNat + pool.world.stats.ramPages.toNat =
        pool.world.tracked.length ∧
      pool.world.stats.diskPages = 0 ∧
      pool.world.stats.evictions = pool.world.stats.ramPages ∧
      (pool.world.stats.overallPressure = 1 ↔ 200 < pool.world.stats.vramPages.toNat) := by
  obtain ⟨pool, reachable, tracked, _⟩ := evictedPool
  exact ⟨pool, tracked, stats_sound reachable⟩

end TriAI.Kernel.PageDriver
