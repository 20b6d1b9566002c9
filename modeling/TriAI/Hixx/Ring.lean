import TriAI.Library.Interaction

/-!
Contract: the request ring of the kernel module, `hixx_worker.c`.

Owns: the slots, the ring, the two critical sections under its spinlock, `hixxRingPush` and
`hixxRingPop` as programs over them, and the system of any number of threads that call them.

Does not own: the ioctls, which only read the ring, and the metrics. An access outside the
slots has no answer.
-/

set_option autoImplicit false

namespace TriAI.Hixx

open TriAI.Library.Interaction

/-- `HIXX_MAX_REQUESTS` -/
abbrev hixxMaxRequests : Nat := 64

/-- `EBUSY` of the kernel headers -/
def ebusy : Int32 := 16

/-- `ERESTARTSYS` of the kernel headers -/
def erestartsys : Int32 := 512

structure HixxSlot where
  physicalAddr : UInt64
  size : UInt32
  flags : UInt32
  timestamp : UInt64
deriving DecidableEq

/-- The ring without its lock and its wait queue. -/
structure HixxRingbuffer where
  slots : Vector HixxSlot hixxMaxRequests
  writeIndex : UInt32
  readIndex : UInt32
  count : UInt32

/-- The ring after `hixx_init`, whatever the slots hold. -/
def HixxRingbuffer.init (slots : Vector HixxSlot hixxMaxRequests) : HixxRingbuffer where
  slots := slots
  writeIndex := 0
  readIndex := 0
  count := 0

/-- What a thread does with the ring: the two critical sections, the wake-up after a push,
and the wait before another look. -/
inductive RingOp where
  | pushLocked (slot : HixxSlot)
  | popLocked
  | wakeUpInterruptible
  | waitEventInterruptible

/-- A push is accepted or not, a pop finds a slot or an empty ring, and a wait is
interrupted or not. -/
@[reducible] def RingOp.Reply : RingOp → Type
  | .pushLocked _ => Bool
  | .popLocked => Option HixxSlot
  | .wakeUpInterruptible => Unit
  | .waitEventInterruptible => Bool

abbrev RingProg (α : Type) : Type := Prog RingOp RingOp.Reply α

def pushLocked (slot : HixxSlot) : RingProg Bool := Prog.perform (RingOp.pushLocked slot)

def popLocked : RingProg (Option HixxSlot) := Prog.perform RingOp.popLocked

def wakeUpInterruptible : RingProg Unit := Prog.perform RingOp.wakeUpInterruptible

def waitEventInterruptible : RingProg Bool := Prog.perform RingOp.waitEventInterruptible

/-- `hixx_ring_push` -/
def hixxRingPush (slot : HixxSlot) : RingProg Int32 := do
  if ← pushLocked slot then
    wakeUpInterruptible
    return 0
  else
    return -ebusy

/-- `hixx_ring_pop`, of whose loop at most the given number of rounds is observed. -/
def hixxRingPop : Nat → RingProg (Option (Except Int32 HixxSlot))
  | 0 => return none
  | rounds + 1 => do
      match ← popLocked with
      | some slot => return some (.ok slot)
      | none =>
          if ← waitEventInterruptible then
            return some (.error (-erestartsys))
          else
            hixxRingPop rounds

/-! ## The critical sections -/

/-- The ring of a push that finds room, where the write index lies within the slots. -/
def HixxRingbuffer.put (ring : HixxRingbuffer) (slot : HixxSlot) : Option HixxRingbuffer :=
  if inside : ring.writeIndex.toNat < hixxMaxRequests then
    some { ring with
      slots := ring.slots.set ring.writeIndex.toNat slot
      writeIndex := (ring.writeIndex + 1) % 64
      count := ring.count + 1 }
  else
    none

/-- The slot and the ring of a pop that finds one, where the read index lies within the
slots. -/
def HixxRingbuffer.take (ring : HixxRingbuffer) : Option (HixxSlot × HixxRingbuffer) :=
  ring.slots[ring.readIndex.toNat]?.map fun slot =>
    (slot, { ring with readIndex := (ring.readIndex + 1) % 64, count := ring.count - 1 })

/-- An accepted slot and the index at which it was written. -/
structure Written where
  index : UInt32
  slot : HixxSlot

/-- The ring, with the slots it accepted and the slots that were popped, in their order
under the lock. -/
structure RingWorld where
  ring : HixxRingbuffer
  accepted : List Written
  popped : List HixxSlot

/-- What a call does with the ring. -/
inductive RingWorld.Answers (world : RingWorld) : (op : RingOp) → op.Reply → RingWorld → Prop where
  | refused (slot : HixxSlot) (full : 64 ≤ world.ring.count) :
      world.Answers (.pushLocked slot) false world
  | accepted (slot : HixxSlot) (room : ¬ 64 ≤ world.ring.count) (ring : HixxRingbuffer)
      (put : world.ring.put slot = some ring) :
      world.Answers (.pushLocked slot) true
        { world with
          ring := ring
          accepted := world.accepted ++ [⟨world.ring.writeIndex, slot⟩] }
  | empty (isEmpty : world.ring.count = 0) : world.Answers .popLocked none world
  | popped (slot : HixxSlot) (ring : HixxRingbuffer) (notEmpty : world.ring.count ≠ 0)
      (take : world.ring.take = some (slot, ring)) :
      world.Answers .popLocked (some slot)
        { world with ring := ring, popped := world.popped ++ [slot] }
  | woken : world.Answers .wakeUpInterruptible () world
  | waited (interrupted : Bool) (ready : interrupted = true ∨ 0 < world.ring.count) :
      world.Answers .waitEventInterruptible interrupted world

/-- What a thread may begin: a push of any slot, or a pop. -/
inductive RingCall : RingProg Unit → Prop where
  | push (slot : HixxSlot) : RingCall (hixxRingPush slot >>= fun _ => pure ())
  | pop (rounds : Nat) : RingCall (hixxRingPop rounds >>= fun _ => pure ())

/-- Any number of threads that push and pop. -/
def ringSystem : System Nat RingOp RingOp.Reply Unit RingWorld where
  Offers := fun _ _ program => RingCall program
  Step := fun _ world op reply after => world.Answers op reply after
  Environment := fun _ _ => False

abbrev RingPool : Type := Pool Nat RingOp RingOp.Reply Unit RingWorld

/-- All threads at rest and the ring empty. -/
def emptyRing (slots : Vector HixxSlot hixxMaxRequests) : RingPool where
  world := ⟨.init slots, [], []⟩
  activity := fun _ => .resting ()

end TriAI.Hixx
