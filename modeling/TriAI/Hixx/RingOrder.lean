import TriAI.Hixx.Ring
import TriAI.Library.MachineInt
import TriAI.Library.RingBuffer

/-!
Contract: the order of the request ring.

Owns: the ring represents the slots that were accepted and not popped yet, over every
interleaving of pushes and pops.

Does not own: the critical sections.
-/

set_option autoImplicit false

namespace TriAI.Hixx

open TriAI.Library.Interaction
open TriAI.Library.MachineInt
open TriAI.Library.RingBuffer

/-- The popped slots are the first accepted ones, the indices and the count agree and stay
within the slots, and an accepted slot that was not popped lies where it was written. -/
structure RingWorld.InOrder (world : RingWorld) : Prop where
  fifo : world.popped <+: world.accepted.map (·.slot)
  writeIndex : world.ring.writeIndex.toNat =
    (world.ring.readIndex.toNat + world.ring.count.toNat) % hixxMaxRequests
  count : world.ring.count.toNat ≤ hixxMaxRequests
  inside : world.ring.readIndex.toNat < hixxMaxRequests
  kept : ∀ written ∈ world.accepted.drop world.popped.length,
    world.ring.slots[written.index.toNat]? = some written.slot

/-- What every interleaving keeps: the accepted slots are those popped and those that the
ring represents. -/
structure RingWorld.Sound (world : RingWorld) (done queue : List Written) : Prop where
  accepted : world.accepted = done ++ queue
  popped : world.popped = done.map (·.slot)
  represents : Represents world.ring.slots.toList world.ring.writeIndex.toNat
    world.ring.readIndex.toNat world.ring.count.toNat (queue.map (·.slot))
  placed : ∀ offset written, queue[offset]? = some written →
    written.index.toNat = (world.ring.readIndex.toNat + offset) % hixxMaxRequests

/-- Some of the accepted slots were popped, and the ring represents the others. -/
def RingWorld.IsSound (world : RingWorld) : Prop := ∃ done queue, world.Sound done queue

section Steps

variable {world : RingWorld} {done queue : List Written}

private theorem toNat_next {index : UInt32} (inside : index.toNat < hixxMaxRequests) :
    ((index + 1) % 64).toNat = (index.toNat + 1) % hixxMaxRequests := by
  rw [UInt32.toNat_mod, UInt32.toNat_add]
  show (index.toNat + 1) % 2 ^ 32 % 64 = _
  have small : index.toNat + 1 < 2 ^ 32 := by
    unfold hixxMaxRequests at inside
    omega
  rw [Nat.mod_eq_of_lt small]

theorem RingWorld.Sound.inside (sound : world.Sound done queue) :
    world.ring.readIndex.toNat < hixxMaxRequests ∧
      world.ring.writeIndex.toNat < hixxMaxRequests := by
  have size : world.ring.slots.toList.length = hixxMaxRequests := by simp
  have read := sound.represents.inside
  have write := sound.represents.written
  rw [size] at read write
  refine ⟨read, ?_⟩
  rw [write]
  exact Nat.mod_lt _ (by decide)

theorem RingWorld.Sound.push (sound : world.Sound done queue) {slot : HixxSlot}
    {ring : HixxRingbuffer} (room : ¬ 64 ≤ world.ring.count)
    (put : world.ring.put slot = some ring) :
    RingWorld.Sound ⟨ring, world.accepted ++ [⟨world.ring.writeIndex, slot⟩], world.popped⟩
      done (queue ++ [⟨world.ring.writeIndex, slot⟩]) := by
  have inside := sound.inside.2
  have size : world.ring.slots.toList.length = hixxMaxRequests := by simp
  have few : world.ring.count.toNat < hixxMaxRequests := by
    rw [UInt32.le_iff_toNat_le] at room
    exact Nat.lt_of_not_le room
  have counted := sound.represents.counted
  rw [List.length_map] at counted
  unfold HixxRingbuffer.put at put
  rw [dif_pos inside] at put
  cases put
  constructor
  · rw [sound.accepted, List.append_assoc]
  · exact sound.popped
  · have pushed := sound.represents.push (by rw [size]; exact few) slot
    rw [size] at pushed
    have count : (world.ring.count + 1).toNat = world.ring.count.toNat + 1 := by
      unfold hixxMaxRequests at few
      rw [UInt32.toNat_add]
      show (world.ring.count.toNat + 1) % 2 ^ 32 = _
      omega
    simpa [Vector.toList_set, toNat_next inside, count] using pushed
  · intro offset written found
    show written.index.toNat = (world.ring.readIndex.toNat + offset) % hixxMaxRequests
    by_cases isLast : offset = queue.length
    · subst isLast
      rw [List.getElem?_concat_length] at found
      cases found
      show world.ring.writeIndex.toNat = _
      rw [sound.represents.written, size, counted]
    · have present := (List.getElem?_eq_some_iff.mp found).1
      rw [List.length_append, List.length_singleton] at present
      rw [List.getElem?_append_left (by omega)] at found
      exact sound.placed offset written found

theorem RingWorld.Sound.pop (sound : world.Sound done queue) {slot : HixxSlot}
    {ring : HixxRingbuffer} (notEmpty : world.ring.count ≠ 0)
    (take : world.ring.take = some (slot, ring)) :
    ∃ written rest, queue = written :: rest ∧
      RingWorld.Sound ⟨ring, world.accepted, world.popped ++ [slot]⟩ (done ++ [written]) rest := by
  have inside := sound.inside.1
  have size : world.ring.slots.toList.length = hixxMaxRequests := by simp
  have counted := sound.represents.counted
  have positive : 0 < world.ring.count.toNat := toNat_pos notEmpty
  cases queue with
  | nil =>
      rw [counted] at positive
      exact absurd positive (Nat.lt_irrefl 0)
  | cons written rest =>
      have popped := Represents.pop sound.represents
      rw [size] at popped
      obtain ⟨first, represents⟩ := popped
      unfold HixxRingbuffer.take at take
      rw [Vector.getElem?_toList] at first
      rw [first] at take
      cases take
      refine ⟨written, rest, rfl, ?_, ?_, ?_, ?_⟩
      · rw [sound.accepted, List.append_assoc, List.singleton_append]
      · show world.popped ++ [written.slot] = _
        rw [sound.popped, List.map_append]
        rfl
      · have count : (world.ring.count - 1).toNat = world.ring.count.toNat - 1 := by
          rw [UInt32.toNat_sub_of_le]
          · rfl
          · rw [UInt32.le_iff_toNat_le]
            exact positive
        simpa [toNat_next inside, count] using represents
      · intro offset next found
        show next.index.toNat = (((world.ring.readIndex + 1) % 64).toNat + offset) % hixxMaxRequests
        rw [sound.placed (offset + 1) next (by simpa using found), toNat_next inside,
          Nat.mod_add_mod, Nat.add_assoc, Nat.add_comm 1 offset]

/-- Step lemma. -/
theorem RingWorld.IsSound.answers (isSound : world.IsSound) {op : RingOp} {reply : op.Reply}
    {after : RingWorld} (answers : world.Answers op reply after) : after.IsSound := by
  obtain ⟨done, queue, sound⟩ := isSound
  cases answers with
  | refused slot full => exact ⟨done, queue, sound⟩
  | accepted slot room ring put => exact ⟨done, _, sound.push room put⟩
  | empty isEmpty => exact ⟨done, queue, sound⟩
  | popped slot ring notEmpty take =>
      obtain ⟨written, rest, _, after⟩ := sound.pop notEmpty take
      exact ⟨_, rest, after⟩
  | woken => exact ⟨done, queue, sound⟩
  | waited interrupted ready => exact ⟨done, queue, sound⟩

theorem RingWorld.Sound.inOrder (sound : world.Sound done queue) : world.InOrder := by
  have size : world.ring.slots.toList.length = hixxMaxRequests := by simp
  have represents := sound.represents
  constructor
  · rw [sound.popped, sound.accepted, List.map_append]
    exact List.prefix_append _ _
  · rw [← size]
    exact represents.written
  · rw [← size, represents.counted]
    exact represents.room
  · exact sound.inside.1
  · intro written member
    have unread : world.accepted.drop world.popped.length = queue := by
      rw [sound.accepted, sound.popped, List.length_map, List.drop_left]
    rw [unread] at member
    obtain ⟨offset, found⟩ := List.mem_iff_getElem?.mp member
    rw [sound.placed offset written found, ← Vector.getElem?_toList]
    have holds := represents.holds offset written.slot (by simp [found])
    rwa [size] at holds

end Steps

/-- Over every interleaving of pushes and pops from an empty ring, the ring is in order. -/
theorem ring_inOrder (slots : Vector HixxSlot hixxMaxRequests) {pool : RingPool}
    (reachable : ringSystem.Reachable (emptyRing slots) pool) : pool.world.InOrder := by
  have initially : (emptyRing slots).world.IsSound := by
    refine ⟨[], [], rfl, rfl, ?_, by simp⟩
    exact Represents.empty (by simp [emptyRing, HixxRingbuffer.init])
  have isSound : pool.world.IsSound := by
    apply reachable.world_invariant _ _ initially
    · exact fun _ _ _ _ _ isSound answers => isSound.answers answers
    · exact fun _ _ _ impossible => impossible.elim
  obtain ⟨done, queue, sound⟩ := isSound
  exact sound.inOrder

/-- One thread pushes two slots, and another pops the first. -/
theorem ring_inOrder_popped :
    ∃ pool, ringSystem.Reachable (emptyRing (.replicate 64 ⟨0, 0, 0, 0⟩)) pool ∧
      pool.world.popped = [⟨1, 0, 0, 0⟩] ∧ pool.world.ring.count = 1 ∧
      pool.world.InOrder := by
  have fresh : ringSystem.Reachable (emptyRing (.replicate 64 ⟨0, 0, 0, 0⟩))
      (emptyRing (.replicate 64 ⟨0, 0, 0, 0⟩)) := .refl
  have first := fresh.begin 0 _ rfl (.push ⟨1, 0, 0, 0⟩)
  have written := first.call 0 rfl true _ (.accepted _ (by decide +kernel) _ rfl)
  have second := written.begin 1 _ rfl (.push ⟨2, 0, 0, 0⟩)
  have again := second.call 1 rfl true _ (.accepted _ (by decide +kernel) _ rfl)
  have pops := again.begin 2 _ rfl (.pop 1)
  have popped := pops.call 2 rfl (some ⟨1, 0, 0, 0⟩) _ (.popped _ _ (by decide +kernel) rfl)
  exact ⟨_, popped, by decide +kernel, by decide +kernel, ring_inOrder _ popped⟩

end TriAI.Hixx
