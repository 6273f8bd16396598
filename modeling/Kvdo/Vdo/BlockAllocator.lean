/-
# Block allocators and the slabs they own

`block-allocator.c` keeps, per physical zone, a priority table of slabs ready for
allocation, the `open_slab` it allocates from, a running `allocated_blocks`, and hands
slabs that need their journals replayed to its slab scrubber.  A slab is on at most one
of these lists at a time: its single `allocq_entry` links it into a table bucket or a
scrubber list.

| C | here |
| --- | --- |
| `prioritize_slab` (114-122) | `prioritizeSlab` |
| `vdo_register_slab_with_allocator` (130-135) | `vdoRegisterSlabWithAllocator` |
| `vdo_queue_slab` (398-439) | `vdoQueueSlab` |
| `vdo_adjust_free_block_count` (450-481) | `vdoAdjustFreeBlockCount` |
| `allocate_slab_block` (496-510) | `allocateSlabBlock` |
| `vdo_allocate_block` (525-553) | `vdoAllocateBlock` |
| `apply_to_slabs` (686-722), list work | `detachSlabs` |
| `vdo_register_new_slabs_for_allocator` (899-916) | `vdoRegisterNewSlabsForAllocator` |

The slab depot owns every slab in one array and every allocator; a slab names its
allocator by zone number.  What the reference counts, the scrubber and the depot's
resize code do (not in the sources) enters as the spec describes it: the reference
counts' search for a free block (`vdoAllocateUnreferencedBlock`), the scrubber's lists,
and the depot's slab array after a resize.
-/

import Kvdo.Vdo.PriorityTable

namespace Kvdo

/-- A `struct block_allocator`, with the fields the modelled functions use: the priority
table `prioritized_slabs`, `open_slab`, `allocated_blocks`, `slab_count`, `last_slab`,
the two lists of its slab scrubber, and whether its admin state is quiescent. -/
structure BlockAllocator where
  prioritizedSlabs : List (Nat × Nat)
  openSlab : Option Nat
  allocatedBlocks : Int
  slabCount : Nat
  lastSlab : Nat
  scrubberHighPrioritySlabs : List Nat
  scrubberSlabs : List Nat
  quiescent : Bool
  deriving DecidableEq, Repr

/-- An allocator as `vdo_make_block_allocator` leaves it. -/
def BlockAllocator.empty : BlockAllocator := ⟨[], none, 0, 0, 0, [], [], false⟩

/-- An allocator's lists, open slab and admin state, without its counters. -/
def BlockAllocator.withoutCount (a : BlockAllocator) : BlockAllocator :=
  { a with allocatedBlocks := 0, slabCount := 0, lastSlab := 0 }

/-- The slabs on an allocator's priority table. -/
def BlockAllocator.tableSlabs (a : BlockAllocator) : List Nat := a.prioritizedSlabs.map Prod.snd

/-- The slabs registered with an allocator's scrubber, either list. -/
def BlockAllocator.scrubbing (a : BlockAllocator) : List Nat :=
  a.scrubberHighPrioritySlabs ++ a.scrubberSlabs

/-- A `struct slab_depot`: `slab_config.data_blocks`, `zone_count`, the slab array of
`slab_count` slabs, one allocator per zone, and whether the read-only notifier has been
told to enter read-only mode. -/
structure SlabDepot where
  dataBlocks : Nat
  zoneCount : Nat
  slabCount : Nat
  slabs : Nat → VdoSlab
  allocators : Nat → BlockAllocator
  readOnly : Bool

namespace SlabDepot

/-- The allocators' `unopened_slab_priority`, set from the slab size. -/
def unopened (d : SlabDepot) : Nat := unopenedSlabPriority d.dataBlocks

/-- Change one allocator. -/
def updateAllocator (d : SlabDepot) (z : Nat) (f : BlockAllocator → BlockAllocator) :
    SlabDepot :=
  { d with allocators := Function.update d.allocators z (f (d.allocators z)) }

/-- Change one slab. -/
def updateSlab (d : SlabDepot) (n : Nat) (f : VdoSlab → VdoSlab) : SlabDepot :=
  { d with slabs := Function.update d.slabs n (f (d.slabs n)) }

/-- Slab `n` is one of the depot's and belongs to allocator `z`. -/
def owns (d : SlabDepot) (z n : Nat) : Prop := n < d.slabCount ∧ (d.slabs n).allocator = z

instance (d : SlabDepot) (z n : Nat) : Decidable (d.owns z n) :=
  inferInstanceAs (Decidable (_ ∧ _))

@[simp] theorem updateAllocator_allocators (d : SlabDepot) (z z' : Nat)
    (f : BlockAllocator → BlockAllocator) :
    (d.updateAllocator z f).allocators z' =
      if z' = z then f (d.allocators z) else d.allocators z' := by
  simp [updateAllocator, Function.update_apply]

@[simp] theorem updateAllocator_slabs (d : SlabDepot) (z : Nat) (f) :
    (d.updateAllocator z f).slabs = d.slabs := rfl
@[simp] theorem updateAllocator_dataBlocks (d : SlabDepot) (z : Nat) (f) :
    (d.updateAllocator z f).dataBlocks = d.dataBlocks := rfl
@[simp] theorem updateAllocator_slabCount (d : SlabDepot) (z : Nat) (f) :
    (d.updateAllocator z f).slabCount = d.slabCount := rfl
@[simp] theorem updateAllocator_zoneCount (d : SlabDepot) (z : Nat) (f) :
    (d.updateAllocator z f).zoneCount = d.zoneCount := rfl
@[simp] theorem updateAllocator_readOnly (d : SlabDepot) (z : Nat) (f) :
    (d.updateAllocator z f).readOnly = d.readOnly := rfl
@[simp] theorem updateAllocator_unopened (d : SlabDepot) (z : Nat) (f) :
    (d.updateAllocator z f).unopened = d.unopened := rfl

@[simp] theorem updateSlab_slabs (d : SlabDepot) (n n' : Nat) (f : VdoSlab → VdoSlab) :
    (d.updateSlab n f).slabs n' = if n' = n then f (d.slabs n) else d.slabs n' := by
  simp [updateSlab, Function.update_apply]

@[simp] theorem updateAllocator_owns (d : SlabDepot) (z' : Nat) (f) (z m : Nat) :
    (d.updateAllocator z' f).owns z m ↔ d.owns z m := Iff.rfl

@[simp] theorem updateSlab_allocators (d : SlabDepot) (n : Nat) (f) :
    (d.updateSlab n f).allocators = d.allocators := rfl
@[simp] theorem updateSlab_dataBlocks (d : SlabDepot) (n : Nat) (f) :
    (d.updateSlab n f).dataBlocks = d.dataBlocks := rfl
@[simp] theorem updateSlab_slabCount (d : SlabDepot) (n : Nat) (f) :
    (d.updateSlab n f).slabCount = d.slabCount := rfl
@[simp] theorem updateSlab_zoneCount (d : SlabDepot) (n : Nat) (f) :
    (d.updateSlab n f).zoneCount = d.zoneCount := rfl
@[simp] theorem updateSlab_readOnly (d : SlabDepot) (n : Nat) (f) :
    (d.updateSlab n f).readOnly = d.readOnly := rfl
@[simp] theorem updateSlab_unopened (d : SlabDepot) (n : Nat) (f) :
    (d.updateSlab n f).unopened = d.unopened := rfl

@[simp] theorem updateAllocator_updateAllocator (d : SlabDepot) (z : Nat)
    (f g : BlockAllocator → BlockAllocator) :
    (d.updateAllocator z f).updateAllocator z g = d.updateAllocator z fun a => g (f a) := by
  simp [updateAllocator, Function.update_idem]

theorem updateSlab_updateAllocator (d : SlabDepot) (z n : Nat) (f) (g : VdoSlab → VdoSlab) :
    (d.updateAllocator z f).updateSlab n g = (d.updateSlab n g).updateAllocator z f := rfl

theorem updateSlab_owns {d : SlabDepot} {n : Nat} {f : VdoSlab → VdoSlab}
    (hf : (f (d.slabs n)).allocator = (d.slabs n).allocator) (z m : Nat) :
    (d.updateSlab n f).owns z m ↔ d.owns z m := by
  by_cases hm : m = n
  · subst hm; simp [owns, hf]
  · simp [owns, hm]

end SlabDepot

/-- `prioritize_slab`: give the slab its current priority and enqueue it in its
allocator's table at that priority. -/
def prioritizeSlab (d : SlabDepot) (n : Nat) : SlabDepot :=
  let priority := calculateSlabPriority d.unopened (d.slabs n)
  (d.updateSlab n fun slab => { slab with priority := priority }).updateAllocator
    (d.slabs n).allocator fun a =>
      { a with prioritizedSlabs := priorityTableEnqueue a.prioritizedSlabs priority n }

section PrioritizeSlab

variable (d : SlabDepot) (n : Nat)

theorem prioritizeSlab_allocators (z : Nat) :
    (prioritizeSlab d n).allocators z =
      if z = (d.slabs n).allocator then
        { d.allocators z with
          prioritizedSlabs := priorityTableEnqueue (d.allocators z).prioritizedSlabs
            (calculateSlabPriority d.unopened (d.slabs n)) n }
      else d.allocators z := by
  by_cases hz : z = (d.slabs n).allocator
  · subst hz; simp [prioritizeSlab]
  · simp [prioritizeSlab, hz]

@[simp] theorem prioritizeSlab_openSlab (z : Nat) :
    ((prioritizeSlab d n).allocators z).openSlab = (d.allocators z).openSlab := by
  rw [prioritizeSlab_allocators]; split_ifs <;> rfl

@[simp] theorem prioritizeSlab_scrubbing (z : Nat) :
    ((prioritizeSlab d n).allocators z).scrubbing = (d.allocators z).scrubbing := by
  rw [prioritizeSlab_allocators]; split_ifs <;> rfl

@[simp] theorem prioritizeSlab_quiescent (z : Nat) :
    ((prioritizeSlab d n).allocators z).quiescent = (d.allocators z).quiescent := by
  rw [prioritizeSlab_allocators]; split_ifs <;> rfl

@[simp] theorem prioritizeSlab_allocatedBlocks (z : Nat) :
    ((prioritizeSlab d n).allocators z).allocatedBlocks = (d.allocators z).allocatedBlocks := by
  rw [prioritizeSlab_allocators]; split_ifs <;> rfl

@[simp] theorem prioritizeSlab_slabCount' (z : Nat) :
    ((prioritizeSlab d n).allocators z).slabCount = (d.allocators z).slabCount := by
  rw [prioritizeSlab_allocators]; split_ifs <;> rfl

theorem prioritizeSlab_slabs (m : Nat) :
    (prioritizeSlab d n).slabs m = if m = n then
      { d.slabs n with priority := calculateSlabPriority d.unopened (d.slabs n) } else d.slabs m := by
  simp [prioritizeSlab]

@[simp] theorem prioritizeSlab_freeBlocks (m : Nat) :
    ((prioritizeSlab d n).slabs m).freeBlocks = (d.slabs m).freeBlocks := by
  rw [prioritizeSlab_slabs]; split_ifs with h <;> simp [h]

@[simp] theorem prioritizeSlab_unrecovered (m : Nat) :
    ((prioritizeSlab d n).slabs m).unrecovered = (d.slabs m).unrecovered := by
  rw [prioritizeSlab_slabs]; split_ifs with h <;> simp [h]

@[simp] theorem prioritizeSlab_slabAllocator (m : Nat) :
    ((prioritizeSlab d n).slabs m).allocator = (d.slabs m).allocator := by
  rw [prioritizeSlab_slabs]; split_ifs with h <;> simp [h]

@[simp] theorem prioritizeSlab_dataBlocks : (prioritizeSlab d n).dataBlocks = d.dataBlocks := rfl
@[simp] theorem prioritizeSlab_slabCount : (prioritizeSlab d n).slabCount = d.slabCount := rfl
@[simp] theorem prioritizeSlab_zoneCount : (prioritizeSlab d n).zoneCount = d.zoneCount := rfl
@[simp] theorem prioritizeSlab_readOnly : (prioritizeSlab d n).readOnly = d.readOnly := rfl

end PrioritizeSlab

/-- `vdo_register_slab_with_allocator`. -/
def vdoRegisterSlabWithAllocator (a : BlockAllocator) (slabNumber : Nat) : BlockAllocator :=
  { a with slabCount := a.slabCount + 1, lastSlab := slabNumber }

/-- Modelled from the spec: `vdo_register_slab_for_scrubbing` puts the slab at the tail of
its allocator's scrubber's high-priority list or its normal list. -/
def vdoRegisterSlabForScrubbing (d : SlabDepot) (n : Nat) (highPriority : Bool) : SlabDepot :=
  d.updateAllocator (d.slabs n).allocator fun a =>
    if highPriority then { a with scrubberHighPrioritySlabs := a.scrubberHighPrioritySlabs ++ [n] }
    else { a with scrubberSlabs := a.scrubberSlabs ++ [n] }

@[simp] theorem vdoRegisterSlabForScrubbing_prioritizedSlabs (d : SlabDepot) (n : Nat) (high : Bool)
    (z : Nat) : ((vdoRegisterSlabForScrubbing d n high).allocators z).prioritizedSlabs =
      (d.allocators z).prioritizedSlabs := by
  cases high <;> simp [vdoRegisterSlabForScrubbing, apply_ite BlockAllocator.prioritizedSlabs] <;>
    rintro rfl <;> rfl

@[simp] theorem vdoRegisterSlabForScrubbing_openSlab (d : SlabDepot) (n : Nat) (high : Bool)
    (z : Nat) : ((vdoRegisterSlabForScrubbing d n high).allocators z).openSlab =
      (d.allocators z).openSlab := by
  cases high <;> simp [vdoRegisterSlabForScrubbing, apply_ite BlockAllocator.openSlab] <;>
    rintro rfl <;> rfl

@[simp] theorem vdoRegisterSlabForScrubbing_quiescent (d : SlabDepot) (n : Nat) (high : Bool)
    (z : Nat) : ((vdoRegisterSlabForScrubbing d n high).allocators z).quiescent =
      (d.allocators z).quiescent := by
  cases high <;> simp [vdoRegisterSlabForScrubbing, apply_ite BlockAllocator.quiescent] <;>
    rintro rfl <;> rfl

/-- Registering a slab for scrubbing adds it to its allocator's scrubber, at high
priority or not, and to no other allocator's. -/
theorem vdoRegisterSlabForScrubbing_scrubbing (d : SlabDepot) (n : Nat) (high : Bool) (z : Nat) :
    ((vdoRegisterSlabForScrubbing d n high).allocators z).scrubbing.Perm
      (if z = (d.slabs n).allocator then (d.allocators z).scrubbing ++ [n]
        else (d.allocators z).scrubbing) := by
  by_cases hz : z = (d.slabs n).allocator
  · subst hz
    cases high
    · simp [vdoRegisterSlabForScrubbing, BlockAllocator.scrubbing]
    · simp only [vdoRegisterSlabForScrubbing, BlockAllocator.scrubbing, if_true,
        SlabDepot.updateAllocator_allocators, List.append_assoc, List.singleton_append]
      exact (List.perm_append_singleton n _).symm.append_left _
  · simp [vdoRegisterSlabForScrubbing, hz]

@[simp] theorem vdoRegisterSlabForScrubbing_slabs (d : SlabDepot) (n : Nat) (high : Bool) :
    (vdoRegisterSlabForScrubbing d n high).slabs = d.slabs := rfl

/-- `vdo_queue_slab`, for a slab whose admin state is `resuming` or not.  A free block
count above the slab size fails the assertion and enters read-only mode; an unrecovered
slab goes to the scrubber; any other slab is accounted for, unless it is resuming, and
prioritized. -/
def vdoQueueSlab (d : SlabDepot) (n : Nat) (resuming : Bool) : SlabDepot :=
  let slab := d.slabs n
  if d.dataBlocks < slab.freeBlocks then { d with readOnly := true }
  else if slab.unrecovered then vdoRegisterSlabForScrubbing d n false
  else
    prioritizeSlab (if resuming then d else d.updateAllocator slab.allocator fun a =>
      { a with allocatedBlocks := a.allocatedBlocks - slab.freeBlocks }) n

section QueueSlab

variable (d : SlabDepot) (n : Nat) (resuming : Bool)

@[simp] theorem vdoQueueSlab_slabAllocator (m : Nat) :
    ((vdoQueueSlab d n resuming).slabs m).allocator = (d.slabs m).allocator := by
  simp only [vdoQueueSlab]; split_ifs <;> simp [vdoRegisterSlabForScrubbing]

@[simp] theorem vdoQueueSlab_freeBlocks (m : Nat) :
    ((vdoQueueSlab d n resuming).slabs m).freeBlocks = (d.slabs m).freeBlocks := by
  simp only [vdoQueueSlab]; split_ifs <;> simp [vdoRegisterSlabForScrubbing]

@[simp] theorem vdoQueueSlab_unrecovered (m : Nat) :
    ((vdoQueueSlab d n resuming).slabs m).unrecovered = (d.slabs m).unrecovered := by
  simp only [vdoQueueSlab]; split_ifs <;> simp [vdoRegisterSlabForScrubbing]

/-- The three ways `vdo_queue_slab` goes: a free block count above the slab size makes the
depot read-only, an unrecovered slab goes to the scrubber, and any other slab is
prioritized. -/
theorem vdoQueueSlab_cases :
    (d.dataBlocks < (d.slabs n).freeBlocks ∧ vdoQueueSlab d n resuming = { d with readOnly := true }) ∨
    ((d.slabs n).freeBlocks ≤ d.dataBlocks ∧ (d.slabs n).unrecovered = true ∧
      vdoQueueSlab d n resuming = vdoRegisterSlabForScrubbing d n false) ∨
    ((d.slabs n).freeBlocks ≤ d.dataBlocks ∧ (d.slabs n).unrecovered = false ∧
      vdoQueueSlab d n resuming = prioritizeSlab (if resuming then d else
        d.updateAllocator (d.slabs n).allocator fun a =>
          { a with allocatedBlocks := a.allocatedBlocks - (d.slabs n).freeBlocks }) n) := by
  by_cases h1 : d.dataBlocks < (d.slabs n).freeBlocks
  · exact .inl ⟨h1, if_pos h1⟩
  cases h2 : (d.slabs n).unrecovered
  · exact .inr (.inr ⟨by omega, rfl, (if_neg h1).trans (if_neg (by simp [h2]))⟩)
  · exact .inr (.inl ⟨by omega, rfl, (if_neg h1).trans (if_pos h2)⟩)

@[simp] theorem vdoQueueSlab_slabCount : (vdoQueueSlab d n resuming).slabCount = d.slabCount := by
  rcases vdoQueueSlab_cases d n resuming with ⟨-, h⟩ | ⟨-, -, h⟩ | ⟨-, -, h⟩ <;> rw [h] <;>
    cases resuming <;> rfl

@[simp] theorem vdoQueueSlab_dataBlocks : (vdoQueueSlab d n resuming).dataBlocks = d.dataBlocks := by
  rcases vdoQueueSlab_cases d n resuming with ⟨-, h⟩ | ⟨-, -, h⟩ | ⟨-, -, h⟩ <;> rw [h] <;>
    cases resuming <;> rfl

@[simp] theorem vdoQueueSlab_zoneCount : (vdoQueueSlab d n resuming).zoneCount = d.zoneCount := by
  rcases vdoQueueSlab_cases d n resuming with ⟨-, h⟩ | ⟨-, -, h⟩ | ⟨-, -, h⟩ <;> rw [h] <;>
    cases resuming <;> rfl

theorem vdoQueueSlab_readOnly (h : d.readOnly = true) : (vdoQueueSlab d n resuming).readOnly = true := by
  rcases vdoQueueSlab_cases d n resuming with ⟨-, h'⟩ | ⟨-, -, h'⟩ | ⟨-, -, h'⟩ <;> rw [h'] <;>
    cases resuming <;> exact h

@[simp] theorem vdoQueueSlab_owns (z m : Nat) : (vdoQueueSlab d n resuming).owns z m ↔ d.owns z m := by
  simp [SlabDepot.owns]

@[simp] theorem vdoQueueSlab_openSlab (z : Nat) :
    ((vdoQueueSlab d n resuming).allocators z).openSlab = (d.allocators z).openSlab := by
  rcases vdoQueueSlab_cases d n resuming with ⟨-, h⟩ | ⟨-, -, h⟩ | ⟨-, -, h⟩ <;> rw [h] <;>
    cases resuming <;> by_cases hz : z = (d.slabs n).allocator <;> simp [hz]

@[simp] theorem vdoQueueSlab_quiescent (z : Nat) :
    ((vdoQueueSlab d n resuming).allocators z).quiescent = (d.allocators z).quiescent := by
  rcases vdoQueueSlab_cases d n resuming with ⟨-, h⟩ | ⟨-, -, h⟩ | ⟨-, -, h⟩ <;> rw [h] <;>
    cases resuming <;> by_cases hz : z = (d.slabs n).allocator <;> simp [hz]

/-- `vdo_queue_slab` takes the free blocks of a slab it accepts out of its allocator's
`allocated_blocks`, unless the slab is resuming. -/
theorem vdoQueueSlab_allocatedBlocks (z : Nat) :
    ((vdoQueueSlab d n resuming).allocators z).allocatedBlocks =
      (d.allocators z).allocatedBlocks -
        if resuming = false ∧ z = (d.slabs n).allocator ∧ (d.slabs n).freeBlocks ≤ d.dataBlocks ∧
          (d.slabs n).unrecovered = false then ((d.slabs n).freeBlocks : Int) else 0 := by
  rcases vdoQueueSlab_cases d n resuming with ⟨h1, h⟩ | ⟨-, h2, h⟩ | ⟨h1, h2, h⟩ <;> rw [h]
  · simp [Nat.not_le.2 h1]
  · by_cases hz : z = (d.slabs n).allocator <;> simp [hz, h2, vdoRegisterSlabForScrubbing]
  · cases resuming <;> by_cases hz : z = (d.slabs n).allocator <;> simp [hz, h1, h2]

@[simp] theorem vdoQueueSlab_slabCount' (z : Nat) :
    ((vdoQueueSlab d n resuming).allocators z).slabCount = (d.allocators z).slabCount := by
  rcases vdoQueueSlab_cases d n resuming with ⟨-, h⟩ | ⟨-, -, h⟩ | ⟨-, -, h⟩ <;> rw [h] <;>
    cases resuming <;> by_cases hz : z = (d.slabs n).allocator <;>
    simp [hz, vdoRegisterSlabForScrubbing]

/-- `vdo_queue_slab` puts no slab but its own on a table. -/
theorem vdoQueueSlab_tableSlabs {z m : Nat}
    (hm : m ∈ ((vdoQueueSlab d n resuming).allocators z).tableSlabs) :
    m ∈ (d.allocators z).tableSlabs ∨ m = n := by
  rcases vdoQueueSlab_cases d n resuming with ⟨-, h⟩ | ⟨-, -, h⟩ | ⟨-, -, h⟩ <;> rw [h] at hm
  · exact .inl hm
  · exact .inl (by simpa [BlockAllocator.tableSlabs] using hm)
  · cases resuming <;> by_cases hz : z = (d.slabs n).allocator <;>
      simp_all [prioritizeSlab_allocators, BlockAllocator.tableSlabs, priorityTableEnqueue]

/-- `vdo_queue_slab` gives no slab but its own to a scrubber. -/
theorem vdoQueueSlab_scrubbing {z m : Nat}
    (hm : m ∈ ((vdoQueueSlab d n resuming).allocators z).scrubbing) :
    m ∈ (d.allocators z).scrubbing ∨ m = n := by
  simp only [vdoQueueSlab] at hm
  split_ifs at hm
  · exact .inl hm
  · have := (vdoRegisterSlabForScrubbing_scrubbing d n false z).mem_iff.1 hm
    split_ifs at this <;> simp_all
  · exact .inl (by simpa using hm)
  · left
    rw [prioritizeSlab_scrubbing] at hm
    by_cases hz : z = (d.slabs n).allocator
    · subst hz; simpa [BlockAllocator.scrubbing] using hm
    · simpa [hz] using hm

end QueueSlab

/-- `vdo_adjust_free_block_count`, after the slab's free block count went up by one
(`increment`) or down by one. -/
def vdoAdjustFreeBlockCount (d : SlabDepot) (n : Nat) (increment : Bool) : SlabDepot :=
  let z := (d.slabs n).allocator
  let d := d.updateAllocator z fun a =>
    { a with allocatedBlocks := a.allocatedBlocks + if increment then -1 else 1 }
  if (d.allocators z).openSlab = some n then d
  else if (d.slabs n).priority = calculateSlabPriority d.unopened (d.slabs n) then d
  else prioritizeSlab (d.updateAllocator z fun a =>
    { a with prioritizedSlabs := priorityTableRemove a.prioritizedSlabs n }) n

/-- `vdo_adjust_free_block_count` counts the block against its allocator, then leaves the
slab where it is or takes it off its table and prioritizes it again. -/
theorem vdoAdjustFreeBlockCount_cases (d : SlabDepot) (n : Nat) (increment : Bool) :
    let d' := d.updateAllocator (d.slabs n).allocator fun a =>
      { a with allocatedBlocks := a.allocatedBlocks + if increment then -1 else 1 }
    vdoAdjustFreeBlockCount d n increment = d' ∨
      vdoAdjustFreeBlockCount d n increment = prioritizeSlab (d'.updateAllocator
        (d.slabs n).allocator fun a =>
          { a with prioritizedSlabs := priorityTableRemove a.prioritizedSlabs n }) n := by
  intro d'
  by_cases h1 : (d'.allocators (d.slabs n).allocator).openSlab = some n
  · exact .inl (if_pos h1)
  by_cases h2 : (d'.slabs n).priority = calculateSlabPriority d'.unopened (d'.slabs n)
  · exact .inl ((if_neg h1).trans (if_pos h2))
  · exact .inr ((if_neg h1).trans (if_neg h2))

/-- `vdo_adjust_free_block_count` re-queues a slab that is not open and whose priority
changed: its entry leaves the table and it joins the bucket of its current priority,
which it records. -/
theorem vdoAdjustFreeBlockCount_requeues (d : SlabDepot) (n : Nat) (increment : Bool)
    (hopen : (d.allocators (d.slabs n).allocator).openSlab ≠ some n)
    (hprio : (d.slabs n).priority ≠ calculateSlabPriority d.unopened (d.slabs n)) :
    ((vdoAdjustFreeBlockCount d n increment).allocators (d.slabs n).allocator).prioritizedSlabs =
        priorityTableEnqueue
          (priorityTableRemove (d.allocators (d.slabs n).allocator).prioritizedSlabs n)
          (calculateSlabPriority d.unopened (d.slabs n)) n ∧
      ((vdoAdjustFreeBlockCount d n increment).slabs n).priority =
        calculateSlabPriority d.unopened (d.slabs n) := by
  simp [vdoAdjustFreeBlockCount, hopen, hprio, prioritizeSlab_allocators, prioritizeSlab_slabs]

/-- `vdo_adjust_free_block_count` never changes an allocator's open slab. -/
theorem vdoAdjustFreeBlockCount_openSlab (d : SlabDepot) (n : Nat) (increment : Bool) (z : Nat) :
    ((vdoAdjustFreeBlockCount d n increment).allocators z).openSlab = (d.allocators z).openSlab := by
  rcases vdoAdjustFreeBlockCount_cases d n increment with h | h <;> rw [h] <;>
    by_cases hz : z = (d.slabs n).allocator <;> simp [hz]

/-- `vdo_adjust_free_block_count` moves its allocator's `allocated_blocks` by one. -/
theorem vdoAdjustFreeBlockCount_allocatedBlocks (d : SlabDepot) (n : Nat) (increment : Bool)
    (z : Nat) : ((vdoAdjustFreeBlockCount d n increment).allocators z).allocatedBlocks =
      (d.allocators z).allocatedBlocks +
        if z = (d.slabs n).allocator then (if increment then -1 else 1) else 0 := by
  rcases vdoAdjustFreeBlockCount_cases d n increment with h | h <;> rw [h] <;>
    by_cases hz : z = (d.slabs n).allocator <;> simp [hz]

@[simp] theorem vdoAdjustFreeBlockCount_slabCount' (d : SlabDepot) (n : Nat) (increment : Bool)
    (z : Nat) : ((vdoAdjustFreeBlockCount d n increment).allocators z).slabCount =
      (d.allocators z).slabCount := by
  rcases vdoAdjustFreeBlockCount_cases d n increment with h | h <;> rw [h] <;>
    by_cases hz : z = (d.slabs n).allocator <;> simp [hz]

/-- `vdo_adjust_free_block_count` changes no slab's free blocks, recovery or allocator. -/
theorem vdoAdjustFreeBlockCount_slabs (d : SlabDepot) (n : Nat) (increment : Bool) (m : Nat) :
    ((vdoAdjustFreeBlockCount d n increment).slabs m).freeBlocks = (d.slabs m).freeBlocks ∧
    ((vdoAdjustFreeBlockCount d n increment).slabs m).unrecovered = (d.slabs m).unrecovered ∧
    ((vdoAdjustFreeBlockCount d n increment).slabs m).allocator = (d.slabs m).allocator := by
  rcases vdoAdjustFreeBlockCount_cases d n increment with h | h <;> rw [h] <;> simp

/-- `vdo_adjust_free_block_count` puts on a table no slab but its own. -/
theorem vdoAdjustFreeBlockCount_tableSlabs (d : SlabDepot) (n : Nat) (increment : Bool) {z m : Nat}
    (hm : m ∈ ((vdoAdjustFreeBlockCount d n increment).allocators z).tableSlabs) :
    m ∈ (d.allocators z).tableSlabs ∨ m = n := by
  rcases vdoAdjustFreeBlockCount_cases d n increment with h | h <;> rw [h] at hm <;>
    by_cases hz : z = (d.slabs n).allocator
  · subst hz; simpa [BlockAllocator.tableSlabs] using Or.inl hm
  · simpa [hz, BlockAllocator.tableSlabs] using Or.inl hm
  · subst hz
    simp [prioritizeSlab_allocators, BlockAllocator.tableSlabs, priorityTableEnqueue,
      priorityTableRemove] at hm ⊢
    exact hm.imp_left And.left
  · simpa [prioritizeSlab_allocators, hz, BlockAllocator.tableSlabs] using Or.inl hm

@[simp] theorem vdoAdjustFreeBlockCount_dataBlocks (d : SlabDepot) (n : Nat) (increment : Bool) :
    (vdoAdjustFreeBlockCount d n increment).dataBlocks = d.dataBlocks := by
  rcases vdoAdjustFreeBlockCount_cases d n increment with h | h <;> rw [h] <;> rfl

@[simp] theorem vdoAdjustFreeBlockCount_slabCount (d : SlabDepot) (n : Nat) (increment : Bool) :
    (vdoAdjustFreeBlockCount d n increment).slabCount = d.slabCount := by
  rcases vdoAdjustFreeBlockCount_cases d n increment with h | h <;> rw [h] <;> rfl

/-- Where the reference counts' search for a free block ends. -/
inductive SearchOutcome where
  /-- The search finds a free block if the slab has one. -/
  | found
  /-- The search cursor runs off the end of the slab, free blocks or not. -/
  | ranOffEnd
  /-- The reference counts refuse with another error. -/
  | failed (code : Nat)
  deriving DecidableEq, Repr

/-- Modelled from the spec: `vdo_allocate_unreferenced_block` claims a free block
provisionally, which takes one from the slab's free block count, or fails with
`VDO_NO_SPACE` or another error. -/
def vdoAllocateUnreferencedBlock (slab : VdoSlab) : SearchOutcome → Except Status VdoSlab
  | .found =>
    if slab.freeBlocks = 0 then .error .noSpace
    else .ok { slab with freeBlocks := slab.freeBlocks - 1 }
  | .ranOffEnd => .error .noSpace
  | .failed code => .error (.other code)

/-- `allocate_slab_block`. -/
def allocateSlabBlock (d : SlabDepot) (n : Nat) (search : SearchOutcome) : Status × SlabDepot :=
  match vdoAllocateUnreferencedBlock (d.slabs n) search with
  | .error result => (result, d)
  | .ok slab => (.success, vdoAdjustFreeBlockCount (d.updateSlab n fun _ => slab) n false)

/-- The second half of `vdo_allocate_block`: dequeue the highest slab, make it the open
slab, and allocate from it with a freshly reset search cursor.  `none` where the C code
dequeues `NULL` from an empty table. -/
def openNextSlab (d : SlabDepot) (z : Nat) (search : SearchOutcome) :
    Option (Status × SlabDepot) :=
  (priorityTableDequeue (d.allocators z).prioritizedSlabs).map fun r =>
    allocateSlabBlock (d.updateAllocator z fun a =>
      { a with prioritizedSlabs := r.2, openSlab := some r.1 }) r.1 search

/-- `vdo_allocate_block` of allocator `z`, with the outcome of the search in the open slab
and of the search after opening the next one. -/
def vdoAllocateBlock (d : SlabDepot) (z : Nat) (first second : SearchOutcome) :
    Option (Status × SlabDepot) :=
  match (d.allocators z).openSlab with
  | some n =>
    match allocateSlabBlock d n first with
    | (.noSpace, d') => openNextSlab (prioritizeSlab d' n) z second
    | r => some r
  | none => openNextSlab d z second

/-- The list work of `apply_to_slabs`: each slab of the allocator is unlinked from the
list it is on (`list_del_init`), and the open slab is cleared. -/
def detachSlabs (d : SlabDepot) (z : Nat) : SlabDepot :=
  d.updateAllocator z fun a =>
    { a with
      openSlab := none
      prioritizedSlabs := a.prioritizedSlabs.filter fun e => !decide (d.owns z e.2)
      scrubberHighPrioritySlabs := a.scrubberHighPrioritySlabs.filter fun n => !decide (d.owns z n)
      scrubberSlabs := a.scrubberSlabs.filter fun n => !decide (d.owns z n) }

/-- The allocator's slabs from the highest number down, the order its slab iterator walks. -/
def slabsOf (d : SlabDepot) (z : Nat) : List Nat :=
  (List.range d.slabCount).reverse.filter fun n => (d.slabs n).allocator = z

theorem mem_slabsOf {d : SlabDepot} {z n : Nat} : n ∈ slabsOf d z ↔ d.owns z n := by
  simp [slabsOf, SlabDepot.owns]

theorem nodup_slabsOf (d : SlabDepot) (z : Nat) : (slabsOf d z).Nodup :=
  (List.nodup_reverse.2 (List.nodup_range _)).filter _

/-- `vdo_register_new_slabs_for_allocator`: register each new slab of the allocator, in
increasing slab number. -/
def vdoRegisterNewSlabsForAllocator (a : BlockAllocator) (z : Nat) (newSlabs : Nat → VdoSlab)
    (slabCount newSlabCount : Nat) : BlockAllocator :=
  (List.range' slabCount (newSlabCount - slabCount)).foldl
    (fun a i => if (newSlabs i).allocator = z then vdoRegisterSlabWithAllocator a i else a) a

section RegisterNewSlabs

variable (z : Nat) (newSlabs : Nat → VdoSlab) (slabCount newSlabCount : Nat)

theorem vdoRegisterNewSlabsForAllocator_withoutCount (a : BlockAllocator) :
    (vdoRegisterNewSlabsForAllocator a z newSlabs slabCount newSlabCount).withoutCount =
      a.withoutCount := by
  unfold vdoRegisterNewSlabsForAllocator
  generalize List.range' slabCount (newSlabCount - slabCount) = l
  induction l generalizing a with
  | nil => rfl
  | cons i l ih => rw [List.foldl_cons, ih]; split_ifs <;> rfl

theorem vdoRegisterNewSlabsForAllocator_allocatedBlocks (a : BlockAllocator) :
    (vdoRegisterNewSlabsForAllocator a z newSlabs slabCount newSlabCount).allocatedBlocks =
      a.allocatedBlocks := by
  unfold vdoRegisterNewSlabsForAllocator
  generalize List.range' slabCount (newSlabCount - slabCount) = l
  induction l generalizing a with
  | nil => rfl
  | cons i l ih => rw [List.foldl_cons, ih]; split_ifs <;> rfl

/-- Each new slab of the allocator is counted once. -/
theorem vdoRegisterNewSlabsForAllocator_slabCount (a : BlockAllocator) :
    (vdoRegisterNewSlabsForAllocator a z newSlabs slabCount newSlabCount).slabCount =
      a.slabCount + ((List.range' slabCount (newSlabCount - slabCount)).filter
        fun i => (newSlabs i).allocator = z).length := by
  unfold vdoRegisterNewSlabsForAllocator
  generalize List.range' slabCount (newSlabCount - slabCount) = l
  induction l generalizing a with
  | nil => rfl
  | cons i l ih =>
    rw [List.foldl_cons, ih, List.filter_cons]
    by_cases hi : (newSlabs i).allocator = z <;> simp [hi, vdoRegisterSlabWithAllocator]
    omega

end RegisterNewSlabs

end Kvdo
