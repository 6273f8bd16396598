/-
# Runs of the block allocators

The allocators' state moves by the calls into `block-allocator.c` and by the events of
the parts around it that report to it:

| event | what runs |
| --- | --- |
| `allocate z first second` | `vdo_allocate_block` of allocator `z` |
| `changeFreeCount n inc` | the reference counts of slab `n` gain or lose a free block, then `vdo_adjust_free_block_count` |
| `addJournalEntry n` | slab `n`'s journal takes an entry that frees or claims no block |
| `finishScrubbing n F blank` | the scrubber has replayed slab `n`, then `vdo_queue_slab` |
| `drain z` | `apply_to_slabs` of a drain of allocator `z` |
| `resume z` | `apply_to_slabs` of a resume: `vdo_queue_slab` of each resuming slab |
| `grow m` | the depot grows to `m` slabs; `vdo_register_new_slabs_for_allocator` |

A run starts where `vdo_prepare_slabs_for_allocation` leaves a freshly decoded and loaded
depot (`Reachable.prepared`); a rebuild load has erased every slab journal first
(`loadSlab`).

The steps stand for callers that are not in the sources, and their preconditions are
those callers' discipline.  The data path reports free block changes and journal entries
only for slabs in service, on their allocator's table or open (`SlabDepot.InService`): a
slab journal makes an unrecovered slab's entries wait for the scrubber and refuses entries
while its slab is drained, the depot drains after the data path, and a read-only VDO
refuses changes.  The adjust clause of the placement invariant rests on this: a slab in
service whose free block count changes is re-queued by `vdo_adjust_free_block_count`
unless it is open (`vdoAdjustFreeBlockCount_requeues`), while a slab on a scrubber's list
would be left where it is.  A journal entry that frees or claims no block records a
reference change among blocks already referenced (a second reference to a deduplicated
block, or one of two given up); the step lets any slab in service take one, also a slab
with no referenced block, which the code never gives such an entry, so the invariants are
proved over more runs than the code has.  The second search of `vdo_allocate_block`
starts from a freshly reset cursor, so it runs off the end only of a full slab.
-/

import Kvdo.Vdo.PrepareSlabs

namespace Kvdo

/-- Register each slab of a list with its allocator, in order. -/
def registerSlabs (allocators : Nat → BlockAllocator) (owner : Nat → Nat) :
    List Nat → Nat → BlockAllocator
  | [] => allocators
  | n :: ns => registerSlabs
      (Function.update allocators (owner n) (vdoRegisterSlabWithAllocator (allocators (owner n)) n))
      owner ns

/-- Modelled from the spec: `decode_vdo_slab_depot` and the load of every slab.  Slab `n`
of `slabCount` belongs to allocator `n % zoneCount`, comes back from its load as
recovered with the free blocks and journal `loaded` gives it, and is registered with its
allocator in increasing slab number. -/
def decodeSlabDepot (dataBlocks zoneCount slabCount : Nat) (loaded : Nat → VdoSlab) :
    SlabDepot where
  dataBlocks := dataBlocks
  zoneCount := zoneCount
  slabCount := slabCount
  slabs n := { loaded n with allocator := n % zoneCount, unrecovered := false }
  allocators := registerSlabs (fun _ => BlockAllocator.empty) (· % zoneCount) (List.range slabCount)
  readOnly := false

/-- `initiate_load`: a rebuild load erases every slab journal (`vdo_erase_slab_journals`,
not in the sources), so each slab comes back blank; any other load leaves its slabs as
they were saved. -/
def loadSlab (loadType : SlabDepotLoadType) (slab : VdoSlab) : VdoSlab :=
  if loadType = .rebuild then { slab with journalBlank := true } else slab

/-- Modelled from the spec: `prepare_vdo_slab_depot_to_allocate` runs
`vdo_prepare_block_allocator_to_allocate` in each zone in turn, with the zone's part of
the slab summary. -/
def prepareSlabDepotToAllocate (d : SlabDepot) (summary : Nat → Nat → SlabSummaryEntry)
    (loadType : SlabDepotLoadType) : SlabDepot :=
  (List.range d.zoneCount).foldl (fun d z => vdoPrepareSlabsForAllocation d z (summary z) loadType) d

/-- The reference counts of slab `n` gain (`increment`) or lose a free block, and tell
the allocator with `vdo_adjust_free_block_count`. -/
def changeFreeBlockCount (d : SlabDepot) (n : Nat) (increment : Bool) : SlabDepot :=
  vdoAdjustFreeBlockCount (d.updateSlab n fun slab =>
    { slab with freeBlocks := if increment then slab.freeBlocks + 1 else slab.freeBlocks - 1 })
    n increment

/-- Slab `n`'s journal takes an entry, so it is no longer blank. -/
def addJournalEntry (d : SlabDepot) (n : Nat) : SlabDepot :=
  d.updateSlab n fun slab => { slab with journalBlank := false }

/-- The scrubber takes slab `n` off its lists, replays its journal into `freeBlocks` free
blocks, marks it recovered and queues it with `vdo_queue_slab`. -/
def finishScrubbing (d : SlabDepot) (n freeBlocks : Nat) (journalBlank : Bool) : SlabDepot :=
  let d := d.updateAllocator (d.slabs n).allocator fun a =>
    { a with
      scrubberHighPrioritySlabs := a.scrubberHighPrioritySlabs.erase n
      scrubberSlabs := a.scrubberSlabs.erase n }
  vdoQueueSlab (d.updateSlab n fun slab => { slab with freeBlocks, journalBlank, unrecovered := false })
    n false

/-- A drain of allocator `z`: its slabs come off every list and it becomes quiescent. -/
def drainBlockAllocator (d : SlabDepot) (z : Nat) : SlabDepot :=
  (detachSlabs d z).updateAllocator z fun a => { a with quiescent := true }

/-- A resume of allocator `z`: it leaves quiescence, and each of its slabs is queued as a
resuming slab, in the order its slab iterator walks them. -/
def resumeBlockAllocator (d : SlabDepot) (z : Nat) : SlabDepot :=
  (slabsOf d z).foldl (fun d n => vdoQueueSlab d n true)
    ((detachSlabs d z).updateAllocator z fun a => { a with quiescent := false })

/-- Modelled from the spec: a new slab made by `vdo_prepare_to_grow_slab_depot`, all free,
with a blank journal, for allocator `n % zone_count`. -/
def newSlab (d : SlabDepot) (n : Nat) : VdoSlab :=
  ⟨n % d.zoneCount, d.dataBlocks, true, false, 0, false⟩

/-- Modelled from the spec: `vdo_use_new_slabs` grows the depot to `newSlabCount` slabs
and runs `vdo_register_new_slabs_for_allocator` in every zone. -/
def vdoUseNewSlabs (d : SlabDepot) (newSlabCount : Nat) : SlabDepot :=
  let newSlabs n := if n < d.slabCount then d.slabs n else newSlab d n
  { d with
    slabs := newSlabs
    slabCount := newSlabCount
    allocators := fun z =>
      vdoRegisterNewSlabsForAllocator (d.allocators z) z newSlabs d.slabCount newSlabCount }

/-- Slab `n` is in service: on its allocator's table, or its open slab. -/
def SlabDepot.InService (d : SlabDepot) (n : Nat) : Prop :=
  n ∈ (d.allocators (d.slabs n).allocator).tableSlabs ∨
    (d.allocators (d.slabs n).allocator).openSlab = some n

instance (d : SlabDepot) (n : Nat) : Decidable (d.InService n) :=
  inferInstanceAs (Decidable (_ ∨ _))

/-- One step of the allocators. -/
inductive AllocatorStep : SlabDepot → SlabDepot → Prop where
  | allocate {d d' : SlabDepot} {z : Nat} {first second : SearchOutcome} {result : Status} :
      second ≠ .ranOffEnd → vdoAllocateBlock d z first second = some (result, d') →
      AllocatorStep d d'
  | changeFreeCount {d : SlabDepot} {n : Nat} {increment : Bool} : d.InService n →
      (if increment then (d.slabs n).freeBlocks < d.dataBlocks else 0 < (d.slabs n).freeBlocks) →
      AllocatorStep d (changeFreeBlockCount d n increment)
  | addJournalEntry {d : SlabDepot} {n : Nat} : d.InService n →
      AllocatorStep d (addJournalEntry d n)
  | finishScrubbing {d : SlabDepot} {n freeBlocks : Nat} {journalBlank : Bool} :
      n ∈ (d.allocators (d.slabs n).allocator).scrubbing →
      AllocatorStep d (finishScrubbing d n freeBlocks journalBlank)
  | drain {d : SlabDepot} {z : Nat} : (d.allocators z).quiescent = false →
      AllocatorStep d (drainBlockAllocator d z)
  | resume {d : SlabDepot} {z : Nat} : (d.allocators z).quiescent = true →
      AllocatorStep d (resumeBlockAllocator d z)
  | grow {d : SlabDepot} {newSlabCount : Nat} : d.slabCount ≤ newSlabCount →
      (∀ z < d.zoneCount, (d.allocators z).quiescent = true) →
      AllocatorStep d (vdoUseNewSlabs d newSlabCount)

/-- The states the allocators reach: a freshly decoded depot, loaded with the load type it
is then prepared for allocation with, then any sequence of steps. -/
inductive Reachable : SlabDepot → Prop where
  | prepared {dataBlocks zoneCount slabCount : Nat} {loaded : Nat → VdoSlab}
      {summary : Nat → Nat → SlabSummaryEntry} {loadType : SlabDepotLoadType} :
      0 < zoneCount →
      Reachable (prepareSlabDepotToAllocate
        (decodeSlabDepot dataBlocks zoneCount slabCount fun n => loadSlab loadType (loaded n))
        summary loadType)
  | step {d d' : SlabDepot} : Reachable d → AllocatorStep d d' → Reachable d'

end Kvdo
