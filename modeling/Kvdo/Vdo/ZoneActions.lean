/-
# What a resume and a preparation leave on an allocator's lists

Two zone actions of `block-allocator.c` fill an allocator's priority table from nothing.
`vdo_prepare_block_allocator_to_allocate` (874-891) runs
`vdo_prepare_slabs_for_allocation` and then starts the scrubber on the high-priority
slabs, asking it to scrub at least one slab when `is_priority_table_empty`.  A resume
runs `apply_to_slabs` (686-722), which unlinks every slab of the allocator, and each slab
then comes back through `vdo_queue_slab` (398-439) as a resuming slab.

`vdo_queue_slab` reads a slab's free block count, its journal and whether it is
unrecovered, and writes only the priority it records for the slab.  So a run of it over
distinct slabs is a filter and a map of the order it walks them
(`foldl_vdoQueueSlab_resuming`): the slabs that pass its check and are recovered go to
the table at the priority `calculate_slab_priority` gives them, the unrecovered ones to
the scrubber's normal list.

* `resume_rebuildsTable`: in every reachable state, a drain and a resume leave the
  allocator's table exactly its recovered slabs with valid counts, from the highest slab
  number down, each at its current priority.  A bucket made stale by a first journal
  entry (`tableBucket_stale`) is fresh again after a resume.
* `prepareToAllocate_scrubAtLeastOne`: preparation leaves on the table exactly the slabs
  it queues that pass `vdo_queue_slab`'s checks, in heap order; the scrubber is asked for
  at least one slab exactly when every slab of the allocator was left for scrubbing,
  was already unrecovered, or was refused for its free block count.
-/

import Kvdo.Vdo.AllocatorContracts

namespace Kvdo

namespace SlabDepot

/-- `vdo_queue_slab` puts slab `n` on its allocator's table: its free block count passes
the check and it is recovered. -/
def queuesForAllocation (d : SlabDepot) (n : Nat) : Bool :=
  decide ((d.slabs n).freeBlocks ≤ d.dataBlocks) && !(d.slabs n).unrecovered

/-- `vdo_queue_slab` gives slab `n` to its allocator's scrubber: its free block count
passes the check and it is unrecovered. -/
def queuesForScrubbing (d : SlabDepot) (n : Nat) : Bool :=
  decide ((d.slabs n).freeBlocks ≤ d.dataBlocks) && (d.slabs n).unrecovered

/-- The entry `prioritize_slab` enqueues for slab `n`: its current priority. -/
def tableEntry (d : SlabDepot) (n : Nat) : Nat × Nat :=
  (calculateSlabPriority d.unopened (d.slabs n), n)

/-- Two depots whose slabs differ at most in the priority recorded for them. -/
structure SameSlabs (d d' : SlabDepot) : Prop where
  dataBlocks : d'.dataBlocks = d.dataBlocks
  slabCount : d'.slabCount = d.slabCount
  freeBlocks : ∀ m, (d'.slabs m).freeBlocks = (d.slabs m).freeBlocks
  journalBlank : ∀ m, (d'.slabs m).journalBlank = (d.slabs m).journalBlank
  unrecovered : ∀ m, (d'.slabs m).unrecovered = (d.slabs m).unrecovered
  allocator : ∀ m, (d'.slabs m).allocator = (d.slabs m).allocator

namespace SameSlabs

variable {d d' d'' : SlabDepot}

theorem refl (d : SlabDepot) : d.SameSlabs d :=
  ⟨rfl, rfl, fun _ => rfl, fun _ => rfl, fun _ => rfl, fun _ => rfl⟩

theorem trans (h : d.SameSlabs d') (h' : d'.SameSlabs d'') : d.SameSlabs d'' :=
  ⟨h'.dataBlocks.trans h.dataBlocks, h'.slabCount.trans h.slabCount,
    fun m => (h'.freeBlocks m).trans (h.freeBlocks m),
    fun m => (h'.journalBlank m).trans (h.journalBlank m),
    fun m => (h'.unrecovered m).trans (h.unrecovered m),
    fun m => (h'.allocator m).trans (h.allocator m)⟩

theorem queuesForAllocation_eq (h : d.SameSlabs d') :
    d'.queuesForAllocation = d.queuesForAllocation := by
  funext n; simp [SlabDepot.queuesForAllocation, h.freeBlocks, h.unrecovered, h.dataBlocks]

theorem queuesForScrubbing_eq (h : d.SameSlabs d') :
    d'.queuesForScrubbing = d.queuesForScrubbing := by
  funext n; simp [SlabDepot.queuesForScrubbing, h.freeBlocks, h.unrecovered, h.dataBlocks]

theorem tableEntry_eq (h : d.SameSlabs d') : d'.tableEntry = d.tableEntry := by
  funext n
  simp [SlabDepot.tableEntry, SlabDepot.unopened, calculateSlabPriority, h.freeBlocks,
    h.journalBlank, h.dataBlocks]

theorem slabsOf_eq (h : d.SameSlabs d') (z : Nat) : slabsOf d' z = slabsOf d z := by
  simp [slabsOf, h.slabCount, h.allocator]

end SameSlabs

end SlabDepot

/-- A drain moves no slab between allocators. -/
theorem slabsOf_drainBlockAllocator (d : SlabDepot) (z z' : Nat) :
    slabsOf (drainBlockAllocator d z) z' = slabsOf d z' := rfl

theorem slabsOf_updateAllocator (d : SlabDepot) (z : Nat) (f : BlockAllocator → BlockAllocator)
    (z' : Nat) : slabsOf (d.updateAllocator z f) z' = slabsOf d z' := rfl

theorem slabsOf_detachSlabs (d : SlabDepot) (z z' : Nat) : slabsOf (detachSlabs d z) z' = slabsOf d z' :=
  rfl

section QueueSlab

variable (d : SlabDepot) (n : Nat) (resuming : Bool)

/-- `vdo_queue_slab` writes no slab field but the priority it records. -/
theorem sameSlabs_vdoQueueSlab : d.SameSlabs (vdoQueueSlab d n resuming) := by
  refine ⟨by simp, by simp, by simp, fun m => ?_, by simp, by simp⟩
  rcases vdoQueueSlab_cases d n resuming with ⟨-, h⟩ | ⟨-, -, h⟩ | ⟨-, -, h⟩ <;> rw [h]
  · rfl
  · rw [prioritizeSlab_slabs]; split_ifs with hm <;> cases resuming <;> simp [hm]

/-- `vdo_queue_slab` refuses a free block count above the slab size by entering read-only
mode, and changes the read-only state in no other case. -/
theorem vdoQueueSlab_readOnly_eq :
    (vdoQueueSlab d n resuming).readOnly =
      (d.readOnly || decide (d.dataBlocks < (d.slabs n).freeBlocks)) := by
  rcases vdoQueueSlab_cases d n resuming with ⟨h1, h⟩ | ⟨h1, -, h⟩ | ⟨h1, -, h⟩ <;> rw [h]
  · simp [h1]
  · simp [vdoRegisterSlabForScrubbing, Nat.not_lt.2 h1]
  · cases resuming <;> simp [Nat.not_lt.2 h1]

/-- The table of the slab's allocator gains the slab's entry when `vdo_queue_slab` accepts
it, and no table changes otherwise. -/
theorem vdoQueueSlab_prioritizedSlabs (z : Nat) :
    ((vdoQueueSlab d n resuming).allocators z).prioritizedSlabs =
      (d.allocators z).prioritizedSlabs ++
        if (d.slabs n).allocator = z ∧ d.queuesForAllocation n = true then [d.tableEntry n]
        else [] := by
  rcases vdoQueueSlab_cases d n resuming with ⟨h1, h⟩ | ⟨h1, h2, h⟩ | ⟨h1, h2, h⟩ <;> rw [h]
  · simp [SlabDepot.queuesForAllocation, Nat.not_le.2 h1]
  · simp [SlabDepot.queuesForAllocation, h2]
  · by_cases hz : (d.slabs n).allocator = z
    · subst hz
      cases resuming <;> simp [prioritizeSlab_allocators, priorityTableEnqueue,
        SlabDepot.queuesForAllocation, SlabDepot.tableEntry, h1, h2]
    · cases resuming <;> simp [prioritizeSlab_allocators, Ne.symm hz, hz]

/-- **A resuming slab, queued.**  Its allocator's table gains its entry at its current
priority when it is recovered with a valid count, the scrubber's normal list gains it
when it is unrecovered with a valid count, and nothing else of the allocator changes. -/
theorem vdoQueueSlab_resuming {z : Nat} (hz : (d.slabs n).allocator = z) :
    (vdoQueueSlab d n true).allocators z =
      { d.allocators z with
        prioritizedSlabs := (d.allocators z).prioritizedSlabs ++
          if d.queuesForAllocation n then [d.tableEntry n] else []
        scrubberSlabs := (d.allocators z).scrubberSlabs ++
          if d.queuesForScrubbing n then [n] else [] } := by
  subst hz
  rcases vdoQueueSlab_cases d n true with ⟨h1, h⟩ | ⟨h1, h2, h⟩ | ⟨h1, h2, h⟩ <;> rw [h]
  · simp [SlabDepot.queuesForAllocation, SlabDepot.queuesForScrubbing, Nat.not_le.2 h1]
  · simp [SlabDepot.queuesForAllocation, SlabDepot.queuesForScrubbing, vdoRegisterSlabForScrubbing,
      h1, h2]
  · simp [SlabDepot.queuesForAllocation, SlabDepot.queuesForScrubbing, SlabDepot.tableEntry,
      prioritizeSlab_allocators, priorityTableEnqueue, h1, h2]

end QueueSlab

/-- `vdo_queue_slab` of a run of slabs keeps every slab's free blocks, journal, recovery
and allocator. -/
theorem sameSlabs_foldl_vdoQueueSlab (resuming : Bool) :
    ∀ (l : List Nat) (d : SlabDepot),
      d.SameSlabs (l.foldl (fun d n => vdoQueueSlab d n resuming) d)
  | [], d => .refl d
  | n :: l, d => (sameSlabs_vdoQueueSlab d n resuming).trans (sameSlabs_foldl_vdoQueueSlab resuming l _)

/-- A run of `vdo_queue_slab` enters read-only mode when one of its slabs has a free block
count above the slab size. -/
theorem foldl_vdoQueueSlab_readOnly (resuming : Bool) :
    ∀ (l : List Nat) (d : SlabDepot),
      (l.foldl (fun d n => vdoQueueSlab d n resuming) d).readOnly =
        (d.readOnly || l.any fun n => decide (d.dataBlocks < (d.slabs n).freeBlocks))
  | [], d => by simp
  | n :: l, d => by
    have hs := sameSlabs_vdoQueueSlab d n resuming
    rw [List.foldl_cons, foldl_vdoQueueSlab_readOnly resuming l, vdoQueueSlab_readOnly_eq]
    simp only [hs.dataBlocks, hs.freeBlocks, List.any_cons, Bool.or_assoc]

/-- **Resuming slabs, queued in turn.**  Over slabs of allocator `z`, the table gains the
entries of the recovered slabs with valid counts and the scrubber's normal list the
unrecovered ones, each in the order of the run. -/
theorem foldl_vdoQueueSlab_resuming (z : Nat) :
    ∀ (l : List Nat) (d : SlabDepot), (∀ n ∈ l, (d.slabs n).allocator = z) →
      (l.foldl (fun d n => vdoQueueSlab d n true) d).allocators z =
        { d.allocators z with
          prioritizedSlabs := (d.allocators z).prioritizedSlabs ++
            (l.filter d.queuesForAllocation).map d.tableEntry
          scrubberSlabs := (d.allocators z).scrubberSlabs ++ l.filter d.queuesForScrubbing }
  | [], d, _ => by simp
  | n :: l, d, hl => by
    have hs := sameSlabs_vdoQueueSlab d n true
    rw [List.foldl_cons, foldl_vdoQueueSlab_resuming z l _ fun m hm => by
      rw [hs.allocator]; exact hl m (List.mem_cons_of_mem _ hm),
      hs.queuesForAllocation_eq, hs.queuesForScrubbing_eq, hs.tableEntry_eq,
      vdoQueueSlab_resuming d n (hl n (List.mem_cons_self _ _))]
    cases ha : d.queuesForAllocation n <;> cases hc : d.queuesForScrubbing n <;>
      simp [List.filter_cons, ha, hc]

/-- **A drain and a resume rebuild the table.**  In every reachable state, after a drain
and a resume of allocator `z`: its table is exactly its recovered slabs whose free block
count passes `vdo_queue_slab`'s check, in the order the slab iterator walks them (highest
slab number first), each at the priority `calculate_slab_priority` gives it now; it has
no open slab; its scrubber's high-priority list is empty and its normal list is exactly
its unrecovered slabs with valid counts, in the same order; and the depot is read-only
exactly when it was, or one of the allocator's slabs has a free block count above the
slab size. -/
theorem resume_rebuildsTable {d : SlabDepot} (hd : Reachable d) (z : Nat) :
    let d' := resumeBlockAllocator (drainBlockAllocator d z) z
    (d'.allocators z).prioritizedSlabs =
        ((slabsOf d' z).filter d'.queuesForAllocation).map d'.tableEntry ∧
      (d'.allocators z).openSlab = none ∧
      (d'.allocators z).scrubberHighPrioritySlabs = [] ∧
      (d'.allocators z).scrubberSlabs = (slabsOf d' z).filter d'.queuesForScrubbing ∧
      (d'.readOnly = true ↔
        d.readOnly = true ∨ ∃ n, d.owns z n ∧ d.dataBlocks < (d.slabs n).freeBlocks) := by
  intro d'
  have hp := hd.inv.placed z
  set d₀ := (detachSlabs (drainBlockAllocator d z) z).updateAllocator z
    fun a => { a with quiescent := false } with hd₀
  have hnil : ∀ l : List Nat, (∀ m ∈ l, d.owns z m) → l.filter (fun m => !decide (d.owns z m)) = [] :=
    fun l hl => List.filter_eq_nil_iff.2 fun m hm => by simp [hl m hm]
  have hA : d₀.allocators z = { d.allocators z with
      openSlab := none, prioritizedSlabs := [], scrubberHighPrioritySlabs := [],
      scrubberSlabs := [], quiescent := false } := by
    have hT : (d.allocators z).prioritizedSlabs.filter (fun e => !decide (d.owns z e.2)) = [] :=
      List.filter_eq_nil_iff.2 fun e he => by
        simp [hp.tableOwned e.2 (List.mem_map.2 ⟨e, he, rfl⟩)]
    simp [hd₀, drainBlockAllocator, detachSlabs, List.filter_filter, hT,
      hnil _ fun m hm => hp.scrubbingOwned m (List.mem_append_left _ hm),
      hnil _ fun m hm => hp.scrubbingOwned m (List.mem_append_right _ hm)]
  have hd' : d' = (slabsOf (drainBlockAllocator d z) z).foldl (fun d n => vdoQueueSlab d n true) d₀ :=
    rfl
  have hslabs : slabsOf d₀ z = slabsOf d z := by
    rw [hd₀, slabsOf_updateAllocator, slabsOf_detachSlabs, slabsOf_drainBlockAllocator]
  rw [slabsOf_drainBlockAllocator, ← hslabs] at hd'
  have hsame : d₀.SameSlabs d' := by rw [hd']; exact sameSlabs_foldl_vdoQueueSlab true _ _
  have hfold := foldl_vdoQueueSlab_resuming z (slabsOf d₀ z) d₀ fun n hn => (mem_slabsOf.1 hn).2
  rw [← hd'] at hfold
  rw [hfold, hsame.slabsOf_eq, hsame.queuesForAllocation_eq, hsame.queuesForScrubbing_eq,
    hsame.tableEntry_eq, hA, hd', foldl_vdoQueueSlab_readOnly, hslabs]
  refine ⟨List.nil_append _, rfl, rfl, List.nil_append _, ?_⟩
  simp only [hd₀, SlabDepot.updateAllocator_readOnly, detachSlabs, drainBlockAllocator,
    SlabDepot.updateAllocator_dataBlocks, SlabDepot.updateAllocator_slabs, Bool.or_eq_true,
    List.any_eq_true, decide_eq_true_eq, mem_slabsOf]

theorem resume_rebuildsTable_rebuilt :
    let d' := resumeBlockAllocator (drainBlockAllocator rebuiltDepot 0) 0
    (d'.allocators 0).prioritizedSlabs =
        ((slabsOf d' 0).filter d'.queuesForAllocation).map d'.tableEntry ∧
      (d'.allocators 0).openSlab = none ∧
      (d'.allocators 0).scrubberHighPrioritySlabs = [] ∧
      (d'.allocators 0).scrubberSlabs = (slabsOf d' 0).filter d'.queuesForScrubbing ∧
      (d'.readOnly = true ↔ rebuiltDepot.readOnly = true ∨
        ∃ n, rebuiltDepot.owns 0 n ∧ rebuiltDepot.dataBlocks < (rebuiltDepot.slabs n).freeBlocks) :=
  resume_rebuildsTable rebuiltDepot_reachable 0

/-- `vdo_prepare_block_allocator_to_allocate` of allocator `z`: prepare its slabs, then
start its scrubber on the high-priority slabs with `scrub_at_least_one` set when the
priority table is empty.  The scrubber is not in the sources: the model returns the
depot and the flag the scrubber is started with. -/
def vdoPrepareBlockAllocatorToAllocate (d : SlabDepot) (z : Nat)
    (summary : Nat → SlabSummaryEntry) (loadType : SlabDepotLoadType) : SlabDepot × Bool :=
  let d := vdoPrepareSlabsForAllocation d z summary loadType
  (d, isPriorityTableEmpty (d.allocators z).prioritizedSlabs)

/-- The entry a call of the preparation loop puts on the table: that of a queued slab
`vdo_queue_slab` accepts. -/
def queuedEntry (d : SlabDepot) : PrepareCall → Option (Nat × Nat)
  | .queue n => if d.queuesForAllocation n then some (d.tableEntry n) else none
  | .scrub _ _ => none

/-- `vdo_queue_slab` puts a slab on no table exactly when it is unrecovered or its free
block count is above the slab size. -/
theorem queuedEntry_queue_eq_none (d : SlabDepot) (n : Nat) :
    queuedEntry d (.queue n) = none ↔
      (d.slabs n).unrecovered = true ∨ d.dataBlocks < (d.slabs n).freeBlocks := by
  rw [queuedEntry, ite_eq_right_iff, SlabDepot.queuesForAllocation]
  cases (d.slabs n).unrecovered <;> simp

theorem applyPrepareCall_prioritizedSlabs (d : SlabDepot) (c : PrepareCall) {z : Nat}
    (hz : (d.slabs c.slab).allocator = z) :
    ((applyPrepareCall d c).allocators z).prioritizedSlabs =
      (d.allocators z).prioritizedSlabs ++ (queuedEntry d c).toList := by
  cases c with
  | queue n =>
    rw [applyPrepareCall, vdoQueueSlab_prioritizedSlabs]
    cases h : d.queuesForAllocation n <;> simp [queuedEntry, h, show (d.slabs n).allocator = z from hz]
  | scrub n high => simp [applyPrepareCall, queuedEntry]

theorem queuedEntry_applyPrepareCall {d : SlabDepot} {c c' : PrepareCall} (h : c'.slab ≠ c.slab) :
    queuedEntry (applyPrepareCall d c) c' = queuedEntry d c' := by
  cases c' with
  | queue n =>
    have hs := applyPrepareCall_slabs_of_ne (d := d) n h
    have hb := applyPrepareCall_dataBlocks d c
    simp [queuedEntry, SlabDepot.queuesForAllocation, SlabDepot.tableEntry, SlabDepot.unopened, hs, hb]
  | scrub n high => rfl

/-- Over calls on distinct slabs of allocator `z`, the table gains the entries of the
queued slabs `vdo_queue_slab` accepts, in the order of the calls. -/
theorem foldl_applyPrepareCall_prioritizedSlabs {z : Nat} :
    ∀ (calls : List PrepareCall) (d : SlabDepot), (calls.map PrepareCall.slab).Nodup →
      (∀ c ∈ calls, (d.slabs c.slab).allocator = z) →
      ((calls.foldl applyPrepareCall d).allocators z).prioritizedSlabs =
        (d.allocators z).prioritizedSlabs ++ calls.filterMap (queuedEntry d)
  | [], d, _, _ => by simp
  | c :: cs, d, hnd, hz => by
    rw [List.map_cons, List.nodup_cons] at hnd
    have hne : ∀ c' ∈ cs, c'.slab ≠ c.slab := fun c' hc' h =>
      hnd.1 (h ▸ List.mem_map_of_mem _ hc')
    rw [List.foldl_cons, foldl_applyPrepareCall_prioritizedSlabs cs _ hnd.2
      (fun c' hc' => by rw [applyPrepareCall_slabs_of_ne _ (hne c' hc')]; exact hz c' (by simp [hc'])),
      applyPrepareCall_prioritizedSlabs d c (hz c (List.mem_cons_self _ _)),
      List.filterMap_congr fun c' hc' => queuedEntry_applyPrepareCall (hne c' hc')]
    rcases h : queuedEntry d c with _ | e <;> simp [List.filterMap_cons, h]

/-- **What preparation leaves on the table, and when it asks for a scrubbed slab.**  From
an empty table, for every summary and load type: the table ends as the entries of the
slabs the loop queues and `vdo_queue_slab` accepts, in heap order, each at its priority;
and `vdo_prepare_block_allocator_to_allocate` asks the scrubber to scrub at least one slab
exactly when every slab of the allocator was registered for scrubbing, or was already
unrecovered, or has a free block count above the slab size. -/
theorem prepareToAllocate_scrubAtLeastOne (d : SlabDepot) (z : Nat)
    (summary : Nat → SlabSummaryEntry) (loadType : SlabDepotLoadType)
    (hempty : (d.allocators z).prioritizedSlabs = []) :
    let r := vdoPrepareBlockAllocatorToAllocate d z summary loadType
    (r.1.allocators z).prioritizedSlabs = (preparePlan d z summary loadType).filterMap (queuedEntry d) ∧
      (r.2 = true ↔ ∀ n, d.owns z n →
        ¬(loadType = .rebuild ∨ ((summary n).isDirty = false ∧ (summary n).loadRefCounts = false)) ∨
          (d.slabs n).unrecovered = true ∨ d.dataBlocks < (d.slabs n).freeBlocks) := by
  intro r
  have htable : (r.1.allocators z).prioritizedSlabs =
      (preparePlan d z summary loadType).filterMap (queuedEntry d) := by
    rw [show r.1 = vdoPrepareSlabsForAllocation d z summary loadType from rfl,
      vdoPrepareSlabsForAllocation, foldl_applyPrepareCall_prioritizedSlabs _ (d.updateAllocator z _)
        (preparePlan_nodup d z summary loadType)
        fun c hc => (mem_preparePlan_slab.1 (List.mem_map_of_mem _ hc)).2]
    simp only [SlabDepot.updateAllocator_allocators, if_pos rfl, hempty, List.nil_append]
    rfl
  refine ⟨htable, ?_⟩
  rw [show r.2 = isPriorityTableEmpty (r.1.allocators z).prioritizedSlabs from rfl, htable,
    isPriorityTableEmpty, List.isEmpty_iff, List.filterMap_eq_nil_iff]
  constructor
  · intro h n hn
    obtain ⟨c, hc, rfl⟩ := List.mem_map.1 ((@mem_preparePlan_slab d z summary loadType n).2 hn)
    rcases mem_preparePlan hc with ⟨m, rfl, -⟩ | ⟨m, rfl, hcond⟩
    · exact .inr ((queuedEntry_queue_eq_none d m).1 (h _ hc))
    · exact .inl hcond
  · intro h c hc
    rcases mem_preparePlan hc with ⟨m, rfl, hcond⟩ | ⟨m, rfl, -⟩
    · exact (queuedEntry_queue_eq_none d m).2
        ((h m (mem_preparePlan_slab.1 (List.mem_map_of_mem _ hc))).resolve_left (not_not.2 hcond))
    · rfl

/-- A depot of two four-block slabs in one zone, freshly decoded. -/
def decodedDepot : SlabDepot := decodeSlabDepot 4 1 2 fun _ => ⟨0, 4, true, false, 0, false⟩

theorem prepareToAllocate_scrubAtLeastOne_dirty :
    let r := vdoPrepareBlockAllocatorToAllocate decodedDepot 0 (fun _ => ⟨true, 0, false⟩) .normal
    (r.1.allocators 0).prioritizedSlabs =
        (preparePlan decodedDepot 0 (fun _ => ⟨true, 0, false⟩) .normal).filterMap
          (queuedEntry decodedDepot) ∧
      (r.2 = true ↔ ∀ n, decodedDepot.owns 0 n →
        ¬(SlabDepotLoadType.normal = .rebuild ∨ (true = false ∧ false = false)) ∨
          (decodedDepot.slabs n).unrecovered = true ∨
          decodedDepot.dataBlocks < (decodedDepot.slabs n).freeBlocks) :=
  prepareToAllocate_scrubAtLeastOne decodedDepot 0 (fun _ => ⟨true, 0, false⟩) .normal (by decide)

end Kvdo
