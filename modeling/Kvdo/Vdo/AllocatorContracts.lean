/-
# What the block allocator guarantees in every reachable state

From the invariant of `Kvdo.Vdo.AllocatorInvariant`:

* `vdo_allocate_block` from an allocator with an open slab or a non-empty priority table
  never dequeues from an empty table, leaves an open slab, answers `VDO_NO_SPACE` only
  when the table's slabs and the open slab are all full, and on an error changes no
  counter and no slab's free block count;
* each slab of an allocator is on its table once, in the bucket of its `priority`, or
  its open slab, or on its scrubber's lists, or detached while the allocator is drained
  or after `vdo_queue_slab` refused its free block count; and no other allocator's slab
  is on any of them;
* `allocated_blocks` is the running sum of what each slab holds, between `0` and
  `slab_count * data_blocks`, and a drain followed by a resume leaves it unchanged;
* a slab's bucket is the priority `calculate_slab_priority` gave it when it was last
  prioritized, which a first journal entry makes stale: the slab `vdo_allocate_block`
  opens has the highest recorded priority on the table, but not always the highest
  current one (`tableBucket_stale`).
-/

import Kvdo.Vdo.AllocatorInvariant

namespace Kvdo

/-- A depot of two four-block slabs in one zone, rebuilt: slab 0 with every block free,
slab 1 with two, both journals erased by the rebuild. -/
def rebuiltDepot : SlabDepot :=
  prepareSlabDepotToAllocate
    (decodeSlabDepot 4 1 2 fun n => ⟨0, if n = 0 then 4 else 2, true, false, 0, false⟩)
    (fun _ _ => ⟨false, 0, false⟩) .rebuild

theorem rebuiltDepot_reachable : Reachable rebuiltDepot :=
  @Reachable.prepared 4 1 2 (fun n => ⟨0, if n = 0 then 4 else 2, true, false, 0, false⟩)
    (fun _ _ => ⟨false, 0, false⟩) .rebuild (by decide)

/-- **`vdo_allocate_block` in a reachable state.**  With an open slab or a slab on the
table, and a second search that runs off the end only of a full slab: the call never
dequeues from an empty table (the model's `none`), leaves an open slab, answers
`VDO_NO_SPACE` only when every slab then on the table and the open slab are full, and on
an error leaves every `allocated_blocks` and every slab's free block count as they
were. -/
theorem vdoAllocateBlock_contract {d : SlabDepot} (hd : Reachable d) {z : Nat}
    (hne : (d.allocators z).openSlab ≠ none ∨ (d.allocators z).prioritizedSlabs ≠ [])
    (first : SearchOutcome) {second : SearchOutcome} (hs : second ≠ .ranOffEnd) :
    ∃ r, vdoAllocateBlock d z first second = some r ∧
      (r.2.allocators z).openSlab ≠ none ∧
      (r.1 = .noSpace → (∀ m ∈ (r.2.allocators z).tableSlabs, (r.2.slabs m).freeBlocks = 0) ∧
        ∀ m, (r.2.allocators z).openSlab = some m → (r.2.slabs m).freeBlocks = 0) ∧
      (r.1 ≠ .success →
        (∀ z', (r.2.allocators z').allocatedBlocks = (d.allocators z').allocatedBlocks) ∧
        ∀ m, (r.2.slabs m).freeBlocks = (d.slabs m).freeBlocks) := by
  have hp := hd.inv.placed z
  obtain ⟨r, hr⟩ := Option.isSome_iff_exists.1 (hp.vdoAllocateBlock_isSome hne first second)
  exact ⟨r, hr, vdoAllocateBlock_openSlab hr, hp.vdoAllocateBlock_noSpace hr hs,
    vdoAllocateBlock_failure hr⟩

theorem vdoAllocateBlock_contract_rebuilt :
    ∃ r, vdoAllocateBlock rebuiltDepot 0 .found .found = some r ∧
      (r.2.allocators 0).openSlab ≠ none ∧
      (r.1 = .noSpace → (∀ m ∈ (r.2.allocators 0).tableSlabs, (r.2.slabs m).freeBlocks = 0) ∧
        ∀ m, (r.2.allocators 0).openSlab = some m → (r.2.slabs m).freeBlocks = 0) ∧
      (r.1 ≠ .success →
        (∀ z', (r.2.allocators z').allocatedBlocks = (rebuiltDepot.allocators z').allocatedBlocks) ∧
        ∀ m, (r.2.slabs m).freeBlocks = (rebuiltDepot.slabs m).freeBlocks) :=
  vdoAllocateBlock_contract rebuiltDepot_reachable (by decide) .found (by decide)

/-- A free block change of a slab puts no other slab on a table. -/
theorem changeFreeBlockCount_tableSlabs {d : SlabDepot} {n z m : Nat} (increment : Bool)
    (hm : m ∈ ((changeFreeBlockCount d n increment).allocators z).tableSlabs)
    (hmn : m ≠ n) : m ∈ (d.allocators z).tableSlabs :=
  (vdoAdjustFreeBlockCount_tableSlabs _ n increment hm).resolve_right hmn

/-- **Where each slab is, in a reachable state.**  The table, the open slab and the
scrubber's lists hold only the allocator's own slabs; the table and the scrubber's lists
hold each at most once, the table in the bucket of its `priority`; the open slab is not
on the table, and a slab on the scrubber's lists is neither on the table nor open; a slab
on none of them (detached) belongs to a drained allocator, or `vdo_queue_slab` refused
its free block count and the depot is read-only; and a free block change of a slab in
service puts no detached or scrubbing slab on the table. -/
theorem slabLists_exclusive {d : SlabDepot} (hd : Reachable d) (z : Nat) :
    (∀ n ∈ (d.allocators z).tableSlabs, d.owns z n) ∧
    (∀ n, (d.allocators z).openSlab = some n → d.owns z n) ∧
    (∀ n ∈ (d.allocators z).scrubbing, d.owns z n) ∧
    (d.allocators z).tableSlabs.Nodup ∧ (d.allocators z).scrubbing.Nodup ∧
    (∀ e ∈ (d.allocators z).prioritizedSlabs, e.1 = (d.slabs e.2).priority) ∧
    (∀ n, (d.allocators z).openSlab = some n → n ∉ (d.allocators z).tableSlabs) ∧
    (∀ n ∈ (d.allocators z).scrubbing,
      n ∉ (d.allocators z).tableSlabs ∧ (d.allocators z).openSlab ≠ some n) ∧
    (∀ n, d.owns z n → d.Detached z n → (d.allocators z).quiescent = true ∨
      (d.dataBlocks < (d.slabs n).freeBlocks ∧ d.readOnly = true)) ∧
    (∀ n increment, d.InService n → ∀ m, d.Detached z m ∨ m ∈ (d.allocators z).scrubbing →
      m ∉ ((changeFreeBlockCount d n increment).allocators z).tableSlabs) := by
  have hp := hd.inv.placed z
  refine ⟨hp.tableOwned, fun n ho => (hp.openSlab n ho).1, hp.scrubbingOwned, hp.tableNodup,
    hp.scrubbingNodup, fun e he => (hp.table_entry he).1, fun n ho => (hp.openSlab n ho).2,
    fun n hn => hp.scrubbing_detached hn,
    fun n hn hdet => (hp.slabs n hn (List.not_mem_nil n)).detached hdet,
    fun n increment hin m hm ht => ?_⟩
  have hoff : m ∉ (d.allocators z).tableSlabs ∧ (d.allocators z).openSlab ≠ some m :=
    hm.elim (fun hdet => ⟨hdet.1, hdet.2.1⟩) hp.scrubbing_detached
  by_cases hz : (d.slabs n).allocator = z
  · have hmn : m ≠ n := by
      intro h; subst h
      unfold SlabDepot.InService at hin
      rw [hz] at hin
      exact hin.elim hoff.1 hoff.2
    exact hoff.1 (changeFreeBlockCount_tableSlabs increment ht hmn)
  · rw [(SlabDepot.ZoneLocal.changeFreeBlockCount rfl increment).allocators z (Ne.symm hz)] at ht
    exact hoff.1 ht

theorem slabLists_exclusive_rebuilt :
    (∀ n ∈ (rebuiltDepot.allocators 0).tableSlabs, rebuiltDepot.owns 0 n) ∧
    (∀ n, (rebuiltDepot.allocators 0).openSlab = some n → rebuiltDepot.owns 0 n) ∧
    (∀ n ∈ (rebuiltDepot.allocators 0).scrubbing, rebuiltDepot.owns 0 n) ∧
    (rebuiltDepot.allocators 0).tableSlabs.Nodup ∧ (rebuiltDepot.allocators 0).scrubbing.Nodup ∧
    (∀ e ∈ (rebuiltDepot.allocators 0).prioritizedSlabs, e.1 = (rebuiltDepot.slabs e.2).priority) ∧
    (∀ n, (rebuiltDepot.allocators 0).openSlab = some n → n ∉ (rebuiltDepot.allocators 0).tableSlabs) ∧
    (∀ n ∈ (rebuiltDepot.allocators 0).scrubbing,
      n ∉ (rebuiltDepot.allocators 0).tableSlabs ∧ (rebuiltDepot.allocators 0).openSlab ≠ some n) ∧
    (∀ n, rebuiltDepot.owns 0 n → rebuiltDepot.Detached 0 n →
      (rebuiltDepot.allocators 0).quiescent = true ∨
        (rebuiltDepot.dataBlocks < (rebuiltDepot.slabs n).freeBlocks ∧ rebuiltDepot.readOnly = true)) ∧
    (∀ n increment, rebuiltDepot.InService n → ∀ m,
      rebuiltDepot.Detached 0 m ∨ m ∈ (rebuiltDepot.allocators 0).scrubbing →
        m ∉ ((changeFreeBlockCount rebuiltDepot n increment).allocators 0).tableSlabs) :=
  slabLists_exclusive rebuiltDepot_reachable 0

/-- **`allocated_blocks` in a reachable state** counts, over the allocator's slabs, the
blocks not free in a slab `vdo_queue_slab` has accepted (recovered, with a valid count,
new slabs of a resize among them) and all the blocks of any other (awaiting scrubbing, or
refused); `slab_count` counts the allocator's slabs; so `allocated_blocks` is at least `0`
and at most `slab_count * data_blocks`; and a drain followed by a resume of any zone
leaves it unchanged. -/
theorem allocatedBlocks_sum {d : SlabDepot} (hd : Reachable d) (z : Nat) :
    (d.allocators z).allocatedBlocks =
      ∑ n ∈ d.ownedSlabs z, slabContribution d.dataBlocks (d.slabs n) ∧
    (d.allocators z).slabCount = (d.ownedSlabs z).card ∧
    0 ≤ (d.allocators z).allocatedBlocks ∧
    (d.allocators z).allocatedBlocks ≤ (d.allocators z).slabCount * d.dataBlocks ∧
    ∀ z', ((resumeBlockAllocator (drainBlockAllocator d z') z').allocators z).allocatedBlocks =
      (d.allocators z).allocatedBlocks := by
  have ha := hd.inv.accounted z
  exact ⟨ha.allocatedBlocks, ha.slabCount, ha.bounds.1, ha.bounds.2, fun z' =>
    ((SlabDepot.SameCounts.drainBlockAllocator d z' z).trans
      (SlabDepot.SameCounts.resumeBlockAllocator _ z' z)).allocatedBlocks⟩

theorem allocatedBlocks_sum_rebuilt :
    (rebuiltDepot.allocators 0).allocatedBlocks =
      ∑ n ∈ rebuiltDepot.ownedSlabs 0, slabContribution rebuiltDepot.dataBlocks (rebuiltDepot.slabs n) ∧
    (rebuiltDepot.allocators 0).slabCount = (rebuiltDepot.ownedSlabs 0).card ∧
    0 ≤ (rebuiltDepot.allocators 0).allocatedBlocks ∧
    (rebuiltDepot.allocators 0).allocatedBlocks ≤
      (rebuiltDepot.allocators 0).slabCount * rebuiltDepot.dataBlocks ∧
    ∀ z', ((resumeBlockAllocator (drainBlockAllocator rebuiltDepot z') z').allocators 0).allocatedBlocks =
      (rebuiltDepot.allocators 0).allocatedBlocks :=
  allocatedBlocks_sum rebuiltDepot_reachable 0

/-- A depot of two eight-block slabs in one zone, rebuilt: slab 0 with one free block,
slab 1 with two, both journals erased by the rebuild.  Both are queued in the unopened
bucket `3`, slab 0 first. -/
def rebuiltUsedDepot : SlabDepot :=
  prepareSlabDepotToAllocate (decodeSlabDepot 8 1 2 fun n => ⟨0, n + 1, true, false, 0, false⟩)
    (fun _ _ => ⟨false, 0, false⟩) .rebuild

/-- `rebuiltUsedDepot` after slab 0's journal takes its first entry. -/
def journaledDepot : SlabDepot := addJournalEntry rebuiltUsedDepot 0

/-- **A bucket goes stale.**  Slab 0 of the rebuilt depot has seven referenced blocks and
a blank journal, so its journal can take a first entry that frees or claims no block (a
second reference to one of them); `vdo_adjust_free_block_count` is then not called, and
slab 0 stays in the unopened bucket `3` though `calculate_slab_priority` now gives it `1`.
`vdo_allocate_block` then dequeues and opens slab 0, whose current priority `1` is below
the `3` of slab 1, still on the table. -/
theorem tableBucket_stale :
    Reachable journaledDepot ∧
    (rebuiltUsedDepot.slabs 0).freeBlocks < rebuiltUsedDepot.dataBlocks ∧
    (∃ e ∈ (journaledDepot.allocators 0).prioritizedSlabs,
      e.1 ≠ calculateSlabPriority journaledDepot.unopened (journaledDepot.slabs e.2)) ∧
    ∃ r, vdoAllocateBlock journaledDepot 0 .found .found = some r ∧
      (r.2.allocators 0).openSlab = some 0 ∧ 1 ∈ (r.2.allocators 0).tableSlabs ∧
      calculateSlabPriority r.2.unopened (r.2.slabs 0) < calculateSlabPriority r.2.unopened (r.2.slabs 1) :=
  ⟨(@Reachable.prepared 8 1 2 (fun n => ⟨0, n + 1, true, false, 0, false⟩)
      (fun _ _ => ⟨false, 0, false⟩) .rebuild (by decide)).step (.addJournalEntry (by decide)),
    by decide, by decide, _, (Option.some_get (by decide)).symm, by decide⟩

/-- **Buckets in a reachable state.**  Each slab on the table sits in the bucket of its
`priority`, which is what `calculate_slab_priority` gave it when it was last prioritized
(`PriorityRecorded`: its current priority, or the unopened priority of a slab whose
journal took its first entry since); bucket `0` holds exactly the full slabs; and the slab
`vdo_allocate_block` dequeues has the highest recorded priority of the table. -/
theorem tablePriority_recorded {d : SlabDepot} (hd : Reachable d) (z : Nat) :
    (∀ e ∈ (d.allocators z).prioritizedSlabs, e.1 = (d.slabs e.2).priority ∧
      d.PriorityRecorded (d.slabs e.2) ∧ (e.1 = 0 ↔ (d.slabs e.2).freeBlocks = 0)) ∧
    ∀ (first second : SearchOutcome) (r : Status × SlabDepot),
      vdoAllocateBlock d z first second = some r →
      ((d.allocators z).openSlab = none ∨
        ∃ n, (d.allocators z).openSlab = some n ∧ (allocateSlabBlock d n first).1 = .noSpace) →
      ∃ m, (r.2.allocators z).openSlab = some m ∧
        ∀ m' ∈ (r.2.allocators z).tableSlabs, (r.2.slabs m').priority ≤ (r.2.slabs m).priority := by
  have hp := hd.inv.placed z
  refine ⟨fun e he => ?_, fun first second r hr hdq => hp.vdoAllocateBlock_highest hr hdq⟩
  obtain ⟨h1, h2⟩ := hp.table_entry he
  exact ⟨h1, h2, h1 ▸ h2.priority_eq_zero_iff⟩

theorem tablePriority_recorded_rebuilt :
    (∀ e ∈ (rebuiltDepot.allocators 0).prioritizedSlabs, e.1 = (rebuiltDepot.slabs e.2).priority ∧
      rebuiltDepot.PriorityRecorded (rebuiltDepot.slabs e.2) ∧
      (e.1 = 0 ↔ (rebuiltDepot.slabs e.2).freeBlocks = 0)) ∧
    ∀ (first second : SearchOutcome) (r : Status × SlabDepot),
      vdoAllocateBlock rebuiltDepot 0 first second = some r →
      ((rebuiltDepot.allocators 0).openSlab = none ∨
        ∃ n, (rebuiltDepot.allocators 0).openSlab = some n ∧
          (allocateSlabBlock rebuiltDepot n first).1 = .noSpace) →
      ∃ m, (r.2.allocators 0).openSlab = some m ∧
        ∀ m' ∈ (r.2.allocators 0).tableSlabs, (r.2.slabs m').priority ≤ (r.2.slabs m).priority :=
  tablePriority_recorded rebuiltDepot_reachable 0

end Kvdo
