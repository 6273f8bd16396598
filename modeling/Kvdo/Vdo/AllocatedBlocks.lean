/-
# `allocated_blocks`

`allocated_blocks` of a block allocator is a running count that four places of
`block-allocator.c` write: `vdo_prepare_slabs_for_allocation` starts it with every slab
full, `vdo_queue_slab` takes out the free blocks of each slab it accepts unless the slab
is resuming, `vdo_adjust_free_block_count` moves it by one for each block freed or
claimed, and `vdo_register_new_slabs_for_allocator` adds nothing for the new slabs, which
are all free.

`Accounted d z pending` says what it counts: for each slab of the allocator, the blocks
not free in it once `vdo_queue_slab` has accepted it, and all of them otherwise
(`slabContribution`); all the blocks of a slab the prepare loop has not reached yet
(`pending`).  Each event keeps it, and `slab_count` stays the number of the allocator's
slabs.
-/

import Kvdo.Vdo.PlacementSteps

namespace Kvdo

/-- The blocks of a slab that `allocated_blocks` counts: those not free in a recovered slab
whose free block count `vdo_queue_slab` accepts, and all of them in an unrecovered slab
or one whose count it refuses. -/
def slabContribution (dataBlocks : Nat) (slab : VdoSlab) : Int :=
  if slab.freeBlocks ≤ dataBlocks ∧ slab.unrecovered = false then
    (dataBlocks : Int) - slab.freeBlocks
  else dataBlocks

theorem slabContribution_nonneg (D : Nat) (slab : VdoSlab) : 0 ≤ slabContribution D slab := by
  unfold slabContribution; split_ifs <;> omega

theorem slabContribution_le (D : Nat) (slab : VdoSlab) : slabContribution D slab ≤ D := by
  unfold slabContribution; split_ifs <;> omega

/-- Over a set holding `n`, changing a summand at `n` only. -/
theorem sum_eq_sub_add {s : Finset Nat} (f g : Nat → Int) {n : Nat} (hn : n ∈ s)
    (h : ∀ m ∈ s, m ≠ n → g m = f m) : ∑ m ∈ s, g m = ∑ m ∈ s, f m - f n + g n := by
  rw [← Finset.sum_erase_add s g hn, ← Finset.sum_erase_add s f hn,
    Finset.sum_congr rfl fun m hm => h m (Finset.mem_of_mem_erase hm) (Finset.ne_of_mem_erase hm)]
  ring

namespace SlabDepot

variable {d d' d'' : SlabDepot} {z n : Nat}

/-- The slabs of allocator `z`. -/
def ownedSlabs (d : SlabDepot) (z : Nat) : Finset Nat :=
  (Finset.range d.slabCount).filter fun n => (d.slabs n).allocator = z

@[simp] theorem mem_ownedSlabs : n ∈ d.ownedSlabs z ↔ d.owns z n := by
  simp [ownedSlabs, owns]

@[simp] theorem updateAllocator_ownedSlabs (z' : Nat) (f : BlockAllocator → BlockAllocator) :
    (d.updateAllocator z' f).ownedSlabs z = d.ownedSlabs z := rfl

theorem ownedSlabs_congr (hs : d'.slabCount = d.slabCount)
    (ha : ∀ m, (d'.slabs m).allocator = (d.slabs m).allocator) (z : Nat) :
    d'.ownedSlabs z = d.ownedSlabs z := by
  ext m; simp [owns, hs, ha]

/-- What `allocated_blocks` counts for slab `n`: all its blocks while it is pending. -/
def counted (d : SlabDepot) (pending : List Nat) (n : Nat) : Int :=
  if n ∈ pending then d.dataBlocks else slabContribution d.dataBlocks (d.slabs n)

/-- Setting aside as pending a slab counted with all its blocks changes no slab's count. -/
theorem counted_cons {p : List Nat} (hn : d.counted p n = d.dataBlocks) (m : Nat) :
    d.counted (n :: p) m = d.counted p m := by
  by_cases hm : m = n
  · subst hm; rw [hn]; simp [counted]
  · simp [counted, hm]

/-- `d'` has `d`'s counters for allocator `z`, its slab size and slab count, and every slab
keeps its allocator, its free block count and whether it is recovered. -/
structure SameCounts (d d' : SlabDepot) (z : Nat) : Prop where
  allocatedBlocks : (d'.allocators z).allocatedBlocks = (d.allocators z).allocatedBlocks
  allocatorSlabCount : (d'.allocators z).slabCount = (d.allocators z).slabCount
  dataBlocks : d'.dataBlocks = d.dataBlocks
  slabCount : d'.slabCount = d.slabCount
  slabs : ∀ m, (d'.slabs m).allocator = (d.slabs m).allocator ∧
    (d'.slabs m).freeBlocks = (d.slabs m).freeBlocks ∧
    (d'.slabs m).unrecovered = (d.slabs m).unrecovered

namespace SameCounts

theorem ownedSlabs (h : d.SameCounts d' z) (z' : Nat) : d'.ownedSlabs z' = d.ownedSlabs z' := by
  ext m; simp [SlabDepot.owns, h.slabCount, (h.slabs m).1]

theorem counted (h : d.SameCounts d' z) (p : List Nat) (m : Nat) :
    d'.counted p m = d.counted p m := by
  simp [SlabDepot.counted, slabContribution, h.dataBlocks, (h.slabs m).2.1, (h.slabs m).2.2]

theorem trans (h : d.SameCounts d' z) (h' : d'.SameCounts d'' z) : d.SameCounts d'' z :=
  ⟨h'.allocatedBlocks.trans h.allocatedBlocks, h'.allocatorSlabCount.trans h.allocatorSlabCount,
    h'.dataBlocks.trans h.dataBlocks, h'.slabCount.trans h.slabCount, fun m =>
    ⟨(h'.slabs m).1.trans (h.slabs m).1, (h'.slabs m).2.1.trans (h.slabs m).2.1,
      (h'.slabs m).2.2.trans (h.slabs m).2.2⟩⟩

/-- Changing an allocator's lists. -/
theorem updateAllocator (d : SlabDepot) (z' : Nat) (f : BlockAllocator → BlockAllocator)
    (hf : ∀ a, (f a).allocatedBlocks = a.allocatedBlocks ∧ (f a).slabCount = a.slabCount)
    (z : Nat) : d.SameCounts (d.updateAllocator z' f) z := by
  refine ⟨?_, ?_, rfl, rfl, fun _ => ⟨rfl, rfl, rfl⟩⟩ <;>
    · simp only [SlabDepot.updateAllocator_allocators]; split_ifs with hz
      · subst hz; simp [hf]
      · rfl

theorem prioritizeSlab (d : SlabDepot) (n z : Nat) : d.SameCounts (Kvdo.prioritizeSlab d n) z :=
  ⟨by simp, by simp, rfl, rfl, fun _ => by simp⟩

theorem vdoQueueSlab_resuming (d : SlabDepot) (n z : Nat) :
    d.SameCounts (Kvdo.vdoQueueSlab d n true) z :=
  ⟨by simp [vdoQueueSlab_allocatedBlocks], by simp, by simp, by simp, fun _ => by simp⟩

theorem addJournalEntry (d : SlabDepot) (n z : Nat) : d.SameCounts (Kvdo.addJournalEntry d n) z :=
  ⟨rfl, rfl, rfl, rfl, fun m => by by_cases hm : m = n <;> simp [Kvdo.addJournalEntry, hm]⟩

theorem vdoRegisterSlabForScrubbing (d : SlabDepot) (n : Nat) (high : Bool) (z : Nat) :
    d.SameCounts (Kvdo.vdoRegisterSlabForScrubbing d n high) z := by
  refine updateAllocator d _ _ (fun a => ?_) z
  cases high <;> exact ⟨rfl, rfl⟩

/-- A drain takes slabs off lists and counts nothing. -/
theorem drainBlockAllocator (d : SlabDepot) (z' z : Nat) :
    d.SameCounts (Kvdo.drainBlockAllocator d z') z := by
  refine (updateAllocator d z' _ ?_ z).trans (updateAllocator _ z' _ ?_ z) <;>
    exact fun _ => ⟨rfl, rfl⟩

/-- `vdo_queue_slab` of resuming slabs, one after another, counts nothing. -/
theorem foldl_vdoQueueSlab_resuming (z : Nat) :
    ∀ (l : List Nat) (d : SlabDepot), d.SameCounts (l.foldl (fun d n => Kvdo.vdoQueueSlab d n true) d) z
  | [], _ => ⟨rfl, rfl, rfl, rfl, fun _ => ⟨rfl, rfl, rfl⟩⟩
  | n :: l, d => (vdoQueueSlab_resuming d n z).trans (foldl_vdoQueueSlab_resuming z l _)

/-- A resume queues resuming slabs only, and counts nothing. -/
theorem resumeBlockAllocator (d : SlabDepot) (z' z : Nat) :
    d.SameCounts (Kvdo.resumeBlockAllocator d z') z := by
  refine ((updateAllocator d z' _ ?_ z).trans (updateAllocator _ z' _ ?_ z)).trans
    (foldl_vdoQueueSlab_resuming z _ _) <;> exact fun _ => ⟨rfl, rfl⟩

end SameCounts

end SlabDepot

/-- Allocator `z`'s `allocated_blocks` counts what each of its slabs contributes, all the
blocks of a pending slab, and its `slab_count` counts its slabs. -/
structure Accounted (d : SlabDepot) (z : Nat) (pending : List Nat) : Prop where
  allocatedBlocks : (d.allocators z).allocatedBlocks = ∑ n ∈ d.ownedSlabs z, d.counted pending n
  slabCount : (d.allocators z).slabCount = (d.ownedSlabs z).card

namespace Accounted

variable {d d' : SlabDepot} {z n : Nat} {p : List Nat}

theorem sameCounts (h : Accounted d z p) (hs : d.SameCounts d' z) : Accounted d' z p :=
  ⟨by rw [hs.allocatedBlocks, h.allocatedBlocks, hs.ownedSlabs]
      exact Finset.sum_congr rfl fun m _ => (hs.counted p m).symm,
    by rw [hs.allocatorSlabCount, h.slabCount, hs.ownedSlabs]⟩

/-- **An event of one zone keeps every other zone's count.** -/
theorem of_zoneLocal {z' : Nat} (h : Accounted d z' p) (hl : d.ZoneLocal d' z) (hz : z ≠ z') :
    Accounted d' z' p := by
  have hown : d'.ownedSlabs z' = d.ownedSlabs z' := by
    ext m; simp [SlabDepot.owns, hl.slabCount, hl.allocator]
  refine ⟨?_, by rw [hl.allocators z' (Ne.symm hz), h.slabCount, hown]⟩
  rw [hl.allocators z' (Ne.symm hz), h.allocatedBlocks, hown]
  refine Finset.sum_congr rfl fun m hm => ?_
  have hm' : (d.slabs m).allocator ≠ z := by
    rw [(SlabDepot.mem_ownedSlabs.1 hm).2]; exact Ne.symm hz
  simp [SlabDepot.counted, hl.slabs m hm', hl.dataBlocks]

/-- **One slab's step.**  A change that keeps the allocator's slabs and `slab_count`,
and changes what only slab `n` counts, keeps the count when `allocated_blocks` moves with
what `n` counts. -/
theorem change {d' : SlabDepot} {p' : List Nat} (h : Accounted d z p) (hn : d.owns z n)
    (hown : d'.ownedSlabs z = d.ownedSlabs z)
    (hcount : (d'.allocators z).slabCount = (d.allocators z).slabCount)
    (hother : ∀ m, d.owns z m → m ≠ n → d'.counted p' m = d.counted p m)
    (hstep : (d'.allocators z).allocatedBlocks - d'.counted p' n =
      (d.allocators z).allocatedBlocks - d.counted p n) : Accounted d' z p' := by
  refine ⟨?_, by rw [hown, hcount, h.slabCount]⟩
  rw [hown, sum_eq_sub_add _ _ (SlabDepot.mem_ownedSlabs.2 hn)
    fun m hm hmn => hother m (SlabDepot.mem_ownedSlabs.1 hm) hmn, ← h.allocatedBlocks]
  linarith

/-- Counting the same for every slab, with other slabs pending. -/
theorem pending_congr {p' : List Nat} (h : Accounted d z p) (hc : ∀ m, d.counted p' m = d.counted p m) :
    Accounted d z p' :=
  ⟨by rw [h.allocatedBlocks]; exact Finset.sum_congr rfl fun m _ => (hc m).symm, h.slabCount⟩

/-- A slab counted with all its blocks may be set aside as pending. -/
theorem cons (h : Accounted d z p) (hn : d.counted p n = d.dataBlocks) : Accounted d z (n :: p) :=
  h.pending_congr (SlabDepot.counted_cons hn)

/-- A pending slab counted with all its blocks is pending no more. -/
theorem uncons (h : Accounted d z (n :: p)) (hn : d.counted p n = d.dataBlocks) : Accounted d z p :=
  h.pending_congr fun m => (SlabDepot.counted_cons hn m).symm

/-- The record of a pending slab may change, its allocator apart. -/
theorem updateSlab (h : Accounted d z (n :: p)) (f : VdoSlab → VdoSlab)
    (hf : (f (d.slabs n)).allocator = (d.slabs n).allocator) :
    Accounted (d.updateSlab n f) z (n :: p) := by
  have hown : (d.updateSlab n f).ownedSlabs z = d.ownedSlabs z := by
    ext m; simp [SlabDepot.updateSlab_owns hf]
  refine ⟨?_, by rw [hown]; exact h.slabCount⟩
  rw [hown, SlabDepot.updateSlab_allocators, h.allocatedBlocks]
  refine Finset.sum_congr rfl fun m _ => ?_
  by_cases hm : m = n <;> simp [SlabDepot.counted, hm]

/-- **`vdo_queue_slab`** of a pending slab, not resuming: the slab now counts what it
contributes, and `allocated_blocks` loses the free blocks of a slab it accepts. -/
theorem vdoQueueSlab (h : Accounted d z (n :: p)) (hn : d.owns z n) (hnp : n ∉ p) :
    Accounted (Kvdo.vdoQueueSlab d n false) z p := by
  refine h.change hn (by ext m; simp) (by simp)
    (fun m _ hmn => by simp [SlabDepot.counted, slabContribution, hmn]) ?_
  simp only [vdoQueueSlab_allocatedBlocks, SlabDepot.counted, hnp, if_false,
    List.mem_cons_self, if_true, vdoQueueSlab_dataBlocks, slabContribution,
    vdoQueueSlab_freeBlocks, vdoQueueSlab_unrecovered, hn.2, true_and]
  split_ifs <;> omega

/-- Allocating from the open slab counts the block it claims. -/
theorem allocateSlabBlock (h : Accounted d z p) (hn : d.owns z n) (hnp : n ∉ p)
    (ho : (d.allocators z).openSlab = some n) (hr : (d.slabs n).unrecovered = false)
    (hv : (d.slabs n).freeBlocks ≤ d.dataBlocks) (search : SearchOutcome) :
    Accounted (Kvdo.allocateSlabBlock d n search).2 z p := by
  rcases allocateSlabBlock_open search (by rwa [hn.2]) with heq | ⟨hF, heq⟩ <;> rw [heq]
  · exact h
  refine h.change hn (by ext m; simp [SlabDepot.updateSlab_owns]) (by simp [hn.2])
    (fun m _ hmn => by simp [SlabDepot.counted, hmn]) ?_
  simp [SlabDepot.counted, hnp, slabContribution, hr, hv, hn.2]
  split_ifs <;> omega

/-- A free block count change of a slab in service, reported by
`vdo_adjust_free_block_count`, moves the count by one. -/
theorem changeFreeBlockCount (h : Accounted d z p) (hn : d.owns z n) (hnp : n ∉ p)
    (hr : (d.slabs n).unrecovered = false) (hv : (d.slabs n).freeBlocks ≤ d.dataBlocks)
    {increment : Bool}
    (hF : if increment then (d.slabs n).freeBlocks < d.dataBlocks else 0 < (d.slabs n).freeBlocks) :
    Accounted (Kvdo.changeFreeBlockCount d n increment) z p := by
  have hs := vdoAdjustFreeBlockCount_slabs (d.updateSlab n fun slab => { slab with
    freeBlocks := if increment then slab.freeBlocks + 1 else slab.freeBlocks - 1 }) n increment
  unfold Kvdo.changeFreeBlockCount
  refine h.change hn (SlabDepot.ownedSlabs_congr (by simp)
    (fun m => by rw [(hs m).2.2]; by_cases hm : m = n <;> simp [hm]) z) (by simp)
    (fun m _ hmn => by simp [SlabDepot.counted, slabContribution, hmn, (hs m).1, (hs m).2.1]) ?_
  simp [vdoAdjustFreeBlockCount_allocatedBlocks, SlabDepot.counted, hnp, slabContribution,
    (hs n).1, (hs n).2.1, hr, hv, hn.2]
  cases increment <;> simp only [if_true, if_false, Bool.false_eq_true] at hF ⊢ <;> split_ifs <;> omega

/-- **The scrubber finishing a slab**: the slab counted all its blocks while unrecovered,
and `vdo_queue_slab` now takes out its free blocks. -/
theorem finishScrubbing (h : Accounted d z []) (hp : Placed d z []) (hz : (d.slabs n).allocator = z)
    (hs : n ∈ (d.allocators z).scrubbing) (freeBlocks : Nat) (journalBlank : Bool) :
    Accounted (Kvdo.finishScrubbing d n freeBlocks journalBlank) z [] := by
  have hn := hp.scrubbingOwned n hs
  have hr := (hp.slabs n hn (List.not_mem_nil n)).scrubbing hs
  have hc : d.counted [] n = d.dataBlocks := by simp [SlabDepot.counted, slabContribution, hr]
  have h1 := (h.cons hc).sameCounts
    (SlabDepot.SameCounts.updateAllocator d z (fun a => { a with
      scrubberHighPrioritySlabs := a.scrubberHighPrioritySlabs.erase n
      scrubberSlabs := a.scrubberSlabs.erase n }) (fun _ => ⟨rfl, rfl⟩) z)
  simp only [Kvdo.finishScrubbing, hz]
  exact (h1.updateSlab _ rfl).vdoQueueSlab ((SlabDepot.updateSlab_owns rfl z n).2 hn)
    (List.not_mem_nil n)

/-- Opening the table's next slab and allocating from it. -/
theorem openNextSlab (h : Accounted d z []) (hp : Placed (d.withoutOpenSlab z) z [])
    {search : SearchOutcome} {r : Status × SlabDepot} (hr : Kvdo.openNextSlab d z search = some r) :
    Accounted r.2 z [] := by
  rw [← openNextSlab_withoutOpenSlab] at hr
  obtain ⟨m, rest, hdq, rfl⟩ := openNextSlab_eq_some hr
  have he := (priorityTableDequeue_spec hdq).1.mem_iff.2 (List.mem_cons_self _ _)
  have hm := hp.tableOwned m (List.mem_map.2 ⟨_, he, rfl⟩)
  obtain ⟨-, hr, hv, -⟩ := (hp.slabs m hm (List.not_mem_nil _)).table _ he rfl
  have hs : d.SameCounts ((d.withoutOpenSlab z).updateAllocator z fun a =>
      { a with prioritizedSlabs := rest, openSlab := some m }) z := by
    refine (SlabDepot.SameCounts.updateAllocator d z _ ?_ z).trans
      (SlabDepot.SameCounts.updateAllocator _ z _ ?_ z) <;> exact fun _ => ⟨rfl, rfl⟩
  exact (h.sameCounts hs).allocateSlabBlock hm (List.not_mem_nil _) (by simp) hr hv search

/-- **`vdo_allocate_block` keeps `allocated_blocks` counting the allocator's slabs.** -/
theorem vdoAllocateBlock (h : Accounted d z []) (hp : Placed d z []) {first second : SearchOutcome}
    {r : Status × SlabDepot} (hr : Kvdo.vdoAllocateBlock d z first second = some r) :
    Accounted r.2 z [] := by
  rcases vdoAllocateBlock_cases hr with ⟨ho, hr⟩ | ⟨n, ho, ⟨-, rfl⟩ | ⟨-, hr⟩⟩
  · exact h.openNextSlab (by rwa [SlabDepot.withoutOpenSlab_eq_self ho]) hr
  · obtain ⟨hn, -⟩ := hp.openSlab n ho
    obtain ⟨hr, hv⟩ := (hp.slabs n hn (List.not_mem_nil n)).openSlab ho
    exact h.allocateSlabBlock hn (List.not_mem_nil n) ho hr hv first
  · exact (h.sameCounts (SlabDepot.SameCounts.prioritizeSlab d n z)).openNextSlab
      (hp.closeOpenSlab ho) hr

/-- **A resize** keeps the count: the new slabs are all free and count nothing. -/
theorem vdoUseNewSlabs (h : Accounted d z []) {newSlabCount : Nat} (hle : d.slabCount ≤ newSlabCount) :
    Accounted (Kvdo.vdoUseNewSlabs d newSlabCount) z [] := by
  set d' := Kvdo.vdoUseNewSlabs d newSlabCount
  set added := (Finset.Ico d.slabCount newSlabCount).filter fun i => (d'.slabs i).allocator = z
  have hold : ∀ m, d.owns z m → d'.slabs m = d.slabs m := fun m hm => by
    simp [d', Kvdo.vdoUseNewSlabs, hm.1]
  have hown : d'.ownedSlabs z = d.ownedSlabs z ∪ added := by
    ext m
    simp only [SlabDepot.mem_ownedSlabs, SlabDepot.owns, Finset.mem_union, added,
      Finset.mem_filter, Finset.mem_Ico]
    by_cases hm : m < d.slabCount
    · simp [d', Kvdo.vdoUseNewSlabs, hm]; omega
    · simp [d', Kvdo.vdoUseNewSlabs, hm]; omega
  have hdisj : Disjoint (d.ownedSlabs z) added := Finset.disjoint_left.2 fun m hm hm' => by
    simp only [SlabDepot.mem_ownedSlabs, added, Finset.mem_filter, Finset.mem_Ico] at hm hm'
    exact absurd hm.1 (by omega)
  have hzero : ∑ m ∈ added, d'.counted [] m = 0 := Finset.sum_eq_zero fun m hm => by
    simp only [added, Finset.mem_filter, Finset.mem_Ico] at hm
    simp [SlabDepot.counted, slabContribution, d', Kvdo.vdoUseNewSlabs, newSlab, Nat.not_lt.2 hm.1.1]
  have hsame : ∑ m ∈ d.ownedSlabs z, d'.counted [] m = ∑ m ∈ d.ownedSlabs z, d.counted [] m :=
    Finset.sum_congr rfl fun m hm => by
      simp only [SlabDepot.counted, hold m (SlabDepot.mem_ownedSlabs.1 hm)]; rfl
  refine ⟨?_, ?_⟩
  · rw [hown, Finset.sum_union hdisj, hzero, hsame, add_zero, ← h.allocatedBlocks]
    exact vdoRegisterNewSlabsForAllocator_allocatedBlocks _ _ _ _ _
  · rw [hown, Finset.card_union_of_disjoint hdisj, ← h.slabCount]
    exact vdoRegisterNewSlabsForAllocator_slabCount _ _ _ _ _

/-- **`allocated_blocks` stays within the allocator's blocks**: at least 0 and at most
`slab_count` slabs' worth. -/
theorem bounds (h : Accounted d z []) :
    0 ≤ (d.allocators z).allocatedBlocks ∧
      (d.allocators z).allocatedBlocks ≤ (d.allocators z).slabCount * d.dataBlocks := by
  rw [h.allocatedBlocks, h.slabCount]
  refine ⟨Finset.sum_nonneg fun m _ => ?_, ?_⟩
  · exact slabContribution_nonneg _ _
  · have := Finset.sum_le_card_nsmul (d.ownedSlabs z) (d.counted []) d.dataBlocks
      fun m _ => slabContribution_le _ _
    simpa using this

end Accounted

end Kvdo
