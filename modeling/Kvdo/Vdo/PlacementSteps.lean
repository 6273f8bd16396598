/-
# Every event keeps every slab in place

An event of `Kvdo.Vdo.AllocatorRuns` works in one zone: it touches that allocator's
lists and counters and the records of that allocator's slabs, never a slab's allocator
(`SlabDepot.ZoneLocal`).  So every other allocator keeps its slabs in place
(`Placed.of_zoneLocal`), and each event needs one lemma for its own zone, composed from
the list operations of `Kvdo.Vdo.SlabPlacement`:

| event | lemma |
| --- | --- |
| free block count change, `vdo_adjust_free_block_count` | `Placed.changeFreeBlockCount` |
| first journal entry | `Placed.addJournalEntry` |
| scrubbing done, `vdo_queue_slab` | `Placed.finishScrubbing` |
| drain, `apply_to_slabs` | `Placed.drainBlockAllocator` |
| resume, `vdo_queue_slab` of each slab | `Placed.resumeBlockAllocator` |
| resize, `vdo_register_new_slabs_for_allocator` | `Placed.vdoUseNewSlabs` |
-/

import Kvdo.Vdo.AllocateBlock

namespace Kvdo

namespace SlabDepot

/-- `d'` differs from `d` only in allocator `z`, in the records of `z`'s slabs (never in
a slab's allocator), and in having possibly entered read-only mode. -/
structure ZoneLocal (d d' : SlabDepot) (z : Nat) : Prop where
  dataBlocks : d'.dataBlocks = d.dataBlocks
  zoneCount : d'.zoneCount = d.zoneCount
  slabCount : d'.slabCount = d.slabCount
  allocator : ∀ m, (d'.slabs m).allocator = (d.slabs m).allocator
  slabs : ∀ m, (d.slabs m).allocator ≠ z → d'.slabs m = d.slabs m
  allocators : ∀ z', z' ≠ z → d'.allocators z' = d.allocators z'
  readOnly : d.readOnly = true → d'.readOnly = true

namespace ZoneLocal

variable {d d' d'' : SlabDepot} {z n : Nat}

theorem refl (d : SlabDepot) (z : Nat) : ZoneLocal d d z :=
  ⟨rfl, rfl, rfl, fun _ => rfl, fun _ _ => rfl, fun _ _ => rfl, id⟩

theorem trans (h : ZoneLocal d d' z) (h' : ZoneLocal d' d'' z) : ZoneLocal d d'' z :=
  ⟨h'.dataBlocks.trans h.dataBlocks, h'.zoneCount.trans h.zoneCount,
    h'.slabCount.trans h.slabCount, fun m => (h'.allocator m).trans (h.allocator m),
    fun m hm => (h'.slabs m (by rwa [h.allocator])).trans (h.slabs m hm),
    fun z' hz => (h'.allocators z' hz).trans (h.allocators z' hz),
    fun hr => h'.readOnly (h.readOnly hr)⟩

theorem updateAllocator (d : SlabDepot) (z : Nat) (f : BlockAllocator → BlockAllocator) :
    ZoneLocal d (d.updateAllocator z f) z :=
  ⟨rfl, rfl, rfl, fun _ => rfl, fun _ _ => rfl, fun z' hz => by simp [hz], id⟩

theorem updateSlab {f : VdoSlab → VdoSlab} (hn : (d.slabs n).allocator = z)
    (hf : (f (d.slabs n)).allocator = (d.slabs n).allocator) :
    ZoneLocal d (d.updateSlab n f) z :=
  ⟨rfl, rfl, rfl, fun m => by by_cases hm : m = n <;> simp [hm, hf],
    fun m hm => by simp [show m ≠ n from fun h => hm (h ▸ hn)], fun _ _ => rfl, id⟩

theorem setReadOnly (d : SlabDepot) (z : Nat) : ZoneLocal d { d with readOnly := true } z :=
  ⟨rfl, rfl, rfl, fun _ => rfl, fun _ _ => rfl, fun _ _ => rfl, fun _ => rfl⟩

theorem prioritizeSlab (hz : (d.slabs n).allocator = z) :
    ZoneLocal d (Kvdo.prioritizeSlab d n) z := by
  unfold Kvdo.prioritizeSlab
  rw [hz]
  exact (updateSlab hz rfl).trans (updateAllocator _ _ _)

theorem vdoRegisterSlabForScrubbing (hz : (d.slabs n).allocator = z) (high : Bool) :
    ZoneLocal d (Kvdo.vdoRegisterSlabForScrubbing d n high) z := by
  unfold Kvdo.vdoRegisterSlabForScrubbing
  rw [hz]
  exact updateAllocator _ _ _

theorem vdoQueueSlab (hz : (d.slabs n).allocator = z) (resuming : Bool) :
    ZoneLocal d (Kvdo.vdoQueueSlab d n resuming) z := by
  simp only [Kvdo.vdoQueueSlab, hz]
  split_ifs
  · exact setReadOnly d z
  · exact vdoRegisterSlabForScrubbing hz false
  · exact prioritizeSlab hz
  · exact (updateAllocator _ _ _).trans (prioritizeSlab hz)

theorem vdoAdjustFreeBlockCount (hz : (d.slabs n).allocator = z) (increment : Bool) :
    ZoneLocal d (Kvdo.vdoAdjustFreeBlockCount d n increment) z := by
  simp only [Kvdo.vdoAdjustFreeBlockCount, hz]
  split_ifs <;> first
    | exact updateAllocator _ _ _
    | exact ((updateAllocator _ _ _).trans (updateAllocator _ _ _)).trans (prioritizeSlab hz)

theorem allocateSlabBlock (hz : (d.slabs n).allocator = z) (search : SearchOutcome) :
    ZoneLocal d (Kvdo.allocateSlabBlock d n search).2 z := by
  rcases allocateSlabBlock_spec d n search with ⟨-, -, -, heq⟩ | ⟨-, heq, -⟩ <;> rw [heq]
  · exact (updateSlab hz rfl).trans (vdoAdjustFreeBlockCount (by simpa using hz) false)
  · exact refl d _

theorem changeFreeBlockCount (hz : (d.slabs n).allocator = z) (increment : Bool) :
    ZoneLocal d (Kvdo.changeFreeBlockCount d n increment) z :=
  (updateSlab hz rfl).trans (vdoAdjustFreeBlockCount (by simpa using hz) increment)

theorem addJournalEntry (hz : (d.slabs n).allocator = z) :
    ZoneLocal d (Kvdo.addJournalEntry d n) z :=
  updateSlab hz rfl

theorem finishScrubbing (hz : (d.slabs n).allocator = z) (freeBlocks : Nat)
    (journalBlank : Bool) : ZoneLocal d (Kvdo.finishScrubbing d n freeBlocks journalBlank) z := by
  simp only [Kvdo.finishScrubbing, hz]
  exact ((updateAllocator _ _ _).trans (updateSlab hz rfl)).trans
    (vdoQueueSlab (by simpa using hz) false)

theorem drainBlockAllocator (d : SlabDepot) (z : Nat) :
    ZoneLocal d (Kvdo.drainBlockAllocator d z) z :=
  (updateAllocator _ _ _).trans (updateAllocator _ _ _)

/-- `vdo_queue_slab` over slabs of allocator `z`, one after another. -/
theorem foldl_vdoQueueSlab (resuming : Bool) :
    ∀ (l : List Nat) (d : SlabDepot), (∀ n ∈ l, (d.slabs n).allocator = z) →
      ZoneLocal d (l.foldl (fun d n => Kvdo.vdoQueueSlab d n resuming) d) z
  | [], d, _ => refl d z
  | n :: l, d, hl => by
    have h1 := vdoQueueSlab (hl n (List.mem_cons_self _ _)) resuming
    exact h1.trans (foldl_vdoQueueSlab resuming l _ fun m hm => by
      rw [h1.allocator]; exact hl m (List.mem_cons_of_mem _ hm))

/-- Opening the next slab of a table that holds only the allocator's own slabs. -/
theorem openNextSlab (hown : ∀ m ∈ (d.allocators z).tableSlabs, (d.slabs m).allocator = z)
    {search : SearchOutcome} {r : Status × SlabDepot} (hr : Kvdo.openNextSlab d z search = some r) :
    ZoneLocal d r.2 z := by
  obtain ⟨m, rest, hdq, rfl⟩ := openNextSlab_eq_some hr
  have hm := hown m (List.mem_map.2 ⟨_, (priorityTableDequeue_spec hdq).1.mem_iff.2
    (List.mem_cons_self _ _), rfl⟩)
  refine (updateAllocator _ _ _).trans (allocateSlabBlock ?_ search)
  exact hm

theorem resumeBlockAllocator (d : SlabDepot) (z : Nat) :
    ZoneLocal d (Kvdo.resumeBlockAllocator d z) z :=
  ((updateAllocator _ _ _).trans (updateAllocator _ _ _)).trans
    (foldl_vdoQueueSlab true _ _ fun _ hm => (mem_slabsOf.1 hm).2)

end ZoneLocal

end SlabDepot

namespace Placed

variable {d : SlabDepot} {z n : Nat}

/-- **An event of one zone keeps every other zone's slabs in place.** -/
theorem of_zoneLocal {d' : SlabDepot} {z' : Nat} {p : List Nat} (h : Placed d z' p)
    (hl : d.ZoneLocal d' z) (hz : z ≠ z') : Placed d' z' p :=
  h.frame (by rw [hl.allocators z' (Ne.symm hz)]) (fun m hm => hl.slabs m (by rw [hm.2]; exact Ne.symm hz))
    (fun m => by simp [SlabDepot.owns, hl.slabCount, hl.allocator]) hl.dataBlocks hl.readOnly

/-- **`vdo_allocate_block` touches only its own zone.** -/
theorem zoneLocal_vdoAllocateBlock (h : Placed d z []) {first second : SearchOutcome}
    {r : Status × SlabDepot} (hr : Kvdo.vdoAllocateBlock d z first second = some r) :
    d.ZoneLocal r.2 z := by
  rcases vdoAllocateBlock_cases hr with ⟨-, hr⟩ | ⟨n, ho, ⟨-, rfl⟩ | ⟨-, hr⟩⟩
  · exact SlabDepot.ZoneLocal.openNextSlab (fun m hm => (h.tableOwned m hm).2) hr
  · exact SlabDepot.ZoneLocal.allocateSlabBlock (h.openSlab n ho).1.2 first
  · refine (SlabDepot.ZoneLocal.prioritizeSlab (h.openSlab n ho).1.2).trans
      (SlabDepot.ZoneLocal.openNextSlab ?_ hr)
    intro m hm
    exact ((h.closeOpenSlab ho).tableOwned m
      (by simpa [SlabDepot.withoutOpenSlab, BlockAllocator.tableSlabs] using hm)).2

/-- `vdo_adjust_free_block_count` of a slab on the table, pending since its free block
count changed: it stays in its bucket when its priority did not change, and is
re-prioritized otherwise. -/
theorem vdoAdjustFreeBlockCount (h : Placed d z [n]) (hn : d.owns z n)
    (ht : n ∈ (d.allocators z).tableSlabs) (hO : (d.allocators z).openSlab ≠ some n)
    (hns : n ∉ (d.allocators z).scrubbing)
    (hpr : ∀ e ∈ (d.allocators z).prioritizedSlabs, e.2 = n → e.1 = (d.slabs n).priority)
    (hr : (d.slabs n).unrecovered = false) (hv : (d.slabs n).freeBlocks ≤ d.dataBlocks)
    (increment : Bool) : Placed (Kvdo.vdoAdjustFreeBlockCount d n increment) z [] := by
  have hq := h.not_quiescent (.inr (.inl fun h' => by simp [BlockAllocator.tableSlabs, h'] at ht))
  have h2 := h.updateCount z (fun a =>
    { a with allocatedBlocks := a.allocatedBlocks + if increment then -1 else 1 }) fun _ => rfl
  simp only [Kvdo.vdoAdjustFreeBlockCount, hn.2, SlabDepot.updateAllocator_slabs,
    SlabDepot.updateAllocator_unopened]
  rw [if_neg (by simpa using hO)]
  by_cases hpr' : (d.slabs n).priority = calculateSlabPriority d.unopened (d.slabs n)
  · rw [if_pos hpr']
    exact h2.settle fun _ => ⟨fun e he hen => ⟨hpr e (by simpa using he) hen, hr, hv, .inl hpr'⟩,
      fun ho => absurd (by simpa using ho) hO,
      fun hs => absurd (by simpa [BlockAllocator.scrubbing] using hs) hns,
      fun hdet => absurd (by simpa [BlockAllocator.tableSlabs] using ht) hdet.1⟩
  · rw [if_neg hpr']
    refine h2.remove.prioritizeSlab hn ⟨?_, by simpa using hO,
      by simpa [BlockAllocator.scrubbing] using hns⟩ (by simpa using hq) hr hv
    simp [BlockAllocator.tableSlabs, priorityTableRemove]

/-- **A free block count change of a slab in service**, within the slab's size, keeps
the allocator's slabs in place. -/
theorem changeFreeBlockCount (h : Placed d z []) (hn : d.owns z n) (hin : d.InService n)
    {increment : Bool}
    (hF : if increment then (d.slabs n).freeBlocks < d.dataBlocks else 0 < (d.slabs n).freeBlocks) :
    Placed (Kvdo.changeFreeBlockCount d n increment) z [] := by
  have hs := h.slabs n hn (List.not_mem_nil n)
  unfold SlabDepot.InService at hin
  rw [hn.2] at hin
  have hvalid : (d.slabs n).freeBlocks ≤ d.dataBlocks := by
    rcases hin with ht | ho
    · obtain ⟨e, he, hen⟩ := List.mem_map.1 ht
      exact (hs.table e he hen).2.2.1
    · exact (hs.openSlab ho).2
  have hv : (if increment then (d.slabs n).freeBlocks + 1 else (d.slabs n).freeBlocks - 1) ≤
      d.dataBlocks := by
    split_ifs at hF ⊢ <;> omega
  unfold Kvdo.changeFreeBlockCount
  by_cases ho : (d.allocators z).openSlab = some n
  · have hr := (hs.openSlab ho).1
    have hp := h.updateSlab n (fun slab => { slab with
      freeBlocks := if increment then slab.freeBlocks + 1 else slab.freeBlocks - 1 }) rfl
      fun _ _ => ⟨fun e he hen => absurd (List.mem_map.2 ⟨e, he, hen⟩) (h.openSlab n ho).2,
        fun _ => ⟨hr, hv⟩, hs.scrubbing, fun hdet => absurd ho hdet.2.1⟩
    rw [vdoAdjustFreeBlockCount_open _ (by simpa [hn.2] using ho)]
    exact hp.updateCount _ (fun a =>
      { a with allocatedBlocks := a.allocatedBlocks + if increment then -1 else 1 }) fun _ => rfl
  · have ht := hin.resolve_right ho
    obtain ⟨e, he, hen⟩ := List.mem_map.1 ht
    have hr := (hs.table e he hen).2.1
    have hp := (h.cons n).updateSlab n (fun slab => { slab with
      freeBlocks := if increment then slab.freeBlocks + 1 else slab.freeBlocks - 1 }) rfl
      fun _ hp => absurd (List.mem_singleton_self n) hp
    exact hp.vdoAdjustFreeBlockCount ((SlabDepot.updateSlab_owns rfl z n).2 hn) ht ho
      (fun hsc => by simpa [hr] using hs.scrubbing hsc)
      (fun e' he' hen' => by simpa using (hs.table e' he' hen').1) (by simpa using hr)
      (by simpa using hv) increment

/-- **A first journal entry** keeps the allocator's slabs in place. -/
theorem addJournalEntry (h : Placed d z []) (hn : d.owns z n) :
    Placed (Kvdo.addJournalEntry d n) z [] :=
  h.updateSlab n _ rfl fun _ _ => (h.slabs n hn (List.not_mem_nil n)).journalEntry

/-- The scrubber takes a slab off its lists: the slab is detached and pending. -/
theorem eraseScrubbing (h : Placed d z []) (hs : n ∈ (d.allocators z).scrubbing) :
    Placed (d.updateAllocator z fun a => { a with
      scrubberHighPrioritySlabs := a.scrubberHighPrioritySlabs.erase n
      scrubberSlabs := a.scrubberSlabs.erase n }) z [n] ∧
    (d.updateAllocator z fun a => { a with
      scrubberHighPrioritySlabs := a.scrubberHighPrioritySlabs.erase n
      scrubberSlabs := a.scrubberSlabs.erase n }).Detached z n := by
  set d' := d.updateAllocator z fun a => { a with
    scrubberHighPrioritySlabs := a.scrubberHighPrioritySlabs.erase n
    scrubberSlabs := a.scrubberSlabs.erase n }
  have hnd : ((d.allocators z).scrubberHighPrioritySlabs.Nodup ∧
      (d.allocators z).scrubberSlabs.Nodup) := by
    have := h.scrubbingNodup
    simp only [BlockAllocator.scrubbing, List.nodup_append] at this
    exact ⟨this.1, this.2.1⟩
  have hsub : (d'.allocators z).scrubbing.Sublist (d.allocators z).scrubbing := by
    simp only [d', SlabDepot.updateAllocator_allocators, if_pos rfl, BlockAllocator.scrubbing]
    exact (List.erase_sublist _ _).append (List.erase_sublist _ _)
  have hmem : ∀ m, m ≠ n → (m ∈ (d'.allocators z).scrubbing ↔ m ∈ (d.allocators z).scrubbing) :=
    fun m hm => by
      simp [d', BlockAllocator.scrubbing, List.mem_erase_of_ne hm]
  have hT : (d'.allocators z).prioritizedSlabs = (d.allocators z).prioritizedSlabs := by simp [d']
  have hts : (d'.allocators z).tableSlabs = (d.allocators z).tableSlabs := by
    simp [BlockAllocator.tableSlabs, hT]
  have hO : (d'.allocators z).openSlab = (d.allocators z).openSlab := by simp [d']
  have hQ : (d'.allocators z).quiescent = (d.allocators z).quiescent := by simp [d']
  have hq := h.not_quiescent (.inr (.inr (List.ne_nil_of_mem hs)))
  have hr := (h.slabs n (h.scrubbingOwned n hs) (List.not_mem_nil n)).scrubbing hs
  have hpl := h.scrubbing_detached hs
  refine ⟨⟨hts ▸ h.tableOwned, hts ▸ h.tableNodup,
    fun m hm => by rw [hO] at hm; rw [hts]; exact h.openSlab m hm,
    fun m hm => h.scrubbingOwned m (hsub.subset hm), hsub.nodup h.scrubbingNodup,
    fun hq' => absurd (hQ ▸ hq') (by simp [hq]), fun m hm hp => ?_⟩,
    hts ▸ hpl.1, hO ▸ hpl.2, ?_⟩
  · have hmn : m ≠ n := by simpa using hp
    exact (h.slabs m hm (List.not_mem_nil m)).transfer (fun _ _ => by rw [hT]) (by rw [hO])
      (hmem m hmn) hQ rfl id
  · simp [d', BlockAllocator.scrubbing, hnd.1.mem_erase_iff, hnd.2.mem_erase_iff]

/-- **The scrubber finishing a slab** and `vdo_queue_slab` of it keep the allocator's
slabs in place. -/
theorem finishScrubbing (h : Placed d z []) (hz : (d.slabs n).allocator = z)
    (hs : n ∈ (d.allocators z).scrubbing) (freeBlocks : Nat) (journalBlank : Bool) :
    Placed (Kvdo.finishScrubbing d n freeBlocks journalBlank) z [] := by
  obtain ⟨h1, hdet⟩ := h.eraseScrubbing hs
  have hn := h.scrubbingOwned n hs
  have hq := h.not_quiescent (.inr (.inr (List.ne_nil_of_mem hs)))
  have h2 := h1.updateSlab n
    (fun slab => { slab with freeBlocks, journalBlank, unrecovered := false }) rfl
    fun _ hp => absurd (List.mem_singleton_self n) hp
  simp only [Kvdo.finishScrubbing, hz]
  exact h2.vdoQueueSlab ((SlabDepot.updateSlab_owns rfl z n).2 hn) hdet (by simpa using hq) false

/-- **A drain** leaves the allocator quiescent, holding nothing. -/
theorem drainBlockAllocator (h : Placed d z []) : Placed (Kvdo.drainBlockAllocator d z) z [] := by
  have hnil : ∀ l : List Nat, (∀ m ∈ l, d.owns z m) → l.filter (fun m => !decide (d.owns z m)) = [] :=
    fun l hl => List.filter_eq_nil_iff.2 fun m hm => by simp [hl m hm]
  refine of_quiescent (by simp [Kvdo.drainBlockAllocator]) ?_ (by simp [Kvdo.drainBlockAllocator, detachSlabs])
    ?_
  · simp only [Kvdo.drainBlockAllocator, detachSlabs, SlabDepot.updateAllocator_allocators,
      if_pos rfl, SlabDepot.updateAllocator_updateAllocator]
    exact List.filter_eq_nil_iff.2 fun e he => by
      simp [h.tableOwned e.2 (List.mem_map.2 ⟨e, he, rfl⟩)]
  · simp only [Kvdo.drainBlockAllocator, detachSlabs, SlabDepot.updateAllocator_allocators,
      if_pos rfl, SlabDepot.updateAllocator_updateAllocator, BlockAllocator.scrubbing]
    rw [hnil _ fun m hm => h.scrubbingOwned m (List.mem_append_left _ hm),
      hnil _ fun m hm => h.scrubbingOwned m (List.mem_append_right _ hm)]
    rfl

/-- `vdo_queue_slab` of resuming slabs, each detached, one after another. -/
theorem foldl_vdoQueueSlab :
    ∀ (l : List Nat) (d : SlabDepot), Placed d z l → l.Nodup →
      (∀ m ∈ l, d.owns z m ∧ d.Detached z m) → (d.allocators z).quiescent = false →
      Placed (l.foldl (fun d n => Kvdo.vdoQueueSlab d n true) d) z []
  | [], _, h, _, _, _ => h
  | n :: l, d, h, hnd, hl, hq => by
    obtain ⟨hn, hdet⟩ := hl n (List.mem_cons_self _ _)
    rw [List.nodup_cons] at hnd
    exact foldl_vdoQueueSlab l _ (h.vdoQueueSlab hn hdet hq true) hnd.2
      (fun m hm => ⟨(vdoQueueSlab_owns _ _ _ _ _).2 (hl m (List.mem_cons_of_mem _ hm)).1,
        (hl m (List.mem_cons_of_mem _ hm)).2.vdoQueueSlab (fun h' : m = n => hnd.1 (h' ▸ hm)) true⟩)
      (by simpa using hq)

/-- **A resume** queues every slab of the quiescent allocator. -/
theorem resumeBlockAllocator (h : Placed d z []) (hq : (d.allocators z).quiescent = true) :
    Placed (Kvdo.resumeBlockAllocator d z) z [] := by
  obtain ⟨hT, hO, hS⟩ := h.quiescent hq
  set d₀ := (detachSlabs d z).updateAllocator z fun a => { a with quiescent := false }
  have hA : d₀.allocators z = { d.allocators z with
      openSlab := none, prioritizedSlabs := [], scrubberHighPrioritySlabs := [],
      scrubberSlabs := [], quiescent := false } := by
    simp only [BlockAllocator.scrubbing, List.append_eq_nil] at hS
    simp [d₀, detachSlabs, hT, hS.1, hS.2]
  have hdet : ∀ m, d₀.Detached z m := fun m => by
    simp [SlabDepot.Detached, hA, BlockAllocator.tableSlabs, BlockAllocator.scrubbing]
  have h₀ : Placed d₀ z (slabsOf d z) :=
    ⟨by simp [hA, BlockAllocator.tableSlabs], by simp [hA, BlockAllocator.tableSlabs],
      by simp [hA], by simp [hA, BlockAllocator.scrubbing], by simp [hA, BlockAllocator.scrubbing],
      by simp [hA], fun m hm hp => absurd (mem_slabsOf.2 hm) hp⟩
  exact foldl_vdoQueueSlab _ _ h₀ (nodup_slabsOf d z)
    (fun m hm => ⟨mem_slabsOf.1 hm, hdet m⟩) (by simp [hA])

/-- **A resize**, with every zone quiescent: the new slabs join their quiescent allocator
detached, and no other allocator. -/
theorem vdoUseNewSlabs (h : Placed d z []) (hZ : 0 < d.zoneCount)
    (hq : z < d.zoneCount → (d.allocators z).quiescent = true) {newSlabCount : Nat}
    (hle : d.slabCount ≤ newSlabCount) :
    Placed (Kvdo.vdoUseNewSlabs d newSlabCount) z [] := by
  have hA : ((Kvdo.vdoUseNewSlabs d newSlabCount).allocators z).withoutCount =
      (d.allocators z).withoutCount := vdoRegisterNewSlabsForAllocator_withoutCount _ _ _ _ _
  by_cases hz : z < d.zoneCount
  · obtain ⟨hT, hO, hS⟩ := h.quiescent (hq hz)
    simp only [BlockAllocator.withoutCount, BlockAllocator.mk.injEq] at hA
    obtain ⟨h1, h2, -, -, -, h3, h4, h5⟩ := hA
    exact of_quiescent (by rw [h5, hq hz]) (by rw [h1, hT]) (by rw [h2, hO])
      (by rw [BlockAllocator.scrubbing, h3, h4]; exact hS)
  · refine h.frame hA (fun m hm => by simp [Kvdo.vdoUseNewSlabs, hm.1]) (fun m => ?_) rfl id
    simp only [SlabDepot.owns, Kvdo.vdoUseNewSlabs]
    split_ifs with hm
    · constructor
      · rintro ⟨-, hmz⟩; exact ⟨hm, hmz⟩
      · rintro ⟨-, hmz⟩; exact ⟨by omega, hmz⟩
    · simp only [newSlab]
      constructor
      · rintro ⟨-, hmz⟩; exact absurd (hmz ▸ Nat.mod_lt m hZ) hz
      · rintro ⟨hm', -⟩; exact absurd hm' hm

end Placed

end Kvdo
