/-
# The allocators' invariant over every run

`Inv d` holds of every state the allocators reach (`Reachable.inv`): the zone count is
positive, and every allocator keeps its slabs in place (`Placed`) and counts them
(`Accounted`), with no slab pending.

It holds where a run starts.  Decoding the depot leaves every allocator `Fresh`: no list
holds a slab, nothing is counted, and `slab_count` is the number of its slabs.
`vdo_prepare_slabs_for_allocation` of a fresh allocator sets `allocated_blocks` to every
block of its slabs and all of them aside as pending; each call of its loop settles one,
either `vdo_queue_slab`, which puts it in place and takes out its free blocks, or
`vdo_mark_slab_unrecovered` and `vdo_register_slab_for_scrubbing`, which leave it counted
in full.  `prepare_vdo_slab_depot_to_allocate` prepares the zones in turn, each touching
only its own allocator (`SlabDepot.ZoneLocal`).

Each step of `AllocatorStep` keeps it (`Inv.step`), by the lemmas of
`Kvdo.Vdo.PlacementSteps` for the step's zone and `Placed.of_zoneLocal` for the others.
-/

import Kvdo.Vdo.AllocatedBlocks

namespace Kvdo

/-- Registering a list of slabs counts in each allocator the slabs it owns, and changes
nothing else. -/
theorem registerSlabs_apply (owner : Nat → Nat) :
    ∀ (l : List Nat) (allocators : Nat → BlockAllocator) (z : Nat),
      (registerSlabs allocators owner l z).withoutCount = (allocators z).withoutCount ∧
      (registerSlabs allocators owner l z).allocatedBlocks = (allocators z).allocatedBlocks ∧
      (registerSlabs allocators owner l z).slabCount =
        (allocators z).slabCount + (l.filter fun n => owner n = z).length
  | [], _, _ => by simp [registerSlabs]
  | n :: l, allocators, z => by
    obtain ⟨h1, h2, h3⟩ := registerSlabs_apply owner l
      (Function.update allocators (owner n) (vdoRegisterSlabWithAllocator (allocators (owner n)) n)) z
    rw [registerSlabs, h1, h2, h3, List.filter_cons]
    by_cases hz : owner n = z
    · subst hz
      simp [vdoRegisterSlabWithAllocator, BlockAllocator.withoutCount]
      omega
    · simp [Function.update_noteq (Ne.symm hz), hz]

namespace SlabDepot

variable {d d' : SlabDepot} {z z' n : Nat}

theorem ZoneLocal.owns (h : d.ZoneLocal d' z) (z' m : Nat) : d'.owns z' m ↔ d.owns z' m := by
  simp [SlabDepot.owns, h.slabCount, h.allocator]

/-- Allocator `z` as decoding leaves it: its lists hold nothing, it is not quiescent, it
counts no block, and its `slab_count` is the number of its slabs. -/
structure Fresh (d : SlabDepot) (z : Nat) : Prop where
  withoutCount : (d.allocators z).withoutCount = BlockAllocator.empty.withoutCount
  allocatedBlocks : (d.allocators z).allocatedBlocks = 0
  slabCount : (d.allocators z).slabCount = (d.ownedSlabs z).card

namespace Fresh

theorem lists (h : d.Fresh z) : (d.allocators z).prioritizedSlabs = [] ∧
    (d.allocators z).openSlab = none ∧ (d.allocators z).scrubbing = [] ∧
    (d.allocators z).quiescent = false := by
  have := h.withoutCount
  simp only [BlockAllocator.withoutCount, BlockAllocator.empty, BlockAllocator.mk.injEq] at this
  simp [BlockAllocator.scrubbing, this]

theorem of_zoneLocal (h : d.Fresh z') (hl : d.ZoneLocal d' z) (hz : z ≠ z') : d'.Fresh z' := by
  have hA := hl.allocators z' (Ne.symm hz)
  exact ⟨hA ▸ h.withoutCount, hA ▸ h.allocatedBlocks,
    by rw [hA, h.slabCount, ownedSlabs_congr hl.slabCount hl.allocator]⟩

/-- Every slab a fresh allocator owns is detached. -/
theorem detached (h : d.Fresh z) (n : Nat) : d.Detached z n := by
  obtain ⟨hT, hO, hS, -⟩ := h.lists
  simp [Detached, BlockAllocator.tableSlabs, hT, hO, hS]

/-- With every slab it owns pending, a fresh allocator is placed. -/
theorem placed {p : List Nat} (h : d.Fresh z) (hp : ∀ n, d.owns z n → n ∈ p) : Placed d z p := by
  obtain ⟨hT, hO, hS, hQ⟩ := h.lists
  exact ⟨by simp [BlockAllocator.tableSlabs, hT], by simp [BlockAllocator.tableSlabs, hT],
    by simp [hO], by simp [hS], by simp [hS], by simp [hQ], fun n hn hnp => absurd (hp n hn) hnp⟩

/-- A fresh allocator with no slab counts them. -/
theorem accounted (h : d.Fresh z) (hno : ∀ n, ¬d.owns z n) : Accounted d z [] := by
  have hown : d.ownedSlabs z = ∅ := Finset.eq_empty_of_forall_not_mem fun n hn =>
    hno n (mem_ownedSlabs.1 hn)
  exact ⟨by rw [h.allocatedBlocks, hown, Finset.sum_empty], by rw [h.slabCount]⟩

end Fresh

end SlabDepot

/-- **Decoding leaves every allocator fresh.** -/
theorem decodeSlabDepot_fresh (dataBlocks zoneCount slabCount : Nat) (loaded : Nat → VdoSlab)
    (z : Nat) : (decodeSlabDepot dataBlocks zoneCount slabCount loaded).Fresh z := by
  obtain ⟨h1, h2, h3⟩ := registerSlabs_apply (· % zoneCount) (List.range slabCount)
    (fun _ => BlockAllocator.empty) z
  exact ⟨h1, h2, h3.trans (zero_add _)⟩

section PrepareCall

variable {d : SlabDepot} {z : Nat} {p : List Nat} {c : PrepareCall}

@[simp] theorem applyPrepareCall_quiescent (d : SlabDepot) (c : PrepareCall) (z : Nat) :
    ((applyPrepareCall d c).allocators z).quiescent = (d.allocators z).quiescent := by
  cases c <;> simp [applyPrepareCall]

theorem SlabDepot.ZoneLocal.applyPrepareCall (hz : (d.slabs c.slab).allocator = z) :
    d.ZoneLocal (Kvdo.applyPrepareCall d c) z := by
  cases c with
  | queue n => exact vdoQueueSlab hz false
  | scrub n high =>
    simp only [PrepareCall.slab] at hz
    exact (updateSlab hz rfl).trans (vdoRegisterSlabForScrubbing (by simpa using hz) high)

theorem SlabDepot.Detached.applyPrepareCall {m : Nat} (h : d.Detached z m) (hm : m ≠ c.slab) :
    (Kvdo.applyPrepareCall d c).Detached z m := by
  cases c with
  | queue n => exact h.vdoQueueSlab hm false
  | scrub n high =>
    refine h.transfer (by simp [Kvdo.applyPrepareCall, BlockAllocator.tableSlabs])
      (by simp [Kvdo.applyPrepareCall]) fun hs => ?_
    have := (vdoRegisterSlabForScrubbing_scrubbing _ n high z).mem_iff.1 hs
    split_ifs at this
    · exact (List.mem_append.1 this).resolve_right (by simpa using hm)
    · exact this

/-- One call of the prepare loop settles the slab it is about. -/
theorem Placed.applyPrepareCall (h : Placed d z (c.slab :: p)) (hn : d.owns z c.slab)
    (hdet : d.Detached z c.slab) (hq : (d.allocators z).quiescent = false) :
    Placed (Kvdo.applyPrepareCall d c) z p := by
  cases c with
  | queue n => exact h.vdoQueueSlab hn hdet hq false
  | scrub n high =>
    simp only [PrepareCall.slab] at h hn hdet
    have h1 := h.updateSlab n (fun slab => { slab with unrecovered := true }) rfl
      fun _ hp => absurd (List.mem_cons_self n p) hp
    exact h1.registerForScrubbing ((SlabDepot.updateSlab_owns rfl z n).2 hn) hdet hq (by simp) high

/-- One call of the prepare loop: a queued slab takes out its free blocks, and a slab
registered for scrubbing stays counted in full. -/
theorem Accounted.applyPrepareCall (h : Accounted d z (c.slab :: p)) (hn : d.owns z c.slab)
    (hnp : c.slab ∉ p) : Accounted (Kvdo.applyPrepareCall d c) z p := by
  cases c with
  | queue n => exact h.vdoQueueSlab hn hnp
  | scrub n high =>
    refine ((h.updateSlab (fun slab => { slab with unrecovered := true }) rfl).sameCounts
      (SlabDepot.SameCounts.vdoRegisterSlabForScrubbing _ n high z)).uncons ?_
    simp [SlabDepot.counted, slabContribution, hnp]

/-- **The prepare loop**, over calls on distinct detached slabs of the allocator, each
pending: every slab is settled, and only the allocator's own zone is touched. -/
theorem prepare_run :
    ∀ (calls : List PrepareCall) (d : SlabDepot),
      Placed d z (calls.map PrepareCall.slab) → Accounted d z (calls.map PrepareCall.slab) →
      (calls.map PrepareCall.slab).Nodup → (∀ c ∈ calls, d.owns z c.slab ∧ d.Detached z c.slab) →
      (d.allocators z).quiescent = false →
      Placed (calls.foldl applyPrepareCall d) z [] ∧ Accounted (calls.foldl applyPrepareCall d) z [] ∧
        d.ZoneLocal (calls.foldl applyPrepareCall d) z
  | [], d, hp, ha, _, _, _ => ⟨hp, ha, .refl d z⟩
  | c :: cs, d, hp, ha, hnd, hc, hq => by
    rw [List.map_cons, List.nodup_cons] at hnd
    obtain ⟨hn, hdet⟩ := hc c (List.mem_cons_self _ _)
    have hl : d.ZoneLocal (applyPrepareCall d c) z := SlabDepot.ZoneLocal.applyPrepareCall hn.2
    obtain ⟨h1, h2, h3⟩ := prepare_run cs _ (hp.applyPrepareCall hn hdet hq)
      (ha.applyPrepareCall hn hnd.1) hnd.2 (fun c' hc' => by
        obtain ⟨hn', hdet'⟩ := hc c' (List.mem_cons_of_mem _ hc')
        exact ⟨(hl.owns z _).2 hn', hdet'.applyPrepareCall fun h' =>
          hnd.1 (h' ▸ List.mem_map_of_mem _ hc')⟩)
      (by simpa using hq)
    exact ⟨h1, h2, hl.trans h3⟩

end PrepareCall

/-- **`vdo_prepare_slabs_for_allocation` of a fresh allocator** places and counts its
slabs, and touches no other zone. -/
theorem SlabDepot.Fresh.vdoPrepareSlabsForAllocation {d : SlabDepot} {z : Nat} (h : d.Fresh z)
    (summary : Nat → SlabSummaryEntry) (loadType : SlabDepotLoadType) :
    Placed (Kvdo.vdoPrepareSlabsForAllocation d z summary loadType) z [] ∧
      Accounted (Kvdo.vdoPrepareSlabsForAllocation d z summary loadType) z [] ∧
      d.ZoneLocal (Kvdo.vdoPrepareSlabsForAllocation d z summary loadType) z := by
  set calls := preparePlan d z summary loadType
  set d₀ := d.updateAllocator z fun a => { a with allocatedBlocks := a.slabCount * d.dataBlocks }
  have hmem : ∀ n, d.owns z n → n ∈ calls.map PrepareCall.slab := fun _ hn =>
    mem_preparePlan_slab.2 hn
  have hp : Placed d₀ z (calls.map PrepareCall.slab) :=
    (h.placed hmem).updateCount z _ fun _ => rfl
  have ha : Accounted d₀ z (calls.map PrepareCall.slab) := by
    refine ⟨?_, by simpa [d₀] using h.slabCount⟩
    rw [Finset.sum_congr rfl fun n (hn : n ∈ d₀.ownedSlabs z) => show d₀.counted (calls.map PrepareCall.slab) n = d₀.dataBlocks
      from if_pos (hmem n (SlabDepot.mem_ownedSlabs.1 hn)), Finset.sum_const, nsmul_eq_mul]
    simp [d₀, h.slabCount]
  obtain ⟨h1, h2, h3⟩ := prepare_run calls d₀ hp ha (preparePlan_nodup d z summary loadType)
    (fun c hc => ⟨mem_preparePlan_slab.1 (List.mem_map_of_mem _ hc), (h.detached _).transfer
      (by simp [d₀, BlockAllocator.tableSlabs]) (by simp [d₀]) (by simp [d₀, BlockAllocator.scrubbing])⟩)
    (by simpa [d₀] using h.lists.2.2.2)
  exact ⟨h1, h2, (SlabDepot.ZoneLocal.updateAllocator d z _).trans h3⟩

/-- The allocators' invariant: a positive zone count, and every allocator's slabs in
place and counted. -/
structure Inv (d : SlabDepot) : Prop where
  zoneCount_pos : 0 < d.zoneCount
  placed : ∀ z, Placed d z []
  accounted : ∀ z, Accounted d z []

/-- The zones prepared so far are placed and counted, and the others are still fresh. -/
theorem prepare_zones (d : SlabDepot) (hf : ∀ z, d.Fresh z) (summary : Nat → Nat → SlabSummaryEntry)
    (loadType : SlabDepotLoadType) : ∀ k : Nat,
    (∀ z < k, Placed ((List.range k).foldl
        (fun d z => vdoPrepareSlabsForAllocation d z (summary z) loadType) d) z [] ∧
      Accounted ((List.range k).foldl
        (fun d z => vdoPrepareSlabsForAllocation d z (summary z) loadType) d) z []) ∧
    (∀ z, k ≤ z → ((List.range k).foldl
        (fun d z => vdoPrepareSlabsForAllocation d z (summary z) loadType) d).Fresh z) ∧
    ((List.range k).foldl
        (fun d z => vdoPrepareSlabsForAllocation d z (summary z) loadType) d).zoneCount = d.zoneCount ∧
    ∀ m, (((List.range k).foldl
        (fun d z => vdoPrepareSlabsForAllocation d z (summary z) loadType) d).slabs m).allocator =
      (d.slabs m).allocator
  | 0 => ⟨fun _ hz => absurd hz (Nat.not_lt_zero _), fun z _ => hf z, rfl, fun _ => rfl⟩
  | k + 1 => by
    obtain ⟨hdone, hfresh, hZ, hA⟩ := prepare_zones d hf summary loadType k
    rw [List.range_succ, List.foldl_append, List.foldl_cons, List.foldl_nil]
    obtain ⟨hp, ha, hl⟩ := (hfresh k le_rfl).vdoPrepareSlabsForAllocation (summary k) loadType
    refine ⟨fun z hz => ?_, fun z hz => (hfresh z (by omega)).of_zoneLocal hl (by omega),
      hl.zoneCount.trans hZ, fun m => (hl.allocator m).trans (hA m)⟩
    rcases Nat.lt_succ_iff_lt_or_eq.1 hz with hz | rfl
    · exact ⟨(hdone z hz).1.of_zoneLocal hl (by omega), (hdone z hz).2.of_zoneLocal hl (by omega)⟩
    · exact ⟨hp, ha⟩

/-- **Where a run starts, the invariant holds.** -/
theorem Inv.prepared {dataBlocks zoneCount slabCount : Nat} {loaded : Nat → VdoSlab}
    (summary : Nat → Nat → SlabSummaryEntry) (loadType : SlabDepotLoadType) (hZ : 0 < zoneCount) :
    Inv (prepareSlabDepotToAllocate (decodeSlabDepot dataBlocks zoneCount slabCount loaded)
      summary loadType) := by
  set d := decodeSlabDepot dataBlocks zoneCount slabCount loaded
  obtain ⟨hdone, hfresh, hZ', hA⟩ := prepare_zones d (decodeSlabDepot_fresh _ _ _ _) summary
    loadType zoneCount
  refine ⟨hZ' ▸ hZ, fun z => ?_, fun z => ?_⟩ <;> by_cases hz : z < zoneCount
  · exact (hdone z hz).1
  · refine (hfresh z (by omega)).placed fun n hn => absurd ?_ hz
    rw [← hn.2, hA]; exact Nat.mod_lt n hZ
  · exact (hdone z hz).2
  · refine (hfresh z (by omega)).accounted fun n hn => hz ?_
    rw [← hn.2, hA]; exact Nat.mod_lt n hZ

namespace Inv

variable {d d' : SlabDepot} {z n : Nat}

/-- A step of one zone that keeps that zone's allocator placed and counted keeps the
invariant. -/
theorem zoneLocal (h : Inv d) (hl : d.ZoneLocal d' z) (hp : Placed d' z []) (ha : Accounted d' z []) :
    Inv d' := by
  refine ⟨hl.zoneCount ▸ h.zoneCount_pos, fun z' => ?_, fun z' => ?_⟩ <;> by_cases hz : z' = z
  · exact hz ▸ hp
  · exact (h.placed z').of_zoneLocal hl (Ne.symm hz)
  · exact hz ▸ ha
  · exact (h.accounted z').of_zoneLocal hl (Ne.symm hz)

/-- A slab in service is its allocator's, recovered, with a valid free block count. -/
theorem inService (h : Inv d) (hin : d.InService n) :
    d.owns (d.slabs n).allocator n ∧ (d.slabs n).unrecovered = false ∧
      (d.slabs n).freeBlocks ≤ d.dataBlocks := by
  have hp := h.placed (d.slabs n).allocator
  rcases hin with ht | ho
  · have hn := hp.tableOwned n ht
    obtain ⟨e, he, hen⟩ := List.mem_map.1 ht
    obtain ⟨-, hr, hv, -⟩ := (hp.slabs n hn (List.not_mem_nil n)).table e he hen
    exact ⟨hn, hr, hv⟩
  · have hn := (hp.openSlab n ho).1
    exact ⟨hn, (hp.slabs n hn (List.not_mem_nil n)).openSlab ho⟩

/-- **Every step keeps the invariant.** -/
theorem step (h : Inv d) (hs : AllocatorStep d d') : Inv d' := by
  cases hs with
  | allocate _ hr =>
    exact h.zoneLocal ((h.placed _).zoneLocal_vdoAllocateBlock hr) ((h.placed _).vdoAllocateBlock hr)
      ((h.accounted _).vdoAllocateBlock (h.placed _) hr)
  | changeFreeCount hin hF =>
    obtain ⟨hn, hr, hv⟩ := h.inService hin
    exact h.zoneLocal (.changeFreeBlockCount rfl _) ((h.placed _).changeFreeBlockCount hn hin hF)
      ((h.accounted _).changeFreeBlockCount hn (List.not_mem_nil _) hr hv hF)
  | addJournalEntry hin =>
    exact h.zoneLocal (.addJournalEntry rfl) ((h.placed _).addJournalEntry (h.inService hin).1)
      ((h.accounted _).sameCounts (.addJournalEntry _ _ _))
  | finishScrubbing hs =>
    exact h.zoneLocal (.finishScrubbing rfl _ _) ((h.placed _).finishScrubbing rfl hs _ _)
      ((h.accounted _).finishScrubbing (h.placed _) rfl hs _ _)
  | drain _ =>
    exact h.zoneLocal (.drainBlockAllocator _ _) (h.placed _).drainBlockAllocator
      ((h.accounted _).sameCounts (.drainBlockAllocator _ _ _))
  | resume hq =>
    exact h.zoneLocal (.resumeBlockAllocator _ _) ((h.placed _).resumeBlockAllocator hq)
      ((h.accounted _).sameCounts (.resumeBlockAllocator _ _ _))
  | grow hle hq =>
    exact ⟨h.zoneCount_pos, fun z => (h.placed z).vdoUseNewSlabs h.zoneCount_pos (hq z) hle,
      fun z => (h.accounted z).vdoUseNewSlabs hle⟩

end Inv

/-- **Every reachable state has the invariant.** -/
theorem Reachable.inv {d : SlabDepot} (h : Reachable d) : Inv d := by
  induction h with
  | prepared hZ => exact Inv.prepared _ _ hZ
  | step _ hs ih => exact ih.step hs

end Kvdo
