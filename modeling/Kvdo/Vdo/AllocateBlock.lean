/-
# `vdo_allocate_block`

`vdo_allocate_block` (`block-allocator.c`, 525-553) allocates from the open slab; when the
reference counts answer `VDO_NO_SPACE` it puts the open slab back on the priority table
with `prioritize_slab`, dequeues the highest slab, opens it and allocates once more.

The function is taken apart once (`allocateSlabBlock_spec`, `openNextSlab_eq_some`,
`vdoAllocateBlock_cases`); each path then keeps the allocator's slabs in place
(`Placed.vdoAllocateBlock`), and from a placed allocator the call always has a slab to
open, returns `VDO_NO_SPACE` only with every slab of the allocator full, and changes no
count when it fails.
-/

import Kvdo.Vdo.SlabPlacement

namespace Kvdo

/-- Allocator `z` with its open slab cleared, as `vdo_allocate_block` has it once it gives
the open slab up. -/
def SlabDepot.withoutOpenSlab (d : SlabDepot) (z : Nat) : SlabDepot :=
  d.updateAllocator z fun a => { a with openSlab := none }

theorem SlabDepot.withoutOpenSlab_eq_self {d : SlabDepot} {z : Nat}
    (ho : (d.allocators z).openSlab = none) : d.withoutOpenSlab z = d := by
  have : ({ d.allocators z with openSlab := none } : BlockAllocator) = d.allocators z := by
    rw [← ho]
  simp [withoutOpenSlab, updateAllocator, this]

theorem prioritizeSlab_withoutOpenSlab (d : SlabDepot) (n : Nat) :
    prioritizeSlab (d.withoutOpenSlab (d.slabs n).allocator) n =
      (prioritizeSlab d n).withoutOpenSlab (d.slabs n).allocator := by
  simp only [prioritizeSlab, SlabDepot.withoutOpenSlab, SlabDepot.updateSlab_updateAllocator,
    SlabDepot.updateAllocator_slabs, SlabDepot.updateAllocator_unopened,
    SlabDepot.updateAllocator_updateAllocator]

/-- What `allocate_slab_block` does: a successful search takes a free block from the slab
and accounts for it with `vdo_adjust_free_block_count`; a failed one changes nothing, and
fails with `VDO_NO_SPACE` exactly when the cursor ran off the end or found no free block. -/
theorem allocateSlabBlock_spec (d : SlabDepot) (n : Nat) (search : SearchOutcome) :
    ((allocateSlabBlock d n search).1 = .success ∧ search = .found ∧
      (d.slabs n).freeBlocks ≠ 0 ∧
      (allocateSlabBlock d n search).2 = vdoAdjustFreeBlockCount
        (d.updateSlab n fun slab => { slab with freeBlocks := slab.freeBlocks - 1 }) n false) ∨
    ((allocateSlabBlock d n search).1 ≠ .success ∧ (allocateSlabBlock d n search).2 = d ∧
      ((allocateSlabBlock d n search).1 = .noSpace ↔
        search = .ranOffEnd ∨ (search = .found ∧ (d.slabs n).freeBlocks = 0))) := by
  cases search with
  | found =>
    by_cases hF : (d.slabs n).freeBlocks = 0
    · simp [allocateSlabBlock, vdoAllocateUnreferencedBlock, hF]
    · refine .inl ⟨by simp [allocateSlabBlock, vdoAllocateUnreferencedBlock, hF], rfl, hF, ?_⟩
      simp [allocateSlabBlock, vdoAllocateUnreferencedBlock, hF]
      rfl
  | ranOffEnd => simp [allocateSlabBlock, vdoAllocateUnreferencedBlock]
  | failed code => simp [allocateSlabBlock, vdoAllocateUnreferencedBlock]

theorem allocateSlabBlock_noSpace {d d' : SlabDepot} {n : Nat} {search : SearchOutcome}
    (h : allocateSlabBlock d n search = (.noSpace, d')) : d' = d := by
  rcases allocateSlabBlock_spec d n search with ⟨hs, -⟩ | ⟨-, hd, -⟩
  · rw [h] at hs; cases hs
  · rwa [h] at hd

theorem allocateSlabBlock_openSlab (d : SlabDepot) (n : Nat) (search : SearchOutcome) (z : Nat) :
    ((allocateSlabBlock d n search).2.allocators z).openSlab = (d.allocators z).openSlab := by
  rcases allocateSlabBlock_spec d n search with ⟨-, -, -, heq⟩ | ⟨-, heq, -⟩ <;> rw [heq]
  rw [vdoAdjustFreeBlockCount_openSlab]; rfl

/-- On its allocator's open slab, `vdo_adjust_free_block_count` only counts. -/
theorem vdoAdjustFreeBlockCount_open {d : SlabDepot} {n : Nat} (increment : Bool)
    (ho : (d.allocators (d.slabs n).allocator).openSlab = some n) :
    vdoAdjustFreeBlockCount d n increment = d.updateAllocator (d.slabs n).allocator fun a =>
      { a with allocatedBlocks := a.allocatedBlocks + if increment then -1 else 1 } := by
  simp [vdoAdjustFreeBlockCount, ho]

/-- Allocating from a slab open in its allocator takes a block from it or changes
nothing. -/
theorem allocateSlabBlock_open {d : SlabDepot} {n : Nat} (search : SearchOutcome)
    (ho : (d.allocators (d.slabs n).allocator).openSlab = some n) :
    (allocateSlabBlock d n search).2 = d ∨ ((d.slabs n).freeBlocks ≠ 0 ∧
      (allocateSlabBlock d n search).2 =
        (d.updateSlab n fun slab => { slab with freeBlocks := slab.freeBlocks - 1 }).updateAllocator
          (d.slabs n).allocator fun a => { a with allocatedBlocks := a.allocatedBlocks + 1 }) := by
  rcases allocateSlabBlock_spec d n search with ⟨-, -, hF, heq⟩ | ⟨-, heq, -⟩
  · refine .inr ⟨hF, ?_⟩
    rw [heq, vdoAdjustFreeBlockCount_open false (by simpa using ho)]
    simp
  · exact .inl heq

theorem openNextSlab_eq_some {d : SlabDepot} {z : Nat} {search : SearchOutcome}
    {r : Status × SlabDepot} (h : openNextSlab d z search = some r) :
    ∃ n rest, priorityTableDequeue (d.allocators z).prioritizedSlabs = some (n, rest) ∧
      r = allocateSlabBlock (d.updateAllocator z fun a =>
        { a with prioritizedSlabs := rest, openSlab := some n }) n search := by
  obtain ⟨⟨n, rest⟩, hq, rfl⟩ := Option.map_eq_some'.1 h
  exact ⟨n, rest, hq, rfl⟩

theorem openNextSlab_withoutOpenSlab (d : SlabDepot) (z : Nat) (search : SearchOutcome) :
    openNextSlab (d.withoutOpenSlab z) z search = openNextSlab d z search := by
  simp [openNextSlab, SlabDepot.withoutOpenSlab]

/-- A non-empty table always has a slab to open. -/
theorem openNextSlab_isSome {d : SlabDepot} {z : Nat} (search : SearchOutcome)
    (h : (d.allocators z).prioritizedSlabs ≠ []) : (openNextSlab d z search).isSome := by
  simpa [openNextSlab] using priorityTableDequeue_isSome h

/-- The paths of `vdo_allocate_block`: open the next slab when there is no open slab;
allocate from the open slab; or, when that answers `VDO_NO_SPACE`, put it back and open
the next slab. -/
theorem vdoAllocateBlock_cases {d : SlabDepot} {z : Nat} {first second : SearchOutcome}
    {r : Status × SlabDepot} (h : vdoAllocateBlock d z first second = some r) :
    ((d.allocators z).openSlab = none ∧ openNextSlab d z second = some r) ∨
    (∃ n, (d.allocators z).openSlab = some n ∧
      ((allocateSlabBlock d n first).1 ≠ .noSpace ∧ r = allocateSlabBlock d n first ∨
        (allocateSlabBlock d n first).1 = .noSpace ∧
          openNextSlab (prioritizeSlab d n) z second = some r)) := by
  unfold vdoAllocateBlock at h
  split at h
  · next n ho =>
    refine .inr ⟨n, ho, ?_⟩
    split at h
    · next d' heq =>
      obtain rfl := allocateSlabBlock_noSpace heq
      exact .inr ⟨by rw [heq], h⟩
    · next hne =>
      exact .inl ⟨fun hno => hne _ (Prod.ext hno rfl), (Option.some.inj h).symm⟩
  · next ho => exact .inl ⟨ho, h⟩

/-- Allocating from an open slab leaves every table and every slab's priority. -/
theorem allocateSlabBlock_open_lists (d : SlabDepot) (n : Nat) (search : SearchOutcome)
    (ho : (d.allocators (d.slabs n).allocator).openSlab = some n) (z m : Nat) :
    ((allocateSlabBlock d n search).2.allocators z).prioritizedSlabs =
        (d.allocators z).prioritizedSlabs ∧
      ((allocateSlabBlock d n search).2.slabs m).priority = (d.slabs m).priority := by
  rcases allocateSlabBlock_open search ho with heq | ⟨-, heq⟩ <;> rw [heq]
  · exact ⟨rfl, rfl⟩
  · by_cases hz : z = (d.slabs n).allocator <;> by_cases hm : m = n <;> simp [hz, hm]

theorem openNextSlab_openSlab {d : SlabDepot} {z : Nat} {search : SearchOutcome}
    {r : Status × SlabDepot} (hr : openNextSlab d z search = some r) :
    (r.2.allocators z).openSlab ≠ none := by
  obtain ⟨m, rest, -, rfl⟩ := openNextSlab_eq_some hr
  simp [allocateSlabBlock_openSlab]

/-- After `vdo_allocate_block`, the allocator has an open slab. -/
theorem vdoAllocateBlock_openSlab {d : SlabDepot} {z : Nat} {first second : SearchOutcome}
    {r : Status × SlabDepot} (hr : vdoAllocateBlock d z first second = some r) :
    (r.2.allocators z).openSlab ≠ none := by
  rcases vdoAllocateBlock_cases hr with ⟨-, hr⟩ | ⟨n, ho, ⟨-, rfl⟩ | ⟨-, hr⟩⟩
  · exact openNextSlab_openSlab hr
  · simp [allocateSlabBlock_openSlab, ho]
  · exact openNextSlab_openSlab hr

/-- A failed allocation from the next slab changes no count. -/
theorem openNextSlab_failure {d : SlabDepot} {z : Nat} {search : SearchOutcome}
    {r : Status × SlabDepot} (hr : openNextSlab d z search = some r) (hf : r.1 ≠ .success) :
    (∀ z', (r.2.allocators z').allocatedBlocks = (d.allocators z').allocatedBlocks) ∧
      ∀ m, (r.2.slabs m).freeBlocks = (d.slabs m).freeBlocks := by
  obtain ⟨m, rest, -, rfl⟩ := openNextSlab_eq_some hr
  rcases allocateSlabBlock_spec (d.updateAllocator z fun a =>
    { a with prioritizedSlabs := rest, openSlab := some m }) m search with ⟨hs, -⟩ | ⟨-, heq, -⟩
  · exact absurd hs hf
  · rw [heq]
    exact ⟨fun z' => by by_cases hz : z' = z <;> simp [hz], fun _ => rfl⟩

/-- **A failed `vdo_allocate_block` changes no count**: every allocator's
`allocated_blocks` and every slab's free block count are as they were. -/
theorem vdoAllocateBlock_failure {d : SlabDepot} {z : Nat} {first second : SearchOutcome}
    {r : Status × SlabDepot} (hr : vdoAllocateBlock d z first second = some r)
    (hf : r.1 ≠ .success) :
    (∀ z', (r.2.allocators z').allocatedBlocks = (d.allocators z').allocatedBlocks) ∧
      ∀ m, (r.2.slabs m).freeBlocks = (d.slabs m).freeBlocks := by
  rcases vdoAllocateBlock_cases hr with ⟨-, hr⟩ | ⟨n, -, ⟨-, rfl⟩ | ⟨-, hr⟩⟩
  · exact openNextSlab_failure hr hf
  · rcases allocateSlabBlock_spec d n first with ⟨hs, -⟩ | ⟨-, heq, -⟩
    · exact absurd hs hf
    · rw [heq]; exact ⟨fun _ => rfl, fun _ => rfl⟩
  · obtain ⟨h1, h2⟩ := openNextSlab_failure hr hf
    exact ⟨fun z' => by rw [h1, prioritizeSlab_allocatedBlocks],
      fun m => by rw [h2, prioritizeSlab_freeBlocks]⟩

/-- A recorded priority is `0` exactly for a full slab. -/
theorem SlabDepot.PriorityRecorded.priority_eq_zero_iff {d : SlabDepot} {slab : VdoSlab}
    (h : d.PriorityRecorded slab) : slab.priority = 0 ↔ slab.freeBlocks = 0 := by
  have hU := unopenedSlabPriority_pos d.dataBlocks
  rcases h with h | ⟨-, hF, h⟩
  · rw [h]; exact calculateSlabPriority_eq_zero_iff _ _ hU
  · simp only [h, hF, iff_false]; unfold SlabDepot.unopened; omega

namespace Placed

variable {d : SlabDepot} {z n : Nat}

/-- Allocating from the open slab keeps the allocator's slabs in place. -/
theorem allocateSlabBlock (h : Placed d z []) (ho : (d.allocators z).openSlab = some n)
    (search : SearchOutcome) : Placed (Kvdo.allocateSlabBlock d n search).2 z [] := by
  obtain ⟨hn, hnt⟩ := h.openSlab n ho
  have hs := h.slabs n hn (List.not_mem_nil n)
  rcases allocateSlabBlock_open search (by rwa [hn.2]) with heq | ⟨-, heq⟩ <;> rw [heq]
  · exact h
  · refine (h.updateSlab n _ rfl fun _ _ => ⟨fun e he hen => absurd (List.mem_map.2 ⟨e, he, hen⟩) hnt,
      fun _ => ⟨(hs.openSlab ho).1, (Nat.sub_le _ _).trans (hs.openSlab ho).2⟩, hs.scrubbing,
      fun hdet => absurd ho hdet.2.1⟩).updateCount _
      (fun a => { a with allocatedBlocks := a.allocatedBlocks + 1 }) fun _ => rfl

/-- Giving the open slab up leaves it detached and pending. -/
theorem withoutOpenSlab (h : Placed d z []) (ho : (d.allocators z).openSlab = some n) :
    Placed (d.withoutOpenSlab z) z [n] ∧ (d.withoutOpenSlab z).Detached z n := by
  obtain ⟨hn, hnt⟩ := h.openSlab n ho
  have hs := h.slabs n hn (List.not_mem_nil n)
  have hT : ((d.withoutOpenSlab z).allocators z).prioritizedSlabs =
      (d.allocators z).prioritizedSlabs := by simp [SlabDepot.withoutOpenSlab]
  have hts : ((d.withoutOpenSlab z).allocators z).tableSlabs = (d.allocators z).tableSlabs := by
    simp [SlabDepot.withoutOpenSlab, BlockAllocator.tableSlabs]
  have hO : ((d.withoutOpenSlab z).allocators z).openSlab = none := by
    simp [SlabDepot.withoutOpenSlab]
  have hsc : ((d.withoutOpenSlab z).allocators z).scrubbing = (d.allocators z).scrubbing := by
    simp [SlabDepot.withoutOpenSlab, BlockAllocator.scrubbing]
  have hQ : ((d.withoutOpenSlab z).allocators z).quiescent = (d.allocators z).quiescent := by
    simp [SlabDepot.withoutOpenSlab]
  have hq := h.not_quiescent (.inl (by simp [ho]))
  have hns : n ∉ (d.allocators z).scrubbing := fun h' => by
    simpa [(hs.openSlab ho).1] using hs.scrubbing h'
  refine ⟨⟨hts ▸ h.tableOwned, hts ▸ h.tableNodup, by simp [hO], hsc ▸ h.scrubbingOwned,
    hsc ▸ h.scrubbingNodup, by simp [hQ, hq], fun m hm hp => ?_⟩, hts ▸ hnt, by simp [hO],
    hsc ▸ hns⟩
  have hmn : m ≠ n := by simpa using hp
  exact (h.slabs m hm (List.not_mem_nil m)).transfer (fun _ _ => by rw [hT])
    (by simp [hO, ho, Ne.symm hmn]) (by rw [hsc]) hQ rfl id

/-- An open slab given up for lack of space goes back on the table. -/
theorem closeOpenSlab (h : Placed d z []) (ho : (d.allocators z).openSlab = some n) :
    Placed ((Kvdo.prioritizeSlab d n).withoutOpenSlab z) z [] := by
  obtain ⟨hn, -⟩ := h.openSlab n ho
  obtain ⟨h', hdet⟩ := h.withoutOpenSlab ho
  have hs := (h.slabs n hn (List.not_mem_nil n)).openSlab ho
  have hq : ((d.withoutOpenSlab z).allocators z).quiescent = false := by
    simpa [SlabDepot.withoutOpenSlab] using h.not_quiescent (.inl (by simp [ho]))
  have h'' := h'.prioritizeSlab hn hdet hq hs.1 hs.2
  obtain ⟨-, hz⟩ := hn
  subst hz
  rwa [prioritizeSlab_withoutOpenSlab] at h''

/-- Opening the highest slab of the table: it leaves the table and becomes the open slab. -/
theorem dequeue (h : Placed d z []) (hopen : (d.allocators z).openSlab = none)
    {rest : List (Nat × Nat)}
    (hdq : priorityTableDequeue (d.allocators z).prioritizedSlabs = some (n, rest)) :
    Placed (d.updateAllocator z fun a => { a with prioritizedSlabs := rest, openSlab := some n })
      z [] := by
  set d' := d.updateAllocator z fun a => { a with prioritizedSlabs := rest, openSlab := some n }
  have hT : (d'.allocators z).prioritizedSlabs = rest := by simp [d']
  have hO : (d'.allocators z).openSlab = some n := by simp [d']
  have hsc : (d'.allocators z).scrubbing = (d.allocators z).scrubbing := by
    simp [d', BlockAllocator.scrubbing]
  have hQ : (d'.allocators z).quiescent = (d.allocators z).quiescent := by simp [d']
  have hperm := (priorityTableDequeue_spec hdq).1
  have hmem : (topPriority (d.allocators z).prioritizedSlabs, n) ∈
      (d.allocators z).prioritizedSlabs := hperm.mem_iff.2 (List.mem_cons_self _ _)
  have hnd : n ∉ rest.map Prod.snd ∧ (rest.map Prod.snd).Nodup := by
    simpa using (hperm.map Prod.snd).nodup_iff.1 h.tableNodup
  have hn := h.tableOwned n (List.mem_map.2 ⟨_, hmem, rfl⟩)
  obtain ⟨-, hr, hv, -⟩ := (h.slabs n hn (List.not_mem_nil n)).table _ hmem rfl
  have hrest : ∀ e ∈ rest, e ∈ (d.allocators z).prioritizedSlabs := fun e he =>
    hperm.mem_iff.2 (List.mem_cons_of_mem _ he)
  have hq := h.not_quiescent (.inr (.inl (List.ne_nil_of_mem hmem)))
  refine ⟨fun m hm => ?_, by simpa [BlockAllocator.tableSlabs, hT] using hnd.2, fun m hm => ?_,
    hsc ▸ h.scrubbingOwned, hsc ▸ h.scrubbingNodup, by simp [hQ, hq], fun m hm _ => ?_⟩
  · simp only [BlockAllocator.tableSlabs, hT, List.mem_map] at hm
    obtain ⟨e, he, rfl⟩ := hm
    exact h.tableOwned _ (List.mem_map.2 ⟨e, hrest e he, rfl⟩)
  · rw [hO] at hm; cases hm
    exact ⟨hn, by simpa [BlockAllocator.tableSlabs, hT] using hnd.1⟩
  · have hs := h.slabs m hm (List.not_mem_nil m)
    by_cases hmn : m = n
    · subst hmn
      refine ⟨fun e he hen => absurd (List.mem_map.2 ⟨e, hT ▸ he, hen⟩) hnd.1,
        fun _ => ⟨hr, hv⟩, fun hs' => absurd (hs.scrubbing (hsc ▸ hs')) (by simp [hr]),
        fun hdet => absurd hO hdet.2.1⟩
    · refine hs.transfer (fun e hem => ?_) (by simp [hO, hopen, Ne.symm hmn]) (by rw [hsc]) hQ
        rfl id
      rw [hT, hperm.mem_iff, List.mem_cons]
      exact ⟨.inr, fun h' => h'.resolve_left fun he => hmn (hem ▸ he ▸ rfl)⟩

/-- Opening the next slab and allocating from it, from an allocator whose open slab is
given up. -/
theorem openNextSlab (h : Placed (d.withoutOpenSlab z) z []) {search : SearchOutcome}
    {r : Status × SlabDepot} (hr : Kvdo.openNextSlab d z search = some r) : Placed r.2 z [] := by
  rw [← openNextSlab_withoutOpenSlab] at hr
  obtain ⟨m, rest, hdq, rfl⟩ := openNextSlab_eq_some hr
  exact (h.dequeue (by simp [SlabDepot.withoutOpenSlab]) hdq).allocateSlabBlock (by simp) search

/-- **`vdo_allocate_block` keeps the allocator's slabs in place.** -/
theorem vdoAllocateBlock (h : Placed d z []) {first second : SearchOutcome}
    {r : Status × SlabDepot} (hr : Kvdo.vdoAllocateBlock d z first second = some r) :
    Placed r.2 z [] := by
  rcases vdoAllocateBlock_cases hr with ⟨ho, hr⟩ | ⟨n, ho, ⟨-, rfl⟩ | ⟨-, hr⟩⟩
  · exact Placed.openNextSlab (by rwa [SlabDepot.withoutOpenSlab_eq_self ho]) hr
  · exact h.allocateSlabBlock ho first
  · exact Placed.openNextSlab (h.closeOpenSlab ho) hr

/-- The entries of a placed table name their slab's priority, which it recorded. -/
theorem table_entry (h : Placed d z []) {e : Nat × Nat}
    (he : e ∈ (d.allocators z).prioritizedSlabs) :
    e.1 = (d.slabs e.2).priority ∧ d.PriorityRecorded (d.slabs e.2) := by
  obtain ⟨h1, -, -, h4⟩ := (h.slabs e.2 (h.tableOwned _ (List.mem_map.2 ⟨e, he, rfl⟩))
    (List.not_mem_nil _)).table e he rfl
  exact ⟨h1, h4⟩

/-- From a placed allocator with an open slab or a slab on its table,
`vdo_allocate_block` never dequeues from an empty table. -/
theorem vdoAllocateBlock_isSome (h : Placed d z [])
    (hne : (d.allocators z).openSlab ≠ none ∨ (d.allocators z).prioritizedSlabs ≠ [])
    (first second : SearchOutcome) : (Kvdo.vdoAllocateBlock d z first second).isSome := by
  unfold Kvdo.vdoAllocateBlock
  split
  · next n ho =>
    split
    · next d' heq =>
      rw [allocateSlabBlock_noSpace heq]
      exact openNextSlab_isSome second
        (by simp [Kvdo.prioritizeSlab, (h.openSlab n ho).1.2, priorityTableEnqueue])
    · rfl
  · next ho => exact openNextSlab_isSome second (hne.resolve_left (by simp [ho]))

/-- The slab opened next had the highest recorded priority on the table. -/
theorem openNextSlab_highest (h : Placed (d.withoutOpenSlab z) z []) {search : SearchOutcome}
    {r : Status × SlabDepot} (hr : Kvdo.openNextSlab d z search = some r) :
    ∃ m, (r.2.allocators z).openSlab = some m ∧
      ∀ m' ∈ (r.2.allocators z).tableSlabs, (r.2.slabs m').priority ≤ (r.2.slabs m).priority := by
  rw [← openNextSlab_withoutOpenSlab] at hr
  obtain ⟨m, rest, hdq, rfl⟩ := openNextSlab_eq_some hr
  obtain ⟨hperm, hle⟩ := priorityTableDequeue_spec hdq
  have hmem := hperm.mem_iff.2 (List.mem_cons_self _ rest)
  have hz := (h.tableOwned m (List.mem_map.2 ⟨_, hmem, rfl⟩)).2
  have hlists := allocateSlabBlock_open_lists ((d.withoutOpenSlab z).updateAllocator z fun a =>
    { a with prioritizedSlabs := rest, openSlab := some m }) m search (by simp [hz]) z
  refine ⟨m, by simp [allocateSlabBlock_openSlab], fun m' hm' => ?_⟩
  simp only [BlockAllocator.tableSlabs, (hlists 0).1, SlabDepot.updateAllocator_allocators,
    if_pos rfl, List.mem_map] at hm'
  obtain ⟨e, he, rfl⟩ := hm'
  rw [(hlists e.2).2, (hlists m).2]
  simp only [SlabDepot.updateAllocator_slabs]
  rw [← (h.table_entry (hperm.mem_iff.2 (List.mem_cons_of_mem _ he))).1, ← (h.table_entry hmem).1]
  exact hle e he

/-- After opening the next slab, a search that fails with `VDO_NO_SPACE` on the slab just
opened, with its cursor reset, means every slab of the allocator is full. -/
theorem openNextSlab_noSpace (h : Placed (d.withoutOpenSlab z) z []) {search : SearchOutcome}
    {r : Status × SlabDepot} (hr : Kvdo.openNextSlab d z search = some r)
    (hs : search ≠ .ranOffEnd) (hno : r.1 = .noSpace) :
    (∀ m ∈ (r.2.allocators z).tableSlabs, (r.2.slabs m).freeBlocks = 0) ∧
      ∀ m, (r.2.allocators z).openSlab = some m → (r.2.slabs m).freeBlocks = 0 := by
  rw [← openNextSlab_withoutOpenSlab] at hr
  obtain ⟨m, rest, hdq, rfl⟩ := openNextSlab_eq_some hr
  obtain ⟨hperm, hle⟩ := priorityTableDequeue_spec hdq
  have hmem := hperm.mem_iff.2 (List.mem_cons_self _ rest)
  rcases allocateSlabBlock_spec ((d.withoutOpenSlab z).updateAllocator z fun a =>
    { a with prioritizedSlabs := rest, openSlab := some m }) m search with
    ⟨hsucc, -⟩ | ⟨-, heq, hiff⟩
  · rw [hsucc] at hno; cases hno
  have hF : ((d.withoutOpenSlab z).slabs m).freeBlocks = 0 := ((hiff.1 hno).resolve_left hs).2
  have htop : topPriority ((d.withoutOpenSlab z).allocators z).prioritizedSlabs = 0 := by
    obtain ⟨h1, h2⟩ := h.table_entry hmem
    exact h1.trans (h2.priority_eq_zero_iff.2 hF)
  rw [heq]
  refine ⟨fun m' hm' => ?_, fun m' hm' => ?_⟩
  · simp only [SlabDepot.updateAllocator_allocators, if_pos rfl, BlockAllocator.tableSlabs,
      List.mem_map] at hm'
    obtain ⟨e, he, rfl⟩ := hm'
    obtain ⟨h1, h2⟩ := h.table_entry (hperm.mem_iff.2 (List.mem_cons_of_mem _ he))
    exact h2.priority_eq_zero_iff.1 (by have := hle e he; omega)
  · simp at hm'
    subst hm'; exact hF

/-- **`VDO_NO_SPACE` only when full.**  With the search in a freshly opened slab failing
with `VDO_NO_SPACE` only when that slab is full, `vdo_allocate_block` of a placed
allocator answers `VDO_NO_SPACE` only when every slab on its table and its open slab are
full. -/
theorem vdoAllocateBlock_noSpace (h : Placed d z []) {first second : SearchOutcome}
    {r : Status × SlabDepot} (hr : Kvdo.vdoAllocateBlock d z first second = some r)
    (hs : second ≠ .ranOffEnd) (hno : r.1 = .noSpace) :
    (∀ m ∈ (r.2.allocators z).tableSlabs, (r.2.slabs m).freeBlocks = 0) ∧
      ∀ m, (r.2.allocators z).openSlab = some m → (r.2.slabs m).freeBlocks = 0 := by
  rcases vdoAllocateBlock_cases hr with ⟨ho, hr⟩ | ⟨n, ho, ⟨hne, rfl⟩ | ⟨-, hr⟩⟩
  · exact Placed.openNextSlab_noSpace (by rwa [SlabDepot.withoutOpenSlab_eq_self ho]) hr hs hno
  · exact absurd hno hne
  · exact Placed.openNextSlab_noSpace (h.closeOpenSlab ho) hr hs hno

/-- Whenever `vdo_allocate_block` dequeues (no open slab, or the open slab answered
`VDO_NO_SPACE`), the slab it opens had the highest recorded priority on the table. -/
theorem vdoAllocateBlock_highest (h : Placed d z []) {first second : SearchOutcome}
    {r : Status × SlabDepot} (hr : Kvdo.vdoAllocateBlock d z first second = some r)
    (hdq : (d.allocators z).openSlab = none ∨
      ∃ n, (d.allocators z).openSlab = some n ∧ (Kvdo.allocateSlabBlock d n first).1 = .noSpace) :
    ∃ m, (r.2.allocators z).openSlab = some m ∧
      ∀ m' ∈ (r.2.allocators z).tableSlabs, (r.2.slabs m').priority ≤ (r.2.slabs m).priority := by
  rcases vdoAllocateBlock_cases hr with ⟨ho, hr⟩ | ⟨n, ho, ⟨hne, rfl⟩ | ⟨-, hr⟩⟩
  · exact Placed.openNextSlab_highest (by rwa [SlabDepot.withoutOpenSlab_eq_self ho]) hr
  · rcases hdq with hdq | ⟨n', hn', hno⟩
    · rw [ho] at hdq; cases hdq
    · rw [ho, Option.some.injEq] at hn'; subst hn'; exact absurd hno hne
  · exact Placed.openNextSlab_highest (h.closeOpenSlab ho) hr

end Placed

end Kvdo
