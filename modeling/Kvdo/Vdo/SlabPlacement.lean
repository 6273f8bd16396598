/-
# Where each slab is

A slab of allocator `z` is linked into at most one list by its `allocq_entry`: a bucket
of `z`'s priority table or one of the scrubber's lists.  Or it is `z`'s `open_slab`, or
it is on no list: detached by `apply_to_slabs` while the allocator drains or resumes,
or after `vdo_queue_slab` refused a free block count above the slab size.

`Placed d z pending` says this of allocator `z` in two layers: what its lists are
(owned slabs, each at most once, the open slab off the table, nothing while quiescent),
and `SlabPlaced`, what each slab's record must be for where the lists put it.  A slab on
the table sits in the bucket of its `priority` field, recovered, with a valid free block
count and the priority `calculate_slab_priority` gave it when it was last prioritized.
The slabs in `pending` are exempt from the second layer: a loop over the allocator's
slabs has not reached them yet, or an operation is midway through moving them.

Each list operation of `block-allocator.c` gets one lemma here; the operations of a run
are composed from them in `Kvdo.Vdo.AllocatorInvariant`.
-/

import Kvdo.Vdo.AllocatorRuns

namespace Kvdo

namespace SlabDepot

/-- The slab's `priority` is what `calculate_slab_priority` gave it when it was last
prioritized: its current priority, or the unopened priority of a slab whose journal has
since taken its first entry. -/
def PriorityRecorded (d : SlabDepot) (slab : VdoSlab) : Prop :=
  slab.priority = calculateSlabPriority d.unopened slab ∨
    (slab.journalBlank = false ∧ slab.freeBlocks ≠ 0 ∧ slab.priority = d.unopened)

/-- Slab `n` is on none of allocator `z`'s lists and is not its open slab. -/
def Detached (d : SlabDepot) (z n : Nat) : Prop :=
  n ∉ (d.allocators z).tableSlabs ∧ (d.allocators z).openSlab ≠ some n ∧
    n ∉ (d.allocators z).scrubbing

/-- What the record `slab` of slab `n` of allocator `z` must be for where the allocator's
lists put `n`. -/
structure SlabPlaced (d : SlabDepot) (z n : Nat) (slab : VdoSlab) : Prop where
  table : ∀ e ∈ (d.allocators z).prioritizedSlabs, e.2 = n →
    e.1 = slab.priority ∧ slab.unrecovered = false ∧ slab.freeBlocks ≤ d.dataBlocks ∧
      d.PriorityRecorded slab
  openSlab : (d.allocators z).openSlab = some n →
    slab.unrecovered = false ∧ slab.freeBlocks ≤ d.dataBlocks
  scrubbing : n ∈ (d.allocators z).scrubbing → slab.unrecovered = true
  detached : d.Detached z n → (d.allocators z).quiescent = true ∨
    (d.dataBlocks < slab.freeBlocks ∧ d.readOnly = true)

theorem Detached.transfer {d d' : SlabDepot} {z n : Nat} (h : d.Detached z n)
    (hT : n ∈ (d'.allocators z).tableSlabs → n ∈ (d.allocators z).tableSlabs)
    (hO : (d'.allocators z).openSlab = some n → (d.allocators z).openSlab = some n)
    (hS : n ∈ (d'.allocators z).scrubbing → n ∈ (d.allocators z).scrubbing) :
    d'.Detached z n :=
  ⟨fun h' => h.1 (hT h'), fun h' => h.2.1 (hO h'), fun h' => h.2.2 (hS h')⟩

/-- A slab record stays placed while its slab's table entries, open slab and scrubber
membership, the slab size and the admin state stay, and read-only mode is not left. -/
theorem SlabPlaced.transfer {d d' : SlabDepot} {z n : Nat} {slab : VdoSlab}
    (h : d.SlabPlaced z n slab)
    (hT : ∀ e : Nat × Nat, e.2 = n →
      (e ∈ (d'.allocators z).prioritizedSlabs ↔ e ∈ (d.allocators z).prioritizedSlabs))
    (hO : (d'.allocators z).openSlab = some n ↔ (d.allocators z).openSlab = some n)
    (hS : n ∈ (d'.allocators z).scrubbing ↔ n ∈ (d.allocators z).scrubbing)
    (hQ : (d'.allocators z).quiescent = (d.allocators z).quiescent)
    (hD : d'.dataBlocks = d.dataBlocks) (hro : d.readOnly = true → d'.readOnly = true) :
    d'.SlabPlaced z n slab := by
  have hts : n ∈ (d'.allocators z).tableSlabs ↔ n ∈ (d.allocators z).tableSlabs := by
    simp only [BlockAllocator.tableSlabs, List.mem_map]
    exact ⟨fun ⟨e, he, hn⟩ => ⟨e, (hT e hn).1 he, hn⟩, fun ⟨e, he, hn⟩ => ⟨e, (hT e hn).2 he, hn⟩⟩
  have hrec : d'.PriorityRecorded slab ↔ d.PriorityRecorded slab := by
    simp only [PriorityRecorded, unopened, hD]
  refine ⟨fun e he hn => ?_, fun ho => ?_, fun hs => h.scrubbing (hS.1 hs), fun hdet => ?_⟩
  · obtain ⟨h1, h2, h3, h4⟩ := h.table e ((hT e hn).1 he) hn
    exact ⟨h1, h2, hD ▸ h3, hrec.2 h4⟩
  · obtain ⟨h1, h2⟩ := h.openSlab (hO.1 ho)
    exact ⟨h1, hD ▸ h2⟩
  · rcases h.detached (hdet.transfer hts.2 hO.2 hS.2) with hq | ⟨hF, hr⟩
    · exact .inl (hQ ▸ hq)
    · exact .inr ⟨hD ▸ hF, hro hr⟩

/-- A slab record stays placed in a depot with the same allocator, slab size and
read-only mode. -/
theorem SlabPlaced.congr {d d' : SlabDepot} {z n : Nat} {slab : VdoSlab}
    (h : d.SlabPlaced z n slab) (hA : d'.allocators z = d.allocators z)
    (hD : d'.dataBlocks = d.dataBlocks) (hro : d.readOnly = true → d'.readOnly = true) :
    d'.SlabPlaced z n slab :=
  h.transfer (fun _ _ => by rw [hA]) (by rw [hA]) (by rw [hA]) (by rw [hA]) hD hro

/-- A first journal entry keeps a recorded priority recorded. -/
theorem PriorityRecorded.journalEntry {d : SlabDepot} {slab : VdoSlab}
    (h : d.PriorityRecorded slab) : d.PriorityRecorded { slab with journalBlank := false } := by
  rcases h with h | h
  · by_cases hF : slab.freeBlocks = 0
    · exact .inl (by simpa [calculateSlabPriority, hF] using h)
    · cases hb : slab.journalBlank
      · exact .inl (by simpa [calculateSlabPriority, hb] using h)
      · exact .inr ⟨rfl, hF, by simpa [calculateSlabPriority, hF, hb] using h⟩
  · exact .inr ⟨rfl, h.2⟩

/-- A first journal entry keeps a slab record placed, wherever the slab is. -/
theorem SlabPlaced.journalEntry {d : SlabDepot} {z n : Nat} {slab : VdoSlab}
    (h : d.SlabPlaced z n slab) : d.SlabPlaced z n { slab with journalBlank := false } :=
  ⟨fun e he hen => let ⟨h1, h2, h3, h4⟩ := h.table e he hen; ⟨h1, h2, h3, h4.journalEntry⟩,
    h.openSlab, h.scrubbing, h.detached⟩

/-- `vdo_queue_slab` of another slab leaves a detached slab detached. -/
theorem Detached.vdoQueueSlab {d : SlabDepot} {z m n : Nat} (h : d.Detached z m) (hmn : m ≠ n)
    (resuming : Bool) : (Kvdo.vdoQueueSlab d n resuming).Detached z m :=
  h.transfer (fun h' => (vdoQueueSlab_tableSlabs d n resuming h').resolve_right hmn)
    (by simp) (fun h' => (vdoQueueSlab_scrubbing d n resuming h').resolve_right hmn)

end SlabDepot

/-- Allocator `z`'s lists hold only its own slabs, each at most once, the open slab is
off the table, a quiescent allocator holds nothing, and every slab not `pending` has the
record its place asks for. -/
structure Placed (d : SlabDepot) (z : Nat) (pending : List Nat) : Prop where
  tableOwned : ∀ n ∈ (d.allocators z).tableSlabs, d.owns z n
  tableNodup : (d.allocators z).tableSlabs.Nodup
  openSlab : ∀ n, (d.allocators z).openSlab = some n →
    d.owns z n ∧ n ∉ (d.allocators z).tableSlabs
  scrubbingOwned : ∀ n ∈ (d.allocators z).scrubbing, d.owns z n
  scrubbingNodup : (d.allocators z).scrubbing.Nodup
  quiescent : (d.allocators z).quiescent = true → (d.allocators z).prioritizedSlabs = [] ∧
    (d.allocators z).openSlab = none ∧ (d.allocators z).scrubbing = []
  slabs : ∀ n, d.owns z n → n ∉ pending → d.SlabPlaced z n (d.slabs n)

namespace Placed

variable {d : SlabDepot} {z n : Nat} {p : List Nat}

/-- Any slab may be set aside as pending. -/
theorem cons (h : Placed d z p) (n : Nat) : Placed d z (n :: p) :=
  { h with slabs := fun m hm hp => h.slabs m hm fun h' => hp (List.mem_cons_of_mem _ h') }

/-- A pending slab whose record fits its place is pending no more. -/
theorem settle (h : Placed d z (n :: p)) (hn : d.owns z n → d.SlabPlaced z n (d.slabs n)) :
    Placed d z p :=
  { h with
    slabs := fun m hm hp => by
      by_cases hmn : m = n
      · subst hmn; exact hn hm
      · exact h.slabs m hm (by simp [hmn, hp]) }

/-- A quiescent allocator holding nothing has every slab in place. -/
theorem of_quiescent (hq : (d.allocators z).quiescent = true)
    (hT : (d.allocators z).prioritizedSlabs = []) (hO : (d.allocators z).openSlab = none)
    (hS : (d.allocators z).scrubbing = []) : Placed d z p :=
  ⟨by simp [BlockAllocator.tableSlabs, hT], by simp [BlockAllocator.tableSlabs, hT],
    by simp [hO], by simp [hS], by simp [hS], fun _ => ⟨hT, hO, hS⟩,
    fun _ _ _ => ⟨by simp [hT], by simp [hO], by simp [hS], fun _ => .inl hq⟩⟩

/-- A slab held by the scrubber is neither on the table nor open. -/
theorem scrubbing_detached (h : Placed d z []) (hn : n ∈ (d.allocators z).scrubbing) :
    n ∉ (d.allocators z).tableSlabs ∧ (d.allocators z).openSlab ≠ some n := by
  have hs := h.slabs n (h.scrubbingOwned n hn) (List.not_mem_nil n)
  have hu := hs.scrubbing hn
  refine ⟨fun ht => ?_, fun ho => ?_⟩
  · obtain ⟨e, he, hen⟩ := List.mem_map.1 ht
    simp [(hs.table e he hen).2.1] at hu
  · simp [(hs.openSlab ho).1] at hu

/-- An allocator holding a slab is not quiescent. -/
theorem not_quiescent (h : Placed d z p) (hne : (d.allocators z).openSlab ≠ none ∨
    (d.allocators z).prioritizedSlabs ≠ [] ∨ (d.allocators z).scrubbing ≠ []) :
    (d.allocators z).quiescent = false := by
  cases hq : (d.allocators z).quiescent
  · rfl
  · obtain ⟨h1, h2, h3⟩ := h.quiescent hq
    simp [h1, h2, h3] at hne

/-- **Frame.**  What keeps allocator `z`'s lists, its slabs, the slab size and ownership,
and never leaves read-only mode, keeps `z`'s slabs in place. -/
theorem frame {d' : SlabDepot} (h : Placed d z p)
    (hA : (d'.allocators z).withoutCount = (d.allocators z).withoutCount)
    (hS : ∀ m, d.owns z m → d'.slabs m = d.slabs m)
    (hown : ∀ m, d'.owns z m ↔ d.owns z m) (hD : d'.dataBlocks = d.dataBlocks)
    (hro : d.readOnly = true → d'.readOnly = true) : Placed d' z p := by
  simp only [BlockAllocator.withoutCount, BlockAllocator.mk.injEq] at hA
  obtain ⟨hT, hO, -, -, -, hH, hN, hQ⟩ := hA
  have hts : (d'.allocators z).tableSlabs = (d.allocators z).tableSlabs := by
    simp [BlockAllocator.tableSlabs, hT]
  have hsc : (d'.allocators z).scrubbing = (d.allocators z).scrubbing := by
    simp [BlockAllocator.scrubbing, hH, hN]
  refine ⟨fun m hm => (hown m).2 (h.tableOwned m (hts ▸ hm)), hts ▸ h.tableNodup,
    fun m hm => ?_, fun m hm => (hown m).2 (h.scrubbingOwned m (hsc ▸ hm)),
    hsc ▸ h.scrubbingNodup, fun hq => ?_, fun m hm hp => ?_⟩
  · obtain ⟨h1, h2⟩ := h.openSlab m (hO ▸ hm)
    exact ⟨(hown m).2 h1, hts ▸ h2⟩
  · rw [hT, hO, hsc]; exact h.quiescent (hQ ▸ hq)
  · rw [hS m ((hown m).1 hm)]
    exact (h.slabs m ((hown m).1 hm) hp).transfer (fun e _ => by rw [hT]) (by rw [hO])
      (by rw [hsc]) hQ hD hro

/-- Changing only an allocator's counters keeps every allocator's slabs in place. -/
theorem updateCount (h : Placed d z p) (z' : Nat) (f : BlockAllocator → BlockAllocator)
    (hf : ∀ a, (f a).withoutCount = a.withoutCount) : Placed (d.updateAllocator z' f) z p := by
  refine h.frame ?_ (fun _ _ => rfl) (fun _ => Iff.rfl) rfl id
  rw [SlabDepot.updateAllocator_allocators]
  split_ifs with hz
  · rw [hz, hf]
  · rfl

/-- Changing one slab's record, not its allocator, keeps the allocator's slabs in place
when the new record fits the slab's place, or the slab is pending. -/
theorem updateSlab (h : Placed d z p) (n : Nat) (f : VdoSlab → VdoSlab)
    (hf : (f (d.slabs n)).allocator = (d.slabs n).allocator)
    (hn : d.owns z n → n ∉ p → d.SlabPlaced z n (f (d.slabs n))) :
    Placed (d.updateSlab n f) z p := by
  have hown := SlabDepot.updateSlab_owns hf z
  refine ⟨fun m hm => (hown m).2 (h.tableOwned m hm), h.tableNodup,
    fun m hm => ⟨(hown m).2 (h.openSlab m hm).1, (h.openSlab m hm).2⟩,
    fun m hm => (hown m).2 (h.scrubbingOwned m hm), h.scrubbingNodup, h.quiescent,
    fun m hm hp => ?_⟩
  rw [SlabDepot.updateSlab_slabs]
  split_ifs with hmn
  · subst hmn; exact (hn ((hown m).1 hm) hp).congr rfl rfl id
  · exact (h.slabs m ((hown m).1 hm) hp).congr rfl rfl id

/-- `priority_table_enqueue` of a detached slab that is ready, at its priority. -/
theorem enqueue (h : Placed d z (n :: p)) (hn : d.owns z n) (hdet : d.Detached z n)
    (hq : (d.allocators z).quiescent = false) (priority : Nat)
    (hpr : (d.slabs n).priority = priority) (hr : (d.slabs n).unrecovered = false)
    (hv : (d.slabs n).freeBlocks ≤ d.dataBlocks) (hrec : d.PriorityRecorded (d.slabs n)) :
    Placed (d.updateAllocator z fun a =>
      { a with prioritizedSlabs := priorityTableEnqueue a.prioritizedSlabs priority n }) z p := by
  obtain ⟨hT, hO, hS⟩ := hdet
  set d' := d.updateAllocator z fun a =>
    { a with prioritizedSlabs := priorityTableEnqueue a.prioritizedSlabs priority n }
  have hA : d'.allocators z = { d.allocators z with
      prioritizedSlabs := (d.allocators z).prioritizedSlabs ++ [(priority, n)] } := by
    simp [d', priorityTableEnqueue]
  have hts : (d'.allocators z).tableSlabs = (d.allocators z).tableSlabs ++ [n] := by
    simp [hA, BlockAllocator.tableSlabs]
  have hsc : (d'.allocators z).scrubbing = (d.allocators z).scrubbing := by rw [hA]; rfl
  have hO' : (d'.allocators z).openSlab = (d.allocators z).openSlab := by rw [hA]
  have hQ : (d'.allocators z).quiescent = (d.allocators z).quiescent := by rw [hA]
  refine ⟨fun m hm => ?_, ?_, fun m hm => ?_, fun m hm => h.scrubbingOwned m (hsc ▸ hm),
    hsc ▸ h.scrubbingNodup, fun hq' => absurd (hQ ▸ hq') (by simp [hq]), fun m hm hp => ?_⟩
  · rw [hts, List.mem_append, List.mem_singleton] at hm
    rcases hm with hm | rfl
    exacts [h.tableOwned m hm, hn]
  · rw [hts]; exact List.nodup_append.2 ⟨h.tableNodup, List.nodup_singleton n,
      List.disjoint_singleton.2 hT⟩
  · rw [hO'] at hm
    have hmn : m ≠ n := fun h' => hO (h' ▸ hm)
    rw [hts]; simpa [hmn] using h.openSlab m hm
  · by_cases hmn : m = n
    · subst hmn
      refine ⟨fun e he hen => ?_, fun ho => absurd (hO' ▸ ho) hO,
        fun hs => absurd (hsc ▸ hs) hS, fun hdet => absurd (by simp [hts]) hdet.1⟩
      rw [hA, List.mem_append] at he
      rcases he with he | he
      · exact absurd (List.mem_map.2 ⟨e, he, hen⟩) hT
      · rw [List.mem_singleton.1 he]; exact ⟨hpr.symm, hr, hv, hrec⟩
    · refine (h.slabs m hm (by simp [hmn, hp])).transfer (fun e hem => ?_) (by rw [hO'])
        (by rw [hsc]) hQ rfl id
      rw [hA, List.mem_append, List.mem_singleton]
      exact ⟨fun h' => h'.resolve_right fun he => hmn (hem ▸ he ▸ rfl), .inl⟩

/-- `priority_table_remove` takes a pending slab off the table. -/
theorem remove (h : Placed d z (n :: p)) :
    Placed (d.updateAllocator z fun a =>
      { a with prioritizedSlabs := priorityTableRemove a.prioritizedSlabs n }) z (n :: p) := by
  set d' := d.updateAllocator z fun a =>
    { a with prioritizedSlabs := priorityTableRemove a.prioritizedSlabs n }
  have hT : (d'.allocators z).prioritizedSlabs =
      (d.allocators z).prioritizedSlabs.filter fun e => e.2 ≠ n := by
    simp [d', priorityTableRemove]
  have hsub : (d'.allocators z).tableSlabs.Sublist (d.allocators z).tableSlabs := by
    rw [BlockAllocator.tableSlabs, hT]; exact (List.filter_sublist _).map _
  have hsc : (d'.allocators z).scrubbing = (d.allocators z).scrubbing := by
    simp [d', BlockAllocator.scrubbing]
  have hO : (d'.allocators z).openSlab = (d.allocators z).openSlab := by simp [d']
  have hQ : (d'.allocators z).quiescent = (d.allocators z).quiescent := by simp [d']
  refine ⟨fun m hm => h.tableOwned m (hsub.subset hm), hsub.nodup h.tableNodup, fun m hm => ?_,
    hsc ▸ h.scrubbingOwned, hsc ▸ h.scrubbingNodup, fun hq => ?_, fun m hm hp => ?_⟩
  · rw [hO] at hm
    exact ⟨(h.openSlab m hm).1, fun h' => (h.openSlab m hm).2 (hsub.subset h')⟩
  · obtain ⟨h1, h2, h3⟩ := h.quiescent (hQ ▸ hq)
    exact ⟨by rw [hT, h1]; rfl, hO ▸ h2, hsc ▸ h3⟩
  · have hmn : m ≠ n := fun h' => hp (h' ▸ List.mem_cons_self _ _)
    refine (h.slabs m hm hp).transfer (fun e hem => ?_) (by rw [hO]) (by rw [hsc]) hQ rfl id
    rw [hT, List.mem_filter]
    simp [hem, hmn]

/-- **`prioritize_slab`** of a detached slab that is recovered and valid puts it on its
allocator's table, in the bucket of the priority it now records. -/
theorem prioritizeSlab (h : Placed d z (n :: p)) (hn : d.owns z n) (hdet : d.Detached z n)
    (hq : (d.allocators z).quiescent = false) (hr : (d.slabs n).unrecovered = false)
    (hv : (d.slabs n).freeBlocks ≤ d.dataBlocks) : Placed (Kvdo.prioritizeSlab d n) z p := by
  have h1 := h.updateSlab n
    (fun slab => { slab with priority := calculateSlabPriority d.unopened (d.slabs n) })
    rfl fun _ hp => absurd (List.mem_cons_self n p) hp
  unfold Kvdo.prioritizeSlab
  rw [hn.2]
  exact h1.enqueue ((SlabDepot.updateSlab_owns rfl z n).2 hn) hdet hq _ (by simp)
    (by simpa using hr) (by simpa using hv) (.inl (by simp))

/-- `vdo_register_slab_for_scrubbing` of a detached unrecovered slab. -/
theorem registerForScrubbing (h : Placed d z (n :: p)) (hn : d.owns z n)
    (hdet : d.Detached z n) (hq : (d.allocators z).quiescent = false)
    (hu : (d.slabs n).unrecovered = true) (high : Bool) :
    Placed (vdoRegisterSlabForScrubbing d n high) z p := by
  obtain ⟨hT, hO, hS⟩ := hdet
  have hsc := vdoRegisterSlabForScrubbing_scrubbing d n high z
  rw [if_pos hn.2.symm] at hsc
  have hmem : ∀ m, m ∈ ((vdoRegisterSlabForScrubbing d n high).allocators z).scrubbing ↔
      m ∈ (d.allocators z).scrubbing ∨ m = n := fun m => by simp [hsc.mem_iff]
  refine ⟨?_, ?_, ?_, fun m hm => ?_, ?_, by simp [hq], fun m hm hp => ?_⟩
  · simpa [BlockAllocator.tableSlabs] using h.tableOwned
  · simpa [BlockAllocator.tableSlabs] using h.tableNodup
  · simpa [BlockAllocator.tableSlabs] using h.openSlab
  · rcases (hmem m).1 hm with hm | rfl
    exacts [h.scrubbingOwned m hm, hn]
  · exact hsc.nodup_iff.2 (List.nodup_append.2 ⟨h.scrubbingNodup, List.nodup_singleton n,
      by simpa using hS⟩)
  · by_cases hmn : m = n
    · subst hmn
      refine ⟨fun e he hen => absurd ?_ hT, fun ho => absurd (by simpa using ho) hO,
        fun _ => hu, fun hdet => absurd ((hmem m).2 (.inr rfl)) hdet.2.2⟩
      simp only [vdoRegisterSlabForScrubbing_prioritizedSlabs] at he
      exact List.mem_map.2 ⟨e, he, hen⟩
    · exact (h.slabs m hm (by simp [hmn, hp])).transfer (fun e _ => by simp) (by simp)
        (by simp [hmem, hmn]) (by simp) rfl id

/-- `vdo_queue_slab` refusing a free block count above the slab size leaves the slab
detached, and the depot read-only. -/
theorem reject (h : Placed d z (n :: p)) (hdet : d.Detached z n)
    (hF : d.dataBlocks < (d.slabs n).freeBlocks) : Placed { d with readOnly := true } z p := by
  have h' : Placed { d with readOnly := true } z (n :: p) :=
    h.frame rfl (fun _ _ => rfl) (fun _ => Iff.rfl) rfl fun _ => rfl
  exact h'.settle fun _ =>
    ⟨fun e he hen => absurd (List.mem_map.2 ⟨e, he, hen⟩) hdet.1, fun ho => absurd ho hdet.2.1,
      fun hs => absurd hs hdet.2.2, fun _ => .inr ⟨hF, rfl⟩⟩

/-- **`vdo_queue_slab`** of a detached slab of a running allocator places it: refused,
held by the scrubber, or on the table. -/
theorem vdoQueueSlab (h : Placed d z (n :: p)) (hn : d.owns z n) (hdet : d.Detached z n)
    (hq : (d.allocators z).quiescent = false) (resuming : Bool) :
    Placed (Kvdo.vdoQueueSlab d n resuming) z p := by
  dsimp only [Kvdo.vdoQueueSlab]
  by_cases hF : d.dataBlocks < (d.slabs n).freeBlocks
  · rw [if_pos hF]; exact h.reject hdet hF
  by_cases hu : (d.slabs n).unrecovered = true
  · rw [if_neg hF, if_pos hu]; exact h.registerForScrubbing hn hdet hq hu false
  rw [if_neg hF, if_neg hu]
  cases resuming
  · rw [if_neg Bool.false_ne_true, hn.2]
    refine (h.updateCount z (fun a => { a with
      allocatedBlocks := a.allocatedBlocks - (d.slabs n).freeBlocks }) fun _ => rfl).prioritizeSlab
      hn ?_ (by simpa using hq)
      (by simpa using hu) (by simpa using hF)
    simpa [SlabDepot.Detached, BlockAllocator.tableSlabs, BlockAllocator.scrubbing] using hdet
  · exact h.prioritizeSlab hn hdet hq (by simpa using hu) (by simpa using hF)

end Placed

end Kvdo
