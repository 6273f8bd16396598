/-
# The slab iterator and the registration of slabs

`get_slab_iterator` walks an allocator's slabs without a list of them: from the
allocator's `last_slab` down to its zone number, in steps of the zone count
(`vdo_iterate_slabs`, `vdo_next_slab`; `slab-iterator.h`, not in the sources).  The walk
finds the allocator's slabs only because of how they are registered: slab `i` belongs to
allocator `i % zone_count`, and `vdo_register_slab_with_allocator` counts a slab and makes
it `last_slab`, in increasing slab number, when the depot is decoded and when
`vdo_register_new_slabs_for_allocator` registers the slabs of a resize.

* the iterator's loop yields, given enough iterations, the slab numbers from `start` down
  to `end` that are congruent to `start` (`slabIteratorLoop_vdoIterateSlabs`);
* after slabs `0, …, m - 1` are registered, allocator `z` has counted its slabs
  `{i < m | i % Z = z}` and holds the largest of them, or `0` if it has none
  (`SlabDepot.Registered`);
* so the walk visits exactly those slabs, each once, highest first; `apply_to_slabs`
  unlinks exactly them and starts one slab action for each, which is what `detachSlabs`
  and `slabsOf` of the allocator model take it to do, and `get_data_block_count` and the
  read-only notification cover exactly them (`Registered.slabIteratorLoop`,
  `Registered.applyToSlabsLists`).
-/

import Kvdo.Vdo.AllocatorContracts

namespace Kvdo

/-! ## The iterator -/

/-- Modelled from the spec: a `struct slab_iterator` over the depot's slab array: the slab
it yields next, if any (`next`), the lowest slab number it may yield (`end`), and the
difference between the numbers of successive slabs (`stride`). -/
structure SlabIterator where
  next : Option Nat
  stop : Nat
  stride : Nat
  deriving DecidableEq, Repr

/-- Modelled from the spec: `vdo_iterate_slabs` starts at slab `start`, and yields nothing
when `start` is below `end`. -/
def vdoIterateSlabs (start stop stride : Nat) : SlabIterator :=
  ⟨if start < stop then none else some start, stop, stride⟩

/-- Modelled from the spec: `vdo_next_slab` returns `next` and moves `stride` slabs down,
ending the walk where that would pass `end`.  It returns a slab exactly when
`vdo_has_next_slab` holds. -/
def vdoNextSlab (it : SlabIterator) : Option Nat × SlabIterator :=
  match it.next with
  | none => (none, it)
  | some slab =>
    (some slab, { it with next := if slab < it.stop + it.stride then none else some (slab - it.stride) })

/-- The slabs a `while (vdo_has_next_slab(&iterator))` loop takes with `vdo_next_slab`, in
order, in at most `fuel` iterations. -/
def slabIteratorLoop : Nat → SlabIterator → List Nat
  | 0, _ => []
  | fuel + 1, it =>
    match vdoNextSlab it with
    | (some slab, it) => slab :: slabIteratorLoop fuel it
    | (none, _) => []

/-- The slab numbers from `start` down to `stop` in steps of `stride`: those between them
congruent to `start` modulo `stride`, highest first. -/
def stridedSlabs (start stop stride : Nat) : List Nat :=
  ((List.range (start + 1)).filter fun i => stop ≤ i ∧ i % stride = start % stride).reverse

/-- Two filtered ranges with the same members are the same list. -/
theorem filter_range_eq {a b : Nat} {p q : Nat → Bool} (h : ∀ i, i < a ∧ p i ↔ i < b ∧ q i) :
    (List.range a).filter p = (List.range b).filter q :=
  List.eq_of_perm_of_sorted
    ((List.perm_ext_iff_of_nodup ((List.nodup_range a).filter p) ((List.nodup_range b).filter q)).2
      fun i => by simpa using h i)
    ((List.pairwise_lt_range a).filter p) ((List.pairwise_lt_range b).filter q)

/-- A number below `start` and congruent to it lies a whole stride below it. -/
theorem add_stride_le {i start stride : Nat} (hi : i < start) (h : i % stride = start % stride) :
    i + stride ≤ start := by
  have h1 : (start - i) % stride = 0 := Nat.sub_mod_eq_zero_of_mod_eq h.symm
  have h2 : stride ≤ start - i := Nat.le_of_dvd (by omega) (Nat.dvd_of_mod_eq_zero h1)
  omega

theorem stridedSlabs_of_lt {start stop stride : Nat} (h : start < stop) :
    stridedSlabs start stop stride = [] := by
  simp only [stridedSlabs, List.reverse_eq_nil_iff, List.filter_eq_nil_iff, List.mem_range]
  intro i hi; simp; omega

/-- The walk from `start` is `start`, then the walk from a stride lower, unless that
passes `stop`. -/
theorem stridedSlabs_step {start stop stride : Nat} (hs : 0 < stride) (h : stop ≤ start) :
    stridedSlabs start stop stride =
      start :: if start < stop + stride then [] else stridedSlabs (start - stride) stop stride := by
  have hlow : (List.range start).filter (fun i => stop ≤ i ∧ i % stride = start % stride) =
      if start < stop + stride then [] else
        (List.range (start - stride + 1)).filter
          fun i => stop ≤ i ∧ i % stride = (start - stride) % stride := by
    split_ifs with hlt
    · rw [List.filter_eq_nil_iff]
      intro i hi
      simp only [decide_eq_true_eq, not_and]
      intro _ hmi; have := add_stride_le (List.mem_range.1 hi) hmi; omega
    · have hmod : (start - stride) % stride = start % stride := by
        conv_rhs => rw [← Nat.sub_add_cancel (show stride ≤ start by omega)]
        exact (Nat.add_mod_right _ _).symm
      rw [hmod]; refine filter_range_eq fun i => ?_
      simp only [decide_eq_true_eq]
      constructor
      · rintro ⟨hi, hsi, hmi⟩; have := add_stride_le hi hmi; omega
      · rintro ⟨hi, hsi, hmi⟩; exact ⟨by omega, hsi, hmi⟩
  rw [stridedSlabs, List.range_succ, List.filter_append, hlow]
  split_ifs <;> simp [stridedSlabs, h]

/-- **The iterator's loop walks from `start` down to `stop` in steps of `stride`**, and
`start + 1` iterations are enough for any positive stride. -/
theorem slabIteratorLoop_vdoIterateSlabs {stride : Nat} (hs : 0 < stride) :
    ∀ {start fuel : Nat}, start < fuel → ∀ stop,
      slabIteratorLoop fuel (vdoIterateSlabs start stop stride) = stridedSlabs start stop stride := by
  intro start
  induction start using Nat.strong_induction_on with
  | _ start ih =>
  intro fuel hf stop
  obtain ⟨fuel, rfl⟩ : ∃ f, fuel = f + 1 := ⟨fuel - 1, by omega⟩
  by_cases h : start < stop
  · simp [slabIteratorLoop, vdoIterateSlabs, vdoNextSlab, h, stridedSlabs_of_lt h]
  rw [stridedSlabs_step hs (by omega)]
  by_cases h' : start < stop + stride
  · cases fuel <;> simp [slabIteratorLoop, vdoIterateSlabs, vdoNextSlab, h, h']
  · have hnext : vdoIterateSlabs (start - stride) stop stride = ⟨some (start - stride), stop, stride⟩ := by
      simp [vdoIterateSlabs]; omega
    have hrest := ih (start - stride) (by omega) (show start - stride < fuel by omega) stop
    rw [hnext] at hrest
    simp [slabIteratorLoop, vdoIterateSlabs, vdoNextSlab, h, h', hrest]

example : slabIteratorLoop 8 (vdoIterateSlabs 7 1 3) = [7, 4, 1] := by decide

/-! ## Registration -/

/-- The slabs of allocator `z` among slabs `0, …, m - 1` of a depot of `Z` zones, in
increasing order. -/
def zoneSlabs (m Z z : Nat) : List Nat := (List.range m).filter fun i => i % Z = z

@[simp] theorem mem_zoneSlabs {m Z z i : Nat} : i ∈ zoneSlabs m Z z ↔ i < m ∧ i % Z = z := by
  simp [zoneSlabs]

/-- The last of a list in increasing order is its largest. -/
theorem getLast?_eq_max? {l : List Nat} (h : l.Pairwise (· < ·)) : l.getLast? = l.max? := by
  rcases List.eq_nil_or_concat l with rfl | ⟨init, last, rfl⟩
  · rfl
  rw [List.concat_eq_append] at h ⊢
  rw [List.getLast?_concat, eq_comm, List.max?_eq_some_iff']
  refine ⟨List.mem_append_right _ (List.mem_singleton_self _), fun b hb => ?_⟩
  rcases List.mem_append.1 hb with hb | hb
  · exact Nat.le_of_lt ((List.pairwise_append.1 h).2.2 b hb last (List.mem_singleton_self _))
  · exact Nat.le_of_eq (List.mem_singleton.1 hb)

/-- Registering, in order, those slabs of a list that belong to allocator `z` counts them
and leaves the last of them as `last_slab`. -/
theorem foldl_register (owner : Nat → Nat) (z : Nat) : ∀ (l : List Nat) (a : BlockAllocator),
    (l.foldl (fun a i => if owner i = z then vdoRegisterSlabWithAllocator a i else a) a).slabCount =
      a.slabCount + (l.filter fun i => owner i = z).length ∧
    (l.foldl (fun a i => if owner i = z then vdoRegisterSlabWithAllocator a i else a) a).lastSlab =
      ((l.filter fun i => owner i = z).getLast?).getD a.lastSlab
  | [], a => by simp
  | i :: l, a => by
    rw [List.foldl_cons, List.filter_cons]
    by_cases hi : owner i = z
    · obtain ⟨h1, h2⟩ := foldl_register owner z l (vdoRegisterSlabWithAllocator a i)
      rw [if_pos hi, if_pos (decide_eq_true hi), h1, h2, List.getLast?_cons, Option.getD_some]
      exact ⟨by simp [vdoRegisterSlabWithAllocator]; omega, rfl⟩
    · obtain ⟨h1, h2⟩ := foldl_register owner z l a
      rw [if_neg hi, if_neg (by simpa using hi), h1, h2]
      exact ⟨rfl, rfl⟩

/-- The decoder's registration, seen from one allocator: the same fold. -/
theorem registerSlabs_eq_foldl (owner : Nat → Nat) (z : Nat) :
    ∀ (l : List Nat) (allocators : Nat → BlockAllocator), registerSlabs allocators owner l z =
      l.foldl (fun a i => if owner i = z then vdoRegisterSlabWithAllocator a i else a) (allocators z)
  | [], _ => rfl
  | n :: l, allocators => by
    rw [registerSlabs, registerSlabs_eq_foldl owner z l, List.foldl_cons]
    by_cases hn : owner n = z
    · subst hn; simp
    · simp [Function.update_noteq (Ne.symm hn), hn]

/-- The allocators as registering slabs `0, …, slab_count - 1` in increasing order leaves
them, slab `i` belonging to allocator `i % zone_count`: each allocator has counted its
slabs, and holds the largest of them as `last_slab`, or `0` if it has none. -/
structure SlabDepot.Registered (d : SlabDepot) : Prop where
  zoneCount_pos : 0 < d.zoneCount
  allocator : ∀ i < d.slabCount, (d.slabs i).allocator = i % d.zoneCount
  slabCount : ∀ z < d.zoneCount,
    (d.allocators z).slabCount = (zoneSlabs d.slabCount d.zoneCount z).length
  lastSlab : ∀ z < d.zoneCount,
    (d.allocators z).lastSlab = ((zoneSlabs d.slabCount d.zoneCount z).max?).getD 0

theorem range_append_range' {old m : Nat} (hm : old ≤ m) :
    List.range old ++ List.range' old (m - old) = List.range m := by
  have h := List.range'_append_1 0 old (m - old)
  rw [zero_add, Nat.sub_add_cancel hm] at h
  rw [List.range_eq_range', List.range_eq_range', h]

/-- The slabs of a zone below `m` are those below `old`, then those from `old` on. -/
theorem zoneSlabs_append {old m : Nat} (hm : old ≤ m) (Z z : Nat) :
    zoneSlabs m Z z = zoneSlabs old Z z ++ (List.range' old (m - old)).filter fun i => i % Z = z := by
  rw [zoneSlabs, zoneSlabs, ← List.filter_append, range_append_range' hm]

/-- Registering slabs `old, …, m - 1` in order with an allocator registered for its slabs
below `old` leaves it registered for its slabs below `m`. -/
theorem registered_foldl (old : Nat) {m Z z : Nat} (hm : old ≤ m) {a : BlockAllocator}
    (hc : a.slabCount = (zoneSlabs old Z z).length)
    (hl : a.lastSlab = ((zoneSlabs old Z z).max?).getD 0) :
    ((List.range' old (m - old)).foldl
        (fun a i => if i % Z = z then vdoRegisterSlabWithAllocator a i else a) a).slabCount =
      (zoneSlabs m Z z).length ∧
    ((List.range' old (m - old)).foldl
        (fun a i => if i % Z = z then vdoRegisterSlabWithAllocator a i else a) a).lastSlab =
      ((zoneSlabs m Z z).max?).getD 0 := by
  obtain ⟨h1, h2⟩ := foldl_register (· % Z) z (List.range' old (m - old)) a
  have hold : (zoneSlabs old Z z).Pairwise (· < ·) := (List.pairwise_lt_range old).filter _
  have hnew : (zoneSlabs m Z z).Pairwise (· < ·) := (List.pairwise_lt_range m).filter _
  rw [zoneSlabs_append hm] at hnew
  rw [zoneSlabs_append hm, h1, h2, hc, hl, List.length_append, ← getLast?_eq_max? hold,
    ← getLast?_eq_max? hnew, List.getLast?_append]
  refine ⟨rfl, ?_⟩
  cases List.getLast? (List.filter (fun i => decide (i % Z = z)) (List.range' old (m - old))) <;> rfl

/-- **Decoding registers slabs `0, …, n - 1` in order**, slab `i` with allocator
`i % zone_count`. -/
theorem decodeSlabDepot_registered {Z : Nat} (dataBlocks n : Nat) (loaded : Nat → VdoSlab)
    (hZ : 0 < Z) : (decodeSlabDepot dataBlocks Z n loaded).Registered := by
  have hA : ∀ z, (decodeSlabDepot dataBlocks Z n loaded).allocators z =
      (List.range' 0 (n - 0)).foldl
        (fun a i => if i % Z = z then vdoRegisterSlabWithAllocator a i else a) BlockAllocator.empty :=
    fun z => by rw [Nat.sub_zero, ← List.range_eq_range']; exact registerSlabs_eq_foldl _ z _ _
  refine ⟨hZ, fun i _ => rfl, fun z _ => ?_, fun z _ => ?_⟩ <;> rw [hA]
  · exact (registered_foldl 0 (Nat.zero_le n) rfl rfl).1
  · exact (registered_foldl 0 (Nat.zero_le n) rfl rfl).2

/-- **A resize keeps the allocators registered**: `vdo_register_new_slabs_for_allocator`
registers the new slabs, each with allocator `i % zone_count`, in order. -/
theorem SlabDepot.Registered.vdoUseNewSlabs {d : SlabDepot} (h : d.Registered) {m : Nat}
    (hm : d.slabCount ≤ m) : (Kvdo.vdoUseNewSlabs d m).Registered := by
  have hfold : ∀ z, (Kvdo.vdoUseNewSlabs d m).allocators z =
      (List.range' d.slabCount (m - d.slabCount)).foldl
        (fun a i => if i % d.zoneCount = z then vdoRegisterSlabWithAllocator a i else a)
        (d.allocators z) := fun z => by
    simp only [Kvdo.vdoUseNewSlabs, vdoRegisterNewSlabsForAllocator]
    refine List.foldl_ext _ _ _ fun a i hi => ?_
    have hi : ¬i < d.slabCount := by rw [List.mem_range'_1] at hi; omega
    simp [newSlab, hi]
  refine ⟨h.zoneCount_pos, fun i _ => ?_, fun z hz => ?_, fun z hz => ?_⟩
  · by_cases hi : i < d.slabCount
    · simp [Kvdo.vdoUseNewSlabs, hi, h.allocator i hi]
    · simp [Kvdo.vdoUseNewSlabs, newSlab, hi]
  · rw [hfold]; exact (registered_foldl _ hm (h.slabCount z hz) (h.lastSlab z hz)).1
  · rw [hfold]; exact (registered_foldl _ hm (h.slabCount z hz) (h.lastSlab z hz)).2

/-! ## Registration over every run -/

namespace SlabDepot

/-- `d'` keeps `d`'s registration: the zone and slab counts, every slab's allocator, and
every allocator's `slab_count` and `last_slab`. -/
structure SameRegistration (d d' : SlabDepot) : Prop where
  zoneCount : d'.zoneCount = d.zoneCount
  slabCount : d'.slabCount = d.slabCount
  allocator : ∀ i, (d'.slabs i).allocator = (d.slabs i).allocator
  registration : ∀ z, (d'.allocators z).slabCount = (d.allocators z).slabCount ∧
    (d'.allocators z).lastSlab = (d.allocators z).lastSlab

namespace SameRegistration

variable {d d' d'' : SlabDepot}

theorem refl (d : SlabDepot) : d.SameRegistration d := ⟨rfl, rfl, fun _ => rfl, fun _ => ⟨rfl, rfl⟩⟩

theorem trans (h : d.SameRegistration d') (h' : d'.SameRegistration d'') : d.SameRegistration d'' :=
  ⟨h'.zoneCount.trans h.zoneCount, h'.slabCount.trans h.slabCount,
    fun i => (h'.allocator i).trans (h.allocator i),
    fun z => ⟨(h'.registration z).1.trans (h.registration z).1,
      (h'.registration z).2.trans (h.registration z).2⟩⟩

theorem registered (h : d.SameRegistration d') (hr : d.Registered) : d'.Registered := by
  refine ⟨h.zoneCount ▸ hr.zoneCount_pos, fun i hi => ?_, fun z hz => ?_, fun z hz => ?_⟩ <;>
    rw [h.zoneCount] at * <;> rw [h.slabCount] at *
  · rw [h.allocator]; exact hr.allocator i hi
  · rw [(h.registration z).1]; exact hr.slabCount z hz
  · rw [(h.registration z).2]; exact hr.lastSlab z hz

/-- Each call of a fold keeps the registration, so the fold does. -/
theorem foldl {α : Type} (f : SlabDepot → α → SlabDepot) (hf : ∀ (d : SlabDepot) a, d.SameRegistration (f d a)) :
    ∀ (l : List α) (d : SlabDepot), d.SameRegistration (l.foldl f d)
  | [], d => refl d
  | a :: l, d => (hf d a).trans (foldl f hf l _)

/-- Changing an allocator's lists or counters other than its registration. -/
theorem updateAllocator (d : SlabDepot) (z : Nat) (f : BlockAllocator → BlockAllocator)
    (hf : ∀ a, (f a).slabCount = a.slabCount ∧ (f a).lastSlab = a.lastSlab) :
    d.SameRegistration (d.updateAllocator z f) :=
  ⟨rfl, rfl, fun _ => rfl, fun z' => by
    simp only [updateAllocator_allocators]; split_ifs with h
    · subst h; exact hf _
    · exact ⟨rfl, rfl⟩⟩

theorem updateSlab (d : SlabDepot) (n : Nat) (f : VdoSlab → VdoSlab)
    (hf : (f (d.slabs n)).allocator = (d.slabs n).allocator) :
    d.SameRegistration (d.updateSlab n f) :=
  ⟨rfl, rfl, fun i => by by_cases hi : i = n <;> simp [hi, hf], fun _ => ⟨rfl, rfl⟩⟩

theorem ite {p : Prop} [Decidable p] {e e' : SlabDepot} (h : d.SameRegistration e)
    (h' : d.SameRegistration e') : d.SameRegistration (if p then e else e') := by
  split_ifs
  · exact h
  · exact h'

theorem prioritizeSlab (d : SlabDepot) (n : Nat) : d.SameRegistration (Kvdo.prioritizeSlab d n) := by
  unfold Kvdo.prioritizeSlab
  refine (updateSlab d n _ ?_).trans (updateAllocator _ _ _ ?_)
  · rfl
  · exact fun _ => ⟨rfl, rfl⟩

theorem vdoRegisterSlabForScrubbing (d : SlabDepot) (n : Nat) (high : Bool) :
    d.SameRegistration (Kvdo.vdoRegisterSlabForScrubbing d n high) := by
  unfold Kvdo.vdoRegisterSlabForScrubbing
  exact updateAllocator d _ _ fun _ => by cases high <;> exact ⟨rfl, rfl⟩

theorem vdoQueueSlab (d : SlabDepot) (n : Nat) (resuming : Bool) :
    d.SameRegistration (Kvdo.vdoQueueSlab d n resuming) := by
  unfold Kvdo.vdoQueueSlab
  refine ite ⟨rfl, rfl, fun _ => rfl, fun _ => ⟨rfl, rfl⟩⟩ (ite (vdoRegisterSlabForScrubbing d n false)
    ((ite (refl d) (updateAllocator d _ _ ?_)).trans (prioritizeSlab _ n)))
  exact fun _ => ⟨rfl, rfl⟩

theorem vdoAdjustFreeBlockCount (d : SlabDepot) (n : Nat) (increment : Bool) :
    d.SameRegistration (Kvdo.vdoAdjustFreeBlockCount d n increment) := by
  have h := updateAllocator d (d.slabs n).allocator
    (fun a => { a with allocatedBlocks := a.allocatedBlocks + if increment then -1 else 1 })
    fun _ => ⟨rfl, rfl⟩
  unfold Kvdo.vdoAdjustFreeBlockCount
  refine ite h (ite h (h.trans ((updateAllocator _ _ _ ?_).trans (prioritizeSlab _ n))))
  exact fun _ => ⟨rfl, rfl⟩

theorem allocateSlabBlock (d : SlabDepot) (n : Nat) (search : SearchOutcome) :
    d.SameRegistration (Kvdo.allocateSlabBlock d n search).2 := by
  rcases allocateSlabBlock_spec d n search with ⟨-, -, -, heq⟩ | ⟨-, heq, -⟩ <;> rw [heq]
  · refine (updateSlab d n _ ?_).trans (vdoAdjustFreeBlockCount _ n false); rfl
  · exact refl d

theorem openNextSlab {z : Nat} {search : SearchOutcome} {r : Status × SlabDepot}
    (h : Kvdo.openNextSlab d z search = some r) : d.SameRegistration r.2 := by
  obtain ⟨n, rest, -, rfl⟩ := openNextSlab_eq_some h
  refine (updateAllocator d z _ ?_).trans (allocateSlabBlock _ n search)
  exact fun _ => ⟨rfl, rfl⟩

theorem vdoAllocateBlock {z : Nat} {first second : SearchOutcome} {r : Status × SlabDepot}
    (h : Kvdo.vdoAllocateBlock d z first second = some r) : d.SameRegistration r.2 := by
  rcases vdoAllocateBlock_cases h with ⟨-, h⟩ | ⟨n, -, ⟨-, rfl⟩ | ⟨-, h⟩⟩
  · exact openNextSlab h
  · exact allocateSlabBlock d n first
  · exact (prioritizeSlab d n).trans (openNextSlab h)

theorem vdoPrepareSlabsForAllocation (d : SlabDepot) (z : Nat) (summary : Nat → SlabSummaryEntry)
    (loadType : SlabDepotLoadType) :
    d.SameRegistration (Kvdo.vdoPrepareSlabsForAllocation d z summary loadType) := by
  unfold Kvdo.vdoPrepareSlabsForAllocation
  refine (updateAllocator d z _ ?_).trans (foldl _ (fun d c => ?_) _ _)
  · exact fun _ => ⟨rfl, rfl⟩
  · cases c with
    | queue n => exact vdoQueueSlab d n false
    | scrub n high => refine (updateSlab d n _ ?_).trans (vdoRegisterSlabForScrubbing _ n high); rfl

theorem changeFreeBlockCount (d : SlabDepot) (n : Nat) (increment : Bool) :
    d.SameRegistration (Kvdo.changeFreeBlockCount d n increment) := by
  refine (updateSlab d n _ ?_).trans (vdoAdjustFreeBlockCount _ n increment); rfl

theorem addJournalEntry (d : SlabDepot) (n : Nat) :
    d.SameRegistration (Kvdo.addJournalEntry d n) := by
  refine updateSlab d n _ ?_; rfl

theorem finishScrubbing (d : SlabDepot) (n freeBlocks : Nat) (journalBlank : Bool) :
    d.SameRegistration (Kvdo.finishScrubbing d n freeBlocks journalBlank) := by
  unfold Kvdo.finishScrubbing
  refine ((updateAllocator d _ _ ?_).trans (updateSlab _ n _ ?_)).trans (vdoQueueSlab _ n false)
  · exact fun _ => ⟨rfl, rfl⟩
  · rfl

theorem drainBlockAllocator (d : SlabDepot) (z : Nat) :
    d.SameRegistration (Kvdo.drainBlockAllocator d z) := by
  unfold Kvdo.drainBlockAllocator detachSlabs
  refine (updateAllocator d z _ ?_).trans (updateAllocator _ z _ ?_) <;> exact fun _ => ⟨rfl, rfl⟩

theorem resumeBlockAllocator (d : SlabDepot) (z : Nat) :
    d.SameRegistration (Kvdo.resumeBlockAllocator d z) := by
  unfold Kvdo.resumeBlockAllocator detachSlabs
  refine ((updateAllocator d z _ ?_).trans (updateAllocator _ z _ ?_)).trans
    (foldl _ (fun d n => vdoQueueSlab d n true) _ _) <;> exact fun _ => ⟨rfl, rfl⟩

end SameRegistration

end SlabDepot

/-- **Every step keeps the allocators registered**: a resize registers its new slabs, and
no other step touches a `slab_count`, a `last_slab` or a slab's allocator. -/
theorem SlabDepot.Registered.step {d d' : SlabDepot} (h : d.Registered) (hs : AllocatorStep d d') :
    d'.Registered := by
  cases hs with
  | allocate _ hr => exact (SlabDepot.SameRegistration.vdoAllocateBlock hr).registered h
  | changeFreeCount => exact (SlabDepot.SameRegistration.changeFreeBlockCount d _ _).registered h
  | addJournalEntry => exact (SlabDepot.SameRegistration.addJournalEntry d _).registered h
  | finishScrubbing => exact (SlabDepot.SameRegistration.finishScrubbing d _ _ _).registered h
  | drain => exact (SlabDepot.SameRegistration.drainBlockAllocator d _).registered h
  | resume => exact (SlabDepot.SameRegistration.resumeBlockAllocator d _).registered h
  | grow hle => exact h.vdoUseNewSlabs hle

/-- **Every reachable state is registered.** -/
theorem Reachable.registered {d : SlabDepot} (h : Reachable d) : d.Registered := by
  induction h with
  | prepared hZ =>
    exact (SlabDepot.SameRegistration.foldl _
      (fun d z => SlabDepot.SameRegistration.vdoPrepareSlabsForAllocation d z _ _) _ _).registered
        (decodeSlabDepot_registered _ _ _ hZ)
  | step _ hs ih => exact ih.step hs

/-! ## The allocator's loops over its slabs -/

/-- `get_slab_iterator`: from the allocator's `last_slab` down to its zone number, in steps
of the zone count. -/
def getSlabIterator (d : SlabDepot) (z : Nat) : SlabIterator :=
  vdoIterateSlabs (d.allocators z).lastSlab z d.zoneCount

/-- The slabs a loop over `get_slab_iterator` visits, in order; `last_slab + 1` iterations
are enough for the loop to end (`Registered.slabIteratorLoop`). -/
def iteratedSlabs (d : SlabDepot) (z : Nat) : List Nat :=
  slabIteratorLoop ((d.allocators z).lastSlab + 1) (getSlabIterator d z)

/-- `get_data_block_count`. -/
def getDataBlockCount (d : SlabDepot) (z : Nat) : Nat := (d.allocators z).slabCount * d.dataBlocks

/-- `notify_block_allocator_of_read_only_mode`: the slabs whose journals it makes abort
their waiters (`vdo_abort_slab_journal_waiters`), in order. -/
def notifyBlockAllocatorOfReadOnlyMode (d : SlabDepot) (z : Nat) : List Nat := iteratedSlabs d z

/-- `list_del_init(&slab->allocq_entry)`: slab `n` leaves whichever list of its allocator
holds it, a bucket of the priority table or a scrubber list. -/
def listDelInit (d : SlabDepot) (n : Nat) : SlabDepot :=
  d.updateAllocator (d.slabs n).allocator fun a =>
    { a with
      prioritizedSlabs := a.prioritizedSlabs.filter fun e => e.2 ≠ n
      scrubberHighPrioritySlabs := a.scrubberHighPrioritySlabs.filter (· ≠ n)
      scrubberSlabs := a.scrubberSlabs.filter (· ≠ n) }

/-- The list work of `apply_to_slabs` on allocator `z`, with the `slab_action_count` it
reaches before its closing `slab_action_callback`: the open slab is cleared, and each slab
the iterator yields is unlinked from its list and counted, from `1`. -/
def applyToSlabsLists (d : SlabDepot) (z : Nat) : SlabDepot × Nat :=
  (iteratedSlabs d z).foldl (fun acc n => (listDelInit acc.1 n, acc.2 + 1))
    (d.updateAllocator z fun a => { a with openSlab := none }, 1)

/-- Unlinking slabs of allocator `z` one after another, counting each: allocator `z`'s lists
lose them all. -/
theorem foldl_listDelInit (z : Nat) : ∀ (l : List Nat) (e : SlabDepot) (c : Nat),
    (∀ n ∈ l, (e.slabs n).allocator = z) →
    l.foldl (fun acc n => (listDelInit acc.1 n, acc.2 + 1)) (e, c) =
      (e.updateAllocator z fun a =>
        { a with
          prioritizedSlabs := a.prioritizedSlabs.filter fun x => x.2 ∉ l
          scrubberHighPrioritySlabs := a.scrubberHighPrioritySlabs.filter (· ∉ l)
          scrubberSlabs := a.scrubberSlabs.filter (· ∉ l) }, c + l.length)
  | [], e, c, _ => by
    simp [SlabDepot.updateAllocator]
  | n :: l, e, c, hl => by
    have hn := hl n (List.mem_cons_self n l)
    have ih := foldl_listDelInit z l (listDelInit e n) (c + 1)
      fun m hm => hl m (List.mem_cons_of_mem n hm)
    rw [List.foldl_cons, ih]
    simp only [listDelInit, hn, SlabDepot.updateAllocator_updateAllocator, List.filter_filter,
      List.length_cons, List.mem_cons, not_or, Bool.decide_and, ne_eq, Bool.and_comm,
      Nat.add_right_comm c 1, Nat.add_assoc]

namespace SlabDepot.Registered

variable {d : SlabDepot} {z : Nat}

/-- In a registered depot, allocator `z` owns exactly the slabs `zoneSlabs` names. -/
theorem owns_iff (h : d.Registered) (i : Nat) :
    d.owns z i ↔ i ∈ zoneSlabs d.slabCount d.zoneCount z :=
  ⟨fun ⟨hi, hz⟩ => mem_zoneSlabs.2 ⟨hi, (h.allocator i hi).symm.trans hz⟩,
    fun hi => ⟨(mem_zoneSlabs.1 hi).1, (h.allocator i (mem_zoneSlabs.1 hi).1).trans (mem_zoneSlabs.1 hi).2⟩⟩

/-- From `last_slab` down to `z` in steps of the zone count are exactly the slabs of
allocator `z`, highest first. -/
theorem stridedSlabs_lastSlab (h : d.Registered) (hz : z < d.zoneCount) (hpos : 0 < d.slabCount) :
    stridedSlabs (d.allocators z).lastSlab z d.zoneCount =
      (zoneSlabs d.slabCount d.zoneCount z).reverse := by
  rw [stridedSlabs, zoneSlabs, h.lastSlab z hz]
  congr 1
  refine filter_range_eq fun i => ?_
  simp only [decide_eq_true_eq]
  cases hmax : (zoneSlabs d.slabCount d.zoneCount z).max?
  case none =>
    rw [Option.getD_none]
    have hnil := List.max?_eq_none_iff.1 hmax
    have hz0 : 0 < z := Nat.pos_of_ne_zero fun h0 => by
      have h0' : 0 ∈ zoneSlabs d.slabCount d.zoneCount z := mem_zoneSlabs.2 ⟨hpos, by simp [h0]⟩
      simp [hnil] at h0'
    refine ⟨fun hi => by omega, fun ⟨hi, hmi⟩ => ?_⟩
    simpa [hnil] using mem_zoneSlabs.2 ⟨hi, hmi⟩
  case some L =>
    rw [Option.getD_some]
    obtain ⟨hL, hle⟩ := List.max?_eq_some_iff'.1 hmax
    obtain ⟨hLm, hLz⟩ := mem_zoneSlabs.1 hL
    refine ⟨fun ⟨hi, _, hmi⟩ => ⟨by omega, hmi.trans hLz⟩, fun ⟨hi, hmi⟩ => ?_⟩
    exact ⟨Nat.lt_succ_of_le (hle i (mem_zoneSlabs.2 ⟨hi, hmi⟩)), hmi ▸ Nat.mod_le i _,
      hmi.trans hLz.symm⟩

/-- **The slab iterator of a registered allocator visits exactly its slabs, each once,
highest first**, and the loop ends within `last_slab + 1` iterations. -/
theorem slabIteratorLoop (h : d.Registered) (hz : z < d.zoneCount) (hpos : 0 < d.slabCount)
    {fuel : Nat} (hf : (d.allocators z).lastSlab < fuel) :
    Kvdo.slabIteratorLoop fuel (getSlabIterator d z) = (zoneSlabs d.slabCount d.zoneCount z).reverse := by
  rw [getSlabIterator, slabIteratorLoop_vdoIterateSlabs h.zoneCount_pos hf,
    h.stridedSlabs_lastSlab hz hpos]

theorem iteratedSlabs (h : d.Registered) (hz : z < d.zoneCount) (hpos : 0 < d.slabCount) :
    Kvdo.iteratedSlabs d z = (zoneSlabs d.slabCount d.zoneCount z).reverse :=
  h.slabIteratorLoop hz hpos (Nat.lt_succ_self _)

/-- The order the allocator model resumes slabs in is the iterator's. -/
theorem slabsOf (h : d.Registered) : Kvdo.slabsOf d z = (zoneSlabs d.slabCount d.zoneCount z).reverse := by
  rw [Kvdo.slabsOf, zoneSlabs, List.filter_reverse]
  congr 1
  refine List.filter_congr fun i hi => ?_
  rw [h.allocator i (List.mem_range.1 hi)]

theorem getDataBlockCount (h : d.Registered) (hz : z < d.zoneCount) :
    Kvdo.getDataBlockCount d z = (zoneSlabs d.slabCount d.zoneCount z).length * d.dataBlocks := by
  rw [Kvdo.getDataBlockCount, h.slabCount z hz]

/-- **`apply_to_slabs` unlinks exactly the allocator's slabs**, which is `detachSlabs`, and
starts one slab action for each. -/
theorem applyToSlabsLists (h : d.Registered) (hz : z < d.zoneCount) (hpos : 0 < d.slabCount) :
    Kvdo.applyToSlabsLists d z = (detachSlabs d z, 1 + (zoneSlabs d.slabCount d.zoneCount z).length) := by
  have hit := h.iteratedSlabs hz hpos
  have hown : ∀ n ∈ Kvdo.iteratedSlabs d z, (d.slabs n).allocator = z := fun n hn => by
    rw [hit, List.mem_reverse, mem_zoneSlabs] at hn
    exact (h.allocator n hn.1).trans hn.2
  rw [Kvdo.applyToSlabsLists,
    foldl_listDelInit z _ (d.updateAllocator z fun a => { a with openSlab := none }) 1 hown]
  simp only [detachSlabs, SlabDepot.updateAllocator_updateAllocator, hit, List.length_reverse,
    h.owns_iff, List.mem_reverse, decide_not]

end SlabDepot.Registered

/-- **Slabs `0, …, n - 1` registered when the depot is decoded and slabs `n, …, m - 1`
registered by `vdo_register_new_slabs_for_allocator` leave each allocator `z` with its
slabs `{i < m | i % Z = z}` counted in `slab_count` and the largest of them, or `0`, as
`last_slab`.**  Its slab iterator then visits exactly those slabs, each once, highest
first, within `last_slab + 1` iterations; so `get_data_block_count` counts exactly their
blocks, the read-only notification reaches exactly them, and `apply_to_slabs` unlinks
exactly them (`detachSlabs`) and starts one slab action for each. -/
theorem slabRegistration_spec (n m Z : Nat) (hn : 1 ≤ n) (hm : n ≤ m) (hZ : 0 < Z)
    (dataBlocks : Nat) (loaded : Nat → VdoSlab) {z : Nat} (hz : z < Z) :
    let d := vdoUseNewSlabs (decodeSlabDepot dataBlocks Z n loaded) m
    (d.allocators z).slabCount = (zoneSlabs m Z z).length ∧
    (d.allocators z).lastSlab = ((zoneSlabs m Z z).max?).getD 0 ∧
    (∀ fuel, (d.allocators z).lastSlab < fuel →
      slabIteratorLoop fuel (getSlabIterator d z) = (zoneSlabs m Z z).reverse) ∧
    getDataBlockCount d z = (zoneSlabs m Z z).length * dataBlocks ∧
    notifyBlockAllocatorOfReadOnlyMode d z = (zoneSlabs m Z z).reverse ∧
    applyToSlabsLists d z = (detachSlabs d z, 1 + (zoneSlabs m Z z).length) := by
  intro d
  have h : d.Registered := (decodeSlabDepot_registered dataBlocks n loaded hZ).vdoUseNewSlabs hm
  have hpos : 0 < d.slabCount := show 0 < m by omega
  exact ⟨h.slabCount z hz, h.lastSlab z hz, fun _ hf => h.slabIteratorLoop hz hpos hf,
    h.getDataBlockCount hz, h.iteratedSlabs hz hpos, h.applyToSlabsLists hz hpos⟩

/-- One slab decoded, grown to two, in four zones: zone 3 is left without a slab. -/
theorem slabRegistration_spec_emptyZone :
    let d := vdoUseNewSlabs (decodeSlabDepot 4 4 1 fun _ => ⟨0, 4, true, false, 0, false⟩) 2
    (d.allocators 3).slabCount = (zoneSlabs 2 4 3).length ∧
    (d.allocators 3).lastSlab = ((zoneSlabs 2 4 3).max?).getD 0 ∧
    (∀ fuel, (d.allocators 3).lastSlab < fuel →
      slabIteratorLoop fuel (getSlabIterator d 3) = (zoneSlabs 2 4 3).reverse) ∧
    getDataBlockCount d 3 = (zoneSlabs 2 4 3).length * 4 ∧
    notifyBlockAllocatorOfReadOnlyMode d 3 = (zoneSlabs 2 4 3).reverse ∧
    applyToSlabsLists d 3 = (detachSlabs d 3, 1 + (zoneSlabs 2 4 3).length) :=
  slabRegistration_spec 1 2 4 (by decide) (by decide) (by decide) 4 _ (by decide)

/-- **In every reachable state the slab iterator does what the allocator model takes it to
do**: with at least one slab, the allocators are registered, allocator `z`'s loop visits
`slabsOf`, the slabs a resume queues and in that order, and `apply_to_slabs` unlinks what
`detachSlabs` does and starts one slab action for each. -/
theorem slabIterator_reachable {d : SlabDepot} (hd : Reachable d) (hpos : 0 < d.slabCount) {z : Nat}
    (hz : z < d.zoneCount) :
    d.Registered ∧ iteratedSlabs d z = slabsOf d z ∧
      applyToSlabsLists d z = (detachSlabs d z, 1 + (slabsOf d z).length) := by
  have h := hd.registered
  exact ⟨h, by rw [h.iteratedSlabs hz hpos, h.slabsOf],
    by rw [h.applyToSlabsLists hz hpos, h.slabsOf, List.length_reverse]⟩

theorem slabIterator_reachable_rebuilt :
    rebuiltDepot.Registered ∧ iteratedSlabs rebuiltDepot 0 = slabsOf rebuiltDepot 0 ∧
      applyToSlabsLists rebuiltDepot 0 =
        (detachSlabs rebuiltDepot 0, 1 + (slabsOf rebuiltDepot 0).length) :=
  slabIterator_reachable rebuiltDepot_reachable (by decide) (by decide)

example : iteratedSlabs (vdoUseNewSlabs (decodeSlabDepot 4 4 1 fun _ => ⟨0, 4, true, false, 0, false⟩) 6) 1 =
    [5, 1] := by decide

end Kvdo
