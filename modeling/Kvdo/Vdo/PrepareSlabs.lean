/-
# Preparing slabs for allocation

`vdo_prepare_slabs_for_allocation` (`block-allocator.c`, lines 809-867) runs once per
allocator when the depot comes online.  It sets `allocated_blocks` to
`slab_count * data_blocks`, reads one `slab_status` per slab of the depot from the slab
summary, pops them from a max-heap ordered by `compare_slab_statuses` (605-617), skips
the slabs of other allocators, and for each of its own either queues it for allocation
or marks it unrecovered and registers it with the scrubber.

`heap.c` is not in the sources: a max-heap popped until empty gives its elements from
the greatest down, and `popMaxHeapElement` takes the greatest.  The comparator never
answers `0`; it is a strict total order on statuses of distinct slabs
(`compareSlabStatuses_strictTotal`), so the popped sequence is the only one sorted by
it (`heapOrder_unique`) whatever the heap does inside.
-/

import Kvdo.Vdo.BlockAllocator

namespace Kvdo

/-- A `struct slab_status`. -/
structure SlabStatus where
  slabNumber : Nat
  isClean : Bool
  emptiness : Nat
  deriving DecidableEq, Repr

/-- `compare_slab_statuses`: clean before dirty, then emptier first, then the lower slab
number first. -/
def compareSlabStatuses (info1 info2 : SlabStatus) : Int :=
  if info1.isClean ≠ info2.isClean then (if info1.isClean then 1 else -1)
  else if info1.emptiness ≠ info2.emptiness then
    (if info1.emptiness > info2.emptiness then 1 else -1)
  else if info1.slabNumber < info2.slabNumber then 1 else -1

/-- `info1` comes out of the heap before `info2`. -/
def PopsBefore (info1 info2 : SlabStatus) : Prop := compareSlabStatuses info1 info2 = 1

instance : DecidableRel PopsBefore := fun _ _ => inferInstanceAs (Decidable (_ = _))

theorem compareSlabStatuses_cases (a b : SlabStatus) :
    compareSlabStatuses a b = 1 ∨ compareSlabStatuses a b = -1 := by
  unfold compareSlabStatuses; split_ifs <;> simp

/-- `info1` pops before `info2` exactly when it ranks higher by cleanliness, then by
emptiness, then by the lower slab number. -/
theorem popsBefore_iff {a b : SlabStatus} : PopsBefore a b ↔
    b.isClean.toNat < a.isClean.toNat ∨ (a.isClean.toNat = b.isClean.toNat ∧
      (b.emptiness < a.emptiness ∨ (a.emptiness = b.emptiness ∧ a.slabNumber < b.slabNumber))) := by
  obtain ⟨s, c, e⟩ := a
  obtain ⟨s', c', e'⟩ := b
  unfold PopsBefore compareSlabStatuses
  cases c <;> cases c' <;> simp only [ne_eq, not_true, not_false_eq_true, Bool.false_eq_true,
    Bool.true_eq_false, if_true, if_false, Bool.toNat_true, Bool.toNat_false] <;> (try split_ifs) <;>
    simp <;> omega

theorem popsBefore_asymm {a b : SlabStatus} (h : PopsBefore a b) : ¬PopsBefore b a := by
  rw [popsBefore_iff] at h ⊢; omega

theorem popsBefore_total {a b : SlabStatus} (h : a.slabNumber ≠ b.slabNumber) :
    PopsBefore a b ∨ PopsBefore b a := by
  rw [popsBefore_iff, popsBefore_iff]; omega

theorem popsBefore_trans {a b c : SlabStatus} (hab : PopsBefore a b) (hbc : PopsBefore b c) :
    PopsBefore a c := by
  rw [popsBefore_iff] at *; omega

/-- **`compare_slab_statuses` is a strict total order on statuses of distinct slabs.**
It answers `1` or `-1`, never `0`; it is antisymmetric (one way `1` exactly when the
other way `-1`), transitive, and any two statuses of distinct slabs are ordered. -/
theorem compareSlabStatuses_strictTotal :
    (∀ a b, compareSlabStatuses a b = 1 ∨ compareSlabStatuses a b = -1) ∧
    (∀ a b, a.slabNumber ≠ b.slabNumber →
      (compareSlabStatuses a b = 1 ↔ compareSlabStatuses b a = -1)) ∧
    (∀ a b c, compareSlabStatuses a b = 1 → compareSlabStatuses b c = 1 →
      compareSlabStatuses a c = 1) ∧
    (∀ a, compareSlabStatuses a a = -1) := by
  refine ⟨compareSlabStatuses_cases, fun a b hne => ⟨fun h => ?_, fun h => ?_⟩,
    fun _ _ _ => popsBefore_trans, fun a => ?_⟩
  · exact (compareSlabStatuses_cases b a).resolve_left (popsBefore_asymm h)
  · rcases popsBefore_total hne with h' | h'
    · exact h'
    · unfold PopsBefore at h'; omega
  · simp [compareSlabStatuses]

/-- The status that pops first of two. -/
def firstToPop (a b : SlabStatus) : SlabStatus := if PopsBefore a b then a else b

/-- Modelled from the spec: `pop_max_heap_element`, which takes the greatest element of
the heap by its comparator. -/
def popMaxHeapElement : List SlabStatus → Option (SlabStatus × List SlabStatus)
  | [] => none
  | s :: rest =>
    let top := rest.foldl firstToPop s
    some (top, (s :: rest).erase top)

/-- The statuses in the order `pop_max_heap_element` hands them out, popping until the
heap is empty (at most `fuel` times). -/
def heapOrder : Nat → List SlabStatus → List SlabStatus
  | 0, _ => []
  | fuel + 1, heap =>
    match popMaxHeapElement heap with
    | none => []
    | some (top, rest) => top :: heapOrder fuel rest

/-- Statuses of distinct slabs. -/
def DistinctSlabs (l : List SlabStatus) : Prop :=
  l.Pairwise fun a b => a.slabNumber ≠ b.slabNumber

/-- Folding `firstToPop` over more statuses keeps an accumulator that pops before every
other status seen so far. -/
theorem foldl_firstToPop (seen l : List SlabStatus) {acc : SlabStatus}
    (hd : DistinctSlabs (seen ++ l)) (hacc : acc ∈ seen)
    (hmax : ∀ x ∈ seen, x ≠ acc → PopsBefore acc x) :
    l.foldl firstToPop acc ∈ seen ++ l ∧
      ∀ x ∈ seen ++ l, x ≠ l.foldl firstToPop acc → PopsBefore (l.foldl firstToPop acc) x := by
  induction l generalizing seen acc with
  | nil => simpa using ⟨hacc, hmax⟩
  | cons y l ih =>
    have hne : acc.slabNumber ≠ y.slabNumber :=
      List.pairwise_append.1 hd |>.2.2 acc hacc y (List.mem_cons_self _ _)
    have key : firstToPop acc y ∈ seen ++ [y] ∧
        ∀ x ∈ seen ++ [y], x ≠ firstToPop acc y → PopsBefore (firstToPop acc y) x := by
      unfold firstToPop
      split_ifs with hay
      · refine ⟨List.mem_append_left _ hacc, fun x hx hxa => ?_⟩
        rcases List.mem_append.1 hx with hx | hx
        · exact hmax x hx hxa
        · rw [List.eq_of_mem_singleton hx]; exact hay
      · have hya : PopsBefore y acc := (popsBefore_total hne).resolve_left hay
        refine ⟨by simp, fun x hx hxy => ?_⟩
        rcases List.mem_append.1 hx with hx | hx
        · by_cases hxa : x = acc
          · rw [hxa]; exact hya
          · exact popsBefore_trans hya (hmax x hx hxa)
        · exact absurd (List.eq_of_mem_singleton hx) hxy
    simpa using ih (seen ++ [y]) (by simpa using hd) key.1 key.2

/-- **`pop_max_heap_element` takes the status that pops before all the others.** -/
theorem popMaxHeapElement_spec {heap : List SlabStatus} (hd : DistinctSlabs heap)
    (hne : heap ≠ []) : ∃ top rest, popMaxHeapElement heap = some (top, rest) ∧
      heap.Perm (top :: rest) ∧ ∀ x ∈ rest, PopsBefore top x := by
  obtain _ | ⟨s, l⟩ := heap
  · exact absurd rfl hne
  obtain ⟨hmem, hmax⟩ := foldl_firstToPop [s] l (by simpa using hd)
    (List.mem_singleton_self s) (fun x hx hxs => absurd (List.eq_of_mem_singleton hx) hxs)
  have hperm := List.perm_cons_erase hmem
  refine ⟨_, _, rfl, hperm, fun x hx => hmax x (by simpa using List.mem_of_mem_erase hx) ?_⟩
  rintro rfl
  exact (List.pairwise_cons.1 (hd.perm hperm fun h => Ne.symm h)).1 _ hx rfl

theorem DistinctSlabs.of_perm {l l' : List SlabStatus} (h : DistinctSlabs l) (hp : l.Perm l') :
    DistinctSlabs l' :=
  h.perm hp fun h => Ne.symm h

/-- Popping until empty hands out every status of the heap once. -/
theorem heapOrder_perm : ∀ (fuel : Nat) (heap : List SlabStatus), DistinctSlabs heap →
    heap.length ≤ fuel → (heapOrder fuel heap).Perm heap
  | 0, heap, _, hl => by simp [heapOrder, List.eq_nil_of_length_eq_zero (Nat.le_zero.1 hl)]
  | fuel + 1, heap, hd, hl => by
    by_cases hne : heap = []
    · subst hne; rfl
    obtain ⟨top, rest, hpop, hperm, -⟩ := popMaxHeapElement_spec hd hne
    have hrest : DistinctSlabs rest := (List.pairwise_cons.1 (hd.of_perm hperm)).2
    have hlen : rest.length ≤ fuel := by have := hperm.length_eq; simp at this; omega
    simp only [heapOrder, hpop]
    exact ((heapOrder_perm fuel rest hrest hlen).cons top).trans hperm.symm

theorem mem_of_mem_heapOrder : ∀ {fuel : Nat} {heap : List SlabStatus} {x : SlabStatus},
    DistinctSlabs heap → x ∈ heapOrder fuel heap → x ∈ heap
  | 0, _, _, _, hx => by simp [heapOrder] at hx
  | fuel + 1, heap, x, hd, hx => by
    by_cases hne : heap = []
    · subst hne; simp [heapOrder, popMaxHeapElement] at hx
    obtain ⟨top, rest, hpop, hperm, -⟩ := popMaxHeapElement_spec hd hne
    simp only [heapOrder, hpop, List.mem_cons] at hx
    rcases hx with rfl | hx
    · exact hperm.mem_iff.2 (List.mem_cons_self _ _)
    · exact hperm.mem_iff.2 (List.mem_cons_of_mem _
        (mem_of_mem_heapOrder (List.pairwise_cons.1 (hd.of_perm hperm)).2 hx))

/-- Popping hands the statuses out in the comparator's order. -/
theorem heapOrder_sorted : ∀ (fuel : Nat) (heap : List SlabStatus), DistinctSlabs heap →
    (heapOrder fuel heap).Sorted PopsBefore
  | 0, _, _ => List.sorted_nil
  | fuel + 1, heap, hd => by
    by_cases hne : heap = []
    · subst hne; simp [heapOrder, popMaxHeapElement]
    obtain ⟨top, rest, hpop, hperm, hmax⟩ := popMaxHeapElement_spec hd hne
    have hrest : DistinctSlabs rest := (List.pairwise_cons.1 (hd.of_perm hperm)).2
    simp only [heapOrder, hpop]
    exact List.sorted_cons.2 ⟨fun x hx => hmax x (mem_of_mem_heapOrder hrest hx),
      heapOrder_sorted fuel rest hrest⟩

instance : IsAntisymm SlabStatus PopsBefore := ⟨fun _ _ h h' => absurd h' (popsBefore_asymm h)⟩

/-- **The popped order does not depend on the heap.**  Any arrangement of the statuses
sorted by `compare_slab_statuses` is the one `pop_max_heap_element` produces. -/
theorem heapOrder_unique {heap l : List SlabStatus} (hd : DistinctSlabs heap)
    (hl : l.Perm heap) (hs : l.Sorted PopsBefore) : l = heapOrder heap.length heap :=
  List.eq_of_perm_of_sorted (hl.trans (heapOrder_perm _ heap hd le_rfl).symm) hs
    (heapOrder_sorted _ heap hd)

/-- How the depot was loaded (`enum slab_depot_load_type`). -/
inductive SlabDepotLoadType where
  | normal
  | recovery
  | rebuild
  deriving DecidableEq, Repr

/-- The fields of a slab summary entry the allocator reads: `is_dirty`, `fullness_hint`
and `load_ref_counts`. -/
structure SlabSummaryEntry where
  isDirty : Bool
  fullnessHint : Nat
  loadRefCounts : Bool
  deriving DecidableEq, Repr

/-- The status the summary gives a slab: clean when its entry is not dirty, with the
entry's fullness hint as its emptiness. -/
def summaryStatus (summary : Nat → SlabSummaryEntry) (n : Nat) : SlabStatus :=
  ⟨n, !(summary n).isDirty, (summary n).fullnessHint⟩

/-- Modelled from the spec: `vdo_get_summarized_slab_statuses`, the status of each slab
of the depot. -/
def vdoGetSummarizedSlabStatuses (summary : Nat → SlabSummaryEntry) (slabCount : Nat) :
    List SlabStatus :=
  (List.range slabCount).map (summaryStatus summary)

theorem distinctSlabs_summarized (summary : Nat → SlabSummaryEntry) (slabCount : Nat) :
    DistinctSlabs (vdoGetSummarizedSlabStatuses summary slabCount) := by
  unfold DistinctSlabs vdoGetSummarizedSlabStatuses
  rw [List.pairwise_map]
  exact List.nodup_range slabCount

theorem mem_summarized {summary : Nat → SlabSummaryEntry} {slabCount : Nat} {st : SlabStatus}
    (h : st ∈ vdoGetSummarizedSlabStatuses summary slabCount) :
    st = summaryStatus summary st.slabNumber ∧ st.slabNumber < slabCount := by
  obtain ⟨i, hi, rfl⟩ := List.mem_map.1 h
  exact ⟨rfl, List.mem_range.1 hi⟩

/-- What the loop of `vdo_prepare_slabs_for_allocation` does with one of its slabs. -/
inductive PrepareCall where
  /-- `vdo_queue_slab`. -/
  | queue (slab : Nat)
  /-- `vdo_mark_slab_unrecovered`, then `vdo_register_slab_for_scrubbing`. -/
  | scrub (slab : Nat) (highPriority : Bool)
  deriving DecidableEq, Repr

/-- The slab a call is about. -/
def PrepareCall.slab : PrepareCall → Nat
  | .queue n => n
  | .scrub n _ => n

/-- The loop body of `vdo_prepare_slabs_for_allocation` for one popped status: nothing
for a slab of another allocator (`continue`), else the call it makes. -/
def prepareCall (d : SlabDepot) (z : Nat) (summary : Nat → SlabSummaryEntry)
    (loadType : SlabDepotLoadType) (status : SlabStatus) : Option PrepareCall :=
  let slab := d.slabs status.slabNumber
  if slab.allocator ≠ z then none
  else if loadType = .rebuild ∨
      (!(summary status.slabNumber).loadRefCounts && status.isClean) = true then
    some (.queue status.slabNumber)
  else some (.scrub status.slabNumber
    ((status.isClean && loadType == .normal) || slab.journalRequiresScrubbing))

/-- Make one call of the loop. -/
def applyPrepareCall (d : SlabDepot) : PrepareCall → SlabDepot
  | .queue n => vdoQueueSlab d n false
  | .scrub n highPriority =>
    vdoRegisterSlabForScrubbing (d.updateSlab n fun slab => { slab with unrecovered := true })
      n highPriority

/-- The calls `vdo_prepare_slabs_for_allocation` makes, in order.  An iteration reads the
summary, the load type and two fields of its slab that no iteration changes (its
allocator and whether its journal requires scrubbing), so each call is decided on the
depot as the loop found it. -/
def preparePlan (d : SlabDepot) (z : Nat) (summary : Nat → SlabSummaryEntry)
    (loadType : SlabDepotLoadType) : List PrepareCall :=
  let statuses := vdoGetSummarizedSlabStatuses summary d.slabCount
  (heapOrder statuses.length statuses).filterMap (prepareCall d z summary loadType)

/-- `vdo_prepare_slabs_for_allocation` of allocator `z`. -/
def vdoPrepareSlabsForAllocation (d : SlabDepot) (z : Nat) (summary : Nat → SlabSummaryEntry)
    (loadType : SlabDepotLoadType) : SlabDepot :=
  (preparePlan d z summary loadType).foldl applyPrepareCall
    (d.updateAllocator z fun a => { a with allocatedBlocks := a.slabCount * d.dataBlocks })

section Plan

variable (d : SlabDepot) (z : Nat) (summary : Nat → SlabSummaryEntry)
  (loadType : SlabDepotLoadType)

/-- The heap order of the depot's slab statuses. -/
def prepareOrder : List SlabStatus :=
  heapOrder (vdoGetSummarizedSlabStatuses summary d.slabCount).length
    (vdoGetSummarizedSlabStatuses summary d.slabCount)

theorem prepareOrder_perm :
    (prepareOrder d summary).Perm (vdoGetSummarizedSlabStatuses summary d.slabCount) :=
  heapOrder_perm _ _ (distinctSlabs_summarized _ _) le_rfl

theorem mem_prepareOrder {st : SlabStatus} (h : st ∈ prepareOrder d summary) :
    st = summaryStatus summary st.slabNumber ∧ st.slabNumber < d.slabCount :=
  mem_summarized ((prepareOrder_perm d summary).mem_iff.1 h)

theorem filterMap_prepareCall_slab (l : List SlabStatus) :
    (l.filterMap (prepareCall d z summary loadType)).map PrepareCall.slab =
      (l.filter fun st => (d.slabs st.slabNumber).allocator = z).map SlabStatus.slabNumber := by
  induction l with
  | nil => rfl
  | cons st l ih =>
    rw [List.filterMap_cons, List.filter_cons]
    by_cases hz : (d.slabs st.slabNumber).allocator = z
    · obtain ⟨c, hc, hcs⟩ : ∃ c, prepareCall d z summary loadType st = some c ∧
          c.slab = st.slabNumber := by
        unfold prepareCall; split_ifs <;> simp_all [PrepareCall.slab]
      simp [hc, hcs, hz, ih]
    · have : prepareCall d z summary loadType st = none := by simp [prepareCall, hz]
      simp [this, hz, ih]

/-- The slabs the loop calls on: its own, in heap order. -/
theorem preparePlan_slabs :
    (preparePlan d z summary loadType).map PrepareCall.slab =
      ((prepareOrder d summary).filter fun st => (d.slabs st.slabNumber).allocator = z).map
        SlabStatus.slabNumber :=
  filterMap_prepareCall_slab d z summary loadType _

/-- The blocks `vdo_queue_slab` takes out of `allocated_blocks` for a call: the free
blocks of a queued slab that passes its check and is recovered. -/
def queuedBlocks (c : PrepareCall) : Int :=
  match c with
  | .queue n =>
    if (d.slabs n).freeBlocks ≤ d.dataBlocks ∧ (d.slabs n).unrecovered = false then
      (d.slabs n).freeBlocks else 0
  | .scrub _ _ => 0

end Plan

theorem applyPrepareCall_slabs_of_ne {d : SlabDepot} {c : PrepareCall} (m : Nat)
    (h : m ≠ c.slab) : (applyPrepareCall d c).slabs m = d.slabs m := by
  cases c with
  | queue n =>
    rcases vdoQueueSlab_cases d n false with ⟨-, hq⟩ | ⟨-, -, hq⟩ | ⟨-, -, hq⟩ <;>
      simp only [applyPrepareCall, hq] <;> simp [prioritizeSlab_slabs, vdoRegisterSlabForScrubbing,
        show m ≠ n from h]
  | scrub n high => simp [applyPrepareCall, vdoRegisterSlabForScrubbing, show m ≠ n from h]

theorem applyPrepareCall_dataBlocks (d : SlabDepot) (c : PrepareCall) :
    (applyPrepareCall d c).dataBlocks = d.dataBlocks := by
  cases c with
  | queue n => exact vdoQueueSlab_dataBlocks d n false
  | scrub n high => rfl

theorem applyPrepareCall_allocated (d : SlabDepot) (c : PrepareCall) (z : Nat)
    (hz : (d.slabs c.slab).allocator = z) :
    ((applyPrepareCall d c).allocators z).allocatedBlocks =
      (d.allocators z).allocatedBlocks - queuedBlocks d c := by
  subst hz
  cases c with
  | queue n =>
    rw [applyPrepareCall, vdoQueueSlab_allocatedBlocks]
    simp [queuedBlocks, PrepareCall.slab]
  | scrub n high =>
    cases high <;> simp [applyPrepareCall, vdoRegisterSlabForScrubbing, queuedBlocks, PrepareCall.slab]

/-- Over calls on distinct slabs of allocator `z`, `allocated_blocks` loses the blocks each
queued slab takes out. -/
theorem foldl_applyPrepareCall_allocated {z : Nat} :
    ∀ (calls : List PrepareCall) (d : SlabDepot), (calls.map PrepareCall.slab).Nodup →
      (∀ c ∈ calls, (d.slabs c.slab).allocator = z) →
      ((calls.foldl applyPrepareCall d).allocators z).allocatedBlocks =
        (d.allocators z).allocatedBlocks - (calls.map (queuedBlocks d)).sum
  | [], d, _, _ => by simp
  | c :: cs, d, hnd, hz => by
    rw [List.map_cons, List.nodup_cons] at hnd
    have hne : ∀ c' ∈ cs, c'.slab ≠ c.slab := fun c' hc' h =>
      hnd.1 (h ▸ List.mem_map_of_mem _ hc')
    rw [List.foldl_cons, foldl_applyPrepareCall_allocated cs _ hnd.2
      (fun c' hc' => by rw [applyPrepareCall_slabs_of_ne _ (hne c' hc')]; exact hz c' (by simp [hc'])),
      applyPrepareCall_allocated d c z (hz c (List.mem_cons_self _ _))]
    have hq : cs.map (queuedBlocks (applyPrepareCall d c)) = cs.map (queuedBlocks d) :=
      List.map_congr_left fun c' hc' => by
        cases c' with
        | queue n =>
          simp only [queuedBlocks, applyPrepareCall_dataBlocks,
            applyPrepareCall_slabs_of_ne n (hne _ hc')]
        | scrub n high => rfl
    rw [hq, List.map_cons, List.sum_cons]
    ring

/-- The slabs `vdo_prepare_slabs_for_allocation` calls on are its allocator's. -/
theorem mem_preparePlan_slab {d : SlabDepot} {z : Nat} {summary : Nat → SlabSummaryEntry}
    {loadType : SlabDepotLoadType} {n : Nat} :
    n ∈ (preparePlan d z summary loadType).map PrepareCall.slab ↔ d.owns z n := by
  rw [preparePlan_slabs]
  constructor
  · rintro hn
    obtain ⟨st, hst, rfl⟩ := List.mem_map.1 hn
    obtain ⟨hst, hz⟩ := List.mem_filter.1 hst
    exact ⟨(mem_prepareOrder d summary hst).2, of_decide_eq_true hz⟩
  · rintro ⟨hn, hz⟩
    have hmem : summaryStatus summary n ∈ prepareOrder d summary :=
      (prepareOrder_perm d summary).mem_iff.2 (List.mem_map.2 ⟨n, List.mem_range.2 hn, rfl⟩)
    exact List.mem_map.2 ⟨_, List.mem_filter.2 ⟨hmem, decide_eq_true hz⟩, rfl⟩

/-- The loop calls on each slab at most once. -/
theorem preparePlan_nodup (d : SlabDepot) (z : Nat) (summary : Nat → SlabSummaryEntry)
    (loadType : SlabDepotLoadType) : ((preparePlan d z summary loadType).map PrepareCall.slab).Nodup := by
  rw [preparePlan_slabs]
  refine (List.Sublist.map _ (List.filter_sublist _)).nodup ?_
  exact List.pairwise_map.2
    ((distinctSlabs_summarized summary d.slabCount).of_perm (prepareOrder_perm d summary).symm)

/-- The statuses of the slabs the loop calls on are its allocator's, in heap order. -/
theorem preparePlan_statuses (d : SlabDepot) (z : Nat) (summary : Nat → SlabSummaryEntry)
    (loadType : SlabDepotLoadType) :
    (preparePlan d z summary loadType).map (fun c => summaryStatus summary c.slab) =
      (prepareOrder d summary).filter fun st => (d.slabs st.slabNumber).allocator = z := by
  rw [show (fun c => summaryStatus summary c.slab) = summaryStatus summary ∘ PrepareCall.slab
    from rfl, ← List.map_map, preparePlan_slabs, List.map_map]
  conv_rhs => rw [← List.map_id ((prepareOrder d summary).filter _)]
  exact List.map_congr_left fun st hst =>
    ((mem_prepareOrder d summary (List.mem_filter.1 hst).1).1).symm

/-- Each call queues its slab when the load is a rebuild or the slab is clean with no
reference counts to load, and otherwise registers it for scrubbing, at high priority when
it is clean on a normal load or its journal requires scrubbing. -/
theorem mem_preparePlan {d : SlabDepot} {z : Nat} {summary : Nat → SlabSummaryEntry}
    {loadType : SlabDepotLoadType} {c : PrepareCall} (hc : c ∈ preparePlan d z summary loadType) :
    (∃ n, c = .queue n ∧ (loadType = .rebuild ∨
        ((summary n).isDirty = false ∧ (summary n).loadRefCounts = false))) ∨
      (∃ n, c = .scrub n ((!(summary n).isDirty && loadType == .normal) ||
          (d.slabs n).journalRequiresScrubbing) ∧
        ¬(loadType = .rebuild ∨ ((summary n).isDirty = false ∧ (summary n).loadRefCounts = false))) := by
  obtain ⟨st, hst, hcall⟩ := List.mem_filterMap.1 hc
  obtain ⟨hst, -⟩ := mem_prepareOrder d summary hst
  rw [hst] at hcall
  simp only [prepareCall, summaryStatus] at hcall
  split_ifs at hcall with h1 h2
  · exact .inl ⟨_, (Option.some.inj hcall).symm, by simpa [and_comm] using h2⟩
  · exact .inr ⟨_, (Option.some.inj hcall).symm, fun h => h2 (by simpa [and_comm] using h)⟩

/-- **What `vdo_prepare_slabs_for_allocation` does with the slabs.**  For every summary
content, every load type and every assignment of the depot's slabs to allocators:
`allocated_blocks` ends at `slab_count * data_blocks` less what `vdo_queue_slab` takes out
for the slabs it queues; the loop calls on each slab of the allocator exactly once and on
no other, in the order `compare_slab_statuses` gives their statuses; that order is the
only arrangement of the statuses sorted by the comparator, which answers `±1`, is
antisymmetric and transitive on distinct slabs; and a slab is queued exactly when the
load is a rebuild or it is clean with no reference counts to load, and otherwise
registered for scrubbing, at high priority when it is clean on a normal load or its
journal requires scrubbing. -/
theorem vdoPrepareSlabsForAllocation_spec (d : SlabDepot) (z : Nat)
    (summary : Nat → SlabSummaryEntry) (loadType : SlabDepotLoadType) :
    ((vdoPrepareSlabsForAllocation d z summary loadType).allocators z).allocatedBlocks =
        (d.allocators z).slabCount * d.dataBlocks -
          ((preparePlan d z summary loadType).map (queuedBlocks d)).sum ∧
    ((preparePlan d z summary loadType).map PrepareCall.slab).Nodup ∧
    (∀ n, n ∈ (preparePlan d z summary loadType).map PrepareCall.slab ↔ d.owns z n) ∧
    ((preparePlan d z summary loadType).map fun c => summaryStatus summary c.slab).Sorted
      PopsBefore ∧
    (∀ l, l.Perm (vdoGetSummarizedSlabStatuses summary d.slabCount) → l.Sorted PopsBefore →
      l = prepareOrder d summary) ∧
    (∀ c ∈ preparePlan d z summary loadType,
      (∃ n, c = .queue n ∧ (loadType = .rebuild ∨
        ((summary n).isDirty = false ∧ (summary n).loadRefCounts = false))) ∨
      (∃ n, c = .scrub n ((!(summary n).isDirty && loadType == .normal) ||
          (d.slabs n).journalRequiresScrubbing) ∧
        ¬(loadType = .rebuild ∨ ((summary n).isDirty = false ∧ (summary n).loadRefCounts = false)))) ∧
    (∀ a b, compareSlabStatuses a b = 1 ∨ compareSlabStatuses a b = -1) ∧
    (∀ a b, a.slabNumber ≠ b.slabNumber →
      (compareSlabStatuses a b = 1 ↔ compareSlabStatuses b a = -1)) ∧
    (∀ a b c, compareSlabStatuses a b = 1 → compareSlabStatuses b c = 1 →
      compareSlabStatuses a c = 1) := by
  have hnodup := preparePlan_nodup d z summary loadType
  obtain ⟨hcases, hanti, htrans, -⟩ := compareSlabStatuses_strictTotal
  refine ⟨?_, hnodup, fun n => mem_preparePlan_slab, ?_,
    fun l hl hs => heapOrder_unique (distinctSlabs_summarized _ _) hl hs, fun c => mem_preparePlan,
    hcases, hanti, htrans⟩
  · rw [vdoPrepareSlabsForAllocation, foldl_applyPrepareCall_allocated _ (d.updateAllocator z _)
      hnodup fun c hc => (mem_preparePlan_slab.1 (List.mem_map_of_mem _ hc)).2]
    simp only [SlabDepot.updateAllocator_allocators, if_pos rfl]
    rfl
  · rw [preparePlan_statuses]
    exact (heapOrder_sorted _ _ (distinctSlabs_summarized _ _)).sublist (List.filter_sublist _)

end Kvdo
