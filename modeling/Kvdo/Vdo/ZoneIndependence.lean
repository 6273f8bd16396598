/-
# The zones' threads do not interfere

Each block allocator runs on the thread of its physical zone: `vdo_allocate_block`, the
reference counts' reports through `vdo_adjust_free_block_count`, the slab journal's
entries, the scrubber and the drain and resume of `apply_to_slabs` all run there.  An
event of a zone (`ZoneEvent`, run by `zoneStep` as a step of `AllocatorStep` on a slab of
that zone) writes only its own zone (`SlabDepot.ZoneLocal`) and reads only its own zone:
from depots that agree on zone `z` (`SlabDepot.ZoneAgree`) it happens from both or from
neither, returns the same status and ends in depots that agree on zone `z` again
(`SlabDepot.ZoneAgree.zoneStep`).  For `vdo_allocate_block` this needs the open slab and
the table to hold only the zone's own slabs, which every reachable depot keeps
(`Placed`).  Read-only mode is the one thing the zones share: any of them may enter it,
and none reads it.

* `zoneStep_comm`: from every reachable depot, events of two different zones commute.
* `runSchedule_interleavings`: two schedules of the zones' threads that give every zone
  the same events in the same order run alike: every zone sees the same statuses, and
  both end in the same depot.
-/

import Kvdo.Vdo.AllocatorInvariant

namespace Kvdo

namespace SlabDepot

/-- `d₁` and `d₂` agree on what the thread of zone `z` reads: the slab size and count,
every slab's allocator, allocator `z`, and the records of `z`'s slabs. -/
structure ZoneAgree (d₁ d₂ : SlabDepot) (z : Nat) : Prop where
  dataBlocks : d₁.dataBlocks = d₂.dataBlocks
  slabCount : d₁.slabCount = d₂.slabCount
  allocator : ∀ m, (d₁.slabs m).allocator = (d₂.slabs m).allocator
  slabs : ∀ m, (d₁.slabs m).allocator = z → d₁.slabs m = d₂.slabs m
  allocators : d₁.allocators z = d₂.allocators z

/-- The same code of zone `z`, run from `d₁` and from `d₂`, ends in `d₁'` and `d₂'` that
agree on zone `z`, having entered read-only mode on the same condition. -/
structure SameRun (d₁ d₂ d₁' d₂' : SlabDepot) (z : Nat) : Prop where
  agree : ZoneAgree d₁' d₂' z
  readOnly : ∃ e, d₁'.readOnly = (d₁.readOnly || e) ∧ d₂'.readOnly = (d₂.readOnly || e)

namespace SameRun

variable {d₁ d₂ e₁ e₂ d₁' d₂' d₁'' d₂'' : SlabDepot} {z : Nat}

theorem trans (h : SameRun d₁ d₂ d₁' d₂' z) (h' : SameRun d₁' d₂' d₁'' d₂'' z) :
    SameRun d₁ d₂ d₁'' d₂'' z := by
  obtain ⟨e, h₁, h₂⟩ := h.readOnly
  obtain ⟨e', h₁', h₂'⟩ := h'.readOnly
  exact ⟨h'.agree, e || e', by rw [h₁', h₁, Bool.or_assoc], by rw [h₂', h₂, Bool.or_assoc]⟩

/-- A run from states no further into read-only mode than `d₁` and `d₂`. -/
theorem of_start (h : SameRun e₁ e₂ d₁' d₂' z) (h₁ : e₁.readOnly = d₁.readOnly)
    (h₂ : e₂.readOnly = d₂.readOnly) : SameRun d₁ d₂ d₁' d₂' z := by
  obtain ⟨e, h₁', h₂'⟩ := h.readOnly
  exact ⟨h.agree, e, by rw [h₁', h₁], by rw [h₂', h₂]⟩

end SameRun

namespace ZoneAgree

variable {d₁ d₂ d₃ : SlabDepot} {z n : Nat}

theorem symm (h : ZoneAgree d₁ d₂ z) : ZoneAgree d₂ d₁ z :=
  ⟨h.dataBlocks.symm, h.slabCount.symm, fun m => (h.allocator m).symm,
    fun m hm => (h.slabs m (by rwa [h.allocator])).symm, h.allocators.symm⟩

theorem trans (h : ZoneAgree d₁ d₂ z) (h' : ZoneAgree d₂ d₃ z) : ZoneAgree d₁ d₃ z :=
  ⟨h.dataBlocks.trans h'.dataBlocks, h.slabCount.trans h'.slabCount,
    fun m => (h.allocator m).trans (h'.allocator m),
    fun m hm => (h.slabs m hm).trans (h'.slabs m (by rwa [← h.allocator])),
    h.allocators.trans h'.allocators⟩

theorem unopened (h : ZoneAgree d₁ d₂ z) : d₁.unopened = d₂.unopened :=
  congrArg unopenedSlabPriority h.dataBlocks

theorem allocator_eq (h : ZoneAgree d₁ d₂ z) (hn : (d₁.slabs n).allocator = z) :
    (d₂.slabs n).allocator = z := h.allocator n ▸ hn

theorem updateAllocator (h : ZoneAgree d₁ d₂ z) (f : BlockAllocator → BlockAllocator) :
    ZoneAgree (d₁.updateAllocator z f) (d₂.updateAllocator z f) z :=
  ⟨h.dataBlocks, h.slabCount, h.allocator, h.slabs, by simp [h.allocators]⟩

theorem updateSlab (h : ZoneAgree d₁ d₂ z) (hn : (d₁.slabs n).allocator = z) {f : VdoSlab → VdoSlab}
    (hf : (f (d₁.slabs n)).allocator = (d₁.slabs n).allocator) :
    ZoneAgree (d₁.updateSlab n f) (d₂.updateSlab n f) z := by
  refine ⟨h.dataBlocks, h.slabCount, fun m => ?_, fun m hm => ?_, h.allocators⟩ <;>
    by_cases hm' : m = n
  · subst hm'; simp [h.slabs m hn]
  · simp [hm', h.allocator]
  · subst hm'; simp [h.slabs m hn]
  · simp only [updateSlab_slabs, if_neg hm'] at hm ⊢; exact h.slabs m hm

/-- Code that never enters read-only mode runs alike. -/
theorem sameRun {d₁' d₂' : SlabDepot} (h : ZoneAgree d₁' d₂' z) (h₁ : d₁'.readOnly = d₁.readOnly)
    (h₂ : d₂'.readOnly = d₂.readOnly) : SameRun d₁ d₂ d₁' d₂' z :=
  ⟨h, false, by simp [h₁], by simp [h₂]⟩

theorem prioritizeSlab (h : ZoneAgree d₁ d₂ z) (hn : (d₁.slabs n).allocator = z) :
    ZoneAgree (Kvdo.prioritizeSlab d₁ n) (Kvdo.prioritizeSlab d₂ n) z := by
  dsimp only [Kvdo.prioritizeSlab]
  rw [← h.slabs n hn, ← h.unopened, hn]
  exact updateAllocator (h.updateSlab hn rfl) _

theorem vdoRegisterSlabForScrubbing (h : ZoneAgree d₁ d₂ z) (hn : (d₁.slabs n).allocator = z)
    (high : Bool) :
    ZoneAgree (Kvdo.vdoRegisterSlabForScrubbing d₁ n high)
      (Kvdo.vdoRegisterSlabForScrubbing d₂ n high) z := by
  unfold Kvdo.vdoRegisterSlabForScrubbing
  rw [hn, h.allocator_eq hn]
  exact h.updateAllocator _

theorem vdoQueueSlab (h : ZoneAgree d₁ d₂ z) (hn : (d₁.slabs n).allocator = z) (resuming : Bool) :
    SameRun d₁ d₂ (Kvdo.vdoQueueSlab d₁ n resuming) (Kvdo.vdoQueueSlab d₂ n resuming) z := by
  dsimp only [Kvdo.vdoQueueSlab]
  rw [← h.slabs n hn, ← h.dataBlocks, hn]
  split_ifs
  · exact ⟨⟨rfl, h.slabCount, h.allocator, h.slabs, h.allocators⟩, true, by simp, by simp⟩
  · exact (h.vdoRegisterSlabForScrubbing hn false).sameRun rfl rfl
  · exact (h.prioritizeSlab hn).sameRun rfl rfl
  · exact ((h.updateAllocator _).prioritizeSlab hn).sameRun rfl rfl

theorem vdoAdjustFreeBlockCount (h : ZoneAgree d₁ d₂ z) (hn : (d₁.slabs n).allocator = z)
    (increment : Bool) :
    ZoneAgree (Kvdo.vdoAdjustFreeBlockCount d₁ n increment)
      (Kvdo.vdoAdjustFreeBlockCount d₂ n increment) z := by
  dsimp only [Kvdo.vdoAdjustFreeBlockCount]
  rw [hn, h.allocator_eq hn]
  simp only [updateAllocator_allocators, if_pos, updateAllocator_slabs, updateAllocator_unopened,
    h.allocators, h.slabs n hn, h.unopened]
  by_cases ho : (d₂.allocators z).openSlab = some n
  · simp only [if_pos ho]; exact h.updateAllocator _
  by_cases hp : (d₂.slabs n).priority = calculateSlabPriority d₂.unopened (d₂.slabs n)
  · simp only [if_neg ho, if_pos hp]; exact h.updateAllocator _
  simp only [if_neg ho, if_neg hp]
  exact ((h.updateAllocator _).updateAllocator _).prioritizeSlab hn

theorem allocateSlabBlock (h : ZoneAgree d₁ d₂ z) (hn : (d₁.slabs n).allocator = z)
    (search : SearchOutcome) :
    (Kvdo.allocateSlabBlock d₁ n search).1 = (Kvdo.allocateSlabBlock d₂ n search).1 ∧
      ZoneAgree (Kvdo.allocateSlabBlock d₁ n search).2
        (Kvdo.allocateSlabBlock d₂ n search).2 z := by
  unfold Kvdo.allocateSlabBlock
  rw [← h.slabs n hn]
  cases search with
  | found =>
    by_cases hF : (d₁.slabs n).freeBlocks = 0
    · simp only [vdoAllocateUnreferencedBlock, hF, if_true, true_and]
      exact h
    · simp only [vdoAllocateUnreferencedBlock, hF, if_false, true_and]
      exact (h.updateSlab hn rfl).vdoAdjustFreeBlockCount (by simpa using hn) false
  | ranOffEnd => exact ⟨rfl, h⟩
  | failed code => exact ⟨rfl, h⟩

theorem changeFreeBlockCount (h : ZoneAgree d₁ d₂ z) (hn : (d₁.slabs n).allocator = z)
    (increment : Bool) :
    ZoneAgree (Kvdo.changeFreeBlockCount d₁ n increment)
      (Kvdo.changeFreeBlockCount d₂ n increment) z :=
  vdoAdjustFreeBlockCount (h.updateSlab hn rfl) (by simpa using hn) increment

theorem addJournalEntry (h : ZoneAgree d₁ d₂ z) (hn : (d₁.slabs n).allocator = z) :
    ZoneAgree (Kvdo.addJournalEntry d₁ n) (Kvdo.addJournalEntry d₂ n) z :=
  h.updateSlab hn rfl

theorem finishScrubbing (h : ZoneAgree d₁ d₂ z) (hn : (d₁.slabs n).allocator = z)
    (freeBlocks : Nat) (journalBlank : Bool) :
    SameRun d₁ d₂ (Kvdo.finishScrubbing d₁ n freeBlocks journalBlank)
      (Kvdo.finishScrubbing d₂ n freeBlocks journalBlank) z := by
  simp only [Kvdo.finishScrubbing, hn, h.allocator_eq hn]
  refine SameRun.of_start (vdoQueueSlab ((h.updateAllocator _).updateSlab hn ?_) ?_ false) rfl rfl
  · rfl
  · simpa using hn

theorem owns (h : ZoneAgree d₁ d₂ z) (z' m : Nat) : d₁.owns z' m ↔ d₂.owns z' m := by
  rw [SlabDepot.owns, SlabDepot.owns, h.slabCount, h.allocator]

theorem slabsOf (h : ZoneAgree d₁ d₂ z) (z' : Nat) : Kvdo.slabsOf d₁ z' = Kvdo.slabsOf d₂ z' := by
  simp only [Kvdo.slabsOf, h.slabCount, h.allocator]

theorem detachSlabs (h : ZoneAgree d₁ d₂ z) :
    ZoneAgree (Kvdo.detachSlabs d₁ z) (Kvdo.detachSlabs d₂ z) z := by
  have hd : ∀ m, decide (d₁.owns z m) = decide (d₂.owns z m) := fun m =>
    decide_eq_decide.2 (h.owns z m)
  simp only [Kvdo.detachSlabs, hd]
  exact h.updateAllocator _

theorem drainBlockAllocator (h : ZoneAgree d₁ d₂ z) :
    ZoneAgree (Kvdo.drainBlockAllocator d₁ z) (Kvdo.drainBlockAllocator d₂ z) z :=
  h.detachSlabs.updateAllocator _

/-- `vdo_queue_slab` of zone `z`'s slabs, one after another. -/
theorem foldl_vdoQueueSlab (resuming : Bool) :
    ∀ (l : List Nat) {d₁ d₂ : SlabDepot}, ZoneAgree d₁ d₂ z →
      (∀ n ∈ l, (d₁.slabs n).allocator = z) →
      SameRun d₁ d₂ (l.foldl (fun d n => Kvdo.vdoQueueSlab d n resuming) d₁)
        (l.foldl (fun d n => Kvdo.vdoQueueSlab d n resuming) d₂) z
  | [], _, _, h, _ => h.sameRun rfl rfl
  | n :: l, _, _, h, hl => by
    have h₁ := h.vdoQueueSlab (hl n (List.mem_cons_self _ _)) resuming
    exact h₁.trans (foldl_vdoQueueSlab resuming l h₁.agree fun m hm => by
      rw [vdoQueueSlab_slabAllocator]; exact hl m (List.mem_cons_of_mem _ hm))

theorem resumeBlockAllocator (h : ZoneAgree d₁ d₂ z) :
    SameRun d₁ d₂ (Kvdo.resumeBlockAllocator d₁ z) (Kvdo.resumeBlockAllocator d₂ z) z := by
  unfold Kvdo.resumeBlockAllocator
  rw [h.slabsOf z]
  refine SameRun.trans ((h.detachSlabs.updateAllocator _).sameRun rfl rfl)
    (foldl_vdoQueueSlab true _ (h.detachSlabs.updateAllocator _) fun n hn =>
      (h.allocator n).trans (mem_slabsOf.1 hn).2)

/-- The same outcome of zone `z`'s code: the same status, and ends that agree on zone `z`. -/
def SameOutcome (z : Nat) (r₁ r₂ : Status × SlabDepot) : Prop :=
  r₁.1 = r₂.1 ∧ ZoneAgree r₁.2 r₂.2 z

theorem openNextSlab (h : ZoneAgree d₁ d₂ z)
    (hT : ∀ m ∈ (d₁.allocators z).tableSlabs, (d₁.slabs m).allocator = z) (search : SearchOutcome) :
    Option.Rel (SameOutcome z) (Kvdo.openNextSlab d₁ z search) (Kvdo.openNextSlab d₂ z search) := by
  unfold Kvdo.openNextSlab
  rw [← h.allocators]
  rcases hq : priorityTableDequeue (d₁.allocators z).prioritizedSlabs with _ | ⟨m, rest⟩
  · exact .none
  · have hm := hT m (List.mem_map.2 ⟨_, (priorityTableDequeue_spec hq).1.mem_iff.2
      (List.mem_cons_self _ _), rfl⟩)
    exact .some ((h.updateAllocator _).allocateSlabBlock hm search)

/-- **`vdo_allocate_block` reads only its own zone**, once its open slab and its table
hold only its own slabs. -/
theorem vdoAllocateBlock (h : ZoneAgree d₁ d₂ z) (hp : Placed d₁ z [])
    (first second : SearchOutcome) :
    Option.Rel (SameOutcome z) (Kvdo.vdoAllocateBlock d₁ z first second)
      (Kvdo.vdoAllocateBlock d₂ z first second) := by
  unfold Kvdo.vdoAllocateBlock
  rw [← h.allocators]
  rcases ho : (d₁.allocators z).openSlab with _ | n
  · exact h.openNextSlab (fun m hm => (hp.tableOwned m hm).2) second
  dsimp only
  have hn := (hp.openSlab n ho).1.2
  obtain ⟨hs, ha⟩ := h.allocateSlabBlock hn first
  rcases hr₁ : Kvdo.allocateSlabBlock d₁ n first with ⟨s, e₁⟩
  rcases hr₂ : Kvdo.allocateSlabBlock d₂ n first with ⟨s₂, e₂⟩
  rw [hr₁, hr₂] at hs ha
  obtain rfl : s = s₂ := hs
  cases s
  case noSpace =>
    rw [allocateSlabBlock_noSpace hr₁, allocateSlabBlock_noSpace hr₂]
    exact (h.prioritizeSlab hn).openNextSlab (fun m hm => ((hp.closeOpenSlab ho).tableOwned m
      (by simpa [SlabDepot.withoutOpenSlab, BlockAllocator.tableSlabs] using hm)).2) second
  all_goals exact .some ⟨rfl, ha⟩

end ZoneAgree

variable {d d' : SlabDepot} {z w : Nat}

/-- An event of zone `z` changes nothing any other zone reads. -/
theorem ZoneLocal.zoneAgree (h : ZoneLocal d d' z) (hw : w ≠ z) : ZoneAgree d d' w :=
  ⟨h.dataBlocks.symm, h.slabCount.symm, fun m => (h.allocator m).symm,
    fun m hm => (h.slabs m (hm ▸ hw)).symm, (h.allocators w hw).symm⟩

/-- Two depots that agree on every zone, on their zone count and on read-only mode are
the same. -/
theorem eq_of_zoneAgree (hz : d.zoneCount = d'.zoneCount) (hro : d.readOnly = d'.readOnly)
    (h : ∀ w, ZoneAgree d d' w) : d = d' := by
  cases d
  cases d'
  simp only [mk.injEq]
  exact ⟨(h 0).dataBlocks, hz, (h 0).slabCount, funext fun m => (h _).slabs m rfl,
    funext fun w => (h w).allocators, hro⟩

end SlabDepot

open SlabDepot

@[simp] theorem vdoAdjustFreeBlockCount_readOnly (d : SlabDepot) (n : Nat) (increment : Bool) :
    (vdoAdjustFreeBlockCount d n increment).readOnly = d.readOnly := by
  rcases vdoAdjustFreeBlockCount_cases d n increment with h | h <;> rw [h] <;> rfl

@[simp] theorem allocateSlabBlock_readOnly (d : SlabDepot) (n : Nat) (search : SearchOutcome) :
    (allocateSlabBlock d n search).2.readOnly = d.readOnly := by
  rcases allocateSlabBlock_spec d n search with ⟨-, -, -, h⟩ | ⟨-, h, -⟩ <;> simp [h]

theorem openNextSlab_readOnly {d : SlabDepot} {z : Nat} {search : SearchOutcome}
    {r : Status × SlabDepot} (h : openNextSlab d z search = some r) :
    r.2.readOnly = d.readOnly := by
  obtain ⟨m, rest, -, rfl⟩ := openNextSlab_eq_some h
  simp

/-- `vdo_allocate_block` never enters read-only mode. -/
theorem vdoAllocateBlock_readOnly {d : SlabDepot} {z : Nat} {first second : SearchOutcome}
    {r : Status × SlabDepot} (h : vdoAllocateBlock d z first second = some r) :
    r.2.readOnly = d.readOnly := by
  rcases vdoAllocateBlock_cases h with ⟨-, hr⟩ | ⟨n, -, ⟨-, rfl⟩ | ⟨-, hr⟩⟩
  · exact openNextSlab_readOnly hr
  · simp
  · exact (openNextSlab_readOnly hr).trans (prioritizeSlab_readOnly d n)

/-- The events of one zone's thread: the calls into `block-allocator.c` that run on the
thread of the allocator they name. -/
inductive ZoneEvent where
  /-- `vdo_allocate_block`, with where its two searches end. -/
  | allocate (first second : SearchOutcome)
  /-- A free block count change of slab `n`, told with `vdo_adjust_free_block_count`. -/
  | changeFreeCount (n : Nat) (increment : Bool)
  /-- Slab `n`'s journal takes an entry that frees or claims no block. -/
  | addJournalEntry (n : Nat)
  /-- The scrubber has replayed slab `n`. -/
  | finishScrubbing (n freeBlocks : Nat) (journalBlank : Bool)
  /-- A drain of the allocator. -/
  | drain
  /-- A resume of the allocator. -/
  | resume
  deriving DecidableEq, Repr

/-- Event `e` on the thread of zone `z`, from depot `d`: the status it returns, for an
allocation, and the depot after it; `none` where it cannot happen there, on a slab of
another zone or where its step of `AllocatorStep` is not allowed. -/
def zoneStep (d : SlabDepot) (z : Nat) : ZoneEvent → Option (Option Status × SlabDepot)
  | .allocate first second =>
    if second = .ranOffEnd then none
    else (vdoAllocateBlock d z first second).map fun r => (some r.1, r.2)
  | .changeFreeCount n increment =>
    if (d.slabs n).allocator = z ∧ d.InService n ∧
        (if increment then (d.slabs n).freeBlocks < d.dataBlocks else 0 < (d.slabs n).freeBlocks)
    then some (none, changeFreeBlockCount d n increment) else none
  | .addJournalEntry n =>
    if (d.slabs n).allocator = z ∧ d.InService n then some (none, addJournalEntry d n) else none
  | .finishScrubbing n freeBlocks journalBlank =>
    if (d.slabs n).allocator = z ∧ n ∈ (d.allocators z).scrubbing then
      some (none, finishScrubbing d n freeBlocks journalBlank)
    else none
  | .drain =>
    if (d.allocators z).quiescent = false then some (none, drainBlockAllocator d z) else none
  | .resume =>
    if (d.allocators z).quiescent = true then some (none, resumeBlockAllocator d z) else none

/-- What an event of zone `z` does: it is a step of the allocators, and touches only zone
`z` once zone `z` keeps its slabs in place. -/
theorem zoneStep_spec {d : SlabDepot} {z : Nat} {e : ZoneEvent} {r : Option Status × SlabDepot}
    (h : zoneStep d z e = some r) : AllocatorStep d r.2 ∧ (Placed d z [] → d.ZoneLocal r.2 z) := by
  cases e with
  | allocate first second =>
    obtain ⟨hs, h⟩ := Option.ite_none_left_eq_some.1 h
    obtain ⟨r', hr', rfl⟩ := Option.map_eq_some'.1 h
    exact ⟨.allocate hs hr', fun hp => hp.zoneLocal_vdoAllocateBlock hr'⟩
  | changeFreeCount n increment =>
    obtain ⟨hg, ⟨⟩⟩ := Option.ite_none_right_eq_some.1 h
    exact ⟨.changeFreeCount hg.2.1 hg.2.2, fun _ => .changeFreeBlockCount hg.1 increment⟩
  | addJournalEntry n =>
    obtain ⟨hg, ⟨⟩⟩ := Option.ite_none_right_eq_some.1 h
    exact ⟨.addJournalEntry hg.2, fun _ => .addJournalEntry hg.1⟩
  | finishScrubbing n freeBlocks journalBlank =>
    obtain ⟨hg, ⟨⟩⟩ := Option.ite_none_right_eq_some.1 h
    exact ⟨.finishScrubbing (hg.1 ▸ hg.2), fun _ => .finishScrubbing hg.1 freeBlocks journalBlank⟩
  | drain =>
    obtain ⟨hg, ⟨⟩⟩ := Option.ite_none_right_eq_some.1 h
    exact ⟨.drain hg, fun _ => .drainBlockAllocator d z⟩
  | resume =>
    obtain ⟨hg, ⟨⟩⟩ := Option.ite_none_right_eq_some.1 h
    exact ⟨.resume hg, fun _ => .resumeBlockAllocator d z⟩

/-- Related options stay related under maps that respect the relation. -/
theorem rel_map {α β γ δ : Type} {R : α → β → Prop} {S : γ → δ → Prop} {f : α → γ} {g : β → δ}
    {a : Option α} {b : Option β} (h : Option.Rel R a b)
    (hfg : ∀ x y, a = some x → b = some y → R x y → S (f x) (g y)) :
    Option.Rel S (a.map f) (b.map g) := by
  cases h with
  | none => exact .none
  | some hxy => exact .some (hfg _ _ rfl rfl hxy)

/-- Two guarded results with equivalent guards. -/
theorem rel_ite {α : Type} {R : α → α → Prop} {c₁ c₂ : Prop} [Decidable c₁] [Decidable c₂]
    (hc : c₁ ↔ c₂) {a₁ a₂ : α} (hr : c₁ → R a₁ a₂) :
    Option.Rel R (if c₁ then some a₁ else none) (if c₂ then some a₂ else none) := by
  by_cases h₁ : c₁
  · rw [if_pos h₁, if_pos (hc.1 h₁)]; exact .some (hr h₁)
  · rw [if_neg h₁, if_neg (mt hc.2 h₁)]; exact .none

namespace SlabDepot.ZoneAgree

variable {d₁ d₂ : SlabDepot} {z n : Nat}

theorem inService (h : ZoneAgree d₁ d₂ z) (hn : (d₁.slabs n).allocator = z) :
    d₁.InService n ↔ d₂.InService n := by
  simp only [SlabDepot.InService, hn, h.allocator_eq hn, h.allocators]

/-- **An event of zone `z` reads only zone `z`.**  From depots that agree on zone `z`,
where zone `z` keeps its slabs in place, an event of zone `z` can happen from both or
from neither, and then returns the same status and ends in depots that agree on zone `z`,
having entered read-only mode on the same condition. -/
theorem zoneStep (h : ZoneAgree d₁ d₂ z) (hp : Placed d₁ z []) (e : ZoneEvent) :
    Option.Rel (fun r₁ r₂ => r₁.1 = r₂.1 ∧ SameRun d₁ d₂ r₁.2 r₂.2 z)
      (Kvdo.zoneStep d₁ z e) (Kvdo.zoneStep d₂ z e) := by
  cases e <;> simp only [Kvdo.zoneStep]
  case allocate first second =>
    split_ifs
    · exact .none
    · exact rel_map (h.vdoAllocateBlock hp first second) fun x y hx hy hxy =>
        ⟨congrArg some hxy.1,
          hxy.2.sameRun (vdoAllocateBlock_readOnly hx) (vdoAllocateBlock_readOnly hy)⟩
  case changeFreeCount n increment =>
    apply rel_ite
    · rw [← h.allocator n]
      exact and_congr_right fun hn => by simp only [h.inService hn, h.slabs n hn, h.dataBlocks]
    · intro hg
      exact ⟨rfl, (h.changeFreeBlockCount hg.1 increment).sameRun
        (by simp [Kvdo.changeFreeBlockCount]) (by simp [Kvdo.changeFreeBlockCount])⟩
  case addJournalEntry n =>
    apply rel_ite
    · rw [← h.allocator n]
      exact and_congr_right h.inService
    · intro hg
      exact ⟨rfl, (h.addJournalEntry hg.1).sameRun rfl rfl⟩
  case finishScrubbing n freeBlocks journalBlank =>
    apply rel_ite
    · rw [← h.allocator n, h.allocators]
    · intro hg
      exact ⟨rfl, h.finishScrubbing hg.1 freeBlocks journalBlank⟩
  case drain =>
    exact rel_ite (by rw [h.allocators]) fun _ => ⟨rfl, h.drainBlockAllocator.sameRun rfl rfl⟩
  case resume =>
    exact rel_ite (by rw [h.allocators]) fun _ => ⟨rfl, h.resumeBlockAllocator⟩

end SlabDepot.ZoneAgree

/-- What a present result is related to. -/
theorem rel_some_left {α β : Type} {R : α → β → Prop} {x : α} {b : Option β}
    (h : Option.Rel R (some x) b) : ∃ y, b = some y ∧ R x y := by
  cases h with
  | some hxy => exact ⟨_, rfl, hxy⟩

/-- An absent result is related only to an absent one. -/
theorem rel_none_left {α β : Type} {R : α → β → Prop} {b : Option β} (h : Option.Rel R none b) :
    b = none := by
  cases h
  rfl

section Independence

variable {d : SlabDepot} {z z' : Nat}

/-- The two orders of an event of zone `z` and one of zone `z'` end in the same depot. -/
theorem eq_of_diamond {d₁ d₂ d₁₂ d₂₁ : SlabDepot} (hz : z ≠ z') (hl₁ : d.ZoneLocal d₁ z)
    (hl₂ : d.ZoneLocal d₂ z') (hl₁₂ : d₁.ZoneLocal d₁₂ z') (hl₂₁ : d₂.ZoneLocal d₂₁ z)
    (hs₁ : SameRun d d₁ d₂ d₁₂ z') (hs₂ : SameRun d d₂ d₁ d₂₁ z) : d₁₂ = d₂₁ := by
  obtain ⟨a, ha₁, ha₂⟩ := hs₂.readOnly
  obtain ⟨b, hb₂, hb₁₂⟩ := hs₁.readOnly
  refine eq_of_zoneAgree (by rw [hl₁₂.zoneCount, hl₁.zoneCount, hl₂₁.zoneCount, hl₂.zoneCount])
    (by rw [hb₁₂, ha₁, ha₂, hb₂, Bool.or_right_comm]) fun w => ?_
  by_cases hwz : w = z
  · subst hwz
    exact (hl₁₂.zoneAgree hz).symm.trans hs₂.agree
  by_cases hwz' : w = z'
  · subst hwz'
    exact hs₁.agree.symm.trans (hl₂₁.zoneAgree (Ne.symm hz))
  exact (hl₁₂.zoneAgree hwz').symm.trans
    ((hl₁.zoneAgree hwz).symm.trans ((hl₂.zoneAgree hwz').trans (hl₂₁.zoneAgree hwz)))

/-- **Events of two zones commute.**  From every reachable depot, an event of zone `z`
and one of another zone `z'` can happen one after the other in one order exactly when
they can in the other, and then each returns the same status and both orders end in the
same depot. -/
theorem zoneStep_comm (hd : Reachable d) (hz : z ≠ z') (e e' : ZoneEvent) :
    (zoneStep d z e).bind (fun r => (zoneStep r.2 z' e').map fun r' => (r.1, r'.1, r'.2)) =
      (zoneStep d z' e').bind fun r' => (zoneStep r'.2 z e).map fun r => (r.1, r'.1, r.2) := by
  have hp := hd.inv.placed
  rcases hA : zoneStep d z e with _ | ⟨a, d₁⟩ <;> rcases hB : zoneStep d z' e' with _ | ⟨b, d₂⟩
  · rfl
  · have c := (((zoneStep_spec hB).2 (hp z')).zoneAgree hz).zoneStep (hp z) e
    rw [hA] at c
    simp [rel_none_left c]
  · have c := (((zoneStep_spec hA).2 (hp z)).zoneAgree (Ne.symm hz)).zoneStep (hp z') e'
    rw [hB] at c
    simp [rel_none_left c]
  have hl₁ := (zoneStep_spec hA).2 (hp z)
  have hl₂ := (zoneStep_spec hB).2 (hp z')
  have c₁ := (hl₁.zoneAgree (Ne.symm hz)).zoneStep (hp z') e'
  have c₂ := (hl₂.zoneAgree hz).zoneStep (hp z) e
  rw [hB] at c₁
  rw [hA] at c₂
  obtain ⟨⟨b', d₁₂⟩, h₁₂, rfl, hs₁⟩ := rel_some_left c₁
  obtain ⟨⟨a', d₂₁⟩, h₂₁, rfl, hs₂⟩ := rel_some_left c₂
  have hr₁ := (hd.step (zoneStep_spec hA).1).inv.placed z'
  have hr₂ := (hd.step (zoneStep_spec hB).1).inv.placed z
  simp only [Option.some_bind, h₁₂, h₂₁, Option.map_some']
  exact congrArg (fun d' => some (a, b, d'))
    (eq_of_diamond hz hl₁ hl₂ ((zoneStep_spec h₁₂).2 hr₁) ((zoneStep_spec h₂₁).2 hr₂) hs₁ hs₂)

/-- `zoneStep_comm`, followed by any continuation. -/
theorem zoneStep_comm_bind {β : Type} (hd : Reachable d) (hz : z ≠ z') (e e' : ZoneEvent)
    (g : Option Status → Option Status → SlabDepot → Option β) :
    (zoneStep d z e).bind (fun r => (zoneStep r.2 z' e').bind fun r' => g r.1 r'.1 r'.2) =
      (zoneStep d z' e').bind fun r' => (zoneStep r'.2 z e).bind fun r => g r.1 r'.1 r.2 := by
  have h := congrArg (fun x => x.bind fun t => g t.1 t.2.1 t.2.2) (zoneStep_comm hd hz e e')
  simpa only [Option.bind_assoc, Option.bind_map, Function.comp_def] using h

/-- A schedule of the zones' threads run from `d`: each entry names a zone and the event
its thread runs next.  The log holds each event's zone and status; `none` where an event
cannot happen. -/
def runSchedule (d : SlabDepot) :
    List (Nat × ZoneEvent) → Option (List (Nat × Option Status) × SlabDepot)
  | [] => some ([], d)
  | (z, e) :: s => (zoneStep d z e).bind fun r =>
    (runSchedule r.2 s).map fun t => ((z, r.1) :: t.1, t.2)

/-- The entries of a schedule, or of a log, that belong to zone `z`, in order. -/
def onZone {α : Type} (z : Nat) (l : List (Nat × α)) : List α :=
  l.filterMap fun p => if p.1 = z then some p.2 else none

/-- What each zone saw of a run, and the depot the run ended in. -/
def zoneViews (r : List (Nat × Option Status) × SlabDepot) :
    (Nat → List (Option Status)) × SlabDepot :=
  (fun z => onZone z r.1, r.2)

/-- Zone `z` sees one more status. -/
def consView (z : Nat) (x : Option Status) (v : (Nat → List (Option Status)) × SlabDepot) :
    (Nat → List (Option Status)) × SlabDepot :=
  (fun w => if z = w then x :: v.1 w else v.1 w, v.2)

section OnZone

variable {α : Type} {w : Nat}

theorem onZone_cons (p : Nat × α) (l : List (Nat × α)) :
    onZone w (p :: l) = if p.1 = w then p.2 :: onZone w l else onZone w l := by
  unfold onZone
  rw [List.filterMap_cons]
  split_ifs <;> rfl

theorem onZone_append (l l' : List (Nat × α)) : onZone w (l ++ l') = onZone w l ++ onZone w l' :=
  List.filterMap_append ..

theorem onZone_eq_nil {l : List (Nat × α)} (h : ∀ p ∈ l, p.1 ≠ w) : onZone w l = [] :=
  List.filterMap_eq_nil_iff.2 fun p hp => if_neg (h p hp)

/-- The first entry of zone `w` splits a list. -/
theorem onZone_eq_cons {x : α} {rest : List α} :
    ∀ {l : List (Nat × α)}, onZone w l = x :: rest →
      ∃ u v, l = u ++ (w, x) :: v ∧ (∀ p ∈ u, p.1 ≠ w) ∧ onZone w v = rest
  | [], h => by cases h
  | p :: l, h => by
    rw [onZone_cons] at h
    by_cases hp : p.1 = w
    · rw [if_pos hp] at h
      obtain ⟨rfl, rfl⟩ := List.cons.inj h
      exact ⟨[], l, by rw [← hp]; rfl, by simp, rfl⟩
    · rw [if_neg hp] at h
      obtain ⟨u, v, rfl, hu, hv⟩ := onZone_eq_cons h
      exact ⟨p :: u, v, rfl, by simpa [hp] using hu, hv⟩

end OnZone

theorem zoneViews_cons (z : Nat) (x : Option Status) (t : List (Nat × Option Status) × SlabDepot) :
    zoneViews ((z, x) :: t.1, t.2) = consView z x (zoneViews t) := by
  simp only [zoneViews, consView, onZone_cons]

theorem consView_comm (hz : z ≠ z') (x y : Option Status)
    (v : (Nat → List (Option Status)) × SlabDepot) :
    consView z x (consView z' y v) = consView z' y (consView z x v) := by
  simp only [consView, Prod.mk.injEq, and_true]
  funext w
  by_cases hw : z = w <;> by_cases hw' : z' = w
  · exact absurd (hw.trans hw'.symm) hz
  all_goals simp [hw, hw']

theorem runSchedule_cons (z : Nat) (e : ZoneEvent) (s : List (Nat × ZoneEvent)) :
    (runSchedule d ((z, e) :: s)).map zoneViews =
      (zoneStep d z e).bind fun r => ((runSchedule r.2 s).map zoneViews).map (consView z r.1) := by
  simp only [runSchedule, Option.map_bind, Option.map_map, Function.comp_def, zoneViews_cons]

/-- Schedules that run alike from every reachable depot still do after a first event. -/
theorem runSchedule_cons_congr (hd : Reachable d) {s s' : List (Nat × ZoneEvent)}
    (h : ∀ d', Reachable d' → (runSchedule d' s).map zoneViews = (runSchedule d' s').map zoneViews)
    (z : Nat) (e : ZoneEvent) :
    (runSchedule d ((z, e) :: s)).map zoneViews = (runSchedule d ((z, e) :: s')).map zoneViews := by
  rw [runSchedule_cons, runSchedule_cons]
  rcases hA : zoneStep d z e with _ | r
  · rfl
  · simp only [Option.some_bind, h r.2 (hd.step (zoneStep_spec hA).1)]

/-- Two adjacent events of different zones can be swapped. -/
theorem runSchedule_swap (hd : Reachable d) (hz : z ≠ z') (e e' : ZoneEvent)
    (s : List (Nat × ZoneEvent)) :
    (runSchedule d ((z, e) :: (z', e') :: s)).map zoneViews =
      (runSchedule d ((z', e') :: (z, e) :: s)).map zoneViews := by
  simp only [runSchedule_cons, Option.map_bind, Option.map_map, Function.comp_def]
  rw [zoneStep_comm_bind hd hz e e'
    fun a b d' => (runSchedule d' s).map fun t => consView z a (consView z' b (zoneViews t))]
  simp only [consView_comm hz]

/-- An event can be moved in front of events of other zones. -/
theorem runSchedule_toFront {u : List (Nat × ZoneEvent)} (hu : ∀ p ∈ u, p.1 ≠ z)
    (e : ZoneEvent) (v : List (Nat × ZoneEvent)) :
    ∀ {d : SlabDepot}, Reachable d → (runSchedule d (u ++ (z, e) :: v)).map zoneViews =
      (runSchedule d ((z, e) :: (u ++ v))).map zoneViews := by
  induction u with
  | nil => intro d _; rfl
  | cons p u ih =>
    intro d hd
    obtain ⟨w, e'⟩ := p
    calc (runSchedule d ((w, e') :: (u ++ (z, e) :: v))).map zoneViews
        = (runSchedule d ((w, e') :: (z, e) :: (u ++ v))).map zoneViews :=
          runSchedule_cons_congr hd
            (fun _ hd' => ih (fun p hp => hu p (List.mem_cons_of_mem _ hp)) hd') w e'
      _ = (runSchedule d ((z, e) :: (w, e') :: (u ++ v))).map zoneViews :=
          runSchedule_swap hd (hu (w, e') (List.mem_cons_self _ _)) e' e (u ++ v)

/-- **The zones' threads can interleave in any order.**  From every reachable depot, two
schedules that give every zone the same events in the same order both run, or neither
does; and then every zone sees the same statuses, and both end in the same depot. -/
theorem runSchedule_interleavings :
    ∀ (s₁ s₂ : List (Nat × ZoneEvent)) {d : SlabDepot}, Reachable d →
      (∀ z, onZone z s₁ = onZone z s₂) →
      (runSchedule d s₁).map zoneViews = (runSchedule d s₂).map zoneViews
  | [], [], _, _, _ => rfl
  | [], p :: s₂, _, _, hs => by
    have h := hs p.1
    rw [onZone_cons, if_pos rfl] at h
    cases h
  | (z, e) :: t, s₂, d, hd, hs => by
    have h := hs z
    rw [onZone_cons, if_pos rfl] at h
    obtain ⟨u, v, rfl, hu, hv⟩ := onZone_eq_cons h.symm
    rw [runSchedule_toFront hu e v hd]
    refine runSchedule_cons_congr hd
      (fun _ hd' => runSchedule_interleavings t (u ++ v) hd' fun w => ?_) z e
    by_cases hw : z = w
    · subst hw
      rw [onZone_append, onZone_eq_nil hu, hv, List.nil_append]
    · simpa [onZone_cons, onZone_append, hw] using hs w

end Independence

/-- A depot of two four-block slabs in two zones, loaded and prepared: slab `n` belongs to
zone `n`. -/
def twoZoneDepot : SlabDepot :=
  prepareSlabDepotToAllocate (decodeSlabDepot 4 2 2 fun _ => ⟨0, 4, true, false, 0, false⟩)
    (fun _ _ => ⟨false, 0, false⟩) .normal

/-- An allocation in each zone, then a drain of zone `1`. -/
def allocateBoth : List (Nat × ZoneEvent) :=
  [(0, .allocate .found .found), (1, .allocate .found .found), (1, .drain)]

/-- `allocateBoth` with zone `1`'s allocation first. -/
def allocateBothSwapped : List (Nat × ZoneEvent) :=
  [(1, .allocate .found .found), (0, .allocate .found .found), (1, .drain)]

example : (runSchedule twoZoneDepot allocateBoth).map Prod.fst =
    some [(0, some .success), (1, some .success), (1, none)] := by
  decide

theorem runSchedule_interleavings_twoZones :
    Reachable twoZoneDepot ∧ (∀ z, onZone z allocateBoth = onZone z allocateBothSwapped) ∧
      (runSchedule twoZoneDepot allocateBoth).map zoneViews =
        (runSchedule twoZoneDepot allocateBothSwapped).map zoneViews := by
  have hR : Reachable twoZoneDepot :=
    @Reachable.prepared 4 2 2 (fun _ => ⟨0, 4, true, false, 0, false⟩)
      (fun _ _ => ⟨false, 0, false⟩) .normal (by decide)
  have hP : ∀ z, onZone z allocateBoth = onZone z allocateBothSwapped := fun z => by
    by_cases h0 : 0 = z <;> by_cases h1 : 1 = z <;>
      simp [allocateBoth, allocateBothSwapped, onZone_cons, h0, h1, onZone]
  exact ⟨hR, hP, runSchedule_interleavings _ _ hR hP⟩

end Kvdo
