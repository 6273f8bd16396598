/-
# An allocation round of an allocating vio

`allocating-vio.c` looks for a free block for a data vio zone by zone.  A round starts
with `allocation_attempts = 0`, from `vio_allocate_data_block` in the zone the selector
gives, or from `retry_allocate_block_in_zone` once a scrubbed slab wakes the vio.  Each
call of `allocate_block_in_zone` counts an attempt and asks its zone's allocator for a
block; on `VDO_NO_SPACE`, `try_next_zone` asks `should_try_next_zone` whether to go on in
the next zone.  After `Z` attempts (`has_zones_to_try`) the vio turns to waiting for a
clean slab: it sets `wait_for_clean_slab`, restarts the count at `1`, and from then on
asks each zone's scrubber to queue it (`enqueue_for_clean_vdo_slab`) before moving on.

The zones' answers are arbitrary (`ZoneAnswers`): the `j`-th call of `vdo_allocate_block`
in the round answers `allocate j`, the `j`-th call of `enqueue_for_clean_vdo_slab`
answers `enqueue j`.  The round is the loop of `allocate_block_in_zone` calls, each unit
of fuel one call; `2 * Z` calls always suffice.

`RoundHead` describes the vio before each call: in the first pass (`PhaseA`) the zones
tried so far, from the start zone on, all answered `VDO_NO_SPACE`; in the waiting pass
(`PhaseB`) each zone since the pass began answered `VDO_NO_SPACE` from both its
allocator and its scrubber.  From it, every round ends in exactly one of
`finish_allocation` and a queued wait, after at most `2Z - 1` allocator calls and `Z`
scrubber calls (`RoundGuarantee`).
-/

import Kvdo.Status

namespace Kvdo

/-- The fields of a `struct allocating_vio` a round reads and writes: its physical zone
(by number), `allocation_attempts`, `wait_for_clean_slab` and `allocation`, where
`VDO_ZERO_BLOCK` is `0`. -/
structure AllocatingVio where
  zone : Nat
  allocationAttempts : Nat
  waitForCleanSlab : Bool
  allocation : Nat
  deriving DecidableEq, Repr

/-- What a round does that the rest of the VDO sees. -/
inductive RoundEvent where
  /-- The block allocator of zone `zone` answers `vdo_allocate_block` with `result`. -/
  | allocate (zone : Nat) (result : Status)
  /-- The scrubber of zone `zone` answers `enqueue_for_clean_vdo_slab` with `result`;
  `VDO_SUCCESS` means the vio is queued as a waiter. -/
  | enqueue (zone : Nat) (result : Status)
  /-- `finish_allocation` continues the vio's completion with `result`. -/
  | finish (result : Status)
  deriving DecidableEq, Repr

namespace RoundEvent

def isAllocate : RoundEvent → Bool
  | .allocate _ _ => true
  | _ => false

def isEnqueue : RoundEvent → Bool
  | .enqueue _ _ => true
  | _ => false

/-- The round ends here: the vio's completion is continued, or the vio is queued. -/
def ends : RoundEvent → Bool
  | .finish _ => true
  | .enqueue _ .success => true
  | _ => false

@[simp] theorem isAllocate_allocate (z : Nat) (r : Status) : (allocate z r).isAllocate = true := rfl
@[simp] theorem isAllocate_enqueue (z : Nat) (r : Status) : (enqueue z r).isAllocate = false := rfl
@[simp] theorem isAllocate_finish (r : Status) : (finish r).isAllocate = false := rfl
@[simp] theorem isEnqueue_allocate (z : Nat) (r : Status) : (allocate z r).isEnqueue = false := rfl
@[simp] theorem isEnqueue_enqueue (z : Nat) (r : Status) : (enqueue z r).isEnqueue = true := rfl
@[simp] theorem isEnqueue_finish (r : Status) : (finish r).isEnqueue = false := rfl
@[simp] theorem ends_allocate (z : Nat) (r : Status) : (allocate z r).ends = false := rfl
@[simp] theorem ends_finish (r : Status) : (finish r).ends = true := rfl

@[simp] theorem ends_enqueue (z : Nat) (r : Status) :
    (enqueue z r).ends = decide (r = .success) := by
  cases r <;> rfl

end RoundEvent

/-- The answers of what a round calls: of each call of `vdo_allocate_block` in turn, a
result and the block it allocates on success; of each call of
`enqueue_for_clean_vdo_slab` in turn; and of `attempt_pbn_write_lock`. -/
structure ZoneAnswers where
  allocate : Nat → Status × Nat
  enqueue : Nat → Status
  lock : Status

/-- A round in progress: the vio and what the round has done so far. -/
structure AllocationRound where
  vio : AllocatingVio
  events : List RoundEvent
  deriving DecidableEq, Repr

section Round

variable (zoneCount : Nat) (ans : ZoneAnswers)

/-- `has_zones_to_try`. -/
def hasZonesToTry (v : AllocatingVio) : Bool := v.allocationAttempts < zoneCount

/-- `finish_allocation`: `VDO_NO_SPACE` is not an error, since the vio may still
deduplicate. -/
def finishAllocation (s : AllocationRound) (result : Status) : AllocationRound :=
  { s with events := s.events ++ [.finish (if result = .noSpace then .success else result)] }

/-- `should_try_next_zone`: go on to the next zone, or stop, the vio queued or its
allocation finished. -/
def shouldTryNextZone (s : AllocationRound) : AllocationRound × Bool :=
  if s.vio.waitForCleanSlab = false ∧ hasZonesToTry zoneCount s.vio = true then (s, true)
  else
    let v := if s.vio.waitForCleanSlab then s.vio
      else { s.vio with waitForCleanSlab := true, allocationAttempts := 1 }
    let result := ans.enqueue (s.events.countP RoundEvent.isEnqueue)
    let s := { s with vio := v, events := s.events ++ [.enqueue v.zone result] }
    if result = .success then (s, false)
    else if result ≠ .noSpace ∨ hasZonesToTry zoneCount s.vio = false then
      (finishAllocation s result, false)
    else (s, true)

/-- `allocate_block_in_zone`, up to `try_next_zone`'s decision whether to go on in the
next zone. -/
def allocateInZone (s : AllocationRound) : AllocationRound × Bool :=
  let v := { s.vio with allocationAttempts := s.vio.allocationAttempts + 1 }
  let answer := ans.allocate (s.events.countP RoundEvent.isAllocate)
  let s := { s with vio := v, events := s.events ++ [.allocate v.zone answer.1] }
  if answer.1 = .noSpace then shouldTryNextZone zoneCount ans s
  else if answer.1 = .success then
    (finishAllocation { s with vio := { s.vio with allocation := answer.2 } } ans.lock, false)
  else (finishAllocation s answer.1, false)

/-- `try_next_zone`'s move to the next zone, wrapping at the zone count. -/
def moveToNextZone (s : AllocationRound) : AllocationRound :=
  { s with vio := { s.vio with
    zone := if s.vio.zone + 1 = zoneCount then 0 else s.vio.zone + 1 } }

@[simp] theorem moveToNextZone_events (s : AllocationRound) :
    (moveToNextZone zoneCount s).events = s.events := rfl

@[simp] theorem moveToNextZone_zone (s : AllocationRound) :
    (moveToNextZone zoneCount s).vio.zone =
      if s.vio.zone + 1 = zoneCount then 0 else s.vio.zone + 1 := rfl

@[simp] theorem moveToNextZone_allocationAttempts (s : AllocationRound) :
    (moveToNextZone zoneCount s).vio.allocationAttempts = s.vio.allocationAttempts := rfl

@[simp] theorem moveToNextZone_waitForCleanSlab (s : AllocationRound) :
    (moveToNextZone zoneCount s).vio.waitForCleanSlab = s.vio.waitForCleanSlab := rfl

@[simp] theorem moveToNextZone_allocation (s : AllocationRound) :
    (moveToNextZone zoneCount s).vio.allocation = s.vio.allocation := rfl

/-- The calls of `allocate_block_in_zone` of a round, each launched by the previous one's
`try_next_zone`; each unit of `fuel` is one call. -/
def allocateBlockInZone : Nat → AllocationRound → AllocationRound
  | 0, s => s
  | fuel + 1, s =>
    match allocateInZone zoneCount ans s with
    | (s, true) => allocateBlockInZone fuel (moveToNextZone zoneCount s)
    | (s, false) => s

/-- `vio_allocate_data_block` in zone `zone`: a round from no attempt and
`VDO_ZERO_BLOCK`. -/
def vioAllocateDataBlock (v : AllocatingVio) (zone : Nat) : AllocationRound :=
  allocateBlockInZone zoneCount ans (2 * zoneCount)
    ⟨{ v with allocationAttempts := 0, allocation := 0, zone }, []⟩

/-- `retry_allocate_block_in_zone`: a new round in the vio's zone, no longer waiting. -/
def retryAllocateBlockInZone (v : AllocatingVio) : AllocationRound :=
  allocateBlockInZone zoneCount ans (2 * zoneCount)
    ⟨{ v with waitForCleanSlab := false, allocationAttempts := 0 }, []⟩

end Round

/-- What a round from `v` guarantees once it has stopped in `s`: at most `2Z - 1` calls
of `vdo_allocate_block` and `Z` of `enqueue_for_clean_vdo_slab`, all on zones below `Z`;
exactly one ending, the last event, either `finish_allocation` or a queued wait; and a
finish without a block (every allocator call failed, the vio's completion continued with
`VDO_SUCCESS`) keeps the vio's allocation and comes only after every zone's allocator
and every zone's scrubber answered `VDO_NO_SPACE`. -/
structure RoundGuarantee (zoneCount : Nat) (v : AllocatingVio) (s : AllocationRound) : Prop where
  allocateCalls : s.events.countP RoundEvent.isAllocate ≤ 2 * zoneCount - 1
  enqueueCalls : s.events.countP RoundEvent.isEnqueue ≤ zoneCount
  zones : ∀ z r, (.allocate z r ∈ s.events ∨ .enqueue z r ∈ s.events) → z < zoneCount
  ends : ∃ pre e, s.events = pre ++ [e] ∧ e.ends = true ∧ ∀ e' ∈ pre, e'.ends = false
  noBlock : (∀ z r, .allocate z r ∈ s.events → r ≠ .success) → .finish .success ∈ s.events →
    s.vio.allocation = v.allocation ∧
      ∀ z < zoneCount, .allocate z .noSpace ∈ s.events ∧ .enqueue z .noSpace ∈ s.events

section Proofs

variable {zoneCount : Nat} {ans : ZoneAnswers} {v₀ : AllocatingVio}

theorem exists_add_mod_eq (b : Nat) {z : Nat} (hz : z < zoneCount) :
    ∃ i < zoneCount, (b + i) % zoneCount = z := by
  have hZ : 0 < zoneCount := by omega
  have h1 := Nat.div_add_mod b zoneCount
  have h2 : b % zoneCount < zoneCount := Nat.mod_lt _ hZ
  refine ⟨(z + zoneCount - b % zoneCount) % zoneCount, Nat.mod_lt _ hZ, ?_⟩
  have : b + (z + zoneCount - b % zoneCount) = z + zoneCount * (b / zoneCount + 1) := by
    rw [Nat.mul_add, Nat.mul_one]; omega
  rw [Nat.add_mod_mod, this, Nat.add_mul_mod_self_left, Nat.mod_eq_of_lt hz]

theorem nextZone_eq {z : Nat} (hz : z < zoneCount) :
    (if z + 1 = zoneCount then 0 else z + 1) = (z + 1) % zoneCount := by
  split_ifs with h
  · rw [h, Nat.mod_self]
  · rw [Nat.mod_eq_of_lt (by omega)]

theorem nextZone_lt {z : Nat} (hz : z < zoneCount) :
    (if z + 1 = zoneCount then 0 else z + 1) < zoneCount := by
  rw [nextZone_eq hz]; exact Nat.mod_lt _ (by omega)

/-- The first pass: no wait yet, and the `a` zones from the start zone on answered
`VDO_NO_SPACE`. -/
def PhaseA (zoneCount : Nat) (v₀ : AllocatingVio) (s : AllocationRound) : Prop :=
  s.vio.waitForCleanSlab = false ∧
    s.vio.zone = (v₀.zone + s.vio.allocationAttempts) % zoneCount ∧
    s.events.countP RoundEvent.isAllocate = s.vio.allocationAttempts ∧
    s.events.countP RoundEvent.isEnqueue = 0 ∧
    ∀ i < s.vio.allocationAttempts, .allocate ((v₀.zone + i) % zoneCount) .noSpace ∈ s.events

/-- The waiting pass: the `a` zones from some zone `b` on answered `VDO_NO_SPACE` from
their allocator and their scrubber. -/
def PhaseB (zoneCount : Nat) (s : AllocationRound) : Prop :=
  s.vio.waitForCleanSlab = true ∧ ∃ b,
    s.vio.zone = (b + s.vio.allocationAttempts) % zoneCount ∧
    s.events.countP RoundEvent.isAllocate + 1 ≤ zoneCount + s.vio.allocationAttempts ∧
    s.events.countP RoundEvent.isEnqueue = s.vio.allocationAttempts ∧
    ∀ i < s.vio.allocationAttempts,
      .allocate ((b + i) % zoneCount) .noSpace ∈ s.events ∧
      .enqueue ((b + i) % zoneCount) .noSpace ∈ s.events

/-- The vio before a call of `allocate_block_in_zone`: in a zone, with attempts left;
its allocation as the round found it; every answer so far `VDO_NO_SPACE` from a zone
below `Z`; and in one of the two passes. -/
structure RoundHead (zoneCount : Nat) (v₀ : AllocatingVio) (s : AllocationRound) : Prop where
  zone_lt : s.vio.zone < zoneCount
  attempts_lt : s.vio.allocationAttempts < zoneCount
  allocation : s.vio.allocation = v₀.allocation
  noSpace : ∀ e ∈ s.events, ∃ z < zoneCount, e = .allocate z .noSpace ∨ e = .enqueue z .noSpace
  phase : PhaseA zoneCount v₀ s ∨ PhaseB zoneCount s

/-- The calls left to a round: the rest of the first pass and a waiting pass, or the
rest of the waiting pass. -/
def callsLeft (zoneCount : Nat) (s : AllocationRound) : Nat :=
  if s.vio.waitForCleanSlab then zoneCount - s.vio.allocationAttempts
  else 2 * zoneCount - 1 - s.vio.allocationAttempts

/-- What one call of `allocate_block_in_zone` from `s` leads to: a head in the next zone
with fewer calls left, or the end of the round. -/
def StepOutcome (zoneCount : Nat) (v₀ : AllocatingVio) (s : AllocationRound) :
    AllocationRound × Bool → Prop
  | (s', true) => RoundHead zoneCount v₀ (moveToNextZone zoneCount s') ∧
      callsLeft zoneCount (moveToNextZone zoneCount s') < callsLeft zoneCount s
  | (s', false) => RoundGuarantee zoneCount v₀ s'

namespace RoundHead

variable {s : AllocationRound}

theorem not_ends (h : RoundHead zoneCount v₀ s) : ∀ e ∈ s.events, e.ends = false := by
  intro e he
  obtain ⟨z, -, rfl | rfl⟩ := h.noSpace e he <;> rfl

theorem no_finish (h : RoundHead zoneCount v₀ s) (r : Status) : RoundEvent.finish r ∉ s.events :=
  fun he => by obtain ⟨z', -, h' | h'⟩ := h.noSpace _ he <;> cases h'

theorem counts (h : RoundHead zoneCount v₀ s) :
    s.events.countP RoundEvent.isAllocate + 1 ≤ 2 * zoneCount - 1 ∧
      s.events.countP RoundEvent.isEnqueue + 1 ≤ zoneCount := by
  have := h.attempts_lt
  rcases h.phase with ⟨-, -, ha, he, -⟩ | ⟨-, b, -, ha, he, -⟩ <;> omega

end RoundHead

theorem RoundHead.zones {s : AllocationRound} (h : RoundHead zoneCount v₀ s) {z : Nat}
    {r : Status} (hz : .allocate z r ∈ s.events ∨ .enqueue z r ∈ s.events) : z < zoneCount := by
  rcases hz with hz | hz <;> obtain ⟨z', hz', h'⟩ := h.noSpace _ hz <;> simp_all

/-- A head's round that stops with the events `pre ++ [e]` of one call in the head's
zone. -/
theorem RoundGuarantee.of_stop {s : AllocationRound} (h : RoundHead zoneCount v₀ s)
    (pre : List RoundEvent) (e : RoundEvent) {v : AllocatingVio}
    (hzone : ∀ z r, (.allocate z r ∈ pre ++ [e] ∨ .enqueue z r ∈ pre ++ [e]) → z = s.vio.zone)
    (hcalls : (pre ++ [e]).countP RoundEvent.isAllocate ≤ 1 ∧
      (pre ++ [e]).countP RoundEvent.isEnqueue ≤ 1)
    (he : e.ends = true) (hpre : ∀ e' ∈ pre, e'.ends = false)
    (hnb : (∀ z r, .allocate z r ∈ s.events ++ (pre ++ [e]) → r ≠ .success) →
      .finish .success ∈ s.events ++ (pre ++ [e]) →
      v.allocation = v₀.allocation ∧ ∀ z < zoneCount,
        .allocate z .noSpace ∈ s.events ++ (pre ++ [e]) ∧
          .enqueue z .noSpace ∈ s.events ++ (pre ++ [e])) :
    RoundGuarantee zoneCount v₀ ⟨v, s.events ++ (pre ++ [e])⟩ := by
  have hc := h.counts
  refine ⟨?_, ?_, fun z r hz => ?_, ⟨s.events ++ pre, e, by simp, he, fun e' he' => ?_⟩, hnb⟩
  · simp only [List.countP_append] at hcalls ⊢; omega
  · simp only [List.countP_append] at hcalls ⊢; omega
  · by_cases hr : .allocate z r ∈ pre ++ [e] ∨ .enqueue z r ∈ pre ++ [e]
    · exact hzone z r hr ▸ h.zone_lt
    · rw [not_or] at hr
      exact h.zones (hz.imp (fun h' => (List.mem_append.1 h').resolve_right hr.1)
        (fun h' => (List.mem_append.1 h').resolve_right hr.2))
  · rcases List.mem_append.1 he' with he' | he'
    · exact h.not_ends e' he'
    · exact hpre e' he'

namespace RoundHead

variable {ev : List RoundEvent} {z a al : Nat} {w : Bool}

theorem noSpace_append (h : RoundHead zoneCount v₀ ⟨⟨z, a, w, al⟩, ev⟩) (rest : List RoundEvent)
    (hrest : ∀ e ∈ rest, e = .allocate z .noSpace ∨ e = .enqueue z .noSpace) :
    ∀ e ∈ ev ++ rest, ∃ z < zoneCount, e = .allocate z .noSpace ∨ e = .enqueue z .noSpace := by
  intro e he
  rcases List.mem_append.1 he with he | he
  · exact h.noSpace e he
  · exact ⟨z, h.zone_lt, hrest e he⟩

/-- The first pass goes on in the next zone. -/
theorem next_first (h : RoundHead zoneCount v₀ ⟨⟨z, a, false, al⟩, ev⟩) (ha : a + 1 < zoneCount) :
    StepOutcome zoneCount v₀ ⟨⟨z, a, false, al⟩, ev⟩
      (⟨⟨z, a + 1, false, al⟩, ev ++ [.allocate z .noSpace]⟩, true) := by
  obtain ⟨-, hzA, hcA, hqA, hcovA⟩ | ⟨hw, -⟩ := h.phase
  swap; · cases hw
  refine ⟨⟨nextZone_lt h.zone_lt, ha, h.allocation, h.noSpace_append _ (by simp),
    .inl ⟨rfl, ?_, by simp [hcA], by simp [hqA], fun i hi => ?_⟩⟩, ?_⟩
  · show (if z + 1 = zoneCount then 0 else z + 1) = (v₀.zone + (a + 1)) % zoneCount
    rw [nextZone_eq h.zone_lt, hzA, Nat.mod_add_mod, Nat.add_assoc]
  · rcases Nat.lt_succ_iff_lt_or_eq.1 hi with hi | rfl
    · exact List.mem_append_left _ (hcovA i hi)
    · simp [← hzA]
  · simp only [callsLeft, moveToNextZone_waitForCleanSlab, moveToNextZone_allocationAttempts]
    simp; omega
/-- After the first pass, the waiting pass begins in the next zone. -/
theorem next_wait_first (h : RoundHead zoneCount v₀ ⟨⟨z, a, false, al⟩, ev⟩)
    (ha : ¬a + 1 < zoneCount) (h1 : 1 < zoneCount) :
    StepOutcome zoneCount v₀ ⟨⟨z, a, false, al⟩, ev⟩
      (⟨⟨z, 1, true, al⟩, ev ++ [.allocate z .noSpace, .enqueue z .noSpace]⟩, true) := by
  obtain ⟨-, -, hcA, hqA, -⟩ | ⟨hw, -⟩ := h.phase
  swap; · cases hw
  have hz : z < zoneCount := h.zone_lt
  have hlt : a < zoneCount := h.attempts_lt
  dsimp only at hcA
  refine ⟨⟨nextZone_lt hz, h1, h.allocation, h.noSpace_append _ (by simp),
    .inr ⟨rfl, z, nextZone_eq hz, ?_, by simp [hqA], fun i hi => ?_⟩⟩, ?_⟩
  · simp [hcA]; omega
  · obtain rfl : i = 0 := by simpa using hi
    simp [Nat.mod_eq_of_lt hz]
  · simp [callsLeft]; omega

/-- The waiting pass goes on in the next zone. -/
theorem next_wait (h : RoundHead zoneCount v₀ ⟨⟨z, a, true, al⟩, ev⟩) (ha : a + 1 < zoneCount) :
    StepOutcome zoneCount v₀ ⟨⟨z, a, true, al⟩, ev⟩
      (⟨⟨z, a + 1, true, al⟩, ev ++ [.allocate z .noSpace, .enqueue z .noSpace]⟩, true) := by
  obtain ⟨hw, -⟩ | ⟨-, b, hzB, hcB, hqB, hcovB⟩ := h.phase
  · cases hw
  dsimp only at hcB
  refine ⟨⟨nextZone_lt h.zone_lt, ha, h.allocation, h.noSpace_append _ (by simp),
    .inr ⟨rfl, b, ?_, ?_, by simp [hqB], fun i hi => ?_⟩⟩, ?_⟩
  · show (if z + 1 = zoneCount then 0 else z + 1) = (b + (a + 1)) % zoneCount
    rw [nextZone_eq h.zone_lt, hzB, Nat.mod_add_mod, Nat.add_assoc]
  · simp; omega
  · rcases Nat.lt_succ_iff_lt_or_eq.1 hi with hi | rfl
    · exact (hcovB i hi).imp (List.mem_append_left _) (List.mem_append_left _)
    · simp [← hzB]
  · simp [callsLeft]; omega

variable {r : Status}

/-- The first pass over a single zone found nothing, nor did that zone's scrubber. -/
theorem finish_first (h : RoundHead zoneCount v₀ ⟨⟨z, a, false, al⟩, ev⟩) (h1 : ¬1 < zoneCount) :
    RoundGuarantee zoneCount v₀
      ⟨⟨z, 1, true, al⟩, ev ++ [.allocate z .noSpace, .enqueue z .noSpace, .finish .success]⟩ := by
  have hz : z < zoneCount := h.zone_lt
  refine RoundGuarantee.of_stop h [.allocate z .noSpace, .enqueue z .noSpace] (.finish .success)
    (by simp +contextual [or_imp]) (by simp) rfl (by simp)
    fun _ _ => ⟨h.allocation, fun z' hz' => ?_⟩
  obtain rfl : z' = z := by omega
  simp

/-- The waiting pass ends in its last zone: every zone's allocator and scrubber found
nothing. -/
theorem finish_wait (h : RoundHead zoneCount v₀ ⟨⟨z, a, true, al⟩, ev⟩) (ha : ¬a + 1 < zoneCount) :
    RoundGuarantee zoneCount v₀
      ⟨⟨z, a + 1, true, al⟩, ev ++ [.allocate z .noSpace, .enqueue z .noSpace, .finish .success]⟩ := by
  obtain ⟨hw, -⟩ | ⟨-, b, hzB, -, -, hcovB⟩ := h.phase
  · cases hw
  have hlt : a < zoneCount := h.attempts_lt
  refine RoundGuarantee.of_stop h [.allocate z .noSpace, .enqueue z .noSpace] (.finish .success)
    (by simp +contextual [or_imp]) (by simp) rfl (by simp)
    fun _ _ => ⟨h.allocation, fun z' hz' => ?_⟩
  obtain ⟨i, hi, rfl⟩ := exists_add_mod_eq b hz'
  rcases Nat.lt_or_ge i a with hi' | hi'
  · exact (hcovB i hi').imp (List.mem_append_left _) (List.mem_append_left _)
  · obtain rfl : i = a := by omega
    simp [← hzB]

/-- The allocator found a block. -/
theorem allocated (h : RoundHead zoneCount v₀ ⟨⟨z, a, w, al⟩, ev⟩) (blk : Nat) (lock : Status) :
    RoundGuarantee zoneCount v₀ ⟨⟨z, a + 1, w, blk⟩, ev ++ [.allocate z .success, .finish lock]⟩ :=
  RoundGuarantee.of_stop h [.allocate z .success] (.finish lock) (by simp +contextual [or_imp]) (by simp) rfl
    (by simp)
    fun hno _ => absurd rfl (hno z .success (by simp))

/-- The allocator failed with an error other than `VDO_NO_SPACE`. -/
theorem allocateFailed (h : RoundHead zoneCount v₀ ⟨⟨z, a, w, al⟩, ev⟩) (hr : r ≠ .success) :
    RoundGuarantee zoneCount v₀ ⟨⟨z, a + 1, w, al⟩, ev ++ [.allocate z r, .finish r]⟩ :=
  RoundGuarantee.of_stop h [.allocate z r] (.finish r) (by simp +contextual [or_imp]) (by simp) rfl (by simp)
    fun _ hf => by simp [h.no_finish, hr.symm] at hf

/-- The vio was queued to wait for a clean slab. -/
theorem queued (h : RoundHead zoneCount v₀ ⟨⟨z, a, w, al⟩, ev⟩) (v : AllocatingVio) :
    RoundGuarantee zoneCount v₀ ⟨v, ev ++ [.allocate z .noSpace, .enqueue z .success]⟩ :=
  RoundGuarantee.of_stop h [.allocate z .noSpace] (.enqueue z .success) (by simp +contextual [or_imp])
    (by simp) rfl (by simp)
    fun _ hf => by simp [h.no_finish] at hf

/-- The scrubber failed with an error other than `VDO_NO_SPACE`. -/
theorem enqueueFailed (h : RoundHead zoneCount v₀ ⟨⟨z, a, w, al⟩, ev⟩) (v : AllocatingVio)
    (hr : r ≠ .success) :
    RoundGuarantee zoneCount v₀ ⟨v, ev ++ [.allocate z .noSpace, .enqueue z r, .finish r]⟩ :=
  RoundGuarantee.of_stop h [.allocate z .noSpace, .enqueue z r] (.finish r) (by simp +contextual [or_imp])
    (by simp) rfl (by simp [hr])
    fun _ hf => by simp [h.no_finish, hr.symm] at hf

end RoundHead

/-- **One call of `allocate_block_in_zone`** from a head goes on to a head in the next
zone with fewer calls left, or ends the round with its guarantee. -/
theorem RoundHead.allocateInZone_step {s : AllocationRound} (h : RoundHead zoneCount v₀ s) :
    StepOutcome zoneCount v₀ s (allocateInZone zoneCount ans s) := by
  obtain ⟨⟨z, a, w, al⟩, ev⟩ := s
  simp only [allocateInZone, shouldTryNextZone, hasZonesToTry, finishAllocation, List.countP_append,
    List.countP_singleton, RoundEvent.isEnqueue_allocate]
  generalize ans.allocate (ev.countP RoundEvent.isAllocate) = A
  generalize ans.enqueue _ = q
  obtain ⟨r, blk⟩ := A
  cases w <;> simp only [Bool.false_eq_true, Bool.true_eq_false, if_false, if_true, true_and,
    false_and, decide_eq_true_eq, decide_eq_false_iff_not, ne_eq, not_false_eq_true,
    List.append_assoc, List.cons_append, List.nil_append]
  case false =>
    split_ifs with hr ha hq hfin hns hs
    · subst hr; exact h.next_first ha
    · subst hr hq; exact h.queued _
    · subst hr hns; exact h.finish_first (hfin.resolve_left (not_not.2 rfl))
    · subst hr; exact h.enqueueFailed _ hq
    · subst hr
      push_neg at hfin
      obtain ⟨rfl, h1⟩ := hfin
      exact h.next_wait_first ha h1
    · subst hs; exact h.allocated _ _
    · subst hs; exact h.allocated _ _
    · exact h.allocateFailed hs
  case true =>
    split_ifs with hr hq hfin hns hs
    · subst hr hq; exact h.queued _
    · subst hr hns; exact h.finish_wait (hfin.resolve_left (not_not.2 rfl))
    · subst hr; exact h.enqueueFailed _ hq
    · subst hr
      push_neg at hfin
      obtain ⟨rfl, ha⟩ := hfin
      exact h.next_wait ha
    · subst hs; exact h.allocated _ _
    · subst hs; exact h.allocated _ _
    · exact h.allocateFailed hs


/-- **A round from a head**, given a unit of fuel more than the calls it has left, ends
with its guarantee. -/
theorem RoundHead.allocateBlockInZone_guarantee {s : AllocationRound}
    (h : RoundHead zoneCount v₀ s) {fuel : Nat} (hf : callsLeft zoneCount s < fuel) :
    RoundGuarantee zoneCount v₀ (allocateBlockInZone zoneCount ans fuel s) := by
  induction fuel generalizing s with
  | zero => omega
  | succ fuel ih =>
    have hstep : StepOutcome zoneCount v₀ s (allocateInZone zoneCount ans s) :=
      h.allocateInZone_step
    simp only [allocateBlockInZone]
    generalize allocateInZone zoneCount ans s = res at hstep ⊢
    obtain ⟨s', _ | _⟩ := res
    · exact hstep
    · obtain ⟨hnext, hlt⟩ := hstep
      exact ih hnext (by omega)

/-- A vio about to make its first call: no attempt yet, in a zone below `Z`. -/
theorem RoundHead.start (v : AllocatingVio) (h0 : v.allocationAttempts = 0)
    (hz : v.zone < zoneCount) : RoundHead zoneCount v ⟨v, []⟩ where
  zone_lt := hz
  attempts_lt := h0 ▸ Nat.zero_lt_of_lt hz
  allocation := rfl
  noSpace := by simp
  phase := by
    cases hw : v.waitForCleanSlab
    · exact .inl ⟨hw, by simp [h0, Nat.mod_eq_of_lt hz], by simp [h0], rfl, by simp [h0]⟩
    · exact .inr ⟨hw, v.zone, by simp [h0, Nat.mod_eq_of_lt hz], by simp [h0]; omega, by simp [h0],
        by simp [h0]⟩

theorem callsLeft_start (hZ : 0 < zoneCount) (v : AllocatingVio) :
    callsLeft zoneCount ⟨v, []⟩ < 2 * zoneCount := by
  unfold callsLeft; split <;> omega

/-- **An allocation round**, started by `vio_allocate_data_block` in a zone below `Z` or by
`retry_allocate_block_in_zone` for a vio in such a zone, whatever every zone's allocator
and scrubber answers: at most `2Z - 1` allocator and `Z` scrubber calls, on zones below
`Z`; exactly one ending, `finish_allocation` or a queued wait; and a finish without a block
keeps the round's starting allocation (`VDO_ZERO_BLOCK` from `vio_allocate_data_block`)
after every zone's allocator and scrubber answered `VDO_NO_SPACE`. -/
theorem allocationRound_guarantee (ans : ZoneAnswers) (v : AllocatingVio) {zone : Nat}
    (hz : zone < zoneCount) (hv : v.zone < zoneCount) :
    RoundGuarantee zoneCount { v with allocationAttempts := 0, allocation := 0, zone }
        (vioAllocateDataBlock zoneCount ans v zone) ∧
      RoundGuarantee zoneCount { v with waitForCleanSlab := false, allocationAttempts := 0 }
        (retryAllocateBlockInZone zoneCount ans v) := by
  have hZ : 0 < zoneCount := Nat.zero_lt_of_lt hz
  exact ⟨(RoundHead.start { v with allocationAttempts := 0, allocation := 0, zone } rfl hz
      ).allocateBlockInZone_guarantee (callsLeft_start hZ _),
    (RoundHead.start { v with waitForCleanSlab := false, allocationAttempts := 0 } rfl hv
      ).allocateBlockInZone_guarantee (callsLeft_start hZ _)⟩

end Proofs

/-- Every allocator and scrubber out of space, the lock granted. -/
def exhaustedAnswers : ZoneAnswers := ⟨fun _ => (.noSpace, 0), fun _ => .noSpace, .success⟩

/-- A vio of zone `1`, not waiting, with no allocation. -/
def idleVio : AllocatingVio := ⟨1, 0, false, 0⟩

/-- Two zones out of space: the first pass tries zones `1` and `0`, the waiting pass
zones `0` and `1`, then the vio finishes without a block. -/
example : vioAllocateDataBlock 2 exhaustedAnswers idleVio 1 =
    ⟨⟨1, 2, true, 0⟩, [.allocate 1 .noSpace, .allocate 0 .noSpace, .enqueue 0 .noSpace,
      .allocate 1 .noSpace, .enqueue 1 .noSpace, .finish .success]⟩ := by decide

theorem allocationRound_guarantee_exhausted :
    RoundGuarantee 2 { idleVio with allocationAttempts := 0, allocation := 0, zone := 1 }
        (vioAllocateDataBlock 2 exhaustedAnswers idleVio 1) ∧
      RoundGuarantee 2 { idleVio with waitForCleanSlab := false, allocationAttempts := 0 }
        (retryAllocateBlockInZone 2 exhaustedAnswers idleVio) :=
  allocationRound_guarantee exhaustedAnswers idleVio (by decide) (by decide)


end Kvdo
