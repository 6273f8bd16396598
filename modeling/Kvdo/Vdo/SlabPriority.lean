/-
# The priority of a slab

`calculate_slab_priority` (`block-allocator.c`, lines 70-107) ranks the slabs waiting
in an allocator's priority table:

| free blocks `F` | slab journal | priority |
| --- | --- | --- |
| `0` | any | `0` |
| `> 0` | blank | `U = unopened_slab_priority` |
| `> 0` | written | `p = 1 + log2 F` if `p < U`, else `p + 1` |

`allocate_components` (lines 209-284) sizes the table with `max_priority = 2 + log2 D`
and sets `U = 1 + log2 (3D / 4)`, for `D = slab_config.data_blocks`.  `log_base_two`
(`num-utils.h`, not in the sources) is the index of the highest set bit, taken as `0` at
`0`; the model computes it by halving (`logBaseTwo`), which is `Nat.log 2`
(`logBaseTwo_eq_log`), and the policy is stated with `Nat.log 2`.

The table below `U` and above it: a written slab never lands in the unopened bucket,
full slabs alone sit in bucket `0`, and nothing passes `max_priority`
(`calculateSlabPriority_spec`).
-/

import Kvdo.Status
import Mathlib.Data.Nat.Log

namespace Kvdo

/-- `log_base_two` with an explicit bound on the number of halvings. -/
def logBaseTwoFrom : Nat → Nat → Nat
  | 0, _ => 0
  | fuel + 1, n => if n < 2 then 0 else logBaseTwoFrom fuel (n / 2) + 1

/-- `log_base_two`: the index of the highest set bit of `n`, `0` for `n ≤ 1`. -/
def logBaseTwo (n : Nat) : Nat := logBaseTwoFrom n n

theorem logBaseTwoFrom_eq_log : ∀ fuel n, n ≤ fuel → logBaseTwoFrom fuel n = Nat.log 2 n
  | 0, n, h => by simp [logBaseTwoFrom, Nat.le_zero.1 h]
  | fuel + 1, n, h => by
    unfold logBaseTwoFrom
    split_ifs with hn
    · exact (Nat.log_of_lt hn).symm
    · rw [logBaseTwoFrom_eq_log fuel (n / 2) (by omega)]
      exact (Nat.log_of_one_lt_of_le (by norm_num) (by omega)).symm

theorem logBaseTwo_eq_log (n : Nat) : logBaseTwo n = Nat.log 2 n :=
  logBaseTwoFrom_eq_log n n le_rfl

theorem logBaseTwo_mono {m n : Nat} (h : m ≤ n) : logBaseTwo m ≤ logBaseTwo n := by
  simpa only [logBaseTwo_eq_log] using Nat.log_mono_right h

/-- The `unopened_slab_priority` of `allocate_components`. -/
def unopenedSlabPriority (dataBlocks : Nat) : Nat := 1 + logBaseTwo (dataBlocks * 3 / 4)

/-- The `max_priority` given to `make_priority_table` by `allocate_components`. -/
def maxPriority (dataBlocks : Nat) : Nat := 2 + logBaseTwo dataBlocks

/-- A slab, with the fields the allocator reads and writes: its allocator (by zone
number), `get_slab_free_block_count`, `vdo_is_slab_journal_blank`,
`vdo_slab_journal_requires_scrubbing`, `slab->priority` and `vdo_is_unrecovered_slab`. -/
structure VdoSlab where
  allocator : Nat
  freeBlocks : Nat
  journalBlank : Bool
  journalRequiresScrubbing : Bool
  priority : Nat
  unrecovered : Bool
  deriving DecidableEq, Repr

/-- `calculate_slab_priority`, with the allocator's `unopened_slab_priority`. -/
def calculateSlabPriority (unopened : Nat) (slab : VdoSlab) : Nat :=
  if slab.freeBlocks = 0 then 0
  else if slab.journalBlank then unopened
  else if 1 + logBaseTwo slab.freeBlocks < unopened then 1 + logBaseTwo slab.freeBlocks
  else 1 + logBaseTwo slab.freeBlocks + 1

/-- The logarithmic bucket of a written slab, with the unopened bucket stepped over. -/
def writtenPriority (unopened freeBlocks : Nat) : Nat :=
  if 1 + logBaseTwo freeBlocks < unopened then 1 + logBaseTwo freeBlocks
  else 1 + logBaseTwo freeBlocks + 1

theorem calculateSlabPriority_written {unopened : Nat} {slab : VdoSlab}
    (hF : slab.freeBlocks ≠ 0) (hb : slab.journalBlank = false) :
    calculateSlabPriority unopened slab = writtenPriority unopened slab.freeBlocks := by
  simp [calculateSlabPriority, writtenPriority, hF, hb]

theorem calculateSlabPriority_blank {unopened : Nat} {slab : VdoSlab}
    (hF : slab.freeBlocks ≠ 0) (hb : slab.journalBlank = true) :
    calculateSlabPriority unopened slab = unopened := by
  simp [calculateSlabPriority, hF, hb]

/-- The priority a slab is given does not depend on the one it had. -/
@[simp] theorem calculateSlabPriority_withPriority (unopened : Nat) (slab : VdoSlab) (p : Nat) :
    calculateSlabPriority unopened { slab with priority := p } =
      calculateSlabPriority unopened slab := rfl

theorem unopenedSlabPriority_pos (D : Nat) : 1 ≤ unopenedSlabPriority D := by
  unfold unopenedSlabPriority; omega

theorem unopenedSlabPriority_le_maxPriority (D : Nat) :
    unopenedSlabPriority D ≤ maxPriority D := by
  have := logBaseTwo_mono (show D * 3 / 4 ≤ D by omega)
  unfold unopenedSlabPriority maxPriority; omega

theorem writtenPriority_pos (unopened F : Nat) : 1 ≤ writtenPriority unopened F := by
  unfold writtenPriority; split_ifs <;> omega

theorem writtenPriority_ne_unopened (unopened F : Nat) : writtenPriority unopened F ≠ unopened := by
  unfold writtenPriority; split_ifs <;> omega

/-- The written buckets are strictly increasing in `log2 F`. -/
theorem writtenPriority_lt {unopened F G : Nat} (h : logBaseTwo F < logBaseTwo G) :
    writtenPriority unopened F < writtenPriority unopened G := by
  unfold writtenPriority; split_ifs <;> omega

theorem calculateSlabPriority_eq_zero_iff (unopened : Nat) (slab : VdoSlab) (hU : 1 ≤ unopened) :
    calculateSlabPriority unopened slab = 0 ↔ slab.freeBlocks = 0 := by
  by_cases hF : slab.freeBlocks = 0
  · simp [calculateSlabPriority, hF]
  · cases hb : slab.journalBlank
    · have := writtenPriority_pos unopened slab.freeBlocks
      rw [calculateSlabPriority_written hF hb]; omega
    · rw [calculateSlabPriority_blank hF hb]; omega

theorem calculateSlabPriority_le_maxPriority {D : Nat} (slab : VdoSlab) (hF : slab.freeBlocks ≤ D) :
    calculateSlabPriority (unopenedSlabPriority D) slab ≤ maxPriority D := by
  have hU := unopenedSlabPriority_le_maxPriority D
  have hlog := logBaseTwo_mono hF
  unfold calculateSlabPriority maxPriority at *
  split_ifs <;> omega

/-- The priority policy of `calculate_slab_priority` for a slab of an allocator whose
slabs have `D` data blocks, stated with `Nat.log 2` for `log2` and with `U = 1 + log2 (3D/4)`
and `max_priority = 2 + log2 D`, the values `allocate_components` computes: the priority
lies in `[0, max_priority]` and is `0` exactly for a full slab; a blank journal with free
blocks gives `U`, and `1 ≤ U ≤ max_priority`; a written journal with free blocks never
gives `U`, and among written slabs with free blocks the priority is strictly increasing in
`log2 F`, equal logarithms giving equal priorities. -/
def PriorityPolicy (D : Nat) (slab : VdoSlab) : Prop :=
  let U := 1 + Nat.log 2 (D * 3 / 4)
  let maxPriority := 2 + Nat.log 2 D
  let priority (s : VdoSlab) := calculateSlabPriority (unopenedSlabPriority D) s
  priority slab ≤ maxPriority ∧
  (priority slab = 0 ↔ slab.freeBlocks = 0) ∧
  (slab.journalBlank = true → slab.freeBlocks ≠ 0 →
    priority slab = U ∧ 1 ≤ U ∧ U ≤ maxPriority) ∧
  (slab.journalBlank = false → slab.freeBlocks ≠ 0 → priority slab ≠ U) ∧
  (∀ other : VdoSlab, slab.journalBlank = false → other.journalBlank = false →
    slab.freeBlocks ≠ 0 → other.freeBlocks ≠ 0 →
    (Nat.log 2 slab.freeBlocks < Nat.log 2 other.freeBlocks → priority slab < priority other) ∧
    (Nat.log 2 slab.freeBlocks = Nat.log 2 other.freeBlocks → priority slab = priority other))

/-- **`calculate_slab_priority` follows its policy** for every slab size `D`, every free
block count `F ≤ D` and either journal state. -/
theorem calculateSlabPriority_spec (D : Nat) (slab : VdoSlab) (hF : slab.freeBlocks ≤ D) :
    PriorityPolicy D slab := by
  -- the policy's `Nat.log 2` is the code's `log_base_two`
  simp only [PriorityPolicy, ← logBaseTwo_eq_log]
  refine ⟨calculateSlabPriority_le_maxPriority slab hF,
    calculateSlabPriority_eq_zero_iff _ slab (unopenedSlabPriority_pos D),
    fun hb h0 => ⟨calculateSlabPriority_blank h0 hb, unopenedSlabPriority_pos D,
      unopenedSlabPriority_le_maxPriority D⟩,
    fun hb h0 => by
      rw [calculateSlabPriority_written h0 hb]; exact writtenPriority_ne_unopened _ _,
    fun other hb hb' h0 h0' => ?_⟩
  rw [calculateSlabPriority_written h0 hb, calculateSlabPriority_written h0' hb']
  exact ⟨writtenPriority_lt, fun h => by simp only [writtenPriority, h]⟩

/-- The policy at a written slab of `4` data blocks with `3` free. -/
theorem calculateSlabPriority_spec_four :
    (⟨0, 3, false, false, 0, false⟩ : VdoSlab).freeBlocks ≤ 4 ∧
      PriorityPolicy 4 ⟨0, 3, false, false, 0, false⟩ :=
  ⟨by decide, calculateSlabPriority_spec 4 _ (by decide)⟩

end Kvdo
