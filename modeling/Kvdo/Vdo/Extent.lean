/-
# Metadata extents

`extent.c` reads or writes `count` consecutive blocks with the first `count` vios of an
extent.  `launchMetadataExtent` resets the extent's completion, refuses a `count` above
the extent's size with `VDO_OUT_OF_RANGE`, sets `complete_count` to
`extent->count - count` and launches vio `i` on block `start_block + i`.  Each vio's
completion runs `handle_vio_completion`, which counts it, keeps the first failure in the
extent's completion, and finishes the completion when `complete_count` reaches
`extent->count`.

A launch is modelled as a run of events (`ExtentEvent`): an iteration of the launch
loop, or a launched vio completing.  A vio completes once, at any time after its launch:
synchronously inside the loop, or later.

* `1 ≤ count ≤ extent->count`: in every run vio `i` is launched on block
  `start_block + i`, and the completion has been finished once exactly when all `count`
  vios have completed, with the first failure among their results (`extentRun_spec`);
* `count = 0`: no vio is launched and `complete_count` starts at `extent->count`, so
  nothing ever finishes the completion (`launchMetadataExtent_zero_unfinished`).
-/

import Kvdo.Status

namespace Kvdo

/-- The fields of a `struct vdo_extent` that a launch uses: the number of vios it holds,
`complete_count`, and its completion's result and the number of times the completion
has been finished since it was last reset. -/
structure VdoExtent where
  count : Nat
  completeCount : Nat
  result : Status
  finishCount : Nat
  deriving DecidableEq, Repr

/-- Modelled from the spec: `reset_completion` clears the result and the completed flag. -/
def resetCompletion (e : VdoExtent) : VdoExtent := { e with result := .success, finishCount := 0 }

/-- Modelled from the spec: `finish_completion` sets the result, the first failure
sticking, and completes the completion, which runs its callback. -/
def finishCompletion (e : VdoExtent) (result : Status) : VdoExtent :=
  { e with result := setCompletionResult e.result result, finishCount := e.finishCount + 1 }

/-- `handle_vio_completion`. -/
def handleVioCompletion (e : VdoExtent) (result : Status) : VdoExtent :=
  let e := { e with completeCount := e.completeCount + 1 }
  if e.completeCount ≠ e.count then { e with result := setCompletionResult e.result result }
  else finishCompletion e result

/-- The operation a metadata vio performs. -/
inductive VioOperation where
  | read
  | write
  deriving DecidableEq, Repr

/-- A launch of an extent in progress: the extent, the loop's `count`, index `i` and
`start_block`, the vios launched so far with their blocks, and those of them that have
not completed. -/
structure ExtentLaunch where
  extent : VdoExtent
  operation : VioOperation
  count : Nat
  index : Nat
  startBlock : Nat
  launched : List (Nat × Nat)
  inFlight : List Nat
  deriving DecidableEq, Repr

/-- `launchMetadataExtent` up to its loop. -/
def launchMetadataExtent (e : VdoExtent) (startBlock count : Nat) (operation : VioOperation) :
    ExtentLaunch :=
  let e := resetCompletion e
  if count > e.count then ⟨finishCompletion e .outOfRange, operation, 0, 0, startBlock, [], []⟩
  else ⟨{ e with completeCount := e.count - count }, operation, count, 0, startBlock, [], []⟩

/-- `read_partial_metadata_extent`. -/
def readPartialMetadataExtent (e : VdoExtent) (startBlock count : Nat) : ExtentLaunch :=
  launchMetadataExtent e startBlock count .read

/-- `write_partial_metadata_extent`. -/
def writePartialMetadataExtent (e : VdoExtent) (startBlock count : Nat) : ExtentLaunch :=
  launchMetadataExtent e startBlock count .write

/-- What can happen next in a launch. -/
inductive ExtentEvent where
  /-- An iteration of the launch loop: `launch_metadata_vio` of vio `i` on `start_block`. -/
  | launchNext
  /-- A launched vio completes with `result`, and `handle_vio_completion` runs. -/
  | vioDone (vio : Nat) (result : Status)
  deriving DecidableEq, Repr

/-- One event of a launch, or `none` if it cannot happen: the loop has launched all its
vios, or the vio is not in flight. -/
def extentStep (s : ExtentLaunch) : ExtentEvent → Option ExtentLaunch
  | .launchNext =>
    if s.index < s.count then
      some { s with
        index := s.index + 1
        startBlock := s.startBlock + 1
        launched := s.launched ++ [(s.index, s.startBlock)]
        inFlight := s.inFlight ++ [s.index] }
    else none
  | .vioDone vio result =>
    if vio ∈ s.inFlight then
      some { s with inFlight := s.inFlight.erase vio, extent := handleVioCompletion s.extent result }
    else none

/-- A run of events, `none` if one of them cannot happen. -/
def extentRun (s : ExtentLaunch) : List ExtentEvent → Option ExtentLaunch
  | [] => some s
  | ev :: evs => (extentStep s ev).bind fun s' => extentRun s' evs

/-- The results of the vio completions of a run, in order. -/
def completionResults : List ExtentEvent → List Status
  | [] => []
  | .launchNext :: evs => completionResults evs
  | .vioDone _ result :: evs => result :: completionResults evs

theorem extentRun_cons {s s' : ExtentLaunch} {ev : ExtentEvent} {evs : List ExtentEvent}
    (h : extentRun s (ev :: evs) = some s') :
    ∃ s₁, extentStep s ev = some s₁ ∧ extentRun s₁ evs = some s' :=
  Option.bind_eq_some.1 h

/-- **`handle_vio_completion` of one more of `count` vios**, from `complete_count` at
`size - count` plus the completions so far: it counts the completion, keeps the first
failure, and finishes the completion on the last one. -/
theorem handleVioCompletion_counted {e : VdoExtent} {size count : Nat} {completed : List Status}
    (r : Status) (hlt : completed.length < count) (hk : count ≤ size) (hC : e.count = size)
    (hcc : e.completeCount = size - count + completed.length)
    (hres : e.result = firstFailure completed)
    (hfin : e.finishCount = if completed.length = count then 1 else 0) :
    (handleVioCompletion e r).count = size ∧
    (handleVioCompletion e r).completeCount = size - count + (completed.length + 1) ∧
    (handleVioCompletion e r).result = firstFailure (completed ++ [r]) ∧
    (handleVioCompletion e r).finishCount = if completed.length + 1 = count then 1 else 0 := by
  rw [if_neg (Nat.ne_of_lt hlt)] at hfin
  obtain ⟨c, cc, res, fin⟩ := e
  simp only at hC hcc hres hfin
  subst hC hcc hres hfin
  simp only [handleVioCompletion, finishCompletion, firstFailure_append]
  split_ifs with h1 h2 h2 <;> simp <;> omega

/-- A launch of `count` vios with `completed` results so far, from an extent of `size`
vios, on blocks from `start`: vio `i` went to block `start + i`; the vios in flight are
distinct launched ones, and the others have completed; `complete_count` has counted the
completions from `size - count`; the completion holds their first failure, and has been
finished once exactly when all `count` have completed. -/
structure ExtentLaunch.Counted (s : ExtentLaunch) (size start count : Nat)
    (completed : List Status) : Prop where
  extentCount : s.extent.count = size
  loopCount : s.count = count
  index_le : s.index ≤ count
  startBlock : s.startBlock = start + s.index
  launched : s.launched = (List.range s.index).map fun i => (i, start + i)
  inFlight_lt : ∀ v ∈ s.inFlight, v < s.index
  inFlight_nodup : s.inFlight.Nodup
  completed_length : completed.length + s.inFlight.length = s.index
  completeCount : s.extent.completeCount = size - count + completed.length
  result : s.extent.result = firstFailure completed
  finishCount : s.extent.finishCount = if completed.length = count then 1 else 0

namespace ExtentLaunch.Counted

variable {s s' : ExtentLaunch} {size start count : Nat} {completed : List Status}

/-- An iteration of the launch loop launches vio `i` on block `start_block + i`. -/
theorem launchNext (h : s.Counted size start count completed)
    (hs : extentStep s .launchNext = some s') : s'.Counted size start count completed := by
  simp only [extentStep] at hs
  split_ifs at hs with hi
  cases hs
  have hlen := h.completed_length
  have hlc := h.loopCount
  refine ⟨h.extentCount, hlc, by dsimp only; omega, by dsimp only; rw [h.startBlock]; omega,
    by dsimp only; rw [h.launched, List.range_succ, List.map_append, h.startBlock]; rfl,
    fun v hv => ?_, ?_, by dsimp only; simp only [List.length_append, List.length_singleton]; omega,
    h.completeCount, h.result, h.finishCount⟩
  · rcases List.mem_append.1 hv with hv | hv
    · exact Nat.lt_succ_of_lt (h.inFlight_lt v hv)
    · rw [List.mem_singleton.1 hv]; exact Nat.lt_succ_self _
  · exact List.nodup_append.2 ⟨h.inFlight_nodup, List.nodup_singleton _,
      List.disjoint_singleton.2 fun hi' => Nat.lt_irrefl _ (h.inFlight_lt _ hi')⟩

/-- A vio in flight completes, and `handle_vio_completion` counts it. -/
theorem vioDone (h : s.Counted size start count completed) (hk : count ≤ size) {vio : Nat}
    {r : Status} (hs : extentStep s (.vioDone vio r) = some s') :
    s'.Counted size start count (completed ++ [r]) := by
  simp only [extentStep] at hs
  split_ifs at hs with hv
  cases hs
  have hlen := h.completed_length
  have hin := List.length_erase_of_mem hv
  have hpos : 0 < s.inFlight.length := List.length_pos_of_mem hv
  have hi := h.index_le
  obtain ⟨h1, h2, h3, h4⟩ := handleVioCompletion_counted r (by omega) hk h.extentCount
    h.completeCount h.result h.finishCount
  refine ⟨h1, h.loopCount, hi, h.startBlock, h.launched,
    fun v hv' => h.inFlight_lt v (List.mem_of_mem_erase hv'), h.inFlight_nodup.erase _,
    by dsimp only; rw [List.length_append, List.length_singleton]; omega, ?_, h3, ?_⟩
  · dsimp only; rw [h2, List.length_append, List.length_singleton]
  · dsimp only; rw [h4, List.length_append, List.length_singleton]

/-- **A whole run keeps the count.** -/
theorem run (hk : count ≤ size) :
    ∀ {s : ExtentLaunch} {completed : List Status} (evs : List ExtentEvent) {s' : ExtentLaunch},
      s.Counted size start count completed → extentRun s evs = some s' →
      s'.Counted size start count (completed ++ completionResults evs)
  | _, _, [], _, h, hr => by cases hr; simpa [completionResults] using h
  | _, completed, ev :: evs, _, h, hr => by
    obtain ⟨s₁, hs, hr₁⟩ := extentRun_cons hr
    cases ev with
    | launchNext => simpa [completionResults] using run hk evs (h.launchNext hs) hr₁
    | vioDone vio r => simpa [completionResults] using run hk evs (h.vioDone hk hs) hr₁

end ExtentLaunch.Counted

/-- No event changes the operation of a launch. -/
theorem extentStep_operation {s s' : ExtentLaunch} {ev : ExtentEvent}
    (hs : extentStep s ev = some s') : s'.operation = s.operation := by
  cases ev <;> simp only [extentStep] at hs <;> split_ifs at hs <;> cases hs <;> rfl

theorem extentRun_operation :
    ∀ {s s' : ExtentLaunch} (evs : List ExtentEvent), extentRun s evs = some s' →
      s'.operation = s.operation
  | _, _, [], hr => by cases hr; rfl
  | _, _, _ :: evs, hr => by
    obtain ⟨_, hs, hr⟩ := extentRun_cons hr
    exact (extentRun_operation evs hr).trans (extentStep_operation hs)

/-- A launch of at most `extent->count` vios starts with none launched or completed. -/
theorem launchMetadataExtent_counted (e : VdoExtent) (startBlock count : Nat)
    (operation : VioOperation) (hc : 1 ≤ count) (hk : count ≤ e.count) :
    (launchMetadataExtent e startBlock count operation).Counted e.count startBlock count [] := by
  simp only [launchMetadataExtent, resetCompletion, gt_iff_lt, Nat.not_lt.2 hk, if_false]
  exact ⟨rfl, rfl, Nat.zero_le _, rfl, rfl, by simp, List.nodup_nil, rfl, rfl, rfl,
    by rw [List.length_nil, if_neg (by omega)]⟩

/-- **A launch of `1 ≤ count ≤ extent->count` vios.**  In every run, vio `i` is launched
on block `start_block + i`, with the operation asked for, and at most `count` vios
complete; the extent's completion has been finished once exactly when all `count` have
completed, and holds the first failure among their results. -/
theorem extentRun_spec (e : VdoExtent) (startBlock count : Nat) (operation : VioOperation)
    (hc : 1 ≤ count) (hk : count ≤ e.count) (evs : List ExtentEvent) {s : ExtentLaunch}
    (hr : extentRun (launchMetadataExtent e startBlock count operation) evs = some s) :
    s.operation = operation ∧ s.index ≤ count ∧
    s.launched = (List.range s.index).map (fun i => (i, startBlock + i)) ∧
    (completionResults evs).length ≤ count ∧
    s.extent.finishCount = (if (completionResults evs).length = count then 1 else 0) ∧
    s.extent.result = firstFailure (completionResults evs) := by
  have h := (launchMetadataExtent_counted e startBlock count operation hc hk).run hk evs hr
  have hlen := h.completed_length
  have hi := h.index_le
  simp only [List.nil_append] at h hlen
  exact ⟨(extentRun_operation evs hr).trans (by simp [launchMetadataExtent, resetCompletion,
    Nat.not_lt.2 hk]), hi, h.launched, by omega, h.finishCount, h.result⟩

/-- Two vios of a two-vio extent read from block `10`: vio `0` completes with an error
inside the launch loop, vio `1` with success after it. -/
def twoVioRead : List ExtentEvent :=
  [.launchNext, .vioDone 0 (.other 5), .launchNext, .vioDone 1 .success]

/-- Where `twoVioRead` ends: both vios launched and completed, the completion finished
once with vio `0`'s error. -/
def twoVioReadEnd : ExtentLaunch := ⟨⟨2, 2, .other 5, 1⟩, .read, 2, 2, 12, [(0, 10), (1, 11)], []⟩

theorem extentRun_spec_twoVioRead :
    twoVioReadEnd.operation =
        .read ∧
    twoVioReadEnd.index ≤ 2 ∧
    twoVioReadEnd.launched =
      (List.range 2).map (fun i => (i, 10 + i)) ∧
    (completionResults twoVioRead).length ≤ 2 ∧
    twoVioReadEnd.extent.finishCount =
      (if (completionResults twoVioRead).length = 2 then 1 else 0) ∧
    twoVioReadEnd.extent.result =
      firstFailure (completionResults twoVioRead) :=
  extentRun_spec ⟨2, 0, .success, 0⟩ 10 2 .read (by decide) (by decide) twoVioRead (by decide)

/-- **A launch of no vio is never finished.**  With `count = 0`, `complete_count` starts
at `extent->count`, no vio is launched and no event can follow, so
`handle_vio_completion` never runs and nothing finishes the extent's completion. -/
theorem launchMetadataExtent_zero_unfinished (e : VdoExtent) (startBlock : Nat)
    (operation : VioOperation) :
    (launchMetadataExtent e startBlock 0 operation).extent.finishCount = 0 ∧
    (launchMetadataExtent e startBlock 0 operation).extent.completeCount = e.count ∧
    (launchMetadataExtent e startBlock 0 operation).launched = [] ∧
    ∀ (ev : ExtentEvent) (evs : List ExtentEvent),
      extentRun (launchMetadataExtent e startBlock 0 operation) (ev :: evs) = none := by
  have hl : launchMetadataExtent e startBlock 0 operation =
      ⟨{ resetCompletion e with completeCount := e.count }, operation, 0, 0, startBlock, [], []⟩ := by
    simp [launchMetadataExtent, resetCompletion]
  rw [hl]
  refine ⟨rfl, rfl, rfl, fun ev evs => ?_⟩
  cases ev <;> simp [extentRun, extentStep]

end Kvdo
