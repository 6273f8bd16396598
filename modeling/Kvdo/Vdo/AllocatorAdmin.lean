/-
# The administrative operations of a block allocator

A drain, a resume and a load of a block allocator (`block-allocator.c`) run as chains of
callbacks on the allocator's completion.  `apply_to_slabs` starts an admin action on each
of the allocator's `n` slabs and counts them in `slab_actor.slab_action_count`, which
starts at `1` so that the count cannot reach `0` before the loop has started every slab;
each slab action finishes the completion, through `handle_operation_error` when it
failed, and `slab_action_callback` counts it down.  When the count reaches `0`,
`actor->callback` runs.  The drain and the resume are step machines on `drain_step`
(`do_drain_step`, `do_resume_step`), each step its own callback; the scrubber and the
slab summary are sub-operations that finish the completion when they are done.

The model is a run of events (`AdminEvent`) from `initiate_drain`, `initiate_resume` or
`initiate_load`: an iteration of `apply_to_slabs`'s loop, the loop's end, a started slab
action finishing with any result, or the sub-operation under way finishing with any
result, in any order in which they can happen.  So a slab action may finish at once,
inside the loop, or at any later time.

* every run keeps the operation's steps a prefix of `SCRUBBER, SLABS, SUMMARY, FINISHED`
  (drain) or `SUMMARY, SLABS, SCRUBBER, START` (resume), so no `UDS_BAD_STATE` default
  branch is taken; `actor->callback` runs at most once, and exactly when all `n` slab
  actions have been started and have finished and the loop has ended; the operation
  finishes at most once, after its last step, with the first failure of every result it
  was given, and it has finished exactly when no event can happen any more
  (`AdminRunSpec`, `adminOperations_spec`).
-/

import Kvdo.Status

namespace Kvdo

/-- Modelled from the spec: `VDO_DRAIN_ALLOCATOR_START`, the value of `drain_step` before
a drain and after a resume. -/
def vdoDrainAllocatorStart : Int := 0

/-- Modelled from the spec: `VDO_DRAIN_ALLOCATOR_STEP_SCRUBBER`, the first drain step. -/
def vdoDrainAllocatorStepScrubber : Int := 1

/-- Modelled from the spec: `VDO_DRAIN_ALLOCATOR_STEP_SLABS`. -/
def vdoDrainAllocatorStepSlabs : Int := 2

/-- Modelled from the spec: `VDO_DRAIN_ALLOCATOR_STEP_SUMMARY`. -/
def vdoDrainAllocatorStepSummary : Int := 3

/-- Modelled from the spec: `VDO_DRAIN_ALLOCATOR_STEP_FINISHED`, the last drain step. -/
def vdoDrainAllocatorStepFinished : Int := 4

/-- The allocator's admin operation, as far as the modelled functions test it
(`vdo_get_admin_state_code`). -/
inductive AdminStateCode where
  /-- Any drain. -/
  | draining
  | resuming
  /-- `VDO_ADMIN_STATE_LOADING`. -/
  | loading
  /-- `VDO_ADMIN_STATE_LOADING_FOR_RECOVERY`. -/
  | loadingForRecovery
  /-- `VDO_ADMIN_STATE_LOADING_FOR_REBUILD`. -/
  | loadingForRebuild
  deriving DecidableEq, Repr

/-- The callbacks of the allocator's completion that drive an admin operation. -/
inductive AllocatorAction where
  | doDrainStep
  | doResumeStep
  | finishLoadingAllocator
  deriving DecidableEq, Repr

/-- The callback of the allocator's completion: `slab_action_callback` while
`apply_to_slabs` counts its slabs, or an allocator action. -/
inductive AllocatorCallback where
  | slabActionCallback
  | action (a : AllocatorAction)
  deriving DecidableEq, Repr

/-- What another component does on the allocator's behalf, finishing the allocator's
completion (or, for the replay, calling `vdo_notify_slab_journals_are_recovered`) when
it is done. -/
inductive SubOperation where
  | stopSlabScrubbing
  | drainSlabSummaryZone
  | resumeSlabSummaryZone
  | resumeSlabScrubbing
  | replayIntoSlabJournals
  | eraseSlabJournals
  deriving DecidableEq, Repr

/-- The parts of a `struct block_allocator` an admin operation reads and writes, with
what the rest of the VDO sees of it. -/
structure AllocatorAdmin where
  /-- The admin state's operation. -/
  operation : AdminStateCode
  /-- The admin state's operation result, which keeps the first failure. -/
  operationResult : Status
  /-- `completion.result`. -/
  completionResult : Status
  /-- `completion.callback`; the error handler is `handle_operation_error` throughout. -/
  callback : AllocatorCallback
  /-- `slab_actor.slab_action_count`. -/
  slabActionCount : Nat
  /-- `slab_actor.callback`. -/
  actorCallback : AllocatorAction
  /-- `drain_step`. -/
  drainStep : Int
  /-- The number of slabs `get_slab_iterator` walks. -/
  slabCount : Nat
  /-- `apply_to_slabs`'s loop, while it runs: the number of slabs it has started. -/
  loop : Option Nat
  /-- The slab actions started and not yet finished, by their place in the loop. -/
  inFlight : List Nat
  /-- The sub-operation the allocator waits for. -/
  pending : Option SubOperation
  /-- Observed: the values of `drain_step` that `do_drain_step` and `do_resume_step`
  switch on, in order. -/
  steps : List Int
  /-- Observed: how often `slab_action_callback` has run `actor->callback`. -/
  actorCalls : Nat
  /-- Observed: the result of each finish of the admin operation. -/
  finished : List Status
  deriving DecidableEq, Repr

namespace AllocatorAdmin

/-- Modelled from the spec: `vdo_prepare_completion` and
`vdo_prepare_completion_for_requeue` reset the completion's result and set its
callback (the error handler being `handle_operation_error` in every use here). -/
def prepareCompletion (s : AllocatorAdmin) (callback : AllocatorCallback) : AllocatorAdmin :=
  { s with completionResult := .success, callback }

/-- Modelled from the spec: `vdo_finish_draining_with_result`,
`vdo_finish_resuming_with_result` and `vdo_finish_loading_with_result`: the result joins
the operation's result, the first failure sticking, and the operation finishes with it. -/
def finishOperation (s : AllocatorAdmin) (result : Status) : AllocatorAdmin :=
  let result := setCompletionResult s.operationResult result
  { s with operationResult := result, finished := s.finished ++ [result] }

/-- `apply_to_slabs` up to its loop, whose iterations are events of the run. -/
def applyToSlabs (s : AllocatorAdmin) (callback : AllocatorAction) : AllocatorAdmin :=
  { s.prepareCompletion .slabActionCallback with
    slabActionCount := 1, actorCallback := callback, loop := some 0 }

/-- `do_drain_step`. -/
def doDrainStep (s : AllocatorAdmin) : AllocatorAdmin :=
  let s := s.prepareCompletion (.action .doDrainStep)
  let s := { s with drainStep := s.drainStep + 1, steps := s.steps ++ [s.drainStep + 1] }
  if s.drainStep = vdoDrainAllocatorStepScrubber then { s with pending := some .stopSlabScrubbing }
  else if s.drainStep = vdoDrainAllocatorStepSlabs then s.applyToSlabs .doDrainStep
  else if s.drainStep = vdoDrainAllocatorStepSummary then
    { s with pending := some .drainSlabSummaryZone }
  else if s.drainStep = vdoDrainAllocatorStepFinished then s.finishOperation s.completionResult
  else s.finishOperation .badState

/-- `do_resume_step`. -/
def doResumeStep (s : AllocatorAdmin) : AllocatorAdmin :=
  let s := s.prepareCompletion (.action .doResumeStep)
  let s := { s with drainStep := s.drainStep - 1, steps := s.steps ++ [s.drainStep - 1] }
  if s.drainStep = vdoDrainAllocatorStepSummary then
    { s with pending := some .resumeSlabSummaryZone }
  else if s.drainStep = vdoDrainAllocatorStepSlabs then s.applyToSlabs .doResumeStep
  else if s.drainStep = vdoDrainAllocatorStepScrubber then
    { s with pending := some .resumeSlabScrubbing }
  else if s.drainStep = vdoDrainAllocatorStart then s.finishOperation s.completionResult
  else s.finishOperation .badState

/-- `finish_loading_allocator`: a recovery replays the recovery journal into the slab
journals first; any other load finishes (`vdo_finish_loading`). -/
def finishLoadingAllocator (s : AllocatorAdmin) : AllocatorAdmin :=
  if s.operation = .loadingForRecovery then { s with pending := some .replayIntoSlabJournals }
  else s.finishOperation .success

/-- Run an allocator action. -/
def runAction : AllocatorAction → AllocatorAdmin → AllocatorAdmin
  | .doDrainStep, s => s.doDrainStep
  | .doResumeStep, s => s.doResumeStep
  | .finishLoadingAllocator, s => s.finishLoadingAllocator

/-- `slab_action_callback`. -/
def slabActionCallback (s : AllocatorAdmin) : AllocatorAdmin :=
  let s := { s with slabActionCount := s.slabActionCount - 1 }
  if s.slabActionCount = 0 then runAction s.actorCallback { s with actorCalls := s.actorCalls + 1 }
  else { s with completionResult := .success }

/-- Run the completion's callback. -/
def runCallback : AllocatorCallback → AllocatorAdmin → AllocatorAdmin
  | .slabActionCallback, s => s.slabActionCallback
  | .action a, s => runAction a s

/-- `handle_operation_error`: latch the completion's result in the admin state, then
run the callback. -/
def handleOperationError (s : AllocatorAdmin) : AllocatorAdmin :=
  runCallback s.callback
    { s with operationResult := setCompletionResult s.operationResult s.completionResult }

/-- Modelled from the spec: `vdo_finish_completion` on the allocator's completion: the
result joins the completion's, the first failure sticking, and the completion runs its
error handler on a failure, its callback otherwise. -/
def finishCompletion (s : AllocatorAdmin) (result : Status) : AllocatorAdmin :=
  let s := { s with completionResult := setCompletionResult s.completionResult result }
  if s.completionResult = .success then runCallback s.callback s else s.handleOperationError

/-- `vdo_notify_slab_journals_are_recovered`. -/
def vdoNotifySlabJournalsAreRecovered (s : AllocatorAdmin) (result : Status) : AllocatorAdmin :=
  s.finishOperation result

/-- `initiate_drain`. -/
def initiateDrain (s : AllocatorAdmin) : AllocatorAdmin :=
  doDrainStep { s with drainStep := vdoDrainAllocatorStart }

/-- `initiate_resume`. -/
def initiateResume (s : AllocatorAdmin) : AllocatorAdmin :=
  doResumeStep { s with drainStep := vdoDrainAllocatorStepFinished }

/-- `initiate_load`: a rebuild erases the slab journals, any other load applies the load
to every slab. -/
def initiateLoad (s : AllocatorAdmin) : AllocatorAdmin :=
  if s.operation = .loadingForRebuild then
    { s.prepareCompletion (.action .finishLoadingAllocator) with pending := some .eraseSlabJournals }
  else s.applyToSlabs .finishLoadingAllocator

end AllocatorAdmin

/-- What can happen next in an admin operation. -/
inductive AdminEvent where
  /-- An iteration of `apply_to_slabs`'s loop: `vdo_start_slab_action` on the next slab. -/
  | startSlab
  /-- The loop has started every slab: `apply_to_slabs` calls `slab_action_callback`. -/
  | endLoop
  /-- The action on the loop's `slab`-th slab finishes the allocator's completion. -/
  | slabDone (slab : Nat) (result : Status)
  /-- The sub-operation under way is done, with `result`. -/
  | subOperationDone (result : Status)
  deriving DecidableEq, Repr

namespace AllocatorAdmin

/-- One event, or `none` if it cannot happen now. -/
def adminStep (s : AllocatorAdmin) : AdminEvent → Option AllocatorAdmin
  | .startSlab =>
    match s.loop with
    | some i =>
      if i < s.slabCount then
        some { s with
          slabActionCount := s.slabActionCount + 1
          loop := some (i + 1)
          inFlight := s.inFlight ++ [i] }
      else none
    | none => none
  | .endLoop =>
    if s.loop = some s.slabCount then some (slabActionCallback { s with loop := none }) else none
  | .slabDone slab result =>
    if slab ∈ s.inFlight then
      some (finishCompletion { s with inFlight := s.inFlight.erase slab } result)
    else none
  | .subOperationDone result =>
    match s.pending with
    | some .replayIntoSlabJournals =>
      some (vdoNotifySlabJournalsAreRecovered { s with pending := none } result)
    | some _ => some (finishCompletion { s with pending := none } result)
    | none => none

/-- A run of events, `none` if one of them cannot happen. -/
def adminRun (s : AllocatorAdmin) : List AdminEvent → Option AllocatorAdmin
  | [] => some s
  | ev :: evs => (s.adminStep ev).bind fun s' => adminRun s' evs

end AllocatorAdmin

/-! ### What a run has done -/

namespace AdminEvent

/-- The slab whose action an event finishes. -/
def doneSlab : AdminEvent → Option Nat
  | .slabDone slab _ => some slab
  | _ => none

/-- The result an event hands to the allocator. -/
def result : AdminEvent → Option Status
  | .slabDone _ r => some r
  | .subOperationDone r => some r
  | _ => none

def isSubOperationDone : AdminEvent → Bool
  | .subOperationDone _ => true
  | _ => false

end AdminEvent

/-- The slabs `apply_to_slabs`'s loop has started. -/
def startCount (evs : List AdminEvent) : Nat := evs.count .startSlab

/-- The loop's ends. -/
def endCount (evs : List AdminEvent) : Nat := evs.count .endLoop

/-- The slabs whose action has finished, in order. -/
def doneSlabs (evs : List AdminEvent) : List Nat := evs.filterMap AdminEvent.doneSlab

/-- The sub-operations that have finished. -/
def subOperationCount (evs : List AdminEvent) : Nat := evs.countP AdminEvent.isSubOperationDone

/-- The results handed to the allocator, in order. -/
def eventResults (evs : List AdminEvent) : List Status := evs.filterMap AdminEvent.result

/-- All `n` slab actions have been started and have finished, each once, and the loop
has ended. -/
def SlabsDone (n : Nat) (evs : List AdminEvent) : Prop :=
  startCount evs = n ∧ endCount evs = 1 ∧ (doneSlabs evs).Perm (List.range n)

theorem length_eq_counts (evs : List AdminEvent) :
    evs.length = startCount evs + endCount evs + (doneSlabs evs).length + subOperationCount evs := by
  induction evs with
  | nil => rfl
  | cons ev evs ih =>
    cases ev <;> simp [startCount, endCount, doneSlabs, subOperationCount, AdminEvent.doneSlab,
      AdminEvent.isSubOperationDone] at ih ⊢ <;> omega

section Counts

variable (evs : List AdminEvent)

@[simp] theorem startCount_nil : startCount [] = 0 := rfl
@[simp] theorem endCount_nil : endCount [] = 0 := rfl
@[simp] theorem doneSlabs_nil : doneSlabs [] = [] := rfl
@[simp] theorem subOperationCount_nil : subOperationCount [] = 0 := rfl
@[simp] theorem eventResults_nil : eventResults [] = [] := rfl

@[simp] theorem startCount_append_startSlab :
    startCount (evs ++ [.startSlab]) = startCount evs + 1 := by
  simp [startCount]
@[simp] theorem startCount_append_endLoop : startCount (evs ++ [.endLoop]) = startCount evs := by
  simp [startCount]
@[simp] theorem startCount_append_slabDone (i : Nat) (r : Status) :
    startCount (evs ++ [.slabDone i r]) = startCount evs := by simp [startCount]
@[simp] theorem startCount_append_subOperationDone (r : Status) :
    startCount (evs ++ [.subOperationDone r]) = startCount evs := by simp [startCount]

@[simp] theorem endCount_append_startSlab : endCount (evs ++ [.startSlab]) = endCount evs := by
  simp [endCount]
@[simp] theorem endCount_append_endLoop : endCount (evs ++ [.endLoop]) = endCount evs + 1 := by
  simp [endCount]
@[simp] theorem endCount_append_slabDone (i : Nat) (r : Status) :
    endCount (evs ++ [.slabDone i r]) = endCount evs := by simp [endCount]
@[simp] theorem endCount_append_subOperationDone (r : Status) :
    endCount (evs ++ [.subOperationDone r]) = endCount evs := by simp [endCount]

@[simp] theorem doneSlabs_append (ev : AdminEvent) :
    doneSlabs (evs ++ [ev]) = doneSlabs evs ++ ev.doneSlab.toList := by
  cases ev <;> simp [doneSlabs, AdminEvent.doneSlab]

@[simp] theorem subOperationCount_append (ev : AdminEvent) :
    subOperationCount (evs ++ [ev]) =
      subOperationCount evs + if ev.isSubOperationDone then 1 else 0 := by
  simp [subOperationCount, List.countP_cons]

@[simp] theorem eventResults_append (ev : AdminEvent) :
    eventResults (evs ++ [ev]) = eventResults evs ++ ev.result.toList := by
  cases ev <;> simp [eventResults, AdminEvent.result]

end Counts

/-! ### The phases of an operation -/

namespace AllocatorAdmin

/-- Between operations: nothing under way, nothing observed yet. -/
structure Idle (s : AllocatorAdmin) : Prop where
  loop : s.loop = none
  inFlight : s.inFlight = []
  pending : s.pending = none
  steps : s.steps = []
  actorCalls : s.actorCalls = 0
  finished : s.finished = []

/-- The fields a slab event leaves alone, unless it runs `actor->callback`. -/
def Frame (s t : AllocatorAdmin) : Prop :=
  t.operation = s.operation ∧ t.drainStep = s.drainStep ∧ t.steps = s.steps ∧
    t.finished = s.finished ∧ t.actorCalls = s.actorCalls

/-- `apply_to_slabs` at work for `a`, after the run `evs`: its loop has started
`startCount evs` of the `n` slabs, and ended if `endCount evs = 1`; the started slabs
are the finished ones and those in flight; the count is those in flight, plus one while
the loop runs; the admin state holds the first failure of every result. -/
structure SlabPhase (n : Nat) (r₀ : Status) (a : AllocatorAction) (evs : List AdminEvent)
    (s : AllocatorAdmin) : Prop where
  callback : s.callback = .slabActionCallback
  completionResult : s.completionResult = .success
  pending : s.pending = none
  actorCallback : s.actorCallback = a
  slabCount : s.slabCount = n
  loop : s.loop = if endCount evs = 0 then some (startCount evs) else none
  started_le : startCount evs ≤ n
  endCount_le : endCount evs ≤ 1
  ended : endCount evs = 1 → startCount evs = n
  perm : (doneSlabs evs ++ s.inFlight).Perm (List.range (startCount evs))
  count : s.slabActionCount = s.inFlight.length + (1 - endCount evs)
  count_pos : 0 < s.slabActionCount
  operationResult : s.operationResult = firstFailure (r₀ :: eventResults evs)

/-- The allocator `slab_action_callback` hands to `actor->callback` after the run `evs`
from the slab phase `s`. -/
structure SlabsExit (n : Nat) (r₀ : Status) (evs : List AdminEvent) (s t : AllocatorAdmin) :
    Prop where
  loop : t.loop = none
  inFlight : t.inFlight = []
  pending : t.pending = none
  slabCount : t.slabCount = n
  operationResult : t.operationResult = firstFailure (r₀ :: eventResults evs)
  operation : t.operation = s.operation
  drainStep : t.drainStep = s.drainStep
  steps : t.steps = s.steps
  finished : t.finished = s.finished
  actorCalls : t.actorCalls = s.actorCalls + 1
  done : SlabsDone n evs

/-- The allocator waits for the sub-operation `op`. -/
structure Waiting (n : Nat) (r₀ : Status) (op : SubOperation) (evs : List AdminEvent)
    (s : AllocatorAdmin) : Prop where
  pending : s.pending = some op
  loop : s.loop = none
  inFlight : s.inFlight = []
  slabCount : s.slabCount = n
  operationResult : s.operationResult = firstFailure (r₀ :: eventResults evs)

/-- The operation has finished, once, with the first failure of every result. -/
structure Finished (r₀ : Status) (evs : List AdminEvent) (s : AllocatorAdmin) : Prop where
  pending : s.pending = none
  loop : s.loop = none
  inFlight : s.inFlight = []
  finished : s.finished = [firstFailure (r₀ :: eventResults evs)]
  operationResult : s.operationResult = firstFailure (r₀ :: eventResults evs)

theorem firstFailure_cons_append (r₀ : Status) (rs : List Status) (r : Status) :
    firstFailure (r₀ :: (rs ++ [r])) = setCompletionResult (firstFailure (r₀ :: rs)) r := by
  rw [← List.cons_append, firstFailure_append]

/-- A prepared completion finishing with `result`: the result is latched in the admin
state when it is a failure, and the callback runs. -/
theorem finishCompletion_of_success (s : AllocatorAdmin) (h : s.completionResult = .success)
    (result : Status) :
    s.finishCompletion result = runCallback s.callback
      { s with
        completionResult := result
        operationResult := setCompletionResult s.operationResult result } := by
  by_cases hr : result = .success
  · subst hr; simp [finishCompletion, h]
  · simp [finishCompletion, handleOperationError, h, hr]

theorem slabActionCallback_of_lt (s : AllocatorAdmin) (h : 1 < s.slabActionCount) :
    s.slabActionCallback =
      { s with slabActionCount := s.slabActionCount - 1, completionResult := .success } := by
  simp [slabActionCallback, show s.slabActionCount - 1 ≠ 0 by omega]

theorem slabActionCallback_of_eq_one (s : AllocatorAdmin) (h : s.slabActionCount = 1) :
    s.slabActionCallback =
      runAction s.actorCallback { s with slabActionCount := 0, actorCalls := s.actorCalls + 1 } := by
  simp [slabActionCallback, h]

variable {n : Nat} {r₀ : Status} {a : AllocatorAction} {evs : List AdminEvent}
  {s s' : AllocatorAdmin} {op : SubOperation}

namespace SlabPhase

/-- A slab action starts while the loop runs: one more slab is in flight and counted. -/
theorem step_startSlab (h : SlabPhase n r₀ a evs s) (hs : s.adminStep .startSlab = some s') :
    SlabPhase n r₀ a (evs ++ [.startSlab]) s' ∧ Frame s s' := by
  have hloop := h.loop
  by_cases he : endCount evs = 0
  · rw [if_pos he] at hloop
    simp only [adminStep, hloop] at hs
    split_ifs at hs with hlt
    obtain rfl := Option.some.inj hs
    refine ⟨⟨h.callback, h.completionResult, h.pending, h.actorCallback, h.slabCount,
      by simp [he], by have := h.slabCount; simp; omega, by simp [he], by simp [he], ?_, by simp [h.count, he],
      by simp, by simp [h.operationResult, AdminEvent.result]⟩, rfl, rfl, rfl, rfl, rfl⟩
    simpa [List.range_succ, AdminEvent.doneSlab] using h.perm.append_right [startCount evs]
  · simp [adminStep, hloop, he] at hs

/-- The loop ends: `slab_action_callback` drops the count the loop held, and runs
`actor->callback` if no slab action is in flight. -/
theorem step_endLoop (h : SlabPhase n r₀ a evs s) (hs : s.adminStep .endLoop = some s') :
    (SlabPhase n r₀ a (evs ++ [.endLoop]) s' ∧ Frame s s') ∨
      ∃ t, SlabsExit n r₀ (evs ++ [.endLoop]) s t ∧ s' = runAction a t := by
  have hloop := h.loop
  have hcount := h.count
  by_cases he : endCount evs = 0
  · rw [if_pos he] at hloop
    simp only [adminStep, hloop, Option.some.injEq] at hs
    split_ifs at hs with hn
    obtain rfl := Option.some.inj hs
    have hsc := h.slabCount
    rcases Nat.eq_zero_or_pos s.inFlight.length with hin | hin
    · rw [slabActionCallback_of_eq_one _ (by simp [hcount, he, hin])]
      dsimp only
      rw [h.actorCallback]
      refine .inr ⟨_, ?_, rfl⟩
      refine ⟨rfl, List.length_eq_zero.1 hin, h.pending, h.slabCount,
        by simp [h.operationResult, AdminEvent.result], rfl, rfl, rfl, rfl, rfl,
        ⟨by simp; omega, by simp [he], ?_⟩⟩
      simpa [List.length_eq_zero.1 hin, AdminEvent.doneSlab, hn, hsc] using h.perm
    · rw [slabActionCallback_of_lt { s with loop := none } (by show 1 < s.slabActionCount; omega)]
      refine .inl ⟨⟨h.callback, rfl, h.pending, h.actorCallback, h.slabCount, by simp,
        by simpa using h.started_le, by simp [he], fun _ => by simp; omega,
        by simpa [AdminEvent.doneSlab] using h.perm, by simp [hcount, he], by simp; omega,
        by simp [h.operationResult, AdminEvent.result]⟩, rfl, rfl, rfl, rfl, rfl⟩
  · simp [adminStep, hloop, he] at hs

/-- A slab action finishes: it leaves the flight, its result is recorded, and
`slab_action_callback` runs `actor->callback` if it was the last count. -/
theorem step_slabDone (h : SlabPhase n r₀ a evs s) {i : Nat} {r : Status}
    (hs : s.adminStep (.slabDone i r) = some s') :
    (SlabPhase n r₀ a (evs ++ [.slabDone i r]) s' ∧ Frame s s') ∨
      ∃ t, SlabsExit n r₀ (evs ++ [.slabDone i r]) s t ∧ s' = runAction a t := by
  simp only [adminStep] at hs
  split_ifs at hs with hi
  obtain rfl := Option.some.inj hs
  rw [finishCompletion_of_success { s with inFlight := s.inFlight.erase i } h.completionResult]
  simp only [h.callback, runCallback]
  have hcount := h.count
  have hlen := List.length_erase_of_mem hi
  have hpos := List.length_pos_of_mem hi
  have hperm' : (doneSlabs evs ++ [i] ++ s.inFlight.erase i).Perm (List.range (startCount evs)) := by
    simpa using (List.Perm.append_left (doneSlabs evs) (List.perm_cons_erase hi)).symm.trans h.perm
  have hres : setCompletionResult s.operationResult r = firstFailure (r₀ :: eventResults (evs ++ [.slabDone i r])) := by
    simp [h.operationResult, AdminEvent.result, firstFailure_cons_append]
  by_cases hlast : s.slabActionCount = 1
  · have he : endCount evs = 1 := by have := h.endCount_le; omega
    have hnil : s.inFlight.erase i = [] := List.length_eq_zero.1 (by omega)
    rw [slabActionCallback_of_eq_one _ (by exact hlast)]
    dsimp only
    rw [h.actorCallback]
    refine .inr ⟨_, ?_, rfl⟩
    refine ⟨by simpa [he] using h.loop, hnil, h.pending, h.slabCount, hres, rfl, rfl,
      rfl, rfl, rfl, ⟨by simpa using h.ended he, by simpa using he, ?_⟩⟩
    simpa [hnil, AdminEvent.doneSlab, h.ended he] using hperm'
  · rw [slabActionCallback_of_lt _ (by show 1 < s.slabActionCount; have := h.count_pos; omega)]
    refine .inl ⟨⟨rfl, rfl, h.pending, h.actorCallback, h.slabCount, by simpa using h.loop,
      by simpa using h.started_le, by simpa using h.endCount_le, by simpa using h.ended,
      by simpa [AdminEvent.doneSlab] using hperm', by simp; omega, by simp; omega, hres⟩,
      rfl, rfl, rfl, rfl, rfl⟩

/-- **One slab event** while `apply_to_slabs` counts: it goes on counting, the rest of
the allocator untouched, or, once all `n` slabs have been started and have finished and
the loop has ended, `slab_action_callback` runs `actor->callback`. -/
theorem step (h : SlabPhase n r₀ a evs s) {ev : AdminEvent} (hs : s.adminStep ev = some s') :
    (SlabPhase n r₀ a (evs ++ [ev]) s' ∧ Frame s s') ∨
      ∃ t, SlabsExit n r₀ (evs ++ [ev]) s t ∧ s' = runAction a t := by
  cases ev with
  | startSlab => exact .inl (h.step_startSlab hs)
  | endLoop => exact h.step_endLoop hs
  | slabDone i r => exact h.step_slabDone hs
  | subOperationDone r => simp [adminStep, h.pending] at hs

theorem length_add (h : SlabPhase n r₀ a evs s) :
    (doneSlabs evs).length + s.inFlight.length = startCount evs := by
  simpa using h.perm.length_eq

theorem not_slabsDone (h : SlabPhase n r₀ a evs s) : ¬SlabsDone n evs := by
  rintro ⟨hs, he, hp⟩
  have := h.length_add
  have := hp.length_eq
  have := h.count
  have := h.count_pos
  simp at *
  omega

theorem enabled (h : SlabPhase n r₀ a evs s) : ∃ ev, s.adminStep ev ≠ none := by
  have hloop := h.loop
  split_ifs at hloop with he
  · by_cases hlt : startCount evs < s.slabCount
    · exact ⟨.startSlab, by simp [adminStep, hloop, hlt]⟩
    · have : startCount evs = s.slabCount := by have := h.started_le; have := h.slabCount; omega
      exact ⟨.endLoop, by simp [adminStep, hloop, this]⟩
  · obtain ⟨i, hi⟩ : ∃ i, i ∈ s.inFlight := by
      have := h.count; have := h.count_pos; have := h.endCount_le
      exact List.exists_mem_of_length_pos (by omega)
    exact ⟨.slabDone i .success, by simp [adminStep, hi]⟩

end SlabPhase

/-- `apply_to_slabs` from an allocator with nothing under way starts its slab phase. -/
theorem applyToSlabs_slabPhase {t : AllocatorAdmin} (hp : t.pending = none) (hi : t.inFlight = [])
    (hn : t.slabCount = n) (hr : t.operationResult = firstFailure (r₀ :: eventResults evs))
    (hs : startCount evs = 0) (he : endCount evs = 0) (hd : doneSlabs evs = []) (a : AllocatorAction) :
    SlabPhase n r₀ a evs (t.applyToSlabs a) :=
  ⟨rfl, rfl, hp, rfl, hn, by simp [applyToSlabs, hs, he], by simp [hs], by simp [he],
    by simp [he], by simp [applyToSlabs, prepareCompletion, hi, hd, hs],
    by simp [applyToSlabs, prepareCompletion, hi, he],
    by simp [applyToSlabs], hr⟩

namespace Waiting

theorem step (h : Waiting n r₀ op evs s) {ev : AdminEvent} (hs : s.adminStep ev = some s') :
    ∃ r, ev = .subOperationDone r ∧
      s' = if op = .replayIntoSlabJournals then
        vdoNotifySlabJournalsAreRecovered { s with pending := none } r
      else finishCompletion { s with pending := none } r := by
  cases ev with
  | startSlab => simp [adminStep, h.loop] at hs
  | endLoop => simp [adminStep, h.loop] at hs
  | slabDone i r => simp [adminStep, h.inFlight] at hs
  | subOperationDone r =>
    refine ⟨r, rfl, ?_⟩
    cases op <;> simp [adminStep, h.pending] at hs ⊢ <;> exact hs.symm

theorem enabled (h : Waiting n r₀ op evs s) : ∃ ev, s.adminStep ev ≠ none :=
  ⟨.subOperationDone .success, by cases op <;> simp [adminStep, h.pending]⟩

end Waiting

theorem Finished.quiescent (h : Finished r₀ evs s) (ev : AdminEvent) : s.adminStep ev = none := by
  cases ev <;> simp [adminStep, h.loop, h.inFlight, h.pending]

/-- **An invariant of every run**: what holds after no event and is kept by every event
holds after every run. -/
theorem adminRun_invariant (P : List AdminEvent → AllocatorAdmin → Prop)
    (hstep : ∀ evs s ev s', P evs s → s.adminStep ev = some s' → P (evs ++ [ev]) s')
    {s₀ : AllocatorAdmin} (h₀ : P [] s₀) {evs : List AdminEvent} {s : AllocatorAdmin}
    (h : s₀.adminRun evs = some s) : P evs s := by
  revert h
  suffices ∀ pre s₁, P pre s₁ → s₁.adminRun evs = some s → P (pre ++ evs) s from
    fun h => by simpa using this [] s₀ h₀ h
  induction evs with
  | nil => intro pre s₁ hp hr; cases hr; simpa using hp
  | cons ev evs ih =>
    intro pre s₁ hp hr
    obtain ⟨s₂, hs, hr⟩ := Option.bind_eq_some.1 hr
    simpa using ih (pre ++ [ev]) s₂ (hstep _ _ _ _ hp hs) hr

theorem SlabPhase.subOperationCount_step (h : SlabPhase n r₀ a evs s) {ev : AdminEvent}
    (hs : s.adminStep ev = some s') : subOperationCount (evs ++ [ev]) = subOperationCount evs := by
  cases ev <;> simp_all [adminStep, h.pending, AdminEvent.isSubOperationDone]

theorem Waiting.operationResult_after (h : Waiting n r₀ op evs s) (r : Status) :
    setCompletionResult s.operationResult r =
      firstFailure (r₀ :: eventResults (evs ++ [.subOperationDone r])) := by
  simp [h.operationResult, AdminEvent.result, firstFailure_cons_append]

/-- The drain after the run `evs`, at each of its steps. -/
inductive DrainPhase (n : Nat) (r₀ : Status) : List AdminEvent → AllocatorAdmin → Prop
  /-- `SCRUBBER`: the scrubber is stopping. -/
  | scrubber {s : AllocatorAdmin} : s.steps = [1] → s.drainStep = 1 →
      s.callback = .action .doDrainStep → s.completionResult = .success →
      Waiting n r₀ .stopSlabScrubbing [] s → s.finished = [] → s.actorCalls = 0 →
      DrainPhase n r₀ [] s
  /-- `SLABS`: `apply_to_slabs` is at work. -/
  | slabs {evs : List AdminEvent} {s : AllocatorAdmin} : s.steps = [1, 2] → s.drainStep = 2 →
      SlabPhase n r₀ .doDrainStep evs s → s.finished = [] → s.actorCalls = 0 →
      subOperationCount evs = 1 → DrainPhase n r₀ evs s
  /-- `SUMMARY`: the slab summary zone is draining. -/
  | summary {evs : List AdminEvent} {s : AllocatorAdmin} : s.steps = [1, 2, 3] →
      s.drainStep = 3 → s.callback = .action .doDrainStep → s.completionResult = .success →
      Waiting n r₀ .drainSlabSummaryZone evs s → s.finished = [] → s.actorCalls = 1 →
      SlabsDone n evs → subOperationCount evs = 1 → DrainPhase n r₀ evs s
  /-- `FINISHED`: the drain has finished. -/
  | finished {evs : List AdminEvent} {s : AllocatorAdmin} : s.steps = [1, 2, 3, 4] →
      Finished r₀ evs s → s.actorCalls = 1 → SlabsDone n evs → subOperationCount evs = 2 →
      DrainPhase n r₀ evs s

theorem DrainPhase.step (h : DrainPhase n r₀ evs s) {ev : AdminEvent}
    (hs : s.adminStep ev = some s') : DrainPhase n r₀ (evs ++ [ev]) s' := by
  cases h with
  | scrubber hst hd hcb hres hw hfin hac =>
    obtain ⟨r, rfl, rfl⟩ := hw.step hs
    rw [if_neg (by decide), finishCompletion_of_success _ (by exact hres)]
    simp only [hcb, runCallback, runAction]
    simp [doDrainStep, prepareCompletion, hd, vdoDrainAllocatorStepScrubber,
      vdoDrainAllocatorStepSlabs]
    refine .slabs ?_ rfl (applyToSlabs_slabPhase rfl ?_ ?_ ?_ ?_ ?_ ?_ _) hfin hac ?_
    · simp [applyToSlabs, prepareCompletion, hst]
    · exact hw.inFlight
    · exact hw.slabCount
    · exact hw.operationResult_after r
    all_goals rfl
  | slabs hst hd hsp hfin hac hsub =>
    rcases hsp.step hs with ⟨hsp', -, hd', hst', hfin', hac'⟩ | ⟨t, hx, rfl⟩
    · exact .slabs (hst'.trans hst) (hd'.trans hd) hsp' (hfin'.trans hfin) (hac'.trans hac)
        ((hsp.subOperationCount_step hs).trans hsub)
    · have hd2 : t.drainStep = 2 := hx.drainStep.trans hd
      simp only [runAction]
      simp [doDrainStep, prepareCompletion, hd2, vdoDrainAllocatorStepScrubber,
        vdoDrainAllocatorStepSlabs, vdoDrainAllocatorStepSummary]
      refine .summary ?_ rfl rfl rfl ⟨rfl, hx.loop, hx.inFlight, hx.slabCount, hx.operationResult⟩
        (hx.finished.trans hfin) (by rw [hx.actorCalls, hac]) hx.done
        ((hsp.subOperationCount_step hs).trans hsub)
      simp [hx.steps, hst]
  | summary hst hd hcb hres hw hfin hac hdone hsub =>
    obtain ⟨r, rfl, rfl⟩ := hw.step hs
    rw [if_neg (by decide), finishCompletion_of_success _ (by exact hres)]
    simp only [hcb, runCallback, runAction]
    simp [doDrainStep, prepareCompletion, finishOperation, hd, vdoDrainAllocatorStepScrubber,
      vdoDrainAllocatorStepSlabs, vdoDrainAllocatorStepSummary, vdoDrainAllocatorStepFinished]
    refine .finished ?_ ⟨rfl, hw.loop, hw.inFlight, ?_, ?_⟩ hac ?_ ?_
    · simp [hst]
    · simp [hfin, hw.operationResult_after r]
    · simp [hw.operationResult_after r]
    · simpa [SlabsDone, AdminEvent.doneSlab] using hdone
    · simp [hsub, AdminEvent.isSubOperationDone]
  | finished _ hf => simp [hf.quiescent] at hs

/-- The resume after the run `evs`, at each of its steps. -/
inductive ResumePhase (n : Nat) (r₀ : Status) : List AdminEvent → AllocatorAdmin → Prop
  /-- `SUMMARY`: the slab summary zone is resuming. -/
  | summary {s : AllocatorAdmin} : s.steps = [3] → s.drainStep = 3 →
      s.callback = .action .doResumeStep → s.completionResult = .success →
      Waiting n r₀ .resumeSlabSummaryZone [] s → s.finished = [] → s.actorCalls = 0 →
      ResumePhase n r₀ [] s
  /-- `SLABS`: `apply_to_slabs` is at work. -/
  | slabs {evs : List AdminEvent} {s : AllocatorAdmin} : s.steps = [3, 2] → s.drainStep = 2 →
      SlabPhase n r₀ .doResumeStep evs s → s.finished = [] → s.actorCalls = 0 →
      subOperationCount evs = 1 → ResumePhase n r₀ evs s
  /-- `SCRUBBER`: the scrubber is resuming. -/
  | scrubber {evs : List AdminEvent} {s : AllocatorAdmin} : s.steps = [3, 2, 1] →
      s.drainStep = 1 → s.callback = .action .doResumeStep → s.completionResult = .success →
      Waiting n r₀ .resumeSlabScrubbing evs s → s.finished = [] → s.actorCalls = 1 →
      SlabsDone n evs → subOperationCount evs = 1 → ResumePhase n r₀ evs s
  /-- `START`: the resume has finished. -/
  | finished {evs : List AdminEvent} {s : AllocatorAdmin} : s.steps = [3, 2, 1, 0] →
      Finished r₀ evs s → s.actorCalls = 1 → SlabsDone n evs → subOperationCount evs = 2 →
      ResumePhase n r₀ evs s

theorem ResumePhase.step (h : ResumePhase n r₀ evs s) {ev : AdminEvent}
    (hs : s.adminStep ev = some s') : ResumePhase n r₀ (evs ++ [ev]) s' := by
  cases h with
  | summary hst hd hcb hres hw hfin hac =>
    obtain ⟨r, rfl, rfl⟩ := hw.step hs
    rw [if_neg (by decide), finishCompletion_of_success _ (by exact hres)]
    simp only [hcb, runCallback, runAction]
    simp [doResumeStep, prepareCompletion, hd, vdoDrainAllocatorStepSummary,
      vdoDrainAllocatorStepSlabs]
    refine .slabs ?_ rfl (applyToSlabs_slabPhase rfl ?_ ?_ ?_ ?_ ?_ ?_ _) hfin hac ?_
    · simp [applyToSlabs, prepareCompletion, hst]
    · exact hw.inFlight
    · exact hw.slabCount
    · exact hw.operationResult_after r
    all_goals rfl
  | slabs hst hd hsp hfin hac hsub =>
    rcases hsp.step hs with ⟨hsp', -, hd', hst', hfin', hac'⟩ | ⟨t, hx, rfl⟩
    · exact .slabs (hst'.trans hst) (hd'.trans hd) hsp' (hfin'.trans hfin) (hac'.trans hac)
        ((hsp.subOperationCount_step hs).trans hsub)
    · have hd2 : t.drainStep = 2 := hx.drainStep.trans hd
      simp only [runAction]
      simp [doResumeStep, prepareCompletion, hd2, vdoDrainAllocatorStepScrubber,
        vdoDrainAllocatorStepSlabs, vdoDrainAllocatorStepSummary]
      refine .scrubber ?_ rfl rfl rfl ⟨rfl, hx.loop, hx.inFlight, hx.slabCount, hx.operationResult⟩
        (hx.finished.trans hfin) (by rw [hx.actorCalls, hac]) hx.done
        ((hsp.subOperationCount_step hs).trans hsub)
      simp [hx.steps, hst]
  | scrubber hst hd hcb hres hw hfin hac hdone hsub =>
    obtain ⟨r, rfl, rfl⟩ := hw.step hs
    rw [if_neg (by decide), finishCompletion_of_success _ (by exact hres)]
    simp only [hcb, runCallback, runAction]
    simp [doResumeStep, prepareCompletion, finishOperation, hd, vdoDrainAllocatorStepScrubber,
      vdoDrainAllocatorStepSlabs, vdoDrainAllocatorStepSummary, vdoDrainAllocatorStart]
    refine .finished ?_ ⟨rfl, hw.loop, hw.inFlight, ?_, ?_⟩ hac ?_ ?_
    · simp [hst]
    · simp [hfin, hw.operationResult_after r]
    · simp [hw.operationResult_after r]
    · simpa [SlabsDone, AdminEvent.doneSlab] using hdone
    · simp [hsub, AdminEvent.isSubOperationDone]
  | finished _ hf => simp [hf.quiescent] at hs

/-- A load other than a rebuild after the run `evs`. -/
inductive LoadPhase (n : Nat) (r₀ : Status) : List AdminEvent → AllocatorAdmin → Prop
  /-- `apply_to_slabs` is at work. -/
  | slabs {evs : List AdminEvent} {s : AllocatorAdmin} : s.steps = [] →
      SlabPhase n r₀ .finishLoadingAllocator evs s → s.finished = [] → s.actorCalls = 0 →
      subOperationCount evs = 0 → LoadPhase n r₀ evs s
  /-- A recovery replays the recovery journal into the slab journals. -/
  | replay {evs : List AdminEvent} {s : AllocatorAdmin} : s.steps = [] →
      Waiting n r₀ .replayIntoSlabJournals evs s → s.finished = [] → s.actorCalls = 1 →
      SlabsDone n evs → subOperationCount evs = 0 → LoadPhase n r₀ evs s
  /-- The load has finished. -/
  | finished {evs : List AdminEvent} {s : AllocatorAdmin} : s.steps = [] → Finished r₀ evs s →
      s.actorCalls = 1 → SlabsDone n evs → subOperationCount evs ≤ 1 → LoadPhase n r₀ evs s

theorem LoadPhase.step (h : LoadPhase n r₀ evs s) {ev : AdminEvent}
    (hs : s.adminStep ev = some s') : LoadPhase n r₀ (evs ++ [ev]) s' := by
  cases h with
  | slabs hst hsp hfin hac hsub =>
    rcases hsp.step hs with ⟨hsp', -, -, hst', hfin', hac'⟩ | ⟨t, hx, rfl⟩
    · exact .slabs (hst'.trans hst) hsp' (hfin'.trans hfin) (hac'.trans hac)
        ((hsp.subOperationCount_step hs).trans hsub)
    · have hsub' := (hsp.subOperationCount_step hs).trans hsub
      have hac1 : t.actorCalls = 1 := by rw [hx.actorCalls, hac]
      simp only [runAction, finishLoadingAllocator]
      split_ifs
      · exact .replay (hx.steps.trans hst) ⟨rfl, hx.loop, hx.inFlight, hx.slabCount,
          hx.operationResult⟩ (hx.finished.trans hfin) hac1 hx.done hsub'
      · refine .finished (hx.steps.trans hst) ⟨hx.pending, hx.loop, hx.inFlight, ?_, ?_⟩ hac1
          hx.done (by omega)
        · simp [finishOperation, hx.finished, hfin, hx.operationResult]
        · simp [finishOperation, hx.operationResult]
  | replay hst hw hfin hac hdone hsub =>
    obtain ⟨r, rfl, rfl⟩ := hw.step hs
    simp only [if_pos, vdoNotifySlabJournalsAreRecovered, finishOperation]
    refine .finished hst ⟨rfl, hw.loop, hw.inFlight, ?_, ?_⟩ hac ?_ ?_
    · simp [hfin, hw.operationResult_after r]
    · simp [hw.operationResult_after r]
    · simpa [SlabsDone, AdminEvent.doneSlab] using hdone
    · simp [hsub, AdminEvent.isSubOperationDone]
  | finished _ hf => simp [hf.quiescent] at hs

/-- What every run of an admin operation guarantees, for an allocator of `n` slabs whose
operation result was `r₀`, the operation's steps being `expected` and at most `bound`
events being possible: the steps so far are a prefix of `expected`; `actor->callback`
has run at most once, and has run exactly when all `n` slab actions have been started
and have finished and the loop has ended; the operation has finished at most once, and
only after all its steps and slab actions, with the first failure of every result; and
it has finished exactly when no event can happen any more. -/
structure AdminRunSpec (n : Nat) (r₀ : Status) (expected : List Int) (bound : Nat)
    (evs : List AdminEvent) (s : AllocatorAdmin) : Prop where
  steps : s.steps <+: expected
  actorCalls_le : s.actorCalls ≤ 1
  actorCalls_eq_one : s.actorCalls = 1 ↔ SlabsDone n evs
  finished_length : s.finished.length ≤ 1
  finished : s.finished ≠ [] →
    s.steps = expected ∧ SlabsDone n evs ∧ s.finished = [firstFailure (r₀ :: eventResults evs)]
  quiescent : (∀ ev, s.adminStep ev = none) ↔ s.finished ≠ []
  length_le : evs.length ≤ bound
  latched : s.operationResult = firstFailure (r₀ :: eventResults evs)

variable {expected : List Int} {bound : Nat}

theorem AdminRunSpec.of_running (hsteps : s.steps <+: expected) (hcalls : s.actorCalls ≤ 1)
    (hactor : s.actorCalls = 1 ↔ SlabsDone n evs) (hfin : s.finished = [])
    (hen : ∃ ev, s.adminStep ev ≠ none) (hlen : evs.length ≤ bound)
    (hr : s.operationResult = firstFailure (r₀ :: eventResults evs)) :
    AdminRunSpec n r₀ expected bound evs s where
  steps := hsteps
  actorCalls_le := hcalls
  actorCalls_eq_one := hactor
  finished_length := by simp [hfin]
  finished := fun h => absurd hfin h
  quiescent := by
    obtain ⟨ev, hev⟩ := hen
    simp only [hfin, ne_eq, not_true_eq_false, iff_false, not_forall]
    exact ⟨ev, hev⟩
  length_le := hlen
  latched := hr

theorem AdminRunSpec.of_finished (hsteps : s.steps = expected) (hcalls : s.actorCalls = 1)
    (hdone : SlabsDone n evs) (hf : Finished r₀ evs s) (hlen : evs.length ≤ bound) :
    AdminRunSpec n r₀ expected bound evs s where
  steps := hsteps ▸ List.prefix_refl _
  actorCalls_le := hcalls.le
  actorCalls_eq_one := ⟨fun _ => hdone, fun _ => hcalls⟩
  finished_length := by simp [hf.finished]
  finished := fun _ => ⟨hsteps, hdone, hf.finished⟩
  quiescent := ⟨fun _ => by simp [hf.finished], fun _ => hf.quiescent⟩
  length_le := hlen
  latched := hf.operationResult

end AllocatorAdmin

theorem SlabsDone.length_eq (h : SlabsDone n evs) :
    evs.length = 2 * n + 1 + subOperationCount evs := by
  obtain ⟨hs, he, hp⟩ := h
  rw [length_eq_counts, hs, he, hp.length_eq, List.length_range]
  omega

namespace AllocatorAdmin

theorem SlabPhase.length_le (h : SlabPhase n r₀ a evs s) :
    evs.length ≤ 2 * n + 1 + subOperationCount evs := by
  have := h.length_add
  have := h.started_le
  have := h.endCount_le
  rw [length_eq_counts]
  omega

theorem DrainPhase.spec (h : DrainPhase n r₀ evs s) :
    AdminRunSpec n r₀ [1, 2, 3, 4] (2 * n + 3) evs s := by
  cases h with
  | scrubber hst _ _ _ hw hfin hac =>
    exact .of_running (by simp [hst]) (by simp [hac]) (by simp [hac, SlabsDone]) hfin hw.enabled
      (by simp) hw.operationResult
  | slabs hst _ hsp hfin hac hsub =>
    exact .of_running (by simp [hst]) (by simp [hac]) (by simp [hac, hsp.not_slabsDone]) hfin
      hsp.enabled (by have := hsp.length_le; omega) hsp.operationResult
  | summary hst _ _ _ hw hfin hac hdone hsub =>
    exact .of_running (by simp [hst]) (by simp [hac]) (by simp [hac, hdone]) hfin hw.enabled
      (by rw [hdone.length_eq]; omega) hw.operationResult
  | finished hst hf hac hdone hsub => exact .of_finished hst hac hdone hf (by rw [hdone.length_eq]; omega)

theorem ResumePhase.spec (h : ResumePhase n r₀ evs s) :
    AdminRunSpec n r₀ [3, 2, 1, 0] (2 * n + 3) evs s := by
  cases h with
  | summary hst _ _ _ hw hfin hac =>
    exact .of_running (by simp [hst]) (by simp [hac]) (by simp [hac, SlabsDone]) hfin hw.enabled
      (by simp) hw.operationResult
  | slabs hst _ hsp hfin hac hsub =>
    exact .of_running (by simp [hst]) (by simp [hac]) (by simp [hac, hsp.not_slabsDone]) hfin
      hsp.enabled (by have := hsp.length_le; omega) hsp.operationResult
  | scrubber hst _ _ _ hw hfin hac hdone hsub =>
    exact .of_running (by simp [hst]) (by simp [hac]) (by simp [hac, hdone]) hfin hw.enabled
      (by rw [hdone.length_eq]; omega) hw.operationResult
  | finished hst hf hac hdone hsub => exact .of_finished hst hac hdone hf (by rw [hdone.length_eq]; omega)

theorem LoadPhase.spec (h : LoadPhase n r₀ evs s) : AdminRunSpec n r₀ [] (2 * n + 2) evs s := by
  cases h with
  | slabs hst hsp hfin hac hsub =>
    exact .of_running (by simp [hst]) (by simp [hac]) (by simp [hac, hsp.not_slabsDone]) hfin
      hsp.enabled (by have := hsp.length_le; omega) hsp.operationResult
  | replay hst hw hfin hac hdone hsub =>
    exact .of_running (by simp [hst]) (by simp [hac]) (by simp [hac, hdone]) hfin hw.enabled
      (by rw [hdone.length_eq]; omega) hw.operationResult
  | finished hst hf hac hdone hsub => exact .of_finished hst hac hdone hf (by rw [hdone.length_eq]; omega)

theorem firstFailure_singleton (r : Status) : firstFailure [r] = r := by
  by_cases h : r = .success <;> simp [firstFailure, h]

theorem Idle.waiting {s₀ : AllocatorAdmin} (h₀ : s₀.Idle) (t : AllocatorAdmin) (op : SubOperation)
    (hp : t.pending = some op) (hl : t.loop = s₀.loop) (hi : t.inFlight = s₀.inFlight)
    (hn : t.slabCount = s₀.slabCount) (hr : t.operationResult = s₀.operationResult) :
    Waiting s₀.slabCount s₀.operationResult op [] t :=
  ⟨hp, hl.trans h₀.loop, hi.trans h₀.inFlight, hn, by rw [hr, eventResults_nil, firstFailure_singleton]⟩

theorem Idle.drainPhase {s₀ : AllocatorAdmin} (h₀ : s₀.Idle) :
    DrainPhase s₀.slabCount s₀.operationResult [] s₀.initiateDrain := by
  simp only [initiateDrain]
  simp [doDrainStep, prepareCompletion, vdoDrainAllocatorStart, vdoDrainAllocatorStepScrubber]
  exact .scrubber (by simp [h₀.steps]) rfl rfl rfl (h₀.waiting _ _ rfl rfl rfl rfl rfl) h₀.finished
    h₀.actorCalls

theorem Idle.resumePhase {s₀ : AllocatorAdmin} (h₀ : s₀.Idle) :
    ResumePhase s₀.slabCount s₀.operationResult [] s₀.initiateResume := by
  simp only [initiateResume]
  simp [doResumeStep, prepareCompletion, vdoDrainAllocatorStepFinished, vdoDrainAllocatorStepSummary]
  exact .summary (by simp [h₀.steps]) rfl rfl rfl (h₀.waiting _ _ rfl rfl rfl rfl rfl) h₀.finished
    h₀.actorCalls

theorem Idle.loadPhase {s₀ : AllocatorAdmin} (h₀ : s₀.Idle) (hop : s₀.operation ≠ .loadingForRebuild) :
    LoadPhase s₀.slabCount s₀.operationResult [] s₀.initiateLoad := by
  simp only [initiateLoad, if_neg hop]
  refine .slabs h₀.steps (applyToSlabs_slabPhase h₀.pending h₀.inFlight rfl ?_ ?_ ?_ ?_ _)
    h₀.finished h₀.actorCalls rfl
  · rw [eventResults_nil, firstFailure_singleton]
  all_goals rfl

end AllocatorAdmin

open AllocatorAdmin in
/-- **The admin operations of a block allocator.**  From an allocator with nothing under
way, in every run of a drain, a resume or a load other than a rebuild, whatever the slab
actions and the sub-operations answer and in whatever order they finish: the drain's
steps are `SCRUBBER, SLABS, SUMMARY, FINISHED` and the resume's `SUMMARY, SLABS,
SCRUBBER, START`, each once and in that order, so the `UDS_BAD_STATE` default branches are
never taken; `apply_to_slabs` runs its callback at most once, exactly when all slab
actions have been started and have finished; and the operation finishes at most once,
with the first failure of every result, exactly when no event can happen any more, which
is after at most `2n + 3` events. -/
theorem adminOperations_spec {s₀ : AllocatorAdmin} (h₀ : s₀.Idle) (evs : List AdminEvent)
    (s : AllocatorAdmin) :
    (s₀.initiateDrain.adminRun evs = some s →
      AdminRunSpec s₀.slabCount s₀.operationResult
        [vdoDrainAllocatorStepScrubber, vdoDrainAllocatorStepSlabs, vdoDrainAllocatorStepSummary,
          vdoDrainAllocatorStepFinished] (2 * s₀.slabCount + 3) evs s) ∧
    (s₀.initiateResume.adminRun evs = some s →
      AdminRunSpec s₀.slabCount s₀.operationResult
        [vdoDrainAllocatorStepSummary, vdoDrainAllocatorStepSlabs, vdoDrainAllocatorStepScrubber,
          vdoDrainAllocatorStart] (2 * s₀.slabCount + 3) evs s) ∧
    (s₀.operation ≠ .loadingForRebuild → s₀.initiateLoad.adminRun evs = some s →
      AdminRunSpec s₀.slabCount s₀.operationResult [] (2 * s₀.slabCount + 2) evs s) :=
  ⟨fun h => (adminRun_invariant _ (fun _ _ _ _ hp hs => hp.step hs) h₀.drainPhase h).spec,
    fun h => (adminRun_invariant _ (fun _ _ _ _ hp hs => hp.step hs) h₀.resumePhase h).spec,
    fun hop h => (adminRun_invariant _ (fun _ _ _ _ hp hs => hp.step hs) (h₀.loadPhase hop) h).spec⟩

/-- An allocator of two slabs, between operations, about to drain. -/
def twoSlabAllocator : AllocatorAdmin :=
  ⟨.draining, .success, .success, .action .doDrainStep, 0, .doDrainStep, 0, 2, none, [], none,
    [], 0, []⟩

/-- A drain of two slabs: the scrubber stops, slab `1` finishes inside the loop with an
error, slab `0` after it, the summary drains. -/
def twoSlabDrain : List AdminEvent :=
  [.subOperationDone .success, .startSlab, .startSlab, .slabDone 1 .noSpace, .endLoop,
    .slabDone 0 .success, .subOperationDone .success]

/-- The two-slab drain runs each step once and finishes once, with the slab's error. -/
example : (twoSlabAllocator.initiateDrain.adminRun twoSlabDrain).map
    (fun s => (s.steps, s.actorCalls, s.finished)) = some ([1, 2, 3, 4], 1, [.noSpace]) := by
  decide

/-- The allocator after the two-slab drain. -/
def drainedTwoSlabs : AllocatorAdmin :=
  (twoSlabAllocator.initiateDrain.adminRun twoSlabDrain).getD twoSlabAllocator

/-- The two-slab allocator between operations, about to resume. -/
def resumingTwoSlabs : AllocatorAdmin := { twoSlabAllocator with operation := .resuming }

/-- A resume of two slabs: the summary resumes, both slab actions finish after the loop,
the scrubber resumes. -/
def twoSlabResume : List AdminEvent :=
  [.subOperationDone .success, .startSlab, .startSlab, .endLoop, .slabDone 0 .success,
    .slabDone 1 .success, .subOperationDone .success]

/-- The two-slab resume runs the steps back down to the start and finishes once. -/
example : (resumingTwoSlabs.initiateResume.adminRun twoSlabResume).map
    (fun s => (s.steps, s.actorCalls, s.finished)) = some ([3, 2, 1, 0], 1, [.success]) := by
  decide

/-- The allocator after the two-slab resume. -/
def resumedTwoSlabs : AllocatorAdmin :=
  (resumingTwoSlabs.initiateResume.adminRun twoSlabResume).getD resumingTwoSlabs

/-- The two-slab allocator between operations, about to load normally. -/
def loadingTwoSlabs : AllocatorAdmin := { twoSlabAllocator with operation := .loading }

/-- A normal load of two slabs: slab `0` loads inside the loop, slab `1` after it, with an
error. -/
def twoSlabLoad : List AdminEvent :=
  [.startSlab, .slabDone 0 .success, .startSlab, .endLoop, .slabDone 1 .noSpace]

/-- The two-slab load finishes once, with the slab's error. -/
example : (loadingTwoSlabs.initiateLoad.adminRun twoSlabLoad).map
    (fun s => (s.actorCalls, s.finished)) = some (1, [.noSpace]) := by
  decide

/-- The allocator after the two-slab load. -/
def loadedTwoSlabs : AllocatorAdmin :=
  (loadingTwoSlabs.initiateLoad.adminRun twoSlabLoad).getD loadingTwoSlabs

open AllocatorAdmin in
theorem adminOperations_spec_twoSlabs :
    twoSlabAllocator.Idle ∧
    twoSlabAllocator.initiateDrain.adminRun twoSlabDrain = some drainedTwoSlabs ∧
    AdminRunSpec twoSlabAllocator.slabCount twoSlabAllocator.operationResult
      [vdoDrainAllocatorStepScrubber, vdoDrainAllocatorStepSlabs, vdoDrainAllocatorStepSummary,
        vdoDrainAllocatorStepFinished] (2 * twoSlabAllocator.slabCount + 3) twoSlabDrain
      drainedTwoSlabs ∧
    resumingTwoSlabs.Idle ∧
    resumingTwoSlabs.initiateResume.adminRun twoSlabResume = some resumedTwoSlabs ∧
    AdminRunSpec resumingTwoSlabs.slabCount resumingTwoSlabs.operationResult
      [vdoDrainAllocatorStepSummary, vdoDrainAllocatorStepSlabs, vdoDrainAllocatorStepScrubber,
        vdoDrainAllocatorStart] (2 * resumingTwoSlabs.slabCount + 3) twoSlabResume
      resumedTwoSlabs ∧
    loadingTwoSlabs.Idle ∧ loadingTwoSlabs.operation ≠ .loadingForRebuild ∧
    loadingTwoSlabs.initiateLoad.adminRun twoSlabLoad = some loadedTwoSlabs ∧
    AdminRunSpec loadingTwoSlabs.slabCount loadingTwoSlabs.operationResult []
      (2 * loadingTwoSlabs.slabCount + 2) twoSlabLoad loadedTwoSlabs := by
  have hd : twoSlabAllocator.initiateDrain.adminRun twoSlabDrain = some drainedTwoSlabs := by
    decide
  have hr : resumingTwoSlabs.initiateResume.adminRun twoSlabResume = some resumedTwoSlabs := by
    decide
  have hl : loadingTwoSlabs.initiateLoad.adminRun twoSlabLoad = some loadedTwoSlabs := by
    decide
  exact ⟨⟨rfl, rfl, rfl, rfl, rfl, rfl⟩, hd,
    (adminOperations_spec ⟨rfl, rfl, rfl, rfl, rfl, rfl⟩ twoSlabDrain drainedTwoSlabs).1 hd,
    ⟨rfl, rfl, rfl, rfl, rfl, rfl⟩, hr,
    (adminOperations_spec ⟨rfl, rfl, rfl, rfl, rfl, rfl⟩ twoSlabResume resumedTwoSlabs).2.1 hr,
    ⟨rfl, rfl, rfl, rfl, rfl, rfl⟩, by decide, hl,
    (adminOperations_spec ⟨rfl, rfl, rfl, rfl, rfl, rfl⟩ twoSlabLoad loadedTwoSlabs).2.2
      (by decide) hl⟩

end Kvdo
