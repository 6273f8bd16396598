/-
# Result codes and completion results

The modelled C functions return an `int` result, `VDO_SUCCESS` (`UDS_SUCCESS`, both
`0`) or an error code from `status-codes.h` / `errors.h`.  `Status` names the codes the
modelled functions return or test for; every other code is `other`.

A `vdo_completion` carries a `result`, and `vdo_set_completion_result` keeps the first
failure it is given (`completion.c`, not in the sources): the spec's "errors ride along
the completion's `result` field" and "the first non-success result" of a fan-out.
-/

import Mathlib.Tactic

namespace Kvdo

/-- A result code. -/
inductive Status where
  /-- `VDO_SUCCESS`, `UDS_SUCCESS`. -/
  | success
  /-- `VDO_NO_SPACE`. -/
  | noSpace
  /-- `VDO_OUT_OF_RANGE`. -/
  | outOfRange
  /-- `VDO_LOCK_ERROR`. -/
  | lockError
  /-- `UDS_NO_INDEX`. -/
  | noIndex
  /-- `UDS_CORRUPT_COMPONENT`. -/
  | corruptComponent
  /-- `UDS_BAD_STATE`. -/
  | badState
  /-- Any other error code. -/
  | other (code : Nat)
  deriving DecidableEq, Repr

/-- Linux's `EINVAL`; the functions that reject an argument return `-EINVAL`. -/
def einval : Int := 22

/-- Modelled from the spec: `vdo_set_completion_result`, which records `result` only
while the completion still holds `VDO_SUCCESS`, so the first failure sticks. -/
def setCompletionResult (current result : Status) : Status :=
  if current = .success then result else current

@[simp] theorem setCompletionResult_success (result : Status) :
    setCompletionResult .success result = result := rfl

theorem setCompletionResult_of_ne {current : Status} (h : current ≠ .success)
    (result : Status) : setCompletionResult current result = current := if_neg h

/-- Setting `VDO_SUCCESS` changes nothing. -/
@[simp] theorem setCompletionResult_success_right (current : Status) :
    setCompletionResult current .success = current := by
  unfold setCompletionResult; split_ifs with h <;> simp [h]

/-- The first failure of a sequence of results, or `VDO_SUCCESS` if there is none:
what a completion holds after `vdo_set_completion_result` with each of them in turn. -/
def firstFailure : List Status → Status
  | [] => .success
  | r :: rs => if r = .success then firstFailure rs else r

@[simp] theorem firstFailure_nil : firstFailure [] = .success := rfl

/-- Folding `vdo_set_completion_result` over results keeps the first failure. -/
theorem foldl_setCompletionResult (current : Status) (rs : List Status) :
    rs.foldl setCompletionResult current = setCompletionResult current (firstFailure rs) := by
  induction rs generalizing current with
  | nil => simp [firstFailure]
  | cons r rs ih =>
    rw [List.foldl_cons, ih]
    by_cases hc : current = .success
    · subst hc; by_cases hr : r = .success <;> simp [firstFailure, setCompletionResult, hr]
    · simp [setCompletionResult_of_ne hc]

/-- One more result joins the first failure as `vdo_set_completion_result` does. -/
theorem firstFailure_append (rs : List Status) (r : Status) :
    firstFailure (rs ++ [r]) = setCompletionResult (firstFailure rs) r := by
  induction rs with
  | nil => by_cases h : r = .success <;> simp [firstFailure, setCompletionResult, h]
  | cons r' rs ih =>
    by_cases h : r' = .success
    · simp [firstFailure, h, ih]
    · simp [firstFailure, h, setCompletionResult_of_ne h]

end Kvdo
