/-
# The log level parameter

`sysfs.c` declares kvdo's module parameters.  `vdo_log_level_store` sets the log level
from a C string: it refuses a string of more than ten bytes (`strlen`) with `-EINVAL`,
clears the eleven-byte `internal_buf`, copies the string in, cuts one trailing newline,
and hands the C string left in `internal_buf` to `uds_log_string_to_priority` and
`set_uds_log_level` (not in the sources: the model returns the bytes it hands over).

The argument is its bytes before the terminating NUL, so a name in UTF-8 counts each
of its bytes.  The newline test reads `internal_buf[n - 1]`.  For the empty string that is
`internal_buf[-1]`, outside the array; the model reads `none` there.

* `vdoLogLevelStore_spec`: for every byte string without a NUL, the empty string reads
  outside `internal_buf`, a string of more than ten bytes is refused, and any other is
  handed over whole but for one trailing newline.
-/

import Kvdo.Status

namespace Kvdo

/-- `sizeof(internal_buf)`. -/
def internalBufSize : Nat := 11

/-- `internal_buf[i]`, or `none` for an index outside the array. -/
def readInternalBuf (internalBuf : List UInt8) (i : Int) : Option UInt8 :=
  if 0 ≤ i then internalBuf[i.toNat]? else none

/-- The C string a `char` array holds: the bytes before its first NUL. -/
def cString (bytes : List UInt8) : List UInt8 := bytes.takeWhile (· ≠ 0)

/-- `vdo_log_level_store` on `buf`, the bytes of its argument before the terminating
NUL: `none` where it reads outside `internal_buf`, else its result and the string it
passes to `uds_log_string_to_priority`, if it passes one. -/
def vdoLogLevelStore (buf : List UInt8) : Option (Int × Option (List UInt8)) :=
  let n : Int := buf.length
  if n > 10 then some (-einval, none)
  else
    let internalBuf := buf ++ List.replicate (internalBufSize - buf.length) 0
    match readInternalBuf internalBuf (n - 1) with
    | none => none
    | some c =>
      let internalBuf := if c = 10 then internalBuf.set (n - 1).toNat 0 else internalBuf
      some (0, some (cString internalBuf))

theorem cString_append_nul {l : List UInt8} (h : (0 : UInt8) ∉ l) (rest : List UInt8) :
    cString (l ++ 0 :: rest) = l := by
  rw [cString, List.takeWhile_append_of_pos fun a ha => decide_eq_true (ne_of_mem_of_not_mem ha h),
    List.takeWhile_cons_of_neg (by simp), List.append_nil]

/-- **What the log level store hands over.**  For every byte string without a NUL: the
empty string makes `vdo_log_level_store` read `internal_buf[-1]`, outside the array; a
string of more than ten bytes is refused with `-EINVAL` and nothing is handed over; any
other string is accepted and handed to `uds_log_string_to_priority` whole, but for one
trailing newline (byte `10`). -/
theorem vdoLogLevelStore_spec (buf : List UInt8) (hnul : (0 : UInt8) ∉ buf) :
    vdoLogLevelStore buf =
      if buf = [] then none
      else if 10 < buf.length then some (-einval, none)
      else some (0, some (if buf.getLast? = some 10 then buf.dropLast else buf)) := by
  rcases List.eq_nil_or_concat buf with rfl | ⟨init, c, rfl⟩
  · rfl
  rw [List.concat_eq_append] at hnul ⊢
  have hlen : (init ++ [c]).length = init.length + 1 := List.length_append ..
  rw [if_neg (List.append_ne_nil_of_right_ne_nil init (List.cons_ne_nil c []))]
  by_cases hlong : 10 < (init ++ [c]).length
  · rw [if_pos hlong, vdoLogLevelStore, if_pos (by omega)]
  obtain ⟨k, hk⟩ : ∃ k, internalBufSize - (init ++ [c]).length = k + 1 :=
    ⟨internalBufSize - (init ++ [c]).length - 1, by rw [internalBufSize]; omega⟩
  have hread : readInternalBuf (init ++ [c] ++ List.replicate (k + 1) 0)
      (((init ++ [c]).length : Int) - 1) = some c := by
    rw [readInternalBuf, if_pos (by omega), List.append_assoc,
      List.getElem?_append_right (by omega)]
    simp [hlen]
  rw [if_neg hlong, List.getLast?_concat, List.dropLast_concat, vdoLogLevelStore,
    if_neg (by omega), hk]
  dsimp only
  rw [hread]
  dsimp only
  by_cases hn : c = 10
  · have hset : (init ++ [c] ++ List.replicate (k + 1) 0).set
        (((init ++ [c]).length : Int) - 1).toNat 0 = init ++ 0 :: List.replicate (k + 1) 0 := by
      rw [List.append_assoc, List.set_append_right _ _ (by omega)]
      simp [hlen]
    rw [if_pos hn, if_pos (congrArg some hn), hset,
      cString_append_nul (fun h => hnul (List.mem_append_left _ h))]
  · rw [if_neg hn, if_neg (fun h => hn (Option.some.inj h)), List.replicate_succ,
      cString_append_nul hnul]

/-- Six `é`, two bytes each in UTF-8, are twelve bytes: refused. -/
example : vdoLogLevelStore (List.replicate 6 [0xC3, 0xA9]).flatten = some (-einval, none) := by
  decide

/-- `debug` and a newline, in ASCII. -/
def debugLine : List UInt8 := [100, 101, 98, 117, 103, 10]

theorem vdoLogLevelStore_spec_debug :
    (0 : UInt8) ∉ debugLine ∧
      vdoLogLevelStore debugLine =
        if debugLine = [] then none
        else if 10 < debugLine.length then some (-einval, none)
        else some (0, some (if debugLine.getLast? = some 10 then debugLine.dropLast
          else debugLine)) :=
  ⟨by decide, vdoLogLevelStore_spec _ (by decide)⟩

end Kvdo
