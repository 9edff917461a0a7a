/-
A log of changes.  A value is entered only when it differs from the last one
entered, so the log of a series is the series without its repetitions, its
last entry is the last value, and an entry is never taken back.
-/
import Mathlib.Data.List.Destutter

namespace ChangeLog

universe u

variable {V : Type u} [DecidableEq V]

/-- Enter a value that the log does not end in. -/
def record (log : List V) (value : V) : List V :=
  if log.getLast? = some value then log else log ++ [value]

theorem getLast?_record (log : List V) (value : V) :
    (record log value).getLast? = some value := by
  unfold record
  split
  · next hlast => exact hlast
  · exact List.getLast?_concat

/-- The log ends in the last value of the series. -/
theorem getLast?_recordAll (values : List V) (log : List V) :
    (values.foldl record log).getLast? = values.getLast?.or log.getLast? := by
  induction values generalizing log with
  | nil => rfl
  | cons value values ih =>
      rw [List.foldl_cons, ih, getLast?_record, List.getLast?_cons]
      cases values.getLast? <;> rfl

theorem recordAll_concat (values log : List V) (last : V) :
    values.foldl record (log ++ [last]) =
      log ++ values.destutter' (· ≠ ·) last := by
  induction values generalizing log last with
  | nil => rfl
  | cons value values ih =>
      by_cases hsame : last = value
      · have hstep : record (log ++ [last]) value = log ++ [last] := by
          simp [record, hsame]
        rw [List.foldl_cons, hstep, ih,
          List.destutter'_cons_neg (h := not_not.mpr hsame)]
      · have hstep : record (log ++ [last]) value = log ++ [last] ++ [value] := by
          simp [record, hsame]
        rw [List.foldl_cons, hstep, ih, List.destutter'_cons_pos (h := hsame),
          List.append_assoc, List.singleton_append]

/-- The log of a series is the series without consecutive repetitions. -/
theorem recordAll_eq_destutter (values : List V) :
    values.foldl record [] = values.destutter (· ≠ ·) := by
  cases values with
  | nil => rfl
  | cons value values => exact recordAll_concat values [] value

end ChangeLog
