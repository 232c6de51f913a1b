import Mathlib.Data.Finset.Basic
import AndroidMessenger.Networking.Wait

namespace AndroidMessenger.Networking

/-! The timeout of `flex_waiter::wait`.  The counts of `std::chrono` and the fields of a
`timeval` have 64 bits. -/

/-- A duration in seconds where milliseconds are expected. -/
def milliseconds (seconds : Int64) : Int64 :=
  seconds * 1000

structure Timeval where
  tvSec : Int64
  tvUsec : Int64
  deriving DecidableEq

/-- What `select` is given for the timeout.  `none` is the null pointer. -/
def pTimeout (timeout : Int64) : Option Timeval :=
  if timeout > milliseconds Int64.minValue then
    let v := timeout
    some { tvSec := v / 1000, tvUsec := (v % 1000) * 1000 }
  else none

/-- `milliseconds::min()`, which stands for no timeout. -/
def defaultTimeout : Int64 := Int64.minValue

namespace Timeval

structure Represents (tv : Timeval) (timeout : Int64) : Prop where
  whole : tv.tvSec.toInt * 1000000 + tv.tvUsec.toInt = timeout.toInt * 1000
  nonneg : 0 ≤ tv.tvUsec.toInt
  normal : tv.tvUsec.toInt < 1000000

end Timeval

/-- Only the default waits forever, and a timeout is waited for as it is. -/
structure TimeoutKept (timeout : Int64) : Prop where
  forever : pTimeout timeout = none ↔ timeout = defaultTimeout
  kept : 0 ≤ timeout.toInt → ∃ tv, pTimeout timeout = some tv ∧ tv.Represents timeout

/-- The product leaves the 64 bits, and nothing of it is left. -/
theorem milliseconds_minValue : milliseconds Int64.minValue = 0 := by
  decide

theorem pTimeout_of_pos {timeout : Int64} (positive : 0 < timeout) :
    pTimeout timeout =
      some { tvSec := timeout / 1000, tvUsec := (timeout % 1000) * 1000 } := by
  rw [pTimeout, milliseconds_minValue]
  exact if_pos positive

theorem pTimeout_eq_none_iff {timeout : Int64} : pTimeout timeout = none ↔ timeout ≤ 0 := by
  rw [pTimeout, milliseconds_minValue, Int64.le_iff_toInt_le]
  split
  · rename_i positive
    have above := Int64.lt_iff_toInt_lt.mp positive
    simp only [reduceCtorEq, false_iff]
    omega
  · rename_i other
    rw [gt_iff_lt, Int64.lt_iff_toInt_lt] at other
    simp only [true_iff]
    omega

theorem represents_of_pos {timeout : Int64} (positive : 0 < timeout) :
    Timeval.Represents { tvSec := timeout / 1000, tvUsec := (timeout % 1000) * 1000 }
      timeout := by
  have above : 0 < timeout.toInt := Int64.lt_iff_toInt_lt.mp positive
  have thousand : (1000 : Int64).toInt = 1000 := by decide
  have sec : (timeout / 1000).toInt = timeout.toInt / 1000 := by
    rw [Int64.toInt_div_of_ne_right _ _ (by decide), thousand]
    exact Int.tdiv_eq_ediv_of_nonneg (Int.le_of_lt above)
  have rest : (timeout % 1000).toInt = timeout.toInt % 1000 := by
    rw [Int64.toInt_mod, thousand]
    exact Int.tmod_eq_emod_of_nonneg (Int.le_of_lt above)
  have usec : (timeout % 1000 * 1000).toInt = timeout.toInt % 1000 * 1000 := by
    rw [Int64.toInt_mul, rest, thousand]
    exact Int.bmod_eq_of_le (by omega) (by omega)
  constructor
  · rw [sec, usec]
    omega
  · rw [usec]
    omega
  · rw [usec]
    omega

/-- The test that compares with `seconds::min()` is a test for a positive timeout. -/
theorem timeoutKept_iff (timeout : Int64) :
    TimeoutKept timeout ↔ 0 < timeout ∨ timeout = defaultTimeout := by
  constructor
  · intro given
    rcases given with ⟨forever, kept⟩
    by_cases positive : 0 < timeout
    · exact Or.inl positive
    · right
      apply forever.mp
      rw [pTimeout_eq_none_iff, Int64.le_iff_toInt_le]
      rw [Int64.lt_iff_toInt_lt] at positive
      omega
  · intro given
    rcases given with positive | rfl
    · refine ⟨?_, fun _ => ⟨_, pTimeout_of_pos positive, represents_of_pos positive⟩⟩
      rw [pTimeout_of_pos positive]
      simp only [reduceCtorEq, false_iff]
      rintro rfl
      exact absurd positive (by decide)
    · constructor
      · decide
      · intro nonneg
        exact absurd nonneg (by decide)

theorem pTimeout_zero : pTimeout 0 = none ∧ ¬ TimeoutKept 0 := by
  refine ⟨by decide, ?_⟩
  intro kept
  exact absurd (kept.forever.mp (by decide)) (by decide)

/-- The loop of `server::start` waits for a second. -/
example : pTimeout (milliseconds 1) = some { tvSec := 1, tvUsec := 0 } := by decide

end AndroidMessenger.Networking
