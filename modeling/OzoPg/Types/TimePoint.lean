import OzoPg.Lib.Checked
import OzoPg.Types.Chrono

/-!
# Time points at the limits of 64-bit nanoseconds

The conversions of `include/ozo/ext/std/time_point.h` between the microseconds since 2000 of the
wire and the nanoseconds since 1970 of `system_clock`, with every signed operation checked.
Sending divides by 1000 after the subtraction of the epoch and overflows only there; receiving
multiplies first, and has no value for most of what the wire can carry.
-/

namespace OzoPg

open Checked (Fits)

/-! ## The conversions, operation by operation -/

/-- `duration_cast<microseconds>(in - detail::epoch)`. -/
def fromTimePoint? (t : Int64) : Option Int64 := do
  let sinceEpoch ← Checked.sub t epoch
  Checked.div sinceEpoch 1000

/-- `detail::epoch + microseconds{ value }`, which converts the microseconds first. -/
def toTimePoint? (value : Int64) : Option Int64 := do
  let sinceEpoch ← Checked.mul value 1000
  Checked.add epoch sinceEpoch

@[simp] theorem toInt_epoch : epoch.toInt = 946684800000000000 := by decide

@[simp] theorem toInt_thousand : (1000 : Int64).toInt = 1000 := by decide

/-! ## Sending -/

section Send

variable {t : Int64} (h : Fits (t.toInt - 946684800000000000))

include h

/-- A difference to the epoch and a division that truncates. -/
theorem fromTimePoint?_eq : fromTimePoint? t = some (fromTimePoint t) := by
  rw [← toInt_epoch] at h
  rw [fromTimePoint?, Checked.sub_of_fits h, Option.bind_eq_bind, Option.bind_some,
    Checked.div_of_pos (by decide), fromTimePoint]

theorem toInt_fromTimePoint :
    (fromTimePoint t).toInt = (t.toInt - 946684800000000000).tdiv 1000 := by
  rw [← toInt_epoch] at h ⊢
  rw [fromTimePoint, Checked.toInt_div (by decide), Checked.toInt_sub h, toInt_thousand]

end Send

/-! ## Receiving -/

/-- The wire values whose time point is representable. -/
def Representable (value : Int64) : Prop :=
  -9223372036854775 ≤ value.toInt ∧ value.toInt ≤ 8276687236854775

instance (value : Int64) : Decidable (Representable value) := inferInstanceAs (Decidable (_ ∧ _))

section Recv

variable {value : Int64}

theorem fits_mul_thousand (h : Representable value) :
    Fits (value.toInt * (1000 : Int64).toInt) := by
  rw [toInt_thousand]
  unfold Representable at h
  unfold Fits
  omega

theorem fits_epoch_add (h : Representable value) :
    Fits (epoch.toInt + (value * 1000).toInt) := by
  rw [Checked.toInt_mul (fits_mul_thousand h), toInt_epoch, toInt_thousand]
  unfold Representable at h
  unfold Fits
  omega

/-- Without an overflow the exact computation is the wrapping one. -/
theorem toTimePoint?_eq (h : Representable value) :
    toTimePoint? value = some (toTimePoint value) := by
  rw [toTimePoint?, Checked.mul_of_fits (fits_mul_thousand h), Option.bind_eq_bind,
    Option.bind_some, Checked.add_of_fits (fits_epoch_add h), toTimePoint]

theorem toInt_toTimePoint (h : Representable value) :
    (toTimePoint value).toInt = 946684800000000000 + value.toInt * 1000 := by
  rw [toTimePoint, Checked.toInt_add (fits_epoch_add h),
    Checked.toInt_mul (fits_mul_thousand h), toInt_epoch, toInt_thousand]

/-- Beyond the bounds the multiplication overflows, or else the addition does. -/
theorem toTimePoint?_eq_none (h : ¬ Representable value) : toTimePoint? value = none := by
  unfold Representable at h
  by_cases hmul : Fits (value.toInt * (1000 : Int64).toInt)
  · have hexact := Checked.toInt_mul hmul
    rw [toInt_thousand] at hexact
    have hadd : ¬ Fits (epoch.toInt + (value * 1000).toInt) := by
      rw [hexact, toInt_epoch]
      rw [toInt_thousand] at hmul
      unfold Fits at hmul ⊢
      omega
    rw [toTimePoint?, Checked.mul_of_fits hmul, Option.bind_eq_bind, Option.bind_some,
      Checked.add_of_not_fits hadd]
  · rw [toTimePoint?, Checked.mul_of_not_fits hmul, Option.bind_eq_bind, Option.bind_none]

theorem fits_toTimePoint_sub (h : Representable value) :
    Fits ((toTimePoint value).toInt - 946684800000000000) := by
  have hmul := fits_mul_thousand h
  rwa [toInt_toTimePoint h, add_sub_cancel_left, ← toInt_thousand]

/-- A time point that was received is sent back as the value it came from. -/
theorem fromTimePoint_toTimePoint (h : Representable value) :
    fromTimePoint (toTimePoint value) = value := by
  apply Int64.toInt_inj.mp
  rw [toInt_fromTimePoint (fits_toTimePoint_sub h), toInt_toTimePoint h, add_sub_cancel_left]
  exact Int.mul_tdiv_cancel _ (by decide)

end Recv

/-! ## Sending and receiving -/

section Both

variable {t : Int64} (h : Fits (t.toInt - 946684800000000000))

include h

/-- What is sent can be received: a thousandth of a representable distance is far enough from
the limits, and the sum is no further from 1970 than `t` or the epoch is. -/
theorem representable_fromTimePoint : Representable (fromTimePoint t) := by
  have ht := Checked.fits_toInt t
  have hspec := Checked.tdiv_tmod_spec (t.toInt - 946684800000000000) (d := 1000) (by decide)
  unfold Fits at h ht
  rw [Representable, toInt_fromTimePoint h]
  omega

/-- There and back, a time point is truncated toward the epoch. -/
theorem toInt_toTimePoint_fromTimePoint :
    (toTimePoint (fromTimePoint t)).toInt
      = 946684800000000000 + (t.toInt - 946684800000000000).tdiv 1000 * 1000 := by
  rw [toInt_toTimePoint (representable_fromTimePoint h), toInt_fromTimePoint h]

end Both

end OzoPg
