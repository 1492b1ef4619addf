import Mathlib.Algebra.Ring.Int.Defs
import Mathlib.Algebra.Ring.Nat
import Mathlib.Tactic.Common

/-!
# Signed 64-bit arithmetic that may not overflow

`Int64` computes modulo `2 ^ 64`; in C++ an operation whose exact result is not representable
has no result at all. The operations here are those of `Int64` with that partiality made
visible: each is `none` exactly when it would overflow, and otherwise is both the `Int64`
result and the exact one.
-/

namespace OzoPg.Checked

/-- `x` is representable as a signed 64-bit integer. -/
def Fits (x : Int) : Prop := -9223372036854775808 ≤ x ∧ x ≤ 9223372036854775807

instance (x : Int) : Decidable (Fits x) := inferInstanceAs (Decidable (_ ∧ _))

/-- `value`, unless the exact result of computing it is not representable. -/
def check (exact : Int) (value : Int64) : Option Int64 :=
  if Fits exact then some value else none

def add (a b : Int64) : Option Int64 := check (a.toInt + b.toInt) (a + b)

def sub (a b : Int64) : Option Int64 := check (a.toInt - b.toInt) (a - b)

def mul (a b : Int64) : Option Int64 := check (a.toInt * b.toInt) (a * b)

/-- Division truncates toward zero; only `minValue / -1` overflows. -/
def div (a b : Int64) : Option Int64 :=
  if b = 0 then none else check (a.toInt.tdiv b.toInt) (a / b)

/-- The remainder is undefined wherever the quotient is. -/
def mod (a b : Int64) : Option Int64 :=
  if b = 0 then none else check (a.toInt.tdiv b.toInt) (a % b)

/-! ## Defined and undefined results -/

section Check

variable {exact : Int} {value : Int64}

theorem check_of_fits (h : Fits exact) : check exact value = some value := if_pos h

theorem check_of_not_fits (h : ¬ Fits exact) : check exact value = none := if_neg h

/-- A result that is there is the wrapped one. -/
theorem eq_of_check_eq_some {c : Int64} (h : check exact value = some c) : value = c := by
  unfold check at h
  split at h
  · exact Option.some.inj h
  · cases h

end Check

theorem fits_toInt (a : Int64) : Fits a.toInt := by
  have hle := a.le_toInt
  have hlt := a.toInt_lt
  unfold Fits
  omega

/-- Wrapping around leaves a representable number alone. -/
theorem bmod_of_fits {x : Int} (h : Fits x) : x.bmod (2 ^ 64) = x := by
  obtain ⟨hle, hge⟩ := h
  exact Int.bmod_eq_of_le (by omega) (by omega)

/-! ## Exact results

Where the exact result is representable, the machine operation computes it. -/

section Exact

variable {a b : Int64}

theorem add_of_fits (h : Fits (a.toInt + b.toInt)) : add a b = some (a + b) := check_of_fits h

theorem sub_of_fits (h : Fits (a.toInt - b.toInt)) : sub a b = some (a - b) := check_of_fits h

theorem mul_of_fits (h : Fits (a.toInt * b.toInt)) : mul a b = some (a * b) := check_of_fits h

theorem add_of_not_fits (h : ¬ Fits (a.toInt + b.toInt)) : add a b = none := check_of_not_fits h

theorem mul_of_not_fits (h : ¬ Fits (a.toInt * b.toInt)) : mul a b = none := check_of_not_fits h

theorem eq_of_add_eq_some {c : Int64} (h : add a b = some c) : a + b = c := eq_of_check_eq_some h

theorem eq_of_sub_eq_some {c : Int64} (h : sub a b = some c) : a - b = c := eq_of_check_eq_some h

theorem eq_of_mul_eq_some {c : Int64} (h : mul a b = some c) : a * b = c := eq_of_check_eq_some h

theorem toInt_add (h : Fits (a.toInt + b.toInt)) : (a + b).toInt = a.toInt + b.toInt := by
  rw [Int64.toInt_add, bmod_of_fits h]

theorem toInt_sub (h : Fits (a.toInt - b.toInt)) : (a - b).toInt = a.toInt - b.toInt := by
  rw [Int64.toInt_sub, bmod_of_fits h]

theorem toInt_mul (h : Fits (a.toInt * b.toInt)) : (a * b).toInt = a.toInt * b.toInt := by
  rw [Int64.toInt_mul, bmod_of_fits h]

end Exact

/-! ## Division by a positive number -/

/-- Quotient and remainder by a positive number, as linear facts. -/
theorem tdiv_tmod_spec (x : Int) {d : Int} (hd : 0 < d) :
    d * x.tdiv d + x.tmod d = x ∧ -d < x.tmod d ∧ x.tmod d < d ∧
      (0 ≤ x → 0 ≤ x.tmod d) ∧ (x ≤ 0 → x.tmod d ≤ 0) := by
  refine ⟨Int.mul_tdiv_add_tmod x d, Int.lt_tmod_of_pos x hd, Int.tmod_lt_of_pos x hd,
    Int.tmod_nonneg d, ?_⟩
  intro hx
  have hneg : 0 ≤ (-x).tmod d := Int.tmod_nonneg d (by omega)
  rw [Int.neg_tmod] at hneg
  omega

/-- Only a negative divisor can make a quotient too large. -/
theorem fits_tdiv {x d : Int} (hx : Fits x) (hd : 0 < d) : Fits (x.tdiv d) := by
  have hle := Int.natAbs_tdiv_le_natAbs x d
  unfold Fits at hx ⊢
  rcases Int.le_total 0 x with hpos | hneg
  · omega
  · have hquot : 0 ≤ (-x).tdiv d := Int.tdiv_nonneg (by omega) (by omega)
    rw [Int.neg_tdiv] at hquot
    omega

section Pos

variable {a b : Int64} (hb : 0 < b.toInt)

include hb

theorem ne_zero_of_pos : b ≠ 0 := by
  rintro rfl
  exact absurd hb (by decide)

theorem div_of_pos : div a b = some (a / b) := by
  rw [div, if_neg (ne_zero_of_pos hb), check_of_fits (fits_tdiv (fits_toInt a) hb)]

theorem mod_of_pos : mod a b = some (a % b) := by
  rw [mod, if_neg (ne_zero_of_pos hb), check_of_fits (fits_tdiv (fits_toInt a) hb)]

theorem toInt_div : (a / b).toInt = a.toInt.tdiv b.toInt := by
  rw [Int64.toInt_div, bmod_of_fits (fits_tdiv (fits_toInt a) hb)]

end Pos

end OzoPg.Checked
