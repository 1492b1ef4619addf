import Mathlib.Algebra.Ring.Int.Defs
import Mathlib.Tactic.Common

/-!
# Sharing what is left

What is left of a supply is divided evenly between those still to come. Whoever takes no more than
their share leaves at least as much to each of the others, however many of them drop out.
-/

namespace OzoPg.Share

/-- The share of each of `n` in what is left from `now` to `deadline`, rounded down. -/
def share (deadline now n : Int) : Int := max 0 (deadline - now) / n

section

variable {deadline now now' n n' : Int}

theorem share_nonneg (hn : 0 < n) : 0 ≤ share deadline now n :=
  Int.ediv_nonneg (by omega) (by omega)

/-- All shares together are no more than what is left. -/
theorem share_mul_le (hn : 0 < n) : share deadline now n * n ≤ max 0 (deadline - now) :=
  Int.ediv_mul_le _ (by omega)

/-- Nobody's share goes beyond the deadline. -/
theorem add_share_le (h : now ≤ deadline) : now + share deadline now n ≤ deadline := by
  have hself : share deadline now n ≤ max 0 (deadline - now) := Int.ediv_le_self n (by omega)
  omega

/-- Behind the deadline there is nothing to share. -/
theorem share_of_lt (h : deadline < now) : share deadline now n = 0 := by
  rw [share, Int.max_eq_left (by omega), Int.zero_ediv]

/-- The last one gets all that is left. -/
theorem share_one (h : now ≤ deadline) : share deadline now 1 = deadline - now := by
  rw [share, Int.max_eq_right (by omega), Int.ediv_one]

/-- Keeping to one's share does not diminish the next one, of fewer. -/
theorem share_le_share (hn' : 0 < n') (hlt : n' < n)
    (hkept : now' ≤ now + share deadline now n) :
    share deadline now n ≤ share deadline now' n' := by
  have hn : 0 < n := by omega
  have hnonneg : 0 ≤ share deadline now n := share_nonneg hn
  have hall : share deadline now n * n ≤ max 0 (deadline - now) := share_mul_le hn
  generalize share deadline now n = b at hkept hnonneg hall ⊢
  -- what the others get is what is left when `b` has been taken
  have hothers : b * n' ≤ max 0 (deadline - now) - b :=
    calc
      b * n' ≤ b * (n - 1) := Int.mul_le_mul_of_nonneg_left (by omega) hnonneg
      _ = b * n - b := by rw [Int.mul_sub, Int.mul_one]
      _ ≤ max 0 (deadline - now) - b := by omega
  rw [share, Int.le_ediv_iff_mul_le hn']
  omega

end

end OzoPg.Share
