import OzoPg.Lib.Checked
import OzoPg.Types.Chrono

/-!
# Intervals at the limits of 64-bit microseconds

`from_chrono_duration` and `to_chrono_duration` of `include/ozo/ext/std/duration.h` once more,
now with every signed operation checked: a function below is `none` where one of its
operations overflows. The range checks of `to_chrono_duration` are themselves computed in
64-bit microseconds, on either side of the two days `±106751992` that the limits fall into.

* `toChronoDuration_of_checked` — where the checked function has a value, it is the value of
  `toChronoDuration`;
* `clamps_of_covered`, `saturate?_eq_none` — on which day totals and remainders it has one.
-/

namespace OzoPg

open Checked (Fits)

/-! ## The functions, operation by operation -/

/-- `operator+` of `days` and `usecs`, which converts the days first. -/
def addDays? (days usecs : Int64) : Option Int64 := do
  let converted ← Checked.mul days usecsPerDay
  Checked.add converted usecs

/-- `days_total`. -/
def daysTotal? (interval : PgInterval) : Option Int64 := do
  let months ← Checked.mul interval.months.toInt64 30
  let monthsAndDays ← Checked.add months interval.days.toInt64
  let days ← Checked.div interval.microseconds usecsPerDay
  Checked.add monthsAndDays days

/-- The condition of the first `if`; `||` and `&&` evaluate no operand they do not need. -/
def belowMin? (daysTotal usecsSurplus : Int64) : Option Bool := do
  let minDays ← Checked.div Int64.minValue usecsPerDay
  let lowest ← Checked.sub minDays 1
  if daysTotal < lowest then
    return true
  else if daysTotal < 0 then
    let next ← Checked.add daysTotal 1
    let left ← addDays? next usecsSurplus
    let right ← Checked.add Int64.minValue usecsPerDay
    return decide (left < right)
  else
    return false

/-- The condition of the second `if`. -/
def aboveMax? (daysTotal usecsSurplus : Int64) : Option Bool := do
  let maxDays ← Checked.div Int64.maxValue usecsPerDay
  let highest ← Checked.add maxDays 1
  if highest < daysTotal then
    return true
  else if 0 < daysTotal then
    let left ← Checked.sub Int64.maxValue usecsPerDay
    let previous ← Checked.sub daysTotal 1
    let right ← addDays? previous usecsSurplus
    return decide (left < right)
  else
    return false

/-- `to_chrono_duration` after its two sums. -/
def saturate? (daysTotal usecsSurplus : Int64) : Option Int64 := do
  if ← belowMin? daysTotal usecsSurplus then
    return Int64.minValue
  else if ← aboveMax? daysTotal usecsSurplus then
    return Int64.maxValue
  else
    addDays? daysTotal usecsSurplus

/-- `to_chrono_duration`. -/
def toChronoDuration? (interval : PgInterval) : Option Int64 := do
  let usecsSurplus ← Checked.mod interval.microseconds usecsPerDay
  let daysTotal ← daysTotal? interval
  saturate? daysTotal usecsSurplus

/-- `from_chrono_duration`. The day count is narrowed to 32 bits as it is. -/
def fromChronoDuration? (x : Int64) : Option PgInterval := do
  let microseconds ← Checked.mod x usecsPerDay
  let days ← Checked.div x usecsPerDay
  return { microseconds, days := days.toInt32, months := 0 }

/-! ## The day and the two limits -/

@[simp] theorem toInt_usecsPerDay : usecsPerDay.toInt = 86400000000 := by decide

@[simp] theorem toInt_minValue : Int64.minValue.toInt = -9223372036854775808 := by decide

@[simp] theorem toInt_maxValue : Int64.maxValue.toInt = 9223372036854775807 := by decide

section Conditions

variable {d r : Int64}

theorem toInt_mul_usecsPerDay (h : Fits (d.toInt * 86400000000)) :
    (d * usecsPerDay).toInt = d.toInt * 86400000000 := by
  rw [← toInt_usecsPerDay] at h
  rw [Checked.toInt_mul h, toInt_usecsPerDay]

/-- Neither the conversion nor the sum overflows. -/
theorem addDays?_of_fits (hconverted : Fits (d.toInt * 86400000000))
    (hsum : Fits (d.toInt * 86400000000 + r.toInt)) :
    addDays? d r = some (d * usecsPerDay + r) ∧
      (d * usecsPerDay + r).toInt = d.toInt * 86400000000 + r.toInt := by
  rw [← toInt_mul_usecsPerDay hconverted] at hsum ⊢
  rw [← toInt_usecsPerDay] at hconverted
  refine ⟨?_, Checked.toInt_add hsum⟩
  rw [addDays?, Checked.mul_of_fits hconverted, Option.bind_eq_bind, Option.bind_some,
    Checked.add_of_fits hsum]

/-- The conversion overflows before the sum is taken. -/
theorem addDays?_of_converted_not_fits (h : ¬ Fits (d.toInt * 86400000000)) :
    addDays? d r = none := by
  rw [← toInt_usecsPerDay] at h
  rw [addDays?, Checked.mul_of_not_fits h, Option.bind_eq_bind, Option.bind_none]

theorem addDays?_of_sum_not_fits (hconverted : Fits (d.toInt * 86400000000))
    (hsum : ¬ Fits (d.toInt * 86400000000 + r.toInt)) : addDays? d r = none := by
  rw [← toInt_mul_usecsPerDay hconverted] at hsum
  rw [← toInt_usecsPerDay] at hconverted
  rw [addDays?, Checked.mul_of_fits hconverted, Option.bind_eq_bind, Option.bind_some,
    Checked.add_of_not_fits hsum]

theorem add_one_of_neg (h : d.toInt < 0) :
    Checked.add d 1 = some (d + 1) ∧ (d + 1).toInt = d.toInt + 1 := by
  have hfits : Fits (d.toInt + (1 : Int64).toInt) := by
    have hd := Checked.fits_toInt d
    rw [Int64.toInt_one]
    unfold Fits at hd ⊢
    omega
  exact ⟨Checked.add_of_fits hfits, Checked.toInt_add hfits⟩

theorem sub_one_of_pos (h : 0 < d.toInt) :
    Checked.sub d 1 = some (d - 1) ∧ (d - 1).toInt = d.toInt - 1 := by
  have hfits : Fits (d.toInt - (1 : Int64).toInt) := by
    have hd := Checked.fits_toInt d
    rw [Int64.toInt_one]
    unfold Fits at hd ⊢
    omega
  exact ⟨Checked.sub_of_fits hfits, Checked.toInt_sub hfits⟩

/-- The first condition in exact integers, its constants computed. -/
theorem belowMin?_eq : belowMin? d r =
    if d.toInt < -106751992 then some true
    else if d.toInt < 0 then
      (Checked.add d 1).bind fun next => (addDays? next r).bind fun left =>
        some (decide (left.toInt < -9223371950454775808))
    else some false := by
  have hdays : Checked.div Int64.minValue usecsPerDay = some (-106751991) := by decide
  have hlowest : Checked.sub (-106751991) 1 = some (-106751992) := by decide
  have hright : Checked.add Int64.minValue usecsPerDay = some (-9223371950454775808) := by decide
  have hlt (x : Int64) : x < -106751992 ↔ x.toInt < -106751992 := Int64.lt_iff_toInt_lt
  have hneg (x : Int64) : x < 0 ↔ x.toInt < 0 := Int64.lt_iff_toInt_lt
  have hleft (x : Int64) : x < -9223371950454775808 ↔ x.toInt < -9223371950454775808 :=
    Int64.lt_iff_toInt_lt
  simp only [belowMin?, hdays, hlowest, hright, Option.bind_eq_bind, Option.bind_some,
    Option.pure_def, hlt, hneg, hleft]

/-- The second condition likewise. -/
theorem aboveMax?_eq : aboveMax? d r =
    if 106751992 < d.toInt then some true
    else if 0 < d.toInt then
      (Checked.sub d 1).bind fun previous => (addDays? previous r).bind fun right =>
        some (decide (9223371950454775807 < right.toInt))
    else some false := by
  have hdays : Checked.div Int64.maxValue usecsPerDay = some 106751991 := by decide
  have hhighest : Checked.add 106751991 1 = some 106751992 := by decide
  have hleft : Checked.sub Int64.maxValue usecsPerDay = some 9223371950454775807 := by decide
  have hlt (x : Int64) : 106751992 < x ↔ 106751992 < x.toInt := Int64.lt_iff_toInt_lt
  have hpos (x : Int64) : 0 < x ↔ 0 < x.toInt := Int64.lt_iff_toInt_lt
  have hright (x : Int64) : 9223371950454775807 < x ↔ 9223371950454775807 < x.toInt :=
    Int64.lt_iff_toInt_lt
  simp only [aboveMax?, hdays, hhighest, hleft, Option.bind_eq_bind, Option.bind_some,
    Option.pure_def, hlt, hpos, hright]

/-- Where the first condition has to look below the day, its sum must be representable. -/
theorem belowMin?_of_neg (hlow : -106751992 ≤ d.toInt) (hneg : d.toInt < 0) :
    belowMin? d r =
      if Fits ((d.toInt + 1) * 86400000000 + r.toInt) then
        some (decide (d.toInt * 86400000000 + r.toInt < -9223372036854775808))
      else none := by
  obtain ⟨hadd, hnext⟩ := add_one_of_neg hneg
  have hconverted : Fits ((d + 1).toInt * 86400000000) := by
    unfold Fits
    omega
  rw [belowMin?_eq, if_neg (by omega), if_pos hneg, hadd, Option.bind_some, ← hnext]
  by_cases hsum : Fits ((d + 1).toInt * 86400000000 + r.toInt)
  · obtain ⟨hleft, hvalue⟩ := addDays?_of_fits hconverted hsum
    rw [if_pos hsum, hleft, Option.bind_some, hvalue, hnext]
    congr 2
    apply propext
    omega
  · rw [if_neg hsum, addDays?_of_sum_not_fits hconverted hsum, Option.bind_none]

/-- Taking a day off first keeps the product representable, but the sum with the rest may not be. -/
theorem aboveMax?_of_pos (hhigh : d.toInt ≤ 106751992) (hpos : 0 < d.toInt) :
    aboveMax? d r =
      if Fits ((d.toInt - 1) * 86400000000 + r.toInt) then
        some (decide (9223372036854775807 < d.toInt * 86400000000 + r.toInt))
      else none := by
  obtain ⟨hsub, hprevious⟩ := sub_one_of_pos hpos
  have hconverted : Fits ((d - 1).toInt * 86400000000) := by
    unfold Fits
    omega
  rw [aboveMax?_eq, if_neg (by omega), if_pos hpos, hsub, Option.bind_some, ← hprevious]
  by_cases hsum : Fits ((d - 1).toInt * 86400000000 + r.toInt)
  · obtain ⟨hright, hvalue⟩ := addDays?_of_fits hconverted hsum
    rw [if_pos hsum, hright, Option.bind_some, hvalue, hprevious]
    congr 2
    apply propext
    omega
  · rw [if_neg hsum, addDays?_of_sum_not_fits hconverted hsum, Option.bind_none]

end Conditions

/-! ## Saturation

The two conditions are computed with a day taken off, which avoids most overflows. Close to the
limits the sums still overflow, and `Covered` says where. -/

/-- The nearest representable number of microseconds. -/
def clamp (x : Int) : Int := max (-9223372036854775808) (min 9223372036854775807 x)

/-- What `to_chrono_duration` covers of the two days its limits fall into: only some of the
remainders `r` of the last day `d` on either side. -/
def Covered (d r : Int) : Prop :=
  (d = -106751992 → -14454775808 ≤ r ∧ r < 71945224192) ∧
    (d = 106751992 → -71945224193 < r ∧ r ≤ 14454775807)

instance (d r : Int) : Decidable (Covered d r) := inferInstanceAs (Decidable (_ ∧ _))

section Saturate

variable {d r : Int64}

/-- `to_chrono_duration` gives the total of the days `d` and the remainder `r`, clamped. -/
def Clamps (d r : Int64) : Prop :=
  ∃ v, saturate? d r = some v ∧ v.toInt = clamp (d.toInt * 86400000000 + r.toInt)

/-- The first `if` saturates. -/
theorem clamps_of_below (hbelow : belowMin? d r = some true)
    (h : d.toInt * 86400000000 + r.toInt < -9223372036854775808) : Clamps d r := by
  refine ⟨Int64.minValue, by simp [saturate?, hbelow], ?_⟩
  rw [toInt_minValue, clamp]
  omega

/-- The second one does. -/
theorem clamps_of_above (hbelow : belowMin? d r = some false) (habove : aboveMax? d r = some true)
    (h : 9223372036854775807 < d.toInt * 86400000000 + r.toInt) : Clamps d r := by
  refine ⟨Int64.maxValue, by simp [saturate?, hbelow, habove], ?_⟩
  rw [toInt_maxValue, clamp]
  omega

theorem saturate?_of_between (hbelow : belowMin? d r = some false)
    (habove : aboveMax? d r = some false) : saturate? d r = addDays? d r := by
  simp [saturate?, hbelow, habove]

/-- Neither of them, and the sum is the total. -/
theorem clamps_of_between (hbelow : belowMin? d r = some false)
    (habove : aboveMax? d r = some false) (hconverted : Fits (d.toInt * 86400000000))
    (hsum : Fits (d.toInt * 86400000000 + r.toInt)) : Clamps d r := by
  obtain ⟨hvalue, hexact⟩ := addDays?_of_fits hconverted hsum
  refine ⟨_, (saturate?_of_between hbelow habove).trans hvalue, ?_⟩
  unfold Fits at hsum
  rw [hexact, clamp]
  omega

theorem belowMin?_of_nonneg (h : 0 ≤ d.toInt) : belowMin? d r = some false := by
  rw [belowMin?_eq, if_neg (by omega), if_neg (by omega)]

theorem aboveMax?_of_nonpos (h : d.toInt ≤ 0) : aboveMax? d r = some false := by
  rw [aboveMax?_eq, if_neg (by omega), if_neg (by omega)]

variable (hr : -86400000000 < r.toInt ∧ r.toInt < 86400000000)

include hr

/-- Below zero only the first condition can hold. -/
theorem clamps_of_neg (hneg : d.toInt < 0) (h : Covered d.toInt r.toInt) : Clamps d r := by
  have hcovered := h.1
  rcases Int.lt_or_le d.toInt (-106751992) with hfar | hnear
  · exact clamps_of_below (by rw [belowMin?_eq, if_pos hfar]) (by omega)
  · have hbelow := belowMin?_of_neg (r := r) hnear hneg
    rw [if_pos (by unfold Fits; omega)] at hbelow
    by_cases hmin : d.toInt * 86400000000 + r.toInt < -9223372036854775808
    · rw [decide_eq_true hmin] at hbelow
      exact clamps_of_below hbelow hmin
    · rw [decide_eq_false hmin] at hbelow
      -- a sum that does not underflow is not on the last day: its conversion is representable
      apply clamps_of_between hbelow (aboveMax?_of_nonpos (by omega))
      · unfold Fits
        omega
      · unfold Fits
        omega

/-- From zero on only the second one can. -/
theorem clamps_of_nonneg (hnonneg : 0 ≤ d.toInt) (h : Covered d.toInt r.toInt) : Clamps d r := by
  have hcovered := h.2
  have hbelow : belowMin? d r = some false := belowMin?_of_nonneg hnonneg
  rcases Int.lt_or_le 106751992 d.toInt with hfar | hnear
  · exact clamps_of_above hbelow (by rw [aboveMax?_eq, if_pos hfar]) (by omega)
  · by_cases hmax : 9223372036854775807 < d.toInt * 86400000000 + r.toInt
    · have habove := aboveMax?_of_pos (r := r) hnear (by omega)
      rw [if_pos (by unfold Fits; omega), decide_eq_true hmax] at habove
      exact clamps_of_above hbelow habove hmax
    · have habove : aboveMax? d r = some false := by
        rcases Int.lt_or_le 0 d.toInt with hpos | hzero
        · rw [aboveMax?_of_pos hnear hpos, if_pos (by unfold Fits; omega),
            decide_eq_false hmax]
        · exact aboveMax?_of_nonpos hzero
      apply clamps_of_between hbelow habove
      · unfold Fits
        omega
      · unfold Fits
        omega

theorem clamps_of_covered (h : Covered d.toInt r.toInt) : Clamps d r := by
  rcases Int.lt_or_le d.toInt 0 with hneg | hnonneg
  · exact clamps_of_neg hr hneg h
  · exact clamps_of_nonneg hr hnonneg h

/-- On the last day before the minimum the sum of the first condition overflows, or else the
conversion of the result does. -/
theorem saturate?_of_first_day (hd : d.toInt = -106751992)
    (h : r.toInt < -14454775808 ∨ 71945224192 ≤ r.toInt) : saturate? d r = none := by
  have hbelow := belowMin?_of_neg (d := d) (r := r) (by omega) (by omega)
  rcases h with hsum | hlate
  · rw [if_neg (by unfold Fits; omega)] at hbelow
    simp [saturate?, hbelow]
  · rw [if_pos (by unfold Fits; omega), decide_eq_false (by omega)] at hbelow
    rw [saturate?_of_between hbelow (aboveMax?_of_nonpos (by omega))]
    exact addDays?_of_converted_not_fits (by unfold Fits; omega)

/-- The same on the last day before the maximum. -/
theorem saturate?_of_last_day (hd : d.toInt = 106751992)
    (h : r.toInt ≤ -71945224193 ∨ 14454775807 < r.toInt) : saturate? d r = none := by
  have hbelow : belowMin? d r = some false := belowMin?_of_nonneg (by omega)
  have habove := aboveMax?_of_pos (d := d) (r := r) (by omega) (by omega)
  rcases h with hlate | hsum
  · rw [if_pos (by unfold Fits; omega), decide_eq_false (by omega)] at habove
    rw [saturate?_of_between hbelow habove]
    exact addDays?_of_converted_not_fits (by unfold Fits; omega)
  · rw [if_neg (by unfold Fits; omega)] at habove
    simp [saturate?, hbelow, habove]

/-- Outside of what is covered something overflows. -/
theorem saturate?_eq_none (h : ¬ Covered d.toInt r.toInt) : saturate? d r = none := by
  unfold Covered at h
  by_cases hfirst : d.toInt = -106751992
  · exact saturate?_of_first_day hr hfirst (by omega)
  · exact saturate?_of_last_day hr (by omega) (by omega)

end Saturate

/-! ## Agreement with the wrapping arithmetic -/

theorem eq_of_addDays? {days usecs v : Int64} (h : addDays? days usecs = some v) :
    days * usecsPerDay + usecs = v := by
  simp only [addDays?, Option.bind_eq_bind, Option.bind_eq_some_iff] at h
  obtain ⟨converted, hmul, hadd⟩ := h
  rw [Checked.eq_of_mul_eq_some hmul, Checked.eq_of_add_eq_some hadd]

/-- Where nothing overflows the conditions are those of the wrapping version. -/
theorem eq_of_belowMin? {d r : Int64} {b : Bool} (h : belowMin? d r = some b) :
    b = decide (d < Int64.minValue / usecsPerDay - 1 ∨
      (d < 0 ∧ (d + 1) * usecsPerDay + r < Int64.minValue + usecsPerDay)) := by
  simp only [belowMin?, Option.bind_eq_bind, Option.bind_eq_some_iff, Option.pure_def] at h
  obtain ⟨minDays, hdays, lowest, hlowest, h⟩ := h
  rw [Checked.div_of_pos (by decide)] at hdays
  cases hdays
  rw [Checked.eq_of_sub_eq_some hlowest]
  split_ifs at h with hfar hneg
  · simpa [hfar] using h.symm
  · simp only [Option.bind_eq_some_iff] at h
    obtain ⟨next, hnext, left, hleft, right, hright, h⟩ := h
    rw [Checked.eq_of_add_eq_some hnext, eq_of_addDays? hleft, Checked.eq_of_add_eq_some hright]
    simpa [hfar, hneg] using h.symm
  · simpa [hfar, hneg] using h.symm

theorem eq_of_aboveMax? {d r : Int64} {b : Bool} (h : aboveMax? d r = some b) :
    b = decide (Int64.maxValue / usecsPerDay + 1 < d ∨
      (0 < d ∧ Int64.maxValue - usecsPerDay < (d - 1) * usecsPerDay + r)) := by
  simp only [aboveMax?, Option.bind_eq_bind, Option.bind_eq_some_iff, Option.pure_def] at h
  obtain ⟨maxDays, hdays, highest, hhighest, h⟩ := h
  rw [Checked.div_of_pos (by decide)] at hdays
  cases hdays
  rw [Checked.eq_of_add_eq_some hhighest]
  split_ifs at h with hfar hpos
  · simpa [hfar] using h.symm
  · simp only [Option.bind_eq_some_iff] at h
    obtain ⟨left, hleft, previous, hprevious, right, hright, h⟩ := h
    rw [Checked.eq_of_sub_eq_some hprevious, eq_of_addDays? hright,
      Checked.eq_of_sub_eq_some hleft]
    simpa [hfar, hpos] using h.symm
  · simpa [hfar, hpos] using h.symm

theorem eq_of_daysTotal? {interval : PgInterval} {d : Int64} (h : daysTotal? interval = some d) :
    interval.months.toInt64 * 30 + interval.days.toInt64
      + interval.microseconds / usecsPerDay = d := by
  simp only [daysTotal?, Option.bind_eq_bind, Option.bind_eq_some_iff] at h
  obtain ⟨months, hmonths, monthsAndDays, hdays, days, hdiv, hsum⟩ := h
  rw [Checked.div_of_pos (by decide)] at hdiv
  cases hdiv
  rw [Checked.eq_of_mul_eq_some hmonths, Checked.eq_of_add_eq_some hdays,
    Checked.eq_of_add_eq_some hsum]

/-- Where no operation overflows, the checked function is the wrapping one. -/
theorem toChronoDuration_of_checked {interval : PgInterval} {v : Int64}
    (h : toChronoDuration? interval = some v) : toChronoDuration interval = v := by
  simp only [toChronoDuration?, saturate?, Option.bind_eq_bind, Option.bind_eq_some_iff] at h
  obtain ⟨r, hr, d, hd, below, hbelow, h⟩ := h
  rw [Checked.mod_of_pos (by decide)] at hr
  cases hr
  simp only [eq_of_belowMin? hbelow, decide_eq_true_eq] at h
  rw [toChronoDuration, eq_of_daysTotal? hd]
  -- the branches are the same, and in each of them so is the result
  by_cases hmin : d < Int64.minValue / usecsPerDay - 1 ∨
      (d < 0 ∧ (d + 1) * usecsPerDay + interval.microseconds % usecsPerDay
        < Int64.minValue + usecsPerDay)
  · rw [if_pos hmin] at h ⊢
    exact Option.some.inj h
  · rw [if_neg hmin, Option.bind_eq_some_iff] at h
    obtain ⟨above, habove, h⟩ := h
    simp only [eq_of_aboveMax? habove, decide_eq_true_eq] at h
    rw [if_neg hmin]
    split_ifs at h ⊢ with hmax
    · exact Option.some.inj h
    · exact eq_of_addDays? h

/-! ## The interval and its total

A month counts 30 days. The months, the days and the whole days of the microseconds are added up
before the day count is converted. -/

/-- The exact number of days, the microseconds contributing their whole days. -/
def PgInterval.wholeDays (interval : PgInterval) : Int :=
  interval.months.toInt * 30 + interval.days.toInt + interval.microseconds.toInt.tdiv 86400000000

/-- What the whole days leave of the microseconds; it has their sign. -/
def PgInterval.subDay (interval : PgInterval) : Int :=
  interval.microseconds.toInt.tmod 86400000000

/-- The exact total in microseconds, a month counting 30 days. -/
def PgInterval.total (interval : PgInterval) : Int :=
  (interval.months.toInt * 30 + interval.days.toInt) * 86400000000 + interval.microseconds.toInt

section Total

variable (interval : PgInterval)

theorem PgInterval.total_eq :
    interval.total = interval.wholeDays * 86400000000 + interval.subDay := by
  have hspec := Checked.tdiv_tmod_spec interval.microseconds.toInt (d := 86400000000) (by decide)
  unfold total wholeDays subDay
  omega

theorem toInt_usecsSurplus :
    (interval.microseconds % usecsPerDay).toInt = interval.subDay := by
  rw [Int64.toInt_mod, toInt_usecsPerDay, PgInterval.subDay]

/-- The sums of `days_total` are far from the limits. -/
theorem daysTotal?_eq_some :
    ∃ d, daysTotal? interval = some d ∧ d.toInt = interval.wholeDays := by
  have hmonths := interval.months.le_toInt
  have hmonths' := interval.months.toInt_lt
  have hdays := interval.days.le_toInt
  have hdays' := interval.days.toInt_lt
  have husecs := Checked.fits_toInt interval.microseconds
  have hspec := Checked.tdiv_tmod_spec interval.microseconds.toInt (d := 86400000000) (by decide)
  have hthirty : (30 : Int64).toInt = 30 := by decide
  -- months and days have 32 bits, so neither product nor sums leave 64
  have hmul : Fits (interval.months.toInt64.toInt * (30 : Int64).toInt) := by
    rw [Int32.toInt_toInt64, hthirty]
    unfold Fits
    omega
  have hmul' := Checked.toInt_mul hmul
  rw [Int32.toInt_toInt64, hthirty] at hmul'
  have hadd : Fits ((interval.months.toInt64 * 30).toInt + interval.days.toInt64.toInt) := by
    rw [hmul', Int32.toInt_toInt64]
    unfold Fits
    omega
  have hadd' := Checked.toInt_add hadd
  rw [hmul', Int32.toInt_toInt64] at hadd'
  have hdiv := Checked.toInt_div (a := interval.microseconds) (b := usecsPerDay) (by decide)
  rw [toInt_usecsPerDay] at hdiv
  have hsum : Fits ((interval.months.toInt64 * 30 + interval.days.toInt64).toInt
      + (interval.microseconds / usecsPerDay).toInt) := by
    rw [hadd', hdiv]
    unfold Fits at husecs ⊢
    omega
  refine ⟨interval.months.toInt64 * 30 + interval.days.toInt64
    + interval.microseconds / usecsPerDay, ?_, ?_⟩
  · simp only [daysTotal?, Checked.mul_of_fits hmul, Checked.add_of_fits hadd,
      Checked.div_of_pos (a := interval.microseconds) (b := usecsPerDay) (by decide),
      Checked.add_of_fits hsum, Option.bind_eq_bind, Option.bind_some]
  · rw [Checked.toInt_add hsum, hadd', hdiv, PgInterval.wholeDays]

/-- The two sums in front do not overflow. -/
theorem toChronoDuration?_eq_saturate? :
    ∃ d r, toChronoDuration? interval = saturate? d r ∧ d.toInt = interval.wholeDays ∧
      r.toInt = interval.subDay := by
  obtain ⟨d, hd, hdays⟩ := daysTotal?_eq_some interval
  refine ⟨d, interval.microseconds % usecsPerDay, ?_, hdays, toInt_usecsSurplus interval⟩
  rw [toChronoDuration?, Checked.mod_of_pos (by decide), hd, Option.bind_eq_bind,
    Option.bind_some, Option.bind_some]

/-- A rest below one day. -/
theorem PgInterval.subDay_bounds :
    -86400000000 < interval.subDay ∧ interval.subDay < 86400000000 := by
  have hspec := Checked.tdiv_tmod_spec interval.microseconds.toInt (d := 86400000000) (by decide)
  exact ⟨hspec.2.1, hspec.2.2.1⟩

theorem toChronoDuration?_eq_some (h : Covered interval.wholeDays interval.subDay) :
    ∃ v, toChronoDuration? interval = some v ∧ v.toInt = clamp interval.total := by
  obtain ⟨d, r, heq, hd, hr⟩ := toChronoDuration?_eq_saturate? interval
  rw [heq, interval.total_eq, ← hd, ← hr]
  exact clamps_of_covered (hr ▸ interval.subDay_bounds) (by rwa [hd, hr])

theorem toChronoDuration?_eq_none (h : ¬ Covered interval.wholeDays interval.subDay) :
    toChronoDuration? interval = none := by
  obtain ⟨d, r, heq, hd, hr⟩ := toChronoDuration?_eq_saturate? interval
  rw [heq]
  exact saturate?_eq_none (hr ▸ interval.subDay_bounds) (by rwa [hd, hr])

/-- The documented behaviour: the total if it is representable and the nearest limit if it is
not, computed without overflow. -/
def Saturates : Prop :=
  toChronoDuration? interval = some (toChronoDuration interval) ∧
    (toChronoDuration interval).toInt = clamp interval.total

/-- The documented behaviour, exactly where it holds. -/
theorem saturates_iff_covered :
    Saturates interval ↔ Covered interval.wholeDays interval.subDay := by
  constructor
  · intro h
    by_contra hnot
    have hnone := toChronoDuration?_eq_none interval hnot
    rw [h.1] at hnone
    cases hnone
  · intro h
    obtain ⟨v, hvalue, hclamp⟩ := toChronoDuration?_eq_some interval h
    rw [Saturates, toChronoDuration_of_checked hvalue]
    exact ⟨hvalue, hclamp⟩

end Total

/-- The sum of the first condition wraps around, and an interval of minus 292277 years comes
out as one of plus 292277 years. -/
theorem not_saturates_before_min :
    ¬ Saturates { microseconds := -86399999999, days := -106751992, months := 0 } ∧
      toChronoDuration { microseconds := -86399999999, days := -106751992, months := 0 }
        = 9223371878509551617 ∧
      clamp (PgInterval.total
        { microseconds := -86399999999, days := -106751992, months := 0 })
        = -9223372036854775808 := by
  refine ⟨?_, by decide, by decide⟩
  rintro ⟨hchecked, -⟩
  exact absurd hchecked (by decide)

/-! ## Encoding -/

/-- `interval` is `x` split into whole days and a rest below one day, both of the sign of `x`. -/
structure IsCanonical (x : Int64) (interval : PgInterval) : Prop where
  months : interval.months = 0
  days : interval.days.toInt = x.toInt.tdiv 86400000000
  lt_day : interval.microseconds.toInt.natAbs < 86400000000
  nonneg : 0 ≤ x.toInt → 0 ≤ interval.microseconds.toInt
  nonpos : x.toInt ≤ 0 → interval.microseconds.toInt ≤ 0

section Encoding

variable (x : Int64)

/-- The other direction never overflows. -/
theorem fromChronoDuration?_eq : fromChronoDuration? x = some (fromChronoDuration x) := by
  rw [fromChronoDuration?, Checked.mod_of_pos (by decide), Checked.div_of_pos (by decide),
    Option.bind_eq_bind, Option.bind_some, Option.bind_some]
  rfl

/-- The day count of every 64-bit number of microseconds fits 32 bits. -/
theorem toInt_days_fromChronoDuration :
    (fromChronoDuration x).days.toInt = x.toInt.tdiv 86400000000 := by
  have hx := Checked.fits_toInt x
  have hspec := Checked.tdiv_tmod_spec x.toInt (d := 86400000000) (by decide)
  unfold Fits at hx
  rw [fromChronoDuration, Int64.toInt_toInt32, Checked.toInt_div (by decide), toInt_usecsPerDay]
  exact Int.bmod_eq_of_le (by omega) (by omega)

theorem toInt_microseconds_fromChronoDuration :
    (fromChronoDuration x).microseconds.toInt = x.toInt.tmod 86400000000 := by
  rw [fromChronoDuration, Int64.toInt_mod, toInt_usecsPerDay]

theorem isCanonical_fromChronoDuration : IsCanonical x (fromChronoDuration x) := by
  have hspec := Checked.tdiv_tmod_spec x.toInt (d := 86400000000) (by decide)
  refine ⟨rfl, toInt_days_fromChronoDuration x, ?_, ?_, ?_⟩
  all_goals rw [toInt_microseconds_fromChronoDuration]
  · omega
  · exact hspec.2.2.2.1
  · exact hspec.2.2.2.2

/-- Splitting loses nothing. -/
theorem total_fromChronoDuration : (fromChronoDuration x).total = x.toInt := by
  have hspec := Checked.tdiv_tmod_spec x.toInt (d := 86400000000) (by decide)
  have hmonths : (fromChronoDuration x).months.toInt = 0 := rfl
  rw [PgInterval.total, hmonths, toInt_days_fromChronoDuration,
    toInt_microseconds_fromChronoDuration]
  omega

/-- The rest below one day contributes no whole day when it is read back. -/
theorem wholeDays_fromChronoDuration :
    (fromChronoDuration x).wholeDays = x.toInt.tdiv 86400000000 := by
  have hcanonical := isCanonical_fromChronoDuration x
  have hmonths : (fromChronoDuration x).months.toInt = 0 := rfl
  have hspec := Checked.tdiv_tmod_spec (fromChronoDuration x).microseconds.toInt
    (d := 86400000000) (by decide)
  have hlt := hcanonical.lt_day
  rw [PgInterval.wholeDays, hmonths, hcanonical.days]
  omega

/-- Right up to both limits the decoder neither clamps nor overflows. -/
theorem toChronoDuration?_fromChronoDuration :
    toChronoDuration? (fromChronoDuration x) = some x := by
  have hx := Checked.fits_toInt x
  have hspec := Checked.tdiv_tmod_spec x.toInt (d := 86400000000) (by decide)
  unfold Fits at hx
  have hcovered : Covered (fromChronoDuration x).wholeDays (fromChronoDuration x).subDay := by
    rw [wholeDays_fromChronoDuration]
    constructor <;> intro hd <;> omega
  obtain ⟨v, hvalue, hclamp⟩ := toChronoDuration?_eq_some _ hcovered
  have hv : v.toInt = x.toInt := by
    rw [hclamp, total_fromChronoDuration, clamp]
    omega
  rw [hvalue, Int64.toInt_inj.mp hv]

end Encoding

end OzoPg
