import Mathlib.Data.Nat.Digits.Lemmas

/-!
# Numerals in any base

Digits are written most significant first, as they are printed and read. `value` is what a
reading loop computes from them. `IsNumeral` is what a printing loop makes of a number: one digit,
or the numeral of the quotient followed by the remainder. A number has one numeral, and cutting
the leading zeros off its digits leaves it.

* `isNumeral_of_lt`, `IsNumeral.snoc` — the two rules a printing loop follows;
* `IsNumeral.unique` — there is one numeral of a number;
* `isNumeral_dropWhile` — what is left of digits of fixed width;
* `value_take` — the leading digits are the quotient by a power of the base.
-/

namespace OzoPg.Numeral

variable {b : Nat}

/-- The number with these digits. -/
def value (b : Nat) (ds : List Nat) : Nat := ds.foldl (fun acc d => acc * b + d) 0

/-- The digits `ds` are the numeral of `n`: there are some, and the first is zero only if it is
the only one. -/
structure IsNumeral (b n : Nat) (ds : List Nat) : Prop where
  ne_nil : ds ≠ []
  digits_lt : ∀ d ∈ ds, d < b
  leading : ds.head? = some 0 → ds = [0]
  value_eq : value b ds = n

/-! ## Values -/

@[simp] theorem value_singleton (d : Nat) : value b [d] = d := by
  simp [value]

theorem value_snoc (ds : List Nat) (d : Nat) : value b (ds ++ [d]) = value b ds * b + d := by
  simp [value]

theorem value_eq_ofDigits (ds : List Nat) : value b ds = Nat.ofDigits b ds.reverse := by
  induction ds using List.reverseRecOn with
  | nil => rfl
  | append_singleton ds d ih =>
      rw [value_snoc, ih, List.reverse_concat, Nat.ofDigits_cons, Nat.mul_comm b, Nat.add_comm]

/-- The digits behind shift those in front. -/
theorem value_append (ds es : List Nat) :
    value b (ds ++ es) = value b ds * b ^ es.length + value b es := by
  rw [value_eq_ofDigits, value_eq_ofDigits, value_eq_ofDigits, List.reverse_append,
    Nat.ofDigits_append, List.length_reverse, Nat.mul_comm, Nat.add_comm]

/-- A number is smaller than the first one with a digit more. -/
theorem value_lt (hb : 1 < b) {ds : List Nat} (h : ∀ d ∈ ds, d < b) :
    value b ds < b ^ ds.length := by
  rw [value_eq_ofDigits, ← List.length_reverse]
  apply Nat.ofDigits_lt_base_pow_length hb
  intro d hd
  exact h d (List.mem_reverse.mp hd)

/-- Digits of the same width have different values. -/
theorem eq_of_value_eq (hb : 1 < b) {ds es : List Nat} (hlen : ds.length = es.length)
    (hds : ∀ d ∈ ds, d < b) (hes : ∀ d ∈ es, d < b) (h : value b ds = value b es) : ds = es := by
  rw [value_eq_ofDigits, value_eq_ofDigits] at h
  apply List.reverse_injective
  apply Nat.ofDigits_inj_of_len_eq hb (by simpa using hlen) ?_ ?_ h
  · intro d hd
    exact hds d (List.mem_reverse.mp hd)
  · intro d hd
    exact hes d (List.mem_reverse.mp hd)

/-- All digits but the last `k` are the quotient by `b ^ k`. -/
theorem value_take (hb : 1 < b) {ds : List Nat} (h : ∀ d ∈ ds, d < b) (n : Nat) :
    value b (ds.take n) = value b ds / b ^ (ds.length - n) := by
  have hrest : value b (ds.drop n) < b ^ (ds.drop n).length := by
    apply value_lt hb
    intro d hd
    exact h d (List.mem_of_mem_drop hd)
  have happend := value_append (b := b) (ds.take n) (ds.drop n)
  rw [List.take_append_drop] at happend
  rw [← List.length_drop, happend, Nat.add_comm, Nat.add_mul_div_right _ _ (by omega),
    Nat.div_eq_of_lt hrest, Nat.zero_add]

/-! ## Numerals -/

theorem isNumeral_of_lt {n : Nat} (h : n < b) : IsNumeral b n [n] where
  ne_nil := List.cons_ne_nil n []
  digits_lt := by simpa using h
  leading := by simp
  value_eq := value_singleton n

/-- Numerals grow at the end, as long as there is a number in front. -/
theorem IsNumeral.snoc {n d : Nat} {ds : List Nat} (h : IsNumeral b n ds) (hn : 0 < n)
    (hd : d < b) : IsNumeral b (n * b + d) (ds ++ [d]) where
  ne_nil := by simp
  digits_lt := by
    intro d' hd'
    rcases List.mem_append.mp hd' with hd' | hd'
    · exact h.digits_lt d' hd'
    · rwa [List.mem_singleton.mp hd']
  leading := by
    rw [List.head?_append_of_ne_nil _ h.ne_nil]
    intro hzero
    -- a numeral that starts with a zero is that of zero
    have hvalue := h.value_eq
    rw [h.leading hzero, value_singleton] at hvalue
    omega
  value_eq := by rw [value_snoc, h.value_eq]

/-- Without a leading zero the digits are those of Mathlib, reversed. -/
theorem digits_value (hb : 1 < b) {ds : List Nat} (hds : ∀ d ∈ ds, d < b)
    (hzero : ds.head? ≠ some 0) : Nat.digits b (value b ds) = ds.reverse := by
  rw [value_eq_ofDigits]
  apply Nat.digits_ofDigits b hb
  · intro d hd
    exact hds d (List.mem_reverse.mp hd)
  · intro hne hlast
    apply hzero
    rw [← List.getLast?_reverse, List.getLast?_eq_some_getLast hne, hlast]

/-- A number has one numeral. -/
theorem IsNumeral.unique (hb : 1 < b) {n : Nat} {ds es : List Nat} (hds : IsNumeral b n ds)
    (hes : IsNumeral b n es) : ds = es := by
  have hzero {ds : List Nat} (h : IsNumeral b n ds) : ds.head? = some 0 ↔ n = 0 := by
    constructor
    · intro hhead
      rw [← h.value_eq, h.leading hhead, value_singleton]
    · intro hn
      by_contra hhead
      have hdigits := digits_value hb h.digits_lt hhead
      rw [h.value_eq, hn, Nat.digits_zero, eq_comm, List.reverse_eq_nil_iff] at hdigits
      exact h.ne_nil hdigits
  by_cases hn : n = 0
  · rw [hds.leading ((hzero hds).mpr hn), hes.leading ((hzero hes).mpr hn)]
  · have hdsDigits := digits_value hb hds.digits_lt (mt (hzero hds).mp hn)
    have hesDigits := digits_value hb hes.digits_lt (mt (hzero hes).mp hn)
    rw [hds.value_eq] at hdsDigits
    rw [hes.value_eq, hdsDigits] at hesDigits
    exact List.reverse_injective hesDigits

/-- Leading zeros do not count. -/
theorem value_dropWhile (ds : List Nat) : value b (ds.dropWhile (· = 0)) = value b ds := by
  induction ds with
  | nil => rfl
  | cons d ds ih =>
      rw [List.dropWhile_cons]
      split
      · next hd =>
          obtain rfl : d = 0 := by simpa using hd
          rw [ih]
          simp [value]
      · rfl

/-- The digits of a number other than zero without their leading zeros are its numeral. -/
theorem isNumeral_dropWhile {ds : List Nat} (hds : ∀ d ∈ ds, d < b) (h : value b ds ≠ 0) :
    IsNumeral b (value b ds) (ds.dropWhile (· = 0)) where
  ne_nil := by
    intro hnil
    rw [← value_dropWhile, hnil] at h
    exact h rfl
  digits_lt d hd := hds d (List.dropWhile_subset _ hd)
  leading hhead := by
    have hnot := List.head?_dropWhile_not (· = 0) ds
    rw [hhead] at hnot
    simp at hnot
  value_eq := value_dropWhile ds

end OzoPg.Numeral
