import OzoPg.Lib.Numeral

/-!
# Base 36

`include/ozo/detail/base36.h`: `strtol` in base 36, by which a SQLSTATE becomes the value of an
error code, and `ltob36`, by which a message shows it again.

* `ltob36_eq` — what `ltob36` prints is the numeral of its argument.
* `b36tol_ltob36` — reading it gives the argument back.
* `IsSqlstate.b36tol_inj`, `IsSqlstate.b36tol_class` — a SQLSTATE is its value, and its class the
  quotient by the width of a class.
* `b36tol_pos` — the value of a SQLSTATE other than `00000` is positive and fits an `int`.
-/

namespace OzoPg

open Numeral

/-- The value of a digit in base 36, upper or lower case. -/
def b36Digit (c : Char) : Option Nat :=
  if '0' ≤ c ∧ c ≤ '9' then some (c.toNat - 48)
  else if 'A' ≤ c ∧ c ≤ 'Z' then some (c.toNat - 55)
  else if 'a' ≤ c ∧ c ≤ 'z' then some (c.toNat - 87)
  else none

/-- The digit loop of `strtol`: it stops at the first character that is not a digit. -/
def b36Digits (acc : Nat) : List Char → Nat
  | [] => acc
  | c :: cs =>
    match b36Digit c with
    | none => acc
    | some d => b36Digits (acc * 36 + d) cs

/-- `isspace` in the C locale. -/
def isSpace (c : Char) : Bool :=
  c = ' ' || c = '\t' || c = '\n' || c = '\r' || c.toNat = 11 || c.toNat = 12

/-- `b36tol`: blanks, a sign and digits, clamped to `long`. -/
def b36tol (s : List Char) : Int :=
  match s.dropWhile isSpace with
  | '-' :: cs => max (-(2 ^ 63)) (-(b36Digits 0 cs : Int))
  | '+' :: cs => min (2 ^ 63 - 1) (b36Digits 0 cs)
  | cs => min (2 ^ 63 - 1) (b36Digits 0 cs)

/-- The character `ltob36` pushes for a digit. -/
def b36Char (d : Nat) : Char := Char.ofNat (if d < 10 then 48 + d else 65 + d - 10)

/-- The loop of `ltob36`: it pushes the last digit first, and goes on while there is a quotient. -/
def ltob36Loop (u : Nat) : List Char :=
  b36Char (u % 36) :: if 0 < u / 36 then ltob36Loop (u / 36) else []
termination_by u

/-- `ltob36`, of a `long` that is cast to `unsigned long`. -/
def ltob36 (i : Int) : List Char := (ltob36Loop (i % 2 ^ 64).toNat).reverse

/-! ## Digits and their characters -/

/-- A character of a SQLSTATE. -/
def IsSqlstateChar (c : Char) : Prop := ('0' ≤ c ∧ c ≤ '9') ∨ ('A' ≤ c ∧ c ≤ 'Z')

instance (c : Char) : Decidable (IsSqlstateChar c) := inferInstanceAs (Decidable (_ ∨ _))

theorem b36Digit_b36Char {d : Nat} (h : d < 36) : b36Digit (b36Char d) = some d := by
  revert d
  decide

theorem isSqlstateChar_b36Char {d : Nat} (h : d < 36) : IsSqlstateChar (b36Char d) := by
  revert d
  decide

theorem b36Char_eq_zero_iff {d : Nat} (h : d < 36) : b36Char d = '0' ↔ d = 0 := by
  revert d
  decide

/-- The characters of a SQLSTATE are the digits that `ltob36` writes. -/
theorem exists_b36Char {c : Char} (h : IsSqlstateChar c) : ∃ d < 36, b36Char d = c := by
  rcases h with ⟨h0, h9⟩ | ⟨hA, hZ⟩
  · have e0 : 48 ≤ c.toNat := h0
    have e9 : c.toNat ≤ 57 := h9
    refine ⟨c.toNat - 48, by omega, ?_⟩
    rw [b36Char, if_pos (by omega), Nat.add_sub_cancel' e0, Char.ofNat_toNat]
  · have eA : 65 ≤ c.toNat := hA
    have eZ : c.toNat ≤ 90 := hZ
    refine ⟨c.toNat - 55, by omega, ?_⟩
    rw [b36Char, if_neg (by omega), show 65 + (c.toNat - 55) - 10 = c.toNat by omega,
      Char.ofNat_toNat]

theorem exists_map_b36Char {s : List Char} (h : ∀ c ∈ s, IsSqlstateChar c) :
    ∃ ds : List Nat, (∀ d ∈ ds, d < 36) ∧ ds.map b36Char = s := by
  induction s with
  | nil => exact ⟨[], by simp, rfl⟩
  | cons c s ih =>
      obtain ⟨d, hd, rfl⟩ := exists_b36Char (h c List.mem_cons_self)
      obtain ⟨ds, hds, rfl⟩ := ih fun c' hc' => h c' (List.mem_cons_of_mem _ hc')
      exact ⟨d :: ds, List.forall_mem_cons.mpr ⟨hd, hds⟩, rfl⟩

theorem map_dropWhile_b36Char {ds : List Nat} (h : ∀ d ∈ ds, d < 36) :
    (ds.dropWhile (· = 0)).map b36Char = (ds.map b36Char).dropWhile (· = '0') := by
  induction ds with
  | nil => rfl
  | cons d ds ih =>
      obtain ⟨hd, hds⟩ := List.forall_mem_cons.mp h
      by_cases hzero : d = 0
      · subst hzero
        exact ih hds
      · have hchar : b36Char d ≠ '0' := mt (b36Char_eq_zero_iff hd).mp hzero
        simp [hzero, hchar]

/-! ## Reading -/

/-- Over digits the loop of `strtol` is the fold of Horner's rule. -/
theorem b36Digits_map (acc : Nat) {ds : List Nat} (h : ∀ d ∈ ds, d < 36) :
    b36Digits acc (ds.map b36Char) = ds.foldl (fun acc d => acc * 36 + d) acc := by
  induction ds generalizing acc with
  | nil => rfl
  | cons d ds ih =>
      obtain ⟨hd, hds⟩ := List.forall_mem_cons.mp h
      rw [List.map_cons, b36Digits, b36Digit_b36Char hd, List.foldl_cons]
      exact ih _ hds

/-- In front of a SQLSTATE there is neither a blank nor a sign to skip. -/
theorem b36tol_eq_b36Digits {c : Char} {cs : List Char} (h : IsSqlstateChar c) :
    b36tol (c :: cs) = min (2 ^ 63 - 1) (b36Digits 0 (c :: cs) : Int) := by
  have hge : 48 ≤ c.toNat := by
    rcases h with ⟨h0, -⟩ | ⟨hA, -⟩
    · exact h0
    · exact Nat.le_trans (by decide) (show 65 ≤ c.toNat from hA)
  have hne : ∀ d : Char, d.toNat < 48 → c ≠ d := by
    rintro d hd rfl
    omega
  -- no blank, no sign
  have hdrop : (c :: cs).dropWhile isSpace = c :: cs := by
    apply List.dropWhile_cons_of_neg
    simp [isSpace, hne ' ' (by decide), hne '\t' (by decide), hne '\n' (by decide),
      hne '\r' (by decide)]
    omega
  rw [b36tol, hdrop]
  split
  · next heq => exact absurd (List.cons.inj heq).1 (hne '-' (by decide))
  · next heq => exact absurd (List.cons.inj heq).1 (hne '+' (by decide))
  · rfl

/-- Digits are read as their value, clamped to `long`. -/
theorem b36tol_map {ds : List Nat} (hne : ds ≠ []) (h : ∀ d ∈ ds, d < 36) :
    b36tol (ds.map b36Char) = min (2 ^ 63 - 1) (value 36 ds : Int) := by
  match ds, hne with
  | d :: ds, _ =>
      have hdigits : b36Digits 0 ((d :: ds).map b36Char) = value 36 (d :: ds) := b36Digits_map 0 h
      rw [← hdigits, List.map_cons]
      exact b36tol_eq_b36Digits (isSqlstateChar_b36Char (h d List.mem_cons_self))

/-! ## Printing

`ltob36` prints the numeral of a number, without leading zeros. This is why a SQLSTATE with a zero
in front does not come back. -/

/-- The loop writes the numeral of a number, the last digit first. -/
theorem exists_isNumeral_ltob36Loop (u : Nat) :
    ∃ ds, IsNumeral 36 u ds ∧ (ltob36Loop u).reverse = ds.map b36Char := by
  induction u using Nat.strongRecOn with
  | ind u ih =>
      rw [ltob36Loop]
      by_cases hpos : 0 < u / 36
      · obtain ⟨ds, hds, hchars⟩ := ih (u / 36) (by omega)
        refine ⟨ds ++ [u % 36], ?_, ?_⟩
        · have hsnoc := hds.snoc hpos (Nat.mod_lt u (by decide))
          rwa [Nat.div_add_mod'] at hsnoc
        · simp [hpos, hchars]
      · refine ⟨[u], isNumeral_of_lt (by omega), ?_⟩
        simp [hpos, Nat.mod_eq_of_lt (show u < 36 by omega)]

/-- `ltob36` prints the numeral. -/
theorem ltob36_eq {n : Nat} (hn : n < 2 ^ 64) {ds : List Nat} (h : IsNumeral 36 n ds) :
    ltob36 n = ds.map b36Char := by
  obtain ⟨ds', hds', hchars⟩ := exists_isNumeral_ltob36Loop n
  have hcast : ((n : Int) % 2 ^ 64).toNat = n := by omega
  rw [ltob36, hcast, hchars, hds'.unique (by decide) h]

/-- Each round of the loop divides by the base. -/
theorem length_ltob36Loop_le {k u : Nat} (h : u < 36 ^ (k + 1)) :
    (ltob36Loop u).length ≤ k + 1 := by
  induction k generalizing u with
  | zero =>
      rw [ltob36Loop, if_neg (by omega)]
      rfl
  | succ k ih =>
      rw [ltob36Loop, List.length_cons]
      split
      · have hdiv : u / 36 < 36 ^ (k + 1) := by
          rw [Nat.pow_succ] at h
          omega
        have hrest := ih hdiv
        omega
      · simp

/-- What `ltob36` prints of a number that is not negative is its numeral, after at most thirteen
rounds, and `b36tol` reads it back. -/
theorem b36tol_ltob36 (n : Int) (hnonneg : 0 ≤ n) (hmax : n ≤ 2 ^ 63 - 1) :
    (ltob36Loop (n % 2 ^ 64).toNat).length ≤ 13 ∧ ltob36 n ≠ [] ∧
      (∀ c ∈ ltob36 n, IsSqlstateChar c) ∧ ((ltob36 n).head? = some '0' → ltob36 n = ['0']) ∧
      b36tol (ltob36 n) = n := by
  obtain ⟨k, rfl⟩ := Int.eq_ofNat_of_zero_le hnonneg
  obtain ⟨ds, hds, -⟩ := exists_isNumeral_ltob36Loop k
  rw [ltob36_eq (by omega) hds]
  refine ⟨length_ltob36Loop_le (by omega), by simpa using hds.ne_nil, ?_, ?_, ?_⟩
  · intro c hc
    obtain ⟨d, hd, rfl⟩ := List.mem_map.mp hc
    exact isSqlstateChar_b36Char (hds.digits_lt d hd)
  · intro hhead
    obtain ⟨d, hd, hzero⟩ : ∃ d, ds.head? = some d ∧ b36Char d = '0' := by
      simpa [List.head?_map] using hhead
    rw [b36Char_eq_zero_iff (hds.digits_lt d (List.mem_of_mem_head? hd))] at hzero
    rw [hds.leading (hzero ▸ hd)]
    rfl
  · rw [b36tol_map hds.ne_nil hds.digits_lt, hds.value_eq]
    omega

theorem b36tol_ltob36_HV001 :
    ltob36 29999809 = ['H', 'V', '0', '0', '1'] ∧ b36tol (ltob36 29999809) = 29999809 := by
  refine ⟨?_, (b36tol_ltob36 29999809 (by decide) (by decide)).2.2.2.2⟩
  decide +kernel

/-! ## SQLSTATEs

Five characters in base 36 are a number below `2 ^ 31`, from which they are read back by position.
-/

/-- Five digits or upper-case letters. -/
structure IsSqlstate (s : List Char) : Prop where
  length_eq : s.length = 5
  chars : ∀ c ∈ s, IsSqlstateChar c

/-- Five digits or upper-case letters, other than `00000`. -/
structure IsErrorSqlstate (s : List Char) : Prop extends IsSqlstate s where
  ne_zeros : s ≠ ['0', '0', '0', '0', '0']

instance (s : List Char) : Decidable (IsSqlstate s) :=
  decidable_of_iff (s.length = 5 ∧ s.all (fun c => decide (IsSqlstateChar c)) = true)
    ⟨fun h => ⟨h.1, by simpa using h.2⟩, fun h => ⟨h.length_eq, by simpa using h.chars⟩⟩

/-- At most five such characters have the value of their digits: `strtol` does not saturate. -/
theorem exists_digits {s : List Char} (hne : s ≠ []) (hlen : s.length ≤ 5)
    (hchars : ∀ c ∈ s, IsSqlstateChar c) :
    ∃ ds : List Nat, (∀ d ∈ ds, d < 36) ∧ ds.map b36Char = s ∧ b36tol s = value 36 ds ∧
      value 36 ds < 36 ^ 5 := by
  obtain ⟨ds, hds, rfl⟩ := exists_map_b36Char hchars
  have hlt : value 36 ds < 36 ^ 5 := by
    refine (value_lt (by decide) hds).trans_le ?_
    exact Nat.pow_le_pow_right (by decide) (by simpa using hlen)
  refine ⟨ds, hds, rfl, ?_, hlt⟩
  rw [b36tol_map (by simpa using hne) hds]
  omega

/-- Among such characters of one length the value tells which they are. -/
theorem eq_of_b36tol_eq {s t : List Char} (hne : s ≠ []) (hlen : s.length ≤ 5)
    (hlenEq : s.length = t.length) (hs : ∀ c ∈ s, IsSqlstateChar c)
    (ht : ∀ c ∈ t, IsSqlstateChar c) (h : b36tol s = b36tol t) : s = t := by
  have hne' : t ≠ [] := by
    rintro rfl
    exact hne (List.eq_nil_of_length_eq_zero hlenEq)
  obtain ⟨ds, hds, rfl, hdsValue, -⟩ := exists_digits hne hlen hs
  obtain ⟨es, hes, rfl, hesValue, -⟩ := exists_digits hne' (hlenEq ▸ hlen) ht
  have hvalue : value 36 ds = value 36 es := by omega
  rw [eq_of_value_eq (by decide) (by simpa using hlenEq) hds hes hvalue]

namespace IsSqlstate

variable {s t : List Char}

theorem ne_nil (h : IsSqlstate s) : s ≠ [] := by
  rintro rfl
  cases h.length_eq

/-- Five digits stay below `2 ^ 31`, so that narrowing to `int` keeps the number. -/
theorem b36tol_bounds (h : IsSqlstate s) : 0 ≤ b36tol s ∧ b36tol s < 2 ^ 31 := by
  obtain ⟨ds, -, -, hvalue, hlt⟩ := exists_digits h.ne_nil h.length_eq.le h.chars
  omega

/-- Different SQLSTATEs are different numbers. -/
theorem b36tol_inj (hs : IsSqlstate s) (ht : IsSqlstate t) : b36tol s = b36tol t ↔ s = t := by
  refine ⟨fun h => ?_, fun h => h ▸ rfl⟩
  have hlen := hs.length_eq.trans ht.length_eq.symm
  exact eq_of_b36tol_eq hs.ne_nil hs.length_eq.le hlen hs.chars ht.chars h

/-- The class, the first two characters, is the quotient by the width of a class. -/
theorem b36tol_take_two (h : IsSqlstate s) : b36tol (s.take 2) = b36tol s / 36 ^ 3 := by
  obtain ⟨ds, hds, rfl, hvalue, hlt⟩ := exists_digits h.ne_nil h.length_eq.le h.chars
  have hlen : ds.length = 5 := by simpa using h.length_eq
  have htake := value_take (by decide) hds 2
  have hne : ds.take 2 ≠ [] := by
    intro hnil
    have hzero := congrArg List.length hnil
    simp [hlen] at hzero
  rw [hlen] at htake
  rw [← List.map_take, b36tol_map hne fun d hd => hds d (List.mem_of_mem_take hd)]
  omega

/-- The class of a SQLSTATE, its first two characters, is a quotient. -/
theorem b36tol_class (hs : IsSqlstate s) (ht : IsSqlstate t) :
    b36tol s / 36 ^ 3 = b36tol t / 36 ^ 3 ↔ s.take 2 = t.take 2 := by
  rw [← hs.b36tol_take_two, ← ht.b36tol_take_two]
  refine ⟨fun h => ?_, fun h => h ▸ rfl⟩
  have hsLen : (s.take 2).length = 2 := by simp [hs.length_eq]
  have htLen : (t.take 2).length = 2 := by simp [ht.length_eq]
  have hne : s.take 2 ≠ [] := by
    intro hnil
    simp [hnil] at hsLen
  exact eq_of_b36tol_eq hne (by omega) (hsLen.trans htLen.symm)
    (fun c hc => hs.chars c (List.mem_of_mem_take hc))
    (fun c hc => ht.chars c (List.mem_of_mem_take hc)) h

end IsSqlstate

/-- A SQLSTATE other than `00000` has a positive value that fits an `int`. -/
theorem b36tol_pos {s : List Char} (h : IsErrorSqlstate s) :
    0 < b36tol s ∧ b36tol s < 2 ^ 31 := by
  obtain ⟨hle, hlt⟩ := h.toIsSqlstate.b36tol_bounds
  have hzeros : IsSqlstate ['0', '0', '0', '0', '0'] := by decide
  have hne : b36tol s ≠ 0 := mt (h.toIsSqlstate.b36tol_inj hzeros).mp h.ne_zeros
  omega

end OzoPg
