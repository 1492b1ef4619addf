import Mathlib.Algebra.Ring.Int.Defs
import Mathlib.Data.List.Perm.Basic
import Mathlib.Logic.Function.Basic
import Mathlib.Tactic.Common

/-!
# The storage of the resource pool

`contrib/resource_pool/include/yamail/resource_pool/detail/storage.hpp` with `idle.hpp` and
`time_traits.hpp`, for values of any type. A node of the three `std::list`s keeps its identity when
it is spliced, so a cell is a number and the lists are lists of numbers.

* `all_lease`, `all_recycle`, `all_waste`, `all_invalidate` — cells move between the lists, none
  appears and none is lost.
* `Sound` — what the drop times promise; every operation keeps it.
* `lease_within_lifespan` — a leased value has not outlived its lifespan.
-/

namespace OzoPg.ResourcePool

/-! ## Time -/

/-- `time_traits::time_point`, of a clock that counts in signed 64 bits. -/
abbrev TimePoint := Int64

/-- `time_traits::duration`. -/
abbrev Duration := Int64

/-- `time_traits::add`. -/
def add (t : TimePoint) (d : Duration) : TimePoint :=
  if 0 ≤ t then
    if Int64.maxValue - t < d then Int64.maxValue else t + d
  else
    if d < -(t - Int64.minValue) then Int64.minValue else t + d

/-- It saturates instead of overflowing. -/
theorem toInt_add (t : TimePoint) (d : Duration) :
    (add t d).toInt = max (-2 ^ 63) (min (2 ^ 63 - 1) (t.toInt + d.toInt)) := by
  have ht := t.toInt_lt
  have ht' := t.le_toInt
  have hd := d.toInt_lt
  have hd' := d.le_toInt
  have hmax : Int64.maxValue.toInt = 2 ^ 63 - 1 := rfl
  have hmin : Int64.minValue.toInt = -2 ^ 63 := rfl
  unfold add
  simp only [Int64.le_iff_toInt_le, Int64.lt_iff_toInt_lt, Int64.toInt_sub, Int64.toInt_neg,
    Int64.toInt_zero, hmax, hmin]
  -- above zero the sum can only be too large, below only too small
  split
  · rw [Int.bmod_eq_of_le (by omega) (by omega)]
    split
    · rw [hmax]
      omega
    · rw [Int64.toInt_add, Int.bmod_eq_of_le (by omega) (by omega)]
      omega
  · rw [Int.bmod_eq_of_le (n := t.toInt - _) (by omega) (by omega),
      Int.bmod_eq_of_le (by omega) (by omega)]
    split
    · rw [hmin]
      omega
    · rw [Int64.toInt_add, Int.bmod_eq_of_le (by omega) (by omega)]
      omega

/-- What lies before the saturated sum lies before the sum. -/
theorem toInt_lt_of_lt_add {now t : TimePoint} {d : Duration} (h : now < add t d) :
    now.toInt < t.toInt + d.toInt := by
  have hnow := now.le_toInt
  rw [Int64.lt_iff_toInt_lt, toInt_add] at h
  omega

/-! ## Cells -/

/-- `idle`. -/
structure Idle (α : Type) where
  value : Option α
  dropTime : TimePoint
  resetTime : TimePoint
  wasteOnRecycle : Bool

/-- A default-constructed `idle`. -/
def Idle.empty {α : Type} : Idle α := ⟨none, Int64.maxValue, 0, false⟩

/-- `storage`. -/
structure Storage (α : Type) where
  idleTimeout : Duration
  lifespan : Duration
  cells : Nat → Idle α
  available : List Nat
  used : List Nat
  wasted : List Nat

variable {α : Type}

/-- The constructor with a capacity. -/
def Storage.init (α : Type) (capacity : Nat) (idleTimeout lifespan : Duration) : Storage α where
  idleTimeout
  lifespan
  cells _ := .empty
  available := []
  used := []
  wasted := List.range capacity

namespace Storage

/-- The cells of a storage. -/
def all (s : Storage α) : List Nat := s.available ++ s.used ++ s.wasted

/-- A change of one cell, in whichever list it is. -/
def modify (s : Storage α) (i : Nat) (f : Idle α → Idle α) : Storage α :=
  { s with cells := Function.update s.cells i (f (s.cells i)) }

/-- `value.reset()`. -/
def resetValue (s : Storage α) (i : Nat) : Storage α :=
  s.modify i fun c => { c with value := none }

/-- The loop of `lease` up to the first candidate that need not be dropped. -/
def dropExpired (now : TimePoint) : List Nat → Storage α → Storage α
  | [], s => { s with available := [] }
  | i :: available, s =>
    if now < (s.cells i).dropTime then
      { s with available := i :: available }
    else
      dropExpired now available ({ s with wasted := s.wasted ++ [i] }.resetValue i)

/-- `lease`. -/
def lease (now : TimePoint) (s : Storage α) : Option Nat × Storage α :=
  let s := dropExpired now s.available s
  match s.available, s.wasted with
  | i :: available, _ => (some i, { s with available, used := s.used ++ [i] })
  | [], i :: wasted =>
    (some i, { s with used := s.used ++ [i], wasted }.modify i
      fun c => { c with wasteOnRecycle := false })
  | [], [] => (none, s)

/-- `waste`. -/
def waste (s : Storage α) (i : Nat) : Storage α :=
  { s with used := s.used.erase i, wasted := s.wasted ++ [i] }.resetValue i

/-- `recycle`. -/
def recycle (now : TimePoint) (s : Storage α) (i : Nat) : Storage α :=
  if (s.cells i).wasteOnRecycle then
    s.waste i
  else
    let lifeEnd := add (s.cells i).resetTime s.lifespan
    if lifeEnd ≤ now then
      s.waste i
    else
      { s with available := s.available ++ [i], used := s.used.erase i }.modify i
        fun c => { c with dropTime := min (add now s.idleTimeout) lifeEnd }

/-- `is_valid`. -/
def isValid (now : TimePoint) (s : Storage α) (i : Nat) : Bool :=
  !(s.cells i).wasteOnRecycle && !decide (add (s.cells i).resetTime s.lifespan ≤ now)

/-- `invalidate`. -/
def invalidate (s : Storage α) : Storage α where
  idleTimeout := s.idleTimeout
  lifespan := s.lifespan
  cells i :=
    if i ∈ s.available then { s.cells i with value := none }
    else if i ∈ s.used then { s.cells i with wasteOnRecycle := true }
    else s.cells i
  available := []
  used := s.used
  wasted := s.wasted ++ s.available

/-! ## Cells move between the lists

The lists have iterators spliced between them, so their cells are always those the storage was made
with. -/

/-- Moving a cell to the end of the next list. -/
theorem perm_of_mem {i : Nat} {l : List Nat} (h : i ∈ l) : (l.erase i ++ [i]).Perm l :=
  (List.perm_append_singleton i _).trans (List.perm_cons_erase h).symm

/-- The loop moves cells from one list to another. -/
theorem all_dropExpired (now : TimePoint) (l : List Nat) (s : Storage α) :
    (dropExpired now l s).all.Perm (l ++ s.used ++ s.wasted) := by
  induction l generalizing s with
  | nil => exact List.Perm.refl _
  | cons i l ih =>
      unfold dropExpired
      split
      · exact List.Perm.refl _
      · -- the candidate has gone from the front of the first list to the end of the last
        refine (ih _).trans ?_
        show (l ++ s.used ++ (s.wasted ++ [i])).Perm (i :: (l ++ s.used ++ s.wasted))
        rw [← List.append_assoc]
        exact List.perm_append_singleton i _

/-- So does a lease. -/
theorem all_lease (now : TimePoint) (s : Storage α) : (s.lease now).2.all.Perm s.all := by
  have hdrop : (dropExpired now s.available s).all.Perm s.all := all_dropExpired now s.available s
  unfold lease
  simp only
  split
  · next i available hs =>
      refine List.Perm.trans ?_ hdrop
      simp only [all, hs]
      apply List.Perm.append_right
      rw [← List.append_assoc]
      exact List.perm_append_singleton i _
  · next i wasted hs hs' =>
      refine List.Perm.trans ?_ hdrop
      simp only [all, hs, hs', modify, List.append_assoc, List.singleton_append]
      exact List.Perm.refl _
  · exact hdrop

theorem all_waste {s : Storage α} {i : Nat} (h : i ∈ s.used) : (s.waste i).all.Perm s.all := by
  show (s.available ++ s.used.erase i ++ (s.wasted ++ [i])).Perm (s.available ++ s.used ++ s.wasted)
  rw [List.append_assoc, List.append_assoc]
  apply List.Perm.append_left
  refine (List.perm_append_comm.append_left _).trans ?_
  rw [← List.append_assoc]
  exact (perm_of_mem h).append_right _

theorem all_recycle (now : TimePoint) {s : Storage α} {i : Nat} (h : i ∈ s.used) :
    (s.recycle now i).all.Perm s.all := by
  unfold recycle
  simp only
  split
  · exact all_waste h
  · split
    · exact all_waste h
    · show (s.available ++ [i] ++ s.used.erase i ++ s.wasted).Perm
        (s.available ++ s.used ++ s.wasted)
      apply List.Perm.append_right
      rw [List.append_assoc]
      apply List.Perm.append_left
      exact List.perm_append_comm.trans (perm_of_mem h)

theorem all_invalidate (s : Storage α) : s.invalidate.all.Perm s.all := by
  show ([] ++ s.used ++ (s.wasted ++ s.available)).Perm (s.available ++ s.used ++ s.wasted)
  rw [List.nil_append, ← List.append_assoc, List.append_assoc s.available]
  exact List.perm_append_comm

@[simp] theorem used_modify (s : Storage α) (i : Nat) (f : Idle α → Idle α) :
    (s.modify i f).used = s.used := rfl

@[simp] theorem used_dropExpired (now : TimePoint) (l : List Nat) (s : Storage α) :
    (dropExpired now l s).used = s.used := by
  induction l generalizing s with
  | nil => rfl
  | cons i l ih =>
      unfold dropExpired
      split
      · rfl
      · exact ih _

/-- A leased cell is used from now on. -/
theorem used_lease (now : TimePoint) (s : Storage α) :
    (s.lease now).2.used = s.used ++ (s.lease now).1.toList := by
  unfold lease
  simp only
  split <;> simp

@[simp] theorem used_recycle (now : TimePoint) (s : Storage α) (i : Nat) :
    (s.recycle now i).used = s.used.erase i := by
  unfold recycle
  simp only
  split
  · rfl
  · split <;> rfl

/-! ## Values that are dropped -/

/-- The cells of `is` lose their values and the others keep theirs. -/
def Drops (is : List Nat) (s t : Storage α) : Prop :=
  ∀ j, (t.cells j).value = if j ∈ is then none else (s.cells j).value

theorem drops_nil {s t : Storage α} (h : ∀ j, (t.cells j).value = (s.cells j).value) :
    Drops [] s t := by
  intro j
  simp [h j]

theorem drops_resetValue (s : Storage α) (i : Nat) : Drops [i] s (s.resetValue i) := by
  intro j
  by_cases hj : j = i
  · subst hj
    simp [resetValue, modify]
  · simp [resetValue, modify, hj]

@[simp] theorem value_resetValue (s : Storage α) (i : Nat) :
    ((s.resetValue i).cells i).value = none := by
  simpa using drops_resetValue s i i

/-- Values dropped one time after another. -/
theorem Drops.trans {is js : List Nat} {s t u : Storage α} (hst : Drops is s t)
    (htu : Drops js t u) : Drops (is ++ js) s u := by
  intro j
  rw [htu j, hst j]
  by_cases hjs : j ∈ js <;> by_cases his : j ∈ is <;> simp [hjs, his]

/-- Neither the lists nor the other fields of a cell matter. -/
theorem modify_value {s : Storage α} {i : Nat} {f : Idle α → Idle α}
    (hf : ∀ c, (f c).value = c.value) (j : Nat) :
    ((s.modify i f).cells j).value = (s.cells j).value := by
  by_cases hj : j = i
  · subst hj
    simp [modify, hf]
  · simp [modify, hj]

/-- Only candidates are dropped. -/
theorem drops_dropExpired (now : TimePoint) (l : List Nat) (s : Storage α) :
    ∃ is, is ⊆ l ∧ Drops is s (dropExpired now l s) := by
  induction l generalizing s with
  | nil => exact ⟨[], List.Subset.refl _, drops_nil fun _ => rfl⟩
  | cons i l ih =>
      unfold dropExpired
      split
      · exact ⟨[], List.nil_subset _, drops_nil fun _ => rfl⟩
      · obtain ⟨is, hsub, hdrops⟩ := ih ({ s with wasted := s.wasted ++ [i] }.resetValue i)
        refine ⟨[i] ++ is, List.cons_subset_cons i hsub, ?_⟩
        exact Drops.trans (drops_resetValue _ i) hdrops

/-- Leasing drops values of available cells only. -/
theorem drops_lease (now : TimePoint) (s : Storage α) :
    ∃ is, is ⊆ s.available ∧ Drops is s (s.lease now).2 := by
  obtain ⟨is, hsub, hdrops⟩ := drops_dropExpired now s.available s
  refine ⟨is, hsub, fun j => (Eq.trans ?_ (hdrops j))⟩
  unfold lease
  simp only
  split
  · rfl
  · dsimp only
    rw [modify_value]
    intro c
    rfl
  · rfl

theorem drops_waste (s : Storage α) (i : Nat) : Drops [i] s (s.waste i) :=
  drops_resetValue _ i

/-- Recycling drops the value of the cell or none. -/
theorem drops_recycle (now : TimePoint) (s : Storage α) (i : Nat) :
    ∃ is, is ⊆ [i] ∧ Drops is s (s.recycle now i) := by
  unfold recycle
  simp only
  split
  · exact ⟨[i], List.Subset.refl _, drops_waste s i⟩
  · split
    · exact ⟨[i], List.Subset.refl _, drops_waste s i⟩
    · refine ⟨[], List.nil_subset _, drops_nil (modify_value ?_)⟩
      intro c
      rfl

theorem drops_invalidate (s : Storage α) : Drops s.available s s.invalidate := by
  intro j
  simp only [invalidate]
  split
  · rfl
  · split <;> rfl

/-! ## Lifespans

A value is dropped at the end of its life at the latest. The drop time is set when a cell is
recycled, and looked at when it is leased. -/

/-- An available cell is dropped before its life ends, and a wasted one is empty. -/
structure Sound (s : Storage α) : Prop where
  dropTime : ∀ i ∈ s.available, (s.cells i).dropTime ≤ add (s.cells i).resetTime s.lifespan
  wasted : ∀ i ∈ s.wasted, (s.cells i).value = none

theorem sound_init (capacity : Nat) (idleTimeout lifespan : Duration) :
    (init α capacity idleTimeout lifespan).Sound where
  dropTime _ hi := absurd hi List.not_mem_nil
  wasted _ _ := rfl

/-- One cell changes, the others are as they were in a sound storage. -/
theorem sound_modify {s : Storage α} {i : Nat} {f : Idle α → Idle α}
    (hothers : ∀ j ∈ s.available, j ≠ i →
      (s.cells j).dropTime ≤ add (s.cells j).resetTime s.lifespan)
    (hempty : ∀ j ∈ s.wasted, j ≠ i → (s.cells j).value = none)
    (hdrop : i ∈ s.available → (f (s.cells i)).dropTime ≤ add (f (s.cells i)).resetTime s.lifespan)
    (hvalue : i ∈ s.wasted → (f (s.cells i)).value = none) : (s.modify i f).Sound := by
  constructor
  · intro j hj
    by_cases hji : j = i
    · subst hji
      simpa [modify] using hdrop hj
    · simpa [modify, hji] using hothers j hj hji
  · intro j hj
    by_cases hji : j = i
    · subst hji
      simpa [modify] using hvalue hj
    · simpa [modify, hji] using hempty j hj hji

/-- A change of one cell must leave that cell in order. -/
theorem Sound.modify {s : Storage α} (h : s.Sound) {i : Nat} {f : Idle α → Idle α}
    (hdrop : i ∈ s.available → (f (s.cells i)).dropTime ≤ add (f (s.cells i)).resetTime s.lifespan)
    (hvalue : i ∈ s.wasted → (f (s.cells i)).value = none) : (s.modify i f).Sound :=
  sound_modify (fun j hj _ => h.dropTime j hj) (fun j hj _ => h.wasted j hj) hdrop hvalue

/-- A cell loses its value and may go to the wasted ones. -/
theorem Sound.resetValue {s : Storage α} (h : s.Sound) (i : Nat) (used : List Nat)
    {wasted : List Nat} (hwasted : wasted ⊆ s.wasted ++ [i]) :
    ({ s with used, wasted }.resetValue i).Sound := by
  apply sound_modify
  · intro j hj _
    exact h.dropTime j hj
  · intro j hj hji
    rcases List.mem_append.mp (hwasted hj) with hj | hj
    · exact h.wasted j hj
    · exact absurd (List.mem_singleton.mp hj) hji
  · exact h.dropTime i
  · exact fun _ => rfl

theorem Sound.dropExpired (now : TimePoint) {l : List Nat} {s : Storage α} (h : s.Sound)
    (hl : l ⊆ s.available) : (dropExpired now l s).Sound := by
  induction l generalizing s with
  | nil => exact ⟨fun _ hi => absurd hi List.not_mem_nil, h.wasted⟩
  | cons i l ih =>
      unfold Storage.dropExpired
      split
      · exact ⟨fun j hj => h.dropTime j (hl hj), h.wasted⟩
      · apply ih (h.resetValue i s.used (List.Subset.refl _))
        intro j hj
        exact hl (List.mem_cons_of_mem i hj)

/-- A leased cell is no longer an available one. -/
theorem Sound.lease (now : TimePoint) {s : Storage α} (h : s.Sound) : (s.lease now).2.Sound := by
  have hdrop := h.dropExpired now (List.Subset.refl s.available)
  unfold Storage.lease
  simp only
  split
  · next i available hs =>
      exact ⟨fun j hj => hdrop.dropTime j (hs ▸ List.mem_cons_of_mem i hj), hdrop.wasted⟩
  · next i wasted hs hs' =>
      dsimp only
      apply sound_modify
      · intro j hj _
        exact hdrop.dropTime j hj
      · intro j hj _
        exact hdrop.wasted j (hs' ▸ List.mem_cons_of_mem i hj)
      · exact hdrop.dropTime i
      · intro _
        exact hdrop.wasted i (hs' ▸ List.mem_cons_self)
  · exact hdrop

theorem Sound.waste {s : Storage α} (h : s.Sound) (i : Nat) : (s.waste i).Sound :=
  h.resetValue i _ (List.Subset.refl _)

/-- The drop time is set no later than the end of the life. -/
theorem Sound.recycle (now : TimePoint) {s : Storage α} (h : s.Sound) (i : Nat) :
    (s.recycle now i).Sound := by
  unfold Storage.recycle
  simp only
  split
  · exact h.waste i
  · split
    · exact h.waste i
    · apply sound_modify
      · intro j hj hji
        rcases List.mem_append.mp hj with hj | hj
        · exact h.dropTime j hj
        · exact absurd (List.mem_singleton.mp hj) hji
      · intro j hj _
        exact h.wasted j hj
      · intro _
        exact Std.min_le_right
      · exact h.wasted i

theorem Sound.invalidate {s : Storage α} (h : s.Sound) : s.invalidate.Sound := by
  constructor
  · intro _ hi
    exact absurd hi List.not_mem_nil
  · intro i hi
    rw [drops_invalidate s i]
    split
    · rfl
    · next hne =>
        rcases List.mem_append.mp hi with hi | hi
        · exact h.wasted i hi
        · exact absurd hi hne

/-- The candidate at which the loop stops is not due. -/
theorem lt_dropTime_of_dropExpired {now : TimePoint} {l : List Nat} {s : Storage α} {i : Nat}
    {rest : List Nat} (h : (dropExpired now l s).available = i :: rest) :
    now < ((dropExpired now l s).cells i).dropTime := by
  induction l generalizing s with
  | nil => cases h
  | cons j l ih =>
      unfold dropExpired at h ⊢
      split at h
      · next hlt =>
          cases h
          rwa [if_pos hlt]
      · next hlt =>
          rw [if_neg hlt]
          exact ih h

/-- A value that is leased has not reached the end of its life. -/
theorem lease_within_lifespan {now : TimePoint} {s t : Storage α} {i : Nat} (h : s.Sound)
    (hlease : s.lease now = (some i, t)) (hvalue : (t.cells i).value ≠ none) :
    now < add (t.cells i).resetTime t.lifespan := by
  have hdrop := h.dropExpired now (List.Subset.refl s.available)
  unfold Storage.lease at hlease
  simp only at hlease
  split at hlease
  · next j available hs =>
      cases hlease
      have hlt := lt_dropTime_of_dropExpired hs
      exact Int64.lt_of_lt_of_le hlt (hdrop.dropTime i (hs ▸ List.mem_cons_self))
  · next j wasted hs hs' =>
      cases hlease
      exfalso
      apply hvalue
      simp [modify, hdrop.wasted i (hs' ▸ List.mem_cons_self)]
  · cases hlease

end Storage

end OzoPg.ResourcePool
