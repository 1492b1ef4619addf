import Mathlib.Data.List.Forall2

/-!
# Computations that may throw

When a sequence or a loop of such computations returns: each of its steps has.
-/

namespace OzoPg.Except

variable {α β ε : Type}

theorem bind_eq_ok_iff {x : Except ε α} {f : α → Except ε β} {b : β} :
    x >>= f = .ok b ↔ ∃ a, x = .ok a ∧ f a = .ok b := by
  cases x with
  | error e => exact iff_of_false nofun (by simp)
  | ok a =>
      constructor
      · exact fun h => ⟨a, rfl, h⟩
      · rintro ⟨a', ⟨⟩, h⟩
        exact h

theorem map_eq_ok_iff {x : Except ε α} {f : α → β} {b : β} :
    x.map f = .ok b ↔ ∃ a, x = .ok a ∧ b = f a := by
  cases x with
  | error e => exact iff_of_false nofun (by simp)
  | ok a => simp [Except.map, eq_comm]

/-- A loop whose rounds throw or not whatever has been accumulated. -/
theorem foldlM_eq_ok_iff {f : β → α → Except ε β} {C : α → Prop} {g : β → α → β}
    (h : ∀ b x b', f b x = .ok b' ↔ C x ∧ b' = g b x) {xs : List α} {b r : β} :
    xs.foldlM f b = .ok r ↔ (∀ x ∈ xs, C x) ∧ r = xs.foldl g b := by
  induction xs generalizing b with
  | nil => simp [pure, Except.pure, eq_comm]
  | cons x xs ih =>
      rw [List.foldlM_cons, bind_eq_ok_iff, List.forall_mem_cons, List.foldl_cons]
      simp only [h, ih]
      constructor
      · rintro ⟨_, ⟨hx, rfl⟩, hxs, hr⟩
        exact ⟨⟨hx, hxs⟩, hr⟩
      · rintro ⟨⟨hx, hxs⟩, hr⟩
        exact ⟨_, ⟨hx, rfl⟩, hxs, hr⟩

/-- A list is processed when each of its elements is. -/
theorem mapM_eq_ok_iff {f : α → Except ε β} {xs : List α} {ys : List β} :
    xs.mapM f = .ok ys ↔ List.Forall₂ (fun x y => f x = .ok y) xs ys := by
  induction xs generalizing ys with
  | nil =>
      constructor
      · rintro ⟨⟩
        exact .nil
      · rintro ⟨⟩
        rfl
  | cons x xs ih =>
      rw [List.mapM_cons, bind_eq_ok_iff]
      constructor
      · rintro ⟨y, hx, h⟩
        obtain ⟨ys', hxs, ⟨⟩⟩ := bind_eq_ok_iff.mp h
        exact .cons hx (ih.mp hxs)
      · intro h
        cases h with
        | cons hx hxs => exact ⟨_, hx, bind_eq_ok_iff.mpr ⟨_, ih.mpr hxs, rfl⟩⟩

/-- An element on the right has its counterpart on the left. -/
theorem exists_left_of_forall₂ {R : α → β → Prop} {xs : List α} {ys : List β}
    (h : List.Forall₂ R xs ys) {y : β} (hy : y ∈ ys) : ∃ x ∈ xs, R x y := by
  induction h with
  | nil => cases hy
  | cons hhead _ ih =>
      rcases List.mem_cons.mp hy with rfl | hy
      · exact ⟨_, List.mem_cons_self, hhead⟩
      · obtain ⟨x, hx, hxy⟩ := ih hy
        exact ⟨x, List.mem_cons_of_mem _ hx, hxy⟩

theorem exists_right_of_forall₂ {R : α → β → Prop} {xs : List α} {ys : List β}
    (h : List.Forall₂ R xs ys) {x : α} (hx : x ∈ xs) : ∃ y ∈ ys, R x y :=
  exists_left_of_forall₂ (R := flip R) (.flip h) hx

end OzoPg.Except
