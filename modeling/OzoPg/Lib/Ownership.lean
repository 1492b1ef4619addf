import Mathlib.Logic.Function.Basic
import Mathlib.Order.BooleanAlgebra.Set

/-!
# Owners of resources

Objects that own at most one resource each and are moved, as a map from the objects to what they
own. The resources that are out have one owner each, and moving keeps it so: a resource is neither
lost nor owned twice, and who has been moved from owns nothing.
-/

namespace OzoPg.Ownership

variable {α β : Type}

/-- The resources `out` are those that are owned, each by one owner. -/
structure Owns (owned : α → Option β) (out : Set β) : Prop where
  mem_iff : ∀ c, c ∈ out ↔ ∃ a, owned a = some c
  unique : ∀ a b c, owned a = some c → owned b = some c → a = b

namespace Owns

variable {owned : α → Option β} {out : Set β}

theorem empty : Owns (fun _ : α => (none : Option β)) ∅ where
  mem_iff c := by simp
  unique a b c h := by cases h

theorem mem (h : Owns owned out) {a : α} {c : β} (ha : owned a = some c) : c ∈ out :=
  (h.mem_iff c).mpr ⟨a, ha⟩

/-- Each resource that is out has exactly one owner. -/
theorem existsUnique (h : Owns owned out) {c : β} (hc : c ∈ out) : ∃! a, owned a = some c := by
  obtain ⟨a, ha⟩ := (h.mem_iff c).mp hc
  exact ⟨a, ha, fun b hb => h.unique b a c hb ha⟩

variable [DecidableEq α]

theorem update_none {a : α} (ha : owned a = none) : Function.update owned a none = owned := by
  rw [← ha, Function.update_eq_self]

theorem update_eq_some_iff {a b : α} {x : Option β} {d : β} :
    Function.update owned a x b = some d ↔ (b = a ∧ x = some d) ∨ (b ≠ a ∧ owned b = some d) := by
  by_cases hba : b = a
  · subst hba
    simp
  · simp [hba]

/-- A new resource goes to an object without one. -/
theorem take (h : Owns owned out) {a : α} (ha : owned a = none) {c : β} (hc : c ∉ out) :
    Owns (Function.update owned a (some c)) (insert c out) where
  mem_iff d := by
    simp only [Set.mem_insert_iff, h.mem_iff, update_eq_some_iff]
    constructor
    · rintro (rfl | ⟨b, hb⟩)
      · exact ⟨a, Or.inl ⟨rfl, rfl⟩⟩
      · refine ⟨b, Or.inr ⟨?_, hb⟩⟩
        rintro rfl
        rw [ha] at hb
        cases hb
    · rintro ⟨b, ⟨-, hcd⟩ | ⟨-, hb⟩⟩
      · exact Or.inl (Option.some.inj hcd).symm
      · exact Or.inr ⟨b, hb⟩
  unique b b' d hb hb' := by
    rw [update_eq_some_iff] at hb hb'
    -- the new resource had no owner before
    rcases hb with ⟨rfl, hcd⟩ | ⟨-, hb⟩
    · rcases hb' with ⟨rfl, -⟩ | ⟨-, hb'⟩
      · rfl
      · rw [Option.some.inj hcd] at hc
        exact absurd (h.mem hb') hc
    · rcases hb' with ⟨rfl, hcd⟩ | ⟨-, hb'⟩
      · rw [Option.some.inj hcd] at hc
        exact absurd (h.mem hb) hc
      · exact h.unique b b' d hb hb'

/-- An owner gives up its resource. -/
theorem drop (h : Owns owned out) {a : α} {c : β} (ha : owned a = some c) :
    Owns (Function.update owned a none) (out \ {c}) := by
  have howner : ∀ b d, Function.update owned a none b = some d ↔ owned b = some d ∧ d ≠ c := by
    intro b d
    rw [update_eq_some_iff]
    constructor
    · rintro (⟨-, hnone⟩ | ⟨hba, hb⟩)
      · cases hnone
      · refine ⟨hb, ?_⟩
        rintro rfl
        exact hba (h.unique b a d hb ha)
    · rintro ⟨hb, hdc⟩
      refine Or.inr ⟨?_, hb⟩
      rintro rfl
      exact hdc (Option.some.inj (hb.symm.trans ha))
  refine ⟨fun d => ?_, fun b b' d hb hb' => ?_⟩
  · simp only [Set.mem_sdiff, Set.mem_singleton_iff, h.mem_iff, howner, exists_and_right, ne_eq]
  · exact h.unique b b' d ((howner b d).mp hb).1 ((howner b' d).mp hb').1

/-- What `b` owns is moved to `a`, which owns nothing before. The two may be the same. -/
theorem move (h : Owns owned out) {a : α} (ha : owned a = none) (b : α) :
    Owns (Function.update (Function.update owned a (owned b)) b none) out := by
  cases hb : owned b with
  | none =>
      rw [update_none ha, update_none hb]
      exact h
  | some c =>
      have hne : a ≠ b := by
        rintro rfl
        rw [ha] at hb
        cases hb
      have hdropped := h.drop hb
      have htaken := hdropped.take (a := a) ((Function.update_of_ne hne ..).trans ha)
        (fun hc => hc.2 rfl)
      rw [Function.update_comm hne.symm] at htaken
      rwa [Set.insert_sdiff_self_of_mem (h.mem hb)] at htaken

end Owns

end OzoPg.Ownership
