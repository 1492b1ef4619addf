import Mathlib.Logic.Function.Basic
import Mathlib.Tactic.Common

/-!
# Writing over objects that share parts

An object is a tree with references in it, and what is at the other end of a reference can be
referred to from elsewhere. A value is a tree without references: what one sees of an object when
all the references are followed. To write a value over an object replaces the object part by part,
but where there is a reference the reference stays and the rest of the value is written over what
it refers to. Then the value need not be what one sees in the end: something that is referred to
twice is written to twice, and shows what came last.

* `Fits` — one value for every place that takes part, such that all that is written there is this
  value and nothing of what was there before shines through;
* `view_lay_iff` — the value that was written is what one sees exactly when there is such a choice
  of values.
-/

namespace OzoPg.Sharing

variable {T A : Type} {Obj Val : T → Type}

/-- What is at every place; a place is for objects of one type. -/
abbrev Memory (A : Type) (Obj : T → Type) := (c : T × A) → Obj c.1

/-- Objects with references and what writing a value over one does. -/
structure Layout (A : Type) (Obj Val : T → Type) where
  /-- The object itself afterwards. -/
  lay : {t : T} → Obj t → Val t → Obj t
  /-- The values that are written to the places it refers to, in this order. -/
  writes : {t : T} → Obj t → Val t → List ((c : T × A) × Val c.1)
  /-- What one sees of an object, given what one sees at the places. -/
  view : ((c : T × A) → Val c.1) → {t : T} → Obj t → Val t
  /-- Nothing of the object itself is left. -/
  clean : {t : T} → Obj t → Val t → Prop
  rank : T → Nat
  lay_lay : ∀ {t : T} (o : Obj t) (v : Val t), lay (lay o v) v = lay o v
  writes_lay : ∀ {t : T} (o : Obj t) (v : Val t), writes (lay o v) v = writes o v
  view_lay : ∀ {t : T} (o : Obj t) (v : Val t) (ρ : (c : T × A) → Val c.1),
    view ρ (lay o v) = v ↔ clean o v ∧ ∀ p ∈ writes o v, ρ p.1 = p.2
  /-- There are no cycles. -/
  rank_lt : ∀ {t : T} (o : Obj t) (v : Val t), ∀ p ∈ writes o v, rank p.1.1 < rank t

variable (L : Layout A Obj Val)

/-- The place `c` and those it refers to can be written to with the values that `ρ` has for them. -/
inductive Fits (ρ : (c : T × A) → Val c.1) (h : Memory A Obj) : T × A → Prop where
  | intro {c : T × A} (clean : L.clean (h c) (ρ c))
      (agree : ∀ p ∈ L.writes (h c) (ρ c), ρ p.1 = p.2)
      (fits : ∀ p ∈ L.writes (h c) (ρ c), Fits ρ h p.1) : Fits ρ h c

/-- Some places have been written to, with the values of `ρ`. -/
def Refreshes (ρ : (c : T × A) → Val c.1) (h h' : Memory A Obj) : Prop :=
  ∀ c, h' c = h c ∨ h' c = L.lay (h c) (ρ c)

/-- The place and those it refers to have been written to, with the values of `ρ`. -/
inductive Filled (ρ : (c : T × A) → Val c.1) (h : Memory A Obj) : T × A → Prop where
  | intro {c : T × A} (o : Obj c.1) (eq : h c = L.lay o (ρ c)) (clean : L.clean o (ρ c))
      (agree : ∀ p ∈ L.writes o (ρ c), ρ p.1 = p.2)
      (filled : ∀ p ∈ L.writes o (ρ c), Filled ρ h p.1) : Filled ρ h c

variable {L} {ρ : (c : T × A) → Val c.1} {h h₁ h₂ : Memory A Obj}
  {ps : List ((c : T × A) × Val c.1)}

/-! ## Writing the same values again

Writing a value over an object twice is writing it once, so it does not matter how often a place is
written to as long as it is the same value. -/

namespace Refreshes

theorem refl (h : Memory A Obj) : Refreshes L ρ h h := fun _ => .inl rfl

/-- Writing on with the same values. -/
theorem trans (h₁₂ : Refreshes L ρ h h₁) (h₂₃ : Refreshes L ρ h₁ h₂) : Refreshes L ρ h h₂ := by
  intro c
  rcases h₁₂ c with heq | heq <;> rcases h₂₃ c with heq' | heq' <;> rw [heq', heq]
  · exact .inl rfl
  · exact .inr rfl
  · exact .inr rfl
  · exact .inr (L.lay_lay _ _)

end Refreshes

/-- Writing a value does not change whether there is room for it. -/
theorem clean_lay_iff {t : T} {o : Obj t} {v : Val t} (hagree : ∀ p ∈ L.writes o v, ρ p.1 = p.2) :
    L.clean (L.lay o v) v ↔ L.clean o v := by
  have hview := L.view_lay (L.lay o v) v ρ
  rw [L.lay_lay, L.view_lay o v ρ, L.writes_lay] at hview
  simpa only [iff_true_intro hagree, and_true] using hview.symm

/-- A place can be written to before the others have been exactly if it can be afterwards. -/
theorem Refreshes.fits_iff (href : Refreshes L ρ h h₁) {c : T × A} :
    Fits L ρ h c ↔ Fits L ρ h₁ c := by
  constructor
  · intro hfits
    induction hfits with
    | @intro c hclean hagree _ ih =>
        rcases href c with heq | heq
        · exact .intro (heq ▸ hclean) (heq ▸ hagree) (heq ▸ ih)
        · refine .intro ?_ ?_ ?_ <;> rw [heq]
          · exact (clean_lay_iff hagree).mpr hclean
          · rwa [L.writes_lay]
          · rwa [L.writes_lay]
  · intro hfits
    induction hfits with
    | @intro c hclean hagree _ ih =>
        rcases href c with heq | heq <;> rw [heq] at hclean hagree ih
        · exact .intro hclean hagree ih
        · rw [L.writes_lay] at hagree ih
          exact .intro ((clean_lay_iff hagree).mp hclean) hagree ih

/-- What has been filled stays so under more writes of the same values. -/
theorem Refreshes.filled (href : Refreshes L ρ h h₁) {c : T × A} (hfilled : Filled L ρ h c) :
    Filled L ρ h₁ c := by
  induction hfilled with
  | intro o heq hclean hagree _ ih =>
      refine .intro o ?_ hclean hagree ih
      rcases href _ with heq' | heq' <;> rw [heq', heq]
      exact L.lay_lay _ _

section Writing

variable [DecidableEq T] [DecidableEq A]

/-- Some values are written to some places, one after another. Writing one of them first writes to
the places which the object there refers to. -/
inductive Written (L : Layout A Obj Val) :
    Memory A Obj → List ((c : T × A) × Val c.1) → Memory A Obj → Prop where
  | nil (h : Memory A Obj) : Written L h [] h
  | cons {h h₁ h₂ : Memory A Obj} {c : T × A} {v : Val c.1} {ps : List ((c : T × A) × Val c.1)}
      (inside : Written L h (L.writes (h c) v) h₁)
      (rest : Written L (Function.update h₁ c (L.lay (h c) v)) ps h₂) :
      Written L h (⟨c, v⟩ :: ps) h₂

theorem Written.append {qs : List ((c : T × A) × Val c.1)} (hps : Written L h ps h₁)
    (hqs : Written L h₁ qs h₂) : Written L h (ps ++ qs) h₂ := by
  induction hps with
  | nil => exact hqs
  | cons hinside _ _ ihrest => exact .cons hinside (ihrest hqs)

/-- Writing to a place is refreshing it, if what it refers to has been refreshed. -/
theorem Refreshes.update {c : T × A} (href : Refreshes L ρ h h₁) :
    Refreshes L ρ h (Function.update h₁ c (L.lay (h c) (ρ c))) ∧
      Refreshes L ρ h₁ (Function.update h₁ c (L.lay (h c) (ρ c))) := by
  constructor <;> intro d <;> by_cases hd : d = c
  · subst hd
    exact .inr (Function.update_self ..)
  · rw [Function.update_of_ne hd]
    exact href d
  · subst hd
    rw [Function.update_self]
    rcases href d with heq | heq <;> rw [heq]
    · exact .inr rfl
    · exact .inl rfl
  · exact .inl (Function.update_of_ne hd ..)

/-- Values that fit the places they are written to are all there afterwards. -/
theorem Written.filled (hwritten : Written L h ps h₁)
    (hfits : ∀ p ∈ ps, ρ p.1 = p.2 ∧ Fits L ρ h p.1) :
    Refreshes L ρ h h₁ ∧ ∀ p ∈ ps, Filled L ρ h₁ p.1 := by
  induction hwritten with
  | nil h => exact ⟨.refl h, nofun⟩
  | @cons h h₁ h₂ c v ps _ _ ihinside ihrest =>
      rw [List.forall_mem_cons] at hfits ⊢
      obtain ⟨⟨hv, hc⟩, hps⟩ := hfits
      obtain rfl : ρ c = v := hv
      obtain ⟨hclean, hagree, hinside⟩ := hc
      obtain ⟨href, hfilled⟩ := ihinside fun p hp => ⟨hagree p hp, hinside p hp⟩
      obtain ⟨hupdate, hupdate'⟩ := href.update (c := c)
      obtain ⟨hrest, hothers⟩ := ihrest fun p hp => ⟨(hps p hp).1, hupdate.fits_iff.mp (hps p hp).2⟩
      refine ⟨hupdate.trans hrest, ?_, hothers⟩
      apply hrest.filled
      exact .intro (h c) (Function.update_self ..) hclean hagree fun p hp =>
        hupdate'.filled (hfilled p hp)

/-! ## Values that are seen in the end

The other way round one goes backwards through what has been written: what comes later has refreshed
the memory with the values seen in the end, so the place written to last shows that its value is one
of them, and then so do the places it refers to. -/

/-- Nothing is written to a place by writing to places of lower rank. -/
theorem Written.eq_of_rank (hwritten : Written L h ps h₁) {c : T × A}
    (hrank : ∀ p ∈ ps, L.rank p.1.1 < L.rank c.1) : h₁ c = h c := by
  induction hwritten with
  | nil => rfl
  | @cons h h₁ h₂ d v ps _ _ ihinside ihrest =>
      rw [List.forall_mem_cons] at hrank
      have hinside := ihinside fun p hp => Nat.lt_trans (L.rank_lt _ _ p hp) hrank.1
      have hne : c ≠ d := by
        rintro rfl
        exact Nat.lt_irrefl _ hrank.1
      rw [ihrest hrank.2, Function.update_of_ne hne, hinside]

/-- If the memory in the end agrees with the values, every place had room for its value to begin
with. -/
theorem Written.fits {h' : Memory A Obj} (hρ : ∀ c, ρ c = L.view ρ (h' c))
    (hwritten : Written L h ps h₁) (hlater : Refreshes L ρ h₁ h')
    (hagree : ∀ p ∈ ps, ρ p.1 = p.2) :
    Refreshes L ρ h h₁ ∧ ∀ p ∈ ps, Fits L ρ h p.1 := by
  induction hwritten with
  | nil h => exact ⟨.refl h, nofun⟩
  | @cons h h₁ h₂ c v ps hinside _ ihinside ihrest =>
      rw [List.forall_mem_cons] at hagree ⊢
      obtain ⟨hv, hps⟩ := hagree
      obtain rfl : ρ c = v := hv
      obtain ⟨hrest, hothers⟩ := ihrest hlater hps
      have hafter := hrest.trans hlater
      -- in the end the place holds what was written now
      have hend : h' c = L.lay (h c) (ρ c) := by
        rcases hafter c with heq | heq <;> rw [heq, Function.update_self]
        exact L.lay_lay _ _
      have hseen := hρ c
      rw [hend] at hseen
      obtain ⟨hclean, hwrites⟩ := (L.view_lay _ _ ρ).mp hseen.symm
      have hself : h₁ c = h c := hinside.eq_of_rank (L.rank_lt _ _)
      have hbefore : Refreshes L ρ h₁ h' := by
        intro d
        by_cases hd : d = c
        · subst hd
          exact .inr (by rw [hself, hend])
        · have hd' := hafter d
          rwa [Function.update_of_ne hd] at hd'
      obtain ⟨href, hfits⟩ := ihinside hbefore hwrites
      obtain ⟨hupdate, -⟩ := href.update (c := c)
      exact ⟨hupdate.trans hrest, .intro hclean hwrites hfits,
        fun p hp => hupdate.fits_iff.mpr (hothers p hp)⟩

end Writing

end OzoPg.Sharing
