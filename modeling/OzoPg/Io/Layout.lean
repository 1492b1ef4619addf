import OzoPg.Io.Memory
import Mathlib.Data.List.Forall2

/-!
# Received values over objects

What a value that is received makes of an object, as it follows from the decoders: members and
elements are replaced one by one, a container is fitted, except for an array without elements, a
null resets a nullable and anything else goes into the object it holds. Of the objects which
several pointers share the pointers stay, and the values for them are `writes` of their own.

* `layout` — these functions and their laws, an instance of `Sharing.Layout`.
-/

namespace OzoPg

/-- A value for the object at an address. -/
abbrev Write := (c : ObjectType × Nat) × c.1.Val

/-! ## Nullables

What receiving does to an object is split in two: the object that is left, and the values written to
the objects it refers to. Both can be said without the memory. -/

section Nullables

variable {α β : Type} {t : ObjectType}

/-- A nullable after a value has been received into it. -/
def Nullability.lay (fresh : α) (f : α → β → α) : (n : Nullability) → n.Obj α → n.Val β → n.Obj α
  | .plain, o, v => f o v
  | .nullable, _, none => .null
  | .nullable, .null, some v => .own (f fresh v)
  | .nullable, .own o, some v => .own (f o v)
  | .nullable, .shared a, some _ => .shared a

/-- The values for shared objects in a value that is received into a nullable. -/
def Nullability.writes (fresh : t.Obj) (f : t.Obj → t.Val → List Write) :
    (n : Nullability) → n.Obj t.Obj → n.Val t.Val → List Write
  | .plain, o, v => f o v
  | .nullable, _, none => []
  | .nullable, .null, some v => f fresh v
  | .nullable, .own o, some v => f o v
  | .nullable, .shared a, some v => [⟨(t, a), v⟩]

/-- Nothing is left of what a nullable held, shared objects apart. -/
def Nullability.Clean (fresh : α) (P : α → β → Prop) : (n : Nullability) → n.Obj α → n.Val β → Prop
  | .plain, o, v => P o v
  | .nullable, _, none => True
  | .nullable, .null, some v => P fresh v
  | .nullable, .own o, some v => P o v
  | .nullable, .shared _, some _ => True

/-- Receiving a value twice is receiving it once. -/
theorem Nullability.lay_lay {fresh : α} {f : α → β → α} (hf : ∀ o v, f (f o v) v = f o v) :
    (n : Nullability) → (o : n.Obj α) → (v : n.Val β) →
    n.lay fresh f (n.lay fresh f o v) v = n.lay fresh f o v
  | .plain, o, v => hf o v
  | .nullable, _, none => rfl
  | .nullable, .null, some v => congrArg Held.own (hf fresh v)
  | .nullable, .own o, some v => congrArg Held.own (hf o v)
  | .nullable, .shared _, some _ => rfl

/-- The second time the same is written. -/
theorem Nullability.writes_lay {fresh : t.Obj} {f : t.Obj → t.Val → t.Obj}
    {w : t.Obj → t.Val → List Write} (hw : ∀ o v, w (f o v) v = w o v) :
    (n : Nullability) → (o : n.Obj t.Obj) → (v : n.Val t.Val) →
    n.writes fresh w (n.lay fresh f o v) v = n.writes fresh w o v
  | .plain, o, v => hw o v
  | .nullable, _, none => rfl
  | .nullable, .null, some v => hw fresh v
  | .nullable, .own o, some v => hw o v
  | .nullable, .shared _, some _ => rfl

/-- What is seen afterwards is the value, if nothing is left of the old one and the shared objects
have what was written to them. -/
theorem Nullability.view_lay {fresh : t.Obj} {f : t.Obj → t.Val → t.Obj} {g : t.Obj → t.Val}
    {w : t.Obj → t.Val → List Write} {P : t.Obj → t.Val → Prop}
    {ρ : (c : ObjectType × Nat) → c.1.Val}
    (hg : ∀ o v, g (f o v) = v ↔ P o v ∧ ∀ p ∈ w o v, ρ p.1 = p.2) :
    (n : Nullability) → (o : n.Obj t.Obj) → (v : n.Val t.Val) →
    (n.view g (fun a => ρ (t, a)) (n.lay fresh f o v) = v ↔
      n.Clean fresh P o v ∧ ∀ p ∈ n.writes fresh w o v, ρ p.1 = p.2)
  | .plain, o, v => hg o v
  | .nullable, _, none => iff_of_true rfl ⟨trivial, nofun⟩
  | .nullable, .null, some v => Option.some_inj.trans (hg fresh v)
  | .nullable, .own o, some v => Option.some_inj.trans (hg o v)
  | .nullable, .shared a, some v => by
    simp only [Nullability.lay, Nullability.view, Nullability.Clean, Nullability.writes,
      List.forall_mem_singleton, true_and, Option.some_inj]

theorem Nullability.forall_writes {fresh : t.Obj} {w : t.Obj → t.Val → List Write}
    {Q : ObjectType → Prop} (hw : ∀ o v, ∀ p ∈ w o v, Q p.1.1) (ht : Q t) :
    (n : Nullability) → (o : n.Obj t.Obj) → (v : n.Val t.Val) →
    ∀ p ∈ n.writes fresh w o v, Q p.1.1
  | .plain, o, v => hw o v
  | .nullable, _, none => nofun
  | .nullable, .null, some v => hw fresh v
  | .nullable, .own o, some v => hw o v
  | .nullable, .shared _, some _ => List.forall_mem_singleton.mpr ht

end Nullables

/-! ## Elements -/

section Elements

variable {α β γ δ : Type} {F : α → β → α}

theorem zipWith_zipWith_left {G : α → β → γ} (hG : ∀ o v, G (F o v) v = G o v) :
    (os : List α) → (vs : List β) →
    List.zipWith G (List.zipWith F os vs) vs = List.zipWith G os vs
  | [], _ => by simp
  | _ :: _, [] => rfl
  | o :: os, v :: vs => by
    simp only [List.zipWith_cons_cons, hG, zipWith_zipWith_left hG os vs]

theorem map_zipWith_eq_iff {g : α → β} {w : α → β → List δ} {P : α → β → Prop} {Q : δ → Prop}
    (hg : ∀ o v, g (F o v) = v ↔ P o v ∧ ∀ p ∈ w o v, Q p) :
    {os : List α} → {vs : List β} → os.length = vs.length →
    ((List.zipWith F os vs).map g = vs ↔
      List.Forall₂ P os vs ∧ ∀ p ∈ (List.zipWith w os vs).flatten, Q p)
  | [], [], _ => iff_of_true rfl ⟨.nil, nofun⟩
  | o :: os, v :: vs, hlen => by
    simp only [List.zipWith_cons_cons, List.map_cons, List.cons.injEq, hg, List.forall₂_cons,
      List.flatten_cons, List.forall_mem_append, map_zipWith_eq_iff hg (Nat.succ.inj hlen)]
    exact and_and_and_comm

theorem forall_flatten_zipWith {w : α → β → List δ} {Q : δ → Prop}
    (hw : ∀ o v, ∀ p ∈ w o v, Q p) : (os : List α) → (vs : List β) →
    ∀ p ∈ (List.zipWith w os vs).flatten, Q p
  | [], _ => nofun
  | _ :: _, [] => nofun
  | o :: os, v :: vs => by
    rw [List.zipWith_cons_cons, List.flatten_cons, List.forall_mem_append]
    exact ⟨hw o v, forall_flatten_zipWith hw os vs⟩

/-- A container after an array has been received into it. -/
def ArrayVal.lay {c : Container} (fresh : α) (F : α → β → α) (o : ArrayVal c α)
    (v : ArrayVal c β) : ArrayVal c α :=
  if v.items.isEmpty then o
  else ⟨List.zipWith F (resize fresh v.items.length o.items) v.items,
    (congrArg c.Fits (by rw [List.length_zipWith, length_resize, Nat.min_self])).mpr v.fits⟩

/-- The values for shared objects when an array is received into a container. -/
def ArrayVal.writes {c : Container} (fresh : α) (w : α → β → List δ) (o : ArrayVal c α)
    (v : ArrayVal c β) : List δ :=
  (List.zipWith w (resize fresh v.items.length o.items) v.items).flatten

/-- An array without elements meets a container without elements, and the elements are received
into clean ones. -/
def ArrayVal.Clean {c : Container} (fresh : α) (P : α → β → Prop) (o : ArrayVal c α)
    (v : ArrayVal c β) : Prop :=
  (v.items = [] → o.items = []) ∧
    List.Forall₂ P (resize fresh v.items.length o.items) v.items

variable {c : Container} {fresh : α} {o : ArrayVal c α} {v : ArrayVal c β}

/-- An array without elements does not touch the container. -/
theorem ArrayVal.lay_of_nil (h : v.items = []) : o.lay fresh F v = o := by
  rw [ArrayVal.lay, if_pos (List.isEmpty_iff.mpr h)]

/-- Otherwise each element goes into the one at its position. -/
theorem ArrayVal.items_lay (h : v.items ≠ []) :
    (o.lay fresh F v).items = List.zipWith F (resize fresh v.items.length o.items) v.items := by
  rw [ArrayVal.lay, if_neg (mt List.isEmpty_iff.mp h)]

/-- A container that has received an array has the size it is fitted to. -/
theorem ArrayVal.resize_lay (h : v.items ≠ []) :
    resize fresh v.items.length (o.lay fresh F v).items = (o.lay fresh F v).items := by
  have hlen : (o.lay fresh F v).items.length = v.items.length := by
    rw [ArrayVal.items_lay h, List.length_zipWith, length_resize, Nat.min_self]
  rw [← hlen, resize_length]

theorem ArrayVal.lay_lay (hF : ∀ o v, F (F o v) v = F o v) (o : ArrayVal c α) (v : ArrayVal c β) :
    (o.lay fresh F v).lay fresh F v = o.lay fresh F v := by
  by_cases h : v.items = []
  · rw [ArrayVal.lay_of_nil h, ArrayVal.lay_of_nil h]
  · apply ArrayVal.ext_items
    rw [ArrayVal.items_lay h, ArrayVal.resize_lay h, ArrayVal.items_lay h]
    exact zipWith_zipWith_left hF _ _

theorem ArrayVal.writes_lay {w : α → β → List δ} (hw : ∀ o v, w (F o v) v = w o v)
    (o : ArrayVal c α) (v : ArrayVal c β) :
    (o.lay fresh F v).writes fresh w v = o.writes fresh w v := by
  by_cases h : v.items = []
  · rw [ArrayVal.lay_of_nil h]
  · rw [ArrayVal.writes, ArrayVal.resize_lay h, ArrayVal.items_lay h, zipWith_zipWith_left hw]
    rfl

/-- The elements of the container are those of the array. -/
theorem ArrayVal.map_lay {g : α → β} {w : α → β → List δ} {P : α → β → Prop} {Q : δ → Prop}
    (hg : ∀ o v, g (F o v) = v ↔ P o v ∧ ∀ p ∈ w o v, Q p) (o : ArrayVal c α)
    (v : ArrayVal c β) :
    (o.lay fresh F v).map g = v ↔ o.Clean fresh P v ∧ ∀ p ∈ o.writes fresh w v, Q p := by
  have hitems : (o.lay fresh F v).map g = v ↔ (o.lay fresh F v).items.map g = v.items :=
    ⟨fun h => congrArg ArrayVal.items h, fun h => ArrayVal.ext_items h⟩
  by_cases h : v.items = []
  · -- what is left of the container is all that is seen
    have hnone : resize fresh v.items.length o.items = [] := by
      rw [h]
      exact List.eq_nil_of_length_eq_zero (length_resize ..)
    rw [hitems, ArrayVal.lay_of_nil h, h, List.map_eq_nil_iff, ArrayVal.Clean, ArrayVal.writes,
      hnone, h]
    simp
  · rw [hitems, ArrayVal.items_lay h, map_zipWith_eq_iff hg (length_resize ..), ArrayVal.Clean]
    simp only [h, false_implies, true_and]
    rfl

end Elements

/-! ## All types -/

mutual

/-- An object of an element type after a value has been received into it. -/
def ElementType.lay (cs : Constructors) : (e : ElementType) → e.Obj → e.Val → e.Obj
  | .scalar _, _, v => v
  | .composite _ _ ms, o, v => ms.lay cs o v

/-- An object after a value has been received into it. -/
def ObjectType.lay (cs : Constructors) : (t : ObjectType) → t.Obj → t.Val → t.Obj
  | .element e, o, v => e.lay cs o v
  | .array _ n e, o, v =>
    o.lay (n.owned e.owned (n.default (e.default cs))) (n.lay (e.owned (e.default cs)) (e.lay cs)) v

/-- The members of an object after values have been received into them. -/
def MemberTypes.lay (cs : Constructors) : (ms : MemberTypes) → ms.Obj → ms.Val → ms.Obj
  | .nil, _, _ => ()
  | .cons n t ms, o, v => (n.lay (t.owned (t.default cs)) (t.lay cs) o.1 v.1, ms.lay cs o.2 v.2)

end

mutual

/-- The values for shared objects when a value is received into an object of an element type. -/
def ElementType.writes (cs : Constructors) : (e : ElementType) → e.Obj → e.Val → List Write
  | .scalar _, _, _ => []
  | .composite _ _ ms, o, v => ms.writes cs o v

/-- The values for shared objects when a value is received into an object. -/
def ObjectType.writes (cs : Constructors) : (t : ObjectType) → t.Obj → t.Val → List Write
  | .element e, o, v => e.writes cs o v
  | .array _ n e, o, v =>
    o.writes (n.owned e.owned (n.default (e.default cs)))
      (n.writes (t := .element e) (e.owned (e.default cs)) (e.writes cs)) v

/-- The values for shared objects when values are received into members. -/
def MemberTypes.writes (cs : Constructors) : (ms : MemberTypes) → ms.Obj → ms.Val → List Write
  | .nil, _, _ => []
  | .cons n t ms, o, v =>
    n.writes (t.owned (t.default cs)) (t.writes cs) o.1 v.1 ++ ms.writes cs o.2 v.2

end

mutual

/-- An array without elements meets only containers without elements, in an object of an element
type. -/
def ElementType.Clean (cs : Constructors) : (e : ElementType) → e.Obj → e.Val → Prop
  | .scalar _, _, _ => True
  | .composite _ _ ms, o, v => ms.Clean cs o v

/-- An array without elements meets only containers without elements. -/
def ObjectType.Clean (cs : Constructors) : (t : ObjectType) → t.Obj → t.Val → Prop
  | .element e, o, v => e.Clean cs o v
  | .array _ n e, o, v =>
    o.Clean (n.owned e.owned (n.default (e.default cs)))
      (n.Clean (e.owned (e.default cs)) (e.Clean cs)) v

/-- An array without elements meets only containers without elements, in the members. -/
def MemberTypes.Clean (cs : Constructors) : (ms : MemberTypes) → ms.Obj → ms.Val → Prop
  | .nil, _, _ => True
  | .cons n t ms, o, v =>
    n.Clean (t.owned (t.default cs)) (t.Clean cs) o.1 v.1 ∧ ms.Clean cs o.2 v.2

end

mutual

/-- What is seen of an object of an element type, given what is seen of the shared ones. -/
def ElementType.view (ρ : (c : ObjectType × Nat) → c.1.Val) : (e : ElementType) → e.Obj → e.Val
  | .scalar _, o => o
  | .composite _ _ ms, o => ms.view ρ o

/-- What is seen of an object, given what is seen of the shared ones. -/
def ObjectType.view (ρ : (c : ObjectType × Nat) → c.1.Val) : (t : ObjectType) → t.Obj → t.Val
  | .element e, o => e.view ρ o
  | .array _ n e, o => o.map (n.view (e.view ρ) fun a => ρ (.element e, a))

/-- What is seen of members, given what is seen of the shared objects. -/
def MemberTypes.view (ρ : (c : ObjectType × Nat) → c.1.Val) : (ms : MemberTypes) → ms.Obj → ms.Val
  | .nil, _ => ()
  | .cons n t ms, o => (n.view (t.view ρ) (fun a => ρ (t, a)) o.1, ms.view ρ o.2)

end

mutual

/-- How deep an element type is nested. -/
def ElementType.rank : ElementType → Nat
  | .scalar _ => 0
  | .composite _ _ ms => ms.rank

/-- How deep a type is nested. -/
def ObjectType.rank : ObjectType → Nat
  | .element e => e.rank
  | .array _ _ e => e.rank + 1

/-- How deep members are nested. -/
def MemberTypes.rank : MemberTypes → Nat
  | .nil => 0
  | .cons _ t ms => max (t.rank + 1) ms.rank

end

/-! ## Laws

The three facts the library needs of a layout, each by recursion on the type: receiving twice is
receiving once, what is seen afterwards, and that references lead to smaller types. -/

variable (cs : Constructors)

mutual

/-- By recursion on the type, together with the two below. -/
theorem ElementType.lay_lay : (e : ElementType) → (o : e.Obj) → (v : e.Val) →
    e.lay cs (e.lay cs o v) v = e.lay cs o v
  | .scalar _, _, _ => rfl
  | .composite _ _ ms, o, v => MemberTypes.lay_lay ms o v

theorem ObjectType.lay_lay : (t : ObjectType) → (o : t.Obj) → (v : t.Val) →
    t.lay cs (t.lay cs o v) v = t.lay cs o v
  | .element e, o, v => ElementType.lay_lay e o v
  | .array _ n e, o, v => ArrayVal.lay_lay (n.lay_lay (ElementType.lay_lay e)) o v

theorem MemberTypes.lay_lay : (ms : MemberTypes) → (o : ms.Obj) → (v : ms.Val) →
    ms.lay cs (ms.lay cs o v) v = ms.lay cs o v
  | .nil, _, _ => rfl
  | .cons n t ms, o, v =>
    Prod.ext (n.lay_lay (ObjectType.lay_lay t) o.1 v.1) (MemberTypes.lay_lay ms o.2 v.2)

end

mutual

theorem ElementType.writes_lay : (e : ElementType) → (o : e.Obj) → (v : e.Val) →
    e.writes cs (e.lay cs o v) v = e.writes cs o v
  | .scalar _, _, _ => rfl
  | .composite _ _ ms, o, v => MemberTypes.writes_lay ms o v

theorem ObjectType.writes_lay : (t : ObjectType) → (o : t.Obj) → (v : t.Val) →
    t.writes cs (t.lay cs o v) v = t.writes cs o v
  | .element e, o, v => ElementType.writes_lay e o v
  | .array _ n e, o, v =>
    ArrayVal.writes_lay (n.writes_lay (t := .element e) (ElementType.writes_lay e)) o v

theorem MemberTypes.writes_lay : (ms : MemberTypes) → (o : ms.Obj) → (v : ms.Val) →
    ms.writes cs (ms.lay cs o v) v = ms.writes cs o v
  | .nil, _, _ => rfl
  | .cons n t ms, o, v =>
    congrArg₂ (· ++ ·) (n.writes_lay (ObjectType.writes_lay t) o.1 v.1)
      (MemberTypes.writes_lay ms o.2 v.2)

end

section View

variable (ρ : (c : ObjectType × Nat) → c.1.Val)

mutual

/-- What is seen after receiving, by recursion on the type. -/
theorem ElementType.view_lay : (e : ElementType) → (o : e.Obj) → (v : e.Val) →
    (e.view ρ (e.lay cs o v) = v ↔ e.Clean cs o v ∧ ∀ p ∈ e.writes cs o v, ρ p.1 = p.2)
  | .scalar _, _, _ => iff_of_true rfl ⟨trivial, nofun⟩
  | .composite _ _ ms, o, v => MemberTypes.view_lay ms o v

theorem ObjectType.view_lay : (t : ObjectType) → (o : t.Obj) → (v : t.Val) →
    (t.view ρ (t.lay cs o v) = v ↔ t.Clean cs o v ∧ ∀ p ∈ t.writes cs o v, ρ p.1 = p.2)
  | .element e, o, v => ElementType.view_lay e o v
  | .array _ n e, o, v =>
    ArrayVal.map_lay (n.view_lay (t := .element e) (ElementType.view_lay e)) o v

theorem MemberTypes.view_lay : (ms : MemberTypes) → (o : ms.Obj) → (v : ms.Val) →
    (ms.view ρ (ms.lay cs o v) = v ↔ ms.Clean cs o v ∧ ∀ p ∈ ms.writes cs o v, ρ p.1 = p.2)
  | .nil, _, _ => iff_of_true rfl ⟨trivial, nofun⟩
  | .cons n t ms, o, v => by
    rw [MemberTypes.writes, List.forall_mem_append]
    refine Prod.ext_iff.trans ((and_congr (n.view_lay (ObjectType.view_lay t) o.1 v.1)
      (MemberTypes.view_lay ms o.2 v.2)).trans ?_)
    exact and_and_and_comm

end

end View

mutual

/-- Objects refer to objects of types with a smaller rank, so there are no cycles. -/
theorem ElementType.rank_lt : (e : ElementType) → (o : e.Obj) → (v : e.Val) →
    ∀ p ∈ e.writes cs o v, p.1.1.rank < e.rank
  | .scalar _, _, _ => nofun
  | .composite _ _ ms, o, v => MemberTypes.rank_lt ms o v

theorem ObjectType.rank_lt : (t : ObjectType) → (o : t.Obj) → (v : t.Val) →
    ∀ p ∈ t.writes cs o v, p.1.1.rank < t.rank
  | .element e, o, v => ElementType.rank_lt e o v
  | .array _ n e, _, _ =>
    forall_flatten_zipWith (n.forall_writes (t := .element e) (Q := fun t => t.rank < e.rank + 1)
      (fun o v p hp => Nat.lt_succ_of_lt (ElementType.rank_lt e o v p hp)) (Nat.lt_succ_self _)) _ _

theorem MemberTypes.rank_lt : (ms : MemberTypes) → (o : ms.Obj) → (v : ms.Val) →
    ∀ p ∈ ms.writes cs o v, p.1.1.rank < ms.rank
  | .nil, _, _ => nofun
  | .cons n t ms, o, v => by
    rw [MemberTypes.writes, List.forall_mem_append, MemberTypes.rank]
    constructor
    · apply n.forall_writes (Q := fun u => u.rank < max (t.rank + 1) ms.rank)
      · intro o v p hp
        have hlt := ObjectType.rank_lt t o v p hp
        omega
      · show t.rank < max (t.rank + 1) ms.rank
        omega
    · intro p hp
      have hlt := MemberTypes.rank_lt ms o.2 v.2 p hp
      omega

end

/-- What receiving values does to objects. -/
def layout : Sharing.Layout Nat ObjectType.Obj ObjectType.Val where
  lay {t} := t.lay cs
  writes {t} := t.writes cs
  view ρ {t} := t.view ρ
  clean {t} := t.Clean cs
  rank := ObjectType.rank
  lay_lay {t} := t.lay_lay cs
  writes_lay {t} := t.writes_lay cs
  view_lay {t} o v ρ := t.view_lay cs ρ o v
  rank_lt {t} := t.rank_lt cs

/-! ## Objects as they are seen -/

/-- What is seen at the addresses. -/
def Memory.contents (h : Memory) (c : ObjectType × Nat) : c.1.Val := c.1.load h (h c)

mutual

theorem ElementType.load_eq_view (h : Memory) : (e : ElementType) → (o : e.Obj) →
    e.load h o = e.view h.contents o
  | .scalar _, _ => rfl
  | .composite _ _ ms, o => MemberTypes.load_eq_view h ms o

/-- The value of an object is what is seen of it, given what is seen at the addresses. -/
theorem ObjectType.load_eq_view (h : Memory) : (t : ObjectType) → (o : t.Obj) →
    t.load h o = t.view h.contents o
  | .element e, o => ElementType.load_eq_view h e o
  | .array _ n e, o =>
    congrArg (fun f => o.map (n.view f fun a => e.load h (h (.element e, a))))
      (funext (ElementType.load_eq_view h e))

theorem MemberTypes.load_eq_view (h : Memory) : (ms : MemberTypes) → (o : ms.Obj) →
    ms.load h o = ms.view h.contents o
  | .nil, _ => rfl
  | .cons n t ms, o =>
    congrArg₂ Prod.mk
      (congrArg (fun f => n.view f (fun a => t.load h (h (t, a))) o.1)
        (funext (ObjectType.load_eq_view h t)))
      (MemberTypes.load_eq_view h ms o.2)

end

end OzoPg
