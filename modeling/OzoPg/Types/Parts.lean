import OzoPg.Types.Basic

/-!
# The parts of an object

A property of objects of every type is `Everywhere` in an object when the object has it and so
does every array element and every composite member inside it, at any depth.
-/

namespace OzoPg

theorem Nullability.All.imp {α : Type} {P Q : α → Prop} (h : ∀ v, P v → Q v) :
    {n : Nullability} → {v : n.Val α} → n.All P v → n.All Q v
  | .plain, v, hv => h v hv
  | .nullable, none, _ => trivial
  | .nullable, some v, hv => h v hv

theorem Nullability.All.and {α : Type} {P Q : α → Prop} :
    {n : Nullability} → {v : n.Val α} → n.All P v → n.All Q v → n.All (fun v => P v ∧ Q v) v
  | .plain, _, hp, hq => ⟨hp, hq⟩
  | .nullable, none, _, _ => trivial
  | .nullable, some _, hp, hq => ⟨hp, hq⟩

/-- A property of the objects of every type, wrapped or not. -/
abbrev ObjectProperty := (n : Nullability) → (t : ObjectType) → n.Val t.Val → Prop

mutual

/-- `P` holds everywhere strictly inside an object of an element type. -/
def ElementType.Parts (P : ObjectProperty) : (e : ElementType) → e.Val → Prop
  | .scalar _, _ => True
  | .composite _ _ ms, v => ms.Everywhere P v

/-- `P` holds everywhere strictly inside an object. -/
def ObjectType.Parts (P : ObjectProperty) : (t : ObjectType) → t.Val → Prop
  | .element e, v => e.Parts P v
  | .array _ n e, v => ∀ item ∈ v.items, P n (.element e) item ∧ n.All (e.Parts P) item

/-- `P` holds everywhere in the members of a composite. -/
def MemberTypes.Everywhere (P : ObjectProperty) : (ms : MemberTypes) → ms.Val → Prop
  | .nil, _ => True
  | .cons n t ms, v => (P n t v.1 ∧ n.All (t.Parts P) v.1) ∧ ms.Everywhere P v.2

end

/-- `P` holds of an object and of everything inside it. -/
def Everywhere (P : ObjectProperty) (n : Nullability) (t : ObjectType) (v : n.Val t.Val) : Prop :=
  P n t v ∧ n.All (t.Parts P) v

mutual

/-- By recursion on the type, together with the two below. -/
theorem ElementType.Parts.mono {P Q : ObjectProperty} (h : ∀ n t v, P n t v → Q n t v) :
    (e : ElementType) → (v : e.Val) → e.Parts P v → e.Parts Q v
  | .scalar _, _, _ => trivial
  | .composite _ _ ms, v, hv => MemberTypes.Everywhere.mono h ms v hv

theorem ObjectType.Parts.mono {P Q : ObjectProperty} (h : ∀ n t v, P n t v → Q n t v) :
    (t : ObjectType) → (v : t.Val) → t.Parts P v → t.Parts Q v
  | .element e, v, hv => ElementType.Parts.mono h e v hv
  | .array _ n e, _, hv => fun item hmem =>
    ⟨h n (.element e) item (hv item hmem).1, (hv item hmem).2.imp (ElementType.Parts.mono h e)⟩

theorem MemberTypes.Everywhere.mono {P Q : ObjectProperty} (h : ∀ n t v, P n t v → Q n t v) :
    (ms : MemberTypes) → (v : ms.Val) → ms.Everywhere P v → ms.Everywhere Q v
  | .nil, _, _ => trivial
  | .cons n t ms, v, hv =>
    ⟨⟨h n t v.1 hv.1.1, hv.1.2.imp (ObjectType.Parts.mono h t)⟩,
      MemberTypes.Everywhere.mono h ms v.2 hv.2⟩

end

theorem Everywhere.mono {P Q : ObjectProperty} (h : ∀ n t v, P n t v → Q n t v)
    {n : Nullability} {t : ObjectType} {v : n.Val t.Val} (hv : Everywhere P n t v) :
    Everywhere Q n t v :=
  ⟨h n t v hv.1, hv.2.imp (ObjectType.Parts.mono h t)⟩

end OzoPg
