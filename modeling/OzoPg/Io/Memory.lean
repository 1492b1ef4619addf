import OzoPg.Lib.Sharing
import OzoPg.Io.Recv

/-!
# Receiving into memory

A value says what an object holds, but not that two of the pointers in it point to the same object.
For decoders that makes a difference: where a `std::shared_ptr` is not null they write into the
object it points to, and all who have a pointer to it see that.

Here objects have addresses in them, and memory has what is at the addresses. The decoders are those
of `Io.Recv` once more, written for such objects.

* `load` — the value of an object;
* `recvImplAt_owned` — where every object is referred to once, the decoders are those on values.

A default constructor gives an object objects of its own. One that hands out pointers to what exists
already, and pointers into the middle of an object, are left out.
-/

namespace OzoPg

/-! ## Objects with addresses in them

A shared pointer refers to an object that others may refer to as well, so it is an address here.
Whatever is owned stands where it is used. -/

/-- What a nullable holds: nothing, an object that nothing else refers to, or the one at an
address. -/
inductive Held (α : Type) where
  | null
  | own (o : α)
  | shared (a : Nat)

/-- The objects of a type wrapped as `n` says. -/
@[reducible] def Nullability.Obj : Nullability → Type → Type
  | .plain, α => α
  | .nullable, α => Held α

mutual

/-- The objects of an element type. -/
@[reducible] def ElementType.Obj : ElementType → Type
  | .scalar s => s.Val
  | .composite _ _ ms => ms.Obj

/-- The objects of an unwrapped type. -/
@[reducible] def ObjectType.Obj : ObjectType → Type
  | .element e => e.Obj
  | .array c n e => ArrayVal c (n.Obj e.Obj)

/-- The members of the objects of a composite. -/
@[reducible] def MemberTypes.Obj : MemberTypes → Type
  | .nil => Unit
  | .cons n t ms => n.Obj t.Obj × ms.Obj

end

/-- What is at the addresses, for each type of objects. -/
abbrev Memory := Sharing.Memory Nat ObjectType.Obj

/-! ## Values of objects -/

/-- What is seen of a nullable, where `shared` is seen at the addresses. -/
def Nullability.view {α β : Type} (f : α → β) (shared : Nat → β) :
    (n : Nullability) → n.Obj α → n.Val β
  | .plain, o => f o
  | .nullable, .null => none
  | .nullable, .own o => some (f o)
  | .nullable, .shared a => some (shared a)

def ArrayVal.map {c : Container} {α β : Type} (f : α → β) (a : ArrayVal c α) : ArrayVal c β :=
  ⟨a.items.map f, (congrArg c.Fits (List.length_map f)).mpr a.fits⟩

mutual

/-- The value of an object of an element type. -/
def ElementType.load (h : Memory) : (e : ElementType) → e.Obj → e.Val
  | .scalar _, o => o
  | .composite _ _ ms, o => ms.load h o

/-- The value of an object. -/
def ObjectType.load (h : Memory) : (t : ObjectType) → t.Obj → t.Val
  | .element e, o => e.load h o
  | .array _ n e, o => o.map (n.view (e.load h) fun a => e.load h (h (.element e, a)))

/-- The values of the members of an object. -/
def MemberTypes.load (h : Memory) : (ms : MemberTypes) → ms.Obj → ms.Val
  | .nil, _ => ()
  | .cons n t ms, o => (n.view (t.load h) (fun a => t.load h (h (t, a))) o.1, ms.load h o.2)

end

/-- A nullable that refers to an object of its own. -/
def Nullability.owned {α β : Type} (f : α → β) : (n : Nullability) → n.Val α → n.Obj β
  | .plain, v => f v
  | .nullable, none => .null
  | .nullable, some v => .own (f v)

mutual

/-- An object of an element type in which nothing is shared. -/
def ElementType.owned : (e : ElementType) → e.Val → e.Obj
  | .scalar _, v => v
  | .composite _ _ ms, v => ms.owned v

/-- An object in which nothing is shared. -/
def ObjectType.owned : (t : ObjectType) → t.Val → t.Obj
  | .element e, v => e.owned v
  | .array _ n e, v => v.map (n.owned e.owned)

/-- Members in which nothing is shared. -/
def MemberTypes.owned : (ms : MemberTypes) → ms.Val → ms.Obj
  | .nil, _ => ()
  | .cons n t ms, v => (n.owned t.owned v.1, ms.owned v.2)

end

/-! ## Decoders

The same functions as in `Io.Recv`, where an assignment through a pointer changes the memory. -/

/-- Decoding from an input stream into memory. -/
abbrev RecvAt := Decoder (Istream × Memory) Exception

/-- A decoder that does not touch the memory; `f` makes an object of its result. -/
def inMemory {α β : Type} (f : α → β) (p : Recv α) : RecvAt β := fun s =>
  (p s.1).map fun r => (f r.1, (r.2, s.2))

/-- `unwrap` of a pointer, for reading. -/
def deref (t : ObjectType) (a : Nat) : RecvAt t.Obj := fun s => .ok (s.2 (t, a), s)

/-- The object a pointer points to is as it has been received. -/
def assign (t : ObjectType) (a : Nat) (o : t.Obj) : RecvAt Unit := fun s =>
  .ok ((), (s.1, Function.update s.2 (t, a) o))

/-- `detail::recv`. -/
def recvAt {t : ObjectType} (typeOid : Oid) (fresh : t.Obj)
    (recvImpl : SizeType → t.Obj → RecvAt t.Obj) :
    (n : Nullability) → Option Oid → SizeType → n.Obj t.Obj → RecvAt (n.Obj t.Obj)
  | .plain, oid, size, out => do
    inMemory id (checkOid typeOid oid)
    if size = nullStateSize then throw .unexpectedNull else recvImpl size out
  | .nullable, oid, size, out =>
    if size = nullStateSize then
      -- the pointer is reset, the object it pointed to is left to the others
      pure .null
    else do
      inMemory id (checkOid typeOid oid)
      match out with
      | .null => .own <$> recvImpl size fresh
      | .own o => .own <$> recvImpl size o
      | .shared a => do
        let o ← recvImpl size (← deref t a)
        assign t a o
        return .shared a

/-- `detail::recv_data_frame`. -/
def recvDataFrameAt {t : ObjectType} (typeOid : Oid) (fresh : t.Obj)
    (recvImpl : SizeType → t.Obj → RecvAt t.Obj) (n : Nullability) (oid : Option Oid)
    (out : n.Obj t.Obj) : RecvAt (n.Obj t.Obj) := do
  let size ← inMemory id (read (readIntegral SizeType))
  recvAt typeOid fresh recvImpl n oid size out

/-- `recv_frame`. -/
def recvFrameAt {t : ObjectType} (typeOid : Oid) (fresh : t.Obj)
    (recvImpl : SizeType → t.Obj → RecvAt t.Obj) (n : Nullability) (out : n.Obj t.Obj) :
    RecvAt (n.Obj t.Obj) := do
  let oid ← inMemory id (read (readIntegral Oid))
  recvDataFrameAt typeOid fresh recvImpl n (some oid) out

/-- `recv_array_impl::apply`. -/
def recvArrayImplAt {α : Type} {c : Container} (elemOid : Oid) (fresh : α)
    (recvItem : α → RecvAt α) (out : ArrayVal c α) : RecvAt (ArrayVal c α) := do
  let header ← inMemory id (read readPgArray)
  if header.dimensionsCount > 1 then
    throw (.badArrayDimension header.dimensionsCount)
  else if elemOid ≠ header.elemtype then
    throw (.oidTypeMismatch header.elemtype)
  else if header.dimensionsCount < 1 then
    pure out
  else do
    let dim ← inMemory id (read readPgArrayDimension)
    if dim.size = 0 then pure out else recvElements fresh recvItem out dim.size

mutual

/-- `recv_impl::apply` for an element type. -/
def ElementType.recvImplAt (cs : Constructors) (m : OidMap) :
    (e : ElementType) → SizeType → e.Obj → RecvAt e.Obj
  | .scalar s, size, _ => inMemory id (s.recvImpl size)
  | .composite _ _ ms, _, out => do
    inMemory id (readAndVerifyHeader (Int32.ofNat ms.fieldsNumber))
    ms.recvFramesAt cs m out

/-- `recv_impl::apply` for an unwrapped type. -/
def ObjectType.recvImplAt (cs : Constructors) (m : OidMap) :
    (t : ObjectType) → SizeType → t.Obj → RecvAt t.Obj
  | .element e, size, out => e.recvImplAt cs m size out
  | .array _ n e, _, out =>
    recvArrayImplAt (e.typeOid m) (n.owned e.owned (n.default (e.default cs)))
      (recvDataFrameAt (t := .element e) (e.typeOid m) (e.owned (e.default cs))
        (e.recvImplAt cs m) n none) out

/-- The frames of the members of a composite, in order. -/
def MemberTypes.recvFramesAt (cs : Constructors) (m : OidMap) :
    (ms : MemberTypes) → ms.Obj → RecvAt ms.Obj
  | .nil, _ => pure ()
  | .cons n t ms, out => do
    let o ← recvFrameAt (t.typeOid m) (t.owned (t.default cs)) (t.recvImplAt cs m) n out.1
    let os ← ms.recvFramesAt cs m out.2
    return (o, os)

end

/-! ## Nothing shared

An object without addresses is as good as its value. Each decoder on objects is then the one on
values, by the same recursion on the type. -/

section InMemory

variable {α β γ δ : Type}

theorem inMemory_pure (f : α → β) (a : α) : inMemory f (pure a) = pure (f a) := rfl

theorem inMemory_throw (f : α → β) (e : Exception) : inMemory f (throw e) = throw e := rfl

/-- The decoders on values are a part of those on objects, as a monad. -/
theorem inMemory_bind (f : β → γ) (p : Recv α) (q : α → Recv β) :
    inMemory f (p >>= q) = inMemory id p >>= fun a => inMemory f (q a) := by
  funext s
  show ((p s.1 >>= fun r => q r.1 r.2).map _ : Except Exception _)
    = (inMemory id p s >>= fun r => inMemory f (q r.1) r.2)
  simp only [inMemory]
  cases p s.1 <;> rfl

/-- The object of the result may be made later. -/
theorem inMemory_then (f : α → β) (p : Recv α) (k : β → RecvAt γ) :
    inMemory f p >>= k = inMemory id p >>= fun a => k (f a) := by
  funext s
  show (inMemory f p s >>= fun r => k r.1 r.2 : Except Exception _)
    = (inMemory id p s >>= fun r => k (f r.1) r.2)
  simp only [inMemory]
  cases p s.1 <;> rfl

theorem inMemory_map (f : β → γ) (g : α → β) (h : δ → γ) (k : α → δ) (p : Recv α)
    (hfg : ∀ a, f (g a) = h (k a)) : inMemory f (g <$> p) = h <$> inMemory k p := by
  funext s
  show ((p s.1 >>= fun r => Pure.pure (g r.1, r.2)).map _ : Except Exception _)
    = (inMemory k p s >>= fun r => Pure.pure (h r.1, r.2))
  simp only [inMemory]
  cases p s.1 with
  | error e => rfl
  | ok r => exact congrArg (fun x => Except.ok (x, (r.2, s.2))) (hfg r.1)

end InMemory

section Owned

variable {t : ObjectType} {fresh : t.Val} {recvImpl : SizeType → t.Val → Recv t.Val}
  {recvImplAt : SizeType → t.Obj → RecvAt t.Obj}

/-- An owned object is received into as a value is. -/
theorem recvAt_owned
    (himpl : ∀ size v, recvImplAt size (t.owned v) = inMemory t.owned (recvImpl size v))
    (typeOid : Oid) (n : Nullability) (oid : Option Oid) (size : SizeType) (out : n.Val t.Val) :
    recvAt typeOid (t.owned fresh) recvImplAt n oid size (n.owned t.owned out)
      = inMemory (n.owned t.owned) (recv typeOid fresh recvImpl n oid size out) := by
  match n, out with
  | .plain, out =>
      rw [recv, inMemory_bind, recvAt]
      refine congrArg _ (funext fun _ => ?_)
      show (if size = nullStateSize then _ else recvImplAt size (t.owned out)) = _
      rw [himpl]
      split <;> rfl
  -- a null pointer is given a new object, which is its own
  | .nullable, none =>
      rw [recv]
      show (if size = nullStateSize then _ else _ : RecvAt (Held t.Obj)) = _
      split
      · rfl
      · rw [inMemory_bind]
        refine congrArg _ (funext fun _ => ?_)
        show Held.own <$> recvImplAt size (t.owned fresh) = _
        rw [himpl]
        exact (inMemory_map (Nullability.owned t.owned .nullable) some .own t.owned _
          fun _ => rfl).symm
  | .nullable, some out =>
      rw [recv]
      show (if size = nullStateSize then _ else _ : RecvAt (Held t.Obj)) = _
      split
      · rfl
      · rw [inMemory_bind]
        refine congrArg _ (funext fun _ => ?_)
        show Held.own <$> recvImplAt size (t.owned out) = _
        rw [himpl]
        exact (inMemory_map (Nullability.owned t.owned .nullable) some .own t.owned _
          fun _ => rfl).symm

theorem recvDataFrameAt_owned
    (himpl : ∀ size v, recvImplAt size (t.owned v) = inMemory t.owned (recvImpl size v))
    (typeOid : Oid) (n : Nullability) (oid : Option Oid) (out : n.Val t.Val) :
    recvDataFrameAt typeOid (t.owned fresh) recvImplAt n oid (n.owned t.owned out)
      = inMemory (n.owned t.owned) (recvDataFrame typeOid fresh recvImpl n oid out) := by
  rw [recvDataFrame, inMemory_bind]
  exact congrArg _ (funext fun size => recvAt_owned himpl typeOid n oid size out)

theorem recvFrameAt_owned
    (himpl : ∀ size v, recvImplAt size (t.owned v) = inMemory t.owned (recvImpl size v))
    (typeOid : Oid) (n : Nullability) (out : n.Val t.Val) :
    recvFrameAt typeOid (t.owned fresh) recvImplAt n (n.owned t.owned out)
      = inMemory (n.owned t.owned) (recvFrame typeOid fresh recvImpl n out) := by
  rw [recvFrame, inMemory_bind]
  exact congrArg _ (funext fun oid => recvDataFrameAt_owned himpl typeOid n (some oid) out)

end Owned

section Arrays

variable {α β : Type} {c : Container} {f : α → β} {recvItem : α → Recv α}
  {recvItemAt : β → RecvAt β}

/-- Element by element. -/
theorem recvItems_map (hitem : ∀ v, recvItemAt (f v) = inMemory f (recvItem v)) (out : List α) :
    recvItems recvItemAt (out.map f) =
      inMemory (fun items => ⟨items.1.map f, by rw [List.length_map, List.length_map, items.2]⟩)
        (recvItems recvItem out) := by
  induction out with
  | nil => rfl
  | cons v out ih =>
      show recvItemAt (f v) >>= (fun item => recvItems recvItemAt (out.map f) >>= _) = _
      rw [hitem, ih, recvItems, inMemory_bind, inMemory_then]
      refine congrArg _ (funext fun item => ?_)
      rw [inMemory_bind, inMemory_then]
      rfl

theorem resize_map (fresh : α) (count : Nat) (items : List α) :
    resize (f fresh) count (items.map f) = (resize fresh count items).map f := by
  simp [resize, List.map_take]

theorem fitArraySize_map (fresh : α) (count : SizeType) (out : ArrayVal c α) :
    fitArraySize (f fresh) count (out.map f)
      = inMemory (ArrayVal.map f) (fitArraySize fresh count out) := by
  cases c with
  | vector | list =>
      simp only [fitArraySize]
      split
      · rfl
      · rw [inMemory_pure]
        exact congrArg pure (ArrayVal.ext_items (resize_map (f := f) fresh _ out.items))
  | array size =>
      simp only [fitArraySize]
      split <;> rfl

theorem recvElements_map (hitem : ∀ v, recvItemAt (f v) = inMemory f (recvItem v)) (fresh : α)
    (out : ArrayVal c α) (count : SizeType) :
    recvElements (f fresh) recvItemAt (out.map f) count
      = inMemory (ArrayVal.map f) (recvElements fresh recvItem out count) := by
  rw [recvElements, fitArraySize_map, recvElements, inMemory_bind, inMemory_then]
  refine congrArg _ (funext fun out' => ?_)
  show recvItems recvItemAt (out'.items.map f) >>= _ = _
  rw [inMemory_bind, recvItems_map hitem]
  exact inMemory_then _ _ _

/-- The header is read from the stream, in whatever the elements live. -/
theorem recvArrayImplAt_map (hitem : ∀ v, recvItemAt (f v) = inMemory f (recvItem v))
    (elemOid : Oid) (fresh : α) (out : ArrayVal c α) :
    recvArrayImplAt elemOid (f fresh) recvItemAt (out.map f)
      = inMemory (ArrayVal.map f) (recvArrayImpl elemOid fresh recvItem out) := by
  rw [recvArrayImplAt, recvArrayImpl, inMemory_bind]
  refine congrArg _ (funext fun header => ?_)
  simp only [apply_ite (inMemory (ArrayVal.map f)), inMemory_throw, inMemory_pure, inMemory_bind]
  simp only [recvElements_map hitem]

end Arrays

mutual

/-- By recursion on the type, together with the two below. -/
theorem ElementType.recvImplAt_owned (cs : Constructors) (m : OidMap) :
    (e : ElementType) → (size : SizeType) → (out : e.Val) →
    e.recvImplAt cs m size (e.owned out) = inMemory e.owned (e.recvImpl cs m size out)
  | .scalar _, _, _ => rfl
  | .composite _ _ ms, _, out => by
    rw [ElementType.recvImpl, inMemory_bind, ElementType.recvImplAt]
    exact congrArg _ (funext fun _ => MemberTypes.recvFramesAt_owned cs m ms out)

/-- Where every object is referred to once, the decoders are those on values, and the memory stays
as it is. -/
theorem ObjectType.recvImplAt_owned (cs : Constructors) (m : OidMap) :
    (t : ObjectType) → (size : SizeType) → (out : t.Val) →
    t.recvImplAt cs m size (t.owned out) = inMemory t.owned (t.recvImpl cs m size out)
  | .element e, size, out => ElementType.recvImplAt_owned cs m e size out
  | .array _ n e, _, out =>
    recvArrayImplAt_map (recvDataFrameAt_owned (t := .element e)
      (ElementType.recvImplAt_owned cs m e) (e.typeOid m) n none) _ _ out

theorem MemberTypes.recvFramesAt_owned (cs : Constructors) (m : OidMap) :
    (ms : MemberTypes) → (out : ms.Val) →
    ms.recvFramesAt cs m (ms.owned out) = inMemory ms.owned (ms.recvFrames cs m out)
  | .nil, _ => rfl
  | .cons n t ms, out => by
    show recvFrameAt (t.typeOid m) (t.owned (t.default cs)) (t.recvImplAt cs m) n
      (n.owned t.owned out.1) >>= (fun o => ms.recvFramesAt cs m (ms.owned out.2) >>= _) = _
    rw [recvFrameAt_owned (ObjectType.recvImplAt_owned cs m t), MemberTypes.recvFrames,
      inMemory_bind, inMemory_then]
    refine congrArg _ (funext fun v => ?_)
    rw [MemberTypes.recvFramesAt_owned cs m ms out.2, inMemory_bind, inMemory_then]
    rfl

end

end OzoPg
