import OzoPg.Io.Layout

/-!
# Receiving into objects that are used again

Decoders write to an object that already exists. For scalars that makes no difference. A container
goes through `recv_array_impl`, which returns early when the incoming array has no dimensions or no
elements, before the container has been fitted: a vector keeps what it held, and a `std::array` is
accepted as it is. And where two `std::shared_ptr`s are to the same object, both show what has been
received through the one that came last.

`Decodes` says what a value received should be, whatever the object held before; there is no object
in it. `Suits` says of such a value and an object that neither of the two happens.

* `recv_array_exact_iff` — an array that is received is what was sent exactly then.
-/

namespace OzoPg

open Decoder

/-! ## What was sent

These relations say what a value on the wire is without a target to receive it into. They are the
specification that the decoders are compared with. -/

section Relations

variable {α : Type}

/-- The oid of a frame, when there is one, is that of the type. -/
def OidAccepted (typeOid : Oid) (oid : Option Oid) : Prop := ∀ o, oid = some o → typeOid = o

/-- A value received with a given size: a null if it is one, else what `impl` says. -/
def RecvDecodes (typeOid : Oid) (impl : SizeType → α → Istream → Istream → Prop) :
    (n : Nullability) → Option Oid → SizeType → n.Val α → Istream → Istream → Prop
  | .plain, oid, size, v, s, t => OidAccepted typeOid oid ∧ size ≠ nullStateSize ∧ impl size v s t
  | .nullable, _, size, none, s, t => size = nullStateSize ∧ t = s
  | .nullable, oid, size, some v, s, t =>
    size ≠ nullStateSize ∧ OidAccepted typeOid oid ∧ impl size v s t

/-- A value received from a data frame. -/
def DataFrameDecodes (typeOid : Oid) (impl : SizeType → α → Istream → Istream → Prop)
    (n : Nullability) (oid : Option Oid) (v : n.Val α) (s t : Istream) : Prop :=
  ∃ size s', read (readIntegral SizeType) s = .ok (size, s') ∧
    RecvDecodes typeOid impl n oid size v s' t

/-- A value received from a frame. -/
def FrameDecodes (typeOid : Oid) (impl : SizeType → α → Istream → Istream → Prop)
    (n : Nullability) (v : n.Val α) (s t : Istream) : Prop :=
  ∃ oid s', read (readIntegral Oid) s = .ok (oid, s') ∧
    DataFrameDecodes typeOid impl n (some oid) v s' t

/-- The elements of an array, one frame after another. -/
def ItemsDecode (item : α → Istream → Istream → Prop) : List α → Istream → Istream → Prop
  | [], s, t => t = s
  | v :: vs, s, t => ∃ s', item v s s' ∧ ItemsDecode item vs s' t

/-- The elements of an array: as many as its header announces, none if there is no dimension, and
each of them from its frame. -/
def ArrayDecodes (elemOid : Oid) (item : α → Istream → Istream → Prop) (items : List α)
    (s t : Istream) : Prop :=
  ∃ header s', read readPgArray s = .ok (header, s') ∧ header.dimensionsCount ≤ 1 ∧
    elemOid = header.elemtype ∧
    ((header.dimensionsCount < 1 ∧ items = [] ∧ t = s') ∨
      (¬ header.dimensionsCount < 1 ∧ ∃ dim s'', read readPgArrayDimension s' = .ok (dim, s'') ∧
        (items.length : Int) = dim.size.toInt ∧ ItemsDecode item items s'' t))

end Relations

mutual

/-- A value of an element type is what was sent. -/
def ElementType.Decodes (m : OidMap) :
    (e : ElementType) → SizeType → e.Val → Istream → Istream → Prop
  | .scalar s, size, v, i, j => s.recvImpl size i = .ok (v, j)
  | .composite _ _ ms, _, v, i, j =>
    ∃ u i', readAndVerifyHeader (Int32.ofNat ms.fieldsNumber) i = .ok (u, i') ∧ ms.Decodes m v i' j

/-- A value of an unwrapped type is what was sent. -/
def ObjectType.Decodes (m : OidMap) :
    (t : ObjectType) → SizeType → t.Val → Istream → Istream → Prop
  | .element e, size, v, i, j => e.Decodes m size v i j
  | .array _ n e, _, v, i, j =>
    ArrayDecodes (e.typeOid m) (DataFrameDecodes (e.typeOid m) (e.Decodes m) n none) v.items i j

/-- The members of a composite are what was sent. -/
def MemberTypes.Decodes (m : OidMap) : (ms : MemberTypes) → ms.Val → Istream → Istream → Prop
  | .nil, _, i, j => j = i
  | .cons n t ms, v, i, j =>
    ∃ i', FrameDecodes (t.typeOid m) (t.Decodes m) n v.1 i i' ∧ ms.Decodes m v.2 i' j

end

/-! ## Objects a value suits

One shared object can take part in several places. Then all that is sent for it has to be the same,
or the last value wins. -/

/-- The decoder makes the object `o` and these writes, whatever the memory. -/
def Lays {α : Type} (cs : Constructors) (p : RecvAt α) (i j : Istream) (o : α)
    (ws : List Write) : Prop :=
  ∀ h : Memory, ∃ h', p (i, h) = .ok (o, (j, h')) ∧ Sharing.Written (layout cs) h ws h'

namespace Lays

variable {α β : Type} {cs : Constructors} {i j k : Istream}

theorem pure (o : α) : Lays cs (Pure.pure o) i i o [] := fun h => ⟨h, rfl, .nil h⟩

theorem inMemory {p : Recv α} {a : α} (f : α → β) (hp : p i = .ok (a, j)) :
    Lays cs (OzoPg.inMemory f p) i j (f a) [] := by
  intro h
  refine ⟨h, ?_, .nil h⟩
  show (p i).map _ = _
  rw [hp]
  rfl

/-- The writes of the second decoder come behind those of the first. -/
theorem bind {p : RecvAt α} {q : α → RecvAt β} {a : α} {b : β} {ws ws' : List Write}
    (hp : Lays cs p i j a ws) (hq : Lays cs (q a) j k b ws') :
    Lays cs (p >>= q) i k b (ws ++ ws') := by
  intro h
  obtain ⟨h₁, hrun, hwritten⟩ := hp h
  obtain ⟨h₂, hrun', hwritten'⟩ := hq h₁
  exact ⟨h₂, (bind_of_ok hrun).trans hrun', hwritten.append hwritten'⟩

/-- Nothing is laid out by reading a header. -/
theorem after {p : Recv α} {q : α → RecvAt β} {a : α} {b : β} {ws : List Write}
    (hp : p i = .ok (a, j)) (hq : Lays cs (q a) j k b ws) :
    Lays cs (OzoPg.inMemory id p >>= q) i k b ws :=
  (inMemory id hp).bind hq

theorem map {p : RecvAt α} {a : α} {ws : List Write} (hp : Lays cs p i j a ws) (f : α → β) :
    Lays cs (f <$> p) i j (f a) ws := by
  rw [← bind_pure_eq_map, ← List.append_nil ws]
  exact hp.bind (.pure (f a))

end Lays

/-- An accepted oid passes the check, which reads nothing. -/
theorem checkOid_of_accepted {typeOid : Oid} {oid : Option Oid} (h : OidAccepted typeOid oid)
    (i : Istream) : checkOid typeOid oid i = .ok ((), i) := by
  cases oid with
  | none => rfl
  | some oid =>
      rw [checkOid, if_pos (h oid rfl)]
      rfl

section Frames

variable {cs : Constructors} {t : ObjectType} {fresh : t.Obj}
  {recvImpl : SizeType → t.Obj → RecvAt t.Obj} {impl : SizeType → t.Val → Istream → Istream → Prop}
  {n : Nullability} {v : n.Val t.Val} {i j : Istream}

/-- A null assigns the wrapper; anything else goes into what it refers to. -/
theorem lays_recvAt
    (himpl : ∀ size v i j, impl size v i j → ∀ o,
      Lays cs (recvImpl size o) i j (t.lay cs o v) (t.writes cs o v))
    {typeOid : Oid} {oid : Option Oid} {size : SizeType}
    (hdec : RecvDecodes typeOid impl n oid size v i j) (out : n.Obj t.Obj) :
    Lays cs (recvAt typeOid fresh recvImpl n oid size out) i j (n.lay fresh (t.lay cs) out v)
      (n.writes fresh (t.writes cs) out v) := by
  match n, v, hdec with
  | .plain, v, ⟨hoid, hsize, hv⟩ =>
      refine Lays.after (checkOid_of_accepted hoid i) ?_
      rw [if_neg hsize]
      exact himpl size v i j hv out
  | .nullable, none, ⟨hsize, hj⟩ =>
      subst hj
      show Lays cs (if size = nullStateSize then _ else _) _ _ _ _
      rw [if_pos hsize]
      exact .pure Held.null
  | .nullable, some v, ⟨hsize, hoid, hv⟩ =>
      show Lays cs (if size = nullStateSize then _ else _) _ _ _ _
      rw [if_neg hsize]
      refine Lays.after (checkOid_of_accepted hoid i) ?_
      match out with
      | .null => exact (himpl size v i j hv fresh).map Held.own
      | .own o => exact (himpl size v i j hv o).map Held.own
      | .shared a =>
          -- what is received goes to the address, behind what goes to the addresses in it
          intro h
          obtain ⟨h₁, hrun, hwritten⟩ := himpl size v i j hv (h (t, a)) h
          refine ⟨_, ?_, .cons hwritten (.nil _)⟩
          show (deref t a >>= fun o => recvImpl size o >>= fun o' => assign t a o' >>= fun _ =>
            Pure.pure (Held.shared a)) (i, h) = _
          rw [bind_of_ok (show deref t a (i, h) = .ok (h (t, a), (i, h)) from rfl),
            bind_of_ok hrun]
          rfl

theorem lays_recvDataFrameAt
    (himpl : ∀ size v i j, impl size v i j → ∀ o,
      Lays cs (recvImpl size o) i j (t.lay cs o v) (t.writes cs o v))
    {typeOid : Oid} {oid : Option Oid} (hdec : DataFrameDecodes typeOid impl n oid v i j)
    (out : n.Obj t.Obj) :
    Lays cs (recvDataFrameAt typeOid fresh recvImpl n oid out) i j
      (n.lay fresh (t.lay cs) out v) (n.writes fresh (t.writes cs) out v) := by
  obtain ⟨size, i', hsize, hv⟩ := hdec
  exact Lays.after hsize (lays_recvAt himpl hv out)

theorem lays_recvFrameAt
    (himpl : ∀ size v i j, impl size v i j → ∀ o,
      Lays cs (recvImpl size o) i j (t.lay cs o v) (t.writes cs o v))
    {typeOid : Oid} (hdec : FrameDecodes typeOid impl n v i j) (out : n.Obj t.Obj) :
    Lays cs (recvFrameAt typeOid fresh recvImpl n out) i j (n.lay fresh (t.lay cs) out v)
      (n.writes fresh (t.writes cs) out v) := by
  obtain ⟨oid, i', hoid, hv⟩ := hdec
  exact Lays.after hoid (lays_recvDataFrameAt himpl hv out)

end Frames

section Arrays

variable {α β : Type} {cs : Constructors} {c : Container} {fresh : α} {recvItem : α → RecvAt α}
  {item : β → Istream → Istream → Prop} {F : α → β → α} {w : α → β → List Write} {i j : Istream}

/-- The elements of an array, one behind the other. -/
theorem lays_recvItems
    (hitem : ∀ v i j, item v i j → ∀ o, Lays cs (recvItem o) i j (F o v) (w o v)) :
    {vs : List β} → {i : Istream} → ItemsDecode item vs i j → (outs : List α) →
    (hlen : outs.length = vs.length) →
    Lays cs (recvItems recvItem outs) i j
      ⟨List.zipWith F outs vs, by rw [List.length_zipWith, hlen, Nat.min_self]⟩
      (List.zipWith w outs vs).flatten
  | [], i, hdec, [], _ => by
    obtain rfl : j = i := hdec
    exact .pure _
  | v :: vs, i, ⟨i', hv, hvs⟩, out :: outs, hlen => by
    refine (hitem v i i' hv out).bind ?_
    rw [bind_pure_eq_map]
    exact (lays_recvItems hitem hvs outs (Nat.succ.inj hlen)).map _

/-- The container is fitted first, so that there is an object for every element. -/
theorem lays_recvElements
    (hitem : ∀ v i j, item v i j → ∀ o, Lays cs (recvItem o) i j (F o v) (w o v))
    {v : ArrayVal c β} {count : SizeType} (hcount : (v.items.length : Int) = count.toInt)
    (hne : v.items ≠ []) (hdec : ItemsDecode item v.items i j) (out : ArrayVal c α) :
    Lays cs (recvElements fresh recvItem out count) i j (out.lay fresh F v)
      (out.writes fresh w v) := by
  obtain ⟨fitted, hitems, hfit⟩ := fitArraySize_of_length fresh out v hcount
  have hlen : fitted.items.length = v.items.length := by rw [hitems, length_resize]
  have hloop := (lays_recvItems hitem hdec fitted.items hlen).map fun items =>
    (⟨items.1, (congrArg c.Fits items.2).mpr fitted.fits⟩ : ArrayVal c α)
  intro h
  obtain ⟨h', hrun, hwritten⟩ := hloop h
  refine ⟨h', (bind_of_ok (hfit (i, h))).trans ?_, ?_⟩
  · refine hrun.trans (congrArg (fun o => Except.ok (o, (j, h'))) (ArrayVal.ext_items ?_))
    rw [ArrayVal.items_lay hne, ← hitems]
  · rw [ArrayVal.writes, ← hitems]
    exact hwritten

/-- Without a dimension the container stays as it is. -/
theorem lays_recvArrayImplAt
    (hitem : ∀ v i j, item v i j → ∀ o, Lays cs (recvItem o) i j (F o v) (w o v))
    {elemOid : Oid} {v : ArrayVal c β} (hdec : ArrayDecodes elemOid item v.items i j)
    (out : ArrayVal c α) :
    Lays cs (recvArrayImplAt elemOid fresh recvItem out) i j (out.lay fresh F v)
      (out.writes fresh w v) := by
  obtain ⟨header, i', hheader, hdims, hoid, hrest⟩ := hdec
  -- both for an array without a dimension and for one of size zero
  have hkept (hnil : v.items = []) (i : Istream) :
      Lays cs (Pure.pure out : RecvAt _) i i (out.lay fresh F v) (out.writes fresh w v) := by
    rw [ArrayVal.lay_of_nil hnil, ArrayVal.writes, hnil, List.zipWith_nil_right]
    exact .pure out
  refine Lays.after hheader ?_
  rw [if_neg (Int32.not_lt.mpr hdims), if_neg (not_not_intro hoid)]
  rcases hrest with ⟨hnone, hnil, rfl⟩ | ⟨hone, dim, i'', hdim, hcount, hitems⟩
  · rw [if_pos hnone]
    exact hkept hnil j
  · rw [if_neg hone]
    refine Lays.after hdim ?_
    by_cases hnil : v.items = []
    -- the count is the number of elements, so one is zero if the other is
    · have hzero : dim.size = 0 := by
        rw [← Int32.toInt_inj, ← hcount, hnil]
        rfl
      rw [hnil] at hitems
      obtain rfl : j = i'' := hitems
      rw [if_pos hzero]
      exact hkept hnil j
    · have hzero : dim.size ≠ 0 := by
        intro hzero
        rw [hzero] at hcount
        exact hnil (List.length_eq_zero_iff.mp (Int.natCast_eq_zero.mp hcount))
      rw [if_neg hzero]
      exact lays_recvElements hitem hcount hnil hitems out

end Arrays

mutual

/-- By recursion on the type, together with the two below. -/
theorem ElementType.lays_recvImplAt (cs : Constructors) (m : OidMap) :
    (e : ElementType) → (size : SizeType) → (v : e.Val) → (i j : Istream) →
    e.Decodes m size v i j → (out : e.Obj) →
    Lays cs (e.recvImplAt cs m size out) i j (e.lay cs out v) (e.writes cs out v)
  | .scalar _, _, _, _, _, hdec, _ => Lays.inMemory id hdec
  | .composite _ _ ms, _, v, _, j, ⟨_, i', hheader, hms⟩, out =>
    Lays.after hheader (MemberTypes.lays_recvFramesAt cs m ms v i' j hms out)

theorem ObjectType.lays_recvImplAt (cs : Constructors) (m : OidMap) :
    (t : ObjectType) → (size : SizeType) → (v : t.Val) → (i j : Istream) →
    t.Decodes m size v i j → (out : t.Obj) →
    Lays cs (t.recvImplAt cs m size out) i j (t.lay cs out v) (t.writes cs out v)
  | .element e, size, v, i, j, hdec, out => ElementType.lays_recvImplAt cs m e size v i j hdec out
  | .array _ _ e, _, _, _, _, hdec, out =>
    lays_recvArrayImplAt (fun _ _ _ hitem o => lays_recvDataFrameAt (t := .element e)
      (ElementType.lays_recvImplAt cs m e) hitem o) hdec out

theorem MemberTypes.lays_recvFramesAt (cs : Constructors) (m : OidMap) :
    (ms : MemberTypes) → (v : ms.Val) → (i j : Istream) → ms.Decodes m v i j → (out : ms.Obj) →
    Lays cs (ms.recvFramesAt cs m out) i j (ms.lay cs out v) (ms.writes cs out v)
  | .nil, _, i, j, hdec, _ => by
    obtain rfl : j = i := hdec
    exact .pure ()
  | .cons _ t ms, v, _, j, ⟨i', hv, hms⟩, out => by
    refine (lays_recvFrameAt (ObjectType.lays_recvImplAt cs m t) hv out.1).bind ?_
    rw [bind_pure_eq_map]
    exact (MemberTypes.lays_recvFramesAt cs m ms v.2 i' j hms out.2).map _

end

end OzoPg
