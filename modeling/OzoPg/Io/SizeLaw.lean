import OzoPg.Io.Send
import OzoPg.Types.Parts
import Mathlib.Algebra.Order.BigOperators.Group.List
import Mathlib.Algebra.Order.Ring.Nat
import Mathlib.Data.Nat.ModEq

/-!
# Announced sizes and written bytes

`size_of`, `data_frame_size` and `frame_size` announce how many bytes `send`,
`send_data_frame` and `send_frame` append. They agree except in one place: the size of an array
of fixed-size elements is the first frame times the number of elements, also when the elements
are nullable and some of them are null.

* `SizeLaw` — the agreement for one object.
* `ObjectType.Balanced` — the null patterns the constant-time path counts correctly.
* `sizeLaw_iff_balanced` — the law holds of an object and of everything inside it exactly when
  every array inside is balanced and the frame of the object fits `size_type`.
-/

namespace OzoPg

/-! ## The law -/

/-- The announced sizes of an object are the numbers of bytes written. -/
structure SizeLaw (m : OidMap) (n : Nullability) (t : ObjectType) (v : n.Val t.Val) : Prop where
  object : isNull n v = false →
    ((send (t.sendImpl m) n v).length : Int) = (sizeOf t.sizeOfImpl n v).toInt
  dataFrame : ((sendDataFrame t.sizeOfImpl (t.sendImpl m) n v).length : Int)
    = (dataFrameSize t.sizeOfImpl n v).toInt
  frame : ((sendFrame (t.typeOid m) t.sizeOfImpl (t.sendImpl m) n v).length : Int)
    = (frameSize t.sizeOfImpl n v).toInt

/-- The frames of `items`, elements of `s` bytes, add up to the first frame times their number
modulo `2 ^ 32`: nothing is lost to elements that differ from the first in being null. -/
def NullsCancel {α : Type} (s : Nat) (n : Nullability) (items : List (n.Val α)) : Prop :=
  match items with
  | [] => True
  | first :: _ => 2 ^ 32 ∣ s * items.countP fun item => isNull n item != isNull n first

/-- The array itself, not what is inside it, is counted correctly. -/
def ObjectType.Balanced : (t : ObjectType) → t.Val → Prop
  | .element _, _ => True
  | .array _ n e, v =>
    match e.staticSize with
    | none => True
    | some s => NullsCancel s n v.items

/-- The null patterns of an object are counted correctly. -/
def NullsBalanced : ObjectProperty := fun n t v => n.All t.Balanced v

/-! ## Sizes as numbers modulo `2 ^ 32` -/

theorem max_ofNat_zero {k : Nat} (h : k < 2 ^ 31) : max (Int32.ofNat k) 0 = Int32.ofNat k := by
  show (if Int32.ofNat k ≤ 0 then 0 else Int32.ofNat k) = Int32.ofNat k
  split
  · next hle => exact Int32.le_antisymm (Int32.zero_le_ofNat_of_lt h) hle
  · rfl

/-- Sizes are numbers modulo `2 ^ 32`. -/
theorem ofNat_eq_ofNat_iff {a b : Nat} : Int32.ofNat a = Int32.ofNat b ↔ a ≡ b [MOD 2 ^ 32] := by
  rw [← Int32.toBitVec_inj, Int32.toBitVec_ofNat', Int32.toBitVec_ofNat', ← BitVec.toNat_inj,
    BitVec.toNat_ofNat, BitVec.toNat_ofNat]
  rfl

theorem eq_ofNat_of_toInt_eq {x : Int32} {k : Nat} (h : (k : Int) = x.toInt) :
    x = Int32.ofNat k := by
  rw [← Int32.ofInt_toInt x, ← h]
  exact Int32.ofInt_eq_ofNat

section Frames

variable {α : Type} {sizeOfImpl : α → SizeType} {sendImpl : α → Bytes}

/-- The size field counts, and a null has nothing else. -/
theorem dataFrameSize_eq {n : Nullability} {v : n.Val α}
    (h : n.All (fun v => sizeOfImpl v = Int32.ofNat (sendImpl v).length) v)
    (hlen : (send sendImpl n v).length < 2 ^ 31) :
    dataFrameSize sizeOfImpl n v = Int32.ofNat (4 + (send sendImpl n v).length) := by
  have hmax : max (sizeOf sizeOfImpl n v) 0 = Int32.ofNat (send sendImpl n v).length := by
    match n, v, h with
    | .plain, v, h => exact (congrArg (max · 0) h).trans (max_ofNat_zero hlen)
    | .nullable, none, _ => rfl
    | .nullable, some v, h => exact (congrArg (max · 0) h).trans (max_ofNat_zero hlen)
  rw [dataFrameSize, hmax, Int32.ofNat_add]
  rfl

/-- The oid counts as well. -/
theorem frameSize_eq {n : Nullability} {v : n.Val α}
    (h : n.All (fun v => sizeOfImpl v = Int32.ofNat (sendImpl v).length) v)
    (hlen : (send sendImpl n v).length < 2 ^ 31) :
    frameSize sizeOfImpl n v = Int32.ofNat (8 + (send sendImpl n v).length) := by
  rw [frameSize, dataFrameSize_eq h hlen, Nat.add_assoc 4 4, Int32.ofNat_add 4 (4 + _)]
  rfl

end Frames

/-- An object whose size is computed correctly obeys the law, if its frame fits. -/
theorem SizeLaw.of_sizeOfImpl {m : OidMap} {n : Nullability} {t : ObjectType} {v : n.Val t.Val}
    (h : n.All (fun v => t.sizeOfImpl v = Int32.ofNat (t.sendImpl m v).length) v)
    (hlen : (send (t.sendImpl m) n v).length + 8 < 2 ^ 31) : SizeLaw m n t v where
  object hnull := by
    have hsize : sizeOf t.sizeOfImpl n v = Int32.ofNat (send (t.sendImpl m) n v).length := by
      match n, v, h, hnull with
      | .plain, v, h, _ => exact h
      | .nullable, some v, h, _ => exact h
    rw [hsize, Int32.toInt_ofNat_of_lt (by omega)]
  dataFrame := by
    rw [dataFrameSize_eq h (by omega), Int32.toInt_ofNat_of_lt (by omega), length_sendDataFrame]
  frame := by
    rw [frameSize_eq h (by omega), Int32.toInt_ofNat_of_lt (by omega), length_sendFrame]

/-! ## Arrays

The size of an array is the size of its first frame times the number of its elements. That is right
if no element differs from the first in being null, or if the differences cancel modulo `2 ^ 32`. -/

theorem length_sendImpl_scalar {s : Scalar} {k : Nat} (h : s.size = some k) (v : s.Val) :
    (s.sendImpl v).length = k := by
  cases s <;> cases h <;> first | rfl | exact Uuid.size_eq v

/-- Scalars announce what they write. -/
theorem sizeOfImpl_scalar (s : Scalar) (v : s.Val) :
    s.sizeOfImpl v = Int32.ofNat (s.sendImpl v).length := by
  cases s <;> first | rfl | exact congrArg Int32.ofNat (Uuid.size_eq v).symm

theorem size_le_sixteen {s : Scalar} {k : Nat} (h : s.size = some k) : k ≤ 16 := by
  cases s <;> cases h <;> decide

section Fixed

variable {e : ElementType} {s : Nat} (m : OidMap)

/-- Elements of a fixed-size type all take that many bytes, unless null. -/
theorem length_send_of_staticSize (h : e.staticSize = some s) (n : Nullability)
    (item : n.Val e.Val) :
    (send (e.sendImpl m) n item).length = if isNull n item then 0 else s := by
  cases e with
  | composite => cases h
  | scalar sc =>
      match n, item with
      | .plain, v => exact length_sendImpl_scalar h v
      | .nullable, none => rfl
      | .nullable, some v => exact length_sendImpl_scalar h v

/-- The frame of one element of a fixed-size type is computed correctly. -/
theorem dataFrameSize_of_staticSize (h : e.staticSize = some s) (n : Nullability)
    (item : n.Val e.Val) :
    dataFrameSize e.sizeOfImpl n item
      = Int32.ofNat (4 + (send (e.sendImpl m) n item).length) := by
  have hlen := length_send_of_staticSize m h n item
  cases e with
  | composite => cases h
  | scalar sc =>
      have hle : s ≤ 16 := size_le_sixteen h
      apply dataFrameSize_eq
      · match n, item with
        | .plain, v => exact sizeOfImpl_scalar sc v
        | .nullable, none => trivial
        | .nullable, some v => exact sizeOfImpl_scalar sc v
      · rw [hlen]
        split <;> omega

/-- The bytes of fixed-size elements: a header each, and a payload unless null. -/
theorem sum_frames_of_staticSize (h : e.staticSize = some s) (n : Nullability)
    (items : List (n.Val e.Val)) :
    (items.map fun item => 4 + (send (e.sendImpl m) n item).length).sum
      = 4 * items.length + s * items.countP fun item => !isNull n item := by
  induction items with
  | nil => rfl
  | cons item items ih =>
      rw [List.map_cons, List.sum_cons, ih, length_send_of_staticSize m h, List.countP_cons,
        List.length_cons]
      cases isNull n item
      · simp only [Bool.false_eq_true, if_false, Bool.not_false, if_true, Nat.mul_succ]
        omega
      · simp only [if_true, Bool.not_true, Bool.false_eq_true, if_false, Nat.add_zero]
        omega

/-- The constant-time path is right exactly when the nulls cancel. -/
theorem arrayDataSize_eq_iff (h : e.staticSize = some s) (n : Nullability)
    (items : List (n.Val e.Val)) :
    arrayDataSize (some s) (dataFrameSize e.sizeOfImpl n) items
      = Int32.ofNat (items.map fun item => 4 + (send (e.sendImpl m) n item).length).sum ↔
    NullsCancel s n items := by
  cases items with
  | nil => exact ⟨fun _ => trivial, fun _ => rfl⟩
  | cons first items =>
      show dataFrameSize e.sizeOfImpl n first * Int32.ofNat (first :: items).length = _ ↔
        2 ^ 32 ∣ s * (first :: items).countP fun item => isNull n item != isNull n first
      rw [dataFrameSize_of_staticSize m h, ← Int32.ofNat_mul, sum_frames_of_staticSize m h,
        ofNat_eq_ofNat_iff, length_send_of_staticSize m h]
      generalize first :: items = all
      cases isNull n first
      · -- every null is counted as a full frame
        have hsplit : all.length = all.countP (fun item => !isNull n item)
            + all.countP (fun item => isNull n item != false) := by
          rw [List.length_eq_countP_add_countP fun item => !isNull n item]
          simp
        have hsum : (4 + s) * all.length = 4 * all.length
            + s * all.countP (fun item => !isNull n item)
            + s * all.countP (fun item => isNull n item != false) := by
          rw [Nat.add_mul, Nat.add_assoc, ← Nat.mul_add, ← hsplit]
        rw [if_neg Bool.false_ne_true, hsum]
        exact Nat.add_modEq_left_iff
      · -- every frame is counted as that of a null
        rw [if_pos rfl, Nat.ModEq.comm]
        simp

end Fixed

/-- The generic path adds up the frames. -/
theorem foldl_frames {α : Type} {frame : α → SizeType} {len : α → Nat} {items : List α}
    (h : ∀ item ∈ items, frame item = Int32.ofNat (len item)) (k : Nat) :
    items.foldl (fun r item => r + frame item) (Int32.ofNat k)
      = Int32.ofNat (k + (items.map len).sum) := by
  induction items generalizing k with
  | nil => rfl
  | cons item items ih =>
      rw [List.foldl_cons, h item List.mem_cons_self, ← Int32.ofNat_add,
        ih (fun i hi => h i (List.mem_cons_of_mem item hi)), List.map_cons, List.sum_cons,
        Nat.add_assoc]

/-- The bytes of an array: both headers and the frames of the elements. -/
theorem length_sendImpl_array (m : OidMap) (c : Container) (n : Nullability) (e : ElementType)
    (v : (ObjectType.array c n e).Val) :
    ((ObjectType.array c n e).sendImpl m v).length
      = 20 + (v.items.map fun item => 4 + (send (e.sendImpl m) n item).length).sum := by
  show (writePgArray 1 0 (e.typeOid m) ++ writePgArrayDimension (Int32.ofNat v.items.length) 0
    ++ v.items.flatMap (sendDataFrame e.sizeOfImpl (e.sendImpl m) n)).length = _
  rw [List.length_append, List.length_append, List.length_flatMap]
  simp only [length_sendDataFrame]
  rfl

/-- The frame of an element is a part of what the array writes. -/
theorem frame_le_sum (m : OidMap) {n : Nullability} {e : ElementType} {items : List (n.Val e.Val)}
    {item : n.Val e.Val} (hmem : item ∈ items) :
    4 + (send (e.sendImpl m) n item).length
      ≤ (items.map fun item => 4 + (send (e.sendImpl m) n item).length).sum := by
  apply List.single_le_sum
  · intro k _
    exact Nat.zero_le k
  · exact List.mem_map_of_mem hmem

/-- The size of an array is the sum of its parts exactly when it is balanced, given that the
frames of its elements are computed correctly. -/
theorem sizeOfImpl_array_iff (m : OidMap) (c : Container) (n : Nullability) (e : ElementType)
    (v : (ObjectType.array c n e).Val)
    (hitems : ∀ item ∈ v.items, dataFrameSize e.sizeOfImpl n item
      = Int32.ofNat (4 + (send (e.sendImpl m) n item).length)) :
    (ObjectType.array c n e).sizeOfImpl v
      = Int32.ofNat ((ObjectType.array c n e).sendImpl m v).length ↔
    (ObjectType.array c n e).Balanced v := by
  rw [length_sendImpl_array, Int32.ofNat_add]
  show 20 + arrayDataSize e.staticSize (dataFrameSize e.sizeOfImpl n) v.items = 20 + _ ↔
    (match e.staticSize with | none => True | some s => NullsCancel s n v.items)
  rw [Int32.add_right_inj]
  cases hs : e.staticSize with
  | some s => exact arrayDataSize_eq_iff m hs n v.items
  | none =>
      -- both cases of `data_size` are the same sum
      have hfold : arrayDataSize none (dataFrameSize e.sizeOfImpl n) v.items
          = v.items.foldl (fun r item => r + dataFrameSize e.sizeOfImpl n item) 0 := by
        cases v.items <;> rfl
      rw [hfold]
      refine iff_of_true ?_ trivial
      exact (foldl_frames hitems 0).trans (by rw [Nat.zero_add])

/-! ## The whole type grammar

By recursion on the type. The condition on arrays is needed at every level, and at no level more
than that. -/

/-- The bytes of a composite: the field count and the frames of the members. -/
theorem length_sendImpl_composite (m : OidMap) (a : Adaptation) (d : Definition)
    (ms : MemberTypes) (v : (ElementType.composite a d ms).Val) :
    ((ElementType.composite a d ms).sendImpl m v).length = 4 + (ms.sendFrames m v).length := by
  show (writeIntegral (Int32.ofNat ms.fieldsNumber) ++ ms.sendFrames m v).length = _
  rw [List.length_append, length_writeIntegral]
  rfl

theorem length_sendFrames_cons (m : OidMap) (n : Nullability) (t : ObjectType)
    (ms : MemberTypes) (v : (MemberTypes.cons n t ms).Val) :
    ((MemberTypes.cons n t ms).sendFrames m v).length
      = 8 + (send (t.sendImpl m) n v.1).length + (ms.sendFrames m v.2).length := by
  show (sendFrame (t.typeOid m) t.sizeOfImpl (t.sendImpl m) n v.1
    ++ ms.sendFrames m v.2).length = _
  rw [List.length_append, length_sendFrame]

/-- The two orders of addition of `data_size` agree. -/
theorem foldDataSize_eq : (ms : MemberTypes) → (v : ms.Val) → (r : SizeType) →
    ms.foldDataSize v r = r + ms.unpackDataSize v
  | .nil, _, r => (Int32.add_zero r).symm
  | .cons n t ms, v, r => by
    show ms.foldDataSize v.2 (r + frameSize t.sizeOfImpl n v.1)
      = r + (frameSize t.sizeOfImpl n v.1 + ms.unpackDataSize v.2)
    rw [foldDataSize_eq ms v.2, Int32.add_assoc]

/-- Both ways of adding up the members give the same sum. -/
theorem sizeOfImpl_composite (a : Adaptation) (d : Definition) (ms : MemberTypes)
    (v : (ElementType.composite a d ms).Val) :
    (ElementType.composite a d ms).sizeOfImpl v = 4 + ms.unpackDataSize v := by
  cases a with
  | fusion =>
      show 4 + ms.foldDataSize v 0 = _
      rw [foldDataSize_eq, Int32.zero_add]
  | hana => rfl

/-- One wrapped object, given what the recursion says of the unwrapped one. -/
theorem sizeLaw_wrapped {m : OidMap} {n : Nullability} {t : ObjectType} {v : n.Val t.Val}
    (hlen : (send (t.sendImpl m) n v).length + 8 < 2 ^ 31)
    (h : n.All (fun v => (t.sendImpl m v).length + 8 < 2 ^ 31 →
      t.sizeOfImpl v = Int32.ofNat (t.sendImpl m v).length ∧ t.Parts (SizeLaw m) v) v) :
    n.All (fun v => t.sizeOfImpl v = Int32.ofNat (t.sendImpl m v).length) v ∧
      Everywhere (SizeLaw m) n t v := by
  have hsizes : n.All (fun v => t.sizeOfImpl v = Int32.ofNat (t.sendImpl m v).length ∧
      t.Parts (SizeLaw m) v) v := by
    match n, v, h with
    | .plain, v, h => exact h hlen
    | .nullable, none, _ => trivial
    | .nullable, some v, h => exact h hlen
  have hsize := hsizes.imp fun _ h => h.1
  exact ⟨hsize, SizeLaw.of_sizeOfImpl hsize hlen, hsizes.imp fun _ h => h.2⟩

mutual

/-- With balanced nulls all the way down, an element announces what it writes. -/
theorem ElementType.sizes (m : OidMap) : (e : ElementType) → (v : e.Val) →
    e.Parts NullsBalanced v → (e.sendImpl m v).length + 8 < 2 ^ 31 →
    e.sizeOfImpl v = Int32.ofNat (e.sendImpl m v).length ∧ e.Parts (SizeLaw m) v
  | .scalar s, v, _, _ => ⟨sizeOfImpl_scalar s v, trivial⟩
  | .composite a d ms, v, hv, hlen => by
    rw [length_sendImpl_composite] at hlen
    obtain ⟨hsize, hlaw⟩ := MemberTypes.sizes m ms v hv (by omega)
    refine ⟨?_, hlaw⟩
    rw [sizeOfImpl_composite, hsize, length_sendImpl_composite, Int32.ofNat_add]
    rfl

/-- With balanced nulls all the way down, an object announces what it writes. -/
theorem ObjectType.sizes (m : OidMap) : (t : ObjectType) → (v : t.Val) →
    t.Balanced v → t.Parts NullsBalanced v → (t.sendImpl m v).length + 8 < 2 ^ 31 →
    t.sizeOfImpl v = Int32.ofNat (t.sendImpl m v).length ∧ t.Parts (SizeLaw m) v
  | .element e, v, _, hv, hlen => ElementType.sizes m e v hv hlen
  | .array c n e, v, hown, hv, hlen => by
    rw [length_sendImpl_array] at hlen
    have hitem : ∀ item ∈ v.items,
        n.All (fun v => e.sizeOfImpl v = Int32.ofNat (e.sendImpl m v).length) item ∧
          (send (e.sendImpl m) n item).length < 2 ^ 31 ∧
          Everywhere (SizeLaw m) n (.element e) item := by
      intro item hmem
      -- an array that fits has elements that fit
      have hle := frame_le_sum m hmem
      obtain ⟨hsize, hlaw⟩ := sizeLaw_wrapped (m := m) (t := .element e) (v := item)
        (show (send (e.sendImpl m) n item).length + 8 < 2 ^ 31 by omega)
        ((hv item hmem).2.imp fun v => ElementType.sizes m e v)
      exact ⟨hsize, by omega, hlaw⟩
    constructor
    · apply (sizeOfImpl_array_iff m c n e v ?_).mpr hown
      intro item hmem
      obtain ⟨hsize, hfits, -⟩ := hitem item hmem
      exact dataFrameSize_eq hsize hfits
    · intro item hmem
      exact (hitem item hmem).2.2

/-- With balanced nulls all the way down, the members announce what they write. -/
theorem MemberTypes.sizes (m : OidMap) : (ms : MemberTypes) → (v : ms.Val) →
    ms.Everywhere NullsBalanced v → (ms.sendFrames m v).length + 8 < 2 ^ 31 →
    ms.unpackDataSize v = Int32.ofNat (ms.sendFrames m v).length ∧ ms.Everywhere (SizeLaw m) v
  | .nil, _, _, _ => ⟨rfl, trivial⟩
  | .cons n t ms, v, hv, hlen => by
    rw [length_sendFrames_cons] at hlen
    obtain ⟨hsize, hlaw⟩ := sizeLaw_wrapped (m := m) (t := t) (v := v.1) (by omega)
      (hv.1.1.and hv.1.2 |>.imp fun v h => ObjectType.sizes m t v h.1 h.2)
    obtain ⟨hsizes, hlaws⟩ := MemberTypes.sizes m ms v.2 hv.2 (by omega)
    refine ⟨?_, hlaw, hlaws⟩
    show frameSize t.sizeOfImpl n v.1 + ms.unpackDataSize v.2 = _
    rw [hsizes, frameSize_eq hsize (by omega), length_sendFrames_cons, Int32.ofNat_add (8 + _)]

end

/-- A right size leaves no room for a wrong count of nulls. -/
theorem balanced_of_sizeOfImpl {m : OidMap} (t : ObjectType) (v : t.Val)
    (h : t.sizeOfImpl v = Int32.ofNat (t.sendImpl m v).length) : t.Balanced v := by
  cases t with
  | element e => trivial
  | array c n e =>
      cases hs : e.staticSize with
      | none =>
          show match e.staticSize with | none => True | some s => NullsCancel s n v.items
          rw [hs]
          trivial
      | some s =>
          -- the elements of a fixed-size type need no hypothesis
          apply (sizeOfImpl_array_iff m c n e v ?_).mp h
          intro item _
          exact dataFrameSize_of_staticSize m hs n item

/-- An object that announces what it writes is balanced, whatever is inside it. -/
theorem balanced_of_sizeLaw {m : OidMap} (n : Nullability) (t : ObjectType) (v : n.Val t.Val)
    (h : SizeLaw m n t v) : NullsBalanced n t v := by
  match n, v, h with
  | .plain, v, h => exact balanced_of_sizeOfImpl t v (eq_ofNat_of_toInt_eq (h.object rfl))
  | .nullable, none, _ => trivial
  | .nullable, some v, h =>
      exact balanced_of_sizeOfImpl t v (eq_ofNat_of_toInt_eq (h.object rfl))

theorem everywhere_sizeLaw_of_balanced {m : OidMap} {n : Nullability} {t : ObjectType}
    {v : n.Val t.Val} (hfit : (send (t.sendImpl m) n v).length + 8 < 2 ^ 31)
    (hbal : Everywhere NullsBalanced n t v) : Everywhere (SizeLaw m) n t v :=
  (sizeLaw_wrapped hfit
    (hbal.1.and hbal.2 |>.imp fun v h => ObjectType.sizes m t v h.1 h.2)).2

theorem SizeLaw.frame_fits {m : OidMap} {n : Nullability} {t : ObjectType} {v : n.Val t.Val}
    (h : SizeLaw m n t v) : (send (t.sendImpl m) n v).length + 8 < 2 ^ 31 := by
  have hframe := h.frame
  have hmax := Int32.toInt_lt (frameSize t.sizeOfImpl n v)
  rw [length_sendFrame] at hframe
  omega

/-- An object announces what it writes exactly when its frame fits `size_type` and its nulls are
balanced, as long as those of everything inside it are; and an object and everything inside it
announce what they write exactly when the frame fits and all nulls are balanced. -/
theorem sizeLaw_iff_balanced (m : OidMap) (n : Nullability) (t : ObjectType) (v : n.Val t.Val) :
    (n.All (t.Parts NullsBalanced) v →
      (SizeLaw m n t v ↔
        (send (t.sendImpl m) n v).length + 8 < 2 ^ 31 ∧ NullsBalanced n t v)) ∧
    (Everywhere (SizeLaw m) n t v ↔
      (send (t.sendImpl m) n v).length + 8 < 2 ^ 31 ∧ Everywhere NullsBalanced n t v) := by
  constructor
  · intro hparts
    constructor
    · intro h
      exact ⟨h.frame_fits, balanced_of_sizeLaw n t v h⟩
    · rintro ⟨hfit, hbal⟩
      exact (everywhere_sizeLaw_of_balanced hfit ⟨hbal, hparts⟩).1
  · constructor
    · intro h
      exact ⟨h.1.frame_fits, h.mono balanced_of_sizeLaw⟩
    · rintro ⟨hfit, hbal⟩
      exact everywhere_sizeLaw_of_balanced hfit hbal

/-- `std::vector<std::optional<std::int32_t>>`. -/
def optionalInts : ObjectType := .array .vector .nullable (.scalar .int4)

/-- A null followed by a number: 28 bytes are announced and 32 are written. -/
theorem sizeOf_null_then_number :
    (send (optionalInts.sendImpl ⟨[]⟩) .plain ⟨[none, some 5], trivial⟩).length = 32 ∧
    sizeOf optionalInts.sizeOfImpl .plain ⟨[none, some 5], trivial⟩ = 28 ∧
    ¬ SizeLaw ⟨[]⟩ .plain optionalInts ⟨[none, some 5], trivial⟩ := by
  refine ⟨by decide, by decide, fun h => ?_⟩
  exact absurd (h.object rfl) (by decide)

/-- Without nulls the array is announced correctly. -/
theorem everywhere_sizeLaw_two_numbers :
    Everywhere (SizeLaw ⟨[]⟩) .plain optionalInts ⟨[some 4, some 5], trivial⟩ := by
  refine (sizeLaw_iff_balanced ⟨[]⟩ .plain optionalInts _).2.mpr ⟨by decide, ?_, ?_⟩
  · exact ⟨0, rfl⟩
  · intro item hmem
    simp only [List.mem_cons, List.not_mem_nil, or_false] at hmem
    rcases hmem with rfl | rfl <;> exact ⟨trivial, trivial⟩

end OzoPg
