import OzoPg.Io.Truncation

/-!
# Declared sizes and consumed bytes

A frame declares how many bytes its object takes. The decoders of most scalars check the
declared size or read as much as it says. Those of `uuid`, time points, intervals, arrays and
composites do not look at it: they read what they need, and the next frame is taken from
wherever they stopped.

How much they need can be told from the bytes, without an object or an oid map: `extent` adds up
fixed lengths, counts of elements and the sizes that the strings inside declare.

* `frame_consumed_iff` — a frame that is accepted is consumed as declared exactly when the size it
  declares is the extent of its content.
-/

namespace OzoPg

open Decoder Positional

/-! ## The extent of the content of a frame

How many bytes a value takes is worked out from the bytes alone, without decoding them. The decoders
are then shown to take as many. -/

/-- The number in the first four bytes, in network byte order. -/
def int32At (data : Bytes) : Int32 := Integral.ofBits (decodeBE (data.take 4))

/-- The size field at the front of a data frame. -/
def declaredSize (data : Bytes) : SizeType := int32At data

/-- The bytes a scalar takes: the declared number of them where the decoder looks at it. -/
def Scalar.extent : Scalar → SizeType → Nat
  | .uuid, _ => 16
  | .timestamp, _ => 8
  | .interval, _ => 16
  | _, size => size.toNatClampNeg

/-- The bytes of the content of a frame, of which a null has none. -/
def contentExtent (extent : SizeType → Bytes → Nat) (size : SizeType) (data : Bytes) : Nat :=
  if size = nullStateSize then 0 else extent size data

/-- The bytes of a data frame. -/
def dataFrameExtent (extent : SizeType → Bytes → Nat) (data : Bytes) : Nat :=
  4 + contentExtent extent (declaredSize data) (data.drop 4)

/-- The bytes of some elements. -/
def itemsExtent (item : Bytes → Nat) : Nat → Bytes → Nat
  | 0, _ => 0
  | k + 1, data => item data + itemsExtent item k (data.drop (item data))

/-- The bytes of an array behind its header: its dimension and the elements. -/
def dimensionExtent (c : Container) (item : Bytes → Nat) (data : Bytes) : Nat :=
  8 + if int32At data = 0 then 0
    else itemsExtent item (c.fittedLength (int32At data)) (data.drop 8)

/-- The bytes of an array, of which there is only the header if it has no dimension. -/
def arrayExtent (c : Container) (item : Bytes → Nat) (data : Bytes) : Nat :=
  12 + if int32At data < 1 then 0 else dimensionExtent c item (data.drop 12)

mutual

/-- The bytes an object of an element type takes. -/
def ElementType.extent : ElementType → SizeType → Bytes → Nat
  | .scalar s, size, _ => s.extent size
  | .composite _ _ ms, _, data => 4 + ms.extent (data.drop 4)

/-- The bytes an object takes. -/
def ObjectType.extent : ObjectType → SizeType → Bytes → Nat
  | .element e, size, data => e.extent size data
  | .array c _ e, _, data => arrayExtent c (dataFrameExtent e.extent) data

/-- The bytes of the frames of the members of a composite. -/
def MemberTypes.extent : MemberTypes → Bytes → Nat
  | .nil, _ => 0
  | .cons _ t ms, data =>
    4 + dataFrameExtent t.extent (data.drop 4)
      + ms.extent (data.drop (4 + dataFrameExtent t.extent (data.drop 4)))

end

/-! ## Scalars -/

abbrev ConsumesBytes {α : Type} (k : Nat) (p : Recv α) (data : Bytes) : Prop :=
  Consumes Istream.ofBytes k p data

/-- A read of a fixed number of bytes. -/
theorem Takes.consumes {α : Type} {k : Nat} {r : MemberRead α} {g : Bytes → α}
    (hr : Takes k r g) (data : Bytes) : ConsumesBytes k (read r) data := by
  intro v rest h
  obtain ⟨hle, -, hrest⟩ := hr.read_eq_ok h
  exact ⟨hle, hrest⟩

/-- A static size is checked, so the declared size is the one that is read. -/
theorem consumes_recvStatic {α : Type} {k : Nat} {r : MemberRead α} {g : Bytes → α}
    (hr : Takes k r g) {expected : SizeType} (hk : expected.toNatClampNeg = k)
    (size : SizeType) (data : Bytes) :
    ConsumesBytes size.toNatClampNeg (recvStatic expected r size) data := by
  refine Consumes.guard fun hsize => ?_
  rw [not_not.mp hsize, hk]
  exact hr.consumes data

theorem consumes_recvDynamic (size : SizeType) (data : Bytes) :
    ConsumesBytes size.toNatClampNeg (recvDynamic size) data := by
  refine Consumes.guard fun _ => ?_
  have h := (takes_readRaw (List.replicate size.toNatClampNeg 0)).consumes data
  rwa [List.length_replicate] at h

/-- The version byte counts. -/
theorem consumes_recvVersioned (size : SizeType) (data : Bytes) :
    ConsumesBytes size.toNatClampNeg (recvVersioned size) data := by
  refine Consumes.guard fun hsize => ?_
  have hsplit : size.toNatClampNeg = 1 + (size - 1).toNatClampNeg := by
    have hge : 1 ≤ size.toInt := by
      rw [Int32.not_lt, Int32.le_iff_toInt_le] at hsize
      exact hsize
    have hpred : (size - 1).toInt = size.toInt - 1 := by
      have hmax := Int32.toInt_lt size
      rw [Int32.toInt_sub, Int32.toInt_one, Int.bmod_eq_of_le (by omega) (by omega)]
    show size.toInt.toNat = 1 + (size - 1).toInt.toNat
    omega
  -- the version byte and the rest make up the declared size
  have h := (takes_get.consumes data).bind fun _ _ =>
    (takes_readRaw (List.replicate (size - 1).toNatClampNeg 0)).consumes (data.drop 1)
  rwa [List.length_replicate, ← hsplit] at h

theorem consumes_recvImpl_scalar (s : Scalar) (size : SizeType) (data : Bytes) :
    ConsumesBytes (s.extent size) (s.recvImpl size) data := by
  cases s with
  | bool => exact consumes_recvStatic takes_readBool rfl size data
  | char => exact consumes_recvStatic takes_get rfl size data
  | int2 => exact consumes_recvStatic (takes_readIntegral Int16) rfl size data
  | int4 => exact consumes_recvStatic (takes_readIntegral Int32) rfl size data
  | int8 => exact consumes_recvStatic (takes_readIntegral Int64) rfl size data
  | oid => exact consumes_recvStatic (takes_readIntegral Oid) rfl size data
  | float4 => exact consumes_recvStatic (takes_readIntegral UInt32) rfl size data
  | float8 => exact consumes_recvStatic (takes_readIntegral UInt64) rfl size data
  | text | bytea | name | json => exact consumes_recvDynamic size data
  | jsonb | ltree => exact consumes_recvVersioned size data
  -- these take what they need, whatever the size
  | uuid => exact takes_readUuid.consumes data
  | timestamp => exact ((takes_readIntegral Int64).consumes data).map toTimePoint
  | interval =>
      obtain ⟨g, hread⟩ := takes_readPgInterval
      exact (hread.consumes data).map toChronoDuration

/-! ## Frames -/

section Frames

variable {α : Type} {recvImpl : SizeType → α → Recv α} {extent : SizeType → Bytes → Nat}

/-- Checks read nothing. -/
theorem consumes_checkOid (typeOid : Oid) (oid : Option Oid) (data : Bytes) :
    ConsumesBytes 0 (checkOid typeOid oid) data := by
  cases oid with
  | none => exact Consumes.pure () data
  | some oid =>
      rw [checkOid]
      split
      · exact Consumes.pure () data
      · exact Consumes.throw _ _ data

/-- A null has no content, and otherwise the content decides. -/
theorem consumes_recv
    (h : ∀ size out data, ConsumesBytes (extent size data) (recvImpl size out) data) (typeOid : Oid)
    (fresh : α) (n : Nullability) (oid : Option Oid) (size : SizeType) (out : n.Val α)
    (data : Bytes) :
    ConsumesBytes (contentExtent extent size data) (recv typeOid fresh recvImpl n oid size out)
      data := by
  have hoid := consumes_checkOid typeOid oid data
  rw [contentExtent]
  cases n with
  -- a null is an error for a type that cannot hold it
  | plain =>
      rw [← Nat.zero_add (ite _ _ _)]
      refine hoid.bind fun _ _ => ?_
      split
      · exact Consumes.throw _ _ _
      · exact h size out data
  | nullable =>
      rw [recv]
      split
      · exact Consumes.pure none data
      · rw [← Nat.zero_add (extent size data)]
        exact hoid.bind fun _ _ => (h size (out.getD fresh) data).map some

/-- The size is read from the front of the frame. -/
theorem consumes_recvDataFrame
    (h : ∀ size out data, ConsumesBytes (extent size data) (recvImpl size out) data) (typeOid : Oid)
    (fresh : α) (n : Nullability) (oid : Option Oid) (out : n.Val α) (data : Bytes) :
    ConsumesBytes (dataFrameExtent extent data) (recvDataFrame typeOid fresh recvImpl n oid out)
      data := by
  refine ((takes_readIntegral SizeType).consumes data).bind fun size hsize => ?_
  obtain ⟨-, hval, -⟩ := (takes_readIntegral SizeType).read_eq_ok hsize
  obtain rfl : size = declaredSize data := hval
  exact consumes_recv h typeOid fresh n oid _ out _

theorem consumes_recvFrame
    (h : ∀ size out data, ConsumesBytes (extent size data) (recvImpl size out) data) (typeOid : Oid)
    (fresh : α) (n : Nullability) (out : n.Val α) (data : Bytes) :
    ConsumesBytes (4 + dataFrameExtent extent (data.drop 4))
      (recvFrame typeOid fresh recvImpl n out) data :=
  ((takes_readIntegral Oid).consumes data).bind fun oid _ =>
    consumes_recvDataFrame h typeOid fresh n (some oid) out (data.drop 4)

end Frames

/-! ## Arrays and composites -/

section Arrays

variable {α : Type} {c : Container} {recvItem : α → Recv α} {item : Bytes → Nat}

/-- The elements are found one behind the other. -/
theorem consumes_recvItems (h : ∀ out data, ConsumesBytes (item data) (recvItem out) data)
    (outs : List α) (data : Bytes) :
    ConsumesBytes (itemsExtent item outs.length data) (recvItems recvItem outs) data := by
  induction outs generalizing data with
  | nil => exact Consumes.pure _ data
  | cons out outs ih =>
      refine (h out data).bind fun _ _ => ?_
      exact (ih (data.drop (item data))).bind fun _ _ => Consumes.pure _ _

theorem consumes_recvElements (h : ∀ out data, ConsumesBytes (item data) (recvItem out) data)
    (fresh : α) (out : ArrayVal c α) (count : SizeType) (data : Bytes) :
    ConsumesBytes (itemsExtent item (c.fittedLength count) data)
      (recvElements fresh recvItem out count) data := by
  intro v rest hrun
  obtain ⟨out', s, hfit, hrest⟩ := bind_eq_ok.mp hrun
  obtain ⟨rfl, hlen⟩ := fitArraySize_eq_ok hfit
  rw [← hlen]
  exact ((consumes_recvItems h out'.items data).bind fun _ _ => Consumes.pure _ _) v rest hrest

/-- The header of an array, with where its numbers stand. -/
theorem takes_readPgArray : Takes 12 readPgArray fun used =>
    ⟨int32At used, int32At (used.drop 4),
      Integral.ofBits (decodeBE (((used.drop 4).drop 4).take 4))⟩ :=
  (takes_readIntegral Int32).bind fun _ => (takes_readIntegral Int32).bind fun _ =>
    (takes_readIntegral Oid).bind fun _ => Takes.pure _

/-- The only dimension. -/
theorem takes_readPgArrayDimension : Takes 8 readPgArrayDimension fun used =>
    ⟨int32At used, int32At (used.drop 4)⟩ :=
  (takes_readIntegral SizeType).bind fun _ => (takes_readIntegral Int32).bind fun _ => Takes.pure _

theorem int32At_take {k : Nat} (hk : 4 ≤ k) (data : Bytes) :
    int32At (data.take k) = int32At data := by
  rw [int32At, int32At, List.take_take, Nat.min_eq_left hk]

/-- The header decides what follows it. -/
theorem consumes_recvArrayImpl (h : ∀ out data, ConsumesBytes (item data) (recvItem out) data)
    (elemOid : Oid) (fresh : α) (out : ArrayVal c α) (data : Bytes) :
    ConsumesBytes (arrayExtent c item data) (recvArrayImpl elemOid fresh recvItem out) data := by
  refine (takes_readPgArray.consumes data).bind fun header hheader => ?_
  obtain ⟨-, rfl, -⟩ := takes_readPgArray.read_eq_ok hheader
  simp only [int32At_take (show 4 ≤ 12 by omega)]
  -- the checks of the header, in the order of the source
  refine Consumes.guard fun _ => Consumes.guard fun _ => ?_
  by_cases hnone : int32At data < 1
  · rw [if_pos hnone, if_pos hnone]
    exact Consumes.pure out _
  rw [if_neg hnone, if_neg hnone]
  refine (takes_readPgArrayDimension.consumes (data.drop 12)).bind fun dim hdim => ?_
  obtain ⟨-, rfl, -⟩ := takes_readPgArrayDimension.read_eq_ok hdim
  simp only [int32At_take (show 4 ≤ 8 by omega)]
  split
  · exact Consumes.pure out _
  · exact consumes_recvElements h fresh out _ _

end Arrays

theorem consumes_readAndVerifyHeader (fields : SizeType) (data : Bytes) :
    ConsumesBytes 4 (readAndVerifyHeader fields) data := by
  rw [← Nat.add_zero 4]
  exact ((takes_readIntegral SizeType).consumes data).bind fun count _ =>
    Consumes.guard fun _ => Consumes.pure () _

mutual

/-- By recursion on the type, together with the two below. -/
theorem ElementType.consumes_recvImpl (cs : Constructors) (m : OidMap) :
    (e : ElementType) → (size : SizeType) → (out : e.Val) → (data : Bytes) →
    ConsumesBytes (e.extent size data) (e.recvImpl cs m size out) data
  | .scalar s, size, _, data => consumes_recvImpl_scalar s size data
  | .composite _ _ ms, _, out, data =>
    (consumes_readAndVerifyHeader _ data).bind fun _ _ =>
      MemberTypes.consumes_recvFrames cs m ms out (data.drop 4)

theorem ObjectType.consumes_recvImpl (cs : Constructors) (m : OidMap) :
    (t : ObjectType) → (size : SizeType) → (out : t.Val) → (data : Bytes) →
    ConsumesBytes (t.extent size data) (t.recvImpl cs m size out) data
  | .element e, size, out, data => ElementType.consumes_recvImpl cs m e size out data
  | .array _ n e, _, out, data =>
    consumes_recvArrayImpl
      (consumes_recvDataFrame (ElementType.consumes_recvImpl cs m e) _ _ n none) _ _ out data

theorem MemberTypes.consumes_recvFrames (cs : Constructors) (m : OidMap) :
    (ms : MemberTypes) → (out : ms.Val) → (data : Bytes) →
    ConsumesBytes (ms.extent data) (ms.recvFrames cs m out) data
  | .nil, _, data => Consumes.pure () data
  | .cons n t ms, out, data =>
    (consumes_recvFrame (ObjectType.consumes_recvImpl cs m t) _ _ n out.1 data).bind fun _ _ =>
      (MemberTypes.consumes_recvFrames cs m ms out.2 _).bind fun _ _ => Consumes.pure _ _

end

/-- A decoder that consumes `k` bytes has consumed `j` exactly when they are the same. -/
theorem Decoder.Consumes.iff {α : Type} {p : Recv α} {k j : Nat} {data : Bytes} {v : α}
    {rest : Istream} (h : ConsumesBytes k p data) (hrun : p (.ofBytes data) = .ok (v, rest)) :
    j ≤ data.length ∧ rest = .ofBytes (data.drop j) ↔ j = k := by
  obtain ⟨hle, rfl⟩ := h v rest hrun
  constructor
  · rintro ⟨hle', heq⟩
    have hlength := congrArg (fun s : Istream => s.rest.length) heq
    simp only [Istream.ofBytes, List.length_drop] at hlength
    omega
  · rintro rfl
    exact ⟨hle, rfl⟩

/-- A frame that is accepted is consumed as declared, a header and as many bytes as its size field
says, exactly when the size field says how many bytes the content takes. -/
theorem frame_consumed_iff (cs : Constructors) (m : OidMap) (n : Nullability) (t : ObjectType)
    (oid : Option Oid) (out v : n.Val t.Val) (data : Bytes) (rest : Istream) :
    (recvDataFrame (t.typeOid m) (t.default cs) (t.recvImpl cs m) n oid out (.ofBytes data)
        = .ok (v, rest) →
      (4 + (declaredSize data).toNatClampNeg ≤ data.length ∧
          rest = .ofBytes (data.drop (4 + (declaredSize data).toNatClampNeg)) ↔
        (declaredSize data).toNatClampNeg
          = contentExtent t.extent (declaredSize data) (data.drop 4))) ∧
    (recvFrame (t.typeOid m) (t.default cs) (t.recvImpl cs m) n out (.ofBytes data)
        = .ok (v, rest) →
      (8 + (declaredSize (data.drop 4)).toNatClampNeg ≤ data.length ∧
          rest = .ofBytes (data.drop (8 + (declaredSize (data.drop 4)).toNatClampNeg)) ↔
        (declaredSize (data.drop 4)).toNatClampNeg
          = contentExtent t.extent (declaredSize (data.drop 4)) (data.drop 8))) := by
  have himpl := t.consumes_recvImpl cs m
  constructor
  · intro hrun
    rw [(consumes_recvDataFrame himpl _ _ n oid out data).iff hrun, dataFrameExtent]
    exact Nat.add_left_cancel_iff
  · intro hrun
    rw [(consumes_recvFrame himpl _ _ n out data).iff hrun, dataFrameExtent, List.drop_drop,
      ← Nat.add_assoc]
    exact Nat.add_left_cancel_iff

/-- A `uuid` of sixteen bytes under its size, and a null. -/
theorem frame_consumed_uuid_sixteen :
    (recvDataFrame 2950 (Scalar.default .uuid)
          ((ObjectType.element (.scalar .uuid)).recvImpl .zero ⟨[]⟩) .plain none
          (Scalar.default .uuid) (.ofBytes (([0, 0, 0, 16] ++ List.replicate 16 7) ++ [9]))
        = .ok (⟨List.replicate 16 7, rfl⟩, .ofBytes [9]) ∧
      4 + 16 ≤ 21 ∧ Istream.ofBytes [9] =
        .ofBytes (List.drop (4 + 16) ((([0, 0, 0, 16] : Bytes) ++ List.replicate 16 7) ++ [9]))) ∧
    recvDataFrame 2950 (Scalar.default .uuid)
          ((ObjectType.element (.scalar .uuid)).recvImpl .zero ⟨[]⟩) .nullable none none
          (.ofBytes [255, 255, 255, 255, 9])
        = .ok (none, .ofBytes [9]) ∧
      4 + 0 ≤ 5 ∧ Istream.ofBytes [9] = .ofBytes (List.drop (4 + 0) [255, 255, 255, 255, 9]) := by
  refine ⟨⟨rfl, ?_⟩, rfl, ?_⟩
  · exact ((frame_consumed_iff .zero ⟨[]⟩ .plain (.element (.scalar .uuid)) none
      (Scalar.default .uuid) ⟨List.replicate 16 7, rfl⟩
      (([0, 0, 0, 16] ++ List.replicate 16 7) ++ [9]) (.ofBytes [9])).1 rfl).mpr rfl
  · exact ((frame_consumed_iff .zero ⟨[]⟩ .nullable (.element (.scalar .uuid)) none none none
      [255, 255, 255, 255, 9] (.ofBytes [9])).1 rfl).mpr rfl

/-- A frame that declares fifteen bytes for a `uuid`: all sixteen are read. -/
theorem recvDataFrame_uuid_fifteen :
    (recvDataFrame 2950 (Scalar.default .uuid)
        ((ObjectType.element (.scalar .uuid)).recvImpl .zero ⟨[]⟩) .plain none
        (Scalar.default .uuid)
        (.ofBytes ([0, 0, 0, 15] ++ List.replicate 16 7 ++ [9]))).map
          (fun r => (r.1.data, r.2.rest))
      = .ok (List.replicate 16 7, [9]) ∧
    (declaredSize ([0, 0, 0, 15] ++ List.replicate 16 7 ++ [9])).toNatClampNeg = 15 ∧
    contentExtent (ObjectType.element (.scalar .uuid)).extent 15 (List.replicate 16 7 ++ [9])
      = 16 := by
  decide

end OzoPg
