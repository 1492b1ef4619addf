import OzoPg.Io.Stream
import OzoPg.Types.Chrono

/-!
# Deserialization

`include/ozo/io/recv.h` and the array and composite implementations of
`include/ozo/io/array.h` and `include/ozo/io/composite.h`.

A decoder is given the object it writes to, because containers and nullables keep parts of what
they held before. A scalar is overwritten completely, so its decoder is not.
-/

namespace OzoPg

/-! ## Frames -/

section Frames

variable {α : Type}

/-- The oid check of `detail::recv`; `none` is the `null_oid_t` that skips it. -/
def checkOid (typeOid : Oid) : Option Oid → Recv Unit
  | none => pure ()
  | some oid => if typeOid = oid then pure () else throw (.oidTypeMismatch oid)

/-- `detail::recv` for a type with oid `typeOid`; `fresh` is the object that `init_nullable`
allocates. -/
def recv (typeOid : Oid) (fresh : α) (recvImpl : SizeType → α → Recv α) :
    (n : Nullability) → Option Oid → SizeType → n.Val α → Recv (n.Val α)
  | .plain, oid, size, out => do
    checkOid typeOid oid
    if size = nullStateSize then throw .unexpectedNull else recvImpl size out
  | .nullable, oid, size, out =>
    if size = nullStateSize then
      -- a null is taken whatever its oid
      pure none
    else do
      checkOid typeOid oid
      some <$> recvImpl size (out.getD fresh)

/-- `detail::recv_data_frame`. -/
def recvDataFrame (typeOid : Oid) (fresh : α) (recvImpl : SizeType → α → Recv α)
    (n : Nullability) (oid : Option Oid) (out : n.Val α) : Recv (n.Val α) := do
  let size ← read (readIntegral SizeType)
  recv typeOid fresh recvImpl n oid size out

/-- `recv_frame`. -/
def recvFrame (typeOid : Oid) (fresh : α) (recvImpl : SizeType → α → Recv α)
    (n : Nullability) (out : n.Val α) : Recv (n.Val α) := do
  let oid ← read (readIntegral Oid)
  recvDataFrame typeOid fresh recvImpl n (some oid) out

end Frames

/-! ## Scalars -/

/-- `recv_impl` for a type of static size. -/
def recvStatic {α : Type} (expected : SizeType) (r : MemberRead α) (size : SizeType) : Recv α :=
  if size ≠ expected then throw (.badObjectSize size expected) else read r

/-- `recv_impl` for a type of dynamic size. -/
def recvDynamic (size : SizeType) : Recv Bytes :=
  if size < 0 then
    throw (.lengthError size)
  else
    read (readRaw (List.replicate size.toNatClampNeg 0))

/-- `recv_impl` of `jsonb` and `ltree`: a version byte and the rest. -/
def recvVersioned (size : SizeType) : Recv Bytes :=
  if size < 1 then
    throw (.dataTooSmall size)
  else do
    let _version ← read get
    read (readRaw (List.replicate (size - 1).toNatClampNeg 0))

theorem length_readRaw (buf : Bytes) (s : Istream) : (readRaw buf s).1.length = buf.length := by
  simp only [readRaw, List.length_append, List.length_take, List.length_drop]
  omega

/-- `istream::read` of the bytes of a `uuid`. -/
def readUuid : MemberRead Uuid := fun s =>
  (⟨(readRaw (List.replicate 16 0) s).1, length_readRaw _ s⟩, (readRaw (List.replicate 16 0) s).2)

/-- `istream::read` of a `pg_interval`. -/
def readPgInterval : MemberRead PgInterval := do
  let microseconds ← readIntegral Int64
  let days ← readIntegral Int32
  let months ← readIntegral Int32
  return { microseconds, days, months }

/-- `recv_impl`. -/
def Scalar.recvImpl : (s : Scalar) → SizeType → Recv s.Val
  | .bool => recvStatic 1 readBool
  | .char => recvStatic 1 get
  | .int2 => recvStatic 2 (readIntegral Int16)
  | .int4 => recvStatic 4 (readIntegral Int32)
  | .int8 => recvStatic 8 (readIntegral Int64)
  | .oid => recvStatic 4 (readIntegral Oid)
  | .float4 => recvStatic 4 (readIntegral UInt32)
  | .float8 => recvStatic 8 (readIntegral UInt64)
  | .text | .bytea | .name | .json => recvDynamic
  -- the specializations below are given the size and do not look at it
  | .uuid => fun _ => read readUuid
  | .timestamp => fun _ => toTimePoint <$> read (readIntegral Int64)
  | .interval => fun _ => toChronoDuration <$> read readPgInterval
  | .jsonb | .ltree => recvVersioned

/-! ## Arrays and composites -/

/-- `detail::pg_array`. -/
structure PgArray where
  dimensionsCount : Int32
  dataoffset : Int32
  elemtype : Oid

/-- `detail::pg_array_dimension`. -/
structure PgArrayDimension where
  size : SizeType
  index : Int32

/-- `istream::read` of a `pg_array`. -/
def readPgArray : MemberRead PgArray := do
  let dimensionsCount ← readIntegral Int32
  let dataoffset ← readIntegral Int32
  let elemtype ← readIntegral Oid
  return { dimensionsCount, dataoffset, elemtype }

/-- `istream::read` of a `pg_array_dimension`. -/
def readPgArrayDimension : MemberRead PgArrayDimension := do
  let size ← readIntegral SizeType
  let index ← readIntegral Int32
  return { size, index }

/-- `resize`: the elements there is room for and `fresh` ones behind them. -/
def resize {α : Type} (fresh : α) (count : Nat) (items : List α) : List α :=
  items.take count ++ List.replicate (count - items.length) fresh

theorem length_resize {α : Type} (fresh : α) (count : Nat) (items : List α) :
    (resize fresh count items).length = count := by
  rw [resize, List.length_append, List.length_take, List.length_replicate]
  omega

theorem resize_length {α : Type} (fresh : α) (items : List α) :
    resize fresh items.length items = items := by
  simp [resize]

/-- `fit_array_size`. A negative count is a huge one for `resize`; `std::array` only compares. -/
def fitArraySize {σ α : Type} (fresh : α) (count : SizeType) :
    {c : Container} → ArrayVal c α → Decoder σ Exception (ArrayVal c α)
  | .vector, out =>
    if count < 0 then throw (.lengthError count)
    else pure ⟨resize fresh count.toNatClampNeg out.items, trivial⟩
  | .list, out =>
    if count < 0 then throw .badAlloc
    else pure ⟨resize fresh count.toNatClampNeg out.items, trivial⟩
  | .array size, out =>
    if count ≠ Int32.ofNat size then throw (.badArraySize count size) else pure out

/-- The number of elements a container has once it is fitted. -/
def Container.fittedLength : Container → SizeType → Nat
  | .vector, count => count.toNatClampNeg
  | .list, count => count.toNatClampNeg
  | .array size, _ => size

/-- Fitting reads nothing and leaves a container of the announced size. -/
theorem fitArraySize_eq_ok {σ α : Type} {c : Container} {fresh : α} {count : SizeType}
    {out out' : ArrayVal c α} {s t : σ} (h : fitArraySize fresh count out s = .ok (out', t)) :
    t = s ∧ out'.items.length = c.fittedLength count := by
  cases c with
  | vector | list =>
      by_cases hneg : count < 0
      · rw [fitArraySize, if_pos hneg] at h
        cases h
      · rw [fitArraySize, if_neg hneg] at h
        cases h
        exact ⟨rfl, length_resize ..⟩
  | array size =>
      by_cases hne : count ≠ Int32.ofNat size
      · rw [fitArraySize, if_pos hne] at h
        cases h
      · rw [fitArraySize, if_neg hne] at h
        cases h
        exact ⟨rfl, out.fits⟩

/-- A container can be fitted to the number of elements of an object of its type. -/
theorem fitArraySize_of_length {σ α β : Type} {c : Container} (fresh : α) (out : ArrayVal c α)
    (v : ArrayVal c β) {count : SizeType} (h : (v.items.length : Int) = count.toInt) :
    ∃ fitted : ArrayVal c α, fitted.items = resize fresh v.items.length out.items ∧
      ∀ s : σ, fitArraySize fresh count out s = .ok (fitted, s) := by
  have hneg : ¬ count < 0 := by
    rw [Int32.lt_iff_toInt_lt, Int32.toInt_zero]
    omega
  have hcount : count.toNatClampNeg = v.items.length := by
    show count.toInt.toNat = v.items.length
    omega
  cases c with
  | vector | list =>
      refine ⟨⟨resize fresh v.items.length out.items, trivial⟩, rfl, fun s => ?_⟩
      rw [fitArraySize, if_neg hneg, hcount]
      rfl
  | array size =>
      -- both have `size` elements
      have hsize : v.items.length = size := v.fits
      have hsame : v.items.length = out.items.length := hsize.trans out.fits.symm
      have heq : count = Int32.ofNat size := by
        rw [← Int32.ofInt_toInt count, ← h, hsize]
        exact Int32.ofInt_eq_ofNat
      refine ⟨out, by rw [hsame, resize_length], fun s => ?_⟩
      rw [fitArraySize, if_neg (not_not_intro heq)]
      rfl

/-- The loop over the elements of an array. -/
def recvItems {σ α : Type} (recvItem : α → Decoder σ Exception α) :
    (out : List α) → Decoder σ Exception { items : List α // items.length = out.length }
  | [] => pure ⟨[], rfl⟩
  | item :: out => do
    let item ← recvItem item
    let items ← recvItems recvItem out
    return ⟨item :: items.1, congrArg (· + 1) items.2⟩

/-- `recv_array_impl::apply` behind the header checks. -/
def recvElements {σ α : Type} {c : Container} (fresh : α)
    (recvItem : α → Decoder σ Exception α) (out : ArrayVal c α) (count : SizeType) :
    Decoder σ Exception (ArrayVal c α) := do
  let out ← fitArraySize fresh count out
  let items ← recvItems recvItem out.items
  return ⟨items.1, (congrArg c.Fits items.2).mpr out.fits⟩

/-- `recv_array_impl::apply`. -/
def recvArrayImpl {α : Type} {c : Container} (elemOid : Oid) (fresh : α) (recvItem : α → Recv α)
    (out : ArrayVal c α) : Recv (ArrayVal c α) := do
  let header ← read readPgArray
  if header.dimensionsCount > 1 then
    throw (.badArrayDimension header.dimensionsCount)
  else if elemOid ≠ header.elemtype then
    throw (.oidTypeMismatch header.elemtype)
  else if header.dimensionsCount < 1 then
    -- an array without dimensions leaves the container as it is
    pure out
  else do
    let dim ← read readPgArrayDimension
    if dim.size = 0 then pure out else recvElements fresh recvItem out dim.size

/-- `read_and_verify_header`. -/
def readAndVerifyHeader (fields : SizeType) : Recv Unit := do
  let count ← read (readIntegral SizeType)
  if count ≠ fields then throw (.badCompositeSize count fields) else pure ()

mutual

/-- `recv_impl::apply` for an element type. -/
def ElementType.recvImpl (cs : Constructors) (m : OidMap) :
    (e : ElementType) → SizeType → e.Val → Recv e.Val
  | .scalar s, size, _ => s.recvImpl size
  | .composite _ _ ms, _, out => do
    readAndVerifyHeader (Int32.ofNat ms.fieldsNumber)
    ms.recvFrames cs m out

/-- `recv_impl::apply` for an unwrapped type. -/
def ObjectType.recvImpl (cs : Constructors) (m : OidMap) :
    (t : ObjectType) → SizeType → t.Val → Recv t.Val
  | .element e, size, out => e.recvImpl cs m size out
  | .array _ n e, _, out =>
    recvArrayImpl (e.typeOid m) (n.default (e.default cs))
      (recvDataFrame (e.typeOid m) (e.default cs) (e.recvImpl cs m) n none) out

/-- The frames of the members of a composite, in order. -/
def MemberTypes.recvFrames (cs : Constructors) (m : OidMap) :
    (ms : MemberTypes) → ms.Val → Recv ms.Val
  | .nil, _ => pure ()
  | .cons n t ms, out => do
    let v ← recvFrame (t.typeOid m) (t.default cs) (t.recvImpl cs m) n out.1
    let vs ← ms.recvFrames cs m out.2
    return (v, vs)

end

end OzoPg
