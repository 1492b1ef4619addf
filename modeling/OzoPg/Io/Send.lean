import OzoPg.Io.Stream
import OzoPg.Types.Chrono

/-!
# Sizes and serialization

`include/ozo/io/size_of.h`, `include/ozo/io/send.h` and the array and composite
implementations of `include/ozo/io/array.h` and `include/ozo/io/composite.h`.

The size of an object and the bytes of an object are computed by two recursions over its type
that do not look at each other. Sizes are `size_type` values: every addition and multiplication
is taken modulo `2 ^ 32`.
-/

namespace OzoPg

/-! ## Frames

What `size_of` and `send` do about nulls and frame headers, whatever the implementation for
the unwrapped type. -/

section Frames

variable {α : Type}

/-- `size_of`. -/
def sizeOf (sizeOfImpl : α → SizeType) : (n : Nullability) → n.Val α → SizeType
  | .plain, v => sizeOfImpl v
  | .nullable, none => nullStateSize
  | .nullable, some v => sizeOfImpl v

/-- `data_frame_size`. -/
def dataFrameSize (sizeOfImpl : α → SizeType) (n : Nullability) (v : n.Val α) : SizeType :=
  4 + max (sizeOf sizeOfImpl n v) 0

/-- `frame_size`. -/
def frameSize (sizeOfImpl : α → SizeType) (n : Nullability) (v : n.Val α) : SizeType :=
  4 + dataFrameSize sizeOfImpl n v

/-- `send`. -/
def send (sendImpl : α → Bytes) : (n : Nullability) → n.Val α → Bytes
  | .plain, v => sendImpl v
  | .nullable, none => []
  | .nullable, some v => sendImpl v

/-- `send_data_frame`. -/
def sendDataFrame (sizeOfImpl : α → SizeType) (sendImpl : α → Bytes) (n : Nullability)
    (v : n.Val α) : Bytes :=
  writeIntegral (sizeOf sizeOfImpl n v) ++ send sendImpl n v

/-- `send_frame`. -/
def sendFrame (oid : Oid) (sizeOfImpl : α → SizeType) (sendImpl : α → Bytes) (n : Nullability)
    (v : n.Val α) : Bytes :=
  writeIntegral oid ++ sendDataFrame sizeOfImpl sendImpl n v

@[simp] theorem length_sendDataFrame (sizeOfImpl : α → SizeType) (sendImpl : α → Bytes)
    (n : Nullability) (v : n.Val α) :
    (sendDataFrame sizeOfImpl sendImpl n v).length = 4 + (send sendImpl n v).length := by
  rw [sendDataFrame, List.length_append, length_writeIntegral]
  rfl

@[simp] theorem length_sendFrame (oid : Oid) (sizeOfImpl : α → SizeType) (sendImpl : α → Bytes)
    (n : Nullability) (v : n.Val α) :
    (sendFrame oid sizeOfImpl sendImpl n v).length = 8 + (send sendImpl n v).length := by
  rw [sendFrame, List.length_append, length_writeIntegral, length_sendDataFrame,
    ← Nat.add_assoc]
  rfl

end Frames

/-! ## Scalars -/

/-- `size_of_default_impl`, and `size_of_impl` of `jsonb` and `ltree` which count their version
byte. -/
def Scalar.sizeOfImpl : (s : Scalar) → s.Val → SizeType
  | .text, v | .bytea, v | .name, v | .json, v => Int32.ofNat (List.length (α := UInt8) v)
  | .jsonb, v | .ltree, v => Int32.ofNat (List.length (α := UInt8) v + 1)
  | s, _ => Int32.ofNat (s.size.getD 0)

/-- `ostream::write` of a `pg_interval`. -/
def writePgInterval (interval : PgInterval) : Bytes :=
  writeIntegral interval.microseconds ++ writeIntegral interval.days
    ++ writeIntegral interval.months

/-- `send_impl`. -/
def Scalar.sendImpl : (s : Scalar) → s.Val → Bytes
  | .bool, v => writeBool v
  | .char, v => [(v : UInt8)]
  | .int2, v => writeIntegral (α := Int16) v
  | .int4, v => writeIntegral (α := Int32) v
  | .int8, v => writeIntegral (α := Int64) v
  | .oid, v => writeIntegral (α := Oid) v
  | .float4, v => writeIntegral (α := UInt32) v
  | .float8, v => writeIntegral (α := UInt64) v
  | .text, v | .bytea, v | .name, v | .json, v => v
  | .uuid, v => Uuid.data v
  | .timestamp, v => writeIntegral (fromTimePoint v)
  | .interval, v => writePgInterval (fromChronoDuration v)
  | .jsonb, v | .ltree, v => (1 : UInt8) :: (v : Bytes)

/-! ## Arrays and composites -/

/-- `size_of_array_impl::data_size`: the first frame times the number of elements when the
element type has a static size, the sum of the frames otherwise. -/
def arrayDataSize {α : Type} (staticSize : Option Nat) (frame : α → SizeType) :
    List α → SizeType
  | [] => 0
  | v :: vs =>
    match staticSize with
    -- `StaticSize` looks through a nullable, so its elements are counted here too
    | some _ => frame v * Int32.ofNat (v :: vs).length
    | none => (v :: vs).foldl (fun r item => r + frame item) 0

mutual

/-- `size_of_impl::apply` for an element type. -/
def ElementType.sizeOfImpl : (e : ElementType) → e.Val → SizeType
  | .scalar s, v => s.sizeOfImpl v
  | .composite .fusion _ ms, v => 4 + ms.foldDataSize v 0
  | .composite .hana _ ms, v => 4 + ms.unpackDataSize v

/-- `size_of_impl::apply` for an unwrapped type. -/
def ObjectType.sizeOfImpl : (t : ObjectType) → t.Val → SizeType
  | .element e, v => e.sizeOfImpl v
  | .array _ n e, v => 12 + 8 + arrayDataSize e.staticSize (dataFrameSize e.sizeOfImpl n) v.items

/-- `data_size` of a Fusion sequence, a fold from the left. -/
def MemberTypes.foldDataSize : (ms : MemberTypes) → ms.Val → SizeType → SizeType
  | .nil, _, r => r
  | .cons n t ms, v, r => ms.foldDataSize v.2 (r + frameSize t.sizeOfImpl n v.1)

/-- `data_size` of a Hana struct, a fold expression from the right. -/
def MemberTypes.unpackDataSize : (ms : MemberTypes) → ms.Val → SizeType
  | .nil, _ => 0
  | .cons n t ms, v => frameSize t.sizeOfImpl n v.1 + ms.unpackDataSize v.2

end

/-- `ostream::write` of a `pg_array`. -/
def writePgArray (dimensionsCount dataoffset : Int32) (elemtype : Oid) : Bytes :=
  writeIntegral dimensionsCount ++ writeIntegral dataoffset ++ writeIntegral elemtype

/-- `ostream::write` of a `pg_array_dimension`. -/
def writePgArrayDimension (size : SizeType) (index : Int32) : Bytes :=
  writeIntegral size ++ writeIntegral index

mutual

/-- `send_impl::apply` for an element type. -/
def ElementType.sendImpl (m : OidMap) : (e : ElementType) → e.Val → Bytes
  | .scalar s, v => s.sendImpl v
  | .composite _ _ ms, v => writeIntegral (Int32.ofNat ms.fieldsNumber) ++ ms.sendFrames m v

/-- `send_impl::apply` for an unwrapped type. -/
def ObjectType.sendImpl (m : OidMap) : (t : ObjectType) → t.Val → Bytes
  | .element e, v => e.sendImpl m v
  | .array _ n e, v =>
    writePgArray 1 0 (e.typeOid m) ++ writePgArrayDimension (Int32.ofNat v.items.length) 0
      ++ v.items.flatMap (sendDataFrame e.sizeOfImpl (e.sendImpl m) n)

/-- The frames of the members of a composite, in order. -/
def MemberTypes.sendFrames (m : OidMap) : (ms : MemberTypes) → ms.Val → Bytes
  | .nil, _ => []
  | .cons n t ms, v =>
    sendFrame (t.typeOid m) t.sizeOfImpl (t.sendImpl m) n v.1 ++ ms.sendFrames m v.2

end

end OzoPg
