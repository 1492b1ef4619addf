import Mathlib.Algebra.Ring.Int.Defs
import OzoPg.Io.Stream

/-!
# Integers at the level of the machine

`Io.Stream` swaps bytes on natural numbers and leaves out where the numbers are. Here is what
`detail/endian.h` and `detail/typed_buffer.h` do on a little-endian host: the swap is computed in
the promoted type of the operand, which for two bytes is a signed `int`, and converted back; the
value goes through a union with its bytes, which are uninitialized before a read.

* `toNat_byteOrderSwap` — the promotions change nothing: the swap is the one of `Io.Stream`.
* `writeIntegral_refines`, `takes_readIntegral` — so are the bytes written and the value read.
-/

namespace OzoPg.Machine

open Positional

/-! ## The swap

The fold of the source works on promoted integers: a byte is shifted there in `int`, whose sign bit
a narrow type never reaches. The value is the one of `Positional.reverseBytes`. -/

/-- The width of the promoted type of an unsigned integer: that of `int`, if `int` is wider. -/
def promotedWidth (size : Nat) : Nat := max 32 (8 * size)

/-- The promotion of an unsigned integer, which keeps its value. -/
def promote {size : Nat} (value : BitVec (8 * size)) : BitVec (promotedWidth size) :=
  value.setWidth (promotedWidth size)

/-- `>>` in the promoted type: arithmetic for `int`, logical for an unsigned type. -/
def shiftRight (size : Nat) (value : BitVec (promotedWidth size)) (n : Nat) :
    BitVec (promotedWidth size) :=
  if 8 * size < 32 then value.sshiftRight n else value >>> n

/-- The operand of the fold expression in `byte_order_swap`. -/
def swapOperand {size : Nat} (value : BitVec (8 * size)) (n : Nat) :
    BitVec (promotedWidth size) :=
  (shiftRight size (promote value) (n * 8) &&& BitVec.ofNat _ 255) <<< ((size - 1 - n) * 8)

/-- `(operand | ...)`, a fold to the right without an initial value. -/
def foldOr {w : Nat} : List (BitVec w) → BitVec w
  | [] => 0
  | [x] => x
  | x :: y :: xs => x ||| foldOr (y :: xs)

/-- `detail::byte_order_swap`. The result is converted back to the type of the operand. -/
def byteOrderSwap {size : Nat} (value : BitVec (8 * size)) : BitVec (8 * size) :=
  (foldOr ((List.range size).map (swapOperand value))).setWidth (8 * size)

theorem two_pow_le_promoted (size : Nat) : 2 ^ (8 * size) ≤ 2 ^ promotedWidth size :=
  Nat.pow_le_pow_right (by decide) (Nat.le_max_right ..)

/-- Integral promotion keeps the value. -/
theorem toNat_promote {size : Nat} (value : BitVec (8 * size)) :
    (promote value).toNat = value.toNat := by
  rw [promote, BitVec.toNat_setWidth]
  exact Nat.mod_eq_of_lt (Nat.lt_of_lt_of_le value.isLt (two_pow_le_promoted size))

/-- A promoted value is not negative, so the shift in `int` brings in zeros as well. -/
theorem toNat_shiftRight_promote {size : Nat} (value : BitVec (8 * size)) (n : Nat) :
    (shiftRight size (promote value) n).toNat = value.toNat >>> n := by
  unfold shiftRight
  split
  · next hsize =>
    have hmsb : (promote value).msb = false := by
      have hwidth : 2 ^ (8 * size + 1) ≤ 2 ^ promotedWidth size :=
        Nat.pow_le_pow_right (by decide) (Nat.le_trans hsize (Nat.le_max_left ..))
      have hlt := value.isLt
      rw [Nat.pow_succ] at hwidth
      rw [BitVec.msb_eq_false_iff_two_mul_lt, toNat_promote]
      omega
    rw [BitVec.sshiftRight_eq_of_msb_false hmsb, BitVec.toNat_ushiftRight, toNat_promote]
  · rw [BitVec.toNat_ushiftRight, toNat_promote]

/-- A byte is shifted to its place without overflow. -/
theorem toNat_swapOperand {size n : Nat} (hn : n < size) (value : BitVec (8 * size)) :
    (swapOperand value n).toNat =
      ((value.toNat >>> (n * 8)) &&& 255) <<< ((size - 1 - n) * 8) := by
  have hmask : (BitVec.ofNat (promotedWidth size) 255).toNat = 255 := by
    have hwidth : 2 ^ 32 ≤ 2 ^ promotedWidth size :=
      Nat.pow_le_pow_right (by decide) (Nat.le_max_left ..)
    exact Nat.mod_eq_of_lt (by omega)
  rw [swapOperand, BitVec.toNat_shiftLeft, BitVec.toNat_and, toNat_shiftRight_promote, hmask]
  apply Nat.mod_eq_of_lt
  have hbyte : (value.toNat >>> (n * 8)) &&& 255 < 2 ^ 8 := Nat.and_lt_two_pow _ (by decide)
  calc ((value.toNat >>> (n * 8)) &&& 255) <<< ((size - 1 - n) * 8)
      < 2 ^ 8 * 2 ^ ((size - 1 - n) * 8) := by
        rw [Nat.shiftLeft_eq]
        exact Nat.mul_lt_mul_of_pos_right hbyte (Nat.two_pow_pos _)
    _ = 2 ^ (8 + (size - 1 - n) * 8) := (Nat.pow_add ..).symm
    _ ≤ 2 ^ (8 * size) := Nat.pow_le_pow_right (by decide) (by omega)
    _ ≤ 2 ^ promotedWidth size := two_pow_le_promoted size

/-- The fold over the promoted type is the one over numbers. -/
theorem toNat_foldOr {w : Nat} (xs : List (BitVec w)) :
    (foldOr xs).toNat = (xs.map BitVec.toNat).foldr (· ||| ·) 0 := by
  fun_induction foldOr xs with
  | case1 => rfl
  | case2 x => exact (Nat.or_zero _).symm
  | case3 x y xs ih =>
      rw [BitVec.toNat_or, ih]
      rfl

theorem two_pow_mul_eight (size : Nat) : 2 ^ (8 * size) = 256 ^ size := Nat.pow_mul ..

/-- The result fits the type again. -/
theorem byteOrderSwap_lt (size value : Nat) :
    OzoPg.byteOrderSwap size value < 2 ^ (8 * size) := by
  have h := decodeBE_lt (encodeLE size value)
  rw [length_encodeLE, ← reverseBytes_eq] at h
  rw [two_pow_mul_eight]
  exact h

/-- The promotions change nothing. -/
theorem toNat_byteOrderSwap {size : Nat} (value : BitVec (8 * size)) :
    (byteOrderSwap value).toNat = OzoPg.byteOrderSwap size value.toNat := by
  have hoperands : ((List.range size).map (swapOperand value)).map BitVec.toNat =
      (List.range size).map fun n =>
        ((value.toNat >>> (n * 8)) &&& 255) <<< ((size - 1 - n) * 8) := by
    rw [List.map_map]
    exact List.map_congr_left fun n hn => toNat_swapOperand (List.mem_range.mp hn) value
  have hfold : (foldOr ((List.range size).map (swapOperand value))).toNat =
      OzoPg.byteOrderSwap size value.toNat := by
    rw [toNat_foldOr, hoperands, List.foldr_map]
    rfl
  rw [byteOrderSwap, BitVec.toNat_setWidth, hfold]
  exact Nat.mod_eq_of_lt (byteOrderSwap_lt _ _)

/-! ## Streams -/

section

variable {α : Type} [Integral α]

/-- The unsigned type of an integer type. -/
abbrev Unsigned (α : Type) [Integral α] : Type := BitVec (8 * Integral.size α)

/-- The conversion to the unsigned type. -/
def toUnsigned (x : α) : Unsigned α := BitVec.ofNat _ (Integral.toBits x)

/-- The conversion of the unsigned type to the type. -/
def ofUnsigned (value : Unsigned α) : α := Integral.ofBits value.toNat

/-- `detail::convert_to_big_endian`. -/
def convertToBigEndian (value : α) : Unsigned α := byteOrderSwap (toUnsigned value)

/-- `detail::convert_from_big_endian`. -/
def convertFromBigEndian (value : α) : Unsigned α := byteOrderSwap (toUnsigned value)

/-- `detail::typed_buffer`: the bytes of a value. -/
structure TypedBuffer (α : Type) [Integral α] where
  raw : Bytes
  length_raw : raw.length = Integral.size α

/-- The member `typed`. -/
def TypedBuffer.typed (buf : TypedBuffer α) : α := Integral.ofBits (decodeLE buf.raw)

/-- The buffer after an assignment to `typed`. -/
def TypedBuffer.ofTyped (x : α) : TypedBuffer α :=
  ⟨encodeLE (Integral.size α) (Integral.toBits x), length_encodeLE _ _⟩

theorem TypedBuffer.raw_ofTyped (x : α) :
    (TypedBuffer.ofTyped x).raw = encodeLE (Integral.size α) (Integral.toBits x) := rfl

/-- `ostream::write` of an integer of more than one byte, to a stream over the vector `out`. -/
def writeIntegral (out : Bytes) (x : α) : Bytes :=
  out ++ (TypedBuffer.ofTyped (ofUnsigned (convertToBigEndian x) : α)).raw

/-- A read leaves the size of its buffer, whatever it finds. -/
theorem length_readRaw (buf : Bytes) (s : Istream) : (readRaw buf s).1.length = buf.length := by
  simp only [readRaw, List.length_append, List.length_take, List.length_drop]
  omega

/-- `istream::read` into the bytes of a buffer. -/
def readBuffer (buf : TypedBuffer α) : MemberRead (TypedBuffer α) := fun s =>
  (⟨(readRaw buf.raw s).1, (length_readRaw buf.raw s).trans buf.length_raw⟩, (readRaw buf.raw s).2)

/-- `istream::read` of an integer of more than one byte, where the buffer happens to hold `buf`. -/
def readIntegral (buf : TypedBuffer α) : MemberRead α := do
  let buf ← readBuffer buf
  return ofUnsigned (convertFromBigEndian buf.typed)

/-- The conversion to the unsigned type keeps the bits. -/
theorem toNat_toUnsigned (x : α) : (toUnsigned x).toNat = Integral.toBits x := by
  rw [toUnsigned, BitVec.toNat_ofNat, two_pow_mul_eight]
  exact Nat.mod_eq_of_lt (Integral.toBits_lt x)

/-- So does the one back. -/
theorem toBits_ofUnsigned (value : Unsigned α) :
    Integral.toBits (ofUnsigned value : α) = value.toNat :=
  Integral.toBits_ofBits _ (two_pow_mul_eight (Integral.size α) ▸ value.isLt)

/-- Writing appends the bytes of `Io.Stream`. -/
theorem writeIntegral_refines (out : Bytes) (x : α) :
    writeIntegral out x = out ++ OzoPg.writeIntegral x := by
  rw [writeIntegral, TypedBuffer.raw_ofTyped, toBits_ofUnsigned, convertToBigEndian,
    toNat_byteOrderSwap, toNat_toUnsigned]
  rfl

/-- Reading takes the bytes and gives the value of `Io.Stream`, whatever is in the buffer. -/
theorem takes_readIntegral (buf : TypedBuffer α) :
    Takes (Integral.size α) (readIntegral buf) (fun used => Integral.ofBits (decodeBE used)) := by
  have hread : readIntegral buf =
      (fun raw => ofUnsigned (convertFromBigEndian (Integral.ofBits (decodeLE raw) : α))) <$>
        readRaw buf.raw := rfl
  have htakes := takes_readRaw buf.raw
  rw [buf.length_raw] at htakes
  rw [hread]
  refine (htakes.map _).congr fun used hlen => ?_
  have hbits : decodeLE used < 256 ^ Integral.size α := hlen ▸ decodeLE_lt used
  rw [id_eq, ofUnsigned, convertFromBigEndian, toNat_byteOrderSwap, toNat_toUnsigned,
    Integral.toBits_ofBits _ hbits, OzoPg.byteOrderSwap, ← hlen, reverseBytes_decodeLE]

end

/-! ## The integer types -/

/-- The integer types of two, four and eight bytes. -/
inductive IntegerType where
  | int16
  | uint16
  | int32
  | uint32
  | int64
  | uint64
  deriving DecidableEq, Repr

namespace IntegerType

abbrev Val : IntegerType → Type
  | .int16 => Int16
  | .uint16 => UInt16
  | .int32 => Int32
  | .uint32 => UInt32
  | .int64 => Int64
  | .uint64 => UInt64

instance : (t : IntegerType) → Integral t.Val
  | .int16 => inferInstanceAs (Integral Int16)
  | .uint16 => inferInstanceAs (Integral UInt16)
  | .int32 => inferInstanceAs (Integral Int32)
  | .uint32 => inferInstanceAs (Integral UInt32)
  | .int64 => inferInstanceAs (Integral Int64)
  | .uint64 => inferInstanceAs (Integral UInt64)

/-- `sizeof(T)`. -/
def size : IntegerType → Nat
  | .int16 | .uint16 => 2
  | .int32 | .uint32 => 4
  | .int64 | .uint64 => 8

/-- The number a value stands for. -/
def toInt : {t : IntegerType} → t.Val → Int
  | .int16, x => Int16.toInt x
  | .uint16, x => UInt16.toNat x
  | .int32, x => Int32.toInt x
  | .uint32, x => UInt32.toNat x
  | .int64, x => Int64.toInt x
  | .uint64, x => UInt64.toNat x

theorem size_eq (t : IntegerType) : Integral.size t.Val = t.size := by
  cases t <;> rfl

/-- Two's complement. -/
theorem toNat_eq_toInt_emod {w : Nat} (v : BitVec w) : (v.toNat : Int) = v.toInt % 2 ^ w := by
  have hlt : (v.toNat : Int) < 2 ^ w := by exact_mod_cast v.isLt
  have hmod : (v.toNat : Int) % (2 ^ w : Nat) = v.toInt % (2 ^ w : Nat) := by
    rw [BitVec.toInt_eq_toNat_bmod, Int.bmod_emod]
  rw [Int.natCast_pow] at hmod
  exact (Int.emod_eq_of_lt (Int.natCast_nonneg _) hlt).symm.trans hmod

/-- The bits of a value are its two's complement. -/
theorem toBits_eq {t : IntegerType} (x : t.Val) :
    (Integral.toBits x : Int) = toInt x % 256 ^ t.size := by
  cases t with
  | int16 => exact toNat_eq_toInt_emod (Int16.toBitVec x)
  | int32 => exact toNat_eq_toInt_emod (Int32.toBitVec x)
  | int64 => exact toNat_eq_toInt_emod (Int64.toBitVec x)
  | uint16 =>
      have hlt := UInt16.toNat_lt x
      show (UInt16.toNat x : Int) = UInt16.toNat x % 256 ^ 2
      omega
  | uint32 =>
      have hlt := UInt32.toNat_lt x
      show (UInt32.toNat x : Int) = UInt32.toNat x % 256 ^ 4
      omega
  | uint64 =>
      have hlt := UInt64.toNat_lt x
      show (UInt64.toNat x : Int) = UInt64.toNat x % 256 ^ 8
      omega

end IntegerType

/-- The two's complement of a number, most significant byte first. -/
def bigEndian (size : Nat) (v : Int) : Bytes := encodeBE size (v % 256 ^ size).toNat

/-- What is written is the two's complement, most significant byte first. -/
theorem bigEndian_toInt {t : IntegerType} (x : t.Val) :
    bigEndian t.size (IntegerType.toInt x) = OzoPg.writeIntegral x := by
  rw [bigEndian, ← IntegerType.toBits_eq, Int.toNat_natCast, writeIntegral_eq, t.size_eq]

/-- An integer is written as its two's complement in network byte order, reading takes these bytes
and no more and gives the integer, and whatever bytes of that number are read are written again. -/
theorem network_byte_order (t : IntegerType) (x : t.Val) (buf : TypedBuffer t.Val)
    (out rest : Bytes) :
    writeIntegral out x = out ++ bigEndian t.size (IntegerType.toInt x) ∧
    (bigEndian t.size (IntegerType.toInt x)).length = t.size ∧
    readIntegral buf ⟨bigEndian t.size (IntegerType.toInt x) ++ rest, false⟩ = (x, ⟨rest, false⟩) ∧
    ∀ used : Bytes, used.length = t.size →
      ∃ y, readIntegral buf ⟨used ++ rest, false⟩ = (y, ⟨rest, false⟩) ∧
        writeIntegral out y = out ++ used := by
  have htakes := takes_readIntegral buf
  rw [bigEndian_toInt]
  refine ⟨writeIntegral_refines out x, ?_, htakes.memberReads_writeIntegral x rest, ?_⟩
  · rw [length_writeIntegral, t.size_eq]
  · intro used hlen
    rw [← t.size_eq] at hlen
    refine ⟨_, htakes.full used hlen rest, ?_⟩
    have hbits : decodeBE used < 256 ^ Integral.size t.Val := hlen ▸ decodeBE_lt used
    rw [writeIntegral_refines, writeIntegral_eq, Integral.toBits_ofBits _ hbits, ← hlen,
      encodeBE_decodeBE]

theorem network_byte_order_int16 :
    writeIntegral [] (-2 : Int16) = [255, 254] ∧
    readIntegral ⟨[1, 2], rfl⟩ ⟨[255, 254, 7], false⟩ = ((-2 : Int16), ⟨[7], false⟩) ∧
    ∃ y : Int16, readIntegral ⟨[1, 2], rfl⟩ ⟨[128, 0, 7], false⟩ = (y, ⟨[7], false⟩) ∧
      writeIntegral [] y = [128, 0] := by
  obtain ⟨hwrite, -, hread, hused⟩ := network_byte_order .int16 (-2 : Int16) ⟨[1, 2], rfl⟩ [] [7]
  exact ⟨hwrite, hread, hused [128, 0] rfl⟩

end OzoPg.Machine
