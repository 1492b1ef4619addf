import OzoPg.Error
import OzoPg.Lib.Decoder
import OzoPg.Lib.Positional

/-!
# Byte streams

`include/ozo/io/ostream.h`, `include/ozo/io/istream.h` and `include/ozo/detail/endian.h` on a
little-endian host.

An output stream only ever appends to its buffer, so each `write` is modelled by the bytes it
appends. An input stream is the unread part of its buffer and the sticky end-of-data flag: its
member reads copy what is left, raise the flag when that is too little and go on; only the free
function `read` looks at the flag, once per call, and throws.

* `writeIntegral_eq` — integers are written in big-endian two's complement.
* `Takes` — what a member read does, closed under sequencing.
* `Takes.tight_read`, `MemberReads.read` — the same for the free function `read`.
-/

namespace OzoPg

open Positional

/-! ## Integers -/

/-- `Integral<T>`: a fixed-width integer type through its unsigned counterpart. -/
class Integral (α : Type) where
  /-- `sizeof(T)` -/
  size : Nat
  toBits : α → Nat
  ofBits : Nat → α
  toBits_lt : ∀ x, toBits x < 256 ^ size
  ofBits_toBits : ∀ x, ofBits (toBits x) = x
  toBits_ofBits : ∀ k < 256 ^ size, toBits (ofBits k) = k

instance : Integral Int16 where
  size := 2
  toBits x := x.toBitVec.toNat
  ofBits k := Int16.ofBitVec (BitVec.ofNat 16 k)
  toBits_lt x := x.toBitVec.isLt
  ofBits_toBits x := by simp
  toBits_ofBits k h := by simpa using Nat.mod_eq_of_lt h

instance : Integral Int32 where
  size := 4
  toBits x := x.toBitVec.toNat
  ofBits k := Int32.ofBitVec (BitVec.ofNat 32 k)
  toBits_lt x := x.toBitVec.isLt
  ofBits_toBits x := by simp
  toBits_ofBits k h := by simpa using Nat.mod_eq_of_lt h

instance : Integral Int64 where
  size := 8
  toBits x := x.toBitVec.toNat
  ofBits k := Int64.ofBitVec (BitVec.ofNat 64 k)
  toBits_lt x := x.toBitVec.isLt
  ofBits_toBits x := by simp
  toBits_ofBits k h := by simpa using Nat.mod_eq_of_lt h

instance : Integral UInt16 where
  size := 2
  toBits x := x.toNat
  ofBits k := UInt16.ofNat k
  toBits_lt x := x.toNat_lt
  ofBits_toBits x := by simp
  toBits_ofBits k h := by simpa using Nat.mod_eq_of_lt h

instance : Integral UInt32 where
  size := 4
  toBits x := x.toNat
  ofBits k := UInt32.ofNat k
  toBits_lt x := x.toNat_lt
  ofBits_toBits x := by simp
  toBits_ofBits k h := by simpa using Nat.mod_eq_of_lt h

instance : Integral UInt64 where
  size := 8
  toBits x := x.toNat
  ofBits k := UInt64.ofNat k
  toBits_lt x := x.toNat_lt
  ofBits_toBits x := by simp
  toBits_ofBits k h := by simpa using Nat.mod_eq_of_lt h

/-- `detail::byte_order_swap`. -/
def byteOrderSwap (size value : Nat) : Nat := reverseBytes size value

/-! ## Output -/

/-- `ostream::write` of an integer of more than one byte: the raw bytes of a `typed_buffer`
holding the swapped value. -/
def writeIntegral {α : Type} [Integral α] (x : α) : Bytes :=
  encodeLE (Integral.size α) (byteOrderSwap (Integral.size α) (Integral.toBits x))

/-- `ostream::write(bool)`. -/
def writeBool (x : Bool) : Bytes := [if x then 1 else 0]

/-- Integers go out in network byte order. -/
theorem writeIntegral_eq {α : Type} [Integral α] (x : α) :
    writeIntegral x = encodeBE (Integral.size α) (Integral.toBits x) :=
  encodeLE_reverseBytes _ _

@[simp] theorem length_writeIntegral {α : Type} [Integral α] (x : α) :
    (writeIntegral x).length = Integral.size α := by
  rw [writeIntegral_eq, length_encodeBE]

@[simp] theorem length_writeBool (x : Bool) : (writeBool x).length = 1 := rfl

/-! ## Input -/

/-- `ozo::istream`. -/
structure Istream where
  rest : Bytes
  unexpectedEof : Bool

/-- A stream over a buffer. -/
def Istream.ofBytes (data : Bytes) : Istream := ⟨data, false⟩

/-- The member functions of `istream`, which never throw. -/
abbrev MemberRead := StateM Istream

/-- `istream::read(char*, len)` into a buffer that holds `buf`. -/
def readRaw (buf : Bytes) : MemberRead Bytes := fun s =>
  let copied := s.rest.take buf.length
  (copied ++ buf.drop copied.length,
    { rest := s.rest.drop buf.length
      unexpectedEof := s.unexpectedEof || copied.length != buf.length })

/-- `istream::read` of an integer of more than one byte. -/
def readIntegral (α : Type) [Integral α] : MemberRead α := do
  let raw ← readRaw (List.replicate (Integral.size α) 0)
  return Integral.ofBits (byteOrderSwap (Integral.size α) (decodeLE raw))

/-- `istream::get`, converted back to a character: end of data reads as `0xFF`. -/
def get : MemberRead UInt8 := do
  let raw ← readRaw [0]
  let s ← MonadState.get
  return if s.unexpectedEof then 255 else raw.headD 0

/-- `istream::read(bool&)`. -/
def readBool : MemberRead Bool := do
  let tmp ← get
  return tmp != 0

/-! ## What a member read takes

A member read does not throw: it sets a flag and leaves garbage. `Takes` says at once what it does
with enough bytes and with too few. -/

/-- `r` makes `v` of the bytes `used`, whatever follows. -/
def MemberReads {α : Type} (r : MemberRead α) (used : Bytes) (v : α) : Prop :=
  ∀ rest, r ⟨used ++ rest, false⟩ = (v, ⟨rest, false⟩)

/-- `r` takes `k` bytes and makes `g` of them; when they are not there, or were not there for
an earlier read, the flag is raised. -/
structure Takes {α : Type} (k : Nat) (r : MemberRead α) (g : Bytes → α) : Prop where
  full : ∀ used, used.length = k → MemberReads r used (g used)
  short : ∀ data, data.length < k → (r ⟨data, false⟩).2.unexpectedEof = true
  sticky : ∀ data, (r ⟨data, true⟩).2.unexpectedEof = true

variable {α β : Type}

theorem MemberReads.pure (v : α) : MemberReads (Pure.pure v) [] v := fun _ => rfl

theorem MemberReads.bind {r : MemberRead α} {f : α → MemberRead β} {used used' : Bytes} {a : α}
    {v : β} (hr : MemberReads r used a) (hf : MemberReads (f a) used' v) :
    MemberReads (r >>= f) (used ++ used') v := by
  intro rest
  show f (r ⟨used ++ used' ++ rest, false⟩).1 (r ⟨used ++ used' ++ rest, false⟩).2 = _
  rw [List.append_assoc, hr (used' ++ rest)]
  exact hf rest

theorem Takes.pure (v : α) : Takes 0 (Pure.pure v) fun _ => v where
  full used hlen := by
    rw [List.length_eq_zero_iff.mp hlen]
    exact MemberReads.pure v
  short data hlen := absurd hlen (Nat.not_lt_zero _)
  sticky _ := rfl

/-- The flag of a short read stays. -/
theorem Takes.flag_mono {k : Nat} {r : MemberRead α} {g : Bytes → α} (hr : Takes k r g)
    (s : Istream) (hs : s.unexpectedEof = true) : (r s).2.unexpectedEof = true := by
  obtain ⟨rest, eof⟩ := s
  cases hs
  exact hr.sticky rest

/-- Reads of fixed sizes add up. -/
theorem Takes.bind {k k' : Nat} {r : MemberRead α} {g : Bytes → α} {f : α → MemberRead β}
    {h : α → Bytes → β} (hr : Takes k r g) (hf : ∀ a, Takes k' (f a) (h a)) :
    Takes (k + k') (r >>= f) fun used => h (g (used.take k)) (used.drop k) where
  full used hlen := by
    have htake : (used.take k).length = k := by rw [List.length_take]; omega
    have hdrop : (used.drop k).length = k' := by rw [List.length_drop]; omega
    have hread := (hr.full _ htake).bind ((hf _).full _ hdrop)
    rwa [List.take_append_drop] at hread
  short data hlen := by
    show (f (r ⟨data, false⟩).1 (r ⟨data, false⟩).2).2.unexpectedEof = true
    rcases Nat.lt_or_ge data.length k with hlt | hge
    · -- the first read runs out, the second keeps the flag
      exact (hf _).flag_mono _ (hr.short data hlt)
    · have htake : (data.take k).length = k := by rw [List.length_take]; omega
      rw [← List.take_append_drop k data, hr.full _ htake]
      apply (hf _).short
      rw [List.length_drop]
      omega
  sticky data := by
    show (f (r ⟨data, true⟩).1 (r ⟨data, true⟩).2).2.unexpectedEof = true
    exact (hf _).flag_mono _ (hr.sticky data)

theorem Takes.map {k : Nat} {r : MemberRead α} {g : Bytes → α} (hr : Takes k r g) (f : α → β) :
    Takes k (f <$> r) (fun used => f (g used)) where
  full used hlen rest := by
    show (f (r ⟨used ++ rest, false⟩).1, (r ⟨used ++ rest, false⟩).2) = _
    rw [hr.full used hlen rest]
  short data hlen := hr.short data hlen
  sticky data := hr.sticky data

theorem Takes.congr {k : Nat} {r : MemberRead α} {g g' : Bytes → α} (hr : Takes k r g)
    (h : ∀ used, used.length = k → g used = g' used) : Takes k r g' where
  full used hlen := h used hlen ▸ hr.full used hlen
  short := hr.short
  sticky := hr.sticky

theorem takes_readRaw (buf : Bytes) : Takes buf.length (readRaw buf) id where
  full used hlen rest := by
    have hdrop : buf.drop used.length = [] := List.drop_eq_nil_of_le (by omega)
    simp [readRaw, ← hlen, hdrop]
  short data hlen := by
    have hmin : min buf.length data.length ≠ buf.length := by omega
    simp [readRaw, hmin]
  sticky data := by simp [readRaw]

/-- An integer takes its size and is big-endian. -/
theorem takes_readIntegral (α : Type) [Integral α] :
    Takes (Integral.size α) (readIntegral α) (fun used => Integral.ofBits (decodeBE used)) where
  full used hlen rest := by
    have hraw := (takes_readRaw (List.replicate (Integral.size α) 0)).full used
      (by rw [hlen, List.length_replicate]) rest
    show (Integral.ofBits (byteOrderSwap (Integral.size α)
        (decodeLE (readRaw (List.replicate (Integral.size α) 0) ⟨used ++ rest, false⟩).1)),
      (readRaw (List.replicate (Integral.size α) 0) ⟨used ++ rest, false⟩).2) = _
    rw [hraw, id_eq, byteOrderSwap, ← hlen, reverseBytes_decodeLE]
  short data hlen :=
    (takes_readRaw (List.replicate (Integral.size α) 0)).short data
      (by rw [List.length_replicate]; exact hlen)
  sticky data := (takes_readRaw _).sticky data

/-- A read of big-endian bytes reads back what was written. -/
theorem Takes.memberReads_writeIntegral [Integral α] {r : MemberRead α}
    (hr : Takes (Integral.size α) r (fun used => Integral.ofBits (decodeBE used))) (x : α) :
    MemberReads r (writeIntegral x) x := by
  have hread := hr.full (writeIntegral x) (length_writeIntegral x)
  rwa [writeIntegral_eq, decodeBE_encodeBE (Integral.toBits_lt x), Integral.ofBits_toBits,
    ← writeIntegral_eq] at hread

/-- An integer is read back as it was written. -/
theorem memberReads_writeIntegral {α : Type} [Integral α] (x : α) :
    MemberReads (readIntegral α) (writeIntegral x) x :=
  (takes_readIntegral α).memberReads_writeIntegral x

theorem takes_get : Takes 1 get (fun used => used.headD 0) where
  full used hlen rest := by
    obtain ⟨b, rfl⟩ := List.length_eq_one_iff.mp hlen
    rfl
  short data hlen := by
    have hnil : data = [] := List.length_eq_zero_iff.mp (by omega)
    subst hnil
    rfl
  sticky data := by
    cases data <;> rfl

theorem takes_readBool : Takes 1 readBool (fun used => used.headD 0 != 0) :=
  takes_get.map (fun tmp => tmp != 0)

/-! ## The throwing read -/

/-- Decoding from an input stream. -/
abbrev Recv := Decoder Istream Exception

/-- The free function `read`. -/
def read {α : Type} (r : MemberRead α) : Recv α := fun s =>
  if (r s).2.unexpectedEof then .error .unexpectedEof else .ok (r s)

/-- The free function `read` throws for a flag that is not set here. -/
theorem MemberReads.read {r : MemberRead α} {used : Bytes} {v : α} (hr : MemberReads r used v) :
    Decoder.Reads Istream.ofBytes (read r) used v := by
  intro rest
  simp only [OzoPg.read, Istream.ofBytes, hr rest]
  rfl

/-- Where bytes are missing it throws. -/
theorem Takes.read_short {k : Nat} {r : MemberRead α} {g : Bytes → α} (hr : Takes k r g)
    {data : Bytes} (hlen : data.length < k) :
    read r (.ofBytes data) = .error .unexpectedEof :=
  if_pos (hr.short data hlen)

theorem Takes.read_eq_ok {k : Nat} {r : MemberRead α} {g : Bytes → α} (hr : Takes k r g)
    {data : Bytes} {v : α} {rest : Istream} (h : read r (.ofBytes data) = .ok (v, rest)) :
    k ≤ data.length ∧ v = g (data.take k) ∧ rest = .ofBytes (data.drop k) := by
  rcases Nat.lt_or_ge data.length k with hlt | hge
  · rw [hr.read_short hlt] at h
    cases h
  · have htake : (data.take k).length = k := by rw [List.length_take]; omega
    have hrun := (hr.full _ htake).read (data.drop k)
    rw [List.take_append_drop, h] at hrun
    cases hrun
    exact ⟨hge, rfl, rfl⟩

/-- A read of a fixed size looks at no other bytes. -/
theorem Takes.tight_read {k : Nat} {r : MemberRead α} {g : Bytes → α} (hr : Takes k r g) :
    Decoder.Tight Istream.ofBytes .unexpectedEof (read r) := by
  intro input v t h
  obtain ⟨hle, rfl, rfl⟩ := hr.read_eq_ok h
  have htake : (input.take k).length = k := by rw [List.length_take]; omega
  refine ⟨input.take k, input.drop k, (List.take_append_drop k input).symm, rfl,
    (hr.full _ htake).read, ?_⟩
  intro j hj
  apply hr.read_short
  rw [List.length_take]
  omega

end OzoPg
