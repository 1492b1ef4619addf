import Mathlib.Algebra.Ring.Nat
import Mathlib.Tactic.Common

/-!
# Base-256 positional notation

The bytes of a natural number, least significant first (`encodeLE`) and most significant
first (`encodeBE`), and back. Both directions are inverse on the numbers that fit the chosen
width, which is all a fixed-width integer codec needs.
-/

namespace OzoPg.Positional

/-- The `n` low bytes of `x`, least significant first. -/
def encodeLE : Nat → Nat → List UInt8
  | 0, _ => []
  | n + 1, x => UInt8.ofNat x :: encodeLE n (x / 256)

/-- The number whose bytes, least significant first, are `bs`. -/
def decodeLE : List UInt8 → Nat
  | [] => 0
  | b :: bs => b.toNat + 256 * decodeLE bs

/-- The `n` low bytes of `x`, most significant first. -/
def encodeBE (n x : Nat) : List UInt8 := (encodeLE n x).reverse

/-- The number whose bytes, most significant first, are `bs`. -/
def decodeBE (bs : List UInt8) : Nat := decodeLE bs.reverse

/-! ## Lengths and bounds -/

@[simp] theorem length_encodeLE (n x : Nat) : (encodeLE n x).length = n := by
  induction n generalizing x with
  | zero => rfl
  | succ n ih => simp [encodeLE, ih]

@[simp] theorem length_encodeBE (n x : Nat) : (encodeBE n x).length = n := by
  simp [encodeBE]

theorem decodeLE_lt (bs : List UInt8) : decodeLE bs < 256 ^ bs.length := by
  induction bs with
  | nil => simp [decodeLE]
  | cons b bs ih =>
      have hb : b.toNat < 256 := b.toNat_lt
      simp only [decodeLE, List.length_cons, Nat.pow_succ]
      omega

theorem decodeBE_lt (bs : List UInt8) : decodeBE bs < 256 ^ bs.length := by
  simpa [decodeBE] using decodeLE_lt bs.reverse

/-! ## Round trips -/

/-- Numbers that fit survive. -/
theorem decodeLE_encodeLE {n x : Nat} (h : x < 256 ^ n) : decodeLE (encodeLE n x) = x := by
  induction n generalizing x with
  | zero =>
      have hx : x = 0 := by simpa using h
      simp [encodeLE, decodeLE, hx]
  | succ n ih =>
      have hdiv : x / 256 < 256 ^ n := by
        rw [Nat.pow_succ] at h
        omega
      simp only [encodeLE, decodeLE, ih hdiv, UInt8.toNat_ofNat']
      omega

/-- Bytes survive always. -/
theorem encodeLE_decodeLE (bs : List UInt8) : encodeLE bs.length (decodeLE bs) = bs := by
  induction bs with
  | nil => rfl
  | cons b bs ih =>
      have hb : b.toNat < 256 := b.toNat_lt
      have hhead : UInt8.ofNat (b.toNat + 256 * decodeLE bs) = b := by
        apply UInt8.toNat_inj.mp
        rw [UInt8.toNat_ofNat']
        omega
      have htail : (b.toNat + 256 * decodeLE bs) / 256 = decodeLE bs := by omega
      simp only [decodeLE, List.length_cons, encodeLE, hhead, htail, ih]

theorem decodeBE_encodeBE {n x : Nat} (h : x < 256 ^ n) : decodeBE (encodeBE n x) = x := by
  rw [decodeBE, encodeBE, List.reverse_reverse, decodeLE_encodeLE h]

theorem encodeBE_decodeBE (bs : List UInt8) : encodeBE bs.length (decodeBE bs) = bs := by
  have h := encodeLE_decodeLE bs.reverse
  rw [List.length_reverse] at h
  rw [encodeBE, decodeBE, h, List.reverse_reverse]

/-! ## Byte reversal

Moving byte `i` of an `n`-byte number to byte `n - 1 - i`, one shifted byte at a time, turns
one notation into the other. -/

/-- The bytes of `x` reversed within `n` bytes, as a disjunction of shifted bytes. -/
def reverseBytes (n x : Nat) : Nat :=
  (List.range n).foldr
    (fun i acc => (((x >>> (i * 8)) &&& 255) <<< ((n - 1 - i) * 8)) ||| acc) 0

/-- The lowest byte goes to the top. -/
theorem reverseBytes_succ (n x : Nat) :
    reverseBytes (n + 1) x = ((x &&& 255) <<< (n * 8)) ||| reverseBytes n (x >>> 8) := by
  unfold reverseBytes
  rw [List.range_succ_eq_map, List.foldr_cons, List.foldr_map]
  congr 2
  funext i acc
  have hshift : x >>> ((i + 1) * 8) = (x >>> 8) >>> (i * 8) := by
    rw [← Nat.shiftRight_add]
    congr 1
    omega
  have hpos : n + 1 - 1 - (i + 1) = n - 1 - i := by omega
  rw [Nat.succ_eq_add_one, hshift, hpos]

/-- The bytes behind weigh more. -/
theorem decodeLE_append (as bs : List UInt8) :
    decodeLE (as ++ bs) = decodeLE as + 256 ^ as.length * decodeLE bs := by
  induction as with
  | nil => simp [decodeLE]
  | cons a as ih =>
      simp only [List.cons_append, decodeLE, ih, List.length_cons, Nat.pow_succ]
      rw [Nat.mul_add, ← Nat.mul_assoc, Nat.mul_comm 256 (256 ^ as.length), Nat.add_assoc]

/-- Reversing the bytes of a number is reading its little-endian bytes as big-endian ones. -/
theorem reverseBytes_eq (n x : Nat) : reverseBytes n x = decodeBE (encodeLE n x) := by
  induction n generalizing x with
  | zero => rfl
  | succ n ih =>
      have hlt : decodeBE (encodeLE n (x / 256)) < 2 ^ (n * 8) := by
        have h := decodeBE_lt (encodeLE n (x / 256))
        rw [length_encodeLE] at h
        calc decodeBE (encodeLE n (x / 256)) < 256 ^ n := h
          _ = 2 ^ (n * 8) := by rw [Nat.mul_comm, Nat.pow_mul]
      have hshift : x >>> 8 = x / 256 := by rw [Nat.shiftRight_eq_div_pow]
      have hlow : x &&& 255 = x % 256 := Nat.and_two_pow_sub_one_eq_mod x 8
      have hpow : (256 : Nat) ^ n = 2 ^ (n * 8) := by rw [Nat.mul_comm, Nat.pow_mul]
      rw [reverseBytes_succ, hshift, ih, hlow, ← Nat.shiftLeft_add_eq_or_of_lt hlt]
      simp only [decodeBE, encodeLE, List.reverse_cons, decodeLE_append, decodeLE,
        List.length_reverse, length_encodeLE, UInt8.toNat_ofNat', Nat.shiftLeft_eq, hpow]
      rw [Nat.mul_zero, Nat.add_zero, Nat.mul_comm, Nat.add_comm]

/-- The little-endian bytes of the reversed number are the big-endian bytes of the number. -/
theorem encodeLE_reverseBytes (n x : Nat) : encodeLE n (reverseBytes n x) = encodeBE n x := by
  have h := encodeLE_decodeLE (encodeLE n x).reverse
  rw [List.length_reverse, length_encodeLE] at h
  rw [reverseBytes_eq, decodeBE, h, encodeBE]

/-- Reversing the number read from little-endian bytes reads them as big-endian ones. -/
theorem reverseBytes_decodeLE (bs : List UInt8) :
    reverseBytes bs.length (decodeLE bs) = decodeBE bs := by
  rw [reverseBytes_eq, encodeLE_decodeLE]

end OzoPg.Positional
