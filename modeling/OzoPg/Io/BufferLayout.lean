import OzoPg.Lib.Growable
import OzoPg.Io.BinaryQuery

/-!
# The layout of the parameter buffer

The constructor of `binary_query` goes over the parameters three times: it takes their sizes,
writes them to a growing buffer and computes pointers into the buffer from the sizes. For
parameters that announce as many bytes as they write the three agree.

`binaryQueryImpl` is the constructor with the buffer as the vector it is: `send` writes to it
piece by piece, it may move while it grows, and the pointers are taken when all is written.

* `binaryQueryImpl_eq` — it refines `binaryQuery`, whose pointers are offsets;
* `buffer_layout` — every pointer points at the bytes of its parameter.
-/

namespace OzoPg

open Growable (Buffer Pointer)

/-- `binary_query::impl_type`. -/
structure BinaryQueryImpl where
  text : String
  buffer : Buffer UInt8
  types : List Oid
  formats : List Int32
  lengths : List Int32
  values : List (Option Pointer)

/-- The constructor of `binary_query::impl_type`. The parameter `p` is written in the pieces
`writes p`, and the vector grows by any policy. -/
def binaryQueryImpl (growth : Nat → Nat) (writes : Param → List Bytes) (text : String)
    (params : List Param) (m : OidMap) : Except Exception BinaryQueryImpl :=
  let lengths := params.map fun p => max 0 p.sizeOf
  let total := lengths.foldr (· + ·) 0
  if total < 0 then
    .error (.lengthError total)
  else
    let buffer := (params.flatMap writes).foldl (Buffer.append growth)
      (Buffer.empty.reserve total.toNatClampNeg)
    .ok
      { text
        buffer
        types := params.map (Param.typeOid m)
        formats := params.map fun _ => 1
        lengths
        values := (pointers 0 lengths).map (Option.map buffer.pointer) }

/-- The buffer is that of `binaryQuery`, and the pointers are its offsets in the final block. -/
theorem binaryQueryImpl_eq (growth : Nat → Nat) {writes : Param → List Bytes} {text : String}
    {params : List Param} {m : OidMap} {q : BinaryQuery}
    (hwrites : ∀ p, (writes p).flatten = p.send m) (h : binaryQuery text params m = .ok q) :
    ∃ q', binaryQueryImpl growth writes text params m = .ok q' ∧ q'.buffer.data = q.buffer ∧
      q'.types = q.types ∧ q'.formats = q.formats ∧ q'.lengths = q.lengths ∧
      q'.values = q.values.map (Option.map q'.buffer.pointer) := by
  simp only [binaryQuery] at h
  split at h
  · cases h
  · next htotal =>
      cases h
      have hflatten : (params.flatMap writes).flatten = params.flatMap (Param.send m) := by
        rw [List.flatMap_def, List.flatten_flatten, List.map_map, List.flatMap_def]
        exact congrArg List.flatten (List.map_congr_left fun p _ => hwrites p)
      refine ⟨_, if_neg htotal, ?_, rfl, rfl, rfl, rfl⟩
      rw [Buffer.data_foldl_append, Buffer.data_reserve, hflatten]
      rfl

/-! ## Lengths -/

/-- The parameter announces what it writes. -/
def Param.AnnouncesSize (m : OidMap) (p : Param) : Prop :=
  p.isNull = false → p.sizeOf.toInt = (p.send m).length

theorem Param.send_of_isNull (m : OidMap) {p : Param} (h : p.isNull = true) : p.send m = [] := by
  match p, h with
  | .null, _ => rfl
  | .object .nullable _ none, _ => rfl

/-- The length passed for a parameter is the number of its bytes, none for a null. -/
theorem Param.toInt_length {m : OidMap} {p : Param} (h : p.AnnouncesSize m) :
    (max 0 p.sizeOf).toInt = (p.send m).length := by
  cases hp : p.isNull with
  | true =>
      rw [p.sizeOf_of_isNull hp, p.send_of_isNull m hp]
      rfl
  | false =>
      have hsize := h hp
      have hle : 0 ≤ p.sizeOf := Int32.le_iff_toInt_le.mpr (by rw [hsize, Int32.toInt_zero]; omega)
      rw [← hsize]
      show (if 0 ≤ p.sizeOf then p.sizeOf else 0).toInt = p.sizeOf.toInt
      rw [if_pos hle]

section Announced

variable {m : OidMap} {params : List Param}

/-- Where the bytes of a parameter start: behind those of the parameters before it. -/
def startOf (m : OidMap) (params : List Param) (i : Nat) : Nat :=
  ((params.take i).flatMap (Param.send m)).length

/-- The sum of the lengths does not overflow. -/
theorem toInt_total (hsize : ∀ p ∈ params, p.AnnouncesSize m)
    (htotal : (params.flatMap (Param.send m)).length < 2 ^ 31) :
    Int32.toInt ((params.map fun p => max 0 p.sizeOf).foldr (· + ·) 0)
      = ((params.flatMap (Param.send m)).length : Int) := by
  induction params with
  | nil => rfl
  | cons p ps ih =>
      rw [List.flatMap_cons, List.length_append] at htotal ⊢
      have hrest := ih (fun q hq => hsize q (List.mem_cons_of_mem p hq)) (by omega)
      have hlength := Param.toInt_length (hsize p List.mem_cons_self)
      rw [List.map_cons, List.foldr_cons, Int32.toInt_add, hlength, hrest]
      exact Int.bmod_eq_of_le (by omega) (by omega)

/-- The buffer of a query is what the parameters write, one behind the other. -/
theorem exists_binaryQuery (text : String) (hsize : ∀ p ∈ params, p.AnnouncesSize m)
    (htotal : (params.flatMap (Param.send m)).length < 2 ^ 31) :
    binaryQuery text params m = .ok
      { text
        buffer := params.flatMap (Param.send m)
        types := params.map (Param.typeOid m)
        formats := params.map fun _ => 1
        lengths := params.map fun p => max 0 p.sizeOf
        values := pointers 0 (params.map fun p => max 0 p.sizeOf) } := by
  apply if_neg
  rw [Int32.lt_iff_toInt_lt, toInt_total hsize htotal, Int32.toInt_zero]
  omega

/-- The pointers are at the sums of the lengths before them. -/
theorem pointers_getElem? (hsize : ∀ p ∈ params, p.AnnouncesSize m) (offset : Nat) {i : Nat}
    {p : Param} (hp : params[i]? = some p) :
    (pointers offset (params.map fun p => max 0 p.sizeOf))[i]? =
      some (if max 0 p.sizeOf = 0 then none else some (offset + startOf m params i)) := by
  induction params generalizing offset i with
  | nil => cases hp
  | cons q qs ih =>
      cases i with
      | zero =>
          cases hp
          rfl
      | succ i =>
          have hlength := Param.toInt_length (hsize q List.mem_cons_self)
          have hnat : (max 0 q.sizeOf).toNatClampNeg = (q.send m).length := by
            rw [Int32.toNatClampNeg, hlength, Int.toNat_natCast]
          have hrest := ih (fun q' hq' => hsize q' (List.mem_cons_of_mem q hq'))
            (offset + (q.send m).length) hp
          rw [List.map_cons, pointers, List.getElem?_cons_succ, hnat, hrest, startOf, startOf,
            List.take_succ_cons, List.flatMap_cons, List.length_append, Nat.add_assoc]

/-- The bytes of a parameter stand between those before it and those behind it. -/
theorem flatMap_send_eq {i : Nat} {p : Param} (hp : params[i]? = some p) :
    params.flatMap (Param.send m) = (params.take i).flatMap (Param.send m)
      ++ (p.send m ++ (params.drop (i + 1)).flatMap (Param.send m)) := by
  obtain ⟨hi, rfl⟩ := List.getElem?_eq_some_iff.mp hp
  rw [← List.flatMap_cons, ← List.drop_eq_getElem_cons hi, ← List.flatMap_append,
    List.take_append_drop]

end Announced

/-! ## The layout

The pointers are taken when the buffer is complete and has its final block. Taken earlier, they
would not survive the next growth. -/

/-- What the query has for the parameter `p` at the position `i`. -/
structure LaidOutAt (params : List Param) (m : OidMap) (q : BinaryQueryImpl) (i : Nat)
    (p : Param) : Prop where
  type : q.types[i]? = some (p.typeOid m)
  format : q.formats[i]? = some 1
  length : ∃ len : Int32, q.lengths[i]? = some len ∧ len.toInt = (p.send m).length
  /-- A pointer that is valid when the query has been built, and the bytes it points at. -/
  value : p.send m ≠ [] → ∃ ptr, q.values[i]? = some (some ptr) ∧
    ptr = q.buffer.pointer (startOf m params i) ∧
    q.buffer.read ptr (p.send m).length = some (p.send m)
  null : p.send m = [] → q.values[i]? = some none

/-- The layout of the whole query: the slices of the parameters follow each other and cover the
buffer. -/
structure LaidOut (params : List Param) (m : OidMap) (q : BinaryQueryImpl) : Prop where
  at_ : ∀ i p, params[i]? = some p → LaidOutAt params m q i p
  first : startOf m params 0 = 0
  next : ∀ i p, params[i]? = some p →
    startOf m params (i + 1) = startOf m params i + (p.send m).length
  disjoint : ∀ i j p, i < j → params[i]? = some p →
    startOf m params i + (p.send m).length ≤ startOf m params j
  cover : startOf m params params.length = q.buffer.data.length

/-- The slices follow each other without a gap. -/
theorem startOf_succ {m : OidMap} {params : List Param} {i : Nat} {p : Param}
    (hp : params[i]? = some p) :
    startOf m params (i + 1) = startOf m params i + (p.send m).length := by
  rw [startOf, startOf, List.take_add_one, hp, Option.toList_some, List.flatMap_append,
    List.length_append, List.flatMap_singleton]

theorem startOf_mono (m : OidMap) (params : List Param) {i j : Nat} (h : i ≤ j) :
    startOf m params i ≤ startOf m params j := by
  obtain ⟨rest, hrest⟩ := List.take_prefix_take_left h
  rw [startOf, startOf, ← hrest, List.flatMap_append, List.length_append]
  exact Nat.le_add_right _ _

/-- Parameters that announce what they write, and not too much altogether, are laid out one
behind the other, with valid pointers to each of them. -/
theorem buffer_layout (growth : Nat → Nat) (writes : Param → List Bytes) (text : String)
    (params : List Param) (m : OidMap) (hwrites : ∀ p, (writes p).flatten = p.send m)
    (hsize : ∀ p ∈ params, p.isNull = false → p.sizeOf.toInt = (p.send m).length)
    (htotal : (params.flatMap (Param.send m)).length < 2 ^ 31) :
    ∃ q, binaryQueryImpl growth writes text params m = .ok q ∧ LaidOut params m q := by
  obtain ⟨q, hq, hbuffer, htypes, hformats, hlengths, hvalues⟩ :=
    binaryQueryImpl_eq growth hwrites (exists_binaryQuery text hsize htotal)
  refine ⟨q, hq, ?_, rfl, fun i p => startOf_succ, ?_, ?_⟩
  · intro i p hp
    have hlength := Param.toInt_length (hsize p (List.mem_of_getElem? hp))
    -- a length of zero stands for no bytes, and for a null pointer
    have hzero : max 0 p.sizeOf = 0 ↔ p.send m = [] := by
      rw [← Int32.toInt_inj, hlength, Int32.toInt_zero, ← List.length_eq_zero_iff]
      exact Int.natCast_eq_zero
    have hpointer := pointers_getElem? hsize 0 hp
    refine ⟨?_, ?_, ⟨max 0 p.sizeOf, ?_, hlength⟩, fun hne => ?_, fun hnil => ?_⟩
    · rw [htypes, List.getElem?_map, hp, Option.map_some]
    · rw [hformats, List.getElem?_map, hp, Option.map_some]
    · rw [hlengths, List.getElem?_map, hp, Option.map_some]
    · rw [if_neg (mt hzero.mp hne), Nat.zero_add] at hpointer
      refine ⟨q.buffer.pointer (startOf m params i), by simp [hvalues, hpointer], rfl, ?_⟩
      exact Buffer.read_pointer (hbuffer.trans (flatMap_send_eq hp))
    · rw [if_pos (hzero.mpr hnil)] at hpointer
      simp [hvalues, hpointer]
  · intro i j p hij hp
    rw [← startOf_succ hp]
    exact startOf_mono m params hij
  · rw [startOf, List.take_length, hbuffer]

/-- A number, a null and a string, each written at once. -/
def threeParams : List Param :=
  [.object .plain (.element (.scalar .int4)) (7 : Int32), .null,
    .object .plain (.element (.scalar .text)) [104, 105]]

theorem buffer_layout_threeParams :
    (threeParams.flatMap (Param.send ⟨[]⟩)).length = 6 ∧
      ∃ q, binaryQueryImpl (fun n => n) (fun p => [p.send ⟨[]⟩]) "SELECT $1, $2, $3" threeParams
          ⟨[]⟩
        = .ok q ∧ LaidOut threeParams ⟨[]⟩ q := by
  refine ⟨by decide, buffer_layout _ _ _ _ _ (fun p => by simp) ?_ (by decide)⟩
  intro p hmem hp
  simp only [threeParams, List.mem_cons, List.not_mem_nil, or_false] at hmem
  rcases hmem with rfl | rfl | rfl
  · decide
  · cases hp
  · decide

end OzoPg
