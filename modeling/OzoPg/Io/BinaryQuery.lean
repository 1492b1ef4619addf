import OzoPg.Error
import OzoPg.Io.SizeLaw

/-!
# Query parameters

`include/ozo/io/binary_query.h`: the arrays that are passed to `PQsendQueryParams`. The
pointers into the buffer are computed from the lengths alone, so a parameter of length zero is
sent as SQL NULL whether it is null or not.

* `values_null_iff` — the null pointers are those of the null parameters exactly when every
  other parameter has a positive size, which only empty strings lack.
-/

namespace OzoPg

/-! ## Parameters -/

/-- A query parameter: an object of any type, or one of `nullptr` and `nullopt`. -/
inductive Param where
  | null
  | object (n : Nullability) (t : ObjectType) (v : n.Val t.Val)

namespace Param

/-- `is_null`. -/
def isNull : Param → Bool
  | .null => true
  | .object n _ v => OzoPg.isNull n v

/-- `size_of`. -/
def sizeOf : Param → SizeType
  | .null => nullStateSize
  | .object n t v => OzoPg.sizeOf t.sizeOfImpl n v

/-- `type_oid`. -/
def typeOid (m : OidMap) : Param → Oid
  | .null => nullOid
  | .object _ t _ => t.typeOid m

/-- `send`. -/
def send (m : OidMap) : Param → Bytes
  | .null => []
  | .object n t v => OzoPg.send (t.sendImpl m) n v

theorem sizeOf_of_isNull {p : Param} (h : p.isNull = true) : p.sizeOf = nullStateSize := by
  match p, h with
  | .null, _ => rfl
  | .object .nullable _ none, _ => rfl

end Param

/-! ## The query -/

/-- `binary_query`. A pointer into the buffer is its offset. -/
structure BinaryQuery where
  text : String
  buffer : Bytes
  types : List Oid
  formats : List Int32
  lengths : List Int32
  values : List (Option Nat)

/-- The last loop of the constructor: a pointer for every non-zero length. -/
def pointers : Nat → List Int32 → List (Option Nat)
  | _, [] => []
  | offset, len :: lens =>
    (if len = 0 then none else some offset) :: pointers (offset + len.toNatClampNeg) lens

/-- The constructor of `binary_query::impl_type`. The sum of the lengths is an `int`; reserving
a negative number of bytes throws. -/
def binaryQuery (text : String) (params : List Param) (m : OidMap) :
    Except Exception BinaryQuery :=
  let lengths := params.map fun p => max 0 p.sizeOf
  let total := lengths.foldr (· + ·) 0
  if total < 0 then
    .error (.lengthError total)
  else
    .ok
      { text
        buffer := params.flatMap (Param.send m)
        types := params.map (Param.typeOid m)
        formats := params.map fun _ => 1
        lengths
        values := pointers 0 lengths }

/-- What a query that is built has for lengths and pointers. -/
theorem binaryQuery_eq_ok {text : String} {params : List Param} {m : OidMap} {q : BinaryQuery}
    (h : binaryQuery text params m = .ok q) :
    q.lengths = params.map (fun p => max 0 p.sizeOf) ∧ q.values = pointers 0 q.lengths := by
  simp only [binaryQuery] at h
  split at h
  · cases h
  · cases h
    exact ⟨rfl, rfl⟩

/-! ## Null pointers

libpq takes a null pointer for a NULL. The constructor goes by the length, and zero is also the
length of an empty string. -/

/-- A pointer is null exactly for the length zero. -/
theorem pointers_none_iff (lens : List Int32) (offset i : Nat) :
    (pointers offset lens)[i]? = some none ↔ lens[i]? = some 0 := by
  induction lens generalizing offset i with
  | nil => simp [pointers]
  | cons len lens ih =>
      cases i with
      | zero => simp [pointers]
      | succ i => simpa [pointers] using ih (offset + len.toNatClampNeg) i

theorem max_zero_eq_zero_iff (s : SizeType) : max 0 s = 0 ↔ ¬ 0 < s := by
  show (if 0 ≤ s then s else 0) = 0 ↔ ¬ 0 < s
  rw [Int32.not_lt]
  split
  · next h =>
      constructor
      · intro heq
        exact heq ▸ Int32.le_refl 0
      · intro hle
        exact Int32.le_antisymm hle h
  · next h =>
      constructor
      · intro _
        exact Int32.le_of_lt (Int32.not_le.mp h)
      · intro _
        rfl

/-- The pointer of a parameter is null exactly when its size is not positive. -/
theorem value_null_iff {text : String} {params : List Param} {m : OidMap} {q : BinaryQuery}
    (h : binaryQuery text params m = .ok q) {i : Nat} {p : Param} (hp : params[i]? = some p) :
    q.values[i]? = some none ↔ ¬ 0 < p.sizeOf := by
  obtain ⟨hlengths, hvalues⟩ := binaryQuery_eq_ok h
  rw [hvalues, pointers_none_iff, hlengths, List.getElem?_map, hp, Option.map_some,
    Option.some_inj]
  exact max_zero_eq_zero_iff p.sizeOf

/-- Null pointers stand for the null parameters and for no others. -/
def NullsFaithful (params : List Param) (q : BinaryQuery) : Prop :=
  ∀ (i : Nat) (p : Param), params[i]? = some p → (q.values[i]? = some none ↔ p.isNull = true)

/-- Only the announced size decides about a null pointer. -/
theorem nullsFaithful_iff {text : String} {params : List Param} {m : OidMap} {q : BinaryQuery}
    (h : binaryQuery text params m = .ok q) :
    NullsFaithful params q ↔ ∀ p ∈ params, p.isNull = false → 0 < p.sizeOf := by
  constructor
  · intro hnull p hmem hp
    obtain ⟨i, hi⟩ := List.getElem?_of_mem hmem
    by_contra hsize
    have hisNull := (hnull i p hi).mp ((value_null_iff h hi).mpr hsize)
    rw [hp] at hisNull
    cases hisNull
  · intro hsize i p hi
    rw [value_null_iff h hi]
    cases hp : p.isNull with
    | true =>
        rw [Param.sizeOf_of_isNull hp]
        decide
    | false => simp [hsize p (List.mem_of_getElem? hi) hp]

/-! ## Empty strings -/

/-- An empty value of one of the types that are written as they are. -/
def ObjectType.IsEmptyString : (t : ObjectType) → t.Val → Prop
  | .element (.scalar .text), v => v = []
  | .element (.scalar .bytea), v => v = []
  | .element (.scalar .name), v => v = []
  | .element (.scalar .json), v => v = []
  | _, _ => False

/-- Every other object writes at least a byte. -/
theorem sendImpl_eq_nil_iff (m : OidMap) (t : ObjectType) (v : t.Val) :
    t.sendImpl m v = [] ↔ t.IsEmptyString v := by
  cases t with
  | array c n e =>
      apply iff_of_false _ id
      intro h
      have hlen := length_sendImpl_array m c n e v
      rw [h, List.length_nil] at hlen
      omega
  | element e =>
      cases e with
      | composite a d ms =>
          apply iff_of_false _ id
          intro h
          have hlen := length_sendImpl_composite m a d ms v
          rw [show (ElementType.composite a d ms).sendImpl m v = [] from h,
            List.length_nil] at hlen
          omega
      | scalar s =>
          cases hs : s.size with
          | none => cases s <;> cases hs <;> first | exact Iff.rfl | exact iff_of_false nofun id
          | some k =>
              have hlen := length_sendImpl_scalar hs v
              apply iff_of_false
              · -- no scalar of a fixed size has size zero
                intro h
                rw [show s.sendImpl v = [] from h] at hlen
                cases s <;> cases hs <;> cases hlen
              · cases s <;> cases hs <;> exact id

/-- Among the objects that are not null, only an empty string has no bytes. -/
theorem sizeOf_pos_iff {m : OidMap} {n : Nullability} {t : ObjectType} {v : n.Val t.Val}
    (hlaw : SizeLaw m n t v) (hnull : isNull n v = false) :
    0 < sizeOf t.sizeOfImpl n v ↔ ¬ n.All t.IsEmptyString v := by
  have hempty : n.All t.IsEmptyString v ↔ send (t.sendImpl m) n v = [] := by
    match n, v, hnull with
    | .plain, v, _ => exact (sendImpl_eq_nil_iff m t v).symm
    | .nullable, some v, _ => exact (sendImpl_eq_nil_iff m t v).symm
  rw [Int32.lt_iff_toInt_lt, ← hlaw.object hnull, hempty, ← List.length_eq_zero_iff]
  simp only [Int32.toInt_zero]
  omega

/-- The parameter is an empty string, wrapped or not. -/
def Param.IsEmptyString : Param → Prop
  | .null => False
  | .object n t v => OzoPg.isNull n v = false ∧ n.All t.IsEmptyString v

theorem Param.sizeOf_pos_iff {m : OidMap} {p : Param}
    (hlaw : ∀ n t v, p = .object n t v → SizeLaw m n t v) :
    (p.isNull = false → 0 < p.sizeOf) ↔ ¬ p.IsEmptyString := by
  match p with
  | .null => exact iff_of_true nofun id
  | .object n t v =>
      show (OzoPg.isNull n v = false → 0 < OzoPg.sizeOf t.sizeOfImpl n v)
        ↔ ¬ (OzoPg.isNull n v = false ∧ n.All t.IsEmptyString v)
      rw [not_and]
      exact forall_congr' fun hnull => OzoPg.sizeOf_pos_iff (hlaw n t v rfl) hnull

/-- Null pointers stand for null parameters exactly when every parameter that is not null has a
positive size; for parameters that announce what they write, exactly when no parameter is an
empty string. -/
theorem values_null_iff (text : String) (params : List Param) (m : OidMap) (q : BinaryQuery)
    (h : binaryQuery text params m = .ok q) :
    (NullsFaithful params q ↔ ∀ p ∈ params, p.isNull = false → 0 < p.sizeOf) ∧
    ((∀ n t v, .object n t v ∈ params → SizeLaw m n t v) →
      (NullsFaithful params q ↔ ∀ p ∈ params, ¬ p.IsEmptyString)) := by
  constructor
  · exact nullsFaithful_iff h
  · intro hlaw
    rw [nullsFaithful_iff h]
    apply forall₂_congr
    intro p hmem
    apply Param.sizeOf_pos_iff (m := m)
    intro n t v hp
    exact hlaw n t v (hp ▸ hmem)

/-- An empty string is passed as a null pointer. -/
theorem values_empty_string :
    (Param.object .plain (.element (.scalar .text)) []).isNull = false ∧
    (binaryQuery "SELECT $1" [.object .plain (.element (.scalar .text)) []] ⟨[]⟩).map
      (·.values) = .ok [none] := by
  decide

/-- A number and a null are passed as they are. -/
theorem values_number_and_null :
    NullsFaithful [.object .plain (.element (.scalar .int4)) (7 : Int32), .null]
      { text := "SELECT $1, $2", buffer := [0, 0, 0, 7], types := [23, 0], formats := [1, 1]
        lengths := [4, 0], values := [some 0, none] } := by
  refine (values_null_iff "SELECT $1, $2" _ ⟨[]⟩ _ (by rfl)).1.mpr ?_
  intro p hmem hp
  simp only [List.mem_cons, List.not_mem_nil, or_false] at hmem
  rcases hmem with rfl | rfl
  · decide
  · cases hp

end OzoPg
