import OzoPg.Io.Recv
import OzoPg.Io.SizeLaw

/-!
# Round trip

`recv_frame` undoes `send_frame`, up to two things. The decoder takes the sizes of strings from the
frames and otherwise only asks whether a size is the null marker `-1`, so no object which is not
null may announce `-1`. And it writes into an object that exists already: an array without elements
leaves a container as it is, so where one is sent the container has to be empty. A
default-constructed object need not be, since a struct may give its members initializers.

* `NotNullSized` — the first condition for one object.
* `Overwrites` — the second: receiving `v` leaves nothing of what the object held.
* `recvFrame_sendFrame_iff` — the round trip of an object without time points and intervals works
  exactly when the first holds of the object and of everything inside it, and the second.
-/

namespace OzoPg

open Decoder

/-- The decoder makes `v` of the bytes `used` exactly when `c` holds. -/
abbrev RoundTripIff {α : Type} (c : Prop) (p : Recv α) (used : Bytes) (v : α) : Prop :=
  ReadsIff Istream.ofBytes c p used v

/-- An object that is not null does not announce the size of a null. -/
def NotNullSized : ObjectProperty := fun n t v =>
  isNull n v = false → sizeOf t.sizeOfImpl n v ≠ nullStateSize

/-- A relation between a value and the object it is received into, trivial for a null; `fresh` is
the object that is allocated where there is none. -/
def Nullability.Over {α : Type} (fresh : α) (R : α → α → Prop) :
    (n : Nullability) → (v out : n.Val α) → Prop
  | .plain, v, out => R v out
  | .nullable, none, _ => True
  | .nullable, some v, out => R v (out.getD fresh)

mutual

/-- A value of an element type takes the place of all that an object holds. -/
def ElementType.Overwrites (cs : Constructors) : (e : ElementType) → (v out : e.Val) → Prop
  | .scalar _, _, _ => True
  | .composite _ _ ms, v, out => ms.Overwrites cs v out

/-- A value takes the place of all that an object holds: an array without elements meets a container
without elements, and the elements do so with those they are received into. -/
def ObjectType.Overwrites (cs : Constructors) : (t : ObjectType) → (v out : t.Val) → Prop
  | .element e, v, out => e.Overwrites cs v out
  | .array _ n e, v, out => (v.items = [] → out.items = []) ∧
    List.Forall₂ (n.Over (e.default cs) (e.Overwrites cs)) v.items
      (resize (n.default (e.default cs)) v.items.length out.items)

/-- The members of a composite take the place of all that an object holds. -/
def MemberTypes.Overwrites (cs : Constructors) : (ms : MemberTypes) → (v out : ms.Val) → Prop
  | .nil, _, _ => True
  | .cons n t ms, v, out =>
    n.Over (t.default cs) (t.Overwrites cs) v.1 out.1 ∧ ms.Overwrites cs v.2 out.2

end

/-- Receiving `v` leaves nothing of what `out` held. -/
def Overwrites (cs : Constructors) (n : Nullability) (t : ObjectType) (v out : n.Val t.Val) :
    Prop :=
  n.Over (t.default cs) (t.Overwrites cs) v out

mutual

/-- No `timestamp` and no `interval` in an element type. -/
def ElementType.Timeless : ElementType → Prop
  | .scalar s => s ≠ .timestamp ∧ s ≠ .interval
  | .composite _ _ ms => ms.Timeless

/-- No `timestamp` and no `interval` in a type. -/
def ObjectType.Timeless : ObjectType → Prop
  | .element e => e.Timeless
  | .array _ _ e => e.Timeless

/-- No `timestamp` and no `interval` in the members of a composite. -/
def MemberTypes.Timeless : MemberTypes → Prop
  | .nil => True
  | .cons _ t ms => t.Timeless ∧ ms.Timeless

end

/-! ## Scalars -/

theorem not_ofNat_lt_zero {k : Nat} (h : k < 2 ^ 31) : ¬ Int32.ofNat k < 0 :=
  Int32.not_lt.mpr (Int32.zero_le_ofNat_of_lt h)

/-- The size check of a static type passes for its own size. -/
theorem reads_recvStatic {α : Type} {expected : SizeType} {r : MemberRead α} {used : Bytes} {v : α}
    (h : MemberReads r used v) : Reads Istream.ofBytes (recvStatic expected r expected) used v := by
  rw [recvStatic, if_neg (not_not_intro rfl)]
  exact h.read

/-- Bytes are read as they are. -/
theorem memberReads_readRaw (used : Bytes) :
    MemberReads (readRaw (List.replicate used.length 0)) used used :=
  (takes_readRaw _).full used List.length_replicate.symm

/-- The buffer is resized to the announced size. -/
theorem reads_recvDynamic {v : Bytes} (hlen : v.length < 2 ^ 31) :
    Reads Istream.ofBytes (recvDynamic (Int32.ofNat v.length)) v v := by
  rw [recvDynamic, if_neg (not_ofNat_lt_zero hlen), Int32.toNatClampNeg_ofNat_of_lt hlen]
  exact (memberReads_readRaw v).read

/-- The version is one, as the check demands. -/
theorem reads_recvVersioned {v : Bytes} (hlen : v.length + 1 < 2 ^ 31) :
    Reads Istream.ofBytes (recvVersioned (Int32.ofNat (v.length + 1))) (1 :: v) v := by
  have hsize : ¬ Int32.ofNat (v.length + 1) < 1 := by
    rw [Int32.lt_iff_toInt_lt, Int32.toInt_ofNat_of_lt hlen]
    show ¬ ((v.length + 1 : Nat) : Int) < 1
    omega
  have hpred : Int32.ofNat (v.length + 1) - 1 = Int32.ofNat v.length := by
    rw [Int32.ofNat_add]
    exact Int32.add_sub_cancel _ _
  rw [recvVersioned, if_neg hsize, hpred, Int32.toNatClampNeg_ofNat_of_lt (by omega)]
  exact (takes_get.full [1] rfl).read.bind (memberReads_readRaw v).read

theorem memberReads_writeBool (v : Bool) : MemberReads readBool (writeBool v) v := by
  have hread := takes_readBool.full (writeBool v) (length_writeBool v)
  cases v <;> exact hread

theorem memberReads_readUuid (v : Uuid) : MemberReads readUuid v.data v := by
  intro rest
  have hraw := (takes_readRaw (List.replicate 16 0)).full v.data v.size_eq rest
  simp only [readUuid, hraw, id_eq]

/-- Every scalar but the two with a conversion is read back. -/
theorem reads_recvImpl_scalar {s : Scalar} (htime : s ≠ .timestamp ∧ s ≠ .interval) (v : s.Val)
    (hlen : (s.sendImpl v).length < 2 ^ 31) :
    Reads Istream.ofBytes (s.recvImpl (s.sizeOfImpl v)) (s.sendImpl v) v := by
  cases s with
  | bool => exact reads_recvStatic (memberReads_writeBool v)
  | char => exact reads_recvStatic (takes_get.full [v] rfl)
  | int2 => exact reads_recvStatic (memberReads_writeIntegral (α := Int16) v)
  | int4 => exact reads_recvStatic (memberReads_writeIntegral (α := Int32) v)
  | int8 => exact reads_recvStatic (memberReads_writeIntegral (α := Int64) v)
  | oid => exact reads_recvStatic (memberReads_writeIntegral (α := Oid) v)
  | float4 => exact reads_recvStatic (memberReads_writeIntegral (α := UInt32) v)
  | float8 => exact reads_recvStatic (memberReads_writeIntegral (α := UInt64) v)
  | text | bytea | name | json => exact reads_recvDynamic hlen
  | uuid => exact (memberReads_readUuid v).read
  -- the conversions of time points and durations are left out
  | timestamp => exact absurd rfl htime.1
  | interval => exact absurd rfl htime.2
  | jsonb | ltree => exact reads_recvVersioned hlen

/-- A scalar that is read back as it was written. -/
def ObjectType.ScalarExact : (t : ObjectType) → t.Val → Prop
  | .element (.scalar s), v => (s.sendImpl v).length < 2 ^ 31 →
    Reads Istream.ofBytes (s.recvImpl (s.sizeOfImpl v)) (s.sendImpl v) v
  | _, _ => True

/-- The same behind a nullable. -/
def ScalarsExact : ObjectProperty := fun n t v => n.All t.ScalarExact v

/-! ## Frames

A frame of a value is misread in one case, when the announced size is the one that stands for a
null. So the round trip comes with a condition that is exact. -/

section Frames

variable {α : Type} {typeOid : Oid} {fresh : α} {sizeOfImpl : α → SizeType} {sendImpl : α → Bytes}
  {recvImpl : SizeType → α → Recv α} {R : α → α → Prop}

/-- The sender's oid is the receiver's. -/
theorem reads_checkOid {oid : Option Oid} (h : oid = none ∨ oid = some typeOid) :
    Reads Istream.ofBytes (checkOid typeOid oid) [] () := by
  intro rest
  rcases h with rfl | rfl
  · rfl
  · simp [checkOid]

/-- A wrapped object, given what the implementation does for the unwrapped one. -/
theorem recv_send_iff {oid : Option Oid} (hoid : oid = none ∨ oid = some typeOid)
    (n : Nullability) (v out : n.Val α)
    (h : n.All (fun w => ∀ x, RoundTripIff (R w x) (recvImpl (sizeOfImpl w) x) (sendImpl w) w) v) :
    RoundTripIff ((isNull n v = false → sizeOf sizeOfImpl n v ≠ nullStateSize) ∧
        n.Over fresh R v out)
      (recv typeOid fresh recvImpl n oid (sizeOf sizeOfImpl n v) out) (send sendImpl n v) v := by
  match n, v, h with
  | .nullable, none, _ => exact (Reads.pure _ none).readsIff ⟨nofun, trivial⟩
  | .plain, w, h =>
      rw [← List.nil_append (send sendImpl .plain w)]
      refine (reads_checkOid hoid).bind_readsIff ?_
      show RoundTripIff ((false = false → sizeOfImpl w ≠ nullStateSize) ∧ R w out)
        (if sizeOfImpl w = nullStateSize then _ else recvImpl (sizeOfImpl w) out) _ w
      by_cases hsize : sizeOfImpl w = nullStateSize
      · rw [if_pos hsize]
        exact ⟨fun hc => absurd hsize (hc.1 rfl), fun _ rest t => nofun⟩
      · rw [if_neg hsize]
        exact ⟨fun hc => (h out).reads hc.2,
          fun hnot => (h out).never fun hc => hnot ⟨fun _ => hsize, hc⟩⟩
  | .nullable, some w, h =>
      show RoundTripIff ((false = false → sizeOfImpl w ≠ nullStateSize) ∧ R w (out.getD fresh))
        (if sizeOfImpl w = nullStateSize then _ else _) (sendImpl w) (some w)
      by_cases hsize : sizeOfImpl w = nullStateSize
      · -- the frame reads as a null
        rw [if_pos hsize]
        exact ⟨fun hc => absurd hsize (hc.1 rfl), fun _ rest t => nofun⟩
      · rw [if_neg hsize]
        have hmap := (reads_checkOid hoid).bind_readsIff (f := fun _ => some <$> _)
          ((h (out.getD fresh)).map (g := some) fun a' => Option.some.inj)
        exact ⟨fun hc => hmap.reads hc.2,
          fun hnot => hmap.never fun hc => hnot ⟨fun _ => hsize, hc⟩⟩

/-- A frame is misread only if its size announces a null for what is none. -/
theorem recvDataFrame_sendDataFrame_iff {oid : Option Oid}
    (hoid : oid = none ∨ oid = some typeOid) (n : Nullability) (v out : n.Val α)
    (h : n.All (fun w => ∀ x, RoundTripIff (R w x) (recvImpl (sizeOfImpl w) x) (sendImpl w) w) v) :
    RoundTripIff ((isNull n v = false → sizeOf sizeOfImpl n v ≠ nullStateSize) ∧
        n.Over fresh R v out)
      (recvDataFrame typeOid fresh recvImpl n oid out) (sendDataFrame sizeOfImpl sendImpl n v) v :=
  (memberReads_writeIntegral (sizeOf sizeOfImpl n v)).read.bind_readsIff
    (recv_send_iff hoid n v out h)

theorem recvFrame_sendFrame_impl_iff (n : Nullability) (v out : n.Val α)
    (h : n.All (fun w => ∀ x, RoundTripIff (R w x) (recvImpl (sizeOfImpl w) x) (sendImpl w) w) v) :
    RoundTripIff ((isNull n v = false → sizeOf sizeOfImpl n v ≠ nullStateSize) ∧
        n.Over fresh R v out)
      (recvFrame typeOid fresh recvImpl n out) (sendFrame typeOid sizeOfImpl sendImpl n v) v :=
  (memberReads_writeIntegral typeOid).read.bind_readsIff
    (recvDataFrame_sendDataFrame_iff (.inr rfl) n v out h)

end Frames

/-- What concerns the value alone can be asked of it alone. -/
theorem Nullability.over_and {α : Type} {fresh : α} {P : α → Prop} {R : α → α → Prop} :
    {n : Nullability} → {v out : n.Val α} →
    (n.Over fresh (fun w x => P w ∧ R w x) v out ↔ n.All P v ∧ n.Over fresh R v out)
  | .plain, _, _ => Iff.rfl
  | .nullable, none, _ => (and_self_iff (a := True)).symm
  | .nullable, some _, _ => Iff.rfl

/-! ## Arrays

The elements are received into those of the container, and one without elements leaves it alone.
What the container held before therefore matters. -/

section Arrays

variable {α : Type} {c : Container} {fresh : α} {recvItem : α → Recv α} {R : α → α → Prop}
  {bytes : α → Bytes}

/-- Each of the elements has its condition. -/
theorem recvItems_iff (items outs : List α) (hlen : items.length = outs.length)
    (h : ∀ item ∈ items, ∀ out, RoundTripIff (R item out) (recvItem out) (bytes item) item) :
    RoundTripIff (List.Forall₂ R items outs) (recvItems recvItem outs) (items.flatMap bytes)
      ⟨items, hlen⟩ := by
  induction outs generalizing items with
  | nil =>
      obtain rfl := List.length_eq_zero_iff.mp hlen
      exact (Reads.pure _ _).readsIff .nil
  | cons out outs ih =>
      obtain ⟨item, items, rfl⟩ := List.exists_cons_of_length_eq_add_one hlen
      rw [List.forall₂_cons]
      refine (h item List.mem_cons_self out).bind ?_ ?_
      · -- a list determines its tail and, below, its head
        rw [bind_pure_eq_map]
        refine (ih items (Nat.succ.inj hlen) fun i hi =>
          h i (List.mem_cons_of_mem item hi)).map ?_
        rintro ⟨items', hlen'⟩ heq
        exact Subtype.ext (List.cons.inj (Subtype.ext_iff.mp heq)).2
      · intro item' s t heq
        rw [bind_pure_eq_map, map_eq_ok] at heq
        obtain ⟨items', -, heq⟩ := heq
        exact (List.cons.inj (Subtype.ext_iff.mp heq)).1

/-- The container has room for all of them once it is fitted. -/
theorem recvElements_iff (fresh : α) (v out : ArrayVal c α) (hlen : v.items.length < 2 ^ 31)
    (h : ∀ item ∈ v.items, ∀ x, RoundTripIff (R item x) (recvItem x) (bytes item) item) :
    RoundTripIff (List.Forall₂ R v.items (resize fresh v.items.length out.items))
      (recvElements fresh recvItem out (Int32.ofNat v.items.length)) (v.items.flatMap bytes) v := by
  obtain ⟨fitted, hitems, hfit⟩ :=
    fitArraySize_of_length fresh out v (Int32.toInt_ofNat_of_lt hlen).symm
  have hlength : v.items.length = fitted.items.length := by rw [hitems, length_resize]
  rw [← List.nil_append (v.items.flatMap bytes), ← hitems]
  refine Reads.bind_readsIff (a := fitted) (fun rest => hfit (Istream.ofBytes rest)) ?_
  rw [bind_pure_eq_map]
  refine (recvItems_iff v.items fitted.items hlength h).map ?_
  rintro ⟨items, _⟩ heq
  exact Subtype.ext (congrArg ArrayVal.items heq)

theorem memberReads_writePgArray (dimensionsCount dataoffset : Int32) (elemtype : Oid) :
    MemberReads readPgArray (writePgArray dimensionsCount dataoffset elemtype)
      ⟨dimensionsCount, dataoffset, elemtype⟩ := by
  rw [writePgArray, List.append_assoc, ← List.append_nil (writeIntegral elemtype)]
  exact (memberReads_writeIntegral dimensionsCount).bind <|
    (memberReads_writeIntegral dataoffset).bind <|
      (memberReads_writeIntegral elemtype).bind (MemberReads.pure _)

theorem memberReads_writePgArrayDimension (size : SizeType) (index : Int32) :
    MemberReads readPgArrayDimension (writePgArrayDimension size index) ⟨size, index⟩ := by
  rw [writePgArrayDimension, ← List.append_nil (writeIntegral index)]
  exact (memberReads_writeIntegral size).bind <|
    (memberReads_writeIntegral index).bind (MemberReads.pure _)

/-- An array, given what its elements do. -/
theorem recvArrayImpl_iff (elemOid : Oid) (v out : ArrayVal c α) (hlen : v.items.length < 2 ^ 31)
    (h : ∀ item ∈ v.items, ∀ x, RoundTripIff (R item x) (recvItem x) (bytes item) item) :
    RoundTripIff ((v.items = [] → out.items = []) ∧
        List.Forall₂ R v.items (resize fresh v.items.length out.items))
      (recvArrayImpl elemOid fresh recvItem out)
      (writePgArray 1 0 elemOid ++ writePgArrayDimension (Int32.ofNat v.items.length) 0
        ++ v.items.flatMap bytes) v := by
  rw [List.append_assoc]
  refine (memberReads_writePgArray 1 0 elemOid).read.bind_readsIff ?_
  simp only [gt_iff_lt, Int32.lt_irrefl, if_false, ne_eq, not_true]
  refine (memberReads_writePgArrayDimension _ 0).read.bind_readsIff ?_
  by_cases hnil : v.items = []
  · -- nothing is written and the container stays as it is
    rw [if_pos (by rw [hnil]; rfl), hnil]
    refine ⟨fun hc => ?_, fun hnot rest t heq => hnot ⟨fun _ => ?_, ?_⟩⟩
    · rw [show v = out from ArrayVal.ext_items (hnil.trans (hc.1 rfl).symm)]
      exact Reads.pure _ out
    · cases heq
      exact hnil
    · rw [List.eq_nil_of_length_eq_zero (length_resize fresh [].length out.items)]
      exact .nil
  · have hne : Int32.ofNat v.items.length ≠ 0 := by
      intro heq
      have htoInt := congrArg Int32.toInt heq
      rw [Int32.toInt_ofNat_of_lt hlen, Int32.toInt_zero] at htoInt
      exact hnil (List.length_eq_zero_iff.mp (by omega))
    rw [if_neg hne]
    have helements := recvElements_iff fresh v out hlen h
    exact ⟨fun hc => helements.reads hc.2,
      fun hnot => helements.never fun hc => hnot ⟨fun h => absurd h hnil, hc⟩⟩

end Arrays

/-! ## The whole type grammar -/

theorem reads_readAndVerifyHeader (fields : SizeType) :
    Reads Istream.ofBytes (readAndVerifyHeader fields) (writeIntegral fields) () := by
  rw [← List.append_nil (writeIntegral fields)]
  refine (memberReads_writeIntegral fields).read.bind ?_
  rw [if_neg (not_not_intro rfl)]
  exact Reads.pure _ ()

/-- A wrapped object, given what the recursion says of the unwrapped one. -/
theorem roundTrip_wrapped (cs : Constructors) {m : OidMap} {n : Nullability} {t : ObjectType}
    {v : n.Val t.Val} (hexact : Everywhere ScalarsExact n t v)
    (hlen : (send (t.sendImpl m) n v).length < 2 ^ 31)
    (h : ∀ w : t.Val, t.ScalarExact w → t.Parts ScalarsExact w → (t.sendImpl m w).length < 2 ^ 31 →
      ∀ x, RoundTripIff (t.Parts NotNullSized w ∧ t.Overwrites cs w x)
        (t.recvImpl cs m (t.sizeOfImpl w) x) (t.sendImpl m w) w) :
    n.All (fun w => ∀ x, RoundTripIff (t.Parts NotNullSized w ∧ t.Overwrites cs w x)
      (t.recvImpl cs m (t.sizeOfImpl w) x) (t.sendImpl m w) w) v := by
  match n, v with
  | .plain, w => exact h w hexact.1 hexact.2 hlen
  | .nullable, none => trivial
  | .nullable, some w => exact h w hexact.1 hexact.2 hlen

mutual

/-- By recursion on the type, together with the two below. -/
theorem ElementType.roundTrip (cs : Constructors) (m : OidMap) : (e : ElementType) → (v : e.Val) →
    ObjectType.ScalarExact (.element e) v → e.Parts ScalarsExact v →
    (e.sendImpl m v).length < 2 ^ 31 → (out : e.Val) →
    RoundTripIff (e.Parts NotNullSized v ∧ e.Overwrites cs v out)
      (e.recvImpl cs m (e.sizeOfImpl v) out) (e.sendImpl m v) v
  | .scalar _, _, hexact, _, hlen, _ => (hexact hlen).readsIff ⟨trivial, trivial⟩
  | .composite a d ms, v, _, hparts, hlen, out => by
    rw [length_sendImpl_composite] at hlen
    exact (reads_readAndVerifyHeader _).bind_readsIff
      (MemberTypes.roundTrip cs m ms v hparts (by omega) out)

theorem ObjectType.roundTrip (cs : Constructors) (m : OidMap) : (t : ObjectType) → (v : t.Val) →
    t.ScalarExact v → t.Parts ScalarsExact v → (t.sendImpl m v).length < 2 ^ 31 → (out : t.Val) →
    RoundTripIff (t.Parts NotNullSized v ∧ t.Overwrites cs v out)
      (t.recvImpl cs m (t.sizeOfImpl v) out) (t.sendImpl m v) v
  | .element e, v, hexact, hparts, hlen, out =>
    ElementType.roundTrip cs m e v hexact hparts hlen out
  | .array c n e, v, _, hparts, hlen, out => by
    rw [length_sendImpl_array] at hlen
    -- every element takes bytes, so the count fits `size_type` too
    have hcount : v.items.length
        ≤ (v.items.map fun item => 4 + (send (e.sendImpl m) n item).length).sum := by
      have hle := List.length_le_sum_of_one_le
        (v.items.map fun item => 4 + (send (e.sendImpl m) n item).length)
      rw [List.length_map] at hle
      refine hle fun k hk => ?_
      obtain ⟨item, -, rfl⟩ := List.mem_map.mp hk
      omega
    refine (recvArrayImpl_iff (R := fun item x => (NotNullSized n (.element e) item ∧
      n.All (e.Parts NotNullSized) item) ∧ n.Over (e.default cs) (e.Overwrites cs) item x)
      (e.typeOid m) v out (by omega) fun item hmem x => ?_).congr ?_
    · have hle := frame_le_sum m hmem
      have hwrapped := roundTrip_wrapped cs (t := .element e) (hparts item hmem)
        (by show (send (e.sendImpl m) n item).length < 2 ^ 31; omega)
        fun w => ElementType.roundTrip cs m e w
      apply (recvDataFrame_sendDataFrame_iff (.inl rfl) n item x hwrapped).congr
      rw [Nullability.over_and, and_assoc]
      rfl
    · rw [List.forall₂_and_left, and_left_comm]
      rfl

theorem MemberTypes.roundTrip (cs : Constructors) (m : OidMap) : (ms : MemberTypes) →
    (v : ms.Val) → ms.Everywhere ScalarsExact v → (ms.sendFrames m v).length < 2 ^ 31 →
    (out : ms.Val) →
    RoundTripIff (ms.Everywhere NotNullSized v ∧ ms.Overwrites cs v out)
      (ms.recvFrames cs m out) (ms.sendFrames m v) v
  | .nil, _, _, _, _ => (Reads.pure _ _).readsIff ⟨trivial, trivial⟩
  | .cons n t ms, v, hparts, hlen, out => by
    rw [length_sendFrames_cons] at hlen
    -- the first frame is read back by itself, and the others behind it
    have hwrapped := roundTrip_wrapped cs hparts.1 (by omega) fun w =>
      ObjectType.roundTrip cs m t w
    refine ((recvFrame_sendFrame_impl_iff n v.1 out.1 hwrapped).bind
      (d := ms.Everywhere NotNullSized v.2 ∧ ms.Overwrites cs v.2 out.2) ?_ ?_).congr ?_
    · rw [bind_pure_eq_map]
      apply (MemberTypes.roundTrip cs m ms v.2 hparts.2 (by omega) out.2).map
      intro vs heq
      exact (Prod.mk.inj heq).2
    · intro w s u heq
      rw [bind_pure_eq_map, map_eq_ok] at heq
      obtain ⟨ws, -, heq⟩ := heq
      exact congrArg Prod.fst heq
    · rw [Nullability.over_and, ← and_assoc (b := n.All _ _)]
      exact and_and_and_comm

end

/-! ## Types without time points and intervals -/

mutual

/-- Types without times have exact scalars only. -/
theorem ElementType.scalarsExact : (e : ElementType) → (v : e.Val) → e.Timeless →
    ObjectType.ScalarExact (.element e) v ∧ e.Parts ScalarsExact v
  | .scalar _, v, htime => ⟨reads_recvImpl_scalar htime v, trivial⟩
  | .composite _ _ ms, v, htime => ⟨trivial, MemberTypes.scalarsExact ms v htime⟩

theorem ObjectType.scalarsExact : (t : ObjectType) → (v : t.Val) → t.Timeless →
    t.ScalarExact v ∧ t.Parts ScalarsExact v
  | .element e, v, htime => ElementType.scalarsExact e v htime
  | .array _ n e, v, htime => by
    refine ⟨trivial, fun item _ => ?_⟩
    match n, item with
    | .plain, w => exact ElementType.scalarsExact e w htime
    | .nullable, none => exact ⟨trivial, trivial⟩
    | .nullable, some w => exact ElementType.scalarsExact e w htime

theorem MemberTypes.scalarsExact : (ms : MemberTypes) → (v : ms.Val) → ms.Timeless →
    ms.Everywhere ScalarsExact v
  | .nil, _, _ => trivial
  | .cons n t ms, v, htime => by
    refine ⟨?_, MemberTypes.scalarsExact ms v.2 htime.2⟩
    match n, v.1 with
    | .plain, w => exact ObjectType.scalarsExact t w htime.1
    | .nullable, none => exact ⟨trivial, trivial⟩
    | .nullable, some w => exact ObjectType.scalarsExact t w htime.1

end

/-- Objects that announce what they write survive. -/
theorem everywhere_notNullSized {m : OidMap} {n : Nullability} {t : ObjectType}
    {v : n.Val t.Val} (h : Everywhere (SizeLaw m) n t v) : Everywhere NotNullSized n t v := by
  refine h.mono fun n t v hlaw hnull hsize => ?_
  have hobject := hlaw.object hnull
  rw [hsize] at hobject
  have hneg : nullStateSize.toInt = -1 := rfl
  omega

/-! ## A wrapped-around size

The size of an array of many nulls wraps around. Two such arrays can be chosen so that a value that
is not null announces the size of a null. -/

end OzoPg
