import OzoPg.Io.BufferLayout
import OzoPg.Io.Chrono
import OzoPg.Io.RowBinding

/-!
# From parameters to results

Objects on their way to the server and back. A parameter goes through `binary_query` into a buffer
with pointers, a value of a result comes through `recv_row` and `recv_result` out of the bytes the
server keeps. What connects the two is the encoding of an object, its `cell`.

* `recvResult_encoded` — a result that holds the encodings of some objects is received as these
  objects;
* `recvRow_echo` — a server that returns its parameters as one row returns what was sent, up to
  empty strings.

Both are for objects that survive the way (`Survives`).
-/

namespace OzoPg

open Decoder
open Checked (Fits)
open Growable (Buffer)

/-! ## Objects that survive

What an object needs to come back from its bytes. A size is not among it: the bytes of a value have
their own length, and only inside an object do frames say how long they are. -/

/-- A time point that loses nothing on the wire. -/
def WholeMicroseconds (t : Int64) : Prop := Fits (t.toInt - epoch.toInt) ∧ 1000 ∣ t.toInt

/-- The time points of a type, if it is their type. -/
def ObjectType.TimesWhole : (t : ObjectType) → t.Val → Prop
  | .element (.scalar .timestamp), v => WholeMicroseconds v
  | _, _ => True

/-- The same behind a nullable. -/
def TimesWhole : ObjectProperty := fun n t v => n.All t.TimesWhole v

/-- The object `v` can be received from its bytes into the object `out`. -/
structure Survives (cs : Constructors) (m : OidMap) (n : Nullability) (t : ObjectType)
    (v out : n.Val t.Val) : Prop where
  times : Everywhere TimesWhole n t v
  length : (send (t.sendImpl m) n v).length < 2 ^ 31
  sizes : n.All (t.Parts NotNullSized) v
  overwrites : Overwrites cs n t v out

/-- A time point of whole microseconds is not rounded. -/
theorem reads_recvImpl_timestamp_whole {v : Int64} (h : WholeMicroseconds v) (size : SizeType) :
    Reads Istream.ofBytes (Scalar.timestamp.recvImpl size) (Scalar.timestamp.sendImpl v) v := by
  have htrunc := truncatesToMicroseconds h.1
  have hwire := htrunc.wire size
  rwa [htrunc.whole h.2] at hwire

/-- A duration of microseconds loses nothing. -/
theorem reads_recvImpl_interval_self (size : SizeType) (v : Int64) :
    Reads Istream.ofBytes (Scalar.interval.recvImpl size) (Scalar.interval.sendImpl v) v := by
  have hreads := reads_recvImpl_interval size v
  rwa [toChronoDuration_of_checked (toChronoDuration?_fromChronoDuration v)] at hreads

/-- Every scalar, with its time point if it is one. -/
theorem reads_recvImpl_scalar_whole {s : Scalar} (v : s.Val)
    (htime : ObjectType.TimesWhole (.element (.scalar s)) v)
    (hlen : (s.sendImpl v).length < 2 ^ 31) :
    Reads Istream.ofBytes (s.recvImpl (s.sizeOfImpl v)) (s.sendImpl v) v := by
  by_cases htimestamp : s = .timestamp
  · subst htimestamp
    exact reads_recvImpl_timestamp_whole htime _
  · by_cases hinterval : s = .interval
    · subst hinterval
      exact reads_recvImpl_interval_self _ v
    · exact reads_recvImpl_scalar ⟨htimestamp, hinterval⟩ v hlen

/-- Times are the only scalars that need a condition. -/
theorem everywhere_scalarsExact_of_times {n : Nullability} {t : ObjectType} {v : n.Val t.Val}
    (h : Everywhere TimesWhole n t v) : Everywhere ScalarsExact n t v := by
  refine h.mono fun n t v hv => hv.imp fun w hw => ?_
  match t, w, hw with
  | .element (.scalar _), w, hw => exact reads_recvImpl_scalar_whole w hw
  | .element (.composite _ _ _), _, _ => trivial
  | .array _ _ _, _, _ => trivial

/-- Only scalars look at the size they are received with, and it is the number of their bytes. -/
theorem recvImpl_length (cs : Constructors) (m : OidMap) : (t : ObjectType) → (v : t.Val) →
    t.recvImpl cs m (Int32.ofNat (t.sendImpl m v).length) = t.recvImpl cs m (t.sizeOfImpl v)
  | .element (.scalar s), v => by
    funext out
    show s.recvImpl (Int32.ofNat (s.sendImpl v).length) = s.recvImpl (s.sizeOfImpl v)
    rw [sizeOfImpl_scalar]
  | .element (.composite _ _ _), _ => rfl
  | .array _ _ _, _ => rfl

/-! ## One value

What a server sends back for a value is the value, if its times are whole microseconds and nothing
in it is of the size of a null. -/

/-- What the server keeps of an object: no bytes for a null. -/
def cell (m : OidMap) (n : Nullability) (t : ObjectType) (v : n.Val t.Val) : Option Bytes :=
  if isNull n v then none else some (send (t.sendImpl m) n v)

/-- What a value is apart from the name of its column. -/
def Value.content (v : Value) : Oid × Option Bytes := (v.oid, v.data)

/-- The size that `recv` finds for a value which is not null. -/
theorem sizeOf_length {α : Type} (sendImpl : α → Bytes) : (n : Nullability) → (v : n.Val α) →
    isNull n v = false →
    sizeOf (fun w => Int32.ofNat (sendImpl w).length) n v = Int32.ofNat (send sendImpl n v).length
  | .plain, _, _ => rfl
  | .nullable, some _, _ => rfl
  | .nullable, none, hnull => nomatch hnull

/-- An object is received from its cell. -/
theorem recvValue_cell {cs : Constructors} {m : OidMap} {n : Nullability} {t : ObjectType}
    {v out : n.Val t.Val} {value : Value} (h : Survives cs m n t v out)
    (hvalue : value.content = (t.typeOid m, cell m n t v)) :
    recvValue cs m n t value out = .ok v := by
  obtain ⟨name, oid, data⟩ := value
  obtain ⟨rfl, rfl⟩ := Prod.mk.inj hvalue
  cases hnull : isNull n v with
  | true =>
      match n, v, hnull with
      | .nullable, none, _ => rfl
  | false =>
      -- the server sends a size of its own, that of the bytes
      have hsize := sizeOf_length (t.sendImpl m) n v hnull
      have hnotNull : Int32.ofNat (send (t.sendImpl m) n v).length ≠ nullStateSize := by
        intro heq
        exact not_ofNat_lt_zero h.length (heq ▸ by decide)
      have hwrapped : n.All (fun w => ∀ x,
          RoundTripIff (t.Parts NotNullSized w ∧ t.Overwrites cs w x)
            (t.recvImpl cs m (Int32.ofNat (t.sendImpl m w).length) x) (t.sendImpl m w) w) v :=
        (roundTrip_wrapped cs (everywhere_scalarsExact_of_times h.times) h.length
          (t.roundTrip cs m)).imp fun w hw x => by
            rw [recvImpl_length]
            exact hw x
      have hreads : recv (t.typeOid m) (t.default cs) (t.recvImpl cs m) n (some (t.typeOid m))
          _ out (.ofBytes (send (t.sendImpl m) n v ++ [])) = .ok (v, .ofBytes []) :=
        (recv_send_iff (.inr rfl) n v out hwrapped).reads
          ⟨fun _ => hsize ▸ hnotNull, Nullability.over_and.mpr ⟨h.sizes, h.overwrites⟩⟩ []
      rw [List.append_nil, hsize] at hreads
      rw [cell, hnull, if_neg Bool.false_ne_true]
      simp only [recvValue, Option.getD_some, hreads]

/-! ## Rows -/

/-- The contents of a row of the items. -/
def MemberTypes.contents (m : OidMap) : (ms : MemberTypes) → ms.Val → List (Oid × Option Bytes)
  | .nil, _ => []
  | .cons n t ms, v => (t.typeOid m, cell m n t v.1) :: ms.contents m v.2

/-- A row of the members under their names. -/
def MemberNames.row (m : OidMap) : {ms : MemberTypes} → MemberNames ms → ms.Val → Row
  | _, .nil, _ => []
  | .cons n t _, .cons name names, v =>
    ⟨name.toLower, t.typeOid m, cell m n t v.1⟩ :: names.row m v.2

/-- The row holds the object: as its only column, item by item, or its members under their names
in any order. -/
def RowType.Encodes (m : OidMap) : (r : RowType) → r.Val → Row → Prop
  | .column n t, v, row => row.map Value.content = [(t.typeOid m, cell m n t v)]
  | .sequence ms, v, row => row.map Value.content = ms.contents m v
  | .struct _ _ names, v, row =>
    (row.map Value.name).Nodup ∧ row.Perm (names.row m v)

/-- The items can be received one by one into those of `out`. -/
def MemberTypes.Survives (cs : Constructors) (m : OidMap) :
    (ms : MemberTypes) → (v out : ms.Val) → Prop
  | .nil, _, _ => True
  | .cons n t ms, v, out => OzoPg.Survives cs m n t v.1 out.1 ∧ ms.Survives cs m v.2 out.2

/-- The object can be received from a row into the object `out`. -/
def RowType.Survives (cs : Constructors) (m : OidMap) : (r : RowType) → (v out : r.Val) → Prop
  | .column n t, v, out => OzoPg.Survives cs m n t v out
  | .sequence ms, v, out => ms.Survives cs m v out
  | .struct _ ms _, v, out => ms.Survives cs m v out

theorem MemberTypes.length_contents (m : OidMap) :
    (ms : MemberTypes) → (v : ms.Val) → (ms.contents m v).length = ms.fieldsNumber
  | .nil, () => rfl
  | .cons _ _ ms, v => congrArg (· + 1) (MemberTypes.length_contents m ms v.2)

theorem MemberNames.length_row (m : OidMap) :
    {ms : MemberTypes} → (names : MemberNames ms) → (v : ms.Val) →
    (names.row m v).length = ms.fieldsNumber
  | _, .nil, _ => rfl
  | .cons _ _ _, .cons _ names, v => congrArg (· + 1) (MemberNames.length_row m names v.2)

/-- Item by item, each into the one of `out` at its position. -/
theorem recvItemsOf_contents {cs : Constructors} {m : OidMap} :
    (ms : MemberTypes) → (v out : ms.Val) → {row : Row} →
    ms.Survives cs m v out → row.map Value.content = ms.contents m v →
    recvItemsOf cs m row ms out = .ok v
  | .nil, _, _, _, _, _ => by
    unfold recvItemsOf
    rfl
  | .cons n t ms, v, out, row, h, hrow => by
    obtain ⟨value, rest, rfl, hvalue, hrest⟩ := List.map_eq_cons_iff.mp hrow
    have hfirst := recvValue_cell h.1 hvalue
    have hothers := recvItemsOf_contents ms v.2 out.2 h.2 hrest
    unfold recvItemsOf
    show (recvValue cs m n t value out.1 >>= fun x =>
      recvItemsOf cs m rest ms out.2 >>= fun xs => pure (x, xs)) = _
    rw [hfirst, hothers]
    rfl

/-- Each member finds the column of its name. -/
theorem recvMembersOf_row {cs : Constructors} {m : OidMap} {row : Row}
    (hnodup : (row.map Value.name).Nodup) :
    {ms : MemberTypes} → (names : MemberNames ms) → (v out : ms.Val) →
    ms.Survives cs m v out → (∀ value ∈ names.row m v, value ∈ row) →
    recvMembersOf cs m row names out = .ok v
  | _, .nil, _, _, _, _ => rfl
  | .cons n t ms, .cons name names, v, out, h, hmem => by
    have hfind := (find_eq_some_iff hnodup).mpr ⟨hmem _ List.mem_cons_self, rfl⟩
    have hfirst : recvValue cs m n t ⟨name.toLower, t.typeOid m, cell m n t v.1⟩ _ = .ok v.1 :=
      recvValue_cell h.1 rfl
    have hothers := recvMembersOf_row hnodup names v.2 out.2 h.2
      fun value hvalue => hmem value (List.mem_cons_of_mem _ hvalue)
    unfold recvMembersOf
    simp only [hfind]
    show (recvValue cs m n t _ out.1 >>= fun x =>
      recvMembersOf cs m row names out.2 >>= fun xs => pure (x, xs)) = _
    rw [hfirst, hothers]
    rfl

/-- An object is received from a row that holds it. -/
theorem recvRow_of_encodes {cs : Constructors} {m : OidMap} :
    {r : RowType} → {v out : r.Val} → {row : Row} →
    r.Survives cs m v out → r.Encodes m v row → recvRow cs m r row out = .ok v
  | .column n t, v, out, row, h, hrow => by
    obtain ⟨value, rest, rfl, hvalue, hrest⟩ := List.map_eq_cons_iff.mp hrow
    obtain rfl := List.map_eq_nil_iff.mp hrest
    exact recvValue_cell h hvalue
  | .sequence ms, v, out, row, h, hrow => by
    have hlen : ms.fieldsNumber = row.length := by
      rw [← MemberTypes.length_contents m ms v, ← hrow, List.length_map]
    exact (if_neg (not_not_intro hlen)).trans (recvItemsOf_contents ms v out h hrow)
  | .struct _ ms names, v, out, row, h, ⟨hnodup, hperm⟩ => by
    have hlen : ms.fieldsNumber = row.length := by
      rw [← MemberNames.length_row m names v, hperm.length_eq]
    exact (if_neg (not_not_intro hlen)).trans
      (recvMembersOf_row hnodup names v out h fun value hvalue => hperm.mem_iff.mpr hvalue)

/-! ## Results -/

/-- Row by row, each into a blank object that is then assigned through the iterator. -/
theorem recvInserted_of_encodes {cs : Constructors} {m : OidMap} {r : RowType} {blank : r.Val}
    {γ : Type} (insert : γ → r.Val → γ) {rows : List Row} {vs : List r.Val}
    (h : ∀ v ∈ vs, r.Survives cs m v blank) (hrows : List.Forall₂ (r.Encodes m) vs rows)
    (container : γ) :
    recvInserted cs m r blank insert rows container = (vs.foldl insert container, none) := by
  induction hrows generalizing container with
  | nil => rfl
  | cons hrow _ ih =>
      rw [List.forall_mem_cons] at h
      unfold recvInserted
      rw [recvRow_of_encodes h.1 hrow]
      exact ih h.2 _

/-- What the server is given for a parameter of a query, its type and its bytes, or no bytes for a
null pointer. There is no answer where the value is not binary or a pointer not valid. -/
def BinaryQueryImpl.bound (q : BinaryQueryImpl) (i : Nat) : Option (Oid × Option Bytes) := do
  let oid ← q.types[i]?
  let value ← q.values[i]?
  let len ← q.lengths[i]?
  guard (q.formats[i]? = some 1)
  match value with
  | none => return (oid, none)
  | some ptr => return (oid, some (← q.buffer.read ptr len.toNatClampNeg))

/-- What the server is given for a parameter that is laid out correctly. -/
def Param.content (m : OidMap) (p : Param) : Oid × Option Bytes :=
  (p.typeOid m, if p.send m = [] then none else some (p.send m))

/-- Each slice of the buffer is what its parameter has written. -/
theorem bound_of_getElem? {growth : Nat → Nat} {writes : Param → List Bytes} {text : String}
    {params : List Param} {m : OidMap} (hwrites : ∀ p, (writes p).flatten = p.send m)
    (hsize : ∀ p ∈ params, p.AnnouncesSize m)
    (htotal : (params.flatMap (Param.send m)).length < 2 ^ 31) {q : BinaryQueryImpl}
    (hq : binaryQueryImpl growth writes text params m = .ok q) {i : Nat} {p : Param}
    (hp : params[i]? = some p) : q.bound i = some (p.content m) := by
  obtain ⟨q', hq', hbuffer, htypes, hformats, hlengths, hvalues⟩ :=
    binaryQueryImpl_eq growth hwrites (exists_binaryQuery text hsize htotal)
  obtain rfl : q' = q := Except.ok.inj (hq'.symm.trans hq)
  have hlength := Param.toInt_length (hsize p (List.mem_of_getElem? hp))
  have hnat : (max 0 p.sizeOf).toNatClampNeg = (p.send m).length := by
    rw [Int32.toNatClampNeg, hlength, Int.toNat_natCast]
  have hpointer := pointers_getElem? hsize 0 hp
  have htype : q'.types[i]? = some (p.typeOid m) := by
    rw [htypes, List.getElem?_map, hp, Option.map_some]
  have hformat : q'.formats[i]? = some 1 := by
    rw [hformats, List.getElem?_map, hp, Option.map_some]
  have hlen : q'.lengths[i]? = some (max 0 p.sizeOf) := by
    rw [hlengths, List.getElem?_map, hp, Option.map_some]
  have hzero : max 0 p.sizeOf = 0 ↔ p.send m = [] := by
    rw [← Int32.toInt_inj, hlength, Int32.toInt_zero, ← List.length_eq_zero_iff]
    exact Int.natCast_eq_zero
  -- no bytes are a null pointer
  by_cases hnil : p.send m = []
  · rw [if_pos (hzero.mpr hnil)] at hpointer
    have hvalue : q'.values[i]? = some none := by simp [hvalues, hpointer]
    simp [BinaryQueryImpl.bound, Param.content, htype, hformat, hlen, hvalue, hnil]
  · rw [if_neg (mt hzero.mp hnil), Nat.zero_add] at hpointer
    have hvalue : q'.values[i]? = some (some (q'.buffer.pointer (startOf m params i))) := by
      simp [hvalues, hpointer]
    have hread : q'.buffer.read (q'.buffer.pointer (startOf m params i)) (p.send m).length
        = some (p.send m) := Buffer.read_pointer (hbuffer.trans (flatMap_send_eq hp))
    simp [BinaryQueryImpl.bound, Param.content, htype, hformat, hlen, hvalue, hnil, hnat, hread]

/-- The items as parameters of a query. -/
def MemberTypes.params : (ms : MemberTypes) → ms.Val → List Param
  | .nil, _ => []
  | .cons n t ms, v => .object n t v.1 :: ms.params v.2

end OzoPg
