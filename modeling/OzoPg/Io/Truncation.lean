import OzoPg.Io.Recv

/-!
# Truncated and trailing data

Every decoder of the library is tight: what it does on success is decided by the bytes it
consumes, and cutting any of them off makes it throw `unexpected_eof`.

* `tight_recv` — whatever the type, the oid check, the declared size and the initial object.
* `recv_truncation` — the same in terms of the number of consumed bytes.
-/

namespace OzoPg

open Decoder

/-- Tightness of a decoder of the library. -/
abbrev TightRecv {α : Type} (p : Recv α) : Prop := Tight Istream.ofBytes .unexpectedEof p

/-! ## Scalars -/

theorem takes_readUuid : Takes 16 readUuid
    (fun used => if h : used.length = 16 then ⟨used, h⟩ else Scalar.default .uuid) where
  full used hlen rest := by
    have hraw := (takes_readRaw (List.replicate 16 0)).full used hlen rest
    simp only [readUuid, hraw, id_eq, hlen, dite_true]
  short data hlen := (takes_readRaw (List.replicate 16 0)).short data hlen
  sticky data := (takes_readRaw (List.replicate 16 0)).sticky data

/-- A wrong size is an error before anything is read. -/
theorem tight_recvStatic {α : Type} {k : Nat} {r : MemberRead α} {g : Bytes → α}
    (hr : Takes k r g) (expected size : SizeType) : TightRecv (recvStatic expected r size) := by
  unfold recvStatic
  apply Tight.ite
  · exact Tight.throw _
  · exact hr.tight_read

theorem tight_recvDynamic (size : SizeType) : TightRecv (recvDynamic size) := by
  unfold recvDynamic
  apply Tight.ite
  · exact Tight.throw _
  · exact (takes_readRaw _).tight_read

theorem tight_recvVersioned (size : SizeType) : TightRecv (recvVersioned size) := by
  unfold recvVersioned
  apply Tight.ite
  · exact Tight.throw _
  · apply takes_get.tight_read.bind
    intro _version
    exact (takes_readRaw _).tight_read

/-- One `read` call covers all three fields, so their end of data is noticed once. -/
theorem takes_readPgInterval : ∃ g, Takes 16 readPgInterval g :=
  ⟨_, (takes_readIntegral Int64).bind fun _ => (takes_readIntegral Int32).bind fun _ =>
    (takes_readIntegral Int32).bind fun _ => Takes.pure _⟩

theorem tight_recvImpl_scalar (s : Scalar) (size : SizeType) : TightRecv (s.recvImpl size) := by
  cases s with
  | bool => exact tight_recvStatic takes_readBool _ size
  | char => exact tight_recvStatic takes_get _ size
  | int2 => exact tight_recvStatic (takes_readIntegral Int16) _ size
  | int4 => exact tight_recvStatic (takes_readIntegral Int32) _ size
  | int8 => exact tight_recvStatic (takes_readIntegral Int64) _ size
  | oid => exact tight_recvStatic (takes_readIntegral Oid) _ size
  | float4 => exact tight_recvStatic (takes_readIntegral UInt32) _ size
  | float8 => exact tight_recvStatic (takes_readIntegral UInt64) _ size
  | text | bytea | name | json => exact tight_recvDynamic size
  | uuid => exact takes_readUuid.tight_read
  | timestamp => exact (takes_readIntegral Int64).tight_read.map toTimePoint
  | interval =>
      obtain ⟨g, hread⟩ := takes_readPgInterval
      exact hread.tight_read.map toChronoDuration
  | jsonb | ltree => exact tight_recvVersioned size

/-! ## Frames

Tightness is kept by sequencing, so a frame is tight if the decoder of its content is. -/

section Frames

variable {α : Type} {recvImpl : SizeType → α → Recv α}

theorem tight_checkOid (typeOid : Oid) (oid : Option Oid) : TightRecv (checkOid typeOid oid) := by
  cases oid with
  | none => exact Tight.pure ()
  | some oid =>
      unfold checkOid
      apply Tight.ite
      · exact Tight.pure ()
      · exact Tight.throw _

/-- A null reads nothing. -/
theorem tight_recv_of_impl (h : ∀ size out, TightRecv (recvImpl size out)) (typeOid : Oid)
    (fresh : α) (n : Nullability) (oid : Option Oid) (size : SizeType) (out : n.Val α) :
    TightRecv (recv typeOid fresh recvImpl n oid size out) := by
  cases n with
  | plain =>
      apply (tight_checkOid typeOid oid).bind
      intro _
      apply Tight.ite
      · exact Tight.throw _
      · exact h size out
  | nullable =>
      unfold recv
      apply Tight.ite
      · -- a null consumes nothing
        exact Tight.pure none
      · apply (tight_checkOid typeOid oid).bind
        intro _
        exact (h size (out.getD fresh)).map some

theorem tight_recvDataFrame (h : ∀ size out, TightRecv (recvImpl size out)) (typeOid : Oid)
    (fresh : α) (n : Nullability) (oid : Option Oid) (out : n.Val α) :
    TightRecv (recvDataFrame typeOid fresh recvImpl n oid out) := by
  apply (takes_readIntegral SizeType).tight_read.bind
  intro size
  exact tight_recv_of_impl h typeOid fresh n oid size out

theorem tight_recvFrame (h : ∀ size out, TightRecv (recvImpl size out)) (typeOid : Oid)
    (fresh : α) (n : Nullability) (out : n.Val α) :
    TightRecv (recvFrame typeOid fresh recvImpl n out) := by
  apply (takes_readIntegral Oid).tight_read.bind
  intro oid
  exact tight_recvDataFrame h typeOid fresh n (some oid) out

end Frames

/-! ## Arrays and composites -/

section Arrays

variable {α : Type} {c : Container} {recvItem : α → Recv α}

/-- Fitting a container may throw and reads nothing. -/
theorem tight_fitArraySize (fresh : α) (count : SizeType) (out : ArrayVal c α) :
    TightRecv (fitArraySize fresh count out) := by
  cases c with
  | vector | list | array size =>
      unfold fitArraySize
      apply Tight.ite
      · exact Tight.throw _
      · exact Tight.pure _

/-- A cut inside an element is seen by that element. -/
theorem tight_recvItems (h : ∀ out, TightRecv (recvItem out)) (out : List α) :
    TightRecv (recvItems recvItem out) := by
  induction out with
  | nil => exact Tight.pure _
  | cons item out ih =>
      apply (h item).bind
      intro item'
      apply ih.bind
      intro items
      exact Tight.pure _

theorem tight_recvElements (h : ∀ out, TightRecv (recvItem out)) (fresh : α)
    (out : ArrayVal c α) (count : SizeType) :
    TightRecv (recvElements fresh recvItem out count) := by
  apply (tight_fitArraySize fresh count out).bind
  intro out'
  apply (tight_recvItems h out'.items).bind
  intro items
  exact Tight.pure _

theorem tight_read_pgArray : TightRecv (read readPgArray) :=
  Takes.tight_read <| (takes_readIntegral Int32).bind fun _ =>
    (takes_readIntegral Int32).bind fun _ => (takes_readIntegral Oid).bind fun _ => Takes.pure _

theorem tight_read_pgArrayDimension : TightRecv (read readPgArrayDimension) :=
  Takes.tight_read <| (takes_readIntegral SizeType).bind fun _ =>
    (takes_readIntegral Int32).bind fun _ => Takes.pure _

/-- The header and the dimension are tight, and so is what they lead to. -/
theorem tight_recvArrayImpl (h : ∀ out, TightRecv (recvItem out)) (elemOid : Oid) (fresh : α)
    (out : ArrayVal c α) : TightRecv (recvArrayImpl elemOid fresh recvItem out) := by
  apply tight_read_pgArray.bind
  intro header
  -- the checks of the header, in the order of the source
  apply Tight.ite
  · exact Tight.throw _
  apply Tight.ite
  · exact Tight.throw _
  apply Tight.ite
  · exact Tight.pure out
  apply tight_read_pgArrayDimension.bind
  intro dim
  apply Tight.ite
  · exact Tight.pure out
  · exact tight_recvElements h fresh out dim.size

end Arrays

theorem tight_readAndVerifyHeader (fields : SizeType) :
    TightRecv (readAndVerifyHeader fields) := by
  apply (takes_readIntegral SizeType).tight_read.bind
  intro count
  apply Tight.ite
  · exact Tight.throw _
  · exact Tight.pure ()

mutual

/-- By recursion on the type, together with the two below. -/
theorem ElementType.tight_recvImpl (cs : Constructors) (m : OidMap) :
    (e : ElementType) → (size : SizeType) → (out : e.Val) → TightRecv (e.recvImpl cs m size out)
  | .scalar s, size, _ => tight_recvImpl_scalar s size
  | .composite _ _ ms, _, out => by
    apply (tight_readAndVerifyHeader _).bind
    intro _
    exact MemberTypes.tight_recvFrames cs m ms out

theorem ObjectType.tight_recvImpl (cs : Constructors) (m : OidMap) :
    (t : ObjectType) → (size : SizeType) → (out : t.Val) → TightRecv (t.recvImpl cs m size out)
  | .element e, size, out => ElementType.tight_recvImpl cs m e size out
  | .array _ n e, _, out => by
    apply tight_recvArrayImpl
    exact tight_recvDataFrame (ElementType.tight_recvImpl cs m e) _ _ n none

theorem MemberTypes.tight_recvFrames (cs : Constructors) (m : OidMap) :
    (ms : MemberTypes) → (out : ms.Val) → TightRecv (ms.recvFrames cs m out)
  | .nil, _ => Tight.pure ()
  | .cons n t ms, out => by
    apply (tight_recvFrame (ObjectType.tight_recvImpl cs m t) _ _ n out.1).bind
    intro v
    apply (MemberTypes.tight_recvFrames cs m ms out.2).bind
    intro vs
    exact Tight.pure _

end

/-- `recv` is tight, whatever the type, the oid check, the declared size and the object it
writes to. -/
theorem tight_recv (cs : Constructors) (m : OidMap) (n : Nullability) (t : ObjectType)
    (oid : Option Oid) (size : SizeType) (out : n.Val t.Val) :
    TightRecv (recv (t.typeOid m) (t.default cs) (t.recvImpl cs m) n oid size out) :=
  tight_recv_of_impl (t.tight_recvImpl cs m) _ _ n oid size out

/-- When `recv` succeeds on `data` and consumes `k` bytes, trailing bytes do not matter and
every shorter prefix is reported as an unexpected end of data. -/
theorem recv_truncation (cs : Constructors) (m : OidMap) (n : Nullability) (t : ObjectType)
    (oid : Option Oid) (size : SizeType) (out v : n.Val t.Val) (data : Bytes) (rest : Istream)
    (h : recv (t.typeOid m) (t.default cs) (t.recvImpl cs m) n oid size out (.ofBytes data)
      = .ok (v, rest)) :
    ∃ k ≤ data.length, rest = .ofBytes (data.drop k) ∧
      (∀ s, recv (t.typeOid m) (t.default cs) (t.recvImpl cs m) n oid size out
          (.ofBytes (data ++ s)) = .ok (v, .ofBytes ((data ++ s).drop k))) ∧
      ∀ j < k, recv (t.typeOid m) (t.default cs) (t.recvImpl cs m) n oid size out
        (.ofBytes (data.take j)) = .error .unexpectedEof :=
  (tight_recv cs m n t oid size out).consumed h

/-- A number of four bytes, with a byte to spare. -/
theorem recv_truncation_number :
    ∃ k ≤ 5, Istream.ofBytes [9] = .ofBytes ([0, 0, 0, 7, 9].drop k) ∧
      (∀ s, recv 23 (0 : Int32) ((ObjectType.element (.scalar .int4)).recvImpl .zero ⟨[]⟩) .plain
          (some 23) 4 (0 : Int32) (.ofBytes ([0, 0, 0, 7, 9] ++ s))
        = .ok ((7 : Int32), .ofBytes (([0, 0, 0, 7, 9] ++ s).drop k))) ∧
      ∀ j < k, recv 23 (0 : Int32) ((ObjectType.element (.scalar .int4)).recvImpl .zero ⟨[]⟩) .plain
          (some 23) 4 (0 : Int32) (.ofBytes ([0, 0, 0, 7, 9].take j))
        = .error .unexpectedEof :=
  recv_truncation .zero ⟨[]⟩ .plain (.element (.scalar .int4)) (some 23) 4 (0 : Int32) (7 : Int32)
    [0, 0, 0, 7, 9] (.ofBytes [9]) rfl

end OzoPg
