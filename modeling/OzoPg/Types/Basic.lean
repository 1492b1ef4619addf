import OzoPg.Lib.Positional

/-!
# The type system: C++ types with a PostgreSQL definition

`include/ozo/type_traits.h`, `include/ozo/pg/definitions.h` and the bindings of
`include/ozo/pg/types` and `include/ozo/ext` decide which C++ types the library can send and
receive. The grammar below follows them, so a type the templates reject cannot be written
down: an array element is a type with an array definition of its own (never an array), and a
nullable wraps a defined type exactly once.

Values are Lean values of the matching Lean type (`Val`). Integers are the fixed-width ones of
the source, floating point numbers are their bit patterns, strings are byte lists, and the
containers with an invariant (`std::array`, `boost::uuids::uuid`) carry it.
-/

namespace OzoPg

abbrev Bytes := List UInt8

/-- `oid_t`. -/
abbrev Oid := UInt32

/-- `null_oid`. -/
def nullOid : Oid := 0

/-- `size_type`, the signed 32-bit sizes of the wire format. -/
abbrev SizeType := Int32

/-- `null_state_size`, the size that stands for SQL NULL. -/
def nullStateSize : SizeType := -1

/-! ## Scalars -/

/-- The C++ types bound to a PostgreSQL scalar type, named as in `ozo::pg`. -/
inductive Scalar where
  | bool | char | int2 | int4 | int8 | oid | float4 | float8
  | text | bytea | name | json | uuid | timestamp | interval | jsonb | ltree
  deriving DecidableEq, Repr

/-- `type_traits<T>::size`: the declared size, or `none` for `dynamic_size`. -/
def Scalar.size : Scalar → Option Nat
  | .bool => some 1
  | .char => some 1
  | .int2 => some 2
  | .int4 => some 4
  | .int8 => some 8
  | .oid => some 4
  | .float4 => some 4
  | .float8 => some 8
  | .uuid => some 16
  | .timestamp => some 8
  | .interval => some 16
  | .text | .bytea | .name | .json | .jsonb | .ltree => none

/-- `type_traits<T>::oid` of a built-in type, `none` for a custom one. -/
def Scalar.oid? : Scalar → Option Oid
  | .bool => some 16
  | .bytea => some 17
  | .char => some 18
  | .name => some 19
  | .int8 => some 20
  | .int2 => some 21
  | .int4 => some 23
  | .text => some 25
  | .oid => some 26
  | .json => some 114
  | .float4 => some 700
  | .float8 => some 701
  | .timestamp => some 1114
  | .interval => some 1186
  | .uuid => some 2950
  | .jsonb => some 3802
  | .ltree => none

/-- The `oid` of the array definition of a built-in type. -/
def Scalar.arrayOid? : Scalar → Option Oid
  | .bool => some 1000
  | .bytea => some 1001
  | .char => some 1002
  | .name => some 1003
  | .int8 => some 1016
  | .int2 => some 1005
  | .int4 => some 1007
  | .text => some 1009
  | .oid => some 1028
  | .json => some 199
  | .float4 => some 1021
  | .float8 => some 1022
  | .timestamp => some 1115
  | .interval => some 1187
  | .uuid => some 2951
  | .jsonb => some 3807
  | .ltree => none

/-- `boost::uuids::uuid`. -/
structure Uuid where
  data : Bytes
  size_eq : data.length = 16
  deriving DecidableEq

/-- The values of a scalar type. `timestamp` counts the ticks of `system_clock::time_point`,
`interval` those of `std::chrono::microseconds`. -/
@[reducible] def Scalar.Val : Scalar → Type
  | .bool => Bool
  | .char => UInt8
  | .int2 => Int16
  | .int4 => Int32
  | .int8 => Int64
  | .oid => Oid
  | .float4 => UInt32
  | .float8 => UInt64
  | .uuid => Uuid
  | .timestamp => Int64
  | .interval => Int64
  | .text | .bytea | .name | .json | .jsonb | .ltree => Bytes

/-- A default-constructed scalar. -/
def Scalar.default : (s : Scalar) → s.Val
  | .bool => false
  | .char => (0 : UInt8)
  | .int2 => (0 : Int16)
  | .int4 => (0 : Int32)
  | .int8 => (0 : Int64)
  | .oid => (0 : UInt32)
  | .float4 => (0 : UInt32)
  | .float8 => (0 : UInt64)
  | .uuid => Uuid.mk (List.replicate 16 0) rfl
  | .timestamp => (0 : Int64)
  | .interval => (0 : Int64)
  | .text | .bytea | .name | .json | .jsonb | .ltree => ([] : Bytes)

/-! ## Nullables and containers -/

/-- Whether a C++ type is the defined type itself or a `Nullable` of it. -/
inductive Nullability where
  | plain
  | nullable
  deriving DecidableEq, Repr

/-- The values of a type wrapped as `n` says. -/
@[reducible] def Nullability.Val : Nullability → Type → Type
  | .plain, α => α
  | .nullable, α => Option α

/-- `is_null`. -/
def isNull {α : Type} : (n : Nullability) → n.Val α → Bool
  | .plain, _ => false
  | .nullable, none => true
  | .nullable, some _ => false

/-- A property of the unwrapped value, trivial for a null. -/
def Nullability.All {α : Type} (P : α → Prop) : (n : Nullability) → n.Val α → Prop
  | .plain, v => P v
  | .nullable, none => True
  | .nullable, some v => P v

/-- A default-constructed wrapper: nullables start in the null state. -/
def Nullability.default {α : Type} (inner : α) : (n : Nullability) → n.Val α
  | .plain => inner
  | .nullable => none

/-- The container templates that model `Array`. -/
inductive Container where
  | vector
  | list
  | array (size : Nat)
  deriving DecidableEq, Repr

/-- The numbers of elements a container type can hold. -/
def Container.Fits : Container → Nat → Prop
  | .vector, _ => True
  | .list, _ => True
  | .array size, k => k = size

/-- A container object. -/
structure ArrayVal (c : Container) (α : Type) where
  items : List α
  fits : c.Fits items.length

theorem ArrayVal.ext_items {c : Container} {α : Type} {a b : ArrayVal c α}
    (h : a.items = b.items) : a = b := by
  cases a
  cases b
  cases h
  rfl

/-- A default-constructed container: empty, or `size` default-constructed elements. -/
def Container.default {α : Type} (item : α) : (c : Container) → ArrayVal c α
  | .vector => ⟨[], trivial⟩
  | .list => ⟨[], trivial⟩
  | .array size => ⟨List.replicate size item, List.length_replicate⟩

/-! ## The grammar of types

The types nest: arrays have elements, composites have members. The library is generic over them, so
the definitions go by recursion on a type and the theorems by induction. -/

/-- Which library a struct is adapted with. -/
inductive Adaptation where
  | fusion
  | hana
  deriving DecidableEq, Repr

/-- A type whose oid is known to the connection's oid map only. -/
inductive CustomType where
  | ltree
  | user (id : Nat)
  deriving DecidableEq, Repr

/-- The definition of a composite: the built-in `record` of tuples and pairs, or a type of
`OZO_PG_DEFINE_CUSTOM_TYPE`. -/
inductive Definition where
  | record
  | custom (id : Nat)
  deriving DecidableEq, Repr

mutual

/-- The types with an array definition: scalars and composites. `interval` has none, so it is here
for uniformity only. -/
inductive ElementType where
  | scalar (s : Scalar)
  | composite (a : Adaptation) (d : Definition) (ms : MemberTypes)
  deriving DecidableEq

/-- The unwrapped types with a definition. -/
inductive ObjectType where
  | element (e : ElementType)
  | array (c : Container) (n : Nullability) (e : ElementType)
  deriving DecidableEq

/-- The members of a composite, in the order of the adaptation. -/
inductive MemberTypes where
  | nil
  | cons (n : Nullability) (t : ObjectType) (ms : MemberTypes)
  deriving DecidableEq

end

/-- `fields_number`. -/
def MemberTypes.fieldsNumber : MemberTypes → Nat
  | .nil => 0
  | .cons _ _ ms => ms.fieldsNumber + 1

mutual

/-- The values of an element type. -/
@[reducible] def ElementType.Val : ElementType → Type
  | .scalar s => s.Val
  | .composite _ _ ms => ms.Val

/-- The values of an unwrapped type. -/
@[reducible] def ObjectType.Val : ObjectType → Type
  | .element e => e.Val
  | .array c n e => ArrayVal c (n.Val e.Val)

/-- The member values of a composite. -/
@[reducible] def MemberTypes.Val : MemberTypes → Type
  | .nil => Unit
  | .cons n t ms => n.Val t.Val × ms.Val

end

/-! ## Default construction

A struct may give its members default initializers, so what its default constructor makes of them
is the program's own choice. It is a parameter of everything that constructs objects: of the
decoders, which do so when they allocate a nullable or make room in a container. -/

/-- The default constructors of the composites of a program. -/
structure Constructors where
  composite : Adaptation → Definition → (ms : MemberTypes) → ms.Val

/-- A default-constructed object of an element type. -/
def ElementType.default (cs : Constructors) : (e : ElementType) → e.Val
  | .scalar s => s.default
  | .composite a d ms => cs.composite a d ms

/-- A default-constructed object. -/
def ObjectType.default (cs : Constructors) : (t : ObjectType) → t.Val
  | .element e => e.default cs
  | .array c n e => c.default (n.default (e.default cs))

mutual

/-- A value-initialized object of an element type. -/
def ElementType.zero : (e : ElementType) → e.Val
  | .scalar s => s.default
  | .composite _ _ ms => ms.zero

/-- A value-initialized object. -/
def ObjectType.zero : (t : ObjectType) → t.Val
  | .element e => e.zero
  | .array c n e => c.default (n.default e.zero)

/-- Value-initialized members. -/
def MemberTypes.zero : (ms : MemberTypes) → ms.Val
  | .nil => ()
  | .cons n t ms => (n.default t.zero, ms.zero)

end

/-- No struct has default member initializers, as none of the tuples and pairs has. -/
def Constructors.zero : Constructors := ⟨fun _ _ ms => ms.zero⟩

/-! ## Oid maps -/

/-- A key of the oid map: the unwrapped C++ type. Each container of a custom type is a type of
its own. -/
inductive OidKey where
  | object (t : CustomType)
  | array (c : Container) (n : Nullability) (t : CustomType)
  deriving DecidableEq, Repr

/-- `oid_map_t`: the registered types with their current oids, in the order of registration. -/
structure OidMap where
  entries : List (OidKey × Oid)
  deriving DecidableEq, Repr

/-- `map.impl[key]`. The templates refuse a key that is not registered. -/
def OidMap.at (m : OidMap) (k : OidKey) : Oid := (m.entries.lookup k).getD nullOid

/-- `type_oid<T>(map)` for an element type. -/
def ElementType.typeOid (m : OidMap) : ElementType → Oid
  | .scalar s => s.oid?.getD (m.at (.object .ltree))
  | .composite _ .record _ => 2249
  | .composite _ (.custom id) _ => m.at (.object (.user id))

/-- `type_oid<T>(map)` for a container of an element type. -/
def ElementType.arrayOid (m : OidMap) (c : Container) (n : Nullability) : ElementType → Oid
  | .scalar s => s.arrayOid?.getD (m.at (.array c n .ltree))
  | .composite _ .record _ => 2287
  | .composite _ (.custom id) _ => m.at (.array c n (.user id))

/-- `type_oid<T>(map)`. A nullable has the oid of what it wraps. -/
def ObjectType.typeOid (m : OidMap) : ObjectType → Oid
  | .element e => e.typeOid m
  | .array c n e => e.arrayOid m c n

/-- `StaticSize<T>`, looked up in the definition of the unwrapped type. -/
def ElementType.staticSize : ElementType → Option Nat
  | .scalar s => s.size
  | .composite _ _ _ => none

end OzoPg
