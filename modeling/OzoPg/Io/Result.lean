import OzoPg.Io.Recv

/-!
# Results

`include/ozo/result.h` and the part of `include/ozo/io/recv.h` that takes a result apart: a value is
received as an object, a row as one column, as a sequence by position or as a struct by name, and
a result into an output iterator row by row.

An exception ends the loop over the rows and keeps what has been done with the rows before, so
`recvResult` returns the output next to the exception.
-/

namespace OzoPg

/-! ## Values, rows and results -/

/-- `ozo::value`, together with the name of its column. `data` is `none` for a NULL. -/
structure Value where
  name : String
  oid : Oid
  data : Option Bytes
  deriving DecidableEq, Repr

/-- `ozo::row`. -/
abbrev Row := List Value

/-- `basic_result`: the columns with their types and, for each tuple, one value for each of
them. -/
structure ResultSet where
  columns : List (String × Oid)
  tuples : List { values : List (Option Bytes) // values.length = columns.length }

/-- The rows of a result. -/
def ResultSet.rows (r : ResultSet) : List Row :=
  r.tuples.map fun t => List.zipWith (fun c data => ⟨c.1, c.2, data⟩) r.columns t.1

/-- `row::find`. `PQfnumber` folds the case of the name it is given and takes the first column. -/
def Row.find (row : Row) (name : String) : Option Value :=
  List.find? (·.name == name.toLower) row

/-- What receiving a row may throw: what decoding a value throws, or `std::range_error` when the
columns do not suit the object. -/
inductive RowException where
  | value (e : Exception)
  | rowSize (received expected : Nat)
  | noColumn (name : String)
  deriving DecidableEq, Repr

/-- The code of an `ozo::system_error`, `none` for a standard exception. -/
def RowException.code? : RowException → Option Error
  | .value e => e.code?
  | .rowSize _ _ => none
  | .noColumn _ => none

/-- `recv(value)`. -/
def recvValue (cs : Constructors) (m : OidMap) (n : Nullability) (t : ObjectType) (v : Value)
    (out : n.Val t.Val) :
    Except RowException (n.Val t.Val) :=
  let size := match v.data with
    | none => nullStateSize
    | some data => Int32.ofNat data.length
  let stream := Istream.ofBytes (v.data.getD [])
  match recv (t.typeOid m) (t.default cs) (t.recvImpl cs m) n (some v.oid) size out stream with
  | .ok (x, _) => .ok x
  | .error e => .error (.value e)

/-! ## Rows -/

/-- The names of the members of a struct. -/
inductive MemberNames : MemberTypes → Type where
  | nil : MemberNames .nil
  | cons {n : Nullability} {t : ObjectType} {ms : MemberTypes} (name : String)
      (names : MemberNames ms) : MemberNames (.cons n t ms)

/-- The objects a row can be received as: a column of its own, a Fusion sequence, or a struct
adapted with Fusion or with Hana. -/
inductive RowType where
  | column (n : Nullability) (t : ObjectType)
  | sequence (ms : MemberTypes)
  | struct (a : Adaptation) (ms : MemberTypes) (names : MemberNames ms)

@[reducible] def RowType.Val : RowType → Type
  | .column n t => n.Val t.Val
  | .sequence ms => ms.Val
  | .struct _ ms _ => ms.Val

/-- The loop over the items of a sequence, of the size of the row. -/
def recvItemsOf (cs : Constructors) (m : OidMap) :
    Row → (ms : MemberTypes) → ms.Val → Except RowException ms.Val
  | _, .nil, _ => pure ()
  | [], .cons _ _ _, out => pure out
  | v :: row, .cons n t ms, out => do
    let x ← recvValue cs m n t v out.1
    let xs ← recvItemsOf cs m row ms out.2
    return (x, xs)

/-- The loop over the members of a struct, the same for both adaptations. -/
def recvMembersOf (cs : Constructors) (m : OidMap) (row : Row) :
    {ms : MemberTypes} → MemberNames ms → ms.Val → Except RowException ms.Val
  | _, .nil, _ => pure ()
  | .cons n t _, .cons name names, out =>
    match row.find name with
    | none => throw (.noColumn name)
    | some v => do
      let x ← recvValue cs m n t v out.1
      let xs ← recvMembersOf cs m row names out.2
      return (x, xs)

/-- `recv_row`. -/
def recvRow (cs : Constructors) (m : OidMap) :
    (r : RowType) → Row → r.Val → Except RowException r.Val
  | .column n t, row, out =>
    match row with
    | [v] => recvValue cs m n t v out
    | _ => throw (.rowSize row.length 1)
  | .sequence ms, row, out =>
    if ms.fieldsNumber ≠ row.length then throw (.rowSize row.length ms.fieldsNumber)
    else recvItemsOf cs m row ms out
  | .struct _ ms names, row, out =>
    if ms.fieldsNumber ≠ row.length then throw (.rowSize row.length ms.fieldsNumber)
    else recvMembersOf cs m row names out

/-! ## Outputs

An insert iterator is known by what an assignment through it does to the container; a forward
iterator is a position in a sequence. -/

/-- `recv_result` into an insert iterator, which is given by what an assignment through it does to
the container. `blank` is the `value_type v{}` that every row is received into, with the default
initializers of its members. -/
def recvInserted (cs : Constructors) (m : OidMap) (r : RowType) (blank : r.Val) {γ : Type}
    (insert : γ → r.Val → γ) : List Row → γ → γ × Option RowException
  | [], container => (container, none)
  | row :: rows, container =>
    match recvRow cs m r row blank with
    | .error e => (container, some e)
    | .ok v => recvInserted cs m r blank insert rows (insert container v)

/-- `recv_result` into a forward iterator at a position of a sequence of objects. An exception
leaves an object that is assigned in part, `torn` says how. -/
def recvInPlace (cs : Constructors) (m : OidMap) (r : RowType) (torn : Row → r.Val → r.Val) :
    List Row → Nat → (Nat → r.Val) → (Nat → r.Val) × Option RowException
  | [], _, objects => (objects, none)
  | row :: rows, i, objects =>
    match recvRow cs m r row (objects i) with
    | .error e => (fun j => if j = i then torn row (objects i) else objects j, some e)
    | .ok v => recvInPlace cs m r torn rows (i + 1) fun j => if j = i then v else objects j

/-- The outputs of a request. -/
inductive Output where
  | insertIterator (r : RowType) (blank : r.Val) (insert : List r.Val → r.Val → List r.Val)
      (container : List r.Val)
  | forwardIterator (r : RowType) (torn : Row → r.Val → r.Val) (objects : Nat → r.Val)
  | result (r : Option ResultSet)

/-- `recv_result`. -/
def Output.recvResult (cs : Constructors) (m : OidMap) (res : ResultSet) :
    Output → Output × Option RowException
  | .insertIterator r blank insert container =>
    let (container, e) := recvInserted cs m r blank insert res.rows container
    (.insertIterator r blank insert container, e)
  | .forwardIterator r torn objects =>
    let (objects, e) := recvInPlace cs m r torn res.rows 0 objects
    (.forwardIterator r torn objects, e)
  | .result _ => (.result (some res), none)

/-! ## The loop over the rows -/

section Inserted

variable {cs : Constructors} {m : OidMap} {r : RowType} {blank : r.Val}

/-- The rows decoded before the first exception. -/
def decodedRows (cs : Constructors) (m : OidMap) (r : RowType) (blank : r.Val) :
    List Row → List r.Val
  | [] => []
  | row :: rows =>
    match recvRow cs m r row blank with
    | .error _ => []
    | .ok v => v :: decodedRows cs m r blank rows

/-- A container receives the rows up to the exception, one after another. -/
theorem recvInserted_fst {γ : Type} (insert : γ → r.Val → γ) (rows : List Row) (container : γ) :
    (recvInserted cs m r blank insert rows container).1 =
      (decodedRows cs m r blank rows).foldl insert container := by
  induction rows generalizing container with
  | nil => rfl
  | cons row rows ih =>
      unfold recvInserted decodedRows
      split
      · rfl
      · exact ih _

/-- Whether there is an exception does not depend on the container. -/
theorem recvInserted_snd {γ δ : Type} (insert : γ → r.Val → γ) (insert' : δ → r.Val → δ)
    (rows : List Row) (c : γ) (d : δ) :
    (recvInserted cs m r blank insert rows c).2 = (recvInserted cs m r blank insert' rows d).2 := by
  induction rows generalizing c d with
  | nil => rfl
  | cons row rows ih =>
      unfold recvInserted
      split
      · rfl
      · exact ih _ _

/-- Without an exception every row is decoded. -/
theorem length_decodedRows_of_none {γ : Type} {insert : γ → r.Val → γ} {rows : List Row} {c : γ}
    (h : (recvInserted cs m r blank insert rows c).2 = none) :
    (decodedRows cs m r blank rows).length = rows.length := by
  induction rows generalizing c with
  | nil => rfl
  | cons row rows ih =>
      unfold recvInserted at h
      unfold decodedRows
      split at h
      · cases h
      · exact congrArg (· + 1) (ih h)

end Inserted

end OzoPg
