import Mathlib.Data.List.Dedup

/-!
# Query builder

`include/ozo/query_builder.h` and `make_query` of `include/ozo/impl/query.h`. A builder is a
sequence of texts and parameters that additions put together; `text` and `params` are two folds over
it, of which the first writes the placeholder `$i` for a parameter and counts for itself.

Types are worked out by the compiler: a function gives `none` where the program does not type-check.

* `Addition.elements_of_eval` — however it is associated, an addition has the elements of its
  operands in their order.
* `foldlM_textStep` — what the fold of `text` adds for the elements it has passed: its `pieces`.
* `numbers_pieces` — the two folds count alike: the placeholders are those of `1` to the number of
  parameters.
-/

namespace OzoPg

/-! ## Numerals -/

namespace QueryBuilder

/-- `digit_to_string`. -/
def digitToString (value : Nat) : List Char := [Char.ofNat (48 + value)]

/-- `to_string`. The overload of `to_string_head` for zero ends the recursion. -/
def toString (value : Nat) : List Char :=
  let divident := value % 10
  let head := (value - divident) / 10
  (if head = 0 then [] else toString head) ++ digitToString divident
termination_by value
decreasing_by omega

theorem digitToString_eq {d : Nat} (h : d < 10) : digitToString d = [d.digitChar] := by
  revert d
  decide

/-- The numeral is the decimal one. -/
theorem toString_eq_toDigits (n : Nat) : toString n = Nat.toDigits 10 n := by
  induction n using Nat.strongRecOn with
  | ind n ih =>
      have hhead : (n - n % 10) / 10 = n / 10 := by omega
      rw [toString, Nat.toDigits_eq_if (by decide), digitToString_eq (by omega), hhead]
      by_cases hn : n < 10
      · rw [if_pos hn, if_pos (by omega), Nat.mod_eq_of_lt hn, List.nil_append]
      · rw [if_neg hn, if_neg (by omega), ih _ (by omega)]

end QueryBuilder

/-! ## Texts

The type of a sum decides whether an expression compiles, so it is computed along with the text. The
characters of the sum do not depend on it. -/

/-- The types of a text: `hana::string`, `std::string`, `const char*`, `std::string_view`. -/
inductive TextType where
  | hanaString
  | string
  | constChar
  | stringView
  deriving DecidableEq, Repr

/-- A value of one of these types; the characters of a `const char*` end before the first NUL. -/
structure QueryText where
  type : TextType
  chars : List Char
  deriving DecidableEq, Repr

/-- The type of `lhs + rhs`. There is no such operator between a `hana::string` and another type,
none for two pointers and none for a view. -/
def TextType.plus : TextType → TextType → Option TextType
  | .hanaString, .hanaString => some .hanaString
  | .string, .string => some .string
  | .string, .constChar => some .string
  | .constChar, .string => some .string
  | _, _ => none

/-- The type of `detail::concat(lhs, rhs)`, where `rhs` is a `hana::string`. A pointer is converted
to `std::string`, a view is not. -/
def TextType.concat : TextType → Option TextType
  | .hanaString => some .hanaString
  | .string => some .string
  | .constChar => some .string
  | .stringView => none

/-- Sums of texts of such a type and placeholders are of the type again. -/
structure TextType.Closed (type : TextType) : Prop where
  plus : type.plus type = some type
  concat : type.concat = some type

/-- The two types whose sums do not leave the type. -/
theorem TextType.closed {type : TextType} (h : type = .hanaString ∨ type = .string) :
    type.Closed := by
  rcases h with rfl | rfl <;> exact ⟨rfl, rfl⟩

namespace QueryText

/-- `lhs + rhs`. -/
def plus (lhs rhs : QueryText) : Option QueryText :=
  (lhs.type.plus rhs.type).map fun type => ⟨type, lhs.chars ++ rhs.chars⟩

/-- `detail::concat`. -/
def concat (lhs : QueryText) (rhs : List Char) : Option QueryText :=
  lhs.type.concat.map fun type => ⟨type, lhs.chars ++ rhs⟩

end QueryText

/-! ## Builders -/

variable {V : Type}

/-- `query_element`, with its tag. -/
inductive QueryElement (V : Type) where
  | text (value : QueryText)
  | param (value : V)
  deriving DecidableEq, Repr

/-- `query_builder`. -/
structure QueryBuilder (V : Type) where
  elements : List (QueryElement V)
  deriving DecidableEq, Repr

/-- `impl::query`. -/
structure BuiltQuery (V : Type) where
  text : QueryText
  params : List V
  deriving DecidableEq, Repr

/-- `make_query`: the overload for `const char*` makes a view of it. -/
def makeQuery (text : QueryText) (params : List V) : BuiltQuery V :=
  if text.type = .constChar then ⟨{ text with type := .stringView }, params⟩ else ⟨text, params⟩

namespace QueryBuilder

/-- What the fold of `text` carries: the number of the next parameter, and the text so far, `none`
for `nothing_t`. -/
structure TextFold where
  number : Nat
  text : Option QueryText
  deriving DecidableEq, Repr

/-- A step of the fold of `text`. -/
def textStep (r : TextFold) : QueryElement V → Option TextFold
  | .text value =>
    match r.text with
    | none => some ⟨r.number, some value⟩
    | some lhs => (lhs.plus value).map fun text => ⟨r.number, some text⟩
  | .param _ =>
    match r.text with
    | none => none -- there is no `concat` for `nothing_t`
    | some lhs => (lhs.concat ('$' :: toString r.number)).map fun text => ⟨r.number + 1, some text⟩

/-- `query_builder::text`. The text of no elements is `nothing_t`. -/
def text (builder : QueryBuilder V) : Option (Option QueryText) :=
  (builder.elements.foldlM textStep ⟨1, none⟩).map TextFold.text

/-- A step of the fold of `params`. -/
def paramsStep (r : List V) : QueryElement V → List V
  | .text _ => r
  | .param value => r ++ [value]

/-- `query_builder::params`. -/
def params (builder : QueryBuilder V) : List V :=
  builder.elements.foldl paramsStep []

/-- `query_builder::build`. `nothing_t` is not a `QueryText`. -/
def build (builder : QueryBuilder V) : Option (BuiltQuery V) :=
  match builder.text with
  | some (some text) => some (makeQuery text builder.params)
  | some none => none
  | none => none

end QueryBuilder

/-! ## Additions

A query is written as a sum, and the operands may be grouped in any way. Every grouping that
compiles stands for the same elements. -/

/-- The operands of `operator +`, all rvalues. -/
inductive Operand (V : Type) where
  | builder (value : QueryBuilder V)
  | element (value : QueryElement V)
  | value (value : V)

/-- `operator +`, where `none` is an expression that does not compile. A plain value is a parameter,
and there is no overload with one on the left. -/
def Operand.add : Operand V → Operand V → Option (QueryBuilder V)
  | .builder lhs, .builder rhs => some ⟨lhs.elements ++ rhs.elements⟩
  | .builder lhs, .element rhs => some ⟨lhs.elements ++ [rhs]⟩
  -- this overload calls `hana::prepend` with the element in the place of the tuple
  | .element _, .builder _ => none
  | .builder lhs, .value rhs => some ⟨lhs.elements ++ [.param rhs]⟩
  | .element lhs, .element rhs => some ⟨[lhs, rhs]⟩
  | .element lhs, .value rhs => some ⟨[lhs, .param rhs]⟩
  | .value _, _ => none

/-- An expression of additions, associated in any way. -/
inductive Addition (V : Type) where
  | operand (operand : Operand V)
  | add (lhs rhs : Addition V)

/-- The value of the expression. -/
def Addition.eval : Addition V → Option (Operand V)
  | .operand o => some o
  | .add lhs rhs => do
    let lhs ← lhs.eval
    let rhs ← rhs.eval
    (lhs.add rhs).map .builder

/-- The elements an operand stands for. -/
def Operand.elements : Operand V → List (QueryElement V)
  | .builder b => b.elements
  | .element e => [e]
  | .value v => [.param v]

/-- The elements of the operands, from left to right. -/
def Addition.elements : Addition V → List (QueryElement V)
  | .operand o => o.elements
  | .add lhs rhs => lhs.elements ++ rhs.elements

/-- Adding keeps the elements and their order. -/
theorem Operand.elements_of_add {lhs rhs : Operand V} {builder : QueryBuilder V}
    (h : lhs.add rhs = some builder) : builder.elements = lhs.elements ++ rhs.elements := by
  cases lhs <;> cases rhs <;> cases h <;> rfl

/-- An addition has the elements of its operands in their order. -/
theorem Addition.elements_of_eval {sum : Addition V} {operand : Operand V}
    (h : sum.eval = some operand) : operand.elements = sum.elements := by
  induction sum generalizing operand with
  | operand o =>
      cases h
      rfl
  | add lhs rhs ihl ihr =>
      simp only [eval, Option.bind_eq_bind, Option.bind_eq_some_iff, Option.map_eq_some_iff] at h
      obtain ⟨l, hl, r, hr, builder, hadd, rfl⟩ := h
      rw [elements, ← ihl hl, ← ihr hr]
      exact Operand.elements_of_add hadd

/-! ## Pieces -/

/-- What stands in the text of a query for an element. -/
inductive Piece where
  | text (chars : List Char)
  | placeholder (number : Nat)
  deriving DecidableEq, Repr

/-- `$` and the decimal numeral. -/
def placeholder (number : Nat) : List Char := '$' :: Nat.toDigits 10 number

def Piece.chars : Piece → List Char
  | .text chars => chars
  | .placeholder number => OzoPg.placeholder number

def Piece.number? : Piece → Option Nat
  | .text _ => none
  | .placeholder number => some number

def QueryElement.param? : QueryElement V → Option V
  | .text _ => none
  | .param value => some value

/-- The pieces of elements, with the parameters numbered from `number` on. -/
def pieces : Nat → List (QueryElement V) → List Piece
  | _, [] => []
  | number, .text value :: elements => .text value.chars :: pieces number elements
  | number, .param _ :: elements => .placeholder number :: pieces (number + 1) elements

/-- The text of elements. -/
def rendered (elements : List (QueryElement V)) : List Char :=
  (pieces 1 elements).flatMap Piece.chars

/-- The placeholders in it, in order. -/
def placeholders (elements : List (QueryElement V)) : List (List Char) :=
  ((pieces 1 elements).filterMap Piece.number?).map placeholder

theorem placeholder_injective : Function.Injective placeholder := by
  intro m n h
  have hdigits : Nat.toDigits 10 m = Nat.toDigits 10 n := List.tail_eq_of_cons_eq h
  have hvalue := congrArg (fun digits => Nat.ofDigitChars 10 digits 0) hdigits
  simpa using hvalue

/-- The numbers of the placeholders are consecutive, one for each parameter. -/
theorem numbers_pieces (number : Nat) (elements : List (QueryElement V)) :
    (pieces number elements).filterMap Piece.number? =
      List.range' number (elements.filterMap QueryElement.param?).length := by
  induction elements generalizing number with
  | nil => rfl
  | cons element elements ih =>
      cases element with
      | text value => exact ih number
      | param value => exact congrArg (number :: ·) (ih (number + 1))

/-! ## The folds

Both folds of the source run over the elements from the left. One numbers the parameters, the other
collects their values, and what they have in common is the order. -/

namespace QueryBuilder

theorem foldl_paramsStep (r : List V) (elements : List (QueryElement V)) :
    elements.foldl paramsStep r = r ++ elements.filterMap QueryElement.param? := by
  induction elements generalizing r with
  | nil => exact (List.append_nil r).symm
  | cons element elements ih =>
      rw [List.foldl_cons, ih]
      cases element with
      | text value => rfl
      | param value => exact List.append_assoc r [value] _

/-- The parameters are the values in the order of the elements. -/
theorem params_eq (builder : QueryBuilder V) :
    builder.params = builder.elements.filterMap QueryElement.param? :=
  foldl_paramsStep [] builder.elements

/-- The characters so far; `nothing_t` has none. -/
def TextFold.chars (r : TextFold) : List Char :=
  match r.text with
  | none => []
  | some text => text.chars

/-- A step writes the piece of its element, and leaves a text. -/
theorem textStep_spec {r r' : TextFold} {element : QueryElement V}
    (h : textStep r element = some r') (elements : List (QueryElement V)) :
    r'.text.isSome ∧
      r.chars ++ (pieces r.number (element :: elements)).flatMap Piece.chars =
        r'.chars ++ (pieces r'.number elements).flatMap Piece.chars := by
  obtain ⟨number, text⟩ := r
  cases element with
  | text value =>
      cases text with
      -- the first text is taken as it is
      | none =>
          cases h
          exact ⟨rfl, rfl⟩
      | some lhs =>
          simp only [textStep, QueryText.plus, Option.map_map, Option.map_eq_some_iff] at h
          obtain ⟨type, -, rfl⟩ := h
          exact ⟨rfl, (List.append_assoc ..).symm⟩
  | param value =>
      cases text with
      -- a parameter cannot come first: there is nothing to add it to
      | none => cases h
      | some lhs =>
          simp only [textStep, QueryText.concat, Option.map_map, Option.map_eq_some_iff,
            toString_eq_toDigits] at h
          obtain ⟨type, -, rfl⟩ := h
          exact ⟨rfl, (List.append_assoc ..).symm⟩

/-- The fold writes the pieces of its elements, numbered from where it starts. -/
theorem foldlM_textStep {r r' : TextFold} {elements : List (QueryElement V)}
    (h : elements.foldlM textStep r = some r') (htext : elements ≠ [] ∨ r.text.isSome) :
    r'.text.isSome ∧ r'.chars = r.chars ++ (pieces r.number elements).flatMap Piece.chars := by
  induction elements generalizing r with
  | nil =>
      cases h
      exact ⟨htext.resolve_left (· rfl), (List.append_nil _).symm⟩
  | cons element elements ih =>
      rw [List.foldlM_cons, Option.bind_eq_bind, Option.bind_eq_some_iff] at h
      obtain ⟨r₁, hstep, hrest⟩ := h
      obtain ⟨hsome, hchars⟩ := textStep_spec hstep elements
      rw [hchars]
      exact ih hrest (.inr hsome)

/-- With texts of one such type the fold type-checks once it has a text. -/
theorem isSome_foldlM_textStep {type : TextType} (htype : type.Closed)
    {elements : List (QueryElement V)} (helements : ∀ q, .text q ∈ elements → q.type = type)
    (number : Nat) {text : QueryText} (htext : text.type = type) :
    (elements.foldlM textStep ⟨number, some text⟩).isSome := by
  induction elements generalizing number text with
  | nil => rfl
  | cons element elements ih =>
      have hrest := ih fun q hq => helements q (List.mem_cons_of_mem _ hq)
      rw [List.foldlM_cons]
      cases element with
      | text value =>
          have hvalue := helements value List.mem_cons_self
          simp only [textStep, QueryText.plus, htext, hvalue, htype.plus]
          exact hrest number rfl
      | param value =>
          simp only [textStep, QueryText.concat, htext, htype.concat]
          exact hrest (number + 1) rfl

variable {builder : QueryBuilder V} {value : QueryText}
  (hfirst : builder.elements.head? = some (.text value))

include hfirst

/-- The fold renders the elements, numbering the parameters from one. -/
theorem text_eq {text : Option QueryText} (h : builder.text = some text) :
    text.map QueryText.chars = some (rendered builder.elements) := by
  obtain ⟨r, hfold, rfl⟩ := Option.map_eq_some_iff.mp h
  have hne : builder.elements ≠ [] := by
    intro hnil
    rw [hnil] at hfirst
    cases hfirst
  obtain ⟨hsome, hchars⟩ := foldlM_textStep hfold (.inl hne)
  obtain ⟨text, htext⟩ := Option.isSome_iff_exists.mp hsome
  rw [TextFold.chars, htext] at hchars
  rw [htext]
  exact congrArg some hchars

/-- A query is built of the text and the parameters. -/
theorem build_eq {text : Option QueryText} (h : builder.text = some text) :
    ∃ query, builder.build = some query ∧ query.text.chars = rendered builder.elements ∧
      query.params = builder.params := by
  obtain ⟨t, rfl, hchars⟩ := Option.map_eq_some_iff.mp (text_eq hfirst h)
  refine ⟨makeQuery t builder.params, by rw [build, h], ?_⟩
  unfold makeQuery
  split <;> exact ⟨hchars, rfl⟩

/-- With texts of one such type the text type-checks. -/
theorem isSome_text {type : TextType} (htype : type.Closed)
    (h : ∀ q, .text q ∈ builder.elements → q.type = type) : builder.text.isSome := by
  obtain ⟨rest, hrest⟩ := List.head?_eq_some_iff.mp hfirst
  rw [hrest] at h
  have hfold := isSome_foldlM_textStep htype (fun q hq => h q (List.mem_cons_of_mem _ hq)) 1
    (h value List.mem_cons_self)
  rw [text, hrest, Option.isSome_map]
  exact hfold

end QueryBuilder

/-- Whatever the additions, the text of a builder that starts with a text is that of its elements in
order, where the `i`-th parameter is `$i`; the query has this text and the parameters in order, and
as many placeholders as parameters. Texts that are all `hana::string`s or all `std::string`s
type-check. -/
theorem build_of_eval {sum : Addition V} {builder : QueryBuilder V} {value : QueryText}
    (h : sum.eval = some (.builder builder)) (hfirst : sum.elements.head? = some (.text value)) :
    (∀ text, builder.text = some text → text.map QueryText.chars = some (rendered sum.elements) ∧
      ∃ query, builder.build = some query ∧ query.text.chars = rendered sum.elements ∧
        query.params = sum.elements.filterMap QueryElement.param?) ∧
    builder.params = sum.elements.filterMap QueryElement.param? ∧
    (∀ type, type = .hanaString ∨ type = .string →
      (∀ q, .text q ∈ sum.elements → q.type = type) → builder.text.isSome) ∧
    placeholders sum.elements = (List.range' 1 builder.params.length).map placeholder ∧
    (placeholders sum.elements).dedup.length = builder.params.length := by
  have helements : builder.elements = sum.elements := Addition.elements_of_eval h
  rw [← helements] at hfirst
  rw [← helements, ← builder.params_eq]
  have hnumbers : placeholders builder.elements =
      (List.range' 1 builder.params.length).map placeholder := by
    rw [placeholders, numbers_pieces, builder.params_eq]
  refine ⟨fun text ht => ⟨builder.text_eq hfirst ht, builder.build_eq hfirst ht⟩, rfl, ?_,
    hnumbers, ?_⟩
  · intro type htype htexts
    exact builder.isSome_text hfirst (TextType.closed htype) htexts
  · have hnodup : (placeholders builder.elements).Nodup := by
      rw [hnumbers]
      exact (List.nodup_range' 1).map placeholder_injective
    rw [hnodup.dedup, hnumbers, List.length_map, List.length_range']

/-- The sum of two sums. -/
theorem build_of_eval_select :
    ∃ (sum : Addition Nat) (builder : QueryBuilder Nat),
      sum.eval = some (.builder builder) ∧ builder.params = [42, 13] ∧
      ∃ query, builder.build = some query ∧ query.text.chars = "SELECT $1 + $2".toList ∧
        query.params = [42, 13] := by
  let select : Operand Nat := .builder ⟨[.text ⟨.hanaString, "SELECT ".toList⟩]⟩
  let plus : Operand Nat := .element (.text ⟨.hanaString, " + ".toList⟩)
  let sum : Addition Nat := .add (.add (.operand select) (.operand (.value 42)))
    (.add (.operand plus) (.operand (.value 13)))
  have heval : sum.eval = some (.builder ⟨sum.elements⟩) := rfl
  obtain ⟨htext, hparams, htypes, -, -⟩ := build_of_eval heval rfl
  have htype (q : QueryText) (hq : .text q ∈ sum.elements) : q.type = .hanaString := by
    simp only [sum, select, plus, Addition.elements, Operand.elements, List.cons_append,
      List.nil_append, List.mem_cons, QueryElement.text.injEq, reduceCtorEq, false_or,
      List.not_mem_nil, or_false] at hq
    rcases hq with rfl | rfl <;> rfl
  obtain ⟨text, h⟩ := Option.isSome_iff_exists.mp (htypes .hanaString (.inl rfl) htype)
  obtain ⟨-, query, hbuild, hchars, hqparams⟩ := htext text h
  exact ⟨sum, _, heval, hparams, query, hbuild, hchars.trans (by decide), hqparams⟩

end OzoPg
