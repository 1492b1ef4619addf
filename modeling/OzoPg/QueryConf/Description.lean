import OzoPg.Lib.Except
import OzoPg.QueryConf.Parse

/-!
# Descriptions

A description is the text of a definition with a placeholder for each parameter. The number of the
placeholder is counted over the names of the members, or read from the name itself.

* `parameterNumber_eq_ok_iff` — the names a number is found for, and the number.
* `makeQueryDescription_eq_ok_iff` — when a description is made, and its text.
-/

namespace OzoPg.QueryConf

/-! ## Numbers

Whether a name resolves, and to which number, is said here by what the name is: a member of the
adapted structure, or the digits of a number below the size of the tuple. The loop over the keys
and the conversion of the source come to the same. -/

/-- Behind the member of the name nothing is counted. -/
theorem foldl_countKey_true (value : Text) (members : List Text) (n : Nat) :
    members.foldl (countKey value) (true, n) = (true, n) := by
  induction members with
  | nil => rfl
  | cons key members ih =>
      have hkey : countKey value (true, n) key = (true, n) := by
        unfold countKey
        split <;> rfl
      rw [List.foldl_cons, hkey, ih]

/-- The loop counts the members before the first one of the name. -/
theorem foldl_countKey (value : Text) (members : List Text) (n : Nat) :
    members.foldl (countKey value) (false, n) =
      (decide (value ∈ members), n + members.idxOf value) := by
  induction members generalizing n with
  | nil => rfl
  | cons key members ih =>
      rw [List.foldl_cons]
      by_cases hkey : key = value
      · subst hkey
        simp [countKey, foldl_countKey_true]
      · have hcount : countKey value (false, n) key = (false, n + 1) := by simp [countKey, hkey]
        rw [hcount, ih, List.idxOf_cons_ne _ hkey]
        simp [Ne.symm hkey, Nat.add_assoc, Nat.add_comm 1]

/-- The number of parameters. -/
def ParametersType.size : ParametersType → Nat
  | .struct members => members.length
  | .tuple size => size

/-- The number a name stands for: the place of the member of that name, or the number itself. -/
def ParametersType.number (parameters : ParametersType) (name : Text) : Nat :=
  match parameters with
  | .struct members => members.idxOf name
  | .tuple _ => Nat.ofDigitChars 10 name 0

/-- A name resolves as that of a member, or as a decimal number below the size of the tuple, which
is a `std::size_t`. -/
def ParametersType.Resolves (parameters : ParametersType) (name : Text) : Prop :=
  match parameters with
  | .struct members => name ∈ members
  | .tuple size =>
    name ≠ [] ∧ (∀ c ∈ name, c.isDigit = true) ∧ Nat.ofDigitChars 10 name 0 < min size (2 ^ 64)

/-- What is converted: digits, not too many of them. -/
theorem tryLexicalConvert_eq_some_iff {name : Text} {n : Nat} :
    tryLexicalConvert name = some n ↔
      name ≠ [] ∧ (∀ c ∈ name, c.isDigit = true) ∧ Nat.ofDigitChars 10 name 0 < 2 ^ 64 ∧
        n = Nat.ofDigitChars 10 name 0 := by
  have hall : name.all Char.isDigit = true ↔ ∀ c ∈ name, c.isDigit = true := List.all_eq_true
  show (if _ then if Nat.ofDigitChars 10 name 0 < 2 ^ 64 then some (Nat.ofDigitChars 10 name 0)
    else none else none) = some n ↔ _
  rw [← hall]
  -- digits only, and then the range
  by_cases hdigits : name ≠ [] ∧ name.all Char.isDigit = true
  · rw [if_pos hdigits]
    by_cases hword : Nat.ofDigitChars 10 name 0 < 2 ^ 64
    · rw [if_pos hword]
      constructor
      · rintro ⟨⟩
        exact ⟨hdigits.1, hdigits.2, hword, rfl⟩
      · rintro ⟨-, -, -, rfl⟩
        rfl
    · rw [if_neg hword]
      exact iff_of_false nofun fun h => hword h.2.2.1
  · rw [if_neg hdigits]
    exact iff_of_false nofun fun h => hdigits ⟨h.1, h.2.1⟩

/-- A number is found for exactly the names that resolve. -/
theorem parameterNumber_eq_ok_iff {query : Query} {name : Text} {n : Nat} :
    parameterNumber query name = .ok n ↔
      query.parameters.Resolves name ∧ n = query.parameters.number name := by
  unfold parameterNumber ParametersType.Resolves ParametersType.number
  cases query.parameters with
  | struct members =>
      simp only [foldl_countKey, decide_eq_true_eq, Nat.zero_add]
      by_cases hmem : name ∈ members
      · rw [if_pos hmem]
        simp [hmem, eq_comm]
      · rw [if_neg hmem]
        exact iff_of_false nofun fun h => hmem h.1
  -- the name is a number below both the size and the limit of the type
  | tuple size =>
      simp only [Nat.lt_min]
      cases hconvert : tryLexicalConvert name with
      | none =>
          refine iff_of_false nofun ?_
          rintro ⟨⟨hne, hdigits, -, hword⟩, -⟩
          rw [tryLexicalConvert_eq_some_iff.mpr ⟨hne, hdigits, hword, rfl⟩] at hconvert
          cases hconvert
      | some number =>
          obtain ⟨hne, hdigits, hword, rfl⟩ := tryLexicalConvert_eq_some_iff.mp hconvert
          show (if _ then _ else _) = _ ↔ _
          by_cases hsize : size ≤ Nat.ofDigitChars 10 name 0
          · rw [if_pos hsize]
            exact iff_of_false nofun fun h => Nat.not_lt_of_le hsize h.1.2.2.1
          · rw [if_neg hsize]
            constructor
            · rintro ⟨⟩
              exact ⟨⟨hne, hdigits, Nat.lt_of_not_le hsize, hword⟩, rfl⟩
            · rintro ⟨-, rfl⟩
              rfl

/-- A name that resolves stands for one of the parameters. -/
theorem ParametersType.Resolves.number_lt {parameters : ParametersType} {name : Text}
    (h : parameters.Resolves name) : parameters.number name < parameters.size := by
  cases parameters with
  | struct members => exact List.idxOf_lt_length_of_mem h
  | tuple size => exact (Nat.lt_min.mp h.2.2).1

/-- The value a name stands for: the member of that name, or the element of that number. -/
def Parameters.value {V : Type} (parameters : Parameters V) (name : Text) : Option V :=
  match parameters with
  | .struct fields => fields.lookup name
  | .tuple elements => elements[Nat.ofDigitChars 10 name 0]?

/-- The member of a name is the one at its place. -/
theorem lookup_eq_getElem?_idxOf {V : Type} (fields : List (Text × V)) (name : Text) :
    fields.lookup name = (fields.map Prod.snd)[(fields.map Prod.fst).idxOf name]? := by
  induction fields with
  | nil => rfl
  | cons field fields ih =>
      obtain ⟨key, value⟩ := field
      by_cases hname : key = name
      · subst hname
        simp
      · have hbeq : (name == key) = false := by simpa using Ne.symm hname
        simp only [List.lookup_cons, hbeq, ih, List.map_cons, List.idxOf_cons_ne _ hname,
          List.getElem?_cons_succ]

/-- As many values are passed on as there are parameters. -/
theorem length_unpack {V : Type} (parameters : Parameters V) :
    parameters.unpack.length = parameters.type.size := by
  cases parameters <;> simp [Parameters.unpack, Parameters.type, ParametersType.size]

/-- The number is that of the value among those passed on. -/
theorem unpack_getElem?_number {V : Type} (parameters : Parameters V) (name : Text) :
    parameters.unpack[parameters.type.number name]? = parameters.value name := by
  cases parameters with
  | struct fields => exact (lookup_eq_getElem?_idxOf fields name).symm
  | tuple elements => rfl

/-! ## Texts -/

/-- The text of a segment: a parameter becomes its placeholder. -/
def Segment.render (parameters : ParametersType) : Segment → Text
  | .char c => [c]
  | .parameter name => placeholder (parameters.number name)

/-- The text an element becomes. -/
def QueryTextElement.render (parameters : ParametersType) (element : QueryTextElement) : Text :=
  element.segments.flatMap (Segment.render parameters)

/-- Every parameter of the text resolves. -/
def Resolved (parameters : ParametersType) (elements : List QueryTextElement) : Prop :=
  ∀ name, .parameterName name ∈ elements → parameters.Resolves name

theorem render_parameterName (parameters : ParametersType) (name : Text) :
    (QueryTextElement.parameterName name).render parameters =
      placeholder (parameters.number name) := by
  simp [QueryTextElement.render, QueryTextElement.segments, Segment.render]

theorem render_part (parameters : ParametersType) (value : Text) :
    (QueryTextElement.part value).render parameters = value := by
  simp [QueryTextElement.render, QueryTextElement.segments, Segment.render, List.flatMap_map]

/-- Only a parameter that does not resolve is an error. -/
theorem visitPart_eq_ok_iff (query : Query) (text : Text) (element : QueryTextElement)
    (result : Text) :
    visitPart query text element = .ok result ↔
      (∀ name, element = .parameterName name → query.parameters.Resolves name) ∧
        result = text ++ element.render query.parameters := by
  cases element with
  | part value => simp [visitPart, render_part, eq_comm]
  | parameterName name =>
      refine Except.map_eq_ok_iff.trans ?_
      simp only [parameterNumber_eq_ok_iff, render_parameterName]
      constructor
      · rintro ⟨_, ⟨hresolves, rfl⟩, rfl⟩
        refine ⟨?_, rfl⟩
        rintro _ ⟨⟩
        exact hresolves
      · rintro ⟨hresolves, rfl⟩
        exact ⟨_, ⟨hresolves name rfl, rfl⟩, rfl⟩

/-- The visitor renders the elements one behind the other. -/
theorem foldlM_visitPart_eq_ok_iff {query : Query} {elements : List QueryTextElement}
    {text result : Text} :
    elements.foldlM (visitPart query) text = .ok result ↔
      Resolved query.parameters elements ∧
        result = text ++ elements.flatMap (QueryTextElement.render query.parameters) := by
  refine (Except.foldlM_eq_ok_iff (visitPart_eq_ok_iff query)).trans ?_
  rw [List.foldl_append_eq_append]
  refine and_congr_left' ⟨fun h name hname => h _ hname name rfl, ?_⟩
  rintro h element helement name rfl
  exact h name helement

/-- The text of a definition with the parameters of a declared query. -/
def describe (query : Query) (parsed : ParsedQuery) : QueryDescription :=
  ⟨parsed.name, trim (parsed.text.flatMap (QueryTextElement.render query.parameters))⟩

/-- A description is made exactly when every parameter resolves. -/
theorem makeQueryDescription_eq_ok_iff {query : Query} {parsed : ParsedQuery}
    {description : QueryDescription} :
    makeQueryDescription query parsed = .ok description ↔
      Resolved query.parameters parsed.text ∧ description = describe query parsed := by
  unfold makeQueryDescription describe
  rw [Except.map_eq_ok_iff]
  simp only [foldlM_visitPart_eq_ok_iff, List.nil_append]
  constructor
  · rintro ⟨text, ⟨hresolved, rfl⟩, rfl⟩
    exact ⟨hresolved, rfl⟩
  · rintro ⟨hresolved, rfl⟩
    exact ⟨_, ⟨hresolved, rfl⟩, rfl⟩

/-! ## A query with two members -/

def pairConf : Text := "-- name: pair\nf(:a,\n:b)\n".toList

def pairParsed : ParsedQuery :=
  ⟨"pair".toList, [.part "f(".toList, .parameterName "a".toList, .part ",\n".toList,
    .parameterName "b".toList, .part ")\n".toList]⟩

/-- The members stand in another order than the parameters. -/
def pairQuery : Query := ⟨"pair".toList, .struct ["b".toList, "a".toList]⟩

end OzoPg.QueryConf
