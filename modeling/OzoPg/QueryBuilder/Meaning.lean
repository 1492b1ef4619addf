import OzoPg.QueryBuilder

/-!
# What a built query says

The elements of a builder are put together as texts with `$i` in the places of the parameters, and
whoever reads the result must find the places again. A parameter is read as `$` with all the digits
behind it, so a text that starts with a digit continues the number of a parameter it stands behind.
The reader here is no more than that rule; quotes, comments and identifiers are not its business.

* `length_scan_le` — each such text costs at least one symbol;
* `build_means_iff` — a query says what its elements say exactly if there is none. The texts
  themselves are to be without `$`.
-/

namespace OzoPg

variable {V : Type}

/-! ## Reading

A server finds the parameters in the text by itself: `$` with the longest run of digits behind it.
What a query means is what is read in this way, not what was put in. -/

/-- What is read: a character, or the number of a parameter. -/
inductive Token where
  | char (c : Char)
  | param (number : Nat)
  deriving DecidableEq, Repr

/-- Where the reader is: in the text, behind `$`, or in a number. -/
inductive Mode where
  | text
  | dollar
  | number (value : Nat)
  deriving DecidableEq, Repr

/-- The reader. A `$` without digits is a character. -/
def scan : Mode → List Char → List Token
  | .text, [] => []
  | .dollar, [] => [.char '$']
  | .number value, [] => [.param value]
  | .text, c :: cs => if c = '$' then scan .dollar cs else .char c :: scan .text cs
  | .dollar, c :: cs =>
    if c.isDigit then scan (.number (c.toNat - '0'.toNat)) cs
    else .char '$' :: (if c = '$' then scan .dollar cs else .char c :: scan .text cs)
  | .number value, c :: cs =>
    if c.isDigit then scan (.number (10 * value + (c.toNat - '0'.toNat))) cs
    else .param value :: (if c = '$' then scan .dollar cs else .char c :: scan .text cs)

/-- What a query says: characters, and values in their places. -/
inductive Symbol (V : Type) where
  | char (c : Char)
  | value (v : V)
  deriving DecidableEq, Repr

/-- The value of a number; they count from one. -/
def boundValue (params : List V) : Nat → Option V
  | 0 => none
  | number + 1 => params[number]?

/-- The values of the parameters in their places, if there are such values. -/
def bindTokens (params : List V) : List Token → Option (List (Symbol V))
  | [] => some []
  | .char c :: tokens => (bindTokens params tokens).map (.char c :: ·)
  | .param number :: tokens =>
    (boundValue params number).bind fun v => (bindTokens params tokens).map (.value v :: ·)

/-- What is said by the text of a query with its parameters. -/
def BuiltQuery.means (query : BuiltQuery V) : Option (List (Symbol V)) :=
  bindTokens query.params (scan .text query.text.chars)

/-- What an element says. -/
def QueryElement.says : QueryElement V → List (Symbol V)
  | .text value => value.chars.map .char
  | .param value => [.value value]

/-- The elements start with a digit. -/
def leadsWithDigit : List (QueryElement V) → Bool
  | [] => false
  | .text value :: elements =>
    (value.chars.head?.map Char.isDigit).getD (leadsWithDigit elements)
  | .param _ :: _ => false

/-- How many parameters are followed by a digit. -/
def clashes : List (QueryElement V) → Nat
  | [] => 0
  | .text _ :: elements => clashes elements
  | .param _ :: elements => (leadsWithDigit elements).toNat + clashes elements

/-- How many symbols the elements are. -/
def symbols (elements : List (QueryElement V)) : Nat := (elements.flatMap QueryElement.says).length

/-- The texts are without `$`. -/
def Plain (elements : List (QueryElement V)) : Prop :=
  ∀ q, .text q ∈ elements → '$' ∉ q.chars

/-! ## Pieces are read one after the other -/

/-- Behind a number, what does not start with a digit is read as by itself. -/
theorem scan_number_of_not_digit (m : Nat) {cs : List Char}
    (h : ∀ c ∈ cs.head?, c.isDigit = false) : scan (.number m) cs = .param m :: scan .text cs := by
  cases cs with
  | nil => rfl
  | cons c cs =>
      have hc : c.isDigit = false := h c rfl
      simp [scan, hc]

/-- Text without `$` is read as it is. -/
theorem scan_text_append {cs : List Char} (h : '$' ∉ cs) (rest : List Char) :
    scan .text (cs ++ rest) = cs.map .char ++ scan .text rest := by
  induction cs with
  | nil => rfl
  | cons c cs ih =>
      rw [List.mem_cons, not_or] at h
      rw [List.cons_append, scan, if_neg (Ne.symm h.1), ih h.2, List.map_cons, List.cons_append]

/-- The digits of a number are collected. -/
theorem scan_digits {ds : List Char} (h : ∀ c ∈ ds, c.isDigit = true) (m : Nat)
    (rest : List Char) :
    scan (.number m) (ds ++ rest) = scan (.number (Nat.ofDigitChars 10 ds m)) rest := by
  induction ds generalizing m with
  | nil => rfl
  | cons c ds ih =>
      rw [List.cons_append, scan, if_pos (h c List.mem_cons_self),
        ih fun x hx => h x (List.mem_cons_of_mem c hx)]
      rfl

/-- A placeholder is read as its number, and the reader is still in it. -/
theorem scan_placeholder (n : Nat) (rest : List Char) :
    scan .text (placeholder n ++ rest) = scan (.number n) rest := by
  have hdigits : ∀ c ∈ Nat.toDigits 10 n, c.isDigit = true := fun c hc =>
    Nat.isDigit_of_mem_toDigits (by decide) (by decide) hc
  have hvalue : Nat.ofDigitChars 10 (Nat.toDigits 10 n) 0 = n := by simp
  obtain ⟨d, ds, hds⟩ := List.exists_cons_of_ne_nil (Nat.toDigits_ne_nil (n := n) (b := 10))
  rw [hds] at hdigits hvalue
  have hfirst : scan .dollar (d :: ds ++ rest) = scan (.number 0) (d :: ds ++ rest) := by
    rw [List.cons_append, scan, scan, if_pos (hdigits d List.mem_cons_self),
      if_pos (hdigits d List.mem_cons_self), Nat.mul_zero, Nat.zero_add]
  rw [placeholder, List.cons_append, scan, if_pos rfl, hds, hfirst, scan_digits hdigits, hvalue]

/-! ## Symbols that are lost

A digit in front of a text merges with the number of a placeholder. Each such clash costs one
symbol, so counting them tells whether the text is read as it was meant. -/

/-- The text of elements with the parameters numbered from `n` on. -/
def renderFrom (n : Nat) (elements : List (QueryElement V)) : List Char :=
  (pieces n elements).flatMap Piece.chars

theorem symbols_text (value : QueryText) (elements : List (QueryElement V)) :
    symbols (.text value :: elements) = value.chars.length + symbols elements := by
  simp [symbols, QueryElement.says]

theorem symbols_param (value : V) (elements : List (QueryElement V)) :
    symbols (.param value :: elements) = 1 + symbols elements := by
  simp [symbols, QueryElement.says, Nat.add_comm]

/-- A text behind a number: what it has of digits in front is read with the number. -/
theorem length_scan_number_append {cs : List Char} (h : '$' ∉ cs) {rest : List Char} {lost n : Nat}
    (leads : Bool) (htext : (scan .text rest).length + lost ≤ n)
    (hnumber : ∀ m, (scan (.number m) rest).length + leads.toNat + lost ≤ 1 + n) (m : Nat) :
    (scan (.number m) (cs ++ rest)).length +
      ((cs.head?.map Char.isDigit).getD leads).toNat + lost ≤ 1 + (cs.length + n) := by
  induction cs generalizing m with
  | nil => simpa using hnumber m
  | cons c cs ih =>
      rw [List.mem_cons, not_or] at h
      by_cases hc : c.isDigit = true
      · have hrest := ih h.2 (10 * m + (c.toNat - '0'.toNat))
        rw [List.cons_append, scan, if_pos hc]
        simp only [List.head?_cons, Option.map_some, Option.getD_some, hc, Bool.toNat_true,
          List.length_cons]
        omega
      · rw [List.cons_append, scan, if_neg hc, if_neg (Ne.symm h.1), scan_text_append h.2]
        simp only [List.head?_cons, Option.map_some, Option.getD_some, Bool.eq_false_iff.mpr hc,
          Bool.toNat_false, List.length_cons, List.length_append, List.length_map]
        omega

/-- No symbol is made up, and every clash costs at least one. Behind a number the elements are read
with it, so the two modes are treated together. -/
theorem length_scan_le {elements : List (QueryElement V)} (hplain : Plain elements) (n : Nat) :
    (scan .text (renderFrom n elements)).length + clashes elements ≤ symbols elements ∧
      ∀ m, (scan (.number m) (renderFrom n elements)).length +
        (leadsWithDigit elements).toNat + clashes elements ≤ 1 + symbols elements := by
  -- in the text and inside of a number at once, since a placeholder leaves the reader there
  induction elements generalizing n with
  | nil => exact ⟨Nat.le_refl _, fun _ => Nat.le_refl _⟩
  | cons element elements ih =>
      have hrest : Plain elements := fun q hq => hplain q (List.mem_cons_of_mem _ hq)
      cases element with
      | text value =>
          have hvalue := hplain value List.mem_cons_self
          obtain ⟨htext, hnumber⟩ := ih hrest n
          have hrender : renderFrom n (.text value :: elements) =
              value.chars ++ renderFrom n elements := rfl
          rw [hrender, symbols_text]
          refine ⟨?_, length_scan_number_append hvalue (leadsWithDigit elements) htext hnumber⟩
          rw [scan_text_append hvalue, List.length_append, List.length_map]
          show value.chars.length + _ + clashes elements ≤ _
          omega
      | param value =>
          have hrender : renderFrom n (.param value :: elements) =
              placeholder n ++ renderFrom (n + 1) elements := rfl
          have hclashes : clashes (.param value :: elements) =
              (leadsWithDigit elements).toNat + clashes elements := rfl
          have hread := (ih hrest (n + 1)).2 n
          rw [hrender, symbols_param, hclashes]
          constructor
          · rw [scan_placeholder]
            omega
          · intro m
            -- `$` ends a number, so nothing is lost in front of a placeholder
            have hdollar : ∀ c ∈ (placeholder n ++ renderFrom (n + 1) elements).head?,
                c.isDigit = false := by
              rintro c ⟨⟩
              rfl
            rw [scan_number_of_not_digit m hdollar, scan_placeholder, List.length_cons]
            show _ + 0 + _ ≤ _
            omega

/-! ## Without clashes -/

/-- A placeholder starts with `$`, so only a text can start with a digit. -/
theorem isDigit_head_renderFrom (n : Nat) (elements : List (QueryElement V)) :
    ∀ c ∈ (renderFrom n elements).head?, c.isDigit = leadsWithDigit elements := by
  induction elements with
  | nil => rintro c ⟨⟩
  | cons element elements ih =>
      cases element with
      | text value =>
          show ∀ c ∈ (value.chars ++ renderFrom n elements).head?,
            c.isDigit = (value.chars.head?.map Char.isDigit).getD (leadsWithDigit elements)
          cases value.chars with
          | nil => exact ih
          | cons d cs =>
              rintro c ⟨⟩
              rfl
      | param value =>
          rintro c ⟨⟩
          rfl

theorem bindTokens_chars (params : List V) (cs : List Char) (tokens : List Token) :
    bindTokens params (cs.map .char ++ tokens) =
      (bindTokens params tokens).map (cs.map .char ++ ·) := by
  induction cs with
  | nil => simp
  | cons c cs ih =>
      rw [List.map_cons, List.cons_append, bindTokens, ih, Option.map_map]
      rfl

/-- Binding replaces one by one. -/
theorem length_bindTokens {params : List V} {tokens : List Token} {said : List (Symbol V)}
    (h : bindTokens params tokens = some said) : said.length = tokens.length := by
  induction tokens generalizing said with
  | nil =>
      cases h
      rfl
  | cons token tokens ih =>
      cases token with
      | char c =>
          obtain ⟨rest, hrest, rfl⟩ := Option.map_eq_some_iff.mp h
          rw [List.length_cons, List.length_cons, ih hrest]
      | param number =>
          obtain ⟨v, -, hv⟩ := Option.bind_eq_some_iff.mp h
          obtain ⟨rest, hrest, rfl⟩ := Option.map_eq_some_iff.mp hv
          rw [List.length_cons, List.length_cons, ih hrest]

/-- Each parameter is read with its own number, which is that of its value. -/
theorem bindTokens_renderFrom {elements : List (QueryElement V)} (hplain : Plain elements)
    (hclashes : clashes elements = 0) {params : List V} {n : Nat}
    (hparams : params.drop n = elements.filterMap QueryElement.param?) :
    bindTokens params (scan .text (renderFrom (n + 1) elements)) =
      some (elements.flatMap QueryElement.says) := by
  induction elements generalizing n with
  | nil => rfl
  | cons element elements ih =>
      have hrest : Plain elements := fun q hq => hplain q (List.mem_cons_of_mem _ hq)
      cases element with
      | text value =>
          have hrender : renderFrom (n + 1) (.text value :: elements) =
              value.chars ++ renderFrom (n + 1) elements := rfl
          rw [hrender, scan_text_append (hplain value List.mem_cons_self), bindTokens_chars,
            ih hrest hclashes hparams]
          rfl
      | param value =>
          have hrender : renderFrom (n + 1) (.param value :: elements) =
              placeholder (n + 1) ++ renderFrom (n + 2) elements := rfl
          have hzero := Nat.add_eq_zero_iff.mp hclashes
          -- no digit follows the placeholder, so its number is read as it is
          have hdigit : leadsWithDigit elements = false := by
            cases h : leadsWithDigit elements with
            | false => rfl
            | true =>
                rw [h] at hzero
                cases hzero.1
          -- and it is the number of its own value
          have hvalue : params[n]? = some value := by
            rw [← List.head?_drop, hparams]
            rfl
          have htail : params.drop (n + 1) = elements.filterMap QueryElement.param? := by
            rw [← List.tail_drop, hparams]
            rfl
          have hnext : ∀ c ∈ (renderFrom (n + 2) elements).head?, c.isDigit = false := by
            intro c hc
            rw [isDigit_head_renderFrom _ _ c hc, hdigit]
          rw [hrender, scan_placeholder, scan_number_of_not_digit _ hnext, bindTokens, boundValue,
            hvalue, Option.bind_some, ih hrest hzero.2 htail]
          rfl

/-- The query that is built from additions says what their elements say, in their order and with
each value in the place of its parameter, exactly if no parameter is followed by a digit. -/
theorem build_means_iff {sum : Addition V} {builder : QueryBuilder V} {value : QueryText}
    {query : BuiltQuery V} (heval : sum.eval = some (.builder builder))
    (hfirst : sum.elements.head? = some (.text value)) (hbuild : builder.build = some query)
    (hplain : Plain sum.elements) :
    query.means = some (sum.elements.flatMap QueryElement.says) ↔ clashes sum.elements = 0 := by
  have helements : builder.elements = sum.elements := Addition.elements_of_eval heval
  rw [← helements] at hfirst hplain ⊢
  obtain ⟨text, htext⟩ : ∃ text, builder.text = some text := by
    unfold QueryBuilder.build at hbuild
    split at hbuild
    · next text h => exact ⟨some text, h⟩
    · cases hbuild
    · cases hbuild
  obtain ⟨query', hbuild', hchars, hparams⟩ := QueryBuilder.build_eq hfirst htext
  obtain rfl := Option.some.inj (hbuild'.symm.trans hbuild)
  rw [BuiltQuery.means, hchars, hparams]
  show bindTokens _ (scan .text (renderFrom (0 + 1) builder.elements)) = _ ↔ _
  constructor
  -- a text that says the same has as many symbols, and a clash would cost one
  · intro hmeans
    have hlength := length_bindTokens hmeans
    have hle := (length_scan_le hplain (0 + 1)).1
    rw [← hlength, ← symbols] at hle
    omega
  · intro hclashes
    exact bindTokens_renderFrom hplain hclashes builder.params_eq

/-- A value and a zero behind it, which together read as the tenth parameter. -/
theorem build_means_iff_zero :
    ∃ (sum : Addition Nat) (builder : QueryBuilder Nat) (query : BuiltQuery Nat),
      sum.eval = some (.builder builder) ∧ builder.build = some query ∧
        query.text.chars = "SELECT $10".toList ∧
        query.means ≠ some (sum.elements.flatMap QueryElement.says) := by
  -- `SELECT $1` with a zero behind it
  let select : Operand Nat := .element (.text ⟨.hanaString, "SELECT ".toList⟩)
  let zero : Operand Nat := .element (.text ⟨.hanaString, "0".toList⟩)
  let sum : Addition Nat :=
    .add (.add (.operand select) (.operand (.value 42))) (.operand zero)
  have heval : sum.eval = some (.builder ⟨sum.elements⟩) := rfl
  have htexts (q : QueryText) (hq : .text q ∈ sum.elements) :
      q.type = .hanaString ∧ '$' ∉ q.chars := by
    simp only [sum, select, zero, Addition.elements, Operand.elements, List.cons_append,
      List.nil_append, List.mem_cons, QueryElement.text.injEq, reduceCtorEq, false_or,
      List.not_mem_nil, or_false] at hq
    rcases hq with rfl | rfl <;> decide
  have hfirst : (QueryBuilder.mk sum.elements).elements.head? =
    some (.text ⟨.hanaString, "SELECT ".toList⟩) := rfl
  obtain ⟨text, htext⟩ := Option.isSome_iff_exists.mp
    (QueryBuilder.isSome_text hfirst (TextType.closed (.inl rfl)) fun q hq => (htexts q hq).1)
  obtain ⟨query, hbuild, hchars, -⟩ := QueryBuilder.build_eq hfirst htext
  refine ⟨sum, _, query, heval, hbuild, hchars.trans (by decide), fun hmeans => ?_⟩
  have hclashes :=
    (build_means_iff heval hfirst hbuild fun q hq => (htexts q hq).2).mp hmeans
  cases hclashes

end OzoPg
