import OzoPg.QueryConf.Repository

/-!
# Placeholders

A query is made with a text in which placeholders have taken the places of the parameters, and
with the values these stand for. The text goes back to one section of the configuration, read as a
whole: a placeholder that ran into a digit of the text would be another one.

The numbers are those of the last declared query whose name is read as that of the section. So they
are the ones of the query itself, unless two names go apart only after a null character.

* `scan_section` — the elements of a section, put together from those of its lines, are what a
  scan of the whole section gives.
* `numbers_eq_of_trim_eq` — the text tells the numbers.
* `placeholdersExact_iff` — when each placeholder stands for its value, with the rest kept.
-/

namespace OzoPg.QueryConf

open Peg

/-! ## Sections as a whole -/

/-- The text ends with a character of a terminator. -/
def EndsEol (text : Text) : Prop := ∃ x ∈ text.getLast?, isEol x = true

theorem mem_getLast?_cons {x y : Char} {s : Text} (h : x ∈ s.getLast?) :
    x ∈ (y :: s).getLast? := by
  rw [List.getLast?_cons, h]
  rfl

theorem mem_getLast?_append {x : Char} {s t : Text} (h : x ∈ t.getLast?) :
    x ∈ (s ++ t).getLast? := by
  rw [List.getLast?_append, h]
  rfl

/-- A scan goes on into what follows, unless a name may go on there. -/
theorem Scan.append {s r : Text} {segs : List Segment} (h : Scan s segs r) (u : Text)
    (hlast : ∀ x ∈ s.getLast?, isNameChar x = false) : Scan (s ++ u) segs (r ++ u) := by
  induction h with
  | done => exact .done
  | char hx _ ih => exact .char hx (ih fun x hx => hlast x (mem_getLast?_cons hx))
  | cast _ ih =>
      exact .cast (ih fun x hx => hlast x (mem_getLast?_cons (mem_getLast?_cons hx)))
  | assign _ ih =>
      exact .assign (ih fun x hx => hlast x (mem_getLast?_cons (mem_getLast?_cons hx)))
  | @parameter t name s r segs ht hne hname hs _ ih =>
      subst ht
      have hs' : ∀ x ∈ (s ++ u).head?, isNameChar x = false := by
        cases s with
        | nil =>
            -- the text does not end with a name
            have hmem := List.getLast?_eq_some_getLast hne
            have hfalse := hlast (name.getLast hne) (mem_getLast?_cons (by simpa using hmem))
            simp [hname _ (List.getLast_mem hne)] at hfalse
        | cons y s => exact hs
      refine .parameter (List.append_assoc name s u) hne hname hs' (ih fun x hx => ?_)
      exact hlast x (mem_getLast?_cons (mem_getLast?_append hx))

theorem isNameChar_of_isEol {x : Char} (h : isEol x = true) : isNameChar x = false := by
  rcases Bool.or_eq_true_iff.mp h with h | h
  · rw [eq_of_beq h]
    decide
  · rw [eq_of_beq h]
    decide

theorem EndsEol.isNameChar_eq_false {text : Text} (h : EndsEol text) :
    ∀ x ∈ text.getLast?, isNameChar x = false := by
  obtain ⟨y, hy, heol⟩ := h
  intro x hx
  rw [Option.mem_unique hx hy]
  exact isNameChar_of_isEol heol

/-- The lines of a section are scanned as one text: only the last one may have no terminator. -/
theorem scan_section {texts : List Text} {es : List QueryTextElement}
    (hnul : ∀ text ∈ texts, '\x00' ∉ text) (hends : texts.Pairwise fun text _ => EndsEol text)
    (h : parseTexts texts = some es) :
    Scan texts.flatten (es.flatMap QueryTextElement.segments) [] := by
  induction texts generalizing es with
  | nil =>
      cases h
      exact .done
  | cons text texts ih =>
      obtain ⟨es₁, htext, h⟩ := Option.bind_eq_some_iff.mp h
      obtain ⟨es₂, htexts, rfl⟩ := Option.map_eq_some_iff.mp h
      obtain ⟨hhead, htail⟩ := List.pairwise_cons.mp hends
      have hscan := scan_of_textDef (hnul text List.mem_cons_self) htext
      have hrest := ih (fun t ht => hnul t (List.mem_cons_of_mem text ht)) htail htexts
      rw [List.flatMap_append, List.flatten_cons]
      cases texts with
      | nil =>
          cases htexts
          simpa using hscan
      -- the line ends with a terminator, so a name does not go on in the next one
      | cons next texts =>
          have heol := (hhead next List.mem_cons_self).isNameChar_eq_false
          exact (hscan.append _ heol).trans hrest

/-! ## Lines of a section -/

theorem EndsLine.ne_nil {value rest : Text} (h : EndsLine value rest) : value ≠ [] := by
  obtain ⟨body, term, rfl, -, (rfl | ⟨rfl, -⟩ | rfl) | ⟨rfl, hne, -⟩⟩ := h
  · simp
  · simp
  · simp
  · simpa using hne

/-- Every line but the last ends with a terminator. -/
theorem EndsLine.endsEol {value rest : Text} (h : EndsLine value rest) (hrest : rest ≠ []) :
    EndsEol value := by
  obtain ⟨body, term, rfl, -, hterm | ⟨-, -, rfl⟩⟩ := h
  · rcases hterm with rfl | ⟨rfl, -⟩ | rfl
    · exact ⟨'\n', mem_getLast?_append rfl, rfl⟩
    · exact ⟨'\r', mem_getLast?_append rfl, rfl⟩
    · exact ⟨'\n', mem_getLast?_append rfl, rfl⟩
  · exact absurd rfl hrest

/-- A line that is followed by another one has a terminator. -/
theorem pairwise_endsEol {lines : List QueryLine}
    (h : ∀ pre l post, lines = pre ++ l :: post →
      EndsLine l.value (post.flatMap QueryLine.value)) :
    lines.Pairwise fun l _ => EndsEol l.value := by
  induction lines with
  | nil => exact .nil
  | cons l lines ih =>
      refine .cons (fun l' hl' => ?_)
        (ih fun pre l₁ post heq => h (l :: pre) l₁ post (congrArg (List.cons l) heq))
      apply (h [] l lines rfl).endsEol
      intro hnil
      obtain ⟨pre, post, rfl⟩ := List.append_of_mem hl'
      have hne := (h (l :: pre) l' post rfl).ne_nil
      simp [List.flatMap_append, hne] at hnil

/-- So the lines of text before the first header and those of each section do. -/
theorem pairwise_sections {lines : List QueryLine}
    (h : lines.Pairwise fun l _ => EndsEol l.value) :
    ((leading lines).Pairwise fun text _ => EndsEol text) ∧
      ∀ sec ∈ sections lines, sec.lines.Pairwise fun text _ => EndsEol text := by
  induction lines with
  | nil => exact ⟨.nil, nofun⟩
  | cons line lines ih =>
      obtain ⟨hhead, htail⟩ := List.pairwise_cons.mp h
      obtain ⟨ihl, ihs⟩ := ih htail
      cases line with
      | text text =>
          rw [leading_text, sections_text]
          refine ⟨.cons (fun text' htext' => ?_) ihl, ihs⟩
          exact hhead (.text text') (mem_text_iff.mpr (.inl htext'))
      | comment comment =>
          cases hname : headerName comment with
          | none =>
              rw [leading_comment hname, sections_comment hname]
              exact ⟨ihl, ihs⟩
          | some name =>
              rw [leading_header hname, sections_header hname]
              exact ⟨.nil, List.forall_mem_cons.mpr ⟨ihl, ihs⟩⟩

/-! ## What follows a placeholder

The name of a parameter is as long as possible, so no digit stands behind it. This is what keeps a
placeholder apart from the text that follows. -/

theorem isDigit_of_isNameChar {x : Char} (h : isNameChar x = false) : x.isDigit = false := by
  simp only [isNameChar, Char.isAlphanum, Bool.or_eq_false_iff] at h
  exact h.2.2

/-- A text that does not start with a digit does not become one that does. -/
theorem Scan.head?_render {s : Text} {segs : List Segment} (h : Scan s segs [])
    (parameters : ParametersType) (hs : ∀ x ∈ s.head?, isNameChar x = false) :
    ∀ x ∈ (segs.flatMap (Segment.render parameters)).head?, x.isDigit = false := by
  cases h with
  | done => exact nofun
  | char hx h =>
      intro y hy
      exact isDigit_of_isNameChar (hs y hy)
  | cast | assign | parameter =>
      rintro x ⟨⟩
      rfl

/-- Behind a parameter no digit follows, since its name would have gone on. -/
theorem Scan.head?_render_of_suffix {s r : Text} {segs : List Segment} (h : Scan s segs r)
    (hr : r = []) (parameters : ParametersType) {name : Text} {post : List Segment}
    (hpost : .parameter name :: post <:+ segs) :
    ∀ x ∈ (post.flatMap (Segment.render parameters)).head?, x.isDigit = false := by
  -- the parameter is found on the way, and what follows it was the end of its name
  induction h with
  | done => simp at hpost
  | char _ _ ih =>
      rcases List.suffix_cons_iff.mp hpost with heq | hpost
      · cases heq
      · exact ih hr hpost
  | cast _ ih | assign _ ih =>
      rcases List.suffix_cons_iff.mp hpost with heq | hpost
      · cases heq
      rcases List.suffix_cons_iff.mp hpost with heq | hpost
      · cases heq
      · exact ih hr hpost
  | parameter _ _ _ hs h ih =>
      rcases List.suffix_cons_iff.mp hpost with heq | hpost
      · cases heq
        exact (hr ▸ h).head?_render parameters hs
      · exact ih hr hpost

/-! ## Trimming

The text is trimmed when it is complete. Placeholders have no blanks in them, so trimming takes away
text in front of the first and behind the last of them. -/

/-- Dropping stops where the class does. -/
theorem dropWhile_append_of_stop {f : Char → Bool} {a s : Text} (hne : s ≠ [])
    (hs : ∀ x ∈ s.head?, f x = false) : (a ++ s).dropWhile f = a.dropWhile f ++ s := by
  induction a with
  | nil =>
      cases s with
      | nil => exact absurd rfl hne
      | cons x s => simp [hs x rfl]
  | cons y a ih =>
      cases hy : f y with
      | false => simp [hy]
      | true => simp [hy, ih]

theorem rdropWhile_append_of_stop {f : Char → Bool} {s b : Text} (hne : s ≠ [])
    (hs : ∀ x ∈ s.getLast?, f x = false) : (s ++ b).rdropWhile f = s ++ b.rdropWhile f := by
  have hstop := dropWhile_append_of_stop (f := f) (a := b.reverse) (s := s.reverse)
    (by simpa using hne) (by simpa using hs)
  simp [List.rdropWhile, hstop]

theorem isSpace_of_isDigit {x : Char} (h : x.isDigit = true) : isSpace x = false := by
  rw [isSpace, Bool.eq_false_iff]
  intro hspace
  simp only [Bool.or_eq_true, beq_iff_eq] at hspace
  rcases hspace with ((((rfl | rfl) | rfl) | rfl) | rfl) | rfl <;> cases h

theorem isSpace_placeholder {n : Nat} {x : Char} (hx : x ∈ placeholder n) : isSpace x = false := by
  rcases List.mem_cons.mp hx with rfl | hx
  · rfl
  · exact isSpace_of_isDigit (Nat.isDigit_of_mem_toDigits (by decide) (by decide) hx)

/-- Trimming leaves the placeholders. -/
theorem trim_append_placeholder (a b : Text) (n : Nat) :
    trim (a ++ (placeholder n ++ b)) =
      a.dropWhile isSpace ++ (placeholder n ++ b.rdropWhile isSpace) := by
  have hne : placeholder n ≠ [] := List.cons_ne_nil _ _
  have hlast : ∀ x ∈ (a ++ placeholder n).getLast?, isSpace x = false := by
    intro x hx
    rw [List.getLast?_append_of_ne_nil a hne] at hx
    exact isSpace_placeholder (List.mem_of_mem_getLast? hx)
  have hhead : ∀ x ∈ (placeholder n ++ b.rdropWhile isSpace).head?, isSpace x = false := by
    rintro x ⟨⟩
    rfl
  unfold trim
  rw [← List.append_assoc, rdropWhile_append_of_stop (by simp [hne]) hlast,
    List.append_assoc, dropWhile_append_of_stop (by simp [hne]) hhead]

/-! ## What the text tells

Two ways to number the parameters of one section give the same text only if they agree on every
parameter: up to the first one on which they do not the texts are the same, and there the digits
end where the placeholder does. -/

/-- The number of a placeholder is read off, if no digit follows it. -/
theorem placeholder_append_inj {m n : Nat} {a b : Text}
    (ha : ∀ x ∈ a.head?, x.isDigit = false) (hb : ∀ x ∈ b.head?, x.isDigit = false)
    (h : placeholder m ++ a = placeholder n ++ b) : m = n := by
  have hdigits : ∀ k, ∀ x ∈ toText k, x.isDigit = true :=
    fun k x hx => Nat.isDigit_of_mem_toDigits (by decide) (by decide) hx
  have hnumeral := (longest_unique (List.cons.inj h).2 (hdigits (m + 1)) ha (hdigits (n + 1)) hb).1
  have hvalue : ∀ k, Nat.ofDigitChars 10 (toText k) 0 = k :=
    fun k => Nat.ofDigitChars_toDigits (by decide) (by decide)
  have hsucc : m + 1 = n + 1 := by rw [← hvalue (m + 1), hnumeral, hvalue]
  exact Nat.succ.inj hsucc

/-- The text depends on the numbers of its parameters only. -/
theorem flatMap_render_congr {segs : List Segment} {p q : ParametersType}
    (h : ∀ name, .parameter name ∈ segs → p.number name = q.number name) :
    segs.flatMap (Segment.render p) = segs.flatMap (Segment.render q) := by
  refine List.flatMap_congr fun seg hseg => ?_
  cases seg with
  | char c => rfl
  | parameter name =>
      show placeholder (p.number name) = placeholder (q.number name)
      rw [h name hseg]

/-- What follows a parameter does not become a digit, trimmed or not. -/
theorem Scan.not_digit {s : Text} {pre post : List Segment} {name : Text}
    (h : Scan s (pre ++ .parameter name :: post) []) (parameters : ParametersType) :
    ∀ x ∈ ((post.flatMap (Segment.render parameters)).rdropWhile isSpace).head?,
      x.isDigit = false := by
  intro x hx
  apply h.head?_render_of_suffix rfl parameters (List.suffix_append pre _) x
  obtain ⟨spaces, hspaces⟩ :=
    List.rdropWhile_prefix isSpace (post.flatMap (Segment.render parameters))
  rw [← hspaces]
  exact List.mem_head?_append_of_mem_head? hx

/-- Trimming does not touch a placeholder. -/
theorem trim_flatMap_render (parameters : ParametersType) (pre post : List Segment) (name : Text) :
    trim ((pre ++ .parameter name :: post).flatMap (Segment.render parameters)) =
      (pre.flatMap (Segment.render parameters)).dropWhile isSpace ++
        (placeholder (parameters.number name) ++
          (post.flatMap (Segment.render parameters)).rdropWhile isSpace) := by
  rw [List.flatMap_append, List.flatMap_cons]
  exact trim_append_placeholder _ _ _

/-- The text tells the numbers of its parameters: read from the left, the first different one would
show. -/
theorem numbers_eq_of_trim_eq {s : Text} {segs : List Segment} (hscan : Scan s segs [])
    {p q : ParametersType}
    (h : trim (segs.flatMap (Segment.render p)) = trim (segs.flatMap (Segment.render q))) :
    ∀ name, .parameter name ∈ segs → p.number name = q.number name := by
  suffices hpre : ∀ pre post, segs = pre ++ post → ∀ name, .parameter name ∈ pre →
      p.number name = q.number name from hpre segs [] (List.append_nil segs).symm
  intro pre
  -- from the left: what precedes a parameter has the same text already
  induction pre using List.reverseRecOn with
  | nil => exact nofun
  | append_singleton pre seg ih =>
      intro post hsegs name hname
      rw [List.append_assoc, List.singleton_append] at hsegs
      rcases List.mem_append.mp hname with hname | hname
      · exact ih (seg :: post) hsegs name hname
      obtain rfl := List.mem_singleton.mp hname
      have hsame := flatMap_render_congr (ih (.parameter name :: post) hsegs)
      rw [hsegs] at h hscan
      rw [trim_flatMap_render, trim_flatMap_render, hsame] at h
      exact placeholder_append_inj (hscan.not_digit p) (hscan.not_digit q)
        (List.append_cancel_left h)

/-! ## Sections and definitions -/

/-- There is one way to scan a text. -/
theorem Scan.unique {s : Text} {segs segs' : List Segment} (h : Scan s segs [])
    (h' : Scan s segs' []) : segs = segs' := by
  obtain ⟨rest, rfl, hrest⟩ := h'.through h
  cases hrest
  exact List.append_nil segs'

/-- A definition is what is read in a section. -/
def Section.Reads (sec : Section) (d : ParsedQuery) : Prop :=
  d.name = sec.name ∧ Scan sec.lines.flatten (d.text.flatMap QueryTextElement.segments) []

/-- The definitions are those of the sections, and the other way round. -/
theorem sections_reads {conf : Text} (hconf : '\x00' ∉ conf) {parsed : List ParsedQuery}
    (h : parseQueryConf conf = .ok parsed) :
    ∃ lines, parseQueryConfLines conf = .ok lines ∧
      (∀ d ∈ parsed, ∃ sec ∈ sections lines, sec.Reads d) ∧
      ∀ sec ∈ sections lines, ∃ d ∈ parsed, sec.Reads d := by
  obtain ⟨lines, hok, hlines, hparse, -, hnul⟩ := parseQueryConf_eq hconf
  rw [hparse, parseQueryConfElements_eq_ok_iff] at h
  have hreads : ∀ sec ∈ sections lines, ∀ d, sec.Parses d → sec.Reads d := by
    rintro sec hsec d ⟨hname, htexts⟩
    have hends := (pairwise_sections (pairwise_endsEol hlines.endsLine)).2 sec hsec
    exact ⟨hname, scan_section (hnul sec hsec) hends htexts⟩
  refine ⟨lines, hok, fun d hd => ?_, fun sec hsec => ?_⟩
  · obtain ⟨sec, hsec, hparses⟩ := Except.exists_left_of_forall₂ h.2 hd
    exact ⟨sec, hsec, hreads sec hsec d hparses⟩
  · obtain ⟨d, hd, hparses⟩ := Except.exists_right_of_forall₂ h.2 hsec
    exact ⟨d, hd, hreads sec hsec d hparses⟩

theorem parameter_mem_segments_iff {elements : List QueryTextElement} {name : Text} :
    .parameter name ∈ elements.flatMap QueryTextElement.segments ↔
      .parameterName name ∈ elements := by
  rw [List.mem_flatMap]
  constructor
  · rintro ⟨element, helement, hsegment⟩
    cases element with
    | part value => simp [QueryTextElement.segments] at hsegment
    | parameterName value =>
        obtain rfl : name = value := by simpa [QueryTextElement.segments] using hsegment
        exact helement
  · intro h
    exact ⟨_, h, List.mem_singleton_self _⟩

/-- The text of a description by segments. -/
theorem describe_text (query : Query) (d : ParsedQuery) :
    (describe query d).text =
      trim ((d.text.flatMap QueryTextElement.segments).flatMap
        (Segment.render query.parameters)) :=
  congrArg trim List.flatMap_assoc.symm

/-! ## Made queries -/

/-- A parameter of the text with its placeholder: the number is that of its value among those
passed on, and the placeholder is followed by no digit. -/
structure IsPlaceholder {V : Type} (parameters : Parameters V) (text : Text) (values : List V)
    (pre post : Text) (name : Text) (k : Nat) : Prop where
  pos : 1 ≤ k
  le : k ≤ parameters.type.size
  value : ∃ v, values[k - 1]? = some v ∧ parameters.value name = some v
  text_eq : text = pre.dropWhile isSpace ++ (('$' :: toText k) ++ post.rdropWhile isSpace)
  not_digit : ∀ x ∈ (post.rdropWhile isSpace).head?, x.isDigit = false

/-- What `make_query` makes of a query: the text of the section with its name, each parameter
replaced by a placeholder for its value, without the spaces around it. -/
def PlaceholdersExact (conf : Text) (repository : Conf) (query : Query) : Prop :=
  ∀ (V : Type) (parameters : Parameters V) (text : Text) (values : List V),
    parameters.type = query.parameters →
    repository.makeQuery query parameters = .ok (text, values) →
    ∃ lines, parseQueryConfLines conf = .ok lines ∧ ∃ sec ∈ sections lines,
      sec.name = getQueryName query ∧ ∃ segs, Scan sec.lines.flatten segs [] ∧
        text = trim (segs.flatMap (Segment.render query.parameters)) ∧
        ∀ pre name post, segs = pre ++ .parameter name :: post → ∃ k,
          (Segment.parameter name).render query.parameters = '$' :: toText k ∧
            IsPlaceholder parameters text values (pre.flatMap (Segment.render query.parameters))
              (post.flatMap (Segment.render query.parameters)) name k

/-- The declared query that counts for the name numbers the parameters of the definition as the
query does. -/
def NumbersAgree (queries : List Query) (parsed : List ParsedQuery) (query : Query) : Prop :=
  ∀ d ∈ parsed, d.name = getQueryName query → ∀ other, declaration queries d.name = some other →
    ∀ name, .parameterName name ∈ d.text →
      other.parameters.number name = query.parameters.number name

/-- A parameter that resolves has its placeholder in the text. -/
theorem isPlaceholder_of_scan {V : Type} {parameters : Parameters V} {s : Text}
    {pre post : List Segment} {name : Text} (hscan : Scan s (pre ++ .parameter name :: post) [])
    (hresolves : parameters.type.Resolves name) :
    IsPlaceholder parameters
      (trim ((pre ++ .parameter name :: post).flatMap (Segment.render parameters.type)))
      parameters.unpack (pre.flatMap (Segment.render parameters.type))
      (post.flatMap (Segment.render parameters.type)) name (parameters.type.number name + 1) := by
  refine ⟨Nat.le_add_left 1 _, hresolves.number_lt, ?_, trim_flatMap_render _ pre post name,
    hscan.not_digit _⟩
  have hlt : parameters.type.number name < parameters.unpack.length := by
    rw [length_unpack]
    exact hresolves.number_lt
  have hget := List.getElem?_eq_getElem hlt
  exact ⟨_, hget, (unpack_getElem?_number parameters name).symm.trans hget⟩

/-- Some value of a type. -/
def ParametersType.unit : ParametersType → Parameters Unit
  | .struct members => .struct (members.map fun member => (member, ()))
  | .tuple size => .tuple (List.replicate size ())

theorem ParametersType.type_unit (parameters : ParametersType) :
    parameters.unit.type = parameters := by
  cases parameters with
  | struct members => simp [unit, Parameters.type, Function.comp_def]
  | tuple size => simp [unit, Parameters.type]

section

variable {conf : Text} {queries : List Query} {repository : Conf} {query : Query}

/-- Placeholders that are exact have the numbers of the query. -/
theorem PlaceholdersExact.numbersAgree (hexact : PlaceholdersExact conf repository query)
    (hconf : '\x00' ∉ conf) (hrepository : makeQueryRepository conf queries = .ok repository)
    (hquery : query ∈ queries) {parsed : List ParsedQuery}
    (hparse : parseQueryConf conf = .ok parsed) : NumbersAgree queries parsed query := by
  obtain ⟨parsed', haccepted, d, hd, hdname, other, hother, hmake⟩ :=
    makeQuery_of_repository hrepository hquery
  obtain rfl : parsed' = parsed := Except.ok.inj (haccepted.parses.symm.trans hparse)
  obtain ⟨lines, hok, -, hsections⟩ := sections_reads hconf hparse
  obtain ⟨lines', hok', sec, hsec, hsecname, segs, hscan, htext, -⟩ :=
    hexact Unit query.parameters.unit _ _ query.parameters.type_unit (hmake _ _)
  obtain rfl : lines' = lines := Except.ok.inj (hok'.symm.trans hok)
  intro d₁ hd₁ hd₁name other₁ hother₁
  -- the section is that of the definition, and there is one definition of the name
  obtain ⟨d₂, hd₂, hd₂name, hd₂scan⟩ := hsections sec hsec
  obtain rfl : d₁ = d :=
    List.inj_on_of_nodup_map haccepted.defined hd₁ hd (hd₁name.trans hdname.symm)
  obtain rfl : d₂ = d₁ :=
    List.inj_on_of_nodup_map haccepted.defined hd₂ hd
      (hd₂name.trans (hsecname.trans hdname.symm))
  obtain rfl : other₁ = other := Option.some.inj (hother₁.symm.trans hother)
  obtain rfl := hscan.unique hd₂scan
  rw [describe_text] at htext
  intro name hname
  exact numbers_eq_of_trim_eq hscan htext name (parameter_mem_segments_iff.mpr hname)

/-- Where the numbers agree the text is the one made for the query. -/
theorem placeholdersExact_of_numbersAgree (hconf : '\x00' ∉ conf)
    (hrepository : makeQueryRepository conf queries = .ok repository) (hquery : query ∈ queries)
    (hagree : ∀ parsed, parseQueryConf conf = .ok parsed → NumbersAgree queries parsed query) :
    PlaceholdersExact conf repository query := by
  -- the text was made with the declaration that counts
  obtain ⟨parsed, haccepted, d, hd, hdname, other, hother, hmake⟩ :=
    makeQuery_of_repository hrepository hquery
  obtain ⟨lines, hok, hdefinitions, -⟩ := sections_reads hconf haccepted.parses
  obtain ⟨sec, hsec, hname, hscan⟩ := hdefinitions d hd
  rintro V parameters text values htype hmade
  obtain ⟨rfl, rfl⟩ : (describe other d).text = text ∧ parameters.unpack = values :=
    Prod.mk.inj (Except.ok.inj ((hmake V parameters).symm.trans hmade))
  -- which numbers the parameters as the query does
  have hnumbers := hagree parsed haccepted.parses d hd hdname other hother
  have htext := describe_text other d
  rw [flatMap_render_congr fun name hname =>
    hnumbers name (parameter_mem_segments_iff.mp hname)] at htext
  refine ⟨lines, hok, sec, hsec, hname.symm.trans hdname, _, hscan, htext, ?_⟩
  intro pre name post hsegs
  have hmem : .parameterName name ∈ d.text := by
    rw [← parameter_mem_segments_iff, hsegs]
    exact List.mem_append_right _ List.mem_cons_self
  have hresolves := haccepted.resolved d hd query hquery hdname.symm name hmem
  refine ⟨query.parameters.number name + 1, rfl, ?_⟩
  rw [hsegs] at hscan htext
  rw [htext]
  rw [← htype] at hresolves ⊢
  exact isPlaceholder_of_scan hscan hresolves

end

/-- The placeholders of a query stand for its values exactly when the parameters of the section
have the same numbers in the declaration that counts for its name. -/
theorem placeholdersExact_iff (conf : Text) (hconf : '\x00' ∉ conf) (queries : List Query)
    (repository : Conf) (hrepository : makeQueryRepository conf queries = .ok repository)
    (query : Query) (hquery : query ∈ queries) :
    PlaceholdersExact conf repository query ↔
      ∀ parsed, parseQueryConf conf = .ok parsed → NumbersAgree queries parsed query :=
  ⟨fun hexact _ hparse => hexact.numbersAgree hconf hrepository hquery hparse,
    placeholdersExact_of_numbersAgree hconf hrepository hquery⟩

/-- The repository of `pairConf` for a query with the members in another order. -/
def pairRepository : Conf := makeQueryConf [⟨"pair".toList, "f($2,\n$1)".toList⟩]

/-- The query of `pairConf` is made with `$2` for the second member, which is `a`. -/
theorem placeholdersExact_pair :
    makeQueryRepository pairConf [pairQuery] = .ok pairRepository ∧
      pairRepository.makeQuery pairQuery (.struct [("b".toList, 7), ("a".toList, 8)]) =
        .ok ("f($2,\n$1)".toList, [7, 8]) ∧
      PlaceholdersExact pairConf pairRepository pairQuery := by
  have hrepository : makeQueryRepository pairConf [pairQuery] = .ok pairRepository := by decide
  refine ⟨hrepository, rfl, ?_⟩
  apply (placeholdersExact_iff pairConf (by decide) [pairQuery] pairRepository hrepository
    pairQuery List.mem_cons_self).mpr
  rintro parsed - d - - other hother name -
  obtain rfl := List.mem_singleton.mp (mem_of_declaration hother).1
  rfl

/-- A query with the name of `cutQuery` up to the null character and the members in another
order. -/
def otherCutQuery : Query := ⟨"pair\x00t".toList, .struct ["b".toList, "a".toList]⟩

def cutRepository : Conf := makeQueryConf [⟨"pair".toList, "f($1,\n$2)".toList⟩]

/-- The text made for `cutQuery` is used for the other query, so that `:a` has become a placeholder
for the value of `b`. -/
theorem not_placeholdersExact_cut :
    makeQueryRepository pairConf [otherCutQuery, cutQuery] = .ok cutRepository ∧
      cutRepository.makeQuery otherCutQuery (.struct [("b".toList, 7), ("a".toList, 8)]) =
        .ok ("f($1,\n$2)".toList, [7, 8]) ∧
      ¬ PlaceholdersExact pairConf cutRepository otherCutQuery := by
  have hrepository : makeQueryRepository pairConf [otherCutQuery, cutQuery] =
    .ok cutRepository := by decide
  refine ⟨hrepository, rfl, fun hexact => ?_⟩
  have hparse : parseQueryConf pairConf = .ok [pairParsed] := by decide
  have hagree := hexact.numbersAgree (by decide) hrepository List.mem_cons_self hparse pairParsed
    List.mem_cons_self rfl cutQuery rfl "a".toList (by decide)
  revert hagree
  decide

end OzoPg.QueryConf
