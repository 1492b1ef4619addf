import OzoPg.QueryConf.Elements

/-!
# Parsing a configuration

The headers split the lines into sections. A configuration is refused when there is text before the
first section, or a stray colon somewhere; otherwise every section becomes a query with its name
and its text.

* `splitSections` — the lines before the first header, and the sections.
* `parseQueryConfElements_eq_ok_iff` — what the visitor makes of them.
* `parseQueryConf_exact` — what is accepted, and what becomes of it.
-/

namespace OzoPg.QueryConf

open Peg Peg.Parser TextParser

/-! ## Sections

The visitor keeps a state and a list of queries. What it computes is easier to say from the outside:
the lines are cut at the headers, and each section is parsed by itself. -/

/-- The name in a comment, if it is a header. -/
def headerName (comment : Text) : Option Text :=
  HeaderParser.headerDef.phraseParse isNul comment

/-- A header with the lines of text up to the next one. -/
structure Section where
  name : Text
  lines : List Text
  deriving DecidableEq, Repr

/-- The lines of text before the first header, and the sections after it. -/
def splitSections : List QueryLine → List Text × List Section
  | [] => ([], [])
  | .text text :: lines => (text :: (splitSections lines).1, (splitSections lines).2)
  | .comment comment :: lines =>
    match headerName comment with
    | some name => ([], ⟨name, (splitSections lines).1⟩ :: (splitSections lines).2)
    | none => splitSections lines

/-- The lines of text before the first header. -/
def leading (lines : List QueryLine) : List Text := (splitSections lines).1

def sections (lines : List QueryLine) : List Section := (splitSections lines).2

/-- The elements of some lines of text. -/
def parseTexts : List Text → Option (List QueryTextElement)
  | [] => some []
  | text :: texts =>
    (textDef.phraseParse isNul text).bind fun elements =>
      (parseTexts texts).map (elements ++ ·)

/-- The query of a section. -/
def Section.Parses (sec : Section) (query : ParsedQuery) : Prop :=
  query.name = sec.name ∧ parseTexts sec.lines = some query.text

section

variable {text comment name : Text} {lines : List QueryLine}

@[simp] theorem leading_text : leading (.text text :: lines) = text :: leading lines := rfl

@[simp] theorem sections_text : sections (.text text :: lines) = sections lines := rfl

theorem leading_header (h : headerName comment = some name) :
    leading (.comment comment :: lines) = [] := by
  simp [leading, splitSections, h]

theorem sections_header (h : headerName comment = some name) :
    sections (.comment comment :: lines) = ⟨name, leading lines⟩ :: sections lines := by
  simp [sections, leading, splitSections, h]

theorem leading_comment (h : headerName comment = none) :
    leading (.comment comment :: lines) = leading lines := by
  simp [leading, splitSections, h]

theorem sections_comment (h : headerName comment = none) :
    sections (.comment comment :: lines) = sections lines := by
  simp [sections, splitSections, h]

end

/-- The sections are parsed one by one. -/
theorem forall₂_parses_cons_iff {sec : Section} {secs : List Section} {result : List ParsedQuery} :
    List.Forall₂ Section.Parses (sec :: secs) result ↔
      ∃ elements parsed, parseTexts sec.lines = some elements ∧
        List.Forall₂ Section.Parses secs parsed ∧ result = ⟨sec.name, elements⟩ :: parsed := by
  constructor
  · intro h
    cases h with
    | @cons _ query _ parsed hquery hparsed =>
        obtain ⟨name, elements⟩ := query
        obtain ⟨rfl, htexts⟩ := hquery
        exact ⟨elements, parsed, htexts, hparsed, rfl⟩
  · rintro ⟨elements, parsed, htexts, hparsed, rfl⟩
    exact .cons ⟨rfl, htexts⟩ hparsed

/-! ## The visitor

By induction on the lines, from any state of the visitor: the text lines up to the next header are
added to the last query. -/

namespace LineVisitor

variable {v : LineVisitor} {text comment name : Text} {queries : List ParsedQuery}
  {query : ParsedQuery}

/-- Comments that are no headers are skipped, wherever they stand. -/
theorem visit_comment (h : headerName comment = none) : v.visit (.comment comment) = .ok v := by
  unfold headerName at h
  simp [visit, parseHeader, h]

/-- A header starts a query. -/
theorem visit_header (h : headerName comment = some name) :
    v.visit (.comment comment) =
      .ok ⟨.headerParsed, v.queries ++ [⟨name, []⟩], fun _ => by simp⟩ := by
  unfold headerName at h
  simp [visit, parseHeader, h]

/-- Text needs a header in front of it. -/
theorem visit_text_initial (h : v.state = .initial) :
    v.visit (.text text) = .error .expectedComment := by
  obtain ⟨state, qs, hback⟩ := v
  subst h
  rfl

/-- A line of text goes to the last query. -/
theorem visit_text (hstate : v.state = .headerParsed) (hqueries : v.queries = queries ++ [query]) :
    v.visit (.text text) =
      match textDef.phraseParse isNul text with
      | some elements =>
        .ok ⟨.headerParsed, queries ++ [{ query with text := query.text ++ elements }],
          fun _ => by simp⟩
      | none => .error (.text query.name) := by
  obtain ⟨state, qs, hback⟩ := v
  subst hstate hqueries
  cases hparse : textDef.phraseParse isNul text with
  | none => simp [visit, parseText, hparse]
  | some elements => simp [visit, parseText, hparse]

end LineVisitor

/-- The visitor after a header: the lines before the next one go to the last query, and every
section becomes a query. -/
theorem foldlM_visit_eq_ok_iff (lines : List QueryLine) {v : LineVisitor}
    {queries result : List ParsedQuery} {query : ParsedQuery} (hstate : v.state = .headerParsed)
    (hqueries : v.queries = queries ++ [query]) :
    (lines.foldlM LineVisitor.visit v).map LineVisitor.queries = .ok result ↔
      ∃ elements parsed, parseTexts (leading lines) = some elements ∧
        List.Forall₂ Section.Parses (sections lines) parsed ∧
        result = queries ++ { query with text := query.text ++ elements } :: parsed := by
  induction lines generalizing v queries query with
  | nil =>
      have hresult : (Except.ok v.queries : Except ConfError _) = .ok result ↔
          result = queries ++ [query] := by
        rw [Except.ok.injEq, hqueries, eq_comm]
      refine hresult.trans ⟨?_, ?_⟩
      · rintro rfl
        exact ⟨[], [], rfl, .nil, by simp⟩
      · rintro ⟨elements, parsed, ⟨⟩, ⟨⟩, rfl⟩
        simp
  | cons line lines ih =>
      rw [List.foldlM_cons]
      cases line with
      | text text =>
          rw [LineVisitor.visit_text hstate hqueries, leading_text, sections_text, parseTexts]
          cases textDef.phraseParse isNul text with
          | none =>
              refine iff_of_false nofun ?_
              rintro ⟨elements, parsed, ⟨⟩, -⟩
          | some elements₀ =>
              refine (ih rfl rfl).trans ⟨?_, ?_⟩
              · rintro ⟨elements, parsed, htexts, hparsed, rfl⟩
                refine ⟨elements₀ ++ elements, parsed, ?_, hparsed, ?_⟩
                · simp [htexts]
                · simp
              · rintro ⟨elements', parsed, htexts, hparsed, rfl⟩
                obtain ⟨elements, hrest, rfl⟩ := Option.map_eq_some_iff.mp htexts
                exact ⟨elements, parsed, hrest, hparsed, by simp⟩
      | comment comment =>
          cases hname : headerName comment with
          | none =>
              rw [LineVisitor.visit_comment hname, leading_comment hname, sections_comment hname]
              exact ih hstate hqueries
          | some name =>
              -- the last query is complete, and the next one begins
              rw [LineVisitor.visit_header hname, leading_header hname, sections_header hname]
              simp only [forall₂_parses_cons_iff]
              refine (ih rfl rfl).trans ⟨?_, ?_⟩
              · rintro ⟨elements, parsed, htexts, hparsed, rfl⟩
                exact ⟨[], _, rfl, ⟨elements, parsed, htexts, hparsed, rfl⟩, by simp [hqueries]⟩
              · rintro ⟨_, _, ⟨⟩, ⟨elements, parsed, htexts, hparsed, rfl⟩, rfl⟩
                exact ⟨elements, parsed, htexts, hparsed, by simp [hqueries]⟩

/-- The configurations that are accepted, and what becomes of them. -/
theorem parseQueryConfElements_eq_ok_iff {lines : List QueryLine} {result : List ParsedQuery} :
    parseQueryConfElements lines = .ok result ↔
      leading lines = [] ∧ List.Forall₂ Section.Parses (sections lines) result := by
  unfold parseQueryConfElements
  induction lines with
  | nil =>
      refine ⟨?_, ?_⟩
      · rintro ⟨⟩
        exact ⟨rfl, .nil⟩
      · rintro ⟨-, ⟨⟩⟩
        rfl
  | cons line lines ih =>
      rw [List.foldlM_cons]
      cases line with
      -- text in front of the first header
      | text text =>
          rw [LineVisitor.visit_text_initial rfl]
          exact iff_of_false nofun (by simp)
      | comment comment =>
          cases hname : headerName comment with
          | none =>
              rw [LineVisitor.visit_comment hname, leading_comment hname, sections_comment hname]
              exact ih
          -- from the first header on the visitor has a query to add to
          | some name =>
              rw [LineVisitor.visit_header hname, leading_header hname, sections_header hname]
              rw [forall₂_parses_cons_iff]
              refine (foldlM_visit_eq_ok_iff lines rfl rfl).trans ?_
              exact (and_iff_right rfl).symm

/-! ## Texts -/

/-- An element as it stands in a configuration. -/
def QueryTextElement.print : QueryTextElement → Text
  | .part value => value
  | .parameterName value => ':' :: value

theorem print_segments (e : QueryTextElement) : e.segments.flatMap Segment.print = e.print := by
  cases e with
  | part value => simp [QueryTextElement.segments, QueryTextElement.print, Segment.print,
      List.flatMap_map]
  | parameterName value => simp [QueryTextElement.segments, QueryTextElement.print, Segment.print]

/-- The elements of a text, printed back. -/
theorem flatMap_print_of_textDef {text : Text} {es : List QueryTextElement} (ht : '\x00' ∉ text)
    (h : textDef.phraseParse isNul text = some es) : es.flatMap QueryTextElement.print = text := by
  have hprint := (scan_of_textDef ht h).print_append
  simpa only [List.append_nil, List.flatMap_assoc, print_segments] using hprint

/-- Printing the elements gives the lines back. -/
theorem flatMap_print_of_parseTexts {texts : List Text} {es : List QueryTextElement}
    (ht : ∀ text ∈ texts, '\x00' ∉ text) (h : parseTexts texts = some es) :
    es.flatMap QueryTextElement.print = texts.flatten := by
  induction texts generalizing es with
  | nil =>
      cases h
      rfl
  | cons text texts ih =>
      obtain ⟨es₁, htext, h⟩ := Option.bind_eq_some_iff.mp h
      obtain ⟨es₂, htexts, rfl⟩ := Option.map_eq_some_iff.mp h
      rw [List.flatMap_append, flatMap_print_of_textDef (ht text List.mem_cons_self) htext,
        ih (fun t h => ht t (List.mem_cons_of_mem text h)) htexts, List.flatten_cons]

/-- Stray colons are the only reason why text is not parsed. -/
theorem isSome_parseTexts_iff {texts : List Text} (ht : ∀ text ∈ texts, '\x00' ∉ text) :
    (∃ es, parseTexts texts = some es) ↔ ∀ text ∈ texts, ¬ StrayColon text := by
  induction texts with
  | nil => simp [parseTexts]
  | cons text texts ih =>
      have ih' := ih fun t h => ht t (List.mem_cons_of_mem text h)
      rw [List.forall_mem_cons, ← ih', ← textDef_eq_none_iff (ht text List.mem_cons_self)]
      cases htext : textDef.phraseParse isNul text with
      | none => simp [parseTexts, htext]
      | some es => simp [parseTexts, htext]

/-- The same for all sections at once. -/
theorem exists_forall₂_parses_iff {secs : List Section}
    (hs : ∀ sec ∈ secs, ∀ text ∈ sec.lines, '\x00' ∉ text) :
    (∃ parsed, List.Forall₂ Section.Parses secs parsed) ↔
      ∀ sec ∈ secs, ∀ text ∈ sec.lines, ¬ StrayColon text := by
  induction secs with
  | nil => exact ⟨fun _ => by simp, fun _ => ⟨[], .nil⟩⟩
  | cons sec secs ih =>
      have ih' := ih fun s h => hs s (List.mem_cons_of_mem sec h)
      rw [List.forall_mem_cons, ← ih', ← isSome_parseTexts_iff (hs sec List.mem_cons_self)]
      simp only [forall₂_parses_cons_iff]
      constructor
      · rintro ⟨_, es, parsed, htexts, hparsed, rfl⟩
        exact ⟨⟨es, htexts⟩, parsed, hparsed⟩
      · rintro ⟨⟨es, htexts⟩, parsed, hparsed⟩
        exact ⟨_, es, parsed, htexts, hparsed, rfl⟩

/-- A line of text is before the first header, or in a section. -/
theorem mem_text_iff {text : Text} {lines : List QueryLine} :
    .text text ∈ lines ↔ text ∈ leading lines ∨ ∃ sec ∈ sections lines, text ∈ sec.lines := by
  induction lines with
  | nil => simp [leading, sections, splitSections]
  | cons line lines ih =>
      cases line with
      | text t => simp [ih, or_assoc]
      | comment comment =>
          cases hname : headerName comment with
          | none => simp [leading_comment hname, sections_comment hname, ih]
          | some name => simp [leading_header hname, sections_header hname, ih]

/-- A line of text precedes the first header. -/
def TextBeforeHeader (lines : List QueryLine) : Prop :=
  ∃ pre text post, lines = pre ++ .text text :: post ∧
    ∀ comment, .comment comment ∈ pre → ∀ name, ¬ IsHeader comment name

theorem textBeforeHeader_text (text : Text) (lines : List QueryLine) :
    TextBeforeHeader (.text text :: lines) :=
  ⟨[], text, lines, rfl, nofun⟩

theorem textBeforeHeader_comment {comment : Text} {lines : List QueryLine} :
    TextBeforeHeader (.comment comment :: lines) ↔
      (∀ name, ¬ IsHeader comment name) ∧ TextBeforeHeader lines := by
  constructor
  · rintro ⟨pre, text, post, heq, hpre⟩
    cases pre with
    | nil => cases heq
    | cons line pre =>
        obtain ⟨rfl, rfl⟩ := List.cons.inj heq
        refine ⟨hpre comment List.mem_cons_self, pre, text, post, rfl, fun c hc => ?_⟩
        exact hpre c (List.mem_cons_of_mem _ hc)
  · rintro ⟨hcomment, pre, text, post, rfl, hpre⟩
    refine ⟨.comment comment :: pre, text, post, rfl, fun c hc => ?_⟩
    rcases List.mem_cons.mp hc with heq | hc
    · cases heq
      exact hcomment
    · exact hpre c hc

/-- Text before the first header is what the split leaves in front. -/
theorem textBeforeHeader_iff {lines : List QueryLine}
    (hlines : ∀ comment, .comment comment ∈ lines → '\x00' ∉ comment) :
    TextBeforeHeader lines ↔ leading lines ≠ [] := by
  induction lines with
  | nil => simp [TextBeforeHeader, leading, splitSections]
  | cons line lines ih =>
      have ih' := ih fun c h => hlines c (List.mem_cons_of_mem line h)
      cases line with
      | text text => exact iff_of_true (textBeforeHeader_text text lines) (List.cons_ne_nil _ _)
      | comment comment =>
          have hheader : ∀ name, IsHeader comment name ↔ headerName comment = some name :=
            fun name => (phraseParse_headerDef (hlines comment List.mem_cons_self)).symm
          simp only [textBeforeHeader_comment, hheader]
          cases hname : headerName comment with
          | none => simp [leading_comment hname, ih']
          | some name => simp [leading_header hname]

/-! ## Configurations -/

theorem IsLines.notMem {conf : Text} {lines : List QueryLine} (h : IsLines conf lines)
    (hconf : '\x00' ∉ conf) : ∀ l ∈ lines, '\x00' ∉ l.value := by
  intro l hl hnul
  rw [← h.flatMap_value] at hconf
  exact hconf (List.mem_flatMap.mpr ⟨l, hl, hnul⟩)

/-- The lines of a configuration, which are all that matters of it. -/
theorem parseQueryConf_eq {conf : Text} (hconf : '\x00' ∉ conf) :
    ∃ lines, parseQueryConfLines conf = .ok lines ∧ IsLines conf lines ∧
      parseQueryConf conf = parseQueryConfElements lines ∧
      (∀ comment, .comment comment ∈ lines → '\x00' ∉ comment) ∧
      ∀ sec ∈ sections lines, ∀ text ∈ sec.lines, '\x00' ∉ text := by
  obtain ⟨lines, hok, hlines⟩ := parseQueryConfLines_eq_ok hconf
  have hnul := hlines.notMem hconf
  refine ⟨lines, hok, hlines, ?_, fun c hc => hnul (.comment c) hc, fun sec hsec text htext => ?_⟩
  · rw [parseQueryConf, hok]
    rfl
  · exact hnul (.text text) (mem_text_iff.mpr (.inr ⟨sec, hsec, htext⟩))

/-- The section is named by the query, and its lines are the text of the query. -/
def Section.Defines (sec : Section) (query : ParsedQuery) : Prop :=
  query.name = sec.name ∧ query.text.flatMap QueryTextElement.print = sec.lines.flatten

/-- Each query stands for its section. -/
theorem forall₂_defines {secs : List Section} {parsed : List ParsedQuery}
    (hs : ∀ sec ∈ secs, ∀ text ∈ sec.lines, '\x00' ∉ text)
    (h : List.Forall₂ Section.Parses secs parsed) : List.Forall₂ Section.Defines secs parsed := by
  induction h with
  | nil => exact .nil
  | cons hquery _ ih =>
      refine .cons ⟨hquery.1, ?_⟩ (ih fun sec hsec => hs sec (List.mem_cons_of_mem _ hsec))
      exact flatMap_print_of_parseTexts (hs _ List.mem_cons_self) hquery.2

/-- The lines that make a configuration unacceptable. -/
theorem parseQueryConfElements_eq_error_iff {lines : List QueryLine}
    (hs : ∀ sec ∈ sections lines, ∀ text ∈ sec.lines, '\x00' ∉ text) :
    (∃ e, parseQueryConfElements lines = .error e) ↔
      leading lines ≠ [] ∨ ∃ text, .text text ∈ lines ∧ StrayColon text := by
  have hok : (∃ queries, parseQueryConfElements lines = .ok queries) ↔
      leading lines = [] ∧ ∀ sec ∈ sections lines, ∀ text ∈ sec.lines, ¬ StrayColon text := by
    simp only [parseQueryConfElements_eq_ok_iff, exists_and_left, exists_forall₂_parses_iff hs]
  -- an error is the absence of a result
  have herror : (∃ e, parseQueryConfElements lines = .error e) ↔
      ¬ ∃ queries, parseQueryConfElements lines = .ok queries := by
    cases parseQueryConfElements lines <;> simp
  rw [herror, hok]
  constructor
  · intro h
    by_contra hcon
    push Not at hcon
    refine h ⟨hcon.1, fun sec hsec text htext => ?_⟩
    exact hcon.2 text (mem_text_iff.mpr (.inr ⟨sec, hsec, htext⟩))
  · rintro (hleading | ⟨text, hmem, hstray⟩) ⟨hnil, hall⟩
    · exact hleading hnil
    · rcases mem_text_iff.mp hmem with hmem | ⟨sec, hsec, hmem⟩
      · simp [hnil] at hmem
      · exact hall sec hsec text hmem hstray

/-- Parsing loses nothing: the lines are the text, a configuration is refused for a line of text
before the first header and for a stray colon, and otherwise each section is a query. -/
theorem parseQueryConf_exact (conf : Text) (hconf : '\x00' ∉ conf) :
    ∃ lines, parseQueryConfLines conf = .ok lines ∧ IsLines conf lines ∧
      ((∃ e, parseQueryConf conf = .error e) ↔
        TextBeforeHeader lines ∨ ∃ text, .text text ∈ lines ∧ StrayColon text) ∧
      (∀ comment name, .comment comment ∈ lines →
        (headerName comment = some name ↔ IsHeader comment name)) ∧
      ∀ queries, parseQueryConf conf = .ok queries →
        List.Forall₂ Section.Defines (sections lines) queries := by
  obtain ⟨lines, hok, hlines, hparse, hcomments, hsections⟩ := parseQueryConf_eq hconf
  refine ⟨lines, hok, hlines, ?_, fun c name hc => phraseParse_headerDef (hcomments c hc), ?_⟩
  · rw [hparse, textBeforeHeader_iff hcomments]
    exact parseQueryConfElements_eq_error_iff hsections
  · intro queries hqueries
    rw [hparse, parseQueryConfElements_eq_ok_iff] at hqueries
    exact forall₂_defines hsections hqueries.2

/-- A configuration with two queries and lines of every kind. -/
def twoQueries : Text :=
  "-- name: first\r\nSELECT :a::int,\r-- nothing\n  f(x := :b)\n\n--name : second \nSELECT 1".toList

theorem parseQueryConf_twoQueries :
    ∃ lines, parseQueryConfLines twoQueries = .ok lines ∧ IsLines twoQueries lines ∧
      ¬ ∃ text, .text text ∈ lines ∧ StrayColon text := by
  obtain ⟨lines, hok, hlines, herror, -⟩ := parseQueryConf_exact twoQueries (by decide)
  refine ⟨lines, hok, hlines, fun hstray => ?_⟩
  obtain ⟨e, he⟩ := herror.mpr (.inr hstray)
  have hsome : (parseQueryConf twoQueries).isOk = true := by decide
  rw [he] at hsome
  cases hsome

end OzoPg.QueryConf
