import OzoPg.QueryConf.Lines

/-!
# Headers and elements

What the header grammar takes is said by `IsHeader`. For the text grammar there is a scanning
judgment, `Scan`, which reads a text from left to right with no regard to how the grammar groups
its characters into parts; it keeps the remaining text as an index, so that judgments compose.

* `phraseParse_headerDef` — the comments that are headers, and their names.
* `scan_of_textDef`, `textDef_eq_none_iff` — what a text is split into, and when it is refused.
-/

namespace OzoPg.QueryConf

open Peg Peg.Parser

/-! ## Headers -/

/-- `"--"`, spaces, `"name"`, spaces, `':'`, spaces and the rest of the line, which is not empty. -/
def IsHeader (comment name : Text) : Prop :=
  ∃ sp₁ sp₂ sp₃ term : Text,
    comment = "--".toList ++ (sp₁ ++ ("name".toList ++ (sp₂ ++ (":".toList ++
      (sp₃ ++ (name ++ term)))))) ∧
    (∀ x ∈ sp₁ ++ sp₂ ++ sp₃, isSpace x = true) ∧
    name ≠ [] ∧ (∀ x ∈ name, isEol x = false) ∧ (∀ x ∈ name.head?, isSpace x = false) ∧
    (term = [] ∨ IsTerminator term [])

/-- The end of a header: a terminator or nothing. -/
theorem run_headerEnd {s : Text} {x : Option Text × Unit} {r : Text} :
    (eol.opt.seq eoi).run noSkip s = some (x, r) →
      r = [] ∧ (s = [] ∨ IsTerminator s []) := by
  intro h
  obtain ⟨t, hopt, heoi⟩ := run_seq.mp h
  obtain ⟨rfl, rfl⟩ := run_eoi.mp heoi
  refine ⟨rfl, ?_⟩
  rcases run_opt.mp hopt with ⟨term, -, hterm⟩ | ⟨-, -, rfl⟩
  · obtain ⟨rfl, hterm⟩ := run_eol.mp hterm
    right
    rwa [List.append_nil]
  · exact .inl rfl

theorem headerEnd_of {s : Text} (h : s = [] ∨ IsTerminator s []) :
    ∃ x, (eol.opt.seq eoi).run noSkip s = some (x, []) := by
  rcases h with rfl | hterm
  · exact ⟨(none, ()), rfl⟩
  · have heol : eol.run noSkip s = some (s, []) := run_eol.mpr ⟨by simp, hterm⟩
    exact ⟨(some s, ()), run_seq.mpr ⟨[], run_opt.mpr (.inl ⟨s, rfl, heol⟩), rfl⟩⟩

theorem run_space_star (s : Text) :
    HeaderParser.space.star.run noSkip s = some (s.takeWhile isSpace, s.dropWhile isSpace) :=
  (isClass_satisfy isSpace).run_star s

theorem isSpace_of_mem_takeWhile {s : Text} {x : Char} (hx : x ∈ s.takeWhile isSpace) :
    isSpace x = true :=
  List.mem_takeWhile_imp hx

/-- Spaces followed by a text that starts with none. -/
theorem run_space_append {sp s : Text} (hsp : ∀ x ∈ sp, isSpace x = true)
    (hs : ∀ x ∈ s.head?, isSpace x = false) :
    HeaderParser.space.star.run noSkip (sp ++ s) = some (sp, s) := by
  obtain ⟨htake, hdrop⟩ := takeWhile_append_eq hsp hs
  rw [run_space_star, htake, hdrop]

/-- What is parsed as a header is one. -/
theorem isHeader_of_run {s name r : Text}
    (h : HeaderParser.headerDef.run noSkip s = some (name, r)) : IsHeader s name := by
  -- the sequence is taken apart from the left
  obtain ⟨⟨d, sp₁, n, sp₂, col, sp₃, name, e⟩, hrun, rfl⟩ := run_map.mp h
  obtain ⟨s₁, hd, hrun⟩ := run_seq.mp hrun
  obtain ⟨s₂, hsp₁, hrun⟩ := run_seq.mp hrun
  obtain ⟨s₃, hn, hrun⟩ := run_seq.mp hrun
  obtain ⟨s₄, hsp₂, hrun⟩ := run_seq.mp hrun
  obtain ⟨s₅, hcol, hrun⟩ := run_seq.mp hrun
  obtain ⟨s₆, hsp₃, hrun⟩ := run_seq.mp hrun
  obtain ⟨s₇, hname, hend⟩ := run_seq.mp hrun
  rw [run_space_star] at hsp₁ hsp₂ hsp₃
  rw [run_lexeme] at hname
  obtain ⟨rfl, rfl⟩ := run_string.mp hd
  obtain ⟨rfl, rfl⟩ := Prod.mk.inj (Option.some.inj hsp₁)
  obtain ⟨rfl, hs₂⟩ := run_string.mp hn
  obtain ⟨rfl, rfl⟩ := Prod.mk.inj (Option.some.inj hsp₂)
  obtain ⟨rfl, hs₄⟩ := run_string.mp hcol
  obtain ⟨rfl, rfl⟩ := Prod.mk.inj (Option.some.inj hsp₃)
  obtain ⟨rfl, rfl, hne⟩ := isClass_notEol.run_plus.mp hname
  obtain ⟨-, hterm⟩ := run_headerEnd hend
  refine ⟨s₁.takeWhile isSpace, s₃.takeWhile isSpace, s₅.takeWhile isSpace,
    (s₅.dropWhile isSpace).dropWhile notEol, ?_, ?_, hne, ?_, ?_, hterm⟩
  -- put together again, it is the text
  · rw [List.takeWhile_append_dropWhile, List.takeWhile_append_dropWhile, ← hs₄,
      List.takeWhile_append_dropWhile, ← hs₂, List.takeWhile_append_dropWhile]
  · simp only [List.mem_append]
    rintro x ((hx | hx) | hx) <;> exact isSpace_of_mem_takeWhile hx
  · exact fun x hx => isEol_of_mem_takeWhile hx
  · intro x hx
    -- the blanks in front of the name were all taken
    apply head?_dropWhile_eq_false isSpace s₅ x
    rw [← List.takeWhile_append_dropWhile (p := notEol) (l := s₅.dropWhile isSpace)]
    exact List.mem_head?_append_of_mem_head? hx

/-- A header is parsed, and its name is taken up to the end of the line. -/
theorem run_of_isHeader {s name : Text} (h : IsHeader s name) :
    HeaderParser.headerDef.run noSkip s = some (name, []) := by
  obtain ⟨sp₁, sp₂, sp₃, term, rfl, hsp, hne, hname, hhead, hterm⟩ := h
  have hsp₁ : ∀ x ∈ sp₁, isSpace x = true := fun x hx => hsp x (by simp [hx])
  have hsp₂ : ∀ x ∈ sp₂, isSpace x = true := fun x hx => hsp x (by simp [hx])
  have hsp₃ : ∀ x ∈ sp₃, isSpace x = true := fun x hx => hsp x (by simp [hx])
  have hhead' : ∀ x ∈ (name ++ term).head?, isSpace x = false := by
    rw [List.head?_append_of_ne_nil name hne]
    exact hhead
  -- the end of the name is where the terminator starts
  have hterm' : ∀ x ∈ term.head?, notEol x = false := by
    rcases hterm with rfl | rfl | ⟨rfl, -⟩ | rfl <;> simp [notEol, isEol]
  have hname' : ∀ x ∈ name, notEol x = true := fun x hx => by simp [notEol, hname x hx]
  obtain ⟨htake, hdrop⟩ := takeWhile_append_eq hname' hterm'
  have hrest : (lexeme (char.diff eol).plus).run noSkip (name ++ term) = some (name, term) := by
    rw [run_lexeme]
    exact isClass_notEol.run_plus.mpr ⟨htake.symm, hdrop.symm, by rwa [htake]⟩
  obtain ⟨e, hend⟩ := headerEnd_of hterm
  refine run_map.mpr ⟨("--".toList, sp₁, "name".toList, sp₂, ":".toList, sp₃, name, e), ?_, rfl⟩
  refine run_seq.mpr ⟨_, run_string.mpr ⟨rfl, rfl⟩, run_seq.mpr ⟨_, run_space_append hsp₁ ?_, ?_⟩⟩
  · simp [isSpace]
  refine run_seq.mpr ⟨_, run_string.mpr ⟨rfl, rfl⟩, run_seq.mpr ⟨_, run_space_append hsp₂ ?_, ?_⟩⟩
  · simp [isSpace]
  exact run_seq.mpr ⟨_, run_string.mpr ⟨rfl, rfl⟩, run_seq.mpr
    ⟨_, run_space_append hsp₃ hhead', run_seq.mpr ⟨term, hrest, hend⟩⟩⟩

/-- The comments that are headers, with their names. -/
theorem phraseParse_headerDef {s name : Text} (hs : '\x00' ∉ s) :
    HeaderParser.headerDef.phraseParse isNul s = some name ↔ IsHeader s name := by
  rw [phraseParse_eq _ (unskipped_of_notMem hs), phraseParse, Option.map_eq_some_iff]
  constructor
  · rintro ⟨⟨name, r⟩, h, rfl⟩
    exact isHeader_of_run h
  · exact fun h => ⟨(name, []), run_of_isHeader h, rfl⟩

/-! ## Scanning

`Scan` says how a text is to be read, character by character and without the grammar of the source.
The rest of the text is there at every step, since a name is as long as possible. -/

/-- A character of the text, or a parameter with its name. -/
inductive Segment where
  | char (c : Char)
  | parameter (name : Text)
  deriving DecidableEq, Repr

/-- Reading a text from left to right: a colon is the first character of `"::"`, of `":="` or of
a parameter, whose name is as long as possible. The last argument is what is yet to be read. -/
inductive Scan : Text → List Segment → Text → Prop where
  | done {s : Text} : Scan s [] s
  | char {x : Char} {s r : Text} {segs : List Segment} (hx : x ≠ ':') (h : Scan s segs r) :
      Scan (x :: s) (.char x :: segs) r
  | cast {s r : Text} {segs : List Segment} (h : Scan s segs r) :
      Scan (':' :: ':' :: s) (.char ':' :: .char ':' :: segs) r
  | assign {s r : Text} {segs : List Segment} (h : Scan s segs r) :
      Scan (':' :: '=' :: s) (.char ':' :: .char '=' :: segs) r
  | parameter {t name s r : Text} {segs : List Segment} (ht : t = name ++ s) (hne : name ≠ [])
      (hname : ∀ x ∈ name, isNameChar x = true) (hs : ∀ x ∈ s.head?, isNameChar x = false)
      (h : Scan s segs r) : Scan (':' :: t) (.parameter name :: segs) r

/-- A colon that starts neither a parameter nor `"::"` nor `":="`. -/
def Stray (s : Text) : Prop :=
  ∃ post, s = ':' :: post ∧ ∀ x ∈ post.head?, isNameChar x = false ∧ x ≠ ':' ∧ x ≠ '='

/-- The text has such a colon, found by scanning from left to right. -/
def StrayColon (s : Text) : Prop := ∃ segs r, Scan s segs r ∧ Stray r

def Segment.print : Segment → Text
  | .char c => [c]
  | .parameter name => ':' :: name

namespace Scan

variable {s t r u : Text} {segs segs' : List Segment}

/-- Scans are composed, with the text behind them in view. -/
theorem trans (h : Scan s segs t) (h' : Scan t segs' r) : Scan s (segs ++ segs') r := by
  induction h with
  | done => exact h'
  | char hx _ ih => exact .char hx (ih h')
  | cast _ ih => exact .cast (ih h')
  | assign _ ih => exact .assign (ih h')
  | parameter ht hne hname hs _ ih => exact .parameter ht hne hname hs (ih h')

theorem chars {v : Text} (hv : ∀ x ∈ v, x ≠ ':') : Scan (v ++ r) (v.map .char) r := by
  induction v with
  | nil => exact .done
  | cons x v ih =>
      exact .char (hv x List.mem_cons_self) (ih fun y hy => hv y (List.mem_cons_of_mem x hy))

/-- What has been read, printed back. -/
theorem print_append (h : Scan s segs r) : segs.flatMap Segment.print ++ r = s := by
  induction h with
  | done => rfl
  | char _ _ ih => simp [Segment.print, ih]
  | cast _ ih => simp [Segment.print, ih]
  | assign _ ih => simp [Segment.print, ih]
  | parameter ht _ _ _ _ ih => simp [Segment.print, ih, ht]

/-- A name starts with a character of its class. -/
theorem isNameChar_of_cons_eq {x : Char} {name : Text} (h : x :: s = name ++ t) (hne : name ≠ [])
    (hname : ∀ y ∈ name, isNameChar y = true) : isNameChar x = true := by
  cases name with
  | nil => exact absurd rfl hne
  | cons y name =>
      obtain ⟨rfl, -⟩ := List.cons.inj h
      exact hname x List.mem_cons_self

/-- A scan that gets to the end passes through every other one. -/
theorem through (h' : Scan s segs' r) (h : Scan s segs []) :
    ∃ segs'', segs = segs' ++ segs'' ∧ Scan r segs'' [] := by
  have hcolon : isNameChar ':' ≠ true := by decide
  have hequals : isNameChar '=' ≠ true := by decide
  induction h' generalizing segs with
  | done => exact ⟨segs, rfl, h⟩
  | char hx _ ih =>
      cases h with
      | char _ h =>
          obtain ⟨segs'', rfl, hr⟩ := ih h
          exact ⟨segs'', rfl, hr⟩
      | cast | assign | parameter => exact absurd rfl hx
  | cast _ ih =>
      cases h with
      | char hx => exact absurd rfl hx
      | cast h =>
          obtain ⟨segs'', rfl, hr⟩ := ih h
          exact ⟨segs'', rfl, hr⟩
      | parameter ht hne hname => exact absurd (isNameChar_of_cons_eq ht hne hname) hcolon
  | assign _ ih =>
      cases h with
      | char hx => exact absurd rfl hx
      | assign h =>
          obtain ⟨segs'', rfl, hr⟩ := ih h
          exact ⟨segs'', rfl, hr⟩
      | parameter ht hne hname => exact absurd (isNameChar_of_cons_eq ht hne hname) hequals
  | parameter ht hne hname hs _ ih =>
      cases h with
      | char hx => exact absurd rfl hx
      | cast => exact absurd (isNameChar_of_cons_eq ht hne hname) hcolon
      | assign => exact absurd (isNameChar_of_cons_eq ht hne hname) hequals
      | parameter ht' hne' hname' hs' h =>
          -- both names are the longest one
          obtain ⟨rfl, rfl⟩ := longest_unique (ht.symm.trans ht') hname hs hname' hs'
          obtain ⟨segs'', rfl, hr⟩ := ih h
          exact ⟨segs'', rfl, hr⟩

/-- A text that can be scanned does not start with a stray colon. -/
theorem not_stray (h : Scan s segs []) : ¬ Stray s := by
  rintro ⟨post, rfl, hpost⟩
  cases h with
  | char hx => exact hx rfl
  | cast => exact (hpost ':' rfl).2.1 rfl
  | assign => exact (hpost '=' rfl).2.2 rfl
  | parameter ht hne hname =>
      cases post with
      | nil => simp [hne] at ht
      | cons x post => simp [isNameChar_of_cons_eq ht hne hname] at hpost

/-- A text that is scanned to its end has no stray colon. -/
theorem not_strayColon (h : Scan s segs []) : ¬ StrayColon s := by
  rintro ⟨segs', r, h', hstray⟩
  obtain ⟨segs'', -, hr⟩ := h'.through h
  exact hr.not_stray hstray

end Scan

/-! ## Elements

The parser follows the scan: what it takes is scanned as the same segments, and where it stops there
is the end of the text or a stray colon. -/

/-- The segments of an element. -/
def QueryTextElement.segments : QueryTextElement → List Segment
  | .part value => value.map .char
  | .parameterName value => [.parameter value]

open TextParser

/-- A text at which a part stops: its end, or a colon that starts neither of the operators. -/
def StopsPart (s : Text) : Prop :=
  s = [] ∨ ∃ post, s = ':' :: post ∧ ∀ x ∈ post.head?, x ≠ ':' ∧ x ≠ '='

/-- A character of a part. -/
def isPartChar (c : Char) : Bool := !isNul c && !(c == ':')

theorem isClass_partChar :
    IsClass isPartChar ((char.diff (satisfy (· == ':'))).diff (satisfy isNul)) := by
  have h := ((isClass_satisfy fun _ : Char => true).diff (isClass_satisfy (· == ':')).guards).diff
    (isClass_satisfy isNul).guards
  simp only [Bool.and_true] at h
  exact h

/-- A part is characters. -/
theorem scan_part {s v r : Text} (h : part.run noSkip s = some (v, r)) :
    Scan s (v.map .char) r := by
  unfold part at h
  rw [run_lexeme] at h
  rcases run_alt.mp h with hcast | ⟨-, h⟩
  · obtain ⟨rfl, rfl⟩ := run_string.mp hcast
    exact .cast .done
  rcases run_alt.mp h with hassign | ⟨-, h⟩
  · obtain ⟨rfl, rfl⟩ := run_string.mp hassign
    exact .assign .done
  · obtain ⟨rfl, rfl, -⟩ := isClass_partChar.run_plus.mp h
    have hchars : ∀ x ∈ s.takeWhile isPartChar, x ≠ ':' := by
      intro x hx
      have hpart := List.mem_takeWhile_imp hx
      simp only [isPartChar, Bool.and_eq_true, Bool.not_eq_true', beq_eq_false_iff_ne] at hpart
      exact hpart.2
    have hscan := Scan.chars (r := s.dropWhile isPartChar) hchars
    rwa [List.takeWhile_append_dropWhile] at hscan

/-- Where no part starts there is the end or a colon. -/
theorem stopsPart_of_none {s : Text} (hs : '\x00' ∉ s) (h : part.run noSkip s = none) :
    StopsPart s := by
  unfold part at h
  rw [run_lexeme] at h
  obtain ⟨hcast, h⟩ := run_alt_eq_none.mp h
  obtain ⟨hassign, hclass⟩ := run_alt_eq_none.mp h
  rw [run_string_eq_none] at hcast hassign
  rw [run_plus_eq_none] at hclass
  cases s with
  | nil => exact .inl rfl
  | cons x s =>
      -- any other character would be part of the text
      have hx : x = ':' := by
        have hpart : isPartChar x = false := by
          simpa [hclass] using (isClass_partChar.guards (x :: s)).symm
        have hnul : isNul x = false := unskipped_of_notMem hs x List.mem_cons_self
        simpa [isPartChar, hnul] using hpart
      subst hx
      refine .inr ⟨s, rfl, fun y hy => ?_⟩
      cases s with
      | nil => cases hy
      | cons z s =>
          cases hy
          -- behind the colon there is neither of the operators
          constructor
          · rintro rfl
            exact hcast (by simp)
          · rintro rfl
            exact hassign (by simp)

theorem scan_textPartDef {s v r : Text} (h : textPartDef.run noSkip s = some (v, r)) :
    Scan s (v.map .char) r := by
  obtain ⟨vs, hplus, rfl⟩ := run_map.mp h
  obtain ⟨hrepeats, -⟩ := run_plus_iff.mp hplus
  clear h hplus
  induction hrepeats with
  | stop => exact .done
  | more hsome _ ih =>
      rw [List.flatten_cons, List.map_append]
      exact (scan_part hsome).trans ih

/-- A parameter is a colon and the longest name behind it. -/
theorem scan_parameterNameDef {s name r : Text}
    (h : parameterNameDef.run noSkip s = some (name, r)) : Scan s [.parameter name] r := by
  obtain ⟨⟨colon, name⟩, hrun, rfl⟩ := run_map.mp h
  obtain ⟨s₁, hcolon, hname⟩ := run_seq.mp hrun
  rw [run_lexeme] at hname
  obtain ⟨rfl, rfl, hne⟩ := (isClass_satisfy isNameChar).run_plus.mp hname
  obtain ⟨rfl, heq⟩ := run_satisfy.mp hcolon
  obtain rfl := eq_of_beq heq
  exact .parameter List.takeWhile_append_dropWhile.symm hne (fun x hx => List.mem_takeWhile_imp hx)
    (head?_dropWhile_eq_false _ _) .done

theorem head?_of_parameterNameDef_eq_none {post : Text}
    (h : parameterNameDef.run noSkip (':' :: post) = none) :
    ∀ x ∈ post.head?, isNameChar x = false := by
  intro x hx
  by_contra hname
  have hne : post.takeWhile isNameChar ≠ [] := by
    cases post with
    | nil => cases hx
    | cons y post =>
        cases hx
        simp [hname]
  have hplus : (satisfy isNameChar).plus.lexeme.run noSkip post =
      some (post.takeWhile isNameChar, post.dropWhile isNameChar) := by
    rw [run_lexeme]
    exact (isClass_satisfy isNameChar).run_plus.mpr ⟨rfl, rfl, hne⟩
  have hrun : parameterNameDef.run noSkip (':' :: post) =
      some (post.takeWhile isNameChar, post.dropWhile isNameChar) :=
    run_map.mpr ⟨(':', _), run_seq.mpr ⟨post, run_satisfy.mpr ⟨rfl, rfl⟩, hplus⟩, rfl⟩
  simp [h] at hrun

/-- What the parser takes for an element is scanned as one. -/
theorem scan_element {s r : Text} {e : QueryTextElement}
    (h : element.run noSkip s = some (e, r)) : Scan s e.segments r := by
  rcases run_alt.mp h with hparameter | ⟨-, hpart⟩
  · obtain ⟨name, hname, rfl⟩ := run_map.mp hparameter
    exact scan_parameterNameDef hname
  · obtain ⟨v, hv, rfl⟩ := run_map.mp hpart
    exact scan_textPartDef hv

/-- Where no element starts there is the end or a stray colon. -/
theorem stray_of_element_eq_none {s : Text} (hs : '\x00' ∉ s) (h : element.run noSkip s = none) :
    s = [] ∨ Stray s := by
  obtain ⟨hparameter, hpart⟩ := run_alt_eq_none.mp h
  rw [run_map_eq_none] at hparameter hpart
  have hstops : StopsPart s :=
    stopsPart_of_none hs (run_plus_eq_none.mp (run_map_eq_none.mp hpart))
  rcases hstops with rfl | ⟨post, rfl, hpost⟩
  · exact .inl rfl
  · have hname := head?_of_parameterNameDef_eq_none hparameter
    exact .inr ⟨post, rfl, fun x hx => ⟨hname x hx, hpost x hx⟩⟩

/-- The rounds of `text_def` scan the text up to its end or to a stray colon. -/
theorem scan_of_repeats {s r : Text} {es : List QueryTextElement} (hs : '\x00' ∉ s)
    (h : Repeats (element.run noSkip) s es r) :
    Scan s (es.flatMap QueryTextElement.segments) r ∧ (r = [] ∨ Stray r) := by
  induction h with
  | stop hnone => exact ⟨.done, stray_of_element_eq_none hs hnone⟩
  | more hsome _ ih =>
      obtain ⟨hscan, hend⟩ := ih fun hr => hs ((element.suffix hsome).subset hr)
      exact ⟨(scan_element hsome).trans hscan, hend⟩

/-- A parsed text has been scanned to its end. -/
theorem scan_of_textDef {s : Text} {es : List QueryTextElement} (hs : '\x00' ∉ s)
    (h : textDef.phraseParse isNul s = some es) :
    Scan s (es.flatMap QueryTextElement.segments) [] := by
  rw [phraseParse_eq _ (unskipped_of_notMem hs)] at h
  obtain ⟨⟨es, r⟩, hrun, rfl⟩ := Option.map_eq_some_iff.mp h
  obtain ⟨⟨es, u⟩, hseq, rfl⟩ := run_map.mp hrun
  obtain ⟨t, hstar, heoi⟩ := run_seq.mp hseq
  obtain ⟨rfl, rfl⟩ := run_eoi.mp heoi
  exact (scan_of_repeats hs (run_star_iff.mp hstar)).1

/-- A text that is not parsed has a stray colon. -/
theorem strayColon_of_textDef {s : Text} (hs : '\x00' ∉ s)
    (h : textDef.phraseParse isNul s = none) : StrayColon s := by
  rw [phraseParse_eq _ (unskipped_of_notMem hs)] at h
  obtain ⟨⟨es, r⟩, hstar⟩ : ∃ x, element.star.run noSkip s = some x := ⟨_, rfl⟩
  obtain ⟨hscan, rfl | hstray⟩ := scan_of_repeats hs (run_star_iff.mp hstar)
  · have hrun : textDef.run noSkip s = some (es, []) :=
      run_map.mpr ⟨(es, ()), run_seq.mpr ⟨[], hstar, rfl⟩, rfl⟩
    simp [phraseParse, hrun] at h
  · exact ⟨_, r, hscan, hstray⟩

/-- A text is refused exactly for a stray colon. -/
theorem textDef_eq_none_iff {s : Text} (hs : '\x00' ∉ s) :
    textDef.phraseParse isNul s = none ↔ StrayColon s := by
  refine ⟨strayColon_of_textDef hs, fun hstray => ?_⟩
  cases hparse : textDef.phraseParse isNul s with
  | none => rfl
  | some es => exact absurd hstray (scan_of_textDef hs hparse).not_strayColon

end OzoPg.QueryConf
