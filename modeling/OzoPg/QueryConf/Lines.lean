import OzoPg.QueryConf.Model

/-!
# Splitting a configuration into lines

`parse_query_conf_lines` takes every text without null characters. A line goes up to and with its
terminator, or to the end of the text, and it is a comment if it starts with two dashes.

* `run_lineDef` — what one line is.
* `parseQueryConfLines_eq_ok` — the lines of a text.
-/

namespace OzoPg.QueryConf

open Peg Peg.Parser LinesParser

theorem unskipped_of_notMem {s : Text} (h : '\x00' ∉ s) : Unskipped isNul s := by
  intro x hx
  rw [isNul, beq_eq_false_iff_ne]
  rintro rfl
  exact h hx

/-! ## Terminators -/

/-- A character of a terminator. -/
def isEol (c : Char) : Bool := c == '\r' || c == '\n'

def notEol (c : Char) : Bool := !isEol c

/-- The text starts with a terminator, which is taken as long as possible. -/
def IsTerminator (term rest : Text) : Prop :=
  term = "\r\n".toList ∨ (term = "\r".toList ∧ rest.head? ≠ some '\n') ∨ term = "\n".toList

theorem crlf_prefix_iff {r : Text} : "\r\n".toList <+: '\r' :: r ↔ r.head? = some '\n' := by
  cases r with
  | nil => simp
  | cons x r => simp [@eq_comm _ x]

/-- The terminator of a line is taken as long as possible. -/
theorem run_eol {s term r : Text} :
    eol.run noSkip s = some (term, r) ↔ s = term ++ r ∧ IsTerminator term r := by
  simp only [eol, run_alt, run_string, run_string_eq_none, IsTerminator]
  constructor
  · rintro (⟨rfl, rfl⟩ | ⟨hcrlf, ⟨rfl, rfl⟩ | ⟨-, rfl, rfl⟩⟩)
    · exact ⟨rfl, .inl rfl⟩
    · exact ⟨rfl, .inr (.inl ⟨rfl, fun h => hcrlf (crlf_prefix_iff.mpr h)⟩)⟩
    · exact ⟨rfl, .inr (.inr rfl)⟩
  · rintro ⟨rfl, rfl | ⟨rfl, hhead⟩ | rfl⟩
    · exact .inl ⟨rfl, rfl⟩
    · exact .inr ⟨fun h => hhead (crlf_prefix_iff.mp h), .inl ⟨rfl, rfl⟩⟩
    · exact .inr ⟨by simp, .inr ⟨by simp, rfl, rfl⟩⟩

theorem eol_eq_none_iff {x : Char} {s : Text} :
    eol.run noSkip (x :: s) = none ↔ isEol x = false := by
  simp only [eol, run_alt_eq_none, run_string_eq_none, isEol, Bool.or_eq_false_iff,
    beq_eq_false_iff_ne]
  constructor
  · rintro ⟨-, hcr, hlf⟩
    exact ⟨fun h => hcr (by simp [h]), fun h => hlf (by simp [h])⟩
  · rintro ⟨hcr, hlf⟩
    exact ⟨by simp [Ne.symm hcr], by simp [Ne.symm hcr], by simp [Ne.symm hlf]⟩

theorem guards_eol : Guards isEol eol := by
  intro s
  cases s with
  | nil => rfl
  | cons x s =>
      rw [List.head?_cons, Option.any_some]
      cases hx : isEol x with
      | false => simp [eol_eq_none_iff.mpr hx]
      | true =>
          rw [Option.isSome_iff_ne_none]
          intro hnone
          simp [eol_eq_none_iff.mp hnone] at hx

/-- The characters of a line are those no terminator starts with. -/
theorem isClass_notEol : IsClass notEol (char.diff eol) := by
  have h := (isClass_satisfy fun _ : Char => true).diff guards_eol
  simp only [Bool.and_true] at h
  exact h

/-- After a run without terminators there is one, or the end. -/
theorem eol_dropWhile (s : Text) :
    s.dropWhile notEol = [] ∨ ∃ term r, eol.run noSkip (s.dropWhile notEol) = some (term, r) := by
  cases hrest : s.dropWhile notEol with
  | nil => exact .inl rfl
  | cons x r =>
      have hx : notEol x = false := head?_dropWhile_eq_false notEol s x (by simp [hrest])
      have hsome : (eol.run noSkip (x :: r)).isSome := by
        rw [guards_eol]
        simpa [notEol] using hx
      obtain ⟨⟨term, r'⟩, heq⟩ := Option.isSome_iff_exists.mp hsome
      exact .inr ⟨term, r', heq⟩

/-! ## One line

The three alternatives of a line differ in how they start and end. Together they take some line
wherever there is text, so the repetition cannot stop early. -/

def QueryLine.isComment : QueryLine → Bool
  | .comment _ => true
  | .text _ => false

/-- The line ends at its terminator, or with the text. -/
def EndsLine (value rest : Text) : Prop :=
  ∃ body term, value = body ++ term ∧ (∀ x ∈ body, isEol x = false) ∧
    (IsTerminator term rest ∨ (term = [] ∧ body ≠ [] ∧ rest = []))

theorem isEol_of_mem_takeWhile {s : Text} {x : Char} (hx : x ∈ s.takeWhile notEol) :
    isEol x = false := by
  have h := List.mem_takeWhile_imp hx
  simpa [notEol] using h

theorem run_endDef (s : Text) : endDef.run noSkip s = eol.run noSkip s := run_lexeme eol

/-- A body without terminators, up to one. -/
theorem endsLine_of_eol {a s term r : Text} (ha : ∀ x ∈ a, isEol x = false)
    (h : eol.run noSkip (s.dropWhile notEol) = some (term, r)) :
    a ++ s = a ++ (s.takeWhile notEol ++ term) ++ r ∧
      EndsLine (a ++ (s.takeWhile notEol ++ term)) r := by
  obtain ⟨hrest, hterm⟩ := run_eol.mp h
  constructor
  · rw [List.append_assoc, List.append_assoc, ← hrest, List.takeWhile_append_dropWhile]
  · refine ⟨a ++ s.takeWhile notEol, term, (List.append_assoc _ _ _).symm, ?_, .inl hterm⟩
    intro x hx
    rcases List.mem_append.mp hx with hx | hx
    · exact ha x hx
    · exact isEol_of_mem_takeWhile hx

/-- A body without terminators, up to the end. -/
theorem endsLine_of_nil {a s : Text} (ha : ∀ x ∈ a, isEol x = false)
    (hne : a ++ s.takeWhile notEol ≠ []) (h : s.dropWhile notEol = []) :
    a ++ s = a ++ s.takeWhile notEol ∧ EndsLine (a ++ s.takeWhile notEol) [] := by
  constructor
  · have hs := List.takeWhile_append_dropWhile (p := notEol) (l := s)
    rw [h, List.append_nil] at hs
    rw [hs]
  · refine ⟨_, [], (List.append_nil _).symm, ?_, .inr ⟨rfl, hne, rfl⟩⟩
    intro x hx
    rcases List.mem_append.mp hx with hx | hx
    · exact ha x hx
    · exact isEol_of_mem_takeWhile hx

/-- A comment starts with two dashes and ends as a line does. -/
theorem run_comment {s r : Text} {l : QueryLine} (h : comment.run noSkip s = some (l, r)) :
    s = l.value ++ r ∧ EndsLine l.value r ∧ l.isComment = true ∧ "--".toList <+: l.value := by
  obtain ⟨⟨dashes, body, term⟩, hrun, rfl⟩ := run_map.mp h
  rw [run_lexeme] at hrun
  obtain ⟨s₁, hdashes, hrun⟩ := run_seq.mp hrun
  obtain ⟨s₂, hbody, hend⟩ := run_seq.mp hrun
  obtain ⟨rfl, rfl⟩ := run_string.mp hdashes
  rw [isClass_notEol.run_star] at hbody
  cases hbody
  have hdashes : ∀ x ∈ "--".toList, isEol x = false := by simp [isEol]
  have hvalue : ∀ t, "--".toList <+: "--".toList ++ t := List.prefix_append _
  -- the line ends with its terminator or with the text
  rcases run_alt.mp hend with hterm | ⟨-, hend⟩
  · rw [run_endDef] at hterm
    obtain ⟨hs, hline⟩ := endsLine_of_eol hdashes hterm
    exact ⟨hs, hline, rfl, hvalue _⟩
  · obtain ⟨u, heoi, rfl⟩ := run_map.mp hend
    obtain ⟨hnil, rfl⟩ := run_eoi.mp heoi
    obtain ⟨hs, hline⟩ := endsLine_of_nil hdashes (by simp) hnil
    simp only [QueryLine.value, List.append_nil]
    exact ⟨hs, hline, rfl, hvalue _⟩

/-- Every line that starts so is taken for a comment. -/
theorem isSome_comment {s : Text} (h : "--".toList <+: s) :
    ∃ l r, comment.run noSkip s = some (l, r) := by
  obtain ⟨s₁, rfl⟩ := h
  have hend : ∃ term r, (endDef.alt (eoi.map fun _ => [])).run noSkip (s₁.dropWhile notEol) =
      some (term, r) := by
    rcases eol_dropWhile s₁ with hnil | ⟨term, r, hterm⟩
    · rw [hnil]
      exact ⟨[], [], rfl⟩
    · exact ⟨term, r, run_alt.mpr (.inl ((run_endDef _).trans hterm))⟩
  obtain ⟨term, r, hend⟩ := hend
  refine ⟨_, r, run_map.mpr ⟨("--".toList, s₁.takeWhile notEol, term), ?_, rfl⟩⟩
  rw [run_lexeme]
  exact run_seq.mpr ⟨s₁, run_string.mpr ⟨rfl, rfl⟩,
    run_seq.mpr ⟨s₁.dropWhile notEol, isClass_notEol.run_star s₁, hend⟩⟩

/-- A line of text with its terminator. -/
theorem run_text {s r : Text} {l : QueryLine} (h : text.run noSkip s = some (l, r)) :
    s = l.value ++ r ∧ EndsLine l.value r ∧ l.isComment = false := by
  obtain ⟨⟨body, term⟩, hrun, rfl⟩ := run_map.mp h
  rw [run_lexeme] at hrun
  obtain ⟨s₁, hbody, hend⟩ := run_seq.mp hrun
  rw [isClass_notEol.run_star] at hbody
  cases hbody
  rw [run_endDef] at hend
  obtain ⟨hs, hline⟩ := endsLine_of_eol (a := []) nofun hend
  exact ⟨hs, hline, rfl⟩

/-- The last line, which may have none. -/
theorem run_lastText {s r : Text} {l : QueryLine} (h : lastText.run noSkip s = some (l, r)) :
    s = l.value ++ r ∧ EndsLine l.value r ∧ l.isComment = false := by
  obtain ⟨⟨l, u⟩, hrun, rfl⟩ := run_map.mp h
  obtain ⟨s₁, hbody, hend⟩ := run_seq.mp hrun
  obtain ⟨body, hplus, rfl⟩ := run_map.mp hbody
  rw [run_lexeme] at hplus
  obtain ⟨rfl, rfl, hne⟩ := isClass_notEol.run_plus.mp hplus
  obtain ⟨hnil, rfl⟩ := run_eoi.mp hend
  obtain ⟨hs, hline⟩ := endsLine_of_nil (a := []) nofun hne hnil
  simp only [QueryLine.value, List.append_nil]
  exact ⟨hs, hline, rfl⟩

/-- Where there is something left, there is a line. -/
theorem isSome_text {s : Text} (h : s ≠ []) :
    ∃ l r, (text.alt lastText).run noSkip s = some (l, r) := by
  rcases eol_dropWhile s with hnil | ⟨term, r, hterm⟩
  · have hbody : s.takeWhile notEol = s := by
      have hs := List.takeWhile_append_dropWhile (p := notEol) (l := s)
      rwa [hnil, List.append_nil] at hs
    have hlast : lastText.run noSkip s = some (.text s, []) := by
      refine run_map.mpr ⟨(.text s, ()), run_seq.mpr ⟨[], run_map.mpr ⟨s, ?_, rfl⟩, rfl⟩, rfl⟩
      rw [run_lexeme]
      exact isClass_notEol.run_plus.mpr ⟨hbody.symm, hnil.symm, by rwa [hbody]⟩
    cases htext : text.run noSkip s with
    | none => exact ⟨_, _, run_alt.mpr (.inr ⟨htext, hlast⟩)⟩
    | some x => exact ⟨x.1, x.2, run_alt.mpr (.inl htext)⟩
  · refine ⟨_, r, run_alt.mpr (.inl (run_map.mpr ⟨(s.takeWhile notEol, term), ?_, rfl⟩))⟩
    rw [run_lexeme]
    exact run_seq.mpr ⟨s.dropWhile notEol, isClass_notEol.run_star s, (run_endDef _).trans hterm⟩

/-- A line is what goes up to its end, and a comment if it starts with two dashes. -/
theorem run_lineDef {s r : Text} {l : QueryLine} (h : lineDef.run noSkip s = some (l, r)) :
    s = l.value ++ r ∧ EndsLine l.value r ∧ (l.isComment = true ↔ "--".toList <+: l.value) := by
  rcases run_alt.mp h with hcomment | ⟨hnone, htext⟩
  · obtain ⟨hs, hline, hl, hdashes⟩ := run_comment hcomment
    exact ⟨hs, hline, iff_of_true hl hdashes⟩
  · have hspec : s = l.value ++ r ∧ EndsLine l.value r ∧ l.isComment = false := by
      rcases run_alt.mp htext with htext | ⟨-, hlast⟩
      · exact run_text htext
      · exact run_lastText hlast
    obtain ⟨hs, hline, hl⟩ := hspec
    refine ⟨hs, hline, iff_of_false (by simp [hl]) fun hdashes => ?_⟩
    obtain ⟨l', r', hcomment⟩ := isSome_comment (hs ▸ hdashes.trans (List.prefix_append _ r))
    simp [hnone] at hcomment

/-- There is a line wherever there is text. -/
theorem lineDef_eq_none {s : Text} (h : lineDef.run noSkip s = none) : s = [] := by
  by_contra hne
  obtain ⟨l, r, htext⟩ := isSome_text hne
  obtain ⟨-, hnone⟩ := run_alt_eq_none.mp h
  simp [hnone] at htext

/-! ## All lines -/

/-- The lines of a text: nothing is lost, each of them ends as a line does, and the comments are
those that start with two dashes. -/
structure IsLines (conf : Text) (lines : List QueryLine) : Prop where
  flatMap_value : lines.flatMap QueryLine.value = conf
  endsLine : ∀ pre l post, lines = pre ++ l :: post →
    EndsLine l.value (post.flatMap QueryLine.value)
  isComment_iff : ∀ l ∈ lines, l.isComment = true ↔ "--".toList <+: l.value

theorem IsLines.cons {s : Text} {l : QueryLine} {lines : List QueryLine} (h : IsLines s lines)
    (hline : EndsLine l.value s) (hcomment : l.isComment = true ↔ "--".toList <+: l.value) :
    IsLines (l.value ++ s) (l :: lines) where
  flatMap_value := by rw [List.flatMap_cons, h.flatMap_value]
  endsLine := by
    intro pre l' post heq
    cases pre with
    | nil =>
        obtain ⟨rfl, rfl⟩ := List.cons.inj heq
        rwa [h.flatMap_value]
    | cons x pre =>
        obtain ⟨-, heq⟩ := List.cons.inj heq
        exact h.endsLine pre l' post heq
  isComment_iff := by
    intro l' hl'
    rcases List.mem_cons.mp hl' with rfl | hl'
    · exact hcomment
    · exact h.isComment_iff l' hl'

/-- The repetition takes all lines, so nothing is left. -/
theorem isLines_of_repeats {s r : Text} {lines : List QueryLine}
    (h : Repeats (lineDef.run noSkip) s lines r) : r = [] ∧ IsLines s lines := by
  induction h with
  | stop hnone =>
      obtain rfl := lineDef_eq_none hnone
      exact ⟨rfl, rfl, by simp, by simp⟩
  | more hsome _ ih =>
      obtain ⟨rfl, hline, hcomment⟩ := run_lineDef hsome
      exact ⟨ih.1, ih.2.cons hline hcomment⟩

/-- Splitting into lines never fails. -/
theorem parseQueryConfLines_eq_ok {conf : Text} (hconf : '\x00' ∉ conf) :
    ∃ lines, parseQueryConfLines conf = .ok lines ∧ IsLines conf lines := by
  obtain ⟨⟨lines, r⟩, hstar⟩ : ∃ x, lineDef.star.run noSkip conf = some x := ⟨_, rfl⟩
  obtain ⟨rfl, hlines⟩ := isLines_of_repeats (run_star_iff.mp hstar)
  have hrun : confDef.run noSkip conf = some (lines, []) :=
    run_map.mpr ⟨(lines, ()), run_seq.mpr ⟨[], hstar, rfl⟩, rfl⟩
  refine ⟨lines, ?_, hlines⟩
  unfold parseQueryConfLines
  rw [phraseParse_eq _ (unskipped_of_notMem hconf), phraseParse, hrun]
  rfl

end OzoPg.QueryConf
