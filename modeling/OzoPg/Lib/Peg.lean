import Mathlib.Data.List.Basic
import Mathlib.Data.List.TakeWhile

/-!
# Parsing expressions

Parsers over a list of symbols with ordered choice, greedy repetition and a skipper, which every
primitive applies first and `lexeme` turns off. The type of a parser says whether its successes
consume something: only such a parser can be repeated, so every repetition ends.

The laws are fields of `Parser`, proved once for each combinator:

* the rest of a success is a suffix of the input, a shorter one if the parser consumes;
* on an input with nothing to skip the skipper makes no difference.

`Repeats` says what a repetition does, and is the way to reason about one by induction.
-/

namespace OzoPg.Peg

variable {τ α β : Type}

/-- A skipper that skips nothing. -/
def noSkip : τ → Bool := fun _ => false

@[simp] theorem dropWhile_noSkip (s : List τ) : s.dropWhile noSkip = s := by
  cases s with
  | nil => rfl
  | cons x s => simp [noSkip]

/-- There is nothing to skip. -/
def Unskipped (skip : τ → Bool) (s : List τ) : Prop := ∀ x ∈ s, skip x = false

theorem Unskipped.of_suffix {skip : τ → Bool} {s r : List τ} (h : Unskipped skip s)
    (hr : r <:+ s) : Unskipped skip r :=
  fun x hx => h x (hr.subset hx)

theorem Unskipped.dropWhile_eq {skip : τ → Bool} {s : List τ} (h : Unskipped skip s) :
    s.dropWhile skip = s := by
  cases s with
  | nil => rfl
  | cons x s => simp [h x List.mem_cons_self]

/-- A parser with an attribute of type `α`, run with a skipper. With `c = true` every success
consumes at least one symbol. -/
structure Parser (τ : Type) (c : Bool) (α : Type) where
  run : (τ → Bool) → List τ → Option (α × List τ)
  suffix : ∀ {skip s a r}, run skip s = some (a, r) → r <:+ s
  consumes : ∀ {skip s a r}, c = true → run skip s = some (a, r) → r.length < s.length
  run_eq : ∀ {skip s}, Unskipped skip s → run skip s = run noSkip s

namespace Parser

variable {c d : Bool} {skip : τ → Bool} {s r : List τ}

/-! ## Primitives -/

/-- One symbol of a class. -/
def satisfy (f : τ → Bool) : Parser τ true τ where
  run skip s :=
    match s.dropWhile skip with
    | [] => none
    | x :: r => if f x then some (x, r) else none
  suffix := by
    intro skip s a r h
    split at h
    · cases h
    · next x r' heq =>
        obtain ⟨hx, ⟨⟩⟩ := Option.ite_none_right_eq_some.mp h
        exact (List.suffix_cons _ _).trans (heq ▸ List.dropWhile_suffix skip)
  consumes := by
    intro skip s a r _ h
    split at h
    · cases h
    · next x r' heq =>
        obtain ⟨hx, ⟨⟩⟩ := Option.ite_none_right_eq_some.mp h
        have hlen := (List.dropWhile_suffix (l := s) skip).length_le
        rw [heq, List.length_cons] at hlen
        omega
  run_eq := by
    intro skip s h
    rw [h.dropWhile_eq, dropWhile_noSkip]

/-- A given list of symbols. -/
def string [BEq τ] [LawfulBEq τ] (str : List τ) : Parser τ (!str.isEmpty) (List τ) where
  run skip s := ((s.dropWhile skip).dropPrefix? str).map fun r => (str, r)
  suffix := by
    intro skip s a r h
    obtain ⟨r', hr', ⟨⟩⟩ := Option.map_eq_some_iff.mp h
    obtain ⟨p, hp, -⟩ := List.dropPrefix?_eq_some_iff.mp hr'
    exact (List.suffix_append p r).trans (hp ▸ List.dropWhile_suffix skip)
  consumes := by
    intro skip s a r hc h
    obtain ⟨r', hr', ⟨⟩⟩ := Option.map_eq_some_iff.mp h
    obtain ⟨p, hp, heq⟩ := List.dropPrefix?_eq_some_iff.mp hr'
    have hlen := (List.dropWhile_suffix (l := s) skip).length_le
    have hne : p ≠ [] := by
      rintro rfl
      simp [eq_of_beq heq] at hc
    have hpos := List.length_pos_iff.mpr hne
    rw [hp, List.length_append] at hlen
    omega
  run_eq := by
    intro skip s h
    rw [h.dropWhile_eq, dropWhile_noSkip]

/-- The end of the input. -/
def eoi : Parser τ false Unit where
  run skip s := if (s.dropWhile skip).isEmpty then some ((), []) else none
  suffix := by
    intro skip s a r h
    obtain ⟨-, ⟨⟩⟩ := Option.ite_none_right_eq_some.mp h
    exact List.nil_suffix
  consumes := nofun
  run_eq := by
    intro skip s h
    rw [h.dropWhile_eq, dropWhile_noSkip]

/-! ## Combinators -/

/-- A semantic action on the attribute. -/
def map (f : α → β) (p : Parser τ c α) : Parser τ c β where
  run skip s := (p.run skip s).map fun x => (f x.1, x.2)
  suffix := by
    intro skip s b r h
    obtain ⟨⟨a, r'⟩, hp, ⟨⟩⟩ := Option.map_eq_some_iff.mp h
    exact p.suffix hp
  consumes := by
    intro skip s b r hc h
    obtain ⟨⟨a, r'⟩, hp, ⟨⟩⟩ := Option.map_eq_some_iff.mp h
    exact p.consumes hc hp
  run_eq := by
    intro skip s h
    rw [p.run_eq h]

/-- `p >> q`. -/
def seq (p : Parser τ c α) (q : Parser τ d β) : Parser τ (c || d) (α × β) where
  run skip s := (p.run skip s).bind fun x => (q.run skip x.2).map fun y => ((x.1, y.1), y.2)
  suffix := by
    intro skip s ab r h
    obtain ⟨⟨a, t⟩, hp, h⟩ := Option.bind_eq_some_iff.mp h
    obtain ⟨⟨b, r'⟩, hq, ⟨⟩⟩ := Option.map_eq_some_iff.mp h
    exact (q.suffix hq).trans (p.suffix hp)
  consumes := by
    intro skip s ab r hc h
    obtain ⟨⟨a, t⟩, hp, h⟩ := Option.bind_eq_some_iff.mp h
    obtain ⟨⟨b, r'⟩, hq, ⟨⟩⟩ := Option.map_eq_some_iff.mp h
    rcases Bool.or_eq_true_iff.mp hc with hc | hd
    · exact (q.suffix hq).length_le.trans_lt (p.consumes hc hp)
    · exact (q.consumes hd hq).trans_le (p.suffix hp).length_le
  run_eq := by
    intro skip s h
    rw [p.run_eq h]
    -- what `p` leaves has nothing to skip either
    apply Option.bind_congr
    rintro ⟨a, t⟩ hp
    rw [q.run_eq (h.of_suffix (p.suffix hp))]

/-- `p | q`, where `q` is tried when `p` fails. -/
def alt (p : Parser τ c α) (q : Parser τ d α) : Parser τ (c && d) α where
  run skip s := (p.run skip s).or (q.run skip s)
  suffix := by
    intro skip s a r h
    rcases Option.or_eq_some_iff.mp h with hp | ⟨-, hq⟩
    · exact p.suffix hp
    · exact q.suffix hq
  consumes := by
    intro skip s a r hc h
    obtain ⟨hc, hd⟩ := Bool.and_eq_true_iff.mp hc
    rcases Option.or_eq_some_iff.mp h with hp | ⟨-, hq⟩
    · exact p.consumes hc hp
    · exact q.consumes hd hq
  run_eq := by
    intro skip s h
    rw [p.run_eq h, q.run_eq h]

/-- `p - q`, which fails where `q` succeeds. -/
def diff (p : Parser τ c α) (q : Parser τ d β) : Parser τ c α where
  run skip s := if (q.run skip s).isSome then none else p.run skip s
  suffix := by
    intro skip s a r h
    obtain ⟨-, h⟩ := Option.ite_none_left_eq_some.mp h
    exact p.suffix h
  consumes := by
    intro skip s a r hc h
    obtain ⟨-, h⟩ := Option.ite_none_left_eq_some.mp h
    exact p.consumes hc h
  run_eq := by
    intro skip s h
    rw [p.run_eq h, q.run_eq h]

/-- `-p`. -/
def opt (p : Parser τ c α) : Parser τ false (Option α) where
  run skip s :=
    match p.run skip s with
    | some (a, r) => some (some a, r)
    | none => some (none, s)
  suffix := by
    intro skip s a r h
    split at h
    · next hp =>
        cases h
        exact p.suffix hp
    · cases h
      exact List.suffix_refl s
  consumes := nofun
  run_eq := by
    intro skip s h
    rw [p.run_eq h]

/-- `lexeme[p]`: the skipper is applied once, before `p`. -/
def lexeme (p : Parser τ c α) : Parser τ c α where
  run skip s := p.run noSkip (s.dropWhile skip)
  suffix h := (p.suffix h).trans (List.dropWhile_suffix _)
  consumes hc h := (p.consumes hc h).trans_le (List.dropWhile_suffix _).length_le
  run_eq := by
    intro skip s h
    rw [h.dropWhile_eq, dropWhile_noSkip]

end Parser

/-! ## Repetition

A parser that consumes can be repeated for as long as there is input, so the loop needs no more
rounds than there are symbols. `Repeats` is the same without the bound. -/

/-- `run` succeeds with the attributes `as` one after another and then fails at the rest. -/
inductive Repeats (run : List τ → Option (α × List τ)) : List τ → List α → List τ → Prop where
  | stop {s : List τ} (h : run s = none) : Repeats run s [] s
  | more {s r t : List τ} {a : α} {as : List α} (h : run s = some (a, r))
      (hr : Repeats run r as t) : Repeats run s (a :: as) t

/-- The loop of a repetition; a run that consumes needs no more rounds than there are symbols. -/
def starLoop (run : List τ → Option (α × List τ)) : Nat → List τ → List α × List τ
  | 0, s => ([], s)
  | n + 1, s =>
    match run s with
    | none => ([], s)
    | some (a, r) => (a :: (starLoop run n r).1, (starLoop run n r).2)

/-- With as many rounds as there are symbols the loop comes to an end by itself. -/
theorem repeats_starLoop {run : List τ → Option (α × List τ)}
    (hrun : ∀ {s a r}, run s = some (a, r) → r.length < s.length) {n : Nat} {s : List τ}
    (hn : s.length ≤ n) : Repeats run s (starLoop run n s).1 (starLoop run n s).2 := by
  induction n generalizing s with
  | zero =>
      apply Repeats.stop
      cases hs : run s with
      | none => rfl
      | some x =>
          have := hrun hs
          omega
  | succ n ih =>
      unfold starLoop
      cases hs : run s with
      | none => exact .stop hs
      | some x =>
          have := hrun hs
          exact .more hs (ih (by omega))

/-- A repetition has one outcome. -/
theorem Repeats.unique {run : List τ → Option (α × List τ)} {s r r' : List τ} {as as' : List α}
    (h : Repeats run s as r) (h' : Repeats run s as' r') : as = as' ∧ r = r' := by
  induction h generalizing as' r' with
  | stop hnone =>
      cases h' with
      | stop => exact ⟨rfl, rfl⟩
      | more hsome => simp [hnone] at hsome
  | more hsome _ ih =>
      cases h' with
      | stop hnone => simp [hnone] at hsome
      | more hsome' hr' =>
          obtain ⟨⟨⟩⟩ := Option.some.inj (hsome.symm.trans hsome')
          obtain ⟨rfl, rfl⟩ := ih hr'
          exact ⟨rfl, rfl⟩

namespace Parser

variable {c d : Bool} {skip : τ → Bool} {s r : List τ}

theorem Repeats.suffix {p : Parser τ c α} {as : List α} (h : Repeats (p.run skip) s as r) :
    r <:+ s := by
  induction h with
  | stop => exact List.suffix_refl _
  | more hsome _ ih => exact ih.trans (p.suffix hsome)

/-- Where there is nothing to skip the skipper does not matter. -/
theorem Repeats.run_eq {p : Parser τ c α} {as : List α} (h : Repeats (p.run skip) s as r)
    (hs : Unskipped skip s) : Repeats (p.run noSkip) s as r := by
  induction h with
  | stop hnone => exact .stop (p.run_eq hs ▸ hnone)
  | more hsome _ ih =>
      exact .more (p.run_eq hs ▸ hsome) (ih (hs.of_suffix (p.suffix hsome)))

/-- `*p`. -/
def star (p : Parser τ true α) : Parser τ false (List α) where
  run skip s := some (starLoop (p.run skip) s.length s)
  suffix := by
    intro skip s as r h
    have hloop : Repeats (p.run skip) s _ _ := repeats_starLoop (p.consumes rfl) le_rfl
    rw [Option.some.inj h] at hloop
    exact Repeats.suffix hloop
  consumes := nofun
  run_eq := by
    intro skip s h
    have hskip : Repeats (p.run skip) s _ _ := repeats_starLoop (p.consumes rfl) le_rfl
    have hnoSkip : Repeats (p.run noSkip) s _ _ := repeats_starLoop (p.consumes rfl) le_rfl
    obtain ⟨has, hr⟩ := (Repeats.run_eq hskip h).unique hnoSkip
    rw [Prod.ext has hr]

/-- `+p`. -/
def plus (p : Parser τ true α) : Parser τ true (List α) :=
  (p.seq p.star).map fun x => x.1 :: x.2

/-- A repetition is as long as possible. -/
theorem run_star_iff {p : Parser τ true α} {as : List α} :
    p.star.run skip s = some (as, r) ↔ Repeats (p.run skip) s as r := by
  have hloop : Repeats (p.run skip) s _ _ := repeats_starLoop (p.consumes rfl) le_rfl
  constructor
  · intro h
    rwa [Option.some.inj h] at hloop
  · intro h
    obtain ⟨has, hr⟩ := hloop.unique h
    exact congrArg some (Prod.ext has hr)

/-- Parsing a whole input: the attribute of a success. -/
def phraseParse (p : Parser τ c α) (skip : τ → Bool) (s : List τ) : Option α :=
  (p.run skip s).map Prod.fst

/-! ## Without a skipper

Inputs with nothing to skip are parsed as without a skipper. One equivalence for each combinator, to
be read from left to right. -/

/-- The same for whole inputs. -/
theorem phraseParse_eq (p : Parser τ c α) (h : Unskipped skip s) :
    p.phraseParse skip s = p.phraseParse noSkip s := by
  unfold phraseParse
  rw [p.run_eq h]

theorem run_satisfy {f : τ → Bool} {x : τ} :
    (satisfy f).run noSkip s = some (x, r) ↔ s = x :: r ∧ f x = true := by
  simp only [satisfy, dropWhile_noSkip]
  cases s with
  | nil => simp
  | cons y s =>
      simp only [Option.ite_none_right_eq_some, Option.some.injEq, Prod.mk.injEq, List.cons.injEq]
      constructor
      · rintro ⟨hy, rfl, rfl⟩
        exact ⟨⟨rfl, rfl⟩, hy⟩
      · rintro ⟨⟨rfl, rfl⟩, hy⟩
        exact ⟨hy, rfl, rfl⟩

theorem run_string [BEq τ] [LawfulBEq τ] {str a : List τ} :
    (string str).run noSkip s = some (a, r) ↔ a = str ∧ s = str ++ r := by
  simp only [string, dropWhile_noSkip, Option.map_eq_some_iff, List.dropPrefix?_eq_some_iff,
    beq_iff_eq, Prod.mk.injEq]
  constructor
  · rintro ⟨r', ⟨p, rfl, rfl⟩, rfl, rfl⟩
    exact ⟨rfl, rfl⟩
  · rintro ⟨rfl, rfl⟩
    exact ⟨r, ⟨a, rfl, rfl⟩, rfl, rfl⟩

theorem run_string_eq_none [BEq τ] [LawfulBEq τ] {str : List τ} :
    (string str).run noSkip s = none ↔ ¬ str <+: s := by
  rw [Option.eq_none_iff_forall_ne_some, Prod.forall]
  constructor
  · rintro h ⟨r, rfl⟩
    exact h str r (run_string.mpr ⟨rfl, rfl⟩)
  · intro h a r hrun
    obtain ⟨-, rfl⟩ := run_string.mp hrun
    exact h (List.prefix_append str r)

theorem run_eoi {u : Unit} : eoi.run noSkip s = some (u, r) ↔ s = [] ∧ r = [] := by
  simp only [eoi, dropWhile_noSkip, List.isEmpty_iff, Option.ite_none_right_eq_some,
    Option.some.injEq, Prod.mk.injEq, true_and]
  exact and_congr_right fun _ => eq_comm

theorem run_lexeme (p : Parser τ c α) : p.lexeme.run noSkip s = p.run noSkip s := by
  simp [lexeme]

theorem run_map {f : α → β} {p : Parser τ c α} {b : β} :
    (p.map f).run skip s = some (b, r) ↔ ∃ a, p.run skip s = some (a, r) ∧ f a = b := by
  simp [map]

theorem run_map_eq_none {f : α → β} {p : Parser τ c α} :
    (p.map f).run skip s = none ↔ p.run skip s = none :=
  Option.map_eq_none_iff

theorem run_seq {p : Parser τ c α} {q : Parser τ d β} {a : α} {b : β} :
    (p.seq q).run skip s = some ((a, b), r) ↔
      ∃ t, p.run skip s = some (a, t) ∧ q.run skip t = some (b, r) := by
  simp [seq, Option.bind_eq_some_iff]

/-- Choice is ordered. -/
theorem run_alt {p : Parser τ c α} {q : Parser τ d α} {a : α} :
    (p.alt q).run skip s = some (a, r) ↔
      p.run skip s = some (a, r) ∨ (p.run skip s = none ∧ q.run skip s = some (a, r)) :=
  Option.or_eq_some_iff

theorem run_alt_eq_none {p : Parser τ c α} {q : Parser τ d α} :
    (p.alt q).run skip s = none ↔ p.run skip s = none ∧ q.run skip s = none :=
  Option.or_eq_none_iff

theorem run_opt {p : Parser τ c α} {x : Option α} :
    p.opt.run skip s = some (x, r) ↔
      (∃ a, x = some a ∧ p.run skip s = some (a, r)) ∨
        (x = none ∧ p.run skip s = none ∧ s = r) := by
  simp only [opt]
  cases p.run skip s with
  | none => simp [@eq_comm _ none x]
  | some y => simp [@eq_comm _ _ x, Prod.ext_iff]

/-- One or more is not none. -/
theorem run_plus_iff {p : Parser τ true α} {as : List α} :
    p.plus.run skip s = some (as, r) ↔ Repeats (p.run skip) s as r ∧ as ≠ [] := by
  unfold plus
  rw [run_map, Prod.exists]
  constructor
  · rintro ⟨a, as, hrun, rfl⟩
    obtain ⟨t, ha, has⟩ := run_seq.mp hrun
    exact ⟨.more ha (run_star_iff.mp has), List.cons_ne_nil a as⟩
  · rintro ⟨hrepeats, hne⟩
    cases hrepeats with
    | stop => exact absurd rfl hne
    | more ha has => exact ⟨_, _, run_seq.mpr ⟨_, ha, run_star_iff.mpr has⟩, rfl⟩

theorem run_plus_eq_none {p : Parser τ true α} :
    p.plus.run skip s = none ↔ p.run skip s = none := by
  cases hp : p.run skip s with
  | none => simp [plus, map, seq, hp]
  | some x => simp [plus, map, seq, hp, star]

/-- The parser takes one symbol of the class `f`. -/
def IsClass (f : τ → Bool) (p : Parser τ c τ) : Prop :=
  ∀ s, p.run noSkip s = (satisfy f).run noSkip s

/-- Whether the parser succeeds is seen from the first symbol. -/
def Guards (f : τ → Bool) (p : Parser τ c α) : Prop :=
  ∀ s, (p.run noSkip s).isSome = s.head?.any f

theorem isClass_satisfy (f : τ → Bool) : IsClass f (satisfy f) := fun _ => rfl

theorem IsClass.guards {f : τ → Bool} {p : Parser τ c τ} (h : IsClass f p) : Guards f p := by
  intro s
  rw [h s]
  cases s with
  | nil => rfl
  | cons x s =>
      simp only [satisfy, dropWhile_noSkip, List.head?_cons, Option.any_some]
      cases f x <;> rfl

/-- A class without what another parser would start with is a class. -/
theorem IsClass.diff {f g : τ → Bool} {p : Parser τ c τ} {q : Parser τ d α} (hp : IsClass f p)
    (hq : Guards g q) : IsClass (fun x => !g x && f x) (p.diff q) := by
  intro s
  simp only [Parser.diff, hq s, hp s]
  cases s with
  | nil => rfl
  | cons x s =>
      simp only [satisfy, dropWhile_noSkip, List.head?_cons, Option.any_some]
      by_cases hx : g x = true <;> simp [hx]

/-- A repeated class takes the longest run of its symbols. -/
theorem IsClass.run_star {f : τ → Bool} {p : Parser τ true τ} (h : IsClass f p) (s : List τ) :
    p.star.run noSkip s = some (s.takeWhile f, s.dropWhile f) := by
  rw [run_star_iff]
  induction s with
  | nil => exact .stop (h [])
  | cons x s ih =>
      cases hx : f x with
      | false =>
          rw [List.takeWhile_cons_of_neg (by simp [hx]), List.dropWhile_cons_of_neg (by simp [hx])]
          exact .stop (by simp [h (x :: s), satisfy, hx])
      | true =>
          rw [List.takeWhile_cons_of_pos hx, List.dropWhile_cons_of_pos hx]
          exact .more (by simp [h (x :: s), satisfy, hx]) ih

/-- Repeating a class takes the longest prefix in it. -/
theorem IsClass.run_plus {f : τ → Bool} {p : Parser τ true τ} (h : IsClass f p) {a : List τ} :
    p.plus.run noSkip s = some (a, r) ↔
      a = s.takeWhile f ∧ r = s.dropWhile f ∧ s.takeWhile f ≠ [] := by
  unfold plus
  cases s with
  | nil => simp [map, seq, h [], satisfy]
  | cons x s =>
      cases hx : f x with
      | false => simp [map, seq, h (x :: s), satisfy, hx]
      | true =>
          simp only [map, seq, h (x :: s), satisfy, dropWhile_noSkip, hx, if_true, Option.bind_some,
            h.run_star, Option.map_some, Option.some.injEq, Prod.mk.injEq,
            List.takeWhile_cons_of_pos hx, List.dropWhile_cons_of_pos hx, ne_eq, reduceCtorEq,
            not_false_eq_true, and_true]
          exact and_congr eq_comm eq_comm

end Parser

/-! ## Longest runs -/

/-- A run of a class that ends where the class ends is the longest one. -/
theorem takeWhile_append_eq {f : τ → Bool} {a s : List τ} (ha : ∀ x ∈ a, f x = true)
    (hs : ∀ x ∈ s.head?, f x = false) :
    (a ++ s).takeWhile f = a ∧ (a ++ s).dropWhile f = s := by
  rw [List.takeWhile_append_of_pos ha, List.dropWhile_append_of_pos ha]
  cases s with
  | nil => simp
  | cons x s => simp [hs x rfl]

/-- There is only one longest run. -/
theorem longest_unique {f : τ → Bool} {a a' s s' : List τ} (h : a ++ s = a' ++ s')
    (ha : ∀ x ∈ a, f x = true) (hs : ∀ x ∈ s.head?, f x = false) (ha' : ∀ x ∈ a', f x = true)
    (hs' : ∀ x ∈ s'.head?, f x = false) : a = a' ∧ s = s' := by
  obtain ⟨htake, hdrop⟩ := takeWhile_append_eq ha hs
  obtain ⟨htake', hdrop'⟩ := takeWhile_append_eq ha' hs'
  rw [h] at htake hdrop
  exact ⟨htake.symm.trans htake', hdrop.symm.trans hdrop'⟩

theorem head?_dropWhile_eq_false (f : τ → Bool) (s : List τ) :
    ∀ x ∈ (s.dropWhile f).head?, f x = false := by
  induction s with
  | nil => exact nofun
  | cons y s ih =>
      cases hy : f y with
      | true => simpa [hy] using ih
      | false => simp [hy]

end OzoPg.Peg
