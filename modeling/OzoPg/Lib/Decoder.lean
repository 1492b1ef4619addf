import Mathlib.Tactic.Common

/-!
# Decoders over a finite input

A decoder threads an input cursor and may fail. The cursor type is arbitrary: `mk` says which
cursor stands at the front of a given list of symbols.

* `Reads mk p used v` — `p` decodes `v` from exactly `used`, whatever follows.
* `ReadsIff mk c p used v` — that happens exactly when `c` holds.
* `Consumes mk k p input` — a success of `p` on an input consumes `k` symbols.
* `Tight mk eof p` — every success of `p` is of that form, and cutting the input anywhere
  inside `used` makes `p` fail with `eof`.

All of them are closed under sequencing, so a recursive decoder has them as soon as its primitive
reads do.
-/

namespace OzoPg

/-- A decoder: a state-passing computation over a cursor that may throw. -/
abbrev Decoder (σ ε α : Type) := StateT σ (Except ε) α

namespace Decoder

variable {σ ε β α γ : Type}

/-! ## Running a sequence -/

theorem bind_of_ok {p : Decoder σ ε α} {f : α → Decoder σ ε γ} {s t : σ} {a : α}
    (h : p s = .ok (a, t)) : (p >>= f) s = f a t := by
  show (p s >>= fun x => f x.1 x.2) = f a t
  rw [h]
  rfl

theorem bind_of_error {p : Decoder σ ε α} {f : α → Decoder σ ε γ} {s : σ} {e : ε}
    (h : p s = .error e) : (p >>= f) s = .error e := by
  show (p s >>= fun x => f x.1 x.2) = .error e
  rw [h]
  rfl

/-- A sequence succeeds when both of its parts do. -/
theorem bind_eq_ok {p : Decoder σ ε α} {f : α → Decoder σ ε γ} {s u : σ} {b : γ} :
    (p >>= f) s = .ok (b, u) ↔ ∃ a t, p s = .ok (a, t) ∧ f a t = .ok (b, u) := by
  constructor
  · intro h
    cases hp : p s with
    | error e => rw [bind_of_error hp] at h; cases h
    | ok r =>
        obtain ⟨a, t⟩ := r
        rw [bind_of_ok hp] at h
        exact ⟨a, t, rfl, h⟩
  · rintro ⟨a, t, hp, hf⟩
    rw [bind_of_ok hp, hf]

theorem map_eq_ok {p : Decoder σ ε α} {g : α → γ} {s t : σ} {b : γ} :
    (g <$> p) s = .ok (b, t) ↔ ∃ a, p s = .ok (a, t) ∧ g a = b := by
  show (p s >>= fun x => Pure.pure (g x.1, x.2)) = .ok (b, t) ↔ _
  cases hp : p s with
  | error e => exact iff_of_false nofun (fun ⟨_, h, _⟩ => nomatch h)
  | ok r =>
      obtain ⟨a, u⟩ := r
      constructor
      · intro h
        cases h
        exact ⟨a, rfl, rfl⟩
      · rintro ⟨a', h, rfl⟩
        cases h
        rfl

/-- A last `return` maps the result. -/
theorem bind_pure_eq_map (p : Decoder σ ε α) (g : α → γ) :
    (p >>= fun a => Pure.pure (g a)) = g <$> p := rfl

@[simp] theorem pure_apply (a : α) (s : σ) : (pure a : Decoder σ ε α) s = .ok (a, s) := rfl

@[simp] theorem throw_apply (e : ε) (s : σ) : (throw e : Decoder σ ε α) s = .error e := rfl

/-! ## Reading a value from a prefix -/

variable (mk : List β → σ)

/-- `p` decodes `v` from the prefix `used` and stops right behind it. -/
def Reads (p : Decoder σ ε α) (used : List β) (v : α) : Prop :=
  ∀ rest, p (mk (used ++ rest)) = .ok (v, mk rest)

theorem Reads.pure (v : α) : Reads mk (Pure.pure v : Decoder σ ε α) [] v := fun _ => rfl

variable {mk}

/-- Prefixes are read one behind the other. -/
theorem Reads.bind {p : Decoder σ ε α} {f : α → Decoder σ ε γ} {used used' : List β} {a : α}
    {v : γ} (hp : Reads mk p used a) (hf : Reads mk (f a) used' v) :
    Reads mk (p >>= f) (used ++ used') v := by
  intro rest
  rw [List.append_assoc, bind_of_ok (hp (used' ++ rest))]
  exact hf rest

theorem Reads.map {p : Decoder σ ε α} {used : List β} {a : α} (hp : Reads mk p used a)
    (g : α → γ) : Reads mk (g <$> p) used (g a) := by
  intro rest
  show (p (mk (used ++ rest)) >>= fun x => Pure.pure (g x.1, x.2)) = _
  rw [hp rest]
  rfl

/-! ## Reading a value under a condition

A round trip that may fail: the condition is exact if the value is not read back without it either.
-/

/-- `p` decodes `v` from the prefix `used` when `c` holds; when it does not, `p` never makes `v`
of an input that starts with `used`. -/
structure ReadsIff (mk : List β → σ) (c : Prop) (p : Decoder σ ε α) (used : List β) (v : α) :
    Prop where
  reads : c → Reads mk p used v
  never : ¬ c → ∀ rest t, p (mk (used ++ rest)) ≠ .ok (v, t)

/-- The condition decides whether the value is read back. -/
theorem ReadsIff.iff {c : Prop} {p : Decoder σ ε α} {used : List β} {v : α}
    (h : ReadsIff mk c p used v) : Reads mk p used v ↔ c := by
  refine ⟨?_, h.reads⟩
  intro hread
  by_contra hc
  exact h.never hc [] (mk []) (hread [])

theorem Reads.readsIff {c : Prop} {p : Decoder σ ε α} {used : List β} {v : α}
    (h : Reads mk p used v) (hc : c) : ReadsIff mk c p used v :=
  ⟨fun _ => h, fun hnot => absurd hc hnot⟩

theorem ReadsIff.congr {c c' : Prop} {p : Decoder σ ε α} {used : List β} {v : α}
    (h : ReadsIff mk c p used v) (hc : c' ↔ c) : ReadsIff mk c' p used v :=
  ⟨fun hc' => h.reads (hc.mp hc'), fun hnot => h.never fun hc' => hnot (hc.mpr hc')⟩

/-- `hinj`: what comes after cannot make `v` of anything but `a`. -/
theorem ReadsIff.bind {c d : Prop} {p : Decoder σ ε α} {f : α → Decoder σ ε γ}
    {used used' : List β} {a : α} {v : γ} (hp : ReadsIff mk c p used a)
    (hf : ReadsIff mk d (f a) used' v) (hinj : ∀ a' s t, f a' s = .ok (v, t) → a' = a) :
    ReadsIff mk (c ∧ d) (p >>= f) (used ++ used') v where
  reads hc := (hp.reads hc.1).bind (hf.reads hc.2)
  never hnot rest t h := by
    rw [List.append_assoc] at h
    by_cases hc : c
    · rw [bind_of_ok (hp.reads hc (used' ++ rest))] at h
      exact hf.never (fun hd => hnot ⟨hc, hd⟩) rest t h
    · obtain ⟨a', s, hp', hf'⟩ := bind_eq_ok.mp h
      rw [hinj a' s t hf'] at hp'
      exact hp.never hc (used' ++ rest) s hp'

/-- A part that is always read back adds no condition. -/
theorem Reads.bind_readsIff {c : Prop} {p : Decoder σ ε α} {f : α → Decoder σ ε γ}
    {used used' : List β} {a : α} {v : γ} (hp : Reads mk p used a)
    (hf : ReadsIff mk c (f a) used' v) : ReadsIff mk c (p >>= f) (used ++ used') v where
  reads hc := hp.bind (hf.reads hc)
  never hnot rest t h := by
    rw [List.append_assoc, bind_of_ok (hp (used' ++ rest))] at h
    exact hf.never hnot rest t h

/-- The function must not confuse the value with another one. -/
theorem ReadsIff.map {c : Prop} {p : Decoder σ ε α} {used : List β} {a : α}
    (hp : ReadsIff mk c p used a) {g : α → γ} (hg : ∀ a', g a' = g a → a' = a) :
    ReadsIff mk c (g <$> p) used (g a) where
  reads hc := (hp.reads hc).map g
  never hnot rest t h := by
    obtain ⟨a', hp', hga⟩ := map_eq_ok.mp h
    rw [hg a' hga] at hp'
    exact hp.never hnot rest t hp'

/-! ## Consuming a known number of symbols -/

/-- A success of `p` on the input consumes exactly `k` symbols. The number may be worked out from
the input. -/
def Consumes (mk : List β → σ) (k : Nat) (p : Decoder σ ε α) (input : List β) : Prop :=
  ∀ v t, p (mk input) = .ok (v, t) → k ≤ input.length ∧ t = mk (input.drop k)

theorem Consumes.pure (v : α) (input : List β) :
    Consumes mk 0 (Pure.pure v : Decoder σ ε α) input := by
  intro w t h
  cases h
  exact ⟨Nat.zero_le _, rfl⟩

theorem Consumes.throw (k : Nat) (e : ε) (input : List β) :
    Consumes mk k (MonadExcept.throw e : Decoder σ ε α) input := by
  intro v t h
  cases h

theorem Consumes.guard {k : Nat} {c : Prop} [Decidable c] {e : ε} {p : Decoder σ ε α}
    {input : List β} (hp : ¬ c → Consumes mk k p input) :
    Consumes mk k (if c then MonadExcept.throw e else p) input := by
  split
  · exact Consumes.throw k e input
  · next hc => exact hp hc

/-- The second number may depend on what the first decoder has returned. -/
theorem Consumes.bind {k k' : Nat} {p : Decoder σ ε α} {f : α → Decoder σ ε γ} {input : List β}
    (hp : Consumes mk k p input)
    (hf : ∀ a, p (mk input) = .ok (a, mk (input.drop k)) → Consumes mk k' (f a) (input.drop k)) :
    Consumes mk (k + k') (p >>= f) input := by
  intro v t h
  obtain ⟨a, s, hp₁, hf₁⟩ := bind_eq_ok.mp h
  obtain ⟨hle, rfl⟩ := hp a s hp₁
  obtain ⟨hle', rfl⟩ := hf a hp₁ v t hf₁
  rw [List.length_drop] at hle'
  exact ⟨by omega, by rw [List.drop_drop]⟩

theorem Consumes.map {k : Nat} {p : Decoder σ ε α} {input : List β} (hp : Consumes mk k p input)
    (g : α → γ) : Consumes mk k (g <$> p) input := by
  rw [← bind_pure_eq_map]
  exact hp.bind fun a _ => Consumes.pure (g a) _

/-! ## Tight decoders

A decoder that is tight cannot be misled by a message that is cut off: it reports the end of the
input, and nothing else. -/

/-- Success consumes a prefix that alone decides the outcome, and every cut inside that prefix
is reported as `eof`. -/
def Tight (mk : List β → σ) (eof : ε) (p : Decoder σ ε α) : Prop :=
  ∀ input v t, p (mk input) = .ok (v, t) →
    ∃ used rest, input = used ++ rest ∧ t = mk rest ∧ Reads mk p used v ∧
      ∀ j < used.length, p (mk (used.take j)) = .error eof

variable {eof : ε}

theorem Tight.pure (v : α) : Tight mk eof (Pure.pure v : Decoder σ ε α) := by
  intro input w t h
  cases h
  exact ⟨[], input, rfl, rfl, Reads.pure mk v, fun j hj => absurd hj (Nat.not_lt_zero j)⟩

theorem Tight.throw (e : ε) : Tight mk eof (MonadExcept.throw e : Decoder σ ε α) := by
  intro input v t h
  cases h

/-- A cut falls into one of the two parts. -/
theorem Tight.bind {p : Decoder σ ε α} {f : α → Decoder σ ε γ} (hp : Tight mk eof p)
    (hf : ∀ a, Tight mk eof (f a)) : Tight mk eof (p >>= f) := by
  intro input v t h
  obtain ⟨a, t₁, hp₁, hf₁⟩ := bind_eq_ok.mp h
  obtain ⟨used, rest, rfl, rfl, hread, hcut⟩ := hp input a t₁ hp₁
  obtain ⟨used', rest', rfl, rfl, hread', hcut'⟩ := hf a rest v t hf₁
  refine ⟨used ++ used', rest', (List.append_assoc _ _ _).symm, rfl, hread.bind hread', ?_⟩
  intro j hj
  rcases Nat.lt_or_ge j used.length with hlt | hge
  · -- the cut falls into what `p` reads
    rw [List.take_append_of_le_length (Nat.le_of_lt hlt)]
    exact bind_of_error (hcut j hlt)
  · -- `p` still succeeds, the cut falls into what `f` reads
    rw [List.take_append, List.take_of_length_le hge, bind_of_ok (hread _)]
    apply hcut'
    rw [List.length_append] at hj
    omega

theorem Tight.map {p : Decoder σ ε α} (hp : Tight mk eof p) (g : α → γ) :
    Tight mk eof (g <$> p) := by
  rw [← bind_pure_eq_map]
  exact hp.bind fun a => Tight.pure (g a)

theorem Tight.ite {c : Prop} [Decidable c] {p q : Decoder σ ε α} (hp : Tight mk eof p)
    (hq : Tight mk eof q) : Tight mk eof (if c then p else q) := by
  split
  · exact hp
  · exact hq

/-- A tight decoder that consumes `k` symbols does so whatever follows them, and fails on every
shorter prefix. -/
theorem Tight.consumed {p : Decoder σ ε α} (hp : Tight mk eof p) {input : List β} {v : α} {t : σ}
    (h : p (mk input) = .ok (v, t)) :
    ∃ k ≤ input.length, t = mk (input.drop k) ∧
      (∀ more, p (mk (input ++ more)) = .ok (v, mk ((input ++ more).drop k))) ∧
      ∀ j < k, p (mk (input.take j)) = .error eof := by
  obtain ⟨used, rest, rfl, rfl, hread, hcut⟩ := hp input v t h
  refine ⟨used.length, by simp, by simp, ?_, ?_⟩
  · intro more
    rw [List.append_assoc, List.drop_left]
    exact hread (rest ++ more)
  · intro j hj
    rw [List.take_append_of_le_length (Nat.le_of_lt hj)]
    exact hcut j hj

end Decoder

end OzoPg
