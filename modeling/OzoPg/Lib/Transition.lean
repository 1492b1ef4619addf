import Mathlib.Tactic.Common

/-!
# Runs of a labelled transition system

A system is a partial step function on an arbitrary state type; a label the state does not
enable has no successor. A few induction rules carry every safety argument:

* `run_invariant` — what holds initially and survives each step holds after every run;
* `run_invariant_of_meets` — the same for the runs whose steps all meet a side condition;
* `run_history`, `run_history_of_meets` — the same for what a state has to do with the labels
  before it;
* `run_simulation` — when each step of a system is a run of another one, so is each of its runs.
-/

namespace OzoPg.Transition

variable {σ ℓ : Type} (step : σ → ℓ → Option σ)

/-- The state after performing the labels in order, if each of them is enabled. -/
def run : σ → List ℓ → Option σ
  | s, [] => some s
  | s, l :: ls => (step s l).bind fun t => run t ls

/-- Every step of the run of `ls` from `s` meets `ok` in the state it starts from. -/
def Meets (ok : σ → ℓ → Prop) : σ → List ℓ → Prop
  | _, [] => True
  | s, l :: ls => ok s l ∧ ∀ t, step s l = some t → Meets ok t ls

variable {step}

@[simp] theorem run_nil (s : σ) : run step s [] = some s := rfl

theorem run_cons_eq_some {s u : σ} {l : ℓ} {ls : List ℓ} :
    run step s (l :: ls) = some u ↔ ∃ t, step s l = some t ∧ run step t ls = some u := by
  rw [run, Option.bind_eq_some_iff]

/-- A run is cut anywhere. -/
theorem run_append_eq_some {s u : σ} {ls ls' : List ℓ} :
    run step s (ls ++ ls') = some u ↔
      ∃ t, run step s ls = some t ∧ run step t ls' = some u := by
  induction ls generalizing s with
  | nil => simp
  | cons l ls ih =>
      constructor
      · intro h
        obtain ⟨t, hstep, hrun⟩ := run_cons_eq_some.mp h
        obtain ⟨v, hv, hu⟩ := ih.mp hrun
        exact ⟨v, run_cons_eq_some.mpr ⟨t, hstep, hv⟩, hu⟩
      · rintro ⟨v, hv, hu⟩
        obtain ⟨t, hstep, hrun⟩ := run_cons_eq_some.mp hv
        exact run_cons_eq_some.mpr ⟨t, hstep, ih.mpr ⟨v, hrun, hu⟩⟩

/-- The invariant rule for what relates a state to the labels that led to it, for the runs whose
steps meet `ok`. -/
theorem run_history_of_meets {I : List ℓ → σ → Prop} {ok : σ → ℓ → Prop} {s : σ}
    (hstep : ∀ ls v l w, I ls v → ok v l → step v l = some w → I (ls ++ [l]) w)
    (h : I [] s) {u : σ} {ls : List ℓ} (hok : Meets step ok s ls) (hrun : run step s ls = some u) :
    I ls u := by
  -- the induction goes over the labels to come, with those of the past collected in front
  have hgen : ∀ {ls₀ v}, I ls₀ v → Meets step ok v ls → run step v ls = some u →
      I (ls₀ ++ ls) u := by
    clear hrun hok
    induction ls with
    | nil =>
        intro ls₀ v hv _ hrun
        cases hrun
        rwa [List.append_nil]
    | cons l ls ih =>
        intro ls₀ v hv hok hrun
        obtain ⟨w, hw, hu⟩ := run_cons_eq_some.mp hrun
        rw [List.append_cons]
        exact ih (hstep ls₀ v l w hv hok.1 hw) (hok.2 w hw) hu
  exact hgen h hok hrun

theorem meets_true (s : σ) (ls : List ℓ) : Meets step (fun _ _ => True) s ls := by
  induction ls generalizing s with
  | nil => trivial
  | cons l ls ih => exact ⟨trivial, fun t _ => ih t⟩

/-- The invariant rule for what relates a state to the labels that led to it. -/
theorem run_history {I : List ℓ → σ → Prop} {s : σ}
    (hstep : ∀ ls v l w, I ls v → step v l = some w → I (ls ++ [l]) w)
    (h : I [] s) {u : σ} {ls : List ℓ} (hrun : run step s ls = some u) : I ls u :=
  run_history_of_meets (fun ls v l w hv _ => hstep ls v l w hv) h (meets_true s ls) hrun

/-- The invariant rule, for the runs whose steps meet `ok`. -/
theorem run_invariant_of_meets {I : σ → Prop} {ok : σ → ℓ → Prop}
    (hstep : ∀ s l t, I s → ok s l → step s l = some t → I t) {s u : σ} {ls : List ℓ}
    (h : I s) (hok : Meets step ok s ls) (hrun : run step s ls = some u) : I u :=
  run_history_of_meets (I := fun _ => I) (fun _ => hstep) h hok hrun

/-- The invariant rule: what every step preserves, every run preserves. -/
theorem run_invariant {I : σ → Prop} (hstep : ∀ s l t, I s → step s l = some t → I t)
    {s u : σ} {ls : List ℓ} (h : I s) (hrun : run step s ls = some u) : I u :=
  run_history (I := fun _ => I) (fun _ => hstep) h hrun

/-- The simulation rule: under an invariant, an abstraction that turns each step into a run turns
runs into runs. -/
theorem run_simulation {τ m : Type} {stepA : τ → m → Option τ} {I : σ → Prop} {f : σ → τ}
    (hstep : ∀ s l t, I s → step s l = some t →
      I t ∧ ∃ ms, run stepA (f s) ms = some (f t))
    {s u : σ} {ls : List ℓ} (h : I s) (hrun : run step s ls = some u) :
    ∃ ms, run stepA (f s) ms = some (f u) := by
  induction ls generalizing s with
  | nil =>
      cases hrun
      exact ⟨[], rfl⟩
  | cons l ls ih =>
      obtain ⟨t, ht, hu⟩ := run_cons_eq_some.mp hrun
      obtain ⟨hinv, ms, hms⟩ := hstep s l t h ht
      obtain ⟨ms', hms'⟩ := ih hinv hu
      exact ⟨ms ++ ms', run_append_eq_some.mpr ⟨f t, hms, hms'⟩⟩

/-- A condition on the labels alone can be added to the condition on the steps. -/
theorem Meets.and_of_forall {ok : σ → ℓ → Prop} {p : ℓ → Prop} {s : σ} {ls : List ℓ}
    (h : Meets step ok s ls) (hp : ∀ l ∈ ls, p l) : Meets step (fun s l => ok s l ∧ p l) s ls := by
  induction ls generalizing s with
  | nil => trivial
  | cons l ls ih =>
      refine ⟨⟨h.1, hp l List.mem_cons_self⟩, fun t ht => ?_⟩
      exact ih (h.2 t ht) fun l' hl' => hp l' (List.mem_cons_of_mem l hl')

/-- Whether a run meets a decidable condition can be computed along the run. -/
instance Meets.decidable {ok : σ → ℓ → Prop} [∀ s l, Decidable (ok s l)] :
    ∀ s ls, Decidable (Meets step ok s ls)
  | _, [] => .isTrue trivial
  | s, l :: ls =>
    match h : step s l with
    | none => decidable_of_iff (ok s l) (by simp [Meets, h])
    | some t =>
      have : Decidable (Meets step ok t ls) := Meets.decidable t ls
      decidable_of_iff (ok s l ∧ Meets step ok t ls) (by simp [Meets, h])

end OzoPg.Transition
