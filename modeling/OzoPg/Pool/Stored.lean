import OzoPg.Pool.Model

/-!
# What a pool stores

A connection that nobody holds is one a `pooled_connection` has left, and the next acquirer gets it
as it was left. So a property of the stored connections, and of those delivered with an empty code,
holds in every run in which the source delivers connections with it and no connection without it is
recycled.

* `Stores` — the invariant, for any property that does not depend on the native handle.
* `Stores.step` — the steps that keep it.
-/

namespace OzoPg.Pool

open State

/-- The destruction of a `pooled_connection`, by its cell. -/
def Label.destroyed? : Label → Option Nat
  | .destroy i => some i
  | _ => none

/-- A `pooled_connection` with the property is destroyed while its connection is good and idle. -/
def Recycles (P : ConnectionRep → Prop) (s : State) (l : Label) : Prop :=
  ∃ i ∈ l.destroyed?, ∃ rep ∈ (s.cells i).value, P rep ∧ Reusable rep.safeHandle

instance (P : ConnectionRep → Prop) [DecidablePred P] (s : State) (l : Label) :
    Decidable (Recycles P s l) :=
  inferInstanceAs (Decidable (∃ i ∈ l.destroyed?, _))

/-- What the source delivers with an empty code has the property. -/
def SourceDelivers (P : ConnectionRep → Prop) (l : Label) : Prop :=
  ∀ i ec target, l = .sourceDone i ec (some target) → ec.failed = false →
    P ⟨target.handle, target.oidMap, target.errorContext⟩

/-- The connection of a cell has the property unless somebody holds it. -/
def Cell.Stores (P : ConnectionRep → Prop) (c : Cell) : Prop :=
  ∀ rep ∈ c.value, c.place ≠ .held → P rep

/-- What is stored and what has been delivered with an empty code has the property. -/
structure Stores (P : ConnectionRep → Prop) (s : State) : Prop where
  cells : ∀ i, (s.cells i).Stores P
  delivered : ∀ ec id rep reused, .delivered ec (some (id, rep)) reused ∈ s.log →
    ec.failed = false → P rep

variable {P : ConnectionRep → Prop} {s : State}

theorem stores_init (P : ConnectionRep → Prop) : Stores P init where
  cells i := by simp [Cell.Stores, init]
  delivered := by simp [init]

/-- A cell changes and nothing is delivered. -/
theorem Stores.setCell (h : Stores P s) (i : Nat) {c : Cell} (hc : c.Stores P) :
    Stores P (s.setCell i c) where
  cells := forall_cells_setCell (P := fun _ c => c.Stores P) (fun j _ => h.cells j) hc
  delivered := h.delivered

/-- A delivery with an empty code needs the property. -/
theorem Stores.record_delivered (h : Stores P s) {ec : ErrorCode}
    {conn : Option (ConnectionId × ConnectionRep)} (reused : Bool)
    (hconn : ec.failed = false → ∀ p ∈ conn, P p.2) :
    Stores P (s.record (.delivered ec conn reused)) where
  cells := h.cells
  delivered := by
    intro ec' id rep reused' hmem hec
    rcases List.mem_cons.mp hmem with heq | hmem
    · cases heq
      exact hconn hec (id, rep) rfl
    · exact h.delivered ec' id rep reused' hmem hec

theorem Stores.record_released (h : Stores P s) (id : ConnectionId) (handle : Option PgConn) :
    Stores P (s.record (.released id handle)) where
  cells := h.cells
  delivered := by
    intro ec id' rep reused hmem
    apply h.delivered ec id' rep reused
    simpa [State.record] using hmem

/-- In a cell somebody holds the value may change in any way. -/
theorem stores_of_held {c : Cell} (hplace : c.place = .held) : c.Stores P :=
  fun _ _ hne => absurd hplace hne

theorem stores_none (place : Place) (generation : Nat) :
    Cell.Stores P ⟨place, none, generation⟩ :=
  nofun

/-- A handle that goes from one place to another outside of anybody's hands. -/
theorem Cell.Stores.of_not_held {c : Cell} (h : c.Stores P) (hplace : c.place ≠ .held)
    (place : Place) : Cell.Stores P { c with place } :=
  fun rep hrep _ => h rep hrep hplace

/-- Every step keeps a property that does not depend on the handle, if it recycles no connection
without it and the source delivers none. -/
theorem Stores.step {t : State} {l : Label} (h : Stores P s)
    (hP : ∀ rep handle, P rep → P { rep with safeHandle := handle })
    (hrecycles : ¬ Recycles (fun rep => ¬ P rep) s l) (hsource : SourceDelivers P l)
    (hstep : step s l = some t) : Stores P t := by
  cases Step.of_step hstep with
  | refused ec hec => exact h.record_delivered false (by simp)
  -- what is delivered was stored, and so has the property
  | reused i rep hplace hvalue hstatus =>
      refine (h.setCell i (stores_of_held rfl)).record_delivered true ?_
      rintro - p ⟨⟩
      exact h.cells i rep hvalue (by simp [hplace])
  | connecting i hplace =>
      exact h.setCell i ((h.cells i).of_not_held (by simp [hplace]) _)
  | connected i ec target hplace =>
      refine (h.setCell i (stores_of_held rfl)).record_delivered false ?_
      rintro hec p ⟨⟩
      exact hsource i ec target rfl hec
  | notConnected i ec hplace =>
      exact (h.setCell i ((h.cells i).of_not_held (by simp [hplace]) _)).record_delivered false
        (by simp)
  -- libpq changes the handle, which the property does not depend on
  | changed i c =>
      apply h.setCell
      intro rep hrep hplace
      obtain ⟨rep', hrep', rfl⟩ := Option.map_eq_some_iff.mp hrep
      exact hP rep' _ (h.cells i rep' hrep' hplace)
  | errorContextSet i errorContext hplace => exact h.setCell i (stores_of_held hplace)
  | closed i hplace => exact h.setCell i (stores_of_held hplace)
  | cancelled i hplace => exact h
  -- the cell is stored again: this is where the condition is needed
  | recycled i rep hplace hvalue hreusable =>
      refine (h.setCell i fun rep' hrep' _ => ?_).record_released _ _
      have heq : rep' = rep := by simpa [hvalue] using hrep'.symm
      subst heq
      by_contra hP'
      exact hrecycles ⟨i, rfl, rep', hvalue, hP', hreusable⟩
  | wasted i rep hplace hvalue hreusable =>
      exact (h.setCell i (stores_none _ _)).record_released _ _
  | emptied i hplace hvalue =>
      apply h.setCell
      simp [Cell.Stores, hvalue]
  | expired i hplace => exact h.setCell i (stores_none _ _)

end OzoPg.Pool
