import OzoPg.Connect.Outcome
import OzoPg.Pool.Stored

/-!
# Error contexts in a pool

The error context is a part of `connection_rep`, so it is stored with the connection. A connection
that is given to `get_connection` has it reset by `forward_connection`; one that a pool gives out
again has not, and `async_get_result_op::done` keeps the first context it finds. What one holder's
failure has left is then what the next holder's failure is reported with.

* `KeepsContext` — a connection is recycled, or delivered by the source, with an error context.
* `contexts` — what the operations of the present holder have set.
* `delivered_errorContext` — a pool without the former reports nothing but the latter.
-/

namespace OzoPg.Pool

open State Transition

/-- The error context is empty. -/
def NoContext (rep : ConnectionRep) : Prop := rep.errorContext = ""

instance : DecidablePred NoContext := fun rep => inferInstanceAs (Decidable (rep.errorContext = ""))

/-- The source has delivered an error context with an empty code. -/
def Label.sourceContext : Label → Bool
  | .sourceDone _ ec (some target) => !ec.failed && target.errorContext ≠ ""
  | _ => false

/-- A good and idle connection is released with an error context, or the source delivers one with
an empty code. -/
def KeepsContext (s : State) (l : Label) : Prop :=
  Recycles (fun rep => ¬ NoContext rep) s l ∨ l.sourceContext = true

instance (s : State) (l : Label) : Decidable (KeepsContext s l) :=
  inferInstanceAs (Decidable (_ ∨ _))

/-- The other half of the condition: what the source delivers has no context. -/
theorem sourceDelivers_of_not_keepsContext {s : State} {l : Label} (h : ¬ KeepsContext s l) :
    SourceDelivers NoContext l := by
  rintro i ec target rfl hec
  by_contra hne
  exact h (.inr (by simpa [Label.sourceContext, NoContext, hec] using hne))

/-- A `connection_info` never does. -/
theorem sourceContext_of_delivers {names : TypeNames} {keys : List OidKey} {i : Nat}
    {ec : ErrorCode} {target : Connection} (h : Connect.Delivers names keys ec target) :
    (Label.sourceDone i ec (some target)).sourceContext = false := by
  cases hec : ec.failed with
  | true => simp [Label.sourceContext, hec]
  | false => simp [Label.sourceContext, Connect.errorContext_of_delivers h hec]

/-! ## The contexts of a holder

The contexts a user can have set are read off the labels since the cell was acquired. If nothing
else ever puts one into a cell, what a user finds is their own. -/

/-- What a label makes of the contexts set in the cell `i` since it was acquired. -/
def contextsStep (i : Nat) (cs : List String) : Label → List String
  | .acquire j => if j = i then [] else cs
  | .sourceDone j _ (some target) => if j = i then [target.errorContext] else cs
  | .setErrorContext j errorContext => if j = i then cs ++ [errorContext] else cs
  | _ => cs

/-- The error contexts set in the cell `i` since it was last acquired: by the connect operation of
the acquisition and by the operations of the holder. -/
def contexts (ls : List Label) (i : Nat) : List String := ls.foldl (contextsStep i) []

theorem contexts_append (ls : List Label) (l : Label) (i : Nat) :
    contexts (ls ++ [l]) i = contextsStep i (contexts ls i) l := by
  simp [contexts]

/-- The context of a held connection has been set by its holder. -/
def Own (cs : List String) (c : Cell) : Prop :=
  ∀ rep ∈ c.value, c.place = .held → NoContext rep ∨ rep.errorContext ∈ cs

/-- The labels of a run and the cells it leads to. -/
structure Owned (ls : List Label) (s : State) : Prop where
  stores : Stores NoContext s
  own : ∀ i, Own (contexts ls i) (s.cells i)

variable {s : State} {ls : List Label}

theorem owned_init : Owned [] init where
  stores := stores_init NoContext
  own i := by simp [Own, init]

/-- A cell changes, and the label says nothing about the contexts of other cells. -/
theorem own_setCell {l : Label} {i : Nat} {c : Cell} (h : ∀ j, Own (contexts ls j) (s.cells j))
    (hother : ∀ j cs, i ≠ j → contextsStep j cs l = cs)
    (hc : Own (contextsStep i (contexts ls i) l) c) (j : Nat) :
    Own (contexts (ls ++ [l]) j) ((s.setCell i c).cells j) := by
  refine forall_cells_setCell (P := fun j => Own (contexts (ls ++ [l]) j)) (fun j hj => ?_) ?_ j
  · rw [contexts_append, hother j _ (Ne.symm hj)]
    exact h j
  · rw [contexts_append]
    exact hc

/-- A handle that nobody holds has no holder's context. -/
theorem own_of_not_held {cs : List String} {c : Cell} (hplace : c.place ≠ .held) : Own cs c :=
  fun _ _ hheld => absurd hheld hplace

/-- A change that leaves the context as it is. -/
theorem Own.map {cs : List String} {c : Cell} (h : Own cs c) {f : ConnectionRep → ConnectionRep}
    (hf : ∀ rep, (f rep).errorContext = rep.errorContext) :
    Own cs { c with value := c.value.map f } := by
  intro rep hrep hplace
  obtain ⟨rep', hrep', rfl⟩ := Option.map_eq_some_iff.mp hrep
  rw [NoContext, hf]
  exact h rep' hrep' hplace

/-- Every step that keeps no context for another holder keeps the invariant. -/
theorem Owned.step {t : State} {l : Label} (h : Owned ls s) (hkeeps : ¬ KeepsContext s l)
    (hstep : step s l = some t) : Owned (ls ++ [l]) t := by
  refine ⟨h.stores.step (fun _ _ hrep => hrep) (fun hrec => hkeeps (.inl hrec))
    (sourceDelivers_of_not_keepsContext hkeeps) hstep, ?_⟩
  cases Step.of_step hstep with
  | refused ec hec =>
      intro j
      rw [contexts_append]
      exact h.own j
  | reused i rep hplace hvalue hstatus =>
      -- the context of a stored connection is empty
      refine own_setCell h.own (fun j cs hj => if_neg hj) ?_
      intro rep' hrep' _
      exact .inl (h.stores.cells i rep' hrep' (by simp [hplace]))
  | connecting i hplace =>
      exact own_setCell h.own (fun j cs hj => if_neg hj) (own_of_not_held (by simp))
  | connected i ec target hplace =>
      refine own_setCell h.own (fun j cs hj => if_neg hj) ?_
      rintro rep ⟨⟩ -
      simp [contextsStep]
  | notConnected i ec hplace =>
      exact own_setCell h.own (fun _ _ _ => rfl) (own_of_not_held (by simp))
  | changed i c => exact own_setCell h.own (fun _ _ _ => rfl) ((h.own i).map fun _ => rfl)
  | errorContextSet i errorContext hplace =>
      refine own_setCell h.own (fun j cs hj => if_neg hj) ?_
      intro rep hrep _
      obtain ⟨rep', -, rfl⟩ := Option.map_eq_some_iff.mp hrep
      simp [contextsStep]
  | closed i hplace => exact own_setCell h.own (fun _ _ _ => rfl) ((h.own i).map fun _ => rfl)
  | cancelled i hplace =>
      intro j
      rw [contexts_append]
      exact h.own j
  | recycled i rep | wasted i rep | emptied i =>
      exact own_setCell h.own (fun _ _ _ => rfl) (own_of_not_held (by simp))
  | expired i hplace =>
      exact own_setCell h.own (fun _ _ _ => rfl) (own_of_not_held (by simp [hplace]))

/-- Every connection delivered with an empty code has an empty error context, and no connection has
a context that was not set for its present holder, in every run in which no connection is recycled
or delivered by the source with a context. -/
theorem delivered_errorContext (ls : List Label) (s : State) (hrun : run step init ls = some s)
    (hmeets : Meets step (fun s l => ¬ KeepsContext s l) init ls) :
    (∀ ec id rep reused, .delivered ec (some (id, rep)) reused ∈ s.log → ec.failed = false →
        rep.errorContext = "") ∧
      ∀ i rep, (s.cells i).place = .held → (s.cells i).value = some rep →
        rep.errorContext = "" ∨ rep.errorContext ∈ contexts ls i := by
  have hinv : Owned ls s := run_history_of_meets (fun _ _ _ _ h hok hstep => h.step hok hstep)
    owned_init hmeets hrun
  exact ⟨hinv.stores.delivered, fun i rep hplace hvalue => hinv.own i rep hvalue hplace⟩

/-! ## Two users of one connection -/

/-- A connection that is good and idle. -/
def goodConnection : Connection := ⟨some ⟨.ok, .idle⟩, ⟨[]⟩, ""⟩

/-- The request of the first user fails with an error of the server. The connection stays good and
idle, and the second user gets it. -/
def failedRequestRun : List Label :=
  [.acquire 0, .sourceDone 0 .success (some goodConnection),
    .setErrorContext 0 "error while get request result", .destroy 0, .acquire 0]

/-- The second user is given the context of the first user's error. -/
theorem delivered_staleContext :
    ∃ s, run step init failedRequestRun = some s ∧ ∃ id rep,
      .delivered .success (some (id, rep)) true ∈ s.log ∧
        rep.errorContext = "error while get request result" ∧ contexts failedRequestRun 0 = [] :=
  ⟨_, rfl, _, _, List.mem_cons_self, rfl, rfl⟩

/-- The first user resets the context, as `get_connection` does for a connection, and the second
one fails. -/
def resetContextRun : List Label :=
  [.acquire 0, .sourceDone 0 .success (some goodConnection),
    .setErrorContext 0 "error while get request result", .setErrorContext 0 "", .destroy 0,
    .acquire 0, .setErrorContext 0 "PGRES_COPY_OUT"]

/-- Each user sees their own context. -/
theorem delivered_errorContext_reset :
    ∃ s, run step init resetContextRun = some s ∧
      (∀ ec id rep reused, .delivered ec (some (id, rep)) reused ∈ s.log → ec.failed = false →
        rep.errorContext = "") ∧
      ∀ i rep, (s.cells i).place = .held → (s.cells i).value = some rep →
        rep.errorContext = "" ∨ rep.errorContext ∈ contexts resetContextRun i :=
  ⟨_, rfl, delivered_errorContext resetContextRun _ rfl (by decide)⟩

end OzoPg.Pool
