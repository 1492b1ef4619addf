import OzoPg.Lib.Ownership
import OzoPg.ResourcePool.Invariant

/-!
# Handles of cells

`handle.hpp` of `contrib/resource_pool` and `on_get_handler` of `async/pool.hpp`. A cell is out in
the hands of an object that can be moved, assigned, given up by hand or destroyed. The model of the
pool takes for granted that only a cell with a handle comes back. Here the objects are in the
state and the operations are those on the objects.

* `handles_refine_pool` — a program with handles does to the pool what the model of the pool
  allows, and nothing undefined: no call through a null pointer and no exception from a
  destructor;
* `cell_held_once` — a cell that is out is in one usable handle, however it has been moved.
-/

namespace OzoPg.ResourcePool.Handles

open Transition
open Ownership (Owns)

/-! ## The objects -/

/-- The member function a handle is given up with. -/
inductive Strategy where
  | recycle
  | waste
  deriving DecidableEq, Repr

/-- `handle`. Whether there is a pool behind `_pool_impl` is all that matters of it. -/
structure Handle where
  poolImpl : Bool
  useStrategy : Option Strategy
  resourceIt : Option Nat
  deriving DecidableEq, Repr

/-- `handle()`. -/
def Handle.null : Handle := ⟨false, none, none⟩

/-- `handle::unusable`. -/
def Handle.unusable (h : Handle) : Bool := h.resourceIt.isNone

/-- What is left of a handle that has been moved from. -/
def Handle.moved (h : Handle) : Handle := { h with resourceIt := none, poolImpl := false }

/-- A pool with the handles of a program at their addresses. `undefined` is set when the program
has done what has no defined behaviour. -/
structure State (α : Type) where
  pool : ResourcePool.State α
  objects : Nat → Option Handle
  undefined : Bool

/-- How a member function may fail: by the exception `unusable_handle`, or badly. -/
inductive Fault where
  | unusableHandle
  | undefined
  deriving DecidableEq, Repr

variable {α : Type}

def init (α : Type) (capacity queueCapacity : Nat) (idleTimeout lifespan : Duration) : State α where
  pool := ResourcePool.init α capacity queueCapacity idleTimeout lifespan
  objects _ := none
  undefined := false

/-- `pool_returns`. -/
def Strategy.giveBack (now : TimePoint) (i : Nat) (pool : ResourcePool.State α) :
    Strategy → ResourcePool.State α
  | .recycle => pool.recycle now i
  | .waste => pool.waste i

namespace State

def setObject (a : Nat) (h : Option Handle) (s : State α) : State α :=
  { s with objects := Function.update s.objects a h }

/-- `handle::recycle` and `handle::waste` of the object `h` at `a`. -/
def giveUp (strategy : Strategy) (now : TimePoint) (a : Nat) (h : Handle) (s : State α) :
    Except Fault (State α) :=
  match h.resourceIt with
  | none => .error .unusableHandle
  | some i =>
    if h.poolImpl then
      .ok (setObject a (some { h with resourceIt := none })
        { s with pool := strategy.giveBack now i s.pool })
    else
      .error .undefined

/-- `handle::reset`. -/
def reset (now : TimePoint) (v : α) (h : Handle) (s : State α) : Except Fault (State α) :=
  match h.resourceIt with
  | none => .error .unusableHandle
  | some i => .ok { s with pool := s.pool.reset now i v }

/-- What a destructor and an assignment start with: the strategy of a usable handle is called. -/
def useUp (now : TimePoint) (a : Nat) (h : Handle) (s : State α) : Except Fault (State α) :=
  if h.unusable then
    .ok s
  else
    match h.useStrategy with
    | none => .error .undefined
    | some strategy => s.giveUp strategy now a h

/-- `~handle`. -/
def destroy (now : TimePoint) (a : Nat) (h : Handle) (s : State α) : Except Fault (State α) := do
  let s ← s.useUp now a h
  return s.setObject a none

/-- The members of the object at `b` are taken over at `a`. -/
def takeOver (a b : Nat) (s : State α) : State α :=
  let s := s.setObject a (s.objects b)
  s.setObject b ((s.objects b).map Handle.moved)

/-- `operator =(handle&&)`. The two objects may be the same, so the other one is read after the
strategy has been called. -/
def moveAssign (now : TimePoint) (a b : Nat) (h : Handle) (s : State α) :
    Except Fault (State α) := do
  let s ← s.useUp now a h
  return s.takeOver a b

/-- `on_get_handler::operator()`, with the handle it makes at `a`. -/
def serve (p : Posted) (a : Nat) (strategy : Strategy) (s : State α) : State α :=
  match p.result with
  | .error _ => setObject a (some .null) { s with pool := s.pool.serve p }
  | .ok i => setObject a (some ⟨true, some strategy, some i⟩) { s with pool := s.pool.serve p }

/-- An exception of a member function goes to the program and leaves all as it was. -/
def afterCall (s : State α) : Except Fault (State α) → State α
  | .ok t => t
  | .error .unusableHandle => s
  | .error .undefined => { s with undefined := true }

/-- A function that must not throw. -/
def afterNoexcept (s : State α) : Except Fault (State α) → State α
  | .ok t => t
  | .error _ => { s with undefined := true }

end State

/-- What the pool does without a handle. -/
def ofPool : ResourcePool.Label α → Bool
  | .get _ _ | .push _ _ | .modify _ _ | .cancel _ | .disable | .invalidate => true
  | .serve _ | .recycle _ _ | .waste _ | .reset _ _ _ => false

inductive Label (α : Type) where
  | pool (l : ResourcePool.Label α)
  | serve (p : Posted) (a : Nat) (strategy : Strategy)
  | construct (a : Nat)
  | moveConstruct (a b : Nat)
  | moveAssign (now : TimePoint) (a b : Nat)
  | giveUp (strategy : Strategy) (now : TimePoint) (a : Nat)
  | reset (now : TimePoint) (a : Nat) (v : α)
  | destroy (now : TimePoint) (a : Nat)

/-- The step of a label, if the state enables it. Objects are made where there is none, and only
objects are used. -/
def step (s : State α) : Label α → Option (State α)
  | .pool l =>
    if ofPool l then (ResourcePool.step s.pool l).map fun pool => { s with pool } else none
  | .serve p a strategy =>
    if p ∈ s.pool.posted ∧ s.objects a = none then some (s.serve p a strategy) else none
  | .construct a => if s.objects a = none then some (s.setObject a (some .null)) else none
  | .moveConstruct a b =>
    if s.objects a = none ∧ s.objects b ≠ none then some (s.takeOver a b) else none
  | .moveAssign now a b =>
    if s.objects b = none then none
    else (s.objects a).map fun h => s.afterCall (s.moveAssign now a b h)
  | .giveUp strategy now a => (s.objects a).map fun h => s.afterCall (s.giveUp strategy now a h)
  | .reset now a v => (s.objects a).map fun h => s.afterCall (s.reset now v h)
  | .destroy now a => (s.objects a).map fun h => s.afterNoexcept (s.destroy now a h)

/-! ## What an object holds

A cell that is out is in one handle. The handles of a program are owners in the sense of
`Lib.Ownership`, and every member function is an update of one or two of them. -/

/-- The cell of an object. -/
def State.held (s : State α) (a : Nat) : Option Nat := (s.objects a).bind Handle.resourceIt

theorem held_setObject (s : State α) (a : Nat) (h : Option Handle) :
    (s.setObject a h).held = Function.update s.held a (h.bind Handle.resourceIt) := by
  funext b
  by_cases hba : b = a
  · subst hba
    simp [State.held, State.setObject]
  · simp [State.held, State.setObject, hba]

/-- What has been moved from holds nothing. -/
theorem held_takeOver (s : State α) (a b : Nat) :
    (s.takeOver a b).held = Function.update (Function.update s.held a (s.held b)) b none := by
  have hmoved (h : Option Handle) : (h.map Handle.moved).bind Handle.resourceIt = none := by
    cases h <;> rfl
  unfold State.takeOver
  rw [held_setObject, held_setObject, hmoved]
  rfl

/-- A usable handle can be given up. -/
def Handle.Works (h : Handle) : Prop :=
  h.unusable = false → h.poolImpl = true ∧ h.useStrategy ≠ none

/-- The invariant of a program with handles: they work, and each cell that is out is in one. -/
structure Inv (capacity : Nat) (s : State α) : Prop where
  pool : ResourcePool.Inv capacity s.pool
  defined : s.undefined = false
  works : ∀ a, ∀ h ∈ s.objects a, h.Works
  owns : Owns s.held {i | i ∈ s.pool.handles}

section Operations

variable {capacity : Nat} {s : State α}

theorem inv_init (capacity queueCapacity : Nat) (idleTimeout lifespan : Duration) :
    Inv capacity (init α capacity queueCapacity idleTimeout lifespan) where
  pool := ResourcePool.inv_init _ _ _ _
  defined := rfl
  works a h hobject := by cases hobject
  owns := by
    have hnone : {i : Nat | i ∈ ([] : List Nat)} = ∅ := by simp
    show Owns (fun _ => none) {i : Nat | i ∈ ([] : List Nat)}
    rw [hnone]
    exact Owns.empty

/-- A handle without a cell need not be given up. -/
theorem works_of_resourceIt {h : Handle} (hnone : h.resourceIt = none) : h.Works := by
  intro husable
  rw [Handle.unusable, hnone] at husable
  cases husable

theorem works_setObject (h : ∀ a, ∀ o ∈ s.objects a, o.Works) (a : Nat) {o : Option Handle}
    (ho : ∀ o' ∈ o, o'.Works) : ∀ b, ∀ o' ∈ (s.setObject a o).objects b, o'.Works :=
  (Function.forall_update_iff s.objects fun _ o => ∀ o' ∈ o, o'.Works).mpr ⟨ho, fun b _ => h b⟩

/-- An object that holds nothing may be anywhere. -/
theorem Inv.setObject (h : Inv capacity s) {a : Nat} (ha : s.held a = none) {o : Option Handle}
    (ho : o.bind Handle.resourceIt = none) : Inv capacity (s.setObject a o) where
  pool := h.pool
  defined := h.defined
  works := by
    apply works_setObject h.works
    rintro o' ⟨⟩
    exact works_of_resourceIt ho
  owns := by
    rw [held_setObject, ho, Owns.update_none ha]
    exact h.owns

/-- A move to where nothing is held. -/
theorem Inv.takeOver (h : Inv capacity s) {a : Nat} (ha : s.held a = none) (b : Nat) :
    Inv capacity (s.takeOver a b) where
  pool := h.pool
  defined := h.defined
  works := by
    apply works_setObject
    · exact works_setObject h.works a (h.works b)
    · intro o ho
      obtain ⟨o', -, rfl⟩ := Option.map_eq_some_iff.mp ho
      exact works_of_resourceIt rfl
  owns := by
    rw [held_takeOver]
    exact h.owns.move ha b

/-- The label of the pool for a strategy. -/
def Strategy.label (now : TimePoint) (i : Nat) : Strategy → ResourcePool.Label α
  | .recycle => .recycle now i
  | .waste => .waste i

theorem handles_giveBack (strategy : Strategy) (now : TimePoint) (i : Nat)
    (pool : ResourcePool.State α) :
    (strategy.giveBack now i pool).handles = pool.handles.erase i := by
  cases strategy with
  | recycle => exact ResourcePool.PoolImpl.handles_recycle now i pool
  | waste => exact ResourcePool.PoolImpl.handles_waste i pool

/-- Giving a handle up is a step of the pool. -/
theorem step_giveBack (strategy : Strategy) (now : TimePoint) {i : Nat}
    {pool : ResourcePool.State α} (hi : i ∈ pool.handles) :
    ResourcePool.step pool (strategy.label now i) = some (strategy.giveBack now i pool) := by
  cases strategy with
  | recycle => exact if_pos hi
  | waste => exact if_pos hi

theorem mem_giveBack (h : Inv capacity s) (strategy : Strategy) (now : TimePoint) (i : Nat) :
    {j | j ∈ (strategy.giveBack now i s.pool).handles} = {j | j ∈ s.pool.handles} \ {i} := by
  have hnodup : s.pool.handles.Nodup := (List.nodup_append.mp h.pool.out_nodup).2.1
  ext j
  rw [handles_giveBack]
  simp [hnodup.mem_erase_iff, and_comm]

/-- The pool takes the cell of an object back. -/
theorem Inv.giveBack (h : Inv capacity s) (strategy : Strategy) (now : TimePoint) {a i : Nat}
    (ha : s.held a = some i) {o : Handle} (ho : o.resourceIt = none) :
    Inv capacity
      (State.setObject a (some o) { s with pool := strategy.giveBack now i s.pool }) where
  pool := h.pool.step (step_giveBack strategy now (h.owns.mem ha))
  defined := h.defined
  works := by
    apply works_setObject (s := { s with pool := strategy.giveBack now i s.pool }) h.works
    rintro o' ⟨⟩
    exact works_of_resourceIt ho
  owns := by
    rw [held_setObject]
    show Owns (Function.update s.held a o.resourceIt)
      {j | j ∈ (strategy.giveBack now i s.pool).handles}
    rw [ho, mem_giveBack h]
    exact h.owns.drop ha

/-- What giving up the handle at `a` comes to: the pool has the cell back if there was one, and
the object is there without it. -/
structure GivenUp (capacity : Nat) (a : Nat) (s t : State α) : Prop where
  inv : Inv capacity t
  run : ∃ ls, run ResourcePool.step s.pool ls = some t.pool
  held : t.held a = none

/-- The member functions do what the pool expects and empty the handle. -/
theorem giveUp_spec (h : Inv capacity s) (strategy : Strategy) (now : TimePoint) {a : Nat}
    {o : Handle} (ha : s.objects a = some o) {i : Nat} (hi : o.resourceIt = some i) :
    ∃ t, s.giveUp strategy now a o = .ok t ∧ GivenUp capacity a s t := by
  have husable : o.unusable = false := by rw [Handle.unusable, hi]; rfl
  have hheld : s.held a = some i := by rw [State.held, ha]; exact hi
  unfold State.giveUp
  rw [hi]
  refine ⟨_, if_pos (h.works a o ha husable).1, ⟨?_, ?_, ?_⟩⟩
  · exact h.giveBack strategy now hheld rfl
  · refine ⟨[strategy.label now i], ?_⟩
    rw [run, step_giveBack strategy now (h.owns.mem hheld)]
    rfl
  · rw [held_setObject, Function.update_self]
    rfl

/-- The strategy is never missing where it is called. -/
theorem useUp_spec (h : Inv capacity s) (now : TimePoint) {a : Nat} {o : Handle}
    (ha : s.objects a = some o) : ∃ t, s.useUp now a o = .ok t ∧ GivenUp capacity a s t := by
  unfold State.useUp
  cases hi : o.resourceIt with
  | none =>
      have hunusable : o.unusable = true := by rw [Handle.unusable, hi]; rfl
      rw [if_pos hunusable]
      refine ⟨s, rfl, h, ⟨[], rfl⟩, ?_⟩
      rw [State.held, ha]
      exact hi
  | some i =>
      have husable : o.unusable = false := by rw [Handle.unusable, hi]; rfl
      rw [husable, if_neg Bool.false_ne_true]
      obtain ⟨strategy, hstrategy⟩ := Option.ne_none_iff_exists'.mp (h.works a o ha husable).2
      rw [hstrategy]
      exact giveUp_spec h strategy now ha hi

/-- A new handle is put where there was no object. -/
theorem serve_spec (h : Inv capacity s) {p : Posted} (hp : p ∈ s.pool.posted) {a : Nat}
    (ha : s.objects a = none) (strategy : Strategy) : Inv capacity (s.serve p a strategy) := by
  have hpool : ResourcePool.Inv capacity (s.pool.serve p) :=
    h.pool.step (l := .serve p) (if_pos hp)
  have hheld : s.held a = none := by rw [State.held, ha]; rfl
  unfold State.serve
  split
  · next failure hresult =>
      have hhandles : (s.pool.serve p).handles = s.pool.handles := by
        rw [ResourcePool.PoolImpl.serve, hresult]
        rfl
      have hserved : Inv capacity { s with pool := s.pool.serve p } := by
        refine ⟨hpool, h.defined, h.works, ?_⟩
        show Owns s.held {i | i ∈ (s.pool.serve p).handles}
        rw [hhandles]
        exact h.owns
      exact hserved.setObject hheld rfl
  · next i hresult =>
      have hhandles : (s.pool.serve p).handles = i :: s.pool.handles := by
        rw [ResourcePool.PoolImpl.serve, hresult]
        rfl
      -- the cell was on its way, so no handle has it
      have hnew : i ∉ s.pool.handles := by
        have hnodup := hpool.out_nodup
        rw [ResourcePool.PoolImpl.out, hhandles] at hnodup
        exact (List.nodup_cons.mp (List.nodup_append.mp hnodup).2.1).1
      refine ⟨hpool, h.defined, ?_, ?_⟩
      · apply works_setObject (s := { s with pool := s.pool.serve p }) h.works
        rintro o' ⟨⟩ _
        refine ⟨rfl, fun hnone => ?_⟩
        cases hnone
      · rw [held_setObject]
        have hset : {j | j ∈ (s.pool.serve p).handles} = insert i {j | j ∈ s.pool.handles} := by
          ext j
          simp [hhandles]
        show Owns (Function.update s.held a (some i)) {j | j ∈ (s.pool.serve p).handles}
        rw [hset]
        exact h.owns.take hheld hnew

/-- What the pool does without a handle. -/
theorem Inv.ofPool (h : Inv capacity s) {l : ResourcePool.Label α} (hl : ofPool l = true)
    {pool : ResourcePool.State α} (hstep : ResourcePool.step s.pool l = some pool) :
    Inv capacity { s with pool } := by
  -- none of these labels hands a cell out or takes one back
  have hhandles : pool.handles = s.pool.handles := by
    cases l with
    | get now waitDuration =>
        cases hstep
        exact ResourcePool.PoolImpl.handles_get now waitDuration s.pool
    | push now r =>
        obtain ⟨-, ⟨⟩⟩ := Option.ite_none_right_eq_some.mp hstep
        exact ResourcePool.PoolImpl.handles_push now r s.pool
    | modify i f => cases hstep; rfl
    | cancel expiresAt => cases hstep; rfl
    | disable => cases hstep; rfl
    | invalidate => cases hstep; rfl
    | serve | recycle | waste | reset => cases hl
  refine ⟨h.pool.step hstep, h.defined, h.works, ?_⟩
  show Owns s.held {i | i ∈ pool.handles}
  rw [hhandles]
  exact h.owns

/-- A step of a program is some run of the pool, possibly none. -/
theorem step_sound {t : State α} {l : Label α} (h : Inv capacity s) (hstep : step s l = some t) :
    Inv capacity t ∧ ∃ ls, run ResourcePool.step s.pool ls = some t.pool := by
  have hone {l : ResourcePool.Label α} {pool : ResourcePool.State α}
      (hl : ResourcePool.step s.pool l = some pool) :
      ∃ ls, run ResourcePool.step s.pool ls = some pool :=
    ⟨[l], by rw [run, hl]; rfl⟩
  cases l with
  | pool l =>
      obtain ⟨hl, hsome⟩ := Option.ite_none_right_eq_some.mp hstep
      obtain ⟨pool, hpool, rfl⟩ := Option.map_eq_some_iff.mp hsome
      exact ⟨h.ofPool hl hpool, hone hpool⟩
  | serve p a strategy =>
      obtain ⟨⟨hp, ha⟩, ⟨⟩⟩ := Option.ite_none_right_eq_some.mp hstep
      refine ⟨serve_spec h hp ha strategy, ?_⟩
      have hpool : (s.serve p a strategy).pool = s.pool.serve p := by
        unfold State.serve
        split <;> rfl
      rw [hpool]
      exact hone (l := .serve p) (if_pos hp)
  -- a handle without a cell is nothing to the pool
  | construct a =>
      obtain ⟨ha, ⟨⟩⟩ := Option.ite_none_right_eq_some.mp hstep
      refine ⟨h.setObject ?_ rfl, ⟨[], rfl⟩⟩
      rw [State.held, ha]
      rfl
  -- the cell changes its owner, and the pool does not see it
  | moveConstruct a b =>
      obtain ⟨⟨ha, -⟩, ⟨⟩⟩ := Option.ite_none_right_eq_some.mp hstep
      refine ⟨h.takeOver ?_ b, ⟨[], rfl⟩⟩
      rw [State.held, ha]
      rfl
  -- what the target held is given up first, and then it takes over
  | moveAssign now a b =>
      simp only [step] at hstep
      split at hstep
      · cases hstep
      · obtain ⟨o, ha, rfl⟩ := Option.map_eq_some_iff.mp hstep
        obtain ⟨t, ht, hgiven⟩ := useUp_spec h now ha
        have hassign : s.moveAssign now a b o = .ok (t.takeOver a b) := by
          rw [State.moveAssign, ht]
          rfl
        rw [hassign]
        exact ⟨hgiven.inv.takeOver hgiven.held b, hgiven.run⟩
  | giveUp strategy now a =>
      obtain ⟨o, ha, rfl⟩ := Option.map_eq_some_iff.mp hstep
      cases hi : o.resourceIt with
      -- the exception leaves all as it was
      | none =>
          have hthrown : s.giveUp strategy now a o = .error .unusableHandle := by
            rw [State.giveUp, hi]
          rw [hthrown]
          exact ⟨h, ⟨[], rfl⟩⟩
      | some i =>
          obtain ⟨t, ht, hgiven⟩ := giveUp_spec h strategy now ha hi
          rw [ht]
          exact ⟨hgiven.inv, hgiven.run⟩
  | reset now a v =>
      obtain ⟨o, ha, rfl⟩ := Option.map_eq_some_iff.mp hstep
      unfold State.reset
      split
      · exact ⟨h, ⟨[], rfl⟩⟩
      · next i hi =>
          have hheld : s.held a = some i := by rw [State.held, ha]; exact hi
          have hreset : ResourcePool.step s.pool (.reset now i v) = some (s.pool.reset now i v) :=
            if_pos (h.owns.mem hheld)
          exact ⟨⟨h.pool.step hreset, h.defined, h.works, h.owns⟩, hone hreset⟩
  | destroy now a =>
      obtain ⟨o, ha, rfl⟩ := Option.map_eq_some_iff.mp hstep
      obtain ⟨t, ht, hgiven⟩ := useUp_spec h now ha
      have hdestroy : s.destroy now a o = .ok (t.setObject a none) := by
        rw [State.destroy, ht]
        rfl
      rw [hdestroy]
      exact ⟨hgiven.inv.setObject hgiven.held rfl, hgiven.run⟩

end Operations

/-! ## Programs -/

section Runs

variable {capacity queueCapacity : Nat} {idleTimeout lifespan : Duration} {ls : List (Label α)}
  {s : State α}

theorem inv_of_run
    (hrun : run step (init α capacity queueCapacity idleTimeout lifespan) ls = some s) :
    Inv capacity s :=
  run_invariant (fun _ _ _ h hstep => (step_sound h hstep).1) (inv_init _ _ _ _) hrun

/-- A program with handles runs the pool as its model allows and does nothing undefined. -/
theorem handles_refine_pool
    (hrun : run step (init α capacity queueCapacity idleTimeout lifespan) ls = some s) :
    s.undefined = false ∧ ∃ ms, run ResourcePool.step
      (ResourcePool.init α capacity queueCapacity idleTimeout lifespan) ms = some s.pool := by
  refine ⟨(inv_of_run hrun).defined, ?_⟩
  exact run_simulation (I := Inv capacity) (f := State.pool) (fun _ _ _ => step_sound)
    (inv_init _ _ _ _) hrun

/-- A cell is out exactly when a handle holds it, and then one handle does. -/
theorem cell_held_once
    (hrun : run step (init α capacity queueCapacity idleTimeout lifespan) ls = some s) (i : Nat) :
    (i ∈ s.pool.handles → ∃! a, s.held a = some i) ∧
      ∀ a, s.held a = some i → i ∈ s.pool.handles := by
  have hinv := inv_of_run hrun
  exact ⟨fun hi => hinv.owns.existsUnique hi, fun a ha => hinv.owns.mem ha⟩

end Runs

/-- A handle that is moved to another object. -/
def movedHandle : List (Label Nat) :=
  [.pool (.get 0 0), .serve ⟨0, .ok 0⟩ 0 .recycle, .moveConstruct 1 0]

theorem handles_refine_pool_movedHandle :
    ∃ s, run step (init Nat 1 1 10 10) (movedHandle ++ [.destroy 5 1, .destroy 5 0]) = some s ∧
      s.undefined = false ∧
      ∃ ms, run ResourcePool.step (ResourcePool.init Nat 1 1 10 10) ms = some s.pool := by
  have hrun : run step (init Nat 1 1 10 10) (movedHandle ++ [.destroy 5 1, .destroy 5 0]) =
    some _ := rfl
  exact ⟨_, hrun, handles_refine_pool hrun⟩

theorem cell_held_once_movedHandle :
    ∃ s, run step (init Nat 1 1 10 10) movedHandle = some s ∧ ∃! a, s.held a = some 0 := by
  have hrun : run step (init Nat 1 1 10 10) movedHandle = some _ := rfl
  exact ⟨_, hrun, (cell_held_once hrun 0).1 List.mem_cons_self⟩

/-- A handle that is assigned to itself gives up its cell. -/
example : (run step (init Nat 1 1 10 10) (movedHandle ++ [.moveAssign 5 1 1])).map
    (fun s => (s.held 1, s.pool.handles, s.pool.storage.available)) = some (none, [], [0]) := by
  decide

end OzoPg.ResourcePool.Handles
