import OzoPg.Pool.Impl
import OzoPg.Pool.Reuse
import OzoPg.ResourcePool.Invariant

/-!
# The resource pool keeps its contract

Seen through `abs`, every run of the connection pool over the resource pool is a run of the
connection pool over cells: a value the resource pool drops has expired, a cell that is posted to a
request is free, and the rest is step for step.

* `refines` — every run is a run of `Pool.step` with the same log.
* `reuse_sound` — so the connections it delivers a second time are good and idle ones.
-/

namespace OzoPg.Pool.Impl

open ResourcePool (TimePoint Duration Posted Failure Storage)
open Transition

/-- The cells as their users see them. -/
def abs (s : State) : Pool.State where
  cells i := ⟨s.place i, s.value i, s.generation i⟩
  log := s.log

/-- Exactly the cells in somebody's hands have a handle. -/
structure Inv (capacity : Nat) (s : State) : Prop where
  pool : ResourcePool.Inv capacity s.pool
  place : ∀ i, i ∈ s.pool.handles ↔ s.place i ≠ .free

namespace Inv

variable {capacity : Nat} {s : State}

/-- A cell without a handle is nobody's. -/
theorem free_of_not_mem (h : Inv capacity s) {i : Nat} (hi : i ∉ s.pool.handles) :
    s.place i = .free := by
  by_contra hplace
  exact hi ((h.place i).mpr hplace)

theorem free_of_available (h : Inv capacity s) {i : Nat} (hi : i ∈ s.pool.storage.available) :
    s.place i = .free := by
  apply h.free_of_not_mem
  intro hmem
  exact (h.pool.not_mem_of_mem_used (h.pool.mem_used_of_handle hmem)).1 hi

/-- A cell on its way to a handler has no handle yet. -/
theorem free_of_posted (h : Inv capacity s) {p : Posted} (hp : p ∈ s.pool.posted) {i : Nat}
    (hcell : p.cell? = some i) : s.place i = .free := by
  apply h.free_of_not_mem
  intro hmem
  have hposted : i ∈ s.pool.posted.filterMap Posted.cell? := List.mem_filterMap.mpr ⟨p, hp, hcell⟩
  exact (List.nodup_append.mp h.pool.out_nodup).2.2 i hposted i hmem rfl

/-- No cell has two handles. -/
theorem handles_nodup (h : Inv capacity s) : s.pool.handles.Nodup :=
  (List.nodup_append.mp h.pool.out_nodup).2.1

/-- A handle is given up. -/
theorem release (h : Inv capacity s) {pool : ResourcePool.State ConnectionRep} {i : Nat}
    (hpool : ResourcePool.Inv capacity pool) (hhandles : pool.handles = s.pool.handles.erase i)
    (log : List Event) :
    Inv capacity { s with pool, log, place := Function.update s.place i .free } := by
  refine ⟨hpool, fun j => ?_⟩
  show j ∈ pool.handles ↔ _
  rw [hhandles, h.handles_nodup.mem_erase_iff, h.place j]
  by_cases hj : j = i
  · simp [hj]
  · simp [hj]

/-- A handle is made, and somebody has it. -/
theorem take (h : Inv capacity s) {p : Posted} (hp : p ∈ s.pool.posted) {i : Nat}
    (hcell : p.cell? = some i) {place : Place} (hplace : place ≠ .free) (log : List Event) :
    Inv capacity
      { s with pool := s.pool.serve p, log, place := Function.update s.place i place } := by
  refine ⟨h.pool.serve hp, fun j => ?_⟩
  have hhandles : (s.pool.serve p).handles = i :: s.pool.handles := by
    show p.cell?.toList ++ _ = _
    rw [hcell]
    rfl
  rw [hhandles, List.mem_cons, h.place j]
  by_cases hj : j = i
  · simp [hj, hplace]
  · simp [hj]

end Inv

theorem inv_init (capacity queueCapacity : Nat) (idleTimeout lifespan : Duration) :
    Inv capacity (init capacity queueCapacity idleTimeout lifespan) where
  pool := ResourcePool.inv_init capacity queueCapacity idleTimeout lifespan
  place i := by simp [init, ResourcePool.init, ResourcePool.PoolImpl.init]

/-! ## Values that are dropped -/

/-- Free cells expire one after another. -/
theorem run_expire {a b : Pool.State} {is : List Nat} (hfree : ∀ i ∈ is, (a.cells i).place = .free)
    (hcells : ∀ j, b.cells j = if j ∈ is then { a.cells j with value := none } else a.cells j)
    (hlog : b.log = a.log) : run Pool.step a (is.map .expire) = some b := by
  induction is generalizing a with
  | nil =>
      obtain ⟨cells, log⟩ := b
      cases hlog
      rw [show cells = a.cells from funext fun j => by simpa using hcells j]
      rfl
  -- a cell may be listed twice; the second time it is empty already
  | cons i is ih =>
      refine run_cons_eq_some.mpr ⟨a.setCell i { a.cells i with value := none }, ?_, ih ?_ ?_ hlog⟩
      · exact if_pos (hfree i List.mem_cons_self)
      · intro j hj
        by_cases hji : j = i
        · subst hji
          simpa [State.setCell] using hfree j List.mem_cons_self
        · simpa [State.setCell, hji] using hfree j (List.mem_cons_of_mem i hj)
      · intro j
        rw [hcells j]
        by_cases hji : j = i
        · subst hji
          simp [State.setCell]
        · simp [State.setCell, hji]

/-- The resource pool drops values of free cells, and nothing else happens. -/
theorem run_of_drops {s : State} {pool : ResourcePool.State ConnectionRep} {is : List Nat}
    (hdrops : Storage.Drops is s.pool.storage pool.storage)
    (hfree : ∀ i ∈ is, s.place i = .free) :
    ∃ ls, run Pool.step (abs s) ls = some (abs { s with pool }) := by
  refine ⟨is.map .expire, run_expire hfree ?_ rfl⟩
  intro j
  simp only [abs, State.value, hdrops j]
  split <;> rfl

/-! ## Steps

A step of the pool below is a run above, often of one step and sometimes of none. The values that
cells lose below are dropped above by `expire`. -/

/-- Only the values of the cells are seen. -/
theorem abs_congr (s : State) {pool : ResourcePool.State ConnectionRep}
    (hvalue : ∀ j, (pool.storage.cells j).value = (s.pool.storage.cells j).value) :
    abs { s with pool } = abs s := by
  simp only [abs, State.value, hvalue]

/-- A change of one cell. -/
theorem abs_eq_setCell {s t : State} {i : Nat} {c : Pool.Cell} (hcell : (abs t).cells i = c)
    (hcells : ∀ j, j ≠ i → (abs t).cells j = (abs s).cells j) (hlog : t.log = s.log) :
    abs t = (abs s).setCell i c := by
  have hupdate : (abs t).cells = Function.update (abs s).cells i c := by
    funext j
    by_cases hj : j = i
    · rw [hj, Function.update_self, hcell]
    · rw [Function.update_of_ne hj, hcells j hj]
  rw [Pool.State.setCell, ← hupdate]
  exact congrArg (Pool.State.mk _) hlog

theorem abs_setPlace (s : State) (i : Nat) (place : Place) :
    abs (s.setPlace i place) = (abs s).setCell i { (abs s).cells i with place } := by
  apply abs_eq_setCell
  · simp [abs, State.setPlace, State.value]
  · intro j hj
    simp [abs, State.setPlace, State.value, hj]
  · rfl

theorem abs_record (s : State) (e : Event) : abs (s.record e) = (abs s).record e := rfl

/-- The wrapper looks at the value and at nothing below it. -/
theorem abs_onHandle (s : State) (i : Nat) : abs (s.onHandle i) = (abs s).onHandle i := by
  have hvalue : ((abs s).cells i).value = s.value i := rfl
  unfold State.onHandle Pool.State.onHandle
  rw [hvalue]
  cases s.value i with
  | none => exact abs_setPlace s i .connecting
  | some rep =>
      simp only
      split
      · rw [abs_record, abs_setPlace]
        rfl
      · exact abs_setPlace s i .connecting

theorem abs_modify (s : State) (i : Nat) (f : ConnectionRep → ConnectionRep) :
    abs (s.modify i f) = (abs s).modify i f := by
  apply abs_eq_setCell
  · simp [abs, State.modify, State.value, ResourcePool.PoolImpl.modify, Storage.modify]
  · intro j hj
    simp [abs, State.modify, State.value, ResourcePool.PoolImpl.modify, Storage.modify, hj]
  · rfl

/-- A connection of the source is stored in the cell. -/
theorem abs_connected (now : TimePoint) (s : State) (i : Nat) (ec : ErrorCode)
    (target : Connection) :
    abs (s.connected now i ec (some target)) = (abs s).connected i ec (some target) := by
  simp only [State.connected, Pool.State.connected]
  rw [abs_record]
  congr 1
  apply abs_eq_setCell
  · simp [abs, State.setPlace, State.value, ResourcePool.PoolImpl.reset, Storage.modify]
  · intro j hj
    simp [abs, State.setPlace, State.value, ResourcePool.PoolImpl.reset, Storage.modify, hj]
  · rfl

/-- A cell that is recycled is free, and its value may have expired. -/
theorem run_recycle (now : TimePoint) (s : State) (i : Nat) (log : List Event) :
    ∃ ls, run Pool.step { (abs s).setCell i { (abs s).cells i with place := .free } with log } ls =
      some (abs { { s with pool := s.pool.recycle now i }.setPlace i .free with log }) := by
  -- a value that has reached the end of its life is dropped on the way to the next user
  obtain ⟨is, hsub, hdrops⟩ := s.pool.drops_recycle now i
  refine ⟨is.map .expire, run_expire ?_ ?_ rfl⟩
  · intro j hj
    obtain rfl := List.mem_singleton.mp (hsub hj)
    simp [Pool.State.setCell]
  · intro j
    have hvalue :
        (abs { { s with pool := s.pool.recycle now i }.setPlace i .free with log }).cells j =
          ⟨Function.update s.place i .free j, if j ∈ is then none else s.value j,
            s.generation j⟩ := by
      simp only [abs, State.setPlace, State.value, hdrops j]
    rw [hvalue]
    by_cases hji : j = i
    · subst hji
      by_cases hj : j ∈ is <;> simp [hj, Pool.State.setCell, abs]
    · have hj : j ∉ is := fun hj => hji (List.mem_singleton.mp (hsub hj))
      simp [hj, hji, Pool.State.setCell, abs]

theorem abs_waste (s : State) (i : Nat) :
    abs ({ s with pool := s.pool.waste i }.setPlace i .free) =
      (abs s).setCell i { (abs s).cells i with place := .free, value := none } := by
  apply abs_eq_setCell
  · simp [abs, State.setPlace, State.value, s.pool.drops_waste i _]
  · intro j hj
    simp [abs, State.setPlace, State.value, s.pool.drops_waste i _, hj]
  · rfl

/-- A destroyed connection is wasted or recycled below, and free above. -/
theorem refines_destroy (now : TimePoint) {s : State} {i : Nat} (hplace : s.place i = .held) :
    ∃ ls, run Pool.step (abs s) ls = some (abs (s.destroy now i)) := by
  have hstep : Pool.step (abs s) (.destroy i) = some ((abs s).destroy i) := if_pos hplace
  suffices h : ∃ ls, run Pool.step ((abs s).destroy i) ls = some (abs (s.destroy now i)) by
    obtain ⟨ls, hls⟩ := h
    exact ⟨.destroy i :: ls, run_cons_eq_some.mpr ⟨_, hstep, hls⟩⟩
  have hvalue : ((abs s).cells i).value = s.value i := rfl
  unfold State.destroy Pool.State.destroy
  rw [hvalue]
  cases hrep : s.value i with
  | none => exact run_recycle now s i s.log
  | some rep =>
      simp only
      split
      · -- the handle is wasted, with the value
        refine ⟨[], ?_⟩
        rw [run_nil, abs_record, abs_waste]
        rfl
      · rw [← hrep]
        exact run_recycle now s i _

/-- A posted handler runs, with a cell or an error. -/
theorem refines_serve {capacity : Nat} {s : State} (h : Inv capacity s) {p : Posted}
    (hp : p ∈ s.pool.posted) : ∃ ls, run Pool.step (abs s) ls = some (abs (s.serve p)) := by
  unfold State.serve
  simp only
  split
  · next failure hresult =>
      refine ⟨[.acquireFailed (ofFailure failure)], run_cons_eq_some.mpr ⟨_, ?_, rfl⟩⟩
      exact if_pos (failed_ofFailure failure)
  · next i hresult =>
      have hcell : p.cell? = some i := by rw [Posted.cell?, hresult, Except.toOption]
      refine ⟨[.acquire i], run_cons_eq_some.mpr ⟨(abs s).onHandle i, ?_, ?_⟩⟩
      · exact if_pos (h.free_of_posted hp hcell)
      · rw [run_nil, abs_onHandle]
        rfl

/-- The source has answered. -/
theorem refines_connected (now : TimePoint) {s : State} {i : Nat} (hplace : s.place i = .connecting)
    (ec : ErrorCode) (conn : Option Connection) :
    ∃ ls, run Pool.step (abs s) ls = some (abs (s.connected now i ec conn)) := by
  have hstep : Pool.step (abs s) (.sourceDone i ec conn) = some ((abs s).connected i ec conn) :=
    if_pos hplace
  cases conn with
  | some target =>
      refine ⟨[.sourceDone i ec (some target)], run_cons_eq_some.mpr ⟨_, hstep, ?_⟩⟩
      rw [run_nil, abs_connected]
  | none =>
      obtain ⟨ls, hls⟩ := run_recycle now s i (.delivered ec none false :: s.log)
      exact ⟨.sourceDone i ec none :: ls, run_cons_eq_some.mpr ⟨_, hstep, hls⟩⟩

/-- Every step is a run of the pool over cells. -/
theorem refines_step {capacity : Nat} {s t : State} {l : Label} (h : Inv capacity s)
    (hstep : step s l = some t) : ∃ ls, run Pool.step (abs s) ls = some (abs t) := by
  cases l with
  | get now waitDuration =>
      cases hstep
      obtain ⟨is, hsub, hdrops⟩ := s.pool.drops_get now waitDuration
      exact run_of_drops hdrops fun i hi => h.free_of_available (hsub hi)
  -- requests and timers are not seen above
  | push now r =>
      obtain ⟨_, ⟨⟩⟩ := Option.ite_none_right_eq_some.mp hstep
      refine ⟨[], congrArg some (abs_congr s ?_).symm⟩
      intro j
      rw [ResourcePool.PoolImpl.storage_push]
  | timeout expiresAt | disable =>
      cases hstep
      exact ⟨[], rfl⟩
  -- all free values are dropped
  | invalidate =>
      cases hstep
      exact run_of_drops (Storage.drops_invalidate s.pool.storage)
        fun i hi => h.free_of_available hi
  | serve p =>
      obtain ⟨hp, ⟨⟩⟩ := Option.ite_none_right_eq_some.mp hstep
      exact refines_serve h hp
  | sourceDone now i ec conn =>
      obtain ⟨hplace, ⟨⟩⟩ := Option.ite_none_right_eq_some.mp hstep
      exact refines_connected now hplace ec conn
  | change i c =>
      cases hstep
      refine ⟨[.change i c], run_cons_eq_some.mpr ⟨_, rfl, ?_⟩⟩
      rw [run_nil, abs_modify]
  | setErrorContext i errorContext =>
      obtain ⟨hplace, ⟨⟩⟩ := Option.ite_none_right_eq_some.mp hstep
      refine ⟨[.setErrorContext i errorContext], run_cons_eq_some.mpr ⟨_, if_pos hplace, ?_⟩⟩
      rw [run_nil, abs_modify]
  | close i =>
      obtain ⟨hplace, ⟨⟩⟩ := Option.ite_none_right_eq_some.mp hstep
      refine ⟨[.close i], run_cons_eq_some.mpr ⟨_, if_pos hplace, ?_⟩⟩
      rw [run_nil, abs_modify]
  | cancel i =>
      obtain ⟨hplace, ⟨⟩⟩ := Option.ite_none_right_eq_some.mp hstep
      exact ⟨[.cancel i], run_cons_eq_some.mpr ⟨_, if_pos hplace, rfl⟩⟩
  | destroy now i =>
      obtain ⟨hplace, ⟨⟩⟩ := Option.ite_none_right_eq_some.mp hstep
      exact refines_destroy now hplace

/-! ## The invariant -/

/-- A handle is made for the cell of a posted handler. -/
theorem Inv.serve {capacity : Nat} {s : State} (h : Inv capacity s) {p : Posted}
    (hp : p ∈ s.pool.posted) : Inv capacity (s.serve p) := by
  unfold State.serve
  simp only
  split
  · next failure hresult =>
      refine ⟨h.pool.serve hp, ?_⟩
      have hhandles : (s.pool.serve p).handles = s.pool.handles := by
        simp [ResourcePool.PoolImpl.serve, hresult, Except.toOption]
      intro j
      show j ∈ (s.pool.serve p).handles ↔ _
      rw [hhandles]
      exact h.place j
  -- in every branch the cell leaves the free ones and has a handle
  · next i hresult =>
      have hcell : p.cell? = some i := by rw [Posted.cell?, hresult, Except.toOption]
      unfold State.onHandle
      split
      · split
        · exact h.take hp hcell (by simp) _
        · exact h.take hp hcell (by simp) _
      · exact h.take hp hcell (by simp) _

/-- The handle goes with the connection. -/
theorem Inv.destroy {capacity : Nat} {s : State} (h : Inv capacity s) (now : TimePoint) {i : Nat}
    (hplace : s.place i = .held) : Inv capacity (s.destroy now i) := by
  have hi : i ∈ s.pool.handles := (h.place i).mpr (by simp [hplace])
  have hrecycle (log : List Event) :=
    h.release (h.pool.recycle now hi) (ResourcePool.PoolImpl.handles_recycle now i s.pool) log
  unfold State.destroy
  split
  · simp only
    split
    · exact h.release (h.pool.waste hi) (ResourcePool.PoolImpl.handles_waste i s.pool) _
    · exact hrecycle _
  · exact hrecycle _

/-- A failed source gives the handle up again. -/
theorem Inv.connected {capacity : Nat} {s : State} (h : Inv capacity s) (now : TimePoint) {i : Nat}
    (hplace : s.place i = .connecting) (ec : ErrorCode) (conn : Option Connection) :
    Inv capacity (s.connected now i ec conn) := by
  have hi : i ∈ s.pool.handles := (h.place i).mpr (by simp [hplace])
  cases conn with
  | some target =>
      refine ⟨h.pool.reset now _ hi, fun j => ?_⟩
      show j ∈ s.pool.handles ↔ Function.update s.place i .held j ≠ .free
      rw [h.place j]
      by_cases hj : j = i
      · simp [hj, hplace]
      · simp [hj]
  | none =>
      exact h.release (h.pool.recycle now hi) (ResourcePool.PoolImpl.handles_recycle now i s.pool) _

/-- Handles and places change together. -/
theorem Inv.step {capacity : Nat} {s t : State} {l : Label} (h : Inv capacity s)
    (hstep : step s l = some t) : Inv capacity t := by
  cases l with
  | get now waitDuration =>
      cases hstep
      exact ⟨h.pool.get now waitDuration, by simpa using h.place⟩
  | push now r =>
      obtain ⟨_, ⟨⟩⟩ := Option.ite_none_right_eq_some.mp hstep
      exact ⟨h.pool.push now r, by simpa using h.place⟩
  | timeout expiresAt =>
      cases hstep
      exact ⟨h.pool.cancel expiresAt, h.place⟩
  | disable =>
      cases hstep
      exact ⟨h.pool.disable, h.place⟩
  | invalidate =>
      cases hstep
      exact ⟨h.pool.invalidate, h.place⟩
  | serve p =>
      obtain ⟨hp, ⟨⟩⟩ := Option.ite_none_right_eq_some.mp hstep
      exact h.serve hp
  -- the handle may go back here, when the source has failed
  | sourceDone now i ec conn =>
      obtain ⟨hplace, ⟨⟩⟩ := Option.ite_none_right_eq_some.mp hstep
      exact h.connected now hplace ec conn
  | change i c =>
      cases hstep
      exact ⟨h.pool.modify i _, h.place⟩
  | setErrorContext i errorContext | close i =>
      obtain ⟨_, ⟨⟩⟩ := Option.ite_none_right_eq_some.mp hstep
      exact ⟨h.pool.modify i _, h.place⟩
  | cancel i =>
      obtain ⟨_, ⟨⟩⟩ := Option.ite_none_right_eq_some.mp hstep
      exact h
  | destroy now i =>
      obtain ⟨hplace, ⟨⟩⟩ := Option.ite_none_right_eq_some.mp hstep
      exact h.destroy now hplace

/-! ## Runs -/

section Runs

variable {capacity queueCapacity : Nat} {idleTimeout lifespan : Duration} {ls : List Label}
  {s : State}

/-- Every run of the pool over the resource pool is a run of the pool over cells. -/
theorem refines (hrun : run step (init capacity queueCapacity idleTimeout lifespan) ls = some s) :
    ∃ ls', run Pool.step Pool.init ls' = some (abs s) :=
  run_simulation (I := Inv capacity) (f := abs)
    (fun _ _ _ h hstep => ⟨h.step hstep, refines_step h hstep⟩) (inv_init _ _ _ _) hrun

/-- The only cell of a pool goes from its first user to the second. -/
example :
    (run step (init 1 0 60 3600)
      [.get 1 0, .serve ⟨0, .ok 0⟩, .sourceDone 2 0 .success (some ⟨some ⟨.ok, .idle⟩, ⟨[]⟩, ""⟩),
        .destroy 3 0, .get 4 0, .serve ⟨1, .ok 0⟩]).map (·.log) =
      some [.delivered .success (some (⟨0, 1⟩, ⟨some ⟨.ok, .idle⟩, ⟨[]⟩, ""⟩)) true,
        .released ⟨0, 1⟩ (some ⟨.ok, .idle⟩),
        .delivered .success (some (⟨0, 1⟩, ⟨some ⟨.ok, .idle⟩, ⟨[]⟩, ""⟩)) false] := by
  decide

/-- So whatever it serves a second time, all earlier users have left good and idle. -/
theorem reuse_sound
    (hrun : run step (init capacity queueCapacity idleTimeout lifespan) ls = some s) :
    ReuseSound s.log := by
  obtain ⟨ls', hls'⟩ := refines hrun
  have hinv : Pool.Inv (abs s) :=
    run_invariant (fun _ _ _ h hstep => h.step hstep) Pool.inv_init hls'
  exact hinv.log

/-- The second user gets the connection that the first one has left. -/
theorem reuse_sound_second :
    ∃ s, run step (init 1 0 60 3600)
        [.get 1 0, .serve ⟨0, .ok 0⟩,
          .sourceDone 2 0 .success (some ⟨some ⟨.ok, .idle⟩, ⟨[]⟩, ""⟩), .destroy 3 0, .get 4 0,
          .serve ⟨1, .ok 0⟩] = some s ∧
      s.log.length = 3 ∧ ReuseSound s.log := by
  have hrun : run step (init 1 0 60 3600)
      [.get 1 0, .serve ⟨0, .ok 0⟩,
        .sourceDone 2 0 .success (some ⟨some ⟨.ok, .idle⟩, ⟨[]⟩, ""⟩), .destroy 3 0, .get 4 0,
        .serve ⟨1, .ok 0⟩] = some _ := rfl
  exact ⟨_, hrun, rfl, reuse_sound hrun⟩

/-- No two users hold the same connection: a cell has one handle at most. -/
theorem handle_unique
    (hrun : run step (init capacity queueCapacity idleTimeout lifespan) ls = some s) (i : Nat)
    (hplace : s.place i ≠ .free) : s.pool.out.count i = 1 := by
  have hinv : Inv capacity s :=
    run_invariant (fun _ _ _ h hstep => h.step hstep) (inv_init _ _ _ _) hrun
  have hmem : i ∈ s.pool.out := List.mem_append_right _ ((hinv.place i).mpr hplace)
  rw [hinv.pool.out_nodup.count, if_pos hmem]

end Runs

end OzoPg.Pool.Impl
