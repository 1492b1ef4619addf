import OzoPg.ResourcePool.Service

/-!
# The resource pool for threads

`sync/detail/pool_impl.hpp` and `sync/pool.hpp` of `contrib/resource_pool`. A thread that finds no
free cell blocks in a condition variable; a cell that comes back wakes one of those that do. The
critical sections are the steps, so between being woken and looking again a thread may be overtaken
by others, and its time may run out: `wait_for` then answers `timeout` although the thread has been
notified, and `get` gives up without looking.

Whatever `get` answers, `get_handle` makes a handle with a strategy and an iterator of it. After a
failure that is `list_iterator()`, which refers to no cell, in a handle that is not unusable.

* `wakeups_accounted` — while a thread is blocked every free cell is accounted for by a thread that
  was woken and has not looked again, or has given up without looking;
* `defined_iff_no_failure` — the behaviour of a program whose handles are all gone has been defined
  exactly if no `get` has failed.
-/

namespace OzoPg.ResourcePool.Sync

open Transition

/-! ## Threads and handles -/

/-- `sync::detail::pool_impl`, with the threads that are in `get`. -/
structure State (α : Type) where
  storage : Storage α
  disabled : Bool
  /-- The threads that are blocked in `wait_for`. -/
  blocked : List Nat
  /-- Those that are not any more, on their way to the mutex. -/
  woken : List Nat
  /-- The same, when it was their timeout that has ended the wait. -/
  expired : List Nat
  /-- The iterators of the handles that are not unusable; that of no cell is `none`. -/
  handles : List (Option Nat)
  /-- What the calls of `get` have returned, the latest first. -/
  returned : List (Nat × Except Failure Nat)
  /-- How many threads have been woken and have then found their time over. -/
  late : Nat
  /-- An iterator of no cell has been followed. -/
  undefined : Bool

variable {α : Type}

/-- A new pool. -/
def init (α : Type) (capacity : Nat) (idleTimeout lifespan : Duration) : State α where
  storage := .init α capacity idleTimeout lifespan
  disabled := false
  blocked := []
  woken := []
  expired := []
  handles := []
  returned := []
  late := 0
  undefined := false

namespace State

/-- The end of `get`, and `get_handle` around it. -/
def answer (s : State α) (thread : Nat) (result : Except Failure Nat) : State α :=
  { s with
    returned := (thread, result) :: s.returned
    handles := result.toOption :: s.handles }

/-- The loop of `get` under the mutex, up to its end or to `wait_for`. -/
def get (now : TimePoint) (thread : Nat) (s : State α) : State α :=
  if s.disabled then
    s.answer thread (.error .disabled)
  else
    match s.storage.lease now with
    | (some i, storage) => { s with storage }.answer thread (.ok i)
    | (none, storage) => { s with storage, blocked := s.blocked ++ [thread] }

/-- A blocked thread is blocked no longer. -/
def wake (s : State α) (thread : Nat) : State α :=
  { s with blocked := s.blocked.erase thread, woken := thread :: s.woken }

/-- `notify_one`, which wakes some thread if any is blocked. -/
def notifyOne (s : State α) : Option Nat → Option (State α)
  | none => if s.blocked = [] then some s else none
  | some thread => if thread ∈ s.blocked then some (s.wake thread) else none

/-- `notify_all`. -/
def notifyAll (s : State α) : State α :=
  { s with blocked := [], woken := s.blocked ++ s.woken }

/-- The handle with this iterator is given up. -/
def dropHandle (s : State α) (it : Option Nat) : State α :=
  { s with handles := s.handles.erase it }

/-- `recycle` of a handle. -/
def recycle (now : TimePoint) (it notified : Option Nat) (s : State α) : Option (State α) :=
  match it with
  | none => some { s.dropHandle none with undefined := true }
  | some i =>
    { s.dropHandle (some i) with storage := s.storage.recycle now i }.notifyOne notified

/-- `waste` of a handle. -/
def waste (it notified : Option Nat) (s : State α) : Option (State α) :=
  match it with
  | none => some { s.dropHandle none with undefined := true }
  | some i => { s.dropHandle (some i) with storage := s.storage.waste i }.notifyOne notified

/-- `handle::reset`, which follows the iterator too. -/
def reset (now : TimePoint) (it : Option Nat) (v : α) (s : State α) : State α :=
  match it with
  | none => { s with undefined := true }
  | some i =>
    { s with storage := s.storage.modify i fun c => { c with value := some v, resetTime := now } }

/-- `handle::empty` and `handle::get`. -/
def access (it : Option Nat) (s : State α) : State α :=
  match it with
  | none => { s with undefined := true }
  | some _ => s

/-- The threads that are in `get`. -/
def inside (s : State α) : List Nat := s.blocked ++ s.woken ++ s.expired

end State

/-- What happens to a pool. -/
inductive Label (α : Type) where
  | get (now : TimePoint) (thread : Nat)
  /-- A wait that ends for no reason. -/
  | wake (thread : Nat)
  /-- A wait that ends because its time is over. -/
  | expire (thread : Nat)
  /-- A woken thread gets the mutex in time. -/
  | resume (now : TimePoint) (thread : Nat)
  /-- A woken thread gets the mutex when its time is over. -/
  | oversleep (thread : Nat)
  /-- A thread whose wait has timed out gets the mutex. -/
  | giveUp (thread : Nat)
  | recycle (now : TimePoint) (it notified : Option Nat)
  | waste (it notified : Option Nat)
  | reset (now : TimePoint) (it : Option Nat) (v : α)
  | access (it : Option Nat)
  | disable
  | invalidate

/-- The step of a label, if the state enables it. There is none behind what is undefined. -/
def step (s : State α) (l : Label α) : Option (State α) :=
  if s.undefined then none
  else
    match l with
    | .get now thread => if thread ∈ s.inside then none else some (s.get now thread)
    | .wake thread => if thread ∈ s.blocked then some (s.wake thread) else none
    | .expire thread =>
      if thread ∈ s.blocked then
        some { s with blocked := s.blocked.erase thread, expired := thread :: s.expired }
      else none
    | .resume now thread =>
      if thread ∈ s.woken then
        some (State.get now thread { s with woken := s.woken.erase thread })
      else none
    | .oversleep thread =>
      if thread ∈ s.woken then
        some (State.answer { s with woken := s.woken.erase thread, late := s.late + 1 } thread
          (.error .getResourceTimeout))
      else none
    | .giveUp thread =>
      if thread ∈ s.expired then
        some (State.answer { s with expired := s.expired.erase thread } thread
          (.error .getResourceTimeout))
      else none
    | .recycle now it notified => if it ∈ s.handles then s.recycle now it notified else none
    | .waste it notified => if it ∈ s.handles then s.waste it notified else none
    | .reset now it v => if it ∈ s.handles then some (s.reset now it v) else none
    | .access it => if it ∈ s.handles then some (s.access it) else none
    | .disable => some { s with disabled := true }.notifyAll
    | .invalidate => some { s with storage := s.storage.invalidate }

/-! ## Steps by case -/

/-- The steps one by one. -/
inductive Step (s : State α) : State α → Prop where
  | get (now : TimePoint) (thread : Nat) : Step s (s.get now thread)
  | wake (thread : Nat) (hthread : thread ∈ s.blocked) : Step s (s.wake thread)
  | expire (thread : Nat) (hthread : thread ∈ s.blocked) :
      Step s { s with blocked := s.blocked.erase thread, expired := thread :: s.expired }
  | resume (now : TimePoint) (thread : Nat) (hthread : thread ∈ s.woken) :
      Step s (State.get now thread { s with woken := s.woken.erase thread })
  | oversleep (thread : Nat) (hthread : thread ∈ s.woken) :
      Step s (State.answer { s with woken := s.woken.erase thread, late := s.late + 1 } thread
        (.error .getResourceTimeout))
  | giveUp (thread : Nat) (hthread : thread ∈ s.expired) :
      Step s (State.answer { s with expired := s.expired.erase thread } thread
        (.error .getResourceTimeout))
  /-- A cell comes back to the storage, recycled or wasted. -/
  | back (i : Nat) (storage : Storage α) (notified : Option Nat) (t : State α)
      (hi : some i ∈ s.handles)
      (hstorage : (∃ now, storage = s.storage.recycle now i) ∨ storage = s.storage.waste i)
      (ht : { s.dropHandle (some i) with storage }.notifyOne notified = some t) : Step s t
  | reset (now : TimePoint) (i : Nat) (v : α) : Step s (s.reset now (some i) v)
  | access (i : Nat) : Step s (s.access (some i))
  /-- An iterator of no cell is followed. -/
  | undefined (handles : List (Option Nat)) (hnone : none ∈ s.handles)
      (hhandles : handles = s.handles ∨ handles = s.handles.erase none) :
      Step s { s with handles, undefined := true }
  | disable : Step s { s with disabled := true }.notifyAll
  | invalidate : Step s { s with storage := s.storage.invalidate }

/-- The step function takes one of the steps. -/
theorem Step.of_step {s t : State α} {l : Label α} (hstep : step s l = some t) :
    s.undefined = false ∧ Step s t := by
  unfold step at hstep
  split at hstep
  · cases hstep
  · next hdefined =>
      refine ⟨Bool.eq_false_iff.mpr hdefined, ?_⟩
      cases l with
      | get now thread =>
          obtain ⟨-, ⟨⟩⟩ := Option.ite_none_left_eq_some.mp hstep
          exact .get now thread
      | wake thread =>
          obtain ⟨hthread, ⟨⟩⟩ := Option.ite_none_right_eq_some.mp hstep
          exact .wake thread hthread
      | expire thread =>
          obtain ⟨hthread, ⟨⟩⟩ := Option.ite_none_right_eq_some.mp hstep
          exact .expire thread hthread
      | resume now thread =>
          obtain ⟨hthread, ⟨⟩⟩ := Option.ite_none_right_eq_some.mp hstep
          exact .resume now thread hthread
      | oversleep thread =>
          obtain ⟨hthread, ⟨⟩⟩ := Option.ite_none_right_eq_some.mp hstep
          exact .oversleep thread hthread
      | giveUp thread =>
          obtain ⟨hthread, ⟨⟩⟩ := Option.ite_none_right_eq_some.mp hstep
          exact .giveUp thread hthread
      -- the handle of a failure has no cell, and its iterator is followed all the same
      | recycle now it notified =>
          obtain ⟨hit, hstep⟩ := Option.ite_none_right_eq_some.mp hstep
          cases it with
          | none =>
              cases hstep
              exact .undefined _ hit (.inr rfl)
          | some i => exact .back i _ notified t hit (.inl ⟨now, rfl⟩) hstep
      | waste it notified =>
          obtain ⟨hit, hstep⟩ := Option.ite_none_right_eq_some.mp hstep
          cases it with
          | none =>
              cases hstep
              exact .undefined _ hit (.inr rfl)
          | some i => exact .back i _ notified t hit (.inr rfl) hstep
      | reset now it v =>
          obtain ⟨hit, ⟨⟩⟩ := Option.ite_none_right_eq_some.mp hstep
          cases it with
          | none => exact .undefined _ hit (.inl rfl)
          | some i => exact .reset now i v
      | access it =>
          obtain ⟨hit, ⟨⟩⟩ := Option.ite_none_right_eq_some.mp hstep
          cases it with
          | none => exact .undefined _ hit (.inl rfl)
          | some i => exact .access i
      | disable =>
          cases hstep
          exact .disable
      | invalidate =>
          cases hstep
          exact .invalidate

/-- What `notify_one` does. -/
theorem State.notifyOne_eq_some {s t : State α} {notified : Option Nat}
    (h : s.notifyOne notified = some t) :
    (s.blocked = [] ∧ t = s) ∨ ∃ thread ∈ s.blocked, t = s.wake thread := by
  cases notified with
  | none =>
      obtain ⟨hnil, ⟨⟩⟩ := Option.ite_none_right_eq_some.mp h
      exact .inl ⟨hnil, rfl⟩
  | some thread =>
      obtain ⟨hthread, ⟨⟩⟩ := Option.ite_none_right_eq_some.mp h
      exact .inr ⟨thread, hthread, rfl⟩

/-! ## Wake-ups

A thread blocks when every cell is held. One that comes back wakes a thread up, and until that
thread has run the cell is accounted for by it. -/

/-- The cells of the handles. -/
def State.held (s : State α) : List Nat := s.handles.filterMap id

/-- Each cell is in one place; and while a thread is blocked, every cell but `owed` of them is held
or accounted for by a thread that has been woken. -/
structure Inv (capacity owed : Nat) (s : State α) : Prop where
  cells : s.storage.all.Perm (List.range capacity)
  used : s.storage.used.Perm s.held
  disabled : s.disabled = true → s.blocked = []
  wakeups : s.blocked ≠ [] → capacity ≤ s.held.length + s.woken.length + s.late + owed

theorem inv_init (capacity : Nat) (idleTimeout lifespan : Duration) :
    Inv capacity 0 (init α capacity idleTimeout lifespan) where
  cells := List.Perm.refl _
  used := List.Perm.refl _
  disabled _ := rfl
  wakeups h := absurd rfl h

/-- Giving up a handle takes its cell off. -/
theorem held_dropHandle {s : State α} {i : Nat} (hi : some i ∈ s.handles) :
    s.held.Perm (i :: (s.dropHandle (some i)).held) :=
  (List.perm_cons_erase hi).filterMap id

namespace Inv

variable {capacity : Nat} {s : State α}

/-- There is nothing to lease only if every cell is held. -/
theorem length_held_of_lease {owed : Nat} (h : Inv capacity owed s) {now : TimePoint}
    {storage : Storage α} (hlease : s.storage.lease now = (none, storage)) :
    s.held.length = capacity := by
  obtain ⟨havailable, hwasted⟩ := Storage.free_eq_nil.mp (Storage.free_lease_of_none hlease)
  have hcells := ((s.storage.all_lease now).trans h.cells).length_eq
  have hused := s.storage.used_lease now
  rw [hlease] at hcells hused
  rw [Storage.all, havailable, hwasted, List.nil_append, List.append_nil, List.length_range,
    hused] at hcells
  rw [← h.used.length_eq, ← hcells]
  simp

/-- A thread that looks finds a cell, or leaves none free. -/
theorem get (h : Inv capacity 1 s) (now : TimePoint) (thread : Nat) :
    Inv capacity 0 (s.get now thread) := by
  have hcells := (s.storage.all_lease now).trans h.cells
  have hused := s.storage.used_lease now
  unfold State.get
  split
  -- a disabled pool has nobody blocked
  · next hdisabled =>
      refine ⟨h.cells, h.used, h.disabled, fun hblocked => ?_⟩
      exact absurd (h.disabled hdisabled) hblocked
  · next hdisabled =>
      split
      -- the cell that was owed is held now
      · next i storage hlease =>
          rw [hlease] at hcells hused
          refine ⟨hcells, ?_, h.disabled, fun hblocked => ?_⟩
          · show storage.used.Perm (i :: s.held)
            rw [hused]
            exact (List.perm_append_singleton i _).trans (h.used.cons i)
          · have hwakeups := h.wakeups hblocked
            show capacity ≤ (i :: s.held).length + s.woken.length + s.late + 0
            rw [List.length_cons]
            omega
      -- nothing could be leased, so every cell is held
      · next storage hlease =>
          have hfull := h.length_held_of_lease hlease
          rw [hlease] at hcells hused
          refine ⟨hcells, ?_, fun htrue => absurd htrue hdisabled, fun _ => ?_⟩
          · show storage.used.Perm s.held
            rw [hused]
            simpa using h.used
          · show capacity ≤ s.held.length + s.woken.length + s.late + 0
            omega

/-- A notification pays for a cell that has come back. -/
theorem notifyOne (h : Inv capacity 1 s) {notified : Option Nat} {t : State α}
    (ht : s.notifyOne notified = some t) : Inv capacity 0 t := by
  rcases State.notifyOne_eq_some ht with ⟨hnil, rfl⟩ | ⟨thread, hthread, rfl⟩
  · exact ⟨h.cells, h.used, h.disabled, fun hblocked => absurd hnil hblocked⟩
  · have hne : s.blocked ≠ [] := List.ne_nil_of_mem hthread
    refine ⟨h.cells, h.used, fun htrue => absurd (h.disabled htrue) hne, fun _ => ?_⟩
    have hwakeups := h.wakeups hne
    show capacity ≤ s.held.length + (thread :: s.woken).length + s.late + 0
    rw [List.length_cons]
    omega

/-- A cell that comes back is free from now on. -/
theorem back (h : Inv capacity 0 s) {i : Nat} (hi : some i ∈ s.handles) {storage : Storage α}
    (hstorage : (∃ now, storage = s.storage.recycle now i) ∨ storage = s.storage.waste i) :
    Inv capacity 1 { s.dropHandle (some i) with storage } := by
  have hheld := held_dropHandle hi
  have hmem : i ∈ s.storage.used := (h.used.trans hheld).mem_iff.mpr List.mem_cons_self
  have hall : storage.all.Perm s.storage.all := by
    rcases hstorage with ⟨now, rfl⟩ | rfl
    · exact Storage.all_recycle now hmem
    · exact Storage.all_waste hmem
  have hused : storage.used = s.storage.used.erase i := by
    rcases hstorage with ⟨now, rfl⟩ | rfl
    · exact Storage.used_recycle now s.storage i
    · rfl
  refine ⟨hall.trans h.cells, ?_, h.disabled, fun hblocked => ?_⟩
  · show storage.used.Perm (s.dropHandle (some i)).held
    have herase := (h.used.trans hheld).erase i
    rw [hused]
    rwa [List.erase_cons_head] at herase
  -- one cell less is held, and one is owed to whoever is woken up
  · have hwakeups := h.wakeups hblocked
    have hlength := hheld.length_eq
    rw [List.length_cons] at hlength
    show capacity ≤ (s.dropHandle (some i)).held.length + s.woken.length + s.late + 1
    omega

/-- While a thread is blocked, every cell stays held or accounted for. -/
theorem step {t : State α} (h : Inv capacity 0 s) (hstep : Step s t) : Inv capacity 0 t := by
  have herase (thread : Nat) (hne : s.blocked.erase thread ≠ []) : s.blocked ≠ [] := by
    intro hnil
    rw [hnil] at hne
    exact hne rfl
  cases hstep with
  | get now thread =>
      apply Inv.get
      exact ⟨h.cells, h.used, h.disabled, fun hblocked => Nat.le_succ_of_le (h.wakeups hblocked)⟩
  -- a thread that wakes up accounts for one cell
  | wake thread hthread =>
      refine ⟨h.cells, h.used, fun htrue => ?_, fun hblocked => ?_⟩
      · rw [h.disabled htrue] at hthread
        cases hthread
      · have hwakeups := h.wakeups (herase thread hblocked)
        show capacity ≤ s.held.length + (s.woken.length + 1) + s.late + 0
        omega
  | expire thread hthread =>
      refine ⟨h.cells, h.used, fun htrue => ?_, fun hblocked => h.wakeups (herase thread hblocked)⟩
      rw [h.disabled htrue] at hthread
      cases hthread
  -- it runs, and what it accounted for is owed again
  | resume now thread hthread =>
      apply Inv.get
      refine ⟨h.cells, h.used, h.disabled, fun hblocked => ?_⟩
      have hwakeups := h.wakeups hblocked
      have hlength := List.length_erase_of_mem hthread
      have hpos := List.length_pos_of_mem hthread
      show capacity ≤ s.held.length + (s.woken.erase thread).length + s.late + 1
      omega
  -- it was woken up but its time is over, so the cell stays accounted for
  | oversleep thread hthread =>
      refine ⟨h.cells, h.used, h.disabled, fun hblocked => ?_⟩
      have hwakeups := h.wakeups hblocked
      have hlength := List.length_erase_of_mem hthread
      have hpos := List.length_pos_of_mem hthread
      show capacity ≤ s.held.length + (s.woken.erase thread).length + (s.late + 1) + 0
      omega
  | giveUp thread hthread => exact ⟨h.cells, h.used, h.disabled, h.wakeups⟩
  | back i storage notified t hi hstorage ht => exact (h.back hi hstorage).notifyOne ht
  | reset now i v => exact ⟨h.cells, h.used, h.disabled, h.wakeups⟩
  | access i => exact h
  -- a handle of no cell adds nothing to the cells that are held
  | undefined handles hnone hhandles =>
      have hheld : s.held.Perm (handles.filterMap id) := by
        rcases hhandles with rfl | rfl
        · exact List.Perm.refl _
        · exact (List.perm_cons_erase hnone).filterMap id
      refine ⟨h.cells, h.used.trans hheld, h.disabled, fun hblocked => ?_⟩
      show capacity ≤ (handles.filterMap id).length + s.woken.length + s.late + 0
      rw [← hheld.length_eq]
      exact h.wakeups hblocked
  | disable => exact ⟨h.cells, h.used, fun _ => rfl, fun hblocked => absurd rfl hblocked⟩
  | invalidate =>
      exact ⟨s.storage.all_invalidate.trans h.cells, h.used, h.disabled, h.wakeups⟩

end Inv

/-- No cell is in two handles; and while a thread is blocked the pool is not disabled and every cell
is held, or accounted for by a thread that was woken and has not looked again or by one that has
given up without looking. -/
theorem wakeups_accounted (capacity : Nat) (idleTimeout lifespan : Duration) (ls : List (Label α))
    (s : State α) (hrun : run step (init α capacity idleTimeout lifespan) ls = some s) :
    s.held.Nodup ∧ (∀ i ∈ s.held, i < capacity) ∧
      (s.blocked ≠ [] →
        s.disabled = false ∧ capacity ≤ s.held.length + s.woken.length + s.late) := by
  have hinv : Inv capacity 0 s :=
    run_invariant (fun _ _ _ h hstep => h.step (Step.of_step hstep).2)
      (inv_init capacity idleTimeout lifespan) hrun
  have hnodup : s.storage.all.Nodup := hinv.cells.nodup_iff.mpr List.nodup_range
  unfold Storage.all at hnodup
  refine ⟨?_, fun i hi => ?_, fun hblocked => ⟨?_, hinv.wakeups hblocked⟩⟩
  · exact hinv.used.nodup_iff.mp (List.nodup_append.mp (List.nodup_append.mp hnodup).1).2.1
  · have hall : i ∈ s.storage.all :=
      List.mem_append_left _ (List.mem_append_right _ (hinv.used.mem_iff.mpr hi))
    exact List.mem_range.mp (hinv.cells.mem_iff.mp hall)
  · exact Bool.eq_false_iff.mpr fun htrue => hblocked (hinv.disabled htrue)

/-- Of two threads that wait for the only cell, the one that is woken oversleeps. The cell stays
free and the other thread blocked. -/
theorem wakeups_accounted_overslept :
    ∃ s, run step (init Nat 1 60 3600)
        [.get 0 1, .get 0 2, .get 0 3, .recycle 1 (some 0) (some 2), .oversleep 2] = some s ∧
      s.blocked = [3] ∧ s.held = [] ∧ s.woken = [] ∧
      1 ≤ s.held.length + s.woken.length + s.late := by
  have hrun : run step (init Nat 1 60 3600)
    [.get 0 1, .get 0 2, .get 0 3, .recycle 1 (some 0) (some 2), .oversleep 2] = some _ := rfl
  have h := wakeups_accounted 1 60 3600 _ _ hrun
  exact ⟨_, hrun, rfl, rfl, rfl, (h.2.2 (List.cons_ne_nil _ _)).2⟩

/-! ## Handles of nothing

`get_handle` makes a handle whether `get` has succeeded or not. The one of a failure has no cell,
and using it is undefined. -/

/-- A call of `get` that has failed. -/
def failed (r : Nat × Except Failure Nat) : Bool := r.2.toOption.isNone

/-- Each failure has left a handle of no cell, as long as none of these has been used. -/
structure Tally (s : State α) : Prop where
  defined : s.undefined = false → s.handles.count none = s.returned.countP failed
  undefined : s.undefined = true → 0 < s.returned.countP failed

theorem tally_init (capacity : Nat) (idleTimeout lifespan : Duration) :
    Tally (init α capacity idleTimeout lifespan) where
  defined _ := rfl
  undefined h := by cases h

/-- Steps that leave the handles and the answers alone, or lose the handle of a cell. -/
theorem Tally.congr {s t : State α} (h : Tally s) (hundefined : t.undefined = s.undefined)
    (hhandles : t.handles.count none = s.handles.count none) (hreturned : t.returned = s.returned) :
    Tally t := by
  refine ⟨fun hfalse => ?_, fun htrue => ?_⟩
  · rw [hhandles, hreturned]
    exact h.defined (hundefined.symm.trans hfalse)
  · rw [hreturned]
    exact h.undefined (hundefined.symm.trans htrue)

/-- A failure leaves a handle of no cell. -/
theorem Tally.answer {s : State α} (h : Tally s) (thread : Nat) (result : Except Failure Nat) :
    Tally (s.answer thread result) := by
  refine ⟨fun hfalse => ?_, fun htrue => ?_⟩
  · have hdefined := h.defined hfalse
    show (result.toOption :: s.handles).count none = ((thread, result) :: s.returned).countP failed
    rw [List.count_cons, List.countP_cons, hdefined]
    cases result <;> rfl
  · have hundefined := h.undefined htrue
    show 0 < ((thread, result) :: s.returned).countP failed
    rw [List.countP_cons]
    omega

theorem Tally.get {s : State α} (h : Tally s) (now : TimePoint) (thread : Nat) :
    Tally (s.get now thread) := by
  unfold State.get
  split
  · exact h.answer thread _
  · split
    · apply Tally.answer
      exact h.congr rfl rfl rfl
    · exact h.congr rfl rfl rfl

/-- Such a handle is counted until it is used. -/
theorem Tally.step {s t : State α} (h : Tally s) (hdefined : s.undefined = false)
    (hstep : Step s t) : Tally t := by
  cases hstep with
  | get now thread => exact h.get now thread
  | wake | expire | reset | disable | invalidate => exact h.congr rfl rfl rfl
  | access i => exact h
  | resume now thread =>
      apply Tally.get
      exact h.congr rfl rfl rfl
  | oversleep thread | giveUp thread =>
      apply Tally.answer
      exact h.congr rfl rfl rfl
  -- a handle with a cell is not that of a failure
  | back i storage notified t hi hstorage ht =>
      have hcount : (s.handles.erase (some i)).count none = s.handles.count none :=
        List.count_erase_of_ne (by simp)
      rcases State.notifyOne_eq_some ht with ⟨-, rfl⟩ | ⟨thread, -, rfl⟩
      · exact h.congr rfl hcount rfl
      · exact h.congr rfl hcount rfl
  | undefined handles hnone =>
      refine ⟨fun hfalse => ?_, fun _ => ?_⟩
      · cases hfalse
      · show 0 < s.returned.countP failed
        rw [← h.defined hdefined]
        exact List.count_pos_iff.mpr hnone

/-- A program whose handles are all gone has followed no iterator of no cell exactly if none of its
calls of `get` has failed. -/
theorem defined_iff_no_failure (capacity : Nat) (idleTimeout lifespan : Duration)
    (ls : List (Label α)) (s : State α)
    (hrun : run step (init α capacity idleTimeout lifespan) ls = some s) (hgone : s.handles = []) :
    s.undefined = false ↔ ∀ r ∈ s.returned, ∃ i, r.2 = .ok i := by
  have htally : Tally s :=
    run_invariant
      (fun _ _ _ h hstep => h.step (Step.of_step hstep).1 (Step.of_step hstep).2)
      (tally_init capacity idleTimeout lifespan) hrun
  have hfailed (r : Nat × Except Failure Nat) : ¬ failed r = true ↔ ∃ i, r.2 = .ok i := by
    obtain ⟨thread, result⟩ := r
    cases result <;> simp [failed, Except.toOption]
  simp only [← hfailed]
  -- no handles are left: each failure has been used, or there was none
  rw [← List.countP_eq_zero]
  constructor
  · intro hdefined
    rw [← htally.defined hdefined, hgone]
    rfl
  · intro hzero
    rw [Bool.eq_false_iff]
    intro hundefined
    have hpos := htally.undefined hundefined
    omega

/-- The second thread finds no cell and has no time. What it is given must not even be destroyed. -/
theorem defined_iff_no_failure_timeout :
    ∃ s, run step (init Nat 1 60 3600)
        [.get 0 1, .get 0 2, .expire 2, .giveUp 2, .recycle 1 (some 0) none,
          .recycle 1 none none] = some s ∧
      s.handles = [] ∧ (s.undefined = false ↔ ∀ r ∈ s.returned, ∃ i, r.2 = .ok i) ∧
      s.undefined = true := by
  have hrun : run step (init Nat 1 60 3600)
    [.get 0 1, .get 0 2, .expire 2, .giveUp 2, .recycle 1 (some 0) none,
      .recycle 1 none none] = some _ := rfl
  exact ⟨_, hrun, rfl, defined_iff_no_failure 1 60 3600 _ _ hrun rfl, rfl⟩

end OzoPg.ResourcePool.Sync
