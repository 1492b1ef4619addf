import OzoPg.ResourcePool.Queue
import OzoPg.ResourcePool.Service

/-!
# The resource pool with its queue and its timers

`async/detail/pool_impl.hpp` once more, now over the queue as it is implemented and with the clock
and the timers that fire by it. Seen from outside this is the pool of `ResourcePool.Model`, where
the queue is the list of its requests and a timer may fire at any time: `refines_pool`. What the
timers add is when requests are given up:

* `timeout_not_early` — a request is told `get_resource_timeout` only after it has waited as long
  as it was to;
* `timeout_not_missed` — when the timers have nothing left to do, no request is late.
-/

namespace OzoPg.ResourcePool.Timed

open Transition

/-- The queue of a pool whose requests have the given execution contexts. -/
structure Callbacks (context : Nat → Nat) where
  queue : Queue Nat

variable {context : Nat → Nat} {α : Type}

instance : RequestQueue (Callbacks context) where
  push now r q := Prod.map id Callbacks.mk (q.queue.push (context r.1) now r.2 r.1)
  pop q := Prod.map id Callbacks.mk q.queue.pop
  popAll q := Prod.map id Callbacks.mk (q.queue.popAll q.queue.orderedRequests.length)

/-- `pool_impl` over the queue, with the clock. -/
structure State (context : Nat → Nat) (α : Type) where
  clock : TimePoint
  pool : PoolImpl (Callbacks context) α

/-- A new pool. -/
def init (context : Nat → Nat) (α : Type) (clock : TimePoint) (capacity queueCapacity : Nat)
    (idleTimeout lifespan : Duration) : State context α where
  clock
  pool := .init α ⟨.init Nat queueCapacity⟩ capacity idleTimeout lifespan

namespace State

/-- The queue itself. -/
def queue (s : State context α) : Queue Nat := s.pool.callbacks.queue

def setQueue (s : State context α) (q : Queue Nat) : State context α :=
  { s with pool := { s.pool with callbacks := ⟨q⟩ } }

/-- The handler of a wait runs: `queue::cancel`, which posts the handlers of late requests. -/
def complete (c : Completion) (s : State context α) : State context α :=
  let (late, q) := { s.queue with completions := s.queue.completions.erase c }.cancel c
  { s with pool := (s.setQueue q).pool.fail .getResourceTimeout late }

end State

/-- What happens to a pool and its timers. -/
inductive Label (α : Type) where
  | tick (clock : TimePoint)
  | get (waitDuration : Duration)
  | push (r : Nat × Duration)
  | serve (p : Posted)
  | recycle (i : Nat)
  | waste (i : Nat)
  | reset (i : Nat) (v : α)
  | modify (i : Nat) (f : α → α)
  /-- The timer of a context has reached its time. -/
  | expire (context : Nat)
  | complete (c : Completion)
  | disable
  | invalidate

/-- The step of a label, if the state enables it. -/
def step (s : State context α) : Label α → Option (State context α)
  | .tick clock => if s.clock ≤ clock then some { s with clock } else none
  | .get waitDuration => some { s with pool := s.pool.get s.clock waitDuration }
  | .push r =>
    if r ∈ s.pool.unqueued then some { s with pool := s.pool.push s.clock r } else none
  | .serve p => if p ∈ s.pool.posted then some { s with pool := s.pool.serve p } else none
  | .recycle i =>
    if i ∈ s.pool.handles then some { s with pool := s.pool.recycle s.clock i } else none
  | .waste i => if i ∈ s.pool.handles then some { s with pool := s.pool.waste i } else none
  | .reset i v =>
    if i ∈ s.pool.handles then some { s with pool := s.pool.reset s.clock i v } else none
  | .modify i f => some { s with pool := s.pool.modify i f }
  | .expire c => some (s.setQueue (s.queue.expire c s.clock))
  | .complete c => if c ∈ s.queue.completions then some (s.complete c) else none
  | .disable => some { s with pool := s.pool.disable }
  | .invalidate => some { s with pool := s.pool.invalidate }

/-! ## The pool without clock and timers

A function of the queue that goes along with `push` and `pop` makes a run of the pool over one
queue a run over the other. Here it takes the queue to the sequence of its requests. -/

section Map

variable {Q Q' : Type} (f : Q → Q') (s : PoolImpl Q α)

/-- The pool over another queue. -/
def map : PoolImpl Q' α where
  storage := s.storage
  callbacks := f s.callbacks
  disabled := s.disabled
  unqueued := s.unqueued
  posted := s.posted
  handles := s.handles
  requests := s.requests
  answered := s.answered

/-- A `get` does not look at the queue. -/
theorem map_get (now : TimePoint) (waitDuration : Duration) :
    map f (s.get now waitDuration) = (map f s).get now waitDuration := by
  unfold PoolImpl.get
  dsimp only [map]
  by_cases hdisabled : s.disabled
  · rw [if_pos hdisabled, if_pos hdisabled]
    rfl
  · rw [if_neg hdisabled, if_neg hdisabled]
    rcases s.storage.lease now with ⟨_ | i, storage⟩
    · by_cases hwait : waitDuration = 0
      · dsimp only
        rw [if_pos hwait, if_pos hwait]
        rfl
      · dsimp only
        rw [if_neg hwait, if_neg hwait]
    · rfl

variable [RequestQueue Q] [RequestQueue Q'] {f s}

/-- A push goes through, if the two queues agree on it. -/
theorem map_push {now : TimePoint} {r : Nat × Duration}
    (h : Prod.map id f (RequestQueue.push now r s.callbacks) =
      RequestQueue.push now r (f s.callbacks)) :
    map f (s.push now r) = (map f s).push now r := by
  unfold PoolImpl.push
  dsimp only [map]
  rw [← h]
  rcases RequestQueue.push now r s.callbacks with ⟨_ | _, q⟩ <;> rfl

section Pop

variable (h : Prod.map id f (RequestQueue.pop s.callbacks) = RequestQueue.pop (f s.callbacks))
include h

/-- So does a pop. -/
theorem map_recycle (now : TimePoint) (i : Nat) :
    map f (s.recycle now i) = (map f s).recycle now i := by
  unfold PoolImpl.recycle
  dsimp only [map]
  rw [← h]
  rcases RequestQueue.pop s.callbacks with ⟨_ | id, q⟩ <;> rfl

theorem map_waste (i : Nat) : map f (s.waste i) = (map f s).waste i := by
  unfold PoolImpl.waste
  dsimp only [map]
  rw [← h]
  rcases RequestQueue.pop s.callbacks with ⟨_ | id, q⟩ <;> rfl

end Pop

/-- So does emptying. -/
theorem map_disable
    (h : Prod.map id f (RequestQueue.popAll s.callbacks) =
      RequestQueue.popAll (f s.callbacks)) :
    map f s.disable = (map f s).disable := by
  unfold PoolImpl.disable
  dsimp only [map]
  rw [← h]
  rfl

end Map

/-- The requests in the queue. -/
def queued (q : Queue Nat) : List Request := q.requests.map fun r => ⟨r.1, r.2⟩

/-- The queue as the sequence of its requests. -/
def waiting (q : Queue Nat) : Waiting := ⟨q.capacity, queued q⟩

def Callbacks.waiting (callbacks : Callbacks context) : Waiting := Timed.waiting callbacks.queue

/-- The pool as `ResourcePool.Model` sees it. -/
def State.abs (s : State context α) : ResourcePool.State α := map Callbacks.waiting s.pool

/-- What a step is there: the clock is what the labels say, and only a wait that ended at its time
takes requests from the queue. -/
def Label.abs (s : State context α) : Label α → List (ResourcePool.Label α)
  | .tick _ | .expire _ | .complete (.aborted _) => []
  | .get waitDuration => [.get s.clock waitDuration]
  | .push r => [.push s.clock r]
  | .serve p => [.serve p]
  | .recycle i => [.recycle s.clock i]
  | .waste i => [.waste i]
  | .reset i v => [.reset s.clock i v]
  | .modify i f => [.modify i f]
  | .complete (.expired expiresAt) => [.cancel expiresAt]
  | .disable => [.disable]
  | .invalidate => [.invalidate]

/-- Only a push is a push above. -/
theorem Label.eq_push_of_abs {s : State context α} {l : Label α} {now : TimePoint}
    {r : Nat × Duration}
    (h : l.abs s = [.push now r]) : l = .push r ∧ now = s.clock := by
  cases l with
  | push r' =>
      cases h
      exact ⟨rfl, rfl⟩
  | complete c => cases c <;> simp [Label.abs] at h
  | _ => simp [Label.abs] at h

theorem Label.eq_get_of_abs {s : State context α} {l : Label α} {now : TimePoint} {w : Duration}
    (h : l.abs s = [.get now w]) : l = .get w := by
  cases l with
  | get w' =>
      cases h
      rfl
  | complete c => cases c <;> simp [Label.abs] at h
  | _ => simp [Label.abs] at h

theorem Label.eq_complete_of_abs {s : State context α} {l : Label α} {expiresAt : TimePoint}
    (h : l.abs s = [.cancel expiresAt]) : l = .complete (.expired expiresAt) := by
  cases l with
  | complete c =>
      cases c with
      | aborted t => cases h
      | expired t =>
          cases h
          rfl
  | _ => simp [Label.abs] at h

/-! ## The queue as a sequence -/

theorem length_queued (q : Queue Nat) : (queued q).length = q.requests.length :=
  List.length_map _

/-- A new request is the last in the order of the queue. -/
theorem waiting_push {q : Queue Nat} (h : q.Rep) (now : TimePoint) (r : Nat × Duration) :
    Prod.map id waiting (q.push (context r.1) now r.2 r.1) = (waiting q).push now r := by
  obtain ⟨hfits, hrequests⟩ := Queue.requests_push h (context r.1) now r.2 r.1
  have hcapacity := Queue.capacity_push (context r.1) now r.2 r.1 q
  rw [← length_queued] at hfits hrequests
  have hpush : Prod.map id waiting (q.push (context r.1) now r.2 r.1) =
      (decide ((queued q).length < q.capacity),
        ⟨q.capacity, queued (q.push (context r.1) now r.2 r.1).2⟩) := by
    rw [← hfits, ← hcapacity]
    rfl
  have hqueued : queued (q.push (context r.1) now r.2 r.1).2 =
      (if (queued q).length < q.capacity then q.requests ++ [(r.1, add now r.2)]
        else q.requests).map fun r => ⟨r.1, r.2⟩ := by
    rw [← hrequests]
    rfl
  rw [hpush, hqueued]
  -- both queues look at the same number of requests
  by_cases hlt : (queued q).length < q.capacity
  · have hroom : (waiting q).push now r =
      (true, ⟨q.capacity, queued q ++ [⟨r.1, add now r.2⟩]⟩) := if_pos hlt
    rw [hroom, if_pos hlt, decide_eq_true hlt, List.map_append]
    rfl
  · have hfull : (waiting q).push now r = (false, waiting q) := if_neg hlt
    rw [hfull, if_neg hlt, decide_eq_false hlt]
    rfl

/-- The first node is the first request. -/
theorem waiting_pop (q : Queue Nat) : Prod.map id waiting q.pop = (waiting q).pop := by
  obtain ⟨hfirst, hrest⟩ := Queue.requests_pop q
  have hcapacity := Queue.capacity_pop q
  unfold Waiting.pop Prod.map
  dsimp only [waiting, queued]
  rw [hfirst, hcapacity, hrest]
  cases q.requests <;> rfl

/-- The loop of `disable` empties the queue. -/
theorem waiting_popAll (q : Queue Nat) :
    Prod.map id waiting (q.popAll q.orderedRequests.length) = (waiting q).popAll := by
  have hlength : q.requests.length ≤ q.orderedRequests.length := by
    rw [Queue.requests, List.length_map]
  obtain ⟨hids, hnone⟩ := Queue.requests_popAll hlength
  have hcapacity := Queue.capacity_popAll q.orderedRequests.length q
  unfold Waiting.popAll Prod.map
  dsimp only [waiting, queued]
  rw [hids, hnone, hcapacity, List.map_map]
  rfl

/-- The order in which late requests are given up is that of the multimap. -/
theorem waiting_cancel {q : Queue Nat} (h : q.Rep) (expiresAt : TimePoint) :
    Prod.map id waiting (q.cancel (.expired expiresAt)) = (waiting q).cancel expiresAt := by
  obtain ⟨hlate, hrest⟩ := Queue.requests_cancel h expiresAt
  have hcapacity := Queue.capacity_cancel (.expired expiresAt) q
  have hfilter (p : TimePoint → Bool) : (queued q).filter (fun r => p r.expiresAt) =
      (q.requests.filter fun r => p r.2).map fun r => (⟨r.1, r.2⟩ : Request) := by
    rw [queued, List.filter_map]
    rfl
  -- sorting the nodes by their times is sorting the requests
  have hsort (l : List (Nat × TimePoint)) :
      (l.map fun r => (⟨r.1, r.2⟩ : Request)).mergeSort (fun r r' => r.expiresAt ≤ r'.expiresAt) =
        (l.mergeSort fun r r' => r.2 ≤ r'.2).map fun r => ⟨r.1, r.2⟩ := by
    refine (List.map_mergeSort ?_).symm
    intro r _ r' _
    rfl
  unfold Waiting.cancel Prod.map
  dsimp only [waiting]
  rw [hfilter fun t => !decide (t ≤ expiresAt), hfilter fun t => decide (t ≤ expiresAt), hsort,
    hcapacity, hlate, List.map_map]
  dsimp only [queued]
  rw [hrest]
  rfl

/-- The queue when the handler of a wait begins to run. -/
theorem rep_erase {q : Queue Nat} (h : q.Rep) (c : Completion) :
    { q with completions := q.completions.erase c }.Rep :=
  ⟨h.nodes, h.snd_entry, h.holds⟩

/-! ## Steps

Each label is a label of the pool without clock and timers, or none. The queue enters through the
four lemmas above and through `Queue.Rep`. -/

/-- The queue is in order. -/
structure Inv (s : State context α) : Prop where
  rep : s.queue.Rep
  timers : s.queue.Timers s.clock

theorem inv_init (context : Nat → Nat) (clock : TimePoint) (capacity queueCapacity : Nat)
    (idleTimeout lifespan : Duration) :
    Inv (init context α clock capacity queueCapacity idleTimeout lifespan) where
  rep := .init queueCapacity
  timers := .init clock queueCapacity

/-- What happens to the queue of the pool decides whether it is in order. -/
theorem Inv.of_queue {s : State context α} {pool : PoolImpl (Callbacks context) α} {q : Queue Nat}
    (hqueue : pool.callbacks = ⟨q⟩) (hrep : q.Rep) (htimers : q.Timers s.clock) :
    Inv { s with pool } where
  rep := by
    show pool.callbacks.queue.Rep
    rw [hqueue]
    exact hrep
  timers := by
    show pool.callbacks.queue.Timers s.clock
    rw [hqueue]
    exact htimers

theorem inv_complete {s : State context α} (h : Inv s) (c : Completion) : Inv (s.complete c) where
  rep := Queue.rep_cancel (rep_erase h.rep c) c
  timers := h.timers.complete c

/-- A wait that ended at its time is `cancel` above. -/
theorem abs_complete_expired {s : State context α} (h : Inv s) (expiresAt : TimePoint) :
    (s.complete (.expired expiresAt)).abs = s.abs.cancel expiresAt := by
  -- the sequence of the requests does not depend on the handlers that have yet to run
  have hcancel : _ = s.abs.callbacks.cancel expiresAt :=
    waiting_cancel (rep_erase h.rep (.expired expiresAt)) expiresAt
  unfold PoolImpl.cancel
  rw [← hcancel]
  rfl

/-- One that was aborted is nothing. -/
theorem abs_complete_aborted (s : State context α) (expiresAt : TimePoint) :
    (s.complete (.aborted expiresAt)).abs = s.abs :=
  PoolImpl.fail_nil .getResourceTimeout s.abs

/-- A step keeps the queue in order and is what the label says in the pool without timers. -/
theorem step_spec {s t : State context α} {l : Label α} (h : Inv s) (hstep : step s l = some t) :
    Inv t ∧ run ResourcePool.step s.abs (l.abs s) = some t.abs := by
  have hsingle : ∀ {l' : ResourcePool.Label α} {u : ResourcePool.State α},
      ResourcePool.step s.abs l' = some u → run ResourcePool.step s.abs [l'] = some u :=
    fun hu => run_cons_eq_some.mpr ⟨_, hu, rfl⟩
  cases l with
  | tick clock =>
      obtain ⟨hle, ⟨⟩⟩ := Option.ite_none_right_eq_some.mp hstep
      exact ⟨⟨h.rep, h.timers.tick hle⟩, rfl⟩
  | get waitDuration =>
      cases hstep
      refine ⟨Inv.of_queue (PoolImpl.callbacks_get _ _ _) h.rep h.timers, hsingle ?_⟩
      exact congrArg some (map_get _ s.pool s.clock waitDuration).symm
  -- the timer may have to be set anew, which above is nothing
  | push r =>
      obtain ⟨hr, ⟨⟩⟩ := Option.ite_none_right_eq_some.mp hstep
      refine ⟨.of_queue (PoolImpl.callbacks_push _ _ _) (Queue.rep_push h.rep _ _ _ _)
        (h.timers.push _ _ _ _), hsingle ?_⟩
      have habs := map_push (f := Callbacks.waiting) (s := s.pool)
        (waiting_push h.rep s.clock r)
      exact (if_pos hr).trans (congrArg some habs.symm)
  | serve p =>
      obtain ⟨hp, ⟨⟩⟩ := Option.ite_none_right_eq_some.mp hstep
      exact ⟨⟨h.rep, h.timers⟩, hsingle (if_pos hp)⟩
  | recycle i =>
      obtain ⟨hi, ⟨⟩⟩ := Option.ite_none_right_eq_some.mp hstep
      refine ⟨.of_queue (PoolImpl.callbacks_recycle _ _ _) (Queue.rep_pop h.rep) h.timers.pop,
        hsingle ?_⟩
      have habs := map_recycle (f := Callbacks.waiting) (s := s.pool)
        (waiting_pop s.queue) s.clock i
      exact (if_pos hi).trans (congrArg some habs.symm)
  | waste i =>
      obtain ⟨hi, ⟨⟩⟩ := Option.ite_none_right_eq_some.mp hstep
      refine ⟨.of_queue (PoolImpl.callbacks_waste _ _) (Queue.rep_pop h.rep) h.timers.pop,
        hsingle ?_⟩
      have habs := map_waste (f := Callbacks.waiting) (s := s.pool)
        (waiting_pop s.queue) i
      exact (if_pos hi).trans (congrArg some habs.symm)
  | reset i v =>
      obtain ⟨hi, ⟨⟩⟩ := Option.ite_none_right_eq_some.mp hstep
      exact ⟨⟨h.rep, h.timers⟩, hsingle (if_pos hi)⟩
  | modify i f =>
      cases hstep
      exact ⟨⟨h.rep, h.timers⟩, rfl⟩
  -- a timer that ends its wait queues a handler, and no request leaves
  | expire c =>
      cases hstep
      exact ⟨⟨⟨h.rep.nodes, h.rep.snd_entry, h.rep.holds⟩, h.timers.expire c⟩, rfl⟩
  -- only the handler of a wait that ended at its time gives requests up
  | complete c =>
      obtain ⟨_, ⟨⟩⟩ := Option.ite_none_right_eq_some.mp hstep
      refine ⟨inv_complete h c, ?_⟩
      cases c with
      | aborted expiresAt =>
          rw [abs_complete_aborted]
          rfl
      | expired expiresAt => exact hsingle (congrArg some (abs_complete_expired h expiresAt).symm)
  | disable =>
      cases hstep
      refine ⟨⟨Queue.rep_popAll _ h.rep, h.timers.popAll _⟩, hsingle ?_⟩
      exact congrArg some (map_disable (s := s.pool) (waiting_popAll s.queue)).symm
  | invalidate =>
      cases hstep
      exact ⟨⟨h.rep, h.timers⟩, rfl⟩

/-! ## Requests that are given up -/

/-- A request that is told `get_resource_timeout` was not to wait, or it was in the queue and the
timer has fired for a time that is not before its own. -/
theorem timeout_step {s t : ResourcePool.State α} {l : ResourcePool.Label α}
    (hstep : ResourcePool.step s l = some t) {p : Posted} (hp : p ∈ t.posted) (hnew : p ∉ s.posted)
    (hresult : p.result = .error .getResourceTimeout) :
    (∃ now, l = .get now 0) ∨
      ∃ expiresAt, l = .cancel expiresAt ∧
        ∃ r ∈ s.callbacks.requests, r.id = p.id ∧ r.expiresAt ≤ expiresAt := by
  cases l with
  | get now waitDuration =>
      cases hstep
      unfold ResourcePool.PoolImpl.get at hp
      simp only at hp
      split at hp
      -- a disabled pool tells another code
      · obtain rfl := (mem_post.mp hp).resolve_left hnew
        cases hresult
      · split at hp
        · obtain rfl := (mem_post.mp hp).resolve_left hnew
          cases hresult
        · split at hp
          · next hwait => exact Or.inl ⟨now, hwait ▸ rfl⟩
          · exact absurd hp hnew
  | push now r =>
      obtain ⟨_, ⟨⟩⟩ := Option.ite_none_right_eq_some.mp hstep
      unfold ResourcePool.PoolImpl.push at hp
      simp only at hp
      split at hp
      · exact absurd hp hnew
      · obtain rfl := (mem_post.mp hp).resolve_left hnew
        cases hresult
  | serve q =>
      obtain ⟨_, ⟨⟩⟩ := Option.ite_none_right_eq_some.mp hstep
      exact absurd (List.mem_of_mem_erase hp) hnew
  -- what is posted here has a cell
  | recycle now i =>
      obtain ⟨_, ⟨⟩⟩ := Option.ite_none_right_eq_some.mp hstep
      unfold ResourcePool.PoolImpl.recycle at hp
      simp only at hp
      split at hp
      · exact absurd hp hnew
      · obtain rfl := (mem_post.mp hp).resolve_left hnew
        cases hresult
  | waste i =>
      obtain ⟨_, ⟨⟩⟩ := Option.ite_none_right_eq_some.mp hstep
      unfold ResourcePool.PoolImpl.waste at hp
      simp only at hp
      split at hp
      · exact absurd hp hnew
      · obtain rfl := (mem_post.mp hp).resolve_left hnew
        cases hresult
  | reset now i v =>
      obtain ⟨_, ⟨⟩⟩ := Option.ite_none_right_eq_some.mp hstep
      exact absurd hp hnew
  | modify i f | invalidate =>
      cases hstep
      exact absurd hp hnew
  -- the late requests, and no others
  | cancel expiresAt =>
      cases hstep
      obtain ⟨id, hid, rfl⟩ := List.mem_map.mp ((List.mem_append.mp hp).resolve_left hnew)
      obtain ⟨r, hr, rfl⟩ := List.mem_map.mp hid
      obtain ⟨hr, hle⟩ := List.mem_filter.mp (List.mem_mergeSort.mp hr)
      exact Or.inr ⟨expiresAt, rfl, r, hr, rfl, of_decide_eq_true hle⟩
  | disable =>
      cases hstep
      obtain ⟨r, _, rfl⟩ := List.mem_map.mp ((List.mem_append.mp hp).resolve_left hnew)
      cases hresult

section Runs

variable {clock : TimePoint} {capacity queueCapacity : Nat} {idleTimeout lifespan : Duration}
  {ls : List (Label α)} {s : State context α}

theorem inv_of_run
    (hrun : run step (init context α clock capacity queueCapacity idleTimeout lifespan) ls =
      some s) : Inv s :=
  run_invariant (fun _ _ _ h hstep => (step_spec h hstep).1) (inv_init _ _ _ _ _ _) hrun

/-- A request was pushed in a run, to expire at a time. -/
def Pushed (start : State context α) (ls : List (Label α)) (r : Request) : Prop :=
  ∃ ls₁ w ls₂ s, ls = ls₁ ++ .push (r.id, w) :: ls₂ ∧
    run step start ls₁ = some s ∧ r.expiresAt = add s.clock w

theorem pushed_append {start : State context α} {ls : List (Label α)} {r : Request}
    (h : Pushed start ls r) (l : Label α) : Pushed start (ls ++ [l]) r := by
  obtain ⟨ls₁, w, ls₂, s, rfl, hrun, hexpires⟩ := h
  refine ⟨ls₁, w, ls₂ ++ [l], s, ?_, hrun, hexpires⟩
  rw [List.append_assoc, List.cons_append]

/-- The steps of the pool without timers that a step is. -/
theorem abs_of_step {s t : State context α} {l : Label α} (h : Inv s)
    (hstep : step s l = some t) :
    t.abs = s.abs ∨ ∃ l', l.abs s = [l'] ∧ ResourcePool.step s.abs l' = some t.abs := by
  have hrun := (step_spec h hstep).2
  cases hl : l.abs s with
  | nil =>
      rw [hl] at hrun
      exact Or.inl (Option.some.inj hrun).symm
  | cons l' ls =>
      obtain rfl : ls = [] := by
        cases l with
        | complete c => cases c <;> simp_all [Label.abs]
        | _ => simp_all [Label.abs]
      rw [hl] at hrun
      obtain ⟨u, hu, hnil⟩ := run_cons_eq_some.mp hrun
      cases hnil
      exact Or.inr ⟨l', rfl, hu⟩

/-- What is queued has been pushed, and expires when it was to. -/
theorem pushed_of_run
    (hrun : run step (init context α clock capacity queueCapacity idleTimeout lifespan) ls =
      some s) :
    ∀ r ∈ queued s.queue,
      Pushed (init context α clock capacity queueCapacity idleTimeout lifespan) ls r := by
  let start := init context α clock capacity queueCapacity idleTimeout lifespan
  have hhistory : run step start ls = some s ∧
      ∀ r ∈ queued s.queue, Pushed start ls r := by
    refine run_history (I := fun ls s => run step start ls = some s ∧
      ∀ r ∈ queued s.queue, Pushed start ls r) ?_ ⟨rfl, nofun⟩ hrun
    intro ls v l w ⟨hv, hpushed⟩ hstep
    have hw : run step start (ls ++ [l]) = some w :=
      run_append_eq_some.mpr ⟨v, hv, run_cons_eq_some.mpr ⟨w, hstep, rfl⟩⟩
    refine ⟨hw, fun r hr => ?_⟩
    -- a request is in the queue from before, or has been pushed by this step
    rcases abs_of_step (inv_of_run hv) hstep with habs | ⟨l', hl', habs⟩
    · have hsame : queued w.queue = queued v.queue :=
        congrArg (fun u => u.callbacks.requests) habs
      exact pushed_append (hpushed r (hsame ▸ hr)) l
    · rcases callbacks_step habs hr with hold | ⟨now, d, rfl, hexpires⟩
      · exact pushed_append (hpushed r hold) l
      · obtain ⟨rfl, rfl⟩ := Label.eq_push_of_abs hl'
        exact ⟨ls, d, [], v, rfl, hv, hexpires⟩
  exact hhistory.2

/-- A request is told `get_resource_timeout` at once if it was not to wait, and otherwise not
before it has waited as long as it was to. -/
theorem timeout_not_early
    (hrun : run step (init context α clock capacity queueCapacity idleTimeout lifespan) ls =
      some s)
    {l : Label α} {t : State context α} (hstep : step s l = some t) {p : Posted}
    (hp : p ∈ t.pool.posted) (hnew : p ∉ s.pool.posted)
    (hresult : p.result = .error .getResourceTimeout) :
    l = .get 0 ∨
      ∃ ls₁ w ls₂ s₁, ls = ls₁ ++ .push (p.id, w) :: ls₂ ∧
        run step (init context α clock capacity queueCapacity idleTimeout lifespan) ls₁ =
          some s₁ ∧
        add s₁.clock w ≤ s.clock := by
  have hinv := inv_of_run hrun
  rcases abs_of_step hinv hstep with habs | ⟨l', hl', habs⟩
  · have hsame : t.abs.posted = s.abs.posted := congrArg PoolImpl.posted habs
    exact absurd (hsame ▸ hp) hnew
  · rcases timeout_step habs hp hnew hresult with ⟨now, rfl⟩ | ⟨expiresAt, rfl, r, hr, hid, hle⟩
    · exact Or.inl (Label.eq_get_of_abs hl')
    -- a wait does not end before its time, and the request was due by then
    · obtain ⟨ls₁, w, ls₂, s₁, hls, hrun₁, hexpires⟩ := pushed_of_run hrun r hr
      obtain rfl := Label.eq_complete_of_abs hl'
      obtain ⟨hmem, _⟩ := Option.ite_none_right_eq_some.mp hstep
      refine Or.inr ⟨ls₁, w, ls₂, s₁, hid ▸ hls, hrun₁, ?_⟩
      rw [← hexpires]
      exact Int64.le_trans hle (hinv.timers.due _ hmem)

/-- When the timers have nothing to do, no request is late. -/
theorem timeout_not_missed
    (hrun : run step (init context α clock capacity queueCapacity idleTimeout lifespan) ls =
      some s)
    (hsettled : s.queue.Settled s.clock) : ∀ r ∈ s.queue.requests, s.clock < r.2 := by
  have hinv := inv_of_run hrun
  exact hinv.timers.not_late hinv.rep hsettled

/-- Every run of the pool with its queue and timers is a run of the pool without them. -/
theorem refines_pool
    (hrun : run step (init context α clock capacity queueCapacity idleTimeout lifespan) ls =
      some s) :
    ∃ ms, run ResourcePool.step (ResourcePool.init α capacity queueCapacity idleTimeout lifespan)
      ms = some s.abs := by
  refine run_simulation (I := Inv) (f := State.abs) ?_ (inv_init _ clock _ _ _ _) hrun
  intro s l t h hstep
  obtain ⟨hinv, habs⟩ := step_spec h hstep
  exact ⟨hinv, _, habs⟩

end Runs

/-- The second request waits for the only cell. -/
def oneWaits : List (Label Nat) := [.get 0, .get 5, .push (1, 5)]

theorem refines_pool_waiting :
    ∃ s, run step (init (fun _ => 0) Nat 0 1 1 10 10) oneWaits = some s ∧
      ∃ ms, run ResourcePool.step (ResourcePool.init Nat 1 1 10 10) ms = some s.abs := by
  have hrun : run step (init (fun _ => 0) Nat 0 1 1 10 10) oneWaits = some _ := rfl
  exact ⟨_, hrun, refines_pool hrun⟩

/-- While the timer has not reached its time, the request is not late. -/
theorem timeout_not_missed_waiting :
    ∃ s, run step (init (fun _ => 0) Nat 0 1 1 10 10) (oneWaits ++ [.tick 4]) = some s ∧
      s.queue.requests = [(1, 5)] ∧ ∀ r ∈ s.queue.requests, 4 < r.2 := by
  have hrun : run step (init (fun _ => 0) Nat 0 1 1 10 10) (oneWaits ++ [.tick 4]) = some _ := rfl
  refine ⟨_, hrun, by decide, timeout_not_missed hrun ⟨?_, by decide⟩⟩
  decide

/-- The handler of the wait runs, and the request is given up five units after it was made. -/
theorem timeout_not_early_waiting :
    ∃ s t, run step (init (fun _ => 0) Nat 0 1 1 10 10) (oneWaits ++ [.tick 5, .expire 0]) =
        some s ∧
      step s (.complete (.expired 5)) = some t ∧
      (Label.complete (.expired 5) = (.get 0 : Label Nat) ∨
        ∃ ls₁ w ls₂ s₁, oneWaits ++ [.tick 5, .expire 0] = ls₁ ++ .push (1, w) :: ls₂ ∧
          run step (init (fun _ => 0) Nat 0 1 1 10 10) ls₁ = some s₁ ∧
          add s₁.clock w ≤ s.clock) := by
  have hrun : run step (init (fun _ => 0) Nat 0 1 1 10 10) (oneWaits ++ [.tick 5, .expire 0]) =
    some _ := rfl
  refine ⟨_, _, hrun, rfl, ?_⟩
  exact timeout_not_early hrun rfl (p := ⟨1, .error .getResourceTimeout⟩) (by decide) (by decide)
    rfl

end OzoPg.ResourcePool.Timed
