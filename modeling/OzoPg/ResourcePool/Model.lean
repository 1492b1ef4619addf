import OzoPg.Lib.Transition
import OzoPg.ResourcePool.Storage

/-!
# The resource pool

`async/detail/pool_impl.hpp`, `async/detail/queue.hpp` and `handle.hpp` of
`contrib/resource_pool`, for values of any type. `get` answers with a free cell or an error, or
lets the request wait in the queue; a cell whose handle is given up goes to the first request that
waits, or back to the storage. Handlers are not called but posted, so they run in any order.

The critical sections of the source are the steps. `get` has two of them, one of the pool's mutex
and one of the queue's: between them another thread may put the cell back that `get` did not find.
-/

namespace OzoPg.ResourcePool

/-- `error::code`. -/
inductive Code where
  | ok
  | getResourceTimeout
  | requestQueueOverflow
  | disabled
  deriving DecidableEq, Repr

/-- A code a handler is told. -/
structure Failure where
  code : Code
  ne_ok : code ≠ .ok
  deriving DecidableEq

namespace Failure

def getResourceTimeout : Failure := ⟨.getResourceTimeout, nofun⟩

def requestQueueOverflow : Failure := ⟨.requestQueueOverflow, nofun⟩

def disabled : Failure := ⟨.disabled, nofun⟩

end Failure

/-- A request in the queue. -/
structure Request where
  id : Nat
  expiresAt : TimePoint
  deriving DecidableEq

/-- A posted handler with its arguments: an error or a cell. -/
structure Posted where
  id : Nat
  result : Except Failure Nat
  deriving DecidableEq

/-! ## The queue

The pool is made over a queue of any type. What it needs of one is here as a class. -/

/-- What the pool calls of its queue: `push` of a request, which tells whether there was room, `pop`
of the first one, and `pop` for as long as there is one. -/
class RequestQueue (Q : Type) where
  push : TimePoint → Nat × Duration → Q → Bool × Q
  pop : Q → Option Nat × Q
  popAll : Q → List Nat × Q

/-- A queue as the sequence of its requests. -/
structure Waiting where
  capacity : Nat
  requests : List Request
  deriving DecidableEq

namespace Waiting

def push (now : TimePoint) (r : Nat × Duration) (q : Waiting) : Bool × Waiting :=
  if q.requests.length < q.capacity then
    (true, { q with requests := q.requests ++ [⟨r.1, add now r.2⟩] })
  else
    (false, q)

def pop (q : Waiting) : Option Nat × Waiting :=
  match q.requests with
  | [] => (none, q)
  | r :: requests => (some r.id, { q with requests })

def popAll (q : Waiting) : List Nat × Waiting :=
  (q.requests.map Request.id, { q with requests := [] })

/-- `queue::cancel`, when the timer set for `expiresAt` has fired. The requests are given up in the
order of their times. -/
def cancel (expiresAt : TimePoint) (q : Waiting) : List Nat × Waiting :=
  let expired := q.requests.filter fun r => decide (r.expiresAt ≤ expiresAt)
  ((expired.mergeSort (·.expiresAt ≤ ·.expiresAt)).map Request.id,
    { q with requests := q.requests.filter fun r => !decide (r.expiresAt ≤ expiresAt) })

instance : RequestQueue Waiting := ⟨push, pop, popAll⟩

theorem pop_eq_none {q q' : Waiting} (h : RequestQueue.pop q = (none, q')) :
    q.requests = [] ∧ q' = q := by
  obtain ⟨capacity, requests⟩ := q
  cases requests with
  | nil =>
      cases h
      exact ⟨rfl, rfl⟩
  | cons r requests => cases h

theorem pop_eq_some {q q' : Waiting} {id : Nat} (h : RequestQueue.pop q = (some id, q')) :
    ∃ r, q.requests = r :: q'.requests ∧ r.id = id := by
  obtain ⟨capacity, requests⟩ := q
  cases requests with
  | nil => cases h
  | cons r requests =>
      cases h
      exact ⟨r, rfl, rfl⟩

theorem pop_of_nil {q : Waiting} (h : q.requests = []) : RequestQueue.pop q = (none, q) := by
  show pop q = _
  unfold pop
  rw [h]

theorem popAll_of_nil {q : Waiting} (h : q.requests = []) : RequestQueue.popAll q = ([], q) := by
  obtain ⟨capacity, requests⟩ := q
  obtain rfl : requests = [] := h
  rfl

theorem cancel_of_nil {q : Waiting} (h : q.requests = []) (expiresAt : TimePoint) :
    q.cancel expiresAt = ([], q) := by
  obtain ⟨capacity, requests⟩ := q
  obtain rfl : requests = [] := h
  show (List.map Request.id (List.mergeSort [] _), _) = _
  rw [List.mergeSort_nil]
  rfl

/-- A request with room in the queue goes to its end. -/
theorem push_eq_true {now : TimePoint} {r : Nat × Duration} {q q' : Waiting}
    (h : RequestQueue.push now r q = (true, q')) :
    q'.requests = q.requests ++ [⟨r.1, add now r.2⟩] := by
  change push now r q = _ at h
  unfold push at h
  split at h
  · cases h
    rfl
  · cases h

theorem push_eq_false {now : TimePoint} {r : Nat × Duration} {q q' : Waiting}
    (h : RequestQueue.push now r q = (false, q')) : q' = q := by
  change push now r q = _ at h
  unfold push at h
  split at h
  · cases h
  · cases h
    rfl

end Waiting

/-! ## The pool

Every critical section of `pool_impl` is a function on states. `get` has two of them, with the mutex
released in between. -/

/-- `pool_impl`, with the handlers and the handles that are out. -/
structure PoolImpl (Q α : Type) where
  storage : Storage α
  callbacks : Q
  disabled : Bool
  /-- Requests between the two sections of `get`, with their wait durations. -/
  unqueued : List (Nat × Duration)
  posted : List Posted
  /-- The cells of the handles. -/
  handles : List Nat
  /-- How many requests there have been; each is known by its number. -/
  requests : Nat
  /-- The requests whose handlers have been called, the latest first. -/
  answered : List Nat

variable {Q α : Type}

instance (r : Nat × Duration) (s : PoolImpl Q α) : Decidable (r ∈ s.unqueued) :=
  inferInstanceAs (Decidable (r ∈ s.unqueued))

namespace PoolImpl

/-- A new pool. -/
def init (α : Type) (callbacks : Q) (capacity : Nat) (idleTimeout lifespan : Duration) :
    PoolImpl Q α where
  storage := .init α capacity idleTimeout lifespan
  callbacks
  disabled := false
  unqueued := []
  posted := []
  handles := []
  requests := 0
  answered := []

/-- `asio::post`. -/
def post (s : PoolImpl Q α) (id : Nat) (result : Except Failure Nat) : PoolImpl Q α :=
  { s with posted := s.posted ++ [⟨id, result⟩] }

/-- `asio::post` for requests that have left the queue without a cell. -/
def fail (failure : Failure) (ids : List Nat) (s : PoolImpl Q α) : PoolImpl Q α :=
  { s with posted := s.posted ++ ids.map fun id => ⟨id, .error failure⟩ }

/-- `get` under the mutex of the pool. -/
def get (now : TimePoint) (waitDuration : Duration) (s : PoolImpl Q α) : PoolImpl Q α :=
  let id := s.requests
  let s := { s with requests := id + 1 }
  if s.disabled then
    -- dispatched, which may be a call at once
    s.post id (.error .disabled)
  else
    match s.storage.lease now with
    | (some i, storage) => { s with storage }.post id (.ok i)
    | (none, storage) =>
      if waitDuration = 0 then
        { s with storage }.post id (.error .getResourceTimeout)
      else
        { s with storage, unqueued := s.unqueued ++ [(id, waitDuration)] }

/-- A posted handler runs; with a cell it is given a handle. -/
def serve (p : Posted) (s : PoolImpl Q α) : PoolImpl Q α :=
  { s with
    posted := s.posted.erase p
    answered := p.id :: s.answered
    handles := p.result.toOption.toList ++ s.handles }

/-- `handle::reset`. -/
def reset (now : TimePoint) (i : Nat) (v : α) (s : PoolImpl Q α) : PoolImpl Q α :=
  { s with storage := s.storage.modify i fun c => { c with value := some v, resetTime := now } }

/-- The value of a cell changes in place. -/
def modify (i : Nat) (f : α → α) (s : PoolImpl Q α) : PoolImpl Q α :=
  { s with storage := s.storage.modify i fun c => { c with value := c.value.map f } }

/-- `pool_impl::invalidate`. -/
def invalidate (s : PoolImpl Q α) : PoolImpl Q α := { s with storage := s.storage.invalidate }

variable [RequestQueue Q]

/-- `get` from `queue::push` on. -/
def push (now : TimePoint) (r : Nat × Duration) (s : PoolImpl Q α) : PoolImpl Q α :=
  let s := { s with unqueued := s.unqueued.erase r }
  match RequestQueue.push now r s.callbacks with
  | (true, callbacks) => { s with callbacks }
  | (false, callbacks) => { s with callbacks }.post r.1 (.error .requestQueueOverflow)

/-- `pool_impl::recycle`. -/
def recycle (now : TimePoint) (i : Nat) (s : PoolImpl Q α) : PoolImpl Q α :=
  let s := { s with handles := s.handles.erase i }
  match RequestQueue.pop s.callbacks with
  | (none, callbacks) => { s with callbacks, storage := s.storage.recycle now i }
  | (some id, callbacks) =>
    let storage := if s.storage.isValid now i then s.storage else s.storage.resetValue i
    { s with storage, callbacks }.post id (.ok i)

/-- `pool_impl::waste`. -/
def waste (i : Nat) (s : PoolImpl Q α) : PoolImpl Q α :=
  let s := { s with handles := s.handles.erase i }
  match RequestQueue.pop s.callbacks with
  | (none, callbacks) => { s with callbacks, storage := s.storage.waste i }
  | (some id, callbacks) =>
    { s with storage := s.storage.resetValue i, callbacks }.post id (.ok i)

/-- `pool_impl::disable`. -/
def disable (s : PoolImpl Q α) : PoolImpl Q α :=
  let (ids, callbacks) := RequestQueue.popAll s.callbacks
  { s with disabled := true, callbacks }.fail .disabled ids

end PoolImpl

/-- The pool over the sequence of its requests. -/
abbrev State (α : Type) : Type := PoolImpl Waiting α

/-- A new pool. -/
def init (α : Type) (capacity queueCapacity : Nat) (idleTimeout lifespan : Duration) : State α :=
  .init α ⟨queueCapacity, []⟩ capacity idleTimeout lifespan

/-- The timer set for `expiresAt` has fired. -/
def PoolImpl.cancel (expiresAt : TimePoint) (s : State α) : State α :=
  let (ids, callbacks) := s.callbacks.cancel expiresAt
  { s with callbacks }.fail .getResourceTimeout ids

/-- What happens to a pool. -/
inductive Label (α : Type) where
  | get (now : TimePoint) (waitDuration : Duration)
  | push (now : TimePoint) (r : Nat × Duration)
  | serve (p : Posted)
  | recycle (now : TimePoint) (i : Nat)
  | waste (i : Nat)
  | reset (now : TimePoint) (i : Nat) (v : α)
  | modify (i : Nat) (f : α → α)
  /-- A timer that has been set again since may fire all the same. -/
  | cancel (expiresAt : TimePoint)
  | disable
  | invalidate

/-- The step of a label, if the state enables it. -/
def step (s : State α) : Label α → Option (State α)
  | .get now waitDuration => some (s.get now waitDuration)
  | .push now r => if r ∈ s.unqueued then some (s.push now r) else none
  | .serve p => if p ∈ s.posted then some (s.serve p) else none
  | .recycle now i => if i ∈ s.handles then some (s.recycle now i) else none
  | .waste i => if i ∈ s.handles then some (s.waste i) else none
  | .reset now i v => if i ∈ s.handles then some (s.reset now i v) else none
  | .modify i f => some (s.modify i f)
  | .cancel expiresAt => some (s.cancel expiresAt)
  | .disable => some s.disable
  | .invalidate => some s.invalidate

/-! ## Handles and values -/

namespace PoolImpl

theorem fail_nil (failure : Failure) (s : PoolImpl Q α) : s.fail failure [] = s := by
  unfold fail
  rw [List.map_nil, List.append_nil]

theorem cancel_of_nil {s : State α} (h : s.callbacks.requests = []) (expiresAt : TimePoint) :
    s.cancel expiresAt = s := by
  unfold cancel
  rw [Waiting.cancel_of_nil h]
  exact fail_nil _ s

theorem disable_of_nil {s : State α} (h : s.callbacks.requests = []) :
    s.disable = { s with disabled := true } := by
  unfold disable
  rw [Waiting.popAll_of_nil h]
  exact fail_nil _ _

@[simp] theorem handles_get (now : TimePoint) (waitDuration : Duration) (s : PoolImpl Q α) :
    (s.get now waitDuration).handles = s.handles := by
  unfold get
  simp only
  split
  · rfl
  · split
    · rfl
    · split <;> rfl

@[simp] theorem callbacks_get (now : TimePoint) (waitDuration : Duration) (s : PoolImpl Q α) :
    (s.get now waitDuration).callbacks = s.callbacks := by
  unfold get
  simp only
  split
  · rfl
  · split
    · rfl
    · split <;> rfl

/-- `get` drops values of available cells only. -/
theorem drops_get (now : TimePoint) (waitDuration : Duration) (s : PoolImpl Q α) :
    ∃ is, is ⊆ s.storage.available ∧
      Storage.Drops is s.storage (s.get now waitDuration).storage := by
  unfold get
  simp only
  split
  · exact ⟨[], List.nil_subset _, Storage.drops_nil fun _ => rfl⟩
  · obtain ⟨is, hsub, hdrops⟩ := Storage.drops_lease now s.storage
    refine ⟨is, hsub, ?_⟩
    split
    · next i storage hlease =>
        rw [hlease] at hdrops
        exact hdrops
    · next storage hlease =>
        rw [hlease] at hdrops
        split <;> exact hdrops

variable [RequestQueue Q]

@[simp] theorem handles_push (now : TimePoint) (r : Nat × Duration) (s : PoolImpl Q α) :
    (s.push now r).handles = s.handles := by
  unfold push
  simp only
  split <;> rfl

@[simp] theorem handles_recycle (now : TimePoint) (i : Nat) (s : PoolImpl Q α) :
    (s.recycle now i).handles = s.handles.erase i := by
  unfold recycle
  simp only
  split <;> rfl

@[simp] theorem handles_waste (i : Nat) (s : PoolImpl Q α) :
    (s.waste i).handles = s.handles.erase i := by
  unfold waste
  simp only
  split <;> rfl

theorem callbacks_push (now : TimePoint) (r : Nat × Duration) (s : PoolImpl Q α) :
    (s.push now r).callbacks = (RequestQueue.push now r s.callbacks).2 := by
  unfold push
  simp only
  split
  · next hpush => rw [hpush]
  · next hpush => rw [hpush, post]

/-- A cell that comes back takes the first request off the queue, if there is one. -/
theorem callbacks_recycle (now : TimePoint) (i : Nat) (s : PoolImpl Q α) :
    (s.recycle now i).callbacks = (RequestQueue.pop s.callbacks).2 := by
  unfold recycle
  simp only
  split
  · next hpop => rw [hpop]
  · next hpop => rw [hpop, post]

theorem callbacks_waste (i : Nat) (s : PoolImpl Q α) :
    (s.waste i).callbacks = (RequestQueue.pop s.callbacks).2 := by
  unfold waste
  simp only
  split
  · next hpop => rw [hpop]
  · next hpop => rw [hpop, post]

@[simp] theorem storage_push (now : TimePoint) (r : Nat × Duration) (s : PoolImpl Q α) :
    (s.push now r).storage = s.storage := by
  unfold push
  simp only
  split <;> rfl

/-- `recycle` drops the value of the cell or none. -/
theorem drops_recycle (now : TimePoint) (i : Nat) (s : PoolImpl Q α) :
    ∃ is, is ⊆ [i] ∧ Storage.Drops is s.storage (s.recycle now i).storage := by
  unfold recycle
  simp only
  split
  · exact Storage.drops_recycle now s.storage i
  · split
    · exact ⟨[], List.nil_subset _, Storage.drops_nil fun _ => rfl⟩
    · exact ⟨[i], List.Subset.refl _, Storage.drops_resetValue s.storage i⟩

/-- Wasting takes the value of its own cell only. -/
theorem drops_waste (i : Nat) (s : PoolImpl Q α) :
    Storage.Drops [i] s.storage (s.waste i).storage := by
  unfold waste
  simp only
  split
  · exact Storage.drops_waste s.storage i
  · exact Storage.drops_resetValue s.storage i

end PoolImpl

end OzoPg.ResourcePool
