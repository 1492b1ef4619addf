import OzoPg.Pool.Model

/-!
# Native handles and descriptors

The part of `include/ozo/impl/connection.h` and `include/ozo/impl/connection_pool.h` that deals
with the operating system. A `PGconn` is owned by a `pg::conn`, which calls `PQfinish`, and that
closes the socket; a stream descriptor of Asio on the same socket waits for it and would close it
too, so it has to be released before. Both are moved around: from the variable in
`async_connect_op::perform` into a `connection`, from there into a cell of the pool, where a
`pooled_connection` puts a stream of its own on the socket.

The operations are written as the sequence of effects they have, in the order of the source, and
what must not happen is recorded.

* `run_pool` — the cells are those of `OzoPg.Pool.step`.
-/

namespace OzoPg.Descriptor

/-- A file descriptor. -/
abbrev Fd := Nat

/-- A `PGconn`, by its number among the results of `PQconnectStart`. -/
abbrev ConnId := Nat

/-- The `pg::conn`s: variables, the `retval` of `connection::release`, the `handle_` of a
`connection` and the `safe_handle_` in a cell of the pool. -/
inductive Holder where
  | var (v : Nat)
  | retval
  | connection (c : Nat)
  | cell (i : Nat)
  deriving DecidableEq, Repr

/-- The stream descriptors: the `socket_` of a `connection`, the `new_socket` of its `assign` and
the `stream_` of the `pooled_connection` that has the handle of a cell. -/
inductive Stream where
  | socket (c : Nat)
  | newSocket
  | pooled (i : Nat)
  deriving DecidableEq, Repr

/-- What must not happen. -/
inductive Fault where
  /-- `PQfinish` for a `PGconn` that is gone -/
  | finishedTwice (id : ConnId)
  | closedTwice (fd : Fd)
  /-- A stream with a descriptor is destroyed or assigned to, which closes the descriptor. -/
  | closedByStream (fd : Fd)
  /-- A descriptor is closed while a stream is on it. -/
  | dangling (fd : Fd)
  /-- A stream is put on a descriptor that has one. -/
  | assignedTwice (fd : Fd)
  deriving DecidableEq, Repr

/-- Something is given up twice, or by an object that does not own it. -/
def Fault.fatal : Fault → Bool
  | .finishedTwice _ | .closedTwice _ | .closedByStream _ => true
  | .dangling _ | .assignedTwice _ => false

/-- The operating system, libpq and the objects that deal with them. -/
structure Os where
  /-- the number of the next `PGconn` -/
  next : ConnId
  /-- the `PGconn`s that are not finished, with their sockets -/
  conns : ConnId → Option (Option Fd)
  opened : Fd → Bool
  handles : Holder → Option ConnId
  /-- the streams with a descriptor -/
  registered : List (Stream × Fd)
  faults : List Fault

namespace Os

/-! ## Effects -/

/-- `PQsocket`, for which a null pointer has no socket either. -/
def pqSocket (os : Os) (handle : Option ConnId) : Option Fd := (handle.bind os.conns).join

/-- There is a stream on the descriptor. -/
def hasStream (os : Os) (fd : Fd) : Bool := os.registered.any fun e => e.2 == fd

def close (os : Os) (fd : Fd) : Os :=
  { os with
    opened := Function.update os.opened fd false
    faults := os.faults ++ (if os.opened fd then [] else [.closedTwice fd])
      ++ (if os.hasStream fd then [.dangling fd] else []) }

/-- `PQfinish`. -/
def finish (os : Os) (id : ConnId) : Os :=
  match os.conns id with
  | none => { os with faults := os.faults ++ [.finishedTwice id] }
  | some none => { os with conns := Function.update os.conns id none }
  | some (some fd) => close { os with conns := Function.update os.conns id none } fd

/-- `pg::conn::operator=`: what the target had is finished behind the assignment. -/
def move (os : Os) (src dst : Holder) : Os :=
  let moved := { os with
    handles := Function.update (Function.update os.handles src none) dst (os.handles src) }
  match os.handles dst with
  | none => moved
  | some id => moved.finish id

/-- `pg::conn::reset`, also the destructor. -/
def reset (os : Os) (h : Holder) : Os :=
  let cleared := { os with handles := Function.update os.handles h none }
  match os.handles h with
  | none => cleared
  | some id => cleared.finish id

/-- A stream is put on a descriptor. -/
def register (os : Os) (st : Stream) (fd : Fd) : Os :=
  { os with
    registered := (st, fd) :: os.registered
    faults := os.faults ++ (if os.hasStream fd then [.assignedTwice fd] else []) }

/-- `release` of a stream. -/
def release (os : Os) (st : Stream) : Os :=
  { os with registered := os.registered.filter fun e => e.1 ≠ st }

/-- The destructor of a stream. -/
def destroyStream (os : Os) (st : Stream) : Os :=
  match os.registered.lookup st with
  | none => os
  | some fd => close { os.release st with faults := os.faults ++ [.closedByStream fd] } fd

/-- The move assignment of a stream. -/
def moveStream (os : Os) (src dst : Stream) : Os :=
  let os := os.destroyStream dst
  { os with registered := os.registered.map fun e => if e.1 = src then (dst, e.2) else e }

/-! ## `connection` -/

/-- `connection::assign` of the handle in a variable. -/
def assign (os : Os) (c v : Nat) : Os :=
  match os.pqSocket (os.handles (.var v)) with
  | none => os
  | some fd =>
    let os := os.register .newSocket fd
    let os := os.release (.socket c)
    let os := os.moveStream .newSocket (.socket c)
    let os := os.move (.var v) (.connection c)
    os.destroyStream .newSocket

/-- `connection::release`, with the result in `retval`. -/
def releaseHandle (os : Os) (c : Nat) : Os := (os.release (.socket c)).move (.connection c) .retval

/-- `connection::close`. -/
def closeConnection (os : Os) (c : Nat) : Os := (os.releaseHandle c).reset .retval

/-- `~connection` with the destructors of its members. -/
def destroyConnection (os : Os) (c : Nat) : Os :=
  ((os.closeConnection c).destroyStream (.socket c)).reset (.connection c)

/-! ## `pooled_connection` -/

/-- The constructor of `pooled_connection` with the handle of a cell. -/
def construct (os : Os) (i : Nat) : Os :=
  match os.pqSocket (os.handles (.cell i)) with
  | none => os
  | some fd => os.register (.pooled i) fd

/-- `wrapper::operator()` with a connection of the source. -/
def wrap (os : Os) (i c : Nat) : Os :=
  ((os.releaseHandle c).move .retval (.cell i)).construct i

/-- `pooled_connection::close`. -/
def closePooled (os : Os) (i : Nat) : Os := (os.release (.pooled i)).reset (.cell i)

/-- `~pooled_connection` with the destructor of its stream. -/
def destroyPooled (os : Os) (i : Nat) (waste : Bool) : Os :=
  let os := os.release (.pooled i)
  let os := if waste then os.reset (.cell i) else os
  os.destroyStream (.pooled i)

end Os

/-! ## The system -/

structure State where
  pool : Pool.State
  os : Os

def init : State where
  pool := Pool.init
  os :=
    { next := 0
      conns := fun _ => none
      opened := fun _ => false
      handles := fun _ => none
      registered := []
      faults := [] }

inductive Label where
  /-- `PQconnectStart` into a new variable -/
  | connectStart (v : Nat) (socket : Option Fd)
  /-- libpq closes the socket of a `PGconn`, because the connection is lost or to try another
  address -/
  | dropSocket (id : ConnId)
  | openSocket (id : ConnId) (fd : Fd)
  | assign (c v : Nat)
  | dropVariable (v : Nat)
  | release (c v : Nat)
  | close (c : Nat)
  | destroy (c : Nat)
  /-- `wrapper::operator()` for the cell with a connection of the source -/
  | wrap (i c : Nat) (ec : ErrorCode) (target : Connection)
  /-- anything else that happens to the pool -/
  | pool (l : Pool.Label)

/-- libpq closes a socket by itself. -/
def Label.drops : Label → Bool
  | .dropSocket _ => true
  | _ => false

/-- What a pool label does below, where `before` and `after` are the pool around it. -/
def Os.effect (os : Os) (before after : Pool.State) : Pool.Label → Os
  | .acquire i => if (after.cells i).place = .held then os.construct i else os
  | .close i => os.closePooled i
  | .destroy i =>
    os.destroyPooled i <| match (before.cells i).value with
      | some rep =>
        !connectionStatusOk rep.safeHandle || getTransactionStatus rep.safeHandle != .idle
      | none => false
  | .expire i => os.reset (.cell i)
  | _ => os

/-- The label of the pool, if it is one. -/
def Label.toPool : Label → Option Pool.Label
  | .wrap i _ ec target => some (.sourceDone i ec (some target))
  | .pool l => some l
  | _ => none

def step (s : State) : Label → Option State
  | .connectStart v socket =>
    if s.os.handles (.var v) = none ∧ ∀ fd ∈ socket, s.os.opened fd = false then
      some { s with os := { s.os with
        next := s.os.next + 1
        conns := Function.update s.os.conns s.os.next (some socket)
        opened := socket.elim s.os.opened fun fd => Function.update s.os.opened fd true
        handles := Function.update s.os.handles (.var v) (some s.os.next) } }
    else none
  | .dropSocket id =>
    match s.os.conns id with
    | some (some fd) => some { s with os :=
        { s.os with conns := Function.update s.os.conns id (some none) }.close fd }
    | _ => none
  | .openSocket id fd =>
    if s.os.conns id = some none ∧ s.os.opened fd = false then
      some { s with os := { s.os with
        conns := Function.update s.os.conns id (some (some fd))
        opened := Function.update s.os.opened fd true } }
    else none
  | .assign c v => some { s with os := s.os.assign c v }
  | .dropVariable v => some { s with os := s.os.reset (.var v) }
  | .release c v =>
    if s.os.handles (.var v) = none then
      some { s with os := (s.os.releaseHandle c).move .retval (.var v) }
    else none
  | .close c => some { s with os := s.os.closeConnection c }
  | .destroy c => some { s with os := s.os.destroyConnection c }
  | .wrap i c ec target =>
    -- the connection is as the pool sees it
    if target.handle.isSome = (s.os.handles (.connection c)).isSome then
      (Pool.step s.pool (.sourceDone i ec (some target))).map fun pool => ⟨pool, s.os.wrap i c⟩
    else none
  | .pool l =>
    match l with
    | .sourceDone _ _ (some _) => none
    | l => (Pool.step s.pool l).map fun pool => ⟨pool, s.os.effect s.pool pool l⟩

/-! ## The cells -/

/-- The cells do what those of the connection pool do. -/
theorem pool_of_step {s t : State} {l : Label} (hstep : step s l = some t) :
    match l.toPool with
    | none => t.pool = s.pool
    | some l => Pool.step s.pool l = some t.pool := by
  cases l with
  -- what happens outside of the pool leaves it alone
  | connectStart v socket | openSocket id fd | release c v =>
      obtain ⟨-, ⟨⟩⟩ := Option.ite_none_right_eq_some.mp hstep
      rfl
  | dropSocket id =>
      simp only [step] at hstep
      split at hstep
      · cases hstep
        rfl
      · cases hstep
  | assign c v | dropVariable v | close c | destroy c =>
      cases hstep
      rfl
  | wrap i c ec target =>
      obtain ⟨-, hmap⟩ := Option.ite_none_right_eq_some.mp hstep
      obtain ⟨pool, hpool, ⟨⟩⟩ := Option.map_eq_some_iff.mp hmap
      exact hpool
  | pool l =>
      simp only [step] at hstep
      split at hstep
      · cases hstep
      · obtain ⟨pool, hpool, ⟨⟩⟩ := Option.map_eq_some_iff.mp hstep
        exact hpool

/-- A run is one of the pool. -/
theorem run_pool {s t : State} {ls : List Label} (hrun : Transition.run step s ls = some t) :
    Transition.run Pool.step s.pool (ls.filterMap Label.toPool) = some t.pool := by
  induction ls generalizing s with
  | nil =>
      cases hrun
      rfl
  | cons l ls ih =>
      obtain ⟨u, hstep, hrun'⟩ := Transition.run_cons_eq_some.mp hrun
      have hpool := pool_of_step hstep
      rw [List.filterMap_cons]
      split
      · next hnone =>
          rw [hnone] at hpool
          rw [← hpool]
          exact ih hrun'
      · next l' hsome =>
          rw [hsome] at hpool
          exact Transition.run_cons_eq_some.mpr ⟨u.pool, hpool, ih hrun'⟩

end OzoPg.Descriptor
