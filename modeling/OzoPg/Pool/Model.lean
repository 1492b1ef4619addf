import OzoPg.Connection
import OzoPg.Error
import OzoPg.Lib.Transition
import Mathlib.Logic.Function.Basic

/-!
# The connection pool

`include/ozo/impl/connection_pool.h` over any connection source. The resource pool below it is
taken by its contract: an acquisition is answered by an error or by a handle of a free cell, empty
or with the value that was left there, and a handle that is destroyed leaves its value in the cell
unless `waste()` was called. That the resource pool keeps this contract is shown in
`OzoPg.Pool.Refinement`.

A cell is followed through three places: free, in the hands of `wrapper` while the source
connects, and in the hands of a `pooled_connection`. The log keeps what the acquirers were given
and in which state each `pooled_connection` left its connection, the latest event first.
-/

namespace OzoPg.Pool

/-- `connection_rep`. -/
structure ConnectionRep where
  safeHandle : Option PgConn
  oidMap : OidMap
  errorContext : String
  deriving DecidableEq, Repr

/-- Who has the handle of a cell. -/
inductive Place where
  | free
  | connecting
  | held
  deriving DecidableEq, Repr

/-- A cell of the resource pool; `generation` counts the connections it has been given. -/
structure Cell where
  place : Place
  value : Option ConnectionRep
  generation : Nat
  deriving DecidableEq, Repr

/-- A connection, by the cell it lives in and its generation there. -/
structure ConnectionId where
  cell : Nat
  generation : Nat
  deriving DecidableEq, Repr

/-- What can be observed of a pool. -/
inductive Event where
  /-- The handler of an acquisition is called, with a connection of the source or a reused one. -/
  | delivered (ec : ErrorCode) (conn : Option (ConnectionId × ConnectionRep)) (reused : Bool)
  /-- A `pooled_connection` is destroyed and leaves its native handle so. -/
  | released (id : ConnectionId) (handle : Option PgConn)
  deriving DecidableEq, Repr

structure State where
  cells : Nat → Cell
  log : List Event

/-- A new pool. -/
def init : State := ⟨fun _ => ⟨.free, none, 0⟩, []⟩

namespace State

/-- The connection in a cell. -/
def id (s : State) (i : Nat) : ConnectionId := ⟨i, (s.cells i).generation⟩

def setCell (s : State) (i : Nat) (c : Cell) : State :=
  { s with cells := Function.update s.cells i c }

def record (s : State) (e : Event) : State := { s with log := e :: s.log }

/-- A change of the value in a cell. -/
def modify (s : State) (i : Nat) (f : ConnectionRep → ConnectionRep) : State :=
  s.setCell i { s.cells i with value := (s.cells i).value.map f }

/-- `pooled_connection_wrapper::operator()` with the handle of a cell: a connection that is not
bad is reused, otherwise the source is asked. -/
def onHandle (s : State) (i : Nat) : State :=
  match (s.cells i).value with
  | some rep =>
    if !connectionStatusBad rep.safeHandle then
      (s.setCell i { s.cells i with place := .held }).record
        (.delivered .success (some (s.id i, rep)) true)
    else
      s.setCell i { s.cells i with place := .connecting }
  | none => s.setCell i { s.cells i with place := .connecting }

/-- `wrapper::operator()`: a connection of the source replaces the value of the handle, whatever
the code; without one the handle is destroyed as it is. -/
def connected (s : State) (i : Nat) (ec : ErrorCode) : Option Connection → State
  | some target =>
    let rep : ConnectionRep := ⟨target.handle, target.oidMap, target.errorContext⟩
    let generation := (s.cells i).generation + 1
    (s.setCell i ⟨.held, some rep, generation⟩).record
      (.delivered ec (some (⟨i, generation⟩, rep)) false)
  -- the value the source should have replaced goes back
  | none => (s.setCell i { s.cells i with place := .free }).record (.delivered ec none false)

/-- `~pooled_connection`. -/
def destroy (s : State) (i : Nat) : State :=
  match (s.cells i).value with
  | some rep =>
    let waste :=
      !connectionStatusOk rep.safeHandle || getTransactionStatus rep.safeHandle != .idle
    (s.setCell i
        { s.cells i with place := .free, value := if waste then none else some rep }).record
      (.released (s.id i) rep.safeHandle)
  | none => s.setCell i { s.cells i with place := .free }

end State

/-- What happens to a pool. -/
inductive Label where
  | acquireFailed (ec : ErrorCode)
  | acquire (i : Nat)
  /-- The source has called `wrapper`. -/
  | sourceDone (i : Nat) (ec : ErrorCode) (conn : Option Connection)
  /-- The connection in a cell changes its statuses. -/
  | change (i : Nat) (c : PgConn)
  | setErrorContext (i : Nat) (errorContext : String)
  | close (i : Nat)
  | cancel (i : Nat)
  | destroy (i : Nat)
  /-- The resource pool drops a value: idle timeout, lifespan or invalidation. -/
  | expire (i : Nat)
  deriving DecidableEq, Repr

/-- The step of a label, if the state enables it. -/
def step (s : State) : Label → Option State
  | .acquireFailed ec => if ec.failed then some (s.record (.delivered ec none false)) else none
  | .acquire i => if (s.cells i).place = .free then some (s.onHandle i) else none
  | .sourceDone i ec conn =>
    if (s.cells i).place = .connecting then some (s.connected i ec conn) else none
  | .change i c =>
    some (s.modify i fun rep => { rep with safeHandle := rep.safeHandle.map fun _ => c })
  | .setErrorContext i errorContext =>
    if (s.cells i).place = .held then some (s.modify i fun rep => { rep with errorContext })
    else none
  | .close i =>
    if (s.cells i).place = .held then
      some (s.modify i fun rep => { rep with safeHandle := none })
    else none
  | .cancel i => if (s.cells i).place = .held then some s else none
  | .destroy i => if (s.cells i).place = .held then some (s.destroy i) else none
  | .expire i =>
    if (s.cells i).place = .free then some (s.setCell i { s.cells i with value := none })
    else none

/-! ## Steps by case -/

/-- The connection can be given to another user. -/
def Reusable (handle : Option PgConn) : Prop :=
  ∃ c, handle = some c ∧ c.status = .ok ∧ c.transactionStatus = .idle

/-- The test of `~pooled_connection`. -/
theorem waste_eq_false_iff (handle : Option PgConn) :
    (!connectionStatusOk handle || getTransactionStatus handle != .idle) = false ↔
      Reusable handle := by
  cases handle with
  | none => simp [Reusable, connectionStatusOk]
  | some c => simp [Reusable, connectionStatusOk, getTransactionStatus_eq_idle_iff]

instance (handle : Option PgConn) : Decidable (Reusable handle) :=
  decidable_of_iff _ (waste_eq_false_iff handle)

open State

/-- The steps one by one, each with the condition that enables it. -/
inductive Step (s : State) : Label → State → Prop where
  | refused (ec : ErrorCode) (hec : ec.failed = true) :
      Step s (.acquireFailed ec) (s.record (.delivered ec none false))
  | reused (i : Nat) (rep : ConnectionRep) (hplace : (s.cells i).place = .free)
      (hvalue : (s.cells i).value = some rep)
      (hstatus : connectionStatusBad rep.safeHandle = false) :
      Step s (.acquire i) ((s.setCell i { s.cells i with place := .held }).record
        (.delivered .success (some (s.id i, rep)) true))
  | connecting (i : Nat) (hplace : (s.cells i).place = .free) :
      Step s (.acquire i) (s.setCell i { s.cells i with place := .connecting })
  | connected (i : Nat) (ec : ErrorCode) (target : Connection)
      (hplace : (s.cells i).place = .connecting) :
      Step s (.sourceDone i ec (some target)) (s.connected i ec (some target))
  | notConnected (i : Nat) (ec : ErrorCode) (hplace : (s.cells i).place = .connecting) :
      Step s (.sourceDone i ec none)
        ((s.setCell i { s.cells i with place := .free }).record (.delivered ec none false))
  | changed (i : Nat) (c : PgConn) :
      Step s (.change i c)
        (s.modify i fun rep => { rep with safeHandle := rep.safeHandle.map fun _ => c })
  | errorContextSet (i : Nat) (errorContext : String) (hplace : (s.cells i).place = .held) :
      Step s (.setErrorContext i errorContext) (s.modify i fun rep => { rep with errorContext })
  | closed (i : Nat) (hplace : (s.cells i).place = .held) :
      Step s (.close i) (s.modify i fun rep => { rep with safeHandle := none })
  | cancelled (i : Nat) (hplace : (s.cells i).place = .held) : Step s (.cancel i) s
  | recycled (i : Nat) (rep : ConnectionRep) (hplace : (s.cells i).place = .held)
      (hvalue : (s.cells i).value = some rep) (hreusable : Reusable rep.safeHandle) :
      Step s (.destroy i) ((s.setCell i { s.cells i with place := .free }).record
        (.released (s.id i) rep.safeHandle))
  | wasted (i : Nat) (rep : ConnectionRep) (hplace : (s.cells i).place = .held)
      (hvalue : (s.cells i).value = some rep) (hreusable : ¬ Reusable rep.safeHandle) :
      Step s (.destroy i) ((s.setCell i { s.cells i with place := .free, value := none }).record
        (.released (s.id i) rep.safeHandle))
  | emptied (i : Nat) (hplace : (s.cells i).place = .held) (hvalue : (s.cells i).value = none) :
      Step s (.destroy i) (s.setCell i { s.cells i with place := .free })
  | expired (i : Nat) (hplace : (s.cells i).place = .free) :
      Step s (.expire i) (s.setCell i { s.cells i with value := none })

theorem Step.of_destroy {s : State} {i : Nat} (hplace : (s.cells i).place = .held) :
    Step s (.destroy i) (s.destroy i) := by
  unfold State.destroy
  split
  · next rep hvalue =>
      simp only
      split
      · next hwaste =>
          refine .wasted i rep hplace hvalue fun hreusable => ?_
          rw [(waste_eq_false_iff _).mpr hreusable] at hwaste
          cases hwaste
      · next hwaste =>
          have hreusable := (waste_eq_false_iff _).mp (Bool.eq_false_iff.mpr hwaste)
          have h := Step.recycled i rep hplace hvalue hreusable
          rwa [← hvalue]
  · next hvalue => exact .emptied i hplace hvalue

/-- Every step is one of these. -/
theorem Step.of_step {s t : State} {l : Label} (h : step s l = some t) : Step s l t := by
  cases l with
  | acquireFailed ec =>
      obtain ⟨hec, ⟨⟩⟩ := Option.ite_none_right_eq_some.mp h
      exact .refused ec hec
  | acquire i =>
      obtain ⟨hplace, ⟨⟩⟩ := Option.ite_none_right_eq_some.mp h
      unfold onHandle
      split
      -- a stored connection is reused unless it is bad
      · next rep hvalue =>
          split
          · next hstatus => exact .reused i rep hplace hvalue (by simpa using hstatus)
          · exact .connecting i hplace
      · exact .connecting i hplace
  | sourceDone i ec conn =>
      obtain ⟨hplace, ⟨⟩⟩ := Option.ite_none_right_eq_some.mp h
      cases conn with
      | none => exact .notConnected i ec hplace
      | some target => exact .connected i ec target hplace
  | change i c =>
      cases h
      exact .changed i c
  | setErrorContext i errorContext =>
      obtain ⟨hplace, ⟨⟩⟩ := Option.ite_none_right_eq_some.mp h
      exact .errorContextSet i errorContext hplace
  | close i =>
      obtain ⟨hplace, ⟨⟩⟩ := Option.ite_none_right_eq_some.mp h
      exact .closed i hplace
  | cancel i =>
      obtain ⟨hplace, ⟨⟩⟩ := Option.ite_none_right_eq_some.mp h
      exact .cancelled i hplace
  | destroy i =>
      obtain ⟨hplace, ⟨⟩⟩ := Option.ite_none_right_eq_some.mp h
      exact .of_destroy hplace
  | expire i =>
      obtain ⟨hplace, ⟨⟩⟩ := Option.ite_none_right_eq_some.mp h
      exact .expired i hplace

/-- A changed cell among unchanged ones. -/
theorem forall_cells_setCell {P : Nat → Cell → Prop} {s : State} {i : Nat} {c : Cell}
    (h : ∀ j, j ≠ i → P j (s.cells j)) (hc : P i c) : ∀ j, P j ((s.setCell i c).cells j) := by
  intro j
  by_cases hj : j = i
  · subst hj
    simpa [setCell] using hc
  · simpa [setCell, hj] using h j hj

end OzoPg.Pool
