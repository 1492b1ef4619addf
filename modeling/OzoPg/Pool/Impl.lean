import OzoPg.Pool.Model
import OzoPg.ResourcePool.Model

/-!
# The connection pool over the resource pool

`include/ozo/impl/connection_pool.h` again, now with the resource pool below it: acquisitions are
requests of the resource pool, and a `pooled_connection` or the `wrapper` that waits for the source
holds the handle of a cell.
-/

namespace OzoPg.Pool

open ResourcePool (TimePoint Duration Posted Failure)

/-- `error::make_error_code` of the resource pool. -/
def ofFailure (failure : Failure) : ErrorCode := ⟨.resourcePool, failure.code.ctorIdx⟩

theorem failed_ofFailure (failure : Failure) : (ofFailure failure).failed = true := by
  obtain ⟨code, hcode⟩ := failure
  cases code with
  | ok => exact absurd rfl hcode
  | getResourceTimeout | requestQueueOverflow | disabled => rfl

namespace Impl

structure State where
  pool : ResourcePool.State ConnectionRep
  place : Nat → Place
  generation : Nat → Nat
  log : List Event

/-- A new pool. -/
def init (capacity queueCapacity : Nat) (idleTimeout lifespan : Duration) : State where
  pool := ResourcePool.init ConnectionRep capacity queueCapacity idleTimeout lifespan
  place _ := .free
  generation _ := 0
  log := []

namespace State

/-- The connection in a cell. -/
def id (s : State) (i : Nat) : ConnectionId := ⟨i, s.generation i⟩

/-- What `handle::get` refers to. -/
def value (s : State) (i : Nat) : Option ConnectionRep := (s.pool.storage.cells i).value

def setPlace (s : State) (i : Nat) (place : Place) : State :=
  { s with place := Function.update s.place i place }

def record (s : State) (e : Event) : State := { s with log := e :: s.log }

/-- `pooled_connection_wrapper::operator()` with the handle of a cell. -/
def onHandle (s : State) (i : Nat) : State :=
  match s.value i with
  | some rep =>
    if !connectionStatusBad rep.safeHandle then
      (s.setPlace i .held).record (.delivered .success (some (s.id i, rep)) true)
    else
      s.setPlace i .connecting
  | none => s.setPlace i .connecting

/-- `on_get_handler`, which makes the handle. -/
def serve (p : Posted) (s : State) : State :=
  let s := { s with pool := s.pool.serve p }
  match p.result with
  | .error failure => s.record (.delivered (ofFailure failure) none false)
  | .ok i => s.onHandle i

/-- `wrapper::operator()`. The handle of a source that has failed is destroyed with the wrapper,
which recycles it. -/
def connected (now : TimePoint) (i : Nat) (ec : ErrorCode) (s : State) :
    Option Connection → State
  | some target =>
    let rep : ConnectionRep := ⟨target.handle, target.oidMap, target.errorContext⟩
    let generation := s.generation i + 1
    ({ s with
        pool := s.pool.reset now i rep
        generation := Function.update s.generation i generation }.setPlace i .held).record
      (.delivered ec (some (⟨i, generation⟩, rep)) false)
  | none =>
    ({ s with pool := s.pool.recycle now i }.setPlace i .free).record (.delivered ec none false)

/-- `~pooled_connection` and then `~handle`, unless `waste()` has given it up. -/
def destroy (now : TimePoint) (i : Nat) (s : State) : State :=
  match s.value i with
  | some rep =>
    let pool :=
      if !connectionStatusOk rep.safeHandle || getTransactionStatus rep.safeHandle != .idle then
        s.pool.waste i
      else
        s.pool.recycle now i
    ({ s with pool }.setPlace i .free).record (.released (s.id i) rep.safeHandle)
  | none => { s with pool := s.pool.recycle now i }.setPlace i .free

/-- A change of the value in a cell. -/
def modify (i : Nat) (f : ConnectionRep → ConnectionRep) (s : State) : State :=
  { s with pool := s.pool.modify i f }

end State

/-- What happens to a pool. -/
inductive Label where
  | get (now : TimePoint) (waitDuration : Duration)
  | push (now : TimePoint) (r : Nat × Duration)
  | timeout (expiresAt : TimePoint)
  | disable
  | invalidate
  | serve (p : Posted)
  | sourceDone (now : TimePoint) (i : Nat) (ec : ErrorCode) (conn : Option Connection)
  | change (i : Nat) (c : PgConn)
  | setErrorContext (i : Nat) (errorContext : String)
  | close (i : Nat)
  | cancel (i : Nat)
  | destroy (now : TimePoint) (i : Nat)
  deriving DecidableEq

/-- The step of a label, if the state enables it. -/
def step (s : State) : Label → Option State
  | .get now waitDuration => some { s with pool := s.pool.get now waitDuration }
  | .push now r =>
    if r ∈ s.pool.unqueued then some { s with pool := s.pool.push now r } else none
  | .timeout expiresAt => some { s with pool := s.pool.cancel expiresAt }
  | .disable => some { s with pool := s.pool.disable }
  | .invalidate => some { s with pool := s.pool.invalidate }
  | .serve p => if p ∈ s.pool.posted then some (s.serve p) else none
  | .sourceDone now i ec conn =>
    if s.place i = .connecting then some (s.connected now i ec conn) else none
  | .change i c =>
    some (s.modify i fun rep => { rep with safeHandle := rep.safeHandle.map fun _ => c })
  | .setErrorContext i errorContext =>
    if s.place i = .held then some (s.modify i fun rep => { rep with errorContext }) else none
  | .close i =>
    if s.place i = .held then some (s.modify i fun rep => { rep with safeHandle := none })
    else none
  | .cancel i => if s.place i = .held then some s else none
  | .destroy now i => if s.place i = .held then some (s.destroy now i) else none

end Impl

end OzoPg.Pool
