import OzoPg.Connect.OidMap
import OzoPg.Request.Model
import OzoPg.Lib.Transition

/-!
# Connecting

`include/ozo/impl/async_connect.h` and `request_oid_map_op` of
`include/ozo/impl/request_oid_map.h`, as `connection_info` starts them: `PQconnectStart`, the
polling loop, the request for the oids of the registered types and, around all of it, the
deadline of a time constraint.

The labels are the answers of libpq, the completions of the waits, the end of the embedded
request and the timer. The connection may change its status at any time.
-/

namespace OzoPg.Connect

open Request (Wait Timer Deadline)

/-- `PostgresPollingStatusType`. -/
inductive PollingStatus where
  | failed
  | reading
  | writing
  | ok
  | active
  deriving DecidableEq, Repr

/-- Where the operation is. -/
inductive Pc where
  | connectStart
  /-- `assign`, with the handle it is given -/
  | socket (c : PgConn)
  | waiting
  | connectPoll
  | requestOidMap
  | finished
  deriving DecidableEq, Repr

/-- The state of a connect operation. `delivered` are the calls of the handler it was given, each
with the connection as the handler gets it. -/
structure State where
  pc : Pc
  wait : Wait
  conn : Connection
  deadline : Option Deadline
  delivered : List (ErrorCode × Connection)
  deriving DecidableEq, Repr

/-- `connection_info::operator()`: a connection with nothing known of its types. -/
def init (keys : List OidKey) (timed : Bool) : State :=
  { pc := .connectStart
    wait := .none
    conn := ⟨none, .fresh keys, ""⟩
    deadline := if timed then some .start else none
    delivered := [] }

/-- What `request_oid_map_op::operator()` calls its handler with. -/
def handlerCall (names : TypeNames) (conn : Connection) (ec : ErrorCode) (res : List Oid) :
    ErrorCode × Connection :=
  if ec.failed then
    (ec, conn)
  else
    match setOidMap conn.oidMap res with
    | (oidMap, none) => (ec, { conn with oidMap })
    | (oidMap, some e) =>
      -- what has been written before the exception stays in the map
      (.ofError .oidRequestFailed, { conn with oidMap, errorContext := e.what names })

/-- The connection as the embedded request leaves it: with an error context if it has failed. -/
def leftBy (conn : Connection) (ec : ErrorCode) (errorContext : String) : Connection :=
  if ec.failed then { conn with errorContext } else conn

namespace State

/-- The handler under the oid map request: that of the user, or `io_deadline_handler`, where the
second of the two calls delivers. -/
def handler (s : State) (ec : ErrorCode) : State :=
  match s.deadline with
  | none => { s with delivered := s.delivered ++ [(ec, s.conn)] }
  | some d =>
    if d.firstCall - 1 ≠ 0 then
      { s with deadline := some (d.call ec) }
    else
      { s with deadline := some (d.call ec), delivered := s.delivered ++ [(d.ec, s.conn)] }

/-- The operation ends with a call of the handler. -/
def finish (s : State) (ec : ErrorCode) : State := handler { s with pc := .finished } ec

/-- `async_connect_op::done`, into `request_oid_map_handler` unless the oid map is empty. -/
def done (s : State) (ec : ErrorCode) : State :=
  if s.conn.oidMap.entries = [] then
    -- there is no oid map request around the handler
    s.finish ec
  else if ec.failed then
    s.finish ec
  else
    { s with pc := .requestOidMap }

/-- A failed connection does not request oids. -/
theorem done_of_failed {ec : ErrorCode} (hec : ec.failed = true) (s : State) :
    s.done ec = s.finish ec := by
  rw [done, if_pos hec, ite_self]

/-- `async_connect_op::operator()` up to its call of `PQconnectPoll`. -/
def poll (s : State) (ec : ErrorCode) : State :=
  if ec.failed then
    let errorContext :=
      if s.conn.errorContext = "" then "error while connection polling" else s.conn.errorContext
    done { s with conn := { s.conn with errorContext } } ec
  else
    { s with pc := .connectPoll }

/-- `request_oid_map_op::operator()`. -/
def requestOidMapOp (names : TypeNames) (s : State) (ec : ErrorCode) (res : List Oid) : State :=
  finish { s with conn := (handlerCall names s.conn ec res).2 }
    (handlerCall names s.conn ec res).1

/-- `timer_handler::operator()`. -/
def timerHandler (s : State) (d : Deadline) : State :=
  if d.firstCall - 1 ≠ 0 then
    { s with wait := s.wait.cancel, deadline := some d.expire }
  else
    { s with deadline := some d.expire, delivered := s.delivered ++ [(d.ec, s.conn)] }

end State

/-- What happens next. The embedded request ends with a code, the oids it has received and, when
it fails, the error context it leaves. -/
inductive Label where
  | connectStart (handle : Option PgConn)
  | socket (ok : Bool)
  | connectPoll (r : PollingStatus)
  | ready (ec : ErrorCode)
  | deliverWait
  | oidsRequested (ec : ErrorCode) (res : List Oid) (errorContext : String)
  | change (c : PgConn)
  | timerExpired
  | deliverTimer
  deriving DecidableEq, Repr

open State

/-- The answer of `PQconnectStart`, in `async_connect_op::perform`. -/
def afterConnectStart (s : State) (handle : Option PgConn) : State :=
  match handle with
  | none => s.done (.ofError .pqConnectionStartFailed)
  | some c =>
    if connectionStatusBad (some c) then s.done (.ofError .pqConnectionStatusBad)
    else { s with pc := .socket c }

/-- The answer of `PQconnectPoll`. -/
def afterConnectPoll (s : State) : PollingStatus → State
  | .ok => s.done .success
  | .writing | .reading => { s with pc := .waiting, wait := .pending }
  | .failed | .active => s.done (.ofError .pqConnectPollFailed)

/-- The step of a label, if the state enables it. Completions are delivered while no call of libpq
is going on. -/
def step (names : TypeNames) (s : State) : Label → Option State
  | .connectStart handle =>
    if s.pc = .connectStart then some (afterConnectStart s handle) else none
  | .socket ok =>
    match s.pc with
    | .socket c =>
      some (if ok then
          { s with pc := .waiting, wait := .pending, conn := { s.conn with handle := some c } }
        else s.done (.ofError .pqSocketFailed))
    | _ => none
  | .connectPoll r => if s.pc = .connectPoll then some (afterConnectPoll s r) else none
  | .ready ec => if s.wait = .pending then some { s with wait := .queued ec } else none
  | .deliverWait =>
    match s.pc, s.wait with
    | .waiting, .queued ec => some (poll { s with wait := .none } ec)
    | _, _ => none
  | .oidsRequested ec res errorContext =>
    if s.pc = .requestOidMap then
      some (requestOidMapOp names { s with conn := leftBy s.conn ec errorContext } ec res)
    else none
  | .change c =>
    match s.conn.handle with
    | some _ => some { s with conn := { s.conn with handle := some c } }
    | none => none
  | .timerExpired =>
    match s.deadline with
    | some d =>
      if d.timer = .pending then some { s with deadline := some { d with timer := .queued } }
      else none
    | none => none
  | .deliverTimer =>
    match s.pc, s.deadline with
    | .waiting, some d | .requestOidMap, some d | .finished, some d =>
      if d.timer = .queued then some (s.timerHandler d) else none
    | _, _ => none

/-- What a `connection_info` source may deliver: a code with a connection, after some run. -/
def Delivers (names : TypeNames) (keys : List OidKey) (ec : ErrorCode) (conn : Connection) : Prop :=
  ∃ timed ls s, Transition.run (step names) (init keys timed) ls = some s ∧
    (ec, conn) ∈ s.delivered

end OzoPg.Connect
