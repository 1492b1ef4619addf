import OzoPg.Base36
import OzoPg.Error

/-!
# Requests

`include/ozo/impl/async_request.h`, the calls of `include/ozo/impl/io.h` it makes and
`include/ozo/detail/deadline.h`: a sender and a receiver that share one context.

Everything the two operations cannot decide themselves is a label of the transition system: the
answers of libpq, the outcome of the result processor, the moments at which the reactor finds a
wait or the timer complete, and the order in which completed waits are delivered on the strand.
Between two labels the code runs to its next call of libpq or back to the event loop (`Pc`).
-/

namespace OzoPg.Request

/-! ## Results -/

/-- `ExecStatusType` of libpq. -/
inductive ExecStatus where
  | emptyQuery
  | commandOk
  | tuplesOk
  | copyOut
  | copyIn
  | badResponse
  | nonfatalError
  | fatalError
  | copyBoth
  | singleTuple
  | pipelineSync
  | pipelineAborted
  | tuplesChunk
  deriving DecidableEq, Repr

/-- `get_result_status_name`. -/
def getResultStatusName : ExecStatus → String
  | .emptyQuery => "PGRES_EMPTY_QUERY"
  | .commandOk => "PGRES_COMMAND_OK"
  | .tuplesOk => "PGRES_TUPLES_OK"
  | .copyOut => "PGRES_COPY_OUT"
  | .copyIn => "PGRES_COPY_IN"
  | .badResponse => "PGRES_BAD_RESPONSE"
  | .nonfatalError => "PGRES_NONFATAL_ERROR"
  | .fatalError => "PGRES_FATAL_ERROR"
  | .copyBoth => "PGRES_COPY_BOTH"
  | .singleTuple => "PGRES_SINGLE_TUPLE"
  | .pipelineSync => "PGRES_PIPELINE_SYNC"
  | .pipelineAborted => "PGRES_PIPELINE_ABORTED"
  | .tuplesChunk => "PGRES_TUPLES_CHUNK"

/-- What a `PGresult` shows to the receiver: its status and its SQLSTATE field. -/
structure PgResult where
  status : ExecStatus
  sqlstate : Option (List Char)
  deriving DecidableEq, Repr

/-- `result_error`. -/
def resultError (r : PgResult) : ErrorCode :=
  match r.sqlstate with
  | some s => .ofSqlstate (b36tol s)
  | none => .ofError .noSqlStateFound

/-- The value of a SQLSTATE fits the `int` of an error code. -/
theorem resultError_eq {r : PgResult} {s : List Char} (hs : IsSqlstate s)
    (hr : r.sqlstate = some s) : resultError r = ⟨.sqlstate, b36tol s⟩ := by
  obtain ⟨hle, hlt⟩ := hs.b36tol_bounds
  have hnarrow : (Int32.ofInt (b36tol s)).toInt = b36tol s :=
    Int32.toInt_ofInt_of_le (by omega) (by omega)
  simp only [resultError, hr, ErrorCode.ofSqlstate, hnarrow]

/-! ## State

The two operations of a request run in turn, in one event loop. The position of the code, the waits
and what is shared in the context make up the state. -/

/-- `query_state`. -/
inductive QueryState where
  | error
  | sendFinish
  | sendInProgress
  deriving DecidableEq, Repr

/-- One of the two waits on the socket: not started, started, or completed and queued for
delivery. -/
inductive Wait where
  | none
  | pending
  | queued (ec : ErrorCode)
  deriving DecidableEq, Repr

/-- `cancel()` completes what is pending and leaves what is queued. -/
def Wait.cancel : Wait → Wait
  | .pending => .queued .operationAborted
  | w => w

/-- The wait has completed with an error. -/
def Wait.failed : Wait → Bool
  | .queued ec => ec.failed
  | _ => false

/-- The two loops of `async_get_result_op`: up to the first result, and behind it. -/
inductive Loop where
  | first
  | drain
  deriving DecidableEq, Repr

/-- Where the code is: in the event loop, or at a call whose answer is a label. -/
inductive Pc where
  | idle
  | setNonblocking
  | sendQueryParams
  | flush
  | isBusy (l : Loop)
  | consumeInput (l : Loop)
  | getResult (l : Loop)
  | process
  deriving DecidableEq, Repr

/-- The deadline timer's wait: started, queued for delivery, or delivered. -/
inductive Timer where
  | pending
  | queued
  | ran
  deriving DecidableEq, Repr

/-- `timer_.cancel()`. -/
def Timer.cancel : Timer → Timer
  | .pending => .queued
  | t => t

/-- How often the timer has called its handler. -/
def Timer.calls : Timer → Nat
  | .ran => 1
  | _ => 0

@[simp] theorem Timer.calls_cancel (t : Timer) : t.cancel.calls = t.calls := by
  cases t <;> rfl

theorem Timer.calls_le_one (t : Timer) : t.calls ≤ 1 := by
  cases t <;> decide

theorem Timer.calls_eq_one_iff (t : Timer) : t.calls = 1 ↔ t = .ran := by
  cases t <;> simp [Timer.calls]

/-- The context of `io_deadline_handler`, with the calls it made of the handler it wraps. -/
structure Deadline where
  firstCall : Int
  ec : ErrorCode
  timer : Timer
  delivered : List ErrorCode
  deriving DecidableEq, Repr

/-- The state of a request. `calls` are the invocations of the handler stored in the context,
`results` what `PQgetResult` returned and `waits` the number of waits started so far. -/
structure State where
  queryState : QueryState
  pc : Pc
  /-- `async_get_result` is still to be called by `async_request_op`. -/
  starting : Bool
  /-- The position of the coroutine: `none` before its first suspension. -/
  position : Option Loop
  readWait : Wait
  writeWait : Wait
  /-- `result_` -/
  result : Option PgResult
  errorContext : String
  deadline : Option Deadline
  calls : List ErrorCode
  results : List PgResult
  waits : Nat
  deriving DecidableEq, Repr

/-- The constructor of `io_deadline_handler`, which starts the timer. -/
def Deadline.start : Deadline := ⟨2, .success, .pending, []⟩

/-- `async_request_op::operator()` up to the first call of libpq, on a connection with some error
context and with a time constraint or not. -/
def init (errorContext : String) (timed : Bool) : State :=
  { queryState := .sendInProgress
    pc := .setNonblocking
    starting := true
    position := none
    readWait := .none
    writeWait := .none
    result := none
    errorContext
    deadline := if timed then some .start else none
    calls := []
    results := []
    waits := 0 }

/-- `io_deadline_handler::operator()`: the first of the two calls is kept for the other one,
which delivers what it finds. -/
def Deadline.call (d : Deadline) (ec : ErrorCode) : Deadline :=
  if d.firstCall - 1 ≠ 0 then
    { d with firstCall := d.firstCall - 1, timer := d.timer.cancel, ec }
  else
    { d with firstCall := d.firstCall - 1, delivered := d.delivered ++ [d.ec] }

/-- What `timer_handler::operator()` does to the context. The first of the two leaves `timed_out`
for whatever the operation will report. -/
def Deadline.expire (d : Deadline) : Deadline :=
  if d.firstCall - 1 ≠ 0 then
    { d with firstCall := d.firstCall - 1, ec := .timedOut, timer := .ran }
  else
    { d with firstCall := d.firstCall - 1, delivered := d.delivered ++ [d.ec], timer := .ran }

/-- The timer comes first: it leaves its code for the other call. -/
theorem Deadline.expire_of_first {d : Deadline} (h : d.firstCall - 1 ≠ 0) :
    d.expire = { d with firstCall := d.firstCall - 1, ec := .timedOut, timer := .ran } :=
  if_pos h

/-- It comes second, and delivers what the first call has left. -/
theorem Deadline.expire_of_second {d : Deadline} (h : d.firstCall - 1 = 0) :
    d.expire = { d with
      firstCall := d.firstCall - 1, delivered := d.delivered ++ [d.ec], timer := .ran } :=
  if_neg (not_not_intro h)

@[simp] theorem Deadline.timer_expire (d : Deadline) : d.expire.timer = .ran := by
  unfold expire
  split <;> rfl

/-! ## The operations -/

namespace State

/-- `connection::cancel`. -/
def cancel (s : State) : State :=
  { s with readWait := s.readWait.cancel, writeWait := s.writeWait.cancel }

/-- A call of the handler in the context. A second call is a call and no more; what it comes to
with a deadline is `DereferencesNull`. -/
def invoke (s : State) (ec : ErrorCode) : State :=
  { s with
    calls := s.calls ++ [ec]
    deadline := if s.calls = [] then s.deadline.map (·.call ec) else s.deadline }

/-- `done(ctx, ec)`. -/
def done (s : State) (ec : ErrorCode) : State :=
  (cancel { s with queryState := .error }).invoke ec

/-- `async_get_result_op::done(ec)`, the end of the receiver's run. -/
def receiverDone (s : State) (ec : ErrorCode) : State :=
  let errorContext :=
    if s.errorContext = "" then "error while get request result" else s.errorContext
  done { s with errorContext, pc := .idle } ec

/-- `async_get_result_op::done()`. -/
def receiverDoneOk (s : State) : State := invoke { s with pc := .idle } .success

/-- `async_get_result_op::operator()` up to its first call. -/
def receiver (s : State) (ec : ErrorCode) : State :=
  if s.queryState = .error then
    -- the sender has completed the request
    { s with pc := .idle }
  else if ec.failed then
    -- a bad descriptor is what a connection closed by the user reports
    s.receiverDone (if ec = .badDescriptor then .operationAborted else ec)
  else
    match s.position with
    | none => { s with pc := .isBusy .first }
    | some l => { s with pc := .consumeInput l }

/-- The end of the sender's run: `async_request_op` goes on with the receiver, a delivered
completion goes back to the event loop. -/
def senderReturn (s : State) : State :=
  if s.starting then
    receiver { s with starting := false } .success
  else
    { s with pc := .idle }

/-- `async_send_query_params_op::operator()` up to its call of `PQflush`. -/
def sender (s : State) (ec : ErrorCode) : State :=
  if s.queryState ≠ .sendInProgress then
    -- everything is flushed, or the read side has failed
    s.senderReturn
  else if ec.failed then
    (s.done ec).senderReturn
  else
    { s with pc := .flush }

/-- `handle_result`. -/
def handleResult (s : State) (r : PgResult) : State :=
  match r.status with
  | .singleTuple | .tuplesOk | .commandOk => { s with pc := .process }
  | .badResponse => s.receiverDone (.ofError .resultStatusBadResponse)
  | .emptyQuery => s.receiverDone (.ofError .resultStatusEmptyQuery)
  | .fatalError => s.receiverDone (resultError r)
  | status =>
    receiverDone { s with errorContext := getResultStatusName status }
      (.ofError .resultStatusUnexpected)

/-- `handle_result` of `*result_`, which is set in the drain loop. -/
def handleFirst (s : State) : State :=
  match s.result with
  | none => { s with pc := .idle }
  | some r => s.handleResult r

/-- `timer_handler::operator()`. -/
def timerHandler (s : State) (d : Deadline) : State :=
  if d.firstCall - 1 ≠ 0 then
    -- the operation is still running
    { s.cancel with deadline := some d.expire }
  else { s with deadline := some d.expire }

/-- A handler with a deadline has been called twice. The first call has reset `ctx_`, so the second
one dereferences a null pointer, and the code does not say what happens then. -/
def DereferencesNull (s : State) : Prop := s.deadline ≠ none ∧ 1 < s.calls.length

/-! ### What the operations change -/

section

variable (s : State) (ec : ErrorCode)

@[simp] theorem done_position : (s.done ec).position = s.position := rfl
@[simp] theorem done_readWait : (s.done ec).readWait = s.readWait.cancel := rfl
@[simp] theorem done_calls : (s.done ec).calls = s.calls ++ [ec] := rfl

@[simp] theorem receiverDone_position : (s.receiverDone ec).position = s.position := rfl
@[simp] theorem receiverDone_readWait :
    (s.receiverDone ec).readWait = s.readWait.cancel := rfl
@[simp] theorem receiverDone_calls : (s.receiverDone ec).calls = s.calls ++ [ec] := rfl

end

theorem timerHandler_deadline (s : State) (d : Deadline) :
    (s.timerHandler d).deadline = some d.expire := by
  unfold timerHandler
  split <;> rfl

/-- Once the request has failed, the sender and the receiver only return. -/
theorem receiver_of_error {s : State} (h : s.queryState = .error) (ec : ErrorCode) :
    s.receiver ec = { s with pc := .idle } :=
  if_pos h

/-- Behind an error the receiver is not started. -/
theorem senderReturn_of_error {s : State} (h : s.queryState = .error) :
    s.senderReturn = { s with pc := .idle, starting := false } := by
  unfold senderReturn
  split
  · exact receiver_of_error (s := { s with starting := false }) h .success
  · next hstart => simp [Bool.eq_false_iff.mpr hstart]

end State

/-! ## Steps

A label is an answer at the call the code is at, or a completion while no code runs. -/

/-- What happens next: an answer of libpq or of the result processor, a wait or the timer found
complete, or a completion delivered. -/
inductive Label where
  | setNonblocking (ok : Bool)
  | sendQueryParams (ok : Bool)
  | flush (r : QueryState)
  | isBusy (busy : Bool)
  | consumeInput (ok : Bool)
  | getResult (r : Option PgResult)
  | process (what : Option String)
  | readReady (ec : ErrorCode)
  | writeReady (ec : ErrorCode)
  | deliverRead
  | deliverWrite
  | timerExpired
  | deliverTimer
  deriving DecidableEq, Repr

open State

/-- The answer of `PQflush`. -/
def afterFlush (s : State) : QueryState → State
  | .error => (s.done (.ofError .pgFlushFailed)).senderReturn
  | .sendInProgress => senderReturn { s with writeWait := .pending, waits := s.waits + 1 }
  | .sendFinish => senderReturn { s with queryState := .sendFinish }

/-- The answer of `PQgetResult` up to the first result. -/
def afterFirstResult (s : State) : Option PgResult → State
  | none => s.receiverDoneOk
  | some r =>
    let s := { s with result := some r, results := s.results ++ [r] }
    -- in single-row mode nothing is drained
    if r.status ≠ .singleTuple then { s with pc := .isBusy .drain } else s.handleResult r

/-- The answer of `PQgetResult` behind the first result: only null is told from the rest. -/
def afterDrained (s : State) : Option PgResult → State
  | none => s.handleFirst
  | some r => { s with results := s.results ++ [r], pc := .isBusy .drain }

/-- The outcome of the result processor, an exception with its text or none. -/
def afterProcess (s : State) : Option String → State
  | none => s.receiverDoneOk
  | some what => receiverDone { s with errorContext := what } (.ofError .badResultProcess)

/-- The step of a label, if the state enables it. Answers come at the call they belong to;
completions are delivered one at a time, when nothing else runs. -/
def step (s : State) : Label → Option State
  | .setNonblocking ok =>
    if s.pc = .setNonblocking then
      some (if ok then { s with pc := .sendQueryParams }
        else (s.done (.ofError .pgSetNonblockingFailed)).senderReturn)
    else none
  | .sendQueryParams ok =>
    if s.pc = .sendQueryParams then
      some (if ok then s.sender .success
        else (s.done (.ofError .pgSendQueryParamsFailed)).senderReturn)
    else none
  | .flush r => if s.pc = .flush then some (afterFlush s r) else none
  | .isBusy busy =>
    match s.pc with
    | .isBusy l =>
      some (if busy then
          { s with readWait := .pending, position := some l, waits := s.waits + 1, pc := .idle }
        else { s with pc := .getResult l })
    | _ => none
  | .consumeInput ok =>
    match s.pc with
    | .consumeInput l =>
      some (if ok then { s with pc := .isBusy l }
        else match l with
          | .first => s.receiverDone (.ofError .pgConsumeInputFailed)
          | .drain => s.handleFirst)
    | _ => none
  | .getResult r =>
    match s.pc with
    | .getResult .first => some (afterFirstResult s r)
    | .getResult .drain => some (afterDrained s r)
    | _ => none
  | .process what => if s.pc = .process then some (afterProcess s what) else none
  | .readReady ec => if s.readWait = .pending then some { s with readWait := .queued ec } else none
  | .writeReady ec =>
    if s.writeWait = .pending then some { s with writeWait := .queued ec } else none
  | .deliverRead =>
    match s.pc, s.readWait with
    | .idle, .queued ec => some (receiver { s with readWait := .none } ec)
    | _, _ => none
  | .deliverWrite =>
    match s.pc, s.writeWait with
    | .idle, .queued ec => some (sender { s with writeWait := .none } ec)
    | _, _ => none
  | .timerExpired =>
    match s.deadline with
    | some d =>
      if d.timer = .pending then some { s with deadline := some { d with timer := .queued } }
      else none
    | none => none
  | .deliverTimer =>
    match s.pc, s.deadline with
    | .idle, some d => if d.timer = .queued then some (s.timerHandler d) else none
    | _, _ => none

end OzoPg.Request
