import OzoPg.Types.Basic

/-!
# Connections

What `include/ozo/connection.h`, `include/ozo/impl/connection.h` and
`include/ozo/impl/transaction_status.h` know of a connection: the native handle with the two
statuses libpq reports for it, the oid map and the error context.
-/

namespace OzoPg

/-- `ConnStatusType` of libpq. -/
inductive ConnStatus where
  | ok
  | bad
  | started
  | made
  | awaitingResponse
  | authOk
  | setenv
  | sslStartup
  | needed
  | checkWritable
  | consume
  | gssStartup
  | checkTarget
  | checkStandby
  | allocated
  deriving DecidableEq, Repr

/-- `PGTransactionStatusType` of libpq. -/
inductive PgTransactionStatus where
  | idle
  | active
  | inTrans
  | inError
  | unknown
  deriving DecidableEq, Repr

/-- `transaction_status`. -/
inductive TransactionStatus where
  | unknown
  | idle
  | active
  | transaction
  | error
  deriving DecidableEq, Repr

/-- A `PGconn` by what `PQstatus` and `PQtransactionStatus` report. -/
structure PgConn where
  status : ConnStatus
  transactionStatus : PgTransactionStatus
  deriving DecidableEq, Repr

/-- `connection_status_bad`, of a handle that may be null. -/
def connectionStatusBad : Option PgConn → Bool
  | none => true
  | some c => c.status = .bad

/-- `connection_status_ok`. -/
def connectionStatusOk : Option PgConn → Bool
  | none => false
  | some c => c.status = .ok

/-- `get_transaction_status` by the native handle; libpq knows nothing of a null one. -/
def getTransactionStatus : Option PgConn → TransactionStatus
  | none => .unknown
  | some c =>
    match c.transactionStatus with
    | .unknown => .unknown
    | .idle => .idle
    | .active => .active
    | .inTrans => .transaction
    | .inError => .error

/-- `ozo::connection`. -/
structure Connection where
  handle : Option PgConn
  oidMap : OidMap
  errorContext : String
  deriving DecidableEq, Repr

/-- Only `PQTRANS_IDLE` is idle. -/
theorem getTransactionStatus_eq_idle_iff (c : PgConn) :
    getTransactionStatus (some c) = .idle ↔ c.transactionStatus = .idle := by
  obtain ⟨status, transactionStatus⟩ := c
  cases transactionStatus <;> simp [getTransactionStatus]

end OzoPg
