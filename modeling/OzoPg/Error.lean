import OzoPg.Types.Basic

/-!
# Error codes and exceptions

`include/ozo/error.h`: an `error_code` is a category with a value, and only the value decides
whether it is an error. The exceptions are those thrown while decoding, with the numbers their
messages show.
-/

namespace OzoPg

/-- `error::code`, in the order of the enumeration. -/
inductive Error where
  | ok
  | pqConnectionStartFailed
  | pqSocketFailed
  | pqConnectionStatusBad
  | pqConnectPollFailed
  | oidTypeMismatch
  | unexpectedEof
  | pgSendQueryParamsFailed
  | pgConsumeInputFailed
  | pgSetNonblockingFailed
  | pgFlushFailed
  | badResultProcess
  | noSqlStateFound
  | resultStatusUnexpected
  | resultStatusEmptyQuery
  | resultStatusBadResponse
  | oidRequestFailed
  | badObjectSize
  | badArraySize
  | badArrayDimension
  | badCompositeSize
  | pqCancelFailed
  | pqGetCancelFailed
  deriving DecidableEq, Repr

/-- The error categories in use: the operating system's (shared by Boost.Asio), the portable one of
`errno` values, Boost.Asio's for name resolution, the library's own, that of the server's
SQLSTATEs, that of the resource pool and those of the user. -/
inductive ErrorCategory where
  | system
  | generic
  | netdb
  | ozo
  | sqlstate
  | resourcePool
  | user (id : Nat)
  deriving DecidableEq, Repr

/-- `ozo::error_code`. -/
structure ErrorCode where
  category : ErrorCategory
  value : Int
  deriving DecidableEq, Repr

namespace ErrorCode

/-- `error_code{}`. -/
def success : ErrorCode := ⟨.system, 0⟩

/-- `error_code::operator bool`. -/
def failed (ec : ErrorCode) : Bool := ec.value != 0

/-- `asio::error::operation_aborted`. -/
def operationAborted : ErrorCode := ⟨.system, 125⟩

/-- `asio::error::timed_out`. -/
def timedOut : ErrorCode := ⟨.system, 110⟩

/-- `asio::error::bad_descriptor`. -/
def badDescriptor : ErrorCode := ⟨.system, 9⟩

/-- `error::make_error_code`. -/
def ofError (e : Error) : ErrorCode := ⟨.ozo, e.ctorIdx⟩

/-- `sqlstate::make_error_code` of a `long`, which is narrowed to `int`. -/
def ofSqlstate (value : Int) : ErrorCode := ⟨.sqlstate, (Int32.ofInt value).toInt⟩

@[simp] theorem failed_success : success.failed = false := rfl

/-- Every enumerator but the placeholder is an error. -/
theorem failed_ofError (e : Error) : (ofError e).failed = (e != .ok) := by
  cases e <;> rfl

end ErrorCode

/-- What decoding may throw. -/
inductive Exception where
  | unexpectedEof
  | oidTypeMismatch (oid : Oid)
  | badObjectSize (received expected : SizeType)
  | badArrayDimension (count : SizeType)
  | badArraySize (received : SizeType) (size : Nat)
  | badCompositeSize (received fields : SizeType)
  /-- `std::invalid_argument`: a null for a type that is not nullable. -/
  | unexpectedNull
  /-- `std::range_error`: no room for the version byte of `jsonb` and `ltree`. -/
  | dataTooSmall (size : SizeType)
  /-- `std::length_error` of `resize` with a negative size. -/
  | lengthError (size : SizeType)
  /-- `std::bad_alloc` of `std::list::resize`, which goes on to append elements. -/
  | badAlloc
  deriving DecidableEq, Repr

/-- The code of an `ozo::system_error`, `none` for a standard exception. -/
def Exception.code? : Exception → Option Error
  | .unexpectedEof => some .unexpectedEof
  | .oidTypeMismatch _ => some .oidTypeMismatch
  | .badObjectSize _ _ => some .badObjectSize
  | .badArrayDimension _ => some .badArrayDimension
  | .badArraySize _ _ => some .badArraySize
  | .badCompositeSize _ _ => some .badCompositeSize
  | .unexpectedNull => none
  | .dataTooSmall _ => none
  | .lengthError _ => none
  | .badAlloc => none

end OzoPg
