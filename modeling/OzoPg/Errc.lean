import OzoPg.Error

/-!
# Error conditions

The conditions of `include/ozo/error.h`: `sqlstate::category::equivalent`, the tables of
`errc::codes_for_condition` and `errc::match_code`. A condition is what an error code is compared
with by `ec == x`; whether that is equality or membership of a class is the business of the
condition's category.
-/

namespace OzoPg

/-! ## SQLSTATE conditions -/

namespace Sqlstate

/-- `class_width`: a class of SQLSTATEs is given by the first two of five base-36 digits. -/
def classWidth : Int := 46656

/-- `sqlstate::connection_exception`. -/
def connectionException : Int := 373248

/-- `sqlstate::read_only_sql_transaction`. -/
def readOnlySqlTransaction : Int := 3592518

/-- The conditions `sqlstate::category::equivalent` takes for a class. -/
def classConditions : List Int :=
  [46656,     -- warning
   93312,     -- no_data
   139968,    -- sql_statement_not_yet_complete
   connectionException,
   419904,    -- triggered_action_exception
   466560,    -- feature_not_supported
   513216,    -- invalid_transaction_initiation
   699840,    -- locator_exception
   979776,    -- invalid_grantor
   1166400,   -- invalid_role_specification
   1632960,   -- diagnostics_exception
   3359232,   -- case_not_found
   3405888,   -- cardinality_violation
   3452544,   -- data_exception
   3499200,   -- integrity_constraint_violation
   3545856,   -- invalid_cursor_state
   3592512,   -- invalid_transaction_state
   3639168,   -- invalid_sql_statement_name
   3685824,   -- triggered_data_change_violation
   3732480,   -- invalid_authorization_specification
   3872448,   -- dependent_privilege_descriptors_still_exist
   3965760,   -- invalid_transaction_termination
   4059072,   -- sql_routine_exception
   5225472,   -- invalid_cursor_name
   5412096,   -- external_routine_exception
   5458752,   -- external_routine_invocation_exception
   5552064,   -- savepoint_exception
   5645376,   -- invalid_catalog_name
   5738688,   -- invalid_schema_name
   6718464,   -- transaction_rollback
   6811776,   -- syntax_error_or_access_rule_violation
   6905088,   -- with_check_option_violation
   8538048,   -- insufficient_resources
   8584704,   -- program_limit_exceeded
   8631360,   -- object_not_in_prerequisite_state
   8724672,   -- operator_intervention
   8771328,   -- system_error
   11850624,  -- snapshot_too_old
   25194240,  -- config_file_error
   29999808,  -- fdw_error
   41990400,  -- plpgsql_error
   56966976]  -- internal_error

/-- `sqlstate::category::equivalent`. -/
def equivalent (ec : ErrorCode) (condition : Int) : Bool :=
  if ec.category = .sqlstate ∧ condition ∈ classConditions then
    condition ≤ ec.value ∧ ec.value < condition + classWidth
  else
    ec = ⟨.sqlstate, condition⟩

end Sqlstate

/-! ## The library's conditions -/

/-- `errc::code`. -/
inductive Errc where
  | ok
  | connectionError
  | databaseReadonly
  | introspectionError
  | typeMismatch
  | protocolError
  deriving DecidableEq, Repr

namespace Errc

/-- The enumerators in the tables of `codes_for_condition`: those of error codes, those of
`boost::system::errc` and those of `sqlstate::code`. -/
inductive TableCode where
  | code (ec : ErrorCode)
  | generic (value : Int)
  | sqlstate (value : Int)
  deriving DecidableEq, Repr

/-- `ec == x`. A code of the operating system has the portable condition of the same value. -/
def TableCode.equal (ec : ErrorCode) : TableCode → Bool
  | .code ec' => ec = ec'
  | .generic value => (ec.category = .generic ∨ ec.category = .system) ∧ ec.value = value
  | .sqlstate value => Sqlstate.equivalent ec value

/-- An enumerator of `asio::error::basic_errors`. -/
def asio (value : Int) : TableCode := .code ⟨.system, value⟩

/-- An enumerator of `asio::error::netdb_errors`. -/
def netdb (value : Int) : TableCode := .code ⟨.netdb, value⟩

/-- An enumerator of `error::code`. -/
def ozo (e : Error) : TableCode := .code (.ofError e)

/-- `codes_for_condition`, with the values of Linux. The placeholder has no table. -/
def codesForCondition : Errc → List TableCode
  | .ok => []
  | .connectionError =>
    [.sqlstate Sqlstate.connectionException,
     asio 32,    -- broken_pipe
     asio 103,   -- connection_aborted
     asio 111,   -- connection_refused
     asio 104,   -- connection_reset
     asio 14,    -- fault
     asio 113,   -- host_unreachable
     asio 4,     -- interrupted
     asio 102,   -- network_reset
     asio 107,   -- not_connected
     .code .operationAborted,
     asio 108,   -- shut_down
     .code .timedOut,
     asio 11,    -- try_again
     netdb 1,    -- host_not_found
     netdb 2,    -- host_not_found_try_again
     netdb 4,    -- no_data
     netdb 3,    -- no_recovery
     .generic 5, -- io_error
     ozo .pqConnectionStartFailed, ozo .pqSocketFailed, ozo .pqConnectionStatusBad,
     ozo .pqConnectPollFailed, ozo .pgSendQueryParamsFailed, ozo .pgConsumeInputFailed,
     ozo .pgSetNonblockingFailed, ozo .pgFlushFailed]
  | .databaseReadonly => [.sqlstate Sqlstate.readOnlySqlTransaction]
  | .introspectionError =>
    [ozo .badResultProcess, ozo .badObjectSize, ozo .badArraySize, ozo .badArrayDimension,
     ozo .badCompositeSize, ozo .unexpectedEof]
  | .typeMismatch => [ozo .oidTypeMismatch]
  | .protocolError =>
    [ozo .noSqlStateFound, ozo .resultStatusUnexpected, ozo .resultStatusEmptyQuery,
     ozo .resultStatusBadResponse, ozo .oidRequestFailed]

/-- `errc::category::equivalent`. -/
def equivalent (ec : ErrorCode) : Errc → Bool
  | .ok => ec = .success
  | c => c.codesForCondition.any (TableCode.equal ec)

end Errc

/-! ## Matching -/

/-- What a user may compare an error code with: an enumerator as in the tables, a condition of the
library, or a condition of a category of their own. -/
inductive Condition where
  | code (c : Errc.TableCode)
  | errc (c : Errc)
  | user (equivalent : ErrorCode → Bool)

/-- `ec == x`. -/
def Condition.equal (ec : ErrorCode) : Condition → Bool
  | .code c => c.equal ec
  | .errc c => c.equivalent ec
  | .user equivalent => equivalent ec

/-- `errc::match_code`. -/
def matchCode (conditions : List Condition) (ec : ErrorCode) : Bool :=
  conditions.any (Condition.equal ec)

/-- What an exception while processing is reported as matches none but the condition for
introspection errors. -/
theorem equivalent_badResultProcess (c : Errc) :
    c.equivalent (.ofError .badResultProcess) = decide (c = .introspectionError) := by
  cases c <;> decide

/-- The end of a deadline is a connection error. -/
theorem equivalent_timedOut (c : Errc) :
    c.equivalent .timedOut = decide (c = .connectionError) := by
  cases c <;> decide

end OzoPg
