import OzoPg.Sqlstate.Conditions

/-!
# Messages of SQLSTATE errors

`sqlstate::category::message` of `include/ozo/error.h`: the name of the condition, if the switch has
a case for it, and the code as `ltob36` prints it. `ltob36` prints a number, which does not know
that a SQLSTATE has five characters: the zeros a SQLSTATE starts with are not printed.
-/

namespace OzoPg.Sqlstate

open Numeral Request

/-- The cases of the switch of `message`. There is none for `snapshot_too_old`. -/
def named : List Code :=
  [.successfulCompletion, .warning, .dynamicResultSetsReturned, .implicitZeroBitPadding,
   .nullValueEliminatedInSetFunction, .privilegeNotGranted, .privilegeNotRevoked,
   .stringDataRightTruncationWarning, .deprecatedFeature, .noData,
   .noAdditionalDynamicResultSetsReturned, .sqlStatementNotYetComplete, .connectionException,
   .connectionDoesNotExist, .connectionFailure, .sqlclientUnableToEstablishSqlconnection,
   .sqlserverRejectedEstablishmentOfSqlconnection, .transactionResolutionUnknown,
   .protocolViolation, .triggeredActionException, .featureNotSupported,
   .invalidTransactionInitiation, .locatorException, .invalidLocatorSpecification, .invalidGrantor,
   .invalidGrantOperation, .invalidRoleSpecification, .diagnosticsException,
   .stackedDiagnosticsAccessedWithoutActiveHandler, .caseNotFound, .cardinalityViolation,
   .dataException, .arraySubscriptError, .characterNotInRepertoire, .datetimeFieldOverflow,
   .divisionByZero, .errorInAssignment, .escapeCharacterConflict, .indicatorOverflow,
   .intervalFieldOverflow, .invalidArgumentForLogarithm, .invalidArgumentForNtileFunction,
   .invalidArgumentForNthValueFunction, .invalidArgumentForPowerFunction,
   .invalidArgumentForWidthBucketFunction, .invalidCharacterValueForCast, .invalidDatetimeFormat,
   .invalidEscapeCharacter, .invalidEscapeOctet, .invalidEscapeSequence,
   .nonstandardUseOfEscapeCharacter, .invalidIndicatorParameterValue, .invalidParameterValue,
   .invalidRegularExpression, .invalidRowCountInLimitClause, .invalidRowCountInResultOffsetClause,
   .invalidTimeZoneDisplacementValue, .invalidUseOfEscapeCharacter, .mostSpecificTypeMismatch,
   .nullValueNotAllowed, .nullValueNoIndicatorParameter, .numericValueOutOfRange,
   .stringDataLengthMismatch, .stringDataRightTruncation, .substringError, .trimError,
   .unterminatedCString, .zeroLengthCharacterString, .floatingPointException,
   .invalidTextRepresentation, .invalidBinaryRepresentation, .badCopyFileFormat,
   .untranslatableCharacter, .notAnXmlDocument, .invalidXmlDocument, .invalidXmlContent,
   .invalidXmlComment, .invalidXmlProcessingInstruction, .integrityConstraintViolation,
   .restrictViolation, .notNullViolation, .foreignKeyViolation, .uniqueViolation, .checkViolation,
   .exclusionViolation, .invalidCursorState, .invalidTransactionState, .activeSqlTransaction,
   .branchTransactionAlreadyActive, .heldCursorRequiresSameIsolationLevel,
   .inappropriateAccessModeForBranchTransaction, .inappropriateIsolationLevelForBranchTransaction,
   .noActiveSqlTransactionForBranchTransaction, .readOnlySqlTransaction,
   .schemaAndDataStatementMixingNotSupported, .noActiveSqlTransaction, .inFailedSqlTransaction,
   .invalidSqlStatementName, .triggeredDataChangeViolation, .invalidAuthorizationSpecification,
   .invalidPassword, .dependentPrivilegeDescriptorsStillExist, .dependentObjectsStillExist,
   .invalidTransactionTermination, .sqlRoutineException, .functionExecutedNoReturnStatement,
   .modifyingSqlDataNotPermitted, .prohibitedSqlStatementAttempted, .readingSqlDataNotPermitted,
   .invalidCursorName, .externalRoutineException, .containingSqlNotPermitted,
   .modifyingSqlDataNotPermittedExternal, .prohibitedSqlStatementAttemptedExternal,
   .readingSqlDataNotPermittedExternal, .externalRoutineInvocationException,
   .invalidSqlstateReturned, .nullValueNotAllowedExternal, .triggerProtocolViolated,
   .srfProtocolViolated, .savepointException, .invalidSavepointSpecification, .invalidCatalogName,
   .invalidSchemaName, .transactionRollback, .transactionIntegrityConstraintViolation,
   .serializationFailure, .statementCompletionUnknown, .deadlockDetected,
   .syntaxErrorOrAccessRuleViolation, .syntaxError, .insufficientPrivilege, .cannotCoerce,
   .groupingError, .windowingError, .invalidRecursion, .invalidForeignKey, .invalidName,
   .nameTooLong, .reservedName, .datatypeMismatch, .indeterminateDatatype, .collationMismatch,
   .indeterminateCollation, .wrongObjectType, .undefinedColumn, .undefinedFunction, .undefinedTable,
   .undefinedParameter, .undefinedObject, .duplicateColumn, .duplicateCursor, .duplicateDatabase,
   .duplicateFunction, .duplicatePreparedStatement, .duplicateSchema, .duplicateTable,
   .duplicateAlias, .duplicateObject, .ambiguousColumn, .ambiguousFunction, .ambiguousParameter,
   .ambiguousAlias, .invalidColumnReference, .invalidColumnDefinition, .invalidCursorDefinition,
   .invalidDatabaseDefinition, .invalidFunctionDefinition, .invalidPreparedStatementDefinition,
   .invalidSchemaDefinition, .invalidTableDefinition, .invalidObjectDefinition,
   .withCheckOptionViolation, .insufficientResources, .diskFull, .outOfMemory, .tooManyConnections,
   .configurationLimitExceeded, .programLimitExceeded, .statementTooComplex, .tooManyColumns,
   .tooManyArguments, .objectNotInPrerequisiteState, .objectInUse, .cantChangeRuntimeParam,
   .lockNotAvailable, .operatorIntervention, .queryCanceled, .adminShutdown, .crashShutdown,
   .cannotConnectNow, .databaseDropped, .systemError, .ioError, .undefinedFile, .duplicateFile,
   .configFileError, .lockFileExists, .fdwError, .fdwColumnNameNotFound,
   .fdwDynamicParameterValueNeeded, .fdwFunctionSequenceError,
   .fdwInconsistentDescriptorInformation, .fdwInvalidAttributeValue, .fdwInvalidColumnName,
   .fdwInvalidColumnNumber, .fdwInvalidDataType, .fdwInvalidDataTypeDescriptors,
   .fdwInvalidDescriptorFieldIdentifier, .fdwInvalidHandle, .fdwInvalidOptionIndex,
   .fdwInvalidOptionName, .fdwInvalidStringLengthOrBufferLength, .fdwInvalidStringFormat,
   .fdwInvalidUseOfNullPointer, .fdwTooManyHandles, .fdwOutOfMemory, .fdwNoSchemas,
   .fdwOptionNameNotFound, .fdwReplyHandle, .fdwSchemaNotFound, .fdwTableNotFound,
   .fdwUnableToCreateExecution, .fdwUnableToCreateReply, .fdwUnableToEstablishConnection,
   .plpgsqlError, .raiseException, .noDataFound, .tooManyRows, .internalError, .dataCorrupted,
   .indexCorrupted]

/-- `sqlstate::category::message`. -/
def message (value : Int) : List Char :=
  match named.find? fun c => c.value = value with
  | some c => c.name ++ "(".toList ++ ltob36 value ++ ")".toList
  | none => "sql state ".toList ++ ltob36 value

/-! ## The code in a message -/

/-- `ltob36` prints a SQLSTATE without the zeros it starts with. -/
theorem ltob36_b36tol {s : List Char} (h : IsErrorSqlstate s) :
    ltob36 (b36tol s) = s.dropWhile (· = '0') := by
  have hpos := b36tol_pos h
  obtain ⟨ds, hds, rfl, hvalue, hlt⟩ := exists_digits h.toIsSqlstate.ne_nil h.length_eq.le h.chars
  have hne : value 36 ds ≠ 0 := by omega
  rw [hvalue, ltob36_eq (by omega) (isNumeral_dropWhile hds hne), map_dropWhile_b36Char hds]

/-- A literal is `String.ofList` of its characters, which need not be decoded again. -/
theorem all_toList {p : Char → Bool} {l : List Char} (h : l.all p = true) :
    (String.ofList l).toList.all p = true := by
  rwa [String.toList_ofList]

/-- Names are lower-case letters and underscores. -/
theorem all_name (c : Code) : c.name.all (fun x => !decide (IsSqlstateChar x)) = true := by
  cases c <;> exact all_toList (by decide +kernel)

/-- A message is the code between characters that no SQLSTATE has. -/
theorem message_eq (v : Int) : ∃ before after, message v = before ++ ltob36 v ++ after ∧
    before.all (fun x => !decide (IsSqlstateChar x)) = true ∧
    after.all (fun x => !decide (IsSqlstateChar x)) = true := by
  unfold message
  split
  · next c _ =>
    refine ⟨c.name ++ "(".toList, ")".toList, rfl, ?_, by decide⟩
    rw [List.all_append, all_name]
    decide
  · exact ⟨"sql state ".toList, [], (List.append_nil _).symm, by decide, rfl⟩

/-- Every message has the code in it. -/
theorem ltob36_infix_message (v : Int) : ltob36 v <:+: message v := by
  obtain ⟨before, after, h, -⟩ := message_eq v
  exact ⟨before, after, h.symm⟩

/-- Whatever SQLSTATE a message shows is part of the code. -/
theorem length_le_of_infix_message {s : List Char} {v : Int} (hs : ∀ c ∈ s, IsSqlstateChar c)
    (h : s <:+: message v) : s.length ≤ (ltob36 v).length := by
  obtain ⟨before, after, hmessage, hb, ha⟩ := message_eq v
  have hbefore : before.filter (fun x => decide (IsSqlstateChar x)) = [] := by simpa using hb
  have hafter : after.filter (fun x => decide (IsSqlstateChar x)) = [] := by simpa using ha
  have hfilter : s.filter (fun x => decide (IsSqlstateChar x)) = s := by simpa using hs
  have hsub := h.sublist.filter fun x => decide (IsSqlstateChar x)
  rw [hfilter, hmessage, List.filter_append, List.filter_append, hbefore, hafter, List.nil_append,
    List.append_nil] at hsub
  exact hsub.length_le.trans (List.length_filter_le _ _)

/-- A leading zero is lost on the way. -/
theorem length_ltob36_b36tol {s : List Char} (h : IsErrorSqlstate s) (hzero : s.head? = some '0') :
    (ltob36 (b36tol s)).length < s.length := by
  rw [ltob36_b36tol h]
  obtain ⟨t, rfl⟩ : ∃ t, s = '0' :: t := List.head?_eq_some_iff.mp hzero
  rw [List.dropWhile_cons_of_pos (by decide), List.length_cons, Nat.lt_succ_iff]
  exact (List.dropWhile_sublist _).length_le

/-- Without one the code comes back. -/
theorem ltob36_b36tol_of_head? {s : List Char} (h : IsErrorSqlstate s)
    (hzero : s.head? ≠ some '0') : ltob36 (b36tol s) = s := by
  rw [ltob36_b36tol h]
  cases s with
  | nil => rfl
  | cons c s => exact List.dropWhile_cons_of_neg (by simpa using hzero)

/-- The message of a SQLSTATE error shows the SQLSTATE if that does not start with a zero. -/
theorem message_resultError_iff {r : PgResult} {s : List Char} (hs : IsErrorSqlstate s)
    (hr : r.sqlstate = some s) :
    (s <:+: message (resultError r).value ↔ s.head? ≠ some '0') ∧
    (ltob36 (b36tol s) = s ↔ s.head? ≠ some '0') := by
  rw [resultError_eq hs.toIsSqlstate hr]
  refine ⟨⟨fun h hzero => ?_, fun h => ?_⟩, fun h hzero => ?_, ltob36_b36tol_of_head? hs⟩
  · have hle := length_le_of_infix_message hs.chars h
    exact absurd (length_ltob36_b36tol hs hzero) (Nat.not_lt.mpr hle)
  · have hinfix := ltob36_infix_message (b36tol s)
    rwa [ltob36_b36tol_of_head? hs h] at hinfix
  · have hlt := length_ltob36_b36tol hs hzero
    rw [h] at hlt
    exact Nat.lt_irrefl _ hlt

theorem message_resultError_HV001 :
    ∃ s r, IsErrorSqlstate s ∧ r.sqlstate = some s ∧ s.head? ≠ some '0' ∧
      s <:+: message (resultError r).value ∧ ltob36 (b36tol s) = s := by
  have hs : IsErrorSqlstate ['H', 'V', '0', '0', '1'] :=
    ⟨by decide, by decide⟩
  have hr : PgResult.sqlstate ⟨.fatalError, some ['H', 'V', '0', '0', '1']⟩ = some _ := rfl
  obtain ⟨hmessage, hcode⟩ := message_resultError_iff hs hr
  exact ⟨_, _, hs, hr, by decide, hmessage.mpr (by decide), hcode.mpr (by decide)⟩

/-- A lost connection is reported as `8006`. -/
theorem message_connectionFailure :
    ∃ s r, IsErrorSqlstate s ∧ r.sqlstate = some s ∧ s = "08006".toList ∧
      message (resultError r).value = "connection_failure(8006)".toList ∧
      ¬ s <:+: message (resultError r).value ∧ ltob36 (b36tol s) ≠ s := by
  have hs : IsErrorSqlstate ['0', '8', '0', '0', '6'] :=
    ⟨by decide, by decide⟩
  have hr : PgResult.sqlstate ⟨.fatalError, some ['0', '8', '0', '0', '6']⟩ = some _ := rfl
  refine ⟨_, _, hs, hr, by decide, ?_, ?_, ?_⟩
  · decide +kernel
  · decide +kernel
  · decide +kernel

end OzoPg.Sqlstate
