import OzoPg.Base36

/-!
# The SQLSTATE conditions

`sqlstate::code` of `include/ozo/error.h`: the conditions the library has a name for, each with the
base-36 value of its SQLSTATE. The SQLSTATEs are those of the comments in the enumeration, where
`Class 01` is `01000`.

* `Code.value_eq` — every enumerator has the value of the SQLSTATE it is documented with.
-/

namespace OzoPg.Sqlstate

/-- `sqlstate::code`, in the order of the enumeration. -/
inductive Code where
  | successfulCompletion | warning | dynamicResultSetsReturned | implicitZeroBitPadding
  | nullValueEliminatedInSetFunction | privilegeNotGranted | privilegeNotRevoked
  | stringDataRightTruncationWarning | deprecatedFeature | noData
  | noAdditionalDynamicResultSetsReturned | sqlStatementNotYetComplete | connectionException
  | connectionDoesNotExist | connectionFailure | sqlclientUnableToEstablishSqlconnection
  | sqlserverRejectedEstablishmentOfSqlconnection | transactionResolutionUnknown | protocolViolation
  | triggeredActionException | featureNotSupported | invalidTransactionInitiation | locatorException
  | invalidLocatorSpecification | invalidGrantor | invalidGrantOperation | invalidRoleSpecification
  | diagnosticsException | stackedDiagnosticsAccessedWithoutActiveHandler | caseNotFound
  | cardinalityViolation | dataException | arraySubscriptError | characterNotInRepertoire
  | datetimeFieldOverflow | divisionByZero | errorInAssignment | escapeCharacterConflict
  | indicatorOverflow | intervalFieldOverflow | invalidArgumentForLogarithm
  | invalidArgumentForNtileFunction | invalidArgumentForNthValueFunction
  | invalidArgumentForPowerFunction | invalidArgumentForWidthBucketFunction
  | invalidCharacterValueForCast | invalidDatetimeFormat | invalidEscapeCharacter
  | invalidEscapeOctet | invalidEscapeSequence | nonstandardUseOfEscapeCharacter
  | invalidIndicatorParameterValue | invalidParameterValue | invalidRegularExpression
  | invalidRowCountInLimitClause | invalidRowCountInResultOffsetClause
  | invalidTimeZoneDisplacementValue | invalidUseOfEscapeCharacter | mostSpecificTypeMismatch
  | nullValueNotAllowed | nullValueNoIndicatorParameter | numericValueOutOfRange
  | stringDataLengthMismatch | stringDataRightTruncation | substringError | trimError
  | unterminatedCString | zeroLengthCharacterString | floatingPointException
  | invalidTextRepresentation | invalidBinaryRepresentation | badCopyFileFormat
  | untranslatableCharacter | notAnXmlDocument | invalidXmlDocument | invalidXmlContent
  | invalidXmlComment | invalidXmlProcessingInstruction | integrityConstraintViolation
  | restrictViolation | notNullViolation | foreignKeyViolation | uniqueViolation | checkViolation
  | exclusionViolation | invalidCursorState | invalidTransactionState | activeSqlTransaction
  | branchTransactionAlreadyActive | heldCursorRequiresSameIsolationLevel
  | inappropriateAccessModeForBranchTransaction | inappropriateIsolationLevelForBranchTransaction
  | noActiveSqlTransactionForBranchTransaction | readOnlySqlTransaction
  | schemaAndDataStatementMixingNotSupported | noActiveSqlTransaction | inFailedSqlTransaction
  | invalidSqlStatementName | triggeredDataChangeViolation | invalidAuthorizationSpecification
  | invalidPassword | dependentPrivilegeDescriptorsStillExist | dependentObjectsStillExist
  | invalidTransactionTermination | sqlRoutineException | functionExecutedNoReturnStatement
  | modifyingSqlDataNotPermitted | prohibitedSqlStatementAttempted | readingSqlDataNotPermitted
  | invalidCursorName | externalRoutineException | containingSqlNotPermitted
  | modifyingSqlDataNotPermittedExternal | prohibitedSqlStatementAttemptedExternal
  | readingSqlDataNotPermittedExternal | externalRoutineInvocationException
  | invalidSqlstateReturned | nullValueNotAllowedExternal | triggerProtocolViolated
  | srfProtocolViolated | savepointException | invalidSavepointSpecification | invalidCatalogName
  | invalidSchemaName | transactionRollback | transactionIntegrityConstraintViolation
  | serializationFailure | statementCompletionUnknown | deadlockDetected
  | syntaxErrorOrAccessRuleViolation | syntaxError | insufficientPrivilege | cannotCoerce
  | groupingError | windowingError | invalidRecursion | invalidForeignKey | invalidName
  | nameTooLong | reservedName | datatypeMismatch | indeterminateDatatype | collationMismatch
  | indeterminateCollation | wrongObjectType | undefinedColumn | undefinedFunction | undefinedTable
  | undefinedParameter | undefinedObject | duplicateColumn | duplicateCursor | duplicateDatabase
  | duplicateFunction | duplicatePreparedStatement | duplicateSchema | duplicateTable
  | duplicateAlias | duplicateObject | ambiguousColumn | ambiguousFunction | ambiguousParameter
  | ambiguousAlias | invalidColumnReference | invalidColumnDefinition | invalidCursorDefinition
  | invalidDatabaseDefinition | invalidFunctionDefinition | invalidPreparedStatementDefinition
  | invalidSchemaDefinition | invalidTableDefinition | invalidObjectDefinition
  | withCheckOptionViolation | insufficientResources | diskFull | outOfMemory | tooManyConnections
  | configurationLimitExceeded | programLimitExceeded | statementTooComplex | tooManyColumns
  | tooManyArguments | objectNotInPrerequisiteState | objectInUse | cantChangeRuntimeParam
  | lockNotAvailable | operatorIntervention | queryCanceled | adminShutdown | crashShutdown
  | cannotConnectNow | databaseDropped | systemError | ioError | undefinedFile | duplicateFile
  | snapshotTooOld | configFileError | lockFileExists | fdwError | fdwColumnNameNotFound
  | fdwDynamicParameterValueNeeded | fdwFunctionSequenceError | fdwInconsistentDescriptorInformation
  | fdwInvalidAttributeValue | fdwInvalidColumnName | fdwInvalidColumnNumber | fdwInvalidDataType
  | fdwInvalidDataTypeDescriptors | fdwInvalidDescriptorFieldIdentifier | fdwInvalidHandle
  | fdwInvalidOptionIndex | fdwInvalidOptionName | fdwInvalidStringLengthOrBufferLength
  | fdwInvalidStringFormat | fdwInvalidUseOfNullPointer | fdwTooManyHandles | fdwOutOfMemory
  | fdwNoSchemas | fdwOptionNameNotFound | fdwReplyHandle | fdwSchemaNotFound | fdwTableNotFound
  | fdwUnableToCreateExecution | fdwUnableToCreateReply | fdwUnableToEstablishConnection
  | plpgsqlError | raiseException | noDataFound | tooManyRows | internalError | dataCorrupted
  | indexCorrupted
  deriving DecidableEq, Repr

/-- What the enumeration says of an enumerator. -/
structure Enumerator where
  name : String
  value : Int
  sqlstate : String

namespace Code

def enumerator : Code → Enumerator
  | .successfulCompletion => ⟨"successful_completion", 0, "00000"⟩
  | .warning => ⟨"warning", 46656, "01000"⟩
  | .dynamicResultSetsReturned => ⟨"dynamic_result_sets_returned", 46668, "0100C"⟩
  | .implicitZeroBitPadding => ⟨"implicit_zero_bit_padding", 46664, "01008"⟩
  | .nullValueEliminatedInSetFunction => ⟨"null_value_eliminated_in_set_function", 46659, "01003"⟩
  | .privilegeNotGranted => ⟨"privilege_not_granted", 46663, "01007"⟩
  | .privilegeNotRevoked => ⟨"privilege_not_revoked", 46662, "01006"⟩
  | .stringDataRightTruncationWarning => ⟨"string_data_right_truncation_warning", 46660, "01004"⟩
  | .deprecatedFeature => ⟨"deprecated_feature", 79057, "01P01"⟩
  | .noData => ⟨"no_data", 93312, "02000"⟩
  | .noAdditionalDynamicResultSetsReturned =>
    ⟨"no_additional_dynamic_result_sets_returned", 93313, "02001"⟩
  | .sqlStatementNotYetComplete => ⟨"sql_statement_not_yet_complete", 139968, "03000"⟩
  | .connectionException => ⟨"connection_exception", 373248, "08000"⟩
  | .connectionDoesNotExist => ⟨"connection_does_not_exist", 373251, "08003"⟩
  | .connectionFailure => ⟨"connection_failure", 373254, "08006"⟩
  | .sqlclientUnableToEstablishSqlconnection =>
    ⟨"sqlclient_unable_to_establish_sqlconnection", 373249, "08001"⟩
  | .sqlserverRejectedEstablishmentOfSqlconnection =>
    ⟨"sqlserver_rejected_establishment_of_sqlconnection", 373252, "08004"⟩
  | .transactionResolutionUnknown => ⟨"transaction_resolution_unknown", 373255, "08007"⟩
  | .protocolViolation => ⟨"protocol_violation", 405649, "08P01"⟩
  | .triggeredActionException => ⟨"triggered_action_exception", 419904, "09000"⟩
  | .featureNotSupported => ⟨"feature_not_supported", 466560, "0A000"⟩
  | .invalidTransactionInitiation => ⟨"invalid_transaction_initiation", 513216, "0B000"⟩
  | .locatorException => ⟨"locator_exception", 699840, "0F000"⟩
  | .invalidLocatorSpecification => ⟨"invalid_locator_specification", 699841, "0F001"⟩
  | .invalidGrantor => ⟨"invalid_grantor", 979776, "0L000"⟩
  | .invalidGrantOperation => ⟨"invalid_grant_operation", 1012177, "0LP01"⟩
  | .invalidRoleSpecification => ⟨"invalid_role_specification", 1166400, "0P000"⟩
  | .diagnosticsException => ⟨"diagnostics_exception", 1632960, "0Z000"⟩
  | .stackedDiagnosticsAccessedWithoutActiveHandler =>
    ⟨"stacked_diagnostics_accessed_without_active_handler", 1632962, "0Z002"⟩
  | .caseNotFound => ⟨"case_not_found", 3359232, "20000"⟩
  | .cardinalityViolation => ⟨"cardinality_violation", 3405888, "21000"⟩
  | .dataException => ⟨"data_exception", 3452544, "22000"⟩
  | .arraySubscriptError => ⟨"array_subscript_error", 3452630, "2202E"⟩
  | .characterNotInRepertoire => ⟨"character_not_in_repertoire", 3452617, "22021"⟩
  | .datetimeFieldOverflow => ⟨"datetime_field_overflow", 3452552, "22008"⟩
  | .divisionByZero => ⟨"division_by_zero", 3452582, "22012"⟩
  | .errorInAssignment => ⟨"error_in_assignment", 3452549, "22005"⟩
  | .escapeCharacterConflict => ⟨"escape_character_conflict", 3452555, "2200B"⟩
  | .indicatorOverflow => ⟨"indicator_overflow", 3452618, "22022"⟩
  | .intervalFieldOverflow => ⟨"interval_field_overflow", 3452585, "22015"⟩
  | .invalidArgumentForLogarithm => ⟨"invalid_argument_for_logarithm", 3452594, "2201E"⟩
  | .invalidArgumentForNtileFunction => ⟨"invalid_argument_for_ntile_function", 3452584, "22014"⟩
  | .invalidArgumentForNthValueFunction =>
    ⟨"invalid_argument_for_nth_value_function", 3452586, "22016"⟩
  | .invalidArgumentForPowerFunction => ⟨"invalid_argument_for_power_function", 3452595, "2201F"⟩
  | .invalidArgumentForWidthBucketFunction =>
    ⟨"invalid_argument_for_width_bucket_function", 3452596, "2201G"⟩
  | .invalidCharacterValueForCast => ⟨"invalid_character_value_for_cast", 3452588, "22018"⟩
  | .invalidDatetimeFormat => ⟨"invalid_datetime_format", 3452551, "22007"⟩
  | .invalidEscapeCharacter => ⟨"invalid_escape_character", 3452589, "22019"⟩
  | .invalidEscapeOctet => ⟨"invalid_escape_octet", 3452557, "2200D"⟩
  | .invalidEscapeSequence => ⟨"invalid_escape_sequence", 3452621, "22025"⟩
  | .nonstandardUseOfEscapeCharacter => ⟨"nonstandard_use_of_escape_character", 3484950, "22P06"⟩
  | .invalidIndicatorParameterValue => ⟨"invalid_indicator_parameter_value", 3452580, "22010"⟩
  | .invalidParameterValue => ⟨"invalid_parameter_value", 3452619, "22023"⟩
  | .invalidRegularExpression => ⟨"invalid_regular_expression", 3452591, "2201B"⟩
  | .invalidRowCountInLimitClause => ⟨"invalid_row_count_in_limit_clause", 3452612, "2201W"⟩
  | .invalidRowCountInResultOffsetClause =>
    ⟨"invalid_row_count_in_result_offset_clause", 3452613, "2201X"⟩
  | .invalidTimeZoneDisplacementValue => ⟨"invalid_time_zone_displacement_value", 3452553, "22009"⟩
  | .invalidUseOfEscapeCharacter => ⟨"invalid_use_of_escape_character", 3452556, "2200C"⟩
  | .mostSpecificTypeMismatch => ⟨"most_specific_type_mismatch", 3452560, "2200G"⟩
  | .nullValueNotAllowed => ⟨"null_value_not_allowed", 3452548, "22004"⟩
  | .nullValueNoIndicatorParameter => ⟨"null_value_no_indicator_parameter", 3452546, "22002"⟩
  | .numericValueOutOfRange => ⟨"numeric_value_out_of_range", 3452547, "22003"⟩
  | .stringDataLengthMismatch => ⟨"string_data_length_mismatch", 3452622, "22026"⟩
  | .stringDataRightTruncation => ⟨"string_data_right_truncation", 3452545, "22001"⟩
  | .substringError => ⟨"substring_error", 3452581, "22011"⟩
  | .trimError => ⟨"trim_error", 3452623, "22027"⟩
  | .unterminatedCString => ⟨"unterminated_c_string", 3452620, "22024"⟩
  | .zeroLengthCharacterString => ⟨"zero_length_character_string", 3452559, "2200F"⟩
  | .floatingPointException => ⟨"floating_point_exception", 3484945, "22P01"⟩
  | .invalidTextRepresentation => ⟨"invalid_text_representation", 3484946, "22P02"⟩
  | .invalidBinaryRepresentation => ⟨"invalid_binary_representation", 3484947, "22P03"⟩
  | .badCopyFileFormat => ⟨"bad_copy_file_format", 3484948, "22P04"⟩
  | .untranslatableCharacter => ⟨"untranslatable_character", 3484949, "22P05"⟩
  | .notAnXmlDocument => ⟨"not_an_xml_document", 3452565, "2200L"⟩
  | .invalidXmlDocument => ⟨"invalid_xml_document", 3452566, "2200M"⟩
  | .invalidXmlContent => ⟨"invalid_xml_content", 3452567, "2200N"⟩
  | .invalidXmlComment => ⟨"invalid_xml_comment", 3452572, "2200S"⟩
  | .invalidXmlProcessingInstruction => ⟨"invalid_xml_processing_instruction", 3452573, "2200T"⟩
  | .integrityConstraintViolation => ⟨"integrity_constraint_violation", 3499200, "23000"⟩
  | .restrictViolation => ⟨"restrict_violation", 3499201, "23001"⟩
  | .notNullViolation => ⟨"not_null_violation", 3505682, "23502"⟩
  | .foreignKeyViolation => ⟨"foreign_key_violation", 3505683, "23503"⟩
  | .uniqueViolation => ⟨"unique_violation", 3505685, "23505"⟩
  | .checkViolation => ⟨"check_violation", 3505720, "23514"⟩
  | .exclusionViolation => ⟨"exclusion_violation", 3531601, "23P01"⟩
  | .invalidCursorState => ⟨"invalid_cursor_state", 3545856, "24000"⟩
  | .invalidTransactionState => ⟨"invalid_transaction_state", 3592512, "25000"⟩
  | .activeSqlTransaction => ⟨"active_sql_transaction", 3592513, "25001"⟩
  | .branchTransactionAlreadyActive => ⟨"branch_transaction_already_active", 3592514, "25002"⟩
  | .heldCursorRequiresSameIsolationLevel =>
    ⟨"held_cursor_requires_same_isolation_level", 3592520, "25008"⟩
  | .inappropriateAccessModeForBranchTransaction =>
    ⟨"inappropriate_access_mode_for_branch_transaction", 3592515, "25003"⟩
  | .inappropriateIsolationLevelForBranchTransaction =>
    ⟨"inappropriate_isolation_level_for_branch_transaction", 3592516, "25004"⟩
  | .noActiveSqlTransactionForBranchTransaction =>
    ⟨"no_active_sql_transaction_for_branch_transaction", 3592517, "25005"⟩
  | .readOnlySqlTransaction => ⟨"read_only_sql_transaction", 3592518, "25006"⟩
  | .schemaAndDataStatementMixingNotSupported =>
    ⟨"schema_and_data_statement_mixing_not_supported", 3592519, "25007"⟩
  | .noActiveSqlTransaction => ⟨"no_active_sql_transaction", 3624913, "25P01"⟩
  | .inFailedSqlTransaction => ⟨"in_failed_sql_transaction", 3624914, "25P02"⟩
  | .invalidSqlStatementName => ⟨"invalid_sql_statement_name", 3639168, "26000"⟩
  | .triggeredDataChangeViolation => ⟨"triggered_data_change_violation", 3685824, "27000"⟩
  | .invalidAuthorizationSpecification => ⟨"invalid_authorization_specification", 3732480, "28000"⟩
  | .invalidPassword => ⟨"invalid_password", 3764881, "28P01"⟩
  | .dependentPrivilegeDescriptorsStillExist =>
    ⟨"dependent_privilege_descriptors_still_exist", 3872448, "2B000"⟩
  | .dependentObjectsStillExist => ⟨"dependent_objects_still_exist", 3904849, "2BP01"⟩
  | .invalidTransactionTermination => ⟨"invalid_transaction_termination", 3965760, "2D000"⟩
  | .sqlRoutineException => ⟨"sql_routine_exception", 4059072, "2F000"⟩
  | .functionExecutedNoReturnStatement =>
    ⟨"function_executed_no_return_statement", 4059077, "2F005"⟩
  | .modifyingSqlDataNotPermitted => ⟨"modifying_sql_data_not_permitted", 4059074, "2F002"⟩
  | .prohibitedSqlStatementAttempted => ⟨"prohibited_sql_statement_attempted", 4059075, "2F003"⟩
  | .readingSqlDataNotPermitted => ⟨"reading_sql_data_not_permitted", 4059076, "2F004"⟩
  | .invalidCursorName => ⟨"invalid_cursor_name", 5225472, "34000"⟩
  | .externalRoutineException => ⟨"external_routine_exception", 5412096, "38000"⟩
  | .containingSqlNotPermitted => ⟨"containing_sql_not_permitted", 5412097, "38001"⟩
  | .modifyingSqlDataNotPermittedExternal =>
    ⟨"modifying_sql_data_not_permitted_external", 5412098, "38002"⟩
  | .prohibitedSqlStatementAttemptedExternal =>
    ⟨"prohibited_sql_statement_attempted_external", 5412099, "38003"⟩
  | .readingSqlDataNotPermittedExternal =>
    ⟨"reading_sql_data_not_permitted_external", 5412100, "38004"⟩
  | .externalRoutineInvocationException =>
    ⟨"external_routine_invocation_exception", 5458752, "39000"⟩
  | .invalidSqlstateReturned => ⟨"invalid_sqlstate_returned", 5458753, "39001"⟩
  | .nullValueNotAllowedExternal => ⟨"null_value_not_allowed_external", 5458756, "39004"⟩
  | .triggerProtocolViolated => ⟨"trigger_protocol_violated", 5491153, "39P01"⟩
  | .srfProtocolViolated => ⟨"srf_protocol_violated", 5491154, "39P02"⟩
  | .savepointException => ⟨"savepoint_exception", 5552064, "3B000"⟩
  | .invalidSavepointSpecification => ⟨"invalid_savepoint_specification", 5552065, "3B001"⟩
  | .invalidCatalogName => ⟨"invalid_catalog_name", 5645376, "3D000"⟩
  | .invalidSchemaName => ⟨"invalid_schema_name", 5738688, "3F000"⟩
  | .transactionRollback => ⟨"transaction_rollback", 6718464, "40000"⟩
  | .transactionIntegrityConstraintViolation =>
    ⟨"transaction_integrity_constraint_violation", 6718466, "40002"⟩
  | .serializationFailure => ⟨"serialization_failure", 6718465, "40001"⟩
  | .statementCompletionUnknown => ⟨"statement_completion_unknown", 6718467, "40003"⟩
  | .deadlockDetected => ⟨"deadlock_detected", 6750865, "40P01"⟩
  | .syntaxErrorOrAccessRuleViolation => ⟨"syntax_error_or_access_rule_violation", 6811776, "42000"⟩
  | .syntaxError => ⟨"syntax_error", 6819553, "42601"⟩
  | .insufficientPrivilege => ⟨"insufficient_privilege", 6818257, "42501"⟩
  | .cannotCoerce => ⟨"cannot_coerce", 6822294, "42846"⟩
  | .groupingError => ⟨"grouping_error", 6822147, "42803"⟩
  | .windowingError => ⟨"windowing_error", 6844248, "42P20"⟩
  | .invalidRecursion => ⟨"invalid_recursion", 6844221, "42P19"⟩
  | .invalidForeignKey => ⟨"invalid_foreign_key", 6822252, "42830"⟩
  | .invalidName => ⟨"invalid_name", 6819554, "42602"⟩
  | .nameTooLong => ⟨"name_too_long", 6819626, "42622"⟩
  | .reservedName => ⟨"reserved_name", 6823557, "42939"⟩
  | .datatypeMismatch => ⟨"datatype_mismatch", 6822148, "42804"⟩
  | .indeterminateDatatype => ⟨"indeterminate_datatype", 6844220, "42P18"⟩
  | .collationMismatch => ⟨"collation_mismatch", 6844249, "42P21"⟩
  | .indeterminateCollation => ⟨"indeterminate_collation", 6844250, "42P22"⟩
  | .wrongObjectType => ⟨"wrong_object_type", 6822153, "42809"⟩
  | .undefinedColumn => ⟨"undefined_column", 6820851, "42703"⟩
  | .undefinedFunction => ⟨"undefined_function", 6822435, "42883"⟩
  | .undefinedTable => ⟨"undefined_table", 6844177, "42P01"⟩
  | .undefinedParameter => ⟨"undefined_parameter", 6844178, "42P02"⟩
  | .undefinedObject => ⟨"undefined_object", 6820852, "42704"⟩
  | .duplicateColumn => ⟨"duplicate_column", 6820849, "42701"⟩
  | .duplicateCursor => ⟨"duplicate_cursor", 6844179, "42P03"⟩
  | .duplicateDatabase => ⟨"duplicate_database", 6844180, "42P04"⟩
  | .duplicateFunction => ⟨"duplicate_function", 6820923, "42723"⟩
  | .duplicatePreparedStatement => ⟨"duplicate_prepared_statement", 6844181, "42P05"⟩
  | .duplicateSchema => ⟨"duplicate_schema", 6844182, "42P06"⟩
  | .duplicateTable => ⟨"duplicate_table", 6844183, "42P07"⟩
  | .duplicateAlias => ⟨"duplicate_alias", 6820886, "42712"⟩
  | .duplicateObject => ⟨"duplicate_object", 6820884, "42710"⟩
  | .ambiguousColumn => ⟨"ambiguous_column", 6820850, "42702"⟩
  | .ambiguousFunction => ⟨"ambiguous_function", 6820925, "42725"⟩
  | .ambiguousParameter => ⟨"ambiguous_parameter", 6844184, "42P08"⟩
  | .ambiguousAlias => ⟨"ambiguous_alias", 6844185, "42P09"⟩
  | .invalidColumnReference => ⟨"invalid_column_reference", 6844212, "42P10"⟩
  | .invalidColumnDefinition => ⟨"invalid_column_definition", 6819589, "42611"⟩
  | .invalidCursorDefinition => ⟨"invalid_cursor_definition", 6844213, "42P11"⟩
  | .invalidDatabaseDefinition => ⟨"invalid_database_definition", 6844214, "42P12"⟩
  | .invalidFunctionDefinition => ⟨"invalid_function_definition", 6844215, "42P13"⟩
  | .invalidPreparedStatementDefinition =>
    ⟨"invalid_prepared_statement_definition", 6844216, "42P14"⟩
  | .invalidSchemaDefinition => ⟨"invalid_schema_definition", 6844217, "42P15"⟩
  | .invalidTableDefinition => ⟨"invalid_table_definition", 6844218, "42P16"⟩
  | .invalidObjectDefinition => ⟨"invalid_object_definition", 6844219, "42P17"⟩
  | .withCheckOptionViolation => ⟨"with_check_option_violation", 6905088, "44000"⟩
  | .insufficientResources => ⟨"insufficient_resources", 8538048, "53000"⟩
  | .diskFull => ⟨"disk_full", 8539344, "53100"⟩
  | .outOfMemory => ⟨"out_of_memory", 8540640, "53200"⟩
  | .tooManyConnections => ⟨"too_many_connections", 8541936, "53300"⟩
  | .configurationLimitExceeded => ⟨"configuration_limit_exceeded", 8543232, "53400"⟩
  | .programLimitExceeded => ⟨"program_limit_exceeded", 8584704, "54000"⟩
  | .statementTooComplex => ⟨"statement_too_complex", 8584705, "54001"⟩
  | .tooManyColumns => ⟨"too_many_columns", 8584741, "54011"⟩
  | .tooManyArguments => ⟨"too_many_arguments", 8584779, "54023"⟩
  | .objectNotInPrerequisiteState => ⟨"object_not_in_prerequisite_state", 8631360, "55000"⟩
  | .objectInUse => ⟨"object_in_use", 8631366, "55006"⟩
  | .cantChangeRuntimeParam => ⟨"cant_change_runtime_param", 8663762, "55P02"⟩
  | .lockNotAvailable => ⟨"lock_not_available", 8663763, "55P03"⟩
  | .operatorIntervention => ⟨"operator_intervention", 8724672, "57000"⟩
  | .queryCanceled => ⟨"query_canceled", 8724712, "57014"⟩
  | .adminShutdown => ⟨"admin_shutdown", 8757073, "57P01"⟩
  | .crashShutdown => ⟨"crash_shutdown", 8757074, "57P02"⟩
  | .cannotConnectNow => ⟨"cannot_connect_now", 8757075, "57P03"⟩
  | .databaseDropped => ⟨"database_dropped", 8757076, "57P04"⟩
  | .systemError => ⟨"system_error", 8771328, "58000"⟩
  | .ioError => ⟨"io_error", 8771436, "58030"⟩
  | .undefinedFile => ⟨"undefined_file", 8803729, "58P01"⟩
  | .duplicateFile => ⟨"duplicate_file", 8803730, "58P02"⟩
  | .snapshotTooOld => ⟨"snapshot_too_old", 11850624, "72000"⟩
  | .configFileError => ⟨"config_file_error", 25194240, "F0000"⟩
  | .lockFileExists => ⟨"lock_file_exists", 25194241, "F0001"⟩
  | .fdwError => ⟨"fdw_error", 29999808, "HV000"⟩
  | .fdwColumnNameNotFound => ⟨"fdw_column_name_not_found", 29999813, "HV005"⟩
  | .fdwDynamicParameterValueNeeded => ⟨"fdw_dynamic_parameter_value_needed", 29999810, "HV002"⟩
  | .fdwFunctionSequenceError => ⟨"fdw_function_sequence_error", 29999844, "HV010"⟩
  | .fdwInconsistentDescriptorInformation =>
    ⟨"fdw_inconsistent_descriptor_information", 29999881, "HV021"⟩
  | .fdwInvalidAttributeValue => ⟨"fdw_invalid_attribute_value", 29999884, "HV024"⟩
  | .fdwInvalidColumnName => ⟨"fdw_invalid_column_name", 29999815, "HV007"⟩
  | .fdwInvalidColumnNumber => ⟨"fdw_invalid_column_number", 29999816, "HV008"⟩
  | .fdwInvalidDataType => ⟨"fdw_invalid_data_type", 29999812, "HV004"⟩
  | .fdwInvalidDataTypeDescriptors => ⟨"fdw_invalid_data_type_descriptors", 29999814, "HV006"⟩
  | .fdwInvalidDescriptorFieldIdentifier =>
    ⟨"fdw_invalid_descriptor_field_identifier", 30000133, "HV091"⟩
  | .fdwInvalidHandle => ⟨"fdw_invalid_handle", 29999819, "HV00B"⟩
  | .fdwInvalidOptionIndex => ⟨"fdw_invalid_option_index", 29999820, "HV00C"⟩
  | .fdwInvalidOptionName => ⟨"fdw_invalid_option_name", 29999821, "HV00D"⟩
  | .fdwInvalidStringLengthOrBufferLength =>
    ⟨"fdw_invalid_string_length_or_buffer_length", 30000132, "HV090"⟩
  | .fdwInvalidStringFormat => ⟨"fdw_invalid_string_format", 29999818, "HV00A"⟩
  | .fdwInvalidUseOfNullPointer => ⟨"fdw_invalid_use_of_null_pointer", 29999817, "HV009"⟩
  | .fdwTooManyHandles => ⟨"fdw_too_many_handles", 29999848, "HV014"⟩
  | .fdwOutOfMemory => ⟨"fdw_out_of_memory", 29999809, "HV001"⟩
  | .fdwNoSchemas => ⟨"fdw_no_schemas", 29999833, "HV00P"⟩
  | .fdwOptionNameNotFound => ⟨"fdw_option_name_not_found", 29999827, "HV00J"⟩
  | .fdwReplyHandle => ⟨"fdw_reply_handle", 29999828, "HV00K"⟩
  | .fdwSchemaNotFound => ⟨"fdw_schema_not_found", 29999834, "HV00Q"⟩
  | .fdwTableNotFound => ⟨"fdw_table_not_found", 29999835, "HV00R"⟩
  | .fdwUnableToCreateExecution => ⟨"fdw_unable_to_create_execution", 29999829, "HV00L"⟩
  | .fdwUnableToCreateReply => ⟨"fdw_unable_to_create_reply", 29999830, "HV00M"⟩
  | .fdwUnableToEstablishConnection => ⟨"fdw_unable_to_establish_connection", 29999831, "HV00N"⟩
  | .plpgsqlError => ⟨"plpgsql_error", 41990400, "P0000"⟩
  | .raiseException => ⟨"raise_exception", 41990401, "P0001"⟩
  | .noDataFound => ⟨"no_data_found", 41990402, "P0002"⟩
  | .tooManyRows => ⟨"too_many_rows", 41990403, "P0003"⟩
  | .internalError => ⟨"internal_error", 56966976, "XX000"⟩
  | .dataCorrupted => ⟨"data_corrupted", 56966977, "XX001"⟩
  | .indexCorrupted => ⟨"index_corrupted", 56966978, "XX002"⟩

/-- The identifier, as a macro makes a string of it. -/
def name (c : Code) : List Char := c.enumerator.name.toList

def value (c : Code) : Int := c.enumerator.value

/-- The SQLSTATE of the comment. -/
def sqlstate (c : Code) : List Char := c.enumerator.sqlstate.toList

/-- What is checked for each enumerator: the comment is a SQLSTATE, and the constant its value. -/
theorem wellFormed (c : Code) : IsSqlstate c.sqlstate ∧ b36tol c.sqlstate = c.value := by
  cases c <;> decide +kernel

theorem isSqlstate (c : Code) : IsSqlstate c.sqlstate := c.wellFormed.1

theorem value_eq (c : Code) : c.value = b36tol c.sqlstate := c.wellFormed.2.symm

end Code

end OzoPg.Sqlstate
