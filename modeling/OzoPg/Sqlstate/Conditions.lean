import OzoPg.Errc
import OzoPg.Request.Model
import OzoPg.Sqlstate.Code

/-!
# What a SQLSTATE condition holds for

`sqlstate::category::equivalent` decides a class by an interval of base-36 values. For the codes
that `result_error` makes of SQLSTATEs the interval of a class condition is its class, the states
with the same first two characters, since

* every class condition is a multiple of the width of a class, `36 ^ 3`;
* five characters are their base-36 value (`IsSqlstate.b36tol_inj`), and the first two are its
  quotient by that width (`IsSqlstate.b36tol_class`).
-/

namespace OzoPg.Sqlstate

open Request

/-- The enumerators the switch of `equivalent` has a case for. -/
def classCodes : List Code :=
  [.warning, .noData, .sqlStatementNotYetComplete, .connectionException, .triggeredActionException,
   .featureNotSupported, .invalidTransactionInitiation, .locatorException, .invalidGrantor,
   .invalidRoleSpecification, .diagnosticsException, .caseNotFound, .cardinalityViolation,
   .dataException, .integrityConstraintViolation, .invalidCursorState, .invalidTransactionState,
   .invalidSqlStatementName, .triggeredDataChangeViolation, .invalidAuthorizationSpecification,
   .dependentPrivilegeDescriptorsStillExist, .invalidTransactionTermination, .sqlRoutineException,
   .invalidCursorName, .externalRoutineException, .externalRoutineInvocationException,
   .savepointException, .invalidCatalogName, .invalidSchemaName, .transactionRollback,
   .syntaxErrorOrAccessRuleViolation, .withCheckOptionViolation, .insufficientResources,
   .programLimitExceeded, .objectNotInPrerequisiteState, .operatorIntervention, .systemError,
   .snapshotTooOld, .configFileError, .fdwError, .plpgsqlError, .internalError]

/-- The conditions of the switch are those of the enumerators. -/
theorem value_mem_classConditions (c : Code) : c.value ∈ classConditions ↔ c ∈ classCodes := by
  cases c <;> decide +kernel

/-- A class condition starts its class. -/
theorem classWidth_dvd {v : Int} (h : v ∈ classConditions) : v % 36 ^ 3 = 0 := by
  revert v
  decide

/-! ## Codes of SQLSTATEs -/

section

variable {s t : List Char} (hs : IsSqlstate s) (ht : IsSqlstate t)

include hs ht

/-- The interval of a class condition is the class. -/
theorem equivalent_of_mem (h : b36tol t ∈ classConditions) :
    equivalent ⟨.sqlstate, b36tol s⟩ (b36tol t) = true ↔ s.take 2 = t.take 2 := by
  have hstart := classWidth_dvd h
  rw [← hs.b36tol_class ht, equivalent, if_pos ⟨rfl, h⟩, decide_eq_true_iff, classWidth]
  dsimp only
  omega

/-- Without a case in the switch the codes are compared. -/
theorem equivalent_of_not_mem (h : b36tol t ∉ classConditions) :
    equivalent ⟨.sqlstate, b36tol s⟩ (b36tol t) = true ↔ s = t := by
  rw [← hs.b36tol_inj ht, equivalent, if_neg fun hc => h hc.2, decide_eq_true_iff]
  simp

end

/-- Of the table of `connection_error` only the entry of the category can hold. -/
theorem connectionError_equivalent (v : Int) :
    Errc.connectionError.equivalent ⟨.sqlstate, v⟩ =
      equivalent ⟨.sqlstate, v⟩ connectionException := by
  simp [Errc.equivalent, Errc.codesForCondition, Errc.TableCode.equal, Errc.asio, Errc.netdb,
    Errc.ozo, ErrorCode.ofError, ErrorCode.operationAborted, ErrorCode.timedOut]

/-- The code of a result with the SQLSTATE `s` is in a class if `s` starts as the class does, it is
any other condition if `s` is the condition's, and it is a connection error if `s` starts with
`08`. -/
theorem equivalent_resultError {r : PgResult} {s : List Char} (hs : IsSqlstate s)
    (hr : r.sqlstate = some s) :
    (∀ c ∈ classCodes,
      equivalent (resultError r) c.value = true ↔ s.take 2 = c.sqlstate.take 2) ∧
    (∀ c ∉ classCodes, equivalent (resultError r) c.value = true ↔ s = c.sqlstate) ∧
    (Errc.connectionError.equivalent (resultError r) = true ↔ s.take 2 = ['0', '8']) := by
  have hclass (c : Code) (hc : c ∈ classCodes) :
      equivalent ⟨.sqlstate, b36tol s⟩ c.value = true ↔ s.take 2 = c.sqlstate.take 2 := by
    rw [← value_mem_classConditions, c.value_eq] at hc
    rw [c.value_eq]
    exact equivalent_of_mem hs c.isSqlstate hc
  rw [resultError_eq hs hr]
  refine ⟨hclass, ?_, ?_⟩
  · intro c hc
    rw [← value_mem_classConditions, c.value_eq] at hc
    rw [c.value_eq]
    exact equivalent_of_not_mem hs c.isSqlstate hc
  · rw [connectionError_equivalent]
    exact hclass .connectionException (by decide)

/-- `08006` is in the class `08` and no other code of it. -/
theorem equivalent_connectionFailure :
    ∃ r : PgResult, r.sqlstate = some ['0', '8', '0', '0', '6'] ∧
      equivalent (resultError r) Code.connectionException.value = true ∧
      equivalent (resultError r) Code.connectionFailure.value = true ∧
      ¬ equivalent (resultError r) Code.connectionDoesNotExist.value = true ∧
      Errc.connectionError.equivalent (resultError r) = true := by
  have hs : IsSqlstate ['0', '8', '0', '0', '6'] := by decide
  have hr : PgResult.sqlstate ⟨.fatalError, some ['0', '8', '0', '0', '6']⟩ = some _ := rfl
  obtain ⟨hclass, hcode, herror⟩ := equivalent_resultError hs hr
  refine ⟨_, hr, ?_, ?_, ?_, ?_⟩
  · exact (hclass _ (by decide)).mpr rfl
  · exact (hcode _ (by decide)).mpr rfl
  · rw [hcode _ (by decide)]
    decide
  · exact herror.mpr rfl

end OzoPg.Sqlstate
