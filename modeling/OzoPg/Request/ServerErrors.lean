import OzoPg.Request.Invariant

/-!
# Server errors in the result of a request

The receiver remembers the first result and only counts the ones behind it: the drain loop tells
null from the rest and drops what it gets. A `PGRES_FATAL_ERROR` behind a `PGRES_COMMAND_OK` (a
commit that fails after the command has completed) is dropped too, and the request succeeds.

* `HidesError` — such a step.
* `Hears` — once an error has been returned, nothing leads to a success any more.
* `calls_failed_of_fatalError` — a request that drops no error behind a good result reports it.
-/

namespace OzoPg.Request

open State Transition

/-- The statuses `handle_result` gives to the result processor. -/
def ExecStatus.isProcessed : ExecStatus → Bool
  | .singleTuple | .tuplesOk | .commandOk => true
  | _ => false

/-- `PQgetResult` has returned an error of the server. -/
def Label.isFatalResult : Label → Bool
  | .getResult (some r) => r.status = .fatalError
  | _ => false

/-- An error of the server arrives in the drain loop, behind a first result that will be
processed. -/
def HidesError (s : State) (l : Label) : Prop :=
  s.pc = .getResult .drain ∧ l.isFatalResult = true ∧
    s.result.any (·.status.isProcessed) = true

instance (s : State) (l : Label) : Decidable (HidesError s l) :=
  inferInstanceAs (Decidable (_ ∧ _))

/-- Errors of the server come with a SQLSTATE other than `00000`, or with none. -/
def HasErrorSqlstate (r : PgResult) : Prop :=
  r.status = .fatalError → ∀ q, r.sqlstate = some q → IsErrorSqlstate q

/-! ## What completes a request with an error -/

/-- A SQLSTATE of an error is not the code of a success. -/
theorem failed_resultError {r : PgResult} (h : HasErrorSqlstate r) (hr : r.status = .fatalError) :
    (resultError r).failed = true := by
  cases hq : r.sqlstate with
  | some q =>
      have hstate := h hr q hq
      obtain ⟨hpos, -⟩ := b36tol_pos hstate
      rw [resultError_eq hstate.toIsSqlstate hq, ErrorCode.failed, bne_iff_ne]
      exact hpos.ne'
  | none =>
      rw [resultError, hq]
      exact ErrorCode.failed_ofError _

/-- A result that is not processed completes the request with an error. -/
theorem handleResult_of_not_isProcessed (s : State) {r : PgResult}
    (hr : r.status.isProcessed = false) (hsql : HasErrorSqlstate r) :
    ∃ errorContext ec, s.handleResult r = receiverDone { s with errorContext } ec ∧
      ec.failed = true := by
  unfold handleResult
  split
  -- the three statuses that are processed
  · next h => simp [h, ExecStatus.isProcessed] at hr
  · next h => simp [h, ExecStatus.isProcessed] at hr
  · next h => simp [h, ExecStatus.isProcessed] at hr
  · exact ⟨_, _, rfl, ErrorCode.failed_ofError _⟩
  · exact ⟨_, _, rfl, ErrorCode.failed_ofError _⟩
  · next h => exact ⟨_, _, rfl, failed_resultError hsql h⟩
  · exact ⟨_, _, rfl, ErrorCode.failed_ofError _⟩

/-! ## The invariant -/

/-- The receiver has left its first loop and is not at the processor: it is in the drain loop,
waits there, or has finished. -/
def PastFirst (s : State) : Prop :=
  match s.pc with
  | .setNonblocking | .sendQueryParams | .process => False
  | .isBusy l | .consumeInput l | .getResult l => l = .drain
  | .idle | .flush => s.starting = false ∧ (s.readWait = .none ∨ s.position = some .drain)

/-- The request can only fail: its first result is not for the processor, the receiver will not
take another one, and no success has been reported. -/
structure Failing (s : State) : Prop where
  result : ∀ r, s.result = some r → r.status.isProcessed = false
  past : PastFirst s
  calls : ∀ ec ∈ s.calls, ec.failed = true

/-- An error the server has returned makes the request fail. -/
structure Hears (s : State) : Prop where
  sqlstate : ∀ r, s.result = some r → HasErrorSqlstate r
  failing : (∃ r ∈ s.results, r.status = .fatalError) → Failing s

theorem hears_init (errorContext : String) (timed : Bool) : Hears (init errorContext timed) where
  sqlstate := nofun
  failing := by
    rintro ⟨r, hr, -⟩
    cases hr

/-- In the event loop, without a wait or with one of the drain loop. -/
theorem PastFirst.of_idle {s : State} (hpc : s.pc = .idle) (hstart : s.starting = false)
    (hwait : s.readWait = .none ∨ s.position = some .drain) : PastFirst s := by
  unfold PastFirst
  rw [hpc]
  exact ⟨hstart, hwait⟩

theorem cancel_eq_none_iff (w : Wait) : w.cancel = .none ↔ w = .none := by
  cases w <;> simp [Wait.cancel]

namespace Failing

variable {s : State}

theorem calls_append (h : Failing s) {ec : ErrorCode} (hec : ec.failed = true) :
    ∀ ec' ∈ s.calls ++ [ec], ec'.failed = true := by
  intro ec' hmem
  rcases List.mem_append.mp hmem with hmem | hmem
  · exact h.calls ec' hmem
  · rw [List.mem_singleton.mp hmem]
    exact hec

/-- The receiver ends with an error. -/
theorem receiverDone (h : Failing s) (hstart : s.starting = false)
    (hwait : s.readWait = .none ∨ s.position = some .drain) {ec : ErrorCode}
    (hec : ec.failed = true) : Failing (s.receiverDone ec) where
  result := h.result
  past := by
    refine .of_idle rfl hstart ?_
    simpa [cancel_eq_none_iff] using hwait
  calls := h.calls_append hec

/-- The first result is none for the processor, so handling it fails. -/
theorem handleFirst (h : Failing s) (hsql : ∀ r, s.result = some r → HasErrorSqlstate r)
    (hr : Receiving s) : Failing s.handleFirst := by
  unfold State.handleFirst
  split
  · exact ⟨h.result, .of_idle rfl hr.starting (.inl hr.readWait), h.calls⟩
  · next r hres =>
      obtain ⟨errorContext, ec, heq, hec⟩ :=
        handleResult_of_not_isProcessed s (h.result r hres) (hsql r hres)
      rw [heq]
      have h' : Failing { s with errorContext } := ⟨h.result, h.past, h.calls⟩
      exact h'.receiverDone hr.starting (.inl hr.readWait) hec

/-- The sender ends its run, the receiver being past its first loop. -/
theorem senderReturn (h : Failing s) (hstart : s.starting = false)
    (hwait : s.readWait = .none ∨ s.position = some .drain) : Failing s.senderReturn := by
  unfold State.senderReturn
  rw [if_neg (by simp [hstart])]
  exact ⟨h.result, .of_idle rfl hstart hwait, h.calls⟩

theorem senderDone (h : Failing s)
    (hwait : s.readWait = .none ∨ s.position = some .drain) {ec : ErrorCode}
    (hec : ec.failed = true) : Failing (s.done ec).senderReturn := by
  rw [senderReturn_of_error rfl]
  refine ⟨h.result, .of_idle rfl rfl ?_, h.calls_append hec⟩
  simpa [cancel_eq_none_iff] using hwait

/-- The receiver will not take another result for the first one. -/
theorem receiver (h : Failing s) (hstart : s.starting = false) (hwait : s.readWait = .none)
    (hpos : s.position = some .drain) (ec : ErrorCode) : Failing (s.receiver ec) := by
  unfold State.receiver
  split
  · exact ⟨h.result, .of_idle rfl hstart (.inl hwait), h.calls⟩
  · split
    · next hec =>
        apply h.receiverDone hstart (.inl hwait)
        split
        · rfl
        · exact hec
    · rw [hpos]
      exact ⟨h.result, rfl, h.calls⟩

/-- The sender can add nothing but an error. -/
theorem sender (h : Failing s) (hstart : s.starting = false)
    (hwait : s.readWait = .none ∨ s.position = some .drain) (ec : ErrorCode) :
    Failing (s.sender ec) := by
  unfold State.sender
  split
  · exact h.senderReturn hstart hwait
  · split
    · next hec => exact h.senderDone hwait hec
    · exact ⟨h.result, ⟨hstart, hwait⟩, h.calls⟩

theorem afterFlush (h : Failing s) (hstart : s.starting = false)
    (hwait : s.readWait = .none ∨ s.position = some .drain) (r : QueryState) :
    Failing (afterFlush s r) := by
  cases r with
  | error => exact h.senderDone hwait (ErrorCode.failed_ofError _)
  | sendInProgress =>
      have h' : Failing { s with writeWait := .pending, waits := s.waits + 1 } :=
        ⟨h.result, h.past, h.calls⟩
      exact h'.senderReturn hstart hwait
  | sendFinish =>
      have h' : Failing { s with queryState := .sendFinish } := ⟨h.result, h.past, h.calls⟩
      exact h'.senderReturn hstart hwait

/-- Nor can the timer. -/
theorem timerHandler (h : Failing s) (hpc : s.pc = .idle) (hstart : s.starting = false)
    (hwait : s.readWait = .none ∨ s.position = some .drain) (d : Deadline) :
    Failing (s.timerHandler d) := by
  unfold State.timerHandler
  split
  · refine ⟨h.result, .of_idle hpc hstart ?_, h.calls⟩
    simpa [State.cancel, cancel_eq_none_iff] using hwait
  · exact ⟨h.result, .of_idle hpc hstart hwait, h.calls⟩

end Failing

/-- A request that can only fail stays one, whatever it hears next. -/
theorem Failing.step {s t : State} {l : Label} (h : Failing s) (hinv : Inv s)
    (hsql : ∀ r, s.result = some r → HasErrorSqlstate r) (hstep : step s l = some t) :
    Failing t := by
  have hpast := h.past
  unfold PastFirst at hpast
  cases Step.of_step hstep with
  -- before the receiver and in its first loop nothing has been returned
  | nonblockingSet hpc | nonblockingFailed hpc | querySent hpc | queryFailed hpc
  | processed what hpc =>
      rw [hpc] at hpast
      exact hpast.elim
  | firstFailed hpc | firstResult r hpc =>
      rw [hpc] at hpast
      cases hpast
  | flushed r hpc =>
      rw [hpc] at hpast
      exact h.afterFlush hpast.1 hpast.2 r
  | busy l hpc =>
      have hr : Receiving s := hinv.receiving (by rw [hpc]; rfl)
      rw [hpc] at hpast
      exact ⟨h.result, .of_idle rfl hr.starting (.inr (congrArg some hpast)), h.calls⟩
  | notBusy l hpc | consumed l hpc =>
      rw [hpc] at hpast
      exact ⟨h.result, hpast, h.calls⟩
  | drainFailed hpc =>
      -- the connection is lost, and the first result is still what the request ends with
      exact h.handleFirst hsql (hinv.receiving (by rw [hpc]; rfl))
  | drained r hpc =>
      cases r with
      | none => exact h.handleFirst hsql (hinv.receiving (by rw [hpc]; rfl))
      | some r => exact ⟨h.result, rfl, h.calls⟩
  | readReady ec hwait =>
      refine ⟨h.result, ?_, h.calls⟩
      unfold PastFirst
      simp only [hwait, reduceCtorEq, false_or] at hpast ⊢
      exact hpast
  | writeReady ec hwait => exact ⟨h.result, hpast, h.calls⟩
  | readDelivered ec hpc hwait =>
      rw [hpc, hwait] at hpast
      obtain ⟨hstart, hwait' | hpos⟩ := hpast
      · cases hwait'
      · have h' : Failing { s with readWait := .none } :=
          ⟨h.result, .of_idle hpc hstart (.inl rfl), h.calls⟩
        exact h'.receiver hstart rfl hpos ec
  | writeDelivered ec hpc hwait =>
      rw [hpc] at hpast
      have h' : Failing { s with writeWait := .none } := ⟨h.result, h.past, h.calls⟩
      exact h'.sender hpast.1 hpast.2 ec
  | timerExpired d hd htimer => exact ⟨h.result, hpast, h.calls⟩
  | timerDelivered d hpc hd htimer =>
      rw [hpc] at hpast
      exact h.timerHandler hpc hpast.1 hpast.2 d

/-! ## What the receiver remembers

Only the first result is kept. An error behind it is thrown away with its result, and this is where
it is lost. -/

/-- Neither the remembered result nor the list of results changes. -/
def SameResults (s t : State) : Prop := t.result = s.result ∧ t.results = s.results

theorem sameResults_receiver (s : State) (ec : ErrorCode) : SameResults s (s.receiver ec) := by
  unfold receiver
  split
  · exact ⟨rfl, rfl⟩
  · split
    · exact ⟨rfl, rfl⟩
    · split <;> exact ⟨rfl, rfl⟩

theorem sameResults_senderReturn (s : State) : SameResults s s.senderReturn := by
  unfold senderReturn
  split
  · exact sameResults_receiver { s with starting := false } _
  · exact ⟨rfl, rfl⟩

theorem sameResults_sender (s : State) (ec : ErrorCode) : SameResults s (s.sender ec) := by
  unfold sender
  split
  · exact sameResults_senderReturn s
  · split
    · exact sameResults_senderReturn (s.done ec)
    · exact ⟨rfl, rfl⟩

theorem sameResults_handleResult (s : State) (r : PgResult) :
    SameResults s (s.handleResult r) := by
  unfold handleResult
  split <;> exact ⟨rfl, rfl⟩

theorem sameResults_handleFirst (s : State) : SameResults s s.handleFirst := by
  unfold handleFirst
  split
  · exact ⟨rfl, rfl⟩
  · exact sameResults_handleResult s _

/-- A result is returned in the first loop and remembered, or in the drain loop and dropped. -/
inductive Returned (s : State) : Label → State → Prop where
  | first (r : PgResult) {t : State} (hpc : s.pc = .getResult .first) (hresult : t.result = some r)
      (hresults : t.results = s.results ++ [r]) : Returned s (.getResult (some r)) t
  | drained (r : PgResult) {t : State} (hpc : s.pc = .getResult .drain)
      (hresult : t.result = s.result) (hresults : t.results = s.results ++ [r]) :
      Returned s (.getResult (some r)) t

/-- Only `PQgetResult` changes what has been returned. -/
theorem results_step {s t : State} {l : Label} (hstep : step s l = some t) :
    SameResults s t ∨ Returned s l t := by
  cases Step.of_step hstep with
  | nonblockingFailed hpc => exact .inl (sameResults_senderReturn (s.done _))
  | querySent hpc => exact .inl (sameResults_sender s _)
  | queryFailed hpc => exact .inl (sameResults_senderReturn (s.done _))
  | flushed r hpc =>
      left
      cases r with
      | error => exact sameResults_senderReturn (s.done _)
      | sendInProgress =>
          exact sameResults_senderReturn { s with writeWait := .pending, waits := s.waits + 1 }
      | sendFinish => exact sameResults_senderReturn { s with queryState := .sendFinish }
  | drainFailed hpc => exact .inl (sameResults_handleFirst s)
  -- the only place where the result is remembered
  | firstResult r hpc =>
      cases r with
      | none => exact .inl ⟨rfl, rfl⟩
      | some r =>
          right
          simp only [afterFirstResult]
          split
          · exact .first r hpc rfl rfl
          · obtain ⟨hresult, hresults⟩ := sameResults_handleResult
              { s with result := some r, results := s.results ++ [r] } r
            exact .first r hpc hresult hresults
  -- here it is dropped
  | drained r hpc =>
      cases r with
      | none => exact .inl (sameResults_handleFirst s)
      | some r => exact .inr (.drained r hpc rfl rfl)
  | processed what hpc => cases what <;> exact .inl ⟨rfl, rfl⟩
  | readDelivered ec hpc hwait =>
      exact .inl (sameResults_receiver { s with readWait := .none } ec)
  | writeDelivered ec hpc hwait =>
      exact .inl (sameResults_sender { s with writeWait := .none } ec)
  | timerDelivered d hpc hd htimer =>
      left
      unfold timerHandler
      split <;> exact ⟨rfl, rfl⟩
  | _ => exact .inl ⟨rfl, rfl⟩

/-! ## Whole runs -/

/-- A first result that is an error makes the request fail. -/
theorem failing_afterFirstResult {s : State} (hr : Receiving s) {r : PgResult}
    (hfatal : r.status = .fatalError) : Failing (afterFirstResult s (some r)) := by
  have hne : r.status ≠ .singleTuple := by simp [hfatal]
  simp only [afterFirstResult, if_pos hne]
  refine ⟨?_, rfl, ?_⟩
  · rintro r' ⟨⟩
    rw [hfatal]
    rfl
  · simp [hr.calls]

/-- Every step that hides no error keeps the invariant. -/
theorem Hears.step {s t : State} {l : Label} (h : Hears s) (hinv : Inv s)
    (hhides : ¬ HidesError s l) (hsql : ∀ r, l = .getResult (some r) → HasErrorSqlstate r)
    (hstep : step s l = some t) : Hears t := by
  rcases results_step hstep with ⟨hresult, hresults⟩ | hreturned
  · refine ⟨?_, fun hseen => ?_⟩
    · rw [hresult]
      exact h.sqlstate
    · rw [hresults] at hseen
      exact (h.failing hseen).step hinv h.sqlstate hstep
  cases hreturned with
  | first r hpc hresult hresults =>
      have hr : Receiving s := hinv.receiving (by rw [hpc]; rfl)
      refine ⟨?_, ?_⟩
      · rw [hresult]
        rintro r' ⟨⟩
        exact hsql r rfl
      · rintro ⟨r', hmem, hfatal⟩
        rw [hresults, List.mem_append, List.mem_singleton] at hmem
        rcases hmem with hmem | rfl
        · -- an error before the first result
          exact (h.failing ⟨r', hmem, hfatal⟩).step hinv h.sqlstate hstep
        · simp only [Request.step, hpc, Option.some.injEq] at hstep
          subst hstep
          exact failing_afterFirstResult hr hfatal
  | drained r hpc hresult hresults =>
      have hr : Receiving s := hinv.receiving (by rw [hpc]; rfl)
      refine ⟨?_, ?_⟩
      · rw [hresult]
        exact h.sqlstate
      · rintro ⟨r', hmem, hfatal⟩
        rw [hresults, List.mem_append, List.mem_singleton] at hmem
        rcases hmem with hmem | rfl
        · exact (h.failing ⟨r', hmem, hfatal⟩).step hinv h.sqlstate hstep
        · -- the first result is not for the processor, or the step would hide the error
          have hfailing : Failing s := by
            refine ⟨fun r₀ hr₀ => ?_, ?_, ?_⟩
            · rw [Bool.eq_false_iff]
              intro hproc
              apply hhides
              simp [HidesError, Label.isFatalResult, hpc, hfatal, hr₀, hproc]
            · simp [PastFirst, hpc]
            · simp [hr.calls]
          exact hfailing.step hinv h.sqlstate hstep

/-- When `PQgetResult` has returned an error of the server, the request does not succeed, in
every run that drops no such error behind a result for the processor. -/
theorem calls_failed_of_fatalError (errorContext : String) (timed : Bool) (ls : List Label)
    (s : State) (hrun : run step (init errorContext timed) ls = some s)
    (hmeets : Meets step (fun s l => ¬ HidesError s l) (init errorContext timed) ls)
    (hsql : ∀ r, .getResult (some r) ∈ ls → HasErrorSqlstate r)
    (hfatal : ∃ r ∈ s.results, r.status = .fatalError) :
    ∀ ec ∈ s.calls, ec.failed = true := by
  have hmeets' := hmeets.and_of_forall
    (p := fun l => ∀ r, l = .getResult (some r) → HasErrorSqlstate r)
    (fun l hl r heq => hsql r (heq ▸ hl))
  have hinv : Inv s ∧ Hears s := by
    refine run_invariant_of_meets (I := fun v => Inv v ∧ Hears v)
      (fun v l w hv hok hstep => ?_)
      ⟨inv_init errorContext timed, hears_init errorContext timed⟩ hmeets' hrun
    exact ⟨hv.1.step hstep, hv.2.step hv.1 hok.1 hok.2 hstep⟩
  exact (hinv.2.failing hfatal).calls

/-- A serialization failure. -/
def serializationFailure : PgResult := ⟨.fatalError, some ['4', '0', '0', '0', '1']⟩

/-- The command completes and the implicit commit fails. -/
def failedCommitRun : List Label :=
  [.setNonblocking true, .sendQueryParams true, .flush .sendFinish, .isBusy false,
    .getResult (some ⟨.commandOk, none⟩), .isBusy false, .getResult (some serializationFailure),
    .isBusy false, .getResult none, .process none]

/-- The rolled back command is reported as a success. -/
theorem calls_failedCommitRun :
    (run step (init "" false) failedCommitRun).map (fun s => (s.calls, s.results.map (·.status)))
      = some ([.success], [.commandOk, .fatalError]) := by
  decide

theorem hasErrorSqlstate_serializationFailure : HasErrorSqlstate serializationFailure := by
  rintro - q ⟨⟩
  exact ⟨by decide, by decide⟩

/-- The command itself fails. -/
def failedCommandRun : List Label :=
  [.setNonblocking true, .sendQueryParams true, .flush .sendFinish, .isBusy false,
    .getResult (some serializationFailure), .isBusy false, .getResult none]

/-- A command that fails is reported as such. -/
theorem calls_failed_failedCommandRun :
    ∃ s, run step (init "" false) failedCommandRun = some s ∧ s.calls.length = 1 ∧
      ∀ ec ∈ s.calls, ec.failed = true := by
  have hrun : run step (init "" false) failedCommandRun = some
      { init "" false with
        queryState := .error, pc := .idle, starting := false
        result := some serializationFailure, results := [serializationFailure]
        errorContext := "error while get request result"
        calls := [resultError serializationFailure] } := by
    rfl
  refine ⟨_, hrun, rfl, calls_failed_of_fatalError "" false _ _ hrun (by decide) ?_ ?_⟩
  · intro r hmem
    simp only [failedCommandRun, List.mem_cons, Label.getResult.injEq, Option.some.injEq,
      reduceCtorEq, List.not_mem_nil, or_false, false_or] at hmem
    rw [hmem]
    exact hasErrorSqlstate_serializationFailure
  · exact ⟨serializationFailure, List.mem_singleton_self _, rfl⟩

end OzoPg.Request
