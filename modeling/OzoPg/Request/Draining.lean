import OzoPg.Request.Finality
import OzoPg.Request.ServerErrors

/-!
# Result processing and draining

The receiver takes the first result, takes and drops what follows it until `PQgetResult` returns
null, and gives the first one to the processor. It is a coroutine that is moved into each of its
waits, so where it stands is the position of the code while it runs and the position of the
coroutine while it waits.

* `Phase` — where the receiver stands, and `Move` — how a step moves it;
* `History` — what has been returned and processed at each phase;
* `receiver_outcomes` — what is processed, when the receiver succeeds and that it has drained the
  connection.
-/

namespace OzoPg.Request

open State Transition

/-! ## Phases of the receiver

Where the receiver stands can be told from the state at any time, also while it waits and while the
sender runs. -/

/-- In or before one of the loops, at the processor, or at the end. -/
inductive Phase where
  | loop (l : Loop)
  | process
  | ended
  deriving DecidableEq, Repr

/-- Where the receiver is resumed: still to be started or waiting, at its position, if at all. -/
def State.suspended (s : State) : Phase :=
  if s.starting = true ∨ s.readWait ≠ .none then .loop (s.position.getD .first) else .ended

/-- Where the receiver stands. -/
def State.phase (s : State) : Phase :=
  match s.pc with
  | .isBusy l | .consumeInput l | .getResult l => .loop l
  | .process => .process
  | .idle | .flush | .setNonblocking | .sendQueryParams => s.suspended

/-- The result that `PQgetResult` has returned, if that is what has happened. -/
def Label.result? : Label → Option PgResult
  | .getResult r => r
  | _ => none

/-- How a step moves the receiver. -/
inductive Move (s : State) (l : Label) (t : State) : Prop where
  | stays (label : l.result? = none) (phase : t.phase = s.phase)
  | ends (phase : t.phase = .ended)
  /-- A result that is kept or dropped. -/
  | drains (r : PgResult) (label : l.result? = some r) (before : s.phase ≠ .ended)
      (phase : t.phase = .loop .drain)
  /-- The first result in single-row mode. -/
  | single (r : PgResult) (before : s.phase ≠ .ended) (status : r.status = .singleTuple)
      (result : t.result = some r) (phase : t.phase = .process)
  /-- The end of the drain loop. -/
  | drained (r : PgResult) (label : l = .getResult none ∨ l = .consumeInput false)
      (before : s.phase ≠ .ended) (result : t.result = some r)
      (status : r.status.isProcessed = true) (phase : t.phase = .process)

/-- The receiver ends the request for good. -/
theorem phase_receiverDone {s : State} (hstart : s.starting = false) (hwait : s.readWait = .none)
    (ec : ErrorCode) : (s.receiverDone ec).phase = .ended := by
  simp [receiverDone, done, invoke, cancel, phase, suspended, hstart, hwait, Wait.cancel]

theorem phase_receiverDoneOk {s : State} (hstart : s.starting = false)
    (hwait : s.readWait = .none) : s.receiverDoneOk.phase = .ended := by
  simp [receiverDoneOk, invoke, phase, suspended, hstart, hwait]

/-- The receiver resumes at its position or ends. -/
theorem phase_receiver {s : State} (hstart : s.starting = false) (hwait : s.readWait = .none)
    (ec : ErrorCode) :
    (s.receiver ec).phase = .loop (s.position.getD .first) ∨ (s.receiver ec).phase = .ended := by
  unfold receiver
  split
  · right
    simp [phase, suspended, hstart, hwait]
  · split
    · exact .inr (phase_receiverDone hstart hwait _)
    · left
      split
      · next hpos => simp [phase, hpos]
      · next l hpos => simp [phase, hpos]

/-- The sender leaves the receiver where it is, or the request has failed before it started. -/
theorem phase_senderReturn {s : State} (hstart : s.starting = true → s.readWait = .none) :
    s.senderReturn.phase = s.suspended ∨ s.senderReturn.phase = .ended := by
  unfold senderReturn
  split
  · next hs =>
      rcases phase_receiver (s := { s with starting := false }) rfl (hstart hs) .success with h | h
      · left
        rw [h, suspended, if_pos (.inl hs)]
      · exact .inr h
  · exact .inl rfl

/-- The end of the sender leaves the receiver where it is, or has ended it. -/
theorem phase_senderDone (s : State) (ec : ErrorCode) :
    (s.done ec).senderReturn.phase = s.suspended ∨ (s.done ec).senderReturn.phase = .ended := by
  rw [senderReturn_of_error rfl]
  by_cases hwait : s.readWait = .none
  · right
    simp [done, invoke, cancel, phase, suspended, hwait, Wait.cancel]
  · left
    simp [done, invoke, cancel, phase, suspended, hwait, cancel_eq_none_iff]

/-- The sender does not move the receiver. -/
theorem phase_sender {s : State} (hstart : s.starting = true → s.readWait = .none)
    (ec : ErrorCode) : (s.sender ec).phase = s.suspended ∨ (s.sender ec).phase = .ended := by
  unfold sender
  split
  · exact phase_senderReturn hstart
  · split
    · exact phase_senderDone s ec
    · exact .inl rfl

/-- The receiver does not wait before it has been started. -/
theorem Inv.readWait_of_starting {s : State} (h : Inv s) (hstart : s.starting = true) :
    s.readWait = .none := by
  have hc := h.control
  unfold Control at hc
  cases hpc : s.pc with
  | idle =>
      rw [h.starting_of_idle hpc] at hstart
      cases hstart
  | setNonblocking | sendQueryParams =>
      rw [hpc] at hc
      exact hc.2.2.2.1
  | flush =>
      rw [hpc] at hc
      exact (hc.2.2 hstart).2
  | isBusy l | consumeInput l | getResult l | process =>
      rw [hpc] at hc
      exact hc.readWait

/-- While the receiver is suspended, the sender and the event loop leave it where it is or find
it at its end. -/
theorem move_of_suspended {s t : State} {l : Label} (hl : l.result? = none)
    (hs : s.phase = s.suspended) (ht : t.phase = s.suspended ∨ t.phase = .ended) : Move s l t := by
  rcases ht with ht | ht
  · exact .stays hl (ht.trans hs.symm)
  · exact .ends ht

/-- The end of the drain loop. -/
theorem move_handleFirst {s : State} {l : Label} (hr : Receiving s) (hphase : s.phase ≠ .ended)
    (hl : l = .getResult none ∨ l = .consumeInput false) : Move s l s.handleFirst := by
  have hdone (errorContext : String) (ec : ErrorCode) :
      Move s l (receiverDone { s with errorContext } ec) :=
    .ends (phase_receiverDone (s := { s with errorContext }) hr.starting hr.readWait ec)
  unfold handleFirst
  split
  · apply Move.ends
    simp [phase, suspended, hr.starting, hr.readWait]
  · next r hresult =>
      unfold handleResult
      split
      · next hstatus => exact .drained r hl hphase hresult (by rw [hstatus]; rfl) rfl
      · next hstatus => exact .drained r hl hphase hresult (by rw [hstatus]; rfl) rfl
      · next hstatus => exact .drained r hl hphase hresult (by rw [hstatus]; rfl) rfl
      all_goals exact hdone _ _

/-- A first result leads into the drain loop or to the processor, and none ends the request. -/
theorem move_afterFirstResult {s : State} (hr : Receiving s) (hphase : s.phase ≠ .ended)
    (r : Option PgResult) : Move s (.getResult r) (afterFirstResult s r) := by
  cases r with
  | none => exact .ends (phase_receiverDoneOk hr.starting hr.readWait)
  | some r =>
      simp only [afterFirstResult]
      split
      · exact .drains r rfl hphase rfl
      · next hstatus =>
          rw [handleResult, not_not.mp hstatus]
          exact .single r hphase (not_not.mp hstatus) rfl rfl

theorem phase_afterProcess {s : State} (hr : Receiving s) (what : Option String) :
    (afterProcess s what).phase = .ended := by
  cases what with
  | none => exact phase_receiverDoneOk hr.starting hr.readWait
  | some what =>
      exact phase_receiverDone (s := { s with errorContext := what }) hr.starting hr.readWait _

/-- Every step moves the receiver as the source has it. -/
theorem move_step {s t : State} {l : Label} (h : Inv s) (hstep : step s l = some t) :
    Move s l t := by
  have hstart := h.readWait_of_starting
  cases Step.of_step hstep with
  | nonblockingSet hpc => exact move_of_suspended rfl (by rw [phase, hpc]) (.inl rfl)
  | nonblockingFailed hpc | queryFailed hpc =>
      exact move_of_suspended rfl (by rw [phase, hpc]) (phase_senderDone s _)
  | querySent hpc => exact move_of_suspended rfl (by rw [phase, hpc]) (phase_sender hstart _)
  -- the sender runs: the receiver is started by it, or stays where it waits
  | flushed r hpc =>
      refine move_of_suspended rfl (by rw [phase, hpc]) ?_
      cases r with
      | error => exact phase_senderDone s _
      | sendInProgress =>
          exact phase_senderReturn (s := { s with writeWait := .pending, waits := s.waits + 1 })
            hstart
      | sendFinish => exact phase_senderReturn (s := { s with queryState := .sendFinish }) hstart
  -- a wait keeps the loop the receiver is in
  | busy l hpc =>
      apply Move.stays rfl
      simp [phase, suspended, hpc]
  | notBusy l hpc => exact .stays rfl (by simp [phase, hpc])
  | consumed l hpc => exact .stays rfl (by simp [phase, hpc])
  | firstFailed hpc =>
      have hr : Receiving s := h.receiving (by rw [hpc]; rfl)
      exact .ends (phase_receiverDone hr.starting hr.readWait _)
  -- the drain loop is left on an error as well
  | drainFailed hpc =>
      exact move_handleFirst (h.receiving (by rw [hpc]; rfl)) (by simp [phase, hpc]) (.inr rfl)
  | firstResult r hpc =>
      exact move_afterFirstResult (h.receiving (by rw [hpc]; rfl)) (by simp [phase, hpc]) r
  | drained r hpc =>
      have hphase : s.phase ≠ .ended := by simp [phase, hpc]
      cases r with
      | none => exact move_handleFirst (h.receiving (by rw [hpc]; rfl)) hphase (.inl rfl)
      | some r => exact .drains r rfl hphase rfl
  | processed what hpc => exact .ends (phase_afterProcess (h.receiving (by rw [hpc]; rfl)) what)
  | readReady ec hwait => exact .stays rfl (by simp [phase, suspended, hwait])
  | writeReady ec hwait => exact .stays rfl rfl
  | readDelivered ec hpc hwait =>
      refine move_of_suspended rfl (by rw [phase, hpc]) ?_
      rw [suspended, if_pos (.inr (by simp [hwait]))]
      exact phase_receiver (s := { s with readWait := .none }) (h.starting_of_idle hpc) rfl ec
  | writeDelivered ec hpc hwait =>
      exact move_of_suspended rfl (by rw [phase, hpc])
        (phase_sender (s := { s with writeWait := .none }) hstart ec)
  | timerExpired d hd htimer => exact .stays rfl rfl
  | timerDelivered d hpc hd htimer =>
      apply Move.stays rfl
      unfold timerHandler
      split
      · simp [phase, suspended, cancel, hpc, cancel_eq_none_iff]
      · rfl

/-- Every result that is returned is kept in the list. -/
theorem results_eq_step {s t : State} {l : Label} (hstep : step s l = some t) :
    t.results = s.results ++ l.result?.toList := by
  cases hl : l.result? with
  | none =>
      rcases results_step hstep with ⟨-, hsame⟩ | hreturned
      · simp [hsame]
      · cases hreturned <;> cases hl
  | some r =>
      cases Step.of_step hstep with
      | firstResult r' hpc =>
          cases hl
          simp only [afterFirstResult]
          split
          · rfl
          · exact (sameResults_handleResult
              { s with result := some r, results := s.results ++ [r] } r).2
      | drained r' hpc =>
          cases hl
          rfl
      | _ => cases hl

/-! ## What has happened at each phase -/

/-- The results `PQgetResult` has returned, in order. -/
def obtained (ls : List Label) : List PgResult := ls.filterMap Label.result?

/-- The result processor has been called and has returned or thrown. -/
def Label.isProcess : Label → Bool
  | .process _ => true
  | _ => false

/-- What the steps so far have to do with where the receiver stands. -/
structure History (ls : List Label) (s : State) : Prop where
  results : s.results = obtained ls
  result : s.result = s.results.head?
  first : s.phase = .loop .first → s.results = []
  drain : s.phase = .loop .drain → s.results ≠ []
  process : s.phase = .process → ∃ r, s.result = some r ∧ r.status.isProcessed = true ∧
    (r.status = .singleTuple ∨ .getResult none ∈ ls ∨ .consumeInput false ∈ ls)
  count : ls.countP Label.isProcess = 0 ∨
    (ls.countP Label.isProcess = 1 ∧ s.phase = .ended)

theorem history_init (errorContext : String) (timed : Bool) :
    History [] (init errorContext timed) where
  results := rfl
  result := rfl
  first _ := rfl
  drain h := by cases h
  process h := by cases h
  count := .inl rfl

section HistoryStep

variable {ls : List Label} {s t : State} {l : Label} (hinv : Inv s) (h : History ls s)
  (hstep : step s l = some t)

include h hstep

/-- The first result is remembered, and remains the first one. -/
theorem History.result_step : t.result = t.results.head? := by
  rcases results_step hstep with ⟨hresult, hresults⟩ | hreturned
  · rw [hresult, hresults]
    exact h.result
  · cases hreturned with
    | first r hpc hresult hresults =>
        have hnil : s.results = [] := h.first (by simp [phase, hpc])
        rw [hresult, hresults, hnil]
        rfl
    | drained r hpc hresult hresults =>
        have hne : s.results ≠ [] := h.drain (by simp [phase, hpc])
        obtain ⟨r', rs, hcons⟩ := List.exists_cons_of_ne_nil hne
        rw [hresult, hresults, h.result, hcons]
        rfl

include hinv

/-- The processor is called once, and that ends the receiver. -/
theorem History.count_step : (ls ++ [l]).countP Label.isProcess = 0 ∨
    ((ls ++ [l]).countP Label.isProcess = 1 ∧ t.phase = .ended) := by
  rw [List.countP_append, List.countP_singleton]
  cases hl : l.isProcess with
  -- the processor is called at the position before the end, so not for a second time
  | true =>
      right
      cases Step.of_step hstep with
      | processed what hpc =>
          have hphase : s.phase = .process := by simp [phase, hpc]
          rcases h.count with hcount | ⟨-, hended⟩
          · exact ⟨by rw [hcount]; rfl, phase_afterProcess (hinv.receiving (by rw [hpc]; rfl)) what⟩
          · rw [hphase] at hended
            cases hended
      | _ => cases hl
  | false =>
      rcases h.count with hcount | ⟨hcount, hended⟩
      · exact .inl (by simp [hcount])
      · refine .inr ⟨by simp [hcount], ?_⟩
        cases move_step hinv hstep with
        | stays label phase => exact phase.trans hended
        | ends phase => exact phase
        | drains r label before phase => exact absurd hended before
        | single r before status result phase => exact absurd hended before
        | drained r label before result status phase => exact absurd hended before

/-- The labels so far and the position go together. -/
theorem History.step : History (ls ++ [l]) t := by
  have happend := results_eq_step hstep
  have hresults : t.results = obtained (ls ++ [l]) := by
    rw [happend, h.results]
    cases hl : l.result? <;> simp [obtained, hl]
  have hresult := h.result_step hstep
  have hcount := h.count_step hinv hstep
  cases move_step hinv hstep with
  -- no result and the same position: everything carries over
  | stays label phase =>
      have hsame : t.results = s.results := by simp [happend, label]
      refine ⟨hresults, hresult, ?_, ?_, ?_, hcount⟩
      · intro hfirst
        rw [hsame]
        exact h.first (phase.symm.trans hfirst)
      · intro hdrain
        rw [hsame]
        exact h.drain (phase.symm.trans hdrain)
      · intro hprocess
        obtain ⟨r, hr, hstatus, hcause⟩ := h.process (phase.symm.trans hprocess)
        refine ⟨r, ?_, hstatus, ?_⟩
        · rw [hresult, hsame, ← h.result, hr]
        · rcases hcause with hsingle | hnull | hfailed
          · exact .inl hsingle
          · exact .inr (.inl (List.mem_append_left _ hnull))
          · exact .inr (.inr (List.mem_append_left _ hfailed))
  | ends phase =>
      exact ⟨hresults, hresult, by simp [phase], by simp [phase], by simp [phase], hcount⟩
  -- a result has been returned, so there is one
  | drains r label before phase =>
      refine ⟨hresults, hresult, by simp [phase], fun _ => ?_, by simp [phase], hcount⟩
      simp [happend, label]
  | single r before status result phase =>
      refine ⟨hresults, hresult, by simp [phase], by simp [phase], fun _ => ?_, hcount⟩
      exact ⟨r, result, by rw [status]; rfl, .inl status⟩
  | drained r label before result status phase =>
      refine ⟨hresults, hresult, by simp [phase], by simp [phase], fun _ => ?_, hcount⟩
      refine ⟨r, result, status, .inr ?_⟩
      rcases label with rfl | rfl
      · exact .inl (by simp)
      · exact .inr (by simp)

end HistoryStep

/-! ## Success -/

/-- There was no result, or the processor has returned. -/
def Finished (ls : List Label) (s : State) : Prop :=
  .process none ∈ ls ∨ (.getResult none ∈ ls ∧ s.results = [])

/-- A success has been reported. -/
def State.succeeded (s : State) : Prop := ∃ ec ∈ s.calls, ec.failed = false

/-- Both ways end in the same call. -/
theorem step_of_succeeds {s : State} {l : Label} (h : Succeeds s l) :
    step s l = some s.receiverDoneOk := by
  rcases h with ⟨hpc, rfl⟩ | ⟨hpc, rfl⟩
  · simp [step, hpc, afterFirstResult]
  · simp [step, hpc, afterProcess]

/-- Other steps report no success. -/
theorem succeeded_step_iff {s t : State} {l : Label} (hinv : Inv s) (hnot : ¬ Succeeds s l)
    (hsql : ∀ r, s.result = some r → HasErrorSqlstate r) (hstep : step s l = some t) :
    t.succeeded ↔ s.succeeded := by
  cases outcome_step hinv hstep with
  | goesOn calls state => rw [State.succeeded, calls, State.succeeded]
  | failed v ec fails code =>
      have hec : ec.failed = true := by
        rcases code with hec | ⟨r, hr, hfatal, rfl⟩
        · exact hec
        · exact failed_resultError (hsql r hr) hfatal
      have hcalls : t.calls = s.calls ++ [ec] := by
        rw [fails.after, ← fails.calls]
        rfl
      simp [State.succeeded, hcalls, hec, or_and_right, exists_or]
  | succeeded label calls state => exact absurd label hnot

/-- No result and a result that is dropped do not finish a request. -/
theorem not_finished_getResult {ls : List Label} {s t : State} {r : Option PgResult} (hinv : Inv s)
    (h : History ls s) (hs : s.succeeded ↔ Finished ls s) (hnot : ¬ Succeeds s (.getResult r))
    (hstep : step s (.getResult r) = some t) :
    ¬ Finished ls s ∧ ¬ Finished (ls ++ [.getResult r]) t := by
  have happend := results_eq_step hstep
  -- null in the first loop would be a success, so a null comes from the drain loop
  have hpc : s.pc.inReceiver = true ∧ (r = none → s.phase = .loop .drain) := by
    cases Step.of_step hstep with
    | firstResult r hpc =>
        refine ⟨by rw [hpc]; rfl, ?_⟩
        rintro rfl
        exact absurd (.inl ⟨hpc, rfl⟩) hnot
    | drained r hpc => exact ⟨by rw [hpc]; rfl, fun _ => by simp [phase, hpc]⟩
  have hunfinished : ¬ Finished ls s := by
    rw [← hs]
    rintro ⟨ec, hmem, -⟩
    rw [(hinv.receiving hpc.1).calls] at hmem
    cases hmem
  refine ⟨hunfinished, ?_⟩
  -- in the drain loop there has been a result already
  rintro (hprocess | ⟨-, hnil⟩)
  · exact hunfinished (.inl (by simpa using hprocess))
  · rw [happend, List.append_eq_nil_iff] at hnil
    cases r with
    | none => exact h.drain (hpc.2 rfl) hnil.1
    | some r => cases hnil.2

/-- A success is reported exactly when the receiver has finished. -/
theorem succeeded_iff_step {ls : List Label} {s t : State} {l : Label} (hinv : Inv s)
    (h : History ls s) (hsql : ∀ r ∈ s.results, HasErrorSqlstate r)
    (hs : s.succeeded ↔ Finished ls s) (hstep : step s l = some t) :
    t.succeeded ↔ Finished (ls ++ [l]) t := by
  by_cases hsucceeds : Succeeds s l
  · rw [step_of_succeeds hsucceeds] at hstep
    cases hstep
    refine iff_of_true ⟨.success, by simp [receiverDoneOk, invoke], rfl⟩ ?_
    rcases hsucceeds with ⟨hpc, rfl⟩ | ⟨hpc, rfl⟩
    · exact .inr ⟨by simp, h.first (by simp [phase, hpc])⟩
    · exact .inl (by simp)
  -- otherwise nothing is reported as a success, and nothing is finished by this step
  · have hresult : ∀ r, s.result = some r → HasErrorSqlstate r := by
      intro r hr
      rw [h.result] at hr
      exact hsql r (List.mem_of_mem_head? hr)
    rw [succeeded_step_iff hinv hsucceeds hresult hstep]
    have happend := results_eq_step hstep
    cases l with
    | getResult r =>
        obtain ⟨hbefore, hafter⟩ := not_finished_getResult hinv h hs hsucceeds hstep
        rw [hs]
        exact iff_of_false hbefore hafter
    | process what =>
        cases what with
        | none =>
            cases Step.of_step hstep with
            | processed what hpc => exact absurd (.inr ⟨hpc, rfl⟩) hsucceeds
        | some what => simp [hs, Finished, happend, Label.result?]
    | _ => simp [hs, Finished, happend, Label.result?]

/-! ## Whole runs -/

/-- The labels of the receiver; the others belong to the sender and the event loop. -/
def Label.ofReceiver : Label → Bool
  | .isBusy _ | .consumeInput _ | .getResult _ | .process _ | .deliverRead => true
  | _ => false

/-- The receiver completes the request after a first result that is not of single-row mode,
without a wait error and without a failure of `PQconsumeInput`. -/
structure CompletesOrderly (ls : List Label) (s : State) (l : Label) (t : State) : Prop where
  receiver : l.ofReceiver = true
  completes : t.calls ≠ s.calls
  result : ∃ r, (obtained ls).head? = some r ∧ r.status ≠ .singleTuple
  noWaitError : l = .deliverRead → s.readWait.failed = false
  consumes : .consumeInput false ∉ ls ++ [l]

/-- It has then seen the end of the results. -/
theorem drained_of_completesOrderly {ls : List Label} {s t : State} {l : Label}
    (h : History ls s) (hstep : step s l = some t) (hc : CompletesOrderly ls s l t) :
    .getResult none ∈ ls ++ [l] := by
  obtain ⟨r, hr, hstatus⟩ := hc.result
  rw [← h.results] at hr
  have hconsumes := hc.consumes
  have hreceiver := hc.receiver
  cases Step.of_step hstep with
  | busy l hpc | notBusy l hpc | consumed l hpc => exact absurd rfl hc.completes
  | firstFailed hpc | drainFailed hpc => simp at hconsumes
  | firstResult r' hpc =>
      rw [h.first (by simp [phase, hpc])] at hr
      cases hr
  | drained r' hpc =>
      cases r' with
      | none => simp
      | some r' => exact absurd rfl hc.completes
  -- the processor has the first result: of single-row mode, or after the drain
  | processed what hpc =>
      obtain ⟨r', hr', -, hcause⟩ := h.process (by simp [phase, hpc])
      rw [h.result, hr] at hr'
      cases hr'
      rcases hcause with hsingle | hnull | hfailed
      · exact absurd hsingle hstatus
      · exact List.mem_append_left _ hnull
      · exact absurd (List.mem_append_left _ hfailed) hconsumes
  -- without a wait error a resumed receiver goes on
  | readDelivered ec hpc hwait =>
      have hec : ec.failed = false := by
        have hfailed := hc.noWaitError rfl
        rwa [hwait] at hfailed
      refine absurd ?_ hc.completes
      unfold receiver
      split
      · rfl
      · rw [if_neg (by simp [hec])]
        split <;> rfl
  | _ => cases hreceiver

/-- In every run: the processor is called at most once, with the first result and only if that
is a good one; a success is reported exactly when there was no result or the processor has
returned; and a receiver that completes orderly has drained the connection. -/
theorem receiver_outcomes (errorContext : String) (timed : Bool) (ls : List Label) (s : State)
    (hrun : run step (init errorContext timed) ls = some s)
    (hsql : ∀ r ∈ obtained ls, HasErrorSqlstate r) :
    (ls.countP Label.isProcess + (if s.pc = .process then 1 else 0) ≤ 1) ∧
      (s.pc = .process → ∃ r, s.result = some r ∧ (obtained ls).head? = some r ∧
        r.status.isProcessed = true) ∧
      ((∃ ec ∈ s.calls, ec.failed = false) ↔
        .process none ∈ ls ∨ (.getResult none ∈ ls ∧ obtained ls = [])) ∧
      (∀ l t, step s l = some t → CompletesOrderly ls s l t → .getResult none ∈ ls ++ [l]) := by
  have hinv : Inv s ∧ History ls s ∧
      ((∀ r ∈ s.results, HasErrorSqlstate r) → (s.succeeded ↔ Finished ls s)) := by
    -- three invariants together, the last one for the SQLSTATEs seen so far
    refine run_history (I := fun ls s => Inv s ∧ History ls s ∧
      ((∀ r ∈ s.results, HasErrorSqlstate r) → (s.succeeded ↔ Finished ls s)))
      (fun ls v l w hv hstep => ?_) ⟨inv_init _ _, history_init _ _, fun _ => ?_⟩ hrun
    · obtain ⟨hinv, hhistory, hsucceeded⟩ := hv
      refine ⟨hinv.step hstep, hhistory.step hinv hstep, fun hsql => ?_⟩
      have hsql' : ∀ r ∈ v.results, HasErrorSqlstate r := by
        intro r hr
        apply hsql
        rw [results_eq_step hstep]
        exact List.mem_append_left _ hr
      exact succeeded_iff_step hinv hhistory hsql' (hsucceeded hsql') hstep
    · simp [State.succeeded, Finished, init]
  obtain ⟨-, hhistory, hsucceeded⟩ := hinv
  rw [← hhistory.results] at hsql ⊢
  refine ⟨?_, ?_, hsucceeded hsql, fun l t hstep => drained_of_completesOrderly hhistory hstep⟩
  · rcases hhistory.count with hcount | ⟨hcount, hended⟩
    · rw [hcount]
      split <;> decide
    · rw [hcount, if_neg ?_]
      intro hpc
      simp [phase, hpc] at hended
  · intro hpc
    obtain ⟨r, hr, hstatus, -⟩ := hhistory.process (by simp [phase, hpc])
    exact ⟨r, hr, by rw [← hhistory.result, hr], hstatus⟩

/-- Rows arrive, and the receiver has to wait for the end of the results. -/
def drainingRun : List Label :=
  [.setNonblocking true, .sendQueryParams true, .flush .sendFinish, .isBusy false,
    .getResult (some ⟨.tuplesOk, none⟩), .isBusy true, .readReady .success, .deliverRead,
    .consumeInput true, .isBusy false, .getResult none]

/-- The state it leads to. -/
def drainedState : State :=
  { init "" false with
    queryState := .sendFinish, pc := .process, starting := false, position := some .drain,
    result := some ⟨.tuplesOk, none⟩, results := [⟨.tuplesOk, none⟩], waits := 1 }

theorem receiver_outcomes_drainingRun :
    run step (init "" false) drainingRun = some drainedState ∧
      CompletesOrderly drainingRun drainedState (.process none) drainedState.receiverDoneOk ∧
      .getResult none ∈ drainingRun ++ [.process none] := by
  have hrun : run step (init "" false) drainingRun = some drainedState := by decide
  have hsql : ∀ r ∈ obtained drainingRun, HasErrorSqlstate r := by
    intro r hr hfatal
    obtain rfl : ⟨.tuplesOk, none⟩ = r := by simpa [obtained, drainingRun, Label.result?] using hr
    cases hfatal
  have hcompletes :
      CompletesOrderly drainingRun drainedState (.process none) drainedState.receiverDoneOk :=
    ⟨rfl, by decide, ⟨⟨.tuplesOk, none⟩, rfl, by decide⟩, nofun, by decide⟩
  exact ⟨hrun, hcompletes, (receiver_outcomes "" false _ _ hrun hsql).2.2.2 _ _ rfl hcompletes⟩

end OzoPg.Request
