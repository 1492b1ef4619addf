import OzoPg.Request.Completion

/-!
# Failed requests are final

`done(ctx, ec)` puts the query state to `error`, cancels the waits of the connection and only then
calls the handler. What the two operations find of it later is the query state, which each of
them looks at before anything else.

* `Outcome` — what one step means for the handler: nothing, an error or a success.
* `Failed` — a request that has failed stays as it is.
* `failed_requests_are_final` — nothing the operations are resumed with changes that.
-/

namespace OzoPg.Request

open State Transition

/-! ## How a step completes the request -/

/-- The step from `s` to `t` performs `done(ctx, ec)`: the handler is called in the state `v`,
with the query state at `error` and all waits cancelled, and then the code returns to the event
loop. -/
structure FailsWith (s v t : State) (ec : ErrorCode) : Prop where
  state : v.queryState = .error
  noRead : v.readWait ≠ .pending
  noWrite : v.writeWait ≠ .pending
  readCancelled : s.readWait = .pending → v.readWait = .queued .operationAborted
  writeCancelled : s.writeWait = .pending → v.writeWait = .queued .operationAborted
  calls : v.calls = s.calls
  after : t = { v.invoke ec with pc := .idle, starting := false }

/-- The codes the operations fail with: errors, and what the server's result is turned into. -/
def ErrorOf (s : State) (ec : ErrorCode) : Prop :=
  ec.failed = true ∨ ∃ r, s.result = some r ∧ r.status = .fatalError ∧ ec = resultError r

/-- The two ways of the receiver to a success: there is no result, or it has been processed. -/
def Succeeds (s : State) (l : Label) : Prop :=
  (s.pc = .getResult .first ∧ l = .getResult none) ∨ (s.pc = .process ∧ l = .process none)

/-- What a step means for the handler. -/
inductive Outcome (s : State) (l : Label) (t : State) : Prop where
  | goesOn (calls : t.calls = s.calls) (state : t.queryState = .error → s.queryState = .error)
  | failed (v : State) (ec : ErrorCode) (fails : FailsWith s v t ec) (code : ErrorOf s ec)
  | succeeded (label : Succeeds s l) (calls : t.calls = s.calls ++ [.success])
      (state : t.queryState = s.queryState)

theorem cancel_ne_pending (w : Wait) : w.cancel ≠ .pending := by
  cases w <;> simp [Wait.cancel]

/-- `u` is `s` as far as completing the request goes, perhaps with a delivered wait taken off or
another one started. -/
structure Resumes (s u : State) : Prop where
  calls : u.calls = s.calls
  state : u.queryState = .error → s.queryState = .error
  read : s.readWait = .pending → u.readWait = .pending
  write : s.writeWait = .pending → u.writeWait = .pending

theorem Resumes.refl (s : State) : Resumes s s := ⟨rfl, id, id, id⟩

namespace Resumes

variable {s u : State} {l : Label}

/-- Neither a call nor another query state. -/
theorem goesOn {t : State} (h : Resumes s u) (hcalls : t.calls = u.calls)
    (hstate : t.queryState = u.queryState) : Outcome s l t :=
  .goesOn (hcalls.trans h.calls) (by rw [hstate]; exact h.state)

/-- `done(ctx, ec)` as a step. -/
theorem failsWith_done (h : Resumes s u) (ec : ErrorCode) :
    FailsWith s (cancel { u with queryState := .error })
      { u.done ec with pc := .idle, starting := false } ec where
  state := rfl
  noRead := cancel_ne_pending u.readWait
  noWrite := cancel_ne_pending u.writeWait
  readCancelled hwait := by simp [cancel, h.read hwait, Wait.cancel]
  writeCancelled hwait := by simp [cancel, h.write hwait, Wait.cancel]
  calls := h.calls
  after := rfl

theorem senderDone (h : Resumes s u) {ec : ErrorCode} (hec : ec.failed = true) :
    Outcome s l (u.done ec).senderReturn := by
  rw [senderReturn_of_error rfl]
  exact .failed _ ec (h.failsWith_done ec) (.inl hec)

theorem receiverDone (h : Resumes s u) (hstart : u.starting = false) {ec : ErrorCode}
    (hec : ErrorOf s ec) : Outcome s l (u.receiverDone ec) := by
  let errorContext :=
    if u.errorContext = "" then "error while get request result" else u.errorContext
  have heq : u.receiverDone ec =
      { done { u with errorContext, pc := .idle } ec with pc := .idle, starting := false } := by
    simp [State.receiverDone, done, invoke, cancel, errorContext, hstart]
  have hdone : Resumes s { u with errorContext, pc := .idle } := ⟨h.calls, h.state, h.read, h.write⟩
  rw [heq]
  exact .failed _ ec (hdone.failsWith_done ec) hec

/-- Starting the receiver completes nothing. -/
theorem senderReturn (h : Resumes s u) : Outcome s l u.senderReturn := by
  refine h.goesOn (senderReturn_calls u) ?_
  unfold State.senderReturn
  split
  · unfold State.receiver
    split
    · rfl
    · rw [if_neg (by simp)]
      split <;> rfl
  · rfl

/-- The receiver fails, goes on, or has nothing to say any more. -/
theorem receiver (h : Resumes s u) (hstart : u.starting = false) (ec : ErrorCode) :
    Outcome s l (u.receiver ec) := by
  unfold State.receiver
  split
  · exact h.goesOn rfl rfl
  · split
    · next hec =>
        refine h.receiverDone hstart (.inl ?_)
        split
        · rfl
        · exact hec
    · split
      · exact h.goesOn rfl rfl
      · exact h.goesOn rfl rfl

/-- So does the sender. -/
theorem sender (h : Resumes s u) (ec : ErrorCode) : Outcome s l (u.sender ec) := by
  unfold State.sender
  split
  · exact h.senderReturn
  · split
    · next hec => exact h.senderDone hec
    · exact h.goesOn rfl rfl

end Resumes

/-- A result is an error or goes to the processor. -/
theorem outcome_handleResult {s : State} {l : Label} {r : PgResult} (hstart : s.starting = false)
    (hr : s.result = some r) : Outcome s l (s.handleResult r) := by
  have hdone (errorContext : String) {ec : ErrorCode} (hec : ErrorOf s ec) :
      Outcome s l (receiverDone { s with errorContext } ec) := by
    have hresumes : Resumes s { s with errorContext } := ⟨rfl, id, id, id⟩
    exact hresumes.receiverDone hstart hec
  unfold handleResult
  split
  · exact .goesOn rfl id
  · exact .goesOn rfl id
  · exact .goesOn rfl id
  · exact hdone _ (.inl (ErrorCode.failed_ofError _))
  · exact hdone _ (.inl (ErrorCode.failed_ofError _))
  · next hfatal => exact hdone _ (.inr ⟨r, hr, hfatal, rfl⟩)
  · exact hdone _ (.inl (ErrorCode.failed_ofError _))

theorem outcome_handleFirst {s : State} {l : Label} (hstart : s.starting = false) :
    Outcome s l s.handleFirst := by
  unfold handleFirst
  split
  · exact .goesOn rfl id
  · next r hresult => exact outcome_handleResult hstart hresult

/-- A first result completes nothing: it is kept for the drain loop or goes to the processor. -/
theorem outcome_afterFirstResult {s : State} (hpc : s.pc = .getResult .first)
    (r : Option PgResult) : Outcome s (.getResult r) (afterFirstResult s r) := by
  cases r with
  | none => exact .succeeded (.inl ⟨hpc, rfl⟩) rfl rfl
  | some r =>
      simp only [afterFirstResult]
      split
      · exact .goesOn rfl id
      · next hstatus =>
          rw [handleResult, not_not.mp hstatus]
          exact .goesOn rfl id

theorem outcome_afterFlush (s : State) (r : QueryState) :
    Outcome s (.flush r) (afterFlush s r) := by
  cases r with
  | error => exact (Resumes.refl s).senderDone (ErrorCode.failed_ofError _)
  | sendInProgress =>
      have h : Resumes s { s with writeWait := .pending, waits := s.waits + 1 } :=
        ⟨rfl, id, id, fun _ => rfl⟩
      exact h.senderReturn
  | sendFinish =>
      have h : Resumes s { s with queryState := .sendFinish } := ⟨rfl, nofun, id, id⟩
      exact h.senderReturn

/-- The processor decides about the success. -/
theorem outcome_afterProcess {s : State} (hpc : s.pc = .process) (hstart : s.starting = false)
    (what : Option String) : Outcome s (.process what) (afterProcess s what) := by
  cases what with
  | none => exact .succeeded (.inr ⟨hpc, rfl⟩) rfl rfl
  | some what =>
      have h : Resumes s { s with errorContext := what } := ⟨rfl, id, id, id⟩
      exact h.receiverDone hstart (.inl (ErrorCode.failed_ofError .badResultProcess))

/-- Every step goes on without calling the handler, or completes the request with an error or a
success. -/
theorem outcome_step {s t : State} {l : Label} (h : Inv s) (hstep : step s l = some t) :
    Outcome s l t := by
  have hrefl := Resumes.refl s
  cases Step.of_step hstep with
  | nonblockingFailed hpc => exact hrefl.senderDone (ErrorCode.failed_ofError _)
  | querySent hpc => exact hrefl.sender _
  | queryFailed hpc => exact hrefl.senderDone (ErrorCode.failed_ofError _)
  | flushed r hpc => exact outcome_afterFlush s r
  | firstFailed hpc =>
      have hr : Receiving s := h.receiving (by rw [hpc]; rfl)
      exact hrefl.receiverDone hr.starting (.inl (ErrorCode.failed_ofError .pgConsumeInputFailed))
  | drainFailed hpc =>
      have hr : Receiving s := h.receiving (by rw [hpc]; rfl)
      exact outcome_handleFirst hr.starting
  | firstResult r hpc => exact outcome_afterFirstResult hpc r
  | drained r hpc =>
      have hr : Receiving s := h.receiving (by rw [hpc]; rfl)
      cases r with
      | none => exact outcome_handleFirst hr.starting
      | some r => exact .goesOn rfl id
  | processed what hpc =>
      have hr : Receiving s := h.receiving (by rw [hpc]; rfl)
      exact outcome_afterProcess hpc hr.starting what
  | readDelivered ec hpc hwait =>
      have hresumes : Resumes s { s with readWait := .none } := ⟨rfl, id, by simp [hwait], id⟩
      exact hresumes.receiver (h.starting_of_idle hpc) ec
  | writeDelivered ec hpc hwait =>
      have hresumes : Resumes s { s with writeWait := .none } := ⟨rfl, id, id, by simp [hwait]⟩
      exact hresumes.sender ec
  | timerDelivered d hpc hd htimer =>
      unfold timerHandler
      split
      · exact .goesOn rfl id
      · exact .goesOn rfl id
  -- the other steps only move on
  | _ => exact .goesOn rfl id

/-! ## Requests that have failed

`done(ctx, ec)` sets the query state, and both operations look at it when they are resumed. From
then on they only go home. -/

/-- Behind an error the sender only goes home. -/
theorem sender_of_error {s : State} (h : s.queryState = .error) (ec : ErrorCode) :
    s.sender ec = { s with pc := .idle, starting := false } := by
  unfold sender
  rw [if_pos (by simp [h]), senderReturn_of_error h]

/-- The request has been completed with an error, and the code is back in the event loop. -/
structure Failed (s : State) : Prop where
  state : s.queryState = .error
  pc : s.pc = .idle
  starting : s.starting = false

/-- What can still happen to the deadline of such a request. -/
inductive DeadlineStep (s t : State) : Prop where
  | none (h : t.deadline = s.deadline)
  | expired (d : Deadline) (hd : s.deadline = some d) (htimer : d.timer = .pending)
      (h : t.deadline = some { d with timer := .queued })
  | delivered (d : Deadline) (hd : s.deadline = some d) (htimer : d.timer = .queued)
      (h : t.deadline = (s.timerHandler d).deadline)

/-- A failed request hears of nothing but completions. -/
theorem Failed.step {s t : State} {l : Label} (h : Failed s) (hstep : step s l = some t) :
    Failed t ∧ t.calls = s.calls ∧ DeadlineStep s t := by
  have hpc' := h.pc
  cases Step.of_step hstep with
  -- nothing runs, so no call of libpq is answered
  | nonblockingSet hpc | nonblockingFailed hpc | querySent hpc | queryFailed hpc | flushed r hpc
  | busy l hpc | notBusy l hpc | consumed l hpc | firstFailed hpc | drainFailed hpc
  | firstResult r hpc | drained r hpc | processed what hpc =>
      rw [hpc] at hpc'
      cases hpc'
  | readReady ec hwait => exact ⟨⟨h.state, h.pc, h.starting⟩, rfl, .none rfl⟩
  | writeReady ec hwait => exact ⟨⟨h.state, h.pc, h.starting⟩, rfl, .none rfl⟩
  | readDelivered ec hpc hwait =>
      rw [receiver_of_error (s := { s with readWait := .none }) h.state]
      exact ⟨⟨h.state, rfl, h.starting⟩, rfl, .none rfl⟩
  | writeDelivered ec hpc hwait =>
      rw [sender_of_error (s := { s with writeWait := .none }) h.state]
      exact ⟨⟨h.state, rfl, rfl⟩, rfl, .none rfl⟩
  | timerExpired d hd htimer =>
      exact ⟨⟨h.state, h.pc, h.starting⟩, rfl, .expired d hd htimer rfl⟩
  | timerDelivered d hpc hd htimer =>
      refine ⟨?_, ?_, .delivered d hd htimer rfl⟩
      · unfold timerHandler
        split
        · exact ⟨h.state, h.pc, h.starting⟩
        · exact ⟨h.state, h.pc, h.starting⟩
      · unfold timerHandler
        split <;> rfl

/-- In a run, a query state of `error` means just that. -/
theorem Inv.failed {s : State} (h : Inv s) (hstate : s.queryState = .error) : Failed s := by
  have hc := h.control
  unfold Control at hc
  cases hpc : s.pc with
  | idle => exact ⟨hstate, hpc, h.starting_of_idle hpc⟩
  | setNonblocking | sendQueryParams =>
      rw [hpc, hstate] at hc
      cases hc.2.1
  | flush =>
      rw [hpc, hstate] at hc
      cases hc.1
  | isBusy l | consumeInput l | getResult l | process =>
      rw [hpc] at hc
      exact absurd hstate hc.state

/-- The labels of the event loop; all others are answers to calls of libpq or of the result
processor. -/
def Label.isEvent : Label → Bool
  | .readReady _ | .writeReady _ | .deliverRead | .deliverWrite | .timerExpired
  | .deliverTimer => true
  | _ => false

/-- What happens to a failed request: the reactor completes its waits, its operations are resumed
and return, and the deadline does its part. -/
theorem Failed.step_eq {s t : State} {l : Label} (h : Failed s)
    (hstep : Request.step s l = some t) :
    l.isEvent = true ∧
      t = { s with readWait := t.readWait, writeWait := t.writeWait, deadline := t.deadline } := by
  have hpc' := h.pc
  have hstart := h.starting
  -- the operations are back in the event loop, and when resumed they see the query state
  cases Step.of_step hstep with
  | nonblockingSet hpc | nonblockingFailed hpc | querySent hpc | queryFailed hpc | flushed r hpc
  | busy l hpc | notBusy l hpc | consumed l hpc | firstFailed hpc | drainFailed hpc
  | firstResult r hpc | drained r hpc | processed what hpc =>
      rw [hpc] at hpc'
      cases hpc'
  | readReady ec hwait => exact ⟨rfl, rfl⟩
  | writeReady ec hwait => exact ⟨rfl, rfl⟩
  | readDelivered ec hpc hwait =>
      rw [receiver_of_error (s := { s with readWait := .none }) h.state]
      simp [Label.isEvent, hpc]
  | writeDelivered ec hpc hwait =>
      rw [sender_of_error (s := { s with writeWait := .none }) h.state]
      simp [Label.isEvent, hpc, hstart]
  | timerExpired d hd htimer => exact ⟨rfl, rfl⟩
  | timerDelivered d hpc hd htimer =>
      refine ⟨rfl, ?_⟩
      unfold timerHandler
      split <;> rfl

/-- A completion that is delivered is only taken off. -/
theorem Failed.deliverRead {s t : State} (h : Failed s)
    (hstep : Request.step s .deliverRead = some t) : t = { s with readWait := .none } := by
  cases Step.of_step hstep with
  | readDelivered ec hpc hwait =>
      rw [receiver_of_error (s := { s with readWait := .none }) h.state]
      simp [hpc]

theorem Failed.deliverWrite {s t : State} (h : Failed s)
    (hstep : Request.step s .deliverWrite = some t) : t = { s with writeWait := .none } := by
  cases Step.of_step hstep with
  | writeDelivered ec hpc hwait =>
      rw [sender_of_error (s := { s with writeWait := .none }) h.state]
      simp [hpc, h.starting]

/-! ## Whole runs -/

/-- Only `done(ctx, ec)` reports an error. -/
def ErrorsFail (s : State) : Prop := ∀ ec ∈ s.calls, ec.failed = true → s.queryState = .error

/-- An error is reported by `done(ctx, ec)` and by nothing else. -/
theorem errorsFail_step {s t : State} {l : Label} (hinv : Inv s) (h : ErrorsFail s)
    (hstep : step s l = some t) : ErrorsFail t := by
  intro ec hmem hec
  cases outcome_step hinv hstep with
  | goesOn calls state =>
      rw [calls] at hmem
      have hfailed := hinv.failed (h ec hmem hec)
      exact (hfailed.step hstep).1.state
  | failed v ec' fails code =>
      rw [fails.after]
      exact fails.state
  | succeeded label calls state =>
      rw [state]
      rw [calls, List.mem_append, List.mem_singleton] at hmem
      rcases hmem with hmem | rfl
      · exact h ec hmem hec
      · simp [ErrorCode.failed, ErrorCode.success] at hec

/-- What the operations can still do in the state `u`, the request having failed in `s`: a
completion delivered to either of them is taken off, and nothing else changes. -/
structure Quiet (s u : State) : Prop where
  state : u.queryState = .error
  calls : u.calls = s.calls
  waits : u.waits = s.waits
  results : u.results = s.results
  events : ∀ l t, step u l = some t → l.isEvent = true
  read : ∀ t, step u .deliverRead = some t → t = { u with readWait := .none }
  write : ∀ t, step u .deliverWrite = some t → t = { u with writeWait := .none }

/-- Any run of a failed request is made of such steps. -/
theorem Failed.quiet {s : State} (h : Failed s) {ls : List Label} {u : State}
    (hrun : run Request.step s ls = some u) : Quiet s u := by
  have hinv : Failed u ∧ u.calls = s.calls ∧ u.waits = s.waits ∧ u.results = s.results := by
    refine run_invariant (I := fun v => Failed v ∧ v.calls = s.calls ∧ v.waits = s.waits ∧
      v.results = s.results) (fun v l w hv hstep => ?_) ⟨h, rfl, rfl, rfl⟩ hrun
    obtain ⟨hfailed, hcalls, hwaits, hresults⟩ := hv
    have heq := (hfailed.step_eq hstep).2
    refine ⟨(hfailed.step hstep).1, ?_, ?_, ?_⟩
    · rw [heq]
      exact hcalls
    · rw [heq]
      exact hwaits
    · rw [heq]
      exact hresults
  obtain ⟨hfailed, hcalls, hwaits, hresults⟩ := hinv
  exact ⟨hfailed.state, hcalls, hwaits, hresults, fun l t hstep => (hfailed.step_eq hstep).1,
    fun t => hfailed.deliverRead, fun t => hfailed.deliverWrite⟩

/-- Errors are reported only by `done(ctx, ec)`, which has cancelled the waits before it calls the
handler, and after it nothing happens any more. -/
theorem failed_requests_are_final (errorContext : String) (timed : Bool) (ls : List Label)
    (s : State) (hrun : run step (init errorContext timed) ls = some s) :
    ((∃ ec ∈ s.calls, ec.failed = true) → s.queryState = .error) ∧
      (∀ l t, step s l = some t → t.queryState = .error →
        s.queryState = .error ∨ ∃ v ec, FailsWith s v t ec) ∧
      (s.queryState = .error → ∀ ls' u, run step s ls' = some u → Quiet s u) := by
  have hinv := inv_run hrun
  refine ⟨?_, ?_, ?_⟩
  · rintro ⟨ec, hmem, hec⟩
    -- the code of an error is in the calls only after `done(ctx, ec)`
    have herrors : Inv s ∧ ErrorsFail s :=
      run_invariant (I := fun s => Inv s ∧ ErrorsFail s)
        (fun _ _ _ h hstep => ⟨h.1.step hstep, errorsFail_step h.1 h.2 hstep⟩)
        ⟨inv_init errorContext timed, nofun⟩ hrun
    exact herrors.2 ec hmem hec
  · intro l t hstep herror
    cases outcome_step hinv hstep with
    | goesOn calls state => exact .inl (state herror)
    | failed v ec fails code => exact .inr ⟨v, ec, fails⟩
    | succeeded label calls state => exact .inl (state ▸ herror)
  · intro hstate ls' u hrun'
    exact (hinv.failed hstate).quiet hrun'

/-- The write side fails while the receiver waits for the first result. -/
def writeFailureRun : List Label :=
  [.setNonblocking true, .sendQueryParams true, .flush .sendInProgress, .isBusy true,
    .writeReady .operationAborted, .deliverWrite]

/-- The receiver's wait has been cancelled, and its delivery changes nothing. -/
theorem final_after_writeFailureRun :
    ∃ s u, run step (init "" false) writeFailureRun = some s ∧ s.calls = [.operationAborted] ∧
      s.readWait = .queued .operationAborted ∧ run step s [.deliverRead] = some u ∧
      Quiet s u := by
  have hrun : run step (init "" false) writeFailureRun = some
      { init "" false with
        queryState := .error, pc := .idle, starting := false, position := some .first,
        readWait := .queued .operationAborted, calls := [.operationAborted], waits := 2 } := by
    decide
  refine ⟨_, _, hrun, rfl, rfl, rfl, ?_⟩
  exact (failed_requests_are_final "" false _ _ hrun).2.2 rfl [.deliverRead] _ rfl

end OzoPg.Request
