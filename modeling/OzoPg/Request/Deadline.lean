import OzoPg.Request.Invariant

/-!
# The deadline of a request

When the timer comes first, its handler cancels the waits and stores `timed_out` for the call of
the operation that is still to come. `cancel()` reaches only what is pending: a wait that has
completed and is queued for delivery goes on without an error, and the operation waits again,
now with no timer left.

* `Silent` — no wait is left that can be delivered as a success.
* `Silent.step` — then nothing starts another wait.
* `waits_after_deadline_iff` — the deadline is effective exactly when the timer's handler finds no
  such wait.
-/

namespace OzoPg.Request

open State Transition

/-- The wait has completed without an error and is queued for delivery. -/
def Wait.ready : Wait → Bool
  | .queued ec => !ec.failed
  | _ => false

/-- A wait that is over, or that will be delivered as an error. -/
def Wait.Silent (w : Wait) : Prop := w = .none ∨ w.failed = true

theorem Wait.Silent.cancel {w : Wait} (h : w.Silent) : w.cancel.Silent := by
  cases w with
  | none => exact .inl rfl
  | pending => exact .inr rfl
  | queued ec => exact h

theorem Wait.Silent.ne_pending {w : Wait} (h : w.Silent) : w ≠ .pending := by
  rintro rfl
  rcases h with h | h
  · cases h
  · cases h

/-- What is still delivered to a silent operation is an error. -/
theorem Wait.Silent.failed_of_queued {ec : ErrorCode} (h : (Wait.queued ec).Silent) :
    ec.failed = true := by
  rcases h with h | h
  · cases h
  · exact h

/-- What is left after `cancel()`, unless a success is queued. -/
theorem Wait.silent_cancel {w : Wait} (h : w.ready = false) : w.cancel.Silent := by
  cases w with
  | none => exact .inl rfl
  | pending => exact .inr rfl
  | queued ec =>
      simp only [ready, Bool.not_eq_false'] at h
      exact .inr h

/-! ## Nothing is started any more -/

/-- The operation is in the event loop and hears at most of errors. -/
structure Silent (s : State) : Prop where
  pc : s.pc = .idle
  starting : s.starting = false
  readWait : s.readWait.Silent
  writeWait : s.writeWait.Silent

namespace Silent

variable {s : State}

/-- With an error the receiver goes home without another wait. -/
theorem receiver (h : Silent s) {ec : ErrorCode} (hec : ec.failed = true) :
    Silent (s.receiver ec) ∧ (s.receiver ec).waits = s.waits := by
  unfold State.receiver
  split
  · exact ⟨⟨rfl, h.starting, h.readWait, h.writeWait⟩, rfl⟩
  · exact ⟨⟨rfl, h.starting, h.readWait.cancel, h.writeWait.cancel⟩, rfl⟩

/-- So does the sender. -/
theorem sender (h : Silent s) {ec : ErrorCode} (hec : ec.failed = true) :
    Silent (s.sender ec) ∧ (s.sender ec).waits = s.waits := by
  unfold State.sender
  split
  · unfold senderReturn
    rw [if_neg (by simp [h.starting])]
    exact ⟨⟨rfl, h.starting, h.readWait, h.writeWait⟩, rfl⟩
  · rw [senderReturn_of_error rfl]
    exact ⟨⟨rfl, rfl, h.readWait.cancel, h.writeWait.cancel⟩, rfl⟩

theorem timerHandler (h : Silent s) (d : Deadline) :
    Silent (s.timerHandler d) ∧ (s.timerHandler d).waits = s.waits := by
  unfold State.timerHandler
  split
  · exact ⟨⟨h.pc, h.starting, h.readWait.cancel, h.writeWait.cancel⟩, rfl⟩
  · exact ⟨⟨h.pc, h.starting, h.readWait, h.writeWait⟩, rfl⟩

/-- A silent operation stays silent and starts no wait. -/
theorem step {t : State} {l : Label} (h : Silent s) (hstep : step s l = some t) :
    Silent t ∧ t.waits = s.waits := by
  have hpc' := h.pc
  cases Step.of_step hstep with
  -- nothing runs, so no call of libpq is answered
  | nonblockingSet hpc | nonblockingFailed hpc | querySent hpc | queryFailed hpc | flushed r hpc
  | busy l hpc | notBusy l hpc | consumed l hpc | firstFailed hpc | drainFailed hpc
  | firstResult r hpc | drained r hpc | processed what hpc =>
      rw [hpc] at hpc'
      cases hpc'
  -- nothing is pending
  | readReady ec hwait => exact absurd hwait h.readWait.ne_pending
  | writeReady ec hwait => exact absurd hwait h.writeWait.ne_pending
  -- a completion that is delivered is an error
  | readDelivered ec hpc hwait =>
      have h' : Silent { s with readWait := .none } := { h with readWait := .inl rfl }
      apply h'.receiver
      exact (hwait ▸ h.readWait).failed_of_queued
  | writeDelivered ec hpc hwait =>
      have h' : Silent { s with writeWait := .none } := { h with writeWait := .inl rfl }
      apply h'.sender
      exact (hwait ▸ h.writeWait).failed_of_queued
  | timerExpired d hd htimer => exact ⟨⟨h.pc, h.starting, h.readWait, h.writeWait⟩, rfl⟩
  | timerDelivered d hpc hd htimer => exact h.timerHandler d

/-- A silent operation starts no wait, however long it runs. -/
theorem waits_run {u : State} {ls : List Label} (h : Silent s)
    (hrun : run Request.step s ls = some u) : u.waits = s.waits := by
  have hinv : Silent u ∧ u.waits = s.waits := by
    refine run_invariant (I := fun v => Silent v ∧ v.waits = s.waits)
      (fun v l w hv hstep => ?_) ⟨h, rfl⟩ hrun
    obtain ⟨hw, hwaits⟩ := hv.1.step hstep
    exact ⟨hw, hwaits.trans hv.2⟩
  exact hinv.2

end Silent

/-! ## A queued success starts another wait

The timer cancels the waits that are pending. One that has completed is queued already, and its
handler goes on as if nothing had happened. -/

/-- Some run starts another wait. -/
def StartsWait (s : State) : Prop := ∃ ls u, run step s ls = some u ∧ u.waits = s.waits + 1

theorem StartsWait.of_step {s t : State} {l : Label} (hstep : step s l = some t)
    (hwaits : t.waits = s.waits) (h : StartsWait t) : StartsWait s := by
  obtain ⟨ls, u, hrun, hu⟩ := h
  exact ⟨l :: ls, u, run_cons_eq_some.mpr ⟨t, hstep, hrun⟩, hwaits ▸ hu⟩

/-- If libpq is busy, the receiver waits. -/
theorem startsWait_isBusy {s : State} {l : Loop} (hpc : s.pc = .isBusy l) : StartsWait s :=
  ⟨[.isBusy true],
    { s with readWait := .pending, position := some l, waits := s.waits + 1, pc := .idle },
    by simp [run, step, hpc], rfl⟩

theorem startsWait_consumeInput {s : State} {l : Loop} (hpc : s.pc = .consumeInput l) :
    StartsWait s := by
  refine .of_step (l := .consumeInput true) (t := { s with pc := .isBusy l }) ?_ rfl
    (startsWait_isBusy rfl)
  simp [step, hpc]

/-- If not all is flushed, the sender waits. -/
theorem startsWait_flush {s : State} (hpc : s.pc = .flush) (hstart : s.starting = false) :
    StartsWait s :=
  ⟨[.flush .sendInProgress],
    { s with writeWait := .pending, waits := s.waits + 1, pc := .idle, starting := false },
    by simp [run, step, hpc, afterFlush, senderReturn, hstart], rfl⟩

theorem Wait.exists_of_ready {w : Wait} (h : w.ready = true) :
    ∃ ec, w = .queued ec ∧ ec.failed = false := by
  cases w with
  | none | pending => cases h
  | queued ec => exact ⟨ec, rfl, by simpa [ready] using h⟩

/-- A delivered read-ready lets the receiver wait again. -/
theorem startsWait_of_read_ready {s : State} (hpc : s.pc = .idle)
    (hstate : s.queryState ≠ .error) (hready : s.readWait.ready = true) : StartsWait s := by
  obtain ⟨ec, hwait, hec⟩ := Wait.exists_of_ready hready
  have hstep : step s .deliverRead = some (receiver { s with readWait := .none } ec) := by
    simp [step, hpc, hwait]
  -- the coroutine starts at its first `PQisBusy` or resumes behind the wait
  cases hpos : s.position with
  | none =>
      refine .of_step hstep ?_ (startsWait_isBusy (l := .first) ?_) <;>
        simp [receiver, hstate, hec, hpos]
  | some l =>
      refine .of_step hstep ?_ (startsWait_consumeInput (l := l) ?_) <;>
        simp [receiver, hstate, hec, hpos]

/-- A delivered write-ready lets the sender wait again. -/
theorem startsWait_of_write_ready {s : State} (hpc : s.pc = .idle) (hstart : s.starting = false)
    (hstate : s.queryState = .sendInProgress) (hready : s.writeWait.ready = true) :
    StartsWait s := by
  obtain ⟨ec, hwait, hec⟩ := Wait.exists_of_ready hready
  have hstep : step s .deliverWrite = some { s with writeWait := .none, pc := .flush } := by
    simp [step, hpc, hwait, sender, hstate, hec]
  exact .of_step hstep rfl (startsWait_flush rfl hstart)

/-! ## The deadline -/

/-- The timer's handler is the first of the two calls: it cancels the waits and the rest stays. -/
structure TimedOut (s t : State) : Prop where
  pc : t.pc = .idle
  starting : t.starting = false
  queryState : t.queryState = s.queryState
  readWait : t.readWait = s.readWait.cancel
  writeWait : t.writeWait = s.writeWait.cancel

/-- Before any call of the operation the timer is the first of the two. -/
theorem timedOut_of_calls_nil {s t : State} (h : Inv s) (hcalls : s.calls = [])
    (hstep : step s .deliverTimer = some t) : TimedOut s t := by
  cases Step.of_step hstep with
  | timerDelivered d hpc hd htimer =>
      have hfirst := h.deadline d hd hcalls (by simp [htimer])
      unfold timerHandler
      rw [if_pos (by simp [hfirst])]
      exact ⟨hpc, h.starting_of_idle hpc, rfl, rfl, rfl⟩

theorem Wait.ready_cancel (w : Wait) : w.cancel.ready = w.ready := by
  cases w <;> rfl

/-- After the timer's handler has run before the request completed, no wait is ever started
again, exactly when the handler finds no wait that has completed and is queued for delivery
without an error. -/
theorem waits_after_deadline_iff (errorContext : String) (ls : List Label) (s t : State)
    (hrun : run step (init errorContext true) ls = some s) (hcalls : s.calls = [])
    (hstep : step s .deliverTimer = some t) :
    (∀ ls' u, run step t ls' = some u → u.waits = t.waits) ↔
      s.readWait.ready = false ∧ s.writeWait.ready = false := by
  have h := inv_run hrun
  have hstate : s.queryState ≠ .error := fun herror => h.errored herror hcalls
  have hout := timedOut_of_calls_nil h hcalls hstep
  constructor
  · intro hquiet
    have hnot : ¬ StartsWait t := by
      rintro ⟨ls', u, hrun', hu⟩
      have := hquiet ls' u hrun'
      omega
    constructor
    · rw [Bool.eq_false_iff]
      intro hready
      apply hnot
      apply startsWait_of_read_ready hout.pc (hout.queryState ▸ hstate)
      rw [hout.readWait, Wait.ready_cancel, hready]
    · rw [Bool.eq_false_iff]
      intro hready
      apply hnot
      -- the sender stops waiting when everything is sent, so the query is still being sent
      have hfinish : s.queryState ≠ .sendFinish := by
        apply h.writing
        intro hnone
        simp [hnone, Wait.ready] at hready
      have hsending : s.queryState = .sendInProgress := by
        cases hs : s.queryState with
        | error => exact absurd hs hstate
        | sendFinish => exact absurd hs hfinish
        | sendInProgress => rfl
      apply startsWait_of_write_ready hout.pc hout.starting (hout.queryState.trans hsending)
      rw [hout.writeWait, Wait.ready_cancel, hready]
  · rintro ⟨hread, hwrite⟩ ls' u hrun'
    have hsilent : Silent t :=
      ⟨hout.pc, hout.starting, hout.readWait ▸ Wait.silent_cancel hread,
        hout.writeWait ▸ Wait.silent_cancel hwrite⟩
    exact hsilent.waits_run hrun'

/-- The socket becomes readable and the timer expires before either is delivered; the timer's
handler runs first. -/
def overtakenRun : List Label :=
  [.setNonblocking true, .sendQueryParams true, .flush .sendFinish, .isBusy true,
    .readReady .success, .timerExpired, .deliverTimer]

/-- The request waits again after its deadline, and nothing has called the handler. -/
theorem waits_overtakenRun :
    (run step (init "" true) overtakenRun).map (fun s => (s.waits, s.calls)) = some (1, []) ∧
      (run step (init "" true)
        (overtakenRun ++ [.deliverRead, .consumeInput true, .isBusy true])).map
        (fun s => (s.waits, s.calls)) = some (2, []) := by
  decide

/-- A request that waits for its result when the timer expires. -/
def expiredRun : List Label :=
  [.setNonblocking true, .sendQueryParams true, .flush .sendFinish, .isBusy true, .timerExpired]

/-- The wait is cancelled and no other one is started. -/
theorem waits_expiredRun :
    ∃ s t, run step (init "" true) expiredRun = some s ∧ step s .deliverTimer = some t ∧
      ∀ ls' u, run step t ls' = some u → u.waits = t.waits := by
  have hrun : run step (init "" true) expiredRun = some
      { init "" true with
        queryState := .sendFinish, pc := .idle, starting := false, position := some .first
        readWait := .pending, waits := 1
        deadline := some { Deadline.start with timer := .queued } } := by
    decide
  exact ⟨_, _, hrun, rfl, (waits_after_deadline_iff "" _ _ _ hrun rfl rfl).mpr ⟨rfl, rfl⟩⟩

end OzoPg.Request
