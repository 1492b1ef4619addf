import OzoPg.Request.Invariant

/-!
# How often a request completes

The receiver completes a request at most once and the error state keeps the two operations from
completing it after a failure. But a success leaves the query state as it is. When the receiver
has succeeded before the sender has finished, the sender goes on, and a write that fails then
calls the handler again.

* `LateWriteFailure` — such a step.
* `calls_step` — every other step calls the handler only if nothing has called it before.
* `calls_length_le_one_iff` — a request completes at most once exactly when no write fails late.
-/

namespace OzoPg.Request

open State Transition

/-- After the handler has been called, the sender is still at work and its write fails: the wait
ends with an error, or `PQflush` reports one. -/
def LateWriteFailure (s : State) (l : Label) : Prop :=
  s.calls ≠ [] ∧
    ((l = .deliverWrite ∧ s.queryState = .sendInProgress ∧ s.writeWait.failed = true) ∨
      l = .flush .error)

instance (s : State) (l : Label) : Decidable (LateWriteFailure s l) :=
  inferInstanceAs (Decidable (_ ∧ _))

/-! ## Calls of the handler

The first call moves the handler out of the context, but a success does not tell the sender. A write
that fails late calls what is left of it. -/

/-- Starting the receiver does not complete the request. -/
@[simp] theorem senderReturn_calls (s : State) : s.senderReturn.calls = s.calls := by
  unfold senderReturn
  split
  · unfold receiver
    split
    · rfl
    · rw [if_neg (by simp)]
      split <;> rfl
  · rfl

/-- A result is given to the processor or ends the request. -/
theorem handleResult_calls (s : State) (r : PgResult) :
    (s.handleResult r).calls = s.calls ∨ ∃ ec, (s.handleResult r).calls = s.calls ++ [ec] := by
  unfold handleResult
  split
  · exact .inl rfl
  · exact .inl rfl
  · exact .inl rfl
  all_goals exact .inr ⟨_, rfl⟩

theorem handleFirst_calls (s : State) :
    s.handleFirst.calls = s.calls ∨ ∃ ec, s.handleFirst.calls = s.calls ++ [ec] := by
  unfold handleFirst
  split
  · exact .inl rfl
  · exact handleResult_calls s _

/-- The timer calls the handler of the user, not the one in the context. -/
theorem timerHandler_calls (s : State) (d : Deadline) : (s.timerHandler d).calls = s.calls := by
  unfold timerHandler
  split <;> rfl

/-- What one step does to the calls of the handler: nothing, or one call, which is a second one
only for a late write failure. -/
def CallsAtMost (s : State) (late : Prop) (t : State) : Prop :=
  (t.calls = s.calls ∧ ¬ late) ∨ ∃ ec, t.calls = s.calls ++ [ec] ∧ (late ↔ s.calls ≠ [])

/-- A first call is never late. -/
theorem callsAtMost_first {s t : State} {l : Label} (hnil : s.calls = [])
    (h : t.calls = s.calls ∨ ∃ ec, t.calls = s.calls ++ [ec]) :
    CallsAtMost s (LateWriteFailure s l) t := by
  have hnot : ¬ LateWriteFailure s l := fun hlate => hlate.1 hnil
  rcases h with h | ⟨ec, h⟩
  · exact .inl ⟨h, hnot⟩
  · exact .inr ⟨ec, h, iff_of_false hnot (not_not_intro hnil)⟩

/-- Steps of the event loop and of the receiver are no write failures. -/
theorem callsAtMost_same {s t : State} {l : Label} (h : t.calls = s.calls)
    (hl : l ≠ .deliverWrite ∧ l ≠ .flush .error) : CallsAtMost s (LateWriteFailure s l) t := by
  refine .inl ⟨h, ?_⟩
  rintro ⟨-, ⟨hwrite, -⟩ | hflush⟩
  · exact hl.1 hwrite
  · exact hl.2 hflush

/-- The receiver completes the request only if nobody else has. -/
theorem receiver_calls {s : State} (hcalls : s.queryState ≠ .error → s.calls = [])
    (ec : ErrorCode) : (s.receiver ec).calls = s.calls ∨
      (s.calls = [] ∧ ∃ ec', (s.receiver ec).calls = s.calls ++ [ec']) := by
  unfold receiver
  split
  · exact .inl rfl
  · next hstate =>
      split
      · exact .inr ⟨hcalls hstate, _, rfl⟩
      · left
        split <;> rfl

/-- Every step calls the handler at most once, and a second time only by a late write
failure. -/
theorem calls_step {s t : State} {l : Label} (h : Inv s) (hstep : step s l = some t) :
    CallsAtMost s (LateWriteFailure s l) t := by
  cases Step.of_step hstep with
  | nonblockingSet hpc => exact callsAtMost_same rfl (by simp)
  | nonblockingFailed hpc =>
      apply callsAtMost_first (h.calls_of_sending (.inl hpc))
      exact .inr ⟨_, senderReturn_calls _⟩
  | querySent hpc =>
      apply callsAtMost_first (h.calls_of_sending (.inr hpc))
      left
      unfold sender
      split
      · exact senderReturn_calls s
      · rw [if_neg (by simp)]
  | queryFailed hpc =>
      apply callsAtMost_first (h.calls_of_sending (.inr hpc))
      exact .inr ⟨_, senderReturn_calls _⟩
  | flushed r hpc =>
      cases r with
      | error =>
          -- nothing tells the sender that the receiver has succeeded
          refine .inr ⟨_, senderReturn_calls _, ?_⟩
          constructor
          · intro hlate
            exact hlate.1
          · intro hcalls
            exact ⟨hcalls, .inr rfl⟩
      | sendInProgress => exact callsAtMost_same (senderReturn_calls _) (by simp)
      | sendFinish => exact callsAtMost_same (senderReturn_calls _) (by simp)
  | busy l hpc => exact callsAtMost_same rfl (by simp)
  | notBusy l hpc => exact callsAtMost_same rfl (by simp)
  | consumed l hpc => exact callsAtMost_same rfl (by simp)
  | firstFailed hpc =>
      have hr : Receiving s := h.receiving (by rw [hpc]; rfl)
      exact callsAtMost_first hr.calls (.inr ⟨_, rfl⟩)
  | drainFailed hpc =>
      have hr : Receiving s := h.receiving (by rw [hpc]; rfl)
      exact callsAtMost_first hr.calls (handleFirst_calls s)
  | firstResult r hpc =>
      have hr : Receiving s := h.receiving (by rw [hpc]; rfl)
      apply callsAtMost_first hr.calls
      cases r with
      | none => exact .inr ⟨_, rfl⟩
      | some r =>
          simp only [afterFirstResult]
          split
          · exact .inl rfl
          · exact handleResult_calls { s with result := some r, results := s.results ++ [r] } r
  | drained r hpc =>
      have hr : Receiving s := h.receiving (by rw [hpc]; rfl)
      apply callsAtMost_first hr.calls
      cases r with
      | none => exact handleFirst_calls s
      | some r => exact .inl rfl
  | processed what hpc =>
      have hr : Receiving s := h.receiving (by rw [hpc]; rfl)
      apply callsAtMost_first hr.calls
      cases what <;> exact .inr ⟨_, rfl⟩
  | readReady ec hwait => exact callsAtMost_same rfl (by simp)
  | writeReady ec hwait => exact callsAtMost_same rfl (by simp)
  | readDelivered ec hpc hwait =>
      have hread := h.reading (by simp [hwait])
      rcases receiver_calls (s := { s with readWait := .none }) hread ec with
        hcalls | ⟨hnil, hcalls⟩
      · exact callsAtMost_same hcalls (by simp)
      · exact callsAtMost_first hnil (.inr hcalls)
  | writeDelivered ec hpc hwait =>
      have hfailed : s.writeWait.failed = ec.failed := by rw [hwait]; rfl
      unfold sender
      split
      · next hstate =>
          -- the sender has finished, or the request has failed
          refine .inl ⟨senderReturn_calls _, ?_⟩
          rintro ⟨-, ⟨-, hin, -⟩ | hflush⟩
          · exact hstate hin
          · cases hflush
      · next hstate =>
          have hin : s.queryState = .sendInProgress := not_not.mp hstate
          split
          · next hec =>
              refine .inr ⟨ec, senderReturn_calls _, ?_⟩
              constructor
              · intro hlate
                exact hlate.1
              · intro hcalls
                exact ⟨hcalls, .inl ⟨rfl, hin, hfailed.trans hec⟩⟩
          · next hec =>
              refine .inl ⟨rfl, ?_⟩
              rintro ⟨-, ⟨-, -, hfail⟩ | hflush⟩
              · exact hec (hfailed ▸ hfail)
              · cases hflush
  | timerExpired d hd htimer => exact callsAtMost_same rfl (by simp)
  | timerDelivered d hpc hd htimer =>
      refine callsAtMost_same ?_ (by simp)
      unfold timerHandler
      split <;> rfl

/-! ## Whole runs -/

/-- Calls are not taken back. -/
theorem calls_length_mono {s t : State} {l : Label} (h : Inv s) (hstep : step s l = some t) :
    s.calls.length ≤ t.calls.length := by
  rcases calls_step h hstep with ⟨hcalls, -⟩ | ⟨ec, hcalls, -⟩
  · exact Nat.le_of_eq (congrArg List.length hcalls.symm)
  · simp [hcalls]

theorem calls_length_mono_run {s u : State} {ls : List Label} (h : Inv s)
    (hrun : run step s ls = some u) : s.calls.length ≤ u.calls.length := by
  have hinv : Inv u ∧ s.calls.length ≤ u.calls.length := by
    refine run_invariant (I := fun v => Inv v ∧ s.calls.length ≤ v.calls.length)
      (fun v l w hv hstep => ?_) ⟨h, Nat.le_refl _⟩ hrun
    exact ⟨hv.1.step hstep, Nat.le_trans hv.2 (calls_length_mono hv.1 hstep)⟩
  exact hinv.2

/-- Without a late failure the first call is the last. -/
theorem calls_length_step {s t : State} {l : Label} (h : Inv s) (hlate : ¬ LateWriteFailure s l)
    (hstep : step s l = some t) (hlen : s.calls.length ≤ 1) : t.calls.length ≤ 1 := by
  rcases calls_step h hstep with ⟨hcalls, -⟩ | ⟨ec, hcalls, hiff⟩
  · rwa [hcalls]
  · -- a call, and it is the first one
    have hnil : s.calls = [] := not_not.mp fun hne => hlate (hiff.mpr hne)
    simp [hcalls, hnil]

/-- A late write failure is a second call that no later step takes back. -/
theorem meets_of_calls_length_le_one {s u : State} {ls : List Label} (h : Inv s)
    (hrun : run step s ls = some u) (hlen : u.calls.length ≤ 1) :
    Meets step (fun s l => ¬ LateWriteFailure s l) s ls := by
  induction ls generalizing s with
  | nil => trivial
  | cons l ls ih =>
      obtain ⟨t, hstep, hrun'⟩ := run_cons_eq_some.mp hrun
      refine ⟨fun hlate => ?_, fun t' hstep' => ?_⟩
      · have hmono := calls_length_mono_run (h.step hstep) hrun'
        rcases calls_step h hstep with ⟨-, hnot⟩ | ⟨ec, hcalls, hiff⟩
        · exact hnot hlate
        · have hpos := List.length_pos_iff.mpr (hiff.mp hlate)
          rw [hcalls, List.length_append, List.length_singleton] at hmono
          omega
      · rw [hstep] at hstep'
        cases hstep'
        exact ih (h.step hstep) hrun'

/-- The handler of a request is called at most once exactly when no write fails after it has
been called. -/
theorem calls_length_le_one_iff (errorContext : String) (timed : Bool) (ls : List Label)
    (s : State) (hrun : run step (init errorContext timed) ls = some s) :
    s.calls.length ≤ 1 ↔
      Meets step (fun s l => ¬ LateWriteFailure s l) (init errorContext timed) ls := by
  constructor
  · exact meets_of_calls_length_le_one (inv_init errorContext timed) hrun
  · intro hmeets
    have hinv : Inv s ∧ s.calls.length ≤ 1 := by
      refine run_invariant_of_meets (I := fun s => Inv s ∧ s.calls.length ≤ 1)
        (fun v l w hv hlate hstep => ?_) ⟨inv_init errorContext timed, Nat.zero_le 1⟩ hmeets hrun
      exact ⟨hv.1.step hstep, calls_length_step hv.1 hlate hstep hv.2⟩
    exact hinv.2

/-- The query is not sent at once. The read side makes the server see the rest of it, since
`PQconsumeInput` flushes too, and the result arrives. Then the write wait is cancelled. -/
def lateFailureRun : List Label :=
  [.setNonblocking true, .sendQueryParams true, .flush .sendInProgress, .isBusy true,
    .readReady .success, .deliverRead, .consumeInput true, .isBusy false,
    .getResult (some ⟨.commandOk, none⟩), .isBusy false, .getResult none, .process none,
    .writeReady .operationAborted, .deliverWrite]

/-- The handler is called with success and then with an error. -/
theorem calls_lateFailureRun :
    (run step (init "" false) lateFailureRun).map (·.calls)
      = some [.success, .operationAborted] := by
  decide

/-- A request whose query is sent at once and returns nothing. -/
def sentAtOnceRun : List Label :=
  [.setNonblocking true, .sendQueryParams true, .flush .sendFinish, .isBusy false,
    .getResult none]

/-- When the query is sent at once the handler is called once. -/
theorem calls_length_sentAtOnceRun :
    ∃ s, run step (init "" false) sentAtOnceRun = some s ∧ s.calls = [.success] ∧
      s.calls.length ≤ 1 := by
  have hrun : run step (init "" false) sentAtOnceRun = some
      { init "" false with
        queryState := .sendFinish, pc := .idle, starting := false, calls := [.success] } := by
    decide
  exact ⟨_, hrun, rfl, (calls_length_le_one_iff "" false _ _ hrun).mpr (by decide)⟩

end OzoPg.Request
