import OzoPg.Request.Deadline
import OzoPg.Request.Liveness

/-!
# The end of a request whose time is up

When the timer's handler comes first and finds no completed wait queued as a success, all that is
left are the waits it has cancelled. Each of them is delivered once, as an error, and the first
delivery that the request hears of makes the second call of the deadline.

* `Expired.step` — only such deliveries are left;
* `timed_out_promptly` — after at most two of them the caller has been told `timed_out`.
-/

namespace OzoPg.Request

open State Transition

/-- How many waits are still to be delivered. -/
def State.undelivered (s : State) : Nat :=
  (if s.readWait = .none then 0 else 1) + (if s.writeWait = .none then 0 else 1)

theorem State.undelivered_le_two (s : State) : s.undelivered ≤ 2 := by
  unfold State.undelivered
  split <;> split <;> decide

/-- The timer came first and the operation hears at most of errors. -/
structure Expired (s : State) : Prop where
  silent : Silent s
  timer : ∃ d, s.deadline = some d ∧ d.TimedOut

/-- A deadline whose timer came first stays so. -/
theorem Advance.timedOut {s t : State} (h : Advance s t) (hledger : Ledger s)
    (htimer : ∃ d, s.deadline = some d ∧ d.TimedOut) : ∃ d, t.deadline = some d ∧ d.TimedOut := by
  obtain ⟨d, hd, htimed⟩ := htimer
  cases h with
  | runs u n run calls deadline spent =>
      rcases run.turn with ⟨-, hsame, -⟩ | ⟨ec, -, hcall⟩
      · exact ⟨d, by rw [hsame, deadline, hd], htimed⟩
      · rw [calls, deadline, hd] at hcall
        split at hcall
        · next hnil =>
            have haccounts := hledger d hd
            rw [if_pos hnil] at haccounts
            exact ⟨d.call ec, hcall, haccounts.timedOut_call htimed ec⟩
        · exact ⟨d, hcall, htimed⟩
  | expired d' hd' hpending | timer d' hd' hpending =>
      obtain rfl := Option.some.inj (hd.symm.trans hd')
      rw [htimed.ran] at hpending
      cases hpending

/-- A delivery with an error takes its wait off and starts none. -/
theorem undelivered_receiver (s : State) {ec : ErrorCode} (hec : ec.failed = true) :
    (s.receiver ec).undelivered = s.undelivered := by
  unfold State.receiver
  split
  · rfl
  · simp [State.undelivered, State.receiverDone, done, invoke, cancel, cancel_eq_none_iff]

/-- With an error the sender starts no wait. -/
theorem undelivered_sender {s : State} (hstart : s.starting = false) {ec : ErrorCode}
    (hec : ec.failed = true) : (s.sender ec).undelivered = s.undelivered := by
  unfold State.sender
  split
  · simp [State.senderReturn, hstart, State.undelivered]
  · rw [senderReturn_of_error rfl]
    simp [State.undelivered, done, invoke, cancel, cancel_eq_none_iff]

/-- Each step delivers one of what is left. -/
theorem Expired.step {ls : List Label} {s t : State} {l : Label} (h : Expired s)
    (hlive : Live ls s) (hstep : step s l = some t) :
    Expired t ∧ t.undelivered < s.undelivered := by
  obtain ⟨d, hd, htimed⟩ := h.timer
  have hpc' := h.silent.pc
  refine ⟨⟨(h.silent.step hstep).1, (hlive.advance hstep).timedOut hlive.ledger h.timer⟩, ?_⟩
  -- no code runs and no wait is pending, so only deliveries are left
  cases Step.of_step hstep with
  | nonblockingSet hpc | nonblockingFailed hpc | querySent hpc | queryFailed hpc | flushed r hpc
  | busy l hpc | notBusy l hpc | consumed l hpc | firstFailed hpc | drainFailed hpc
  | firstResult r hpc | drained r hpc | processed what hpc =>
      rw [hpc] at hpc'
      cases hpc'
  | readReady ec hwait => exact absurd hwait h.silent.readWait.ne_pending
  | writeReady ec hwait => exact absurd hwait h.silent.writeWait.ne_pending
  | readDelivered ec hpc hwait =>
      have hec : ec.failed = true := (hwait ▸ h.silent.readWait).failed_of_queued
      rw [undelivered_receiver { s with readWait := .none } hec]
      simp [State.undelivered, hwait]
  | writeDelivered ec hpc hwait =>
      have hec : ec.failed = true := (hwait ▸ h.silent.writeWait).failed_of_queued
      rw [undelivered_sender (s := { s with writeWait := .none }) h.silent.starting hec]
      simp [State.undelivered, hwait]
  -- the timer has run already
  | timerExpired d' hd' hpending | timerDelivered d' _ hd' hpending =>
      obtain rfl := Option.some.inj (hd.symm.trans hd')
      rw [htimed.ran] at hpending
      cases hpending

/-- What is left after the timer's handler, and that it shrinks. -/
structure Winds (ls₀ ls : List Label) (s : State) : Prop where
  live : Live (ls₀ ++ ls) s
  expired : Expired s
  bound : ls.length + s.undelivered ≤ 2

/-- The bound goes down with every step. -/
theorem Winds.step {ls₀ ls : List Label} {s t : State} {l : Label} (h : Winds ls₀ ls s)
    (hstep : step s l = some t) : Winds ls₀ (ls ++ [l]) t := by
  obtain ⟨hexpired, hlt⟩ := h.expired.step h.live hstep
  have hbound := h.bound
  refine ⟨?_, hexpired, ?_⟩
  · rw [← List.append_assoc]
    exact h.live.step hstep
  · rw [List.length_append, List.length_singleton]
    omega

/-- A timer's handler that comes first and finds no success queued leaves at most two deliveries,
and behind them the caller has been told `timed_out`. -/
theorem timed_out_promptly (errorContext : String) (ls ls' : List Label) (s t u : State)
    (hrun : run step (init errorContext true) ls = some s) (hcalls : s.calls = [])
    (hread : s.readWait.ready = false) (hwrite : s.writeWait.ready = false)
    (hstep : step s .deliverTimer = some t) (hrun' : run step t ls' = some u) :
    ls'.length ≤ 2 ∧
      (Quiescent u → ∃ d, u.deadline = some d ∧ d.delivered = [.timedOut]) := by
  have hlive := live_run hrun
  have hout := timedOut_of_calls_nil hlive.inv hcalls hstep
  -- what was pending is cancelled, and nothing was queued as a success
  have hsilent : Silent t :=
    ⟨hout.pc, hout.starting, hout.readWait ▸ Wait.silent_cancel hread,
      hout.writeWait ▸ Wait.silent_cancel hwrite⟩
  -- nobody had called before the timer
  have hexpired : ∃ d, t.deadline = some d ∧ d.TimedOut := by
    cases Step.of_step hstep with
    | timerDelivered d hpc hd htimer =>
        have haccounts := hlive.ledger d hd
        rw [if_pos hcalls] at haccounts
        refine ⟨d.expire, timerHandler_deadline s d, ?_⟩
        apply (haccounts.expire (Nat.zero_le 1) htimer).timedOut
        unfold Deadline.expire
        split <;> rfl
  -- at most two waits are left to be delivered
  have hwinds : Winds (ls ++ [.deliverTimer]) [] t := by
    refine ⟨?_, ⟨hsilent, hexpired⟩, ?_⟩
    · rw [List.append_nil]
      exact hlive.step hstep
    · rw [List.length_nil, Nat.zero_add]
      exact t.undelivered_le_two
  have hend : Winds (ls ++ [.deliverTimer]) ls' u :=
    run_history (fun _ _ _ _ h hstep => h.step hstep) hwinds hrun'
  constructor
  · have hbound := hend.bound
    omega
  · intro hquiet
    obtain ⟨d, hd, htimed⟩ := hend.expired.timer
    obtain ⟨ec, hec⟩ := List.length_eq_one_iff.mp (hquiet.delivered hend.live hd)
    refine ⟨d, hd, ?_⟩
    have htimedOut : ec = .timedOut := htimed.delivered ec (by simp [hec])
    rw [hec, htimedOut]

/-- The cancelled read is all there is to deliver. -/
theorem timed_out_promptly_expiredRun :
    ∃ s t u d, run step (init "" true) expiredRun = some s ∧ step s .deliverTimer = some t ∧
      run step t [.deliverRead] = some u ∧ Quiescent u ∧ u.deadline = some d ∧
      d.delivered = [.timedOut] := by
  have hrun : run step (init "" true) expiredRun = some
      { init "" true with
        queryState := .sendFinish, pc := .idle, starting := false, position := some .first
        readWait := .pending, waits := 1
        deadline := some { Deadline.start with timer := .queued } } := by
    decide
  have h := timed_out_promptly "" expiredRun [.deliverRead] _ _ _ hrun rfl rfl rfl rfl rfl
  suffices hquiet : Quiescent _ by
    obtain ⟨d, hd, hdelivered⟩ := h.2 hquiet
    exact ⟨_, _, _, d, hrun, rfl, rfl, hquiet, hd, hdelivered⟩
  intro l
  cases l <;> rfl

end OzoPg.Request
