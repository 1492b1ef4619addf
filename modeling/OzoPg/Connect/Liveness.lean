import OzoPg.Connect.Calls
import OzoPg.Request.Liveness

/-!
# Connecting comes to an end

The polling loop goes on for as long as `PQconnectPoll` asks it to, so a run can be as long as its
polls allow but no longer, apart from changes of the connection that have nothing to do with it.
And where nothing but such a change can happen the handler has been called, once.

* `spends_step` — what a step uses up;
* `connect_completes` — a run is bounded by its polls and ends with one call.
-/

namespace OzoPg.Connect

open State
open Request (Deadline)

/-! ## What a step uses up

Each step lowers the weight, apart from a poll, which may start another wait. So the number of polls
bounds the number of steps. -/

/-- The stages ahead. -/
def Pc.weight : Pc → Nat
  | .waiting | .finished => 0
  | .requestOidMap => 1
  | .connectPoll => 2
  | .socket _ => 8
  | .connectStart => 9

/-- What the wait and the timer can still set off. -/
def State.outstanding (s : State) : Nat := s.wait.weight + Deadline.weight s.deadline

/-- What can still happen without another poll. -/
def State.weight (s : State) : Nat := s.pc.weight + s.outstanding

def Label.isPoll : Label → Bool
  | .connectPoll _ => true
  | _ => false

def Label.isChange : Label → Bool
  | .change _ => true
  | _ => false

/-- Behind the end of the operation only the wait and the timer are left. -/
theorem weight_finish_le (s : State) (ec : ErrorCode) : (s.finish ec).weight ≤ s.outstanding := by
  have hzero : Pc.weight .finished = 0 := rfl
  unfold finish handler
  cases hd : s.deadline with
  | none =>
      simp only [hd, State.weight, outstanding, hzero]
      omega
  | some d =>
      have hle := d.weight_call_le ec
      simp only
      split <;>
        simp only [State.weight, outstanding, hzero, hd, Deadline.weight] <;>
        omega

/-- Behind the connection there may be the request for the oids. -/
theorem weight_done_le (s : State) (ec : ErrorCode) :
    (s.done ec).weight ≤ s.outstanding + 1 := by
  have hfinish := weight_finish_le s ec
  unfold done
  split
  · omega
  · split
    · omega
    · exact Nat.le_of_eq (Nat.add_comm _ _)

/-- The timer's handler cancels the wait, which can then only be delivered. -/
theorem weight_timerHandler_lt {s : State} {d : Deadline} (hd : s.deadline = some d)
    (htimer : d.timer = .queued) : (s.timerHandler d).weight < s.weight := by
  have hle := s.wait.weight_cancel_le
  have hqueued : Deadline.weight s.deadline = 1 := by
    rw [hd]
    show d.timer.weight = 1
    rw [htimer]
    rfl
  have hran : Deadline.weight (some d.expire) = 0 := by
    show d.expire.timer.weight = 0
    rw [d.timer_expire]
    rfl
  unfold timerHandler
  split
  · rw [State.weight, State.weight, outstanding, outstanding, hqueued, hran]
    show s.pc.weight + (s.wait.cancel.weight + 0) < s.pc.weight + (s.wait.weight + 1)
    omega
  · rw [State.weight, State.weight, outstanding, outstanding, hqueued, hran]
    exact Nat.lt_succ_self _

theorem weight_of_pc {s : State} {pc : Pc} (hpc : s.pc = pc) :
    s.weight = pc.weight + s.outstanding := by
  rw [State.weight, hpc]

/-- A step uses up some of what is left, but for a poll and for a change of the connection. -/
theorem spends_step {names : TypeNames} {s t : State} {l : Label}
    (hstep : step names s l = some t) :
    t.weight + 1 ≤ s.weight + 6 * l.isPoll.toNat + l.isChange.toNat := by
  have hdone (ec : ErrorCode) : (s.done ec).weight + 1 ≤ s.outstanding + 2 :=
    Nat.succ_le_succ (weight_done_le s ec)
  -- a new wait takes the place of the old one
  have hwaits (conn : Connection) :
      State.weight { s with pc := .waiting, wait := .pending, conn } ≤ 7 + s.outstanding := by
    show 0 + (7 + Deadline.weight s.deadline) ≤ 7 + (s.wait.weight + Deadline.weight s.deadline)
    omega
  cases Step.of_step hstep with
  | startFailed handle ec hpc =>
      rw [weight_of_pc hpc]
      exact Nat.le_trans (hdone ec) (by show s.outstanding + 2 ≤ 9 + s.outstanding; omega)
  | started c hpc =>
      rw [weight_of_pc hpc]
      show 8 + s.outstanding + 1 ≤ 9 + s.outstanding
      omega
  | socketFailed c hpc =>
      rw [weight_of_pc hpc]
      exact Nat.le_trans (hdone _) (by show s.outstanding + 2 ≤ 8 + s.outstanding; omega)
  | assigned c hpc =>
      rw [weight_of_pc hpc]
      exact Nat.le_trans (Nat.succ_le_succ (hwaits _))
        (by show 7 + s.outstanding + 1 ≤ 8 + s.outstanding; omega)
  | connected hpc | pollFailed r hpc =>
      rw [weight_of_pc hpc]
      exact Nat.le_trans (hdone _) (by show s.outstanding + 2 ≤ 2 + s.outstanding + 6; omega)
  | polledAgain r hpc =>
      rw [weight_of_pc hpc]
      exact Nat.le_trans (Nat.succ_le_succ (hwaits s.conn))
        (by show 7 + s.outstanding + 1 ≤ 2 + s.outstanding + 6; omega)
  | ready ec hwait =>
      show s.pc.weight + (6 + Deadline.weight s.deadline) + 1 ≤ s.weight
      rw [State.weight, outstanding, hwait]
      show _ ≤ s.pc.weight + (7 + Deadline.weight s.deadline)
      omega
  | waitDelivered ec hpc hwait =>
      have hs : s.weight = 0 + (6 + Deadline.weight s.deadline) := by
        rw [State.weight, outstanding, hpc, hwait]
        rfl
      unfold poll
      split
      · refine Nat.le_trans (Nat.succ_le_succ (weight_done_le _ ec)) ?_
        show 0 + Deadline.weight s.deadline + 1 + 1 ≤ s.weight
        omega
      · show 2 + (0 + Deadline.weight s.deadline) + 1 ≤ s.weight
        omega
  | oidsRequested ec res errorContext hpc =>
      rw [weight_of_pc hpc]
      refine Nat.le_trans (Nat.succ_le_succ (weight_finish_le _ _)) ?_
      show s.outstanding + 1 ≤ 1 + s.outstanding
      omega
  | changed c => exact Nat.le_refl _
  | timerExpired d hd htimer =>
      have hs : s.weight = s.pc.weight + (s.wait.weight + 2) := by
        rw [State.weight, outstanding, hd]
        show s.pc.weight + (s.wait.weight + d.timer.weight) = _
        rw [htimer]
        rfl
      show s.pc.weight + (s.wait.weight + 1) + 1 ≤ s.weight
      omega
  | timerDelivered d hd htimer => exact weight_timerHandler_lt hd htimer

/-! ## What is waited for -/

/-- An operation that waits has a wait. -/
def Waits (s : State) : Prop := s.pc = .waiting → s.wait ≠ .none

theorem Waits.of_ne {s : State} (h : s.pc ≠ .waiting) : Waits s := fun hpc => absurd hpc h

theorem waits_finish (s : State) (ec : ErrorCode) : Waits (s.finish ec) := by
  apply Waits.of_ne
  rw [pc_finish]
  simp

theorem waits_done (s : State) (ec : ErrorCode) : Waits (s.done ec) := by
  unfold done
  split
  · exact waits_finish s ec
  · split
    · exact waits_finish s ec
    · exact .of_ne (by simp)

theorem waits_timerHandler {s : State} (h : Waits s) (d : Deadline) : Waits (s.timerHandler d) := by
  unfold timerHandler
  split
  · intro hpc
    have hwait := h hpc
    simpa [Request.cancel_eq_none_iff] using hwait
  · exact h

/-- A poll that does not end the operation starts a wait. -/
theorem Waits.step {names : TypeNames} {s t : State} {l : Label} (h : Waits s)
    (hstep : step names s l = some t) : Waits t := by
  cases Step.of_step hstep with
  | startFailed | socketFailed | connected | pollFailed => exact waits_done s _
  | started => exact .of_ne (by simp)
  | assigned | polledAgain | ready => exact fun _ => by simp
  | waitDelivered ec =>
      unfold poll
      split
      · exact waits_done _ _
      · exact .of_ne (by simp)
  | oidsRequested => exact waits_finish _ _
  | changed | timerExpired => exact h
  | timerDelivered d => exact waits_timerHandler h d

/-! ## Whole runs -/

/-- What a run has come to. -/
structure Live (ls : List Label) (s : State) : Prop where
  waits : Waits s
  bound : ls.length + s.weight ≤ 11 + 6 * ls.countP Label.isPoll + ls.countP Label.isChange

theorem live_init (keys : List OidKey) (timed : Bool) : Live [] (init keys timed) where
  waits := .of_ne (by simp [init])
  bound := by
    cases timed with
    | false =>
        show 9 ≤ 11
        decide
    | true => exact Nat.le_refl 11

/-- Each step is paid for by what the polls so far have allowed. -/
theorem Live.step {names : TypeNames} {ls : List Label} {s t : State} {l : Label} (h : Live ls s)
    (hstep : step names s l = some t) : Live (ls ++ [l]) t := by
  have hspends := spends_step hstep
  have hbound := h.bound
  refine ⟨h.waits.step hstep, ?_⟩
  simp only [List.length_append, List.length_singleton, List.countP_append, List.countP_singleton]
  cases hpoll : l.isPoll <;> cases hchange : l.isChange <;>
    simp only [hpoll, hchange, Bool.toNat_false, Bool.toNat_true] at hspends ⊢ <;>
    simp <;>
    omega

/-! ## Where nothing can happen -/

/-- No label is enabled, apart from changes of the connection. -/
def Quiescent (names : TypeNames) (s : State) : Prop :=
  ∀ l, l.isChange = false → step names s l = none

namespace Quiescent

variable {names : TypeNames} {s : State}

/-- A quiescent operation has ended: a wait could complete, and every call of libpq could return. -/
theorem pc (h : Quiescent names s) (hwaits : Waits s) : s.pc = .finished := by
  -- at every other position some label is enabled
  cases hpc : s.pc with
  | finished => rfl
  | connectStart =>
      have hnone := h (.connectStart none) rfl
      simp [step, hpc] at hnone
  | socket c =>
      have hnone := h (.socket true) rfl
      simp [step, hpc] at hnone
  | connectPoll =>
      have hnone := h (.connectPoll .ok) rfl
      simp [step, hpc] at hnone
  | requestOidMap =>
      have hnone := h (.oidsRequested .success [] "") rfl
      simp [step, hpc] at hnone
  -- a wait that is out can complete, or be delivered
  | waiting =>
      cases hwait : s.wait with
      | none => exact absurd hwait (hwaits hpc)
      | pending =>
          have hnone := h (.ready .success) rfl
          simp [step, hwait] at hnone
      | queued ec =>
          have hnone := h .deliverWait rfl
          simp [step, hpc, hwait] at hnone

/-- A timer that has not run could still expire. -/
theorem timer (h : Quiescent names s) (hpc : s.pc = .finished) {d : Deadline}
    (hd : s.deadline = some d) : d.timer = .ran := by
  cases htimer : d.timer with
  | ran => rfl
  | pending =>
      have hnone := h .timerExpired rfl
      simp [step, hd, htimer] at hnone
  | queued =>
      have hnone := h .deliverTimer rfl
      simp [step, hpc, hd, htimer] at hnone

end Quiescent

/-- A run is no longer than its polls allow, apart from changes of the connection, and when nothing
else can happen any more the handler has been called, once. -/
theorem connect_completes (names : TypeNames) (keys : List OidKey) (timed : Bool)
    (ls : List Label) (s : State)
    (hrun : Transition.run (step names) (init keys timed) ls = some s) :
    ls.length ≤ 11 + 6 * ls.countP Label.isPoll + ls.countP Label.isChange ∧
      (Quiescent names s → s.delivered.length = 1) := by
  have hlive : Live ls s :=
    Transition.run_history (fun _ _ _ _ h hstep => h.step hstep) (live_init keys timed) hrun
  have hledger := ledger_run hrun
  constructor
  · exact Nat.le_trans (Nat.le_add_right _ _) hlive.bound
  · intro hquiet
    have hpc := hquiet.pc hlive.waits
    cases hd : s.deadline with
    | none => rw [hledger.untimed hd, hpc, Pc.calls]
    | some d =>
        rw [hledger.length_delivered hd, hpc, hquiet.timer hpc hd, Pc.calls, Request.Timer.calls]

/-- A connection that is polled twice, well before its timer. -/
def polledRun : List Label :=
  [.connectStart (some ⟨.ok, .idle⟩), .socket true, .ready .success, .deliverWait,
    .connectPoll .reading, .ready .success, .deliverWait, .connectPoll .ok, .deliverTimer]

/-- Nothing is left then but what the server does to the connection. -/
theorem connect_completes_polledRun :
    ∃ s, Transition.run (step ⟨fun _ => "", fun _ => ""⟩) (init [] true) polledRun = some s ∧
      Quiescent ⟨fun _ => "", fun _ => ""⟩ s ∧ s.delivered.length = 1 := by
  have hrun : Transition.run (step ⟨fun _ => "", fun _ => ""⟩) (init [] true) polledRun =
    some _ := rfl
  have h := connect_completes _ _ _ _ _ hrun
  suffices hquiet : Quiescent ⟨fun _ => "", fun _ => ""⟩ _ from ⟨_, hrun, hquiet, h.2 hquiet⟩
  intro l hl
  cases l with
  | change c => cases hl
  | _ => rfl

end OzoPg.Connect
