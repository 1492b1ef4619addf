import OzoPg.Request.Draining
import OzoPg.Request.Ledger

/-!
# Requests come to an end

Nothing forces libpq to answer, the socket to become ready or the timer to expire. What the
operations owe their caller is that they never wait for nothing and never run in circles: as long
as the handler has not been called something is outstanding, and each step uses up some of what
the waits and the results have set off.

* `weight` — what can still happen without another wait or another result;
* `Runs` — what the code does before it stops at its next call or in the event loop, `Advance` —
  what a step does;
* `request_completes` — a run is no longer than its waits and results allow, and where nothing can
  happen any more the handler has been called.
-/

namespace OzoPg.Request

open State Transition

/-! ## Weights

A measure of what can still happen. The calls ahead count one each, and a wait counts for what it
may set off. -/

/-- A wait sets off its completion, its delivery and what the operation does then. -/
def Wait.weight : Wait → Nat
  | .none => 0
  | .queued _ => 6
  | .pending => 7

def Timer.weight : Timer → Nat
  | .pending => 2
  | .queued => 1
  | .ran => 0

/-- The calls ahead. -/
def Pc.weight : Pc → Nat
  | .idle => 0
  | .process => 1
  | .getResult _ => 2
  | .isBusy _ => 3
  | .consumeInput _ => 4
  | .flush => 5
  | .sendQueryParams => 6
  | .setNonblocking => 7

def Deadline.weight : Option Deadline → Nat
  | none => 0
  | some d => d.timer.weight

namespace State

/-- What is outstanding while the code runs. -/
def outstanding (s : State) : Nat :=
  s.readWait.weight + s.writeWait.weight + Deadline.weight s.deadline

/-- What can still happen without another wait or another result. -/
def weight (s : State) : Nat := s.pc.weight + s.outstanding

/-- What the waits and the results have allowed so far. -/
def allowed (s : State) : Nat := 7 * s.waits + 2 * s.results.length

end State

/-- Cancelling adds nothing to what can still happen. -/
theorem Wait.weight_cancel_le (w : Wait) : w.cancel.weight ≤ w.weight := by
  cases w <;> simp [Wait.cancel, Wait.weight]

theorem Timer.weight_cancel_le (t : Timer) : t.cancel.weight ≤ t.weight := by
  cases t <;> decide

/-- A call of the handler cancels the timer. -/
theorem Deadline.weight_call_le (d : Deadline) (ec : ErrorCode) :
    (d.call ec).timer.weight ≤ d.timer.weight := by
  unfold Deadline.call
  split
  · exact d.timer.weight_cancel_le
  · exact Nat.le_refl _

/-! ## The code -/

/-- The code has run from `s` to `t` without starting a wait: it has at most `n` before it and has
either called the handler or left it to somebody. -/
structure Runs (n : Nat) (s t : State) : Prop where
  pc : t.pc.weight ≤ n
  readWait : t.readWait.weight ≤ s.readWait.weight
  writeWait : t.writeWait.weight ≤ s.writeWait.weight
  allowed : t.allowed = s.allowed
  turn : (t.calls = s.calls ∧ t.deadline = s.deadline ∧ (s.calls = [] → t.phase ≠ .ended)) ∨
    ∃ ec, t.calls = s.calls ++ [ec] ∧
      t.deadline = if s.calls = [] then s.deadline.map (·.call ec) else s.deadline

namespace Runs

variable {s t : State} {n : Nat}

theorem mono {m : Nat} (h : Runs n s t) (hnm : n ≤ m) : Runs m s t :=
  { h with pc := Nat.le_trans h.pc hnm }

/-- Nothing has happened but a move to the next call. -/
theorem move (pc : Pc) (hphase : s.calls = [] → phase { s with pc } ≠ .ended) :
    Runs pc.weight s { s with pc } :=
  ⟨Nat.le_refl _, Nat.le_refl _, Nat.le_refl _, rfl, .inl ⟨rfl, rfl, hphase⟩⟩

/-- The sender's error completes the request. -/
theorem senderDone (s : State) (ec : ErrorCode) : Runs 0 s (s.done ec).senderReturn := by
  rw [senderReturn_of_error rfl]
  exact ⟨Nat.le_refl _, s.readWait.weight_cancel_le, s.writeWait.weight_cancel_le, rfl,
    .inr ⟨ec, rfl, rfl⟩⟩

/-- So does the receiver's. -/
theorem receiverDone (s : State) (errorContext : String) (ec : ErrorCode) :
    Runs 0 s (State.receiverDone { s with errorContext } ec) :=
  ⟨Nat.le_refl _, s.readWait.weight_cancel_le, s.writeWait.weight_cancel_le, rfl,
    .inr ⟨ec, rfl, rfl⟩⟩

theorem receiverDoneOk (s : State) : Runs 0 s s.receiverDoneOk :=
  ⟨Nat.le_refl _, Nat.le_refl _, Nat.le_refl _, rfl, .inr ⟨.success, rfl, rfl⟩⟩

theorem handleResult (s : State) (r : PgResult) : Runs 1 s (s.handleResult r) := by
  have hdone (errorContext : String) (ec : ErrorCode) :
      Runs 1 s (State.receiverDone { s with errorContext } ec) :=
    (Runs.receiverDone s errorContext ec).mono (Nat.zero_le 1)
  unfold State.handleResult
  split
  · exact .move .process fun _ => by simp [phase]
  · exact .move .process fun _ => by simp [phase]
  · exact .move .process fun _ => by simp [phase]
  all_goals exact hdone _ _

theorem handleFirst (hresult : s.result ≠ none) : Runs 1 s s.handleFirst := by
  unfold State.handleFirst
  split
  · next hnone => exact absurd hnone hresult
  · exact .handleResult s _

/-- From its entry the receiver has at most four calls before it. -/
theorem receiver (herror : s.queryState = .error → s.calls ≠ []) (ec : ErrorCode) :
    Runs 4 s (s.receiver ec) := by
  unfold State.receiver
  split
  · next hstate =>
      refine (Runs.move .idle ?_).mono (Nat.zero_le 4)
      exact fun hcalls => absurd hcalls (herror hstate)
  · split
    · exact (Runs.receiverDone s s.errorContext _).mono (Nat.zero_le 4)
    · split
      · exact (Runs.move (.isBusy .first) fun _ => by simp [phase]).mono (by decide)
      · exact .move (.consumeInput _) fun _ => by simp [phase]

/-- The first time the sender returns into the receiver. -/
theorem senderReturn (herror : s.queryState = .error → s.calls ≠ [])
    (hphase : s.calls = [] → s.suspended ≠ .ended) : Runs 4 s s.senderReturn := by
  unfold State.senderReturn
  split
  · have h := Runs.receiver (s := { s with starting := false }) herror .success
    exact ⟨h.pc, h.readWait, h.writeWait, h.allowed, h.turn⟩
  · exact (Runs.move .idle hphase).mono (Nat.zero_le 4)

/-- One call more than what comes after it. -/
theorem sender (herror : s.queryState = .error → s.calls ≠ [])
    (hphase : s.calls = [] → s.suspended ≠ .ended) (ec : ErrorCode) : Runs 5 s (s.sender ec) := by
  unfold State.sender
  split
  · exact (Runs.senderReturn herror hphase).mono (by decide)
  · split
    · exact (Runs.senderDone s ec).mono (Nat.zero_le 5)
    · exact .move .flush hphase

/-- A call of the handler leaves no more of the timer. -/
theorem weight_le (h : Runs n s t) : t.weight ≤ n + s.outstanding := by
  have hdeadline : Deadline.weight t.deadline ≤ Deadline.weight s.deadline := by
    rcases h.turn with ⟨-, hsame, -⟩ | ⟨ec, -, hcall⟩
    · rw [hsame]
    · rw [hcall]
      split
      · cases s.deadline with
        | none => exact Nat.le_refl _
        | some d => exact d.weight_call_le ec
      · exact Nat.le_refl _
  have hpc := h.pc
  have hread := h.readWait
  have hwrite := h.writeWait
  unfold State.weight outstanding
  omega

end Runs

/-! ## Steps -/

/-- Until the handler has been called, somebody is left to call it. -/
def Owed (s : State) : Prop := s.calls = [] → s.phase ≠ .ended

/-- What a step does: code runs, perhaps behind a wait or a result, or the timer goes on. -/
inductive Advance (s t : State) : Prop where
  | runs (u : State) (n : Nat) (run : Runs n u t) (calls : u.calls = s.calls)
      (deadline : u.deadline = s.deadline)
      (spent : n + u.outstanding + s.allowed < s.weight + u.allowed)
  | expired (d : Deadline) (hd : s.deadline = some d) (htimer : d.timer = .pending)
      (ht : t = { s with deadline := some { d with timer := .queued } })
  | timer (d : Deadline) (hd : s.deadline = some d) (htimer : d.timer = .queued)
      (hpc : s.pc = .idle) (ht : t = s.timerHandler d)

theorem Advance.here {s t : State} {n : Nat} (h : Runs n s t) (hlt : n < s.pc.weight) :
    Advance s t := by
  apply Advance.runs s n h rfl rfl
  unfold State.weight
  omega

/-- Outside of the receiver the coroutine stands where it is resumed. -/
theorem Owed.suspended {s : State} (h : Owed s) (hpc : s.pc.inReceiver = false)
    (hcalls : s.calls = []) : s.suspended ≠ .ended := by
  have hphase := h hcalls
  unfold phase at hphase
  cases hs : s.pc with
  | isBusy | consumeInput | getResult | process =>
      rw [hs] at hpc
      cases hpc
  | idle | flush | setNonblocking | sendQueryParams =>
      rw [hs] at hphase
      exact hphase

/-- The sender waits, or goes home. -/
theorem advance_flush {s : State} (hinv : Inv s) (howed : Owed s) (hpc : s.pc = .flush)
    (r : QueryState) : Advance s (afterFlush s r) := by
  have hweight : s.pc.weight = 5 := by rw [hpc]; rfl
  have hphase := howed.suspended (by rw [hpc]; rfl)
  cases r with
  | error =>
      apply Advance.here (.senderDone s _)
      omega
  | sendFinish =>
      refine .runs { s with queryState := .sendFinish } 4 ?_ rfl rfl ?_
      · exact .senderReturn (fun herror => by cases herror) hphase
      · simp only [State.weight, State.outstanding, State.allowed, hweight]
        omega
  | sendInProgress =>
      refine .runs { s with writeWait := .pending, waits := s.waits + 1 } 4 ?_ rfl rfl ?_
      · exact .senderReturn hinv.errored hphase
      · simp only [State.weight, State.outstanding, State.allowed, Wait.weight, hweight]
        omega

/-- A result pays for the calls of the second loop. -/
theorem advance_firstResult {s : State} (hpc : s.pc = .getResult .first) (r : Option PgResult) :
    Advance s (afterFirstResult s r) := by
  have hweight : s.pc.weight = 2 := by rw [hpc]; rfl
  cases r with
  | none =>
      apply Advance.here (.receiverDoneOk s)
      omega
  | some r =>
      refine .runs { s with result := some r, results := s.results ++ [r] } 3 ?_ rfl rfl ?_
      · simp only [afterFirstResult]
        split
        · apply Runs.move (.isBusy .drain)
          simp [phase]
        · exact (Runs.handleResult _ r).mono (by decide)
      · simp only [State.weight, State.outstanding, State.allowed, hweight, List.length_append,
          List.length_singleton]
        omega

/-- A result of the second loop pays for another round. -/
theorem advance_drained {s : State} (hresult : s.result ≠ none)
    (hpc : s.pc = .getResult .drain) (r : Option PgResult) : Advance s (afterDrained s r) := by
  have hweight : s.pc.weight = 2 := by rw [hpc]; rfl
  cases r with
  | none =>
      apply Advance.here (.handleFirst hresult)
      omega
  | some r =>
      refine .runs { s with results := s.results ++ [r] } 3
        (.move (.isBusy .drain) fun _ => ?_) rfl rfl ?_
      · simp [phase]
      · simp only [State.weight, State.outstanding, State.allowed, hweight, List.length_append,
          List.length_singleton]
        omega

/-- Each step spends from what is allowed. -/
theorem advance_step {s t : State} {l : Label} (hinv : Inv s) (howed : Owed s)
    (hresult : s.phase = .loop .drain → s.result ≠ none) (hstep : step s l = some t) :
    Advance s t := by
  cases Step.of_step hstep with
  | nonblockingSet hpc =>
      refine .here (.move .sendQueryParams (howed.suspended (by rw [hpc]; rfl))) ?_
      rw [hpc]
      decide
  | nonblockingFailed hpc | queryFailed hpc =>
      refine .here (.senderDone s _) ?_
      rw [hpc]
      decide
  | querySent hpc =>
      refine .here (.sender hinv.errored (howed.suspended (by rw [hpc]; rfl)) _) ?_
      rw [hpc]
      decide
  | flushed r hpc => exact advance_flush hinv howed hpc r
  -- a new wait: it is allowed for by the count of waits
  | busy l hpc =>
      have hweight : s.pc.weight = 3 := by rw [hpc]; rfl
      refine .runs { s with readWait := .pending, position := some l, waits := s.waits + 1 } 0
        (.move .idle fun _ => ?_) rfl rfl ?_
      · simp [phase, State.suspended]
      · simp only [State.weight, State.outstanding, State.allowed, Wait.weight, hweight]
        omega
  -- between two calls of the receiver the weight goes down by one
  | notBusy l hpc =>
      refine .here (.move (.getResult l) fun _ => by simp [phase]) ?_
      rw [hpc]
      show 2 < 3
      decide
  | consumed l hpc =>
      refine .here (.move (.isBusy l) fun _ => by simp [phase]) ?_
      rw [hpc]
      show 3 < 4
      decide
  | firstFailed hpc =>
      refine .here (.receiverDone s s.errorContext _) ?_
      rw [hpc]
      decide
  | drainFailed hpc =>
      refine .here (.handleFirst (hresult (by simp [phase, hpc]))) ?_
      rw [hpc]
      decide
  | firstResult r hpc => exact advance_firstResult hpc r
  | drained r hpc => exact advance_drained (hresult (by simp [phase, hpc])) hpc r
  | processed what hpc =>
      cases what with
      | none =>
          refine .here (.receiverDoneOk s) ?_
          rw [hpc]
          decide
      | some what =>
          refine .here (.receiverDone s what _) ?_
          rw [hpc]
          decide
  -- the position stays, so the receiver is resumed where it was
  | readReady ec hwait =>
      refine .runs { s with readWait := .queued ec } s.pc.weight (.move s.pc fun hcalls => ?_)
        rfl rfl ?_
      · have hphase := howed hcalls
        simpa [phase, State.suspended, hwait] using hphase
      · simp only [State.weight, State.outstanding, State.allowed, Wait.weight, hwait]
        omega
  | writeReady ec hwait =>
      refine .runs { s with writeWait := .queued ec } s.pc.weight (.move s.pc howed) rfl rfl ?_
      simp only [State.weight, State.outstanding, State.allowed, Wait.weight, hwait]
      omega
  -- a delivered wait pays for the whole run of the operation it resumes
  | readDelivered ec hpc hwait =>
      refine .runs { s with readWait := .none } 4 ?_ rfl rfl ?_
      · apply Runs.receiver
        exact hinv.errored
      · simp only [State.weight, State.outstanding, State.allowed, Wait.weight, hwait]
        omega
  | writeDelivered ec hpc hwait =>
      refine .runs { s with writeWait := .none } 5 ?_ rfl rfl ?_
      · apply Runs.sender
        · exact hinv.errored
        · exact howed.suspended (by rw [hpc]; rfl)
      · simp only [State.weight, State.outstanding, State.allowed, Wait.weight, hwait]
        omega
  | timerExpired d hd htimer => exact .expired d hd htimer rfl
  | timerDelivered d hpc hd htimer => exact .timer d hd htimer hpc rfl

/-- The context of the deadline, if there is one. -/
def Ledger (s : State) : Prop :=
  ∀ d, s.deadline = some d → d.Accounts (if s.calls = [] then 0 else 1)

namespace Advance

variable {s t : State}

/-- A step uses up some of what is left, or is one that a wait or a result allows. -/
theorem spends (h : Advance s t) : t.weight + s.allowed < s.weight + t.allowed := by
  cases h with
  | runs u n run calls deadline spent =>
      have hweight := run.weight_le
      have hallowed := run.allowed
      omega
  | expired d hd htimer ht =>
      subst ht
      simp only [State.weight, outstanding, State.allowed, hd, Deadline.weight, htimer,
        Timer.weight]
      omega
  | timer d hd htimer hpc ht =>
      subst ht
      -- the timer's handler cancels, which adds no weight, and its own weight is gone
      have hread := s.readWait.weight_cancel_le
      have hwrite := s.writeWait.weight_cancel_le
      unfold timerHandler
      split <;>
        simp only [State.weight, outstanding, State.allowed, cancel, hd, Deadline.weight, htimer,
          Deadline.timer_expire, Timer.weight] <;>
        omega

/-- The receiver does not end before the handler has been called. -/
theorem owed (h : Advance s t) (howed : Owed s) : Owed t := by
  cases h with
  | runs u n run calls deadline spent =>
      intro hnil
      rcases run.turn with ⟨hcalls, -, hphase⟩ | ⟨ec, hcalls, -⟩
      · exact hphase (hcalls.symm.trans hnil)
      · rw [hcalls] at hnil
        simp at hnil
  | expired d hd htimer ht =>
      subst ht
      exact howed
  | timer d hd htimer hpc ht =>
      subst ht
      intro hnil
      rw [timerHandler_calls] at hnil
      have hphase := howed hnil
      -- `cancel()` completes the waits, which are still to be delivered
      unfold timerHandler
      split
      · simpa [phase, suspended, cancel, hpc, cancel_eq_none_iff] using hphase
      · exact hphase

theorem ledger (h : Advance s t) (hledger : Ledger s) : Ledger t := by
  cases h with
  | runs u n run calls deadline spent =>
      intro d' hd'
      -- either no call was made, or one, of which only the first reaches the deadline
      rcases run.turn with ⟨hcalls, hsame, -⟩ | ⟨ec, hcalls, hcall⟩
      · rw [hcalls, calls]
        exact hledger d' (by rw [← deadline, ← hsame, hd'])
      · rw [hcall, deadline, calls] at hd'
        rw [hcalls, if_neg (by simp)]
        split at hd'
        · next hnil =>
            obtain ⟨d, hd, rfl⟩ := Option.map_eq_some_iff.mp hd'
            have haccounts := hledger d hd
            rw [if_pos hnil] at haccounts
            exact haccounts.call ec
        · next hne =>
            have haccounts := hledger d' hd'
            rwa [if_neg hne] at haccounts
  | expired d hd htimer ht =>
      subst ht
      rintro d' ⟨⟩
      exact (hledger d hd).expired htimer
  | timer d hd htimer hpc ht =>
      subst ht
      intro d' hd'
      rw [timerHandler_deadline] at hd'
      cases hd'
      rw [timerHandler_calls]
      exact (hledger d hd).expire (by split <;> decide) htimer

end Advance

/-! ## Whole runs -/

/-- What a run has come to. -/
structure Live (ls : List Label) (s : State) : Prop where
  inv : Inv s
  history : History ls s
  owed : Owed s
  ledger : Ledger s
  bound : ls.length + s.weight ≤ 9 + s.allowed

theorem live_init (errorContext : String) (timed : Bool) : Live [] (init errorContext timed) where
  inv := inv_init errorContext timed
  history := history_init errorContext timed
  owed := by
    intro _ hended
    cases hended
  ledger := by
    intro d hd
    cases timed with
    | false => cases hd
    | true =>
        cases hd
        exact Deadline.accounts_start
  bound := by
    cases timed with
    | false =>
        show 7 ≤ 9
        decide
    | true => exact Nat.le_refl 9

theorem Live.advance {ls : List Label} {s t : State} {l : Label} (h : Live ls s)
    (hstep : step s l = some t) : Advance s t := by
  apply advance_step h.inv h.owed _ hstep
  intro hdrain hnone
  apply h.history.drain hdrain
  rwa [h.history.result, List.head?_eq_none_iff] at hnone

/-- A step keeps the accounts. -/
theorem Live.step {ls : List Label} {s t : State} {l : Label} (h : Live ls s)
    (hstep : step s l = some t) : Live (ls ++ [l]) t := by
  have hadvance := h.advance hstep
  have hspends := hadvance.spends
  have hbound := h.bound
  refine ⟨h.inv.step hstep, h.history.step h.inv hstep, hadvance.owed h.owed,
    hadvance.ledger h.ledger, ?_⟩
  rw [List.length_append, List.length_singleton]
  omega

/-- So does any run. -/
theorem live_run {errorContext : String} {timed : Bool} {ls : List Label} {s : State}
    (hrun : run step (init errorContext timed) ls = some s) : Live ls s :=
  run_history (fun _ _ _ _ h hstep => h.step hstep) (live_init errorContext timed) hrun

/-! ## Where nothing can happen

In a state without enabled labels nothing is waited for. The handler has then been called, or
somebody would be left to call it. -/

/-- No label is enabled. -/
def Quiescent (s : State) : Prop := ∀ l, step s l = none

namespace Quiescent

variable {s : State}

theorem absurd_step {t : State} {l : Label} (h : Quiescent s) (hstep : step s l = some t) :
    False := by
  rw [h l] at hstep
  cases hstep

/-- Every call of libpq has an answer. -/
theorem pc (h : Quiescent s) : s.pc = .idle := by
  cases hpc : s.pc with
  | idle => rfl
  | setNonblocking => exact (h.absurd_step (l := .setNonblocking true) (if_pos hpc)).elim
  | sendQueryParams => exact (h.absurd_step (l := .sendQueryParams true) (if_pos hpc)).elim
  | flush => exact (h.absurd_step (l := .flush .error) (if_pos hpc)).elim
  | process => exact (h.absurd_step (l := .process none) (if_pos hpc)).elim
  | isBusy l =>
      have hnone := h (.isBusy true)
      simp [step, hpc] at hnone
  | consumeInput l =>
      have hnone := h (.consumeInput true)
      simp [step, hpc] at hnone
  | getResult l =>
      have hnone := h (.getResult none)
      cases l <;> simp [step, hpc] at hnone

theorem readWait (h : Quiescent s) : s.readWait = .none := by
  cases hwait : s.readWait with
  | none => rfl
  | pending => exact (h.absurd_step (l := .readReady .success) (if_pos hwait)).elim
  | queued ec =>
      have hnone := h .deliverRead
      simp [step, h.pc, hwait] at hnone

/-- A timer that has not run could still expire. -/
theorem timer (h : Quiescent s) {d : Deadline} (hd : s.deadline = some d) : d.timer = .ran := by
  cases htimer : d.timer with
  | ran => rfl
  | pending =>
      have hnone := h .timerExpired
      simp [step, hd, htimer] at hnone
  | queued =>
      have hnone := h .deliverTimer
      simp [step, h.pc, hd, htimer] at hnone

/-- A request that can do nothing more has called its handler. -/
theorem calls_ne_nil (h : Quiescent s) (hinv : Inv s) (howed : Owed s) : s.calls ≠ [] := by
  intro hnil
  apply howed hnil
  simp [phase, suspended, h.pc, h.readWait, hinv.starting_of_idle h.pc]

/-- Both calls of the deadline have been made. -/
theorem delivered (h : Quiescent s) {ls : List Label} (hlive : Live ls s) {d : Deadline}
    (hd : s.deadline = some d) : d.delivered.length = 1 := by
  have hlen := (hlive.ledger d hd).delivered
  rwa [if_neg (h.calls_ne_nil hlive.inv hlive.owed), h.timer hd] at hlen

end Quiescent

/-- A run for as long as the code says what happens. Calls are not taken back, so where no null
pointer has been dereferenced in the end none has been before. -/
structure Reaches (errorContext : String) (timed : Bool) (ls : List Label) (s : State) : Prop where
  runs : run step (init errorContext timed) ls = some s
  defined : ¬ s.DereferencesNull

end OzoPg.Request
