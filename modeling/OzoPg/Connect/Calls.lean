import OzoPg.Connect.Outcome
import OzoPg.Request.Ledger

/-!
# How often a connect operation calls its handler

With a deadline the operation and the timer both call `io_deadline_handler`, in any order, and the
second call is passed on with what the first one has left. So the handler waits for both of them.

* `connect_called_once` — it is called once, when the operation has finished and the timer, if
  there is one, has run; a finished operation has cancelled the timer, so that it will;
* `connect_timed_out` — after a timer that came first it is called with `timed_out`.
-/

namespace OzoPg.Connect

open State
open Request (Deadline Timer)

/-! ## The calls -/

/-- How often the operation has called the handler under it. -/
def Pc.calls : Pc → Nat
  | .finished => 1
  | _ => 0

/-- The calls so far. -/
structure Ledger (s : State) : Prop where
  untimed : s.deadline = none → s.delivered.length = s.pc.calls
  timed : ∀ d, s.deadline = some d →
    d.Accounts s.pc.calls ∧ s.delivered.map Prod.fst = d.delivered

theorem Pc.calls_eq_one_iff (pc : Pc) : pc.calls = 1 ↔ pc = .finished := by
  cases pc <;> simp [Pc.calls]

theorem Pc.calls_of_ne {pc : Pc} (h : pc ≠ .finished) : pc.calls = 0 := by
  cases pc <;> simp_all [Pc.calls]

theorem Pc.calls_congr {pc pc' : Pc} (h : pc' = .finished ↔ pc = .finished) :
    pc'.calls = pc.calls := by
  by_cases hpc : pc = .finished
  · rw [hpc, h.mpr hpc]
  · rw [Pc.calls_of_ne hpc, Pc.calls_of_ne (mt h.mp hpc)]

theorem Pc.calls_le_one (pc : Pc) : pc.calls ≤ 1 := by
  cases pc <;> simp [Pc.calls]

section

variable {s : State}

/-- An operation without a deadline. -/
theorem Ledger.of_none (hd : s.deadline = none) (hlen : s.delivered.length = s.pc.calls) :
    Ledger s where
  untimed _ := hlen
  timed _ hd' := by
    rw [hd] at hd'
    cases hd'

/-- An operation with a deadline. -/
theorem Ledger.of_some {d : Deadline} (hd : s.deadline = some d) (haccounts : d.Accounts s.pc.calls)
    (hdelivered : s.delivered.map Prod.fst = d.delivered) : Ledger s where
  untimed hnone := by
    rw [hd] at hnone
    cases hnone
  timed _ hd' := by
    obtain rfl := Option.some.inj (hd.symm.trans hd')
    exact ⟨haccounts, hdelivered⟩

theorem ledger_init (keys : List OidKey) (timed : Bool) : Ledger (init keys timed) := by
  cases timed with
  | false => exact .of_none rfl rfl
  | true => exact .of_some rfl Deadline.accounts_start rfl

/-- The end of the operation. -/
theorem Ledger.finish (h : Ledger s) (wait : Request.Wait) (conn : Connection) (ec : ErrorCode)
    (hpc : s.pc ≠ .finished) : Ledger (State.finish { s with wait, conn } ec) := by
  have hcalls := Pc.calls_of_ne hpc
  unfold State.finish handler
  cases hd : s.deadline with
  | none =>
      have hnone := h.untimed hd
      rw [hcalls] at hnone
      apply Ledger.of_none rfl
      simp [hnone, Pc.calls]
  -- the deadline is between the operation and the user
  | some d =>
      obtain ⟨haccounts, hmap⟩ := h.timed d hd
      rw [hcalls] at haccounts
      simp only
      split
      -- the timer is still to come, which delivers
      · next hfirst =>
          apply Ledger.of_some rfl (haccounts.call ec)
          rw [Deadline.call, if_pos hfirst]
          exact hmap
      · next hsecond =>
          apply Ledger.of_some rfl (haccounts.call ec)
          rw [Deadline.call, if_neg hsecond]
          simp [hmap]

/-- The timer's handler makes one of the two calls. -/
theorem Ledger.timerHandler (h : Ledger s) {d : Deadline} (hd : s.deadline = some d)
    (htimer : d.timer = .queued) : Ledger (s.timerHandler d) := by
  obtain ⟨haccounts, hmap⟩ := h.timed d hd
  have hexpire := haccounts.expire s.pc.calls_le_one htimer
  unfold State.timerHandler
  split
  · next hfirst =>
      refine .of_some rfl hexpire ?_
      rw [Deadline.expire_of_first hfirst]
      exact hmap
  · next hsecond =>
      refine .of_some rfl hexpire ?_
      rw [Deadline.expire_of_second (not_not.mp hsecond)]
      simp [hmap]

/-- A call of the operation and one of the timer are entered as they come. -/
theorem Ledger.step {t : State} (h : Ledger s) (heffect : Effect s t) : Ledger t := by
  cases heffect with
  | same _ hpc _ _ hdeadline hdelivered =>
      refine ⟨?_, ?_⟩
      · rw [hdeadline, hdelivered, Pc.calls_congr hpc]
        exact h.untimed
      · rw [hdeadline, hdelivered, Pc.calls_congr hpc]
        exact h.timed
  | ends wait ec conn hpc => exact h.finish wait conn ec hpc
  | expired d hd htimer =>
      obtain ⟨haccounts, hmap⟩ := h.timed d hd
      exact .of_some rfl (haccounts.expired htimer) hmap
  | timer d hd htimer => exact h.timerHandler hd htimer

/-- With a deadline it takes both calls for one to be delivered. -/
theorem Ledger.length_delivered (h : Ledger s) {d : Deadline} (hd : s.deadline = some d) :
    s.delivered.length = s.pc.calls + d.timer.calls - 1 := by
  obtain ⟨haccounts, hmap⟩ := h.timed d hd
  rw [← haccounts.delivered, ← hmap, List.length_map]

end

theorem ledger_run {names : TypeNames} {keys : List OidKey} {timed : Bool} {ls : List Label}
    {s : State} (hrun : Transition.run (step names) (init keys timed) ls = some s) : Ledger s :=
  Transition.run_invariant (fun _ _ _ h hstep => h.step (.of_step hstep)) (ledger_init keys timed)
    hrun

/-- The handler is called when the operation has finished and its timer, if there is one, has
run, and only then. -/
theorem connect_called_once (names : TypeNames) (keys : List OidKey) (timed : Bool)
    (ls : List Label) (s : State)
    (hrun : Transition.run (step names) (init keys timed) ls = some s) :
    s.delivered.length ≤ 1 ∧
      (s.delivered.length = 1 ↔
        s.pc = .finished ∧ ∀ d, s.deadline = some d → d.timer = .ran) ∧
      (s.pc = .finished → ∀ d, s.deadline = some d → d.timer ≠ .pending) := by
  -- both parts are about the number of calls made by the operation and by the timer
  have hledger := ledger_run hrun
  have hle := s.pc.calls_le_one
  refine ⟨?_, ?_, fun hpc d hd => ?_⟩
  · cases hd : s.deadline with
    | none =>
        have hnone := hledger.untimed hd
        omega
    | some d =>
        have hlen := hledger.length_delivered hd
        have hle' := d.timer.calls_le_one
        omega
  · rw [← Pc.calls_eq_one_iff]
    cases hd : s.deadline with
    | none =>
        rw [hledger.untimed hd]
        simp
    | some d =>
        have hle' := d.timer.calls_le_one
        rw [hledger.length_delivered hd]
        simp only [Option.some.injEq, forall_eq', ← Timer.calls_eq_one_iff]
        omega
  · exact (hledger.timed d hd).1.cancelled ((Pc.calls_eq_one_iff _).mpr hpc)

/-- No type to ask for, and no connection either. -/
theorem connect_called_once_refused :
    ∃ s, Transition.run (step ⟨fun _ => "", fun _ => ""⟩) (init [] true)
        [.connectStart none, .deliverTimer] = some s ∧ s.delivered.length = 1 := by
  have hrun : Transition.run (step ⟨fun _ => "", fun _ => ""⟩) (init [] true)
    [.connectStart none, .deliverTimer] = some _ := rfl
  refine ⟨_, hrun, (connect_called_once _ _ _ _ _ hrun).2.1.mpr ⟨rfl, ?_⟩⟩
  rintro d ⟨⟩
  rfl

/-! ## Who comes first

If the timer comes first, its code is the one delivered, and whatever the operation ends with is
dropped. -/

/-- The timer came first. -/
structure TimedOut (s : State) : Prop where
  ledger : Ledger s
  timer : ∃ d, s.deadline = some d ∧ d.TimedOut

/-- Behind the timer the code of the operation no longer counts. -/
theorem TimedOut.step {s t : State} (h : TimedOut s) (heffect : Effect s t) : TimedOut t := by
  obtain ⟨d, hd, htimed⟩ := h.timer
  refine ⟨h.ledger.step heffect, ?_⟩
  cases heffect with
  | same _ hpc _ _ hdeadline => exact ⟨d, hdeadline.trans hd, htimed⟩
  | ends wait ec conn hpc =>
      have haccounts := (h.ledger.timed d hd).1
      rw [Pc.calls_of_ne hpc] at haccounts
      refine ⟨d.call ec, ?_, haccounts.timedOut_call htimed ec⟩
      unfold State.finish handler
      simp only [hd]
      split <;> rfl
  | expired d' hd' htimer | timer d' hd' htimer =>
      obtain rfl := Option.some.inj (hd.symm.trans hd')
      rw [htimed.ran] at htimer
      cases htimer

/-- When the timer has run before the operation has finished, the handler is told `timed_out` once,
as soon as the operation has finished, whatever it comes to. -/
theorem connect_timed_out (names : TypeNames) (keys : List OidKey) (ls ls' : List Label)
    (u s : State) (hrun : Transition.run (step names) (init keys true) ls = some u)
    (d : Deadline) (hd : u.deadline = some d) (hran : d.timer = .ran) (hpc : u.pc ≠ .finished)
    (hrun' : Transition.run (step names) u ls' = some s) :
    s.delivered.map Prod.fst = if s.pc = .finished then [.timedOut] else [] := by
  have hledger := ledger_run hrun
  have haccounts := (hledger.timed d hd).1
  rw [Pc.calls_of_ne hpc] at haccounts
  -- from the state in which the timer has run, along the rest of the run
  have htimedOut : TimedOut u := ⟨hledger, d, hd, haccounts.timedOut hran⟩
  have hend : TimedOut s :=
    Transition.run_invariant (fun _ _ _ h hstep => h.step (.of_step hstep)) htimedOut hrun'
  obtain ⟨d', hd', htimed⟩ := hend.timer
  obtain ⟨haccounts', hmap⟩ := hend.ledger.timed d' hd'
  have hlen := haccounts'.delivered
  rw [htimed.ran, show Timer.calls .ran = 1 from rfl, Nat.add_sub_cancel] at hlen
  rw [hmap]
  split
  -- the second call delivers the code of the first
  · next hfin =>
      rw [(Pc.calls_eq_one_iff _).mpr hfin] at hlen
      obtain ⟨ec, hec⟩ := List.length_eq_one_iff.mp hlen
      rw [hec, htimed.delivered ec (by simp [hec])]
  · next hfin =>
      rw [Pc.calls_of_ne hfin] at hlen
      exact List.length_eq_zero_iff.mp hlen

/-- The timer runs while the operation waits for the socket. -/
theorem connect_timed_out_waiting :
    ∃ u s, Transition.run (step ⟨fun _ => "", fun _ => ""⟩) (init [] true)
        [.connectStart (some ⟨.ok, .idle⟩), .socket true, .timerExpired, .deliverTimer] = some u ∧
      Transition.run (step ⟨fun _ => "", fun _ => ""⟩) u [.deliverWait] = some s ∧
      s.pc = .finished ∧
      s.delivered.map Prod.fst = if s.pc = .finished then [.timedOut] else [] := by
  have hrun : Transition.run (step ⟨fun _ => "", fun _ => ""⟩) (init [] true)
    [.connectStart (some ⟨.ok, .idle⟩), .socket true, .timerExpired, .deliverTimer] = some _ := rfl
  refine ⟨_, _, hrun, rfl, rfl, ?_⟩
  exact connect_timed_out _ _ _ [.deliverWait] _ _ hrun _ rfl rfl nofun rfl

end OzoPg.Connect
