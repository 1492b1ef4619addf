import OzoPg.Request.Model
import OzoPg.Lib.Transition

/-!
# What holds in every state of a request

* `Step` — the steps of the transition system by case, to invert `step` once and for all.
* `Inv` — which waits and which calls are possible at each point of the code.
* `Inv.step`, `inv_run` — every step keeps it, so every state of every run has it.
-/

namespace OzoPg.Request

open State

/-! ## Steps by case -/

/-- The steps one by one, each with the condition that enables it. -/
inductive Step (s : State) : Label → State → Prop where
  | nonblockingSet (hpc : s.pc = .setNonblocking) :
      Step s (.setNonblocking true) { s with pc := .sendQueryParams }
  | nonblockingFailed (hpc : s.pc = .setNonblocking) :
      Step s (.setNonblocking false) (s.done (.ofError .pgSetNonblockingFailed)).senderReturn
  | querySent (hpc : s.pc = .sendQueryParams) :
      Step s (.sendQueryParams true) (s.sender .success)
  | queryFailed (hpc : s.pc = .sendQueryParams) :
      Step s (.sendQueryParams false) (s.done (.ofError .pgSendQueryParamsFailed)).senderReturn
  | flushed (r : QueryState) (hpc : s.pc = .flush) : Step s (.flush r) (afterFlush s r)
  | busy (l : Loop) (hpc : s.pc = .isBusy l) :
      Step s (.isBusy true)
        { s with readWait := .pending, position := some l, waits := s.waits + 1, pc := .idle }
  | notBusy (l : Loop) (hpc : s.pc = .isBusy l) :
      Step s (.isBusy false) { s with pc := .getResult l }
  | consumed (l : Loop) (hpc : s.pc = .consumeInput l) :
      Step s (.consumeInput true) { s with pc := .isBusy l }
  | firstFailed (hpc : s.pc = .consumeInput .first) :
      Step s (.consumeInput false) (s.receiverDone (.ofError .pgConsumeInputFailed))
  | drainFailed (hpc : s.pc = .consumeInput .drain) : Step s (.consumeInput false) s.handleFirst
  | firstResult (r : Option PgResult) (hpc : s.pc = .getResult .first) :
      Step s (.getResult r) (afterFirstResult s r)
  | drained (r : Option PgResult) (hpc : s.pc = .getResult .drain) :
      Step s (.getResult r) (afterDrained s r)
  | processed (what : Option String) (hpc : s.pc = .process) :
      Step s (.process what) (afterProcess s what)
  | readReady (ec : ErrorCode) (hwait : s.readWait = .pending) :
      Step s (.readReady ec) { s with readWait := .queued ec }
  | writeReady (ec : ErrorCode) (hwait : s.writeWait = .pending) :
      Step s (.writeReady ec) { s with writeWait := .queued ec }
  | readDelivered (ec : ErrorCode) (hpc : s.pc = .idle) (hwait : s.readWait = .queued ec) :
      Step s .deliverRead (receiver { s with readWait := .none } ec)
  | writeDelivered (ec : ErrorCode) (hpc : s.pc = .idle) (hwait : s.writeWait = .queued ec) :
      Step s .deliverWrite (sender { s with writeWait := .none } ec)
  | timerExpired (d : Deadline) (hd : s.deadline = some d) (htimer : d.timer = .pending) :
      Step s .timerExpired { s with deadline := some { d with timer := .queued } }
  | timerDelivered (d : Deadline) (hpc : s.pc = .idle) (hd : s.deadline = some d)
      (htimer : d.timer = .queued) : Step s .deliverTimer (s.timerHandler d)

/-- Every step is one of these. -/
theorem Step.of_step {s t : State} {l : Label} (h : step s l = some t) : Step s l t := by
  cases l with
  | setNonblocking ok =>
      obtain ⟨hpc, ⟨⟩⟩ := Option.ite_none_right_eq_some.mp h
      cases ok
      · exact .nonblockingFailed hpc
      · exact .nonblockingSet hpc
  | sendQueryParams ok =>
      obtain ⟨hpc, ⟨⟩⟩ := Option.ite_none_right_eq_some.mp h
      cases ok
      · exact .queryFailed hpc
      · exact .querySent hpc
  | flush r =>
      obtain ⟨hpc, ⟨⟩⟩ := Option.ite_none_right_eq_some.mp h
      exact .flushed r hpc
  -- the receiver makes this call in either loop, so the label alone does not give the position
  | isBusy b =>
      simp only [step] at h
      split at h
      · next l hpc =>
          cases h
          cases b
          · exact .notBusy l hpc
          · exact .busy l hpc
      · cases h
  | consumeInput ok =>
      simp only [step] at h
      split at h
      · next l hpc =>
          cases h
          cases ok
          -- a failure in the drain loop is no error: the first result is handled
          · cases l
            · exact .firstFailed hpc
            · exact .drainFailed hpc
          · exact .consumed l hpc
      · cases h
  | getResult r =>
      simp only [step] at h
      split at h
      · next hpc =>
          cases h
          exact .firstResult r hpc
      · next hpc =>
          cases h
          exact .drained r hpc
      · cases h
  | process what =>
      obtain ⟨hpc, ⟨⟩⟩ := Option.ite_none_right_eq_some.mp h
      exact .processed what hpc
  | readReady ec =>
      obtain ⟨hwait, ⟨⟩⟩ := Option.ite_none_right_eq_some.mp h
      exact .readReady ec hwait
  | writeReady ec =>
      obtain ⟨hwait, ⟨⟩⟩ := Option.ite_none_right_eq_some.mp h
      exact .writeReady ec hwait
  -- completions come in only while no code runs
  | deliverRead =>
      simp only [step] at h
      split at h
      · next ec hpc hwait =>
          cases h
          exact .readDelivered ec hpc hwait
      · cases h
  | deliverWrite =>
      simp only [step] at h
      split at h
      · next ec hpc hwait =>
          cases h
          exact .writeDelivered ec hpc hwait
      · cases h
  | timerExpired =>
      simp only [step] at h
      split at h
      · next d hd =>
          obtain ⟨htimer, ⟨⟩⟩ := Option.ite_none_right_eq_some.mp h
          exact .timerExpired d hd htimer
      · cases h
  | deliverTimer =>
      simp only [step] at h
      split at h
      · next d hpc hd =>
          obtain ⟨htimer, ⟨⟩⟩ := Option.ite_none_right_eq_some.mp h
          exact .timerDelivered d hpc hd htimer
      · cases h

/-! ## The invariant

At each point of the code it is known who has completed the request and which waits are out. One
lemma for each of the operations, and the step follows by cases. -/

/-- What the receiver has at each of its calls. -/
structure Receiving (s : State) : Prop where
  starting : s.starting = false
  state : s.queryState ≠ .error
  calls : s.calls = []
  readWait : s.readWait = .none

/-- What is known at each point of the code. -/
def Control (s : State) : Prop :=
  match s.pc with
  | .idle => s.starting = false
  | .setNonblocking | .sendQueryParams =>
    s.starting = true ∧ s.queryState = .sendInProgress ∧ s.calls = [] ∧ s.readWait = .none ∧
      s.writeWait = .none
  | .flush =>
    s.queryState = .sendInProgress ∧ s.writeWait = .none ∧
      (s.starting = true → s.calls = [] ∧ s.readWait = .none)
  | .isBusy _ | .consumeInput _ | .getResult _ | .process => Receiving s

/-- What is known depends on no more than whether there are waits. -/
theorem Control.congr {s t : State} (h : Control s) (hpc : t.pc = s.pc)
    (hstart : t.starting = s.starting) (hstate : t.queryState = s.queryState)
    (hcalls : t.calls = s.calls) (hread : s.readWait = .none → t.readWait = .none)
    (hwrite : s.writeWait = .none → t.writeWait = .none) : Control t := by
  have hreceiving : Receiving s → Receiving t := by
    intro hr
    exact ⟨hstart.trans hr.starting, hstate ▸ hr.state, hcalls.trans hr.calls, hread hr.readWait⟩
  -- what `Control` says depends on the position, which is the same in both states
  unfold Control at h ⊢
  rw [hpc]
  cases hs : s.pc with
  | idle =>
      rw [hs] at h
      exact hstart.trans h
  | setNonblocking | sendQueryParams =>
      rw [hs] at h
      obtain ⟨h₁, h₂, h₃, h₄, h₅⟩ := h
      exact ⟨hstart.trans h₁, hstate.trans h₂, hcalls.trans h₃, hread h₄, hwrite h₅⟩
  | flush =>
      rw [hs] at h
      obtain ⟨h₁, h₂, h₃⟩ := h
      refine ⟨hstate.trans h₁, hwrite h₂, fun h₄ => ?_⟩
      obtain ⟨h₅, h₆⟩ := h₃ (hstart ▸ h₄)
      exact ⟨hcalls.trans h₅, hread h₆⟩
  | isBusy l | consumeInput l | getResult l | process =>
      rw [hs] at h
      exact hreceiving h

/-- What is known wherever the code is. -/
structure Core (s : State) : Prop where
  /-- The error state is only entered on the way to the handler. -/
  errored : s.queryState = .error → s.calls ≠ []
  /-- The sender stops waiting when everything is sent. -/
  writing : s.writeWait ≠ .none → s.queryState ≠ .sendFinish
  /-- The receiver waits for as long as it has not completed the request. -/
  reading : s.readWait ≠ .none → s.queryState ≠ .error → s.calls = []
  /-- The first of the two calls of the deadline is still to come. -/
  deadline : ∀ d, s.deadline = some d → s.calls = [] → d.timer ≠ .ran → d.firstCall = 2

/-- The invariant of a request. -/
structure Inv (s : State) : Prop extends Core s where
  control : Control s

/-- The receiver is at one of its calls. -/
def Pc.inReceiver : Pc → Bool
  | .isBusy _ | .consumeInput _ | .getResult _ | .process => true
  | _ => false

/-- At its calls the receiver has no wait of its own and nobody has completed the request. -/
theorem Inv.receiving {s : State} (h : Inv s) (hpc : s.pc.inReceiver = true) : Receiving s := by
  have hc := h.control
  unfold Control at hc
  cases hs : s.pc with
  | idle | setNonblocking | sendQueryParams | flush => simp [hs, Pc.inReceiver] at hpc
  | isBusy l | consumeInput l | getResult l | process =>
      rw [hs] at hc
      exact hc

/-- Back in the event loop `async_request_op` has called both operations. -/
theorem Inv.starting_of_idle {s : State} (h : Inv s) (hpc : s.pc = .idle) : s.starting = false := by
  have hc := h.control
  unfold Control at hc
  rwa [hpc] at hc

/-- Nothing has been reported before the query is sent. -/
theorem Inv.calls_of_sending {s : State} (h : Inv s)
    (hpc : s.pc = .setNonblocking ∨ s.pc = .sendQueryParams) : s.calls = [] := by
  have hc := h.control
  unfold Control at hc
  rcases hpc with hpc | hpc
  · rw [hpc] at hc
    exact hc.2.2.1
  · rw [hpc] at hc
    exact hc.2.2.1

theorem inv_init (errorContext : String) (timed : Bool) : Inv (init errorContext timed) where
  errored := nofun
  writing h := absurd rfl h
  reading h := absurd rfl h
  deadline d hd _ _ := by
    cases timed with
    | false => cases hd
    | true =>
        cases hd
        rfl
  control := ⟨rfl, rfl, rfl, rfl, rfl⟩

/-- A request that has failed keeps the invariant whatever is left of its waits. -/
theorem inv_of_error {s : State} (hstate : s.queryState = .error) (hcalls : s.calls ≠ [])
    (hpc : s.pc = .idle) (hstart : s.starting = false) : Inv s where
  errored _ := hcalls
  writing _ := by simp [hstate]
  reading _ h := absurd hstate h
  deadline _ _ h := absurd h hcalls
  control := by
    unfold Control
    rw [hpc]
    exact hstart

/-- The sender ends with an error, and `starting` is over. -/
theorem inv_senderDone (s : State) (ec : ErrorCode) : Inv (s.done ec).senderReturn := by
  rw [senderReturn_of_error rfl]
  exact inv_of_error rfl (by simp) rfl rfl

/-- The receiver ends with an error. -/
theorem inv_receiverDone {s : State} (hstart : s.starting = false) (ec : ErrorCode) :
    Inv (s.receiverDone ec) :=
  inv_of_error rfl (by simp) rfl hstart

/-- It ends with a success. -/
theorem inv_receiverDoneOk {s : State} (h : Core s) (hr : Receiving s) :
    Inv s.receiverDoneOk where
  errored hstate := absurd hstate hr.state
  writing hwait := h.writing hwait
  reading hwait := absurd hr.readWait hwait
  deadline d _ hcalls := by simp [receiverDoneOk, invoke] at hcalls
  control := hr.starting

/-- It has a result to handle. -/
theorem inv_handleResult {s : State} (h : Core s) (hr : Receiving s) (r : PgResult) :
    Inv (s.handleResult r) := by
  unfold handleResult
  split
  -- the result goes to the processor
  · exact { h with control := ⟨hr.starting, hr.state, hr.calls, hr.readWait⟩ }
  · exact { h with control := ⟨hr.starting, hr.state, hr.calls, hr.readWait⟩ }
  · exact { h with control := ⟨hr.starting, hr.state, hr.calls, hr.readWait⟩ }
  -- every other status completes the request
  all_goals
    apply inv_receiverDone
    exact hr.starting

theorem inv_handleFirst {s : State} (h : Core s) (hr : Receiving s) : Inv s.handleFirst := by
  unfold handleFirst
  split
  · exact { h with control := hr.starting }
  · exact inv_handleResult h hr _

/-- The receiver starts or resumes with nothing to read and, unless the request has failed,
nothing delivered. -/
theorem inv_receiver {s : State} (h : Core s) (hstart : s.starting = false)
    (hwait : s.readWait = .none) (hcalls : s.queryState ≠ .error → s.calls = [])
    (ec : ErrorCode) : Inv (s.receiver ec) := by
  unfold receiver
  split
  · exact { h with control := hstart }
  · next hstate =>
      have hr : Receiving s := ⟨hstart, hstate, hcalls hstate, hwait⟩
      split
      · exact inv_receiverDone hstart _
      · split
        · exact { h with control := ⟨hr.starting, hr.state, hr.calls, hr.readWait⟩ }
        · exact { h with control := ⟨hr.starting, hr.state, hr.calls, hr.readWait⟩ }

/-- It is started when the sender returns for the first time. -/
theorem inv_senderReturn {s : State} (h : Core s)
    (hstart : s.starting = true → s.calls = [] ∧ s.readWait = .none) : Inv s.senderReturn := by
  unfold senderReturn
  split
  · next hs =>
      obtain ⟨hcalls, hwait⟩ := hstart hs
      exact inv_receiver (s := { s with starting := false })
        ⟨h.errored, h.writing, h.reading, h.deadline⟩ rfl hwait (fun _ => hcalls) _
  · next hs => exact { h with control := Bool.eq_false_iff.mpr hs }

/-- The sender is started or resumed. -/
theorem inv_sender {s : State} (h : Core s) (hwait : s.writeWait = .none)
    (hstart : s.starting = true → s.calls = [] ∧ s.readWait = .none) (ec : ErrorCode) :
    Inv (s.sender ec) := by
  unfold sender
  split
  · exact inv_senderReturn h hstart
  · next hstate =>
      split
      · exact inv_senderDone s ec
      · exact { h with control := ⟨not_not.mp hstate, hwait, hstart⟩ }

/-- `PQflush` has answered. -/
theorem inv_afterFlush {s : State} (h : Inv s) (hpc : s.pc = .flush) (r : QueryState) :
    Inv (afterFlush s r) := by
  have hc := h.control
  unfold Control at hc
  rw [hpc] at hc
  obtain ⟨hstate, hwait, hstart⟩ := hc
  cases r with
  | error => exact inv_senderDone s _
  | sendInProgress =>
      refine inv_senderReturn { h with writing := fun _ => ?_ } hstart
      simp [hstate]
  | sendFinish =>
      refine inv_senderReturn { h with errored := nofun, writing := ?_, reading := ?_ } hstart
      · intro hne
        exact absurd hwait hne
      · intro hne _
        exact h.reading hne (by simp [hstate])

/-- `PQgetResult` has answered in the first loop. -/
theorem inv_afterFirstResult {s : State} (h : Core s) (hr : Receiving s) (r : Option PgResult) :
    Inv (afterFirstResult s r) := by
  cases r with
  | none => exact inv_receiverDoneOk h hr
  | some r =>
      have hr' : Receiving { s with result := some r, results := s.results ++ [r] } :=
        ⟨hr.starting, hr.state, hr.calls, hr.readWait⟩
      simp only [afterFirstResult]
      split
      · exact { h with control := ⟨hr.starting, hr.state, hr.calls, hr.readWait⟩ }
      · refine inv_handleResult ?_ hr' r
        exact ⟨h.errored, h.writing, h.reading, h.deadline⟩

/-- It has answered in the second. -/
theorem inv_afterDrained {s : State} (h : Core s) (hr : Receiving s) (r : Option PgResult) :
    Inv (afterDrained s r) := by
  cases r with
  | none => exact inv_handleFirst h hr
  | some r => exact { h with control := ⟨hr.starting, hr.state, hr.calls, hr.readWait⟩ }

/-- The processor has returned or thrown. -/
theorem inv_afterProcess {s : State} (h : Core s) (hr : Receiving s) (what : Option String) :
    Inv (afterProcess s what) := by
  cases what with
  | none => exact inv_receiverDoneOk h hr
  | some what =>
      apply inv_receiverDone
      exact hr.starting

/-- The timer's handler cancels waits and calls nothing. -/
theorem inv_timerHandler {s : State} (h : Inv s) (hpc : s.pc = .idle) (d : Deadline) :
    Inv (s.timerHandler d) := by
  have hstart := h.starting_of_idle hpc
  unfold timerHandler
  split
  · -- the timer comes first and cancels the waits
    refine { errored := h.errored, writing := ?_, reading := ?_, deadline := ?_, control := ?_ }
    · intro hne
      apply h.writing
      intro hnone
      exact hne (by simp [cancel, hnone, Wait.cancel])
    · intro hne
      apply h.reading
      intro hnone
      exact hne (by simp [cancel, hnone, Wait.cancel])
    · rintro d' ⟨⟩ _ hran
      exact absurd d.timer_expire hran
    · simp [Control, cancel, hpc, hstart]
  · refine { errored := h.errored, writing := h.writing, reading := h.reading, deadline := ?_,
             control := ?_ }
    · rintro d' ⟨⟩ _ hran
      exact absurd d.timer_expire hran
    · simp [Control, hpc, hstart]

/-- Every step keeps the invariant. -/
theorem Inv.step {s t : State} {l : Label} (h : Inv s) (hstep : step s l = some t) : Inv t := by
  have hc := h.control
  unfold Control at hc
  cases Step.of_step hstep with
  | nonblockingSet hpc =>
      rw [hpc] at hc
      exact { h with control := hc }
  | nonblockingFailed hpc => exact inv_senderDone s _
  | querySent hpc =>
      rw [hpc] at hc
      obtain ⟨hstart, hstate, hcalls, hread, hwrite⟩ := hc
      exact inv_sender h.toCore hwrite (fun _ => ⟨hcalls, hread⟩) _
  | queryFailed hpc => exact inv_senderDone s _
  | flushed r hpc => exact inv_afterFlush h hpc r
  -- the receiver stops at a wait, which nobody has completed the request for
  | busy l hpc =>
      rw [hpc] at hc
      exact { h with reading := fun _ _ => hc.calls, control := hc.starting }
  | notBusy l hpc =>
      rw [hpc] at hc
      exact { h with control := ⟨hc.starting, hc.state, hc.calls, hc.readWait⟩ }
  | consumed l hpc =>
      rw [hpc] at hc
      exact { h with control := ⟨hc.starting, hc.state, hc.calls, hc.readWait⟩ }
  | firstFailed hpc =>
      rw [hpc] at hc
      exact inv_receiverDone hc.starting _
  | drainFailed hpc =>
      rw [hpc] at hc
      exact inv_handleFirst h.toCore hc
  | firstResult r hpc =>
      rw [hpc] at hc
      exact inv_afterFirstResult h.toCore hc r
  | drained r hpc =>
      rw [hpc] at hc
      exact inv_afterDrained h.toCore hc r
  | processed what hpc =>
      rw [hpc] at hc
      exact inv_afterProcess h.toCore hc what
  -- a completion changes the wait and nothing that the code has seen
  | readReady ec hwait =>
      have hread := h.reading (by simp [hwait])
      refine { h with reading := fun _ => hread, control := ?_ }
      exact h.control.congr rfl rfl rfl rfl (by simp [hwait]) id
  | writeReady ec hwait =>
      have hwrite := h.writing (by simp [hwait])
      refine { h with writing := fun _ => hwrite, control := ?_ }
      exact h.control.congr rfl rfl rfl rfl id (by simp [hwait])
  -- the wait is taken off before the operation is resumed
  | readDelivered ec hpc hwait =>
      rw [hpc] at hc
      have hread := h.reading (by simp [hwait])
      exact inv_receiver (s := { s with readWait := .none })
        ⟨h.errored, h.writing, fun hne => absurd rfl hne, h.deadline⟩ hc rfl hread ec
  | writeDelivered ec hpc hwait =>
      rw [hpc] at hc
      refine inv_sender (s := { s with writeWait := .none })
        ⟨h.errored, fun hne => absurd rfl hne, h.reading, h.deadline⟩ rfl (fun hs => ?_) ec
      exact absurd hs (by simp [show s.starting = false from hc])
  | timerExpired d hd htimer =>
      refine { h with deadline := ?_, control := ?_ }
      · rintro d' ⟨⟩ hcalls _
        exact h.deadline d hd hcalls (by simp [htimer])
      · exact h.control.congr rfl rfl rfl rfl id id
  | timerDelivered d hpc hd htimer => exact inv_timerHandler h hpc d

/-- Every state of every run has the invariant. -/
theorem inv_run {errorContext : String} {timed : Bool} {s : State} {ls : List Label}
    (hrun : Transition.run step (init errorContext timed) ls = some s) : Inv s :=
  Transition.run_invariant (fun _ _ _ h hstep => h.step hstep) (inv_init errorContext timed) hrun

end OzoPg.Request
