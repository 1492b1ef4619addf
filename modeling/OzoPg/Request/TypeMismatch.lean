import OzoPg.Failover.RoleBased
import OzoPg.Io.Result
import OzoPg.Request.Finality

/-!
# Type mismatches

A column, an array element type or a composite member of an unexpected oid makes decoding throw
`oid_type_mismatch`, and there is a condition `errc::type_mismatch` for it that failover roles are
documented to recover. Between the two is `process_and_done`: it keeps the text of the exception as
the error context and completes the request with `bad_result_process` whatever the exception was.

* `Reported` — what becomes of an exception, with a deadline and without one.
* `completions_of_oidTypeMismatch` — a type mismatch is never reported as one.
-/

namespace OzoPg.Request

open State Transition

/-- The calls of the handler the user has given: those made directly, or those of the deadline
around it. -/
def State.completions (s : State) : List ErrorCode :=
  match s.deadline with
  | none => s.calls
  | some d => d.delivered

/-! ## The deadline before the request completes

Until the operation has called the handler, the deadline holds back at most the code of the timer.
-/

/-- The deadline has delivered nothing; if its timer has run, it keeps `timed_out` for the call to
come. -/
structure Waiting (d : Deadline) : Prop where
  delivered : d.delivered = []
  running : d.timer ≠ .ran → d.firstCall = 2
  ran : d.timer = .ran → d.firstCall = 1 ∧ d.ec = .timedOut

/-- A request that has not been completed has a deadline that waits. -/
def Open (s : State) : Prop := ∀ d, s.deadline = some d → s.calls = [] → Waiting d

/-- The step completes the request or leaves the deadline alone. -/
def Untouched (s t : State) : Prop := t.calls = [] → s.calls = [] ∧ t.deadline = s.deadline

theorem Untouched.refl (s : State) : Untouched s s := fun h => ⟨h, rfl⟩

theorem Untouched.of_append {s t : State} (ec : ErrorCode) (h : t.calls = s.calls ++ [ec]) :
    Untouched s t := by
  intro hnil
  simp [h] at hnil

/-- What is untouched stays open. -/
theorem Untouched.open {s t : State} (h : Untouched s t) (hopen : Open s) : Open t := by
  intro d hd hcalls
  obtain ⟨hcalls', hdeadline⟩ := h hcalls
  exact hopen d (hdeadline ▸ hd) hcalls'

/-- The receiver calls the handler or lets the deadline be. -/
theorem untouched_receiver (s : State) (ec : ErrorCode) : Untouched s (s.receiver ec) := by
  unfold receiver
  split
  · exact .refl s
  · split
    · exact .of_append _ rfl
    · split <;> exact .refl s

theorem untouched_senderReturn (s : State) : Untouched s s.senderReturn := by
  unfold senderReturn
  split
  · exact untouched_receiver { s with starting := false } .success
  · exact .refl s

theorem untouched_done_senderReturn (s : State) (ec : ErrorCode) :
    Untouched s (s.done ec).senderReturn :=
  .of_append ec (senderReturn_calls _)

theorem untouched_sender (s : State) (ec : ErrorCode) : Untouched s (s.sender ec) := by
  unfold sender
  split
  · exact untouched_senderReturn s
  · split
    · exact untouched_done_senderReturn s ec
    · exact .refl s

theorem untouched_handleResult (s : State) (r : PgResult) : Untouched s (s.handleResult r) := by
  unfold handleResult
  split
  · exact .refl s
  · exact .refl s
  · exact .refl s
  all_goals exact .of_append _ rfl

theorem untouched_handleFirst (s : State) : Untouched s s.handleFirst := by
  unfold handleFirst
  split
  · exact .refl s
  · exact untouched_handleResult s _

/-- Only a call of the operation closes the deadline. -/
theorem Open.step {s t : State} {l : Label} (h : Open s) (hstep : step s l = some t) : Open t := by
  cases Step.of_step hstep with
  | nonblockingSet hpc | busy l hpc | notBusy l hpc | consumed l hpc | readReady ec hwait
  | writeReady ec hwait => exact h
  | nonblockingFailed hpc => exact (untouched_done_senderReturn s _).open h
  | querySent hpc => exact (untouched_sender s _).open h
  | queryFailed hpc => exact (untouched_done_senderReturn s _).open h
  | flushed r hpc =>
      cases r with
      | error => exact (untouched_done_senderReturn s _).open h
      | sendInProgress =>
          exact (untouched_senderReturn
            { s with writeWait := .pending, waits := s.waits + 1 }).open h
      | sendFinish => exact (untouched_senderReturn { s with queryState := .sendFinish }).open h
  | firstFailed hpc => exact Untouched.open (.of_append _ (receiverDone_calls s _)) h
  | drainFailed hpc => exact (untouched_handleFirst s).open h
  | firstResult r hpc =>
      cases r with
      | none => exact Untouched.open (.of_append .success rfl) h
      | some r =>
          simp only [afterFirstResult]
          split
          · exact h
          · exact (untouched_handleResult
              { s with result := some r, results := s.results ++ [r] } r).open h
  | drained r hpc =>
      cases r with
      | none => exact (untouched_handleFirst s).open h
      | some r => exact h
  | processed what hpc =>
      cases what with
      | none => exact Untouched.open (.of_append .success rfl) h
      | some text => exact Untouched.open (.of_append (.ofError .badResultProcess) rfl) h
  | readDelivered ec hpc hwait => exact (untouched_receiver { s with readWait := .none } ec).open h
  | writeDelivered ec hpc hwait => exact (untouched_sender { s with writeWait := .none } ec).open h
  | timerExpired d hd htimer =>
      rintro d' ⟨⟩ hcalls
      have hd' := h d hd hcalls
      exact ⟨hd'.delivered, fun _ => hd'.running (by simp [htimer]), by simp⟩
  | timerDelivered d hpc hd htimer =>
      intro d' hd' hcalls
      rw [timerHandler_calls] at hcalls
      have hwait := h d hd hcalls
      have hfirst := hwait.running (by simp [htimer])
      -- the timer is the first to call
      rw [timerHandler_deadline, Deadline.expire_of_first (by omega)] at hd'
      cases hd'
      exact ⟨hwait.delivered, fun hran => absurd rfl hran, fun _ => ⟨by simp [hfirst], rfl⟩⟩

theorem open_run {errorContext : String} {timed : Bool} {s : State} {ls : List Label}
    (hrun : run step (init errorContext timed) ls = some s) : Open s := by
  refine run_invariant (fun _ _ _ h hstep => Open.step h hstep) ?_ hrun
  intro d hd _
  cases timed with
  | false => cases hd
  | true =>
      cases hd
      exact ⟨rfl, fun _ => rfl, nofun⟩

/-! ## An exception of the result processor -/

/-- What the deadline has of an exception: it waits for the timer to deliver the code, or the timer
has run before or since. -/
inductive Answered (d : Deadline) : Prop where
  | waiting (htimer : d.timer ≠ .ran) (hfirst : d.firstCall = 1)
      (hec : d.ec = .ofError .badResultProcess) (h : d.delivered = [])
  | delivered (htimer : d.timer = .ran) (h : d.delivered = [.ofError .badResultProcess])
  | timedOut (htimer : d.timer = .ran) (h : d.delivered = [.timedOut])

/-- The request has been completed because the result processor has thrown. -/
structure Reported (s : State) : Prop extends Failed s where
  calls : s.calls = [.ofError .badResultProcess]
  deadline : ∀ d, s.deadline = some d → Answered d

/-- The call that finds the deadline waiting. -/
theorem Waiting.answered {d : Deadline} (h : Waiting d) :
    Answered (d.call (.ofError .badResultProcess)) := by
  by_cases hran : d.timer = .ran
  · obtain ⟨hfirst, hec⟩ := h.ran hran
    have hcall : d.call (.ofError .badResultProcess) =
        { d with firstCall := 0, delivered := [.timedOut] } := by
      simp [Deadline.call, hfirst, h.delivered, hec]
    rw [hcall]
    exact .timedOut hran rfl
  · have hfirst := h.running hran
    have hcall : d.call (.ofError .badResultProcess) =
        { d with firstCall := 1, timer := d.timer.cancel, ec := .ofError .badResultProcess } := by
      simp [Deadline.call, hfirst]
    rw [hcall]
    refine .waiting ?_ rfl rfl h.delivered
    cases htimer : d.timer with
    | pending | queued => simp [Timer.cancel]
    | ran => exact absurd htimer hran

/-- An exception becomes `bad_result_process`, whatever it was. -/
theorem reported_of_process {s t : State} {text : String} (hinv : Inv s) (hopen : Open s)
    (hstep : step s (.process (some text)) = some t) : Reported t := by
  obtain ⟨hpc, ⟨⟩⟩ := Option.ite_none_right_eq_some.mp hstep
  have hr : Receiving s := hinv.receiving (by rw [hpc]; rfl)
  refine ⟨⟨rfl, rfl, hr.starting⟩, by simp [afterProcess, hr.calls], ?_⟩
  intro d hd
  have hdeadline : s.deadline.map (·.call (.ofError .badResultProcess)) = some d := by
    rw [← hd]
    exact (if_pos hr.calls).symm
  obtain ⟨d', hd', rfl⟩ := Option.map_eq_some_iff.mp hdeadline
  exact (hopen d' hd' hr.calls).answered

/-- What has been reported stays so. -/
theorem Reported.step {s t : State} {l : Label} (h : Reported s) (hstep : step s l = some t) :
    Reported t := by
  obtain ⟨hfailed, hcalls, hdeadline⟩ := h.toFailed.step hstep
  refine ⟨hfailed, hcalls.trans h.calls, ?_⟩
  intro d hd
  cases hdeadline with
  | none heq => exact h.deadline d (heq ▸ hd)
  | expired d' hd' htimer heq =>
      rw [heq] at hd
      cases hd
      cases h.deadline d' hd' with
      | waiting htimer' hfirst hec hdelivered => exact .waiting nofun hfirst hec hdelivered
      | delivered htimer' hdelivered => simp [htimer'] at htimer
      | timedOut htimer' hdelivered => simp [htimer'] at htimer
  | delivered d' hd' htimer heq =>
      cases h.deadline d' hd' with
      | waiting htimer' hfirst hec hdelivered =>
          -- the timer is the second to call
          rw [heq, timerHandler_deadline, Deadline.expire_of_second (by omega)] at hd
          cases hd
          exact .delivered rfl (by simp [hdelivered, hec])
      | delivered htimer' hdelivered => simp [htimer'] at htimer
      | timedOut htimer' hdelivered => simp [htimer'] at htimer

/-- The user hears of this code or of a time-out. -/
theorem Reported.completions {s : State} (h : Reported s) :
    ∀ ec ∈ s.completions, ec = .ofError .badResultProcess ∨ ec = .timedOut := by
  intro ec hec
  unfold State.completions at hec
  split at hec
  · rw [h.calls] at hec
    exact .inl (List.mem_singleton.mp hec)
  · next d hd =>
      cases h.deadline d hd with
      | waiting htimer hfirst hec' hdelivered => simp [hdelivered] at hec
      | delivered htimer hdelivered => exact .inl (by simpa [hdelivered] using hec)
      | timedOut htimer hdelivered => exact .inr (by simpa [hdelivered] using hec)

/-! ## Type mismatches -/

/-- What the result processor of a request does with a result: it throws what `recv_result`
throws. -/
def processed (what : RowException → String) (cs : Constructors) (m : OidMap) (res : ResultSet)
    (out : Output) : Label :=
  .process ((out.recvResult cs m res).2.map what)

/-- When decoding a result throws `oid_type_mismatch`, whose code does match the condition for type
mismatches, the request is completed exactly once, with `bad_result_process`; all the user ever gets
is that code or the end of the deadline. Neither matches the condition, and no predefined role
recovers the former. -/
theorem completions_of_oidTypeMismatch (what : RowException → String) (cs : Constructors)
    (m : OidMap) (res : ResultSet) (out : Output) (e : RowException)
    (hthrow : (out.recvResult cs m res).2 = some e)
    (hcode : e.code? = some .oidTypeMismatch) (errorContext : String) (timed : Bool)
    (ls ls' : List Label) (s t u : State) (hrun : run step (init errorContext timed) ls = some s)
    (hstep : step s (processed what cs m res out) = some t) (hrun' : run step t ls' = some u) :
    (∀ c, e.code? = some c → Errc.typeMismatch.equivalent (.ofError c) = true) ∧
      u.calls = [.ofError .badResultProcess] ∧
      (∀ ec ∈ u.completions, ec = .ofError .badResultProcess ∨ ec = .timedOut) ∧
      (∀ ec ∈ u.completions, Errc.typeMismatch.equivalent ec = false) ∧
      ∀ role : Failover.RoleBased.Role, role.canRecover (.ofError .badResultProcess) = false := by
  rw [processed, hthrow] at hstep
  -- from the exception on, along the rest of the run
  have hreported : Reported u :=
    run_invariant (fun _ _ _ h hs => h.step hs)
      (reported_of_process (inv_run hrun) (open_run hrun) hstep) hrun'
  refine ⟨?_, hreported.calls, hreported.completions, ?_, ?_⟩
  · intro c hc
    obtain rfl : Error.oidTypeMismatch = c := Option.some.inj (hcode.symm.trans hc)
    rfl
  · intro ec hec
    rcases hreported.completions ec hec with rfl | rfl
    · exact equivalent_badResultProcess .typeMismatch
    · exact equivalent_timedOut .typeMismatch
  · intro role
    cases role <;> decide

/-- A column of type `text`. -/
def textResult : ResultSet := ⟨[("name", 25)], [⟨[some [111, 122, 111]], rfl⟩]⟩

/-- A container of `std::int32_t`. -/
def int4Output : Output :=
  .insertIterator (.column .plain (.element (.scalar .int4))) 0 (· ++ [·]) []

/-- A request without trouble, up to the result processor. -/
def resultRun : List Label :=
  [.setNonblocking true, .sendQueryParams true, .flush .sendFinish, .isBusy false,
    .getResult (some ⟨.tuplesOk, none⟩), .isBusy false, .getResult none]

theorem completions_textResult :
    ∃ s t, run step (init "" false) resultRun = some s ∧
      step s (processed (fun _ => "unexpected oid 25") .zero ⟨[]⟩ textResult int4Output) = some t ∧
      ∀ ec ∈ t.completions, Errc.typeMismatch.equivalent ec = false :=
  ⟨_, _, rfl, rfl, (completions_of_oidTypeMismatch (fun _ => "unexpected oid 25") .zero ⟨[]⟩
    textResult int4Output (.value (.oidTypeMismatch 25)) rfl rfl "" false resultRun [] _ _ _ rfl rfl
    rfl).2.2.2.1⟩

/-- Text received into integers: the exception is a type mismatch, what the handler gets is not, and
neither the master nor a replica is tried. -/
theorem textResult_not_reported_as_typeMismatch :
    ∃ s t, run step (init "" false) resultRun = some s ∧
      (int4Output.recvResult .zero ⟨[]⟩ textResult).2 = some (.value (.oidTypeMismatch 25)) ∧
      step s (processed (fun _ => "unexpected oid 25") .zero ⟨[]⟩ textResult int4Output) = some t ∧
      t.completions = [.ofError .badResultProcess] ∧
      Errc.typeMismatch.equivalent (.ofError .badResultProcess) = false ∧
      Failover.RoleBased.Role.master.canRecover (.ofError .badResultProcess) = false ∧
      Failover.RoleBased.Role.replica.canRecover (.ofError .badResultProcess) = false :=
  ⟨_, _, rfl, rfl, rfl, rfl, by decide, by decide, by decide⟩

end OzoPg.Request
