import OzoPg.Failover.RetryRequest
import OzoPg.Request.Liveness
import OzoPg.Request.TypeMismatch

/-!
# What a request does to its output

The result processor of a request is `async_request_out_handler`: it makes a result of the handle
that `result_` has kept and receives its rows into the output of the user. So the output is no
matter of the environment. It depends on what the first result holds, and what the handler is told
has to agree with it.

* `Session` — a request together with its output and with what `result_` holds;
* `Received` — the output is untouched, or it is what `recv_result` has made of the first result;
* `output_reported` — what the handler is told says which, and nothing is written behind it.
-/

namespace OzoPg.Request

open State Transition
open Failover.RetryRequest (int4Result)

/-! ## Sessions

The model of the request knows of a result its status only. A session keeps what the result holds
and the output, so that the processor does what the source says. -/

/-- What happens to a request with an output. Results come with what they hold; the processor has
no choice. -/
inductive Event where
  | getResult (r : Option (PgResult × ResultSet))
  | process
  | other (l : Label)

/-- A request, what the handle in `result_` gives access to, and the output. -/
structure Session where
  state : State
  held : Option ResultSet
  out : Output

/-- The code that `process_and_done` completes with. -/
def processCode : Option RowException → ErrorCode
  | none => .success
  | some _ => .ofError .badResultProcess

namespace Session

/-- `async_request_op::operator()` with an output. -/
def init (errorContext : String) (timed : Bool) (out : Output) : Session :=
  ⟨Request.init errorContext timed, none, out⟩

variable (what : RowException → String) (cs : Constructors) (m : OidMap)

/-- What an event is to the two operations. -/
def label? (s : Session) : Event → Option Label
  | .getResult r => some (.getResult (r.map Prod.fst))
  | .process => s.held.map fun res => processed what cs m res s.out
  | .other (.getResult _) | .other (.process _) => none
  | .other l => some l

/-- The session when the operations have gone on. Only the first loop assigns `result_`. -/
def next (s : Session) (t : State) : Event → Session
  | .getResult r =>
    ⟨t, if s.state.pc = .getResult .first then r.map Prod.snd else s.held, s.out⟩
  | .process => ⟨t, s.held, (s.held.map fun res => (s.out.recvResult cs m res).1).getD s.out⟩
  | .other _ => ⟨t, s.held, s.out⟩

def step (s : Session) (e : Event) : Option Session :=
  (s.label? what cs m e).bind fun l => (Request.step s.state l).map fun t => s.next cs m t e

variable {what cs m}

/-- A step of the session is a step of the request, and what it means for the output. -/
theorem step_eq_some {s t : Session} {e : Event} (h : s.step what cs m e = some t) :
    ∃ l u, s.label? what cs m e = some l ∧ Request.step s.state l = some u ∧
      t = s.next cs m u e := by
  obtain ⟨l, hl, hstep⟩ := Option.bind_eq_some_iff.mp h
  obtain ⟨u, hu, rfl⟩ := Option.map_eq_some_iff.mp hstep
  exact ⟨l, u, hl, hu, rfl⟩

@[simp] theorem next_state (s : Session) (u : State) (e : Event) : (s.next cs m u e).state = u := by
  cases e <;> rfl

/-- The processor is called where the receiver has called nobody. -/
theorem receiving_of_process {s t : Session} (hinv : Inv s.state)
    (h : s.step what cs m .process = some t) : ∃ res, s.held = some res ∧ Receiving s.state ∧
      t = ⟨afterProcess s.state ((s.out.recvResult cs m res).2.map what), some res,
        (s.out.recvResult cs m res).1⟩ := by
  obtain ⟨l, u, hl, hu, rfl⟩ := step_eq_some h
  obtain ⟨res, hres, rfl⟩ := Option.map_eq_some_iff.mp hl
  obtain ⟨hpc, ⟨⟩⟩ := Option.ite_none_right_eq_some.mp hu
  exact ⟨res, hres, hinv.receiving (by rw [hpc]; rfl), by simp [next, hres]⟩

end Session

/-! ## The first result -/

/-- The result that has been returned, with what it holds. -/
def Event.result? : Event → Option (PgResult × ResultSet)
  | .getResult r => r
  | _ => none

/-- The first result of all. -/
def firstResult (es : List Event) : Option (PgResult × ResultSet) := es.findSome? Event.result?

/-- Later results do not change which one was the first. -/
theorem firstResult_append (es : List Event) (e : Event) :
    firstResult (es ++ [e]) = (firstResult es).or e.result? := by
  cases hr : e.result? <;> simp [firstResult, List.findSome?_append, hr]

/-- It is the one that is kept. -/
structure Keeps (es : List Event) (s : Session) : Prop where
  held : s.held = (firstResult es).map Prod.snd
  result : s.state.result = (firstResult es).map Prod.fst

/-- Both layers see the same results. -/
theorem result?_of_label? {what : RowException → String} {cs : Constructors} {m : OidMap}
    {s : Session} {e : Event}
    {l : Label} (h : s.label? what cs m e = some l) : l.result? = e.result?.map Prod.fst := by
  cases e with
  | getResult r =>
      cases h
      rfl
  | process =>
      obtain ⟨res, -, rfl⟩ := Option.map_eq_some_iff.mp h
      rfl
  | other l' => cases l' <;> cases h <;> rfl

/-- `result_` is assigned once. -/
theorem Keeps.step {what : RowException → String} {cs : Constructors} {m : OidMap}
    {es : List Event} {s t : Session}
    {e : Event} (h : Keeps es s) {ls : List Label} (hlive : Live ls s.state)
    (hstep : s.step what cs m e = some t) : Keeps (es ++ [e]) t := by
  obtain ⟨l, u, hl, hu, rfl⟩ := Session.step_eq_some hstep
  have hhistory := hlive.history
  have hfirst : s.state.results.head? = (firstResult es).map Prod.fst :=
    hhistory.result.symm.trans h.result
  constructor
  · rw [firstResult_append]
    cases e with
    | getResult r =>
        cases hl
        show (if s.state.pc = .getResult .first then r.map Prod.snd else s.held) = _
        split
        · next hpc =>
            rw [hhistory.first (by simp [phase, hpc]), List.head?_nil, eq_comm,
              Option.map_eq_none_iff] at hfirst
            rw [hfirst, Option.none_or]
            rfl
        · next hpc =>
            -- the results behind the first one are dropped
            have hdrain : s.state.results ≠ [] := by
              cases Step.of_step hu with
              | firstResult _ hpc' => exact absurd hpc' hpc
              | drained _ hpc' => exact hhistory.drain (by simp [phase, hpc'])
            obtain ⟨a, ha⟩ : ∃ a, firstResult es = some a := by
              cases hes : firstResult es with
              | some a => exact ⟨a, rfl⟩
              | none =>
                  rw [hes, Option.map_none, List.head?_eq_none_iff] at hfirst
                  exact absurd hfirst hdrain
            rw [h.held, ha, Option.some_or]
    | process => exact h.held.trans (by simp [Event.result?])
    | other l' => exact h.held.trans (by simp [Event.result?])
  · rw [Session.next_state, (hhistory.step hlive.inv hu).result, results_eq_step hu,
      List.head?_append, hfirst, result?_of_label? hl, firstResult_append, Option.map_or]
    cases e.result? <;> rfl

/-! ## The output -/

/-- What has become of the output: it is untouched, and a success has been reported only if there
was no result, or it is what the processor has made of the first result, and the handler has been
called with what the processor has returned with. -/
inductive Received (cs : Constructors) (m : OidMap) (out : Output) (s : Session) : Prop where
  | untouched (eq : s.out = out) (calls : s.state.calls.head? = some .success → s.held = none)
  | written (res : ResultSet) (held : s.held = some res) (eq : s.out = (out.recvResult cs m res).1)
      (calls : s.state.calls.head? = some (processCode (out.recvResult cs m res).2))

/-- A failure is not reported as a success. -/
theorem ErrorOf.ne_success {s : State} {ec : ErrorCode} (h : ErrorOf s ec) : ec ≠ .success := by
  rintro rfl
  rcases h with hfailed | ⟨r, -, -, hcode⟩
  · cases hfailed
  · unfold resultError at hcode
    split at hcode <;> cases hcode

/-- A first call with a success is the receiver's. -/
theorem succeeds_of_first {s t : State} {l : Label} (hinv : Inv s) (hcalls : s.calls = [])
    (hstep : step s l = some t) (hsuccess : t.calls.head? = some .success) : Succeeds s l := by
  cases outcome_step hinv hstep with
  | goesOn calls state =>
      rw [calls, hcalls] at hsuccess
      cases hsuccess
  | failed v ec fails code =>
      have hhead : t.calls = [ec] := by
        rw [fails.after]
        simp [invoke, fails.calls, hcalls]
      rw [hhead] at hsuccess
      exact absurd (Option.some.inj hsuccess) code.ne_success
  | succeeded label calls state => exact label

/-- Calls come one behind the other. -/
theorem head?_calls_step {s t : State} {l : Label} (hinv : Inv s) (hstep : step s l = some t)
    (hcalls : s.calls ≠ []) : t.calls.head? = s.calls.head? := by
  rcases calls_step hinv hstep with ⟨hsame, -⟩ | ⟨ec, hmore, -⟩
  · rw [hsame]
  · rw [hmore, List.head?_append_of_ne_nil _ hcalls]

/-- Behind the first call there are only failures. -/
theorem later_calls_step {s t : State} {l : Label} (hinv : Inv s)
    (h : ∀ ec ∈ s.calls.tail, ec ≠ .success) (hstep : step s l = some t) :
    ∀ ec ∈ t.calls.tail, ec ≠ .success := by
  cases outcome_step hinv hstep with
  | goesOn calls state => rwa [calls]
  -- a later call can only be a failure
  | failed v ec fails code =>
      have hcalls : t.calls = s.calls ++ [ec] := by
        rw [fails.after, ← fails.calls]
        rfl
      rw [hcalls]
      cases hs : s.calls with
      | nil => exact fun ec' hec' => absurd hec' List.not_mem_nil
      | cons first later =>
          rw [hs] at h
          exact List.forall_mem_append.mpr ⟨h, List.forall_mem_singleton.mpr code.ne_success⟩
  -- a success comes when nobody has called before
  | succeeded label calls state =>
      have hr : Receiving s := by
        rcases label with ⟨hpc, -⟩ | ⟨hpc, -⟩
        · exact hinv.receiving (by rw [hpc]; rfl)
        · exact hinv.receiving (by rw [hpc]; rfl)
      rw [calls, hr.calls]
      exact fun ec' hec' => absurd hec' List.not_mem_nil

/-- What is written is written before the first call. -/
theorem Session.frozen {what : RowException → String} {cs : Constructors} {m : OidMap}
    {s t : Session} {e : Event}
    (hinv : Inv s.state) (hcalls : s.state.calls ≠ []) (hstep : s.step what cs m e = some t) :
    t.out = s.out ∧ t.held = s.held ∧ t.state.calls.head? = s.state.calls.head? := by
  obtain ⟨l, u, hl, hu, rfl⟩ := Session.step_eq_some hstep
  have hhead : u.calls.head? = s.state.calls.head? := head?_calls_step hinv hu hcalls
  cases e with
  | getResult r =>
      cases hl
      have hr : Receiving s.state := by
        cases Step.of_step hu with
        | firstResult _ hpc | drained _ hpc => exact hinv.receiving (by rw [hpc]; rfl)
      exact absurd hr.calls hcalls
  | process =>
      obtain ⟨res, -, hr, -⟩ := Session.receiving_of_process hinv hstep
      exact absurd hr.calls hcalls
  | other l' => exact ⟨rfl, rfl, hhead⟩

/-- The output is touched by the processor only. -/
theorem Received.step {what : RowException → String} {cs : Constructors} {m : OidMap} {out : Output}
    {s t : Session} {e : Event} (h : Received cs m out s) (hinv : Inv s.state)
    (hstep : s.step what cs m e = some t) :
    Received cs m out t := by
  -- once the handler has been called, the output is left alone
  by_cases hcalls : s.state.calls = []
  · have heq : s.out = out := by
      cases h with
      | untouched eq calls => exact eq
      | written res held eq calls =>
          rw [hcalls] at calls
          cases calls
    cases e with
    | process =>
        obtain ⟨res, -, -, rfl⟩ := Session.receiving_of_process hinv hstep
        subst heq
        refine .written res rfl rfl ?_
        cases (s.out.recvResult cs m res).2 <;> simp [afterProcess, receiverDoneOk, invoke, hcalls,
          processCode]
    -- a success here means that there is no result
    | getResult r =>
        obtain ⟨l, u, ⟨⟩, hu, rfl⟩ := Session.step_eq_some hstep
        refine .untouched heq fun hsuccess => ?_
        rcases succeeds_of_first hinv hcalls hu hsuccess with ⟨hpc, hnone⟩ | ⟨-, ⟨⟩⟩
        show (if s.state.pc = .getResult .first then r.map Prod.snd else s.held) = none
        rw [if_pos hpc, Option.map_eq_none_iff]
        simpa using hnone
    -- no other label is a success
    | other l' =>
        obtain ⟨l, u, hl, hu, rfl⟩ := Session.step_eq_some hstep
        refine .untouched heq fun hsuccess => ?_
        rcases succeeds_of_first hinv hcalls hu hsuccess with ⟨-, rfl⟩ | ⟨-, rfl⟩ <;>
          cases l' <;> cases hl
  · obtain ⟨hout, hheld, hhead⟩ := Session.frozen hinv hcalls hstep
    cases h with
    | untouched eq calls =>
        refine .untouched (hout.trans eq) fun hsuccess => ?_
        rw [hheld]
        exact calls (hhead.symm.trans hsuccess)
    | written res held eq calls =>
        exact .written res (hheld.trans held) (hout.trans eq) (hhead.trans calls)

/-! ## What is passed on

With a deadline the user is called by the deadline. What they are told is the first call of the
operation, or the timer's code. -/

/-- What the deadline has delivered, or keeps, is the first call of the operation or comes from the
timer. -/
def Relays (s : State) : Prop :=
  ∀ d, s.deadline = some d →
    (∀ ec ∈ d.delivered, ec = .timedOut ∨ s.calls.head? = some ec) ∧
      (s.calls ≠ [] → d.timer ≠ .ran → s.calls.head? = some d.ec)

/-- The call of the operation is kept for the timer, unless that has come first. -/
theorem relays_call {d : Deadline} (h : d.Accounts 0) (ec : ErrorCode)
    (hdelivered : ∀ ec' ∈ d.delivered, ec' = .timedOut) :
    (∀ ec' ∈ (d.call ec).delivered, ec' = .timedOut) ∧
      ((d.call ec).timer ≠ .ran → (d.call ec).ec = ec) := by
  have hfirst := h.firstCall
  unfold Deadline.call
  split
  · exact ⟨hdelivered, fun _ => rfl⟩
  · next hsecond =>
      have hran : d.timer = .ran := by
        rw [← Timer.calls_eq_one_iff]
        omega
      refine ⟨List.forall_mem_append.mpr ⟨hdelivered, ?_⟩, fun hne => absurd hran hne⟩
      exact List.forall_mem_singleton.mpr (h.stored rfl hran)

/-- What the deadline relays is what it was called with. -/
theorem Advance.relays {s t : State} (h : Advance s t) (hledger : Ledger s) (hrelays : Relays s) :
    Relays t := by
  cases h with
  | runs u n run calls deadline spent =>
      intro d' hd'
      rcases run.turn with ⟨hsame, hdeadline, -⟩ | ⟨ec, hmore, hdeadline⟩
      · rw [hsame, calls]
        exact hrelays d' (by rw [← deadline, ← hdeadline, hd'])
      · rw [hdeadline, deadline, calls] at hd'
        rw [hmore, calls]
        split at hd'
        · next hnil =>
            obtain ⟨d, hd, rfl⟩ := Option.map_eq_some_iff.mp hd'
            have haccounts := hledger d hd
            rw [if_pos hnil] at haccounts
            obtain ⟨hdelivered, hkept⟩ := relays_call haccounts ec fun ec' hec' => by
              simpa [hnil] using (hrelays d hd).1 ec' hec'
            refine ⟨fun ec' hec' => .inl (hdelivered ec' hec'), fun _ hran => ?_⟩
            rw [hnil, hkept hran]
            rfl
        · next hne =>
            rw [List.head?_append_of_ne_nil _ hne]
            obtain ⟨hdelivered, hkept⟩ := hrelays d' hd'
            exact ⟨hdelivered, fun _ => hkept hne⟩
  | expired d hd htimer ht =>
      subst ht
      rintro d' ⟨⟩
      obtain ⟨hdelivered, hkept⟩ := hrelays d hd
      exact ⟨hdelivered, fun hcalls _ => hkept hcalls (by simp [htimer])⟩
  | timer d hd htimer hpc ht =>
      subst ht
      intro d' hd'
      rw [timerHandler_deadline] at hd'
      cases hd'
      rw [timerHandler_calls]
      obtain ⟨hdelivered, hkept⟩ := hrelays d hd
      have hfirst := (hledger d hd).firstCall
      rw [htimer] at hfirst
      unfold Deadline.expire
      split
      · exact ⟨hdelivered, fun _ hran => absurd rfl hran⟩
      · next hsecond =>
          -- the operation has called before
          have hcalls : s.calls ≠ [] := by
            intro hnil
            rw [if_pos hnil] at hfirst
            exact hsecond (by rw [hfirst]; decide)
          refine ⟨List.forall_mem_append.mpr ⟨hdelivered, ?_⟩, fun _ hran => absurd rfl hran⟩
          exact List.forall_mem_singleton.mpr (.inr (hkept hcalls (by simp [htimer])))

/-- What the user's handler is told first. -/
theorem told {ls : List Label} {s : State} (hlive : Live ls s) (hrelays : Relays s)
    {ec : ErrorCode} (hec : s.completions.head? = some ec) :
    s.calls ≠ [] ∧ (ec = .timedOut ∨ s.calls.head? = some ec) := by
  unfold State.completions at hec
  split at hec
  · refine ⟨?_, .inr hec⟩
    rintro hnil
    rw [hnil] at hec
    cases hec
  · next d hd =>
      have hmem : ec ∈ d.delivered := List.mem_of_mem_head? hec
      refine ⟨?_, (hrelays d hd).1 ec hmem⟩
      intro hnil
      have hlen := (hlive.ledger d hd).delivered
      rw [if_pos hnil] at hlen
      have hle := d.timer.calls_le_one
      have hpos := List.length_pos_of_mem hmem
      omega

/-! ## Whole sessions -/

section

variable {what : RowException → String} {cs : Constructors} {m : OidMap} {out : Output}

/-- What is known of a session. -/
structure Follows (cs : Constructors) (m : OidMap) (out : Output) (es : List Event) (s : Session) :
    Prop where
  live : ∃ ls, Live ls s.state
  keeps : Keeps es s
  received : Received cs m out s
  relays : Relays s.state
  later : ∀ ec ∈ s.state.calls.tail, ec ≠ .success

theorem follows_init (errorContext : String) (timed : Bool) :
    Follows cs m out [] (.init errorContext timed out) where
  live := ⟨[], live_init errorContext timed⟩
  keeps := ⟨rfl, rfl⟩
  received := .untouched rfl fun _ => rfl
  relays := by
    intro d hd
    cases timed with
    | false => cases hd
    | true =>
        cases hd
        exact ⟨fun ec hec => absurd hec List.not_mem_nil, fun hne => absurd rfl hne⟩
  later ec hec := absurd hec List.not_mem_nil

/-- The session keeps step with the request. -/
theorem Follows.step {es : List Event} {s t : Session} {e : Event} (h : Follows cs m out es s)
    (hstep : s.step what cs m e = some t) : Follows cs m out (es ++ [e]) t := by
  obtain ⟨ls, hlive⟩ := h.live
  have hkeeps := h.keeps.step hlive hstep
  have hreceived := h.received.step hlive.inv hstep
  obtain ⟨l, u, -, hu, rfl⟩ := Session.step_eq_some hstep
  refine ⟨⟨ls ++ [l], ?_⟩, hkeeps, hreceived, ?_, ?_⟩
  · rw [Session.next_state]
    exact hlive.step hu
  · rw [Session.next_state]
    exact (hlive.advance hu).relays hlive.ledger h.relays
  · rw [Session.next_state]
    exact later_calls_step hlive.inv h.later hu

theorem follows_run {errorContext : String} {timed : Bool} {es : List Event} {s : Session}
    (hrun : run (Session.step what cs m) (.init errorContext timed out) es = some s) :
    Follows cs m out es s :=
  run_history (fun _ _ _ _ h hstep => h.step hstep) (follows_init errorContext timed) hrun

/-- Behind the first call the output stays as it is. -/
theorem frozen_run {s u : Session} {es : List Event} (hlive : ∃ ls, Live ls s.state)
    (hcalls : s.state.calls ≠ []) (hrun : run (Session.step what cs m) s es = some u) :
    u.out = s.out := by
  have hkept : (∃ ls, Live ls u.state) ∧ u.state.calls ≠ [] ∧ u.out = s.out := by
    refine run_invariant
      (I := fun v => (∃ ls, Live ls v.state) ∧ v.state.calls ≠ [] ∧ v.out = s.out)
      (fun v e w hv hstep => ?_) ⟨hlive, hcalls, rfl⟩ hrun
    obtain ⟨⟨ls, hv⟩, hne, hout⟩ := hv
    obtain ⟨hsame, -, hhead⟩ := Session.frozen hv.inv hne hstep
    obtain ⟨l, x, -, hx, rfl⟩ := Session.step_eq_some hstep
    rw [Session.next_state] at hhead ⊢
    refine ⟨⟨ls ++ [l], hv.step hx⟩, fun hnil => ?_, hsame.trans hout⟩
    rw [hnil, List.head?_nil, eq_comm, List.head?_eq_none_iff] at hhead
    exact hne hhead
  exact hkept.2.2

/-- What the handler is told behind the first call: failures, and nothing at all if there is a
deadline. -/
theorem Follows.told_later {es : List Event} {s : Session} (h : Follows cs m out es s)
    {ec : ErrorCode} {more : List ErrorCode} (hec : s.state.completions = ec :: more) :
    ∀ ec' ∈ more, ec' ≠ .success ∧ s.state.deadline = none := by
  obtain ⟨ls, hlive⟩ := h.live
  unfold State.completions at hec
  split at hec
  · next hnone =>
      have hlater := h.later
      rw [hec] at hlater
      exact fun ec' hec' => ⟨hlater ec' hec', hnone⟩
  · next d hd =>
      have hlen := (hlive.ledger d hd).delivered
      have hle := d.timer.calls_le_one
      have hone : (if s.state.calls = [] then 0 else 1) ≤ 1 := by split <;> decide
      rw [hec, List.length_cons] at hlen
      rw [List.length_eq_zero_iff.mp (show more.length = 0 by omega)]
      exact fun ec' hec' => absurd hec' List.not_mem_nil

/-- A session for as long as the code says what happens. -/
structure Session.Reaches (what : RowException → String) (cs : Constructors) (m : OidMap)
    (errorContext : String) (timed : Bool) (out : Output) (es : List Event) (s : Session) :
    Prop where
  runs : run (Session.step what cs m) (.init errorContext timed out) es = some s
  defined : ¬ s.state.DereferencesNull

/-- In every run of a request with an output, once the handler of the user has been told: with a
success the output is what `recv_result` makes of the first result, without an exception, or
untouched if there was none; an output that is not untouched is what `recv_result` makes of the
first result, and the handler has been told how that ended or of the deadline. Nothing is written
any more, and what the handler is told behind that, in a request without a deadline, is an
error. -/
theorem output_reported (what : RowException → String) (cs : Constructors) (m : OidMap)
    (errorContext : String) (timed : Bool) (out : Output) (es : List Event) (s : Session)
    (hreach : Session.Reaches what cs m errorContext timed out es s) (ec : ErrorCode)
    (more : List ErrorCode) (hec : s.state.completions = ec :: more) :
    (ec = .success → (firstResult es = none ∧ s.out = out) ∨
        ∃ r res, firstResult es = some (r, res) ∧ out.recvResult cs m res = (s.out, none)) ∧
      (s.out = out ∨ ∃ r res e, firstResult es = some (r, res) ∧
        out.recvResult cs m res = (s.out, e) ∧ (ec = processCode e ∨ ec = .timedOut)) ∧
      (∀ ec' ∈ more, ec' ≠ .success ∧ s.state.deadline = none) ∧
      ∀ es' u, run (Session.step what cs m) s es' = some u → u.out = s.out := by
  have h := follows_run hreach.runs
  obtain ⟨ls, hlive⟩ := h.live
  have hhead : s.state.completions.head? = some ec := by rw [hec, List.head?_cons]
  obtain ⟨hcalls, htold⟩ := told hlive h.relays hhead
  have hheld := h.keeps.held
  -- a success the user hears of is a success of the operation
  have hsuccess : ec = .success → s.state.calls.head? = some .success := by
    rintro rfl
    rcases htold with htimed | hhead
    · cases htimed
    · exact hhead
  refine ⟨fun hok => ?_, ?_, h.told_later hec, fun es' u => frozen_run h.live hcalls⟩
  · cases h.received with
    | untouched eq calls =>
        rw [calls (hsuccess hok), eq_comm, Option.map_eq_none_iff] at hheld
        exact .inl ⟨hheld, eq⟩
    | written res held eq calls =>
        rw [held, eq_comm, Option.map_eq_some_iff] at hheld
        obtain ⟨⟨r, _⟩, hfirst, rfl⟩ := hheld
        refine .inr ⟨r, _, hfirst, Prod.ext eq.symm ?_⟩
        rw [hsuccess hok] at calls
        cases he : (out.recvResult cs m _).2 with
        | none => rfl
        -- an exception is not reported as a success
        | some e =>
            rw [he] at calls
            cases calls
  · cases h.received with
    | untouched eq calls => exact .inl eq
    | written res held eq calls =>
        rw [held, eq_comm, Option.map_eq_some_iff] at hheld
        obtain ⟨⟨r, _⟩, hfirst, rfl⟩ := hheld
        refine .inr ⟨r, _, _, hfirst, Prod.ext eq.symm rfl, ?_⟩
        rcases htold with htimed | hhead
        · exact .inr htimed
        · exact .inl (Option.some.inj (hhead.symm.trans calls))

/-- A request that waits for a result and processes it. -/
def processedRun (res : ResultSet) : List Event :=
  [.other (.setNonblocking true), .other (.sendQueryParams true), .other (.flush .sendFinish),
    .other (.isBusy true), .other (.readReady .success), .other .deliverRead,
    .other (.consumeInput true), .other (.isBusy false), .getResult (some (⟨.tuplesOk, none⟩, res)),
    .other (.isBusy false), .getResult none, .process]

/-- A row and a NULL, for which there is no `std::int32_t`: the row stays in the container, the
handler is told of the exception, and that is all. -/
theorem output_reported_null :
    ∃ s, Session.Reaches (fun _ => "unexpected null") .zero ⟨[]⟩ "" false int4Output
        (processedRun (int4Result [some [0, 0, 0, 7], none])) s ∧
      s.state.completions = [.ofError .badResultProcess] ∧
      s.out = .insertIterator (.column .plain (.element (.scalar .int4))) 0 (· ++ [·]) [7] ∧
      ∀ es' u, run (Session.step (fun _ => "unexpected null") .zero ⟨[]⟩) s es' = some u →
        u.out = s.out := by
  have hreach : Session.Reaches (fun _ => "unexpected null") .zero ⟨[]⟩ "" false int4Output
      (processedRun (int4Result [some [0, 0, 0, 7], none])) _ :=
    ⟨rfl, fun hnull => hnull.1 rfl⟩
  exact ⟨_, hreach, rfl, rfl, (output_reported (fun _ => "unexpected null") .zero ⟨[]⟩ "" false
    int4Output (processedRun (int4Result [some [0, 0, 0, 7], none])) _ hreach _ [] rfl).2.2.2⟩

end

end OzoPg.Request
