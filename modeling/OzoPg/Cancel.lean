import OzoPg.Lib.Transition
import OzoPg.Request.Model

/-!
# Cancelling

`include/ozo/impl/cancel.h`: a request is cancelled by `PQcancel` on an executor of its own, and
with a time constraint `deadline_cancel_handler` waits for its answer no longer than a timer. The
answer and the timer are two calls that come in any order.

* `dispatchCancel_message` — the message of a failure is what libpq has written, whole;
* `cancel_called_once` — the first of the two calls is the one that is reported, and once neither
  can come any more there has been one.
-/

namespace OzoPg.Cancel

open Request (Timer)

/-! ## The message -/

/-- `std::string::find_last_not_of`. -/
def findLastNotOf (c : Char) : List Char → Option Nat
  | [] => none
  | x :: xs =>
    match findLastNotOf c xs with
    | some pos => some (pos + 1)
    | none => if x != c then some 0 else none

/-- What `dispatch_cancel` makes of the buffer. -/
def trim (msg : List Char) : List Char :=
  match findLastNotOf '\x00' msg with
  | none => []
  | some pos => if pos < msg.length then msg.take (pos + 1) else msg

/-- The buffer for the message. -/
abbrev Buffer := { msg : List Char // msg.length = 255 }

/-- The buffer as it is made. -/
def Buffer.empty : Buffer := ⟨List.replicate 255 '\x00', List.length_replicate⟩

/-- `dispatch_cancel`, for the answer of `PQcancel` and what it leaves in the buffer. -/
def dispatchCancel (ok : Bool) (buffer : Buffer) : ErrorCode × List Char :=
  if ok then (.success, []) else (.ofError .pqCancelFailed, trim buffer.1)

theorem findLastNotOf_eq_none_iff (c : Char) (s : List Char) :
    findLastNotOf c s = none ↔ ∀ x ∈ s, x = c := by
  induction s with
  | nil => simp [findLastNotOf]
  | cons x xs ih =>
      rw [findLastNotOf, List.forall_mem_cons]
      cases hpos : findLastNotOf c xs with
      | some pos => simp [← ih, hpos]
      | none =>
          have hall := ih.mp hpos
          by_cases hx : x = c
          · exact iff_of_true (by simp [hx]) ⟨hx, hall⟩
          · exact iff_of_false (by simp [hx]) fun h => hx h.1

/-- It is the end of the string without the characters `c` at its end. -/
theorem findLastNotOf_append {c : Char} {s : List Char} {x : Char} (hx : x ≠ c) (n : Nat) :
    findLastNotOf c (s ++ x :: List.replicate n c) = some s.length := by
  induction s with
  | nil =>
      have hnone : findLastNotOf c (List.replicate n c) = none :=
        (findLastNotOf_eq_none_iff c _).mpr fun y hy => List.eq_of_mem_replicate hy
      rw [List.nil_append, findLastNotOf, hnone]
      simp [hx]
  | cons y s ih =>
      rw [List.cons_append, findLastNotOf, ih]
      rfl

/-- The rest of a buffer that was filled with zeros is cut off again. -/
theorem trim_append_replicate {msg : List Char} (hmsg : '\x00' ∉ msg) (n : Nat) :
    trim (msg ++ List.replicate n '\x00') = msg := by
  rcases List.eq_nil_or_concat msg with rfl | ⟨s, x, rfl⟩
  · have hnone : findLastNotOf '\x00' (List.replicate n '\x00') = none :=
      (findLastNotOf_eq_none_iff _ _).mpr fun y hy => List.eq_of_mem_replicate hy
    rw [trim, List.nil_append, hnone]
  · have hx : x ≠ '\x00' := by
      rintro rfl
      exact hmsg (by simp)
    have hpos := findLastNotOf_append (s := s) hx n
    rw [List.append_cons] at hpos
    rw [trim, List.concat_eq_append, hpos]
    show (if s.length < (s ++ [x] ++ List.replicate n '\x00').length then
      (s ++ [x] ++ List.replicate n '\x00').take (s.length + 1) else _) = s ++ [x]
    rw [if_pos (by simp)]
    exact List.take_left' (by simp)

/-- A message that libpq has terminated is reported as it is. -/
theorem dispatchCancel_message {msg : List Char} (hmsg : '\x00' ∉ msg)
    (hlen : msg.length ≤ 254) :
    dispatchCancel false ⟨msg ++ List.replicate (255 - msg.length) '\x00', by simp; omega⟩
      = (.ofError .pqCancelFailed, msg) := by
  rw [dispatchCancel, if_neg Bool.false_ne_true, trim_append_replicate hmsg]

/-! ## The operation -/

/-- The message of a time-out. -/
def timeoutMessage : List Char := "cancel() operation waiting aborted by time-out".toList

/-- What is reported: a code and a message. -/
abbrev Report := ErrorCode × List Char

/-- Where `cancel_op` is: posted, on its way back with the answer of `PQcancel`, or gone, after
its handler has been called or without. -/
inductive Op where
  | posted
  | answered (r : Report)
  | called
  | destroyed
  deriving DecidableEq, Repr

/-- `deadline_cancel_handler` with its `state_`. -/
structure Deadline where
  state : Int
  timer : Timer
  deriving DecidableEq, Repr

/-- An operation, with or without a time constraint. `calls` are the calls that have come so far,
of the handler and of the timer, and `delivered` those of the continuation. -/
structure State where
  op : Op
  deadline : Option Deadline
  calls : List Report
  delivered : List Report
  deriving DecidableEq, Repr

/-- `initiate_async_cancel`. -/
def init (timed : Bool) : State :=
  { op := .posted
    deadline := if timed then some ⟨2, .pending⟩ else none
    calls := []
    delivered := [] }

namespace State

/-- The call of the handler the operation was given. -/
def handler (s : State) (r : Report) : State :=
  let s := { s with op := .called, calls := s.calls ++ [r] }
  match s.deadline with
  | none => { s with delivered := s.delivered ++ [r] }
  | some d =>
    if d.state - 1 ≠ 0 then
      { s with
        deadline := some ⟨d.state - 1, d.timer.cancel⟩
        delivered := s.delivered ++ [r] }
    else
      { s with deadline := some { d with state := d.state - 1 } }

/-- `on_timer_expired::operator()`, which does not look at its error code. -/
def onTimerExpired (s : State) (d : Deadline) : State :=
  let r : Report := (.timedOut, timeoutMessage)
  let s := { s with calls := s.calls ++ [r], deadline := some ⟨d.state - 1, .ran⟩ }
  if d.state - 1 ≠ 0 then { s with delivered := s.delivered ++ [r] } else s

/-- The operation is destroyed, and with it the timer. -/
def destroy (s : State) : State :=
  { s with
    op := .destroyed
    deadline := s.deadline.map fun d => { d with timer := d.timer.cancel } }

end State

/-- What happens next. An executor that stops destroys what has not run. -/
inductive Label where
  | cancel (ok : Bool) (buffer : Buffer)
  | deliver
  | destroy
  | timerExpired
  | deliverTimer

/-- The step of a label, if the state enables it. -/
def step (s : State) : Label → Option State
  | .cancel ok buffer =>
    if s.op = .posted then some { s with op := .answered (dispatchCancel ok buffer) } else none
  | .deliver =>
    match s.op with
    | .answered r => some (s.handler r)
    | _ => none
  | .destroy =>
    match s.op with
    | .posted | .answered _ => some s.destroy
    | _ => none
  | .timerExpired =>
    match s.deadline with
    | some d =>
      if d.timer = .pending then some { s with deadline := some { d with timer := .queued } }
      else none
    | none => none
  | .deliverTimer =>
    match s.deadline with
    | some d => if d.timer = .queued then some (s.onTimerExpired d) else none
    | none => none

/-! ## The two calls

With a time constraint two parties call the handler of the deadline. `state_` tells the first call
from the second. -/

/-- How often the operation has called its handler. -/
def Op.calls : Op → Nat
  | .called => 1
  | _ => 0

/-- What is reported are the calls that came first, and `state_` counts those to come. -/
structure Inv (s : State) : Prop where
  calls : s.calls.length = s.op.calls + s.deadline.elim 0 (·.timer.calls)
  delivered : s.delivered = s.calls.take 1
  state : ∀ d, s.deadline = some d → d.state = 2 - s.calls.length

theorem inv_init (timed : Bool) : Inv (init timed) := by
  cases timed with
  | false => exact ⟨rfl, rfl, nofun⟩
  | true =>
      refine ⟨rfl, rfl, ?_⟩
      rintro d ⟨⟩
      rfl

theorem Op.calls_le_one (op : Op) : op.calls ≤ 1 := by
  cases op with
  | called => exact Nat.le_refl 1
  | posted | answered | destroyed => exact Nat.zero_le 1

section

variable {calls delivered : List Report} {state : Int}

/-- The first of two calls is reported. -/
theorem delivered_first (r : Report) (hdelivered : delivered = calls.take 1)
    (hstate : state = 2 - calls.length) (hlen : calls.length ≤ 1) (hfirst : state - 1 ≠ 0) :
    delivered ++ [r] = (calls ++ [r]).take 1 := by
  have hnil : calls = [] := by
    rw [← List.length_eq_zero_iff]
    omega
  rw [hdelivered, hnil]
  rfl

/-- The second one changes nothing. -/
theorem delivered_second (r : Report) (hdelivered : delivered = calls.take 1)
    (hstate : state = 2 - calls.length) (hsecond : ¬ state - 1 ≠ 0) :
    delivered = (calls ++ [r]).take 1 := by
  rw [List.take_append_of_le_length (by omega)]
  exact hdelivered

end

/-- The operation calls its handler. -/
theorem Inv.handler {s : State} (h : Inv s) {r : Report} (hop : s.op = .answered r) :
    Inv (s.handler r) := by
  have hcalls := h.calls
  rw [hop] at hcalls
  unfold State.handler
  cases hd : s.deadline with
  | none =>
      rw [hd] at hcalls
      have hnil : s.calls = [] := List.length_eq_zero_iff.mp hcalls
      refine ⟨?_, ?_, nofun⟩
      · simp [hnil, Op.calls]
      · simp [hnil, h.delivered]
  | some d =>
      have hstate := h.state d hd
      -- the operation has not called before, so the calls are those of the timer
      have hlen : s.calls.length = d.timer.calls := by simpa [hd, Op.calls] using hcalls
      have hle := d.timer.calls_le_one
      have hnext : d.state - 1 = 2 - ((s.calls ++ [r]).length : Int) := by simp; omega
      simp only
      split
      · next hfirst =>
          refine ⟨?_, delivered_first r h.delivered hstate (by omega) hfirst, ?_⟩
          · simp [Op.calls, hlen, Nat.add_comm]
          · rintro d' ⟨⟩
            exact hnext
      · next hsecond =>
          refine ⟨?_, delivered_second r h.delivered hstate hsecond, ?_⟩
          · simp [Op.calls, hlen, Nat.add_comm]
          · rintro d' ⟨⟩
            exact hnext

/-- The timer calls the handler. -/
theorem Inv.onTimerExpired {s : State} (h : Inv s) {d : Deadline} (hd : s.deadline = some d)
    (htimer : d.timer = .queued) : Inv (s.onTimerExpired d) := by
  have hcalls := h.calls
  have hstate := h.state d hd
  -- and here they are those of the operation
  have hlen : s.calls.length = s.op.calls := by simpa [hd, htimer, Timer.calls] using hcalls
  have hle := s.op.calls_le_one
  unfold State.onTimerExpired
  simp only
  split
  · next hfirst =>
      refine ⟨?_, delivered_first _ h.delivered hstate (by omega) hfirst, ?_⟩
      · simp [Timer.calls, hlen]
      · rintro d' ⟨⟩
        simp
        omega
  · next hsecond =>
      refine ⟨?_, delivered_second _ h.delivered hstate hsecond, ?_⟩
      · simp [Timer.calls, hlen]
      · rintro d' ⟨⟩
        simp
        omega

/-- One step keeps the count; only the two calls change it. -/
theorem Inv.step {s t : State} {l : Label} (h : Inv s) (hstep : step s l = some t) : Inv t := by
  cases l with
  | cancel ok buffer =>
      obtain ⟨hop, ⟨⟩⟩ := Option.ite_none_right_eq_some.mp hstep
      have hcalls := h.calls
      rw [hop] at hcalls
      exact ⟨hcalls, h.delivered, h.state⟩
  | deliver =>
      simp only [Cancel.step] at hstep
      split at hstep
      · next r hop =>
          cases hstep
          exact h.handler hop
      · cases hstep
  | destroy =>
      -- only an operation that has not called its handler is destroyed
      have hdestroyed (hop : s.op.calls = 0) : Inv s.destroy := by
        have hcalls := h.calls
        rw [hop] at hcalls
        refine ⟨?_, h.delivered, ?_⟩
        · cases hd : s.deadline with
          | none => simpa [hd, State.destroy, Op.calls] using hcalls
          | some d => simpa [hd, State.destroy, Op.calls] using hcalls
        · intro d hd
          obtain ⟨d', hd', rfl⟩ := Option.map_eq_some_iff.mp hd
          exact h.state d' hd'
      simp only [Cancel.step] at hstep
      split at hstep
      · next hop =>
          cases hstep
          exact hdestroyed (by rw [hop]; rfl)
      · next r hop =>
          cases hstep
          exact hdestroyed (by rw [hop]; rfl)
      · cases hstep
  | timerExpired =>
      simp only [Cancel.step] at hstep
      split at hstep
      · next d hd =>
          obtain ⟨htimer, ⟨⟩⟩ := Option.ite_none_right_eq_some.mp hstep
          refine ⟨?_, h.delivered, ?_⟩
          · simpa [hd, htimer, Timer.calls] using h.calls
          · rintro d' ⟨⟩
            exact h.state d hd
      · cases hstep
  | deliverTimer =>
      simp only [Cancel.step] at hstep
      split at hstep
      · next d hd =>
          obtain ⟨htimer, ⟨⟩⟩ := Option.ite_none_right_eq_some.mp hstep
          exact h.onTimerExpired hd htimer
      · cases hstep

/-- The first call is reported and no other. When nothing is left to happen one has been, unless
there is no deadline and the operation has been destroyed. -/
theorem cancel_called_once (timed : Bool) (ls : List Label) (s : State)
    (hrun : Transition.run step (init timed) ls = some s) :
    s.delivered = s.calls.take 1 ∧
      ((∀ l, step s l = none) →
        s.delivered.length = 1 ∨ s.deadline = none ∧ s.op = .destroyed) := by
  have hinv : Inv s :=
    Transition.run_invariant (fun _ _ _ h hstep => h.step hstep) (inv_init timed) hrun
  refine ⟨hinv.delivered, fun hstuck => ?_⟩
  have hcalls := hinv.calls
  have hlen : s.delivered.length = min 1 s.calls.length := by
    rw [hinv.delivered, List.length_take]
  cases hd : s.deadline with
  | some d =>
      -- a timer that has not run could run
      have hran : d.timer = .ran := by
        have hexpired := hstuck .timerExpired
        have hdeliver := hstuck .deliverTimer
        simp only [step, hd] at hexpired hdeliver
        cases htimer : d.timer with
        | ran => rfl
        | pending => simp [htimer] at hexpired
        | queued => simp [htimer] at hdeliver
      left
      simp only [hd, Option.elim_some, hran, Timer.calls] at hcalls
      omega
  | none =>
      have hcancel := hstuck (.cancel true .empty)
      have hdeliver := hstuck .deliver
      simp only [step] at hcancel hdeliver
      cases hop : s.op with
      | posted => simp [hop] at hcancel
      | answered r => simp [hop] at hdeliver
      | destroyed => exact Or.inr ⟨rfl, rfl⟩
      | called =>
          left
          simp only [hd, hop, Option.elim_none, Op.calls] at hcalls
          omega

/-- The timer comes first and the answer of `PQcancel` after it; then nothing is left to happen. -/
theorem cancel_called_once_timeout :
    ∃ s, Transition.run step (init true) [.timerExpired, .deliverTimer,
        .cancel true .empty, .deliver] = some s ∧
      s.delivered = s.calls.take 1 ∧ (∀ l, step s l = none) ∧
        (s.delivered.length = 1 ∨ s.deadline = none ∧ s.op = .destroyed) := by
  have hrun : Transition.run step (init true) [.timerExpired, .deliverTimer,
      .cancel true .empty, .deliver] = some _ := rfl
  obtain ⟨hfirst, hreported⟩ := cancel_called_once _ _ _ hrun
  refine ⟨_, hrun, hfirst, ?stuck, hreported ?stuck⟩
  intro l
  cases l <;> rfl

end OzoPg.Cancel
