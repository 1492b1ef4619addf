import OzoPg.Request.Model

/-!
# The two calls of a deadline

`io_deadline_handler` is called by the operation it guards and by its timer, once each and in
either order. The first call is kept for the second one, which passes it on. An operation is told
from another one only by when it makes its own call, so what follows from the two calls is stated
for a context and the number of calls the operation has made.
-/

namespace OzoPg.Request.Deadline

/-- The context when the operation has made `n` calls. -/
structure Accounts (d : Deadline) (n : Nat) : Prop where
  firstCall : d.firstCall = 2 - ((n + d.timer.calls : Nat) : Int)
  delivered : d.delivered.length = n + d.timer.calls - 1
  /-- The call of the operation cancels the timer. -/
  cancelled : n = 1 → d.timer ≠ .pending
  /-- A timer that has come first has left its code. -/
  stored : n = 0 → d.timer = .ran → d.ec = .timedOut

theorem accounts_start : start.Accounts 0 where
  firstCall := rfl
  delivered := rfl
  cancelled h := by cases h
  stored _ h := by cases h

namespace Accounts

variable {d : Deadline} {n : Nat}

/-- The operation calls. -/
theorem call (h : d.Accounts 0) (ec : ErrorCode) : (d.call ec).Accounts 1 := by
  have hfirst := h.firstCall
  have hlen := h.delivered
  have hle := d.timer.calls_le_one
  unfold Deadline.call
  split
  · next hne =>
      refine ⟨?_, ?_, fun _ => ?_, fun hzero => absurd hzero Nat.one_ne_zero⟩
      · simp only [Timer.calls_cancel]
        omega
      · simp only [Timer.calls_cancel]
        omega
      · cases d.timer <;> simp [Timer.cancel]
  · next heq =>
      refine ⟨?_, ?_, fun _ hpending => ?_, fun hzero => absurd hzero Nat.one_ne_zero⟩
      · show d.firstCall - 1 = 2 - ((1 + d.timer.calls : Nat) : Int)
        omega
      · simp only [List.length_append, List.length_singleton]
        omega
      -- the timer has called before
      · have hcalls : d.timer.calls = 0 := by
          rw [show d.timer = .pending from hpending]
          rfl
        omega

/-- The reactor finds the timer expired. -/
theorem expired (h : d.Accounts n) (htimer : d.timer = .pending) :
    Accounts { d with timer := .queued } n where
  firstCall := by
    have hfirst := h.firstCall
    rwa [htimer] at hfirst
  delivered := by
    have hlen := h.delivered
    rwa [htimer] at hlen
  cancelled _ hpending := by cases hpending
  stored _ hran := by cases hran

/-- The timer calls. -/
theorem expire (h : d.Accounts n) (hn : n ≤ 1) (htimer : d.timer = .queued) :
    d.expire.Accounts n := by
  have hfirst := h.firstCall
  have hlen := h.delivered
  rw [htimer] at hfirst hlen
  simp only [Timer.calls, Nat.add_zero] at hfirst hlen
  unfold Deadline.expire
  split
  · next hne =>
      refine ⟨?_, ?_, fun _ => by simp, fun _ _ => rfl⟩
      · show d.firstCall - 1 = 2 - ((n + 1 : Nat) : Int)
        omega
      · show d.delivered.length = n + 1 - 1
        omega
  · next heq =>
      refine ⟨?_, ?_, fun _ => by simp, fun hzero _ => ?_⟩
      · show d.firstCall - 1 = 2 - ((n + 1 : Nat) : Int)
        omega
      · show (d.delivered ++ [d.ec]).length = n + 1 - 1
        rw [List.length_append, List.length_singleton]
        omega
      -- it is the second call
      · omega

end Accounts

/-! ## A timer that comes first -/

/-- What is passed on, and what will be, is the code of the timer. -/
structure TimedOut (d : Deadline) : Prop where
  ran : d.timer = .ran
  ec : d.ec = .timedOut
  delivered : ∀ ec ∈ d.delivered, ec = .timedOut

namespace Accounts

variable {d : Deadline}

/-- A timer that runs before any call decides the code. -/
theorem timedOut (h : d.Accounts 0) (hran : d.timer = .ran) : d.TimedOut where
  ran := hran
  ec := h.stored rfl hran
  delivered := by
    have hlen := h.delivered
    rw [hran] at hlen
    rw [List.length_eq_zero_iff.mp hlen]
    exact fun ec hec => absurd hec List.not_mem_nil

/-- The call of the operation is the second one then. -/
theorem timedOut_call (h : d.Accounts 0) (htimed : d.TimedOut) (ec : ErrorCode) :
    (d.call ec).TimedOut := by
  have hfirst := h.firstCall
  rw [htimed.ran] at hfirst
  have hsecond : ¬ d.firstCall - 1 ≠ 0 := by
    rw [hfirst]
    decide
  unfold Deadline.call
  rw [if_neg hsecond]
  refine ⟨htimed.ran, htimed.ec, ?_⟩
  exact List.forall_mem_append.mpr ⟨htimed.delivered, List.forall_mem_singleton.mpr htimed.ec⟩

end Accounts

end OzoPg.Request.Deadline
