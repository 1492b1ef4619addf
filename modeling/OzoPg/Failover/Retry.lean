import OzoPg.Errc
import OzoPg.Failover.Strategy

/-!
# The retry strategy

`include/ozo/failover/retry.h`. The number of tries is an `int` that counts down and is kept from
falling below zero, but the decrement comes before the comparison: from the least `int` it
overflows, and the counter that should say that there is no try left says that there are two
billion.

* `RetriesCorrectly` — how a run of the strategy should look.
* `Overflows` — the runs of the overflow.
* `retriesCorrectly_iff` — every other run is as it should be.
-/

namespace OzoPg.Failover.Retry

variable {κ : Type}

/-- The values of `retry_options`, which are all a `basic_try` needs to know. -/
structure Options where
  tries : Int32
  conditions : List Condition
  closeConnection : Bool

namespace Options

/-- `basic_try::adjust_tries_remain`, on a machine where `int` wraps around. -/
def adjustTriesRemain (o : Options) : Options := { o with tries := max 0 (o.tries - 1) }

/-- `basic_try::can_retry`. -/
def canRetry (o : Options) (ec : ErrorCode) : Bool :=
  if o.tries < 1 then false
  else if o.conditions.isEmpty then true
  else matchCode o.conditions ec

/-- `basic_try::get_next_try`. The guard closes the connection when the function returns, which is
before the next try is initiated. -/
def getNextTry (o : Options) (out : Outcome κ) : NextTry Options κ :=
  let o := o.adjustTriesRemain
  if o.canRetry out.ec then
    ⟨.onRetry out :: deferCloseConnection o.closeConnection out.conn, some o, []⟩
  else
    ⟨deferCloseConnection o.closeConnection out.conn, none, []⟩

/-! ## The counter -/

theorem toInt_max_zero (a : Int32) : (max 0 a).toInt = max 0 a.toInt := by
  show (if 0 ≤ a then a else 0).toInt = max 0 a.toInt
  split
  · next h =>
      rw [Int32.le_iff_toInt_le, Int32.toInt_zero] at h
      omega
  · next h =>
      rw [Int32.le_iff_toInt_le, Int32.toInt_zero] at h
      rw [Int32.toInt_zero]
      omega

/-- Without an overflow the tries count down to zero and stay there. -/
theorem toInt_adjustTriesRemain {o : Options} (h : o.tries ≠ Int32.minValue) :
    o.adjustTriesRemain.tries.toInt = max 0 (o.tries.toInt - 1) := by
  have hle := Int32.le_toInt o.tries
  have hlt := Int32.toInt_lt o.tries
  have hne : o.tries.toInt ≠ -2 ^ 31 := fun heq => h (Int32.toInt_inj.mp heq)
  have hsub : (o.tries - 1).toInt = o.tries.toInt - 1 := by
    rw [Int32.toInt_sub]
    exact Int.bmod_eq_of_le (by simp; omega) (by simp; omega)
  rw [adjustTriesRemain, toInt_max_zero, hsub]

/-- The least `int` becomes the greatest. -/
theorem tries_adjustTriesRemain_minValue {o : Options} (h : o.tries = Int32.minValue) :
    o.adjustTriesRemain.tries = Int32.maxValue := by
  have hmax : max 0 (Int32.minValue - 1) = Int32.maxValue := by decide
  rw [adjustTriesRemain, h, hmax]

end Options

/-! ## How a run should look

The documentation says when another attempt is made. It is stated here over the outcomes alone,
without the counter. -/

/-- The attempt has failed with an error to retry on. -/
def Retryable (o : Options) (out : Outcome κ) : Prop :=
  out.ec.failed = true ∧ (o.conditions = [] ∨ matchCode o.conditions out.ec = true)

/-- The attempt of this number, from one, is the last one: it succeeds, its error matches none of
the conditions there are, or there is no try left. -/
def Stops (o : Options) (k : Nat) (out : Outcome κ) : Prop :=
  out.ec.failed = false ∨ (o.conditions ≠ [] ∧ matchCode o.conditions out.ec = false) ∨
    (k : Int) = max 1 o.tries.toInt

/-- A state of a run of the strategy as its documentation has it. -/
structure RetriesCorrectly (o : Options) (s : State Options κ) : Prop where
  /-- No attempt before the last one that has completed was a last one. -/
  unstopped : ∀ i out, i + 1 < s.outcomes.length → s.outcomes[i]? = some out →
    ¬ Stops o (i + 1) out
  /-- Another one is under way until one is. -/
  stopped : s.pending = none ↔
    ∃ out, s.outcomes.getLast? = some out ∧ Stops o s.outcomes.length out
  /-- They are made one after another. -/
  attempts : s.attempts.length = s.outcomes.length + s.pending.toList.length
  handled : s.handled = if s.pending.isSome then [] else s.outcomes.getLast?.toList
  retried : retried s.effects = if s.pending.isSome then s.outcomes else s.outcomes.dropLast
  closed : closed s.effects = s.outcomes.flatMap (Outcome.toClose o.closeConnection)

/-- The counter overflows after the first attempt, and another attempt is made. -/
def Overflows (o : Options) (outs : List (Outcome κ)) : Prop :=
  o.tries = Int32.minValue ∧ ∃ out, outs.head? = some out ∧ Retryable o out

/-- The strategy goes on after an error to retry on, unless the tries are used up. -/
theorem not_stops_iff {o : Options} {k : Nat} {out : Outcome κ} :
    ¬ Stops o k out ↔ Retryable o out ∧ (k : Int) ≠ max 1 o.tries.toInt := by
  unfold Stops Retryable
  by_cases hc : o.conditions = []
  · simp [hc]
  · simp [hc, and_assoc]

/-- No conditions at all mean any error. -/
theorem Options.canRetry_iff {o : Options} {ec : ErrorCode} :
    o.canRetry ec = true ↔
      1 ≤ o.tries.toInt ∧ (o.conditions = [] ∨ matchCode o.conditions ec = true) := by
  have hlt : o.tries < 1 ↔ o.tries.toInt < 1 := Int32.lt_iff_toInt_lt
  unfold canRetry
  split
  · next h =>
      have hnot : ¬ 1 ≤ o.tries.toInt := by
        rw [hlt] at h
        omega
      simp [hnot]
  · next h =>
      have hle : 1 ≤ o.tries.toInt := by
        rw [hlt] at h
        omega
      by_cases hc : o.conditions = []
      · simp [hc, hle]
      · simp [hc, hle]

/-! ## What every run does -/

/-- What holds in every run, the overflow or not: the options are passed on, every failed attempt
is followed by the callback and the guard, and no call has anything left to do. -/
structure Logged (o : Options) (s : State Options κ) : Prop where
  options : ∀ t, s.pending = some t →
    t.conditions = o.conditions ∧ t.closeConnection = o.closeConnection
  deferred : s.deferred = []
  retried : retried s.effects = if s.pending.isSome then s.outcomes else s.outcomes.dropLast
  closed : closed s.effects = s.outcomes.flatMap (Outcome.toClose o.closeConnection)
  first : s.outcomes = [] → s.pending = some o
  overflow : Overflows o s.outcomes → s.outcomes.length = 1 → s.pending.isSome = true

theorem logged_init (o : Options) : Logged o (init o : State Options κ) where
  options := by
    rintro t ⟨⟩
    exact ⟨rfl, rfl⟩
  deferred := rfl
  retried := rfl
  closed := rfl
  first _ := rfl
  overflow := nofun

/-- What `get_next_try` does when it returns a try. -/
theorem Options.getNextTry_of_canRetry {o : Options} {out : Outcome κ}
    (h : o.adjustTriesRemain.canRetry out.ec = true) :
    o.getNextTry out = ⟨.onRetry out :: deferCloseConnection o.closeConnection out.conn,
      some o.adjustTriesRemain, []⟩ :=
  if_pos h

/-- What `get_next_try` does when it returns none. -/
theorem Options.getNextTry_of_not_canRetry {o : Options} {out : Outcome κ}
    (h : ¬ o.adjustTriesRemain.canRetry out.ec = true) :
    o.getNextTry out = ⟨deferCloseConnection o.closeConnection out.conn, none, []⟩ :=
  if_neg h

/-- There is a next try only if the remaining options allow it. -/
theorem Options.canRetry_of_next {o o' : Options} {out : Outcome κ}
    (h : (o.getNextTry out).next = some o') :
    o.adjustTriesRemain.canRetry out.ec = true ∧ o' = o.adjustTriesRemain := by
  by_cases hc : o.adjustTriesRemain.canRetry out.ec = true
  · rw [getNextTry_of_canRetry hc] at h
    exact ⟨hc, (Option.some.inj h).symm⟩
  · rw [getNextTry_of_not_canRetry hc] at h
    cases h

/-- No next try means that they do not. -/
theorem Options.not_canRetry_of_next {o : Options} {out : Outcome κ}
    (h : (o.getNextTry out).next = none) : ¬ o.adjustTriesRemain.canRetry out.ec = true := by
  intro hc
  rw [getNextTry_of_canRetry hc] at h
  cases h

/-- The smallest number of tries wraps around to the largest. -/
theorem Options.canRetry_of_minValue {o : Options} {out : Outcome κ} (h : o.tries = Int32.minValue)
    (hretry : Retryable o out) : o.adjustTriesRemain.canRetry out.ec = true := by
  rw [canRetry_iff, tries_adjustTriesRemain_minValue h]
  exact ⟨by decide, hretry.2⟩

/-- A completed attempt is logged with the effects of its strategy. -/
theorem Logged.step {o : Options} {s t : State Options κ} {l : Label κ} (h : Logged o s)
    (hstep : step Options.getNextTry s l = some t) : Logged o t := by
  cases Step.of_step hstep with
  | succeeded a out hpending hec =>
      have hretried := h.retried
      simp only [hpending, Option.isSome_some, if_true] at hretried
      refine ⟨nofun, h.deferred, by simp [hretried], ?_, by simp, ?_⟩
      · simp [h.closed, Outcome.toClose_of_success hec]
      · -- an attempt that overflows has failed
        rintro ⟨-, out', hhead, hretry, -⟩ hlen
        obtain hnil : s.outcomes = [] := by simpa using hlen
        simp only [hnil, List.nil_append, List.head?_cons, Option.some.injEq] at hhead
        rw [hhead, hretry] at hec
        cases hec
  | goesOn a a' out hpending hec hnext =>
      have hretried := h.retried
      simp only [hpending, Option.isSome_some, if_true] at hretried
      obtain ⟨hcan, rfl⟩ := Options.canRetry_of_next hnext
      obtain ⟨hcond, hclose⟩ := h.options a hpending
      simp only [Options.getNextTry_of_canRetry hcan]
      refine ⟨?_, by simp [h.deferred], ?_, ?_, by simp, fun _ _ => rfl⟩
      · rintro b ⟨⟩
        exact ⟨hcond, hclose⟩
      · simp [hretried]
      · simp [h.closed, closed_deferCloseConnection hec, hclose]
  | givesUp a out hpending hec hnext =>
      have hretried := h.retried
      simp only [hpending, Option.isSome_some, if_true] at hretried
      have hcan := Options.not_canRetry_of_next hnext
      simp only [Options.getNextTry_of_not_canRetry hcan]
      obtain ⟨hcond, hclose⟩ := h.options a hpending
      refine ⟨nofun, h.deferred, by simp [hretried], ?_, by simp, ?_⟩
      · simp [h.closed, closed_deferCloseConnection hec, hclose]
      · -- the counter that has overflowed leaves tries
        rintro ⟨hmin, out', hhead, hretry⟩ hlen
        obtain hnil : s.outcomes = [] := by simpa using hlen
        simp only [hnil, List.nil_append, List.head?_cons, Option.some.injEq] at hhead
        obtain rfl : o = a := Option.some.inj ((h.first hnil).symm.trans hpending)
        exact absurd (Options.canRetry_of_minValue hmin (hhead ▸ hretry)) hcan
  | left i e hi => simp [h.deferred] at hi

/-- What holds of every run, the overflow included. -/
theorem logged_run {o : Options} {s : State Options κ} {ls : List (Label κ)}
    (hrun : Transition.run (Failover.step Options.getNextTry) (init o) ls = some s) : Logged o s :=
  Transition.run_invariant (fun _ _ _ h hstep => h.step hstep) (logged_init o) hrun

/-! ## The runs without the overflow

The counter is the number of tries minus that of the attempts, as long as it does not start at the
smallest `int`. -/

/-- The attempts so far have failed with errors to retry on, and the next one is under way with the
number of tries that are left. -/
structure UnderWay (o : Options) (outs : List (Outcome κ)) (t : Options) : Prop where
  retryable : ∀ out ∈ outs, Retryable o out
  tries : (outs = [] ∧ t = o) ∨ (t.tries.toInt = o.tries.toInt - outs.length ∧ 1 ≤ t.tries.toInt)

/-- The last attempt is the first one that stops. -/
structure Over (o : Options) (outs : List (Outcome κ)) (last : Outcome κ) : Prop where
  retryable : ∀ out ∈ outs, Retryable o out
  tries : (outs.length : Int) < max 1 o.tries.toInt
  stops : Stops o (outs.length + 1) last

/-- The attempts count up as the tries count down. -/
structure Counts (o : Options) (s : State Options κ) : Prop where
  underWay : ∀ t, s.pending = some t → UnderWay o s.outcomes t
  ended : s.pending = none → ∃ outs last, s.outcomes = outs ++ [last] ∧ Over o outs last

/-- An attempt under way is within the tries. -/
theorem UnderWay.length_lt {o t : Options} {outs : List (Outcome κ)} (h : UnderWay o outs t) :
    (outs.length : Int) < max 1 o.tries.toInt := by
  rcases h.tries with ⟨rfl, -⟩ | ⟨htries, hle⟩
  · simp only [List.length_nil]
    omega
  · omega

/-- A counter that has not overflowed counts down by one. -/
theorem UnderWay.toInt_adjustTriesRemain {o t : Options} {outs : List (Outcome κ)}
    {out : Outcome κ} (h : UnderWay o outs t) (hretry : Retryable o out)
    (hover : ¬ Overflows o (outs ++ [out])) :
    t.adjustTriesRemain.tries.toInt = max 0 (t.tries.toInt - 1) := by
  apply Options.toInt_adjustTriesRemain
  rintro hmin
  rcases h.tries with ⟨rfl, rfl⟩ | ⟨-, hle⟩
  · exact hover ⟨hmin, out, rfl, hretry⟩
  · rw [hmin] at hle
    revert hle
    decide

/-- An attempt that fails is either the last or takes one try. -/
theorem Counts.step {o : Options} {s t : State Options κ} {l : Label κ} (hlog : Logged o s)
    (h : Counts o s) (hstep : step Options.getNextTry s l = some t)
    (hover : ¬ Overflows o t.outcomes) : Counts o t := by
  cases Step.of_step hstep with
  | succeeded a out hpending hec =>
      have hu := h.underWay a hpending
      exact ⟨nofun, fun _ => ⟨s.outcomes, out, rfl, hu.retryable, hu.length_lt, .inl hec⟩⟩
  | goesOn a a' out hpending hec hnext =>
      have hu := h.underWay a hpending
      obtain ⟨hcan, rfl⟩ := Options.canRetry_of_next hnext
      obtain ⟨hle, hmatch⟩ := Options.canRetry_iff.mp hcan
      have hretry : Retryable o out := ⟨hec, (hlog.options a hpending).1 ▸ hmatch⟩
      -- the tries go down by one, since there is no overflow
      have htries := hu.toInt_adjustTriesRemain hretry hover
      refine ⟨?_, nofun⟩
      rintro b ⟨⟩
      constructor
      · intro out' hmem
        rcases List.mem_append.mp hmem with hmem | hmem
        · exact hu.retryable out' hmem
        · exact List.mem_singleton.mp hmem ▸ hretry
      · right
        simp only [List.length_append, List.length_singleton]
        rcases hu.tries with ⟨hnil, rfl⟩ | ⟨heq, -⟩
        · simp only [hnil, List.length_nil]
          omega
        · omega
  | givesUp a out hpending hec hnext =>
      have hu := h.underWay a hpending
      have hcan := Options.not_canRetry_of_next hnext
      refine ⟨nofun, fun _ => ⟨s.outcomes, out, rfl, hu.retryable, hu.length_lt, ?_⟩⟩
      -- if the attempt did not stop the run, the strategy could retry
      by_contra hnot
      obtain ⟨hretry, hne⟩ := not_stops_iff.mp hnot
      have htries := hu.toInt_adjustTriesRemain hretry hover
      apply hcan
      rw [Options.canRetry_iff]
      refine ⟨?_, (hlog.options a hpending).1.symm ▸ hretry.2⟩
      have hlt := hu.length_lt
      rcases hu.tries with ⟨hnil, rfl⟩ | ⟨heq, hle⟩
      · simp only [hnil, List.length_nil] at hne
        omega
      · omega
  | left i e hi => simp [hlog.deferred] at hi

/-- Whether the first attempt overflows is settled when it completes. -/
theorem Overflows.of_step {o : Options} {s t : State Options κ} {l : Label κ}
    (hstep : step Options.getNextTry s l = some t) (h : Overflows o s.outcomes) :
    Overflows o t.outcomes := by
  obtain ⟨hmin, out, hhead, hretry⟩ := h
  cases Step.of_step hstep with
  | succeeded a out' hpending hec | goesOn a a' out' hpending hec hnext
  | givesUp a out' hpending hec hnext =>
      exact ⟨hmin, out, by simp [List.head?_append, hhead], hretry⟩
  | left i e hi => exact ⟨hmin, out, hhead, hretry⟩

/-- Without the overflow the count is right in every run. -/
theorem counts_run {o : Options} {s : State Options κ} {ls : List (Label κ)}
    (hrun : Transition.run (Failover.step Options.getNextTry) (init o) ls = some s)
    (hover : ¬ Overflows o s.outcomes) : Counts o s := by
  have hinit : Counts o (init o : State Options κ) := by
    refine ⟨?_, nofun⟩
    rintro t ⟨⟩
    exact ⟨by simp [init], .inl ⟨rfl, rfl⟩⟩
  have hinv : Logged o s ∧ (¬ Overflows o s.outcomes → Counts o s) := by
    refine Transition.run_invariant
      (I := fun v => Logged o v ∧ (¬ Overflows o v.outcomes → Counts o v))
      (fun v l w hv hstep => ?_) ⟨logged_init o, fun _ => hinit⟩ hrun
    refine ⟨hv.1.step hstep, fun hnot => ?_⟩
    exact (hv.2 fun h => hnot (h.of_step hstep)).step hv.1 hstep hnot
  exact hinv.2 hover

/-- The count and the log together are what the documentation says. -/
theorem Counts.retriesCorrectly {o : Options} {s : State Options κ} (h : Counts o s)
    (hlog : Logged o s) (hruns : Runs s) : RetriesCorrectly o s := by
  refine ⟨?_, ?_, hruns.attempts, hruns.handled, hlog.retried, hlog.closed⟩
  · intro i out hi hout
    rw [not_stops_iff]
    -- all attempts but the last one did not stop
    cases hpending : s.pending with
    | some t =>
        have hu := h.underWay t hpending
        have hlt := hu.length_lt
        exact ⟨hu.retryable out (List.mem_of_getElem? hout), by omega⟩
    | none =>
        obtain ⟨outs, last, houts, hover⟩ := h.ended hpending
        rw [houts] at hi hout
        simp only [List.length_append, List.length_singleton] at hi
        rw [List.getElem?_append_left (by omega)] at hout
        have hlt := hover.tries
        exact ⟨hover.retryable out (List.mem_of_getElem? hout), by omega⟩
  · constructor
    · intro hpending
      obtain ⟨outs, last, houts, hover⟩ := h.ended hpending
      rw [houts]
      exact ⟨last, by simp, by simpa using hover.stops⟩
    · rintro ⟨out, hlast, hstops⟩
      -- an attempt under way means that none so far has stopped
      by_contra hne
      obtain ⟨t, hpending⟩ := Option.ne_none_iff_exists'.mp hne
      have hu := h.underWay t hpending
      have hlt := hu.length_lt
      refine not_stops_iff.mpr ⟨hu.retryable out (List.mem_of_getLast? hlast), ?_⟩ hstops
      omega

/-- Every run of the strategy is as documented, except that of the overflow. -/
theorem retriesCorrectly_iff (o : Options) (ls : List (Label κ)) (s : State Options κ)
    (hrun : Transition.run (Failover.step Options.getNextTry) (init o) ls = some s) :
    RetriesCorrectly o s ↔ ¬ Overflows o s.outcomes := by
  have hlog := logged_run hrun
  constructor
  · intro h hover
    have hsome := hlog.overflow hover
    obtain ⟨hmin, out, hhead, hretry⟩ := hover
    have hstops : Stops o 1 out := .inr (.inr (by rw [hmin]; decide))
    obtain ⟨outs, houts⟩ := List.head?_eq_some_iff.mp hhead
    cases outs with
    | nil =>
        -- the first attempt should have been the last one
        have hnone : s.pending = none := h.stopped.mpr ⟨out, by simp [houts], by simpa [houts]⟩
        simp [hnone, houts] at hsome
    | cons out' outs =>
        exact h.unstopped 0 out (by simp [houts]) (by simp [houts]) hstops
  · intro hover
    exact (counts_run hrun hover).retriesCorrectly hlog (runs_run hrun)

/-- An attempt that fails and one that succeeds. -/
def failThenSucceed : List (Label Nat) :=
  [.complete ⟨.timedOut, some 7⟩, .complete ⟨.success, some 8⟩]

/-- Two tries on any error: the first fails, its connection is closed, the second succeeds. -/
theorem retriesCorrectly_two_tries :
    ∃ s : State Options Nat, Transition.run (Failover.step Options.getNextTry)
        (init ⟨2, [], true⟩) failThenSucceed = some s ∧
      s.handled = [⟨.success, some 8⟩] ∧ closed s.effects = [7] ∧
      RetriesCorrectly ⟨2, [], true⟩ s := by
  refine ⟨_, rfl, rfl, rfl, (retriesCorrectly_iff _ failThenSucceed _ rfl).mpr ?_⟩
  rintro ⟨hmin, -⟩
  revert hmin
  decide

/-- With the least `int` for the number of tries the operation is not reported after its first
attempt but made again. -/
theorem not_retriesCorrectly_minValue :
    ∃ s : State Options Nat, Transition.run (Failover.step Options.getNextTry)
        (init ⟨Int32.minValue, [], true⟩) [.complete ⟨.timedOut, some 7⟩] = some s ∧
      s.attempts.length = 2 ∧ s.handled = [] ∧ ¬ RetriesCorrectly ⟨Int32.minValue, [], true⟩ s := by
  refine ⟨_, rfl, rfl, rfl, fun h => ?_⟩
  have hnone := h.stopped.mpr ⟨⟨.timedOut, some 7⟩, rfl, .inr (.inr (by decide))⟩
  cases hnone

end OzoPg.Failover.Retry
