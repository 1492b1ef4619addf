import OzoPg.Lib.Checked
import OzoPg.Lib.Share
import OzoPg.Failover.Retry
import OzoPg.Failover.RoleBased

/-!
# Time budgets of the attempts

`include/ozo/deadline.h` and `get_try_time_constraint` of `include/ozo/failover/retry.h`: the time
constraint of an operation becomes a deadline when the operation starts, and each attempt is given
an equal share of the time that is left then. Time points and durations are the nanoseconds of
`steady_clock`, and every operation on them is checked.

* `getTryTimeConstraint?_eq_share` — the budget of an attempt is its share, computed without
  overflow;
* `Budgeted` — what the budgets of a sequence of attempts have in common;
* `time_budgets` — both strategies count their tries such that they have it.
-/

namespace OzoPg.Failover

open Checked (Fits)

/-- `deadline(after, now)`. -/
def deadline? (after now : Int64) : Option Int64 := do
  if after < 0 then
    return now
  else
    let room ← Checked.sub Int64.maxValue now
    if room < after then
      return Int64.maxValue
    else
      Checked.add now after

/-- `time_left(t, now)`. -/
def timeLeft? (t now : Int64) : Option Int64 :=
  if now < t then Checked.sub t now else some 0

/-- `detail::get_try_time_constraint` of a deadline. -/
def getTryTimeConstraint? (t : Int64) (nTries : Int32) (now : Int64) : Option Int64 := do
  if 0 < nTries then
    let left ← timeLeft? t now
    Checked.div left nTries.toInt64
  else
    return 0

/-! ## Exact values -/

/-- The deadline is `after` from now, but not in the past and not beyond the last time point. -/
theorem deadline?_eq_some (after : Int64) {now : Int64} (hnow : 0 ≤ now.toInt) :
    ∃ t, deadline? after now = some t ∧
      t.toInt = min 9223372036854775807 (now.toInt + max 0 after.toInt) := by
  have hfits := Checked.fits_toInt now
  have hafter := Checked.fits_toInt after
  have hmax : Int64.maxValue.toInt = 9223372036854775807 := by decide
  have hneg : after < 0 ↔ after.toInt < 0 := Int64.lt_iff_toInt_lt
  -- a clock that is not negative leaves room below the maximum
  have hroom : Fits (Int64.maxValue.toInt - now.toInt) := by
    unfold Fits at hfits ⊢
    omega
  have hlt : Int64.maxValue - now < after ↔ 9223372036854775807 - now.toInt < after.toInt := by
    rw [Int64.lt_iff_toInt_lt, Checked.toInt_sub hroom, hmax]
  unfold Fits at hfits hafter
  unfold deadline?
  split
  · next h =>
      refine ⟨now, rfl, ?_⟩
      rw [hneg] at h
      omega
  · next h =>
      rw [hneg] at h
      rw [Checked.sub_of_fits hroom, Option.bind_eq_bind, Option.bind_some]
      split
      -- the sum would be beyond the maximum, which it is clamped to
      · next hover =>
          refine ⟨Int64.maxValue, rfl, ?_⟩
          rw [hlt] at hover
          omega
      · next hover =>
          rw [hlt] at hover
          have hsum : Fits (now.toInt + after.toInt) := by
            unfold Fits
            omega
          refine ⟨now + after, Checked.add_of_fits hsum, ?_⟩
          rw [Checked.toInt_add hsum]
          omega

/-- The difference is taken when the deadline is ahead, so it does not overflow. -/
theorem timeLeft?_eq_some (t : Int64) {now : Int64} (hnow : 0 ≤ now.toInt) :
    ∃ left, timeLeft? t now = some left ∧ left.toInt = max 0 (t.toInt - now.toInt) := by
  have ht := Checked.fits_toInt t
  have hlt : now < t ↔ now.toInt < t.toInt := Int64.lt_iff_toInt_lt
  unfold timeLeft?
  split
  · next h =>
      rw [hlt] at h
      have hfits : Fits (t.toInt - now.toInt) := by
        unfold Fits at ht ⊢
        omega
      refine ⟨t - now, Checked.sub_of_fits hfits, ?_⟩
      rw [Checked.toInt_sub hfits]
      omega
  · next h =>
      rw [hlt] at h
      refine ⟨0, rfl, ?_⟩
      rw [Int64.toInt_zero]
      omega

/-- The budget of an attempt is its share of the time left. -/
theorem getTryTimeConstraint?_eq_share (t : Int64) {nTries : Int32} {now : Int64}
    (hn : 0 < nTries.toInt) (hnow : 0 ≤ now.toInt) :
    ∃ b, getTryTimeConstraint? t nTries now = some b ∧
      b.toInt = Share.share t.toInt now.toInt nTries.toInt := by
  obtain ⟨left, hleft, hvalue⟩ := timeLeft?_eq_some t hnow
  have hpos : 0 < nTries := Int32.lt_iff_toInt_lt.mpr hn
  have hn' : 0 < nTries.toInt64.toInt := by rwa [Int32.toInt_toInt64]
  refine ⟨left / nTries.toInt64, ?_, ?_⟩
  · rw [getTryTimeConstraint?, if_pos hpos, hleft, Option.bind_eq_bind, Option.bind_some,
      Checked.div_of_pos hn']
  · rw [Checked.toInt_div hn', Int32.toInt_toInt64, hvalue, Share.share]
    exact Int.tdiv_eq_ediv_of_nonneg (by omega)

/-! ## The budgets of a sequence of attempts -/

/-- The readings of a clock that does not go back: at the start of an operation, and at each
attempt when its budget is computed. -/
structure Clock where
  start : Int64
  attempt : Nat → Int64
  start_nonneg : 0 ≤ start.toInt
  start_le : start ≤ attempt 0
  attempt_le : ∀ k, attempt k ≤ attempt (k + 1)

theorem Clock.attempt_nonneg (c : Clock) (k : Nat) : 0 ≤ (c.attempt k).toInt := by
  induction k with
  | zero => exact Int.le_trans c.start_nonneg (Int64.le_iff_toInt_le.mp c.start_le)
  | succ k ih => exact Int.le_trans ih (Int64.le_iff_toInt_le.mp (c.attempt_le k))

/-- What is promised of the budget `b` of an attempt at `now`, with `nTries` tries left. -/
structure Within (t now : Int64) (nTries : Int32) (b : Int64) : Prop where
  nonneg : 0 ≤ b.toInt
  before : now ≤ t → now.toInt + b.toInt ≤ t.toInt
  expired : t < now → b = 0
  last : nTries = 1 → now ≤ t → b.toInt = t.toInt - now.toInt

/-- The budget of an attempt, given the numbers of tries left at the attempts. -/
def budget? (t : Int64) (c : Clock) (ns : List Int32) (k : Nat) : Option Int64 :=
  ns[k]?.bind fun n => getTryTimeConstraint? t n (c.attempt k)

/-- The budgets of a sequence of attempts: each is computed without overflow and ends at the
deadline at the latest, and they do not shrink while the attempts keep to them. -/
structure Budgeted (t : Int64) (c : Clock) (ns : List Int32) : Prop where
  each : ∀ k n, ns[k]? = some n → ∃ b, budget? t c ns k = some b ∧ Within t (c.attempt k) n b
  grows : ∀ i j b b', i ≤ j → budget? t c ns i = some b → budget? t c ns j = some b' →
    (∀ m bm, m < j → budget? t c ns m = some bm →
      (c.attempt (m + 1)).toInt ≤ (c.attempt m).toInt + bm.toInt) →
    b.toInt ≤ b'.toInt

section Budgets

variable (t : Int64) (c : Clock) {ns : List Int32} (hpos : ∀ n ∈ ns, 0 < n.toInt)

include hpos

/-- The budget is the share of what is left. -/
theorem budget?_eq_share {k : Nat} {n : Int32} (hn : ns[k]? = some n) :
    ∃ b, budget? t c ns k = some b ∧
      b.toInt = Share.share t.toInt (c.attempt k).toInt n.toInt := by
  rw [budget?, hn, Option.bind_some]
  exact getTryTimeConstraint?_eq_share t (hpos n (List.mem_of_getElem? hn)) (c.attempt_nonneg k)

/-- A share keeps what is promised. -/
theorem within_of_budget? {k : Nat} {n : Int32} (hn : ns[k]? = some n) :
    ∃ b, budget? t c ns k = some b ∧ Within t (c.attempt k) n b := by
  obtain ⟨b, hb, hshare⟩ := budget?_eq_share t c hpos hn
  refine ⟨b, hb, ?_, ?_, ?_, ?_⟩
  · rw [hshare]
    exact Share.share_nonneg (hpos n (List.mem_of_getElem? hn))
  · intro hle
    rw [hshare]
    exact Share.add_share_le (Int64.le_iff_toInt_le.mp hle)
  · intro hlt
    apply Int64.toInt_inj.mp
    rw [hshare, Int64.toInt_zero]
    exact Share.share_of_lt (Int64.lt_iff_toInt_lt.mp hlt)
  · rintro rfl hle
    rw [hshare]
    exact Share.share_one (Int64.le_iff_toInt_le.mp hle)

/-- One attempt keeps to its budget. -/
theorem budget?_le_succ (hdec : ns.Pairwise fun n n' => n'.toInt < n.toInt) {k : Nat}
    {b b' : Int64} (hb : budget? t c ns k = some b) (hb' : budget? t c ns (k + 1) = some b')
    (hkept : (c.attempt (k + 1)).toInt ≤ (c.attempt k).toInt + b.toInt) :
    b.toInt ≤ b'.toInt := by
  obtain ⟨n, hn, -⟩ := Option.bind_eq_some_iff.mp hb
  obtain ⟨n', hn', -⟩ := Option.bind_eq_some_iff.mp hb'
  obtain ⟨hk, hget⟩ := List.getElem?_eq_some_iff.mp hn
  obtain ⟨hk', hget'⟩ := List.getElem?_eq_some_iff.mp hn'
  have hlt : n'.toInt < n.toInt := by
    have hpair := List.pairwise_iff_getElem.mp hdec k (k + 1) hk hk' (Nat.lt_succ_self k)
    rwa [hget, hget'] at hpair
  obtain ⟨_, heq, hshare⟩ := budget?_eq_share t c hpos hn
  obtain ⟨_, heq', hshare'⟩ := budget?_eq_share t c hpos hn'
  cases hb.symm.trans heq
  cases hb'.symm.trans heq'
  rw [hshare, hshare']
  rw [hshare] at hkept
  exact Share.share_le_share (hpos n' (List.mem_of_getElem? hn')) hlt hkept

/-- Attempts with fewer and fewer tries left are budgeted. -/
theorem budgeted (hdec : ns.Pairwise fun n n' => n'.toInt < n.toInt) : Budgeted t c ns where
  each k n hn := within_of_budget? t c hpos hn
  grows i j b b' hij hb hb' hkept := by
    induction j, hij using Nat.le_induction generalizing b' with
    | base =>
        cases hb.symm.trans hb'
        exact Int.le_refl _
    | succ j hij ih =>
        -- the attempt before the last one has a budget too
        obtain ⟨n', hn', -⟩ := Option.bind_eq_some_iff.mp hb'
        have hj : j < ns.length := Nat.lt_of_succ_lt (List.getElem?_eq_some_iff.mp hn').1
        obtain ⟨bj, hbj, -⟩ := budget?_eq_share t c hpos (List.getElem?_eq_getElem hj)
        have hle := ih bj hbj fun m bm hm => hkept m bm (Nat.lt_succ_of_lt hm)
        exact Int.le_trans hle
          (budget?_le_succ t c hpos hdec hbj hb' (hkept j bj (Nat.lt_succ_self j) hbj))

end Budgets

/-! ## The tries left at the attempts of a strategy

The budget divides by the number of tries left. Neither of the strategies makes an attempt with none
left, so the division is defined. -/

variable {ρ κ : Type}

/-- `role_based_try::tries_left`, given to an `int`. -/
def RoleBased.Try.triesLeft (roles : List ρ) (t : RoleBased.Try ρ) : Int32 :=
  Int32.ofNat (roles.length - t.index)

/-- Each attempt of the retry strategy has one try less. -/
def CountsDown (o : Retry.Options) (s : State Retry.Options κ) : Prop :=
  ∀ (k : Nat) a, s.attempts[k]? = some a → a.tries.toInt = o.tries.toInt - k ∧ 1 ≤ a.tries.toInt

/-- An attempt takes one try, as long as there is one. -/
theorem countsDown_step {o : Retry.Options} {s t : State Retry.Options κ} {l : Label κ}
    (hruns : Runs s) (h : CountsDown o s) (hstep : step Retry.Options.getNextTry s l = some t) :
    CountsDown o t := by
  cases Step.of_step hstep with
  | succeeded a out hpending hec => exact h
  | givesUp a out hpending hec hnext => exact h
  | left i e hi => exact h
  | goesOn a a' out hpending hec hnext =>
      intro k b hb
      rcases Nat.lt_or_ge k s.attempts.length with hk | hk
      · rw [List.getElem?_append_left hk] at hb
        exact h k b hb
      · -- the new attempt comes right behind the one that was pending
        obtain ⟨hcan, rfl⟩ := Retry.Options.canRetry_of_next hnext
        have hlast := hruns.last a hpending
        rw [List.getLast?_eq_getElem?] at hlast
        obtain ⟨htries, hpos⟩ := h _ a hlast
        have hne : a.tries ≠ Int32.minValue := by
          intro hmin
          rw [hmin] at hpos
          exact absurd hpos (by decide)
        have hadjust := Retry.Options.toInt_adjustTriesRemain hne
        have hle := (Retry.Options.canRetry_iff.mp hcan).1
        have hlen := (List.getElem?_eq_some_iff.mp hb).1
        simp only [List.length_append, List.length_singleton] at hlen
        obtain rfl : k = s.attempts.length := by omega
        have hnonempty := (List.getElem?_eq_some_iff.mp hlast).1
        rw [List.getElem?_concat_length, Option.some.injEq] at hb
        subst hb
        omega

/-- In every run of a strategy with at least one try. -/
theorem countsDown_run {o : Retry.Options} (ho : 1 ≤ o.tries.toInt) {ls : List (Label κ)}
    {s : State Retry.Options κ}
    (hrun : Transition.run (step Retry.Options.getNextTry) (init o) ls = some s) :
    CountsDown o s := by
  have hinv : Runs s ∧ CountsDown o s := by
    refine Transition.run_invariant (I := fun v => Runs v ∧ CountsDown o v)
      (fun v l w hv hstep => ⟨hv.1.step hstep, countsDown_step hv.1 hv.2 hstep⟩)
      ⟨runs_init o, ?_⟩ hrun
    intro k a ha
    cases k with
    | zero =>
        cases ha
        exact ⟨by simp, ho⟩
    | succ k => cases ha
  exact hinv.2

/-- No attempt of the retry strategy divides by zero. -/
theorem CountsDown.budgeted {o : Retry.Options} {s : State Retry.Options κ} (h : CountsDown o s)
    (t : Int64) (c : Clock) : Budgeted t c (s.attempts.map (·.tries)) := by
  apply Failover.budgeted
  · intro n hn
    obtain ⟨a, ha, rfl⟩ := List.mem_map.mp hn
    obtain ⟨k, hk⟩ := List.mem_iff_getElem?.mp ha
    have hpos := (h k a hk).2
    omega
  · rw [List.pairwise_map, List.pairwise_iff_getElem]
    intro i j hi hj hij
    have htries := (h i _ (List.getElem?_eq_getElem hi)).1
    have htries' := (h j _ (List.getElem?_eq_getElem hj)).1
    omega

section Roles

variable {roles : List ρ} (hlen : roles.length < 2 ^ 31)

include hlen

/-- The conversion to `int` keeps the number. -/
theorem toInt_triesLeft (a : RoleBased.Try ρ) :
    (a.triesLeft roles).toInt = (roles.length - a.index : Nat) :=
  Int32.toInt_ofNat_of_lt (by omega)

/-- A role that comes later, skipping any number of them, has fewer tries left. -/
theorem budgeted_of_inv {canRecover : ρ → ErrorCode → Bool} {closeConnection : Bool}
    {s : State (RoleBased.Try ρ) κ} (h : RoleBased.Inv roles canRecover closeConnection s)
    (t : Int64) (c : Clock) : Budgeted t c (s.attempts.map (·.triesLeft roles)) := by
  apply Failover.budgeted
  · intro n hn
    obtain ⟨a, ha, rfl⟩ := List.mem_map.mp hn
    have hlt := (h.at_ a ha).index_lt
    rw [toInt_triesLeft hlen]
    omega
  · have hincreasing := h.increasing
    rw [List.pairwise_map] at hincreasing ⊢
    refine hincreasing.imp_of_mem fun {a b} ha _ hab => ?_
    have hlt := (h.at_ a ha).index_lt
    rw [toInt_triesLeft hlen, toInt_triesLeft hlen]
    omega

end Roles

/-- The attempts of every run of either strategy are budgeted, under the deadline that is fixed at
the start. -/
theorem time_budgets (T : Int64) (c : Clock) :
    ∃ t, deadline? T c.start = some t ∧
      t.toInt = min Int64.maxValue.toInt (c.start.toInt + max 0 T.toInt) ∧
      (∀ (o : Retry.Options) (ls : List (Label κ)) (s : State Retry.Options κ),
        1 ≤ o.tries.toInt →
        Transition.run (step Retry.Options.getNextTry) (init o) ls = some s →
        (∀ (k : Nat) a, s.attempts[k]? = some a → a.tries.toInt = o.tries.toInt - k) ∧
          Budgeted t c (s.attempts.map (·.tries))) ∧
      ∀ (roles : List ρ) (hroles : roles ≠ []) (canRecover : ρ → ErrorCode → Bool)
        (closeConnection : Bool) (ls : List (Label κ)) (s : State (RoleBased.Try ρ) κ),
        roles.length < 2 ^ 31 →
        Transition.run (step (RoleBased.initiateNextTry canRecover closeConnection))
          (init (RoleBased.firstTry roles hroles)) ls = some s →
        Budgeted t c (s.attempts.map (·.triesLeft roles)) := by
  obtain ⟨t, ht, hvalue⟩ := deadline?_eq_some T c.start_nonneg
  refine ⟨t, ht, hvalue, ?_, ?_⟩
  · intro o ls s ho hrun
    have hcounts := countsDown_run ho hrun
    exact ⟨fun k a ha => (hcounts k a ha).1, hcounts.budgeted t c⟩
  · intro roles hroles canRecover closeConnection ls s hlen hrun
    exact budgeted_of_inv hlen (RoleBased.inv_run hrun).2 t c

/-- The first attempt takes 100 nanoseconds. -/
def hundredClock : Clock where
  start := 0
  attempt k := if k = 0 then 0 else 100
  start_nonneg := by decide
  start_le := by decide
  attempt_le k := by
    cases k with
    | zero => decide
    | succ k => simp

/-- Two of three tries within 300 nanoseconds. -/
theorem time_budgets_of_three_tries :
    ∃ t, deadline? 300 hundredClock.start = some t ∧ Budgeted t hundredClock [3, 2] := by
  obtain ⟨t, ht, -, hretry, -⟩ := time_budgets (ρ := Unit) (κ := Nat) 300 hundredClock
  exact ⟨t, ht, (hretry ⟨3, [], true⟩ [.complete ⟨.timedOut, none⟩] _ (by decide) rfl).2⟩

end OzoPg.Failover
