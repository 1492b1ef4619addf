import OzoPg.Error
import OzoPg.Lib.Transition

/-!
# Failover of an operation

`include/ozo/failover/strategy.h`: an operation is initiated with the context of a try, and the
continuation it is given either initiates it again with the next try or calls the user's handler.
Which try is the next one is the strategy's business (`initiate_next_try`), so the loop below is
generic in it; the connections are of an arbitrary type too.

An attempt may complete inside the call that initiates it, or later and on another thread. What
the calls still running will do on their way out (the scope guards of a strategy) is therefore a
part of the state, and each of them is a label of its own.

* `Step` — the steps by case.
* `Runs` — one attempt at a time and one call of the handler, whatever the strategy.
-/

namespace OzoPg.Failover

/-- What an attempt completes with. The connection is `none` when it is null, recursively. -/
structure Outcome (κ : Type) where
  ec : ErrorCode
  conn : Option κ
  deriving DecidableEq, Repr

/-- What the strategies do besides initiating: the user's callbacks and `close_connection`. -/
inductive Effect (τ κ : Type) where
  | onRetry (o : Outcome κ)
  | onFallback (o : Outcome κ) (fallback : τ)
  | close (conn : κ)
  deriving DecidableEq, Repr

/-- What `initiate_next_try` does: some effects, a call of the initiator with the next try or no
call, and some effects behind it. -/
structure NextTry (τ κ : Type) where
  before : List (Effect τ κ)
  next : Option τ
  after : List (Effect τ κ)

/-- The end of the guard of `defer_close_connection`, which is given no connection when the
option is off. -/
def deferCloseConnection {τ κ : Type} (closeConnection : Bool) (conn : Option κ) :
    List (Effect τ κ) :=
  match closeConnection, conn with
  | true, some c => [.close c]
  | _, _ => []

/-- The state of an operation with failover. `pending` is the try of the attempt that is under way,
`deferred` what the calls still running do when they return; the other fields are what has been
done so far. -/
structure State (τ κ : Type) where
  pending : Option τ
  deferred : List (Effect τ κ)
  attempts : List τ
  outcomes : List (Outcome κ)
  effects : List (Effect τ κ)
  handled : List (Outcome κ)
  deriving DecidableEq, Repr

/-- An attempt completes, or one of the running calls leaves the scope of its guard. -/
inductive Label (κ : Type) where
  | complete (o : Outcome κ)
  | leave (i : Nat)
  deriving DecidableEq, Repr

variable {τ κ : Type}

/-- `operation_initiator::operator()` with the first try of the strategy. -/
def init (first : τ) : State τ κ := ⟨some first, [], [first], [], [], []⟩

/-- `initiate_operation`. -/
def State.initiateOperation (s : State τ κ) (t : τ) : State τ κ :=
  { s with pending := some t, attempts := s.attempts ++ [t] }

section Loop

variable (initiateNextTry : τ → Outcome κ → NextTry τ κ)

/-- `continuation::operator()` for an attempt made with the try `t`. -/
def State.continuation (s : State τ κ) (t : τ) (o : Outcome κ) : State τ κ :=
  let s := { s with pending := none, outcomes := s.outcomes ++ [o] }
  if o.ec.failed then
    let r := initiateNextTry t o
    let s := { s with effects := s.effects ++ r.before }
    match r.next with
    | some t' => { s.initiateOperation t' with deferred := r.after ++ s.deferred }
    | none => { s with effects := s.effects ++ r.after, handled := s.handled ++ [o] }
  else
    { s with handled := s.handled ++ [o] }

/-- The step of a label, if the state enables it. -/
def step (s : State τ κ) : Label κ → Option (State τ κ)
  | .complete o => s.pending.map fun t => s.continuation initiateNextTry t o
  | .leave i => s.deferred[i]?.map fun e =>
    { s with deferred := s.deferred.eraseIdx i, effects := s.effects ++ [e] }

/-! ## Steps by case -/

/-- The steps one by one. -/
inductive Step (s : State τ κ) : Label κ → State τ κ → Prop where
  | succeeded (t : τ) (o : Outcome κ) (hpending : s.pending = some t) (hec : o.ec.failed = false) :
      Step s (.complete o)
        { s with pending := none, outcomes := s.outcomes ++ [o], handled := s.handled ++ [o] }
  | goesOn (t t' : τ) (o : Outcome κ) (hpending : s.pending = some t) (hec : o.ec.failed = true)
      (hnext : (initiateNextTry t o).next = some t') :
      Step s (.complete o)
        { s with
          pending := some t'
          deferred := (initiateNextTry t o).after ++ s.deferred
          attempts := s.attempts ++ [t']
          outcomes := s.outcomes ++ [o]
          effects := s.effects ++ (initiateNextTry t o).before }
  | givesUp (t : τ) (o : Outcome κ) (hpending : s.pending = some t) (hec : o.ec.failed = true)
      (hnext : (initiateNextTry t o).next = none) :
      Step s (.complete o)
        { s with
          pending := none
          outcomes := s.outcomes ++ [o]
          effects := s.effects ++ (initiateNextTry t o).before ++ (initiateNextTry t o).after
          handled := s.handled ++ [o] }
  | left (i : Nat) (e : Effect τ κ) (hi : s.deferred[i]? = some e) :
      Step s (.leave i)
        { s with deferred := s.deferred.eraseIdx i, effects := s.effects ++ [e] }

variable {initiateNextTry}

/-- Every step is one of these. -/
theorem Step.of_step {s t : State τ κ} {l : Label κ} (h : step initiateNextTry s l = some t) :
    Step initiateNextTry s l t := by
  cases l with
  | complete o =>
      obtain ⟨a, ha, rfl⟩ := Option.map_eq_some_iff.mp h
      unfold State.continuation
      split
      · next hec =>
          dsimp only
          split
          · next t' hnext => exact .goesOn a t' o ha hec hnext
          · next hnext => exact .givesUp a o ha hec hnext
      · next hec => exact .succeeded a o ha (Bool.eq_false_iff.mpr hec)
  | leave i =>
      obtain ⟨e, he, rfl⟩ := Option.map_eq_some_iff.mp h
      exact .left i e he

/-! ## One attempt at a time

Whatever a strategy decides, the operation is a chain: the attempt under way is the last one, and
the handler is called in its place when there is no next one. -/

/-- Each attempt but the one under way has completed, and the handler has been called exactly if
none is under way, with the last outcome. -/
structure Runs (s : State τ κ) : Prop where
  attempts : s.attempts.length = s.outcomes.length + s.pending.toList.length
  last : ∀ t, s.pending = some t → s.attempts.getLast? = some t
  handled : s.handled = if s.pending.isSome then [] else s.outcomes.getLast?.toList

theorem runs_init (first : τ) : Runs (init first : State τ κ) where
  attempts := rfl
  last := by
    rintro t ⟨⟩
    rfl
  handled := rfl

/-- While an attempt is under way the handler has not been called. -/
theorem Runs.under_way {s : State τ κ} {t : τ} (h : Runs s) (hpending : s.pending = some t) :
    s.handled = [] ∧ s.attempts.length = s.outcomes.length + 1 := by
  have hhandled := h.handled
  have hattempts := h.attempts
  rw [hpending] at hhandled hattempts
  exact ⟨hhandled, hattempts⟩

/-- An attempt completes and is followed by another one or by the call of the handler. -/
theorem Runs.step {s t : State τ κ} {l : Label κ} (h : Runs s)
    (hstep : step initiateNextTry s l = some t) : Runs t := by
  cases Step.of_step hstep with
  | succeeded a o hpending hec =>
      obtain ⟨hhandled, hattempts⟩ := h.under_way hpending
      exact ⟨by simp [hattempts], nofun, by simp [hhandled]⟩
  | goesOn a a' o hpending hec hnext =>
      obtain ⟨hhandled, hattempts⟩ := h.under_way hpending
      refine ⟨by simp [hattempts], ?_, by simp [hhandled]⟩
      rintro b ⟨⟩
      simp
  | givesUp a o hpending hec hnext =>
      obtain ⟨hhandled, hattempts⟩ := h.under_way hpending
      exact ⟨by simp [hattempts], nofun, by simp [hhandled]⟩
  | left i e hi => exact ⟨h.attempts, h.last, h.handled⟩

/-- Whatever the strategy, the handler is called once, behind the last attempt. -/
theorem runs_run {first : τ} {s : State τ κ} {ls : List (Label κ)}
    (hrun : Transition.run (Failover.step initiateNextTry) (init first) ls = some s) : Runs s :=
  Transition.run_invariant (fun _ _ _ h hstep => h.step hstep) (runs_init first) hrun

/-- The outcome that a label delivers. -/
def Label.outcome? : Label κ → Option (Outcome κ)
  | .complete o => some o
  | .leave _ => none

/-- The outcomes delivered are recorded in their order. -/
theorem outcomes_run {s u : State τ κ} {ls : List (Label κ)}
    (hrun : Transition.run (Failover.step initiateNextTry) s ls = some u) :
    u.outcomes = s.outcomes ++ ls.filterMap Label.outcome? := by
  induction ls generalizing s with
  | nil =>
      cases hrun
      simp
  | cons l ls ih =>
      obtain ⟨t, ht, hu⟩ := Transition.run_cons_eq_some.mp hrun
      rw [ih hu]
      cases Step.of_step ht with
      | succeeded a o hpending hec | goesOn a a' o hpending hec hnext
      | givesUp a o hpending hec hnext => simp [Label.outcome?]
      | left i e hi => rfl

end Loop

/-! ## Effects by kind -/

/-- The connections closed. -/
def closed (es : List (Effect τ κ)) : List κ :=
  es.filterMap fun
    | .close conn => some conn
    | _ => none

/-- The calls of `on_retry`. -/
def retried (es : List (Effect τ κ)) : List (Outcome κ) :=
  es.filterMap fun
    | .onRetry o => some o
    | _ => none

/-- The calls of `on_fallback`. -/
def fellBack (es : List (Effect τ κ)) : List (Outcome κ × τ) :=
  es.filterMap fun
    | .onFallback o t => some (o, t)
    | _ => none

section Effects

variable (es es' : List (Effect τ κ))

@[simp] theorem closed_nil : closed ([] : List (Effect τ κ)) = [] := rfl

@[simp] theorem retried_nil : retried ([] : List (Effect τ κ)) = [] := rfl

@[simp] theorem fellBack_nil : fellBack ([] : List (Effect τ κ)) = [] := rfl

@[simp] theorem closed_append : closed (es ++ es') = closed es ++ closed es' :=
  List.filterMap_append

@[simp] theorem retried_append : retried (es ++ es') = retried es ++ retried es' :=
  List.filterMap_append

@[simp] theorem fellBack_append : fellBack (es ++ es') = fellBack es ++ fellBack es' :=
  List.filterMap_append

@[simp] theorem closed_onRetry (o : Outcome κ) : closed (.onRetry o :: es) = closed es := rfl

@[simp] theorem retried_onRetry (o : Outcome κ) : retried (.onRetry o :: es) = o :: retried es :=
  rfl

@[simp] theorem closed_onFallback (o : Outcome κ) (t : τ) :
    closed (.onFallback o t :: es) = closed es := rfl

@[simp] theorem fellBack_onFallback (o : Outcome κ) (t : τ) :
    fellBack (.onFallback o t :: es) = (o, t) :: fellBack es := rfl

end Effects

/-- The connections of failed attempts, to be closed if the option says so. -/
def Outcome.toClose (closeConnection : Bool) (o : Outcome κ) : List κ :=
  if o.ec.failed ∧ closeConnection then o.conn.toList else []

/-- The connection of a success goes to the user. -/
theorem Outcome.toClose_of_success {o : Outcome κ} (h : o.ec.failed = false) (b : Bool) :
    o.toClose b = [] := by
  simp [toClose, h]

/-- A guard closes the connection it has been given, once. -/
theorem closed_deferCloseConnection {o : Outcome κ} (h : o.ec.failed = true) (b : Bool) :
    closed (deferCloseConnection b o.conn : List (Effect τ κ)) = o.toClose b := by
  unfold Outcome.toClose
  cases b <;> cases o.conn <;> simp [h, deferCloseConnection, closed]

@[simp] theorem retried_deferCloseConnection (b : Bool) (conn : Option κ) :
    retried (deferCloseConnection b conn : List (Effect τ κ)) = [] := by
  cases b <;> cases conn <;> rfl

@[simp] theorem fellBack_deferCloseConnection (b : Bool) (conn : Option κ) :
    fellBack (deferCloseConnection b conn : List (Effect τ κ)) = [] := by
  cases b <;> cases conn <;> rfl

end OzoPg.Failover
