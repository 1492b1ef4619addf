import Mathlib.Data.List.Perm.Basic
import OzoPg.Errc
import OzoPg.Failover.Strategy

/-!
# The role-based strategy

`include/ozo/failover/role_based.h`: an operation is tried on one role after another, skipping those
that cannot recover the error at hand. The roles and what they can recover are arbitrary;
`master` and `replica` are the ones the library comes with.

Skipping goes through a try for each role that is skipped, with a guard of its own, after the guard
of the try before has been released. The last guard therefore is the only one to close the
connection.

* `search_next`, `search_none` — the search takes the first role that can recover the error.
* `FailsOverCorrectly` — how a run of the strategy looks.
-/

namespace OzoPg.Failover.RoleBased

/-! ## Roles -/

/-- The predefined roles. -/
inductive Role where
  | master
  | replica
  deriving DecidableEq, Repr

/-- The conditions in `can_recover_impl`. -/
def Role.conditions : Role → List Condition
  | .master =>
    [.errc .connectionError, .errc .typeMismatch, .errc .protocolError, .errc .databaseReadonly]
  | .replica => [.errc .connectionError, .errc .typeMismatch, .errc .protocolError]

/-- `can_recover` of a predefined role. -/
def Role.canRecover (role : Role) (ec : ErrorCode) : Bool := matchCode role.conditions ec

/-! ## Tries -/

variable {ρ κ : Type}

/-- `role_based_try`: a position in the sequence of roles, with the role there and those behind
it. -/
structure Try (ρ : Type) where
  index : Nat
  role : ρ
  left : List ρ
  deriving DecidableEq, Repr

/-- `role_based_strategy::get_first_try`. The sequence of roles is not empty. -/
def firstTry (roles : List ρ) (h : roles ≠ []) : Try ρ := ⟨0, roles.head h, roles.tail⟩

section

variable (canRecover : ρ → ErrorCode → Bool) (closeConnection : Bool)

/-- `role_based_try::initiate_next_try` at a position with some roles behind it. -/
def search (o : Outcome κ) : Nat → List ρ → NextTry (Try ρ) κ
  | _, [] => ⟨deferCloseConnection closeConnection o.conn, none, []⟩
  | index, role :: left =>
    if canRecover role o.ec then
      -- the guard goes when the initiator has returned
      ⟨[.onFallback o ⟨index + 1, role, left⟩], some ⟨index + 1, role, left⟩,
        deferCloseConnection closeConnection o.conn⟩
    else
      -- the guard is released, the try that is skipped has its own
      search o (index + 1) left

/-- `role_based_try::initiate_next_try`. -/
def initiateNextTry (t : Try ρ) (o : Outcome κ) : NextTry (Try ρ) κ :=
  search canRecover closeConnection o t.index t.left

end

/-! ## The search

The source looks for the next role by recursion over those left. What it finds is the smallest
position behind the current one that can recover the error. -/

/-- `j` is the smallest position behind `i` whose role can recover the error. -/
def IsNext (roles : List ρ) (canRecover : ρ → ErrorCode → Bool) (ec : ErrorCode) (i j : Nat) :
    Prop :=
  i < j ∧ (∃ r, roles[j]? = some r ∧ canRecover r ec = true) ∧
    ∀ k, i < k → k < j → ∀ r, roles[k]? = some r → canRecover r ec = false

/-- The try is at a position of the sequence. -/
def Try.At (roles : List ρ) (t : Try ρ) : Prop := roles.drop t.index = t.role :: t.left

theorem getElem?_and_drop_of_drop {roles : List ρ} {i : Nat} {r : ρ} {left : List ρ}
    (h : roles.drop i = r :: left) : roles[i]? = some r ∧ roles.drop (i + 1) = left := by
  constructor
  · rw [← List.head?_drop, h, List.head?_cons]
  · rw [← List.drop_drop, h, List.drop_one, List.tail_cons]

/-- The role of a try is that of its position. -/
theorem Try.At.getElem? {roles : List ρ} {t : Try ρ} (h : t.At roles) :
    roles[t.index]? = some t.role :=
  (getElem?_and_drop_of_drop h).1

theorem Try.At.index_lt {roles : List ρ} {t : Try ρ} (h : t.At roles) :
    t.index < roles.length :=
  (List.getElem?_eq_some_iff.mp h.getElem?).1

/-- The first try is at the first role. -/
theorem at_firstTry (roles : List ρ) (h : roles ≠ []) : (firstTry roles h).At roles :=
  (List.cons_head_tail h).symm

variable {canRecover : ρ → ErrorCode → Bool} {closeConnection : Bool} {roles : List ρ}

/-- Behind a role that cannot recover the error the search goes on as from there. -/
theorem IsNext.of_skipped {ec : ErrorCode} {i j : Nat} {r : ρ} (hr : roles[i + 1]? = some r)
    (hcan : canRecover r ec = false) (h : IsNext roles canRecover ec (i + 1) j) :
    IsNext roles canRecover ec i j := by
  obtain ⟨hlt, hj, hbetween⟩ := h
  refine ⟨by omega, hj, fun k hik hkj r' hr' => ?_⟩
  by_cases hk : k = i + 1
  · subst hk
    rw [hr] at hr'
    exact Option.some.inj hr' ▸ hcan
  · exact hbetween k (by omega) hkj r' hr'

/-- What the search does when it finds a role. -/
theorem search_next {o : Outcome κ} {i : Nat} {left : List ρ} (hleft : roles.drop (i + 1) = left)
    {t : Try ρ} (h : (search canRecover closeConnection o i left).next = some t) :
    t.At roles ∧ IsNext roles canRecover o.ec i t.index ∧
      search canRecover closeConnection o i left =
        ⟨[.onFallback o t], some t, deferCloseConnection closeConnection o.conn⟩ := by
  induction left generalizing i with
  | nil => cases h
  | cons r left ih =>
      obtain ⟨hr, hdrop⟩ := getElem?_and_drop_of_drop hleft
      unfold search at h ⊢
      split at h
      · next hcan =>
          cases h
          rw [if_pos hcan]
          exact ⟨hleft, ⟨by simp, ⟨r, hr, hcan⟩, fun k hik hki => absurd hki (by simp; omega)⟩, rfl⟩
      · next hcan =>
          obtain ⟨hat, hnext, heq⟩ := ih hdrop h
          rw [if_neg hcan]
          exact ⟨hat, hnext.of_skipped hr (Bool.eq_false_iff.mpr hcan), heq⟩

/-- What the search does when it finds none. -/
theorem search_none {o : Outcome κ} {i : Nat} {left : List ρ} (hleft : roles.drop (i + 1) = left)
    (h : (search canRecover closeConnection o i left).next = none) :
    (∀ j, ¬ IsNext roles canRecover o.ec i j) ∧
      search canRecover closeConnection o i left =
        ⟨deferCloseConnection closeConnection o.conn, none, []⟩ := by
  induction left generalizing i with
  -- there is no position behind the last one
  | nil =>
      refine ⟨?_, rfl⟩
      rintro j ⟨hij, ⟨r, hr, -⟩, -⟩
      have hlen := List.drop_eq_nil_iff.mp hleft
      have hj := (List.getElem?_eq_some_iff.mp hr).1
      omega
  | cons r left ih =>
      obtain ⟨hr, hdrop⟩ := getElem?_and_drop_of_drop hleft
      unfold search at h ⊢
      split at h
      · cases h
      -- this role cannot recover, and by induction neither can those behind it
      · next hcan =>
          obtain ⟨hnone, heq⟩ := ih hdrop h
          rw [if_neg hcan]
          refine ⟨?_, heq⟩
          rintro j ⟨hij, ⟨r', hr', hcan'⟩, hbetween⟩
          by_cases hj : j = i + 1
          · subst hj
            rw [hr] at hr'
            exact hcan (Option.some.inj hr' ▸ hcan')
          · exact hnone j ⟨by omega, ⟨r', hr', hcan'⟩, fun k hik => hbetween k (by omega)⟩

/-! ## How a run looks -/

/-- What follows an attempt: behind a failed one the next attempt on the first role that can
recover the error, and none behind a successful one or when there is no such role. -/
def Follows (roles : List ρ) (canRecover : ρ → ErrorCode → Bool) (a : Try ρ) (o : Outcome κ) :
    Option (Try ρ) → Prop
  | some b => o.ec.failed = true ∧ IsNext roles canRecover o.ec a.index b.index
  | none => o.ec.failed = false ∨ ∀ j, ¬ IsNext roles canRecover o.ec a.index j

/-- A state of a run of the strategy as its documentation has it. -/
structure FailsOverCorrectly (roles : List ρ) (canRecover : ρ → ErrorCode → Bool)
    (closeConnection : Bool) (s : State (Try ρ) κ) : Prop where
  first : (s.attempts.map Try.index).head? = some 0
  increasing : (s.attempts.map Try.index).Pairwise (· < ·)
  role : ∀ a ∈ s.attempts, roles[a.index]? = some a.role
  bound : s.attempts.length ≤ roles.length
  /-- They are made one after another. -/
  attempts : s.attempts.length = s.outcomes.length + s.pending.toList.length
  follows : ∀ k a o, s.attempts[k]? = some a → s.outcomes[k]? = some o →
    Follows roles canRecover a o s.attempts[k + 1]?
  handled : s.handled = if s.pending.isSome then [] else s.outcomes.getLast?.toList
  /-- Each fallback is announced with the try that is taken. -/
  fellBack : fellBack s.effects = s.outcomes.zip s.attempts.tail
  /-- What has been closed, and what the calls that still run will close. -/
  closed : (closed s.effects ++ closed s.deferred).Perm
    (s.outcomes.flatMap (Outcome.toClose closeConnection))

/-- What holds in every state of a run, besides what holds for every strategy. -/
structure Inv (roles : List ρ) (canRecover : ρ → ErrorCode → Bool) (closeConnection : Bool)
    (s : State (Try ρ) κ) : Prop where
  first : (s.attempts.map Try.index).head? = some 0
  increasing : (s.attempts.map Try.index).Pairwise (· < ·)
  at_ : ∀ a ∈ s.attempts, a.At roles
  follows : ∀ k a o, s.attempts[k]? = some a → s.outcomes[k]? = some o →
    Follows roles canRecover a o s.attempts[k + 1]?
  fellBack : Failover.fellBack s.effects = s.outcomes.zip s.attempts.tail
  deferred : Failover.fellBack s.deferred = []
  closed : (Failover.closed s.effects ++ Failover.closed s.deferred).Perm
    (s.outcomes.flatMap (Outcome.toClose closeConnection))

theorem inv_init (h : roles ≠ []) :
    Inv roles canRecover closeConnection (init (firstTry roles h) : State (Try ρ) κ) where
  first := rfl
  increasing := List.pairwise_singleton _ _
  at_ a ha := List.mem_singleton.mp ha ▸ at_firstTry roles h
  follows k a o _ ho := by simp [init] at ho
  fellBack := rfl
  deferred := rfl
  closed := .refl _

/-- The last attempt completes, and what follows it is appended. -/
theorem follows_append {as : List (Try ρ)} {os : List (Outcome κ)} {t : Try ρ} {o : Outcome κ}
    (next : Option (Try ρ)) (hlen : as.length = os.length + 1) (hlast : as.getLast? = some t)
    (h : ∀ k a o', as[k]? = some a → os[k]? = some o' → Follows roles canRecover a o' as[k + 1]?)
    (hnext : Follows roles canRecover t o next) :
    ∀ k a o', (as ++ next.toList)[k]? = some a → (os ++ [o])[k]? = some o' →
      Follows roles canRecover a o' (as ++ next.toList)[k + 1]? := by
  intro k a o' ha ho'
  have hk := (List.getElem?_eq_some_iff.mp ho').1
  simp only [List.length_append, List.length_singleton] at hk
  rw [List.getElem?_append_left (by omega)] at ha
  -- only the last attempt is affected by what comes next
  by_cases hk' : k < os.length
  · rw [List.getElem?_append_left hk'] at ho'
    rw [List.getElem?_append_left (by omega)]
    exact h k a o' ha ho'
  · obtain rfl : k = os.length := by omega
    rw [List.getElem?_concat_length, Option.some.injEq] at ho'
    rw [List.getLast?_eq_getElem?, hlen, Nat.add_sub_cancel, ha, Option.some.injEq] at hlast
    rw [← hlen, List.getElem?_append_right (Nat.le_refl _), Nat.sub_self, hlast, ← ho']
    cases next with
    | none => exact hnext
    | some b => exact hnext

/-- The attempts so far are at positions before that of the last one. -/
theorem index_le_of_getLast? {as : List (Try ρ)} {t : Try ρ} (hlast : as.getLast? = some t)
    (h : (as.map Try.index).Pairwise (· < ·)) : ∀ a ∈ as, a.index ≤ t.index := by
  obtain ⟨before, rfl⟩ := List.getLast?_eq_some_iff.mp hlast
  rw [List.map_append, List.pairwise_append] at h
  intro a ha
  rcases List.mem_append.mp ha with ha | ha
  · exact Nat.le_of_lt (h.2.2 _ (List.mem_map_of_mem ha) _ (by simp))
  · exact Nat.le_of_eq (congrArg Try.index (List.mem_singleton.mp ha))

/-- The outcomes and the tries behind them grow together. -/
theorem zip_tail_append {as : List (Try ρ)} {os : List (Outcome κ)} (o : Outcome κ)
    (next : Option (Try ρ)) (hlen : as.length = os.length + 1) :
    (os ++ [o]).zip (as ++ next.toList).tail = os.zip as.tail ++ [o].zip next.toList := by
  have hne : as ≠ [] := by
    rintro rfl
    simp at hlen
  rw [List.tail_append_of_ne_nil hne, List.zip_append (by simp [hlen])]

/-- What is put between two parts may as well be put behind them. -/
theorem perm_append_between {α : Type} {xs ys zs : List α} (c : List α)
    (h : (xs ++ ys).Perm zs) : (xs ++ (c ++ ys)).Perm (zs ++ c) :=
  calc
    (xs ++ (c ++ ys)).Perm (xs ++ (ys ++ c)) := List.perm_append_comm.append_left xs
    _ = xs ++ ys ++ c := (List.append_assoc xs ys c).symm
    _ |>.Perm (zs ++ c) := h.append_right c

/-- The last attempt completes, and none follows it. -/
theorem Inv.stop {s : State (Try ρ) κ} (hruns : Runs s)
    (h : Inv roles canRecover closeConnection s) {a : Try ρ} {o : Outcome κ}
    (hpending : s.pending = some a) (hnone : Follows roles canRecover a o none) :
    (∀ k b o', s.attempts[k]? = some b → (s.outcomes ++ [o])[k]? = some o' →
        Follows roles canRecover b o' s.attempts[k + 1]?) ∧
      Failover.fellBack s.effects = (s.outcomes ++ [o]).zip s.attempts.tail := by
  have hlen := hruns.attempts
  simp only [hpending, Option.toList_some, List.length_singleton] at hlen
  have hfollows := follows_append none hlen (hruns.last a hpending) h.follows hnone
  have hzip := zip_tail_append o none hlen
  simp only [Option.toList_none, List.append_nil, List.zip_nil_right] at hfollows hzip
  exact ⟨hfollows, h.fellBack.trans hzip.symm⟩

/-- A guard is released: it announces nothing, and what it closes was to be closed. -/
theorem Inv.leave {s : State (Try ρ) κ} (h : Inv roles canRecover closeConnection s) {i : Nat}
    {e : Effect (Try ρ) κ} (hi : s.deferred[i]? = some e) :
    Inv roles canRecover closeConnection
      { s with deferred := s.deferred.eraseIdx i, effects := s.effects ++ [e] } := by
  obtain ⟨hi', he⟩ := List.getElem?_eq_some_iff.mp hi
  have hperm : (e :: s.deferred.eraseIdx i).Perm s.deferred :=
    he ▸ List.getElem_cons_eraseIdx_perm hi'
  have hfell : (Failover.fellBack ([e] ++ s.deferred.eraseIdx i)).Perm
      (Failover.fellBack s.deferred) := hperm.filterMap _
  rw [h.deferred, List.perm_nil, fellBack_append, List.append_eq_nil_iff] at hfell
  have hclosed : (Failover.closed ([e] ++ s.deferred.eraseIdx i)).Perm
      (Failover.closed s.deferred) := hperm.filterMap _
  rw [closed_append] at hclosed
  refine ⟨h.first, h.increasing, h.at_, h.follows, ?_, hfell.2, ?_⟩
  · simp [h.fellBack, hfell.1]
  · rw [closed_append, List.append_assoc]
    exact (hclosed.append_left _).trans h.closed

/-- A failed attempt is followed by one at the position the search finds. -/
theorem Inv.step {s t : State (Try ρ) κ} {l : Label κ} (hruns : Runs s)
    (h : Inv roles canRecover closeConnection s)
    (hstep : step (initiateNextTry canRecover closeConnection) s l = some t) :
    Inv roles canRecover closeConnection t := by
  cases Step.of_step hstep with
  | succeeded a o hpending hec =>
      obtain ⟨hfollows, hfell⟩ := h.stop hruns hpending (o := o) (.inl hec)
      refine ⟨h.first, h.increasing, h.at_, hfollows, hfell, h.deferred, ?_⟩
      simpa [Outcome.toClose_of_success hec] using h.closed
  | goesOn a a' o hpending hec hnext =>
      have hlen := hruns.attempts
      simp only [hpending, Option.toList_some, List.length_singleton] at hlen
      have hlast := hruns.last a hpending
      have hat := h.at_ a (List.mem_of_getLast? hlast)
      obtain ⟨hat', hisNext, heq⟩ := search_next (getElem?_and_drop_of_drop hat).2 hnext
      -- positions go up, so the next one is behind all attempts so far
      have hle := index_le_of_getLast? hlast h.increasing
      simp only [initiateNextTry, heq]
      constructor
      · simp [List.head?_append, h.first]
      · rw [List.map_append, List.pairwise_append]
        refine ⟨h.increasing, List.pairwise_singleton _ _, fun i hi j hj => ?_⟩
        obtain ⟨b, hb, rfl⟩ := List.mem_map.mp hi
        obtain rfl : j = a'.index := by simpa using hj
        exact Nat.lt_of_le_of_lt (hle b hb) hisNext.1
      · intro b hb
        rcases List.mem_append.mp hb with hb | hb
        · exact h.at_ b hb
        · exact List.mem_singleton.mp hb ▸ hat'
      · exact follows_append (some a') hlen hlast h.follows ⟨hec, hisNext⟩
      · have hzip := zip_tail_append o (some a') hlen
        simp only [Option.toList_some, List.zip_cons_cons, List.zip_nil_right] at hzip
        simp [h.fellBack, hzip]
      · simp [h.deferred]
      -- the connection is closed later, when the call returns
      · simpa [closed_deferCloseConnection hec] using perm_append_between _ h.closed
  | givesUp a o hpending hec hnext =>
      have hat := h.at_ a (List.mem_of_getLast? (hruns.last a hpending))
      obtain ⟨hnone, heq⟩ := search_none (getElem?_and_drop_of_drop hat).2 hnext
      obtain ⟨hfollows, hfell⟩ := h.stop hruns hpending (o := o) (.inr hnone)
      simp only [initiateNextTry, heq]
      refine ⟨h.first, h.increasing, h.at_, hfollows, ?_, h.deferred, ?_⟩
      · simp [hfell]
      · simpa [closed_deferCloseConnection hec] using perm_append_between _ h.closed
  | left i e hi => exact h.leave hi

/-- Both invariants in every run. -/
theorem inv_run {hroles : roles ≠ []} {ls : List (Label κ)} {s : State (Try ρ) κ}
    (hrun : Transition.run (Failover.step (initiateNextTry canRecover closeConnection))
      (init (firstTry roles hroles)) ls = some s) :
    Runs s ∧ Inv roles canRecover closeConnection s :=
  Transition.run_invariant (I := fun v => Runs v ∧ Inv roles canRecover closeConnection v)
    (fun _ _ _ hv hstep => ⟨hv.1.step hstep, hv.2.step hv.1 hstep⟩)
    ⟨runs_init _, inv_init hroles⟩ hrun

/-- Every run of the strategy, on any roles, is as documented. -/
theorem failsOverCorrectly_run (roles : List ρ) (hroles : roles ≠ [])
    (canRecover : ρ → ErrorCode → Bool) (closeConnection : Bool) (ls : List (Label κ))
    (s : State (Try ρ) κ)
    (hrun : Transition.run (Failover.step (initiateNextTry canRecover closeConnection))
      (init (firstTry roles hroles)) ls = some s) :
    FailsOverCorrectly roles canRecover closeConnection s := by
  obtain ⟨hruns, h⟩ := inv_run hrun
  refine ⟨h.first, h.increasing, fun a ha => (h.at_ a ha).getElem?, ?_, hruns.attempts, h.follows,
    hruns.handled, h.fellBack, h.closed⟩
  have hnodup : (s.attempts.map Try.index).Nodup := h.increasing.imp Nat.ne_of_lt
  have hsub : s.attempts.map Try.index ⊆ List.range roles.length := by
    intro i hi
    obtain ⟨a, ha, rfl⟩ := List.mem_map.mp hi
    exact List.mem_range.mpr (h.at_ a ha).index_lt
  simpa using (List.subperm_of_subset hnodup hsub).length_le

/-- A replica refuses to write; the master succeeds while the call that has initiated the attempt
on it is still running. -/
def refusedByReplica : List (Label Nat) :=
  [.complete ⟨⟨.sqlstate, Sqlstate.readOnlySqlTransaction⟩, some 7⟩, .complete ⟨.success, some 8⟩,
    .leave 0]

/-- The second replica cannot recover the error and is skipped; the connection of the first one is
closed once. -/
theorem failsOverCorrectly_refusedByReplica :
    ∃ s : State (Try Role) Nat,
      Transition.run (Failover.step (initiateNextTry Role.canRecover true))
        (init (firstTry [.replica, .replica, .master] (List.cons_ne_nil _ _))) refusedByReplica =
          some s ∧
      s.attempts.map Try.index = [0, 2] ∧ s.handled = [⟨.success, some 8⟩] ∧
      closed s.effects = [7] ∧
      FailsOverCorrectly [.replica, .replica, .master] Role.canRecover true s :=
  ⟨_, rfl, rfl, rfl, rfl,
    failsOverCorrectly_run _ (List.cons_ne_nil _ _) _ _ refusedByReplica _ rfl⟩

end OzoPg.Failover.RoleBased
