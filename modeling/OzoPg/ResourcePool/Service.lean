import Mathlib.Algebra.Ring.Nat
import Mathlib.Data.List.Nodup
import OzoPg.ResourcePool.Invariant

/-!
# How a resource pool serves its requests

* `full_of_waiting` — a request waits only while every cell is out, as long as no cell goes to the
  storage between the two sections of a `get`, where a request is about to wait for it.
* `bounded_waiting` — a request waits for no more cells to come back than there are requests ahead
  of it: the next one is its own, whoever comes later.
* `disabled_final` — once the pool is disabled and nobody is between the two sections, nothing
  waits and every answer is `disabled`.
-/

namespace OzoPg.ResourcePool

open Transition PoolImpl

variable {α : Type}

/-! ## Free cells

A request waits only while no cell is free. The gap between the two sections of a `get` breaks this,
if a cell comes back there and nobody waits for it. -/

/-- The cells that are not out. -/
def Storage.free (s : Storage α) : List Nat := s.available ++ s.wasted

theorem Storage.free_eq_nil {s : Storage α} : s.free = [] ↔ s.available = [] ∧ s.wasted = [] :=
  List.append_eq_nil_iff

/-- There is nothing to lease only if there is no free cell. -/
theorem Storage.free_lease_of_none {now : TimePoint} {s t : Storage α}
    (h : s.lease now = (none, t)) : t.free = [] := by
  unfold lease at h
  simp only at h
  split at h
  · cases h
  · cases h
  · next havailable hwasted =>
      cases h
      exact Storage.free_eq_nil.mpr ⟨havailable, hwasted⟩

/-- Without a free cell nothing is leased. -/
theorem Storage.lease_of_free_nil {now : TimePoint} {s : Storage α} (h : s.free = []) :
    (s.lease now).1 = none := by
  obtain ⟨havailable, hwasted⟩ := Storage.free_eq_nil.mp h
  unfold lease
  rw [havailable]
  dsimp only [dropExpired]
  rw [hwasted]

/-- A cell that comes back between the two sections of a `get` goes to a request that waits, and
not to the storage. -/
def Undisturbed (s : State α) : Label α → Prop
  | .recycle _ _ | .waste _ => s.unqueued = [] ∨ s.callbacks.requests ≠ []
  | _ => True

instance (s : State α) (l : Label α) : Decidable (Undisturbed s l) := by
  cases l <;> unfold Undisturbed <;> infer_instance

/-- No request waits, or is about to, while a cell is free. -/
def Busy (s : State α) : Prop := s.unqueued ≠ [] ∨ s.callbacks.requests ≠ [] → s.storage.free = []

namespace Busy

variable {s : State α}

/-- A request waits only if nothing could be leased. -/
theorem get (h : Busy s) (now : TimePoint) (waitDuration : Duration) :
    Busy (s.get now waitDuration) := by
  unfold PoolImpl.get
  simp only
  split
  · exact h
  · split
    · next i storage hlease =>
        -- there was a free cell, so nobody was waiting
        have hnone : ¬ (s.unqueued ≠ [] ∨ s.callbacks.requests ≠ []) := by
          intro hwaits
          have hnone : (s.storage.lease now).1 = none := Storage.lease_of_free_nil (h hwaits)
          rw [hlease] at hnone
          cases hnone
        intro hwaits
        exact absurd hwaits hnone
    · next storage hlease =>
        split <;> exact fun _ => Storage.free_lease_of_none hlease

/-- A request that enters the queue did not find a cell before. -/
theorem push (h : Busy s) (now : TimePoint) {r : Nat × Duration} (hr : r ∈ s.unqueued) :
    Busy (s.push now r) := by
  intro _
  rw [storage_push]
  exact h (Or.inl (List.ne_nil_of_mem hr))

/-- A cell comes back: to a request that waits, or to the storage when nobody does. -/
theorem giveBack (h : Busy s) (hok : s.unqueued = [] ∨ s.callbacks.requests ≠ []) {t : State α}
    (hqueue : t.unqueued = s.unqueued)
    (hnil : s.callbacks.requests = [] → t.callbacks.requests = [])
    (hcons : s.callbacks.requests ≠ [] → t.storage.free = s.storage.free) : Busy t := by
  intro hwaits
  have hcallbacks : s.callbacks.requests ≠ [] := by
    intro hs
    have hunqueued := hok.resolve_right fun hne => hne hs
    exact hwaits.elim (fun hne => hne (hqueue.trans hunqueued)) fun hne => hne (hnil hs)
  rw [hcons hcallbacks]
  exact h (Or.inr hcallbacks)

/-- A cell that comes back goes to a request, if one waits. -/
theorem recycle (h : Busy s) (hok : s.unqueued = [] ∨ s.callbacks.requests ≠ [])
    (now : TimePoint) (i : Nat) :
    Busy (s.recycle now i) := by
  unfold PoolImpl.recycle
  simp only
  split
  · next callbacks hpop =>
      obtain ⟨hs, rfl⟩ := Waiting.pop_eq_none hpop
      exact h.giveBack hok rfl (fun _ => hs) fun hne => absurd hs hne
  · next id callbacks hpop =>
      obtain ⟨r, hs, -⟩ := Waiting.pop_eq_some hpop
      refine h.giveBack hok rfl (fun hnil => by simp [hs] at hnil) fun _ => ?_
      dsimp only [post]
      split <;> rfl

theorem waste (h : Busy s) (hok : s.unqueued = [] ∨ s.callbacks.requests ≠ []) (i : Nat) :
    Busy (s.waste i) := by
  unfold PoolImpl.waste
  simp only
  split
  · next callbacks hpop =>
      obtain ⟨hs, rfl⟩ := Waiting.pop_eq_none hpop
      exact h.giveBack hok rfl (fun _ => hs) fun hne => absurd hs hne
  · next id callbacks hpop =>
      obtain ⟨r, hs, -⟩ := Waiting.pop_eq_some hpop
      exact h.giveBack hok rfl (fun hnil => by simp [hs] at hnil) fun _ => rfl

/-- One undisturbed step. -/
theorem step (h : Busy s) {t : State α} {l : Label α} (hok : Undisturbed s l)
    (hstep : step s l = some t) : Busy t := by
  cases l with
  | get now waitDuration =>
      cases hstep
      exact h.get now waitDuration
  | push now r =>
      obtain ⟨hr, ⟨⟩⟩ := Option.ite_none_right_eq_some.mp hstep
      exact h.push now hr
  | recycle now i =>
      obtain ⟨_, ⟨⟩⟩ := Option.ite_none_right_eq_some.mp hstep
      exact h.recycle hok now i
  | waste i =>
      obtain ⟨_, ⟨⟩⟩ := Option.ite_none_right_eq_some.mp hstep
      exact h.waste hok i
  | serve p | reset now i v =>
      obtain ⟨_, ⟨⟩⟩ := Option.ite_none_right_eq_some.mp hstep
      exact h
  | modify i f =>
      cases hstep
      exact h
  -- requests leave, so fewer of them wait
  | cancel expiresAt =>
      cases hstep
      intro hwaits
      refine h (hwaits.imp_right fun hne hnil => hne ?_)
      rw [cancel_of_nil hnil]
      exact hnil
  | disable =>
      cases hstep
      intro hwaits
      exact h (hwaits.imp_right fun hne => absurd rfl hne)
  -- available cells become wasted ones, and there were none of either
  | invalidate =>
      cases hstep
      intro hwaits
      obtain ⟨havailable, hwasted⟩ := Storage.free_eq_nil.mp (h hwaits)
      refine Storage.free_eq_nil.mpr ⟨rfl, ?_⟩
      show s.storage.wasted ++ s.storage.available = []
      rw [havailable, hwasted, List.append_nil]

end Busy

/-- A request waits only while every cell is out, unless a cell has gone to the storage between
the two sections of a `get`. -/
theorem full_of_waiting (capacity queueCapacity : Nat) (idleTimeout lifespan : Duration)
    (ls : List (Label α)) (s : State α)
    (hok : Meets step Undisturbed (init α capacity queueCapacity idleTimeout lifespan) ls)
    (hrun : run step (init α capacity queueCapacity idleTimeout lifespan) ls = some s)
    (hwaits : s.callbacks.requests ≠ []) : s.out.length = capacity := by
  have hinv := inv_of_run hrun
  have hbusy : Busy s :=
    run_invariant_of_meets (fun _ _ _ h hok hstep => h.step hok hstep)
      (fun hwaits => by simp [init, PoolImpl.init] at hwaits) hok hrun
  obtain ⟨havailable, hwasted⟩ := Storage.free_eq_nil.mp (hbusy (Or.inr hwaits))
  have hlength := hinv.cells.length_eq
  rw [Storage.all, havailable, hwasted, List.nil_append, List.append_nil,
    List.length_range] at hlength
  rw [← hinv.used.length_eq, hlength]

/-- The cell of the first request comes back while the third one is between the two sections, and
goes to the second. -/
theorem full_of_waiting_second :
    ∃ s, run step (init Nat 1 2 10 10) [.get 0 0, .serve ⟨0, .ok 0⟩, .get 0 5, .push 0 (1, 5),
        .get 0 5, .recycle 1 0, .push 1 (2, 5)] = some s ∧
      s.callbacks.requests ≠ [] ∧ s.out.length = 1 := by
  have hrun : run step (init Nat 1 2 10 10) [.get 0 0, .serve ⟨0, .ok 0⟩, .get 0 5,
    .push 0 (1, 5), .get 0 5, .recycle 1 0, .push 1 (2, 5)] = some _ := rfl
  refine ⟨_, hrun, by decide, ?_⟩
  exact full_of_waiting 1 2 10 10 _ _ (by decide) hrun (by decide)

-- the cell of the first request comes back before the second is in the queue: both wait
example : ∃ s, run step (init Nat 1 1 10 10)
      [.get 0 0, .serve ⟨0, .ok 0⟩, .get 0 5, .waste 0, .push 0 (1, 5)] = some s ∧
    s.callbacks.requests ≠ [] ∧ s.storage.free = [0] :=
  ⟨_, rfl, by decide, rfl⟩

/-! ## The queue -/

/-- The requests whose handlers are posted or have been called. -/
def PoolImpl.done (s : State α) : List Nat := s.posted.map Posted.id ++ s.answered

/-- The cells that come back in a step. -/
def Label.returned : Label α → Nat
  | .recycle _ _ | .waste _ => 1
  | _ => 0

/-- What a step can do to the queue. -/
inductive QueueStep (s t : State α) : Label α → Prop
  /-- It stays as it is. -/
  | keep {l : Label α} (hcallbacks : t.callbacks.requests = s.callbacks.requests)
      (hreturned : l.returned = 0 ∨ s.callbacks.requests = []) : QueueStep s t l
  /-- A request comes. -/
  | push {now : TimePoint} {r : Nat × Duration}
      (hcallbacks : t.callbacks.requests = s.callbacks.requests ++ [⟨r.1, add now r.2⟩]) :
      QueueStep s t (.push now r)
  /-- The first request is answered. -/
  | pop {l : Label α} {r : Request} {rs : List Request} (hs : s.callbacks.requests = r :: rs)
      (hcallbacks : t.callbacks.requests = rs) (hdone : r.id ∈ t.done) : QueueStep s t l
  /-- Requests fail. -/
  | fail {l : Label α} (p : Request → Bool)
      (hcallbacks : t.callbacks.requests = s.callbacks.requests.filter p)
      (hdone : ∀ r ∈ s.callbacks.requests, p r = false → r.id ∈ t.done)
      (hreturned : l.returned = 0) : QueueStep s t l

theorem mem_done_post (s : State α) (id : Nat) (result : Except Failure Nat) :
    id ∈ (s.post id result).done :=
  List.mem_append_left _ (List.mem_map.mpr ⟨_, mem_post.mpr (Or.inr rfl), rfl⟩)

theorem mem_done_fail (s : State α) (failure : Failure) {failed : List Nat} {id : Nat}
    (hid : id ∈ failed) : id ∈ (s.fail failure failed).done :=
  List.mem_append_left _ (List.mem_map.mpr
    ⟨⟨id, .error failure⟩, List.mem_append_right _ (List.mem_map.mpr ⟨id, hid, rfl⟩), rfl⟩)

/-- A request comes at the end, the first one leaves, or some of them fail. -/
theorem queueStep_of_step {s t : State α} {l : Label α} (hstep : step s l = some t) :
    QueueStep s t l := by
  cases l with
  -- the first section of `get` does not touch the queue
  | get now waitDuration =>
      cases hstep
      refine .keep ?_ (Or.inl rfl)
      unfold PoolImpl.get
      simp only
      split
      · rfl
      · split
        · rfl
        · split <;> rfl
  | push now r =>
      obtain ⟨_, ⟨⟩⟩ := Option.ite_none_right_eq_some.mp hstep
      unfold PoolImpl.push
      simp only
      split
      · next callbacks hpush => exact .push (Waiting.push_eq_true hpush)
      · next callbacks hpush =>
          exact .keep (congrArg Waiting.requests (Waiting.push_eq_false hpush)) (Or.inl rfl)
  -- with nobody waiting the cell goes into the storage
  | recycle now i =>
      obtain ⟨_, ⟨⟩⟩ := Option.ite_none_right_eq_some.mp hstep
      unfold PoolImpl.recycle
      simp only
      split
      · next callbacks hpop =>
          obtain ⟨hs, rfl⟩ := Waiting.pop_eq_none hpop
          exact .keep rfl (Or.inr hs)
      · next id callbacks hpop =>
          obtain ⟨r, hs, rfl⟩ := Waiting.pop_eq_some hpop
          exact .pop hs rfl (mem_done_post _ _ _)
  | waste i =>
      obtain ⟨_, ⟨⟩⟩ := Option.ite_none_right_eq_some.mp hstep
      unfold PoolImpl.waste
      simp only
      split
      · next callbacks hpop =>
          obtain ⟨hs, rfl⟩ := Waiting.pop_eq_none hpop
          exact .keep rfl (Or.inr hs)
      · next id callbacks hpop =>
          obtain ⟨r, hs, rfl⟩ := Waiting.pop_eq_some hpop
          exact .pop hs rfl (mem_done_post _ _ _)
  | serve p | reset now i v =>
      obtain ⟨_, ⟨⟩⟩ := Option.ite_none_right_eq_some.mp hstep
      exact .keep rfl (Or.inl rfl)
  | modify i f | invalidate =>
      cases hstep
      exact .keep rfl (Or.inl rfl)
  -- all that are late fail at once
  | cancel expiresAt =>
      cases hstep
      refine .fail (fun r => !decide (r.expiresAt ≤ expiresAt)) rfl ?_ rfl
      intro r hr hlate
      have hexpired : r ∈ s.callbacks.requests.filter fun r => decide (r.expiresAt ≤ expiresAt) :=
        List.mem_filter.mpr ⟨hr, by simpa using hlate⟩
      exact mem_done_fail _ .getResourceTimeout
        (List.mem_map_of_mem (List.mem_mergeSort.mpr hexpired))
  | disable =>
      cases hstep
      refine .fail (fun _ => false) (List.filter_false _).symm ?_ rfl
      intro r hr _
      exact mem_done_fail _ .disabled (List.mem_map_of_mem hr)

/-- A request in the queue was there before or has just been pushed. -/
theorem callbacks_step {s t : State α} {l : Label α} (hstep : step s l = some t) {r : Request}
    (hr : r ∈ t.callbacks.requests) :
    r ∈ s.callbacks.requests ∨ ∃ now w, l = .push now (r.id, w) ∧ r.expiresAt = add now w := by
  cases queueStep_of_step hstep with
  | keep hcallbacks _ => exact Or.inl (hcallbacks ▸ hr)
  | push hcallbacks =>
      rw [hcallbacks] at hr
      rcases List.mem_append.mp hr with hr | hr
      · exact Or.inl hr
      · obtain rfl := List.mem_singleton.mp hr
        exact Or.inr ⟨_, _, rfl, rfl⟩
  | pop hs hcallbacks _ => exact Or.inl (hs ▸ List.mem_cons_of_mem _ (hcallbacks ▸ hr))
  | fail p hcallbacks _ _ =>
      rw [hcallbacks] at hr
      exact Or.inl (List.mem_of_mem_filter hr)

/-- A request leaves the queue by being answered. -/
theorem queued_or_done {s t : State α} {l : Label α} (hstep : step s l = some t) {id : Nat}
    (hid : id ∈ s.callbacks.requests.map Request.id) :
    id ∈ t.callbacks.requests.map Request.id ∨ id ∈ t.done := by
  obtain ⟨r, hr, rfl⟩ := List.mem_map.mp hid
  cases queueStep_of_step hstep with
  | keep hcallbacks _ => exact Or.inl (hcallbacks ▸ hid)
  | push hcallbacks =>
      rw [hcallbacks, List.map_append]
      exact Or.inl (List.mem_append_left _ hid)
  -- the first request is answered, and the others stay
  | pop hs hcallbacks hdone =>
      rw [hs] at hr
      rcases List.mem_cons.mp hr with rfl | hr
      · exact Or.inr hdone
      · exact Or.inl (List.mem_map_of_mem (hcallbacks ▸ hr))
  | fail p hcallbacks hdone _ =>
      cases hp : p r with
      | false => exact Or.inr (hdone r hr hp)
      | true =>
          rw [hcallbacks]
          exact Or.inl (List.mem_map_of_mem (List.mem_filter.mpr ⟨hr, hp⟩))

/-! ## Waiting

Requests are answered in their order, one for each cell that comes back. How many are ahead of a
request bounds how long it waits. -/

/-- The requests ahead of one in the queue. -/
def ahead (id : Nat) (callbacks : List Request) : Nat :=
  (callbacks.takeWhile fun r => r.id ≠ id).length

/-- The cells that come back in a run. -/
def returned (ls : List (Label α)) : Nat := (ls.map Label.returned).sum

theorem ahead_append {id : Nat} {l l' : List Request} (h : id ∈ l.map Request.id) :
    ahead id (l ++ l') = ahead id l := by
  induction l with
  | nil => cases h
  | cons r l ih =>
      by_cases hr : r.id = id
      · simp [ahead, hr]
      · have hmem : id ∈ l.map Request.id := by
          simpa [Ne.symm hr] using h
        simpa [ahead, hr] using ih hmem

/-- Requests that give up are no longer ahead of anyone. -/
theorem ahead_filter_le {id : Nat} {l : List Request} {p : Request → Bool}
    (h : ∀ r ∈ l, r.id = id → p r = true) : ahead id (l.filter p) ≤ ahead id l := by
  induction l with
  | nil => exact Nat.le_refl _
  | cons r l ih =>
      have ih := ih fun r' hr' => h r' (List.mem_cons_of_mem r hr')
      by_cases hr : r.id = id
      · rw [List.filter_cons_of_pos (h r List.mem_cons_self hr)]
        simp [ahead, hr]
      · have hcons : ahead id (r :: l) = ahead id l + 1 := by simp [ahead, hr]
        rw [hcons]
        by_cases hp : p r
        · rw [List.filter_cons_of_pos hp]
          simpa [ahead, hr] using ih
        · rw [List.filter_cons_of_neg hp]
          omega

/-- A cell that comes back moves everybody up by one. -/
theorem ahead_step {s t : State α} {l : Label α}
    (hnodup : (s.callbacks.requests.map Request.id).Nodup)
    (hstep : step s l = some t) {id : Nat} (hs : id ∈ s.callbacks.requests.map Request.id)
    (ht : id ∈ t.callbacks.requests.map Request.id) :
    ahead id t.callbacks.requests + l.returned ≤ ahead id s.callbacks.requests := by
  have hle : l.returned ≤ 1 := by cases l <;> simp [Label.returned]
  cases queueStep_of_step hstep with
  | keep hcallbacks hreturned =>
      rcases hreturned with hreturned | hnil
      · rw [hcallbacks, hreturned, Nat.add_zero]
      · rw [hnil] at hs
        cases hs
  | push hcallbacks =>
      rw [hcallbacks, ahead_append hs]
      exact Nat.le_refl _
  | @pop _ r rs hcons hcallbacks _ =>
      rw [hcons, List.map_cons, List.nodup_cons] at hnodup
      rw [hcallbacks] at ht ⊢
      have hne : r.id ≠ id := fun h => hnodup.1 (h ▸ ht)
      have hahead : ahead id s.callbacks.requests = ahead id rs + 1 := by
        rw [hcons]
        simp [ahead, hne]
      omega
  | fail p hcallbacks _ hreturned =>
      rw [hreturned, hcallbacks, Nat.add_zero]
      apply ahead_filter_le
      -- the request is still there, and it is the only one of its number
      intro r hr hid
      rw [hcallbacks] at ht
      obtain ⟨r', hr', hid'⟩ := List.mem_map.mp ht
      obtain ⟨hmem, hp⟩ := List.mem_filter.mp hr'
      rwa [List.inj_on_of_nodup_map hnodup hr hmem (hid.trans hid'.symm)]

/-- An operation that calls no handler. Handlers that were posted stay posted. -/
structure Posts (s t : State α) : Prop where
  posted : s.posted <+: t.posted
  answered : t.answered = s.answered

theorem posts_get (now : TimePoint) (waitDuration : Duration) (s : State α) :
    Posts s (s.get now waitDuration) := by
  unfold PoolImpl.get
  simp only
  split
  · exact ⟨List.prefix_append _ _, rfl⟩
  · split
    · exact ⟨List.prefix_append _ _, rfl⟩
    · split
      · exact ⟨List.prefix_append _ _, rfl⟩
      · exact ⟨List.prefix_rfl, rfl⟩

theorem posts_push (now : TimePoint) (r : Nat × Duration) (s : State α) :
    Posts s (s.push now r) := by
  unfold PoolImpl.push
  simp only
  split
  · exact ⟨List.prefix_rfl, rfl⟩
  · exact ⟨List.prefix_append _ _, rfl⟩

theorem posts_recycle (now : TimePoint) (i : Nat) (s : State α) : Posts s (s.recycle now i) := by
  unfold PoolImpl.recycle
  simp only
  split
  · exact ⟨List.prefix_rfl, rfl⟩
  · exact ⟨List.prefix_append _ _, rfl⟩

theorem posts_waste (i : Nat) (s : State α) : Posts s (s.waste i) := by
  unfold PoolImpl.waste
  simp only
  split
  · exact ⟨List.prefix_rfl, rfl⟩
  · exact ⟨List.prefix_append _ _, rfl⟩

/-- Only `serve` calls a handler. -/
theorem posts_or_serve {s t : State α} {l : Label α} (hstep : step s l = some t) :
    Posts s t ∨ ∃ p, t = s.serve p := by
  cases l with
  | get now waitDuration =>
      cases hstep
      exact Or.inl (posts_get now waitDuration s)
  | push now r =>
      obtain ⟨_, ⟨⟩⟩ := Option.ite_none_right_eq_some.mp hstep
      exact Or.inl (posts_push now r _)
  | serve p =>
      obtain ⟨_, ⟨⟩⟩ := Option.ite_none_right_eq_some.mp hstep
      exact Or.inr ⟨p, rfl⟩
  | recycle now i =>
      obtain ⟨_, ⟨⟩⟩ := Option.ite_none_right_eq_some.mp hstep
      exact Or.inl (posts_recycle now i s)
  | waste i =>
      obtain ⟨_, ⟨⟩⟩ := Option.ite_none_right_eq_some.mp hstep
      exact Or.inl (posts_waste i s)
  | reset now i v =>
      obtain ⟨_, ⟨⟩⟩ := Option.ite_none_right_eq_some.mp hstep
      exact Or.inl ⟨List.prefix_rfl, rfl⟩
  | modify i f | invalidate =>
      cases hstep
      exact Or.inl ⟨List.prefix_rfl, rfl⟩
  | cancel expiresAt | disable =>
      cases hstep
      exact Or.inl ⟨List.prefix_append _ _, rfl⟩

/-- A posted handler stays posted until it is called. -/
theorem posted_step {s t : State α} {l : Label α} (hstep : step s l = some t) {p : Posted}
    (hp : p ∈ s.posted) : p ∈ t.posted ∨ p.id ∈ t.answered := by
  rcases posts_or_serve hstep with hposts | ⟨q, rfl⟩
  · exact Or.inl (hposts.posted.subset hp)
  · by_cases hpq : p = q
    · exact Or.inr (hpq ▸ List.mem_cons_self)
    · exact Or.inl ((List.mem_erase_of_ne hpq).mpr hp)

theorem answered_step {s t : State α} {l : Label α} (hstep : step s l = some t) {id : Nat}
    (hid : id ∈ s.answered) : id ∈ t.answered := by
  rcases posts_or_serve hstep with hposts | ⟨q, rfl⟩
  · rwa [hposts.answered]
  · exact List.mem_cons_of_mem _ hid

/-- A request that is done stays so. -/
theorem done_step {s t : State α} {l : Label α} (hstep : step s l = some t) {id : Nat}
    (hid : id ∈ s.done) : id ∈ t.done := by
  rcases List.mem_append.mp hid with hid | hid
  · obtain ⟨p, hp, rfl⟩ := List.mem_map.mp hid
    rcases posted_step hstep hp with hp | hp
    · exact List.mem_append_left _ (List.mem_map_of_mem hp)
    · exact List.mem_append_right _ hp
  · exact List.mem_append_right _ (answered_step hstep hid)

/-- Each request has one number and one stage. -/
theorem callbacks_nodup {s : State α} (h : s.ids.Perm (List.range s.requests)) :
    (s.callbacks.requests.map Request.id).Nodup := by
  have hnodup : s.ids.Nodup := h.nodup_iff.mpr List.nodup_range
  unfold PoolImpl.ids at hnodup
  exact (List.nodup_append.mp (List.nodup_append.mp (List.nodup_append.mp hnodup).1).1).2.1

/-- A request has reached one stage. -/
theorem not_done_of_queued {s : State α} (h : s.ids.Perm (List.range s.requests)) {id : Nat}
    (hid : id ∈ s.callbacks.requests.map Request.id) : id ∉ s.done := by
  have hnodup : s.ids.Nodup := h.nodup_iff.mpr List.nodup_range
  unfold PoolImpl.ids at hnodup
  rw [List.append_assoc] at hnodup
  intro hdone
  exact (List.nodup_append.mp hnodup).2.2 id (List.mem_append_right _ hid) id hdone rfl

/-- A request that is answered does not come back to the queue. -/
theorem done_run {s t : State α} {ls : List (Label α)} (hrun : run step s ls = some t) {id : Nat}
    (hid : id ∈ s.done) : id ∈ t.done :=
  run_invariant (I := fun s : State α => id ∈ s.done) (fun _ _ _ h hstep => done_step hstep h) hid
    hrun

theorem ids_run {s t : State α} {ls : List (Label α)} (h : s.ids.Perm (List.range s.requests))
    (hrun : run step s ls = some t) : t.ids.Perm (List.range t.requests) :=
  run_invariant (I := fun s : State α => s.ids.Perm (List.range s.requests))
    (fun _ _ _ h hstep => requests_step h hstep) h hrun

/-- The queue moves up with every cell that comes back. -/
theorem ahead_run {s t : State α} {ls : List (Label α)} (h : s.ids.Perm (List.range s.requests))
    (hrun : run step s ls = some t) {id : Nat} (hs : id ∈ s.callbacks.requests.map Request.id)
    (ht : id ∈ t.callbacks.requests.map Request.id) :
    ahead id t.callbacks.requests + returned ls ≤ ahead id s.callbacks.requests := by
  induction ls generalizing s with
  | nil =>
      cases hrun
      exact Nat.le_refl _
  | cons l ls ih =>
      obtain ⟨u, hstep, hrest⟩ := run_cons_eq_some.mp hrun
      have hu := requests_step h hstep
      rcases queued_or_done hstep hs with hqueued | hdone
      · have hfirst := ahead_step (callbacks_nodup h) hstep hs hqueued
        have hlater := ih hu hrest hqueued
        simp only [returned, List.map_cons, List.sum_cons] at hlater ⊢
        omega
      · exact absurd (done_run hrest hdone) (not_done_of_queued (ids_run hu hrest) ht)

/-- While a request waits, no more cells come back than there were requests ahead of it: each of
them goes to one of those. -/
theorem bounded_waiting (capacity queueCapacity : Nat) (idleTimeout lifespan : Duration)
    (ls ls' : List (Label α)) (s t : State α)
    (hrun : run step (init α capacity queueCapacity idleTimeout lifespan) ls = some s)
    (hrun' : run step s ls' = some t) (id : Nat) (hs : id ∈ s.callbacks.requests.map Request.id)
    (ht : id ∈ t.callbacks.requests.map Request.id) :
    returned ls' + ahead id t.callbacks.requests ≤ ahead id s.callbacks.requests := by
  have hahead := ahead_run (ids_run (List.Perm.refl _) hrun) hrun' hs ht
  omega

/-- Of two requests for the only cell the second still waits when the cell has come back once. -/
theorem bounded_waiting_second :
    ∃ s t, run step (init Nat 1 2 10 10) [.get 0 0, .serve ⟨0, .ok 0⟩, .get 0 5, .push 0 (1, 5),
        .get 0 5, .push 0 (2, 5)] = some s ∧
      run step s [.recycle 1 0, .serve ⟨1, .ok 0⟩] = some t ∧
      1 + ahead 2 t.callbacks.requests ≤ ahead 2 s.callbacks.requests := by
  have hrun : run step (init Nat 1 2 10 10) [.get 0 0, .serve ⟨0, .ok 0⟩, .get 0 5,
    .push 0 (1, 5), .get 0 5, .push 0 (2, 5)] = some _ := rfl
  refine ⟨_, _, hrun, rfl, ?_⟩
  exact bounded_waiting 1 2 10 10 _ [.recycle 1 0, .serve ⟨1, .ok 0⟩] _ _ hrun rfl 2 (by decide)
    (by decide)

/-! ## A pool that is disabled -/

/-- A disabled pool that nothing waits for. -/
structure Closed (s : State α) : Prop where
  disabled : s.disabled = true
  unqueued : s.unqueued = []
  callbacks : s.callbacks.requests = []

/-- A closed pool stays closed, and answers every request with `disabled`. -/
theorem Closed.step {s t : State α} {l : Label α} (h : Closed s) (hstep : step s l = some t) :
    Closed t ∧ ∀ p ∈ t.posted, p ∈ s.posted ∨ p.result = .error .disabled := by
  cases l with
  -- a disabled pool answers at once
  | get now waitDuration =>
      cases hstep
      unfold PoolImpl.get
      simp only
      rw [if_pos h.disabled]
      refine ⟨⟨h.disabled, h.unqueued, h.callbacks⟩, fun p hp => ?_⟩
      rcases mem_post.mp hp with hp | rfl
      · exact Or.inl hp
      · exact Or.inr rfl
  -- nobody is between the two sections of `get`
  | push now r =>
      obtain ⟨hr, ⟨⟩⟩ := Option.ite_none_right_eq_some.mp hstep
      rw [h.unqueued] at hr
      cases hr
  | serve q =>
      obtain ⟨_, ⟨⟩⟩ := Option.ite_none_right_eq_some.mp hstep
      exact ⟨⟨h.disabled, h.unqueued, h.callbacks⟩, fun p hp => Or.inl (List.mem_of_mem_erase hp)⟩
  -- nobody waits, so the cell goes into the storage
  | recycle now i =>
      obtain ⟨_, ⟨⟩⟩ := Option.ite_none_right_eq_some.mp hstep
      unfold PoolImpl.recycle
      simp only
      rw [Waiting.pop_of_nil h.callbacks]
      exact ⟨⟨h.disabled, h.unqueued, h.callbacks⟩, fun p hp => Or.inl hp⟩
  | waste i =>
      obtain ⟨_, ⟨⟩⟩ := Option.ite_none_right_eq_some.mp hstep
      unfold PoolImpl.waste
      simp only
      rw [Waiting.pop_of_nil h.callbacks]
      exact ⟨⟨h.disabled, h.unqueued, h.callbacks⟩, fun p hp => Or.inl hp⟩
  | reset now i v =>
      obtain ⟨_, ⟨⟩⟩ := Option.ite_none_right_eq_some.mp hstep
      exact ⟨⟨h.disabled, h.unqueued, h.callbacks⟩, fun p hp => Or.inl hp⟩
  | modify i f | invalidate =>
      cases hstep
      exact ⟨⟨h.disabled, h.unqueued, h.callbacks⟩, fun p hp => Or.inl hp⟩
  | cancel expiresAt =>
      cases hstep
      rw [cancel_of_nil h.callbacks]
      exact ⟨h, fun p hp => Or.inl hp⟩
  | disable =>
      cases hstep
      rw [disable_of_nil h.callbacks]
      exact ⟨⟨rfl, h.unqueued, h.callbacks⟩, fun p hp => Or.inl hp⟩

/-- After `disable`, unless someone is between the two sections of `get`, nothing waits and whoever
asks is told `disabled`. -/
theorem disabled_final (s t : State α) (ls : List (Label α)) (hunqueued : s.unqueued = [])
    (hrun : run step s.disable ls = some t) :
    t.unqueued = [] ∧ t.callbacks.requests = [] ∧
      ∀ p ∈ t.posted, p ∈ s.disable.posted ∨ p.result = .error .disabled := by
  have hclosed : Closed t ∧ ∀ p ∈ t.posted, p ∈ s.disable.posted ∨ p.result = .error .disabled := by
    refine run_invariant
      (I := fun t : State α =>
        Closed t ∧ ∀ p ∈ t.posted, p ∈ s.disable.posted ∨ p.result = .error .disabled)
      ?_ ?_ hrun
    · intro u l v ⟨hu, hposted⟩ hstep
      obtain ⟨hv, hnew⟩ := hu.step hstep
      exact ⟨hv, fun p hp => (hnew p hp).elim (hposted p) Or.inr⟩
    · exact ⟨⟨rfl, hunqueued, rfl⟩, fun p hp => Or.inl hp⟩
  exact ⟨hclosed.1.unqueued, hclosed.1.callbacks, hclosed.2⟩

/-- A request after `disable`, while the only cell is out and comes back. -/
theorem disabled_final_get :
    ∃ s t, run step (init Nat 1 1 10 10) [.get 0 0, .serve ⟨0, .ok 0⟩, .get 0 5, .push 0 (1, 5)] =
        some s ∧
      run step s.disable [.get 1 5, .recycle 2 0] = some t ∧ t.callbacks.requests = [] := by
  let s : State Nat :=
    (((init Nat 1 1 10 10).get 0 0).serve ⟨0, .ok 0⟩).get 0 5 |>.push 0 (1, 5)
  exact ⟨s, _, rfl, rfl, (disabled_final s _ [.get 1 5, .recycle 2 0] rfl rfl).2.1⟩

end OzoPg.ResourcePool
