import OzoPg.ResourcePool.Model

/-!
# What a resource pool guarantees

In every run of the pool, whoever uses it and in whichever order the handlers run, each cell is in
one place and each request in one stage.

* `handles_exclusive` — no two handles share a cell, and there are never more than `capacity`.
* `answered_once` — no request is lost and none is answered twice.
* `posted_within_lifespan` — no value is handed over after its lifespan.
-/

namespace OzoPg.ResourcePool

open Transition PoolImpl

variable {α : Type}

/-! ## Requests

A request is with its caller, in the queue, posted or answered. Every operation moves requests
between these lists, so they stay a permutation of all that came. -/

/-- The requests, by the stage they have reached. -/
def PoolImpl.ids (s : State α) : List Nat :=
  s.unqueued.map Prod.fst ++ s.callbacks.requests.map Request.id ++ s.posted.map Posted.id ++
    s.answered

theorem ids_post (s : State α) (id : Nat) (result : Except Failure Nat) :
    (s.post id result).ids.Perm (id :: s.ids) := by
  rw [List.perm_iff_count]
  intro a
  simp only [ids, post, List.map_append, List.count_append, List.map_cons, List.map_nil,
    List.count_cons, List.count_nil]
  omega

/-- A new request is entered. -/
theorem ids_get (now : TimePoint) (waitDuration : Duration) (s : State α) :
    (s.get now waitDuration).ids.Perm (s.requests :: s.ids) := by
  unfold PoolImpl.get
  simp only
  split
  · exact ids_post _ _ _
  · split
    · exact ids_post _ _ _
    · split
      · exact ids_post _ _ _
      · rw [List.perm_iff_count]
        intro a
        simp only [ids, List.map_append, List.count_append, List.map_cons, List.map_nil,
          List.count_cons, List.count_nil]
        omega

/-- From the caller into the queue, or straight to its handler. -/
theorem ids_push (now : TimePoint) {r : Nat × Duration} {s : State α} (hr : r ∈ s.unqueued) :
    (s.push now r).ids.Perm s.ids := by
  have hunqueued := ((List.perm_cons_erase hr).map Prod.fst).count_eq
  unfold push
  simp only
  split
  · next callbacks hpush =>
      rw [List.perm_iff_count]
      intro a
      simp only [ids, Waiting.push_eq_true hpush, List.map_append, List.count_append,
        List.map_cons, List.map_nil, List.count_cons, List.count_nil, hunqueued a]
      omega
  · next callbacks hpush =>
      refine (ids_post _ _ _).trans ?_
      rw [List.perm_iff_count]
      intro a
      simp only [ids, Waiting.push_eq_false hpush, List.count_append, List.map_cons,
        List.count_cons, hunqueued a]
      omega

theorem ids_serve {p : Posted} {s : State α} (hp : p ∈ s.posted) : (s.serve p).ids.Perm s.ids := by
  have hposted := ((List.perm_cons_erase hp).map Posted.id).count_eq
  rw [List.perm_iff_count]
  intro a
  simp only [ids, serve, List.count_append, List.map_cons, List.count_cons, hposted a]
  omega

/-- The first request of the queue is answered; whatever happens to the cells. -/
theorem ids_pop {s : State α} {id : Nat} {callbacks : Waiting}
    (hpop : RequestQueue.pop s.callbacks = (some id, callbacks)) (storage : Storage α)
    (handles : List Nat) (result : Except Failure Nat) :
    ({ s with storage, handles, callbacks }.post id result).ids.Perm s.ids := by
  obtain ⟨r, hs, rfl⟩ := Waiting.pop_eq_some hpop
  refine (ids_post _ _ _).trans ?_
  rw [List.perm_iff_count]
  intro a
  simp only [ids, hs, List.count_append, List.map_cons, List.count_cons]
  omega

/-- A cell that comes back moves the first request on. -/
theorem ids_recycle (now : TimePoint) (i : Nat) (s : State α) :
    (s.recycle now i).ids.Perm s.ids := by
  unfold recycle
  simp only
  split
  · next callbacks hpop =>
      rw [(Waiting.pop_eq_none hpop).2]
      exact List.Perm.refl _
  · next id callbacks hpop => exact ids_pop hpop _ _ _

theorem ids_waste (i : Nat) (s : State α) : (s.waste i).ids.Perm s.ids := by
  unfold waste
  simp only
  split
  · next callbacks hpop =>
      rw [(Waiting.pop_eq_none hpop).2]
      exact List.Perm.refl _
  · next id callbacks hpop => exact ids_pop hpop _ _ _

/-- Requests of the queue fail, in any order. -/
theorem ids_fail {s : State α} {failed : List Nat} {callbacks : Waiting}
    (hs : (failed ++ callbacks.requests.map Request.id).Perm (s.callbacks.requests.map Request.id))
    (failure : Failure) (disabled : Bool) :
    ({ s with disabled, callbacks }.fail failure failed).ids.Perm s.ids := by
  have hcallbacks := hs.count_eq
  rw [List.perm_iff_count]
  intro a
  have hmap : (failed.map fun id => (⟨id, .error failure⟩ : Posted)).map Posted.id = failed := by
    rw [List.map_map]
    exact List.map_id failed
  simp only [ids, fail, List.map_append, List.count_append, hmap, ← hcallbacks a]
  omega

/-- Late requests are posted. -/
theorem ids_cancel (expiresAt : TimePoint) (s : State α) : (s.cancel expiresAt).ids.Perm s.ids := by
  apply ids_fail
  show (List.map Request.id _ ++ List.map Request.id _).Perm _
  rw [← List.map_append]
  refine List.Perm.map _ (((List.mergeSort_perm _ _).append_right _).trans ?_)
  exact List.filter_append_perm _ _

/-- So are all when the pool is disabled. -/
theorem ids_disable (s : State α) : s.disable.ids.Perm s.ids := by
  apply ids_fail
  exact List.Perm.of_eq (List.append_nil _)

@[simp] theorem requests_get (now : TimePoint) (waitDuration : Duration) (s : State α) :
    (s.get now waitDuration).requests = s.requests + 1 := by
  unfold PoolImpl.get
  simp only
  split
  · rfl
  · split
    · rfl
    · split <;> rfl

@[simp] theorem requests_push (now : TimePoint) (r : Nat × Duration) (s : State α) :
    (s.push now r).requests = s.requests := by
  unfold push
  simp only
  split <;> rfl

@[simp] theorem requests_recycle (now : TimePoint) (i : Nat) (s : State α) :
    (s.recycle now i).requests = s.requests := by
  unfold recycle
  simp only
  split <;> rfl

@[simp] theorem requests_waste (i : Nat) (s : State α) : (s.waste i).requests = s.requests := by
  unfold waste
  simp only
  split <;> rfl

/-- Each request is in one stage, and only `get` makes a new one. -/
theorem requests_step {s t : State α} {l : Label α} (h : s.ids.Perm (List.range s.requests))
    (hstep : step s l = some t) : t.ids.Perm (List.range t.requests) := by
  cases l with
  -- the new request has the next number
  | get now waitDuration =>
      cases hstep
      rw [requests_get, List.range_succ]
      refine (ids_get now waitDuration s).trans ?_
      exact (h.cons _).trans (List.perm_append_singleton _ _).symm
  | push now r =>
      obtain ⟨hr, ⟨⟩⟩ := Option.ite_none_right_eq_some.mp hstep
      rw [requests_push]
      exact (ids_push now hr).trans h
  | serve p =>
      obtain ⟨hp, ⟨⟩⟩ := Option.ite_none_right_eq_some.mp hstep
      exact (ids_serve hp).trans h
  | recycle now i =>
      obtain ⟨_, ⟨⟩⟩ := Option.ite_none_right_eq_some.mp hstep
      rw [requests_recycle]
      exact (ids_recycle now i s).trans h
  | waste i =>
      obtain ⟨_, ⟨⟩⟩ := Option.ite_none_right_eq_some.mp hstep
      rw [requests_waste]
      exact (ids_waste i s).trans h
  | reset now i v =>
      obtain ⟨_, ⟨⟩⟩ := Option.ite_none_right_eq_some.mp hstep
      exact h
  | modify i f | invalidate =>
      cases hstep
      exact h
  | cancel expiresAt =>
      cases hstep
      exact (ids_cancel expiresAt s).trans h
  | disable =>
      cases hstep
      exact (ids_disable s).trans h

/-- Every request is in exactly one stage: between the sections of `get`, in the queue, posted or
answered. In particular none is lost and none is answered twice. -/
theorem answered_once (capacity queueCapacity : Nat) (idleTimeout lifespan : Duration)
    (ls : List (Label α)) (s : State α)
    (hrun : run step (init α capacity queueCapacity idleTimeout lifespan) ls = some s) :
    s.answered.Nodup ∧ ∀ id < s.requests, s.ids.count id = 1 := by
  have hperm : s.ids.Perm (List.range s.requests) :=
    run_invariant (I := fun s : State α => s.ids.Perm (List.range s.requests))
      (fun _ _ _ h hstep => requests_step h hstep) (List.Perm.refl _) hrun
  constructor
  · have hnodup : s.ids.Nodup := hperm.nodup_iff.mpr List.nodup_range
    exact (List.nodup_append.mp hnodup).2.1
  · intro id hid
    rw [hperm.count_eq id, List.nodup_range.count, if_pos (List.mem_range.mpr hid)]

/-- Three requests for one cell, in three stages. -/
theorem answered_once_stages :
    ∃ s, run step (init Nat 1 1 10 10)
        [.get 0 0, .serve ⟨0, .ok 0⟩, .get 0 5, .push 0 (1, 5), .get 0 0] = some s ∧
      s.answered.Nodup ∧ ∀ id < s.requests, s.ids.count id = 1 := by
  have hrun : run step (init Nat 1 1 10 10)
    [.get 0 0, .serve ⟨0, .ok 0⟩, .get 0 5, .push 0 (1, 5), .get 0 0] = some _ := rfl
  exact ⟨_, hrun, answered_once 1 1 10 10 _ _ hrun⟩

/-! ## Cells

A cell is out from the moment it is leased until its handle is given up, and in between it is in one
place. -/

/-- The cell of a posted handler. -/
def Posted.cell? (p : Posted) : Option Nat := p.result.toOption

/-- The cells that are with a handler: on their way to it or in its handle. -/
def PoolImpl.out (s : State α) : List Nat := s.posted.filterMap Posted.cell? ++ s.handles

/-- Every cell is in one list of the storage, and the used ones are out. -/
structure Inv (capacity : Nat) (s : State α) : Prop where
  cells : s.storage.all.Perm (List.range capacity)
  used : s.storage.used.Perm s.out
  sound : s.storage.Sound

namespace Inv

variable {capacity : Nat} {s : State α}

theorem nodup (h : Inv capacity s) : s.storage.all.Nodup :=
  h.cells.nodup_iff.mpr List.nodup_range

/-- No cell is out twice. -/
theorem out_nodup (h : Inv capacity s) : s.out.Nodup := by
  have hall := h.nodup
  unfold Storage.all at hall
  exact h.used.nodup_iff.mp (List.nodup_append.mp (List.nodup_append.mp hall).1).2.1

/-- The cell of a handle is a used one. -/
theorem mem_used_of_handle (h : Inv capacity s) {i : Nat} (hi : i ∈ s.handles) :
    i ∈ s.storage.used :=
  h.used.mem_iff.mpr (List.mem_append_right _ hi)

/-- A used cell is neither available nor wasted. -/
theorem not_mem_of_mem_used (h : Inv capacity s) {i : Nat} (hi : i ∈ s.storage.used) :
    i ∉ s.storage.available ∧ i ∉ s.storage.wasted := by
  have hall := h.nodup
  unfold Storage.all at hall
  obtain ⟨hleft, _, hdisj⟩ := List.nodup_append.mp hall
  constructor
  · intro hmem
    exact (List.nodup_append.mp hleft).2.2 i hmem i hi rfl
  · intro hmem
    exact hdisj i (List.mem_append_right _ hi) i hmem rfl

end Inv

@[simp] theorem out_post_error (s : State α) (id : Nat) (failure : Failure) :
    (s.post id (.error failure)).out = s.out := by
  simp [out, post, Posted.cell?, Except.toOption]

theorem out_post_ok (s : State α) (id i : Nat) : (s.post id (.ok i)).out.Perm (i :: s.out) := by
  have hout : (s.post id (.ok i)).out = s.posted.filterMap Posted.cell? ++ i :: s.handles := by
    simp [out, post, Posted.cell?, Except.toOption]
  rw [hout]
  exact List.perm_middle

/-- The cell of a handle, and the cells that are out besides. -/
theorem out_handle {s : State α} {i : Nat} (hi : i ∈ s.handles) :
    s.out.Perm (i :: { s with handles := s.handles.erase i }.out) := by
  refine ((List.perm_cons_erase hi).append_left _).trans ?_
  exact List.perm_middle

/-- From the posted handler into its handle. -/
theorem out_serve {p : Posted} {s : State α} (hp : p ∈ s.posted) :
    (s.serve p).out.Perm s.out := by
  have hposted : (s.posted.filterMap Posted.cell?).Perm
      (p.cell?.toList ++ (s.posted.erase p).filterMap Posted.cell?) := by
    refine ((List.perm_cons_erase hp).filterMap _).trans ?_
    cases h : p.cell? <;> simp [h]
  refine List.Perm.trans ?_ (hposted.append_right _).symm
  show ((s.posted.erase p).filterMap Posted.cell? ++ (p.cell?.toList ++ s.handles)).Perm _
  rw [← List.append_assoc]
  exact List.perm_append_comm.append_right _

theorem out_fail (s : State α) (failed : List Nat) (failure : Failure) :
    (s.fail failure failed).out = s.out := by
  have hnone : (failed.map fun id => (⟨id, .error failure⟩ : Posted)).filterMap Posted.cell? =
      [] := by
    simp [List.filterMap_map, Posted.cell?, Except.toOption, Function.comp_def]
  simp [out, fail, List.filterMap_append, hnone]

namespace Inv

variable {capacity : Nat} {s : State α}

/-- Steps that leave the storage alone. -/
theorem congr (h : Inv capacity s) {t : State α} (hstorage : t.storage = s.storage)
    (hout : t.out.Perm s.out) : Inv capacity t where
  cells := hstorage ▸ h.cells
  used := (hstorage ▸ h.used).trans hout.symm
  sound := hstorage ▸ h.sound

/-- A leased cell goes to the caller's handler. -/
theorem get (h : Inv capacity s) (now : TimePoint) (waitDuration : Duration) :
    Inv capacity (s.get now waitDuration) := by
  -- a lease moves cells between the lists and puts one of them behind the used ones
  have hcells := (s.storage.all_lease now).trans h.cells
  have hused := s.storage.used_lease now
  have hsound := h.sound.lease now
  unfold PoolImpl.get
  simp only
  split
  · refine h.congr rfl ?_
    rw [out_post_error]
    exact List.Perm.refl _
  · split
    · next i storage hlease =>
        rw [hlease] at hcells hused hsound
        refine ⟨hcells, ?_, hsound⟩
        refine List.Perm.trans ?_ (out_post_ok _ _ i).symm
        show storage.used.Perm (i :: s.out)
        rw [hused]
        exact (List.perm_append_singleton i _).trans (h.used.cons i)
    -- nothing was leased, though values may have been dropped
    · next storage hlease =>
        rw [hlease] at hcells hused hsound
        have hused' : storage.used.Perm s.out := by
          rw [hused]
          simpa using h.used
        split
        · refine ⟨hcells, ?_, hsound⟩
          rw [out_post_error]
          exact hused'
        · exact ⟨hcells, hused', hsound⟩

theorem push (h : Inv capacity s) (now : TimePoint) (r : Nat × Duration) :
    Inv capacity (s.push now r) := by
  unfold PoolImpl.push
  simp only
  split
  · exact h.congr rfl (List.Perm.refl _)
  · refine h.congr rfl ?_
    rw [out_post_error]
    exact List.Perm.refl _

theorem sound_resetValue (h : Inv capacity s) (i : Nat) : (s.storage.resetValue i).Sound :=
  h.sound.resetValue i s.storage.used (List.subset_append_left _ _)

/-- A handle goes with its cell, which the storage no longer counts as used. -/
theorem erase_handle (h : Inv capacity s) {i : Nat} (hi : i ∈ s.handles) :
    (s.storage.used.erase i).Perm { s with handles := s.handles.erase i }.out := by
  have herase := (h.used.trans (out_handle hi)).erase i
  rwa [List.erase_cons_head] at herase

/-- A handle goes and its cell is posted to the next request. -/
theorem handOver (h : Inv capacity s) {i : Nat} (hi : i ∈ s.handles) {storage : Storage α}
    (hsound : storage.Sound) (hall : storage.all = s.storage.all)
    (hused : storage.used = s.storage.used) (id : Nat) (callbacks : Waiting) :
    Inv capacity
      ({ s with storage, callbacks, handles := s.handles.erase i }.post id (.ok i)) where
  cells := hall ▸ h.cells
  used := by
    refine List.Perm.trans ?_ (out_post_ok _ _ i).symm
    show storage.used.Perm (i :: { s with handles := s.handles.erase i }.out)
    rw [hused]
    exact h.used.trans (out_handle hi)
  sound := hsound

/-- A cell is passed on to the next request, or goes back into the storage. -/
theorem recycle (h : Inv capacity s) (now : TimePoint) {i : Nat} (hi : i ∈ s.handles) :
    Inv capacity (s.recycle now i) := by
  have hmem := h.mem_used_of_handle hi
  unfold PoolImpl.recycle
  simp only
  split
  · refine ⟨(Storage.all_recycle now hmem).trans h.cells, ?_, h.sound.recycle now i⟩
    rw [Storage.used_recycle]
    exact h.erase_handle hi
  · next id callbacks hpop =>
      split
      · exact h.handOver hi h.sound rfl rfl id callbacks
      · exact h.handOver hi (h.sound_resetValue i) rfl rfl id callbacks

/-- A wasted cell is passed on as well, without its value. -/
theorem waste (h : Inv capacity s) {i : Nat} (hi : i ∈ s.handles) :
    Inv capacity (s.waste i) := by
  have hmem := h.mem_used_of_handle hi
  unfold PoolImpl.waste
  simp only
  split
  · refine ⟨(Storage.all_waste hmem).trans h.cells, ?_, h.sound.waste i⟩
    exact h.erase_handle hi
  · next id callbacks hpop =>
      exact h.handOver hi (h.sound_resetValue i) rfl rfl id callbacks

theorem reset (h : Inv capacity s) (now : TimePoint) {i : Nat} (v : α) (hi : i ∈ s.handles) :
    Inv capacity (s.reset now i v) where
  cells := h.cells
  used := h.used
  sound := by
    -- the cell of a handle is in neither of the lists the promise is about
    obtain ⟨havailable, hwasted⟩ := h.not_mem_of_mem_used (h.mem_used_of_handle hi)
    dsimp only [PoolImpl.reset]
    apply h.sound.modify
    · intro hmem
      exact absurd hmem havailable
    · intro hmem
      exact absurd hmem hwasted

theorem modify (h : Inv capacity s) (i : Nat) (f : α → α) : Inv capacity (s.modify i f) where
  cells := h.cells
  used := h.used
  sound := by
    dsimp only [PoolImpl.modify]
    apply h.sound.modify
    · exact h.sound.dropTime i
    · intro hmem
      simp [h.sound.wasted i hmem]

theorem serve (h : Inv capacity s) {p : Posted} (hp : p ∈ s.posted) : Inv capacity (s.serve p) :=
  h.congr rfl (out_serve hp)

theorem cancel (h : Inv capacity s) (expiresAt : TimePoint) : Inv capacity (s.cancel expiresAt) :=
  h.congr rfl (List.Perm.of_eq (out_fail _ _ _))

theorem disable (h : Inv capacity s) : Inv capacity s.disable :=
  h.congr rfl (List.Perm.of_eq (out_fail _ _ _))

/-- The values go, the cells stay. -/
theorem invalidate (h : Inv capacity s) : Inv capacity s.invalidate where
  cells := (s.storage.all_invalidate).trans h.cells
  used := h.used
  sound := h.sound.invalidate

end Inv

theorem inv_init (capacity queueCapacity : Nat) (idleTimeout lifespan : Duration) :
    Inv capacity (init α capacity queueCapacity idleTimeout lifespan) where
  cells := List.Perm.refl _
  used := List.Perm.refl _
  sound := Storage.sound_init capacity idleTimeout lifespan

/-- Every step moves cells, none makes one or loses one. -/
theorem Inv.step {capacity : Nat} {s t : State α} {l : Label α} (h : Inv capacity s)
    (hstep : step s l = some t) : Inv capacity t := by
  cases l with
  | get now waitDuration =>
      cases hstep
      exact h.get now waitDuration
  | push now r =>
      obtain ⟨_, ⟨⟩⟩ := Option.ite_none_right_eq_some.mp hstep
      exact h.push now r
  | serve p =>
      obtain ⟨hp, ⟨⟩⟩ := Option.ite_none_right_eq_some.mp hstep
      exact h.serve hp
  | recycle now i =>
      obtain ⟨hi, ⟨⟩⟩ := Option.ite_none_right_eq_some.mp hstep
      exact h.recycle now hi
  | waste i =>
      obtain ⟨hi, ⟨⟩⟩ := Option.ite_none_right_eq_some.mp hstep
      exact h.waste hi
  | reset now i v =>
      obtain ⟨hi, ⟨⟩⟩ := Option.ite_none_right_eq_some.mp hstep
      exact h.reset now v hi
  | modify i f =>
      cases hstep
      exact h.modify i f
  | cancel expiresAt =>
      cases hstep
      exact h.cancel expiresAt
  | disable =>
      cases hstep
      exact h.disable
  | invalidate =>
      cases hstep
      exact h.invalidate

/-! ## Lifespans -/

/-- The reading of the clock in a step. -/
def Label.now? : Label α → Option TimePoint
  | .get now _ | .push now _ | .recycle now _ | .reset now _ _ => some now
  | _ => none

theorem mem_post {s : State α} {id : Nat} {result : Except Failure Nat} {p : Posted} :
    p ∈ (s.post id result).posted ↔ p ∈ s.posted ∨ p = ⟨id, result⟩ := by
  simp [post]

/-- The value of cell `i` has not reached the end of its life at the time of `l`. -/
def Alive (l : Label α) (s : State α) (i : Nat) : Prop :=
  ∃ now, l.now? = some now ∧
    now.toInt < (s.storage.cells i).resetTime.toInt + s.storage.lifespan.toInt

/-- A leased value has not reached its drop time, which comes before the end of its life. -/
theorem alive_get {capacity : Nat} {s t : State α} (h : Inv capacity s) {now : TimePoint}
    {waitDuration : Duration} (ht : s.get now waitDuration = t) {p : Posted} (hp : p ∈ t.posted)
    (hnew : p ∉ s.posted) {i : Nat} (hcell : p.cell? = some i)
    (hvalue : (t.storage.cells i).value ≠ none) : Alive (.get now waitDuration) t i := by
  unfold PoolImpl.get at ht
  simp only at ht
  split at ht
  · subst ht
    obtain rfl := (mem_post.mp hp).resolve_left hnew
    cases hcell
  · split at ht
    -- the only branch that posts a cell
    · next j storage hlease =>
        subst ht
        obtain rfl := (mem_post.mp hp).resolve_left hnew
        cases hcell
        refine ⟨now, rfl, toInt_lt_of_lt_add ?_⟩
        exact Storage.lease_within_lifespan h.sound hlease hvalue
    · split at ht
      · subst ht
        obtain rfl := (mem_post.mp hp).resolve_left hnew
        cases hcell
      · subst ht
        exact absurd hp hnew

/-- A value is passed on only while it is valid. -/
theorem alive_recycle {s t : State α} {now : TimePoint} {j : Nat} (ht : s.recycle now j = t)
    {p : Posted} (hp : p ∈ t.posted) (hnew : p ∉ s.posted) {i : Nat} (hcell : p.cell? = some i)
    (hvalue : (t.storage.cells i).value ≠ none) : Alive (.recycle now j) t i := by
  unfold PoolImpl.recycle at ht
  simp only at ht
  split at ht
  · subst ht
    exact absurd hp hnew
  · split at ht
    · next hvalid =>
        -- the cell goes on as it is
        subst ht
        obtain rfl := (mem_post.mp hp).resolve_left hnew
        cases hcell
        refine ⟨now, rfl, toInt_lt_of_lt_add ?_⟩
        simp only [Storage.isValid, Bool.and_eq_true, Bool.not_eq_true', decide_eq_false_iff_not]
          at hvalid
        exact Int64.not_le.mp hvalid.2
    · subst ht
      obtain rfl := (mem_post.mp hp).resolve_left hnew
      cases hcell
      exact absurd (Storage.value_resetValue s.storage j) hvalue

/-- What is handed over by `waste` is empty. -/
theorem value_of_waste {s t : State α} {j : Nat} (ht : s.waste j = t) {p : Posted}
    (hp : p ∈ t.posted) (hnew : p ∉ s.posted) {i : Nat} (hcell : p.cell? = some i) :
    (t.storage.cells i).value = none := by
  unfold PoolImpl.waste at ht
  simp only at ht
  split at ht
  · subst ht
    exact absurd hp hnew
  · subst ht
    obtain rfl := (mem_post.mp hp).resolve_left hnew
    cases hcell
    exact Storage.value_resetValue s.storage j

section Runs

variable {capacity queueCapacity : Nat} {idleTimeout lifespan : Duration} {ls : List (Label α)}
  {s : State α}

theorem inv_of_run
    (hrun : run step (init α capacity queueCapacity idleTimeout lifespan) ls = some s) :
    Inv capacity s :=
  run_invariant (fun _ _ _ h hstep => h.step hstep) (inv_init _ _ _ _) hrun

/-- A cell is with one handler at a time, as its handle or on its way, and there are no more of
them than the capacity of the pool. -/
theorem handles_exclusive
    (hrun : run step (init α capacity queueCapacity idleTimeout lifespan) ls = some s) :
    s.out.Nodup ∧ s.out.length ≤ capacity := by
  have hinv := inv_of_run hrun
  refine ⟨hinv.out_nodup, ?_⟩
  have hlength := hinv.cells.length_eq
  rw [List.length_range] at hlength
  rw [← hinv.used.length_eq, ← hlength]
  simp only [Storage.all, List.length_append]
  omega

/-- A cell on its way and one in a handle. -/
theorem handles_exclusive_two :
    ∃ s, run step (init Nat 2 0 10 10) [.get 0 0, .serve ⟨0, .ok 0⟩, .get 0 0] = some s ∧
      s.out.Nodup ∧ s.out.length ≤ 2 := by
  have hrun : run step (init Nat 2 0 10 10) [.get 0 0, .serve ⟨0, .ok 0⟩, .get 0 0] =
    some _ := rfl
  exact ⟨_, hrun, handles_exclusive hrun⟩

/-- A value that is handed over in a step has not reached the end of its life then. -/
theorem posted_within_lifespan
    (hrun : run step (init α capacity queueCapacity idleTimeout lifespan) ls = some s)
    {l : Label α} {t : State α} (hstep : step s l = some t) {p : Posted} (hp : p ∈ t.posted)
    (hnew : p ∉ s.posted) {i : Nat} (hcell : p.cell? = some i)
    (hvalue : (t.storage.cells i).value ≠ none) : Alive l t i := by
  cases l with
  | get now waitDuration =>
      cases hstep
      exact alive_get (inv_of_run hrun) rfl hp hnew hcell hvalue
  -- an overflow posts an error
  | push now r =>
      obtain ⟨_, ⟨⟩⟩ := Option.ite_none_right_eq_some.mp hstep
      unfold PoolImpl.push at hp
      simp only at hp
      split at hp
      · exact absurd hp hnew
      · obtain rfl := (mem_post.mp hp).resolve_left hnew
        cases hcell
  | serve q =>
      obtain ⟨_, ⟨⟩⟩ := Option.ite_none_right_eq_some.mp hstep
      exact absurd (List.mem_of_mem_erase hp) hnew
  | recycle now j =>
      obtain ⟨_, ⟨⟩⟩ := Option.ite_none_right_eq_some.mp hstep
      exact alive_recycle rfl hp hnew hcell hvalue
  -- a wasted cell is passed on without a value
  | waste j =>
      obtain ⟨_, ⟨⟩⟩ := Option.ite_none_right_eq_some.mp hstep
      exact absurd (value_of_waste rfl hp hnew hcell) hvalue
  | reset now j v =>
      obtain ⟨_, ⟨⟩⟩ := Option.ite_none_right_eq_some.mp hstep
      exact absurd hp hnew
  | modify j f | invalidate =>
      cases hstep
      exact absurd hp hnew
  | cancel expiresAt | disable =>
      cases hstep
      rcases List.mem_append.mp hp with hp | hp
      · exact absurd hp hnew
      · obtain ⟨r, _, rfl⟩ := List.mem_map.mp hp
        cases hcell

/-- A value that was put into the cell at `1` and recycled is handed over at `5`. -/
theorem posted_within_lifespan_recycled :
    ∃ s t, run step (init Nat 1 0 10 10)
        [.get 0 0, .serve ⟨0, .ok 0⟩, .reset 1 0 7, .recycle 2 0] = some s ∧
      step s (.get 5 0) = some t ∧ Alive (.get 5 0) t 0 := by
  have hrun : run step (init Nat 1 0 10 10)
    [.get 0 0, .serve ⟨0, .ok 0⟩, .reset 1 0 7, .recycle 2 0] = some _ := rfl
  refine ⟨_, _, hrun, rfl, ?_⟩
  exact posted_within_lifespan hrun rfl (p := ⟨1, .ok 0⟩) (by decide) (by decide) rfl (by decide)

end Runs

end OzoPg.ResourcePool
