import OzoPg.Connect.Pipeline

/-!
# A failed request for the oids

`request_oid_map_op::operator()` catches what `set_oid_map` throws and calls its handler with
`oid_request_failed` and the connection, whose oid map it does not restore. The map may then have
new oids for some types and old ones for the others.

* `kept_or_success` — a step changes the oid map only if it reports no error.
* `failed_update_keeps_map_iff` — when a failed request leaves the map as it was.
-/

namespace OzoPg.Connect

open State Transition
open Request (Deadline)

/-- A failed update leaves the map as it was, and so does the request it is made by. -/
structure FailsCleanly (names : TypeNames) (conn : Connection) (res : List Oid) : Prop where
  map : (setOidMap conn.oidMap res).2 ≠ none → (setOidMap conn.oidMap res).1 = conn.oidMap
  connection : ∀ ec conn', handlerCall names conn ec res = (.ofError .oidRequestFailed, conn') →
    conn'.oidMap = conn.oidMap

section

variable {names : TypeNames} {conn : Connection} {res : List Oid}

/-- The handler's connection has another map only if there is no error. -/
theorem handlerCall_of_harmless (names : TypeNames) (h : Harmless conn.oidMap res)
    (ec : ErrorCode) :
    (handlerCall names conn ec res).2.oidMap = conn.oidMap ∨
      (handlerCall names conn ec res).1.failed = false := by
  unfold handlerCall
  split
  · exact .inl rfl
  · next hec =>
      split
      · exact .inr (Bool.eq_false_iff.mpr hec)
      · next oidMap e heq =>
          have hkeeps := (setOidMap_keeps_iff _ _).mpr h
          rw [heq] at hkeeps
          exact .inl (hkeeps (by simp))

/-- The request keeps the map exactly when the update does. -/
theorem failsCleanly_iff : FailsCleanly names conn res ↔ Harmless conn.oidMap res := by
  constructor
  · intro h
    exact (setOidMap_keeps_iff _ _).mp h.map
  · intro h
    refine ⟨(setOidMap_keeps_iff _ _).mpr h, ?_⟩
    intro ec conn' hcall
    have hkept := handlerCall_of_harmless names h ec
    rw [hcall] at hkept
    rcases hkept with hkept | hec
    · exact hkept
    · cases hec

end

/-! ## Runs -/

/-- `async_connect` on any connection, with or without a time constraint. -/
def startWith (conn : Connection) (timed : Bool) : State :=
  { start conn with deadline := if timed then some .start else none }

@[simp] theorem conn_done (s : State) (ec : ErrorCode) : (s.done ec).conn = s.conn := by
  unfold done
  repeat' split
  · exact conn_finish s ec
  · exact conn_finish s ec
  · rfl

@[simp] theorem oidMap_poll (s : State) (ec : ErrorCode) :
    (s.poll ec).conn.oidMap = s.conn.oidMap := by
  unfold poll
  split
  · rw [conn_done]
  · rfl

/-- The oids a request returns are harmless for the map `m`. -/
def HarmlessLabel (m : OidMap) (l : Label) : Prop :=
  ∀ ec res errorContext, l = .oidsRequested ec res errorContext → ec.failed = false → Harmless m res

/-- Only the end of a request for the oids changes the map. -/
theorem Step.oidMap_eq {names : TypeNames} {s t : State} {l : Label} (h : Step names s l t)
    (hl : ∀ ec res errorContext, l ≠ .oidsRequested ec res errorContext) :
    t.conn.oidMap = s.conn.oidMap := by
  cases h with
  | startFailed | socketFailed | connected | pollFailed | waitDelivered | timerDelivered => simp
  | started | assigned | polledAgain | ready | changed | timerExpired => rfl
  | oidsRequested ec res errorContext => exact absurd rfl (hl ec res errorContext)

/-- With harmless oids a step changes the map only if it ends the operation without an error. -/
theorem kept_or_success {names : TypeNames} {s t : State} {l : Label}
    (hstep : step names s l = some t) (hl : HarmlessLabel s.conn.oidMap l) :
    t.conn.oidMap = s.conn.oidMap ∨
      ∃ conn ec, ec.failed = false ∧ t = finish { s with conn } ec := by
  by_cases hreq : ∃ ec res errorContext, l = .oidsRequested ec res errorContext
  · obtain ⟨ec, res, errorContext, rfl⟩ := hreq
    obtain ⟨hpc, ⟨⟩⟩ := Option.ite_none_right_eq_some.mp hstep
    by_cases hec : ec.failed = true
    · left
      rw [requestOidMapOp, conn_finish, handlerCall, if_pos hec]
      exact oidMap_leftBy _ _ _
    · rw [leftBy, if_neg hec, requestOidMapOp, conn_finish]
      have hharmless := hl ec res errorContext rfl (Bool.eq_false_iff.mpr hec)
      rcases handlerCall_of_harmless names hharmless ec with hkept | hsuccess
      · exact .inl hkept
      · exact .inr ⟨_, _, hsuccess, rfl⟩
  · simp only [not_exists] at hreq
    exact .inl ((Step.of_step hstep).oidMap_eq hreq)

/-- `oid_request_failed` comes with the map `m`: delivered so far, or held back by a deadline. -/
structure Unmixed (m : OidMap) (s : State) : Prop where
  pending : s.pc ≠ .finished → s.conn.oidMap = m ∧
    ∀ d, s.deadline = some d → d.ec ≠ .ofError .oidRequestFailed
  stored : ∀ d, s.deadline = some d → d.ec = .ofError .oidRequestFailed → s.conn.oidMap = m
  delivered : ∀ p ∈ s.delivered, p.1 = .ofError .oidRequestFailed → p.2.oidMap = m

section

variable {m : OidMap} {s : State}

/-- Nothing has been delivered at the start. -/
theorem unmixed_startWith (conn : Connection) (timed : Bool) :
    Unmixed conn.oidMap (startWith conn timed) where
  pending _ := by
    refine ⟨rfl, ?_⟩
    cases timed with
    | false => simp [startWith]
    | true =>
        rintro d ⟨⟩
        decide
  stored _ _ _ := rfl
  delivered := by simp [startWith, start]

/-- An operation may end with any other code, whatever the map. -/
theorem Unmixed.finish (h : Unmixed m s) (hpc : s.pc ≠ .finished) (wait : Request.Wait)
    {conn : Connection} {ec : ErrorCode}
    (hec : ec = .ofError .oidRequestFailed → conn.oidMap = m) :
    Unmixed m (State.finish { s with wait, conn } ec) := by
  unfold State.finish handler
  cases hd : s.deadline with
  | none =>
      refine ⟨by simp, by simp, ?_⟩
      exact List.forall_mem_append.mpr ⟨h.delivered, List.forall_mem_singleton.mpr hec⟩
  | some d =>
      simp only
      unfold Deadline.call
      have hne := (h.pending hpc).2 d hd
      split
      · refine ⟨by simp, ?_, h.delivered⟩
        rintro d' ⟨⟩
        exact hec
      · -- the timer has come first, with its own code
        refine ⟨by simp, ?_, List.forall_mem_append.mpr ⟨h.delivered, ?_⟩⟩
        · rintro d' ⟨⟩ heq
          exact absurd heq hne
        · exact List.forall_mem_singleton.mpr fun heq => absurd heq hne

/-- The timer delivers what is held back, or holds back a code of its own. -/
theorem Unmixed.timerHandler (h : Unmixed m s) {d : Deadline} (hd : s.deadline = some d) :
    Unmixed m (s.timerHandler d) := by
  -- what the timer leaves is not an error of the request
  have htimedOut : ErrorCode.timedOut ≠ .ofError .oidRequestFailed := by decide
  unfold State.timerHandler
  split
  · next hfirst =>
      rw [Deadline.expire_of_first hfirst]
      refine ⟨fun hpc => ⟨(h.pending hpc).1, ?_⟩, ?_, h.delivered⟩
      · rintro d' ⟨⟩
        exact htimedOut
      · rintro d' ⟨⟩ heq
        exact absurd heq htimedOut
  · next hsecond =>
      rw [Deadline.expire_of_second (not_not.mp hsecond)]
      refine ⟨fun hpc => ⟨(h.pending hpc).1, ?_⟩, ?_, ?_⟩
      · rintro d' ⟨⟩
        exact (h.pending hpc).2 d hd
      · rintro d' ⟨⟩
        exact h.stored d hd
      · exact List.forall_mem_append.mpr
          ⟨h.delivered, List.forall_mem_singleton.mpr (h.stored d hd)⟩

/-- Every step with harmless oids keeps the invariant. -/
theorem Unmixed.step {names : TypeNames} {t : State} {l : Label} (h : Unmixed m s)
    (hl : HarmlessLabel m l) (hstep : step names s l = some t) : Unmixed m t := by
  cases Effect.of_step hstep with
  | same _ hpc hmap _ hdeadline hdelivered =>
      refine ⟨fun hne => ?_, fun d hd heq => ?_, hdelivered ▸ h.delivered⟩
      · obtain ⟨hm, hpending⟩ := h.pending (mt hpc.mpr hne)
        exact ⟨hmap.trans hm, hdeadline ▸ hpending⟩
      · exact hmap.trans (h.stored d (hdeadline ▸ hd) heq)
  | ends wait ec conn hpc =>
      have hm := (h.pending hpc).1
      -- the oids are harmless: the map is kept, or the operation succeeds
      rcases kept_or_success hstep (hm ▸ hl) with hkept | ⟨conn', ec', hec', heq⟩
      · rw [conn_finish] at hkept
        exact h.finish hpc wait fun _ => hkept.trans hm
      · rw [heq]
        refine h.finish hpc s.wait ?_
        rintro rfl
        cases hec'
  | expired d hd htimer =>
      refine ⟨fun hpc => ⟨(h.pending hpc).1, ?_⟩, ?_, h.delivered⟩
      · rintro d' ⟨⟩
        exact (h.pending hpc).2 d hd
      · rintro d' ⟨⟩
        exact h.stored d hd
  | timer d hd => exact h.timerHandler hd

end

/-- A failed update of the oid map leaves it as it was exactly if the oids are harmless. In a run
whose requests return harmless oids only, a connection that is delivered with `oid_request_failed`
has the map it had before. -/
theorem failed_update_keeps_map_iff (names : TypeNames) (conn : Connection) :
    (∀ res, FailsCleanly names conn res ↔ Harmless conn.oidMap res) ∧
      ∀ timed ls s, run (step names) (startWith conn timed) ls = some s →
        (∀ ec res errorContext, .oidsRequested ec res errorContext ∈ ls → ec.failed = false →
          Harmless conn.oidMap res) →
        ∀ conn', (.ofError .oidRequestFailed, conn') ∈ s.delivered →
          conn'.oidMap = conn.oidMap := by
  refine ⟨fun _ => failsCleanly_iff, ?_⟩
  intro timed ls s hrun hharmless conn' hmem
  have htrue : Meets (step names) (fun _ _ => True) (startWith conn timed) ls := meets_true _ ls
  have hmeets := htrue.and_of_forall (p := HarmlessLabel conn.oidMap)
    (fun l hl ec res errorContext heq => hharmless ec res errorContext (heq ▸ hl))
  have hinv : Unmixed conn.oidMap s :=
    run_invariant_of_meets (fun v l w hv hok hstep => hv.step hok.2 hstep)
      (unmixed_startWith conn timed) hmeets hrun
  exact hinv.delivered _ hmem rfl

/-! ## Two registered types -/

/-- The request of a new connection returns the oids `res`. -/
def oidsRun (res : List Oid) : List Label :=
  [.connectStart (some ⟨.started, .unknown⟩), .socket true, .ready .success, .deliverWait,
    .connectPoll .ok, .oidsRequested .success res ""]

/-- The second type is not known to the server. The first one has its new oid, in a map of old
oids and in the one of a new connection. -/
theorem failed_update_mixes_oids :
    setOidMap ⟨[(.object (.user 0), 1), (.object (.user 1), 2)]⟩ [11, nullOid] =
        (⟨[(.object (.user 0), 11), (.object (.user 1), 2)]⟩, some (.nullOid (.object (.user 1)))) ∧
      ∃ s conn, run (step ⟨fun _ => "user", fun _ => "user"⟩) (startWith twoTypes false)
          (oidsRun [11, nullOid]) = some s ∧
        (.ofError .oidRequestFailed, conn) ∈ s.delivered ∧
        twoTypes.oidMap.oids = [nullOid, nullOid] ∧ conn.oidMap.oids = [11, nullOid] :=
  ⟨rfl, _, _, rfl, List.mem_singleton_self _, rfl, rfl⟩

/-- Neither type is known, and nothing is written. -/
theorem failed_update_keeps_twoTypes :
    ∃ s conn, run (step ⟨fun _ => "user", fun _ => "user"⟩) (startWith twoTypes false)
        (oidsRun [nullOid, nullOid]) = some s ∧
      (.ofError .oidRequestFailed, conn) ∈ s.delivered ∧ conn.oidMap = twoTypes.oidMap := by
  refine ⟨_, _, rfl, List.mem_singleton_self _, ?_⟩
  refine (failed_update_keeps_map_iff ⟨fun _ => "user", fun _ => "user"⟩ twoTypes).2 false
    (oidsRun [nullOid, nullOid]) _ rfl ?_ _ (List.mem_singleton_self _)
  intro ec res errorContext hmem _
  simp only [oidsRun, List.mem_cons, Label.oidsRequested.injEq, reduceCtorEq, List.not_mem_nil,
    or_false, false_or] at hmem
  obtain ⟨-, rfl, -⟩ := hmem
  decide

end OzoPg.Connect
