import OzoPg.Connect.Model

/-!
# What a connect operation delivers

A success comes with an oid for every registered type: it is only reported behind a
`set_oid_map` that has returned, and a deadline only replaces the code by an error. It comes
without an error context too, since only errors leave one. A failure comes with the connection
all the same, and its oid map may have no oids, or only some of them.

* `Step` — the steps one by one, and `Effect` — what they come to.
* `Reports` — the codes delivered so far, and the one a deadline holds back.
* `resolves_of_delivers`, `errorContext_of_delivers` — what `connection_info` delivers with an
  empty code.
-/

namespace OzoPg.Connect

open State
open Request (Deadline)

/-! ## Steps by case

The steps with their labels, to invert `step` once and for all. Most of what follows does not depend
on how far the operation has come, so `Effect` has what a step does to the connection and to the
calls of the handler: nothing, the end of the operation, or one of the two steps of the timer. -/

/-- The steps one by one, each with the condition that enables it. -/
inductive Step (names : TypeNames) (s : State) : Label → State → Prop where
  | startFailed (handle : Option PgConn) (ec : ErrorCode) (hpc : s.pc = .connectStart)
      (hec : ec.failed = true) : Step names s (.connectStart handle) (s.done ec)
  | started (c : PgConn) (hpc : s.pc = .connectStart) :
      Step names s (.connectStart (some c)) { s with pc := .socket c }
  | socketFailed (c : PgConn) (hpc : s.pc = .socket c) :
      Step names s (.socket false) (s.done (.ofError .pqSocketFailed))
  | assigned (c : PgConn) (hpc : s.pc = .socket c) :
      Step names s (.socket true)
        { s with pc := .waiting, wait := .pending, conn := { s.conn with handle := some c } }
  | connected (hpc : s.pc = .connectPoll) : Step names s (.connectPoll .ok) (s.done .success)
  | polledAgain (r : PollingStatus) (hpc : s.pc = .connectPoll) (hr : r ≠ .ok) :
      Step names s (.connectPoll r) { s with pc := .waiting, wait := .pending }
  | pollFailed (r : PollingStatus) (hpc : s.pc = .connectPoll) (hr : r ≠ .ok) :
      Step names s (.connectPoll r) (s.done (.ofError .pqConnectPollFailed))
  | ready (ec : ErrorCode) (hwait : s.wait = .pending) :
      Step names s (.ready ec) { s with wait := .queued ec }
  | waitDelivered (ec : ErrorCode) (hpc : s.pc = .waiting) (hwait : s.wait = .queued ec) :
      Step names s .deliverWait (poll { s with wait := .none } ec)
  | oidsRequested (ec : ErrorCode) (res : List Oid) (errorContext : String)
      (hpc : s.pc = .requestOidMap) :
      Step names s (.oidsRequested ec res errorContext)
        (requestOidMapOp names { s with conn := leftBy s.conn ec errorContext } ec res)
  | changed (c : PgConn) :
      Step names s (.change c) { s with conn := { s.conn with handle := some c } }
  | timerExpired (d : Deadline) (hd : s.deadline = some d) (htimer : d.timer = .pending) :
      Step names s .timerExpired { s with deadline := some { d with timer := .queued } }
  | timerDelivered (d : Deadline) (hd : s.deadline = some d) (htimer : d.timer = .queued) :
      Step names s .deliverTimer (s.timerHandler d)

theorem Step.of_timer {names : TypeNames} {s t : State} {d : Deadline} (hd : s.deadline = some d)
    (hstep : (if d.timer = .queued then some (s.timerHandler d) else none) = some t) :
    Step names s .deliverTimer t := by
  obtain ⟨htimer, ⟨⟩⟩ := Option.ite_none_right_eq_some.mp hstep
  exact .timerDelivered d hd htimer

/-- Every step is one of these. -/
theorem Step.of_step {names : TypeNames} {s t : State} {l : Label}
    (hstep : step names s l = some t) : Step names s l t := by
  cases l with
  | connectStart handle =>
      obtain ⟨hpc, ⟨⟩⟩ := Option.ite_none_right_eq_some.mp hstep
      unfold afterConnectStart
      split
      · exact .startFailed _ _ hpc rfl
      -- a bad handle fails as a null one does
      · split
        · exact .startFailed _ _ hpc rfl
        · exact .started _ hpc
  | socket ok =>
      simp only [Connect.step] at hstep
      split at hstep
      · next c hpc =>
          cases hstep
          cases ok
          · exact .socketFailed c hpc
          · exact .assigned c hpc
      · cases hstep
  | connectPoll r =>
      obtain ⟨hpc, ⟨⟩⟩ := Option.ite_none_right_eq_some.mp hstep
      cases r with
      | ok => exact .connected hpc
      | failed | active => exact .pollFailed _ hpc (by simp)
      | reading | writing => exact .polledAgain _ hpc (by simp)
  | ready ec =>
      obtain ⟨hwait, ⟨⟩⟩ := Option.ite_none_right_eq_some.mp hstep
      exact .ready ec hwait
  | deliverWait =>
      simp only [Connect.step] at hstep
      split at hstep
      · next ec hpc hwait =>
          cases hstep
          exact .waitDelivered ec hpc hwait
      · cases hstep
  | oidsRequested ec res errorContext =>
      obtain ⟨hpc, ⟨⟩⟩ := Option.ite_none_right_eq_some.mp hstep
      exact .oidsRequested ec res errorContext hpc
  -- libpq changes a connection that is there
  | change c =>
      simp only [Connect.step] at hstep
      split at hstep
      · cases hstep
        exact .changed c
      · cases hstep
  | timerExpired =>
      simp only [Connect.step] at hstep
      split at hstep
      · next d hd =>
          obtain ⟨htimer, ⟨⟩⟩ := Option.ite_none_right_eq_some.mp hstep
          exact .timerExpired d hd htimer
      · cases hstep
  -- the three positions in the event loop, with the same handler
  | deliverTimer =>
      simp only [Connect.step] at hstep
      split at hstep
      · next d _ hd => exact .of_timer hd hstep
      · next d _ hd => exact .of_timer hd hstep
      · next d _ hd => exact .of_timer hd hstep
      · cases hstep

/-- How an operation on the connection `c` may end. -/
inductive Ends (c : Connection) (ec : ErrorCode) : Connection → Prop where
  | failed (c' : Connection) (hec : ec.failed = true) (hkeys : c'.oidMap.keys = c.oidMap.keys) :
      Ends c ec c'
  /-- There are no types to ask for. -/
  | noTypes (hempty : c.oidMap.entries = []) : Ends c ec c
  | oidsSet (res : List Oid) (hres : (setOidMap c.oidMap res).2 = none) :
      Ends c ec { c with oidMap := (setOidMap c.oidMap res).1 }

/-- No end of the operation registers a type or removes one. -/
theorem Ends.keys {c c' : Connection} {ec : ErrorCode} (h : Ends c ec c') :
    c'.oidMap.keys = c.oidMap.keys := by
  cases h with
  | failed _ _ hkeys => exact hkeys
  | noTypes => rfl
  | oidsSet res => exact keys_setOidMap c.oidMap res

@[simp] theorem oidMap_leftBy (c : Connection) (ec : ErrorCode) (errorContext : String) :
    (leftBy c ec errorContext).oidMap = c.oidMap := by
  unfold leftBy
  split <;> rfl

/-- The request for the oids ends the operation in one of the ways there are. -/
theorem ends_handlerCall (names : TypeNames) (c : Connection) (ec : ErrorCode) (res : List Oid)
    (errorContext : String) :
    Ends c (handlerCall names (leftBy c ec errorContext) ec res).1
      (handlerCall names (leftBy c ec errorContext) ec res).2 := by
  unfold handlerCall
  split
  · next hec => exact .failed _ hec (by rw [oidMap_leftBy])
  · next hec =>
      rw [leftBy, if_neg hec]
      split
      · next oidMap heq =>
          have hset : Ends c ec _ := .oidsSet res (by rw [heq])
          rwa [heq] at hset
      · next oidMap e heq =>
          have hkeys := keys_setOidMap c.oidMap res
          rw [heq] at hkeys
          exact .failed _ rfl hkeys

/-- What a step does to the connection and to the calls. -/
inductive Effect (s : State) : State → Prop where
  | same (t : State) (hpc : t.pc = .finished ↔ s.pc = .finished)
      (hmap : t.conn.oidMap = s.conn.oidMap)
      (hcontext : t.conn.errorContext = s.conn.errorContext) (hdeadline : t.deadline = s.deadline)
      (hdelivered : t.delivered = s.delivered) : Effect s t
  | ends (wait : Request.Wait) (ec : ErrorCode) (conn : Connection) (hpc : s.pc ≠ .finished)
      (hends : Ends s.conn ec conn) : Effect s (finish { s with wait, conn } ec)
  | expired (d : Deadline) (hd : s.deadline = some d) (htimer : d.timer = .pending) :
      Effect s { s with deadline := some { d with timer := .queued } }
  | timer (d : Deadline) (hd : s.deadline = some d) (htimer : d.timer = .queued) :
      Effect s (s.timerHandler d)

section

variable {s : State}

/-- The operation goes on. -/
theorem Effect.goOn {t : State} (hpc : s.pc ≠ .finished) (hpc' : t.pc ≠ .finished)
    (hmap : t.conn.oidMap = s.conn.oidMap) (hcontext : t.conn.errorContext = s.conn.errorContext)
    (hdeadline : t.deadline = s.deadline) (hdelivered : t.delivered = s.delivered) : Effect s t :=
  .same t (iff_of_false hpc' hpc) hmap hcontext hdeadline hdelivered

/-- The end of the polling loop with an error. -/
theorem Effect.done_failed (wait : Request.Wait) {conn : Connection} {ec : ErrorCode}
    (hpc : s.pc ≠ .finished) (hkeys : conn.oidMap.keys = s.conn.oidMap.keys)
    (hec : ec.failed = true) : Effect s (done { s with wait, conn } ec) := by
  rw [done_of_failed hec]
  exact .ends wait ec conn hpc (.failed conn hec hkeys)

/-- The end of the polling loop without one. -/
theorem Effect.done_success (hpc : s.pc ≠ .finished) : Effect s (s.done .success) := by
  unfold done
  split
  · next hempty => exact .ends s.wait .success s.conn hpc (.noTypes hempty)
  · exact .goOn hpc (by simp) rfl rfl rfl rfl

/-- A poll is an error at once or waits for the answer of libpq. -/
theorem Effect.poll (hpc : s.pc ≠ .finished) (wait : Request.Wait) (ec : ErrorCode) :
    Effect s (State.poll { s with wait } ec) := by
  unfold State.poll
  split
  · next hec => exact .done_failed wait hpc rfl hec
  · exact .goOn hpc (by simp) rfl rfl rfl rfl

/-- One step is one of the effects. -/
theorem Step.effect {names : TypeNames} {l : Label} {t : State} (h : Step names s l t) :
    Effect s t := by
  cases h with
  | startFailed handle ec hpc hec => exact .done_failed s.wait (by simp [hpc]) rfl hec
  | started c hpc => exact .goOn (by simp [hpc]) (by simp) rfl rfl rfl rfl
  | socketFailed c hpc => exact .done_failed s.wait (by simp [hpc]) rfl rfl
  | assigned c hpc => exact .goOn (by simp [hpc]) (by simp) rfl rfl rfl rfl
  | connected hpc => exact .done_success (by simp [hpc])
  | polledAgain r hpc hr => exact .goOn (by simp [hpc]) (by simp) rfl rfl rfl rfl
  | pollFailed r hpc hr => exact .done_failed s.wait (by simp [hpc]) rfl rfl
  | ready ec hwait => exact .same _ Iff.rfl rfl rfl rfl rfl
  | waitDelivered ec hpc hwait => exact .poll (by simp [hpc]) .none ec
  | oidsRequested ec res errorContext hpc =>
      exact .ends s.wait _ _ (by simp [hpc]) (ends_handlerCall names s.conn ec res errorContext)
  | changed c => exact .same _ Iff.rfl rfl rfl rfl rfl
  | timerExpired d hd htimer => exact .expired d hd htimer
  | timerDelivered d hd htimer => exact .timer d hd htimer

end

/-- What every invariant below is derived from. -/
theorem Effect.of_step {names : TypeNames} {s t : State} {l : Label}
    (hstep : step names s l = some t) : Effect s t :=
  (Step.of_step hstep).effect

/-! ## What is reported

Invariants of all connect operations have one form: what a success comes with. The form is shown to
be kept once, for any property. -/

/-- A success comes with the property: one delivered so far, and one a deadline holds back. The
code it holds back is that of the timer, or that of a finished operation. -/
structure Reports (P : Connection → Prop) (s : State) : Prop where
  delivered : ∀ p ∈ s.delivered, p.1.failed = false → P p.2
  stored : ∀ d, s.deadline = some d → d.firstCall = 2 ∨ d.ec.failed = true ∨
    (s.pc = .finished ∧ P s.conn)

section

variable {P : Connection → Prop} {s : State}

theorem reports_init (P : Connection → Prop) (keys : List OidKey) (timed : Bool) :
    Reports P (init keys timed) where
  delivered := by simp [init]
  stored d hd := by
    cases timed with
    | false => cases hd
    | true =>
        cases hd
        exact .inl rfl

/-- Before the end the deadline holds back nothing but the timer's code. -/
theorem Reports.stored_of_ne_finished (h : Reports P s) (hpc : s.pc ≠ .finished) :
    ∀ d, s.deadline = some d → d.firstCall = 2 ∨ d.ec.failed = true := by
  intro d hd
  rcases h.stored d hd with hfirst | hfailed | ⟨hfin, -⟩
  · exact .inl hfirst
  · exact .inr hfailed
  · exact absurd hfin hpc

/-- An operation may end with a success when the connection has the property. -/
theorem reports_finish (hdel : ∀ p ∈ s.delivered, p.1.failed = false → P p.2)
    (hstored : ∀ d, s.deadline = some d → d.firstCall = 2 ∨ d.ec.failed = true)
    {ec : ErrorCode} (hec : ec.failed = false → P s.conn) : Reports P (s.finish ec) := by
  unfold finish handler
  cases hd : s.deadline with
  | none =>
      simp only
      exact ⟨List.forall_mem_append.mpr ⟨hdel, List.forall_mem_singleton.mpr hec⟩, nofun⟩
  | some d =>
      simp only
      unfold Deadline.call
      split
      · -- the first call is held back
        refine ⟨hdel, ?_⟩
        rintro d' ⟨⟩
        right
        rcases Bool.eq_false_or_eq_true ec.failed with hf | hf
        · exact .inl hf
        · exact .inr ⟨rfl, hec hf⟩
      · next hlast =>
          -- the timer has come first, and its code is delivered
          have hfailed : d.ec.failed = true := by
            rcases hstored d hd with hfirst | hfailed
            · exact absurd hfirst (by omega)
            · exact hfailed
          refine ⟨List.forall_mem_append.mpr ⟨hdel, List.forall_mem_singleton.mpr ?_⟩, ?_⟩
          · intro hf
            simp [hfailed] at hf
          · rintro d' ⟨⟩
            exact .inr (.inl hfailed)

/-- The timer adds nothing but a failure. -/
theorem reports_timerHandler (h : Reports P s) {d : Deadline} (hd : s.deadline = some d) :
    Reports P (s.timerHandler d) := by
  unfold timerHandler
  split
  · next hfirst =>
      refine ⟨h.delivered, ?_⟩
      rintro d' ⟨⟩
      rw [Deadline.expire_of_first hfirst]
      exact .inr (.inl rfl)
  -- the timer delivers what the operation has left
  · next hlast =>
      have hstored : d.ec.failed = true ∨ (s.pc = .finished ∧ P s.conn) := by
        rcases h.stored d hd with hfirst | hstored
        · exact absurd hfirst (by omega)
        · exact hstored
      refine ⟨List.forall_mem_append.mpr ⟨h.delivered, List.forall_mem_singleton.mpr ?_⟩, ?_⟩
      · intro hf
        rcases hstored with hfailed | ⟨-, hconn⟩
        · simp [hfailed] at hf
        · exact hconn
      · rintro d' ⟨⟩
        rw [Deadline.expire_of_second (not_not.mp hlast)]
        exact .inr hstored

/-- Every step keeps what is said of a success, for a property that does not depend on the handle
and that an end with a success establishes. -/
theorem Reports.step {t : State} (h : Reports P s)
    (hP : ∀ c c' : Connection, c'.oidMap = c.oidMap → c'.errorContext = c.errorContext → P c → P c')
    (hends : ∀ wait ec conn, s.pc ≠ .finished → Ends s.conn ec conn →
      t = finish { s with wait, conn } ec → ec.failed = false → P conn)
    (heffect : Effect s t) : Reports P t := by
  cases heffect with
  -- neither the map nor the error context changes, so the property stays
  | same _ hpc hmap hcontext hdeadline hdelivered =>
      refine ⟨hdelivered ▸ h.delivered, fun d hd => ?_⟩
      rcases h.stored d (hdeadline ▸ hd) with hstored | hstored | ⟨hfin, hconn⟩
      · exact .inl hstored
      · exact .inr (.inl hstored)
      · exact .inr (.inr ⟨hpc.mpr hfin, hP _ _ hmap hcontext hconn⟩)
  | ends wait ec conn hpc hend =>
      apply reports_finish
      · exact h.delivered
      · exact h.stored_of_ne_finished hpc
      · exact hends wait ec conn hpc hend rfl
  | expired d hd htimer =>
      refine ⟨h.delivered, ?_⟩
      rintro d' ⟨⟩
      exact h.stored d hd
  | timer d hd htimer => exact reports_timerHandler h hd

end

/-! ## The oids -/

/-- The invariant of a connect operation for the types `keys`. -/
structure Inv (keys : List OidKey) (s : State) : Prop
    extends Reports (fun c => c.oidMap.Resolves keys) s where
  registered : s.conn.oidMap.keys = keys

section

variable {keys : List OidKey} {s : State}

theorem inv_init (keys : List OidKey) (timed : Bool) : Inv keys (init keys timed) :=
  ⟨reports_init _ keys timed, OidMap.keys_fresh keys⟩

/-- An end with a success is behind a `set_oid_map` that has returned. -/
theorem Ends.resolves {c c' : Connection} {ec : ErrorCode} (h : Ends c ec c')
    (hec : ec.failed = false) : c'.oidMap.Resolves c.oidMap.keys := by
  cases h with
  | failed c' hfailed => simp [hfailed] at hec
  | noTypes hempty =>
      -- there is nothing to resolve
      rw [OidMap.keys, hempty]
      rintro _ ⟨⟩
  | oidsSet res hres => exact setOidMap_resolves hres

theorem conn_finish (s : State) (ec : ErrorCode) : (s.finish ec).conn = s.conn := by
  unfold finish handler
  repeat' split
  all_goals rfl

@[simp] theorem conn_timerHandler (s : State) (d : Deadline) :
    (s.timerHandler d).conn = s.conn := by
  unfold timerHandler
  split <;> rfl

/-- The types stay registered. -/
theorem Effect.keys_eq {t : State} (h : Effect s t) :
    t.conn.oidMap.keys = s.conn.oidMap.keys := by
  cases h with
  | same _ _ hmap => rw [hmap]
  | ends wait ec conn hpc hends => rw [conn_finish, hends.keys]
  | expired d hd => rfl
  | timer d hd => rw [conn_timerHandler]

/-- Every step keeps the invariant. -/
theorem Inv.step {names : TypeNames} {t : State} {l : Label} (h : Inv keys s)
    (hstep : step names s l = some t) : Inv keys t := by
  have heffect := Effect.of_step hstep
  refine ⟨h.toReports.step (fun _ _ hmap _ hres => hmap ▸ hres) ?_ heffect,
    heffect.keys_eq.trans h.registered⟩
  exact fun _ _ _ _ hends _ hec => h.registered ▸ hends.resolves hec

/-- A connection that `connection_info` delivers with an empty code knows every registered
type. -/
theorem resolves_of_delivers {names : TypeNames} {ec : ErrorCode} {conn : Connection}
    (h : Delivers names keys ec conn) (hec : ec.failed = false) : conn.oidMap.Resolves keys := by
  obtain ⟨timed, ls, s, hrun, hmem⟩ := h
  have hinv : Inv keys s := Transition.run_invariant (fun _ _ _ h hstep => h.step hstep)
    (inv_init keys timed) hrun
  exact hinv.delivered _ hmem hec

end

/-! ## The error context -/

/-- There is no error context before the operation has ended, nor with a success. -/
structure NoContext (s : State) : Prop where
  going : s.pc ≠ .finished → s.conn.errorContext = ""
  reports : Reports (fun c => c.errorContext = "") s

/-- A success leaves the error context alone. -/
theorem Ends.errorContext {c c' : Connection} {ec : ErrorCode} (h : Ends c ec c')
    (hec : ec.failed = false) : c'.errorContext = c.errorContext := by
  cases h with
  | failed c' hfailed => simp [hfailed] at hec
  | noTypes => rfl
  | oidsSet => rfl

theorem pc_finish (s : State) (ec : ErrorCode) : (s.finish ec).pc = .finished := by
  unfold finish handler
  repeat' split
  all_goals rfl

/-- An error context is set with the call that ends the operation. -/
theorem NoContext.step {names : TypeNames} {s t : State} {l : Label} (h : NoContext s)
    (hstep : step names s l = some t) : NoContext t := by
  have heffect := Effect.of_step hstep
  refine ⟨?_, h.reports.step (fun _ _ _ hcontext hempty => hcontext.trans hempty)
    (fun _ _ _ hpc hends _ hec => (hends.errorContext hec).trans (h.going hpc)) heffect⟩
  cases heffect with
  | same _ hpc _ hcontext => exact fun hne => hcontext.trans (h.going (mt hpc.mpr hne))
  | ends wait ec conn => exact fun hpc => absurd (pc_finish _ ec) hpc
  | expired d hd => exact h.going
  | timer d hd =>
      rw [conn_timerHandler]
      unfold timerHandler
      split <;> exact h.going

/-- A connection that `connection_info` delivers with an empty code has no error context. -/
theorem errorContext_of_delivers {names : TypeNames} {keys : List OidKey} {ec : ErrorCode}
    {conn : Connection} (h : Delivers names keys ec conn) (hec : ec.failed = false) :
    conn.errorContext = "" := by
  obtain ⟨timed, ls, s, hrun, hmem⟩ := h
  have hinit : NoContext (init keys timed) := ⟨fun _ => rfl, reports_init _ keys timed⟩
  have hinv : NoContext s :=
    Transition.run_invariant (fun _ _ _ h hstep => h.step hstep) hinit hrun
  exact hinv.reports.delivered _ hmem hec

end OzoPg.Connect
