import OzoPg.Connect.Outcome

/-!
# The connect pipeline

Without a time constraint the outcome of `async_connect` passes three handlers: the polling loop,
the request for the oids and `set_oid_map`. What the user's handler gets is a function of the last
answer of `PQconnectPoll` and of the outcome of the request.

* `History` — what the labels of a run have to do with where the operation is.
* `delivered_success_iff` — when the operation succeeds, and with which oid map.
-/

namespace OzoPg.Connect

open State

/-- `async_connect` without a time constraint, on any connection. -/
def start (conn : Connection) : State :=
  { pc := .connectStart
    wait := .none
    conn
    deadline := none
    delivered := [] }

/-! ## What has happened -/

/-- The answers of `PQconnectPoll`, in their order. -/
def polls (ls : List Label) : List PollingStatus :=
  ls.filterMap fun
    | .connectPoll r => some r
    | _ => none

/-- The outcomes of requests for the oids. -/
def oidRequests (ls : List Label) : List (ErrorCode × List Oid) :=
  ls.filterMap fun
    | .oidsRequested ec res _ => some (ec, res)
    | _ => none

/-- The label is neither an answer of `PQconnectPoll` nor the end of a request. -/
def Label.silent : Label → Bool
  | .connectPoll _ => false
  | .oidsRequested _ _ _ => false
  | _ => true

@[simp] theorem polls_nil : polls [] = [] := rfl

theorem polls_append_of_silent (ls : List Label) {l : Label} (h : l.silent = true) :
    polls (ls ++ [l]) = polls ls := by
  cases l <;> simp_all [polls, Label.silent]

theorem oidRequests_append_of_silent (ls : List Label) {l : Label} (h : l.silent = true) :
    oidRequests (ls ++ [l]) = oidRequests ls := by
  cases l <;> simp_all [oidRequests, Label.silent]

@[simp] theorem polls_append_connectPoll (ls : List Label) (r : PollingStatus) :
    polls (ls ++ [.connectPoll r]) = polls ls ++ [r] := by
  simp [polls]

@[simp] theorem oidRequests_append_connectPoll (ls : List Label) (r : PollingStatus) :
    oidRequests (ls ++ [.connectPoll r]) = oidRequests ls := by
  simp [oidRequests]

@[simp] theorem polls_append_oidsRequested (ls : List Label) (ec : ErrorCode) (res : List Oid)
    (ctx : String) : polls (ls ++ [.oidsRequested ec res ctx]) = polls ls := by
  simp [polls]

@[simp] theorem oidRequests_append_oidsRequested (ls : List Label) (ec : ErrorCode)
    (res : List Oid) (ctx : String) :
    oidRequests (ls ++ [.oidsRequested ec res ctx]) = oidRequests ls ++ [(ec, res)] := by
  simp [oidRequests]

/-! ## The invariant

The stage of the operation is known from the answers of libpq so far. This is the invariant of the
pipeline without a deadline. -/

/-- How an operation on a connection with the oid map `m` has ended. -/
inductive Ended (m : OidMap) (ps : List PollingStatus) (rs : List (ErrorCode × List Oid)) :
    List (ErrorCode × Connection) → Prop where
  | notConnected (ec : ErrorCode) (c : Connection) (hec : ec.failed = true)
      (hpolls : ps.getLast? ≠ some .ok) (hrequests : rs = []) : Ended m ps rs [(ec, c)]
  | requestFailed (ec : ErrorCode) (res : List Oid) (c : Connection) (hec : ec.failed = true)
      (hpolls : ps.getLast? = some .ok) (hrequests : rs = [(ec, res)]) : Ended m ps rs [(ec, c)]
  | mapFailed (ec ec' : ErrorCode) (res : List Oid) (c : Connection) (hec : ec.failed = true)
      (hpolls : ps.getLast? = some .ok) (hrequests : rs = [(ec', res)])
      (hmap : (setOidMap m res).2 ≠ none) : Ended m ps rs [(ec, c)]
  | connected (ec : ErrorCode) (res : List Oid) (c : Connection) (hec : ec.failed = false)
      (hpolls : ps.getLast? = some .ok) (hrequests : rs = [(ec, res)])
      (hmap : (setOidMap m res).2 = none) (hc : c.oidMap = (setOidMap m res).1) :
      Ended m ps rs [(ec, c)]

/-- The stages of the pipeline. -/
inductive Stage (m : OidMap) (ps : List PollingStatus) (rs : List (ErrorCode × List Oid))
    (s : State) : Prop where
  | polling (hpc : s.pc ≠ .requestOidMap ∧ s.pc ≠ .finished) (hmap : s.conn.oidMap = m)
      (hdelivered : s.delivered = []) (hpolls : ps.getLast? ≠ some .ok) (hrequests : rs = [])
  | requesting (hpc : s.pc = .requestOidMap) (hmap : s.conn.oidMap = m)
      (hdelivered : s.delivered = []) (hpolls : ps.getLast? = some .ok) (hrequests : rs = [])
  | finished (hpc : s.pc = .finished) (h : Ended m ps rs s.delivered)

/-- Where the operation is after a run, and how it got there. -/
structure History (m : OidMap) (ls : List Label) (s : State) : Prop where
  deadline : s.deadline = none
  stage : Stage m (polls ls) (oidRequests ls) s

section

variable {m : OidMap} {ps : List PollingStatus} {rs : List (ErrorCode × List Oid)} {s t : State}

/-- Without a deadline the end is a call of the user's handler. -/
theorem finish_of_none (h : s.deadline = none) (ec : ErrorCode) :
    s.finish ec =
      { s with pc := .finished, delivered := s.delivered ++ [(ec, s.conn)] } := by
  unfold finish handler
  simp only [h]

/-- The stage does not depend on the wait or on the status of the connection. -/
theorem Stage.congr (h : Stage m ps rs s) (hpc : t.pc = s.pc)
    (hmap : t.conn.oidMap = s.conn.oidMap) (hdelivered : t.delivered = s.delivered) :
    Stage m ps rs t := by
  cases h with
  | polling hpc' hmap' hdelivered' hpolls hrequests =>
      exact .polling (hpc ▸ hpc') (hmap.trans hmap') (hdelivered.trans hdelivered') hpolls hrequests
  | requesting hpc' hmap' hdelivered' hpolls hrequests =>
      exact .requesting (hpc.trans hpc') (hmap.trans hmap') (hdelivered.trans hdelivered') hpolls
        hrequests
  | finished hpc' h => exact .finished (hpc.trans hpc') (hdelivered ▸ h)

/-- The end of the polling loop with an error. -/
theorem stage_done_failed (hdeadline : s.deadline = none) (hdelivered : s.delivered = [])
    (hpolls : ps.getLast? ≠ some .ok) (hrequests : rs = []) {ec : ErrorCode}
    (hec : ec.failed = true) :
    (s.done ec).deadline = none ∧ Stage m ps rs (s.done ec) := by
  rw [done_of_failed hec, finish_of_none hdeadline, hdelivered]
  exact ⟨hdeadline, .finished rfl (.notConnected ec s.conn hec hpolls hrequests)⟩

/-- The end of the polling loop without one. -/
theorem stage_done_success (hm : m.entries ≠ []) (hdeadline : s.deadline = none)
    (hmap : s.conn.oidMap = m) (hdelivered : s.delivered = []) (hpolls : ps.getLast? = some .ok)
    (hrequests : rs = []) :
    (s.done .success).deadline = none ∧ Stage m ps rs (s.done .success) := by
  have hdone : s.done .success = { s with pc := .requestOidMap } := by
    unfold done
    rw [if_neg (hmap ▸ hm), if_neg (by simp)]
  rw [hdone]
  exact ⟨hdeadline, .requesting rfl hmap hdelivered hpolls hrequests⟩

/-- What the request comes to. -/
theorem ended_handlerCall (names : TypeNames) {conn : Connection} (hmap : conn.oidMap = m)
    (hpolls : ps.getLast? = some .ok) {ec : ErrorCode} {res : List Oid}
    (hrequests : rs = [(ec, res)]) : Ended m ps rs [handlerCall names conn ec res] := by
  unfold handlerCall
  rw [hmap]
  split
  · next hec => exact .requestFailed ec res conn hec hpolls hrequests
  · next hec =>
      split
      · next oidMap heq =>
          exact .connected ec res _ (Bool.eq_false_iff.mpr hec) hpolls hrequests (by rw [heq])
            (by rw [heq])
      · next oidMap e heq =>
          exact .mapFailed _ ec res _ rfl hpolls hrequests (by simp [heq])

/-- The end of the request. -/
theorem stage_requestOidMapOp (names : TypeNames) (hdeadline : s.deadline = none)
    (hmap : s.conn.oidMap = m) (hdelivered : s.delivered = []) (hpolls : ps.getLast? = some .ok)
    {ec : ErrorCode} {res : List Oid} (hrequests : rs = [(ec, res)]) :
    (s.requestOidMapOp names ec res).deadline = none ∧
      Stage m ps rs (s.requestOidMapOp names ec res) := by
  have hended := ended_handlerCall names hmap hpolls hrequests
  rw [requestOidMapOp, finish_of_none]
  · refine ⟨hdeadline, .finished rfl ?_⟩
    rw [hdelivered]
    exact hended
  · exact hdeadline

end

/-- In the polling loop the operation is at the beginning of the pipeline. -/
theorem Stage.of_polling {m : OidMap} {ps : List PollingStatus} {rs : List (ErrorCode × List Oid)}
    {s : State} (h : Stage m ps rs s) (hpc : s.pc ≠ .requestOidMap ∧ s.pc ≠ .finished) :
    s.conn.oidMap = m ∧ s.delivered = [] ∧ ps.getLast? ≠ some .ok ∧ rs = [] := by
  cases h with
  | polling _ hmap hdelivered hpolls hrequests => exact ⟨hmap, hdelivered, hpolls, hrequests⟩
  | requesting hpc' => exact absurd hpc' hpc.1
  | finished hpc' => exact absurd hpc' hpc.2

/-- The request for the oids is made once, after a successful poll. -/
theorem Stage.of_requesting {m : OidMap} {ps : List PollingStatus}
    {rs : List (ErrorCode × List Oid)} {s : State} (h : Stage m ps rs s)
    (hpc : s.pc = .requestOidMap) :
    s.conn.oidMap = m ∧ s.delivered = [] ∧ ps.getLast? = some .ok ∧ rs = [] := by
  cases h with
  | polling hpc' => exact absurd hpc hpc'.1
  | requesting _ hmap hdelivered hpolls hrequests => exact ⟨hmap, hdelivered, hpolls, hrequests⟩
  | finished hpc' =>
      rw [hpc] at hpc'
      cases hpc'

theorem History.of_and {m : OidMap} {ls : List Label} {s : State}
    (h : s.deadline = none ∧ Stage m (polls ls) (oidRequests ls) s) : History m ls s :=
  ⟨h.1, h.2⟩

/-- A label that is neither an answer of `PQconnectPoll` nor the end of a request. -/
theorem History.silent {m : OidMap} {ls : List Label} {l : Label} {t : State}
    (hl : l.silent = true)
    (h : t.deadline = none ∧ Stage m (polls ls) (oidRequests ls) t) : History m (ls ++ [l]) t := by
  refine ⟨h.1, ?_⟩
  rw [polls_append_of_silent ls hl, oidRequests_append_of_silent ls hl]
  exact h.2

/-- One step moves the operation on in the pipeline, or leaves it at its stage. -/
theorem History.step {names : TypeNames} {m : OidMap} (hm : m.entries ≠ []) {ls : List Label}
    {s t : State} {l : Label} (h : History m ls s) (hstep : step names s l = some t) :
    History m (ls ++ [l]) t := by
  obtain ⟨hdeadline, hstage⟩ := h
  cases Step.of_step hstep with
  -- up to the answer of the last poll the stage is the first one
  | startFailed handle ec hpc hec =>
      obtain ⟨hmap, hdelivered, hpolls, hrequests⟩ := hstage.of_polling (by simp [hpc])
      exact .silent rfl (stage_done_failed hdeadline hdelivered hpolls hrequests hec)
  | started c hpc =>
      obtain ⟨hmap, hdelivered, hpolls, hrequests⟩ := hstage.of_polling (by simp [hpc])
      exact .silent rfl ⟨hdeadline, .polling (by simp) hmap hdelivered hpolls hrequests⟩
  | socketFailed c hpc =>
      obtain ⟨hmap, hdelivered, hpolls, hrequests⟩ := hstage.of_polling (by simp [hpc])
      exact .silent rfl (stage_done_failed hdeadline hdelivered hpolls hrequests rfl)
  | assigned c hpc =>
      obtain ⟨hmap, hdelivered, hpolls, hrequests⟩ := hstage.of_polling (by simp [hpc])
      exact .silent rfl ⟨hdeadline, .polling (by simp) hmap hdelivered hpolls hrequests⟩
  -- types are registered, so a request for their oids follows
  | connected hpc =>
      obtain ⟨hmap, hdelivered, -, hrequests⟩ := hstage.of_polling (by simp [hpc])
      exact .of_and (stage_done_success hm hdeadline hmap hdelivered (by simp) (by simpa))
  | polledAgain r hpc hr =>
      obtain ⟨hmap, hdelivered, -, hrequests⟩ := hstage.of_polling (by simp [hpc])
      exact ⟨hdeadline, .polling (by simp) hmap hdelivered (by simpa) (by simpa)⟩
  | pollFailed r hpc hr =>
      obtain ⟨hmap, hdelivered, -, hrequests⟩ := hstage.of_polling (by simp [hpc])
      exact .of_and (stage_done_failed hdeadline hdelivered (by simpa) (by simpa) rfl)
  | ready ec hwait => exact .silent rfl ⟨hdeadline, hstage.congr rfl rfl rfl⟩
  -- a wait error ends the operation without another poll
  | waitDelivered ec hpc hwait =>
      obtain ⟨hmap, hdelivered, hpolls, hrequests⟩ := hstage.of_polling (by simp [hpc])
      apply History.silent rfl
      unfold poll
      split
      · next hec =>
          apply stage_done_failed _ _ hpolls hrequests hec
          · exact hdeadline
          · exact hdelivered
      · exact ⟨hdeadline, .polling (by simp) hmap hdelivered hpolls hrequests⟩
  | oidsRequested ec res errorContext hpc =>
      obtain ⟨hmap, hdelivered, hpolls, hrequests⟩ := hstage.of_requesting hpc
      apply History.of_and
      apply stage_requestOidMapOp names
      · exact hdeadline
      · exact (oidMap_leftBy _ _ _).trans hmap
      · exact hdelivered
      · simpa using hpolls
      · simp [hrequests]
  | changed c => exact .silent rfl ⟨hdeadline, hstage.congr rfl rfl rfl⟩
  -- there is no deadline here
  | timerExpired d hd | timerDelivered d hd =>
      rw [hdeadline] at hd
      cases hd

/-- After any run the labels tell the stage. -/
theorem history_run {names : TypeNames} {conn : Connection} (hm : conn.oidMap.entries ≠ [])
    {ls : List Label} {s : State} (hrun : Transition.run (step names) (start conn) ls = some s) :
    History conn.oidMap ls s := by
  refine Transition.run_history (fun _ _ _ _ h hstep => h.step hm hstep) ?_ hrun
  exact ⟨rfl, .polling (by simp [start]) rfl rfl (by simp) rfl⟩

/-! ## What is delivered -/

/-- The request for the oids has succeeded with one oid for each registered type, none of them
null. -/
def OidsReceived (m : OidMap) (ls : List Label) (res : List Oid) : Prop :=
  (∃ ec, ec.failed = false ∧ oidRequests ls = [(ec, res)]) ∧ m.keys.length = res.length ∧
    nullOid ∉ res

/-- The oids of a connection are those received, each at the position of the name that was sent
for its type. -/
def OidsAssigned (names : TypeNames) (m : OidMap) (res : List Oid) (conn : Connection) : Prop :=
  ∀ (i : Nat) (k : OidKey), m.keys[i]? = some k →
    (makeOidsQuery names m).names[i]? = some (names.typeName k) ∧ res[i]? = some (conn.oidMap.at k)

section

variable {m : OidMap} {ls : List Label} {res : List Oid} {ec : ErrorCode}

theorem not_oidsReceived_of_nil (h : oidRequests ls = []) : ¬ OidsReceived m ls res := by
  rintro ⟨⟨ec, -, hrequests⟩, -⟩
  rw [h] at hrequests
  cases hrequests

/-- There was one request, and `set_oid_map` takes its result. -/
theorem oidsReceived_iff {res' : List Oid} (h : oidRequests ls = [(ec, res')]) :
    OidsReceived m ls res ↔ ec.failed = false ∧ res = res' ∧ (setOidMap m res').2 = none := by
  unfold OidsReceived
  rw [setOidMap_eq_none_iff, h]
  constructor
  · rintro ⟨⟨ec', hec, ⟨⟩⟩, hres⟩
    exact ⟨hec, rfl, hres⟩
  · rintro ⟨hec, rfl, hres⟩
    exact ⟨⟨ec, hec, rfl⟩, hres⟩

/-- An operation ends with one call. -/
theorem Ended.length {ps : List PollingStatus} {rs : List (ErrorCode × List Oid)}
    {ds : List (ErrorCode × Connection)} (h : Ended m ps rs ds) : ds.length = 1 := by
  cases h <;> rfl

/-- A handler called with success has been given a map filled from the received oids. -/
theorem Ended.received {ds : List (ErrorCode × Connection)}
    (h : Ended m (polls ls) (oidRequests ls) ds) {p : ErrorCode × Connection} (hp : p ∈ ds)
    (hec : p.1.failed = false) :
    (polls ls).getLast? = some .ok ∧
      ∃ res, OidsReceived m ls res ∧ p.2.oidMap = (setOidMap m res).1 := by
  cases h with
  | notConnected ec c hfailed | requestFailed ec res c hfailed | mapFailed ec ec' res c hfailed =>
      obtain rfl := List.mem_singleton.mp hp
      rw [hfailed] at hec
      cases hec
  | connected ec res c hec hpolls hrequests hmap hc =>
      obtain rfl := List.mem_singleton.mp hp
      exact ⟨hpolls, res, (oidsReceived_iff hrequests).mpr ⟨hec, rfl, hmap⟩, hc⟩

/-- Once the oids are received, it is called with success. -/
theorem Ended.success_of_received {ds : List (ErrorCode × Connection)}
    (h : Ended m (polls ls) (oidRequests ls) ds) (hres : OidsReceived m ls res) :
    ∃ p ∈ ds, p.1.failed = false := by
  cases h with
  | notConnected ec c _ _ hrequests => exact absurd hres (not_oidsReceived_of_nil hrequests)
  | requestFailed ec res' c hfailed _ hrequests =>
      obtain ⟨hec, -⟩ := (oidsReceived_iff hrequests).mp hres
      rw [hfailed] at hec
      cases hec
  | mapFailed ec ec' res' c _ _ hrequests hmap =>
      obtain ⟨-, -, hnone⟩ := (oidsReceived_iff hrequests).mp hres
      exact absurd hnone hmap
  | connected ec res' c hec => exact ⟨(ec, c), List.mem_singleton_self _, hec⟩

end

/-- The handler is called at most once, with success exactly when the last answer of
`PQconnectPoll` was `PGRES_POLLING_OK` and the request has brought an oid for every type; the map
of the connection then has them. -/
theorem delivered_success_iff (names : TypeNames) (conn : Connection)
    (hm : conn.oidMap.entries ≠ []) (hkeys : conn.oidMap.keys.Nodup) (ls : List Label) (s : State)
    (hrun : Transition.run (step names) (start conn) ls = some s) :
    s.delivered.length ≤ 1 ∧
      ((∃ p ∈ s.delivered, p.1.failed = false) ↔
        (polls ls).getLast? = some .ok ∧ ∃ res, OidsReceived conn.oidMap ls res) ∧
      ∀ p ∈ s.delivered, p.1.failed = false →
        ∃ res, OidsReceived conn.oidMap ls res ∧ OidsAssigned names conn.oidMap res p.2 := by
  cases (history_run hm hrun).stage with
  | polling _ _ hdelivered _ hrequests | requesting _ _ hdelivered _ hrequests =>
      -- the handler is yet to be called, and the request to end
      have hnone : ¬ ∃ res, OidsReceived conn.oidMap ls res :=
        fun ⟨res, hres⟩ => not_oidsReceived_of_nil hrequests hres
      simp [hdelivered, hnone]
  | finished _ hended =>
      refine ⟨Nat.le_of_eq hended.length, ⟨?_, ?_⟩, ?_⟩
      · rintro ⟨p, hp, hec⟩
        obtain ⟨hpolls, res, hres, -⟩ := hended.received hp hec
        exact ⟨hpolls, res, hres⟩
      · rintro ⟨-, res, hres⟩
        exact hended.success_of_received hres
      · intro p hp hec
        obtain ⟨-, res, hres, hmap⟩ := hended.received hp hec
        refine ⟨res, hres, fun i k hk => ⟨?_, ?_⟩⟩
        · simp [makeOidsQuery, getTypesNames, hk]
        · rw [hmap]
          exact setOidMap_at hkeys (setOidMap_eq_none_iff.mpr hres.2) hk

/-- A connection with two types of the user. -/
def twoTypes : Connection := ⟨none, .fresh [.object (.user 0), .object (.user 1)], ""⟩

/-- One wait for the socket, and the oids of both types. -/
def twoTypesRun : List Label :=
  [.connectStart (some ⟨.started, .unknown⟩), .socket true, .ready .success, .deliverWait,
    .connectPoll .reading, .ready .success, .deliverWait, .connectPoll .ok,
    .oidsRequested .success [16400, 16411] ""]

theorem delivered_twoTypes :
    ∃ s p, Transition.run (step ⟨fun _ => "user", fun _ => "user"⟩) (start twoTypes) twoTypesRun
        = some s ∧
      s.delivered = [p] ∧ p.1.failed = false ∧ ∃ res, OidsReceived twoTypes.oidMap twoTypesRun res ∧
        OidsAssigned ⟨fun _ => "user", fun _ => "user"⟩ twoTypes.oidMap res p.2 := by
  refine ⟨_, _, rfl, rfl, rfl, ?_⟩
  obtain ⟨-, -, h⟩ := delivered_success_iff ⟨fun _ => "user", fun _ => "user"⟩ twoTypes
    (List.cons_ne_nil _ _) (by decide) twoTypesRun _ rfl
  exact h _ (List.mem_singleton_self _) rfl

end OzoPg.Connect
