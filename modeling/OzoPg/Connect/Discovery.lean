import OzoPg.Connect.FailedRequest
import OzoPg.Io.Transport

/-!
# Asking the server for the oids

`request_oid_map_op::perform` of `include/ozo/impl/request_oid_map.h` from one end to the other: the
names of the registered types go out as an array in a buffer of `binary_query`, and what the server
answers is received into a vector of oids. The server is a parameter, and what is assumed of it is a
hypothesis (`Server.Answers`).

* `requestOids_eq` — what the vector holds is what the server knows of each name, in order;
* `connect_discovers` — so a connect that succeeds has, for every registered type, the oid the
  server has for its name.
-/

namespace OzoPg

open Decoder Positional

/-! ## The request

The names are bound as one parameter of type `text[]`. A server is known by its answers, and of
those only the ones to this query matter. -/

/-- The bytes of a `std::string_view`. -/
def nameBytes (name : String) : Bytes := name.toUTF8.data.toList

/-- `std::array<std::string_view, size>`. -/
abbrev namesType (size : Nat) : ObjectType := .array (.array size) .plain (.scalar .text)

/-- The names as an object of this type. -/
def namesVal (names : List String) : (namesType names.length).Val :=
  ⟨names.map nameBytes, List.length_map nameBytes⟩

/-- The parameter of the query for the oids. -/
def namesParam (names : List String) : Param :=
  .object .plain (namesType names.length) (namesVal names)

/-- What `std::back_inserter` is given for each row of `oids_result`. -/
abbrev oidRow : RowType := .column .plain (.element (.scalar .oid))

/-- The server: the answer to a query as libpq is given it, if there is one. -/
abbrev Server := BinaryQueryImpl → Option ResultSet

/-- Asked for the oids of some names, the server answers with a row for each of them, in this order,
and a row has what `toRegtype` has for the name, or 0. -/
def Server.Answers (server : Server) (toRegtype : String → Option Oid) (m : OidMap)
    (names : List String) : Prop :=
  ∀ q : BinaryQueryImpl,
    q.text = "SELECT COALESCE(to_regtype(f)::oid, 0) AS oid FROM UNNEST($1) AS f" →
    q.bound 0 = some (1009, some ((namesParam names).send m)) →
    ∃ res, server q = some res ∧
      List.Forall₂ (oidRow.Encodes m) (names.map fun name => (toRegtype name).getD 0) res.rows

section

variable (growth : Nat → Nat) (writes : Param → List Bytes) (server : Server)
  (toRegtype : String → Option Oid) (cs : Constructors) (names : TypeNames)

/-- `request_oid_map_op::perform` as far as the result: the query is sent, answered and received
into `ctx_->res_`. Nothing comes of it if the query cannot be made, if the server does not take it
or if the result does not suit the vector. -/
def requestOids (m : OidMap) : Option (List Oid) := do
  let query := makeOidsQuery names m
  let q ← (binaryQueryImpl growth writes query.text [namesParam query.names] m).toOption
  let res ← server q
  match recvInserted cs m oidRow 0 (fun oids oid => oids ++ [oid]) res.rows [] with
  | (oids, none) => some oids
  | (_, some _) => none

/-- What the server has for the name of a type, null if nothing. -/
def oidOf (k : OidKey) : Oid := (toRegtype (names.typeName k)).getD nullOid

/-- The array of the names fits `size_type`, with the frame it would have inside another object. -/
def NamesFit (keys : List OidKey) : Prop :=
  (keys.map fun k => 4 + (nameBytes (names.typeName k)).length).sum + 28 < 2 ^ 31

end

/-- An oid needs nothing of what it is received into. -/
theorem survives_oid (cs : Constructors) (m : OidMap) (oid out : Oid) :
    oidRow.Survives cs m oid out where
  times := ⟨trivial, trivial⟩
  length := by
    show (writeIntegral oid).length < 2 ^ 31
    rw [length_writeIntegral]
    decide
  sizes := trivial
  overwrites := trivial

/-- The vector is filled with what the server has sent. -/
theorem recvInserted_oids {cs : Constructors} {m : OidMap} {oids : List Oid} {rows : List Row}
    (hrows : List.Forall₂ (oidRow.Encodes m) oids rows) :
    recvInserted cs m oidRow 0 (fun oids oid => oids ++ [oid]) rows [] = (oids, none) := by
  rw [recvInserted_of_encodes _ (fun oid _ => survives_oid cs m oid 0) hrows,
    List.foldl_append_eq_append, ← List.flatMap_def, List.flatMap_singleton']
  rfl

/-- The names, as they go out. -/
theorem announcesSize_namesParam {m : OidMap} {names : List String}
    (hfit : ((namesParam names).send m).length + 8 < 2 ^ 31) :
    (namesParam names).AnnouncesSize m := by
  intro _
  have hbalanced : Everywhere NullsBalanced .plain (namesType names.length) (namesVal names) := by
    refine ⟨trivial, ?_⟩
    intro item _
    exact ⟨trivial, trivial⟩
  have hlaws : Everywhere (SizeLaw m) .plain (namesType names.length) (namesVal names) :=
    everywhere_sizeLaw_of_balanced hfit hbalanced
  exact (hlaws.1.object rfl).symm

/-- The array of the names on the wire: a header, and a frame for each name. -/
theorem length_send_namesParam (m : OidMap) (names : List String) :
    ((namesParam names).send m).length
      = 20 + (names.map fun name => 4 + (nameBytes name).length).sum := by
  show ((namesType names.length).sendImpl m (namesVal names)).length = _
  rw [length_sendImpl_array]
  show 20 + ((names.map nameBytes).map _).sum = _
  rw [List.map_map]
  rfl

/-- The text of a query is sent as it is. -/
theorem text_binaryQueryImpl {growth : Nat → Nat} {writes : Param → List Bytes} {text : String}
    {params : List Param} {m : OidMap} {q : BinaryQueryImpl}
    (hq : binaryQueryImpl growth writes text params m = .ok q) : q.text = text := by
  simp only [binaryQueryImpl] at hq
  split at hq
  · cases hq
  · cases hq
    rfl

/-- The names go to the server as an array of `text`. -/
theorem content_namesParam (m : OidMap) (names : List String) :
    (namesParam names).content m = (1009, some ((namesParam names).send m)) := by
  have hne : (namesParam names).send m ≠ [] := by
    intro hnil
    have hlen := length_send_namesParam m names
    rw [hnil, List.length_nil] at hlen
    omega
  rw [Param.content, if_neg hne]
  rfl

/-- What the server answers is what `ctx_->res_` receives, name by name. -/
theorem requestOids_eq (growth : Nat → Nat) {writes : Param → List Bytes} {server : Server}
    {toRegtype : String → Option Oid} (cs : Constructors) {names : TypeNames} {m : OidMap}
    (hwrites : ∀ p, (writes p).flatten = p.send m)
    (hserver : server.Answers toRegtype m (m.keys.map names.typeName))
    (hfit : NamesFit names m.keys) :
    requestOids growth writes server cs names m = some (m.keys.map (oidOf toRegtype names)) := by
  -- the array of names fits, so the query is built
  have hlen : ((namesParam (m.keys.map names.typeName)).send m).length + 8 < 2 ^ 31 := by
    rw [length_send_namesParam, List.map_map]
    unfold NamesFit at hfit
    show 20 + (m.keys.map fun k => 4 + (nameBytes (names.typeName k)).length).sum + 8 < 2 ^ 31
    omega
  have hsize : ∀ p ∈ [namesParam (m.keys.map names.typeName)], p.AnnouncesSize m :=
    List.forall_mem_singleton.mpr (announcesSize_namesParam hlen)
  have htotal : ([namesParam (m.keys.map names.typeName)].flatMap (Param.send m)).length
      < 2 ^ 31 := by
    rw [List.flatMap_singleton]
    omega
  obtain ⟨q, hq, -⟩ := binaryQueryImpl_eq growth hwrites
    (exists_binaryQuery (makeOidsQuery names m).text hsize htotal)
  have hbound := bound_of_getElem? hwrites hsize htotal hq (i := 0) rfl
  rw [content_namesParam] at hbound
  -- the server is given the names as they were sent
  obtain ⟨res, hres, hrows⟩ := hserver q (text_binaryQueryImpl hq) hbound
  rw [List.map_map] at hrows
  -- the stages of `requestOids` one by one
  show ((binaryQueryImpl growth writes (makeOidsQuery names m).text
    [namesParam (m.keys.map names.typeName)] m).toOption >>= _) = _
  rw [hq]
  show (server q >>= _) = _
  rw [hres]
  show (match recvInserted cs m oidRow 0 (fun oids oid => oids ++ [oid]) res.rows [] with
    | (oids, none) => some oids
    | (_, some _) => none) = _
  rw [recvInserted_oids hrows]
  rfl

/-! ## Connecting

The request for the oids is one label of a connect run. With the server it is no choice any more: a
request that does not fail has brought what the server has answered. -/

namespace Connect

open State

/-- The connection has, for each of the types, the oid the server has for its name. -/
def Knows (toRegtype : String → Option Oid) (names : TypeNames) (keys : List OidKey)
    (conn : Connection) : Prop :=
  ∀ k ∈ keys, toRegtype (names.typeName k) = some (conn.oidMap.at k)

/-- A request for the oids that does not fail has been answered by the server. -/
def Answered (growth : Nat → Nat) (writes : Param → List Bytes) (server : Server)
    (cs : Constructors) (names : TypeNames) (s : State) : Label → Prop
  | .oidsRequested ec res _ =>
    ec.failed = false → requestOids growth writes server cs names s.conn.oidMap = some res
  | _ => True

instance (growth : Nat → Nat) (writes : Param → List Bytes) (server : Server) (cs : Constructors)
    (names : TypeNames) (s : State) : (l : Label) →
    Decidable (Answered growth writes server cs names s l)
  | .oidsRequested _ _ _ => inferInstanceAs (Decidable (_ → _))
  | .connectStart _ | .socket _ | .connectPoll _ | .ready _ | .deliverWait | .change _
  | .timerExpired | .deliverTimer => .isTrue trivial

/-- The map is as it was made until the operation ends, and a success knows the types. -/
structure Discovers (toRegtype : String → Option Oid) (names : TypeNames) (keys : List OidKey)
    (s : State) : Prop where
  fresh : s.pc ≠ .finished → s.conn.oidMap = .fresh keys
  reports : Reports (Knows toRegtype names keys) s

section

variable {toRegtype : String → Option Oid} {names : TypeNames} {keys : List OidKey} {s t : State}

/-- `set_oid_map` with the answer of the server. -/
theorem knows_setOidMap {m : OidMap} (hnodup : m.keys.Nodup)
    (h : (setOidMap m (m.keys.map (oidOf toRegtype names))).2 = none) {conn : Connection}
    (hconn : conn.oidMap = (setOidMap m (m.keys.map (oidOf toRegtype names))).1) :
    Knows toRegtype names m.keys conn := by
  intro k hk
  obtain ⟨i, hi⟩ := List.getElem?_of_mem hk
  have hat := setOidMap_at hnodup h hi
  rw [List.getElem?_map, hi, Option.map_some, ← hconn] at hat
  have hoid : oidOf toRegtype names k = conn.oidMap.at k := Option.some.inj hat
  have hne : conn.oidMap.at k ≠ nullOid := hconn ▸ setOidMap_resolves h k hk
  unfold oidOf at hoid
  cases hregtype : toRegtype (names.typeName k) with
  | none =>
      rw [hregtype] at hoid
      exact absurd hoid.symm hne
  | some o =>
      rw [hregtype] at hoid
      exact congrArg some hoid

theorem at_fresh (keys : List OidKey) (k : OidKey) : (OidMap.fresh keys).at k = nullOid := by
  unfold OidMap.at
  cases hlookup : (OidMap.fresh keys).entries.lookup k with
  | none => rfl
  | some o =>
      obtain ⟨l₁, l₂, heq, -⟩ := List.lookup_eq_some_iff.mp hlookup
      have hmem : (k, o) ∈ keys.map fun k => (k, nullOid) := by
        show (k, o) ∈ (OidMap.fresh keys).entries
        simp [heq]
      obtain ⟨k', -, heq'⟩ := List.mem_map.mp hmem
      exact (congrArg Prod.snd heq').symm

/-- The end of the request for the oids. -/
theorem knows_handlerCall {conn : Connection} (hnodup : keys.Nodup)
    (hmap : conn.oidMap = .fresh keys) {ec : ErrorCode} {res : List Oid}
    (hres : ec.failed = false → res = keys.map (oidOf toRegtype names))
    (hok : (handlerCall names conn ec res).1.failed = false) :
    Knows toRegtype names keys (handlerCall names conn ec res).2 := by
  have hkeys : conn.oidMap.keys = keys := by rw [hmap, OidMap.keys_fresh]
  -- a success means that the request has succeeded and `set_oid_map` has not thrown
  unfold handlerCall at hok ⊢
  split at hok
  · next hec =>
      rw [hec] at hok
      cases hok
  · next hec =>
      rw [if_neg hec]
      rw [hres (Bool.eq_false_iff.mpr hec)] at hok ⊢
      split at hok
      · next oidMap heq =>
          rw [← hkeys] at heq ⊢
          apply knows_setOidMap (hkeys ▸ hnodup)
          · rw [heq]
          · rw [heq]
      · cases hok

/-- No step before the last one touches the map. -/
theorem Effect.fresh (h : Effect s t) (hfresh : s.pc ≠ .finished → s.conn.oidMap = .fresh keys) :
    t.pc ≠ .finished → t.conn.oidMap = .fresh keys := by
  cases h with
  | same _ hpc hmap => exact fun hne => hmap.trans (hfresh (mt hpc.mpr hne))
  | ends wait ec conn => exact fun hpc => absurd (pc_finish _ ec) hpc
  | expired d hd => exact hfresh
  | timer d hd =>
      rw [conn_timerHandler]
      unfold timerHandler
      split <;> exact hfresh

/-- Every step with a server that answers. -/
theorem Discovers.step {growth : Nat → Nat} {writes : Param → List Bytes} {server : Server}
    {cs : Constructors} {l : Label} (hwrites : ∀ p, (writes p).flatten = p.send (.fresh keys))
    (hserver : server.Answers toRegtype (.fresh keys) (keys.map names.typeName))
    (hnodup : keys.Nodup) (hfit : NamesFit names keys) (h : Discovers toRegtype names keys s)
    (hok : Answered growth writes server cs names s l) (hstep : step names s l = some t) :
    Discovers toRegtype names keys t := by
  have heffect := Effect.of_step hstep
  refine ⟨heffect.fresh h.fresh, ?_⟩
  by_cases hl : ∀ ec res ctx, l ≠ .oidsRequested ec res ctx
  · -- a success without a request is one without types
    have hmap := (Step.of_step hstep).oidMap_eq hl
    refine h.reports.step (fun _ _ hmap _ hknows => ?_)
      (fun _ ec conn hpc hends ht hec => ?_) heffect
    · unfold Knows
      rw [hmap]
      exact hknows
    · have hfresh := h.fresh hpc
      have hconn : conn.oidMap = .fresh keys := by
        rw [ht, conn_finish] at hmap
        exact hmap.trans hfresh
      have hresolves := hends.resolves hec
      rw [hconn, hfresh, OidMap.keys_fresh] at hresolves
      intro k hk
      exact absurd (at_fresh keys k) (hresolves k hk)
  · simp only [not_forall, not_not] at hl
    obtain ⟨ec, res, ctx, rfl⟩ := hl
    obtain ⟨hpc, ⟨⟩⟩ := Option.ite_none_right_eq_some.mp hstep
    have hne : s.pc ≠ .finished := by simp [hpc]
    have hfresh := h.fresh hne
    apply reports_finish
    · exact h.reports.delivered
    · exact h.reports.stored_of_ne_finished hne
    · refine knows_handlerCall hnodup ((oidMap_leftBy _ _ _).trans hfresh) fun hec => ?_
      have hrequest := hok hec
      rw [hfresh, requestOids_eq growth cs hwrites (by rwa [OidMap.keys_fresh])
        (by rwa [OidMap.keys_fresh]), OidMap.keys_fresh] at hrequest
      exact (Option.some.inj hrequest).symm

end

/-- The request always has a result, what the server has for each name, and `set_oid_map` takes it
when that is something for every name. Given to a connect operation, it is what a connection
delivered with a success has. -/
theorem connect_discovers (growth : Nat → Nat) (writes : Param → List Bytes) (server : Server)
    (toRegtype : String → Option Oid) (cs : Constructors) (names : TypeNames) (keys : List OidKey)
    (hwrites : ∀ p, (writes p).flatten = p.send (.fresh keys))
    (hserver : server.Answers toRegtype (.fresh keys) (keys.map names.typeName))
    (hnodup : keys.Nodup) (hfit : NamesFit names keys) :
    requestOids growth writes server cs names (.fresh keys)
      = some (keys.map (oidOf toRegtype names)) ∧
    ((setOidMap (.fresh keys) (keys.map (oidOf toRegtype names))).2 = none ↔
      ∀ k ∈ keys, oidOf toRegtype names k ≠ nullOid) ∧
    ∀ timed ls s,
      Transition.Meets (step names) (Answered growth writes server cs names) (init keys timed) ls →
      Transition.run (step names) (init keys timed) ls = some s →
      ∀ p ∈ s.delivered, p.1.failed = false → Knows toRegtype names keys p.2 := by
  refine ⟨?_, ?_, ?_⟩
  · have heq := requestOids_eq growth cs hwrites (by rwa [OidMap.keys_fresh])
      (by rwa [OidMap.keys_fresh])
    rwa [OidMap.keys_fresh] at heq
  · rw [setOidMap_eq_none_iff, OidMap.keys_fresh, List.length_map, List.mem_map]
    simp
  · intro timed ls s hok hrun
    -- the map is fresh until the oids are there
    have hinit : Discovers toRegtype names keys (init keys timed) :=
      ⟨fun _ => rfl, reports_init _ keys timed⟩
    have hinv : Discovers toRegtype names keys s := Transition.run_invariant_of_meets
      (fun _ _ _ h hok hstep => h.step hwrites hserver hnodup hfit hok hstep) hinit hok hrun
    exact hinv.reports.delivered

/-- The oids of two types. -/
def moodAndPoint (name : String) : Option Oid :=
  if name = "mood" then some 16400 else if name = "point3d" then some 16411 else none

def moodAndPointNames : TypeNames where
  demangled _ := "user"
  typeName k := if k = .object (.user 0) then "mood" else "point3d"

def moodAndPointKeys : List OidKey := [.object (.user 0), .object (.user 1)]

/-- A server that has an answer to this one question. -/
def moodAndPointServer : Server := fun _ =>
  some ⟨[("oid", 26)], [⟨[some (writeIntegral (16400 : Oid))], rfl⟩,
    ⟨[some (writeIntegral (16411 : Oid))], rfl⟩]⟩

def moodAndPointRun : List Label :=
  [.connectStart (some ⟨.started, .unknown⟩), .socket true, .ready .success, .deliverWait,
    .connectPoll .ok, .oidsRequested .success [16400, 16411] ""]

theorem connect_discovers_moodAndPoint :
    ∃ s p, Transition.run (step moodAndPointNames) (init moodAndPointKeys false) moodAndPointRun
        = some s ∧
      s.delivered = [p] ∧ p.1.failed = false ∧
      Knows moodAndPoint moodAndPointNames moodAndPointKeys p.2 := by
  refine ⟨_, _, rfl, rfl, rfl, ?_⟩
  obtain ⟨-, -, h⟩ := connect_discovers (fun n => n)
    (fun p => [p.send (.fresh moodAndPointKeys)]) moodAndPointServer moodAndPoint .zero
    moodAndPointNames moodAndPointKeys (fun p => by simp)
    (fun _ _ _ => ⟨_, rfl, .cons rfl (.cons rfl .nil)⟩) (by decide)
    (by unfold NamesFit; decide +kernel)
  exact h false moodAndPointRun _ (by decide +kernel) rfl _ List.mem_cons_self rfl

end Connect

end OzoPg
