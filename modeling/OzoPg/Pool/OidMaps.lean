import OzoPg.Connect.Outcome
import OzoPg.Pool.Stored

/-!
# Oid maps in a pool

Over a `connection_info` source a fresh connection that is delivered with an empty code knows the
oids of all registered types. One that is delivered with an error may not, but it is stored in the
handle all the same, and the destructor of `pooled_connection` looks only at the statuses. When the
request for the oids is what failed, the connection is good and idle: it goes back to the pool and
the next acquirer gets it with an empty code and without oids.

* `RecyclesUnresolved` — such a destruction.
* `delivered_resolves` — a pool in which none happens hands out complete oid maps only.
-/

namespace OzoPg.Pool

open State Transition

/-- A `pooled_connection` without an oid for some of the types is destroyed while its connection
is good and idle. -/
abbrev RecyclesUnresolved (keys : List OidKey) : State → Label → Prop :=
  Recycles fun rep => ¬ rep.oidMap.Resolves keys

/-- The source of the pool is a `connection_info`: it delivers a connection, as the connect
operation does. -/
def FromConnectionInfo (names : TypeNames) (keys : List OidKey) (l : Label) : Prop :=
  ∀ i ec conn, l = .sourceDone i ec conn →
    ∃ target, conn = some target ∧ Connect.Delivers names keys ec target

/-- What a `connection_info` delivers with an empty code is complete. An error may come with
anything. -/
theorem FromConnectionInfo.sourceDelivers {names : TypeNames} {keys : List OidKey} {l : Label}
    (h : FromConnectionInfo names keys l) :
    SourceDelivers (fun rep => rep.oidMap.Resolves keys) l := by
  intro i ec target hl hec
  obtain ⟨target', htarget, hdelivers⟩ := h i ec (some target) hl
  cases htarget
  exact Connect.resolves_of_delivers hdelivers hec

/-- Every connection a pool over `connection_info` delivers with an empty code has an oid for each
registered type, in every run that recycles no connection with an incomplete oid map. -/
theorem delivered_resolves (names : TypeNames) (keys : List OidKey) (ls : List Label) (s : State)
    (hrun : run step init ls = some s)
    (hsource : ∀ i ec conn, .sourceDone i ec conn ∈ ls →
      ∃ target, conn = some target ∧ Connect.Delivers names keys ec target)
    (hmeets : Meets step (fun s l => ¬ RecyclesUnresolved keys s l) init ls) :
    ∀ ec id rep reused, .delivered ec (some (id, rep)) reused ∈ s.log → ec.failed = false →
      rep.oidMap.Resolves keys := by
  have hmeets' := hmeets.and_of_forall (p := FromConnectionInfo names keys)
    (fun l hl i ec conn heq => hsource i ec conn (heq ▸ hl))
  have hinv : Stores (fun rep => rep.oidMap.Resolves keys) s :=
    run_invariant_of_meets
      (fun v l w hv hok hstep =>
        hv.step (fun _ _ hrep => hrep) hok.1 hok.2.sourceDelivers hstep)
      (stores_init _) hmeets' hrun
  exact hinv.delivered

/-! ## One registered type -/

/-- A type of the user, with its names. -/
def userType : OidKey := .object (.user 0)

def userTypeNames : TypeNames := ⟨fun _ => "user_type", fun _ => "user_type"⟩

/-- Connecting up to the request for the oids, and what it returns. -/
def connectRun (res : List Oid) : List Connect.Label :=
  [.connectStart (some ⟨.started, .unknown⟩), .socket true, .ready .success, .deliverWait,
    .change ⟨.ok, .idle⟩, .connectPoll .ok, .oidsRequested .success res ""]

/-- The connection after the request has returned the null oid: the type is not known to the
server. -/
def unresolvedConnection : Connection :=
  ⟨some ⟨.ok, .idle⟩, .fresh [userType],
    "null oid for type user_type which is mapped as user_type"⟩

/-- One user after another is given what the source has delivered to the first. -/
def sharedRun (ec : ErrorCode) (conn : Connection) : List Label :=
  [.acquire 0, .sourceDone 0 ec (some conn), .destroy 0, .acquire 0]

/-- The first user gets the error of the connect operation. The second one gets the same
connection with an empty code. -/
theorem delivered_unresolved :
    Connect.Delivers userTypeNames [userType] (.ofError .oidRequestFailed) unresolvedConnection ∧
      ∃ s, run step init (sharedRun (.ofError .oidRequestFailed) unresolvedConnection) = some s ∧
        ∃ id rep, .delivered .success (some (id, rep)) true ∈ s.log ∧
          ¬ rep.oidMap.Resolves [userType] := by
  refine ⟨⟨false, connectRun [nullOid], _, rfl, List.mem_singleton_self _⟩, _, rfl, ?_⟩
  exact ⟨_, _, List.mem_cons_self, by decide⟩

/-- The connection after the request has returned an oid. -/
def resolvedConnection : Connection := ⟨some ⟨.ok, .idle⟩, ⟨[(userType, 16400)]⟩, ""⟩

/-- A connection with its oids is delivered to both users. -/
theorem delivered_resolves_sharedRun :
    ∃ s, run step init (sharedRun .success resolvedConnection) = some s ∧ s.log ≠ [] ∧
      ∀ ec id rep reused, .delivered ec (some (id, rep)) reused ∈ s.log → ec.failed = false →
        rep.oidMap.Resolves [userType] := by
  have hdelivers : Connect.Delivers userTypeNames [userType] .success resolvedConnection :=
    ⟨false, connectRun [16400], _, rfl, List.mem_singleton_self _⟩
  refine ⟨_, rfl, List.cons_ne_nil _ _, ?_⟩
  apply delivered_resolves userTypeNames [userType] (sharedRun .success resolvedConnection) _ rfl
  · intro i ec conn hmem
    simp only [sharedRun, List.mem_cons, Label.sourceDone.injEq, reduceCtorEq, List.not_mem_nil,
      or_false, false_or] at hmem
    obtain ⟨-, rfl, rfl⟩ := hmem
    exact ⟨_, rfl, hdelivers⟩
  · decide

end OzoPg.Pool
