import OzoPg.Lib.Multimap
import OzoPg.ResourcePool.Storage

/-!
# The queue of the resource pool

`async/detail/queue.hpp` of `contrib/resource_pool`, for requests of any type. A request is kept in
a node that is in two containers at once: in the list of the requests in their order, from which
`pop` takes the first, and in a multimap by the times they expire at, from which `cancel` takes
those that are late. Nodes that are no longer needed are kept for later requests. A timer of the
execution context of the earliest request waits for its time.

* `Rep` — the two containers have the same requests, and every node is in one list.
* `Timers` — while there are requests, a wait for the earliest of them is pending or has ended.
* `requests_push`, `requests_pop`, `requests_cancel` — what the operations do to the sequence of
  requests, which is all that matters for the pool.
-/

namespace OzoPg.ResourcePool

/-- `expiring_request`. Its `order_it` is the node itself. -/
structure Node (β : Type) where
  /-- The execution context of the executor. -/
  context : Nat
  request : β
  /-- The entry `expires_at_it` points to. -/
  expiresAtIt : TimePoint × Nat

/-- A timer with the time it is set for. A wait that is pending is the time its handler will pass
to `cancel`. -/
structure Timer where
  expiresAt : TimePoint
  waits : List TimePoint

/-- The handler of a wait that has ended: at its time, or because the timer was cancelled or set
again. -/
inductive Completion where
  | expired (expiresAt : TimePoint)
  | aborted (expiresAt : TimePoint)
  deriving DecidableEq

/-- `queue`, with the handlers of its timers that have yet to run. -/
structure Queue (β : Type) where
  capacity : Nat
  nodes : Nat → Node β
  /-- How many nodes have been allocated. -/
  allocated : Nat
  orderedRequestsPool : List Nat
  orderedRequests : List Nat
  expiresAtRequests : List (TimePoint × Nat)
  /-- The timers by their execution contexts. -/
  timers : List (Nat × Timer)
  completions : List Completion

/-- The order of the multimap. -/
def expiresAtKey (e : TimePoint × Nat) : Int := e.1.toInt

variable {β : Type}

/-- The constructor. -/
def Queue.init (β : Type) [Inhabited β] (capacity : Nat) : Queue β where
  capacity
  nodes _ := ⟨0, default, (0, 0)⟩
  allocated := 0
  orderedRequestsPool := []
  orderedRequests := []
  expiresAtRequests := []
  timers := []
  completions := []

namespace Queue

/-- `fit_capacity`. -/
def fitCapacity (q : Queue β) : Bool := q.expiresAtRequests.length < q.capacity

/-- `get_timer`: afterwards there is a timer of the context. -/
def getTimer (context : Nat) (q : Queue β) : Queue β :=
  if context ∈ q.timers.map Prod.fst then q
  else { q with timers := q.timers ++ [(context, ⟨0, []⟩)] }

/-- `timer.cancel()` for the timers with `p`: their waits end at once. -/
def aborted (p : Nat → Bool) (q : Queue β) : List Completion :=
  (q.timers.filter fun e => p e.1).flatMap fun e => e.2.waits.map .aborted

/-- `timer.expires_at`, which ends the waits of the timer, and `timer.async_wait`. -/
def setTimer (context : Nat) (expiresAt : TimePoint) (q : Queue β) : Queue β :=
  { q with
    timers := q.timers.map fun e =>
      if e.1 = context then (e.1, ⟨expiresAt, [expiresAt]⟩) else e
    completions := q.completions ++ q.aborted fun c => c = context }

/-- `update_timer`. -/
def updateTimer (q : Queue β) : Queue β :=
  match q.expiresAtRequests with
  | [] => { q with timers := [], completions := q.completions ++ q.aborted fun _ => true }
  | (expiresAt, node) :: _ =>
    let context := (q.nodes node).context
    (q.getTimer context).setTimer context expiresAt

/-- A node for a new request: one that is no longer needed, or else a new one. It goes to the end
of the requests. -/
def takeNode (q : Queue β) : Nat × Queue β :=
  match q.orderedRequestsPool with
  | [] => (q.allocated,
      { q with
        allocated := q.allocated + 1, orderedRequests := q.orderedRequests ++ [q.allocated] })
  | node :: orderedRequestsPool => (node,
      { q with orderedRequestsPool, orderedRequests := q.orderedRequests ++ [node] })

/-- `push`. -/
def push (context : Nat) (now : TimePoint) (waitDuration : Duration) (request : β) (q : Queue β) :
    Bool × Queue β :=
  if q.fitCapacity then
    let (node, q) := q.takeNode
    let entry := (add now waitDuration, node)
    let q := { q with
      nodes := Function.update q.nodes node ⟨context, request, entry⟩
      expiresAtRequests := Multimap.insert expiresAtKey entry q.expiresAtRequests }
    (true, q.updateTimer)
  else
    (false, q)

/-- `pop`. -/
def pop (q : Queue β) : Option β × Queue β :=
  match q.orderedRequests with
  | [] => (none, q)
  | node :: orderedRequests =>
    let req := q.nodes node
    let q := { q with
      orderedRequests
      orderedRequestsPool := node :: q.orderedRequestsPool
      expiresAtRequests := q.expiresAtRequests.erase req.expiresAtIt }
    (some req.request, q.updateTimer)

/-- The node of a late request is put aside. -/
def putAside (q : Queue β) (e : TimePoint × Nat) : Queue β :=
  { q with
    orderedRequestsPool := e.2 :: q.orderedRequestsPool
    orderedRequests := q.orderedRequests.erase e.2 }

/-- `cancel`, as the handler of a wait; with the requests whose handlers it posts. -/
def cancel : Completion → Queue β → List β × Queue β
  | .aborted _, q => ([], q)
  | .expired expiresAt, q =>
    let late := Multimap.upTo expiresAtKey expiresAt.toInt q.expiresAtRequests
    let q' := { late.foldl putAside q with
      expiresAtRequests := Multimap.above expiresAtKey expiresAt.toInt q.expiresAtRequests }
    (late.map fun e => (q.nodes e.2).request, q'.updateTimer)

/-- The timer of a context ends its waits when its time has come. -/
def expire (context : Nat) (now : TimePoint) (q : Queue β) : Queue β :=
  let due : Nat × Timer → Bool := fun e => e.1 = context ∧ e.2.expiresAt ≤ now
  { q with
    timers := q.timers.map fun e => if due e then (e.1, { e.2 with waits := [] }) else e
    completions := q.completions ++
      (q.timers.filter due).flatMap fun e => e.2.waits.map .expired }

/-- The loop of `disable`, for as many rounds: `pop` until there is nothing left. -/
def popAll : Nat → Queue β → List β × Queue β
  | 0, q => ([], q)
  | n + 1, q =>
    match q.pop with
    | (none, q) => ([], q)
    | (some request, q) =>
      let (requests, q) := popAll n q
      (request :: requests, q)

/-- The requests in their order, with the times they expire at. -/
def requests (q : Queue β) : List (β × TimePoint) :=
  q.orderedRequests.map fun i => ((q.nodes i).request, (q.nodes i).expiresAtIt.1)

/-! ## Two containers -/

/-- The entries of the requests, in the order of the requests. -/
def entries (q : Queue β) : List (TimePoint × Nat) :=
  q.orderedRequests.map fun i => (q.nodes i).expiresAtIt

/-- The representation: every node is in one of the lists, and the multimap has the entries of the
requests, each of which knows its node. -/
structure Rep (q : Queue β) : Prop where
  nodes : (q.orderedRequests ++ q.orderedRequestsPool).Perm (List.range q.allocated)
  snd_entry : ∀ i ∈ q.orderedRequests, (q.nodes i).expiresAtIt.2 = i
  holds : Multimap.Holds expiresAtKey q.entries q.expiresAtRequests

namespace Rep

variable {q : Queue β}

theorem init [Inhabited β] (capacity : Nat) : Rep (Queue.init β capacity) where
  nodes := List.Perm.refl _
  snd_entry := nofun
  holds := .nil

/-- No node is in two places. -/
theorem nodup (h : Rep q) : (q.orderedRequests ++ q.orderedRequestsPool).Nodup :=
  h.nodes.nodup_iff.mpr List.nodup_range

theorem orderedRequests_nodup (h : Rep q) : q.orderedRequests.Nodup :=
  (List.nodup_append.mp h.nodup).1

theorem entries_nodup (h : Rep q) : q.entries.Nodup := by
  unfold entries
  refine h.orderedRequests_nodup.map_on ?_
  intro i hi j hj hij
  rw [← h.snd_entry i hi, ← h.snd_entry j hj, hij]

/-- As many entries as requests. -/
theorem length_eq (h : Rep q) : q.expiresAtRequests.length = q.requests.length := by
  rw [h.holds.perm.length_eq, entries, requests, List.length_map, List.length_map]

end Rep

/-- What `update_timer` leaves alone. -/
structure SameRequests (q q' : Queue β) : Prop where
  capacity : q'.capacity = q.capacity
  nodes : q'.nodes = q.nodes
  allocated : q'.allocated = q.allocated
  orderedRequestsPool : q'.orderedRequestsPool = q.orderedRequestsPool
  orderedRequests : q'.orderedRequests = q.orderedRequests
  expiresAtRequests : q'.expiresAtRequests = q.expiresAtRequests

/-- Timers do not touch the requests. -/
theorem sameRequests_updateTimer (q : Queue β) : SameRequests q q.updateTimer := by
  unfold updateTimer
  split
  · exact ⟨rfl, rfl, rfl, rfl, rfl, rfl⟩
  · dsimp only [setTimer, getTimer]
    split <;> exact ⟨rfl, rfl, rfl, rfl, rfl, rfl⟩

namespace SameRequests

variable {q q' : Queue β}

theorem requests (h : SameRequests q q') : q'.requests = q.requests := by
  rw [Queue.requests, Queue.requests, h.orderedRequests, h.nodes]

theorem rep (h : SameRequests q q') (hq : Rep q) : Rep q' where
  nodes := by
    rw [h.orderedRequests, h.orderedRequestsPool, h.allocated]
    exact hq.nodes
  snd_entry := by
    rw [h.orderedRequests, h.nodes]
    exact hq.snd_entry
  holds := by
    rw [entries, h.orderedRequests, h.nodes, h.expiresAtRequests]
    exact hq.holds

end SameRequests

/-! ## The requests

The requests are in a list, in their order, and in a multimap, by their times. `Rep` says that the
two agree, and that every other node is in the list of unused ones. -/

/-- The node for a new request is at the end of the requests and was not one of them. -/
theorem takeNode_spec {q : Queue β} (h : Rep q) {node : Nat} {q' : Queue β}
    (htake : q.takeNode = (node, q')) :
    node ∉ q.orderedRequests ∧
      (q'.orderedRequests ++ q'.orderedRequestsPool).Perm (List.range q'.allocated) ∧
      ∃ pool n, q' = { q with
        orderedRequestsPool := pool, allocated := n
        orderedRequests := q.orderedRequests ++ [node] } := by
  unfold takeNode at htake
  have hnodup := h.nodup
  have hnodes := h.nodes
  split at htake
  -- no node is unused, so a new one is allocated
  · next hpool =>
      cases htake
      rw [hpool, List.append_nil] at hnodes
      refine ⟨?_, ?_, _, _, rfl⟩
      · intro hmem
        exact Nat.lt_irrefl _ (List.mem_range.mp (hnodes.mem_iff.mp hmem))
      · show (q.orderedRequests ++ [q.allocated] ++ q.orderedRequestsPool).Perm _
        rw [hpool, List.append_nil, List.range_succ]
        exact hnodes.append_right _
  -- an unused node is in none of the other lists
  · next pool hpool =>
      cases htake
      rw [hpool] at hnodes hnodup
      refine ⟨?_, ?_, _, _, rfl⟩
      · intro hmem
        exact (List.nodup_append.mp hnodup).2.2 node hmem node List.mem_cons_self rfl
      · show (q.orderedRequests ++ [node] ++ pool).Perm _
        rw [List.append_assoc]
        exact hnodes

/-- A node is taken from the unused ones and its entry put behind those of its time. -/
theorem rep_push {q : Queue β} (h : Rep q) (context : Nat) (now : TimePoint)
    (waitDuration : Duration) (request : β) : Rep (q.push context now waitDuration request).2 := by
  unfold push
  split
  · rcases htake : q.takeNode with ⟨node, q'⟩
    obtain ⟨hnew, hnodes, pool, n, rfl⟩ := takeNode_spec h htake
    -- the entries of the other requests stay as they are
    have hold : ∀ i ∈ q.orderedRequests, i ≠ node := fun i hi hin => hnew (hin ▸ hi)
    refine (sameRequests_updateTimer _).rep ⟨hnodes, ?_, ?_⟩
    · intro i hi
      rcases List.mem_append.mp hi with hi | hi
      · dsimp only
        rw [Function.update_of_ne (hold i hi)]
        exact h.snd_entry i hi
      · obtain rfl := List.mem_singleton.mp hi
        dsimp only
        rw [Function.update_self]
    -- the new entry comes last among those of the requests, as it does in the multimap
    · have hentries : (q.orderedRequests ++ [node]).map (fun i =>
          (Function.update q.nodes node
            ⟨context, request, add now waitDuration, node⟩ i).expiresAtIt) =
          q.entries ++ [(add now waitDuration, node)] := by
        rw [List.map_append, List.map_singleton, Function.update_self, entries]
        congr 1
        refine List.map_congr_left fun i hi => ?_
        rw [Function.update_of_ne (hold i hi)]
      dsimp only [entries]
      rw [hentries]
      exact h.holds.insert _
  · exact h

/-- `push` adds the request at the end if there is room. -/
theorem requests_push {q : Queue β} (h : Rep q) (context : Nat) (now : TimePoint)
    (waitDuration : Duration) (request : β) :
    (q.push context now waitDuration request).1 = decide (q.requests.length < q.capacity) ∧
      (q.push context now waitDuration request).2.requests =
        if q.requests.length < q.capacity then q.requests ++ [(request, add now waitDuration)]
        else q.requests := by
  unfold push fitCapacity
  rw [h.length_eq]
  by_cases hfit : q.requests.length < q.capacity
  · rw [if_pos (by simpa using hfit), if_pos hfit]
    -- there is room: a node is filled and goes to the end
    rcases htake : q.takeNode with ⟨node, q'⟩
    obtain ⟨hnew, _, pool, n, rfl⟩ := takeNode_spec h htake
    refine ⟨by simp [hfit], (sameRequests_updateTimer _).requests.trans ?_⟩
    dsimp only [requests]
    rw [List.map_append, List.map_singleton, Function.update_self]
    congr 1
    refine List.map_congr_left fun i hi => ?_
    have hold : i ≠ node := fun hin => hnew (hin ▸ hi)
    rw [Function.update_of_ne hold]
  · rw [if_neg (by simpa using hfit), if_neg hfit]
    exact ⟨by simp [hfit], rfl⟩

/-- The first node goes back with its entry. -/
theorem rep_pop {q : Queue β} (h : Rep q) : Rep q.pop.2 := by
  unfold pop
  split
  · exact h
  · next node orderedRequests hordered =>
      have hnodes := h.nodes
      have hsnd := h.snd_entry
      have hholds := h.holds
      have hnodup := h.entries_nodup
      have hnodup' := h.holds.perm.nodup_iff.mpr hnodup
      refine (sameRequests_updateTimer _).rep ⟨?_, ?_, ?_⟩
      · rw [hordered, List.cons_append] at hnodes
        exact List.perm_middle.trans hnodes
      · intro i hi
        exact hsnd i (hordered ▸ List.mem_cons_of_mem node hi)
      · have herase := hholds.erase hnodup hnodup' (q.nodes node).expiresAtIt
        rw [entries, hordered, List.map_cons, List.erase_cons_head] at herase
        exact herase

/-- `pop` takes the first request. -/
theorem requests_pop (q : Queue β) :
    q.pop.1 = q.requests.head?.map Prod.fst ∧ q.pop.2.requests = q.requests.tail := by
  unfold pop
  split
  · next hordered => simp [requests, hordered]
  · next node orderedRequests hordered =>
      rw [(sameRequests_updateTimer _).requests]
      simp [requests, hordered]

/-- The loop of `cancel` puts the late nodes aside, one by one. -/
theorem foldl_putAside (late : List (TimePoint × Nat)) (q : Queue β) :
    late.foldl putAside q = { q with
      orderedRequestsPool := (late.map Prod.snd).reverse ++ q.orderedRequestsPool
      orderedRequests := q.orderedRequests.diff (late.map Prod.snd) } := by
  induction late generalizing q with
  | nil => rfl
  | cons e late ih =>
      rw [List.foldl_cons, ih]
      simp [putAside]

section Cancel

variable {q : Queue β} (h : Rep q) (expiresAt : TimePoint)

/-- Whether a node is late. -/
def late (q : Queue β) (expiresAt : TimePoint) (i : Nat) : Bool :=
  (q.nodes i).expiresAtIt.1 ≤ expiresAt

theorem late_eq : q.late expiresAt = fun i =>
    decide (expiresAtKey (q.nodes i).expiresAtIt ≤ expiresAt.toInt) := by
  funext i
  rw [late, expiresAtKey, decide_eq_decide, Int64.le_iff_toInt_le]

include h

/-- The late entries are those of the late requests, the earliest first. -/
theorem holds_upTo :
    Multimap.Holds expiresAtKey
      ((q.orderedRequests.filter (q.late expiresAt)).map fun i => (q.nodes i).expiresAtIt)
      (Multimap.upTo expiresAtKey expiresAt.toInt q.expiresAtRequests) := by
  have hfilter := h.holds.filter fun e => decide (expiresAtKey e ≤ expiresAt.toInt)
  rw [← Multimap.upTo_eq_filter h.holds.sorted, entries, List.filter_map] at hfilter
  rw [late_eq]
  exact hfilter

/-- What is left in the multimap are the entries of the requests that are not late. -/
theorem holds_above :
    Multimap.Holds expiresAtKey
      ((q.orderedRequests.filter fun i => !q.late expiresAt i).map fun i => (q.nodes i).expiresAtIt)
      (Multimap.above expiresAtKey expiresAt.toInt q.expiresAtRequests) := by
  have hfilter := h.holds.above expiresAt.toInt
  rw [entries, List.filter_map] at hfilter
  rw [late_eq]
  exact hfilter

theorem map_snd_filter (p : Nat → Bool) :
    ((q.orderedRequests.filter p).map fun i => (q.nodes i).expiresAtIt).map Prod.snd =
      q.orderedRequests.filter p := by
  rw [List.map_map]
  refine (List.map_congr_left fun i hi => ?_).trans (List.map_id _)
  exact h.snd_entry i (List.mem_of_mem_filter hi)

/-- The nodes that the loop puts aside are those of the late requests. -/
theorem upTo_nodes :
    ((Multimap.upTo expiresAtKey expiresAt.toInt q.expiresAtRequests).map Prod.snd).Perm
      (q.orderedRequests.filter (q.late expiresAt)) := by
  have hperm := (holds_upTo h expiresAt).perm.map Prod.snd
  rwa [map_snd_filter h] at hperm

/-- What is left in the list are those requests. -/
theorem diff_upTo_nodes :
    q.orderedRequests.diff
        ((Multimap.upTo expiresAtKey expiresAt.toInt q.expiresAtRequests).map Prod.snd) =
      q.orderedRequests.filter fun i => !q.late expiresAt i := by
  rw [h.orderedRequests_nodup.sdiff_eq_filter]
  refine List.filter_congr fun i hi => ?_
  simp only [(upTo_nodes h expiresAt).mem_iff, List.mem_filter, hi, true_and]
  rw [decide_not, Bool.decide_eq_true]

/-- Late requests leave both. -/
theorem rep_cancel (c : Completion) : Rep (q.cancel c).2 := by
  cases c with
  | aborted expiresAt => exact h
  | expired expiresAt =>
      refine (sameRequests_updateTimer _).rep ?_
      rw [foldl_putAside, diff_upTo_nodes h]
      refine ⟨?_, ?_, holds_above h expiresAt⟩
      · refine List.Perm.trans ?_ h.nodes
        dsimp only
        rw [← List.append_assoc]
        refine List.Perm.append_right _ ?_
        refine (((List.reverse_perm _).trans (upTo_nodes h expiresAt)).append_left _).trans ?_
        exact List.perm_append_comm.trans (List.filter_append_perm _ _)
      · intro i hi
        exact h.snd_entry i (List.mem_of_mem_filter hi)

/-- `cancel` takes the requests that are late, the earliest first. -/
theorem requests_cancel :
    (q.cancel (.expired expiresAt)).1 =
        ((q.requests.filter fun r => decide (r.2 ≤ expiresAt)).mergeSort
          fun r r' => decide (r.2 ≤ r'.2)).map Prod.fst ∧
      (q.cancel (.expired expiresAt)).2.requests =
        q.requests.filter fun r => !decide (r.2 ≤ expiresAt) := by
  constructor
  · -- both sides sort the nodes of the late requests
    let nodes := (q.orderedRequests.filter (q.late expiresAt)).mergeSort
      fun i j => decide ((q.nodes i).expiresAtIt.1 ≤ (q.nodes j).expiresAtIt.1)
    have hlate : Multimap.upTo expiresAtKey expiresAt.toInt q.expiresAtRequests =
        nodes.map fun i => (q.nodes i).expiresAtIt := by
      rw [(holds_upTo h expiresAt).eq_mergeSort]
      refine (List.map_mergeSort fun i _ j _ => ?_).symm
      rw [decide_eq_decide]
      exact Int64.le_iff_toInt_le
    have hrequests : (q.requests.filter fun r => decide (r.2 ≤ expiresAt)).mergeSort
          (fun r r' => decide (r.2 ≤ r'.2)) =
        nodes.map fun i => ((q.nodes i).request, (q.nodes i).expiresAtIt.1) := by
      rw [requests, List.filter_map]
      refine (List.map_mergeSort ?_).symm
      intro i _ j _
      rfl
    dsimp only [cancel]
    rw [hlate, hrequests, List.map_map, List.map_map]
    refine List.map_congr_left fun i hi => ?_
    have hmem := List.mem_of_mem_filter (List.mem_mergeSort.mp hi)
    dsimp only [Function.comp_apply]
    rw [h.snd_entry i hmem]
  · refine (sameRequests_updateTimer _).requests.trans ?_
    rw [foldl_putAside, diff_upTo_nodes h]
    dsimp only [requests]
    rw [List.filter_map]
    rfl

end Cancel

theorem rep_popAll (n : Nat) {q : Queue β} (h : Rep q) : Rep (q.popAll n).2 := by
  induction n generalizing q with
  | zero => exact h
  | succ n ih =>
      have hpop := rep_pop h
      unfold popAll
      split
      · next q' heq => rwa [heq] at hpop
      · next request q' heq =>
          rw [heq] at hpop
          exact ih hpop

/-- The loop of `disable` takes all requests. -/
theorem requests_popAll {n : Nat} {q : Queue β} (hn : q.requests.length ≤ n) :
    (q.popAll n).1 = q.requests.map Prod.fst ∧ (q.popAll n).2.requests = [] := by
  induction n generalizing q with
  | zero =>
      have hnil : q.requests = [] := List.length_eq_zero_iff.mp (Nat.le_zero.mp hn)
      simp [popAll, hnil]
  -- a round takes the first request, and the rest by induction
  | succ n ih =>
      obtain ⟨hfirst, hrest⟩ := requests_pop q
      unfold popAll
      split
      · next q' heq =>
          rw [heq] at hfirst hrest
          have hnil : q.requests = [] := by simpa using hfirst.symm
          exact ⟨by rw [hnil]; rfl, by rw [hrest, hnil]; rfl⟩
      · next request q' heq =>
          rw [heq] at hfirst hrest
          cases hq : q.requests with
          | nil => simp [hq] at hfirst
          | cons r rs =>
              simp only [hq, List.head?_cons, Option.map_some, Option.some.injEq,
                List.tail_cons] at hfirst hrest
              have hlength : q'.requests.length ≤ n := by
                rw [hq, List.length_cons] at hn
                rw [hrest]
                omega
              obtain ⟨hall, hnone⟩ := ih hlength
              refine ⟨?_, hnone⟩
              show request :: (q'.popAll n).1 = _
              rw [hall, hrest, hfirst, List.map_cons]

@[simp] theorem capacity_push (context : Nat) (now : TimePoint) (waitDuration : Duration)
    (request : β) (q : Queue β) :
    (q.push context now waitDuration request).2.capacity = q.capacity := by
  unfold push
  split
  · refine (sameRequests_updateTimer _).capacity.trans ?_
    unfold takeNode
    split <;> rfl
  · rfl

@[simp] theorem capacity_pop (q : Queue β) : q.pop.2.capacity = q.capacity := by
  unfold pop
  split
  · rfl
  · exact (sameRequests_updateTimer _).capacity

@[simp] theorem capacity_popAll (n : Nat) (q : Queue β) :
    (q.popAll n).2.capacity = q.capacity := by
  induction n generalizing q with
  | zero => rfl
  | succ n ih =>
      have hpop := capacity_pop q
      unfold popAll
      split
      · next q' heq => rwa [heq] at hpop
      · next request q' heq =>
          rw [heq] at hpop
          exact (ih q').trans hpop

@[simp] theorem capacity_cancel (c : Completion) (q : Queue β) :
    (q.cancel c).2.capacity = q.capacity := by
  cases c with
  | aborted expiresAt => rfl
  | expired expiresAt =>
      refine (sameRequests_updateTimer _).capacity.trans ?_
      rw [foldl_putAside]

/-! ## Timers

There is always a wait for the time of the earliest request. The timers of other contexts may still
be set for requests that have left, so a wait can also end for nothing. -/

/-- A wait for a time is pending, or it ended at that time and its handler has yet to run. -/
def Waits (q : Queue β) (expiresAt : TimePoint) : Prop :=
  (∃ e ∈ q.timers, expiresAt ∈ e.2.waits) ∨ .expired expiresAt ∈ q.completions

/-- What the timers do, whatever the requests are. -/
structure Clocked (now : TimePoint) (q : Queue β) : Prop where
  waits : ∀ e ∈ q.timers, ∀ expiresAt ∈ e.2.waits, expiresAt = e.2.expiresAt
  due : ∀ expiresAt, .expired expiresAt ∈ q.completions → expiresAt ≤ now

/-- The timers: there is a wait for the earliest request, and no wait ends before its time. -/
structure Timers (now : TimePoint) (q : Queue β) : Prop extends Clocked now q where
  earliest : ∀ e ∈ q.expiresAtRequests.head?, q.Waits e.1

theorem expired_not_mem_aborted (q : Queue β) (p : Nat → Bool) (expiresAt : TimePoint) :
    .expired expiresAt ∉ q.aborted p := by
  simp [aborted]

/-- Setting a timer ends its wait, aborted, and starts another. -/
theorem clocked_setTimer {now : TimePoint} {q : Queue β} (h : Clocked now q) (context : Nat)
    (expiresAt : TimePoint) : Clocked now (q.setTimer context expiresAt) where
  waits := by
    intro e he t ht
    obtain ⟨e', he', rfl⟩ := List.mem_map.mp he
    split at ht
    · next hcontext =>
        rw [if_pos hcontext]
        exact List.mem_singleton.mp ht
    · next hcontext =>
        rw [if_neg hcontext]
        exact h.waits e' he' t ht
  due := by
    intro t ht
    rcases List.mem_append.mp ht with ht | ht
    · exact h.due t ht
    · exact absurd ht (expired_not_mem_aborted q _ t)

theorem clocked_getTimer {now : TimePoint} {q : Queue β} (h : Clocked now q) (context : Nat) :
    Clocked now (q.getTimer context) := by
  unfold getTimer
  split
  · exact h
  · refine ⟨?_, h.due⟩
    intro e he t ht
    rcases List.mem_append.mp he with he | he
    · exact h.waits e he t ht
    · obtain rfl := List.mem_singleton.mp he
      cases ht

/-- There is a timer of the context. -/
theorem mem_getTimer (context : Nat) (q : Queue β) :
    ∃ e ∈ (q.getTimer context).timers, e.1 = context := by
  unfold getTimer
  split
  · next hmem => exact List.mem_map.mp hmem
  · exact ⟨(context, ⟨0, []⟩), List.mem_append_right _ (List.mem_singleton_self _), rfl⟩

/-- Whatever it was before, `update_timer` leaves a wait for the earliest request. -/
theorem timers_updateTimer {now : TimePoint} {q : Queue β} (h : Clocked now q) :
    Timers now q.updateTimer := by
  have hsame := (sameRequests_updateTimer q).expiresAtRequests
  revert hsame
  unfold updateTimer
  split
  -- without requests all waits are aborted
  · next hnone =>
      intro _
      refine ⟨⟨nofun, ?_⟩, ?_⟩
      · intro t ht
        rcases List.mem_append.mp ht with ht | ht
        · exact h.due t ht
        · exact absurd ht (expired_not_mem_aborted q _ t)
      · intro e he
        simp [hnone] at he
  -- the timer of the first request's context is set for its time
  · next expiresAt node rest hsome =>
      intro hsame
      refine ⟨clocked_setTimer (clocked_getTimer h _) _ _, ?_⟩
      intro e he
      rw [hsame, hsome, List.head?_cons, Option.mem_some_iff] at he
      subst he
      obtain ⟨e, he, hcontext⟩ := mem_getTimer (q.nodes node).context q
      refine Or.inl ⟨(e.1, ⟨expiresAt, [expiresAt]⟩), ?_, List.mem_singleton_self _⟩
      exact List.mem_map.mpr ⟨e, he, if_pos hcontext⟩

namespace Timers

variable {now : TimePoint} {q : Queue β}

theorem init [Inhabited β] (now : TimePoint) (capacity : Nat) :
    Timers now (Queue.init β capacity) where
  waits := nofun
  due := nofun
  earliest := nofun

/-- The timer of the earliest request may have to be set anew. -/
theorem push (h : Timers now q) (context : Nat) (t : TimePoint) (waitDuration : Duration)
    (request : β) : Timers now (q.push context t waitDuration request).2 := by
  unfold Queue.push
  split
  · dsimp only
    apply timers_updateTimer
    unfold takeNode
    split <;> exact ⟨h.waits, h.due⟩
  · exact h

/-- So may it when the first request is gone. -/
theorem pop (h : Timers now q) : Timers now q.pop.2 := by
  unfold Queue.pop
  split
  · exact h
  · exact timers_updateTimer ⟨h.waits, h.due⟩

theorem popAll (n : Nat) (h : Timers now q) : Timers now (q.popAll n).2 := by
  induction n generalizing q with
  | zero => exact h
  | succ n ih =>
      have hpop := h.pop
      unfold Queue.popAll
      split
      · next q' heq => rwa [heq] at hpop
      · next request q' heq =>
          rw [heq] at hpop
          exact ih hpop

/-- The handler of a wait runs. -/
theorem complete (h : Timers now q) (c : Completion) :
    Timers now ({ q with completions := q.completions.erase c }.cancel c).2 := by
  have hdue : ∀ t, .expired t ∈ q.completions.erase c → t ≤ now :=
    fun t ht => h.due t (List.mem_of_mem_erase ht)
  cases c with
  | aborted expiresAt =>
      refine ⟨⟨h.waits, hdue⟩, ?_⟩
      intro e he
      rcases h.earliest e he with hwait | hdone
      · exact Or.inl hwait
      · exact Or.inr ((List.mem_erase_of_ne (by simp)).mpr hdone)
  | expired expiresAt =>
      refine timers_updateTimer ?_
      rw [foldl_putAside]
      exact ⟨h.waits, hdue⟩

/-- A wait ends when its time has come. -/
theorem expire (h : Timers now q) (context : Nat) : Timers now (q.expire context now) where
  waits := by
    intro e he t ht
    obtain ⟨e', he', rfl⟩ := List.mem_map.mp he
    split at ht
    · cases ht
    · next hdue =>
        rw [if_neg hdue]
        exact h.waits e' he' t ht
  due := by
    intro t ht
    rcases List.mem_append.mp ht with ht | ht
    · exact h.due t ht
    · obtain ⟨e, he, ht⟩ := List.mem_flatMap.mp ht
      obtain ⟨t', ht', heq⟩ := List.mem_map.mp ht
      cases heq
      obtain ⟨he, hdue⟩ := List.mem_filter.mp he
      rw [h.waits e he t ht']
      exact (of_decide_eq_true hdue).2
  earliest := by
    intro e he
    rcases h.earliest e he with ⟨e', he', ht⟩ | hdone
    · by_cases hdue : e'.1 = context ∧ e'.2.expiresAt ≤ now
      · -- the wait ends
        refine Or.inr (List.mem_append_right _ ?_)
        exact List.mem_flatMap.mpr
          ⟨e', List.mem_filter.mpr ⟨he', decide_eq_true hdue⟩, List.mem_map_of_mem ht⟩
      · refine Or.inl ⟨e', List.mem_map.mpr ⟨e', he', ?_⟩, ht⟩
        exact if_neg (by simpa using hdue)
    · exact Or.inr (List.mem_append_left _ hdone)

/-- Time goes by. -/
theorem tick (h : Timers now q) {later : TimePoint} (hle : now ≤ later) : Timers later q where
  waits := h.waits
  due t ht := Int64.le_trans (h.due t ht) hle
  earliest := h.earliest

end Timers

/-- No timer has reached its time with a wait pending, and no handler of a wait has yet to run. -/
def Settled (now : TimePoint) (q : Queue β) : Prop :=
  (∀ e ∈ q.timers, e.2.waits ≠ [] → now < e.2.expiresAt) ∧ q.completions = []

/-- When the timers have nothing to do, no request is late. -/
theorem Timers.not_late {now : TimePoint} {q : Queue β} (h : Timers now q) (hrep : Rep q)
    (hsettled : Settled now q) : ∀ r ∈ q.requests, now < r.2 := by
  intro r hr
  obtain ⟨i, hi, rfl⟩ := List.mem_map.mp hr
  have hmem : (q.nodes i).expiresAtIt ∈ q.expiresAtRequests :=
    hrep.holds.mem_iff.mpr (List.mem_map_of_mem hi)
  have hearliest := h.earliest
  have hsorted := hrep.holds.sorted
  cases hq : q.expiresAtRequests with
  | nil => simp [hq] at hmem
  | cons e rest =>
      rw [hq] at hmem hearliest hsorted
      -- the earliest request has a wait pending, or one that ended and is still to be handled
      rcases hearliest e rfl with ⟨timer, htimer, hwait⟩ | hdone
      · have hlt := hsettled.1 timer htimer (List.ne_nil_of_mem hwait)
        rw [← h.waits timer htimer _ hwait] at hlt
        rcases List.mem_cons.mp hmem with heq | hmem
        · rw [heq]
          exact hlt
        · refine Int64.lt_of_lt_of_le hlt ?_
          exact Int64.le_iff_toInt_le.mpr (List.rel_of_pairwise_cons hsorted hmem)
      · rw [hsettled.2] at hdone
        cases hdone

end Queue

end OzoPg.ResourcePool
