import OzoPg.Descriptor.Model
import OzoPg.Lib.Ownership

/-!
# What the effects keep

Owning is twice in use: the `pg::conn`s own the `PGconn`s, and these own the descriptors. That the
streams do not come in between is a matter of order, so within an operation it is followed whose
handle each stream is for.

* `Inv` — the invariant, kept by every effect on the streams and on the handles.
-/

namespace OzoPg.Descriptor

open Ownership (Owns)

/-! ## The invariant

A descriptor is closed by its owner only. The owner of a socket is the `PGconn`, so a stream has to
be off before `PQfinish`. -/

/-- No descriptor is in the stream. -/
def Os.Idle (os : Os) (st : Stream) : Prop := ∀ e ∈ os.registered, e.1 ≠ st

/-- What holds of the handles and the streams. `link` says whose handle the stream is for; that the
descriptors of the streams are the sockets of these handles is only known when libpq has not closed
one by itself, which `clean` stands for. -/
structure Inv (clean : Prop) (link : Stream → Holder) (os : Os) : Prop where
  handles : Owns os.handles {id | os.conns id ≠ none}
  sockets : Owns (fun id => (os.conns id).join) {fd | os.opened fd = true}
  fresh : ∀ id, os.next ≤ id → os.conns id = none
  tied : clean → ∀ e ∈ os.registered, os.pqSocket (os.handles (link e.1)) = some e.2
  faults : ∀ f ∈ os.faults, f.fatal = false
  noFaults : clean → os.faults = []

section

variable {clean : Prop} {link : Stream → Holder} {os : Os}

/-- Only the streams with a descriptor need to be linked. -/
theorem Inv.congr (h : Inv clean link os) {link' : Stream → Holder}
    (hlink : ∀ e ∈ os.registered, link' e.1 = link e.1) : Inv clean link' os := by
  refine { h with tied := fun hclean e he => ?_ }
  rw [hlink e he]
  exact h.tied hclean e he

/-- A socket is one of a handle that is there. -/
theorem Os.pqSocket_eq_some {handle : Option ConnId} {fd : Fd} :
    os.pqSocket handle = some fd ↔ ∃ id, handle = some id ∧ (os.conns id).join = some fd := by
  cases handle with
  | none => simp [Os.pqSocket]
  | some id => simp [Os.pqSocket]

/-- Of the numbers to come none is changed with a `PGconn` that is there. -/
theorem Inv.fresh_update (h : Inv clean link os) {id : ConnId} (hid : os.conns id ≠ none)
    (x : Option (Option Fd)) (k : ConnId) (hk : os.next ≤ k) :
    Function.update os.conns id x k = none := by
  have hne : k ≠ id := by
    rintro rfl
    exact hid (h.fresh k hk)
  rw [Function.update_of_ne hne]
  exact h.fresh k hk

theorem not_fatal_ite (c : Bool) {fault : Fault} (h : fault.fatal = false) :
    ∀ f ∈ if c then [fault] else [], f.fatal = false := by
  cases c with
  | false => exact fun f hf => absurd hf List.not_mem_nil
  | true => exact List.forall_mem_singleton.mpr h

/-- There is only one stream for a handle on a socket. -/
theorem Inv.not_hasStream (h : Inv clean link os) (hclean : clean) {holder : Holder} {fd : Fd}
    (hfd : os.pqSocket (os.handles holder) = some fd)
    (hlink : ∀ e ∈ os.registered, link e.1 ≠ holder) : os.hasStream fd = false := by
  rw [Os.hasStream, List.any_eq_false]
  intro e he heq
  obtain rfl := beq_iff_eq.mp heq
  obtain ⟨id, hid, hsocket⟩ := Os.pqSocket_eq_some.mp hfd
  obtain ⟨id', hid', hsocket'⟩ := Os.pqSocket_eq_some.mp (h.tied hclean e he)
  obtain rfl := h.sockets.unique id id' e.2 hsocket hsocket'
  exact hlink e he (h.handles.unique _ _ id hid' hid)

/-! ## Streams -/

/-- A stream is put on the socket of its handle, which has no other stream. -/
theorem Inv.register (h : Inv clean link os) (st : Stream) {fd : Fd}
    (hfd : os.pqSocket (os.handles (link st)) = some fd)
    (hlink : ∀ e ∈ os.registered, link e.1 ≠ link st) : Inv clean link (os.register st fd) := by
  refine ⟨h.handles, h.sockets, h.fresh, ?_, ?_, ?_⟩
  · intro hclean e he
    rcases List.mem_cons.mp he with rfl | he
    · exact hfd
    · exact h.tied hclean e he
  · exact List.forall_mem_append.mpr ⟨h.faults, not_fatal_ite _ rfl⟩
  · intro hclean
    show os.faults ++ _ = []
    rw [h.not_hasStream hclean hfd hlink, h.noFaults hclean]
    rfl

theorem Os.idle_release (os : Os) (st : Stream) : (os.release st).Idle st := by
  intro e he
  exact of_decide_eq_true (List.mem_filter.mp he).2

/-- A released stream has no descriptor, so nothing is required of it. -/
theorem Inv.release (h : Inv clean link os) (st : Stream) : Inv clean link (os.release st) :=
  ⟨h.handles, h.sockets, h.fresh, fun hclean e he => h.tied hclean e (List.mem_filter.mp he).1,
    h.faults, h.noFaults⟩

/-- Nothing is closed with a stream that has been released. -/
theorem Os.Idle.destroyStream {st : Stream} (h : os.Idle st) : os.destroyStream st = os := by
  have hlookup : os.registered.lookup st = none := by
    rw [List.lookup_eq_none_iff]
    intro e he
    rw [bne_iff_ne]
    exact fun heq => h e he heq.symm
  rw [Os.destroyStream, hlookup]

theorem Os.Idle.moveStream {dst : Stream} (h : os.Idle dst) (src : Stream) :
    os.moveStream src dst = { os with
      registered := os.registered.map fun e => if e.1 = src then (dst, e.2) else e } := by
  rw [Os.moveStream, h.destroyStream]

/-- The target of a move takes over the link. -/
theorem Inv.moveStream (h : Inv clean link os) (src : Stream) {dst : Stream} (hdst : os.Idle dst) :
    Inv clean (Function.update link dst (link src)) (os.moveStream src dst) := by
  rw [hdst.moveStream]
  refine ⟨h.handles, h.sockets, h.fresh, ?_, h.faults, h.noFaults⟩
  intro hclean e he
  obtain ⟨e', he', rfl⟩ := List.mem_map.mp he
  have htied := h.tied hclean e' he'
  split
  · next hsrc =>
      rw [Function.update_self, ← hsrc]
      exact htied
  · rw [Function.update_of_ne (hdst e' he')]
    exact htied

/-! ## Handles -/

theorem live_update (conns : ConnId → Option (Option Fd)) (id : ConnId) :
    {k | Function.update conns id none k ≠ none} = {k | conns k ≠ none} \ {id} := by
  ext k
  by_cases hk : k = id
  · simp [hk]
  · simp [hk]

theorem join_update (conns : ConnId → Option (Option Fd)) (id : ConnId) (x : Option (Option Fd)) :
    (fun k => (Function.update conns id x k).join)
      = Function.update (fun k => (conns k).join) id x.join := by
  funext k
  by_cases hk : k = id
  · subst hk
    rw [Function.update_self, Function.update_self]
  · rw [Function.update_of_ne hk, Function.update_of_ne hk]

theorem opened_update (opened : Fd → Bool) (fd : Fd) :
    {k | Function.update opened fd false k = true} = {k | opened k = true} \ {fd} := by
  ext k
  by_cases hk : k = fd
  · simp [hk]
  · simp [hk]

/-- `PQfinish` of a `PGconn` that is there. -/
theorem Os.finish_eq {id : ConnId} {socket : Option Fd} (hid : os.conns id = some socket) :
    os.finish id = { os with
      conns := Function.update os.conns id none
      opened := socket.elim os.opened fun fd => Function.update os.opened fd false
      faults := os.faults ++ socket.elim [] fun fd =>
        (if os.opened fd then [] else [.closedTwice fd])
          ++ if os.hasStream fd then [.dangling fd] else [] } := by
  unfold Os.finish
  rw [hid]
  cases socket with
  | none => simp
  | some fd =>
      simp only [Os.close, Option.elim_some, List.append_assoc]
      rfl

theorem Os.finish_handles (os : Os) (handles : Holder → Option ConnId) (id : ConnId) :
    { os with handles }.finish id = { os.finish id with handles } := by
  cases hid : os.conns id with
  | none => simp only [Os.finish, hid]
  | some socket =>
      cases socket with
      | none => simp only [Os.finish, hid]
      | some fd =>
          simp only [Os.finish, hid]
          rfl

theorem Os.reset_of_none {holder : Holder} (h : os.handles holder = none) :
    os.reset holder = os := by
  unfold Os.reset
  rw [h]
  simp only [Owns.update_none h]

theorem Os.reset_of_some {holder : Holder} {id : ConnId} (h : os.handles holder = some id) :
    os.reset holder
      = { os.finish id with handles := Function.update os.handles holder none } := by
  rw [← Os.finish_handles, Os.reset, h]

/-- The sockets without that of a `PGconn` that is finished. -/
theorem Inv.sockets_finish (h : Inv clean link os) {id : ConnId} {socket : Option Fd}
    (hid : os.conns id = some socket) :
    Owns (fun k => (Function.update os.conns id none k).join)
      {fd | (socket.elim os.opened fun fd => Function.update os.opened fd false) fd = true} := by
  rw [join_update]
  cases socket with
  | none =>
      have hnone : (os.conns id).join = none := by rw [hid]; rfl
      have hupdate : Function.update (fun k => (os.conns k).join) id none
          = fun k => (os.conns k).join := Owns.update_none hnone
      show Owns (Function.update (fun k => (os.conns k).join) id none) {fd | os.opened fd = true}
      rw [hupdate]
      exact h.sockets
  | some fd =>
      have hsome : (os.conns id).join = some fd := by rw [hid]; rfl
      show Owns _ {k | Function.update os.opened fd false k = true}
      rw [opened_update]
      exact h.sockets.drop hsome

/-- What a `pg::conn` that no stream is for has is finished. -/
theorem Inv.reset (h : Inv clean link os) {holder : Holder}
    (hlink : ∀ e ∈ os.registered, link e.1 ≠ holder) : Inv clean link (os.reset holder) := by
  cases hid : os.handles holder with
  | none => rwa [Os.reset_of_none hid]
  | some id =>
      obtain ⟨socket, hsocket⟩ := Option.ne_none_iff_exists'.mp (h.handles.mem hid)
      rw [Os.reset_of_some hid, Os.finish_eq hsocket]
      refine ⟨?_, h.sockets_finish hsocket, ?_, ?_, ?_, ?_⟩
      · show Owns _ {k | Function.update os.conns id none k ≠ none}
        rw [live_update]
        exact h.handles.drop hid
      · exact h.fresh_update (h.handles.mem hid) none
      · intro hclean e he
        obtain ⟨id', hid', hfd⟩ := Os.pqSocket_eq_some.mp (h.tied hclean e he)
        -- a stream that is left is for another handle, and each has a `PGconn` of its own
        have hne : id' ≠ id := by
          rintro rfl
          exact hlink e he (h.handles.unique _ _ id' hid' hid)
        refine Os.pqSocket_eq_some.mpr ⟨id', ?_, ?_⟩
        · exact (Function.update_of_ne (hlink e he) ..).trans hid'
        · exact (congrArg Option.join (Function.update_of_ne hne ..)).trans hfd
      -- the descriptor was open, so closing it is no double close
      · refine List.forall_mem_append.mpr ⟨h.faults, ?_⟩
        cases socket with
        | none => exact fun f hf => absurd hf List.not_mem_nil
        | some fd =>
            have hopen : os.opened fd = true := h.sockets.mem (by rw [hsocket]; rfl)
            rw [Option.elim_some, if_pos hopen]
            exact not_fatal_ite _ rfl
      · intro hclean
        show os.faults ++ _ = []
        rw [h.noFaults hclean]
        cases socket with
        | none => rfl
        | some fd =>
            have hopen : os.opened fd = true := h.sockets.mem (by rw [hsocket]; rfl)
            -- in a clean run no stream is on it either
            have hfd : os.pqSocket (os.handles holder) = some fd :=
              Os.pqSocket_eq_some.mpr ⟨id, hid, by rw [hsocket]; rfl⟩
            simp [hopen, h.not_hasStream hclean hfd hlink]

/-- A handle is moved into a `pg::conn` that has none. -/
def Os.transfer (os : Os) (src dst : Holder) : Os :=
  { os with handles := Function.update (Function.update os.handles dst (os.handles src)) src none }

/-- The streams of a handle follow it to where it is moved. -/
theorem Inv.transfer (h : Inv clean link os) {src dst : Holder} (hdst : os.handles dst = none) :
    Inv clean (fun st => if link st = src then dst else link st) (os.transfer src dst) := by
  refine ⟨h.handles.move hdst src, h.sockets, h.fresh, ?_, h.faults, h.noFaults⟩
  intro hclean e he
  obtain ⟨id, hid, hfd⟩ := Os.pqSocket_eq_some.mp (h.tied hclean e he)
  refine Os.pqSocket_eq_some.mpr ⟨id, ?_, hfd⟩
  have hlink : link e.1 ≠ dst := by
    intro heq
    rw [heq, hdst] at hid
    cases hid
  show Function.update (Function.update os.handles dst (os.handles src)) src none
    (if link e.1 = src then dst else link e.1) = some id
  split
  · next hsrc =>
      rw [← hsrc, Function.update_of_ne hlink.symm, Function.update_self]
      exact hid
  · next hsrc =>
      rw [Function.update_of_ne hsrc, Function.update_of_ne hlink]
      exact hid

/-- A move assignment finishes what the target had and then transfers. -/
theorem Os.move_eq {src dst : Holder} (hne : src ≠ dst) :
    os.move src dst = (os.reset dst).transfer src dst := by
  cases hdst : os.handles dst with
  | none =>
      rw [Os.reset_of_none hdst, Os.transfer, Os.move, hdst, Function.update_comm hne]
  | some id =>
      have hhandles : Function.update (Function.update os.handles src none) dst (os.handles src)
          = Function.update (Function.update (Function.update os.handles dst none) dst
            (Function.update os.handles dst none src)) src none := by
        rw [Function.update_of_ne hne, Function.update_idem, Function.update_comm hne]
      have hmove : os.move src dst = { os with
          handles := Function.update (Function.update os.handles src none) dst
            (os.handles src) }.finish id := by
        rw [Os.move, hdst]
      rw [hmove, Os.finish_handles, Os.reset_of_some hdst]
      exact congrArg (fun handles => { os.finish id with handles }) hhandles

/-- A handle is moved, with the streams that are for it. -/
theorem Inv.move (h : Inv clean link os) {src dst : Holder} (hne : src ≠ dst)
    (hlink : ∀ e ∈ os.registered, link e.1 ≠ dst) :
    Inv clean (fun st => if link st = src then dst else link st) (os.move src dst) := by
  rw [Os.move_eq hne]
  apply (h.reset hlink).transfer
  cases hdst : os.handles dst with
  | none => rw [Os.reset_of_none hdst, hdst]
  | some id =>
      rw [Os.reset_of_some hdst]
      exact Function.update_self ..

theorem Os.registered_finish (os : Os) (id : ConnId) :
    (os.finish id).registered = os.registered := by
  unfold Os.finish
  split <;> rfl

theorem Os.registered_reset (os : Os) (holder : Holder) :
    (os.reset holder).registered = os.registered := by
  unfold Os.reset
  split
  · rfl
  · exact Os.registered_finish _ _

theorem Os.registered_move (os : Os) (src dst : Holder) :
    (os.move src dst).registered = os.registered := by
  unfold Os.move
  split
  · rfl
  · exact Os.registered_finish _ _

/-- A handle that no stream is for is moved. -/
theorem Inv.move_of_unlinked (h : Inv clean link os) {src dst : Holder} (hne : src ≠ dst)
    (hsrc : ∀ e ∈ os.registered, link e.1 ≠ src) (hdst : ∀ e ∈ os.registered, link e.1 ≠ dst) :
    Inv clean link (os.move src dst) := by
  apply (h.move hne hdst).congr
  intro e he
  rw [Os.registered_move] at he
  exact (if_neg (hsrc e he)).symm

theorem Os.handles_finish (os : Os) (id : ConnId) : (os.finish id).handles = os.handles := by
  unfold Os.finish
  split <;> rfl

theorem Os.handles_reset (os : Os) (holder : Holder) :
    (os.reset holder).handles = Function.update os.handles holder none := by
  unfold Os.reset
  split
  · rfl
  · exact Os.handles_finish _ _

theorem Os.handles_move (os : Os) (src dst : Holder) :
    (os.move src dst).handles
      = Function.update (Function.update os.handles src none) dst (os.handles src) := by
  unfold Os.move
  split
  · rfl
  · exact Os.handles_finish _ _

end

end OzoPg.Descriptor
