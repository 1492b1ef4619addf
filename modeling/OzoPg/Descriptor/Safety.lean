import OzoPg.Descriptor.Effects

/-!
# Who closes what

From the effects to the operations and to whole runs.

* `Settled` — what every operation keeps;
* `handles_owned` — every `PGconn` has one owner and is finished once, every open descriptor is the
  socket of one of them and is closed by libpq only;
* `streams_follow` — as long as libpq closes no socket by itself, every stream is on the socket of
  its own connection, and there is one stream on a socket.
-/

namespace OzoPg.Descriptor

open Ownership (Owns)

/-! ## Operations

Between the operations the stream of every connection is linked to its own handle. Inside them it
may be linked to another one for a moment. -/

/-- Whose handle a stream is for. -/
def Stream.holder : Stream → Holder
  | .socket c => .connection c
  -- it lives within `assign` only
  | .newSocket => .retval
  | .pooled i => .cell i

/-- Each handle has one stream of its own. -/
theorem Stream.holder_injective {st st' : Stream} (h : st.holder = st'.holder) : st = st' := by
  cases st <;> cases st' <;> cases h <;> rfl

/-- Between the operations, with the cells that a `pooled_connection` has. -/
structure Settled (clean : Prop) (held : Nat → Prop) (os : Os) : Prop where
  inv : Inv clean Stream.holder os
  newSocket : os.Idle .newSocket
  pooled : ∀ i, ¬ held i → os.Idle (.pooled i)
  retval : os.handles .retval = none

section

variable {clean : Prop} {held : Nat → Prop} {os : Os}

/-- The handle of an idle stream has no stream. -/
theorem Os.Idle.holder_ne {st : Stream} (h : os.Idle st) :
    ∀ e ∈ os.registered, e.1.holder ≠ st.holder :=
  fun e he heq => h e he (Stream.holder_injective heq)

theorem Stream.holder_ne_var (st : Stream) (v : Nat) : st.holder ≠ .var v := by
  cases st <;> simp [Stream.holder]

/-- An operation that puts a stream nowhere. -/
theorem Settled.of_subset (h : Settled clean held os) {os' : Os}
    (hinv : Inv clean Stream.holder os') (hsub : ∀ e ∈ os'.registered, e ∈ os.registered)
    (hretval : os'.handles .retval = none) :
    Settled clean held os' :=
  ⟨hinv, fun e he => h.newSocket e (hsub e he), fun i hi e he => h.pooled i hi e (hsub e he),
    hretval⟩

theorem Settled.release (h : Settled clean held os) (st : Stream) :
    Settled clean held (os.release st) :=
  h.of_subset (h.inv.release st) (fun _ he => (List.mem_filter.mp he).1) h.retval

/-- A handle is finished when no stream is for it. -/
theorem Settled.reset (h : Settled clean held os) {holder : Holder}
    (hlink : ∀ e ∈ os.registered, e.1.holder ≠ holder) : Settled clean held (os.reset holder) := by
  apply h.of_subset (h.inv.reset hlink)
  · intro e he
    rwa [Os.registered_reset] at he
  · rw [Os.handles_reset]
    by_cases hholder : Holder.retval = holder
    · rw [hholder, Function.update_self]
    · rw [Function.update_of_ne hholder]
      exact h.retval

/-! ## `connection` -/

/-- What `connection::release` leaves, with its result in `retval`. -/
structure Released (clean : Prop) (os : Os) (c : Nat) : Prop where
  inv : Inv clean Stream.holder (os.releaseHandle c)
  subset : ∀ e ∈ (os.releaseHandle c).registered, e ∈ os.registered
  socket : (os.releaseHandle c).Idle (.socket c)

/-- The stream is released before the handle is moved out. -/
theorem Settled.releaseHandle (h : Settled clean held os) (c : Nat) : Released clean os c := by
  have hreleased := h.release (.socket c)
  have hidle := os.idle_release (.socket c)
  refine ⟨?_, ?_, ?_⟩
  · apply hreleased.inv.move_of_unlinked
    · simp
    · exact hidle.holder_ne
    · exact hreleased.newSocket.holder_ne
  · intro e he
    rw [Os.releaseHandle, Os.registered_move] at he
    exact (List.mem_filter.mp he).1
  · intro e he
    rw [Os.releaseHandle, Os.registered_move] at he
    exact hidle e he

/-- The result of `connection::release` is moved on, to where no stream is for. -/
theorem Settled.releaseHandle_move (h : Settled clean held os) (c : Nat) {dst : Holder}
    (hne : Holder.retval ≠ dst) (hdst : ∀ e ∈ os.registered, e.1.holder ≠ dst) :
    Settled clean held ((os.releaseHandle c).move .retval dst) := by
  have hreleased := h.releaseHandle c
  apply h.of_subset
  · apply hreleased.inv.move_of_unlinked hne
    · intro e he
      exact h.newSocket.holder_ne e (hreleased.subset e he)
    · intro e he
      exact hdst e (hreleased.subset e he)
  · intro e he
    rw [Os.registered_move] at he
    exact hreleased.subset e he
  · rw [Os.handles_move, Function.update_of_ne hne, Function.update_self]

/-- `close` releases and drops the result. -/
theorem Settled.closeConnection (h : Settled clean held os) (c : Nat) :
    Settled clean held (os.closeConnection c) := by
  have hreleased := h.releaseHandle c
  apply h.of_subset
  · apply hreleased.inv.reset
    intro e he
    exact h.newSocket.holder_ne e (hreleased.subset e he)
  · intro e he
    rw [Os.closeConnection, Os.registered_reset] at he
    exact hreleased.subset e he
  · rw [Os.closeConnection, Os.handles_reset, Function.update_self]

/-- The destructor closes, and finds nothing left in its members. -/
theorem Settled.destroyConnection (h : Settled clean held os) (c : Nat) :
    Settled clean held (os.destroyConnection c) := by
  have hidle : (os.closeConnection c).Idle (.socket c) := by
    intro e he
    rw [Os.closeConnection, Os.registered_reset] at he
    exact (h.releaseHandle c).socket e he
  rw [Os.destroyConnection, hidle.destroyStream]
  exact (h.closeConnection c).reset hidle.holder_ne

theorem Os.Idle.moveStream_src {src dst : Stream} (h : os.Idle dst) (hne : src ≠ dst) :
    (os.moveStream src dst).Idle src := by
  rw [h.moveStream]
  intro e he
  obtain ⟨e', -, rfl⟩ := List.mem_map.mp he
  split
  · exact hne.symm
  · next hsrc => exact hsrc

theorem Os.Idle.moveStream_of_ne {src dst st : Stream} (h : os.Idle dst) (hst : os.Idle st)
    (hne : st ≠ dst) : (os.moveStream src dst).Idle st := by
  rw [h.moveStream]
  intro e he
  obtain ⟨e', he', rfl⟩ := List.mem_map.mp he
  split
  · exact hne.symm
  · exact hst e' he'

/-- `assign` up to the point where the handle is moved. -/
def Os.replaceSocket (os : Os) (c : Nat) (fd : Fd) : Os :=
  ((os.register .newSocket fd).release (.socket c)).moveStream .newSocket (.socket c)

/-- The new socket is moved on into `socket_`. -/
theorem Settled.idle_replaceSocket (h : Settled clean held os) (c : Nat) (fd : Fd) :
    (os.replaceSocket c fd).Idle .newSocket ∧
      ∀ i, ¬ held i → (os.replaceSocket c fd).Idle (.pooled i) := by
  have hidle := (os.register .newSocket fd).idle_release (.socket c)
  refine ⟨hidle.moveStream_src (by simp), fun i hi => hidle.moveStream_of_ne ?_ (by simp)⟩
  intro e he
  rcases List.mem_cons.mp (List.mem_filter.mp he).1 with rfl | he'
  · simp
  · exact h.pooled i hi e he'

theorem Settled.handles_replaceSocket (os : Os) (c : Nat) (fd : Fd) :
    (os.replaceSocket c fd).handles = os.handles := by
  rw [Os.replaceSocket, ((os.register .newSocket fd).idle_release (.socket c)).moveStream]
  rfl

/-- The new stream is for the handle in the variable. -/
theorem Settled.inv_replaceSocket (h : Settled clean held os) (c : Nat) {v : Nat} {fd : Fd}
    (hfd : os.pqSocket (os.handles (.var v)) = some fd) :
    Inv clean (Function.update Stream.holder (.socket c) (.var v)) (os.replaceSocket c fd) := by
  -- the new stream is for the handle in the variable until that is moved
  have hlink : Inv clean (Function.update Stream.holder .newSocket (.var v)) os := by
    apply h.inv.congr
    intro e he
    exact Function.update_of_ne (h.newSocket e he) ..
  have hregistered : Inv clean (Function.update Stream.holder .newSocket (.var v))
      (os.register .newSocket fd) := by
    apply hlink.register
    · rw [Function.update_self]
      exact hfd
    · intro e he
      rw [Function.update_self, Function.update_of_ne (h.newSocket e he)]
      exact e.1.holder_ne_var v
  -- the old stream is released before the new one takes its place
  have hmoved := (hregistered.release (.socket c)).moveStream .newSocket
    ((os.register .newSocket fd).idle_release (.socket c))
  rw [Function.update_self] at hmoved
  apply hmoved.congr
  intro e he
  by_cases hsocket : e.1 = .socket c
  · rw [hsocket, Function.update_self, Function.update_self]
  · rw [Function.update_of_ne hsocket, Function.update_of_ne hsocket,
      Function.update_of_ne ((h.idle_replaceSocket c fd).1 e he)]

/-- `assign` takes the old stream off before it puts the new one on. -/
theorem Settled.assign (h : Settled clean held os) (c v : Nat) :
    Settled clean held (os.assign c v) := by
  unfold Os.assign
  split
  · exact h
  · next fd hfd =>
      obtain ⟨hnew, hpooled⟩ := h.idle_replaceSocket c fd
      have hne : Holder.var v ≠ .connection c := by simp
      have hmoved := (h.inv_replaceSocket c hfd).move hne (by
        intro e he
        by_cases hsocket : e.1 = .socket c
        · rw [hsocket, Function.update_self]
          simp
        · rw [Function.update_of_ne hsocket]
          exact fun heq => hsocket (Stream.holder_injective heq))
      have hidle : ((os.replaceSocket c fd).move (.var v) (.connection c)).Idle .newSocket := by
        intro e he
        rw [Os.registered_move] at he
        exact hnew e he
      show Settled clean held
        (((os.replaceSocket c fd).move (.var v) (.connection c)).destroyStream .newSocket)
      rw [hidle.destroyStream]
      refine ⟨?_, hidle, ?_, ?_⟩
      · -- with the handle the stream goes to the connection
        apply hmoved.congr
        intro e he
        by_cases hsocket : e.1 = .socket c
        · rw [hsocket, Function.update_self, if_pos rfl]
          rfl
        · rw [Function.update_of_ne hsocket, if_neg (e.1.holder_ne_var v)]
      · intro i hi e he
        rw [Os.registered_move] at he
        exact hpooled i hi e he
      · rw [Os.handles_move, Function.update_of_ne (by simp), Function.update_of_ne (by simp),
          Settled.handles_replaceSocket]
        exact h.retval

/-! ## `pooled_connection` -/

/-- A `pooled_connection` is made for a cell. -/
theorem Settled.construct (h : Settled clean held os) {i : Nat} (hi : held i)
    (hidle : os.Idle (.pooled i)) : Settled clean held (os.construct i) := by
  unfold Os.construct
  split
  · exact h
  · next fd hfd =>
      refine ⟨h.inv.register (.pooled i) hfd hidle.holder_ne, ?_, ?_, h.retval⟩
      · intro e he
        rcases List.mem_cons.mp he with rfl | he
        · simp
        · exact h.newSocket e he
      · intro j hj e he
        rcases List.mem_cons.mp he with rfl | he
        · rintro ⟨⟩
          exact hj hi
        · exact h.pooled j hj e he

/-- A `pooled_connection` releases the stream and leaves the handle to the pool. -/
theorem Settled.closePooled (h : Settled clean held os) (i : Nat) :
    Settled clean held (os.closePooled i) :=
  (h.release (.pooled i)).reset (os.idle_release (.pooled i)).holder_ne

theorem Os.Idle.reset {st : Stream} (h : os.Idle st) (holder : Holder) :
    (os.reset holder).Idle st := by
  intro e he
  rw [Os.registered_reset] at he
  exact h e he

/-- The stream is idle when its destructor runs. -/
theorem Os.destroyPooled_eq (os : Os) (i : Nat) (waste : Bool) :
    os.destroyPooled i waste = if waste then os.closePooled i else os.release (.pooled i) := by
  have hidle := os.idle_release (.pooled i)
  cases waste with
  | false => exact hidle.destroyStream
  | true => exact (hidle.reset (.cell i)).destroyStream

/-- The destructor takes its stream off, whether the handle is wasted or recycled. -/
theorem Settled.destroyPooled (h : Settled clean held os) (i : Nat) (waste : Bool) :
    Settled clean held (os.destroyPooled i waste) ∧
      (os.destroyPooled i waste).Idle (.pooled i) := by
  have hidle := os.idle_release (.pooled i)
  rw [Os.destroyPooled_eq]
  split
  · exact ⟨h.closePooled i, hidle.reset (.cell i)⟩
  · exact ⟨h.release (.pooled i), hidle⟩

/-! ## libpq -/

theorem live_update_some (conns : ConnId → Option (Option Fd)) (id : ConnId) (socket : Option Fd) :
    {k | Function.update conns id (some socket) k ≠ none} = insert id {k | conns k ≠ none} := by
  ext k
  by_cases hk : k = id
  · simp [hk]
  · simp [hk]

theorem opened_update_true (opened : Fd → Bool) (fd : Fd) :
    {k | Function.update opened fd true k = true} = insert fd {k | opened k = true} := by
  ext k
  by_cases hk : k = fd
  · simp [hk]
  · simp [hk]

/-- A `PGconn` without a socket, or one that is not there yet, gets a socket. -/
theorem Inv.sockets_open {link : Stream → Holder} (h : Inv clean link os) {id : ConnId}
    (hid : (os.conns id).join = none) {socket : Option Fd}
    (hsocket : ∀ fd ∈ socket, os.opened fd = false) :
    Owns (fun k => (Function.update os.conns id (some socket) k).join)
      {fd | (socket.elim os.opened fun fd => Function.update os.opened fd true) fd = true} := by
  rw [join_update]
  cases socket with
  | none =>
      have hupdate : Function.update (fun k => (os.conns k).join) id none
          = fun k => (os.conns k).join := Owns.update_none hid
      show Owns (Function.update (fun k => (os.conns k).join) id none) {fd | os.opened fd = true}
      rw [hupdate]
      exact h.sockets
  | some fd =>
      show Owns _ {k | Function.update os.opened fd true k = true}
      rw [opened_update_true]
      apply h.sockets.take hid
      simp [hsocket fd rfl]

/-- A new `PGconn` comes with a descriptor that was not open. -/
theorem Settled.connectStart (h : Settled clean held os) {v : Nat} {socket : Option Fd}
    (hv : os.handles (.var v) = none) (hsocket : ∀ fd ∈ socket, os.opened fd = false) :
    Settled clean held { os with
      next := os.next + 1
      conns := Function.update os.conns os.next (some socket)
      opened := socket.elim os.opened fun fd => Function.update os.opened fd true
      handles := Function.update os.handles (.var v) (some os.next) } := by
  -- the new `PGconn` has a number nobody has seen
  have hfresh := h.inv.fresh os.next (Nat.le_refl _)
  refine ⟨⟨?_, ?_, ?_, ?_, h.inv.faults, h.inv.noFaults⟩, h.newSocket, h.pooled, ?_⟩
  · show Owns _ {k | Function.update os.conns os.next (some socket) k ≠ none}
    rw [live_update_some]
    apply h.inv.handles.take hv
    simp [hfresh]
  · exact h.inv.sockets_open (by rw [hfresh]; rfl) hsocket
  · intro id hid
    have hne : id ≠ os.next := by
      rintro rfl
      exact Nat.not_succ_le_self _ hid
    exact (Function.update_of_ne hne ..).trans (h.inv.fresh id (Nat.le_of_succ_le hid))
  · intro hclean e he
    obtain ⟨id, hid, hfd⟩ := Os.pqSocket_eq_some.mp (h.inv.tied hclean e he)
    have hne : id ≠ os.next := by
      rintro rfl
      exact h.inv.handles.mem hid hfresh
    refine Os.pqSocket_eq_some.mpr ⟨id, ?_, ?_⟩
    · exact (Function.update_of_ne (e.1.holder_ne_var v) ..).trans hid
    · exact (congrArg Option.join (Function.update_of_ne hne ..)).trans hfd
  · have hne : Holder.retval ≠ .var v := by simp
    show Function.update os.handles (.var v) (some os.next) .retval = none
    rw [Function.update_of_ne hne]
    exact h.retval

theorem live_update_of_some {conns : ConnId → Option (Option Fd)} {id : ConnId}
    (hid : conns id ≠ none) (socket : Option Fd) :
    {k | Function.update conns id (some socket) k ≠ none} = {k | conns k ≠ none} := by
  rw [live_update_some]
  exact Set.insert_eq_of_mem hid

/-- libpq opens a socket for a `PGconn` that had none. -/
theorem Settled.openSocket (h : Settled clean held os) {id : ConnId} {fd : Fd}
    (hid : os.conns id = some none) (hfd : os.opened fd = false) :
    Settled clean held { os with
      conns := Function.update os.conns id (some (some fd))
      opened := Function.update os.opened fd true } := by
  refine ⟨⟨?_, ?_, ?_, ?_, h.inv.faults, h.inv.noFaults⟩, h.newSocket, h.pooled, h.retval⟩
  · show Owns _ {k | Function.update os.conns id (some (some fd)) k ≠ none}
    rw [live_update_of_some (by simp [hid])]
    exact h.inv.handles
  · have hsocket : ∀ k ∈ some fd, os.opened k = false := by
      rintro _ ⟨⟩
      exact hfd
    exact h.inv.sockets_open (by rw [hid]; rfl) hsocket
  · exact h.inv.fresh_update (by simp [hid]) _
  · intro hclean e he
    obtain ⟨k, hk, hsocket⟩ := Os.pqSocket_eq_some.mp (h.inv.tied hclean e he)
    -- the `PGconn` had no socket, so no stream was on it
    have hne : k ≠ id := by
      rintro rfl
      rw [hid] at hsocket
      cases hsocket
    refine Os.pqSocket_eq_some.mpr ⟨k, hk, ?_⟩
    exact (congrArg Option.join (Function.update_of_ne hne ..)).trans hsocket

/-- A socket that libpq closes by itself may have a stream. -/
theorem Settled.dropSocket (h : Settled clean held os) (hclean : ¬ clean) {id : ConnId} {fd : Fd}
    (hid : os.conns id = some (some fd)) :
    Settled clean held
      ({ os with conns := Function.update os.conns id (some none) }.close fd) := by
  have hsocket : (os.conns id).join = some fd := by rw [hid]; rfl
  have hopen : os.opened fd = true := h.inv.sockets.mem hsocket
  refine ⟨⟨?_, ?_, ?_, fun h => absurd h hclean, ?_, fun h => absurd h hclean⟩, h.newSocket,
    h.pooled, h.retval⟩
  · show Owns _ {k | Function.update os.conns id (some none) k ≠ none}
    rw [live_update_of_some (by simp [hid])]
    exact h.inv.handles
  · show Owns (fun k => (Function.update os.conns id (some none) k).join)
      {k | Function.update os.opened fd false k = true}
    rw [join_update, opened_update]
    exact h.inv.sockets.drop hsocket
  · exact h.inv.fresh_update (by simp [hid]) _
  · show ∀ f ∈ os.faults ++ (if os.opened fd then [] else [.closedTwice fd]) ++ _, f.fatal = false
    rw [if_pos hopen, List.append_nil]
    exact List.forall_mem_append.mpr ⟨h.inv.faults, not_fatal_ite _ rfl⟩

end

/-! ## Steps -/

/-- A `pooled_connection` has the cell. -/
def State.held (s : State) (i : Nat) : Prop := (s.pool.cells i).place = .held

section

variable {clean : Prop} {s t : State}

/-- Which cells are held matters only for the streams that must be idle. -/
theorem Settled.congr {held held' : Nat → Prop} {os : Os} (h : Settled clean held os)
    (hheld : ∀ i, ¬ held' i → os.Idle (.pooled i)) : Settled clean held' os :=
  ⟨h.inv, h.newSocket, hheld, h.retval⟩

/-- The place of one cell changes. -/
theorem Settled.setCell {held : Nat → Prop} {os : Os} (h : Settled clean held os) {i : Nat}
    {held' : Nat → Prop} (hother : ∀ j, j ≠ i → (held' j ↔ held j))
    (hi : ¬ held' i → os.Idle (.pooled i)) : Settled clean held' os := by
  apply h.congr
  intro j hj
  by_cases hji : j = i
  · subst hji
    exact hi hj
  · exact h.pooled j (mt (hother j hji).mpr hj)

theorem held_setCell (pool : Pool.State) (i : Nat) (c : Pool.Cell) {j : Nat} (hj : j ≠ i) :
    ((pool.setCell i c).cells j).place = .held ↔ (pool.cells j).place = .held := by
  simp [Pool.State.setCell, hj]

theorem place_modify (pool : Pool.State) (i : Nat) (f : Pool.ConnectionRep → Pool.ConnectionRep)
    (j : Nat) : ((pool.modify i f).cells j).place = (pool.cells j).place := by
  by_cases hj : j = i
  · subst hj
    simp [Pool.State.modify, Pool.State.setCell]
  · simp [Pool.State.modify, Pool.State.setCell, hj]

/-- The handle of a free cell is given to somebody. -/
theorem Settled.acquire (h : Settled clean s.held s.os) {i : Nat}
    (hplace : (s.pool.cells i).place = .free) {pool : Pool.State}
    (hother : ∀ j, j ≠ i → ((pool.cells j).place = .held ↔ s.held j)) :
    Settled clean (fun j => (pool.cells j).place = .held)
      (s.os.effect s.pool pool (.acquire i)) := by
  have hidle : s.os.Idle (.pooled i) := h.pooled i (by simp [State.held, hplace])
  have hsettled := h.setCell hother fun _ => hidle
  show Settled clean _ (if (pool.cells i).place = .held then s.os.construct i else s.os)
  split
  · next hheld => exact hsettled.construct hheld hidle
  · exact hsettled

/-- What happens to the pool. -/
theorem Settled.effect (h : Settled clean s.held s.os) {l : Pool.Label}
    (hl : ∀ i ec target, l ≠ .sourceDone i ec (some target)) {pool : Pool.State}
    (hstep : Pool.step s.pool l = some pool) :
    Settled clean (fun i => (pool.cells i).place = .held) (s.os.effect s.pool pool l) := by
  cases Pool.Step.of_step hstep with
  | refused ec => exact h
  | reused i rep hplace => exact h.acquire hplace fun j hj => held_setCell s.pool i _ hj
  | connecting i hplace => exact h.acquire hplace fun j hj => held_setCell s.pool i _ hj
  | connected i ec target => exact absurd rfl (hl i ec target)
  | notConnected i ec hplace =>
      have hidle : s.os.Idle (.pooled i) := h.pooled i (by simp [State.held, hplace])
      exact h.setCell (fun j hj => held_setCell s.pool i _ hj) fun _ => hidle
  | changed i c => exact h.congr fun j hj => h.pooled j (by rwa [State.held, ← place_modify])
  | errorContextSet i errorContext =>
      exact h.congr fun j hj => h.pooled j (by rwa [State.held, ← place_modify])
  | closed i hplace =>
      have hclosed := h.closePooled i
      exact hclosed.congr fun j hj => hclosed.pooled j (by rwa [State.held, ← place_modify])
  | cancelled i => exact h
  -- in all three cases the `pooled_connection` is destroyed
  | recycled i rep hplace | wasted i rep hplace | emptied i hplace =>
      obtain ⟨hdestroyed, hidle⟩ := h.destroyPooled i _
      exact hdestroyed.setCell (fun j hj => held_setCell s.pool i _ hj) fun _ => hidle
  -- the value of a free cell is finished, and it has no stream
  | expired i hplace =>
      have hidle : s.os.Idle (.pooled i) := h.pooled i (by simp [State.held, hplace])
      apply (h.reset hidle.holder_ne).setCell fun j hj => held_setCell s.pool i _ hj
      exact fun _ => hidle.reset (.cell i)

/-- The source has a connection for a cell. -/
theorem Settled.wrap (h : Settled clean s.held s.os) {i : Nat}
    (hplace : (s.pool.cells i).place = .connecting) (c : Nat) {ec : ErrorCode}
    {target : Connection} :
    Settled clean (fun j => ((s.pool.connected i ec (some target)).cells j).place = .held)
      (s.os.wrap i c) := by
  have hfree : ¬ s.held i := by simp [State.held, hplace]
  have hne : Holder.retval ≠ .cell i := by simp
  have hmoved := h.releaseHandle_move c hne (h.pooled i hfree).holder_ne
  have hidle := hmoved.pooled i hfree
  apply Settled.construct _ _ hidle
  · exact hmoved.setCell (fun j hj => held_setCell s.pool i _ hj) fun _ => hidle
  · simp [Pool.State.connected, Pool.State.record, Pool.State.setCell]

/-- One step, with the pool above it, goes from one settled state to another. -/
theorem Settled.step {l : Label} (h : Settled clean s.held s.os)
    (hclean : clean → l.drops = false) (hstep : step s l = some t) :
    Settled clean t.held t.os := by
  cases l with
  | connectStart v socket =>
      obtain ⟨⟨hv, hsocket⟩, ⟨⟩⟩ := Option.ite_none_right_eq_some.mp hstep
      exact h.connectStart hv hsocket
  -- libpq closes a socket under its stream, which a clean run excludes
  | dropSocket id =>
      have hdirty : ¬ clean := fun h => by cases hclean h
      simp only [Descriptor.step] at hstep
      split at hstep
      · next fd hid =>
          cases hstep
          exact h.dropSocket hdirty hid
      · cases hstep
  | openSocket id fd =>
      obtain ⟨⟨hid, hfd⟩, ⟨⟩⟩ := Option.ite_none_right_eq_some.mp hstep
      exact h.openSocket hid hfd
  | assign c v =>
      cases hstep
      exact h.assign c v
  | dropVariable v =>
      cases hstep
      exact h.reset fun e _ => e.1.holder_ne_var v
  | release c v =>
      obtain ⟨-, ⟨⟩⟩ := Option.ite_none_right_eq_some.mp hstep
      have hne : Holder.retval ≠ .var v := by simp
      exact h.releaseHandle_move c hne fun e _ => e.1.holder_ne_var v
  | close c =>
      cases hstep
      exact h.closeConnection c
  | destroy c =>
      cases hstep
      exact h.destroyConnection c
  | wrap i c ec target =>
      obtain ⟨-, hmap⟩ := Option.ite_none_right_eq_some.mp hstep
      obtain ⟨pool, hpool, ⟨⟩⟩ := Option.map_eq_some_iff.mp hmap
      obtain ⟨hplace, ⟨⟩⟩ := Option.ite_none_right_eq_some.mp hpool
      exact h.wrap hplace c
  | pool l =>
      simp only [Descriptor.step] at hstep
      split at hstep
      · cases hstep
      · next hl =>
          obtain ⟨pool, hpool, ⟨⟩⟩ := Option.map_eq_some_iff.mp hstep
          exact h.effect hl hpool

/-- At the start there is nothing. -/
theorem settled_init (clean : Prop) : Settled clean init.held init.os where
  inv :=
    { handles := by
        have hempty : {id : ConnId | init.os.conns id ≠ none} = ∅ := by ext; simp [init]
        rw [hempty]
        exact Owns.empty
      sockets := by
        have hempty : {fd : Fd | init.os.opened fd = true} = ∅ := by ext; simp [init]
        rw [hempty]
        exact Owns.empty
      fresh := fun _ _ => rfl
      tied := fun _ _ he => absurd he List.not_mem_nil
      faults := fun _ hf => absurd hf List.not_mem_nil
      noFaults := fun _ => rfl }
  newSocket _ he := absurd he List.not_mem_nil
  pooled _ _ _ he := absurd he List.not_mem_nil
  retval := rfl

/-- After every run. -/
theorem settled_run {ls : List Label} (hclean : clean → ∀ l ∈ ls, l.drops = false)
    (hrun : Transition.run Descriptor.step init ls = some s) : Settled clean s.held s.os := by
  have hmeets : Transition.Meets Descriptor.step
      (fun _ l => True ∧ (clean → l.drops = false)) init ls :=
    (Transition.meets_true init ls).and_of_forall fun l hl h => hclean h l hl
  exact Transition.run_invariant_of_meets (I := fun s => Settled clean s.held s.os)
    (fun _ _ _ h hok hstep => h.step hok.2 hstep) (settled_init clean) hmeets hrun

end

/-- Whatever libpq does, every `PGconn` that is not finished has exactly one owner, every open
descriptor is the socket of exactly one of them, none of them is given up twice and no stream
closes a descriptor. -/
theorem handles_owned (ls : List Label) (s : State)
    (hrun : Transition.run step init ls = some s) :
    (∀ id, s.os.conns id ≠ none → ∃! h, s.os.handles h = some id) ∧
      (∀ fd, s.os.opened fd = true → ∃! id, s.os.conns id = some (some fd)) ∧
      ∀ f ∈ s.os.faults, f.fatal = false := by
  have h : Settled False s.held s.os := settled_run (fun hfalse => hfalse.elim) hrun
  refine ⟨fun id hid => h.inv.handles.existsUnique hid, fun fd hfd => ?_, h.inv.faults⟩
  have hsocket := h.inv.sockets.existsUnique hfd
  simpa only [Option.join_eq_some_iff] using hsocket

/-- A connection of the source that goes into the pool. -/
def pooledRun : List Label :=
  [.pool (.acquire 0), .connectStart 0 (some 5), .assign 0 0,
    .wrap 0 0 .success ⟨some ⟨.ok, .idle⟩, ⟨[]⟩, ""⟩]

/-- libpq loses the connection while the stream is on its socket. -/
theorem handles_owned_lost :
    ∃ s, Transition.run step init (pooledRun ++ [.dropSocket 0]) = some s ∧
      s.os.faults = [.dangling 5] ∧ ∀ f ∈ s.os.faults, f.fatal = false := by
  have hrun : Transition.run step init (pooledRun ++ [.dropSocket 0]) = some _ := rfl
  exact ⟨_, hrun, rfl, (handles_owned _ _ hrun).2.2⟩

/-- As long as libpq closes no socket by itself, nothing goes wrong with the streams: each is on the
socket of its own connection, which is open, and no two are on the same one. -/
theorem streams_follow (ls : List Label) (s : State) (hdrops : ∀ l ∈ ls, l.drops = false)
    (hrun : Transition.run step init ls = some s) :
    s.os.faults = [] ∧
      (∀ st fd, (st, fd) ∈ s.os.registered →
        s.os.opened fd = true ∧ s.os.pqSocket (s.os.handles st.holder) = some fd) ∧
      ∀ st st' fd, (st, fd) ∈ s.os.registered → (st', fd) ∈ s.os.registered → st = st' := by
  have h : Settled True s.held s.os := settled_run (fun _ => hdrops) hrun
  have htied : ∀ st fd, (st, fd) ∈ s.os.registered →
      ∃ id, s.os.handles st.holder = some id ∧ (s.os.conns id).join = some fd :=
    fun st fd hmem => Os.pqSocket_eq_some.mp (h.inv.tied trivial (st, fd) hmem)
  refine ⟨h.inv.noFaults trivial, fun st fd hmem => ?_, fun st st' fd hmem hmem' => ?_⟩
  · obtain ⟨id, -, hfd⟩ := htied st fd hmem
    exact ⟨h.inv.sockets.mem hfd, h.inv.tied trivial (st, fd) hmem⟩
  · obtain ⟨id, hid, hfd⟩ := htied st fd hmem
    obtain ⟨id', hid', hfd'⟩ := htied st' fd hmem'
    obtain rfl := h.inv.sockets.unique id id' fd hfd hfd'
    exact Stream.holder_injective (h.inv.handles.unique _ _ id hid hid')

theorem streams_follow_pooled :
    ∃ s, Transition.run step init pooledRun = some s ∧ s.os.registered = [(.pooled 0, 5)] ∧
      s.os.faults = [] ∧ s.os.pqSocket (s.os.handles (.cell 0)) = some 5 := by
  have hrun : Transition.run step init pooledRun = some _ := rfl
  obtain ⟨hfaults, htied, -⟩ := streams_follow pooledRun _ (by decide) hrun
  exact ⟨_, hrun, rfl, hfaults, (htied (.pooled 0) 5 List.mem_cons_self).2⟩

end OzoPg.Descriptor
