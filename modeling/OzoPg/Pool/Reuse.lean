import OzoPg.Pool.Model

/-!
# What a pool reuses

The destructor of `pooled_connection` keeps a connection for the next user only when it is good
and idle; everything else it wastes. The check at the next acquisition is a weaker one, so the
argument is about the log: whatever is in a cell has been left there by good and idle users only.

* `CellSound` — the invariant, cell by cell.
* `ReuseSound` — what it means for the connections that were delivered a second time.
* `reused_connection_idle` — the guarantee for every run of a pool.
-/

namespace OzoPg.Pool

open State Transition

/-! ## Cells

The invariant ties a cell to the log: a stored connection was left good and idle by all its users.
-/

/-- What is known of a cell from the log. -/
structure CellSound (log : List Event) (i : Nat) (c : Cell) : Prop where
  /-- Later generations have not been released yet. -/
  known : ∀ g handle, .released ⟨i, g⟩ handle ∈ log → g ≤ c.generation
  /-- Every user of the connection has left it reusable. -/
  clean : c.value ≠ none → ∀ handle, .released ⟨i, c.generation⟩ handle ∈ log → Reusable handle
  /-- A connection no user holds has had one. -/
  used : c.value ≠ none → c.place ≠ .held → ∃ handle, .released ⟨i, c.generation⟩ handle ∈ log

variable {log : List Event} {i : Nat} {c : Cell}

/-- A delivery tells nothing about the cells. -/
theorem CellSound.delivered (h : CellSound log i c) (ec : ErrorCode)
    (conn : Option (ConnectionId × ConnectionRep)) (reused : Bool) :
    CellSound (.delivered ec conn reused :: log) i c := by
  constructor
  · intro g handle hmem
    exact h.known g handle (by simpa using hmem)
  · intro hvalue handle hmem
    exact h.clean hvalue handle (by simpa using hmem)
  · intro hvalue hplace
    obtain ⟨handle, hmem⟩ := h.used hvalue hplace
    exact ⟨handle, List.mem_cons_of_mem _ hmem⟩

/-- Neither does a release from another cell. -/
theorem CellSound.released_ne (h : CellSound log i c) {id : ConnectionId} (hne : i ≠ id.cell)
    (handle : Option PgConn) : CellSound (.released id handle :: log) i c := by
  have hold : ∀ g handle', .released ⟨i, g⟩ handle' ∈ (.released id handle :: log : List Event) →
      .released ⟨i, g⟩ handle' ∈ log := by
    intro g handle' hmem
    rcases List.mem_cons.mp hmem with heq | hmem
    · cases heq
      exact absurd rfl hne
    · exact hmem
  constructor
  · intro g handle' hmem
    exact h.known g handle' (hold g handle' hmem)
  · intro hvalue handle' hmem
    exact h.clean hvalue handle' (hold _ handle' hmem)
  · intro hvalue hplace
    obtain ⟨handle', hmem⟩ := h.used hvalue hplace
    exact ⟨handle', List.mem_cons_of_mem _ hmem⟩

/-- The connection in the cell is released. -/
theorem CellSound.known_released (h : CellSound log i c) {handle : Option PgConn} (g : Nat)
    (handle' : Option PgConn)
    (hmem : .released ⟨i, g⟩ handle' ∈ (.released ⟨i, c.generation⟩ handle :: log : List Event)) :
    g ≤ c.generation := by
  rcases List.mem_cons.mp hmem with heq | hmem
  · cases heq
    exact Nat.le_refl _
  · exact h.known g handle' hmem

/-- The cell a reusable connection is recycled into. -/
theorem CellSound.recycled (h : CellSound log i c) {handle : Option PgConn}
    (hreusable : Reusable handle) :
    CellSound (.released ⟨i, c.generation⟩ handle :: log) i { c with place := .free } := by
  constructor
  · exact h.known_released
  · intro hvalue handle' hmem
    rcases List.mem_cons.mp hmem with heq | hmem
    · cases heq
      exact hreusable
    · exact h.clean hvalue handle' hmem
  · intro _ _
    exact ⟨handle, List.mem_cons_self⟩

/-- The cell of a wasted connection. -/
theorem CellSound.wasted (h : CellSound log i c) (handle : Option PgConn) :
    CellSound (.released ⟨i, c.generation⟩ handle :: log) i
      { c with place := .free, value := none } := by
  constructor
  · exact h.known_released
  · intro hvalue
    exact absurd rfl hvalue
  · intro hvalue
    exact absurd rfl hvalue

/-- The cell gets a connection of the source, which nobody has used. -/
theorem CellSound.connected (h : CellSound log i c) (rep : ConnectionRep) :
    CellSound log i ⟨.held, some rep, c.generation + 1⟩ := by
  constructor
  · intro g handle hmem
    exact Nat.le_succ_of_le (h.known g handle hmem)
  · -- nothing of this generation is in the log yet
    intro _ handle hmem
    exact absurd (h.known _ handle hmem) (Nat.not_succ_le_self _)
  · intro _ hplace
    exact absurd rfl hplace

/-- The value changes but stays, or goes, and a handle that was in nobody's hands is taken. -/
theorem CellSound.congr (h : CellSound log i c) {c' : Cell} (hgen : c'.generation = c.generation)
    (hvalue : c'.value ≠ none → c.value ≠ none)
    (hplace : c'.place ≠ .held → c.place ≠ .held) : CellSound log i c' := by
  constructor
  · intro g handle hmem
    exact hgen ▸ h.known g handle hmem
  · intro hv handle hmem
    exact h.clean (hvalue hv) handle (hgen ▸ hmem)
  · intro hv hp
    exact hgen ▸ h.used (hvalue hv) (hplace hp)

/-- An empty cell. -/
theorem CellSound.empty (h : CellSound log i c) {c' : Cell} (hgen : c'.generation = c.generation)
    (hvalue : c'.value = none) : CellSound log i c' := by
  constructor
  · intro g handle hmem
    exact hgen ▸ h.known g handle hmem
  · intro hne
    exact absurd hvalue hne
  · intro hne
    exact absurd hvalue hne

/-! ## The log -/

/-- Each reused connection of the log had a user before, all its users left it good and idle, and
its status is not `CONNECTION_BAD` when it is handed out. -/
def ReuseSound : List Event → Prop
  | [] => True
  | e :: log =>
    (∀ ec id rep, e = .delivered ec (some (id, rep)) true →
      (∃ handle, .released id handle ∈ log) ∧
      (∀ handle, .released id handle ∈ log → Reusable handle) ∧
      connectionStatusBad rep.safeHandle = false) ∧
    ReuseSound log

/-- A new connection has no past. -/
theorem ReuseSound.fresh {log : List Event} (h : ReuseSound log) (ec : ErrorCode)
    (conn : Option (ConnectionId × ConnectionRep)) :
    ReuseSound (.delivered ec conn false :: log) := by
  refine ⟨?_, h⟩
  rintro ec' id rep ⟨⟩

/-- A release is not a reuse. -/
theorem ReuseSound.released {log : List Event} (h : ReuseSound log) (id : ConnectionId)
    (handle : Option PgConn) : ReuseSound (.released id handle :: log) := by
  refine ⟨?_, h⟩
  rintro ec' id' rep ⟨⟩

/-- The part of the log behind an event is sound. -/
theorem ReuseSound.of_append {post log : List Event} (h : ReuseSound (post ++ log)) :
    ReuseSound log := by
  induction post with
  | nil => exact h
  | cons e post ih => exact ih h.2

/-! ## Pools -/

/-- The invariant of a pool. -/
structure Inv (s : State) : Prop where
  cells : ∀ i, CellSound s.log i (s.cells i)
  log : ReuseSound s.log

theorem inv_init : Inv init where
  cells i := ⟨by simp [init], fun h => absurd rfl h, fun h => absurd rfl h⟩
  log := trivial

/-- One step extends the log by what its cell has been through. -/
theorem Inv.step {s t : State} {l : Label} (h : Inv s) (hstep : step s l = some t) : Inv t := by
  cases Step.of_step hstep with
  | refused ec hec => exact ⟨fun j => (h.cells j).delivered _ _ _, h.log.fresh _ _⟩
  | reused i rep hplace hvalue hstatus =>
      have hcell := h.cells i
      have hne : (s.cells i).value ≠ none := by simp [hvalue]
      have hfree : (s.cells i).place ≠ .held := by simp [hplace]
      refine ⟨?_, ?_, h.log⟩
      · apply forall_cells_setCell (P := CellSound _)
        · intro j _
          exact (h.cells j).delivered _ _ _
        · apply CellSound.delivered
          exact hcell.congr rfl id fun hheld => absurd rfl hheld
      · -- the connection is the one its users have left in the cell
        rintro ec id rep' ⟨⟩
        exact ⟨hcell.used hne hfree, hcell.clean hne, hstatus⟩
  | connecting i hplace =>
      refine ⟨?_, h.log⟩
      apply forall_cells_setCell (P := CellSound _)
      · intro j _
        exact h.cells j
      · exact (h.cells i).congr rfl id fun _ => by simp [hplace]
  | connected i ec target hplace =>
      refine ⟨?_, h.log.fresh _ _⟩
      apply forall_cells_setCell (P := CellSound _)
      · intro j _
        exact (h.cells j).delivered _ _ _
      · exact ((h.cells i).connected _).delivered _ _ _
  | notConnected i ec hplace =>
      refine ⟨?_, h.log.fresh _ _⟩
      apply forall_cells_setCell (P := CellSound _)
      · intro j _
        exact (h.cells j).delivered _ _ _
      · apply CellSound.delivered
        exact (h.cells i).congr rfl id fun _ => by simp [hplace]
  | changed i c | errorContextSet i errorContext hplace | closed i hplace =>
      refine ⟨?_, h.log⟩
      apply forall_cells_setCell (P := CellSound _)
      · intro j _
        exact h.cells j
      · exact (h.cells i).congr rfl (by simp) id
  | cancelled i hplace => exact h
  | recycled i rep hplace hvalue hreusable =>
      refine ⟨?_, h.log.released _ _⟩
      apply forall_cells_setCell (P := CellSound _)
      · intro j hj
        exact (h.cells j).released_ne hj _
      · exact (h.cells i).recycled hreusable
  | wasted i rep hplace hvalue hreusable =>
      refine ⟨?_, h.log.released _ _⟩
      apply forall_cells_setCell (P := CellSound _)
      · intro j hj
        exact (h.cells j).released_ne hj _
      · exact (h.cells i).wasted _
  | emptied i hplace hvalue =>
      refine ⟨?_, h.log⟩
      apply forall_cells_setCell (P := CellSound _)
      · intro j _
        exact h.cells j
      · exact (h.cells i).empty rfl hvalue
  | expired i hplace =>
      refine ⟨?_, h.log⟩
      apply forall_cells_setCell (P := CellSound _)
      · intro j _
        exact h.cells j
      · exact (h.cells i).empty rfl rfl

/-- Whenever a pool serves an acquisition with a connection it has given to somebody before, every
earlier user has left that connection with status `CONNECTION_OK` and idle when its
`pooled_connection` was destroyed, and the status is not `CONNECTION_BAD` now. -/
theorem reused_connection_idle (ls : List Label) (s : State) (hrun : run step init ls = some s)
    (post pre : List Event) (ec : ErrorCode) (id : ConnectionId) (rep : ConnectionRep)
    (hlog : s.log = post ++ .delivered ec (some (id, rep)) true :: pre) :
    (∃ handle, .released id handle ∈ pre) ∧
      (∀ handle, .released id handle ∈ pre → Reusable handle) ∧
      ∃ c, rep.safeHandle = some c ∧ c.status ≠ .bad := by
  have hinv : Inv s := run_invariant (fun _ _ _ h hstep => h.step hstep) inv_init hrun
  have hsound := hinv.log
  rw [hlog] at hsound
  obtain ⟨hused, hclean, hstatus⟩ := hsound.of_append.1 ec id rep rfl
  refine ⟨hused, hclean, ?_⟩
  cases hhandle : rep.safeHandle with
  | none => simp [hhandle, connectionStatusBad] at hstatus
  | some c =>
      refine ⟨c, rfl, ?_⟩
      simpa [hhandle, connectionStatusBad] using hstatus

/-- One user after another gets the same connection. -/
def reuseRun : List Label :=
  [.acquire 0, .sourceDone 0 .success (some ⟨some ⟨.ok, .idle⟩, ⟨[]⟩, ""⟩), .destroy 0,
    .acquire 0]

/-- The second user gets what the first one has left good and idle. -/
theorem reused_connection_idle_reuseRun :
    ∃ s, run step init reuseRun = some s ∧
      ∃ post pre rep, s.log = post ++ .delivered .success (some (⟨0, 1⟩, rep)) true :: pre ∧
        (∃ handle, .released ⟨0, 1⟩ handle ∈ pre) ∧
        (∀ handle, .released ⟨0, 1⟩ handle ∈ pre → Reusable handle) ∧
        ∃ c, rep.safeHandle = some c ∧ c.status ≠ .bad := by
  refine ⟨_, rfl, [], _, _, rfl, ?_⟩
  exact reused_connection_idle reuseRun _ rfl [] _ _ _ _ rfl

end OzoPg.Pool
