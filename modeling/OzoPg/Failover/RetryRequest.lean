import OzoPg.Failover.Retry
import OzoPg.Io.Result

/-!
# Retrying a request

A request under the retry strategy is started again with the same arguments, the output among
them: every attempt gets a copy of the same `std::back_insert_iterator`. The rows of a result are
appended one by one while they are decoded, and an exception leaves those that came before it in
the container. The rows of the next attempt come behind them.

* `container_run` — the container holds what all the attempts have appended.
* `container_eq_iff` — that is the result of the last one exactly when none before it has decoded a
  row.
-/

namespace OzoPg.Failover.RetryRequest

open Retry (Options)

variable {κ : Type}

/-- An attempt of the request: an error before there is a result to process, or a result, with the
oid map of the connection it comes from. -/
inductive Attempt where
  | fails (ec : ErrorCode) (failed : ec.failed = true)
  | result (oidMap : OidMap) (res : ResultSet)

/-- `*out++ = std::move(v)` of a `std::back_insert_iterator`. -/
def pushBack {α : Type} (container : List α) (v : α) : List α := container ++ [v]

namespace Attempt

variable (cs : Constructors) (r : RowType) (blank : r.Val)

/-- What an attempt does to the container and what it completes with: `process_and_done` turns
every exception into `bad_result_process`. -/
def perform (container : List r.Val) : Attempt → List r.Val × ErrorCode
  | .fails ec _ => (container, ec)
  | .result oidMap res =>
    let (container, e) := recvInserted cs oidMap r blank pushBack res.rows container
    (container, match e with
      | none => .success
      | some _ => .ofError .badResultProcess)

/-- The rows the attempt decodes before it ends. -/
def decoded : Attempt → List r.Val
  | .fails _ _ => []
  | .result oidMap res => decodedRows cs oidMap r blank res.rows

/-- The code the attempt completes with, whatever the container holds. -/
def code (a : Attempt) : ErrorCode := (a.perform cs r blank []).2

end Attempt

/-- A retried request and the container of its output. -/
structure State (r : RowType) (κ : Type) where
  failover : Failover.State Options κ
  container : List r.Val

/-- An attempt runs and completes, with some connection. -/
def step (cs : Constructors) (r : RowType) (blank : r.Val) (s : State r κ)
    (l : Attempt × Option κ) : Option (State r κ) :=
  let (container, ec) := l.1.perform cs r blank s.container
  (Failover.step Options.getNextTry s.failover (.complete ⟨ec, l.2⟩)).map (⟨·, container⟩)

/-- The request before its first attempt, into a container with some contents. -/
def init (r : RowType) (o : Options) (container : List r.Val) : State r κ :=
  ⟨Failover.init o, container⟩

/-! ## What an attempt does -/

section

variable {cs : Constructors} {r : RowType} {blank : r.Val}

theorem foldl_pushBack {α : Type} (vs container : List α) :
    vs.foldl pushBack container = container ++ vs := by
  induction vs generalizing container with
  | nil => simp
  | cons v vs ih => simp [ih, pushBack]

/-- What an attempt has decoded is in the container, an exception or not. -/
theorem perform_fst (a : Attempt) (container : List r.Val) :
    (a.perform cs r blank container).1 = container ++ a.decoded cs r blank := by
  cases a with
  | fails ec hec => exact (List.append_nil container).symm
  | result m res => exact (recvInserted_fst _ _ _).trans (foldl_pushBack _ _)

/-- The container does not decide how an attempt ends. -/
theorem perform_snd (a : Attempt) (container : List r.Val) :
    (a.perform cs r blank container).2 = a.code cs r blank := by
  cases a with
  | fails ec hec => rfl
  | result m res =>
      simp only [Attempt.code, Attempt.perform]
      rw [recvInserted_snd pushBack pushBack res.rows container []]

/-- An attempt that succeeds has decoded a whole result. -/
theorem decoded_of_success {a : Attempt} (h : (a.code cs r blank).failed = false) :
    ∃ m res, a = .result m res ∧ (a.decoded cs r blank).length = res.rows.length := by
  cases a with
  | fails ec hec => exact absurd hec (Bool.eq_false_iff.mp h)
  | result m res =>
      cases he : (recvInserted cs m r blank pushBack res.rows []).2 with
      | none => exact ⟨m, res, rfl, length_decodedRows_of_none he⟩
      | some e =>
          simp only [Attempt.code, Attempt.perform, he] at h
          cases h

/-- An attempt is one step of the strategy and adds its rows to the container. -/
theorem step_eq_some {s t : State r κ} {l : Attempt × Option κ} (h : step cs r blank s l = some t) :
    Failover.step Options.getNextTry s.failover (.complete ⟨l.1.code cs r blank, l.2⟩) =
        some t.failover ∧
      t.container = s.container ++ l.1.decoded cs r blank := by
  unfold step at h
  obtain ⟨f, hf, rfl⟩ := Option.map_eq_some_iff.mp h
  exact ⟨perform_snd l.1 s.container ▸ hf, perform_fst _ _⟩

/-! ## What a run does -/

/-- Everything the attempts have decoded is in the container, in their order. -/
theorem container_run {s u : State r κ} {ls : List (Attempt × Option κ)}
    (hrun : Transition.run (step cs r blank) s ls = some u) :
    u.container = s.container ++ ls.flatMap (·.1.decoded cs r blank) := by
  induction ls generalizing s with
  | nil =>
      cases hrun
      simp
  | cons l ls ih =>
      obtain ⟨t, ht, hu⟩ := Transition.run_cons_eq_some.mp hrun
      rw [ih hu, (step_eq_some ht).2, List.flatMap_cons, List.append_assoc]

/-- The strategy sees the attempts as they complete. -/
theorem failover_run {s u : State r κ} {ls : List (Attempt × Option κ)}
    (hrun : Transition.run (step cs r blank) s ls = some u) :
    Transition.run (Failover.step Options.getNextTry) s.failover
      (ls.map fun l => .complete ⟨l.1.code cs r blank, l.2⟩) = some u.failover := by
  induction ls generalizing s with
  | nil =>
      cases hrun
      rfl
  | cons l ls ih =>
      obtain ⟨t, ht, hu⟩ := Transition.run_cons_eq_some.mp hrun
      exact Transition.run_cons_eq_some.mpr ⟨t.failover, (step_eq_some ht).1, ih hu⟩

/-- When the request is reported, it is with the code of its last attempt. -/
theorem code_last {o : Options} {initial : List r.Val} {s : State r κ}
    {ls : List (Attempt × Option κ)}
    (hrun : Transition.run (step cs r blank) (init r o initial) ls = some s)
    {out : Outcome κ} (hhandled : s.failover.handled = [out]) :
    ∃ before a conn, ls = before ++ [(a, conn)] ∧ out.ec = a.code cs r blank := by
  have hfailover := failover_run hrun
  have hruns := runs_run hfailover
  have houts := outcomes_run hfailover
  have hlast := hruns.handled
  rw [hhandled] at hlast
  split at hlast
  · cases hlast
  -- the handler is called behind some attempt, the last one
  · rcases List.eq_nil_or_concat ls with rfl | ⟨before, ⟨a, conn⟩, rfl⟩
    · simp [houts, init, Failover.init] at hlast
    · refine ⟨before, a, conn, List.concat_eq_append, ?_⟩
      simp only [houts, List.concat_eq_append, List.map_append, List.map_cons, List.map_nil,
        List.filterMap_append, List.filterMap_cons, Label.outcome?, List.filterMap_nil,
        ← List.append_assoc,
        List.getLast?_concat, Option.toList_some, List.cons.injEq, and_true] at hlast
      rw [hlast]

/-- A retried request that succeeds delivers what its last attempt has decoded, and nothing else,
exactly when no attempt before it has decoded a row. -/
theorem container_eq_iff (cs : Constructors) (r : RowType) (blank : r.Val) (o : Options)
    (initial : List r.Val) (ls : List (Attempt × Option κ))
    (s : State r κ) (hrun : Transition.run (step cs r blank) (init r o initial) ls = some s)
    (out : Outcome κ) (hhandled : s.failover.handled = [out]) (hec : out.ec.failed = false) :
    ∃ before m res conn, ls = before ++ [(.result m res, conn)] ∧
      (decodedRows cs m r blank res.rows).length = res.rows.length ∧
      (s.container = initial ++ decodedRows cs m r blank res.rows ↔
        ∀ l ∈ before, l.1.decoded cs r blank = []) := by
  obtain ⟨before, a, conn, hls, hcode⟩ := code_last hrun hhandled
  rw [hcode] at hec
  obtain ⟨m, res, rfl, hlen⟩ := decoded_of_success hec
  refine ⟨before, m, res, conn, hls, hlen, ?_⟩
  have hcontainer := container_run hrun
  simp only [hls, List.flatMap_append, List.flatMap_singleton, init] at hcontainer
  rw [hcontainer, List.append_right_inj, ← List.flatMap_eq_nil_iff]
  exact List.append_left_eq_self

end

/-! ## A row of a failed attempt -/

/-- A result of one `int4` column. -/
def int4Result (values : List (Option Bytes)) : ResultSet where
  columns := [("id", 23)]
  tuples := values.map fun v => ⟨[v], rfl⟩

/-- The rows of a `std::vector<std::int32_t>`. -/
abbrev int4Row : RowType := .column .plain (.element (.scalar .int4))

/-- The first attempt ends before there is a result, the second one returns a row. -/
def refusedThenRow : List (Attempt × Option Nat) :=
  [(.fails .timedOut rfl, none), (.result ⟨[]⟩ (int4Result [some [0, 0, 0, 7]]), some 8)]

theorem container_of_refused :
    ∃ s, Transition.run (step .zero int4Row 0) (init int4Row ⟨2, [], true⟩ []) refusedThenRow =
        some s ∧
      s.failover.handled = [⟨.success, some 8⟩] ∧
      ∃ before m res conn, refusedThenRow = before ++ [(.result m res, conn)] ∧
        (decodedRows .zero m int4Row 0 res.rows).length = res.rows.length ∧
        (s.container = [] ++ decodedRows .zero m int4Row 0 res.rows ↔
          ∀ l ∈ before, l.1.decoded .zero int4Row 0 = []) :=
  ⟨_, rfl, rfl, container_eq_iff .zero int4Row 0 ⟨2, [], true⟩ _ refusedThenRow _ rfl _ rfl rfl⟩

/-- The first attempt returns a row and a NULL, for which there is no `std::int32_t`; the second one
returns two rows. -/
def nullThenRows : List (Attempt × Option Nat) :=
  [(.result ⟨[]⟩ (int4Result [some [0, 0, 0, 7], none]), some 7),
    (.result ⟨[]⟩ (int4Result [some [0, 0, 0, 7], some [0, 0, 0, 8]]), some 8)]

/-- The row before the NULL is delivered twice. -/
theorem container_nullThenRows :
    ∃ s, Transition.run (step .zero int4Row 0) (init int4Row ⟨2, [], true⟩ []) nullThenRows =
        some s ∧
      s.failover.handled = [⟨.success, some 8⟩] ∧
      decodedRows .zero ⟨[]⟩ int4Row 0 (int4Result [some [0, 0, 0, 7], some [0, 0, 0, 8]]).rows =
        [7, 8] ∧
      s.container = [7, 7, 8] :=
  ⟨_, rfl, rfl, rfl, rfl⟩

end OzoPg.Failover.RetryRequest
