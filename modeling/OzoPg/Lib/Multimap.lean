import Mathlib.Data.List.Sort
import Mathlib.Data.List.Nodup

/-!
# Ordered multimaps

An ordered multimap is the list of its entries in the order of their keys; entries of one key are
in the order they came. `Holds` says which entries those are: every operation is related to the
same operation on the sequence of entries in the order of their insertion, and by `Holds.unique`
that sequence determines the multimap.
-/

namespace OzoPg.Multimap

variable {α κ : Type} [LinearOrder κ] (key : α → κ)

/-- The entries up to a key, those of that key included. -/
def upTo (k : κ) (m : List α) : List α := m.takeWhile fun a => key a ≤ k

/-- The entries from the upper bound of a key on. -/
def above (k : κ) (m : List α) : List α := m.dropWhile fun a => key a ≤ k

/-- A new entry goes behind those of its key. -/
def insert (a : α) (m : List α) : List α := upTo key (key a) m ++ a :: above key (key a) m

/-- `m` holds the entries `l`, which were inserted in this order. -/
structure Holds (l m : List α) : Prop where
  sorted : m.Pairwise fun a b => key a ≤ key b
  stable : ∀ k, m.filter (fun a => key a = k) = l.filter fun a => key a = k

variable {key} {l m : List α}

theorem Holds.nil : Holds key [] ([] : List α) := ⟨.nil, fun _ => rfl⟩

/-- Sorting neither adds nor loses entries. -/
theorem Holds.mem_iff (h : Holds key l m) {a : α} : a ∈ m ↔ a ∈ l := by
  have hmem : ∀ l : List α, a ∈ l ↔ a ∈ l.filter fun b => key b = key a := by
    simp
  rw [hmem m, hmem l, h.stable]

/-- On a sorted list the entries up to a key are those that are not greater. -/
theorem upTo_eq_filter (h : m.Pairwise fun a b => key a ≤ key b) (k : κ) :
    upTo key k m = m.filter fun a => key a ≤ k := by
  induction h with
  | nil => rfl
  | @cons a m ha _ ih =>
      by_cases hk : key a ≤ k
      · rw [upTo, List.takeWhile_cons_of_pos (by simpa using hk),
          List.filter_cons_of_pos (by simpa using hk), ← ih, upTo]
      · have hnone : ∀ b ∈ m, ¬ key b ≤ k := fun b hb hle => hk ((ha b hb).trans hle)
        rw [upTo, List.takeWhile_cons_of_neg (by simpa using hk),
          List.filter_cons_of_neg (by simpa using hk), List.filter_eq_nil_iff.mpr]
        simpa using hnone

/-- In a sorted list the upper bound is where a filter starts. -/
theorem above_eq_filter (h : m.Pairwise fun a b => key a ≤ key b) (k : κ) :
    above key k m = m.filter fun a => !decide (key a ≤ k) := by
  induction h with
  | nil => rfl
  | @cons a m ha _ ih =>
      by_cases hk : key a ≤ k
      · rw [above, List.dropWhile_cons_of_pos (by simpa using hk),
          List.filter_cons_of_neg (by simpa using hk), ← ih, above]
      · have hall : ∀ b ∈ m, ¬ key b ≤ k := fun b hb hle => hk ((ha b hb).trans hle)
        rw [above, List.dropWhile_cons_of_neg (by simpa using hk),
          List.filter_cons_of_pos (by simpa using hk), List.filter_eq_self.mpr]
        simpa using hall

/-- Entries may be taken away anywhere. -/
theorem Holds.filter (h : Holds key l m) (p : α → Bool) : Holds key (l.filter p) (m.filter p) where
  sorted := h.sorted.filter p
  stable k := by
    rw [List.filter_comm, h.stable, List.filter_comm]

/-- The entries from the upper bound on are those of the later keys. -/
theorem Holds.above (h : Holds key l m) (k : κ) :
    Holds key (l.filter fun a => !decide (key a ≤ k)) (above key k m) := by
  rw [above_eq_filter h.sorted]
  exact h.filter _

/-- The entry of an iterator is erased. -/
theorem Holds.erase [BEq α] [LawfulBEq α] (h : Holds key l m) (hl : l.Nodup) (hm : m.Nodup)
    (a : α) :
    Holds key (l.erase a) (m.erase a) := by
  rw [hl.erase_eq_filter, hm.erase_eq_filter]
  exact h.filter _

/-- A new entry is the last of its key. -/
theorem Holds.insert (h : Holds key l m) (a : α) : Holds key (l ++ [a]) (insert key a m) where
  sorted := by
    rw [Multimap.insert, upTo_eq_filter h.sorted, above_eq_filter h.sorted,
      List.pairwise_append, List.pairwise_cons]
    refine ⟨h.sorted.filter _, ⟨?_, h.sorted.filter _⟩, ?_⟩
    · intro b hb
      simp only [List.mem_filter, Bool.not_eq_true', decide_eq_false_iff_not, not_le] at hb
      exact hb.2.le
    · intro b hb c hc
      simp only [List.mem_filter, decide_eq_true_eq, List.mem_cons, Bool.not_eq_true',
        decide_eq_false_iff_not, not_le] at hb hc
      rcases hc with rfl | hc
      · exact hb.2
      · exact hb.2.trans hc.2.le
  stable k := by
    have hfilter : (Multimap.insert key a m).filter (fun b => key b = k) =
        (upTo key (key a) m).filter (fun b => key b = k) ++
          [a].filter (fun b => key b = k) ++
          (Multimap.above key (key a) m).filter fun b => key b = k := by
      rw [Multimap.insert, List.append_cons, List.filter_append, List.filter_append]
    have hsplit : m.filter (fun b => key b = k) =
        (upTo key (key a) m).filter (fun b => key b = k) ++
          (Multimap.above key (key a) m).filter fun b => key b = k := by
      rw [← List.filter_append, upTo, Multimap.above, List.takeWhile_append_dropWhile]
    rw [hfilter, List.filter_append, ← h.stable, hsplit]
    by_cases ha : key a = k
    · -- nothing behind the upper bound has this key
      have hnone : (Multimap.above key (key a) m).filter (fun b => key b = k) = [] := by
        rw [List.filter_eq_nil_iff, above_eq_filter h.sorted]
        intro b hb
        simp only [List.mem_filter, Bool.not_eq_true', decide_eq_false_iff_not, not_le] at hb
        simpa [← ha] using hb.2.ne'
      rw [hnone, List.append_nil, List.append_nil]
    · have hnone : [a].filter (fun b => key b = k) = [] := by simp [ha]
      rw [hnone, List.append_nil, List.append_nil]

/-- The head of a multimap has the least key, and is the first entry of it. -/
theorem Holds.head_eq {a b : α} {m m' : List α} (h : Holds key l (a :: m))
    (h' : Holds key l (b :: m')) : a = b := by
  have hle : key a ≤ key b := by
    rcases List.mem_cons.mp (h.mem_iff.mpr (h'.mem_iff.mp List.mem_cons_self)) with rfl | hmem
    · exact le_rfl
    · exact List.rel_of_pairwise_cons h.sorted hmem
  have hge : key b ≤ key a := by
    rcases List.mem_cons.mp (h'.mem_iff.mpr (h.mem_iff.mp List.mem_cons_self)) with rfl | hmem
    · exact le_rfl
    · exact List.rel_of_pairwise_cons h'.sorted hmem
  have hkey := hle.antisymm hge
  have hstable := (h.stable (key a)).trans (h'.stable (key a)).symm
  rw [List.filter_cons_of_pos (by simp), List.filter_cons_of_pos (by simp [hkey])] at hstable
  exact (List.cons.inj hstable).1

/-- The multimap is determined by its entries. -/
theorem Holds.unique {m m' : List α} (h : Holds key l m) (h' : Holds key l m') : m = m' := by
  induction m generalizing l m' with
  | nil =>
      cases m' with
      | nil => rfl
      | cons b m' => cases h.mem_iff.mpr (h'.mem_iff.mp List.mem_cons_self)
  | cons a m ih =>
      cases m' with
      | nil => cases h'.mem_iff.mpr (h.mem_iff.mp List.mem_cons_self)
      | cons b m' =>
          obtain rfl := h.head_eq h'
          have htail : Holds key m m := ⟨h.sorted.tail, fun _ => rfl⟩
          -- the rest of the other list has the same entries of each key, in the same order
          have hsame : Holds key m m' := by
            refine ⟨h'.sorted.tail, fun k => ?_⟩
            have hstable := (h'.stable k).trans (h.stable k).symm
            by_cases hk : key a = k
            · rw [List.filter_cons_of_pos (by simpa using hk),
                List.filter_cons_of_pos (by simpa using hk)] at hstable
              exact (List.cons.inj hstable).2
            · rwa [List.filter_cons_of_neg (by simpa using hk),
                List.filter_cons_of_neg (by simpa using hk)] at hstable
          rw [ih htail hsame]

variable (key) in
theorem key_le_trans (a b c : α) (hab : decide (key a ≤ key b) = true)
    (hbc : decide (key b ≤ key c) = true) : decide (key a ≤ key c) = true := by
  rw [decide_eq_true_eq] at hab hbc ⊢
  exact hab.trans hbc

variable (key) in
theorem key_le_total (a b : α) : (decide (key a ≤ key b) || decide (key b ≤ key a)) = true := by
  simpa using le_total (key a) (key b)

/-- A stable sort computes the multimap of a sequence of entries. -/
theorem holds_mergeSort (l : List α) : Holds key l (l.mergeSort fun a b => key a ≤ key b) where
  sorted := by
    refine (List.pairwise_mergeSort (key_le_trans key) (key_le_total key) l).imp ?_
    intro a b hab
    simpa using hab
  stable k := by
    -- the entries of one key are a sorted sublist, and sorting keeps those
    have hsorted : (l.filter fun a => key a = k).Pairwise
        fun a b => decide (key a ≤ key b) = true := by
      rw [List.pairwise_iff_forall_sublist]
      intro a b hab
      have ha := hab.subset List.mem_cons_self
      have hb := hab.subset (List.mem_cons_of_mem a List.mem_cons_self)
      simp only [List.mem_filter, decide_eq_true_eq] at ha hb ⊢
      rw [ha.2, hb.2]
    have hsub := List.sublist_mergeSort (key_le_trans key) (key_le_total key) hsorted
      List.filter_sublist
    have hfilter := hsub.filter fun a => decide (key a = k)
    rw [List.filter_filter] at hfilter
    simp only [Bool.and_self] at hfilter
    exact (hfilter.eq_of_length ((List.mergeSort_perm l _).filter _).length_eq.symm).symm

/-- The map is the stable sort of what was inserted. -/
theorem Holds.eq_mergeSort (h : Holds key l m) : m = l.mergeSort fun a b => key a ≤ key b :=
  h.unique (holds_mergeSort l)

theorem Holds.perm (h : Holds key l m) : m.Perm l := by
  rw [h.eq_mergeSort]
  exact List.mergeSort_perm l _

end OzoPg.Multimap
