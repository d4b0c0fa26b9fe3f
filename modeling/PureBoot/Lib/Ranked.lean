/-
  PureBoot.Lib.Ranked — rows ORDERED BY A RANK, and the first of them that will do.

  `ORDER BY rank DESC` leaves open how rows of one rank are ordered: `Ordered` are all the
  answers a database may give.  The first row that satisfies a condition is one of the
  highest rank among those that do, and each of these is the first in some answer.

  Main results:
    * `Ordered.find?_eq_none_iff` — whether one is found does not depend on the answer;
    * `exists_ordered_find?_iff` — which ones may be found;
    * `mergeSort_filter_iff` — the selections whose listing is in the order of the rows.
-/
import Mathlib.Data.List.Basic
import Mathlib.Order.Lattice

namespace PureBoot.Lib

variable {α κ : Type*} [LinearOrder κ] {rank : α → κ}

/-- The rows, those of a higher rank first. -/
structure Ordered (rank : α → κ) (rows l : List α) : Prop where
  perm : rows.Perm l
  sorted : rows.Pairwise (fun a b => rank b ≤ rank a)

/-- One of the highest rank among those that satisfy the condition. -/
structure Top (rank : α → κ) (p : α → Bool) (l : List α) (x : α) : Prop where
  mem : x ∈ l
  holds : p x = true
  highest : ∀ y ∈ l, p y = true → rank y ≤ rank x

variable {p : α → Bool} {rows l : List α} {x : α}

theorem ordered_mergeSort (rank : α → κ) (l : List α) :
    Ordered rank (l.mergeSort (fun a b => rank b ≤ rank a)) l where
  perm := List.mergeSort_perm l _
  sorted := by
    have h : (l.mergeSort (fun a b => rank b ≤ rank a)).Pairwise
        (fun a b => decide (rank b ≤ rank a) = true) :=
      List.pairwise_mergeSort (fun a b c hab hbc => by
        rw [decide_eq_true_eq] at *
        exact le_trans hbc hab)
        (fun a b => by simpa using le_total (rank b) (rank a)) l
    exact h.imp (fun hab => of_decide_eq_true hab)

theorem Ordered.find?_eq_none_iff (h : Ordered rank rows l) :
    rows.find? p = none ↔ ∀ y ∈ l, p y ≠ true := by
  rw [List.find?_eq_none]
  exact forall_congr' (fun y => imp_congr_left h.perm.mem_iff)

/-- **WHAT IS FOUND FIRST** is of the highest rank. -/
theorem Ordered.top_of_find? (h : Ordered rank rows l) (hfind : rows.find? p = some x) :
    Top rank p l x := by
  obtain ⟨hp, before, after, hrows, hbefore⟩ := List.find?_eq_some_iff_append.mp hfind
  have hsorted := h.sorted
  rw [hrows] at hsorted
  refine ⟨h.perm.mem_iff.mp (List.mem_of_find?_eq_some hfind), hp, fun y hy hpy => ?_⟩
  have hmem : y ∈ before ++ x :: after := hrows ▸ h.perm.mem_iff.mpr hy
  rcases List.mem_append.mp hmem with hy | hy
  · have hnot := hbefore y hy
    rw [hpy] at hnot
    cases hnot
  · rcases List.mem_cons.mp hy with rfl | hy
    · exact le_rfl
    · exact (List.pairwise_cons.mp (List.pairwise_append.mp hsorted).2.1).1 y hy

/-- Any row can come before the others of its rank. -/
theorem exists_ordered_before (rank : α → κ) (hx : x ∈ l) :
    ∃ before after, Ordered rank (before ++ x :: after) l ∧ ∀ y ∈ before, rank x < rank y := by
  obtain ⟨s, t, rfl⟩ := List.append_of_mem hx
  have hhigh := ordered_mergeSort rank ((s ++ t).filter (fun y => rank x < rank y))
  have hlow := ordered_mergeSort rank ((s ++ t).filter (fun y => !decide (rank x < rank y)))
  set before := ((s ++ t).filter (fun y => rank x < rank y)).mergeSort
    (fun a b => rank b ≤ rank a)
  set after := ((s ++ t).filter (fun y => !decide (rank x < rank y))).mergeSort
    (fun a b => rank b ≤ rank a)
  have hbefore : ∀ y ∈ before, rank x < rank y := by
    intro y hy
    exact of_decide_eq_true (List.mem_filter.mp (hhigh.perm.mem_iff.mp hy)).2
  have hafter : ∀ y ∈ after, rank y ≤ rank x := by
    intro y hy
    have hle := (List.mem_filter.mp (hlow.perm.mem_iff.mp hy)).2
    simpa using hle
  refine ⟨before, after, ⟨?_, ?_⟩, hbefore⟩
  · have hrest : (before ++ after).Perm (s ++ t) :=
      (hhigh.perm.append hlow.perm).trans (List.filter_append_perm _ _)
    exact List.perm_middle.trans ((hrest.cons x).trans List.perm_middle.symm)
  · rw [List.pairwise_append, List.pairwise_cons]
    refine ⟨hhigh.sorted, ⟨hafter, hlow.sorted⟩, fun y hy z hz => ?_⟩
    rcases List.mem_cons.mp hz with rfl | hz
    · exact le_of_lt (hbefore y hy)
    · exact le_trans (hafter z hz) (le_of_lt (hbefore y hy))

/-- **WHAT MAY BE FOUND FIRST**: every row of the highest rank among those that satisfy the
condition, and no other. -/
theorem exists_ordered_find?_iff :
    (∃ rows, Ordered rank rows l ∧ rows.find? p = some x) ↔ Top rank p l x := by
  constructor
  · rintro ⟨rows, hrows, hfind⟩
    exact hrows.top_of_find? hfind
  · intro h
    obtain ⟨before, after, hordered, hbefore⟩ := exists_ordered_before rank h.mem
    refine ⟨_, hordered, List.find?_eq_some_iff_append.mpr ⟨h.holds, before, after, rfl, ?_⟩⟩
    intro y hy
    have hmem : y ∈ l := hordered.perm.mem_iff.mp (List.mem_append_left _ hy)
    rw [Bool.not_eq_true', ← Bool.not_eq_true]
    exact fun hpy => absurd (h.highest y hmem hpy) (not_le.mpr (hbefore y hy))

/-- **A LISTING BY RANK** is in the order of the rows, with no rank twice, exactly if the ranks
of the selected rows increase. -/
theorem mergeSort_filter_iff :
    ((l.filter p).mergeSort (fun a b => rank a ≤ rank b)).Sublist l
        ∧ (((l.filter p).mergeSort (fun a b => rank a ≤ rank b)).map rank).Nodup
      ↔ (l.filter p).Pairwise (fun a b => rank a < rank b) := by
  have hperm := List.mergeSort_perm (l.filter p) (fun a b => rank a ≤ rank b)
  constructor
  · rintro ⟨hsub, hnodup⟩
    have hsorted : ((l.filter p).mergeSort (fun a b => rank a ≤ rank b)).Pairwise
        (fun a b => decide (rank a ≤ rank b) = true) :=
      List.pairwise_mergeSort (fun a b c hab hbc => by
        rw [decide_eq_true_eq] at *
        exact le_trans hab hbc)
        (fun a b => by simpa using le_total (rank a) (rank b)) _
    -- what is listed is selected, so the listing is the selection
    have hall : ((l.filter p).mergeSort (fun a b => rank a ≤ rank b)).filter p
        = (l.filter p).mergeSort (fun a b => rank a ≤ rank b) :=
      List.filter_eq_self.mpr (fun x hx => (List.mem_filter.mp (hperm.mem_iff.mp hx)).2)
    have hsame : (l.filter p).mergeSort (fun a b => rank a ≤ rank b) = l.filter p :=
      (hall ▸ hsub.filter p).eq_of_length hperm.length_eq
    rw [hsame] at hsorted hnodup
    exact (hsorted.and (List.pairwise_map.mp hnodup)).imp
      (fun h => lt_of_le_of_ne (of_decide_eq_true h.1) h.2)
  · intro h
    rw [List.mergeSort_of_pairwise (h.imp (fun hab => decide_eq_true hab.le))]
    exact ⟨List.filter_sublist, List.pairwise_map.mpr (h.imp ne_of_lt)⟩

end PureBoot.Lib
