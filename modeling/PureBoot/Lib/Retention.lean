/-
  PureBoot.Lib.Retention — what is kept of a descending list when its end is removed.

  Some elements of the list are the ones that count, and of these the greatest `k` are to be
  kept, with all the others.  A removal that goes by positions alone does that only if it
  takes exactly the counted elements from the `k`-th on.  Here it goes from position `k` to
  the first element that is stuck.

  Main results:
    * `retains_iff` — what a removal must take;
    * `removal_iff` — the lists for which the removal by positions takes that;
    * `positioned_iff_of_free` — which these are if nothing is stuck.
-/
import Mathlib.Data.List.Nodup
import Mathlib.Data.List.Sort
import Mathlib.Data.List.TakeWhile

namespace PureBoot.Lib

variable {α κ : Type*} [LinearOrder κ] {key : α → κ} {good stuck : α → Bool} {k : Nat}
  {l removed : List α}

/-- Each element has a smaller key than those before it. -/
def Descending (key : α → κ) (l : List α) : Prop := l.Pairwise (fun a b => key b < key a)

theorem Descending.nodup (h : Descending key l) : l.Nodup := by
  refine List.Pairwise.imp ?_ h
  rintro a b hlt rfl
  exact lt_irrefl _ hlt

/-- The others are kept, and of the elements that count the `k` greatest. -/
structure Retains (key : α → κ) (good : α → Bool) (k : Nat) (l kept : List α) : Prop where
  others : ∀ x ∈ l, good x = false → x ∈ kept
  number : (kept.filter good).length = min k (l.filter good).length
  greatest : ∀ x ∈ kept, ∀ y ∈ l, y ∉ kept → good x = true → good y = true → key y < key x

section Without

variable [DecidableEq α]

/-- What is left of a list. -/
def without (l removed : List α) : List α := l.filter (fun x => x ∉ removed)

theorem mem_without {x : α} : x ∈ without l removed ↔ x ∈ l ∧ x ∉ removed := by
  unfold without
  rw [List.mem_filter, decide_eq_true_eq]

theorem mem_without_filter {x : α} :
    x ∈ (without l removed).filter good ↔ x ∈ l.filter good ∧ x ∉ removed := by
  rw [List.mem_filter, mem_without, List.mem_filter]
  tauto

/-- **WHAT A REMOVAL MUST TAKE**: the elements that count, from the `k`-th on. -/
theorem retains_iff (hl : Descending key l) (hremoved : removed.Sublist l) :
    Retains key good k l (without l removed) ↔ removed = (l.filter good).drop k := by
  have hgood : Descending key (l.filter good) := hl.sublist List.filter_sublist
  have hrest : Descending key ((without l removed).filter good) :=
    hl.sublist (List.filter_sublist.trans List.filter_sublist)
  constructor
  · rintro ⟨hothers, hnumber, hgreatest⟩
    have hall : ∀ y ∈ removed, good y = true := by
      intro y hy
      by_contra hbad
      exact (mem_without.mp (hothers y (hremoved.subset hy) (Bool.eq_false_iff.mpr hbad))).2 hy
    -- what is left and what was taken, one after the other, are all that counts
    have hsorted : Descending key ((without l removed).filter good ++ removed) := by
      refine List.pairwise_append.mpr ⟨hrest, hl.sublist hremoved, fun x hx y hy => ?_⟩
      obtain ⟨hx, hgx⟩ := List.mem_filter.mp hx
      exact hgreatest x hx y (hremoved.subset hy) (fun h => (mem_without.mp h).2 hy) hgx
        (hall y hy)
    have hperm : ((without l removed).filter good ++ removed).Perm (l.filter good) := by
      refine (List.perm_ext_iff_of_nodup hsorted.nodup hgood.nodup).mpr (fun x => ?_)
      rw [List.mem_append, mem_without_filter]
      constructor
      · rintro (hx | hx)
        · exact hx.1
        · exact List.mem_filter.mpr ⟨hremoved.subset hx, hall x hx⟩
      · intro hx
        by_cases hr : x ∈ removed
        · exact .inr hr
        · exact .inl ⟨hx, hr⟩
    have hparts : (without l removed).filter good ++ removed = l.filter good :=
      hperm.eq_of_pairwise (fun a b _ _ hab hba => absurd (hab.trans hba) (lt_irrefl _)) hsorted
        hgood
    rw [← hparts]
    rw [← hparts, List.length_append] at hnumber
    have hcase : removed.length = 0 ∨ ((without l removed).filter good).length = k := by omega
    rcases hcase with hnone | hk
    · have hle : ((without l removed).filter good).length ≤ k := by omega
      rw [List.length_eq_zero_iff.mp hnone] at hle ⊢
      rw [List.append_nil, List.drop_eq_nil_of_le hle]
    · rw [← hk, List.drop_left]
  · intro hdrop
    have hparts : (l.filter good).take k ++ removed = l.filter good := by
      rw [hdrop, List.take_append_drop]
    have hdesc : Descending key ((l.filter good).take k ++ removed) := by
      rw [hparts]
      exact hgood
    obtain ⟨-, -, hless⟩ := List.pairwise_append.mp hdesc
    have hmem : ∀ x, x ∈ (without l removed).filter good ↔ x ∈ (l.filter good).take k := by
      intro x
      rw [mem_without_filter]
      constructor
      · rintro ⟨hx, hr⟩
        rw [← hparts] at hx
        exact (List.mem_append.mp hx).resolve_right hr
      · intro hx
        refine ⟨List.mem_of_mem_take hx, fun hr => ?_⟩
        exact lt_irrefl _ (hless x hx x hr)
    refine ⟨fun x hx hbad => ?_, ?_, fun x hx y hy hyk hgx hgy => ?_⟩
    · refine mem_without.mpr ⟨hx, fun hr => ?_⟩
      rw [hdrop] at hr
      have hgx := (List.mem_filter.mp (List.mem_of_mem_drop hr)).2
      rw [hbad] at hgx
      cases hgx
    · have hperm : ((without l removed).filter good).Perm ((l.filter good).take k) :=
        (List.perm_ext_iff_of_nodup hrest.nodup
          (hgood.sublist (List.take_sublist _ _) : Descending key _).nodup).mpr hmem
      rw [hperm.length_eq, List.length_take]
    · have hyr : y ∈ removed := by
        by_contra hr
        exact hyk (mem_without.mpr ⟨hy, hr⟩)
      exact hless x ((hmem x).mp (List.mem_filter.mpr ⟨hx, hgx⟩)) y hyr

end Without

/-! ## The removal by positions. -/

/-- From position `k` on, up to the first that is stuck. -/
def removal (stuck : α → Bool) (k : Nat) (l : List α) : List α :=
  (l.drop k).takeWhile (fun x => !stuck x)

theorem removal_sublist : (removal stuck k l).Sublist l :=
  (List.takeWhile_sublist _).trans (List.drop_sublist _ _)

/-- How many elements of a list are greater. -/
def above (key : α → κ) (l : List α) (x : α) : Nat := l.countP (fun y => key x < key y)

theorem above_perm {l' : List α} (h : l.Perm l') (x : α) : above key l x = above key l' x :=
  h.countP_eq _

/-- What comes first has nothing above it, and is above all that follows. -/
theorem above_cons {a x : α} (hl : Descending key (a :: l)) :
    above key (a :: l) a = 0 ∧ (x ∈ l → above key (a :: l) x = above key l x + 1) := by
  obtain ⟨ha, -⟩ := List.pairwise_cons.mp hl
  unfold above
  constructor
  · rw [List.countP_eq_zero]
    intro y hy
    rcases List.mem_cons.mp hy with rfl | hy
    · simp
    · simpa using (ha y hy).le
  · intro hx
    rw [List.countP_cons_of_pos (by simpa using ha x hx)]

/-- **THE PLACE OF AN ELEMENT** is the number of the greater ones. -/
theorem getElem?_eq_some_iff_above (hl : Descending key l) {x : α} :
    l[k]? = some x ↔ x ∈ l ∧ above key l x = k := by
  induction l generalizing k with
  | nil => simp
  | cons a l ih =>
      obtain ⟨ha, htail⟩ := List.pairwise_cons.mp hl
      obtain ⟨hfirst, hnext⟩ := above_cons (x := x) hl
      have hne : x ∈ l → x ≠ a := by
        rintro hx rfl
        exact lt_irrefl _ (ha x hx)
      cases k with
      | zero =>
          rw [List.getElem?_cons_zero, Option.some.injEq, List.mem_cons]
          constructor
          · rintro rfl
            exact ⟨.inl rfl, hfirst⟩
          · rintro ⟨rfl | hx, hzero⟩
            · rfl
            · rw [hnext hx] at hzero
              cases hzero
      | succ k =>
          rw [List.getElem?_cons_succ, ih htail, List.mem_cons]
          constructor
          · rintro ⟨hx, hk⟩
            exact ⟨.inr hx, by rw [hnext hx, hk]⟩
          · rintro ⟨rfl | hx, hk⟩
            · rw [hfirst] at hk
              cases hk
            · rw [hnext hx] at hk
              exact ⟨hx, Nat.succ.inj hk⟩

/-- From a place on there are the elements with as many above them. -/
theorem mem_drop_iff_above (hl : Descending key l) {x : α} :
    x ∈ l.drop k ↔ x ∈ l ∧ k ≤ above key l x := by
  rw [List.mem_iff_getElem?]
  simp only [List.getElem?_drop, getElem?_eq_some_iff_above hl]
  constructor
  · rintro ⟨i, hx, habove⟩
    exact ⟨hx, by omega⟩
  · rintro ⟨hx, hk⟩
    exact ⟨above key l x - k, hx, by omega⟩

/-- The elements for which positions do: either at most `k` of them count, and the one with
`k` above it is stuck; or those that count are above all others, the first of the others is
stuck, and none is stuck that counts and is to go. -/
def Positioned (key : α → κ) (good stuck : α → Bool) (k : Nat) (l : List α) : Prop :=
  if l.countP good ≤ k then ∀ x ∈ l, above key l x = k → stuck x = true
  else (∀ x ∈ l, ∀ y ∈ l, good x = true → good y = false → key y < key x) ∧
    (∀ y ∈ l, good y = false → above key l y = l.countP good → stuck y = true) ∧
    ∀ x ∈ l, good x = true → k ≤ above key l x → stuck x = false

/-- The order of the list does not matter for it. -/
theorem positioned_perm {l' : List α} (h : l.Perm l') :
    Positioned key good stuck k l ↔ Positioned key good stuck k l' := by
  unfold Positioned
  simp only [h.countP_eq, h.mem_iff, above_perm h]

theorem takeWhile_eq_nil_iff_head {p : α → Bool} {l : List α} :
    l.takeWhile (fun x => !p x) = [] ↔ ∀ x ∈ l.head?, p x = true := by
  cases l with
  | nil => simp
  | cons a l => cases hp : p a <;> simp [hp]

/-- A removal of what counts that goes by positions has these elements first in the list. -/
theorem filter_of_removal (hl : l.Nodup) (hk : k < (l.filter good).length)
    (h : removal stuck k l = (l.filter good).drop k) :
    l = l.filter good ++ (l.drop k).dropWhile (fun x => !stuck x) := by
  set rest := (l.drop k).dropWhile (fun x => !stuck x) with hrest
  have hparts : l = l.take k ++ (removal stuck k l ++ rest) := by
    unfold removal
    rw [hrest, List.takeWhile_append_dropWhile, List.take_append_drop]
  have hcounted : (removal stuck k l).filter good = removal stuck k l := by
    rw [List.filter_eq_self, h]
    exact fun x hx => (List.mem_filter.mp (List.mem_of_mem_drop hx)).2
  have hfilter : l.filter good
      = (l.take k).filter good ++ (removal stuck k l ++ rest.filter good) := by
    conv_lhs => rw [hparts]
    rw [List.filter_append, List.filter_append, hcounted]
  have hdisjoint : List.Disjoint (removal stuck k l) (rest.filter good) := by
    rw [hparts] at hl
    have hboth := (List.nodup_append.mp (List.nodup_append.mp hl).2.1).2.2
    exact fun x hx hx' => hboth x hx x (List.mem_filter.mp hx').1 rfl
  have hne : removal stuck k l ≠ [] := by
    rw [h]
    exact fun hnil => absurd (List.drop_eq_nil_iff.mp hnil) (by omega)
  -- both end the list of what counts, so one is the end of the other
  have hsuffix : removal stuck k l <:+ l.filter good := h ▸ List.drop_suffix _ _
  have hsuffix' : rest.filter good <:+ l.filter good := by
    rw [hfilter, ← List.append_assoc]
    exact List.suffix_append _ _
  have hnone : rest.filter good = [] := by
    rw [List.eq_nil_iff_forall_not_mem]
    intro x hx
    rcases List.suffix_or_suffix_of_suffix hsuffix hsuffix' with hs | hs
    · obtain ⟨y, hy⟩ := List.exists_mem_of_ne_nil _ hne
      exact hdisjoint hy (hs.subset hy)
    · exact hdisjoint (hs.subset hx) hx
  have hlength : ((l.take k).filter good).length = k := by
    have htotal := congrArg List.length hfilter
    rw [hnone, List.append_nil, List.length_append, h, List.length_drop] at htotal
    omega
  have htake : (l.take k).filter good = l.take k :=
    List.filter_sublist.eq_of_length_le (by rw [hlength]; exact List.length_take_le _ _)
  conv_lhs => rw [hparts]
  rw [hfilter, hnone, List.append_nil, htake, List.append_assoc]

theorem getElem?_of_append {g rest : List α} (h : l = g ++ rest) :
    l[g.length]? = rest.head? := by
  rw [h, List.getElem?_append_right (le_refl _), Nat.sub_self, List.head?_eq_getElem?]

theorem drop_of_append {g rest : List α} (h : l = g ++ rest) (hk : k ≤ g.length) :
    l.drop k = g.drop k ++ rest := by
  rw [h]
  exact List.drop_append_of_le_length hk

/-- Those that count come first exactly if they are above all others. -/
theorem exists_rest_iff (hl : Descending key l) :
    (∃ rest, l = l.filter good ++ rest) ↔
      ∀ x ∈ l, ∀ y ∈ l, good x = true → good y = false → key y < key x := by
  constructor
  · rintro ⟨rest, hparts⟩ x hx y hy hgx hgy
    have hsorted : Descending key (l.filter good ++ rest) := hparts ▸ hl
    have hyrest : y ∈ rest := by
      rw [hparts] at hy
      refine (List.mem_append.mp hy).resolve_left (fun hmem => ?_)
      have hgood := (List.mem_filter.mp hmem).2
      rw [hgy] at hgood
      cases hgood
    exact (List.pairwise_append.mp hsorted).2.2 x (List.mem_filter.mpr ⟨hx, hgx⟩) y hyrest
  · intro hfirst
    refine ⟨l.filter (fun x => !good x), ?_⟩
    have hsorted : Descending key (l.filter good ++ l.filter (fun x => !good x)) := by
      refine List.pairwise_append.mpr
        ⟨hl.sublist List.filter_sublist, hl.sublist List.filter_sublist, fun x hx y hy => ?_⟩
      obtain ⟨hx, hgx⟩ := List.mem_filter.mp hx
      obtain ⟨hy, hgy⟩ := List.mem_filter.mp hy
      exact hfirst x hx y hy hgx (by simpa using hgy)
    exact (List.filter_append_perm good l).symm.eq_of_pairwise
      (fun a b _ _ hab hba => absurd (hab.trans hba) (lt_irrefl _)) hl hsorted

/-- What is behind those that count does not count. -/
theorem not_good_of_mem_rest {rest : List α} (h : l = l.filter good ++ rest) {x : α}
    (hx : x ∈ rest) : good x = false := by
  have hfilter := congrArg (List.filter good) h
  rw [List.filter_append, List.filter_filter] at hfilter
  simp only [Bool.and_self] at hfilter
  have hnone : rest.filter good = [] := List.append_right_eq_self.mp hfilter.symm
  simpa using List.filter_eq_nil_iff.mp hnone x hx

/-- The parts of such a list. -/
theorem parts_iff (hl : Descending key l) (hk : k < (l.filter good).length) :
    (∃ rest, l = l.filter good ++ rest ∧ (∀ x ∈ rest.head?, stuck x = true) ∧
        ∀ x ∈ (l.filter good).drop k, stuck x = false) ↔
      (∀ x ∈ l, ∀ y ∈ l, good x = true → good y = false → key y < key x) ∧
        (∀ y ∈ l, good y = false → above key l y = (l.filter good).length → stuck y = true) ∧
        ∀ x ∈ l, good x = true → k ≤ above key l x → stuck x = false := by
  constructor
  · rintro ⟨rest, hparts, hrest, hfree⟩
    refine ⟨(exists_rest_iff hl).mp ⟨rest, hparts⟩, fun y hy hgy habove => ?_,
      fun x hx hgx habove => ?_⟩
    · have hplace := (getElem?_eq_some_iff_above hl).mpr ⟨hy, habove⟩
      rw [getElem?_of_append hparts] at hplace
      exact hrest y hplace
    · have hplace := (mem_drop_iff_above hl).mpr ⟨hx, habove⟩
      rw [drop_of_append hparts hk.le] at hplace
      refine hfree x ((List.mem_append.mp hplace).resolve_right (fun hmem => ?_))
      rw [not_good_of_mem_rest hparts hmem] at hgx
      cases hgx
  · rintro ⟨hfirst, hstuck, hfree⟩
    obtain ⟨rest, hparts⟩ := (exists_rest_iff hl).mpr hfirst
    refine ⟨rest, hparts, fun y hy => ?_, fun x hx => ?_⟩
    · have hgy := not_good_of_mem_rest hparts (List.mem_of_mem_head? hy)
      rw [← getElem?_of_append hparts] at hy
      obtain ⟨hmem, habove⟩ := (getElem?_eq_some_iff_above hl).mp hy
      exact hstuck y hmem hgy habove
    · have hgx := (List.mem_filter.mp (List.mem_of_mem_drop hx)).2
      have hplace : x ∈ l.drop k := by
        rw [drop_of_append hparts hk.le]
        exact List.mem_append_left _ hx
      obtain ⟨hmem, habove⟩ := (mem_drop_iff_above hl).mp hplace
      exact hfree x hmem hgx habove

/-- **WHEN POSITIONS DO.** -/
theorem removal_iff (hl : Descending key l) :
    removal stuck k l = (l.filter good).drop k ↔ Positioned key good stuck k l := by
  unfold Positioned
  rw [List.countP_eq_length_filter]
  split_ifs with hk
  · rw [List.drop_eq_nil_of_le hk]
    unfold removal
    rw [takeWhile_eq_nil_iff_head, List.head?_drop]
    simp only [Option.mem_def, getElem?_eq_some_iff_above hl, and_imp]
  · rw [not_le] at hk
    rw [← parts_iff hl hk]
    constructor
    · intro h
      refine ⟨_, filter_of_removal hl.nodup hk h, fun x hx => ?_, fun x hx => ?_⟩
      · have hhead := List.head?_dropWhile_not (fun x => !stuck x) (l.drop k)
        rw [Option.mem_def.mp hx] at hhead
        simpa using hhead
      · rw [← h] at hx
        simpa using List.mem_takeWhile_imp hx
    · rintro ⟨rest, hparts, hrest, hfree⟩
      unfold removal
      rw [drop_of_append hparts hk.le,
        List.takeWhile_append_of_pos (fun x hx => by simp [hfree x hx]),
        takeWhile_eq_nil_iff_head.mpr hrest, List.append_nil]

/-- Where nothing is stuck, there are at most `k` elements or all of them count. -/
theorem positioned_iff_of_free (hl : Descending key l) (hfree : ∀ x ∈ l, stuck x = false) :
    Positioned key good stuck k l ↔ l.length ≤ k ∨ ∀ x ∈ l, good x = true := by
  have hall : removal stuck k l = l.drop k :=
    List.takeWhile_eq_self_iff.mpr (fun x hx => by simp [hfree x (List.mem_of_mem_drop hx)])
  rw [← removal_iff hl, hall]
  constructor
  · intro h
    rcases le_or_gt l.length k with hk | hk
    · exact .inl hk
    · have hlength := congrArg List.length h
      rw [List.length_drop, List.length_drop] at hlength
      have hsame : l.filter good = l :=
        List.filter_sublist.eq_of_length_le (by omega)
      exact .inr (List.filter_eq_self.mp hsame)
  · rintro (hk | hgood)
    · rw [List.drop_eq_nil_of_le hk, List.drop_eq_nil_of_le]
      exact (List.filter_sublist.length_le).trans hk
    · rw [List.filter_eq_self.mpr hgood]

end PureBoot.Lib
