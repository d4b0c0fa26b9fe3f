/-
  PureBoot.Lib.InTurn — things that are served in the order they were asked for.

  `InTurn asked backlog served` relates three lists: what was asked for so far, what
  is still in line, and what was served, each in its order.  The four things that may
  happen (ask, ask in vain, serve the first in line, drop some of the line) keep it,
  and it implies that the service order is the order of asking.

  A queue that is kept in a table is read back by sorting: `filterMap_insertionSort`
  says that a stable sort leaves alone the part of the table that is in order.
-/
import Mathlib.Data.List.Sort
import Mathlib.Tactic.Common

namespace PureBoot.Lib

open scoped List

variable {α β : Type*}

/-! ## §1. Served in turn. -/

/-- What was served, followed by what is in line, was asked for in this order. -/
def InTurn (asked backlog served : List α) : Prop :=
  served ++ backlog <+ asked

namespace InTurn

variable {asked backlog served : List α}

/-- **SERVED IN THE ORDER OF ASKING.** -/
theorem inOrder (h : InTurn asked backlog served) : served <+ asked :=
  (List.sublist_append_left served backlog).trans h

theorem ask (h : InTurn asked backlog served) (a : α) :
    InTurn (asked ++ [a]) (backlog ++ [a]) served := by
  unfold InTurn
  rw [← List.append_assoc]
  exact List.Sublist.append h (List.Sublist.refl [a])

theorem askInVain (h : InTurn asked backlog served) (a : α) :
    InTurn (asked ++ [a]) backlog served :=
  h.trans (List.sublist_append_left asked [a])

theorem serve {a : α} (h : InTurn asked (a :: backlog) served) :
    InTurn asked backlog (served ++ [a]) := by
  unfold InTurn at h ⊢
  rw [List.append_assoc]
  exact h

theorem drop {line : List α} (h : InTurn asked backlog served) (hline : line <+ backlog) :
    InTurn asked line served :=
  (List.Sublist.append (List.Sublist.refl served) hline).trans h

end InTurn

/-! ## §2. Reading a queue back from a table. -/

/-- A stable sort leaves the rows that are in order among themselves in their order. -/
theorem filter_insertionSort {r : α → α → Prop} [DecidableRel r] {p : α → Bool} {l : List α}
    (h : (l.filter p).Pairwise r) : (l.insertionSort r).filter p = l.filter p := by
  have hsub : l.filter p <+ (l.insertionSort r).filter p := by
    have hsort := (List.sublist_insertionSort h List.filter_sublist).filter p
    rw [List.filter_filter] at hsort
    simpa using hsort
  have hlen : ((l.insertionSort r).filter p).length = (l.filter p).length :=
    ((List.perm_insertionSort r l).filter p).length_eq
  exact (hsub.eq_of_length hlen.symm).symm

theorem filterMap_filter_isSome (g : α → Option β) (l : List α) :
    (l.filter (fun x => (g x).isSome)).filterMap g = l.filterMap g := by
  rw [List.filterMap_filter]
  refine List.filterMap_congr (fun x _ => ?_)
  cases g x <;> rfl

/-- The same for what is read off the rows. -/
theorem filterMap_insertionSort {r : α → α → Prop} [DecidableRel r] {g : α → Option β} {l : List α}
    (h : l.Pairwise (fun x y => (g x).isSome = true → (g y).isSome = true → r x y)) :
    (l.insertionSort r).filterMap g = l.filterMap g := by
  rw [← filterMap_filter_isSome, filter_insertionSort (List.pairwise_filter.mpr h),
    filterMap_filter_isSome]

/-- An element of a list splits it where `eraseIdx` cuts. -/
theorem eraseIdx_split {a : α} : ∀ {l : List α} {i : Nat}, l[i]? = some a →
    ∃ l₁ l₂, l = l₁ ++ a :: l₂ ∧ l.eraseIdx i = l₁ ++ l₂
  | [], _, h => by cases h
  | b :: l, 0, h => by
      injection h with h
      subst h
      exact ⟨[], l, rfl, rfl⟩
  | b :: l, i + 1, h => by
      obtain ⟨l₁, l₂, hl, herase⟩ := eraseIdx_split (l := l) (i := i) h
      refine ⟨b :: l₁, l₂, ?_, ?_⟩
      · rw [hl]
        rfl
      · rw [List.eraseIdx_cons_succ, herase]
        rfl

end PureBoot.Lib
