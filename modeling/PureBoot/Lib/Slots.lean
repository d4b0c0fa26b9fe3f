/-
  PureBoot.Lib.Slots — a COUNTING SEMAPHORE that serves first come, first served.

  At most `limit` holders at a time.  Who finds no free slot, or somebody in line, waits at
  the end of the line, and a slot that is given back goes to the first in line at once.  What
  was asked for and what was served are kept beside, in their orders.

  Main results:
    * `Slots.Ok.enter`, `Slots.Ok.leave` — what the two operations keep: the bound, no slot
      free while somebody waits, and service in the order of asking;
    * `Slots.Ok.mem_leave` — who is there after somebody has left.
-/
import Mathlib.Data.List.Basic
import Mathlib.Data.List.Perm.Basic
import Mathlib.Data.List.Nodup

namespace PureBoot.Lib

structure Slots (α : Type*) where
  holding : List α := []
  waiting : List α := []
  /-- Who asked, in order. -/
  asked : List α := []
  /-- Who got a slot, in order. -/
  served : List α := []

namespace Slots

variable {α : Type*}

/-- `acquire`. -/
def enter (s : Slots α) (limit : Nat) (a : α) : Slots α :=
  if s.holding.length < limit ∧ s.waiting = [] then
    { s with
      holding := s.holding ++ [a]
      asked := s.asked ++ [a]
      served := s.served ++ [a] }
  else { s with waiting := s.waiting ++ [a], asked := s.asked ++ [a] }

/-- `release`, by a holder. -/
def leave [DecidableEq α] (s : Slots α) (a : α) : Slots α :=
  match s.waiting with
  | [] => { s with holding := s.holding.erase a }
  | b :: waiting =>
      { s with holding := s.holding.erase a ++ [b], waiting, served := s.served ++ [b] }

/-- Those who hold a slot or wait for one. -/
def all (s : Slots α) : List α := s.holding ++ s.waiting

structure Ok (limit : Nat) (s : Slots α) : Prop where
  bound : s.holding.length ≤ limit
  /-- **NO SLOT IS FREE** while somebody waits. -/
  full : s.waiting ≠ [] → s.holding.length = limit
  nodup : s.all.Nodup
  /-- **FIRST COME, FIRST SERVED.** -/
  inOrder : s.served ++ s.waiting = s.asked

theorem ok_empty (limit : Nat) : Ok limit ({} : Slots α) where
  bound := Nat.zero_le _
  full := fun h => absurd rfl h
  nodup := List.nodup_nil
  inOrder := rfl

variable {s : Slots α} {limit : Nat} {a b : α}

theorem mem_enter : b ∈ (s.enter limit a).all ↔ b ∈ s.all ∨ b = a := by
  unfold enter all
  split
  next h =>
    rw [h.2, List.append_nil, List.append_nil]
    exact List.mem_append.trans (or_congr_right List.mem_singleton)
  next =>
    show b ∈ s.holding ++ (s.waiting ++ [a]) ↔ _
    rw [← List.append_assoc]
    exact List.mem_append.trans (or_congr_right List.mem_singleton)

theorem holding_enter (h : b ∈ s.holding) : b ∈ (s.enter limit a).holding := by
  unfold enter
  split
  · exact List.mem_append_left _ h
  · exact h

theorem Ok.enter (h : Ok limit s) (ha : a ∉ s.all) : Ok limit (s.enter limit a) := by
  have hnodup : (s.all ++ [a]).Nodup :=
    List.nodup_append.mpr ⟨h.nodup, List.nodup_singleton a, fun x hx y hy heq =>
      ha (by rw [← List.mem_singleton.mp hy, ← heq]; exact hx)⟩
  unfold Slots.enter
  split
  next hfree =>
    have hall : s.all = s.holding := by
      unfold all
      rw [hfree.2, List.append_nil]
    constructor
    · show (s.holding ++ [a]).length ≤ limit
      rw [List.length_append]
      exact hfree.1
    · exact fun hne => absurd hfree.2 hne
    · show (s.holding ++ [a] ++ s.waiting).Nodup
      rw [hfree.2, List.append_nil, ← hall]
      exact hnodup
    · show s.served ++ [a] ++ s.waiting = s.asked ++ [a]
      rw [← h.inOrder, hfree.2, List.append_nil, List.append_nil]
  next hbusy =>
    constructor
    · exact h.bound
    · intro _
      show s.holding.length = limit
      by_contra hne
      have hlt : s.holding.length < limit := Nat.lt_of_le_of_ne h.bound hne
      refine hne (h.full (fun hnil => hbusy ⟨hlt, hnil⟩))
    · show (s.holding ++ (s.waiting ++ [a])).Nodup
      rw [← List.append_assoc]
      exact hnodup
    · show s.served ++ (s.waiting ++ [a]) = s.asked ++ [a]
      rw [← List.append_assoc, h.inOrder]

variable [DecidableEq α]

/-- Who holds a slot keeps it when somebody else leaves. -/
theorem holding_leave (h : b ∈ s.holding) (hne : b ≠ a) : b ∈ (s.leave a).holding := by
  have herase : b ∈ s.holding.erase a := (List.mem_erase_of_ne hne).mpr h
  unfold leave
  split
  · exact herase
  · exact List.mem_append_left _ herase

theorem Ok.perm_leave (h : a ∈ s.holding) : s.all.Perm (a :: (s.leave a).all) := by
  have herase := (List.perm_cons_erase h).append_right s.waiting
  unfold all leave
  split
  next hnil => exact herase
  next b waiting hcons =>
    refine herase.trans ?_
    rw [hcons]
    show (a :: (s.holding.erase a ++ b :: waiting)).Perm
      (a :: (s.holding.erase a ++ [b] ++ waiting))
    rw [List.append_assoc]
    exact List.Perm.refl _

theorem Ok.mem_leave (hok : Ok limit s) (h : a ∈ s.holding) :
    b ∈ (s.leave a).all ↔ b ∈ s.all ∧ b ≠ a := by
  have hperm := Ok.perm_leave h
  have hnodup := hperm.nodup_iff.mp hok.nodup
  rw [hperm.mem_iff, List.mem_cons]
  constructor
  · intro hb
    refine ⟨Or.inr hb, ?_⟩
    rintro rfl
    exact (List.nodup_cons.mp hnodup).1 hb
  · rintro ⟨rfl | hb, hne⟩
    · exact absurd rfl hne
    · exact hb

theorem Ok.leave (hok : Ok limit s) (h : a ∈ s.holding) : Ok limit (s.leave a) := by
  have hlength := List.length_erase_of_mem h
  have hpos := List.length_pos_of_mem h
  have hnodup : (s.leave a).all.Nodup :=
    (List.nodup_cons.mp ((Ok.perm_leave h).nodup_iff.mp hok.nodup)).2
  refine ⟨?_, ?_, hnodup, ?_⟩
  · unfold Slots.leave
    split
    · exact Nat.le_trans List.length_erase_le hok.bound
    · show (s.holding.erase a ++ [_]).length ≤ limit
      rw [List.length_append, hlength, List.length_singleton, Nat.sub_add_cancel hpos]
      exact hok.bound
  · unfold Slots.leave
    split
    next hnil => exact fun hne => absurd hnil hne
    next b waiting hcons =>
      intro _
      show (s.holding.erase a ++ [b]).length = limit
      rw [List.length_append, hlength, List.length_singleton, Nat.sub_add_cancel hpos]
      exact hok.full (by rw [hcons]; exact List.cons_ne_nil _ _)
  · have horder := hok.inOrder
    unfold Slots.leave
    split
    next hnil => exact horder
    next b waiting hcons =>
      rw [hcons] at horder
      show s.served ++ [b] ++ waiting = s.asked
      rw [List.append_assoc]
      exact horder

end Slots

end PureBoot.Lib
