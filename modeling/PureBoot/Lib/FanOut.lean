/-
  PureBoot.Lib.FanOut — ANNOUNCEMENTS that reach their receivers ONE AT A TIME.

  An announcement calls the receivers 0, 1, … in order, and waits for each before it calls
  the next.  Several can be under way at once.  Each receiver is told the announcements that
  have called it, in the order of the calls, so an announcement that overtakes an earlier one
  on its way turns their order around for the receivers that are left.

  `FanOut.Tells f history` is the invariant: what a receiver was told, and then what is still
  on its way to it, is the history of all announcements.  `announce` keeps it and so does
  every `resume` that overtakes nothing, so each receiver was told a prefix of the history
  (`Tells.isPrefix`), and all of it once nothing is under way (`Tells.all_told`).
-/
import Mathlib.Data.List.Basic
import Mathlib.Logic.Function.Basic

namespace PureBoot.Lib

variable {β : Type*}

/-- A value under way, and the receiver it calls next. -/
structure Announcement (β : Type*) where
  value : β
  next : Nat
  deriving DecidableEq, Repr

/-- The announcements under way in the order they were made, and what each receiver was
told. -/
structure FanOut (β : Type*) where
  pending : List (Announcement β)
  received : Nat → List β

namespace FanOut

variable {f : FanOut β} {n : Nat} {history : List β}

def empty : FanOut β := ⟨[], fun _ => []⟩

/-- Receiver `j` is called. -/
def deliver (f : FanOut β) (j : Nat) (v : β) : FanOut β :=
  { f with received := Function.update f.received j (f.received j ++ [v]) }

/-- A value is announced to `n` receivers; the first one is called at once. -/
def announce (n : Nat) (f : FanOut β) (v : β) : FanOut β :=
  if 0 < n then { f.deliver 0 v with pending := f.pending ++ [⟨v, 1⟩] } else f

/-- The receiver that announcement `i` waits for is done: the next one is called, if there
is one. -/
def resume (n : Nat) (f : FanOut β) (i : Nat) : FanOut β :=
  match f.pending[i]? with
  | none => f
  | some a =>
      if a.next < n then
        { f.deliver a.next a.value with pending := f.pending.set i { a with next := a.next + 1 } }
      else { f with pending := f.pending.eraseIdx i }

/-- Announcement `i` goes on to a receiver that an earlier one has not called yet. -/
def overtakes (n : Nat) (f : FanOut β) (i : Nat) : Bool :=
  match f.pending[i]? with
  | none => false
  | some a => decide (a.next < n) && (f.pending.take i).any (fun b => b.next ≤ a.next)

/-- The values, of these announcements, that are still on their way to receiver `j`. -/
def waits (pending : List (Announcement β)) (j : Nat) : List β :=
  (pending.filter (fun a => a.next ≤ j)).map Announcement.value

theorem waits_append (l m : List (Announcement β)) (j : Nat) :
    waits (l ++ m) j = waits l j ++ waits m j := by
  unfold waits
  rw [List.filter_append, List.map_append]

theorem waits_cons_of_le {a : Announcement β} {j : Nat} (h : a.next ≤ j)
    (l : List (Announcement β)) : waits (a :: l) j = a.value :: waits l j := by
  simp [waits, h]

theorem waits_cons_of_lt {a : Announcement β} {j : Nat} (h : j < a.next)
    (l : List (Announcement β)) : waits (a :: l) j = waits l j := by
  simp [waits, Nat.not_le.mpr h]

/-- Nothing waits that is past the receiver. -/
theorem waits_eq_nil {l : List (Announcement β)} {j : Nat} (h : ∀ a ∈ l, j < a.next) :
    waits l j = [] := by
  induction l with
  | nil => rfl
  | cons a l ih =>
      rw [waits_cons_of_lt (h a List.mem_cons_self)]
      exact ih (fun b hb => h b (List.mem_cons_of_mem _ hb))

/-- **THE INVARIANT**: the first receiver is never waited for, and every receiver was told
the history but for what is on its way to it. -/
structure Tells (n : Nat) (f : FanOut β) (history : List β) : Prop where
  started : ∀ a ∈ f.pending, 1 ≤ a.next
  told : ∀ j < n, f.received j ++ waits f.pending j = history

theorem tells_empty (n : Nat) : Tells n (empty : FanOut β) [] :=
  ⟨fun _ h => absurd h List.not_mem_nil, fun _ _ => rfl⟩

theorem Tells.isPrefix (h : Tells n f history) {j : Nat} (hj : j < n) :
    f.received j <+: history :=
  ⟨waits f.pending j, h.told j hj⟩

theorem Tells.all_told (h : Tells n f history) (hidle : f.pending = []) {j : Nat} (hj : j < n) :
    f.received j = history := by
  have htold := h.told j hj
  rw [hidle] at htold
  simpa [waits] using htold

theorem deliver_received_self (f : FanOut β) (j : Nat) (v : β) :
    (f.deliver j v).received j = f.received j ++ [v] :=
  Function.update_self ..

theorem deliver_received_of_ne (f : FanOut β) {j k : Nat} (v : β) (h : k ≠ j) :
    (f.deliver j v).received k = f.received k :=
  Function.update_of_ne h ..

/-- **AN ANNOUNCEMENT** is the last one for every receiver. -/
theorem Tells.announce (h : Tells n f history) (v : β) (hn : 0 < n) :
    Tells n (f.announce n v) (history ++ [v]) := by
  unfold FanOut.announce
  rw [if_pos hn]
  constructor
  · intro a ha
    rw [List.mem_append, List.mem_singleton] at ha
    rcases ha with ha | rfl
    · exact h.started a ha
    · exact Nat.le_refl 1
  · intro j hj
    show (f.deliver 0 v).received j ++ waits (f.pending ++ [⟨v, 1⟩]) j = _
    rw [waits_append, ← h.told j hj]
    by_cases h0 : j = 0
    · -- nothing waits for the first receiver
      subst h0
      rw [deliver_received_self, waits_eq_nil h.started, waits_cons_of_lt (Nat.zero_lt_one)]
      simp [waits]
    · rw [deliver_received_of_ne f v h0, waits_cons_of_le (show 1 ≤ j by omega),
        List.append_assoc]
      rfl

/-- An announcement under way, between those made before it and those made after. -/
theorem pending_split {i : Nat} {a : Announcement β} (h : f.pending[i]? = some a) :
    f.pending = f.pending.take i ++ a :: f.pending.drop (i + 1) := by
  obtain ⟨hlt, rfl⟩ := List.getElem?_eq_some_iff.mp h
  rw [← List.drop_eq_getElem_cons hlt, List.take_append_drop]

/-- **AN ANNOUNCEMENT GOES ON** and overtakes nothing: its value is the first that waits for
the receiver. -/
theorem Tells.resume (h : Tells n f history) {i : Nat} (hok : f.overtakes n i = false) :
    Tells n (f.resume n i) history := by
  unfold FanOut.resume
  unfold overtakes at hok
  split
  next => exact h
  next a ha =>
    rw [ha] at hok
    have hsplit := pending_split ha
    obtain ⟨hlt, -⟩ := List.getElem?_eq_some_iff.mp ha
    by_cases hnext : a.next < n
    · rw [if_pos hnext]
      have hearlier : ∀ b ∈ f.pending.take i, a.next < b.next := by
        simpa [hnext] using hok
      constructor
      · intro b hb
        rcases List.mem_or_eq_of_mem_set hb with hb | rfl
        · exact h.started b hb
        · exact Nat.le_add_left 1 a.next
      · intro j hj
        show (f.deliver a.next a.value).received j ++ waits (f.pending.set i _) j = _
        rw [List.set_eq_take_append_cons_drop, if_pos hlt, waits_append, ← h.told j hj]
        conv_rhs => rw [hsplit, waits_append]
        by_cases heq : j = a.next
        · subst heq
          rw [deliver_received_self, waits_eq_nil hearlier, waits_cons_of_le (Nat.le_refl a.next),
            waits_cons_of_lt (Nat.lt_succ_self a.next)]
          simp
        · -- for any other receiver nothing has changed
          rw [deliver_received_of_ne f a.value heq]
          by_cases hle : a.next ≤ j
          · rw [waits_cons_of_le hle, waits_cons_of_le (show a.next + 1 ≤ j by omega)]
          · rw [waits_cons_of_lt (show j < a.next by omega),
              waits_cons_of_lt (show j < a.next + 1 by omega)]
    · rw [if_neg hnext]
      constructor
      · intro b hb
        exact h.started b (List.mem_of_mem_eraseIdx hb)
      · intro j hj
        show f.received j ++ waits (f.pending.eraseIdx i) j = _
        rw [List.eraseIdx_eq_take_drop_succ, waits_append, ← h.told j hj]
        conv_rhs => rw [hsplit, waits_append, waits_cons_of_lt (show j < a.next by omega)]

end FanOut

end PureBoot.Lib
