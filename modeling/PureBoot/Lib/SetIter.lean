/-
  PureBoot.Lib.SetIter — a SET THAT IS ITERATED OVER while it may change.

  An iterator of a set remembers how many members the set had.  When it is asked for the next
  member and the set has another number of members, it raises.  If the set was changed and has
  its old number of members again, nothing is known of what comes next: a member that was
  yielded before, one that was not, or the end.  If the set was not changed, the iteration
  yields each member once, in an order that the set chooses.

  `Covers s it seen` is the invariant of an iteration over a set that is left alone: what was
  yielded, and then what is still to come, are the members.

  Main results:
    * `next?_eq_none_iff` — when the iterator raises;
    * `Covers.next?` — what an undisturbed one yields: the next of its order, or, once every
      member was yielded, the end.
-/
import Mathlib.Data.Finset.Card
import Mathlib.Data.List.Dedup

namespace PureBoot.Lib

variable {α : Type*} [DecidableEq α]

/-! ## §1. Sets as objects. -/

/-- A set, and how often it was changed. -/
structure SetObject (α : Type*) where
  members : Finset α := ∅
  version : Nat := 0

namespace SetObject

/-- `s.add(a)`. -/
def add (s : SetObject α) (a : α) : SetObject α :=
  if a ∈ s.members then s else ⟨insert a s.members, s.version + 1⟩

/-- `s.discard(a)`. -/
def discard (s : SetObject α) (a : α) : SetObject α :=
  if a ∈ s.members then ⟨s.members.erase a, s.version + 1⟩ else s

theorem add_of_mem {s : SetObject α} {a : α} (h : a ∈ s.members) : s.add a = s := if_pos h

theorem discard_of_not_mem {s : SetObject α} {a : α} (h : a ∉ s.members) : s.discard a = s :=
  if_neg h

/-- The members of a list are discarded. -/
def discardAll (s : SetObject α) (as : List α) : SetObject α := as.foldl discard s

end SetObject

/-! ## §2. Iterators. -/

/-- The list has the members of the set, each once. -/
def Lists (as : List α) (members : Finset α) : Prop := as.Nodup ∧ as.toFinset = members

instance (as : List α) (members : Finset α) : Decidable (Lists as members) :=
  inferInstanceAs (Decidable (_ ∧ _))

/-- An iterator: the size and the version of the set when it was made, and what it has still
to yield as long as the set is not changed. -/
structure SetIter (α : Type*) where
  size : Nat
  version : Nat
  rest : List α

namespace SetObject

variable {s s' : SetObject α} {it : SetIter α} {seen : List α} {other : Option α}

/-- `iter(s)`, in an order of the members. -/
def iter (s : SetObject α) (order : List α) : SetIter α := ⟨s.members.card, s.version, order⟩

/-- `next(it)`: the next member or the end, or an exception.  Where the set was changed,
`other` is what it comes to. -/
def next? (s : SetObject α) (it : SetIter α) (other : Option α) :
    Option (Option α × SetIter α) :=
  if s.members.card ≠ it.size then none
  else if s.version ≠ it.version then some (other.filter (fun a => a ∈ s.members), it)
  else
    match it.rest with
    | [] => some (none, it)
    | a :: rest => some (some a, { it with rest := rest })

/-- **THE ITERATOR RAISES** exactly if the set has another size. -/
theorem next?_eq_none_iff : s.next? it other = none ↔ s.members.card ≠ it.size := by
  unfold next?
  split
  next h => exact iff_of_true rfl h
  next h =>
    split
    next => exact iff_of_false (Option.some_ne_none _) h
    next => cases it.rest <;> exact iff_of_false (Option.some_ne_none _) h

/-- The size it compares with stays. -/
theorem next?_size {a? : Option α} {it' : SetIter α} (h : s.next? it other = some (a?, it')) :
    it'.size = it.size := by
  unfold next? at h
  split at h
  next => cases h
  next =>
    split at h
    next =>
      cases h
      rfl
    next =>
      split at h
      next =>
        cases h
        rfl
      next =>
        cases h
        rfl

/-! ## §3. Undisturbed iterations. -/

/-- Since the iterator was made the set was not changed, and `seen` was yielded. -/
structure Covers (s : SetObject α) (it : SetIter α) (seen : List α) : Prop where
  size : it.size = s.members.card
  version : it.version = s.version
  lists : Lists (seen ++ it.rest) s.members

theorem covers_iter {order : List α} (h : Lists order s.members) :
    Covers s (s.iter order) [] where
  size := rfl
  version := rfl
  lists := h

/-- **WHAT AN UNDISTURBED ITERATION YIELDS**: the next of its order, or its end. -/
theorem Covers.next? (h : Covers s it seen) (other : Option α) :
    (it.rest = [] ∧ s.next? it other = some (none, it) ∧ Lists seen s.members) ∨
    ∃ a it', s.next? it other = some (some a, it') ∧ it.rest = a :: it'.rest ∧
      Covers s it' (seen ++ [a]) := by
  unfold SetObject.next?
  rw [if_neg (not_not.mpr h.size.symm), if_neg (not_not.mpr h.version.symm)]
  have hlists := h.lists
  cases hrest : it.rest with
  | nil =>
      rw [hrest, List.append_nil] at hlists
      exact .inl ⟨rfl, rfl, hlists⟩
  | cons a rest =>
      refine .inr ⟨a, { it with rest := rest }, rfl, rfl, h.size, h.version, ?_⟩
      rw [hrest] at hlists
      show Lists (seen ++ [a] ++ rest) s.members
      rw [List.append_assoc]
      exact hlists

end SetObject

end PureBoot.Lib
