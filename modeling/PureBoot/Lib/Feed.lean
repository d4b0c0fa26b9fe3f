/-
  PureBoot.Lib.Feed — a FEED of messages, and what its subscribers were told of it.

  A feed is a history that only grows.  A subscriber follows it from the end that it has when
  the subscriber comes.  Between the publication of a message and the time the subscriber is
  told of it, the subscriber is one message BEHIND; otherwise it is UP TO DATE, until it is
  told no more.

  Whatever the order of these events is, a subscriber was told a window of the history: from
  where it came on, no message twice, none left out between two others, and all in the order
  of the history (`Window`).
-/
import Mathlib.Data.List.Basic
import Mathlib.Data.List.Infix
import Mathlib.Logic.Function.Basic

namespace PureBoot.Lib

/-- The history, where each subscriber came, and what it was told. -/
structure Feed (α μ : Type*) where
  history : List μ := []
  since : α → Nat := fun _ => 0
  told : α → List μ := fun _ => []

namespace Feed

variable {α μ : Type*}

/-- A message is published. -/
def publish (f : Feed α μ) (m : μ) : Feed α μ := { f with history := f.history ++ [m] }

/-- It was told the whole history since it came. -/
structure UpToDate (f : Feed α μ) (a : α) : Prop where
  since_le : f.since a ≤ f.history.length
  told : f.told a = f.history.drop (f.since a)

/-- It was told the whole history since it came, but for the last message. -/
structure Behind (f : Feed α μ) (a : α) (m : μ) : Prop where
  since_lt : f.since a < f.history.length
  told : f.told a ++ [m] = f.history.drop (f.since a)

/-- It was told a part of the history, from where it came on: **NOTHING TWICE, NOTHING LEFT
OUT, NOTHING OUT OF ORDER**. -/
def Window (f : Feed α μ) (a : α) : Prop := f.told a <+: f.history.drop (f.since a)

variable {f : Feed α μ} {a b : α} {m m' : μ}

theorem UpToDate.window (h : f.UpToDate a) : f.Window a := by
  unfold Window
  rw [h.told]

theorem Behind.window (h : f.Behind a m) : f.Window a := ⟨[m], h.told⟩

/-- Who was told nothing has the empty window, wherever it comes. -/
theorem window_of_told_nil (h : f.told a = []) : f.Window a := by
  unfold Window
  rw [h]
  exact List.nil_prefix

/-! What an event leaves of the three. -/

theorem UpToDate.publish (h : f.UpToDate a) (m : μ) : (f.publish m).Behind a m where
  since_lt := by
    show f.since a < (f.history ++ [m]).length
    rw [List.length_append]
    exact Nat.lt_succ_of_le h.since_le
  told := by
    show f.told a ++ [m] = (f.history ++ [m]).drop (f.since a)
    rw [List.drop_append_of_le_length h.since_le, h.told]

theorem Window.publish (h : f.Window a) (m : μ) : (f.publish m).Window a := by
  have hdrop : f.history.drop (f.since a) <+: (f.history ++ [m]).drop (f.since a) := by
    rw [List.drop_append]
    exact List.prefix_append _ _
  exact List.IsPrefix.trans h hdrop

variable [DecidableEq α]

/-- A subscriber comes. -/
def join (f : Feed α μ) (a : α) : Feed α μ :=
  { f with since := Function.update f.since a f.history.length }

/-- A subscriber is told a message. -/
def tell (f : Feed α μ) (a : α) (m : μ) : Feed α μ :=
  { f with told := Function.update f.told a (f.told a ++ [m]) }

theorem join_upToDate (h : f.told a = []) : (f.join a).UpToDate a := by
  have hsince : (f.join a).since a = f.history.length := Function.update_self _ _ _
  constructor
  · rw [hsince]
    exact Nat.le_refl _
  · show f.told a = f.history.drop _
    rw [hsince, h, List.drop_length]

theorem join_since_of_ne (hne : b ≠ a) : (f.join a).since b = f.since b :=
  Function.update_of_ne hne _ _

theorem UpToDate.join (h : f.UpToDate b) (hne : b ≠ a) : (f.join a).UpToDate b where
  since_le := by
    rw [join_since_of_ne hne]
    exact h.since_le
  told := by
    rw [join_since_of_ne hne]
    exact h.told

theorem Window.join (h : f.Window b) (hne : b ≠ a) : (f.join a).Window b := by
  unfold Window
  rw [join_since_of_ne hne]
  exact h

theorem tell_told_of_ne (hne : b ≠ a) : (f.tell a m).told b = f.told b :=
  Function.update_of_ne hne _ _

theorem Behind.tell (h : f.Behind a m) : (f.tell a m).UpToDate a where
  since_le := h.since_lt.le
  told := (Function.update_self _ _ _).trans h.told

theorem UpToDate.tell (h : f.UpToDate b) (hne : b ≠ a) : (f.tell a m).UpToDate b where
  since_le := h.since_le
  told := (tell_told_of_ne hne).trans h.told

theorem Behind.tell_other (h : f.Behind b m') (hne : b ≠ a) : (f.tell a m).Behind b m' where
  since_lt := h.since_lt
  told := by
    rw [tell_told_of_ne hne]
    exact h.told

theorem Window.tell (h : f.Window b) (hne : b ≠ a) : (f.tell a m).Window b := by
  unfold Window
  rw [tell_told_of_ne hne]
  exact h

end Feed

end PureBoot.Lib
