/-
  PureBoot.Lib.Trail — AUDIT TRAILS: when a list of change records explains a
  current value.

  A record says that a value went from `src r` to `tgt r`.  `Explains` is the
  property an audit table is kept for: read in creation order, the records start
  at the initial value, each one takes up where the previous one ended, each is
  a move the rule `R` allows, and the last one ends at the current value.

  `Explains.snoc` is how a writer keeps the trail, `Explains.unique` why a writer
  that adds no record breaks it: the records determine the current value.
-/
import Mathlib.Data.List.Chain
import Mathlib.Tactic.Common

namespace PureBoot.Lib

variable {ρ α : Type*}

/-- The records `rows`, in creation order, lead from `init` to `cur` by moves
that `R` allows. -/
structure Explains (src tgt : ρ → α) (R : α → α → Prop) (init : α) (rows : List ρ) (cur : α) :
    Prop where
  /-- The first record starts at the initial value. -/
  first : ∀ r, rows.head? = some r → src r = init
  /-- Each record ends where the next one starts. -/
  linked : rows.IsChain (fun r r' => tgt r = src r')
  /-- Each record is an allowed move. -/
  allowed : ∀ r ∈ rows, R (src r) (tgt r)
  /-- The last record ends at the current value; with no record it is the initial one. -/
  last : cur = (rows.getLast?.map tgt).getD init

namespace Explains

variable {src tgt : ρ → α} {R : α → α → Prop} {init cur cur' : α} {rows : List ρ}

theorem nil : Explains src tgt R init [] init where
  first := by simp
  linked := .nil
  allowed := by simp
  last := rfl

/-- The records determine the current value. -/
theorem unique (h : Explains src tgt R init rows cur) (h' : Explains src tgt R init rows cur') :
    cur = cur' :=
  h.last.trans h'.last.symm

/-- A record of an allowed move from the current value extends the trail. -/
theorem snoc (h : Explains src tgt R init rows cur) {r : ρ} (hsrc : src r = cur)
    (hR : R (src r) (tgt r)) : Explains src tgt R init (rows ++ [r]) (tgt r) where
  first := by
    intro r' hr'
    cases rows with
    | nil =>
        -- the new record is the first one
        obtain rfl : r = r' := by simpa using hr'
        exact hsrc.trans h.last
    | cons a as => exact h.first r' (by simpa using hr')
  linked := by
    rw [List.isChain_append]
    refine ⟨h.linked, .singleton r, ?_⟩
    intro x hx y hy
    obtain rfl : r = y := by simpa using hy
    rw [Option.mem_def] at hx
    rw [hsrc, h.last, hx]
    rfl
  allowed := by
    intro r' hr'
    rcases List.mem_append.mp hr' with hr' | hr'
    · exact h.allowed r' hr'
    · rw [List.mem_singleton.mp hr']; exact hR
  last := by simp

end Explains

end PureBoot.Lib
