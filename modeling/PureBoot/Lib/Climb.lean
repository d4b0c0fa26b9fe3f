/-
  PureBoot.Lib.Climb — CLIMBING a parent relation, from a node to the top.

  `next` gives the node above a node, if there is one.  A climb is the list of the nodes
  passed on the way up, the first one included; it is unique, and where the relation has no
  cycle and stays in a finite list of nodes, every node has one.

  Main results:
    * `Climb.unique` — there is at most one climb from a node;
    * `exists_climb` — without a cycle there is one, no longer than the list of nodes.
-/
import Mathlib.Data.List.Perm.Subperm
import Mathlib.Logic.Relation

namespace PureBoot.Lib

variable {α : Type*}

/-- The nodes from `a` up to the top. -/
inductive Climb (next : α → Option α) : α → List α → Prop
  | top {a : α} : next a = none → Climb next a [a]
  | up {a b : α} {path : List α} : next a = some b → Climb next b path → Climb next a (a :: path)

/-- One step up. -/
def StepUp (next : α → Option α) (a b : α) : Prop := next a = some b

variable {next : α → Option α}

theorem Climb.unique {a : α} {path path' : List α} (h : Climb next a path)
    (h' : Climb next a path') : path = path' := by
  induction h generalizing path' with
  | top hnone =>
      cases h' with
      | top => rfl
      | up hsome =>
          rw [hnone] at hsome
          cases hsome
  | up hsome _ ih =>
      cases h' with
      | top hnone =>
          rw [hsome] at hnone
          cases hnone
      | up hsome' hrest =>
          obtain rfl := Option.some.inj (hsome.symm.trans hsome')
          rw [ih hrest]

/-- The climb from `a`, `n` nodes of which at most are still to be passed: those passed so far
are different from each other, and all of them are below `a`. -/
theorem exists_climb_from {nodes : List α} (hclosed : ∀ a ∈ nodes, ∀ b, next a = some b → b ∈ nodes)
    (hacyclic : ∀ a, ¬ Relation.TransGen (StepUp next) a a) :
    ∀ (n : Nat) {passed : List α} {a : α}, passed.Nodup → passed ⊆ nodes →
      (∀ x ∈ passed, Relation.TransGen (StepUp next) x a) → a ∈ nodes →
      nodes.length ≤ passed.length + n → ∃ path, Climb next a path ∧ path.length ≤ n := by
  intro n
  induction n with
  | zero =>
      intro passed a hnodup hsub hbelow ha hlength
      -- `a` would be one node too many
      have hnew : a ∉ passed := fun hmem => hacyclic a (hbelow a hmem)
      have hmore := (List.subperm_of_subset (List.nodup_cons.mpr ⟨hnew, hnodup⟩)
        (List.cons_subset.mpr ⟨ha, hsub⟩)).length_le
      rw [List.length_cons] at hmore
      omega
  | succ n ih =>
      intro passed a hnodup hsub hbelow ha hlength
      cases hnext : next a with
      | none =>
          refine ⟨[a], .top hnext, ?_⟩
          rw [List.length_singleton]
          omega
      | some b =>
          have hnew : a ∉ passed := fun hmem => hacyclic a (hbelow a hmem)
          have hbelow' : ∀ x ∈ a :: passed, Relation.TransGen (StepUp next) x b := by
            intro x hx
            rcases List.mem_cons.mp hx with rfl | hx
            · exact .single hnext
            · exact (hbelow x hx).tail hnext
          obtain ⟨path, hpath, hle⟩ := ih (List.nodup_cons.mpr ⟨hnew, hnodup⟩)
            (List.cons_subset.mpr ⟨ha, hsub⟩) hbelow' (hclosed a ha b hnext)
            (by rw [List.length_cons]; omega)
          refine ⟨a :: path, .up hnext hpath, ?_⟩
          rw [List.length_cons]
          omega

/-- **WITHOUT A CYCLE EVERY CLIMB ENDS.** -/
theorem exists_climb {nodes : List α} (hclosed : ∀ a ∈ nodes, ∀ b, next a = some b → b ∈ nodes)
    (hacyclic : ∀ a, ¬ Relation.TransGen (StepUp next) a a) {a : α} (ha : a ∈ nodes) :
    ∃ path, Climb next a path ∧ path.length ≤ nodes.length :=
  exists_climb_from hclosed hacyclic nodes.length List.nodup_nil (List.nil_subset _)
    (fun _ hx => absurd hx List.not_mem_nil) ha (Nat.le_add_left _ _)

end PureBoot.Lib
