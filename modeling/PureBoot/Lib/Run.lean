/-
  PureBoot.Lib.Run — RUNS of a labelled machine, and sessions that commit or
  roll back.

  A machine is a total function `exec : σ → ι → σ`: the label carries every
  choice the environment makes (the request, the clock reading, the datagram
  that arrives, the answer of a remote party), and a label that is not enabled
  in a state leaves it as it is.  A RUN is then a list of labels.  Two kinds of
  statement are made about runs:

    • `Along exec guard s is` — every STEP of the run meets `guard`, a condition
      on the state before the step and its label;
    • `Always exec P s is` — every STATE of the run, the first one included,
      satisfies `P`.

  `always_of_step` is the invariant rule (what one step preserves, a whole run
  preserves) and `always_iff_along` its exact form: when breaking the guard once
  is enough to break `P`, the runs that keep `P` are the runs that keep the guard.
  `run_measure` and `along_length_le` are the rules for termination, `exists_run_of_measure` the
  one for progress, `run_labels` reads a run of one machine as a run of a machine it contains,
  `lockstep` and `run_twins` compare the runs of two machines, and `run_latch` says which runs
  end with a condition that never goes away again.
-/
import Mathlib.Data.List.Forall2
import Mathlib.Tactic.Common

namespace PureBoot.Lib

universe u

/-! ## §1. Runs. -/

section Runs

variable {σ ι : Type*}

/-- The state after executing the labels in order. -/
def run (exec : σ → ι → σ) : σ → List ι → σ
  | s, [] => s
  | s, i :: is => run exec (exec s i) is

/-- Every step of the run meets `guard` (state before the step, label). -/
def Along (exec : σ → ι → σ) (guard : σ → ι → Prop) : σ → List ι → Prop
  | _, [] => True
  | s, i :: is => guard s i ∧ Along exec guard (exec s i) is

/-- Every state the run goes through satisfies `P`, the first one included. -/
def Always (exec : σ → ι → σ) (P : σ → Prop) : σ → List ι → Prop
  | s, [] => P s
  | s, i :: is => P s ∧ Always exec P (exec s i) is

instance Along.decidable (exec : σ → ι → σ) (guard : σ → ι → Prop)
    [∀ s i, Decidable (guard s i)] : ∀ s is, Decidable (Along exec guard s is)
  | _, [] => .isTrue trivial
  | s, i :: is =>
      have := Along.decidable exec guard (exec s i) is
      inferInstanceAs (Decidable (guard s i ∧ Along exec guard (exec s i) is))

variable {exec : σ → ι → σ} {guard : σ → ι → Prop} {P Inv : σ → Prop}

theorem run_nil (s : σ) : run exec s [] = s := rfl

theorem run_cons (s : σ) (i : ι) (is : List ι) :
    run exec s (i :: is) = run exec (exec s i) is := rfl

theorem run_append (s : σ) :
    ∀ (is js : List ι), run exec s (is ++ js) = run exec (run exec s is) js := by
  intro is
  induction is generalizing s with
  | nil => intro js; rfl
  | cons i is ih => intro js; exact ih (exec s i) js

theorem Always.start : ∀ {s : σ} {is : List ι}, Always exec P s is → P s
  | _, [], h => h
  | _, _ :: _, h => h.1

theorem Always.last : ∀ {s : σ} {is : List ι}, Always exec P s is → P (run exec s is)
  | _, [], h => h
  | s, i :: is, h => (Always.last h.2 : P (run exec (exec s i) is))

theorem Always.mono (hPQ : ∀ s, Inv s → P s) :
    ∀ {s : σ} {is : List ι}, Always exec Inv s is → Always exec P s is
  | _, [], h => hPQ _ h
  | _, _ :: _, h => ⟨hPQ _ h.1, Always.mono hPQ h.2⟩

/-- **THE INVARIANT RULE**: what every step under the guard preserves, a run
under the guard preserves in each of its states. -/
theorem always_of_step (hstep : ∀ s i, Inv s → guard s i → Inv (exec s i)) :
    ∀ {s : σ} {is : List ι}, Inv s → Along exec guard s is → Always exec Inv s is
  | _, [], h0, _ => h0
  | s, i :: _, h0, hg => ⟨h0, always_of_step hstep (hstep s i h0 hg.1) hg.2⟩

/-- The invariant rule, read at the last state of the run. -/
theorem run_invariant (hstep : ∀ s i, Inv s → guard s i → Inv (exec s i))
    {s : σ} {is : List ι} (h0 : Inv s) (hg : Along exec guard s is) :
    Inv (run exec s is) :=
  (always_of_step hstep h0 hg).last

theorem along_true : ∀ (s : σ) (is : List ι), Along exec (fun _ _ => True) s is
  | _, [] => trivial
  | s, i :: is => ⟨trivial, along_true (exec s i) is⟩

theorem Along.mono {guard' : σ → ι → Prop} (h : ∀ s i, guard s i → guard' s i) :
    ∀ {s : σ} {is : List ι}, Along exec guard s is → Along exec guard' s is
  | _, [], _ => trivial
  | s, i :: _, hg => ⟨h s i hg.1, Along.mono h hg.2⟩

/-- What holds at every step under the guard from a state of the invariant, holds along a
run. -/
theorem Along.of_step {guard' : σ → ι → Prop}
    (hstep : ∀ s i, Inv s → guard s i → Inv (exec s i))
    (h : ∀ s i, Inv s → guard s i → guard' s i) :
    ∀ {s : σ} {is : List ι}, Inv s → Along exec guard s is → Along exec guard' s is
  | _, [], _, _ => trivial
  | s, i :: _, h0, hg => ⟨h s i h0 hg.1, Along.of_step hstep h (hstep s i h0 hg.1) hg.2⟩

theorem of_run (h : ∀ s i, P (exec s i) → P s) :
    ∀ {s : σ} {is : List ι}, P (run exec s is) → P s
  | _, [], hP => hP
  | s, i :: is, hP => h s i (of_run h (hP : P (run exec (exec s i) is)))

/-- What a step never brings about holds at every step of a run that ends with it. -/
theorem along_of_last (h : ∀ s i, P (exec s i) → P s) :
    ∀ {s : σ} {is : List ι}, P (run exec s is) → Along exec (fun s i => P (exec s i)) s is
  | _, [], _ => trivial
  | s, i :: is, hP =>
      have hP : P (run exec (exec s i) is) := hP
      ⟨of_run h hP, along_of_last h hP⟩

theorem along_append {s : σ} {is js : List ι} :
    Along exec guard s (is ++ js) ↔ Along exec guard s is ∧ Along exec guard (run exec s is) js := by
  induction is generalizing s with
  | nil => exact ⟨fun h => ⟨trivial, h⟩, And.right⟩
  | cons i is ih => exact (and_congr_right (fun _ => ih)).trans and_assoc.symm

/-- A condition on the labels holds along a run. -/
theorem Along.and_label {L : ι → Prop} :
    ∀ {s : σ} {is : List ι}, Along exec guard s is → (∀ i ∈ is, L i) →
      Along exec (fun s i => L i ∧ guard s i) s is
  | _, [], _, _ => trivial
  | _, i :: _, hg, hL =>
      ⟨⟨hL i List.mem_cons_self, hg.1⟩,
        Along.and_label hg.2 (fun j hj => hL j (List.mem_cons_of_mem i hj))⟩

/-- A run all of whose steps meet a condition on the labels. -/
theorem along_label_iff {L : ι → Prop} :
    ∀ {s : σ} {is : List ι}, Along exec (fun _ i => L i) s is ↔ ∀ i ∈ is, L i
  | _, [] => ⟨fun _ _ h => (nomatch h), fun _ => trivial⟩
  | _, _ :: _ => (and_congr_right (fun _ => along_label_iff)).trans List.forall_mem_cons.symm

/-- Conditions that agree on every step agree on every run. -/
theorem along_congr {guard' : σ → ι → Prop} (h : ∀ s i, guard s i ↔ guard' s i) :
    ∀ (s : σ) (is : List ι), Along exec guard s is ↔ Along exec guard' s is
  | _, [] => Iff.rfl
  | s, i :: is => and_congr (h s i) (along_congr h (exec s i) is)

/-- Conditions that agree at every step of a run agree on the run. -/
theorem Along.congr {guard' : σ → ι → Prop} :
    ∀ {s : σ} {is : List ι}, Along exec (fun s i => guard s i ↔ guard' s i) s is →
      (Along exec guard s is ↔ Along exec guard' s is)
  | _, [], _ => Iff.rfl
  | _, _ :: _, h => and_congr h.1 (Along.congr h.2)

/-- Conditions that agree on every step from a state of the invariant agree on every run,
where a step that meets the first one keeps the invariant. -/
theorem along_iff_of_step {guard' : σ → ι → Prop}
    (hstep : ∀ s i, Inv s → guard s i → Inv (exec s i))
    (h : ∀ s i, Inv s → (guard' s i ↔ guard s i)) :
    ∀ {s : σ} {is : List ι}, Inv s → (Along exec guard' s is ↔ Along exec guard s is)
  | _, [], _ => Iff.rfl
  | s, i :: is, h0 => by
      constructor
      · rintro ⟨hi, hrest⟩
        have hg := (h s i h0).mp hi
        exact ⟨hg, (along_iff_of_step hstep h (hstep s i h0 hg)).mp hrest⟩
      · rintro ⟨hg, hrest⟩
        exact ⟨(h s i h0).mpr hg, (along_iff_of_step hstep h (hstep s i h0 hg)).mpr hrest⟩

/-- **THE MEASURE RULE**: a measure that no step raises and that every counted step
lowers, until it is 0, is used up by as many counted steps. -/
theorem run_measure {μ : σ → Nat} {counted : ι → Bool}
    (hstep : ∀ s i, Inv s → guard s i → Inv (exec s i))
    (hμ : ∀ s i, Inv s → guard s i → μ (exec s i) ≤ μ s - (if counted i then 1 else 0)) :
    ∀ {s : σ} {is : List ι}, Inv s → Along exec guard s is →
      μ (run exec s is) ≤ μ s - is.countP counted := by
  intro s is
  induction is generalizing s with
  | nil =>
      intro _ _
      exact Nat.le_refl _
  | cons i is ih =>
      intro h0 hg
      have hrest := ih (hstep s i h0 hg.1) hg.2
      have hfirst := hμ s i h0 hg.1
      show μ (run exec (exec s i) is) ≤ _
      rw [List.countP_cons]
      omega

/-- **THE PROGRESS RULE**: where some step lowers a measure as long as it is not 0, some run
brings it to 0. -/
theorem exists_run_of_measure {μ : σ → Nat}
    (h : ∀ s, Inv s → μ s ≠ 0 → ∃ i, Inv (exec s i) ∧ μ (exec s i) < μ s) {s : σ} (h0 : Inv s) :
    ∃ is, Inv (run exec s is) ∧ μ (run exec s is) = 0 := by
  induction hn : μ s using Nat.strongRecOn generalizing s with
  | _ n ih =>
      by_cases hzero : μ s = 0
      · exact ⟨[], h0, hzero⟩
      · obtain ⟨i, hi, hlt⟩ := h s h0 hzero
        obtain ⟨is, hinv, hdone⟩ := ih (μ (exec s i)) (hn ▸ hlt) hi rfl
        exact ⟨i :: is, hinv, hdone⟩

/-- **THE BOUND RULE**: no more counted steps are taken than the measure is large that every
counted step lowers and no step raises. -/
theorem along_countP_le {μ : σ → Nat} {counted : ι → Bool}
    (hstep : ∀ s i, Inv s → guard s i → Inv (exec s i))
    (hμ : ∀ s i, Inv s → guard s i → μ (exec s i) + (if counted i then 1 else 0) ≤ μ s) :
    ∀ {s : σ} {is : List ι}, Inv s → Along exec guard s is → is.countP counted ≤ μ s := by
  intro s is
  induction is generalizing s with
  | nil =>
      intro _ _
      exact Nat.zero_le _
  | cons i is ih =>
      intro h0 hg
      have hrest := ih (hstep s i h0 hg.1) hg.2
      have hfirst := hμ s i h0 hg.1
      rw [List.countP_cons]
      omega

/-- The bound rule for runs whose every step lowers the measure. -/
theorem along_length_le {μ : σ → Nat} (hstep : ∀ s i, Inv s → guard s i → Inv (exec s i))
    (hμ : ∀ s i, Inv s → guard s i → μ (exec s i) < μ s)
    {s : σ} {is : List ι} (h0 : Inv s) (hg : Along exec guard s is) : is.length ≤ μ s := by
  have hcount : is.countP (fun _ => true) ≤ μ s := along_countP_le hstep hμ h0 hg
  rwa [List.countP_true] at hcount

/-- The invariant rule for a machine whose every step preserves the invariant. -/
theorem run_invariant' (hstep : ∀ s i, Inv s → Inv (exec s i))
    {s : σ} (is : List ι) (h0 : Inv s) : Inv (run exec s is) := by
  have hstep' : ∀ s i, Inv s → (fun _ _ => True : σ → ι → Prop) s i → Inv (exec s i) :=
    fun s i h _ => hstep s i h
  exact run_invariant hstep' h0 (along_true s is)

/-- **THE EXACT RULE**, for runs all of whose steps meet `L`: if a step under the guard
preserves the invariant and a step outside it breaks `P` at once, then the runs
all of whose states satisfy `P` are exactly the runs all of whose steps meet the
guard. -/
theorem always_iff_along_of {L : σ → ι → Prop}
    (hstep : ∀ s i, L s i → Inv s → guard s i → Inv (exec s i))
    (hP : ∀ s, Inv s → P s)
    (hbreak : ∀ s i, L s i → Inv s → ¬ guard s i → ¬ P (exec s i)) :
    ∀ {s : σ} {is : List ι}, Along exec L s is → Inv s →
      (Always exec P s is ↔ Along exec guard s is) := by
  intro s is
  induction is generalizing s with
  | nil =>
      intro _ h0
      exact ⟨fun _ => trivial, fun _ => hP s h0⟩
  | cons i is ih =>
      intro hL h0
      -- once the first step is known to meet the guard, the rest is the
      -- induction hypothesis in both directions
      have hiff (hg : guard s i) :=
        ih hL.2 (hstep s i hL.1 h0 hg)
      refine ⟨fun h => ?_, fun h => ⟨hP s h0, (hiff h.1).mpr h.2⟩⟩
      have hg : guard s i := by
        by_contra hng
        exact hbreak s i hL.1 h0 hng h.2.start
      exact ⟨hg, (hiff hg).mp h.2⟩

/-- The exact rule, for runs over the labels `L`. -/
theorem always_iff_along {L : ι → Prop}
    (hstep : ∀ s i, L i → Inv s → guard s i → Inv (exec s i))
    (hP : ∀ s, Inv s → P s)
    (hbreak : ∀ s i, L i → Inv s → ¬ guard s i → ¬ P (exec s i))
    {s : σ} {is : List ι} (hL : ∀ i ∈ is, L i) (h0 : Inv s) :
    Always exec P s is ↔ Along exec guard s is := by
  have htrue : Along exec (fun _ _ => True) s is := along_true s is
  exact always_iff_along_of (fun s i hi => hstep s i hi.1) hP (fun s i hi => hbreak s i hi.1)
    (htrue.and_label hL) h0

/-! A machine inside another: `f` is its state, `g` the label of its step. -/

section Inside

variable {τ κ : Type*} {exec' : τ → κ → τ} {guard' : τ → κ → Prop} {f : σ → τ} {g : σ → ι → κ}

/-- The labels of the machine inside, along a run. -/
def labels (exec : σ → ι → σ) (g : σ → ι → κ) : σ → List ι → List κ
  | _, [] => []
  | s, i :: is => g s i :: labels exec g (exec s i) is

/-- **THE RUN OF A MACHINE INSIDE ANOTHER.** -/
theorem run_labels (h : ∀ s i, f (exec s i) = exec' (f s) (g s i)) :
    ∀ (s : σ) (is : List ι), f (run exec s is) = run exec' (f s) (labels exec g s is) := by
  intro s is
  induction is generalizing s with
  | nil => rfl
  | cons i is ih =>
      show f (run exec (exec s i) is)
        = run exec' (exec' (f s) (g s i)) (labels exec g (exec s i) is)
      rw [ih, h]

theorem along_labels (h : ∀ s i, f (exec s i) = exec' (f s) (g s i))
    (hguard : ∀ s i, guard s i → guard' (f s) (g s i)) :
    ∀ {s : σ} {is : List ι}, Along exec guard s is →
      Along exec' guard' (f s) (labels exec g s is) := by
  intro s is
  induction is generalizing s with
  | nil => intro _; trivial
  | cons i is ih =>
      intro hg
      refine ⟨hguard s i hg.1, ?_⟩
      rw [← h]
      exact ih hg.2

theorem countP_labels {p : ι → Bool} {q : κ → Bool} (h : ∀ s i, q (g s i) = p i) :
    ∀ (s : σ) (is : List ι), (labels exec g s is).countP q = is.countP p := by
  intro s is
  induction is generalizing s with
  | nil => rfl
  | cons i is ih =>
      show (g s i :: labels exec g (exec s i) is).countP q = _
      rw [List.countP_cons, List.countP_cons, ih, h]

end Inside

/-! A machine whose labels are some of another's. -/

section Relabelled

variable {κ : Type*} {g : κ → ι}

theorem run_map : ∀ (s : σ) (ks : List κ),
    run exec s (ks.map g) = run (fun s k => exec s (g k)) s ks
  | _, [] => rfl
  | s, k :: ks => run_map (exec s (g k)) ks

theorem along_map : ∀ {s : σ} {ks : List κ},
    Along exec guard s (ks.map g)
      ↔ Along (fun s k => exec s (g k)) (fun s k => guard s (g k)) s ks
  | _, [] => Iff.rfl
  | _, _ :: _ => and_congr Iff.rfl along_map

end Relabelled

/-! Two machines side by side. -/

/-- **THE LOCKSTEP RULE**: what related labels preserve between the states of two machines, holds
between their states after every step of runs with related labels. -/
theorem lockstep {τ κ : Type*} {exec' : τ → κ → τ} {R : σ → τ → Prop} {L : ι → κ → Prop}
    (hstep : ∀ s t i k, R s t → L i k → R (exec s i) (exec' t k)) :
    ∀ {s : σ} {t : τ} {is : List ι} {ks : List κ}, R s t → List.Forall₂ L is ks →
      List.Forall₂ R (is.scanl exec s) (ks.scanl exec' t) := by
  intro s t is ks h0 hlabels
  induction hlabels generalizing s t with
  | nil =>
      rw [List.scanl_nil, List.scanl_nil]
      exact .cons h0 .nil
  | cons hlabel _ ih =>
      rw [List.scanl_cons, List.scanl_cons]
      exact .cons h0 (ih (hstep _ _ _ _ h0 hlabel))

/-- **THE TWIN RULE**: what one step of both machines preserves, a run of both does. -/
theorem run_twins {τ : Type*} {exec' : τ → ι → τ} {R : σ → τ → Prop}
    (hstep : ∀ s t i, R s t → R (exec s i) (exec' t i)) {s : σ} {t : τ} (is : List ι)
    (h0 : R s t) : R (run exec s is) (run exec' t is) := by
  induction is generalizing s t with
  | nil => exact h0
  | cons i is ih => exact ih (hstep s t i h0)

/-- **THE LATCH RULE**: a condition that stays once it holds, and that only the tripping steps
bring about, holds after the runs with a tripping step. -/
theorem run_latch {trips : σ → ι → Prop} (hstep : ∀ s i, Inv s → Inv (exec s i))
    (hlatch : ∀ s i, Inv s → (P (exec s i) ↔ P s ∨ trips s i)) :
    ∀ {s : σ} (is : List ι), Inv s →
      (P (run exec s is) ↔ P s ∨ ¬ Along exec (fun s i => ¬ trips s i) s is)
  | s, [], _ => by simp [run, Along]
  | s, i :: is, h => by
      have hrest := run_latch hstep hlatch is (hstep s i h)
      show P (run exec (exec s i) is) ↔ P s ∨ ¬ (¬ trips s i ∧ _)
      rw [hrest, hlatch s i h, not_and_or, not_not, or_assoc]

/-- **THE EXPANSION RULE**: where each step does what several steps of another machine do, a run
does what the run of all these steps does. -/
theorem run_flatMap {τ κ : Type*} {exec' : τ → κ → τ} {R : σ → τ → Prop} {expand : ι → List κ}
    (hstep : ∀ s t i, R s t → R (exec s i) (run exec' t (expand i))) :
    ∀ {s : σ} {t : τ} (is : List ι), R s t →
      R (run exec s is) (run exec' t (is.flatMap expand)) := by
  intro s t is
  induction is generalizing s t with
  | nil => exact id
  | cons i is ih =>
      intro h
      rw [List.flatMap_cons, run_append]
      exact ih (hstep s t i h)

end Runs

/-! ## §2. Sessions: commit on success, roll back on an exception. -/

section Session

variable {σ ε α : Type*}

/-- What is stored after a request handler has run in its own session: the
handler's writes if it returned, the state before it if it raised. -/
def commitOrRollback (s : σ) : Except ε (α × σ) → σ
  | .ok (_, s') => s'
  | .error _ => s

@[simp] theorem commitOrRollback_ok (s s' : σ) (a : α) :
    commitOrRollback (ε := ε) s (.ok (a, s')) = s' := rfl

@[simp] theorem commitOrRollback_error (s : σ) (e : ε) :
    commitOrRollback (α := α) s (.error e) = s := rfl

/-- A request preserves what held before it as soon as a handler that returns
does: the rolled-back case is discharged here, once. -/
theorem commitOrRollback_preserves {P : σ → Prop} {s : σ} {r : Except ε (α × σ)}
    (hs : P s) (h : ∀ a s', r = .ok (a, s') → P s') : P (commitOrRollback s r) := by
  cases r with
  | error e => exact hs
  | ok p => exact h p.1 p.2 rfl

/-- What a handler that returned has returned. -/
theorem ok_pair_inj {a a' : α} {s s' : σ}
    (h : (.ok (a, s) : Except ε (α × σ)) = .ok (a', s')) : a = a' ∧ s = s' :=
  Prod.mk.inj (Except.ok.inj h)

/-- A handler in the exception monad returned: each of its two halves did. -/
theorem bind_eq_ok {β γ : Type u} {x : Except ε β} {f : β → Except ε γ} {c : γ} :
    (x >>= f) = .ok c ↔ ∃ b, x = .ok b ∧ f b = .ok c := by
  cases x with
  | error e => simp [bind, Except.bind]
  | ok b => simp [bind, Except.bind]

/-- The first half of a handler returned. -/
theorem ok_bind {β γ : Type u} (b : β) (f : β → Except ε γ) : (.ok b >>= f) = f b := rfl

/-- A handler whose answer is rewritten returned. -/
theorem map_eq_ok {β : Type*} {f : α → β} {result : Except ε α} {b : β}
    (h : result.map f = .ok b) : ∃ a, result = .ok a ∧ f a = b := by
  cases result with
  | error e => cases h
  | ok a => exact ⟨a, rfl, Except.ok.inj h⟩

/-- A handler whose answer is left out returned. -/
theorem map_state_eq_ok {result : Except ε (α × σ)} {x : Unit} {s' : σ}
    (h : result.map (fun out => ((), out.2)) = .ok (x, s')) : ∃ a, result = .ok (a, s') := by
  obtain ⟨⟨a, s''⟩, hresult, heq⟩ := map_eq_ok h
  obtain ⟨-, rfl⟩ := Prod.mk.inj heq
  exact ⟨a, hresult⟩

@[simp] theorem isOk_ok (a : α) : (Except.ok a : Except ε α).isOk = true := rfl

@[simp] theorem isOk_error (e : ε) : (Except.error e : Except ε α).isOk = false := rfl

theorem exists_of_isOk {result : Except ε α} (h : result.isOk = true) :
    ∃ a, result = .ok a := by
  cases result with
  | error e => cases h
  | ok a => exact ⟨a, rfl⟩

/-- What a handler returned, as an option. -/
theorem toOption_eq_some_iff {result : Except ε α} {a : α} :
    result.toOption = some a ↔ result = .ok a := by
  cases result with
  | error e => exact ⟨fun h => (nomatch h), fun h => (nomatch h)⟩
  | ok b => exact ⟨fun h => congrArg _ (Option.some.inj h), fun h => congrArg _ (Except.ok.inj h)⟩

/-- A check that raises was passed. -/
theorem ite_error_eq_ok {p : Prop} [Decidable p] {e : ε} {x : Except ε α} {a : α} :
    (if p then .error e else x) = .ok a ↔ ¬ p ∧ x = .ok a := by
  by_cases hp : p
  · rw [if_pos hp]
    exact ⟨fun h => (nomatch h), fun h => absurd hp h.1⟩
  · rw [if_neg hp]
    exact ⟨fun h => ⟨hp, h⟩, fun h => h.2⟩

end Session

end PureBoot.Lib
