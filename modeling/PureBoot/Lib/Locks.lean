/-
  PureBoot.Lib.Locks — TASKS that share a state and LOCKS that are not re-entrant.

  A task is a program of atomic actions, each of which may depend on the shared state and
  on an input, and of requests for locks and releases.  Tasks are started at any time and
  take turns in any order; a request for a lock that somebody holds waits, also if it is
  the task itself that holds it.

  Some actions have a POINT at which the program may go wrong: `allowed` says in which
  shared states it does not.  A program is DISCIPLINED if it requests locks in the order
  of their ranks and releases them in turn, as long as it is allowed to go on at its
  points, and requests a lock that it holds as soon as it is not.

  Main results:
    * `orderly_exec` — one step of a system of disciplined programs;
    * `can_move_of_orderly` — somebody can always go on;
    * `moves_wellFounded` — the tasks come to an end, however they take turns;
    * `calm_iff` — the runs in which no task waits for itself.
-/
import PureBoot.Lib.Run
import Mathlib.Logic.Hydra

namespace PureBoot.Lib

/-! ## §1. Programs and systems. -/

/-- A program over locks `L`, a shared state `σ`, inputs `ι` and points `P`. -/
inductive Prog (L σ ι P : Type) where
  | done
  | act (point : P) (effect : σ → ι → σ) (next : σ → ι → Prog L σ ι P)
  | acquire (l : L) (next : Prog L σ ι P)
  | release (l : L) (next : Prog L σ ι P)

variable {L σ ι P O : Type}

/-- The shared state after the program has run alone, always with the same input. -/
def Prog.alone : Prog L σ ι P → σ → ι → σ
  | .done, s, _ => s
  | .act _ effect next, s, input => (next s input).alone (effect s input) input
  | .acquire _ next, s, input => next.alone s input
  | .release _ next, s, input => next.alone s input

@[simp] theorem alone_act (point : P) (effect : σ → ι → σ) (next : σ → ι → Prog L σ ι P) (s : σ)
    (input : ι) :
    (Prog.act point effect next).alone s input = (next s input).alone (effect s input) input := rfl

@[simp] theorem alone_acquire (l : L) (next : Prog L σ ι P) (s : σ) (input : ι) :
    (Prog.acquire l next).alone s input = next.alone s input := rfl

@[simp] theorem alone_release (l : L) (next : Prog L σ ι P) (s : σ) (input : ι) :
    (Prog.release l next).alone s input = next.alone s input := rfl

/-- A program that is under way, and the locks it holds. -/
structure LockTask (L σ ι P : Type) where
  prog : Prog L σ ι P
  held : List L := []

/-- The tasks, in the order in which they were started. -/
structure TaskSystem (L σ ι P : Type) where
  tasks : List (LockTask L σ ι P) := []
  shared : σ

/-- What happens next: an operation is started, or a task goes on. -/
inductive TaskTurn (O ι : Type) where
  | start (op : O)
  | step (i : Nat) (input : ι)

namespace TaskSystem

variable [DecidableEq L]

/-- Nobody holds the lock. -/
def free (sys : TaskSystem L σ ι P) (l : L) : Bool :=
  sys.tasks.all (fun t => !t.held.contains l)

/-- Task `i` goes on, if it can. -/
def move (sys : TaskSystem L σ ι P) (i : Nat) (t : LockTask L σ ι P) (input : ι) :
    TaskSystem L σ ι P :=
  match t.prog with
  | .done => sys
  | .act _ effect next =>
      { tasks := sys.tasks.set i { t with prog := next sys.shared input }
        shared := effect sys.shared input }
  | .acquire l next =>
      if sys.free l then { sys with tasks := sys.tasks.set i ⟨next, l :: t.held⟩ } else sys
  | .release l next => { sys with tasks := sys.tasks.set i ⟨next, t.held.erase l⟩ }

def exec (program : O → Prog L σ ι P) (sys : TaskSystem L σ ι P) : TaskTurn O ι → TaskSystem L σ ι P
  | .start op => { sys with tasks := sys.tasks ++ [{ prog := program op }] }
  | .step i input =>
      match sys.tasks[i]? with
      | none => sys
      | some t => sys.move i t input

end TaskSystem

/-- The task requests a lock that it holds. -/
def LockTask.selfWaits [DecidableEq L] (t : LockTask L σ ι P) : Bool :=
  match t.prog with
  | .acquire l _ => t.held.contains l
  | _ => false

/-- The task has ended. -/
def LockTask.ended (t : LockTask L σ ι P) : Bool :=
  match t.prog with
  | .done => true
  | _ => false

/-- The task can go on. -/
def LockTask.canMove [DecidableEq L] (sys : TaskSystem L σ ι P) (t : LockTask L σ ι P) : Bool :=
  match t.prog with
  | .done => false
  | .act .. => true
  | .acquire l _ => sys.free l
  | .release .. => true

/-- `next` is the system after a task that can go on has gone on. -/
def Moves [DecidableEq L] (next sys : TaskSystem L σ ι P) : Prop :=
  ∃ i t input, sys.tasks[i]? = some t ∧ t.canMove sys = true ∧ next = sys.move i t input

/-- No task waits for itself; while tasks are under way, one of them can go on; and there is
an end to this: all tasks complete. -/
structure Calm [DecidableEq L] (sys : TaskSystem L σ ι P) : Prop where
  noSelfWait : ∀ t ∈ sys.tasks, t.selfWaits = false
  goesOn : (∃ t ∈ sys.tasks, t.ended = false) → ∃ t ∈ sys.tasks, t.canMove sys = true
  ends : Acc Moves sys

/-! ## §2. Every task comes to an end. -/

/-- `next` is what a program may be after it has gone on. -/
def Continues (next : Prog L σ ι P) : Prog L σ ι P → Prop
  | .done => False
  | .act _ _ f => ∃ s input, next = f s input
  | .acquire _ p => next = p
  | .release _ p => next = p

theorem continues_wellFounded : WellFounded (Continues (L := L) (σ := σ) (ι := ι) (P := P)) := by
  refine ⟨fun p => ?_⟩
  induction p with
  | done => exact ⟨_, fun _ h => h.elim⟩
  | act point effect f ih =>
      refine ⟨_, ?_⟩
      rintro _ ⟨s, input, rfl⟩
      exact ih s input
  | acquire l p ih =>
      refine ⟨_, ?_⟩
      rintro _ rfl
      exact ih
  | release l p ih =>
      refine ⟨_, ?_⟩
      rintro _ rfl
      exact ih

/-- The programs that are under way. -/
def progs (tasks : List (LockTask L σ ι P)) : Multiset (Prog L σ ι P) :=
  Multiset.ofList (tasks.map LockTask.prog)

theorem progs_cons (t : LockTask L σ ι P) (tasks : List (LockTask L σ ι P)) :
    progs (t :: tasks) = {t.prog} + progs tasks := rfl

/-- One program is replaced by one that continues it. -/
theorem cutExpand_set {t t' : LockTask L σ ι P} {tasks : List (LockTask L σ ι P)} {i : Nat}
    (hi : tasks[i]? = some t) (h : Continues t'.prog t.prog) :
    Relation.CutExpand Continues (progs (tasks.set i t')) (progs tasks) := by
  induction tasks generalizing i with
  | nil => exact absurd hi (by simp)
  | cons t₀ tasks ih =>
      cases i with
      | zero =>
          obtain rfl : t₀ = t := by simpa using hi
          rw [List.set_cons_zero, progs_cons, progs_cons]
          exact Relation.cutExpand_single_add h _
      | succ i =>
          have hrest := ih (i := i) (by simpa using hi)
          rw [List.set_cons_succ, progs_cons, progs_cons]
          exact (Relation.cutExpand_add_left _).mpr hrest

/-- **THE TASKS COME TO AN END**, however they take turns. -/
theorem moves_wellFounded [DecidableEq L] :
    WellFounded (Moves (L := L) (σ := σ) (ι := ι) (P := P)) := by
  refine Subrelation.wf (r := InvImage (Relation.CutExpand Continues)
    (fun sys => progs sys.tasks)) ?_
    (InvImage.wf _ continues_wellFounded.cutExpand)
  rintro _ sys ⟨i, t, input, hi, hmove, rfl⟩
  show Relation.CutExpand Continues _ _
  obtain ⟨prog, held⟩ := t
  cases prog with
  | done => exact absurd hmove (by simp [LockTask.canMove])
  | act point effect f =>
      have hnext : Continues (f sys.shared input) (.act point effect f) :=
        ⟨sys.shared, input, rfl⟩
      exact cutExpand_set hi hnext
  | release l p =>
      have hnext : Continues p (.release l p) := rfl
      exact cutExpand_set hi hnext
  | acquire l p =>
      have hfree : sys.free l = true := hmove
      have hmoved : sys.move i ⟨.acquire l p, held⟩ input
          = { sys with tasks := sys.tasks.set i ⟨p, l :: held⟩ } := if_pos hfree
      have hnext : Continues p (.acquire l p) := rfl
      rw [hmoved]
      exact cutExpand_set hi hnext

/-! ## §3. Discipline. -/

section Discipline

variable (allowed : P → σ → Prop) (rank : L → Nat)

/-- The program keeps the discipline, from where it holds the locks `held`. -/
def Disciplined : Prog L σ ι P → List L → Prop
  | .done, held => held = []
  | .act point _ next, held =>
      ∀ s input, (allowed point s → Disciplined (next s input) held) ∧
        (¬ allowed point s → ∃ l ∈ held, ∃ rest, next s input = .acquire l rest)
  | .acquire l next, held => (∀ h ∈ held, rank h < rank l) ∧ Disciplined next (l :: held)
  | .release l next, held => ∃ rest, held = l :: rest ∧ Disciplined next rest

/-- The point of the next action of a task. -/
def LockTask.point? (t : LockTask L σ ι P) : Option P :=
  match t.prog with
  | .act point _ _ => some point
  | _ => none

/-- A task goes on at a point only where that is allowed. -/
def Guarded (sys : TaskSystem L σ ι P) : TaskTurn O ι → Prop
  | .start _ => True
  | .step i _ => ∀ t ∈ sys.tasks[i]?, ∀ point ∈ t.point?, allowed point sys.shared

/-- All tasks keep the discipline. -/
def Orderly (sys : TaskSystem L σ ι P) : Prop :=
  ∀ t ∈ sys.tasks, Disciplined allowed rank t.prog t.held

variable {allowed rank}

theorem not_selfWaits [DecidableEq L] {t : LockTask L σ ι P}
    (h : Disciplined allowed rank t.prog t.held) : t.selfWaits = false := by
  obtain ⟨prog, held⟩ := t
  unfold LockTask.selfWaits
  cases prog with
  | done => rfl
  | act point effect next => rfl
  | release l next => rfl
  | acquire l next =>
      -- every lock that is held has a lower rank
      have hrank : ∀ h ∈ held, rank h < rank l := h.1
      show held.contains l = false
      rw [List.contains_eq_mem, decide_eq_false_iff_not]
      intro hmem
      exact absurd (hrank l hmem) (Nat.lt_irrefl _)

theorem Orderly.set {sys : TaskSystem L σ ι P} (h : Orderly allowed rank sys) {i : Nat}
    {t : LockTask L σ ι P} (ht : Disciplined allowed rank t.prog t.held) (shared : σ) :
    Orderly allowed rank { tasks := sys.tasks.set i t, shared } := by
  intro t' ht'
  rcases List.mem_or_eq_of_mem_set ht' with hold | rfl
  · exact h t' hold
  · exact ht

variable [DecidableEq L]

/-- **ONE STEP.** -/
theorem orderly_exec {program : O → Prog L σ ι P}
    (hprogram : ∀ op, Disciplined allowed rank (program op) []) (sys : TaskSystem L σ ι P)
    (turn : TaskTurn O ι) (h : Orderly allowed rank sys) (hguard : Guarded allowed sys turn) :
    Orderly allowed rank (sys.exec program turn) := by
  cases turn with
  | start op =>
      intro t ht
      rcases List.mem_append.mp ht with ht | ht
      · exact h t ht
      · rw [List.mem_singleton.mp ht]
        exact hprogram op
  | step i input =>
      show Orderly allowed rank (match sys.tasks[i]? with
        | none => sys
        | some t => sys.move i t input)
      cases hi : sys.tasks[i]? with
      | none => exact h
      | some t =>
          have ht := h t (List.mem_of_getElem? hi)
          obtain ⟨prog, held⟩ := t
          cases prog with
          | done => exact h
          | act point effect next =>
              -- the only case in which the guard is needed
              have hallowed : allowed point sys.shared := hguard _ hi point rfl
              exact h.set ((ht sys.shared input).1 hallowed) _
          | acquire l next =>
              show Orderly allowed rank (if sys.free l then _ else sys)
              split
              next => exact h.set ht.2 _
              next => exact h
          | release l next =>
              obtain ⟨rest, hheld, hnext⟩ := ht
              have hheld : held = l :: rest := hheld
              refine h.set ?_ _
              -- the lock that is released is the one requested last
              show Disciplined allowed rank next (held.erase l)
              rw [hheld, List.erase_cons_head]
              exact hnext

/-- A task that goes on where it is not allowed to waits for itself. -/
theorem exec_selfWaits (program : O → Prog L σ ι P) {sys : TaskSystem L σ ι P}
    {turn : TaskTurn O ι} (h : Orderly allowed rank sys) (hguard : ¬ Guarded allowed sys turn) :
    ∃ t ∈ (sys.exec program turn).tasks, t.selfWaits = true := by
  cases turn with
  | start op => exact absurd trivial hguard
  | step i input =>
      have hbroken : ∃ t, sys.tasks[i]? = some t ∧ ∃ point, t.point? = some point ∧
          ¬ allowed point sys.shared := by
        by_contra hnone
        refine hguard (fun t ht point hpoint => ?_)
        by_contra hno
        exact hnone ⟨t, ht, point, hpoint, hno⟩
      obtain ⟨t, hi, point, hpoint, hno⟩ := hbroken
      have ht := h t (List.mem_of_getElem? hi)
      obtain ⟨prog, held⟩ := t
      cases prog with
      | done => exact absurd hpoint (by simp [LockTask.point?])
      | acquire l next => exact absurd hpoint (by simp [LockTask.point?])
      | release l next => exact absurd hpoint (by simp [LockTask.point?])
      | act point' effect next =>
          obtain rfl : point' = point := Option.some.inj hpoint
          -- out of order, the action is followed by a lock that the task holds
          obtain ⟨l, hl, rest, hnext⟩ := (ht sys.shared input).2 hno
          have hlt : i < sys.tasks.length := (List.getElem?_eq_some_iff.mp hi).1
          refine ⟨⟨next sys.shared input, held⟩, ?_, ?_⟩
          · show _ ∈ (match sys.tasks[i]? with
              | none => sys
              | some t => sys.move i t input).tasks
            rw [hi]
            exact List.mem_set hlt _
          · show (match next sys.shared input with
              | .acquire l _ => held.contains l
              | _ => false) = true
            rw [hnext]
            exact List.contains_iff_mem.mpr hl

theorem exists_holder {sys : TaskSystem L σ ι P} {l : L} (h : sys.free l = false) :
    ∃ t ∈ sys.tasks, l ∈ t.held := by
  by_contra hnone
  have hfree : sys.free l = true := by
    refine List.all_eq_true.mpr (fun t ht => ?_)
    have hl : l ∉ t.held := fun hl => hnone ⟨t, ht, hl⟩
    simpa using hl
  rw [hfree] at h
  exact Bool.noConfusion h

/-- **SOMEBODY CAN GO ON**: along the tasks that wait for each other the ranks rise. -/
theorem can_move_of_orderly {sys : TaskSystem L σ ι P} (h : Orderly allowed rank sys) {n : Nat}
    (hrank : ∀ l, rank l ≤ n) :
    (∃ t ∈ sys.tasks, t.ended = false) → ∃ t ∈ sys.tasks, t.canMove sys = true := by
  -- a task that holds a lock: the induction is on how far its rank is from the highest
  have hholder : ∀ k l, n - rank l < k → (∃ t ∈ sys.tasks, l ∈ t.held) →
      ∃ t ∈ sys.tasks, t.canMove sys = true := by
    intro k
    induction k with
    | zero => exact fun l hk => absurd hk (Nat.not_lt_zero _)
    | succ k ih =>
        rintro l hk ⟨t, ht, hl⟩
        have hdisc := h t ht
        obtain ⟨prog, held⟩ := t
        cases prog with
        | done =>
            -- a task that has ended holds nothing
            have hnil : held = [] := hdisc
            rw [hnil] at hl
            exact absurd hl List.not_mem_nil
        | act point effect next => exact ⟨_, ht, rfl⟩
        | release l' next => exact ⟨_, ht, rfl⟩
        | acquire l' next =>
            cases hfree : sys.free l' with
            | true => exact ⟨_, ht, hfree⟩
            | false =>
                have hlt : rank l < rank l' := hdisc.1 l hl
                have hle : rank l' ≤ n := hrank l'
                exact ih l' (by omega) (exists_holder hfree)
  rintro ⟨t, ht, hended⟩
  obtain ⟨prog, held⟩ := t
  cases prog with
  | done => exact absurd hended (by simp [LockTask.ended])
  | act point effect next => exact ⟨_, ht, rfl⟩
  | release l next => exact ⟨_, ht, rfl⟩
  | acquire l next =>
      cases hfree : sys.free l with
      | true => exact ⟨_, ht, hfree⟩
      | false => exact hholder _ l (Nat.lt_succ_self _) (exists_holder hfree)

theorem calm_of_orderly {sys : TaskSystem L σ ι P} (h : Orderly allowed rank sys) {n : Nat}
    (hrank : ∀ l, rank l ≤ n) : Calm sys where
  noSelfWait := fun t ht => not_selfWaits (h t ht)
  goesOn := can_move_of_orderly h hrank
  ends := moves_wellFounded.apply sys

/-- **THE CALM RUNS.** -/
theorem calm_iff {program : O → Prog L σ ι P}
    (hprogram : ∀ op, Disciplined allowed rank (program op) []) {n : Nat}
    (hrank : ∀ l, rank l ≤ n) (shared : σ) (turns : List (TaskTurn O ι)) :
    Always (TaskSystem.exec program) Calm { shared } turns ↔
      Along (TaskSystem.exec program) (Guarded allowed) { shared } turns := by
  have hstart : Orderly allowed rank ({ shared } : TaskSystem L σ ι P) :=
    fun t ht => absurd ht List.not_mem_nil
  have hstep : ∀ (sys : TaskSystem L σ ι P) (turn : TaskTurn O ι), True →
      Orderly allowed rank sys → Guarded allowed sys turn →
      Orderly allowed rank (sys.exec program turn) :=
    fun sys turn _ => orderly_exec hprogram sys turn
  have hcalm : ∀ sys : TaskSystem L σ ι P, Orderly allowed rank sys → Calm sys :=
    fun sys h => calm_of_orderly h hrank
  refine always_iff_along (L := fun _ => True) hstep hcalm ?_ (fun _ _ => trivial) hstart
  intro sys turn _ h hguard hcalm
  obtain ⟨t, ht, hwaits⟩ := exec_selfWaits program h hguard
  rw [hcalm.noSelfWait t ht] at hwaits
  exact Bool.noConfusion hwaits

end Discipline

end PureBoot.Lib
