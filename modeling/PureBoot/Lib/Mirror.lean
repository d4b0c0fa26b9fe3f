/-
  PureBoot.Lib.Mirror — ONE LIST OF ROWS in two tables.

  Two tables show the same things, each in its own form, under the same keys.  What is done
  to both of them alike leaves them so.
-/
import PureBoot.Lib.Table

namespace PureBoot.Lib

variable {α ρ ρ' κ : Type*} {key : ρ → κ} {key' : ρ' → κ} {f : α → ρ} {g : α → ρ'}

/-- Both tables show one list, row by row. -/
def Mirrors (f : α → ρ) (g : α → ρ') (t : Table key) (t' : Table key') : Prop :=
  ∃ l : List α, t.rows = l.map f ∧ t'.rows = l.map g

/-- What is selected by a row is selected by what it shows. -/
theorem filter_map_of {p : ρ → Bool} {q : α → Bool} (h : ∀ a, p (f a) = q a) (l : List α) :
    (l.map f).filter p = (l.filter q).map f := by
  rw [List.filter_map]
  congr 1
  exact List.filter_congr (fun a _ => h a)

namespace Mirrors

variable {t : Table key} {t' : Table key'}

theorem empty : Mirrors f g (Table.empty : Table key) (Table.empty : Table key') :=
  ⟨[], rfl, rfl⟩

/-- The same rows are deleted. -/
theorem delete (h : Mirrors f g t t') {p : ρ → Bool} {q : ρ' → Bool}
    (hpq : ∀ a, p (f a) = q (g a)) : Mirrors f g (t.delete p) (t'.delete q) := by
  obtain ⟨l, hl, hl'⟩ := h
  refine ⟨l.filter (fun a => !p (f a)), ?_, ?_⟩
  · show t.rows.filter _ = _
    rw [hl]
    exact filter_map_of (fun _ => rfl) l
  · show t'.rows.filter _ = _
    rw [hl']
    exact filter_map_of (fun a => by rw [hpq a]) l

/-- The same change is made to all rows. -/
theorem update (h : Mirrors f g t t') {u : ρ → ρ} {u' : ρ' → ρ'} (hu : ∀ r, key (u r) = key r)
    (hu' : ∀ r, key' (u' r) = key' r) (change : α → α)
    (hf : ∀ a, u (f a) = f (change a)) (hg : ∀ a, u' (g a) = g (change a)) :
    Mirrors f g (t.update u hu) (t'.update u' hu') := by
  obtain ⟨l, hl, hl'⟩ := h
  refine ⟨l.map change, ?_, ?_⟩
  · show t.rows.map u = _
    rw [hl, List.map_map, List.map_map]
    exact List.map_congr_left (fun a _ => hf a)
  · show t'.rows.map u' = _
    rw [hl', List.map_map, List.map_map]
    exact List.map_congr_left (fun a _ => hg a)

/-- What is asked of all rows is answered by both. -/
theorem any (h : Mirrors f g t t') {p : ρ → Bool} {q : ρ' → Bool} (hpq : ∀ a, p (f a) = q (g a)) :
    t.rows.any p = t'.rows.any q := by
  obtain ⟨l, hl, hl'⟩ := h
  rw [hl, hl', List.any_map, List.any_map]
  congr 1
  exact funext hpq

variable [DecidableEq κ]

/-- A lookup finds the two forms of one thing, or nothing. -/
theorem get? (h : Mirrors f g t t') (hkey : ∀ a, key (f a) = key' (g a)) (k : κ) :
    ∃ found : Option α, t.get? k = found.map f ∧ t'.get? k = found.map g := by
  obtain ⟨l, hl, hl'⟩ := h
  refine ⟨l.find? (fun a => key (f a) = k), ?_, ?_⟩
  · unfold Table.get?
    rw [hl, List.find?_map]
    rfl
  · unfold Table.get?
    rw [hl', List.find?_map]
    congr 1
    congr 1
    exact funext (fun a => by rw [hkey a]; rfl)

/-- A row is put in the place of the one with its key. -/
theorem put (h : Mirrors f g t t') (hkey : ∀ a, key (f a) = key' (g a)) (a : α) :
    Mirrors f g (t.put (f a)) (t'.put (g a)) := by
  obtain ⟨l, hl, hl'⟩ := h
  refine ⟨l.map (fun b => if key (f b) = key (f a) then a else b), ?_, ?_⟩
  · show t.rows.map _ = _
    rw [hl, List.map_map, List.map_map]
    exact List.map_congr_left (fun b _ => (apply_ite f _ _ _).symm)
  · show t'.rows.map _ = _
    rw [hl', List.map_map, List.map_map]
    refine List.map_congr_left (fun b _ => ?_)
    simp only [Function.comp_apply, ← hkey]
    exact (apply_ite g _ _ _).symm

/-- A row is inserted into both tables, or into none. -/
theorem insert? (h : Mirrors f g t t') (hkey : ∀ a, key (f a) = key' (g a)) (a : α) :
    Mirrors f g ((t.insert? (f a)).getD t) ((t'.insert? (g a)).getD t') := by
  obtain ⟨l, hl, hl'⟩ := h
  have hkeys : t.rows.map key = t'.rows.map key' := by
    rw [hl, hl', List.map_map, List.map_map]
    exact List.map_congr_left (fun b _ => hkey b)
  by_cases hused : key (f a) ∈ t.rows.map key
  · have hused' : key' (g a) ∈ t'.rows.map key' := by
      rwa [← hkey, ← hkeys]
    unfold Table.insert?
    rw [dif_pos hused, dif_pos hused']
    exact ⟨l, hl, hl'⟩
  · have hused' : key' (g a) ∉ t'.rows.map key' := by
      rwa [← hkey, ← hkeys]
    unfold Table.insert?
    rw [dif_neg hused, dif_neg hused']
    refine ⟨l ++ [a], ?_, ?_⟩
    · show t.rows ++ [f a] = _
      rw [hl, List.map_append, List.map_singleton]
    · show t'.rows ++ [g a] = _
      rw [hl', List.map_append, List.map_singleton]

/-- A row takes the place of the one with its key. -/
theorem upsert (h : Mirrors f g t t') (hkey : ∀ a, key (f a) = key' (g a)) (a : α) :
    Mirrors f g (t.upsert (f a)) (t'.upsert (g a)) := by
  have hsame : ∀ b, decide (key (f b) = key (f a)) = decide (key' (g b) = key' (g a)) := by
    intro b
    rw [hkey, hkey]
  obtain ⟨l, hl, hl'⟩ := h.delete (p := fun x => key x = key (f a))
    (q := fun x => key' x = key' (g a)) hsame
  refine ⟨l ++ [a], ?_, ?_⟩
  · show (t.delete _).rows ++ [f a] = _
    rw [hl, List.map_append, List.map_singleton]
  · show (t'.delete _).rows ++ [g a] = _
    rw [hl', List.map_append, List.map_singleton]

end Mirrors

/-- What is written and read back, row by row. -/
theorem mapM_map_eq_some {read : ρ → Option α} (h : ∀ a, read (f a) = some a) (l : List α) :
    (l.map f).mapM read = some l := by
  induction l with
  | nil => rfl
  | cons a l ih =>
      rw [List.map_cons, List.mapM_cons, h a, ih]
      rfl

end PureBoot.Lib
