/-
  PureBoot.Lib.Unique — a database table with a SECOND UNIQUE COLUMN.

  `UniqueTable key col` is a table no two rows of which have the same `col` (a `UNIQUE`
  constraint beside the primary key).  A row that breaks one of the two is refused when it
  is inserted, and when a row is overwritten by it; `none` is the integrity error.
-/
import PureBoot.Lib.Table

namespace PureBoot.Lib

variable {ρ κ γ : Type*}

/-- A table, pairwise different also in this column. -/
structure UniqueTable (key : ρ → κ) (col : ρ → γ) where
  table : Table key
  unique : (table.rows.map col).Nodup

namespace UniqueTable

variable {key : ρ → κ} {col : ρ → γ}

/-- The rows, in insertion order. -/
def rows (t : UniqueTable key col) : List ρ := t.table.rows

/-- The table without rows. -/
def empty : UniqueTable key col := ⟨Table.empty, List.nodup_nil⟩

@[simp] theorem empty_rows : (empty : UniqueTable key col).rows = [] := rfl

@[ext] theorem ext {t t' : UniqueTable key col} (h : t.rows = t'.rows) : t = t' := by
  cases t
  cases t'
  have htable := Table.ext h
  dsimp only at htable
  subst htable
  rfl

/-- Delete the rows that satisfy `p`. -/
def delete (t : UniqueTable key col) (p : ρ → Bool) : UniqueTable key col where
  table := t.table.delete p
  unique := t.unique.sublist (List.filter_sublist.map col)

theorem delete_rows (t : UniqueTable key col) (p : ρ → Bool) :
    (t.delete p).rows = t.rows.filter (fun r => !p r) := rfl

variable [DecidableEq κ] [DecidableEq γ]

/-- Append a row. -/
def insert? (t : UniqueTable key col) (r : ρ) : Option (UniqueTable key col) :=
  match h : t.table.insert? r with
  | none => none
  | some table =>
      if hc : col r ∈ t.table.rows.map col then none
      else some ⟨table, by
        rw [(Table.insert?_eq_some_iff.mp h).2, List.map_append, List.map_singleton,
          List.nodup_append]
        refine ⟨t.unique, List.nodup_singleton _, ?_⟩
        intro a ha b hb
        rw [List.mem_singleton] at hb
        rintro rfl
        exact hc (hb ▸ ha)⟩

theorem insert?_table {t t' : UniqueTable key col} {r : ρ} (h : t.insert? r = some t') :
    t.table.insert? r = some t'.table := by
  unfold insert? at h
  split at h
  next => cases h
  next table hinsert =>
    split at h
    next => cases h
    next =>
      obtain rfl := Option.some.inj h
      exact hinsert

theorem insert?_rows {t t' : UniqueTable key col} {r : ρ} (h : t.insert? r = some t') :
    t'.rows = t.rows ++ [r] :=
  (Table.insert?_eq_some_iff.mp (insert?_table h)).2

/-- The rows that are put after the others, one by one. -/
def insertAll? (t : UniqueTable key col) (rs : List ρ) : Option (UniqueTable key col) :=
  rs.foldlM insert? t

theorem insertAll?_rows {t t' : UniqueTable key col} {rs : List ρ}
    (h : t.insertAll? rs = some t') : t'.rows = t.rows ++ rs := by
  induction rs generalizing t with
  | nil =>
      obtain rfl := Option.some.inj h
      rw [List.append_nil]
  | cons r rs ih =>
      obtain ⟨t₁, hfirst, hrest⟩ := Option.bind_eq_some_iff.mp h
      rw [ih hrest, insert?_rows hfirst, List.append_assoc]
      rfl

/-- Overwrite the row that has the key of `r`. -/
def save? (t : UniqueTable key col) (r : ρ) : Option (UniqueTable key col) :=
  if h : ∃ x ∈ t.table.rows, key x ≠ key r ∧ col x = col r then none
  else some ⟨t.table.put r, by
    have hnew : ∀ x ∈ t.table.rows, key x ≠ key r → col x ≠ col r :=
      fun x hx hne hcol => h ⟨x, hx, hne, hcol⟩
    refine List.Nodup.map_on ?_ (t.table.put r).rows_nodup
    -- two rows with the same `col` are both old, or both the new one
    intro x hx y hy hcol
    obtain ⟨x', hx', rfl⟩ := List.mem_map.mp hx
    obtain ⟨y', hy', rfl⟩ := List.mem_map.mp hy
    by_cases hkx : key x' = key r <;> by_cases hky : key y' = key r
    · rw [if_pos hkx, if_pos hky]
    · rw [if_pos hkx, if_neg hky] at hcol
      exact absurd hcol.symm (hnew y' hy' hky)
    · rw [if_neg hkx, if_pos hky] at hcol
      exact absurd hcol (hnew x' hx' hkx)
    · rw [if_neg hkx, if_neg hky] at hcol ⊢
      exact List.inj_on_of_nodup_map t.unique hx' hy' hcol⟩

theorem save?_rows {t t' : UniqueTable key col} {r : ρ} (h : t.save? r = some t') :
    t'.rows = (t.table.put r).rows := by
  unfold save? at h
  split at h
  next => cases h
  next => rw [← Option.some.inj h]; rfl

/-- No key is lost. -/
theorem exists_key_save? {t t' : UniqueTable key col} {r : ρ} (h : t.save? r = some t') {k : κ}
    (hk : ∃ x ∈ t.rows, key x = k) : ∃ x ∈ t'.rows, key x = k := by
  obtain ⟨x, hx, rfl⟩ := hk
  rw [save?_rows h]
  by_cases hr : key x = key r
  · exact ⟨r, Table.mem_put_self hx hr, hr.symm⟩
  · exact ⟨x, Table.mem_put_of_ne hx hr, rfl⟩

/-- A row that is overwritten by one with a value of its own leaves the column unique. -/
theorem nodup_put {t : Table key} {r : ρ} (hunique : (t.rows.map col).Nodup)
    (hnew : ∀ x ∈ t.rows, key x ≠ key r → col x ≠ col r) : ((t.put r).rows.map col).Nodup := by
  have hfree : ¬ ∃ x ∈ t.rows, key x ≠ key r ∧ col x = col r :=
    fun ⟨x, hx, hne, hcol⟩ => hnew x hx hne hcol
  have hsave : ∃ t', (⟨t, hunique⟩ : UniqueTable key col).save? r = some t' := by
    unfold save?
    rw [dif_neg hfree]
    exact ⟨_, rfl⟩
  obtain ⟨t', hsave⟩ := hsave
  rw [← save?_rows hsave]
  exact t'.unique

end UniqueTable

end PureBoot.Lib
