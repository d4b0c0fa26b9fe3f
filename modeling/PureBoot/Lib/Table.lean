/-
  PureBoot.Lib.Table — a database table whose PRIMARY KEY is part of its type.

  `Table key` is a list of rows in insertion order together with the proof that
  no two rows have the same key, so a table with a duplicate key cannot be
  built: `insert?` refuses such a row (the database's integrity error), `put`
  overwrites the row with the same key, and `update`, `delete` are the bulk
  forms.  The lemmas say what each operation does to membership and to a lookup
  by key; nothing above this file unfolds an operation.
-/
import Mathlib.Algebra.GroupWithZero.Nat
import Mathlib.Algebra.Order.BigOperators.Group.List
import Mathlib.Algebra.Order.Group.Nat
import Mathlib.Data.List.Nodup
import Mathlib.Tactic.Common

namespace PureBoot.Lib

variable {ρ κ : Type*}

/-- Rows in insertion order, pairwise different in their key. -/
structure Table (key : ρ → κ) where
  rows : List ρ
  nodup : (rows.map key).Nodup

namespace Table

variable {key : ρ → κ}

@[ext] theorem ext {t t' : Table key} (h : t.rows = t'.rows) : t = t' := by
  cases t; cases t'; cases h; rfl

instance [DecidableEq ρ] : DecidableEq (Table key) := fun t t' =>
  decidable_of_iff (t.rows = t'.rows) ⟨ext, fun h => h ▸ rfl⟩

/-- The table without rows. -/
def empty : Table key := ⟨[], List.nodup_nil⟩

@[simp] theorem empty_rows : (empty : Table key).rows = [] := rfl

/-- Rows with the same key are the same row. -/
theorem eq_of_key_eq (t : Table key) {r r' : ρ} (h : r ∈ t.rows) (h' : r' ∈ t.rows)
    (hk : key r = key r') : r = r' :=
  List.inj_on_of_nodup_map t.nodup h h' hk

/-- What is asked of the rows with the key of one is asked of that one. -/
theorem forall_key_iff {t : Table key} {r : ρ} {P : ρ → Prop} (hr : r ∈ t.rows) :
    (∀ x ∈ t.rows, key x = key r → P x) ↔ P r := by
  constructor
  · intro h
    exact h r hr rfl
  · intro hP x hx hk
    rw [t.eq_of_key_eq hx hr hk]
    exact hP

/-- Among values that are pairwise different, those of one row are its own. -/
theorem filter_eq_singleton {α β : Type*} [DecidableEq β] {f : α → β} {l : List α} {x : α}
    (h : (l.map f).Nodup) (hx : x ∈ l) : l.filter (fun y => f y = f x) = [x] := by
  obtain ⟨before, after, rfl⟩ := List.append_of_mem hx
  rw [List.map_append, List.map_cons, List.nodup_append, List.nodup_cons] at h
  obtain ⟨-, ⟨hafter, -⟩, hbefore⟩ := h
  have hnone : ∀ l' : List α, (∀ y ∈ l', f y ≠ f x) →
      l'.filter (fun y => f y = f x) = [] := by
    intro l' hne
    rw [List.filter_eq_nil_iff]
    exact fun y hy => by simpa using hne y hy
  have hb : before.filter (fun y => f y = f x) = [] :=
    hnone before (fun y hy => hbefore (f y) (List.mem_map.mpr ⟨y, hy, rfl⟩) (f x)
      List.mem_cons_self)
  have ha : after.filter (fun y => f y = f x) = [] :=
    hnone after (fun y hy heq => hafter (List.mem_map.mpr ⟨y, hy, heq⟩))
  rw [List.filter_append, List.filter_cons, if_pos (decide_eq_true rfl), hb, ha,
    List.nil_append]

/-- Pairs are distinct exactly if the second parts are under each first part. -/
theorem nodup_pairs_iff {α β γ : Type*} [DecidableEq β] {f : α → β} {g : α → γ} {l : List α} :
    (l.map (fun x => (f x, g x))).Nodup ↔ ∀ b, ((l.filter (fun x => f x = b)).map g).Nodup := by
  constructor
  · intro h b
    refine List.Nodup.of_map (fun y => (b, y)) ?_
    rw [List.map_map, List.map_congr_left (g := fun x => (f x, g x))]
    · exact h.sublist (List.filter_sublist.map _)
    · intro x hx
      obtain rfl := of_decide_eq_true (List.mem_filter.mp hx).2
      rfl
  · intro h
    refine List.pairwise_map.mpr (List.pairwise_iff_forall_sublist.mpr ?_)
    intro x y hsub heq
    obtain ⟨hf, hg⟩ := Prod.mk.inj heq
    have hpair : [x, y].filter (fun z => f z = f y) = [x, y] := by
      simp [hf]
    have hnodup := (h (f y)).sublist ((hpair ▸ hsub.filter _).map g)
    exact (List.nodup_cons.mp hnodup).1 (hg ▸ List.mem_cons_self)

theorem rows_nodup (t : Table key) : t.rows.Nodup :=
  t.nodup.of_map key

/-! ## §1. Bulk operations. -/

/-- Rewrite every row, leaving its key alone. -/
def update (t : Table key) (f : ρ → ρ) (hf : ∀ r, key (f r) = key r) : Table key where
  rows := t.rows.map f
  nodup := by
    have hkey : (t.rows.map f).map key = t.rows.map key := by
      rw [List.map_map]
      exact List.map_congr_left (fun r _ => hf r)
    rw [hkey]
    exact t.nodup

@[simp] theorem mem_update {t : Table key} {f : ρ → ρ} {hf : ∀ r, key (f r) = key r} {x : ρ} :
    x ∈ (t.update f hf).rows ↔ ∃ r ∈ t.rows, f r = x := by
  simp [update]

/-- The rows as another table shows them, under the same keys. -/
def view {ρ' : Type*} {key' : ρ' → κ} (t : Table key) (f : ρ → ρ') (hf : ∀ r, key' (f r) = key r) :
    Table key' where
  rows := t.rows.map f
  nodup := by
    have hkey : (t.rows.map f).map key' = t.rows.map key := by
      rw [List.map_map]
      exact List.map_congr_left (fun r _ => hf r)
    rw [hkey]
    exact t.nodup

/-- Rewriting rows leaves the keys in use as they are. -/
theorem exists_key_update {t : Table key} {f : ρ → ρ} {hf : ∀ r, key (f r) = key r} {k : κ} :
    (∃ r ∈ (t.update f hf).rows, key r = k) ↔ ∃ r ∈ t.rows, key r = k := by
  constructor
  · rintro ⟨x, hx, hk⟩
    obtain ⟨r, hr, rfl⟩ := mem_update.mp hx
    exact ⟨r, hr, (hf r).symm.trans hk⟩
  · rintro ⟨r, hr, hk⟩
    exact ⟨f r, mem_update.mpr ⟨r, hr, rfl⟩, (hf r).trans hk⟩

section UpdateM

variable {ε : Type*} {f : ρ → Except ε ρ}

theorem mapM_cons_ok {α β : Type*} {g : α → Except ε β} {r : α} {rs : List α} {rs' : List β}
    (h : (r :: rs).mapM g = .ok rs') :
    ∃ r₁ rs₁, g r = .ok r₁ ∧ rs.mapM g = .ok rs₁ ∧ rs' = r₁ :: rs₁ := by
  rw [List.mapM_cons] at h
  cases hg : g r with
  | error e => rw [hg] at h; cases h
  | ok r₁ =>
      cases hm : rs.mapM g with
      | error e => rw [hg, hm] at h; cases h
      | ok rs₁ =>
          rw [hg, hm] at h
          injection h with h
          exact ⟨r₁, rs₁, rfl, rfl, h.symm⟩

theorem keys_of_mapM_ok (hf : ∀ r r', f r = .ok r' → key r' = key r) :
    ∀ {rs rs' : List ρ}, rs.mapM f = .ok rs' → rs'.map key = rs.map key
  | [], rs', h => by
      injection h with h
      rw [← h]
      rfl
  | r :: rs, rs', h => by
      obtain ⟨r₁, rs₁, hr, hrs, rfl⟩ := mapM_cons_ok h
      rw [List.map_cons, List.map_cons, hf r r₁ hr, keys_of_mapM_ok hf hrs]

/-- Rewrite every row by a step that may fail; the first failure is the answer. -/
def updateM (t : Table key) (f : ρ → Except ε ρ)
    (hf : ∀ r r', f r = .ok r' → key r' = key r) : Except ε (Table key) :=
  match h : t.rows.mapM f with
  | .ok rows => .ok ⟨rows, by rw [keys_of_mapM_ok hf h]; exact t.nodup⟩
  | .error e => .error e

theorem mem_of_mapM_ok {α β : Type*} {g : α → Except ε β} :
    ∀ {rs : List α} {rs' : List β}, rs.mapM g = .ok rs' →
      (∀ r ∈ rs, ∃ r' ∈ rs', g r = .ok r') ∧ (∀ r' ∈ rs', ∃ r ∈ rs, g r = .ok r')
  | [], rs', h => by
      injection h with h
      subst h
      simp
  | r :: rs, rs', h => by
      obtain ⟨r₁, rs₁, hr, hrs, rfl⟩ := mapM_cons_ok h
      obtain ⟨hfwd, hbwd⟩ := mem_of_mapM_ok hrs
      simp only [List.forall_mem_cons, List.exists_mem_cons_iff]
      exact ⟨⟨.inl hr, fun x hx => .inr (hfwd x hx)⟩, ⟨.inl hr, fun x hx => .inr (hbwd x hx)⟩⟩

/-- Each row went to a row of the result and each row of the result came from one. -/
theorem updateM_eq_ok {t t' : Table key} {hf : ∀ r r', f r = .ok r' → key r' = key r}
    (h : t.updateM f hf = .ok t') :
    (∀ r ∈ t.rows, ∃ r' ∈ t'.rows, f r = .ok r')
      ∧ (∀ r' ∈ t'.rows, ∃ r ∈ t.rows, f r = .ok r') := by
  unfold updateM at h
  split at h
  next rows hm =>
    injection h with h
    subst h
    exact mem_of_mapM_ok hm
  next => cases h

end UpdateM

/-- Delete the rows that satisfy `p`. -/
def delete (t : Table key) (p : ρ → Bool) : Table key where
  rows := t.rows.filter (fun r => !p r)
  nodup := t.nodup.sublist (List.filter_sublist.map key)

@[simp] theorem mem_delete {t : Table key} {p : ρ → Bool} {x : ρ} :
    x ∈ (t.delete p).rows ↔ x ∈ t.rows ∧ p x = false := by
  simp [delete]

section Total

/-- The sum of a weight over the rows. -/
def total (t : Table key) (w : ρ → Nat) : Nat := (t.rows.map w).sum

variable {w w' : ρ → Nat} {x : ρ}

theorem sum_add_one : ∀ {rows : List ρ}, (rows.map key).Nodup → x ∈ rows →
    (∀ r ∈ rows, key r ≠ key x → w' r = w r) →
    (rows.map w').sum + w x = (rows.map w).sum + w' x := by
  intro rows
  induction rows with
  | nil => intro _ hx; cases hx
  | cons r rows ih =>
      intro hnodup hx hw
      rw [List.map_cons, List.nodup_cons] at hnodup
      have hrest : ∀ y ∈ rows, key y ≠ key x → w' y = w y :=
        fun y hy => hw y (List.mem_cons_of_mem r hy)
      simp only [List.map_cons, List.sum_cons]
      rcases List.mem_cons.mp hx with rfl | hx
      · -- the row is the first one: the others have other keys
        have hsame : rows.map w' = rows.map w := by
          refine List.map_congr_left (fun y hy => hrest y hy ?_)
          intro hk
          exact hnodup.1 (List.mem_map.mpr ⟨y, hy, hk⟩)
        rw [hsame]
        omega
      · have hne : key r ≠ key x := by
          intro hk
          exact hnodup.1 (List.mem_map.mpr ⟨x, hx, hk.symm⟩)
        have hr : w' r = w r := hw r List.mem_cons_self hne
        have hsum := ih hnodup.2 hx hrest
        omega

/-- Rewriting one row moves the total by what that row weighs. -/
theorem total_update_one {t : Table key} {f : ρ → ρ} {hf : ∀ r, key (f r) = key r}
    (hx : x ∈ t.rows) (hother : ∀ r ∈ t.rows, key r ≠ key x → f r = r) :
    (t.update f hf).total w + w x = t.total w + w (f x) := by
  have hmap : (t.update f hf).total w = (t.rows.map (w ∘ f)).sum := by
    simp [total, update]
  rw [hmap]
  refine sum_add_one t.nodup hx ?_
  intro r hr hne
  exact congrArg w (hother r hr hne)

/-- Where one row weighs something, the total is what it weighs. -/
theorem total_eq_one {t : Table key} (hx : x ∈ t.rows)
    (hother : ∀ r ∈ t.rows, key r ≠ key x → w r = 0) : t.total w = w x := by
  have hsum : (t.rows.map (fun _ => 0)).sum + w x = (t.rows.map w).sum + 0 :=
    sum_add_one t.nodup hx (fun r hr hne => (hother r hr hne).symm)
  have hzero : (t.rows.map (fun _ => 0)).sum = 0 := by
    simp
  show (t.rows.map w).sum = w x
  omega

/-- Deleting rows does not raise the total. -/
theorem total_delete_le (t : Table key) (p : ρ → Bool) : (t.delete p).total w ≤ t.total w :=
  (List.filter_sublist.map w).sum_le_sum (fun _ _ => Nat.zero_le _)

theorem total_delete_one [DecidableEq κ] {t : Table key} (hx : x ∈ t.rows) :
    (t.delete (fun r => key r = key x)).total w + w x = t.total w := by
  show ((t.rows.filter (fun r => !decide (key r = key x))).map w).sum + w x = (t.rows.map w).sum
  have hzero : (t.rows.map (fun r => if key r = key x then 0 else w r)).sum + w x
      = (t.rows.map w).sum + 0 := by
    have hone : (t.rows.map (fun r => if key r = key x then 0 else w r)).sum + w x
        = (t.rows.map w).sum + (if key x = key x then 0 else w x) :=
      sum_add_one t.nodup hx (fun r _ hne => if_neg hne)
    rwa [if_pos rfl] at hone
  rw [← Nat.add_zero (t.rows.map w).sum, ← hzero]
  congr 1
  induction t.rows with
  | nil => rfl
  | cons r rows ih =>
      by_cases hkey : key r = key x
      · rw [List.filter_cons_of_neg (by simp [hkey]), List.map_cons, List.sum_cons, if_pos hkey,
          Nat.zero_add]
        exact ih
      · rw [List.filter_cons_of_pos (by simp [hkey]), List.map_cons, List.map_cons, List.sum_cons,
          List.sum_cons, if_neg hkey, ih]

/-- A row and the others. -/
theorem rows_perm_delete [DecidableEq κ] {t : Table key} (hx : x ∈ t.rows) :
    t.rows.Perm (x :: (t.delete (fun r => key r = key x)).rows) := by
  have hsplit := List.filter_append_perm (fun r => decide (key r = key x)) t.rows
  rw [filter_eq_singleton t.nodup hx] at hsplit
  exact hsplit.symm

end Total

/-! ## §2. Operations by key. -/

section ByKey

variable [DecidableEq κ]

/-- The row with this key, if there is one. -/
def get? (t : Table key) (k : κ) : Option ρ :=
  t.rows.find? (fun r => key r = k)

/-- A lookup by primary key finds a row exactly if the row is there. -/
theorem get?_eq_some_iff {t : Table key} {k : κ} {r : ρ} :
    t.get? k = some r ↔ r ∈ t.rows ∧ key r = k := by
  constructor
  · intro h
    exact ⟨List.mem_of_find?_eq_some h, by simpa using List.find?_some h⟩
  · rintro ⟨hr, hk⟩
    cases hg : t.get? k with
    | none =>
        have := (List.find?_eq_none.mp hg) r hr
        simp [hk] at this
    | some r' =>
        have hr' : r' ∈ t.rows := List.mem_of_find?_eq_some hg
        have hk' : key r' = k := by simpa using List.find?_some hg
        rw [t.eq_of_key_eq hr' hr (hk'.trans hk.symm)]

/-- The rows with one key are what a lookup finds. -/
theorem filter_key_eq (t : Table key) (k : κ) :
    t.rows.filter (fun r => key r = k) = (t.get? k).toList := by
  cases hget : t.get? k with
  | none =>
      rw [List.filter_eq_nil_iff.mpr]
      · rfl
      · exact List.find?_eq_none.mp hget
  | some r =>
      obtain ⟨hr, rfl⟩ := get?_eq_some_iff.mp hget
      exact filter_eq_singleton t.nodup hr

/-- A value that is new repeats none. -/
theorem nodup_map_append_one {α β : Type*} {f : α → β} {l : List α} {x : α}
    (h : (l.map f).Nodup) (hx : f x ∉ l.map f) : ((l ++ [x]).map f).Nodup := by
  rw [List.map_append, List.map_singleton, List.nodup_append]
  refine ⟨h, List.nodup_singleton _, ?_⟩
  intro a ha b hb
  rw [List.mem_singleton] at hb
  rintro rfl
  exact hx (hb ▸ ha)

/-- Append a row; `none` is the integrity error of a primary key already used. -/
def insert? (t : Table key) (r : ρ) : Option (Table key) :=
  if h : key r ∈ t.rows.map key then none
  else some ⟨t.rows ++ [r], nodup_map_append_one t.nodup h⟩

theorem insert?_eq_some_iff {t t' : Table key} {r : ρ} :
    t.insert? r = some t' ↔ (∀ x ∈ t.rows, key x ≠ key r) ∧ t'.rows = t.rows ++ [r] := by
  unfold insert?
  split
  next h =>
    obtain ⟨x, hx, hk⟩ := List.mem_map.mp h
    simp only [false_iff, not_and, reduceCtorEq]
    intro hfresh
    exact absurd hk (hfresh x hx)
  next h =>
    have hfresh : ∀ x ∈ t.rows, key x ≠ key r :=
      fun x hx hk => h (List.mem_map.mpr ⟨x, hx, hk⟩)
    rw [Option.some.injEq]
    constructor
    · rintro rfl
      exact ⟨hfresh, rfl⟩
    · rintro ⟨-, hrows⟩
      exact ext hrows.symm

/-- A row with a new key is appended. -/
theorem exists_insert? {t : Table key} {r : ρ} (h : ∀ x ∈ t.rows, key x ≠ key r) :
    ∃ t', t.insert? r = some t' := by
  have hkey : key r ∉ t.rows.map key := by
    intro hmem
    obtain ⟨x, hx, hk⟩ := List.mem_map.mp hmem
    exact h x hx hk
  unfold insert?
  rw [dif_neg hkey]
  exact ⟨_, rfl⟩

/-- Append rows one after another; `none` if one of their keys is already used then. -/
def insertAll? (t : Table key) (rs : List ρ) : Option (Table key) := rs.foldlM insert? t

/-- Rows with new keys, each once, are appended. -/
theorem insertAll?_of_nodup {rs : List ρ} {t : Table key}
    (h : (t.rows.map key ++ rs.map key).Nodup) :
    ∃ t', t.insertAll? rs = some t' ∧ t'.rows = t.rows ++ rs := by
  induction rs generalizing t with
  | nil => exact ⟨t, rfl, (List.append_nil _).symm⟩
  | cons r rs ih =>
      have hfresh : ∀ x ∈ t.rows, key x ≠ key r := fun x hx =>
        (List.nodup_append.mp h).2.2 (key x) (List.mem_map.mpr ⟨x, hx, rfl⟩) (key r)
          List.mem_cons_self
      obtain ⟨t', hinsert⟩ := exists_insert? hfresh
      have hrows : t'.rows = t.rows ++ [r] := (insert?_eq_some_iff.mp hinsert).2
      have hnodup : (t'.rows.map key ++ rs.map key).Nodup := by
        rw [hrows, List.map_append, List.map_singleton, List.append_assoc]
        exact h
      obtain ⟨t'', hall, hrows'⟩ := ih hnodup
      refine ⟨t'', ?_, ?_⟩
      · unfold insertAll?
        rw [List.foldlM_cons, hinsert]
        exact hall
      · rw [hrows', hrows, List.append_assoc]
        rfl

/-- Rows are appended exactly if their keys are new and pairwise different. -/
theorem insertAll?_eq_some_iff {rs : List ρ} {t t' : Table key} :
    t.insertAll? rs = some t'
      ↔ (t.rows.map key ++ rs.map key).Nodup ∧ t'.rows = t.rows ++ rs := by
  constructor
  · intro h
    have hrows : t'.rows = t.rows ++ rs := by
      induction rs generalizing t with
      | nil =>
          rw [← Option.some.inj h, List.append_nil]
      | cons r rs ih =>
          obtain ⟨t₁, hfirst, hrest⟩ := Option.bind_eq_some_iff.mp h
          rw [ih hrest, (insert?_eq_some_iff.mp hfirst).2, List.append_assoc]
          rfl
    rw [← List.map_append, ← hrows]
    exact ⟨t'.nodup, rfl⟩
  · rintro ⟨hnodup, hrows⟩
    obtain ⟨t₁, hinsert, hrows₁⟩ := insertAll?_of_nodup hnodup
    rw [hinsert, Option.some.injEq]
    exact ext (hrows₁.trans hrows.symm)

/-- Delete the rows with these keys, one after another. -/
def deleteAll (t : Table key) (ks : List κ) : Table key :=
  ks.foldl (fun t k => t.delete (fun x => key x = k)) t

theorem rows_deleteAll (t : Table key) (ks : List κ) :
    (t.deleteAll ks).rows = t.rows.filter (fun x => !ks.any (fun k => key x = k)) := by
  induction ks generalizing t with
  | nil => exact (List.filter_eq_self.mpr (fun _ _ => rfl)).symm
  | cons k ks ih =>
      show ((t.delete (fun x => key x = k)).deleteAll ks).rows = _
      rw [ih]
      show (t.rows.filter _).filter _ = _
      rw [List.filter_filter]
      refine List.filter_congr (fun x _ => ?_)
      rw [List.any_cons, Bool.not_or]
      exact Bool.and_comm _ _

/-- Overwrite the row that has the key of `r`; no row is added. -/
def put (t : Table key) (r : ρ) : Table key where
  rows := t.rows.map (fun x => if key x = key r then r else x)
  nodup := by
    have hkey : (t.rows.map (fun x => if key x = key r then r else x)).map key
        = t.rows.map key := by
      rw [List.map_map]
      refine List.map_congr_left (fun x _ => ?_)
      by_cases hx : key x = key r <;> simp [hx]
    rw [hkey]
    exact t.nodup

/-- A row is overwritten by itself. -/
theorem put_self {t : Table key} {r : ρ} (hr : r ∈ t.rows) : t.put r = t := by
  refine ext ((List.map_congr_left (fun x hx => ?_)).trans (List.map_id t.rows))
  split
  next hk => exact t.eq_of_key_eq hr hx hk.symm
  next => rfl

theorem length_put (t : Table key) (r : ρ) : (t.put r).rows.length = t.rows.length :=
  List.length_map _

theorem mem_put_iff {t : Table key} {r x : ρ} (hr : ∃ y ∈ t.rows, key y = key r) :
    x ∈ (t.put r).rows ↔ x = r ∨ (x ∈ t.rows ∧ key x ≠ key r) := by
  simp only [put, List.mem_map]
  constructor
  · rintro ⟨y, hy, rfl⟩
    by_cases hyk : key y = key r
    · simp [hyk]
    · simp [hyk, hy]
  · rintro (rfl | ⟨hx, hne⟩)
    · obtain ⟨y, hy, hyk⟩ := hr
      exact ⟨y, hy, by simp [hyk]⟩
    · exact ⟨x, hx, by simp [hne]⟩

theorem mem_put_of_ne {t : Table key} {r x : ρ} (h : x ∈ t.rows) (hne : key x ≠ key r) :
    x ∈ (t.put r).rows :=
  List.mem_map.mpr ⟨x, h, by simp [hne]⟩

theorem mem_put_self {t : Table key} {r y : ρ} (hy : y ∈ t.rows) (hk : key y = key r) :
    r ∈ (t.put r).rows :=
  List.mem_map.mpr ⟨y, hy, by simp [hk]⟩

/-- What the new row shares with the old one, the tables share. -/
theorem map_put {β : Type*} {t : Table key} {f : ρ → β} {r x : ρ} (hx : x ∈ t.rows)
    (hk : key r = key x) (hf : f r = f x) : (t.put r).rows.map f = t.rows.map f := by
  unfold put
  rw [List.map_map]
  refine List.map_congr_left (fun y hy => ?_)
  by_cases hy' : key y = key r
  · have hyx : y = x := t.eq_of_key_eq hy hx (hy'.trans hk)
    rw [Function.comp_apply, if_pos hy', hf, hyx]
  · rw [Function.comp_apply, if_neg hy']

/-- Overwriting one row moves the total by what that row weighs. -/
theorem total_put {t : Table key} {w : ρ → Nat} {r x : ρ} (hx : x ∈ t.rows)
    (hk : key r = key x) : (t.put r).total w + w x = t.total w + w r := by
  have hmap : (t.put r).total w
      = (t.rows.map (fun y => w (if key y = key r then r else y))).sum := by
    unfold total put
    rw [List.map_map]
    rfl
  rw [hmap]
  refine (sum_add_one t.nodup hx ?_).trans ?_
  · intro y _ hne
    rw [hk, if_neg hne]
  · rw [if_pos hk.symm]
    rfl

/-- Some row has a property: the given one, or one with another key. -/
theorem exists_mem_iff {t : Table key} {r : ρ} {P : ρ → Prop} (hr : r ∈ t.rows) :
    (∃ x ∈ t.rows, P x) ↔ P r ∨ ∃ x ∈ t.rows, key x ≠ key r ∧ P x := by
  constructor
  · rintro ⟨x, hx, hP⟩
    by_cases hk : key x = key r
    · obtain rfl : x = r := t.eq_of_key_eq hx hr hk
      exact .inl hP
    · exact .inr ⟨x, hx, hk, hP⟩
  · rintro (hP | ⟨x, hx, -, hP⟩)
    · exact ⟨r, hr, hP⟩
    · exact ⟨x, hx, hP⟩

/-- The same after a row is overwritten. -/
theorem exists_mem_put_iff {t : Table key} {r r' : ρ} {P : ρ → Prop} (hr : r ∈ t.rows)
    (hk : key r' = key r) :
    (∃ x ∈ (t.put r').rows, P x) ↔ P r' ∨ ∃ x ∈ t.rows, key x ≠ key r ∧ P x := by
  have hput := fun x => mem_put_iff (x := x) ⟨r, hr, hk.symm⟩
  constructor
  · rintro ⟨x, hx, hP⟩
    rcases (hput x).mp hx with rfl | ⟨hx, hne⟩
    · exact .inl hP
    · exact .inr ⟨x, hx, hk ▸ hne, hP⟩
  · rintro (hP | ⟨x, hx, hne, hP⟩)
    · exact ⟨r', (hput r').mpr (.inl rfl), hP⟩
    · exact ⟨x, (hput x).mpr (.inr ⟨hx, hk ▸ hne⟩), hP⟩

/-- A row is overwritten by one that has the property if it has. -/
theorem exists_mem_put_congr {t : Table key} {r r' : ρ} {P : ρ → Prop} (hr : r ∈ t.rows)
    (hk : key r' = key r) (hP : P r' ↔ P r) :
    (∃ x ∈ (t.put r').rows, P x) ↔ ∃ x ∈ t.rows, P x :=
  (exists_mem_put_iff hr hk).trans ((or_congr_left hP).trans (exists_mem_iff hr).symm)

/-- A search that finds a row finds the one that is put in its place. -/
theorem find?_put {t : Table key} {p : ρ → Bool} {r x : ρ} (h : t.rows.find? p = some x)
    (hk : key r = key x) (hp : p r = true) : (t.put r).rows.find? p = some r := by
  obtain ⟨hpx, before, after, hrows, hbefore⟩ := List.find?_eq_some_iff_append.mp h
  have hx : x ∈ t.rows := List.mem_of_find?_eq_some h
  -- an earlier row is not the one that is overwritten
  have hne : ∀ y ∈ before, key y ≠ key r := by
    intro y hy hyk
    have hmem : y ∈ t.rows := by
      rw [hrows]
      exact List.mem_append_left _ hy
    have hyx : y = x := t.eq_of_key_eq hmem hx (hyk.trans hk)
    have hpy : (!p y) = true := hbefore y hy
    rw [hyx, hpx] at hpy
    cases hpy
  have hsame : before.map (fun y => if key y = key r then r else y) = before := by
    conv_rhs => rw [← List.map_id before]
    exact List.map_congr_left (fun y hy => if_neg (hne y hy))
  rw [List.find?_eq_some_iff_append]
  refine ⟨hp, before, after.map (fun y => if key y = key r then r else y), ?_, hbefore⟩
  show t.rows.map (fun y => if key y = key r then r else y) = _
  rw [hrows, List.map_append, List.map_cons, hsame, if_pos hk.symm]

/-- The row with this key is rewritten, if there is one. -/
def amend (t : Table key) (k : κ) (f : ρ → ρ) : Table key :=
  match t.get? k with
  | none => t
  | some r => t.put (f r)

theorem mem_amend {t : Table key} {k : κ} {f : ρ → ρ} {x : ρ} (hx : x ∈ (t.amend k f).rows)
    (hf : ∀ r, key (f r) = key r) :
    (x ∈ t.rows ∧ key x ≠ k) ∨ ∃ r ∈ t.rows, key r = k ∧ x = f r := by
  unfold amend at hx
  cases hget : t.get? k with
  | none =>
      rw [hget] at hx
      refine Or.inl ⟨hx, ?_⟩
      intro hk
      rw [get?_eq_some_iff.mpr ⟨hx, hk⟩] at hget
      cases hget
  | some r =>
      rw [hget] at hx
      obtain ⟨hr, hk⟩ := get?_eq_some_iff.mp hget
      rcases (mem_put_iff ⟨r, hr, (hf r).symm⟩).mp hx with rfl | ⟨hx, hne⟩
      · exact Or.inr ⟨r, hr, hk, rfl⟩
      · rw [hf, hk] at hne
        exact Or.inl ⟨hx, hne⟩

/-- The table with this row in the place of the row with its key, if there is one. -/
def upsert (t : Table key) (r : ρ) : Table key where
  rows := (t.delete (fun x => key x = key r)).rows ++ [r]
  nodup := by
    refine nodup_map_append_one (t.delete _).nodup ?_
    rintro hmem
    obtain ⟨x, hx, hk⟩ := List.mem_map.mp hmem
    simpa [hk] using (mem_delete.mp hx).2

theorem mem_upsert {t : Table key} {r x : ρ} :
    x ∈ (t.upsert r).rows ↔ x = r ∨ (x ∈ t.rows ∧ key x ≠ key r) := by
  unfold upsert
  rw [List.mem_append, List.mem_singleton, mem_delete, decide_eq_false_iff_not]
  exact or_comm

/-- A loop that upserts rows with new keys, each once, appends its list. -/
theorem rows_foldl_upsert {rs : List ρ} {t : Table key}
    (h : (t.rows.map key ++ rs.map key).Nodup) : (rs.foldl upsert t).rows = t.rows ++ rs := by
  induction rs generalizing t with
  | nil => exact (List.append_nil _).symm
  | cons r rs ih =>
      have hupsert : (t.upsert r).rows = t.rows ++ [r] := by
        show t.rows.filter _ ++ [r] = _
        rw [List.filter_eq_self.mpr]
        intro x hx
        have hne : key x ≠ key r := (List.nodup_append.mp h).2.2 (key x)
          (List.mem_map.mpr ⟨x, hx, rfl⟩) (key r) List.mem_cons_self
        simpa using hne
      show (rs.foldl upsert (t.upsert r)).rows = _
      rw [ih, hupsert, List.append_assoc]
      · rfl
      · rw [hupsert, List.map_append, List.map_singleton, List.append_assoc]
        exact h

theorem get?_upsert (t : Table key) (r : ρ) (k : κ) :
    (t.upsert r).get? k = if k = key r then some r else t.get? k := by
  split
  next hk =>
    rw [get?_eq_some_iff, mem_upsert]
    exact ⟨.inl rfl, hk.symm⟩
  next hk =>
    rw [Option.ext_iff]
    intro x
    rw [get?_eq_some_iff, get?_eq_some_iff, mem_upsert]
    constructor
    · rintro ⟨rfl | ⟨hx, -⟩, hkey⟩
      · exact absurd hkey.symm hk
      · exact ⟨hx, hkey⟩
    · rintro ⟨hx, hkey⟩
      refine ⟨.inr ⟨hx, ?_⟩, hkey⟩
      rw [hkey]
      exact hk

/-- Deleting the row with one key leaves the others to be found. -/
theorem get?_delete (t : Table key) (k k' : κ) :
    (t.delete (fun x => key x = k')).get? k = if k = k' then none else t.get? k := by
  rw [Option.ext_iff]
  intro x
  rw [get?_eq_some_iff, mem_delete, decide_eq_false_iff_not]
  split
  next hk =>
    constructor
    · rintro ⟨⟨-, hne⟩, hx⟩
      exact absurd (hx.trans hk) hne
    · intro h
      cases h
  next hk =>
    rw [get?_eq_some_iff]
    constructor
    · rintro ⟨⟨hx, -⟩, hkey⟩
      exact ⟨hx, hkey⟩
    · rintro ⟨hx, hkey⟩
      refine ⟨⟨hx, ?_⟩, hkey⟩
      rw [hkey]
      exact hk

end ByKey

/-- Of two rows that satisfy `p`, one has another key than `k`. -/
theorem exists_ne_of_one_lt_countP {t : Table key} {p : ρ → Bool} (h : 1 < t.rows.countP p)
    (k : κ) : ∃ x ∈ t.rows, p x = true ∧ key x ≠ k := by
  have hnodup : ((t.rows.filter p).map key).Nodup :=
    t.nodup.sublist (List.filter_sublist.map key)
  rw [List.countP_eq_length_filter] at h
  cases hfilter : t.rows.filter p with
  | nil => simp [hfilter] at h
  | cons x rest =>
      cases rest with
      | nil => simp [hfilter] at h
      | cons y rest =>
          rw [hfilter, List.map_cons, List.map_cons, List.nodup_cons] at hnodup
          have hxy : key x ≠ key y := fun heq => hnodup.1 (by rw [heq]; exact List.mem_cons_self)
          have hmem : ∀ z ∈ x :: y :: rest, z ∈ t.rows ∧ p z = true := by
            intro z hz
            rw [← hfilter] at hz
            exact List.mem_filter.mp hz
          by_cases hx : key x = k
          · obtain ⟨hy, hpy⟩ := hmem y (List.mem_cons_of_mem x List.mem_cons_self)
            exact ⟨y, hy, hpy, fun hk => hxy (hx.trans hk.symm)⟩
          · obtain ⟨hx', hpx⟩ := hmem x List.mem_cons_self
            exact ⟨x, hx', hpx, hx⟩

/-- Two rows that satisfy `p`. -/
theorem one_lt_countP {t : Table key} {p : ρ → Bool} {x y : ρ} (hx : x ∈ t.rows)
    (hy : y ∈ t.rows) (hpx : p x = true) (hpy : p y = true) (hne : key x ≠ key y) :
    1 < t.rows.countP p := by
  have hx' : x ∈ t.rows.filter p := List.mem_filter.mpr ⟨hx, hpx⟩
  have hy' : y ∈ t.rows.filter p := List.mem_filter.mpr ⟨hy, hpy⟩
  rw [List.countP_eq_length_filter]
  match hfilter : t.rows.filter p with
  | [] =>
      rw [hfilter] at hx'
      cases hx'
  | [z] =>
      rw [hfilter, List.mem_singleton] at hx' hy'
      rw [hx', hy'] at hne
      exact absurd rfl hne
  | _ :: _ :: _ => simp

/-- Overwriting a row counts as before if the row counts as before. -/
theorem countP_put [DecidableEq κ] {t : Table key} {p : ρ → Bool} {r x : ρ} (hx : x ∈ t.rows)
    (hk : key r = key x) (hp : p r = p x) : (t.put r).rows.countP p = t.rows.countP p := by
  show (t.rows.map (fun y => if key y = key r then r else y)).countP p = _
  rw [List.countP_map]
  refine List.countP_congr (fun y hy => ?_)
  show p (if key y = key r then r else y) = true ↔ p y = true
  split
  next hyr => rw [t.eq_of_key_eq hy hx (hyr.trans hk), hp]
  next => rfl

/-! ## §3. How the rows of a table become those of another. -/

/-- Every row of `t` becomes a row of `t'` by `R`, and every row of `t'` became so or is
`New`. -/
structure Becomes (R : ρ → ρ → Prop) (New : ρ → Prop) (t t' : Table key) : Prop where
  next : ∀ r ∈ t.rows, ∃ r' ∈ t'.rows, R r r'
  prev : ∀ r' ∈ t'.rows, (∃ r ∈ t.rows, R r r') ∨ New r'

namespace Becomes

variable {R : ρ → ρ → Prop} {New : ρ → Prop} {t t' : Table key}

theorem mono {R' : ρ → ρ → Prop} (hR : ∀ r ∈ t.rows, ∀ r', R r r' → R' r r')
    (h : Becomes R New t t') : Becomes R' New t t' where
  next := by
    intro r hr
    obtain ⟨r', hr', hrr'⟩ := h.next r hr
    exact ⟨r', hr', hR r hr r' hrr'⟩
  prev := by
    intro r' hr'
    rcases h.prev r' hr' with ⟨r, hr, hrr'⟩ | hnew
    · exact .inl ⟨r, hr, hR r hr r' hrr'⟩
    · exact .inr hnew

/-- A table that is left alone. -/
theorem refl (hR : ∀ r, R r r) (t : Table key) : Becomes R New t t where
  next := fun r hr => ⟨r, hr, hR r⟩
  prev := fun r hr => .inl ⟨r, hr, hR r⟩

/-- One row is overwritten. -/
theorem put [DecidableEq κ] (hR : ∀ r, R r r) {r r' : ρ} (hr : r ∈ t.rows) (hk : key r' = key r)
    (h : R r r') : Becomes R New t (t.put r') := by
  have hput := fun x => mem_put_iff (x := x) ⟨r, hr, hk.symm⟩
  constructor
  · intro x hx
    by_cases hid : key x = key r'
    · obtain rfl : x = r := t.eq_of_key_eq hx hr (hid.trans hk)
      exact ⟨r', (hput r').mpr (.inl rfl), h⟩
    · exact ⟨x, (hput x).mpr (.inr ⟨hx, hid⟩), hR x⟩
  · intro x hx
    rcases (hput x).mp hx with rfl | ⟨hx, -⟩
    · exact .inl ⟨r, hr, h⟩
    · exact .inl ⟨x, hx, hR x⟩

/-- One more row is overwritten, that was left alone so far. -/
theorem put_again [DecidableEq κ] (hkey : ∀ r r', R r r' → key r' = key r)
    (h : Becomes R New t t') {r r' : ρ} (hr : r ∈ t.rows) (hr₁ : r ∈ t'.rows)
    (hrr' : R r r') : Becomes R New t (t'.put r') := by
  have hput := fun x => mem_put_iff (x := x) ⟨r, hr₁, (hkey r r' hrr').symm⟩
  constructor
  · intro x hx
    obtain ⟨x', hx', hxx'⟩ := h.next x hx
    by_cases hid : key x' = key r'
    · have hxr : key x = key r := by rw [← hkey x x' hxx', hid, hkey r r' hrr']
      obtain rfl : x = r := t.eq_of_key_eq hx hr hxr
      exact ⟨r', (hput r').mpr (.inl rfl), hrr'⟩
    · exact ⟨x', (hput x').mpr (.inr ⟨hx', hid⟩), hxx'⟩
  · intro x hx
    rcases (hput x).mp hx with rfl | ⟨hx, -⟩
    · exact .inl ⟨r, hr, hrr'⟩
    · exact h.prev x hx

/-- One row is added. -/
theorem insert? [DecidableEq κ] (hR : ∀ r, R r r) {r : ρ} (hnew : New r)
    (h : t.insert? r = some t') :
    Becomes R New t t' := by
  obtain ⟨-, hrows⟩ := insert?_eq_some_iff.mp h
  constructor
  · intro x hx
    exact ⟨x, by rw [hrows]; exact List.mem_append_left _ hx, hR x⟩
  · intro x hx
    rw [hrows, List.mem_append, List.mem_singleton] at hx
    rcases hx with hx | rfl
    · exact .inl ⟨x, hx, hR x⟩
    · exact .inr hnew

/-- Every row is rewritten. -/
theorem update {f : ρ → ρ} (hf : ∀ r, key (f r) = key r) (h : ∀ r, R r (f r)) :
    Becomes R New t (t.update f hf) := by
  constructor
  · intro r hr
    exact ⟨f r, mem_update.mpr ⟨r, hr, rfl⟩, h r⟩
  · intro x hx
    obtain ⟨r, hr, rfl⟩ := mem_update.mp hx
    exact .inl ⟨r, hr, h r⟩

/-- Every row is rewritten by a step that may fail. -/
theorem updateM {ε : Type*} {f : ρ → Except ε ρ} {hf : ∀ r r', f r = .ok r' → key r' = key r}
    (h : ∀ r r', f r = .ok r' → R r r') (hup : t.updateM f hf = .ok t') :
    Becomes R New t t' := by
  obtain ⟨hfwd, hbwd⟩ := updateM_eq_ok hup
  constructor
  · intro r hr
    obtain ⟨r', hr', hrr'⟩ := hfwd r hr
    exact ⟨r', hr', h r r' hrr'⟩
  · intro r' hr'
    obtain ⟨r, hr, hrr'⟩ := hbwd r' hr'
    exact .inl ⟨r, hr, h r r' hrr'⟩

end Becomes

end Table

end PureBoot.Lib
