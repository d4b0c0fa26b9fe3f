/-
  PureBoot.Lib.Dict — DICTIONARIES: one value for a key, the last that was set.

  A dictionary is a table whose rows are pairs of a key and its value.  What a loop
  that only sets leaves behind is read off its list of assignments (`get_setAll`,
  `rows_setAll_of_nodup`).
-/
import PureBoot.Lib.Table

namespace PureBoot.Lib

/-- A dictionary. -/
abbrev Dict (κ ν : Type*) : Type _ := Table (Prod.fst : κ × ν → κ)

namespace Dict

variable {κ ν : Type*} [DecidableEq κ]

/-- `d.get(k)`. -/
def get (d : Dict κ ν) (k : κ) : Option ν := (Table.get? d k).map Prod.snd

/-- `d[k] = v`. -/
def set (d : Dict κ ν) (k : κ) (v : ν) : Dict κ ν := Table.upsert d (k, v)

/-- The assignments of a list, in its order. -/
def setAll (d : Dict κ ν) (pairs : List (κ × ν)) : Dict κ ν :=
  pairs.foldl (fun d p => set d p.1 p.2) d

/-- `d.pop(k)`, as far as the dictionary goes. -/
def pop (d : Dict κ ν) (k : κ) : Dict κ ν := Table.delete d (fun p => p.1 = k)

/-- The last value that a list gives to a key. -/
def lastValue (k : κ) (pairs : List (κ × ν)) : Option ν :=
  (pairs.filter (fun p => p.1 = k)).getLast?.map Prod.snd

@[simp] theorem get_empty (k : κ) : get (Table.empty : Dict κ ν) k = none := rfl

theorem get_set (d : Dict κ ν) (k : κ) (v : ν) (k' : κ) :
    get (set d k v) k' = if k' = k then some v else get d k' := by
  unfold get set
  rw [Table.get?_upsert]
  split <;> rfl

theorem get_pop (d : Dict κ ν) (k k' : κ) :
    get (pop d k) k' = if k' = k then none else get d k' := by
  unfold get pop
  rw [Table.get?_delete]
  split <;> rfl

theorem get_pop_of_ne (d : Dict κ ν) {k k' : κ} (h : k' ≠ k) : get (pop d k) k' = get d k' := by
  rw [get_pop, if_neg h]

theorem lastValue_cons (k : κ) (p : κ × ν) (pairs : List (κ × ν)) :
    lastValue k (p :: pairs)
      = (lastValue k pairs).or (if p.1 = k then some p.2 else none) := by
  unfold lastValue
  by_cases hk : p.1 = k
  · rw [List.filter_cons_of_pos (by simpa using hk), if_pos hk, List.getLast?_cons]
    cases (pairs.filter (fun q => q.1 = k)).getLast? <;> rfl
  · rw [List.filter_cons_of_neg (by simpa using hk), if_neg hk, Option.or_none]

/-- **WHAT A LOOP OF ASSIGNMENTS LEAVES**: the last value of its list, or what was there. -/
theorem get_setAll (d : Dict κ ν) (pairs : List (κ × ν)) (k : κ) :
    get (setAll d pairs) k = (lastValue k pairs).or (get d k) := by
  induction pairs generalizing d with
  | nil => rfl
  | cons p pairs ih =>
      show get (setAll (set d p.1 p.2) pairs) k = _
      rw [ih, get_set, lastValue_cons, Option.or_assoc]
      congr 1
      by_cases hk : p.1 = k
      · rw [if_pos hk, if_pos hk.symm]
        rfl
      · rw [if_neg hk, if_neg (Ne.symm hk)]
        rfl

theorem lastValue_eq_none {k : κ} {pairs : List (κ × ν)} (h : k ∉ pairs.map Prod.fst) :
    lastValue k pairs = none := by
  have hfilter : pairs.filter (fun p => p.1 = k) = [] := by
    rw [List.filter_eq_nil_iff]
    intro p hp hk
    exact h (List.mem_map.mpr ⟨p, hp, of_decide_eq_true hk⟩)
  unfold lastValue
  rw [hfilter]
  rfl

/-- A loop that sets every key once leaves each with its value. -/
theorem get_setAll_of_nodup {k : κ} {v : ν} {pairs : List (κ × ν)} (d : Dict κ ν)
    (hnodup : (pairs.map Prod.fst).Nodup) (hmem : (k, v) ∈ pairs) :
    get (setAll d pairs) k = some v := by
  suffices hlast : lastValue k pairs = some v by
    rw [get_setAll, hlast]
    rfl
  induction pairs with
  | nil => cases hmem
  | cons p pairs ih =>
      rw [List.map_cons, List.nodup_cons] at hnodup
      rw [lastValue_cons]
      rcases List.mem_cons.mp hmem with rfl | hrest
      · rw [lastValue_eq_none hnodup.1, if_pos rfl]
        rfl
      · rw [ih hnodup.2 hrest]
        rfl

/-- A loop that sets new keys, each once, appends its list. -/
theorem rows_setAll_of_nodup {pairs : List (κ × ν)} {d : Dict κ ν}
    (h : (d.rows.map Prod.fst ++ pairs.map Prod.fst).Nodup) :
    (setAll d pairs).rows = d.rows ++ pairs :=
  Table.rows_foldl_upsert h

end Dict

end PureBoot.Lib
