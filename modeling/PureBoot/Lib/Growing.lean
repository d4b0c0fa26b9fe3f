/-
  PureBoot.Lib.Growing — lists that GROW IN A KEY.

  Whatever is added comes at the end and has a greater key than all that is there.  So no
  key comes twice, and what was added last is what has the greatest key.
-/
import Mathlib.Data.List.MinMax
import Mathlib.Data.List.Nodup

namespace PureBoot.Lib

variable {α κ : Type*} [LinearOrder κ] {key : α → κ} {l : List α} {x y : α}

/-- Each has a greater key than those before it. -/
def Growing (key : α → κ) (l : List α) : Prop := l.Pairwise (fun a b => key a < key b)

theorem Growing.nil : Growing key [] := List.Pairwise.nil

/-- **ONE STEP**: what is added is greater than all that is there. -/
theorem Growing.concat (h : Growing key l) (hx : ∀ y ∈ l, key y < key x) :
    Growing key (l ++ [x]) := by
  refine List.pairwise_append.mpr ⟨h, List.pairwise_singleton _ x, fun y hy z hz => ?_⟩
  rw [List.mem_singleton.mp hz]
  exact hx y hy

/-- No key comes twice. -/
theorem Growing.nodup (h : Growing key l) : (l.map key).Nodup :=
  List.pairwise_map.mpr (h.imp (fun hlt => hlt.ne))

theorem Growing.eq_of_key_eq (h : Growing key l) (hx : x ∈ l) (hy : y ∈ l)
    (hkey : key x = key y) : x = y :=
  List.inj_on_of_nodup_map h.nodup hx hy hkey

/-- **THE LAST** has the greatest key. -/
theorem argmax_concat_of_lt (hx : ∀ y ∈ l, key y < key x) : (l ++ [x]).argmax key = some x := by
  rw [List.argmax_concat]
  cases hmax : l.argmax key with
  | none => rfl
  | some y => exact if_pos (hx y (List.argmax_mem hmax))

/-- Something greater than the greatest is greater than all. -/
theorem lt_of_argmax_lt (hmax : l.argmax key = some x) {k : κ} (hk : key x < k) :
    ∀ y ∈ l, key y < k :=
  fun _ hy => (List.le_of_mem_argmax hy hmax).trans_lt hk

end PureBoot.Lib
