/-
  PureBoot.Lib.TimeText — TIMES as text of fixed width.

  A number that is padded with zeros to a fixed width is before another one, as text, exactly
  if it is less; and a text of such numbers, each followed by the same separator in all
  texts, is ordered like the list of its numbers.  A date and a time of day are such a list,
  with the year first.

  Main results:
    * `append_lt_append_iff` — texts that begin with parts of one length;
    * `padded_lt_iff` — padded numbers;
    * `spell_lt_iff` — texts of padded numbers.
-/
import Mathlib.Algebra.GroupWithZero.Nat
import Mathlib.Data.Char
import Mathlib.Data.List.Lex
import Mathlib.Order.Lattice
import Mathlib.Tactic.Common

namespace PureBoot.Lib

/-! ## §1. Texts that begin with parts of one length. -/

section Append

variable {α : Type*} [LinearOrder α]

/-- **PARTS OF ONE LENGTH** come first; what follows them decides if they are the same. -/
theorem append_lt_append_iff {a b s t : List α} (hlen : a.length = b.length) :
    a ++ s < b ++ t ↔ a < b ∨ (a = b ∧ s < t) := by
  induction a generalizing b with
  | nil =>
      obtain rfl := List.length_eq_zero_iff.mp hlen.symm
      simp
  | cons x a ih =>
      cases b with
      | nil => cases hlen
      | cons y b =>
          rw [List.cons_append, List.cons_append, List.cons_lt_cons_iff, List.cons_lt_cons_iff,
            ih (Nat.succ.inj hlen), List.cons.injEq]
          tauto

end Append

/-! ## §2. Padded numbers. -/

/-- The last digits of a number, with zeros before them. -/
def padded : Nat → Nat → List Char
  | 0, _ => []
  | width + 1, n => padded width (n / 10) ++ [(n % 10).digitChar]

@[simp] theorem length_padded (width n : Nat) : (padded width n).length = width := by
  induction width generalizing n with
  | zero => rfl
  | succ width ih =>
      unfold padded
      rw [List.length_append, ih]
      rfl

theorem digitChar_lt_iff : ∀ a < 10, ∀ b < 10, (Nat.digitChar a < Nat.digitChar b ↔ a < b) := by
  decide

/-- What is ordered alike both ways is the same alike. -/
theorem eq_iff_of_lt_iff {α β : Type*} [LinearOrder α] [LinearOrder β] {a b : α} {x y : β}
    (h : a < b ↔ x < y) (h' : b < a ↔ y < x) : a = b ↔ x = y := by
  rw [le_antisymm_iff, le_antisymm_iff, ← not_lt, ← not_lt, ← not_lt, ← not_lt, h, h']

/-- **PADDED NUMBERS** are ordered like the numbers. -/
theorem padded_lt_iff {width m n : Nat} (hm : m < 10 ^ width) (hn : n < 10 ^ width) :
    padded width m < padded width n ↔ m < n := by
  induction width generalizing m n with
  | zero =>
      rw [Nat.pow_zero, Nat.lt_one_iff] at hm hn
      rw [hm, hn]
      simp
  | succ width ih =>
      have hm' : m / 10 < 10 ^ width := Nat.div_lt_of_lt_mul (by rwa [Nat.pow_succ'] at hm)
      have hn' : n / 10 < 10 ^ width := Nat.div_lt_of_lt_mul (by rwa [Nat.pow_succ'] at hn)
      have hlen : (padded width (m / 10)).length = (padded width (n / 10)).length := by
        rw [length_padded, length_padded]
      have hlast : [(m % 10).digitChar] < [(n % 10).digitChar] ↔ m % 10 < n % 10 := by
        rw [List.cons_lt_cons_iff]
        simpa using digitChar_lt_iff (m % 10) (Nat.mod_lt m (by decide)) (n % 10)
          (Nat.mod_lt n (by decide))
      unfold padded
      rw [append_lt_append_iff hlen, ih hm' hn', hlast,
        eq_iff_of_lt_iff (ih hm' hn') (ih hn' hm')]
      omega

theorem padded_inj {width m n : Nat} (hm : m < 10 ^ width) (hn : n < 10 ^ width) :
    padded width m = padded width n ↔ m = n :=
  eq_iff_of_lt_iff (padded_lt_iff hm hn) (padded_lt_iff hn hm)

/-! ## §3. Texts of padded numbers. -/

/-- A field of a format: its width, and what follows it. -/
structure Field where
  width : Nat
  after : List Char

/-- The text of the numbers in a format. -/
def spell : List Field → List Nat → List Char
  | f :: format, n :: ns => padded f.width n ++ (f.after ++ spell format ns)
  | _, _ => []

/-- Each number has its field, and fits into it. -/
def Fits (format : List Field) (ns : List Nat) : Prop :=
  List.Forall₂ (fun f n => n < 10 ^ f.width) format ns

/-- **TEXTS OF PADDED NUMBERS** are ordered like the lists of these numbers. -/
theorem spell_lt_iff {format : List Field} {ms ns : List Nat} (hm : Fits format ms)
    (hn : Fits format ns) : spell format ms < spell format ns ↔ ms < ns := by
  induction format generalizing ms ns with
  | nil =>
      cases hm
      cases hn
      simp [spell]
  | cons f format ih =>
      cases hm with
      | @cons _ m _ ms hm hms =>
          cases hn with
          | @cons _ n _ ns hn hns =>
              have hlen : (padded f.width m).length = (padded f.width n).length := by
                rw [length_padded, length_padded]
              have hafter : f.after ++ spell format ms < f.after ++ spell format ns
                  ↔ spell format ms < spell format ns := by
                rw [append_lt_append_iff rfl]
                simp
              unfold spell
              rw [append_lt_append_iff hlen, hafter, ih hms hns, padded_lt_iff hm hn,
                padded_inj hm hn, List.cons_lt_cons_iff]

/-- The length of such a text. -/
theorem length_spell {format : List Field} {ns : List Nat} (h : Fits format ns) :
    (spell format ns).length = (format.map (fun f => f.width + f.after.length)).sum := by
  induction h with
  | nil => rfl
  | @cons f n format ns _ _ ih =>
      unfold spell
      rw [List.length_append, List.length_append, length_padded, ih, List.map_cons, List.sum_cons,
        Nat.add_assoc]

/-! ## §4. Dates and times of day. -/

/-- The days of a month. -/
def daysIn (year month : Nat) : Nat :=
  if month = 2 then
    if year % 4 = 0 ∧ (year % 100 ≠ 0 ∨ year % 400 = 0) then 29 else 28
  else if month ∈ [4, 6, 9, 11] then 30 else 31

/-- A date and a time of day, in whole seconds. -/
structure Moment where
  year : Nat
  month : Nat
  day : Nat
  hour : Nat
  minute : Nat
  second : Nat
  year_le : year ≤ 9999
  month_le : 1 ≤ month ∧ month ≤ 12
  day_le : 1 ≤ day ∧ day ≤ daysIn year month
  hour_lt : hour < 24
  minute_lt : minute < 60
  second_lt : second < 60
  deriving DecidableEq

namespace Moment

/-- The first second of a year, of 9999 at the latest. -/
def newYear (year : Nat) : Moment where
  year := min year 9999
  month := 1
  day := 1
  hour := 0
  minute := 0
  second := 0
  year_le := Nat.min_le_right year 9999
  month_le := by decide
  day_le := by simp [daysIn]
  hour_lt := by decide
  minute_lt := by decide
  second_lt := by decide

/-- The numbers, the year first. -/
def fields (t : Moment) : List Nat := [t.year, t.month, t.day, t.hour, t.minute, t.second]

/-- Earlier: the first number in which two differ decides. -/
instance : LT Moment := ⟨fun s t => s.fields < t.fields⟩

instance (s t : Moment) : Decidable (s < t) := inferInstanceAs (Decidable (s.fields < t.fields))

/-- `YYYY-MM-DD`, something, `HH:MM:SS`. -/
def formatWith (sep : Char) : List Field :=
  [⟨4, ['-']⟩, ⟨2, ['-']⟩, ⟨2, [sep]⟩, ⟨2, [':']⟩, ⟨2, [':']⟩, ⟨2, []⟩]

/-- `YYYY-MM-DDTHH:MM:SS`. -/
def format : List Field := formatWith 'T'

theorem daysIn_le (year month : Nat) : daysIn year month ≤ 31 := by
  unfold daysIn
  split_ifs <;> decide

/-- Each number fits into its field. -/
theorem fits_formatWith (sep : Char) (t : Moment) : Fits (formatWith sep) t.fields := by
  have hday : t.day < 10 ^ 2 :=
    lt_of_le_of_lt (t.day_le.2.trans (daysIn_le t.year t.month)) (by decide)
  refine .cons (lt_of_le_of_lt t.year_le (by decide)) (.cons ?_ (.cons hday (.cons ?_
    (.cons ?_ (.cons ?_ .nil)))))
  · exact lt_of_le_of_lt t.month_le.2 (by decide)
  · exact lt_of_lt_of_le t.hour_lt (by decide)
  · exact lt_of_lt_of_le t.minute_lt (by decide)
  · exact lt_of_lt_of_le t.second_lt (by decide)

theorem fits_fields (t : Moment) : Fits format t.fields := t.fits_formatWith 'T'

end Moment

end PureBoot.Lib
