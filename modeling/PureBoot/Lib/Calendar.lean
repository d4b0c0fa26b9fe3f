/-
  PureBoot.Lib.Calendar — POINTS IN TIME by the proleptic Gregorian calendar.

  A date and a time of day of UTC, from the first of January of year 1 on, are a number of
  microseconds since then.  The years follow one another, the months of a year and so on, so
  the first number in which two of them differ tells which one is earlier.

  Main results:
    * `blocks_lt_iff` — positions in blocks that follow one another;
    * `Datetime.lt_iff` — earlier is less in the first number that differs.
-/
import PureBoot.Lib.TimeText

namespace PureBoot.Lib

/-! ## §1. Blocks that follow one another. -/

/-- **POSITIONS IN BLOCKS**: the blocks are compared first, then the positions in them. -/
theorem blocks_lt_iff (start length : Nat → Nat) {i j a b : Nat}
    (hij : i < j → start i + length i ≤ start j) (hji : j < i → start j + length j ≤ start i)
    (ha : a < length i) (hb : b < length j) :
    start i + a < start j + b ↔ i < j ∨ (i = j ∧ a < b) := by
  rcases Nat.lt_trichotomy i j with hlt | rfl | hgt
  · have hend := hij hlt
    exact iff_of_true (by omega) (.inl hlt)
  · simp
  · have hend := hji hgt
    refine iff_of_false (by omega) ?_
    rintro (hlt | ⟨rfl, -⟩) <;> omega

/-- Blocks of one length. -/
theorem radix_lt_iff {base i j a b : Nat} (ha : a < base) (hb : b < base) :
    i * base + a < j * base + b ↔ i < j ∨ (i = j ∧ a < b) := by
  have hnext : ∀ k l, k < l → k * base + base ≤ l * base := by
    intro k l hkl
    have hle : (k + 1) * base ≤ l * base := Nat.mul_le_mul_right base hkl
    rwa [Nat.succ_mul] at hle
  exact blocks_lt_iff (fun k => k * base) (fun _ => base) (hnext i j) (hnext j i) ha hb

/-- **ONE MORE DIGIT**: numbers ordered like their digits stay so. -/
theorem radix_snoc_lt_iff {α : Type*} {value : α → Nat} {digits : α → List Nat} {digit : α → Nat}
    {base : Nat} (h : ∀ s t, value s < value t ↔ digits s < digits t)
    (hlength : ∀ s t, (digits s).length = (digits t).length) (hdigit : ∀ t, digit t < base)
    (s t : α) : value s * base + digit s < value t * base + digit t
      ↔ digits s ++ [digit s] < digits t ++ [digit t] := by
  rw [radix_lt_iff (hdigit s) (hdigit t), append_lt_append_iff (hlength s t), h s t,
    eq_iff_of_lt_iff (h s t) (h t s), List.cons_lt_cons_iff]
  simp

/-! ## §2. Days. -/

/-- The days of a year. -/
def daysInYear (year : Nat) : Nat :=
  if year % 4 = 0 ∧ (year % 100 ≠ 0 ∨ year % 400 = 0) then 366 else 365

/-- The days before a year, from year 1 on. -/
def daysBeforeYear (year : Nat) : Nat :=
  (year - 1) * 365 + (year - 1) / 4 - (year - 1) / 100 + (year - 1) / 400

/-- The days of a year before a month. -/
def daysBeforeMonth (year : Nat) : Nat → Nat
  | 0 | 1 => 0
  | month + 2 => daysBeforeMonth year (month + 1) + daysIn year (month + 1)

theorem daysBeforeYear_succ {year : Nat} (h : 1 ≤ year) :
    daysBeforeYear (year + 1) = daysBeforeYear year + daysInYear year := by
  obtain ⟨k, rfl⟩ := Nat.exists_eq_succ_of_ne_zero (Nat.one_le_iff_ne_zero.mp h)
  have h4 : (k + 1) / 4 = k / 4 + if (k + 1) % 4 = 0 then 1 else 0 := by
    split_ifs <;> omega
  have h100 : (k + 1) / 100 = k / 100 + if (k + 1) % 100 = 0 then 1 else 0 := by
    split_ifs <;> omega
  have h400 : (k + 1) / 400 = k / 400 + if (k + 1) % 400 = 0 then 1 else 0 := by
    split_ifs <;> omega
  have hle : k / 100 ≤ k / 4 := Nat.div_le_div_left (by decide) (by decide)
  show (k + 1) * 365 + (k + 1) / 4 - (k + 1) / 100 + (k + 1) / 400
    = k * 365 + k / 4 - k / 100 + k / 400 + daysInYear (k + 1)
  rw [h4, h100, h400]
  unfold daysInYear
  -- every fourth year is a leap year, but a century only if 400 divides it
  by_cases hfour : (k + 1) % 4 = 0
  · by_cases hcentury : (k + 1) % 100 = 0
    · by_cases hfourth : (k + 1) % 400 = 0
      · rw [if_pos hfour, if_pos hcentury, if_pos hfourth, if_pos ⟨hfour, .inr hfourth⟩]
        omega
      · rw [if_pos hfour, if_pos hcentury, if_neg hfourth,
          if_neg (fun hleap => hleap.2.elim (absurd hcentury) hfourth)]
        omega
    · have hfourth : ¬ (k + 1) % 400 = 0 := by omega
      rw [if_pos hfour, if_neg hcentury, if_neg hfourth, if_pos ⟨hfour, .inl hcentury⟩]
      omega
  · have hcentury : ¬ (k + 1) % 100 = 0 := by omega
    have hfourth : ¬ (k + 1) % 400 = 0 := by omega
    rw [if_neg hfour, if_neg hcentury, if_neg hfourth, if_neg (fun hleap => hfour hleap.1)]
    omega

/-- **THE YEARS** follow one another. -/
theorem daysBeforeYear_add_le {i j : Nat} (h : 1 ≤ i) (hij : i < j) :
    daysBeforeYear i + daysInYear i ≤ daysBeforeYear j := by
  induction j, hij using Nat.le_induction with
  | base => exact (daysBeforeYear_succ h).ge
  | succ j hij ih =>
      have hle : 1 ≤ j := by omega
      rw [daysBeforeYear_succ hle]
      omega

-- the days from year 1 to Unix time
example : daysBeforeYear 1970 = 719162 := rfl

theorem daysBeforeMonth_succ (year : Nat) {month : Nat} (h : 1 ≤ month) :
    daysBeforeMonth year (month + 1) = daysBeforeMonth year month + daysIn year month := by
  obtain ⟨month, rfl⟩ := Nat.exists_eq_succ_of_ne_zero (Nat.one_le_iff_ne_zero.mp h)
  rfl

/-- **THE MONTHS** of a year follow one another. -/
theorem daysBeforeMonth_add_le (year : Nat) {i j : Nat} (h : 1 ≤ i) (hij : i < j) :
    daysBeforeMonth year i + daysIn year i ≤ daysBeforeMonth year j := by
  induction j, hij using Nat.le_induction with
  | base => exact (daysBeforeMonth_succ year h).ge
  | succ j hij ih =>
      have hle : 1 ≤ j := by omega
      rw [daysBeforeMonth_succ year hle]
      omega

/-- Twelve months are a year. -/
theorem daysBeforeMonth_thirteen (year : Nat) : daysBeforeMonth year 13 = daysInYear year := by
  have hmonths : daysBeforeMonth year 13
      = 0 + 31 + daysIn year 2 + 31 + 30 + 31 + 30 + 31 + 31 + 30 + 31 + 30 + 31 := rfl
  rw [hmonths]
  unfold daysIn daysInYear
  rw [if_pos rfl]
  split_ifs <;> rfl

/-- A day is within its year. -/
theorem daysBeforeMonth_lt {year month day : Nat} (hmonth : 1 ≤ month ∧ month ≤ 12)
    (hday : day < daysIn year month) : daysBeforeMonth year month + day < daysInYear year := by
  have hend := daysBeforeMonth_add_le year hmonth.1 (Nat.lt_succ_of_le hmonth.2)
  rw [daysBeforeMonth_thirteen] at hend
  omega

/-! ## §3. Points in time. -/

/-- A date and a time of day with microseconds, from year 1 on. -/
structure Datetime extends Moment where
  microsecond : Nat
  year_pos : 1 ≤ year
  microsecond_lt : microsecond < 1000000

namespace Datetime

/-- The numbers, the year first. -/
def fields (t : Datetime) : List Nat := t.toMoment.fields ++ [t.microsecond]

/-- The days since the first of January of year 1. -/
def days (t : Datetime) : Nat :=
  daysBeforeYear t.year + (daysBeforeMonth t.year t.month + (t.day - 1))

/-- The microseconds since then. -/
def micros (t : Datetime) : Nat :=
  (((t.days * 24 + t.hour) * 60 + t.minute) * 60 + t.second) * 1000000 + t.microsecond

/-- **DAYS** are ordered like dates. -/
theorem days_lt_iff (s t : Datetime) :
    s.days < t.days ↔ [s.year, s.month, s.day] < [t.year, t.month, t.day] := by
  have hin : ∀ u : Datetime, u.day - 1 < daysIn u.year u.month := by
    intro u
    have hday := u.day_le
    omega
  have hyear : s.days < t.days ↔ s.year < t.year ∨ (s.year = t.year ∧
      daysBeforeMonth s.year s.month + (s.day - 1)
        < daysBeforeMonth t.year t.month + (t.day - 1)) :=
    blocks_lt_iff daysBeforeYear daysInYear (daysBeforeYear_add_le s.year_pos)
      (daysBeforeYear_add_le t.year_pos) (daysBeforeMonth_lt s.month_le (hin s))
      (daysBeforeMonth_lt t.month_le (hin t))
  rw [hyear, List.cons_lt_cons_iff]
  -- months are compared in one year
  refine or_congr Iff.rfl (and_congr_right (fun hsame => ?_))
  have hmonth := blocks_lt_iff (daysBeforeMonth t.year) (daysIn t.year)
    (daysBeforeMonth_add_le t.year s.month_le.1) (daysBeforeMonth_add_le t.year t.month_le.1)
    (hsame ▸ hin s) (hin t)
  have hday : s.day - 1 < t.day - 1 ↔ s.day < t.day := by
    have hs := s.day_le
    have ht := t.day_le
    omega
  rw [hsame, hmonth, hday, List.cons_lt_cons_iff, List.cons_lt_cons_iff]
  simp

/-- **TIME ORDER**: the first number in which two differ decides. -/
theorem micros_lt_iff (s t : Datetime) : s.micros < t.micros ↔ s.fields < t.fields :=
  radix_snoc_lt_iff
    (radix_snoc_lt_iff
      (radix_snoc_lt_iff
        (radix_snoc_lt_iff days_lt_iff (fun _ _ => rfl) (fun t => t.hour_lt))
        (fun _ _ => rfl) (fun t => t.minute_lt))
      (fun _ _ => rfl) (fun t => t.second_lt))
    (fun _ _ => rfl) (fun t => t.microsecond_lt) s t

/-- The numbers are all there is. -/
theorem fields_injective : Function.Injective fields := by
  rintro ⟨⟨y, mo, d, h, mi, s, _, _, _, _, _, _⟩, us, _, _⟩
    ⟨⟨y', mo', d', h', mi', s', _, _, _, _, _, _⟩, us', _, _⟩ heq
  injection heq with hy heq
  injection heq with hmo heq
  injection heq with hd heq
  injection heq with hh heq
  injection heq with hmi heq
  injection heq with hs heq
  injection heq with hus
  subst hy hmo hd hh hmi hs hus
  rfl

theorem micros_injective : Function.Injective micros := by
  intro s t h
  exact fields_injective ((eq_iff_of_lt_iff (micros_lt_iff s t) (micros_lt_iff t s)).mp h)

/-- Earlier: fewer microseconds. -/
instance : LinearOrder Datetime := LinearOrder.lift' micros micros_injective

theorem lt_iff {s t : Datetime} : s < t ↔ s.fields < t.fields := micros_lt_iff s t

theorem le_iff {s t : Datetime} : s ≤ t ↔ s.micros ≤ t.micros := Iff.rfl

end Datetime

end PureBoot.Lib
