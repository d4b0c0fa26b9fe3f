/-
  PureBoot.Lib.IsoText — POINTS IN TIME as ISO 8601 texts with the offset of UTC.

  `isoformat` writes a date and a time of day with leading zeros, then the microseconds if
  there are any, and then the offset.  So two texts can differ for the first time where one
  has a full stop and the other one the plus sign of the offset, which is less; and the
  text without microseconds is the earlier one.  All characters are ASCII, so the bytes of
  such texts are ordered like their characters.

  Main results:
    * `isoformat_lt_iff` — byte order is time order;
    * `fromIsoformat_isoformat` — what was written is read back.
-/
import PureBoot.Lib.Calendar

namespace PureBoot.Lib

/-! ## §1. Bytes. -/

/-- The UTF-8 bytes of a text. -/
def byteText (t : List Char) : List UInt8 := t.flatMap String.utf8EncodeChar

theorem utf8EncodeChar_ascii {c : Char} (h : c.toNat < 128) :
    String.utf8EncodeChar c = [c.val.toUInt8] :=
  String.utf8EncodeChar_eq_singleton (by
    unfold Char.utf8Size
    rw [if_pos]
    show c.toNat ≤ 127
    omega)

theorem toUInt8_lt_iff {c d : Char} (hc : c.toNat < 128) (hd : d.toNat < 128) :
    c.val.toUInt8 < d.val.toUInt8 ↔ c < d := by
  rw [UInt8.lt_iff_toNat_lt, UInt32.toNat_toUInt8, UInt32.toNat_toUInt8]
  show c.toNat % 256 < d.toNat % 256 ↔ c.toNat < d.toNat
  omega

theorem toUInt8_inj {c d : Char} (hc : c.toNat < 128) (hd : d.toNat < 128) :
    c.val.toUInt8 = d.val.toUInt8 ↔ c = d := by
  rw [← UInt8.toNat_inj, UInt32.toNat_toUInt8, UInt32.toNat_toUInt8, ← Char.toNat_inj]
  show c.toNat % 256 = d.toNat % 256 ↔ c.toNat = d.toNat
  omega

/-- **BYTE ORDER** of ASCII texts is the order of their characters. -/
theorem byteText_lt_iff {s t : List Char} (hs : ∀ c ∈ s, c.toNat < 128)
    (ht : ∀ c ∈ t, c.toNat < 128) : byteText s < byteText t ↔ s < t := by
  induction s generalizing t with
  | nil =>
      cases t with
      | nil => exact iff_of_false (List.not_lt_nil _) (List.not_lt_nil _)
      | cons d t =>
          have hd := utf8EncodeChar_ascii (ht d List.mem_cons_self)
          show [] < String.utf8EncodeChar d ++ byteText t ↔ _
          rw [hd]
          exact iff_of_true (List.nil_lt_cons _ _) (List.nil_lt_cons _ _)
  | cons c s ih =>
      have hc := hs c List.mem_cons_self
      cases t with
      | nil => exact iff_of_false (List.not_lt_nil _) (List.not_lt_nil _)
      | cons d t =>
          have hd := ht d List.mem_cons_self
          show String.utf8EncodeChar c ++ byteText s < String.utf8EncodeChar d ++ byteText t ↔ _
          rw [utf8EncodeChar_ascii hc, utf8EncodeChar_ascii hd, List.singleton_append,
            List.singleton_append, List.cons_lt_cons_iff, List.cons_lt_cons_iff,
            toUInt8_lt_iff hc hd, toUInt8_inj hc hd,
            ih (fun x hx => hs x (List.mem_cons_of_mem c hx))
              (fun x hx => ht x (List.mem_cons_of_mem d hx))]

/-! ## §2. Writing. -/

/-- The offset of UTC. -/
def utcOffset : List Char := ['+', '0', '0', ':', '0', '0']

/-- The microseconds, if there are any. -/
def fraction (microsecond : Nat) : List Char :=
  if microsecond = 0 then [] else '.' :: padded 6 microsecond

/-- `datetime.isoformat`, of a time of UTC. -/
def isoformat (t : Datetime) : List Char :=
  spell Moment.format t.toMoment.fields ++ (fraction t.microsecond ++ utcOffset)

/-- After the seconds: the plus sign is before the full stop. -/
theorem fraction_lt_iff {m n : Nat} (hm : m < 10 ^ 6) (hn : n < 10 ^ 6) :
    fraction m ++ utcOffset < fraction n ++ utcOffset ↔ m < n := by
  unfold fraction
  by_cases hm0 : m = 0
  · by_cases hn0 : n = 0
    · rw [if_pos hm0, if_pos hn0, hm0, hn0]
      exact iff_of_false (lt_irrefl _) (lt_irrefl 0)
    · -- `+` against `.`: the text without microseconds is the earlier one
      rw [if_pos hm0, if_neg hn0]
      refine iff_of_true ?_ (by omega)
      exact List.cons_lt_cons_iff.mpr (.inl (by decide))
  · by_cases hn0 : n = 0
    · rw [if_neg hm0, if_pos hn0]
      refine iff_of_false (fun h => ?_) (by omega)
      rcases List.cons_lt_cons_iff.mp h with hlt | ⟨heq, -⟩
      · exact absurd hlt (by decide)
      · exact absurd heq (by decide)
    · -- both have six digits, and the same offset after them
      rw [if_neg hm0, if_neg hn0, List.cons_append, List.cons_append, List.cons_lt_cons_iff,
        append_lt_append_iff ((length_padded 6 m).trans (length_padded 6 n).symm),
        padded_lt_iff hm hn]
      simp

/-- The characters are ordered like the times. -/
theorem isoformat_chars_lt_iff (s t : Datetime) : isoformat s < isoformat t ↔ s < t := by
  have hs := s.toMoment.fits_fields
  have ht := t.toMoment.fits_fields
  have hprefix := spell_lt_iff hs ht
  have hlength : (spell Moment.format s.toMoment.fields).length
      = (spell Moment.format t.toMoment.fields).length := by
    rw [length_spell hs, length_spell ht]
  unfold isoformat
  rw [append_lt_append_iff hlength, hprefix,
    eq_iff_of_lt_iff hprefix (spell_lt_iff ht hs),
    fraction_lt_iff s.microsecond_lt t.microsecond_lt, Datetime.lt_iff]
  have hsame : s.toMoment.fields.length = t.toMoment.fields.length := rfl
  unfold Datetime.fields
  rw [append_lt_append_iff hsame, List.cons_lt_cons_iff]
  simp

/-- A digit of a padded number. -/
theorem mem_padded {width n : Nat} {c : Char} (h : c ∈ padded width n) :
    ∃ d < 10, c = Nat.digitChar d := by
  induction width generalizing n with
  | zero => cases h
  | succ width ih =>
      unfold padded at h
      rcases List.mem_append.mp h with h | h
      · exact ih h
      · exact ⟨n % 10, Nat.mod_lt n (by decide), List.mem_singleton.mp h⟩

theorem forall_mem_spell {P : Char → Prop} (hdigit : ∀ d < 10, P (Nat.digitChar d))
    {format : List Field} (hafter : ∀ f ∈ format, ∀ c ∈ f.after, P c) (ns : List Nat) :
    ∀ c ∈ spell format ns, P c := by
  induction format generalizing ns with
  | nil =>
      intro c hc
      cases hc
  | cons f format ih =>
      cases ns with
      | nil =>
          intro c hc
          cases hc
      | cons n ns =>
          intro c hc
          unfold spell at hc
          rcases List.mem_append.mp hc with hc | hc
          · obtain ⟨d, hd, rfl⟩ := mem_padded hc
            exact hdigit d hd
          · rcases List.mem_append.mp hc with hc | hc
            · exact hafter f List.mem_cons_self c hc
            · exact ih (fun f' hf' => hafter f' (List.mem_cons_of_mem f hf')) ns c hc

theorem digitChar_ascii : ∀ d < 10, (Nat.digitChar d).toNat < 128 := by decide

theorem isoformat_ascii (t : Datetime) : ∀ c ∈ isoformat t, c.toNat < 128 := by
  have hafter : ∀ f ∈ Moment.format, ∀ c ∈ f.after, c.toNat < 128 := by
    have hall : Moment.format.all (fun f => f.after.all (fun c => c.toNat < 128)) = true := rfl
    simpa using hall
  intro c hc
  rcases List.mem_append.mp hc with hc | hc
  · exact forall_mem_spell digitChar_ascii hafter _ c hc
  · rcases List.mem_append.mp hc with hc | hc
    · unfold fraction at hc
      split at hc
      next => cases hc
      next =>
        rcases List.mem_cons.mp hc with rfl | hc
        · decide
        · obtain ⟨d, hd, rfl⟩ := mem_padded hc
          exact digitChar_ascii d hd
    · have hall : utcOffset.all (fun c => c.toNat < 128) = true := rfl
      exact of_decide_eq_true (List.all_eq_true.mp hall c hc)

/-- **BYTE ORDER IS TIME ORDER.** -/
theorem isoformat_lt_iff (s t : Datetime) :
    byteText (isoformat s) < byteText (isoformat t) ↔ s < t :=
  (byteText_lt_iff (isoformat_ascii s) (isoformat_ascii t)).trans (isoformat_chars_lt_iff s t)

/-! ## §3. Reading. -/

/-- A number of so many digits, and the text after it. -/
def readNumber (width : Nat) (text : List Char) : Option (Nat × List Char) :=
  let digits := text.take width
  if digits.length = width ∧ digits.all Char.isDigit = true then
    some (Nat.ofDigitChars 10 digits 0, text.drop width)
  else none

/-- The numbers of a format, and the text after them. -/
def readFields : List Field → List Char → Option (List Nat × List Char)
  | [], text => some ([], text)
  | f :: format, text => do
      let (n, text) ← readNumber f.width text
      if f.after <+: text then
        let (ns, text) ← readFields format (text.drop f.after.length)
        return (n :: ns, text)
      else none

/-- The microseconds, if there are any. -/
def readFraction : List Char → Option (Nat × List Char)
  | '.' :: text => readNumber 6 text
  | text => some (0, text)

/-- The date and the time of day with these numbers. -/
def Datetime.ofFields? : List Nat → Nat → Option Datetime
  | [year, month, day, hour, minute, second], microsecond =>
      if h : (1 ≤ year ∧ year ≤ 9999) ∧ (1 ≤ month ∧ month ≤ 12) ∧
          (1 ≤ day ∧ day ≤ daysIn year month) ∧ hour < 24 ∧ minute < 60 ∧ second < 60 ∧
          microsecond < 1000000 then
        some
          { year, month, day, hour, minute, second, microsecond
            year_pos := h.1.1, year_le := h.1.2, month_le := h.2.1, day_le := h.2.2.1
            hour_lt := h.2.2.2.1, minute_lt := h.2.2.2.2.1, second_lt := h.2.2.2.2.2.1
            microsecond_lt := h.2.2.2.2.2.2 }
      else none
  | _, _ => none

/-- `datetime.fromisoformat`, of a text as `isoformat` writes it. -/
def fromIsoformat (text : List Char) : Option Datetime := do
  let (numbers, text) ← readFields Moment.format text
  let (microsecond, text) ← readFraction text
  if text = utcOffset then Datetime.ofFields? numbers microsecond else none

/-- **A PADDED NUMBER** is read back. -/
theorem ofDigitChars_padded {width n : Nat} (h : n < 10 ^ width) :
    Nat.ofDigitChars 10 (padded width n) 0 = n := by
  induction width generalizing n with
  | zero => exact (Nat.lt_one_iff.mp h).symm
  | succ width ih =>
      have hn : n / 10 < 10 ^ width := Nat.div_lt_of_lt_mul (by rwa [Nat.pow_succ'] at h)
      unfold padded
      rw [Nat.ofDigitChars_append, ih hn,
        Nat.ofDigitChars_cons_digitChar_of_lt_ten (Nat.mod_lt n (by decide)),
        Nat.ofDigitChars_nil]
      omega

theorem readNumber_padded {width n : Nat} (h : n < 10 ^ width) (rest : List Char) :
    readNumber width (padded width n ++ rest) = some (n, rest) := by
  have hdigit : ∀ d < 10, (Nat.digitChar d).isDigit = true := by decide
  have htake : (padded width n ++ rest).take width = padded width n :=
    List.take_left' (length_padded width n)
  have hdrop : (padded width n ++ rest).drop width = rest :=
    List.drop_left' (length_padded width n)
  have hall : (padded width n).all Char.isDigit = true := by
    refine List.all_eq_true.mpr (fun c hc => ?_)
    obtain ⟨d, hd, rfl⟩ := mem_padded hc
    exact hdigit d hd
  unfold readNumber
  dsimp only
  rw [htake, hdrop, if_pos ⟨length_padded width n, hall⟩, ofDigitChars_padded h]

/-- **A TEXT OF PADDED NUMBERS** is read back. -/
theorem readFields_spell {format : List Field} {ns : List Nat} (h : Fits format ns)
    (rest : List Char) : readFields format (spell format ns ++ rest) = some (ns, rest) := by
  induction h with
  | nil => rfl
  | @cons f n format ns hn _ ih =>
      have hprefix : f.after <+: f.after ++ (spell format ns ++ rest) := List.prefix_append _ _
      unfold spell readFields
      rw [List.append_assoc, readNumber_padded hn, List.append_assoc]
      show (if f.after <+: f.after ++ (spell format ns ++ rest) then _ else none) = _
      rw [if_pos hprefix, List.drop_left, ih]
      rfl

theorem readFraction_fraction {n : Nat} (h : n < 10 ^ 6) :
    readFraction (fraction n ++ utcOffset) = some (n, utcOffset) := by
  unfold fraction
  by_cases hzero : n = 0
  · rw [if_pos hzero, hzero]
    rfl
  · rw [if_neg hzero]
    exact readNumber_padded h utcOffset

theorem ofFields?_fields (t : Datetime) :
    Datetime.ofFields? t.toMoment.fields t.microsecond = some t :=
  dif_pos ⟨⟨t.year_pos, t.year_le⟩, t.month_le, t.day_le, t.hour_lt, t.minute_lt, t.second_lt,
    t.microsecond_lt⟩

/-- **WHAT WAS WRITTEN IS READ BACK.** -/
theorem fromIsoformat_isoformat (t : Datetime) : fromIsoformat (isoformat t) = some t := by
  unfold fromIsoformat isoformat
  rw [readFields_spell t.toMoment.fits_fields]
  show (do
    let (microsecond, text) ← readFraction (fraction t.microsecond ++ utcOffset)
    if text = utcOffset then Datetime.ofFields? t.toMoment.fields microsecond else none) = _
  -- nothing but the offset is left
  rw [readFraction_fraction t.microsecond_lt]
  show (if utcOffset = utcOffset then Datetime.ofFields? t.toMoment.fields t.microsecond
    else none) = some t
  rw [if_pos rfl, ofFields?_fields]

example : (fromIsoformat "2024-02-29T23:59:59.000001+00:00".toList).map Datetime.fields
    = some [2024, 2, 29, 23, 59, 59, 1] := by
  decide

end PureBoot.Lib
