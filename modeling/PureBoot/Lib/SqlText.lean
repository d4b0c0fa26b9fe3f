/-
  PureBoot.Lib.SqlText — POINTS IN TIME as texts in a column of SQLite.

  `CURRENT_TIMESTAMP` is a text in whole seconds.  A time that is bound to a statement is a text
  with six more digits, and its time zone is dropped.  Columns of such texts are compared byte
  by byte, so that of two texts of one second the one that stops there is the lesser.

  Main results:
    * `SqlTimestamp.bound_le_iff` — a bound is met by the times AFTER it, and not by the same
      time.
-/
import PureBoot.Lib.IsoText

namespace PureBoot.Lib

/-- `YYYY-MM-DD HH:MM:SS`. -/
def sqlFormat : List Field := Moment.formatWith ' '

theorem fits_sqlFormat (t : Moment) : Fits sqlFormat t.fields := t.fits_formatWith ' '

/-- A time of UTC in whole seconds, from year 1 on. -/
structure SqlTimestamp extends Moment where
  year_pos : 1 ≤ year
  deriving DecidableEq

/-- The text of a bound time. -/
def Datetime.sqlText (t : Datetime) : List Char :=
  spell sqlFormat t.toMoment.fields ++ '.' :: padded 6 t.microsecond

theorem spell_sqlFormat_ascii (t : Moment) : ∀ c ∈ spell sqlFormat t.fields, c.toNat < 128 := by
  have hafter : ∀ f ∈ sqlFormat, ∀ c ∈ f.after, c.toNat < 128 := by
    have hall : sqlFormat.all (fun f => f.after.all (fun c => c.toNat < 128)) = true := rfl
    simpa using hall
  exact forall_mem_spell digitChar_ascii hafter _

theorem Datetime.sqlText_ascii (t : Datetime) : ∀ c ∈ t.sqlText, c.toNat < 128 := by
  intro c hc
  rcases List.mem_append.mp hc with hc | hc
  · exact spell_sqlFormat_ascii t.toMoment c hc
  · rcases List.mem_cons.mp hc with rfl | hc
    · decide
    · obtain ⟨d, hd, rfl⟩ := mem_padded hc
      exact digitChar_ascii d hd

namespace SqlTimestamp

/-- `CURRENT_TIMESTAMP`. -/
def text (t : SqlTimestamp) : List Char := spell sqlFormat t.fields

theorem text_ascii (t : SqlTimestamp) : ∀ c ∈ t.text, c.toNat < 128 :=
  spell_sqlFormat_ascii t.toMoment

/-- The same time with microseconds. -/
def toDatetime (t : SqlTimestamp) : Datetime where
  toMoment := t.toMoment
  microsecond := 0
  year_pos := t.year_pos
  microsecond_lt := by decide

/-- The microseconds since the first of January of year 1. -/
def micros (t : SqlTimestamp) : Nat := t.toDatetime.micros

theorem length_spell_eq (s t : Moment) :
    (spell sqlFormat s.fields).length = (spell sqlFormat t.fields).length := by
  rw [length_spell (fits_sqlFormat s), length_spell (fits_sqlFormat t)]

/-- A text is less than a bound exactly if its second does not come later. -/
theorem text_lt_sqlText_iff (t : SqlTimestamp) (bound : Datetime) :
    t.text < bound.sqlText ↔ ¬ bound.toMoment.fields < t.fields := by
  have htext : t.text = t.text ++ [] := (List.append_nil _).symm
  have hbehind : ([] : List Char) < '.' :: padded 6 bound.microsecond := List.nil_lt_cons _ _
  have hprefix := spell_lt_iff (fits_sqlFormat t.toMoment) (fits_sqlFormat bound.toMoment)
  have hprefix' := spell_lt_iff (fits_sqlFormat bound.toMoment) (fits_sqlFormat t.toMoment)
  rw [htext]
  unfold text Datetime.sqlText
  rw [append_lt_append_iff (length_spell_eq _ _), and_iff_left hbehind, hprefix,
    eq_iff_of_lt_iff hprefix hprefix', ← le_iff_lt_or_eq, not_lt]

/-- **A BOUND** is met by the times after it. -/
theorem bound_le_iff (t : SqlTimestamp) (bound : Datetime) :
    byteText bound.sqlText ≤ byteText t.text ↔ bound.micros < t.micros := by
  have hlength : bound.toMoment.fields.length = t.fields.length := rfl
  show ¬ byteText t.text < byteText bound.sqlText ↔ _
  rw [byteText_lt_iff t.text_ascii bound.sqlText_ascii,
    text_lt_sqlText_iff, not_not]
  refine Iff.trans ?_ (Datetime.micros_lt_iff bound t.toDatetime).symm
  have hbehind : ¬ [bound.microsecond] < [0] := by
    rw [List.cons_lt_cons_iff]
    simp
  show _ ↔ bound.toMoment.fields ++ [bound.microsecond] < t.fields ++ [0]
  rw [append_lt_append_iff hlength, or_iff_left (fun h => hbehind h.2)]

end SqlTimestamp

end PureBoot.Lib
