/-
  PureBoot.Lib.TextForm — TEXT FORMS of values, and files that are written in place.

  A text form writes a value as a text and reads it back.  A writer that is killed leaves a
  beginning of the text; a form whose texts end with a mark of their own tells such a
  beginning from the whole text, or reads it as the value that was meant.

  Main results:
    * `TextForm.load_written` — a file that was written, to the end or not, is refused or read
      as what was written;
    * `TextForm.tally` — a form for every type with a coding.
-/
import Mathlib.Logic.Encodable.Basic
import Mathlib.Logic.Equiv.List

namespace PureBoot.Lib

/-- A way to write values as texts, where no beginning of a text is read as another value. -/
structure TextForm (α : Type*) where
  dump : α → String
  load : String → Option α
  load_dump : ∀ a, load (dump a) = some a
  load_cut : ∀ a n, load (String.ofList ((dump a).toList.take n)) = none ∨
    load (String.ofList ((dump a).toList.take n)) = some a

/-- What a writer leaves in the file that writes all of the text, or is killed after its first
`n` characters. -/
def written (cut : Option Nat) (text : String) : String :=
  match cut with
  | some n => String.ofList (text.toList.take n)
  | none => text

namespace TextForm

variable {α : Type*} (form : TextForm α)

theorem dump_injective : Function.Injective form.dump := by
  intro a b h
  have hload : some a = some b := by
    rw [← form.load_dump a, ← form.load_dump b, h]
  exact Option.some.inj hload

/-- **A WRITTEN FILE** is refused, or read as what was written. -/
theorem load_written (cut : Option Nat) (a : α) :
    form.load (written cut (form.dump a)) = none ∨
      form.load (written cut (form.dump a)) = some a := by
  cases cut with
  | none => exact .inr (form.load_dump a)
  | some n => exact form.load_cut a n

/-- A form for numbers: a stroke for each unit, and a stop. -/
def strokes : TextForm Nat where
  dump n := String.ofList (List.replicate n '|' ++ ['.'])
  load text :=
    if text.toList = List.replicate (text.toList.length - 1) '|' ++ ['.']
    then some (text.toList.length - 1) else none
  load_dump n := by simp
  load_cut n m := by
    simp only [String.toList_ofList]
    by_cases hm : m ≤ n
    · -- a beginning holds strokes only, so it does not end with the stop
      left
      rw [List.take_append_of_le_length (by simpa using hm), List.take_replicate,
        Nat.min_eq_left hm, if_neg]
      intro h
      have hstop : '.' ∈ List.replicate m '|' := by
        rw [h]
        exact List.mem_append_right _ (List.mem_singleton_self _)
      exact absurd (List.eq_of_mem_replicate hstop) (by decide)
    · right
      rw [List.take_of_length_le (by simp; omega)]
      simp

/-- A form for every type with a coding. -/
def tally (α : Type*) [Encodable α] : TextForm α where
  dump a := strokes.dump (Encodable.encode a)
  load text := (strokes.load text).bind Encodable.decode
  load_dump a := by
    rw [strokes.load_dump, Option.bind_some, Encodable.encodek]
  load_cut a n := by
    rcases strokes.load_cut (Encodable.encode a) n with h | h
    · left
      rw [h, Option.bind_none]
    · right
      rw [h, Option.bind_some, Encodable.encodek]

theorem tally_ne_empty {α : Type*} [Encodable α] (a : α) : (tally α).dump a ≠ "" := by
  intro h
  have hchars : (List.replicate (Encodable.encode a) '|' ++ ['.']) = [] :=
    String.toList_ofList.symm.trans (congrArg String.toList h)
  simp at hchars

end TextForm

instance encodableChar : Encodable Char := .ofLeftInverse Char.toNat Char.ofNat Char.ofNat_toNat

instance encodableString : Encodable String :=
  .ofLeftInverse String.toList String.ofList (fun _ => String.ofList_toList)

end PureBoot.Lib
