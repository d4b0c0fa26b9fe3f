/-
  PureBoot.Lib.Commands — TEXTS OF COMMANDS, one line after another.

  A line is cut into words at its blanks; a line whose first word is a remark says nothing,
  and some words end a command, so that a line can hold several.  What a text orders is read
  off its lines.  A text that is put together from lines, some of them with a text from
  elsewhere in them, orders what each of these lines orders: a line break, or a word that
  ends a command, in the foreign text can add to it.

  Main results:
    * `Dialect.commands_endLines` — what a text of lines orders, line by line;
    * `Dialect.commands_remark`, `Dialect.commands_mute` — a plain text in a remark, or in a
      command that does nothing, orders nothing.
-/
import Mathlib.Tactic.Common

namespace PureBoot.Lib

/-! ## §1. Lines. -/

/-- The lines of a text; the last one is what follows the last line break. -/
def textLines (t : List Char) : List (List Char) := t.splitOn '\n'

/-- The lines, each ended by a line break. -/
def endLines (lines : List String) : String := String.join (lines.map (· ++ "\n"))

theorem endLines_cons (line : String) (lines : List String) :
    endLines (line :: lines) = line ++ "\n" ++ endLines lines := by
  unfold endLines
  rw [List.map_cons, String.join_cons]

/-- **THE LINES OF A TEXT OF LINES**: one of them may be several. -/
theorem textLines_endLines (lines : List String) :
    textLines (endLines lines).toList = lines.flatMap (fun l => textLines l.toList) ++ [[]] := by
  induction lines with
  | nil => rfl
  | cons line lines ih =>
      have hcons : (endLines (line :: lines)).toList
          = line.toList ++ '\n' :: (endLines lines).toList := by
        rw [endLines_cons, String.toList_append, String.toList_append, List.append_assoc]
        rfl
      rw [hcons]
      unfold textLines at ih ⊢
      rw [List.splitOn_append_cons_self, ih, List.flatMap_cons, List.append_assoc]

/-! ## §2. Commands. -/

/-- How lines are read. -/
structure Dialect where
  isBlank : Char → Bool
  /-- The line is a remark, by its first word. -/
  isRemark : List Char → Bool
  /-- The word ends a command. -/
  isEnd : List Char → Bool
  /-- The command does nothing, by its first word. -/
  isMute : List Char → Bool

namespace Dialect

variable (d : Dialect)

/-- The words of a line. -/
def words (line : List Char) : List (List Char) :=
  (line.splitOnP d.isBlank).filter (fun w => !w.isEmpty)

/-- The command does something. -/
def counts : List (List Char) → Bool
  | [] => false
  | w :: _ => !d.isMute w

/-- What a line orders. -/
def ofWords : List (List Char) → List (List (List Char))
  | [] => []
  | w :: ws => if d.isRemark w then [] else ((w :: ws).splitOnP d.isEnd).filter d.counts

/-- What the lines of a text order. -/
def ofText (t : List Char) : List (List (List Char)) :=
  (textLines t).flatMap (fun line => d.ofWords (d.words line))

/-- **WHAT A TEXT ORDERS**: the commands that do something. -/
def commands (text : String) : List (List (List Char)) := d.ofText text.toList

/-- What a text that is spelled out orders. -/
theorem commands_ofList (t : List Char) : d.commands (String.ofList t) = d.ofText t := by
  unfold commands
  rw [String.toList_ofList]

theorem commands_ofList_append (a b c : List Char) :
    d.commands (String.ofList a ++ String.ofList b ++ String.ofList c)
      = d.ofText (a ++ b ++ c) := by
  rw [← String.ofList_append, ← String.ofList_append, commands_ofList]

theorem flatMap_commands_ofList (ts : List (List Char)) :
    (ts.map String.ofList).flatMap d.commands = ts.flatMap d.ofText := by
  rw [List.flatMap_map]
  exact congrArg (fun f => ts.flatMap f) (funext d.commands_ofList)

theorem commands_endLines (lines : List String) :
    d.commands (endLines lines) = lines.flatMap d.commands := by
  have hblank : d.ofWords (d.words []) = [] := rfl
  unfold commands ofText
  rw [textLines_endLines, List.flatMap_append, List.flatMap_assoc, List.flatMap_singleton, hblank,
    List.append_nil]

/-- The text is one line, and nothing in it ends a command. -/
def Plain (text : String) : Prop :=
  '\n' ∉ text.toList ∧ ∀ w ∈ d.words text.toList, d.isEnd w = false

variable {d} {pre text : String}

theorem commands_of_line (h : '\n' ∉ text.toList) :
    d.commands text = d.ofWords (d.words text.toList) := by
  unfold commands ofText textLines
  rw [List.splitOn_eq_singleton h, List.flatMap_singleton]

/-- The words before a blank, and after it. -/
theorem words_append {b : Char} (hb : d.isBlank b = true) (s t : List Char) :
    d.words (s ++ b :: t) = d.words s ++ d.words t := by
  unfold words
  rw [List.splitOnP_append_cons s t hb, List.filter_append]

/-- A text behind the beginning of a line, with a blank between. -/
theorem words_line (hb : d.isBlank ' ' = true) (pre text : String) :
    d.words (pre ++ " " ++ text).toList = d.words pre.toList ++ d.words text.toList := by
  have hlist : (pre ++ " " ++ text).toList = pre.toList ++ ' ' :: text.toList := by
    rw [String.toList_append, String.toList_append, List.append_assoc]
    rfl
  rw [hlist, words_append hb]

theorem not_mem_line (hpre : '\n' ∉ pre.toList) (htext : '\n' ∉ text.toList) :
    '\n' ∉ (pre ++ " " ++ text).toList := by
  rw [String.toList_append, String.toList_append, List.mem_append, List.mem_append, not_or, not_or]
  exact ⟨⟨hpre, by decide⟩, htext⟩

/-- **A PLAIN TEXT IN A REMARK** orders nothing. -/
theorem commands_remark (pre : String) (hb : d.isBlank ' ' = true) {w : List Char}
    {ws : List (List Char)} (hpre : d.words pre.toList = w :: ws) (hremark : d.isRemark w = true)
    (hline : '\n' ∉ pre.toList) (htext : '\n' ∉ text.toList) :
    d.commands (pre ++ " " ++ text) = [] := by
  rw [commands_of_line (not_mem_line hline htext), words_line hb, hpre, List.cons_append]
  exact if_pos hremark

/-- **A PLAIN TEXT IN A COMMAND THAT DOES NOTHING** orders nothing. -/
theorem commands_mute (pre : String) (hb : d.isBlank ' ' = true) {w : List Char}
    {ws : List (List Char)} (hpre : d.words pre.toList = w :: ws) (hmute : d.isMute w = true)
    (hends : ∀ w' ∈ w :: ws, d.isEnd w' = false) (hline : '\n' ∉ pre.toList)
    (htext : d.Plain text) : d.commands (pre ++ " " ++ text) = [] := by
  rw [commands_of_line (not_mem_line hline htext.1), words_line hb, hpre, List.cons_append]
  have hall : ∀ w' ∈ w :: (ws ++ d.words text.toList), d.isEnd w' = false := by
    intro w' hw'
    rw [← List.cons_append] at hw'
    rcases List.mem_append.mp hw' with hw' | hw'
    · exact hends w' hw'
    · exact htext.2 w' hw'
  show (if d.isRemark w = true then [] else _) = []
  rw [List.splitOnP_eq_singleton hall]
  split
  next => rfl
  next => simp [counts, hmute]

end Dialect

end PureBoot.Lib
