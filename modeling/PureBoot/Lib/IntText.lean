/-
  PureBoot.Lib.IntText — the texts that Python's `int(text, base)` reads, and the number it
  makes of them.

  White space around a literal is dropped, a sign may come first, then the mark of the base
  (`0x`, with an underscore after it or without), then digits with single underscores
  between them.  A digit or a space that is not ASCII counts as the ASCII one.

  Main results:
    * `intOf_isSome_iff` — what is read are the literals of a grammar;
    * `intOf_digits` — the number of a text of digits;
    * `intOf_toDigits` — what is printed of a number is read as that number.
-/
import Mathlib.Data.List.TakeWhile
import PureBoot.Lib.Hex

namespace PureBoot.Lib

/-! ## §1. Characters. -/

/-- What the conversion uses of the characters that are not ASCII. -/
structure CharData where
  isSpace : Char → Bool
  /-- The value of a decimal digit. -/
  decimal : Char → Option Nat

/-- The ASCII character that counts for one. -/
def CharData.ascii (data : CharData) (c : Char) : Char :=
  if c.toNat < 128 then c
  else if data.isSpace c then ' '
  else match data.decimal c with
    | some d => d.digitChar
    | none => '?'

theorem CharData.ascii_eq (data : CharData) {c : Char} (h : c.toNat < 128) : data.ascii c = c :=
  if_pos h

theorem CharData.map_ascii (data : CharData) {text : List Char}
    (h : ∀ c ∈ text, c.toNat < 128) : text.map data.ascii = text := by
  rw [List.map_congr_left (fun c hc => data.ascii_eq (h c hc))]
  exact List.map_id text

/-- No character outside ASCII is a blank or a digit. -/
def CharData.asciiOnly : CharData := ⟨fun _ => false, fun _ => none⟩

/-- The white space of the C locale. -/
def isCSpace (c : Char) : Bool := c = ' ' || (9 ≤ c.toNat && c.toNat ≤ 13)

/-- A base, and how its digits are written. -/
structure Radix where
  base : Nat
  digit : Char → Option Nat
  /-- The letter after a leading zero. -/
  isMark : Char → Bool
  digit_of_space : ∀ c, isCSpace c = true → digit c = none
  digit_of_special : ∀ c ∈ ['_', '+', '-'], digit c = none
  of_isMark : ∀ c, isMark c = true → digit c = none ∧ c ≠ '_' ∧ isCSpace c = false

namespace Radix

variable (r : Radix)

/-! ## §2. Reading. -/

/-- Digits, as long as they go, and what follows them; with `must`, a digit comes next. -/
def readDigits : Bool → Nat → List Char → Option (Nat × List Char)
  | must, n, [] => if must then none else some (n, [])
  | must, n, c :: text =>
      match r.digit c with
      | some d => readDigits false (r.base * n + d) text
      | none =>
          if must then none
          else if c = '_' then readDigits true n text
          else some (n, c :: text)

/-- `+` or `-`: whether the number is negative. -/
def readSign : List Char → Bool × List Char
  | '+' :: text => (false, text)
  | '-' :: text => (true, text)
  | text => (false, text)

def dropUnderscore : List Char → List Char
  | '_' :: text => text
  | text => text

/-- The text without the mark of the base. -/
def dropMark : List Char → List Char
  | '0' :: x :: text => if r.isMark x then dropUnderscore text else '0' :: x :: text
  | text => text

/-- `int(text, base)`. -/
def intOf (data : CharData) (text : List Char) : Option Int :=
  let (negative, text) := readSign ((text.map data.ascii).dropWhile isCSpace)
  match r.readDigits true 0 (r.dropMark text) with
  | some (n, rest) => if rest.all isCSpace then some (if negative then -n else n) else none
  | none => none

/-! ## §3. The grammar. -/

/-- Digits with single underscores between them; with `must`, a digit comes first. -/
inductive Digits : Bool → List Char → Prop where
  | nil : Digits false []
  | digit {must c d text} : r.digit c = some d → Digits false text → Digits must (c :: text)
  | underscore {text} : Digits true text → Digits false ('_' :: text)

/-- The mark of the base, or none. -/
inductive Mark : List Char → Prop where
  | none : Mark []
  | mark {x} : r.isMark x = true → Mark ['0', x]
  | underscore {x} : r.isMark x = true → Mark ['0', x, '_']

/-- **A LITERAL** of the base. -/
structure Literal (text : List Char) : Prop where
  parts : ∃ lead sign mark digits trail, text = lead ++ (sign ++ (mark ++ (digits ++ trail)))
    ∧ lead.all isCSpace = true ∧ sign ∈ [[], ['+'], ['-']] ∧ r.Mark mark ∧ r.Digits true digits
    ∧ trail.all isCSpace = true

variable {r}

/-! ## §4. What is read is a literal. -/

/-- No digit and no underscore comes next. -/
def Ends (r : Radix) (rest : List Char) : Prop := ∀ c ∈ rest.head?, r.digit c = none ∧ c ≠ '_'

theorem digits_of_readDigits {must : Bool} {n m : Nat} {text rest : List Char}
    (h : r.readDigits must n text = some (m, rest)) :
    ∃ digits, r.Digits must digits ∧ text = digits ++ rest := by
  induction text generalizing must n with
  | nil =>
      unfold readDigits at h
      cases must with
      | true => cases h
      | false =>
          obtain ⟨-, rfl⟩ := Prod.mk.inj (Option.some.inj h)
          exact ⟨[], .nil, rfl⟩
  | cons c text ih =>
      unfold readDigits at h
      split at h
      next d hd =>
        obtain ⟨digits, hdigits, rfl⟩ := ih h
        exact ⟨c :: digits, .digit hd hdigits, rfl⟩
      next =>
        cases must with
        | true => cases h
        | false =>
            rw [if_neg Bool.false_ne_true] at h
            split at h
            next hc =>
              obtain ⟨digits, hdigits, rfl⟩ := ih h
              exact ⟨'_' :: digits, .underscore hdigits, by rw [hc]; rfl⟩
            next =>
              obtain ⟨-, rfl⟩ := Prod.mk.inj (Option.some.inj h)
              exact ⟨[], .nil, rfl⟩

theorem readSign_spec (text : List Char) :
    ∃ sign, sign ∈ [[], ['+'], ['-']] ∧ text = sign ++ (readSign text).2 := by
  unfold readSign
  split
  · exact ⟨['+'], by simp, rfl⟩
  · exact ⟨['-'], by simp, rfl⟩
  · exact ⟨[], by simp, rfl⟩

theorem dropMark_spec (text : List Char) :
    ∃ mark, r.Mark mark ∧ text = mark ++ r.dropMark text := by
  unfold dropMark
  split
  next x text =>
    split
    next hx =>
      unfold dropUnderscore
      split
      · exact ⟨_, .underscore hx, rfl⟩
      · exact ⟨_, .mark hx, rfl⟩
    next => exact ⟨[], .none, rfl⟩
  next => exact ⟨[], .none, rfl⟩

theorem literal_of_intOf {data : CharData} {text : List Char} {n : Int}
    (h : r.intOf data text = some n) : r.Literal (text.map data.ascii) := by
  unfold intOf at h
  obtain ⟨sign, hsign, hbody⟩ := readSign_spec ((text.map data.ascii).dropWhile isCSpace)
  generalize readSign ((text.map data.ascii).dropWhile isCSpace) = signed at h hbody
  obtain ⟨mark, hmark, hrest⟩ := dropMark_spec (r := r) signed.2
  dsimp only at h
  split at h
  next m trail hread =>
    split at h
    next htrail =>
      obtain ⟨digits, hdigits, heq⟩ := digits_of_readDigits hread
      refine ⟨(text.map data.ascii).takeWhile isCSpace, sign, mark, digits, trail, ?_, ?_, hsign,
        hmark, hdigits, htrail⟩
      · rw [← heq, ← hrest, ← hbody, List.takeWhile_append_dropWhile]
      · rw [List.all_eq_true]
        exact fun c hc => List.mem_takeWhile_imp hc
    next => cases h
  next => cases h

/-! ## §5. Every literal is read. -/

theorem readDigits_of_digits {must : Bool} {digits rest : List Char} (h : r.Digits must digits)
    (hrest : Ends r rest) (n : Nat) :
    ∃ m, r.readDigits must n (digits ++ rest) = some (m, rest) := by
  induction h generalizing n with
  | nil =>
      cases rest with
      | nil => exact ⟨n, rfl⟩
      | cons c rest =>
          obtain ⟨hc, hne⟩ := hrest c rfl
          refine ⟨n, ?_⟩
          rw [List.nil_append]
          unfold readDigits
          simp [hc, hne]
  | @digit must c d text hc _ ih =>
      obtain ⟨m, hm⟩ := ih (r.base * n + d)
      refine ⟨m, ?_⟩
      rw [List.cons_append]
      unfold readDigits
      rw [hc]
      exact hm
  | underscore _ ih =>
      obtain ⟨m, hm⟩ := ih n
      refine ⟨m, ?_⟩
      rw [List.cons_append]
      unfold readDigits
      rw [r.digit_of_special '_' (by simp)]
      exact hm

theorem Digits.head {digits : List Char} (h : r.Digits true digits) :
    ∃ c d rest, digits = c :: rest ∧ r.digit c = some d ∧ r.Digits false rest := by
  cases h with
  | digit hc hrest => exact ⟨_, _, _, rfl, hc, hrest⟩

theorem isCSpace_eq_false {c : Char} {d : Nat} (h : r.digit c = some d) : isCSpace c = false := by
  rw [Bool.eq_false_iff]
  intro hspace
  rw [r.digit_of_space c hspace] at h
  cases h

theorem readSign_of_mem {sign text : List Char} (hsign : sign ∈ [[], ['+'], ['-']])
    (htext : ∀ c ∈ text.head?, c ≠ '+' ∧ c ≠ '-') : (readSign (sign ++ text)).2 = text := by
  simp only [List.mem_cons, List.not_mem_nil, or_false] at hsign
  rcases hsign with rfl | rfl | rfl
  · cases text with
    | nil => rfl
    | cons c text =>
        obtain ⟨hplus, hminus⟩ := htext c rfl
        unfold readSign
        split
        next h => exact absurd (List.cons.inj h).1 hplus
        next h => exact absurd (List.cons.inj h).1 hminus
        next => rfl
  · rfl
  · rfl

theorem ends_of_all_space {trail : List Char} (h : trail.all isCSpace = true) : Ends r trail := by
  intro c hc
  have hspace : isCSpace c = true := List.all_eq_true.mp h c (List.mem_of_mem_head? hc)
  refine ⟨r.digit_of_space c hspace, ?_⟩
  rintro rfl
  cases hspace

/-- No mark comes next where digits have begun. -/
theorem isMark_eq_false {text trail : List Char} (h : r.Digits false text)
    (htrail : trail.all isCSpace = true) : ∀ x ∈ (text ++ trail).head?, r.isMark x = false := by
  intro x hx
  rw [Bool.eq_false_iff]
  intro hmark
  obtain ⟨hdigit, hunder, hspace⟩ := r.of_isMark x hmark
  cases h with
  | nil =>
      have hall := List.all_eq_true.mp htrail x (List.mem_of_mem_head? hx)
      rw [hspace] at hall
      cases hall
  | digit hc _ =>
      obtain rfl := Option.some.inj hx
      rw [hdigit] at hc
      cases hc
  | underscore _ =>
      obtain rfl := Option.some.inj hx
      exact hunder rfl

theorem dropMark_cons {x : Char} (hx : r.isMark x = true) (text : List Char) :
    r.dropMark ('0' :: x :: text) = dropUnderscore text := by
  show (if r.isMark x then dropUnderscore text else '0' :: x :: text) = _
  rw [if_pos hx]

theorem dropMark_of_mark {mark digits trail : List Char} (hmark : r.Mark mark)
    (hdigits : r.Digits true digits) (htrail : trail.all isCSpace = true) :
    r.dropMark (mark ++ (digits ++ trail)) = digits ++ trail := by
  obtain ⟨c, d, rest, rfl, hc, hrest⟩ := hdigits.head
  have hunder : c ≠ '_' := by
    rintro rfl
    rw [r.digit_of_special '_' (by simp)] at hc
    cases hc
  cases hmark with
  | none =>
      rw [List.nil_append, List.cons_append]
      have hnext := isMark_eq_false hrest htrail
      unfold dropMark
      split
      next x text h =>
        obtain ⟨rfl, htext⟩ := List.cons.inj h
        have hx := hnext x (by rw [htext]; rfl)
        rw [if_neg (by simp [hx]), htext]
      next => rfl
  | mark hx =>
      show r.dropMark ('0' :: _ :: (c :: (rest ++ trail))) = _
      rw [dropMark_cons hx]
      unfold dropUnderscore
      split
      next h => exact absurd (List.cons.inj h).1 hunder
      next => rfl
  | underscore hx =>
      show r.dropMark ('0' :: _ :: '_' :: ((c :: rest) ++ trail)) = _
      rw [dropMark_cons hx]
      rfl

/-- What a literal begins with, after its sign. -/
theorem Mark.head_ne {mark digits : List Char} (hmark : r.Mark mark)
    (hdigits : r.Digits true digits) (trail : List Char) :
    ∀ c ∈ (mark ++ (digits ++ trail)).head?, c ≠ '+' ∧ c ≠ '-' ∧ isCSpace c = false := by
  obtain ⟨c, d, rest, rfl, hc, -⟩ := hdigits.head
  intro x hx
  cases hmark with
  | none =>
      obtain rfl := Option.some.inj hx
      refine ⟨?_, ?_, isCSpace_eq_false hc⟩
      · rintro rfl
        rw [r.digit_of_special '+' (by simp)] at hc
        cases hc
      · rintro rfl
        rw [r.digit_of_special '-' (by simp)] at hc
        cases hc
  | mark _ =>
      obtain rfl := Option.some.inj hx
      decide
  | underscore _ =>
      obtain rfl := Option.some.inj hx
      decide

theorem dropWhile_of_literal {lead body : List Char} (hlead : lead.all isCSpace = true)
    (hbody : ∀ c ∈ body.head?, isCSpace c = false) : (lead ++ body).dropWhile isCSpace = body := by
  rw [List.dropWhile_append_of_pos (List.all_eq_true.mp hlead)]
  cases body with
  | nil => rfl
  | cons c body => exact List.dropWhile_cons_of_neg (by simp [hbody c rfl])

theorem intOf_of_literal {data : CharData} {text : List Char}
    (h : r.Literal (text.map data.ascii)) : (r.intOf data text).isSome = true := by
  obtain ⟨lead, sign, mark, digits, trail, htext, hlead, hsign, hmark, hdigits, htrail⟩ := h
  have hhead := hmark.head_ne hdigits trail
  have hbody : ∀ c ∈ (sign ++ (mark ++ (digits ++ trail))).head?, isCSpace c = false := by
    simp only [List.mem_cons, List.not_mem_nil, or_false] at hsign
    rcases hsign with rfl | rfl | rfl
    · exact fun c hc => (hhead c hc).2.2
    · rintro c ⟨⟩
      rfl
    · rintro c ⟨⟩
      rfl
  obtain ⟨m, hread⟩ := readDigits_of_digits hdigits (ends_of_all_space htrail) 0
  unfold intOf
  rw [htext, dropWhile_of_literal hlead hbody]
  have hrest := readSign_of_mem hsign (fun c hc => ⟨(hhead c hc).1, (hhead c hc).2.1⟩)
  generalize readSign (sign ++ (mark ++ (digits ++ trail))) = signed at hrest
  obtain ⟨negative, rest⟩ := signed
  obtain rfl : rest = _ := hrest
  dsimp only
  rw [dropMark_of_mark hmark hdigits htrail, hread]
  simp [htrail]

/-- **WHAT `int` READS** are the literals of its base. -/
theorem intOf_isSome_iff {data : CharData} {text : List Char} :
    (r.intOf data text).isSome = true ↔ r.Literal (text.map data.ascii) := by
  constructor
  · intro h
    obtain ⟨n, hn⟩ := Option.isSome_iff_exists.mp h
    exact literal_of_intOf hn
  · exact intOf_of_literal

/-! ## §6. Numbers. -/

/-- The number that digits spell, after `n`. -/
def digitsValue (r : Radix) (n : Nat) (digits : List Char) : Nat :=
  digits.foldl (fun n c => r.base * n + (r.digit c).getD 0) n

theorem readDigits_all {digits : List Char} (h : ∀ c ∈ digits, (r.digit c).isSome = true)
    (must : Bool) (hmust : must = true → digits ≠ []) (n : Nat) :
    r.readDigits must n digits = some (r.digitsValue n digits, []) := by
  induction digits generalizing must n with
  | nil =>
      cases must with
      | true => exact absurd rfl (hmust rfl)
      | false => rfl
  | cons c digits ih =>
      obtain ⟨d, hd⟩ := Option.isSome_iff_exists.mp (h c List.mem_cons_self)
      unfold readDigits
      rw [hd]
      dsimp only
      rw [ih (fun x hx => h x (List.mem_cons_of_mem c hx)) false (fun hf => nomatch hf)]
      unfold digitsValue
      rw [List.foldl_cons, hd]
      rfl

/-- **THE NUMBER OF A TEXT OF DIGITS.** -/
theorem intOf_digits {data : CharData} {digits : List Char} (hne : digits ≠ [])
    (hascii : ∀ c ∈ digits, c.toNat < 128) (h : ∀ c ∈ digits, (r.digit c).isSome = true) :
    r.intOf data digits = some (r.digitsValue 0 digits : Int) := by
  obtain ⟨c, rest, rfl⟩ := List.exists_cons_of_ne_nil hne
  obtain ⟨d, hd⟩ := Option.isSome_iff_exists.mp (h c List.mem_cons_self)
  have hdigits : r.Digits true (c :: rest) := by
    obtain ⟨digits, hdigits, heq⟩ := digits_of_readDigits (readDigits_all h true (fun _ => hne) 0)
    rw [List.append_nil] at heq
    exact heq ▸ hdigits
  have hmark := Mark.head_ne (r := r) .none hdigits []
  rw [List.nil_append, List.append_nil] at hmark
  obtain ⟨hplus, hminus, hspace⟩ := hmark c rfl
  have hsign : readSign (c :: rest) = (false, c :: rest) := by
    unfold readSign
    split
    next heq => exact absurd (List.cons.inj heq).1 hplus
    next heq => exact absurd (List.cons.inj heq).1 hminus
    next => rfl
  have hdrop := dropMark_of_mark (r := r) .none hdigits
    (show ([] : List Char).all isCSpace = true from rfl)
  rw [List.nil_append, List.append_nil] at hdrop
  unfold intOf
  rw [data.map_ascii hascii, List.dropWhile_cons_of_neg (by simp [hspace]), hsign]
  dsimp only
  rw [hdrop, readDigits_all h true (fun _ => hne) 0]
  rfl

/-! ## §7. The bases 10 and 16. -/

def decimalDigit (c : Char) : Option Nat := if c.isDigit then some (c.toNat - 48) else none

theorem decimalDigit_isSome {c : Char} : (decimalDigit c).isSome = c.isDigit := by
  unfold decimalDigit
  split
  next h => exact h.symm
  next h => exact (Bool.eq_false_iff.mpr h).symm

/-- What holds of every blank. -/
theorem of_isCSpace {P : Char → Prop} (h : P ' ') (hrange : ∀ n ∈ List.range' 9 5, P (Char.ofNat n))
    (c : Char) (hc : isCSpace c = true) : P c := by
  unfold isCSpace at hc
  simp only [Bool.or_eq_true, Bool.and_eq_true, decide_eq_true_eq] at hc
  rcases hc with rfl | ⟨hlow, hhigh⟩
  · exact h
  · have hrange' : ∀ n ∈ List.range' 9 (13 + 1 - 9), P (Char.ofNat n) := hrange
    exact of_code_range hrange' hlow hhigh

theorem decimalDigit_of_space : ∀ c, isCSpace c = true → decimalDigit c = none :=
  of_isCSpace (by decide) (by decide)

theorem decimalDigit_of_special : ∀ c ∈ ['_', '+', '-'], decimalDigit c = none :=
  forall_mem_of_all (by decide)

theorem of_no_mark (c : Char) (h : false = true) :
    decimalDigit c = none ∧ c ≠ '_' ∧ isCSpace c = false := by
  cases h

/-- Base 10. -/
def decimal : Radix where
  base := 10
  digit := decimalDigit
  isMark := fun _ => false
  digit_of_space := decimalDigit_of_space
  digit_of_special := decimalDigit_of_special
  of_isMark := of_no_mark

def isHexMark (c : Char) : Bool := c = 'x' || c = 'X'

theorem hexValue_of_space : ∀ c, isCSpace c = true → hexValue c = none :=
  of_isCSpace (by decide) (by decide)

theorem hexValue_of_special : ∀ c ∈ ['_', '+', '-'], hexValue c = none :=
  forall_mem_of_all (by decide)

theorem of_isHexMark (c : Char) (h : isHexMark c = true) :
    hexValue c = none ∧ c ≠ '_' ∧ isCSpace c = false := by
  unfold isHexMark at h
  simp only [Bool.or_eq_true, decide_eq_true_eq] at h
  rcases h with rfl | rfl
  · decide
  · decide

/-- Base 16. -/
def hex : Radix where
  base := 16
  digit := hexValue
  isMark := isHexMark
  digit_of_space := hexValue_of_space
  digit_of_special := hexValue_of_special
  of_isMark := of_isHexMark

end Radix

/-! ## §8. Decimal digits. -/

/-- `\d` of a pattern: what counts for a decimal digit. -/
def CharData.isDecimal (data : CharData) (c : Char) : Bool := (data.ascii c).isDigit

theorem toNat_lt_of_isDigit {c : Char} (h : c.isDigit = true) : c.toNat < 128 := by
  have hle : c.toNat ≤ 57 := (Char.isDigit_iff_toNat.mp h).2
  omega

theorem CharData.isDecimal_of_isDigit (data : CharData) {c : Char} (h : c.isDigit = true) :
    data.isDecimal c = true := by
  unfold CharData.isDecimal
  rw [data.ascii_eq (toNat_lt_of_isDigit h), h]

theorem digits_of_isDigit {must : Bool} {text : List Char} (hmust : must = true → text ≠ [])
    (h : ∀ c ∈ text, c.isDigit = true) : Radix.decimal.Digits must text := by
  induction text generalizing must with
  | nil =>
      cases must with
      | true => exact absurd rfl (hmust rfl)
      | false => exact .nil
  | cons c text ih =>
      refine .digit (d := c.toNat - 48) (if_pos (h c List.mem_cons_self)) ?_
      exact ih (fun hf => nomatch hf) (fun x hx => h x (List.mem_cons_of_mem c hx))

/-- Whatever `\d+` matches is read. -/
theorem intOf_isSome_of_isDecimal {data : CharData} {text : List Char} (hne : text ≠ [])
    (h : ∀ c ∈ text, data.isDecimal c = true) :
    (Radix.decimal.intOf data text).isSome = true := by
  refine Radix.intOf_of_literal ⟨[], [], [], text.map data.ascii, [], ?_, rfl, by simp, .none, ?_,
    rfl⟩
  · rw [List.nil_append, List.nil_append, List.nil_append, List.append_nil]
  · refine digits_of_isDigit (fun _ => by simpa using hne) (fun c hc => ?_)
    obtain ⟨x, hx, rfl⟩ := List.mem_map.mp hc
    exact h x hx

theorem digitsValue_toDigits (n : Nat) : Radix.decimal.digitsValue 0 (Nat.toDigits 10 n) = n := by
  have hfold : Radix.decimal.digitsValue 0 (Nat.toDigits 10 n)
      = Nat.ofDigitChars 10 (Nat.toDigits 10 n) 0 := by
    unfold Radix.digitsValue Nat.ofDigitChars
    refine List.foldl_ext _ _ _ (fun m c hc => ?_)
    have hdigit := Nat.isDigit_of_mem_toDigits (by decide) (le_refl 10) hc
    show 10 * m + (Radix.decimalDigit c).getD 0 = 10 * m + (c.toNat - 48)
    unfold Radix.decimalDigit
    rw [if_pos hdigit]
    rfl
  rw [hfold, Nat.ofDigitChars_ten_toDigits]

/-- **WHAT IS PRINTED OF A NUMBER** is read as that number. -/
theorem intOf_toDigits (data : CharData) (n : Nat) :
    Radix.decimal.intOf data (Nat.toDigits 10 n) = some (n : Int) := by
  have hdigit : ∀ c ∈ Nat.toDigits 10 n, c.isDigit = true :=
    fun c hc => Nat.isDigit_of_mem_toDigits (by decide) (le_refl 10) hc
  rw [Radix.intOf_digits Nat.toDigits_ne_nil (fun c hc => toNat_lt_of_isDigit (hdigit c hc))
    (fun c hc => Radix.decimalDigit_isSome.trans (hdigit c hc)), digitsValue_toDigits]

end PureBoot.Lib
