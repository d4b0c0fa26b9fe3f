/-
  PureBoot.Lib.LdapFilter — LDAP SEARCH FILTERS as texts (RFC 4515) and what they match.

  An assertion value is a text in which `*`, `(`, `)`, the backslash and NUL are written as
  escapes: a backslash and the two hexadecimal digits of an octet.  A bare `*` makes a
  presence test or a substring test of an equality, a bare parenthesis ends the filter.

  Main results:
    * `parse_equality` — a value without special characters is compared as it stands;
    * `parse_special` — any other one is compared with another value, or not for equality.
-/
import Mathlib.Data.List.Infix
import Mathlib.Data.List.TakeWhile
import PureBoot.Lib.Hex

namespace PureBoot.Lib.Ldap

/-! ## §1. Filters. -/

abbrev Text := List Char

abbrev Octets := List UInt8

/-- The octets of a text. -/
def utf8 (t : Text) : Octets := t.flatMap String.utf8EncodeChar

/-- An extensible match. -/
structure Extensible where
  attr : Option Text
  dn : Bool
  rule : Option Text
  value : Octets

inductive Filter where
  | and (f g : Filter)
  | or (f g : Filter)
  | not (f : Filter)
  | equality (attr : Text) (value : Octets)
  | greaterOrEqual (attr : Text) (value : Octets)
  | lessOrEqual (attr : Text) (value : Octets)
  | approx (attr : Text) (value : Octets)
  | present (attr : Text)
  | substrings (attr : Text) (initial : Octets) (any : List Octets) (final : Octets)
  | extensible (e : Extensible)

/-! ## §2. Items. -/

/-- The characters that stand in a value only as escapes. -/
def isSpecial (c : Char) : Bool :=
  c = '*' || c = '(' || c = ')' || c = '\\' || c = '\x00'

/-- `assertionvalue`. -/
def readValue : Text → Option Octets
  | [] => some []
  | '\\' :: a :: b :: t => do
      let octet ← hexByte a b
      let rest ← readValue t
      return UInt8.ofNat octet :: rest
  | c :: t =>
      if isSpecial c then none
      else (readValue t).map (fun rest => String.utf8EncodeChar c ++ rest)

/-- `keychar` and the characters between keys. -/
def isAttrChar (c : Char) : Bool := c.isAlphanum || c = '-' || c = ';' || c = '.'

/-- `attributedescription`: a letter or a digit begins it. -/
def isAttribute (t : Text) : Bool := t.head?.any Char.isAlphanum && t.all isAttrChar

/-- `present`, `substring` or a comparison for equality. -/
def readEquality (attr right : Text) : Option Filter :=
  match right.splitOn '*' with
  | [value] => (readValue value).map (.equality attr)
  | [[], []] => some (.present attr)
  | initial :: rest => do
      let initial ← readValue initial
      let any ← rest.dropLast.mapM readValue
      let final ← readValue (rest.getLastD [])
      return .substrings attr initial any final
  | [] => none

/-- What stands before the colon of an extensible match. -/
def readExtensible (left : Text) (value : Octets) : Option Filter :=
  let name (t : Text) := if isAttribute t then some t else none
  match left.splitOn ':' with
  | [a] => do
      let attr ← name a
      return .extensible ⟨some attr, false, none, value⟩
  | [a, b] =>
      if a = [] then do
        let rule ← name b
        return .extensible ⟨none, false, some rule, value⟩
      else if b = "dn".toList then do
        let attr ← name a
        return .extensible ⟨some attr, true, none, value⟩
      else do
        let attr ← name a
        let rule ← name b
        return .extensible ⟨some attr, false, some rule, value⟩
  | [a, b, c] =>
      if b ≠ "dn".toList then none
      else if a = [] then do
        let rule ← name c
        return .extensible ⟨none, true, some rule, value⟩
      else do
        let attr ← name a
        let rule ← name c
        return .extensible ⟨some attr, true, some rule, value⟩
  | _ => none

/-- `item`: the text up to the first `=` tells its kind. -/
def readItem (item : Text) : Option Filter :=
  let left := item.takeWhile (fun c => c ≠ '=')
  match item.dropWhile (fun c => c ≠ '=') with
  | [] => none
  | _ :: right =>
      let named (make : Text → Octets → Filter) :=
        if isAttribute left.dropLast then (readValue right).map (make left.dropLast) else none
      match left.getLast? with
      | some '~' => named .approx
      | some '>' => named .greaterOrEqual
      | some '<' => named .lessOrEqual
      | some ':' => (readValue right).bind (readExtensible left.dropLast)
      | _ => if isAttribute left then readEquality left right else none

/-! ## §3. Filters as texts. -/

def isParen (c : Char) : Bool := c = '(' || c = ')'

/-- `)`. -/
def close (f : Filter) : Text → Option (Filter × Text)
  | ')' :: t => some (f, t)
  | _ => none

mutual

/-- `filter`, and what follows it. -/
def readFilter : Nat → Text → Option (Filter × Text)
  | n + 1, '(' :: '&' :: t => do
      let (f, t) ← readFilters .and n t
      close f t
  | n + 1, '(' :: '|' :: t => do
      let (f, t) ← readFilters .or n t
      close f t
  | n + 1, '(' :: '!' :: t => do
      let (f, t) ← readFilter n t
      close (.not f) t
  | _ + 1, '(' :: t => do
      let f ← readItem (t.takeWhile (fun c => !isParen c))
      close f (t.dropWhile (fun c => !isParen c))
  | _, _ => none

/-- `filterlist`. -/
def readFilters (op : Filter → Filter → Filter) : Nat → Text → Option (Filter × Text)
  | n + 1, t => do
      let (f, t) ← readFilter n t
      match t with
      | '(' :: _ => do
          let (g, t) ← readFilters op n t
          return (op f g, t)
      | _ => return (f, t)
  | 0, _ => none

end

/-- A text as a filter; `none` if it is no filter. -/
def parse (t : Text) : Option Filter :=
  match readFilter (t.length + 1) t with
  | some (f, []) => some f
  | _ => none

/-! ## §4. What is matched. -/

/-- An entry of a directory: its name, and the values of its attributes. -/
structure Entry where
  dn : Text
  values : Text → List Text

/-- The matching rules of a directory. -/
structure Rules where
  /-- The server knows the attribute. -/
  known : Text → Bool
  equal : Text → Octets → Text → Bool
  greaterOrEqual : Text → Octets → Text → Bool
  lessOrEqual : Text → Octets → Text → Bool
  approx : Text → Octets → Text → Bool
  substrings : Text → Octets → List Octets → Octets → Text → Bool
  extensible : Extensible → Entry → Option Bool

namespace Rules

variable (rules : Rules)

/-- A test of the values of an attribute; `none` is `Undefined`. -/
def test (attr : Text) (p : Text → Bool) (e : Entry) : Option Bool :=
  if rules.known attr then some ((e.values attr).any p) else none

/-- The three-valued conjunction. -/
def both : Option Bool → Option Bool → Option Bool
  | some false, _ | _, some false => some false
  | some true, some true => some true
  | _, _ => none

/-- The value of a filter for an entry. -/
def eval (e : Entry) : Filter → Option Bool
  | .and f g => both (eval e f) (eval e g)
  | .or f g => (both ((eval e f).map Bool.not) ((eval e g).map Bool.not)).map Bool.not
  | .not f => (eval e f).map Bool.not
  | .equality attr value => rules.test attr (rules.equal attr value) e
  | .greaterOrEqual attr value => rules.test attr (rules.greaterOrEqual attr value) e
  | .lessOrEqual attr value => rules.test attr (rules.lessOrEqual attr value) e
  | .approx attr value => rules.test attr (rules.approx attr value) e
  | .present attr => rules.test attr (fun _ => true) e
  | .substrings attr initial any final =>
      rules.test attr (rules.substrings attr initial any final) e
  | .extensible x => rules.extensible x e

/-- The entry is matched. -/
def matched (f : Filter) (e : Entry) : Bool := rules.eval e f = some true

end Rules

/-! ## §5. Values. -/

theorem utf8_cons (c : Char) (t : Text) : utf8 (c :: t) = String.utf8EncodeChar c ++ utf8 t :=
  List.flatMap_cons

theorem utf8_append (s t : Text) : utf8 (s ++ t) = utf8 s ++ utf8 t := List.flatMap_append

theorem utf8_injective {s t : Text} (h : utf8 s = utf8 t) : s = t := by
  have hbytes : s.utf8Encode = t.utf8Encode := congrArg List.toByteArray h
  have hs := List.utf8Decode?_utf8Encode (l := s)
  rw [hbytes, List.utf8Decode?_utf8Encode] at hs
  have harray := congrArg Array.toList (Option.some.inj hs)
  rw [List.toList_toArray, List.toList_toArray] at harray
  exact harray.symm

theorem length_lt_utf8_cons (c : Char) (t : Text) : (utf8 t).length < (utf8 (c :: t)).length := by
  have hpos := List.length_pos_iff.mpr (String.utf8EncodeChar_ne_nil (c := c))
  rw [utf8_cons, List.length_append]
  omega

theorem readValue_plain {t : Text} (h : ∀ c ∈ t, isSpecial c = false) :
    readValue t = some (utf8 t) := by
  induction t with
  | nil => rfl
  | cons c t ih =>
      rw [List.forall_mem_cons] at h
      have hbackslash : c ≠ '\\' := by
        rintro rfl
        exact absurd h.1 (by decide)
      unfold readValue
      split
      next heq => cases heq
      next heq => exact absurd (List.cons.inj heq).1 hbackslash
      next heq =>
        obtain ⟨rfl, rfl⟩ := List.cons.inj heq
        rw [if_neg (by simp [h.1]), ih h.2, utf8_cons]
        rfl

theorem isSpecial_of_hexByte {a b : Char} {n : Nat} (h : hexByte a b = some n) :
    isSpecial a = false ∧ isSpecial b = false := by
  obtain ⟨high, low, ha, hb, -⟩ := hexByte_eq_some_iff.mp h
  have hall : ∀ c ∈ hexDigits, isSpecial c = false := forall_mem_of_all (by decide)
  exact ⟨hall a (mem_hexDigits ha), hall b (mem_hexDigits hb)⟩

/-- The only special characters of a value are the backslashes of its escapes, and each of
them makes it shorter. -/
theorem of_readValue {t : Text} {v : Octets} (h : readValue t = some v) :
    (∀ c ∈ t, isSpecial c = true → c = '\\') ∧ v.length ≤ (utf8 t).length
      ∧ ('\\' ∈ t → v.length < (utf8 t).length) := by
  induction t using readValue.induct generalizing v with
  | case1 =>
      obtain rfl := Option.some.inj h
      simp
  | case2 a b t ih =>
      unfold readValue at h
      obtain ⟨octet, hoctet, hrest⟩ := Option.bind_eq_some_iff.mp h
      obtain ⟨rest, hread, hv⟩ := Option.bind_eq_some_iff.mp hrest
      obtain rfl := Option.some.inj hv
      obtain ⟨hspecial, hle, -⟩ := ih hread
      obtain ⟨ha, hb⟩ := isSpecial_of_hexByte hoctet
      have hlt : rest.length + 1 < (utf8 ('\\' :: a :: b :: t)).length := by
        have h1 := length_lt_utf8_cons '\\' (a :: b :: t)
        have h2 := length_lt_utf8_cons a (b :: t)
        have h3 := length_lt_utf8_cons b t
        omega
      refine ⟨?_, hlt.le, fun _ => hlt⟩
      intro c hc hcs
      simp only [List.mem_cons] at hc
      rcases hc with rfl | rfl | rfl | hc
      · rfl
      · rw [ha] at hcs
        cases hcs
      · rw [hb] at hcs
        cases hcs
      · exact hspecial c hc hcs
  | case3 c t hno hspecial =>
      rw [readValue.eq_3 _ _ hno, if_pos hspecial] at h
      cases h
  | case4 c t hno hplain ih =>
      rw [readValue.eq_3 _ _ hno, if_neg hplain] at h
      obtain ⟨rest, hread, rfl⟩ := Option.map_eq_some_iff.mp h
      obtain ⟨hspecial, hle, hlt⟩ := ih hread
      have hbackslash : c ≠ '\\' := by
        rintro rfl
        exact hplain rfl
      rw [utf8_cons, List.length_append, List.length_append]
      refine ⟨?_, by omega, ?_⟩
      · intro x hx hxs
        rcases List.mem_cons.mp hx with rfl | hx
        · exact absurd hxs hplain
        · exact hspecial x hx hxs
      · intro hmem
        rcases List.mem_cons.mp hmem with heq | hmem
        · exact absurd heq.symm hbackslash
        · have := hlt hmem
          omega

/-! ## §6. A comparison for equality. -/

theorem isParen_of_isAttrChar {c : Char} (h : isAttrChar c = true) :
    isParen c = false ∧ c ≠ '=' ∧ c ≠ '~' ∧ c ≠ '>' ∧ c ≠ '<' ∧ c ≠ ':' ∧ c ≠ '{' ∧ c ≠ '}' := by
  refine ⟨?_, ?_, ?_, ?_, ?_, ?_, ?_, ?_⟩
  · rw [Bool.eq_false_iff]
    intro hp
    unfold isParen at hp
    simp only [Bool.or_eq_true, decide_eq_true_eq] at hp
    rcases hp with rfl | rfl
    · exact absurd h (by decide)
    · exact absurd h (by decide)
  all_goals
    rintro rfl
    exact absurd h (by decide)

/-- An attribute description. -/
structure AttributeDescription where
  text : Text
  valid : isAttribute text = true

namespace AttributeDescription

variable (attr : AttributeDescription)

theorem chars : ∀ c ∈ attr.text, isAttrChar c = true :=
  List.all_eq_true.mp (Bool.and_eq_true_iff.mp attr.valid).2

theorem exists_cons : ∃ c rest, attr.text = c :: rest ∧ c.isAlphanum = true := by
  have h := (Bool.and_eq_true_iff.mp attr.valid).1
  cases htext : attr.text with
  | nil =>
      rw [htext] at h
      cases h
  | cons c rest =>
      rw [htext] at h
      exact ⟨c, rest, rfl, h⟩

/-- A comparison with the text as it stands. -/
def filterText (right : Text) : Text := '(' :: (attr.text ++ '=' :: (right ++ [')']))

theorem readItem_eq (right : Text) :
    readItem (attr.text ++ '=' :: right) = readEquality attr.text right := by
  have hchars : ∀ c ∈ attr.text, decide (c ≠ '=') = true := fun c hc =>
    decide_eq_true (isParen_of_isAttrChar (attr.chars c hc)).2.1
  have htake : (attr.text ++ '=' :: right).takeWhile (fun c => c ≠ '=') = attr.text := by
    rw [List.takeWhile_append_of_pos hchars, List.takeWhile_cons_of_neg (by simp),
      List.append_nil]
  have hdrop : (attr.text ++ '=' :: right).dropWhile (fun c => c ≠ '=') = '=' :: right := by
    rw [List.dropWhile_append_of_pos hchars, List.dropWhile_cons_of_neg (by simp)]
  unfold readItem
  rw [htake, hdrop]
  dsimp only
  cases hlast : attr.text.getLast? with
  | none => rw [if_pos attr.valid]
  | some c =>
      obtain ⟨-, -, htilde, hgt, hlt, hcolon, -⟩ :=
        isParen_of_isAttrChar (attr.chars c (List.mem_of_getLast? hlast))
      split
      next heq => exact absurd (Option.some.inj heq) htilde
      next heq => exact absurd (Option.some.inj heq) hgt
      next heq => exact absurd (Option.some.inj heq) hlt
      next heq => exact absurd (Option.some.inj heq) hcolon
      next => rw [if_pos attr.valid]

theorem readFilter_eq (n : Nat) (rest : Text) :
    readFilter (n + 1) ('(' :: (attr.text ++ rest)) = (do
      let f ← readItem ((attr.text ++ rest).takeWhile (fun c => !isParen c))
      close f ((attr.text ++ rest).dropWhile (fun c => !isParen c))) := by
  obtain ⟨c, t, htext, hc⟩ := attr.exists_cons
  have hne : ∀ x, x.isAlphanum = false → x ≠ c := by
    rintro x hx rfl
    rw [hc] at hx
    cases hx
  rw [htext, List.cons_append]
  conv_lhs => unfold readFilter
  split
  next heq => exact absurd (List.cons.inj (List.cons.inj heq).2).1.symm (hne '&' (by decide))
  next heq => exact absurd (List.cons.inj (List.cons.inj heq).2).1.symm (hne '|' (by decide))
  next heq => exact absurd (List.cons.inj (List.cons.inj heq).2).1.symm (hne '!' (by decide))
  next heq =>
    obtain ⟨-, rfl⟩ := List.cons.inj heq
    rfl
  next hno => exact absurd rfl (hno _ _ rfl)

/-- The text up to a parenthesis. -/
theorem span_paren {right : Text} (h : ∀ c ∈ right, isParen c = false) {p : Char}
    (hp : isParen p = true) (rest : Text) :
    (attr.text ++ '=' :: (right ++ p :: rest)).takeWhile (fun c => !isParen c)
        = attr.text ++ '=' :: right
      ∧ (attr.text ++ '=' :: (right ++ p :: rest)).dropWhile (fun c => !isParen c) = p :: rest := by
  have hall : ∀ c ∈ attr.text ++ '=' :: right, (!isParen c) = true := by
    intro c hc
    rcases List.mem_append.mp hc with hc | hc
    · rw [(isParen_of_isAttrChar (attr.chars c hc)).1]
      rfl
    · rcases List.mem_cons.mp hc with rfl | hc
      · rfl
      · rw [h c hc]
        rfl
  have hsplit : attr.text ++ '=' :: (right ++ p :: rest)
      = (attr.text ++ '=' :: right) ++ p :: rest := by simp
  rw [hsplit, List.takeWhile_append_of_pos hall, List.dropWhile_append_of_pos hall,
    List.takeWhile_cons_of_neg (by simp [hp]), List.dropWhile_cons_of_neg (by simp [hp]),
    List.append_nil]
  exact ⟨rfl, rfl⟩

theorem parse_filterText {right : Text} (h : ∀ c ∈ right, isParen c = false) :
    parse (attr.filterText right) = readEquality attr.text right := by
  obtain ⟨htake, hdrop⟩ := attr.span_paren h (p := ')') rfl []
  unfold parse filterText
  rw [readFilter_eq, htake, hdrop, attr.readItem_eq]
  cases readEquality attr.text right with
  | none => rfl
  | some f => rfl

/-- A bare parenthesis ends the filter before its text does. -/
theorem parse_paren {right : Text} {p : Char} (hmem : p ∈ right) (hp : isParen p = true) :
    parse (attr.filterText right) = none := by
  -- the first parenthesis, and what comes before it
  cases hdrop : right.dropWhile (fun c => !isParen c) with
  | nil =>
      have hno := List.dropWhile_eq_nil_iff.mp hdrop p hmem
      rw [hp] at hno
      cases hno
  | cons q rest =>
      have hq : isParen q = true := by
        have hhead := List.head?_dropWhile_not (fun c => !isParen c) right
        rw [hdrop] at hhead
        simpa using hhead
      have hbefore : ∀ c ∈ right.takeWhile (fun c => !isParen c), isParen c = false := by
        intro c hc
        simpa using List.mem_takeWhile_imp hc
      have hsplit : right ++ [')']
          = right.takeWhile (fun c => !isParen c) ++ q :: (rest ++ [')']) := by
        conv_lhs => rw [← List.takeWhile_append_dropWhile (p := fun c => !isParen c) (l := right)]
        rw [hdrop, List.append_assoc, List.cons_append]
      obtain ⟨htake, hrest⟩ := attr.span_paren hbefore hq (rest ++ [')'])
      unfold parse filterText
      rw [hsplit, readFilter_eq, htake, hrest]
      cases readItem (attr.text ++ '=' :: right.takeWhile (fun c => !isParen c)) with
      | none => rfl
      | some f =>
          show (match close f (q :: (rest ++ [')'])) with
            | some (f, []) => some f
            | _ => none) = none
          unfold close
          split
          next f' heq =>
            split at heq
            next hcons =>
              -- something is left
              obtain ⟨-, rfl⟩ := List.cons.inj hcons
              have hnil := (Prod.mk.inj (Option.some.inj heq)).2
              exact absurd hnil (by simp)
            next => cases heq
          next => rfl

/-- **A VALUE WITHOUT SPECIAL CHARACTERS** is compared as it stands. -/
theorem parse_equality {right : Text} (h : ∀ c ∈ right, isSpecial c = false) :
    parse (attr.filterText right) = some (.equality attr.text (utf8 right)) := by
  have hparen : ∀ c ∈ right, isParen c = false := by
    intro c hc
    have hc := h c hc
    unfold isSpecial at hc
    unfold isParen
    simp only [Bool.or_eq_false_iff] at hc ⊢
    exact ⟨hc.1.1.1.2, hc.1.1.2⟩
  have hstar : '*' ∉ right := fun hmem => absurd (h '*' hmem) (by decide)
  rw [attr.parse_filterText hparen]
  unfold readEquality
  rw [List.splitOn_eq_singleton hstar]
  show (readValue right).map _ = _
  rw [readValue_plain h]
  rfl

/-- **A VALUE WITH A SPECIAL CHARACTER** is no filter, or compared with another value, or not
for equality. -/
theorem parse_special {right : Text} (h : ∃ c ∈ right, isSpecial c = true) {f : Filter}
    (hparse : parse (attr.filterText right) = some f) :
    (∃ v, f = .equality attr.text v ∧ v ≠ utf8 right) ∨ f = .present attr.text
      ∨ ∃ initial any final, f = .substrings attr.text initial any final := by
  have hparen : ∀ c ∈ right, isParen c = false := by
    intro c hc
    rw [Bool.eq_false_iff]
    intro hp
    rw [attr.parse_paren hc hp] at hparse
    cases hparse
  rw [attr.parse_filterText hparen] at hparse
  unfold readEquality at hparse
  split at hparse
  next value hsplit =>
    obtain ⟨v, hv, rfl⟩ := Option.map_eq_some_iff.mp hparse
    obtain rfl : value = right := by
      have hjoin : ['*'].intercalate (right.splitOn '*') = right := List.intercalate_splitOn '*'
      rw [hsplit, List.intercalate_singleton] at hjoin
      exact hjoin
    refine .inl ⟨v, rfl, ?_⟩
    rintro rfl
    obtain ⟨c, hc, hspecial⟩ := h
    obtain ⟨honly, -, hlt⟩ := of_readValue hv
    exact absurd (hlt (honly c hc hspecial ▸ hc)) (lt_irrefl _)
  next => exact .inr (.inl (Option.some.inj hparse).symm)
  next initial rest =>
    obtain ⟨i, -, hparse⟩ := Option.bind_eq_some_iff.mp hparse
    obtain ⟨a, -, hparse⟩ := Option.bind_eq_some_iff.mp hparse
    obtain ⟨z, -, hparse⟩ := Option.bind_eq_some_iff.mp hparse
    exact .inr (.inr ⟨i, a, z, (Option.some.inj hparse).symm⟩)
  next => cases hparse

end AttributeDescription

/-! ## §7. Exact rules. -/

/-- The pieces stand in the octets one after another. -/
def inOrder : List Octets → Octets → Bool
  | [], _ => true
  | piece :: pieces, v =>
      v.tails.any (fun t => piece.isPrefixOf t && inOrder pieces (t.drop piece.length))

/-- The octets begin and end in two pieces, and others stand between them. -/
def octetSubstrings (initial : Octets) (any : List Octets) (final v : Octets) : Bool :=
  let middle := (v.drop initial.length).take (v.length - initial.length - final.length)
  v = initial ++ middle ++ final && inOrder any middle

/-- Every attribute is known, and its values are compared octet by octet. -/
def exactRules : Rules where
  known := fun _ => true
  equal := fun _ value t => value = utf8 t
  greaterOrEqual := fun _ value t => decide (value ≤ utf8 t)
  lessOrEqual := fun _ value t => decide (utf8 t ≤ value)
  approx := fun _ value t => value = utf8 t
  substrings := fun _ initial any final t => octetSubstrings initial any final (utf8 t)
  extensible := fun _ _ => none

theorem inOrder_cons_iff {piece : Octets} {pieces : List Octets} {v : Octets} :
    inOrder (piece :: pieces) v = true
      ↔ ∃ s t, v = s ++ (piece ++ t) ∧ inOrder pieces t = true := by
  rw [inOrder]
  simp only [List.any_eq_true, List.mem_tails, Bool.and_eq_true, List.isPrefixOf_iff_prefix]
  constructor
  · rintro ⟨_, ⟨s, rfl⟩, ⟨t, rfl⟩, h⟩
    rw [List.drop_left] at h
    exact ⟨s, t, rfl, h⟩
  · rintro ⟨s, t, rfl, h⟩
    refine ⟨piece ++ t, ⟨s, rfl⟩, ⟨t, rfl⟩, ?_⟩
    rw [List.drop_left]
    exact h

theorem inOrder_append {pieces : List Octets} {v : Octets} (h : inOrder pieces v = true)
    (s t : Octets) : inOrder pieces (s ++ (v ++ t)) = true := by
  induction pieces generalizing v s with
  | nil => rfl
  | cons piece pieces ih =>
      obtain ⟨s', t', rfl, hrest⟩ := inOrder_cons_iff.mp h
      refine inOrder_cons_iff.mpr ⟨s ++ s', t' ++ t, by simp, ?_⟩
      exact ih hrest []

theorem octetSubstrings_iff {initial final v : Octets} {any : List Octets} :
    octetSubstrings initial any final v = true
      ↔ ∃ middle, v = initial ++ middle ++ final ∧ inOrder any middle = true := by
  unfold octetSubstrings
  rw [Bool.and_eq_true, decide_eq_true_eq]
  constructor
  · rintro ⟨hv, h⟩
    exact ⟨_, hv, h⟩
  · rintro ⟨middle, rfl, h⟩
    have hmiddle : ((initial ++ middle ++ final).drop initial.length).take
        ((initial ++ middle ++ final).length - initial.length - final.length) = middle := by
      rw [List.append_assoc, List.drop_left]
      exact List.take_left' (by simp only [List.length_append]; omega)
    rw [hmiddle]
    exact ⟨rfl, h⟩

/-- What matches a substring test also matches it twice in a row. -/
theorem octetSubstrings_twice {initial final v : Octets} {any : List Octets}
    (h : octetSubstrings initial any final v = true) :
    octetSubstrings initial any final (v ++ v) = true := by
  obtain ⟨middle, rfl, hmiddle⟩ := octetSubstrings_iff.mp h
  exact octetSubstrings_iff.mpr ⟨middle ++ (final ++ initial ++ middle), by simp,
    inOrder_append hmiddle [] _⟩

/-- **A VALUE WITH A SPECIAL CHARACTER**, under exact rules: an entry with that value is not
matched, or one with the value twice in a row is. -/
theorem AttributeDescription.special_mismatch (attr : AttributeDescription) {right : Text}
    (h : ∃ c ∈ right, isSpecial c = true) {f : Filter}
    (hparse : parse (attr.filterText right) = some f)
    (once twice : Entry) (honce : once.values attr.text = [right])
    (htwice : twice.values attr.text = [right ++ right])
    (hmatched : exactRules.matched f once = true) : exactRules.matched f twice = true := by
  have htest : ∀ (p : Text → Bool) (e : Entry) (v : Text), e.values attr.text = [v] →
      (decide (exactRules.test attr.text p e = some true)) = p v := by
    intro p e v hv
    unfold Rules.test exactRules
    rw [if_pos rfl, hv]
    simp
  rcases attr.parse_special h hparse with ⟨v, rfl, hne⟩ | rfl | ⟨i, a, z, rfl⟩
  · exfalso
    have heq := (htest _ once right honce).symm.trans hmatched
    exact hne (of_decide_eq_true heq)
  · exact htest _ twice _ htwice
  · have heq := (htest _ once right honce).symm.trans hmatched
    refine (htest _ twice _ htwice).trans ?_
    show octetSubstrings i a z (utf8 (right ++ right)) = true
    rw [utf8_append]
    exact octetSubstrings_twice heq

theorem utf8_ne_twice {t : Text} (h : t ≠ []) : utf8 t ≠ utf8 (t ++ t) := by
  intro heq
  exact h (List.self_eq_append_right.mp (utf8_injective heq))

end PureBoot.Lib.Ldap
