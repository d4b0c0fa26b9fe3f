/-
  PureBoot.Templates.Includes — the INCLUDES of templates.

  Embeds `_resolve_includes` of `core/template_renderer.py` with its pattern.  The template
  store is a parameter: any function from a name and a version to a text or a failure.

  A regular expression is a `Pattern`: the texts of `$\x7binclude:name:v1.2\x7d` and what is
  captured from them.  The recursion counts the levels that it may still enter.
-/
import PureBoot.Lib.Pattern
import PureBoot.Lib.Run
import Mathlib.Data.List.Basic

namespace PureBoot.Templates

open PureBoot.Lib

/-! ## §1. The pattern. -/

/-- What `\d` matches: the decimal digits of Unicode, which are the ten on ASCII. -/
structure Digits where
  isDigit : Char → Bool
  ascii : ∀ c, c.toNat < 128 → isDigit c = c.isDigit

/-- `[a-zA-Z0-9_-]`. -/
def isNameChar (c : Char) : Bool := c.isAlphanum || c = '_' || c = '-'

/-- `:v?(\d+)(?:\.(\d+))?`. -/
structure IncludeVersion where
  /-- The `v` is written. -/
  prefixed : Bool
  major : List Char
  minor : Option (List Char)
  deriving DecidableEq

/-- What the pattern captures. -/
structure Include where
  name : List Char
  version : Option IncludeVersion
  deriving DecidableEq

/-- `(\d+)(?:\.(\d+))?`. -/
def spellNumbers (major : List Char) (minor : Option (List Char)) : List Char :=
  major ++ (minor.map (fun minor => '.' :: minor)).getD []

def IncludeVersion.spell (v : IncludeVersion) : List Char :=
  ':' :: ((if v.prefixed then ['v'] else []) ++ spellNumbers v.major v.minor)

/-- How a directive begins. -/
def includeOpen : List Char := "$\x7binclude:".toList

/-- The text of a directive. -/
def Include.spell (i : Include) : List Char :=
  includeOpen ++ (i.name ++ ((i.version.map IncludeVersion.spell).getD [] ++ ['}']))

variable (D : Digits)

/-- `\d+`. -/
def Digits.Number (digits : List Char) : Prop :=
  digits ≠ [] ∧ ∀ c ∈ digits, D.isDigit c = true

structure IncludeVersion.Valid (v : IncludeVersion) : Prop where
  major : D.Number v.major
  minor : ∀ minor ∈ v.minor, D.Number minor

structure Include.Valid (i : Include) : Prop where
  nonempty : i.name ≠ []
  name : ∀ c ∈ i.name, isNameChar c = true
  version : ∀ v ∈ i.version, v.Valid D

/-- The numbers of a version, up to the brace. -/
def readNumbers (s : List Char) : Option (List Char × Option (List Char)) :=
  match readRun D.isDigit s with
  | some (major, '}' :: _) => some (major, none)
  | some (major, '.' :: s) =>
      match readRun D.isDigit s with
      | some (minor, '}' :: _) => some (major, some minor)
      | _ => none
  | _ => none

/-- What follows the name, up to the brace. -/
def readVersion : List Char → Option (Option IncludeVersion)
  | '}' :: _ => some none
  | ':' :: 'v' :: s => (readNumbers D s).map (fun (major, minor) => some ⟨true, major, minor⟩)
  | ':' :: s => (readNumbers D s).map (fun (major, minor) => some ⟨false, major, minor⟩)
  | _ => none

/-- The directive at the front of a text. -/
def readInclude (s : List Char) : Option Include := do
  let s ← s.dropPrefix? includeOpen
  let (name, s) ← readRun isNameChar s
  let version ← readVersion D s
  return ⟨name, version⟩

theorem not_digit {c : Char} (hascii : c.toNat < 128) (hc : c.isDigit = false) :
    D.isDigit c = false :=
  (D.ascii c hascii).trans hc

/-- The digits end before a brace or a point. -/
theorem readRun_number {D : Digits} {digits rest : List Char} {c : Char} (h : D.Number digits)
    (hc : c = '\x7d' ∨ c = '.') :
    readRun D.isDigit (digits ++ c :: rest) = some (digits, c :: rest) := by
  refine readRun_eq_some_iff.mpr ⟨h.1, h.2, ?_, rfl⟩
  rintro a ⟨⟩
  rcases hc with rfl | rfl <;> exact not_digit D (by decide) (by decide)

theorem number_of_readRun {D : Digits} {s digits rest : List Char}
    (h : readRun D.isDigit s = some (digits, rest)) : D.Number digits ∧ s = digits ++ rest := by
  obtain ⟨hne, hall, -, rfl⟩ := readRun_eq_some_iff.mp h
  exact ⟨⟨hne, hall⟩, rfl⟩

theorem readNumbers_eq_some_iff {D : Digits} {s major : List Char}
    {minor : Option (List Char)} :
    readNumbers D s = some (major, minor) ↔
      (D.Number major ∧ ∀ m ∈ minor, D.Number m) ∧ spellNumbers major minor ++ ['}'] <+: s := by
  unfold readNumbers
  constructor
  · intro h
    split at h
    next major' rest hmajor =>
      obtain ⟨rfl, rfl⟩ := Prod.mk.inj (Option.some.inj h)
      obtain ⟨hnumber, rfl⟩ := number_of_readRun hmajor
      exact ⟨⟨hnumber, fun m hm => (nomatch hm)⟩, rest, by simp [spellNumbers]⟩
    next major' s' hmajor =>
      -- behind a dot a second number has to follow
      split at h
      next minor' rest hminor =>
        obtain ⟨rfl, rfl⟩ := Prod.mk.inj (Option.some.inj h)
        obtain ⟨hnumber, rfl⟩ := number_of_readRun hmajor
        obtain ⟨hnumber', rfl⟩ := number_of_readRun hminor
        refine ⟨⟨hnumber, ?_⟩, rest, by simp [spellNumbers]⟩
        rintro m ⟨⟩
        exact hnumber'
      next => cases h
    next => cases h
  · rintro ⟨⟨hmajor, hminor⟩, rest, rfl⟩
    cases minor with
    | none =>
        have htext : spellNumbers major none ++ ['}'] ++ rest = major ++ '}' :: rest := by
          simp [spellNumbers]
        rw [htext, readRun_number hmajor (.inl rfl)]
        rfl
    | some m =>
        have htext : spellNumbers major (some m) ++ ['}'] ++ rest
            = major ++ '.' :: (m ++ '}' :: rest) := by
          simp [spellNumbers]
        have hread : readRun D.isDigit (m ++ '}' :: rest) = some (m, '}' :: rest) :=
          readRun_number (hminor m rfl) (.inl rfl)
        rw [htext, readRun_number hmajor (.inr rfl)]
        simp [hread]

/-- The numbers do not begin with a `v`. -/
theorem readNumbers_v (s : List Char) : readNumbers D ('v' :: s) = none := by
  have hv : D.isDigit 'v' = false := not_digit D (by decide) (by decide)
  unfold readNumbers readRun
  rw [List.takeWhile_cons_of_neg (by simp [hv])]
  rfl

/-- What is read after a name is what is written there. -/
theorem readVersion_eq_some_iff {D : Digits} {s : List Char} {v : Option IncludeVersion} :
    readVersion D s = some v ↔
      (∀ w ∈ v, w.Valid D) ∧ (v.map IncludeVersion.spell).getD [] ++ ['}'] <+: s := by
  constructor
  · intro h
    unfold readVersion at h
    split at h
    next rest =>
      obtain rfl := Option.some.inj h
      exact ⟨fun w hw => (nomatch hw), ⟨rest, rfl⟩⟩
    next s =>
      obtain ⟨⟨major, minor⟩, hread, rfl⟩ := Option.map_eq_some_iff.mp h
      obtain ⟨hvalid, rest, rfl⟩ := readNumbers_eq_some_iff.mp hread
      refine ⟨?_, rest, by simp [IncludeVersion.spell]⟩
      rintro w ⟨⟩
      exact ⟨hvalid.1, hvalid.2⟩
    next s _ =>
      obtain ⟨⟨major, minor⟩, hread, rfl⟩ := Option.map_eq_some_iff.mp h
      obtain ⟨hvalid, rest, rfl⟩ := readNumbers_eq_some_iff.mp hread
      refine ⟨?_, rest, by simp [IncludeVersion.spell]⟩
      rintro w ⟨⟩
      exact ⟨hvalid.1, hvalid.2⟩
    next => cases h
  · rintro ⟨hvalid, rest, rfl⟩
    cases v with
    | none => rfl
    | some w =>
        obtain ⟨prefixed, major, minor⟩ := w
        obtain ⟨hmajor, hminor⟩ := hvalid _ rfl
        have hread : readNumbers D (spellNumbers major minor ++ ['}'] ++ rest)
            = some (major, minor) :=
          readNumbers_eq_some_iff.mpr ⟨⟨hmajor, hminor⟩, List.prefix_append _ _⟩
        cases prefixed with
        | true =>
            show (readNumbers D (spellNumbers major minor ++ ['}'] ++ rest)).map _ = _
            rw [hread]
            rfl
        | false =>
            show readVersion D (':' :: (spellNumbers major minor ++ ['}'] ++ rest)) = _
            generalize spellNumbers major minor ++ ['}'] ++ rest = t at hread
            -- a number comes first, so no `v` is read off
            unfold readVersion
            split
            next heq => cases heq
            next s heq =>
              rw [(List.cons.inj heq).2, readNumbers_v] at hread
              cases hread
            next s _ heq =>
              rw [← (List.cons.inj heq).2, hread]
              rfl
            next hno => exact absurd rfl (hno t)

/-- What was read is what is written. -/
theorem readInclude_eq_some_iff {D : Digits} {s : List Char} {i : Include} :
    readInclude D s = some i ↔ i.Valid D ∧ i.spell <+: s := by
  unfold readInclude
  simp only [Option.bind_eq_bind, Option.bind_eq_some_iff]
  constructor
  · rintro ⟨s₁, hopen, ⟨name, s₂⟩, hname, version, hversion, heq⟩
    obtain rfl := Option.some.inj heq
    obtain ⟨p, rfl, hp⟩ := List.dropPrefix?_eq_some_iff.mp hopen
    obtain ⟨hne, hall, -, rfl⟩ := readRun_eq_some_iff.mp hname
    obtain ⟨hvalid, rest, rfl⟩ := readVersion_eq_some_iff.mp hversion
    refine ⟨⟨hne, hall, hvalid⟩, rest, ?_⟩
    rw [eq_of_beq hp]
    simp [Include.spell]
  · rintro ⟨⟨hne, hall, hvalid⟩, rest, rfl⟩
    have hspell : i.spell ++ rest = includeOpen
        ++ (i.name ++ ((i.version.map IncludeVersion.spell).getD [] ++ ['}'] ++ rest)) := by
      simp [Include.spell]
    have hname : readRun isNameChar
        (i.name ++ ((i.version.map IncludeVersion.spell).getD [] ++ ['}'] ++ rest))
        = some (i.name, (i.version.map IncludeVersion.spell).getD [] ++ ['}'] ++ rest) := by
      refine readRun_eq_some_iff.mpr ⟨hne, hall, ?_, rfl⟩
      cases i.version with
      | none =>
          rintro c ⟨⟩
          decide
      | some v =>
          rintro c ⟨⟩
          decide
    refine ⟨_, List.dropPrefix?_eq_some_iff.mpr ⟨_, hspell, beq_self_eq_true _⟩, _, hname,
      i.version, readVersion_eq_some_iff.mpr ⟨hvalid, List.prefix_append _ _⟩, rfl⟩

theorem includeSpell_ne_nil (i : Include) : i.spell ≠ [] := by
  have hopen : includeOpen ≠ [] := by decide
  exact fun hnil => hopen (List.append_eq_nil_iff.mp hnil).1

/-- `INCLUDE_PATTERN`. -/
def includePattern : Pattern Char Include where
  spell := Include.spell
  Valid := Include.Valid D
  front := readInclude D
  front_eq_some_iff := readInclude_eq_some_iff
  spell_ne_nil := fun _ => includeSpell_ne_nil _

theorem front_include {D : Digits} {i : Include} (hi : i.Valid D) (s : List Char) :
    (includePattern D).front (i.spell ++ s) = some i :=
  (includePattern D).front_append hi s

/-! ## §2. Resolving. -/

/-- A template, as it is asked for. -/
structure Ref where
  name : List Char
  version : Option (List Char)
  deriving DecidableEq

/-- The version text is `v1` or `v1.2`. -/
def Include.ref (i : Include) : Ref where
  name := i.name
  version := i.version.map (fun v => 'v' :: spellNumbers v.major v.minor)

/-- `ref_key`. -/
def Ref.key (r : Ref) : List Char :=
  r.name ++ (r.version.map (fun version => ':' :: version)).getD []

/-- `get_content`, with the text of what it raises. -/
abbrev GetContent : Type := List Char → Option (List Char) → Except String (List Char)

inductive IncludeExn where
  | circularIncludeError (message : String)
  | maxIncludeDepthError (message : String)
  | runtimeError (message : String)
  deriving DecidableEq

/-- `MAX_INCLUDE_DEPTH`. -/
def maxIncludeDepth : Nat := 10

def circularInclude (key : List Char) : IncludeExn :=
  .circularIncludeError ("Circular include detected: " ++ String.ofList key)

def includeDepthExceeded : IncludeExn :=
  .maxIncludeDepthError ("Include depth exceeded " ++ toString maxIncludeDepth)

def failedToLoad (r : Ref) (e : String) : IncludeExn :=
  .runtimeError ("Failed to load included template '" ++ String.ofList r.name ++ "'"
    ++ (r.version.map (fun version => " version " ++ String.ofList version)).getD ""
    ++ ": " ++ e)

variable (getContent : GetContent)

/-- What replaces one directive; `resolve` goes on one level deeper. -/
def includeOne (resolve : List (List Char) → List Char → Except IncludeExn (List Char))
    (visited : List (List Char)) (i : Include) : Except IncludeExn (List Char) :=
  if i.ref.key ∈ visited then .error (circularInclude i.ref.key)
  else
    match getContent i.ref.name i.ref.version with
    | .error e => .error (failedToLoad i.ref e)
    | .ok body => resolve (i.ref.key :: visited) body

/-- `_resolve_includes` at the depth `MAX_INCLUDE_DEPTH + 1 - levels`. -/
def resolveLevels : Nat → List (List Char) → List Char → Except IncludeExn (List Char)
  | 0, _, _ => .error includeDepthExceeded
  | levels + 1, visited, content =>
      (includePattern D).subM (includeOne getContent (resolveLevels levels) visited) content

/-- `_resolve_includes` as it is started. -/
def resolveIncludes (content : List Char) : Except IncludeExn (List Char) :=
  resolveLevels D getContent (maxIncludeDepth + 1) [] content

/-! ## §3. What is included. -/

/-- The templates that a text includes. -/
def includes (content : List Char) : List Ref :=
  ((includePattern D).hits content).map Include.ref

/-- **A CHAIN OF INCLUDES** from a text: each template is included by the text of the one
before it. -/
def Chain : List Char → List Ref → Prop
  | _, [] => True
  | content, r :: rs => r ∈ includes D content
      ∧ (rs = [] ∨ ∃ body, getContent r.name r.version = .ok body ∧ Chain body rs)

/-- **THE RESOLVED TEXT**: each directive, from the left, is replaced by the resolved text of
the template it names, and everything else is kept. -/
inductive Resolved : List Char → List Char → Prop where
  | nil : Resolved [] []
  | char {c s t} (h : (includePattern D).front (c :: s) = none) (hs : Resolved s t) :
      Resolved (c :: s) (c :: t)
  | hit {i : Include} {s body t t'} (hi : i.Valid D)
      (hload : getContent i.ref.name i.ref.version = .ok body)
      (hbody : Resolved body t) (hs : Resolved s t') : Resolved (i.spell ++ s) (t ++ t')

variable {D getContent}

/-! ## §4. Keys and chains. -/

theorem name_of_mem_includes {content : List Char} {r : Ref} (h : r ∈ includes D content) :
    ∀ c ∈ r.name, c ≠ ':' := by
  obtain ⟨i, hi, rfl⟩ := List.mem_map.mp h
  have hvalid : i.Valid D := (includePattern D).valid_of_mem_hits hi
  rintro c hc rfl
  exact absurd (hvalid.name ':' hc) (by decide)

/-- A name has no colon, so a key is split at its first one. -/
theorem ref_of_key {r r' : Ref} (h : ∀ c ∈ r.name, c ≠ ':') (h' : ∀ c ∈ r'.name, c ≠ ':')
    (hkey : r.key = r'.key) : r = r' := by
  have hsplit : ∀ {r : Ref}, (∀ c ∈ r.name, c ≠ ':') →
      r.key.takeWhile (· ≠ ':') = r.name
        ∧ r.key.dropWhile (· ≠ ':') = (r.version.map (fun version => ':' :: version)).getD [] := by
    intro r hname
    have hall : ∀ c ∈ r.name, decide (c ≠ ':') = true := fun c hc => decide_eq_true (hname c hc)
    unfold Ref.key
    rw [List.takeWhile_append_of_pos hall, List.dropWhile_append_of_pos hall]
    cases r.version <;> simp
  obtain ⟨hname, hversion⟩ := hsplit h
  obtain ⟨hname', hversion'⟩ := hsplit h'
  rw [hkey, hname'] at hname
  rw [hkey, hversion'] at hversion
  obtain ⟨name, version⟩ := r
  obtain ⟨name', version'⟩ := r'
  cases version <;> cases version' <;> simp_all

theorem Chain.names : ∀ {content : List Char} {chain : List Ref},
    Chain D getContent content chain → ∀ r ∈ chain, ∀ c ∈ r.name, c ≠ ':'
  | _, [], _ => fun r hr => (nomatch hr)
  | _, _ :: _, ⟨h, hrs⟩ => by
      refine List.forall_mem_cons.mpr ⟨name_of_mem_includes h, ?_⟩
      rcases hrs with rfl | ⟨body, -, hrs⟩
      · exact fun r hr => (nomatch hr)
      · exact hrs.names

/-- A chain up to one of its templates. -/
theorem Chain.upTo {r : Ref} {after : List Ref} :
    ∀ {content : List Char} {before : List Ref},
      Chain D getContent content (before ++ r :: after) →
        Chain D getContent content (before ++ [r])
  | _, [], ⟨h, _⟩ => ⟨h, .inl rfl⟩
  | _, _ :: before, ⟨h, hrs⟩ => by
      rcases hrs with hnil | ⟨body, hload, hrs⟩
      · cases before <;> cases hnil
      · exact ⟨h, .inr ⟨body, hload, hrs.upTo⟩⟩

/-- A chain goes on from the text of its last template. -/
theorem Chain.append {r : Ref} {body : List Char} {rs : List Ref}
    (hload : getContent r.name r.version = .ok body) (hrs : Chain D getContent body rs) :
    ∀ {content : List Char} {before : List Ref},
      Chain D getContent content (before ++ [r]) →
        Chain D getContent content (before ++ r :: rs)
  | _, [], ⟨h, _⟩ => ⟨h, .inr ⟨body, hload, hrs⟩⟩
  | _, _ :: before, ⟨h, hrest⟩ => by
      rcases hrest with hnil | ⟨body', hload', hrest⟩
      · cases before <;> cases hnil
      · exact ⟨h, .inr ⟨body', hload', Chain.append hload hrs hrest⟩⟩

/-- **A TEMPLATE WITHIN ITSELF** makes chains of any length. -/
theorem Chain.not_mem_of_bounded {content : List Char} {r : Ref} {rs : List Ref} {n : Nat}
    (hbound : ∀ chain, Chain D getContent content chain → chain.length ≤ n)
    (h : Chain D getContent content (r :: rs)) : r ∉ rs := by
  intro hmem
  obtain ⟨hr, rfl | ⟨body, hload, hrs⟩⟩ := h
  · cases hmem
  · obtain ⟨before, after, rfl⟩ := List.append_of_mem hmem
    -- from the text of `r` back to the text of `r`, again and again
    have hround : Chain D getContent body (before ++ [r]) := hrs.upTo
    have hlong : ∀ k, ∃ chain, Chain D getContent body chain ∧ k ≤ chain.length := by
      intro k
      induction k with
      | zero => exact ⟨[], trivial, Nat.le_refl _⟩
      | succ k ih =>
          obtain ⟨chain, hchain, hk⟩ := ih
          refine ⟨before ++ r :: chain, Chain.append hload hchain hround, ?_⟩
          rw [List.length_append, List.length_cons]
          omega
    obtain ⟨chain, hchain, hlength⟩ := hlong n
    have hle := hbound (r :: chain) ⟨hr, .inr ⟨body, hload, hchain⟩⟩
    rw [List.length_cons] at hle
    omega

/-! ## §5. When a text is resolved. -/

theorem includeOne_eq_ok_iff
    {resolve : List (List Char) → List Char → Except IncludeExn (List Char)}
    {visited : List (List Char)} {i : Include} {text : List Char} :
    includeOne getContent resolve visited i = .ok text ↔ i.ref.key ∉ visited ∧
      ∃ body, getContent i.ref.name i.ref.version = .ok body
        ∧ resolve (i.ref.key :: visited) body = .ok text := by
  unfold includeOne
  rw [ite_error_eq_ok]
  refine and_congr_right (fun _ => ?_)
  cases getContent i.ref.name i.ref.version with
  | error e => exact ⟨fun h => (nomatch h), fun ⟨_, h, _⟩ => (nomatch h)⟩
  | ok body =>
      constructor
      · intro h
        exact ⟨body, rfl, h⟩
      · rintro ⟨body', hbody, h⟩
        obtain rfl := Except.ok.inj hbody
        exact h

/-- A text is resolved at a level exactly if each of its includes is, at the next. -/
theorem exists_resolveLevels_iff (levels : Nat) (visited : List (List Char))
    (content : List Char) :
    (∃ text, resolveLevels D getContent (levels + 1) visited content = .ok text) ↔
      ∀ r ∈ includes D content, r.key ∉ visited ∧ ∃ body,
        getContent r.name r.version = .ok body
          ∧ ∃ text, resolveLevels D getContent levels (r.key :: visited) body = .ok text := by
  show (∃ text, (includePattern D).subM
    (includeOne getContent (resolveLevels D getContent levels) visited) content = .ok text) ↔ _
  unfold includes
  rw [Pattern.exists_subM_iff, List.forall_mem_map]
  refine forall₂_congr (fun i _ => ?_)
  constructor
  · rintro ⟨text, h⟩
    obtain ⟨hvisited, body, hload, htext⟩ := includeOne_eq_ok_iff.mp h
    exact ⟨hvisited, body, hload, text, htext⟩
  · rintro ⟨hvisited, body, hload, text, htext⟩
    exact ⟨text, includeOne_eq_ok_iff.mpr ⟨hvisited, body, hload, htext⟩⟩

/-- The chains that a resolved text has. -/
theorem chain_of_resolved (levels : Nat) {visited : List (List Char)} {content text : List Char}
    (h : resolveLevels D getContent (levels + 1) visited content = .ok text) {chain : List Ref}
    (hchain : Chain D getContent content chain) :
    chain.length ≤ levels ∧ ∀ r ∈ chain, ∃ body, getContent r.name r.version = .ok body := by
  induction levels generalizing visited content text chain with
  | zero =>
      cases chain with
      | nil => exact ⟨Nat.le_refl _, fun r hr => (nomatch hr)⟩
      | cons r rs =>
          obtain ⟨-, body, -, text', htext⟩ :=
            (exists_resolveLevels_iff 0 visited content).mp ⟨text, h⟩ r hchain.1
          cases htext
  | succ levels ih =>
      cases chain with
      | nil => exact ⟨Nat.zero_le _, fun r hr => (nomatch hr)⟩
      | cons r rs =>
          obtain ⟨-, body, hload, text', htext⟩ :=
            (exists_resolveLevels_iff _ visited content).mp ⟨text, h⟩ r hchain.1
          obtain ⟨-, rfl | ⟨body', hload', hrs⟩⟩ := hchain
          · exact ⟨Nat.le_add_left _ _, List.forall_mem_cons.mpr ⟨⟨body, hload⟩, by simp⟩⟩
          · obtain rfl : body = body' := Except.ok.inj (hload.symm.trans hload')
            obtain ⟨hlength, hloads⟩ := ih htext hrs
            exact ⟨Nat.succ_le_succ hlength, List.forall_mem_cons.mpr ⟨⟨body, hload⟩, hloads⟩⟩

/-- A text whose chains are short enough, load and stay away from what was visited is
resolved. -/
theorem exists_resolved (levels : Nat) {visited : List (List Char)} {content : List Char}
    (hchains : ∀ chain, Chain D getContent content chain → chain.length ≤ levels
      ∧ ∀ r ∈ chain, ∃ body, getContent r.name r.version = .ok body)
    (hvisited : ∀ chain, Chain D getContent content chain → ∀ r ∈ chain, r.key ∉ visited) :
    ∃ text, resolveLevels D getContent (levels + 1) visited content = .ok text := by
  induction levels generalizing visited content with
  | zero =>
      refine (exists_resolveLevels_iff 0 visited content).mpr (fun r hr => ?_)
      exact absurd (hchains [r] ⟨hr, .inl rfl⟩).1 (by simp)
  | succ levels ih =>
      refine (exists_resolveLevels_iff _ visited content).mpr (fun r hr => ?_)
      have hsingle : Chain D getContent content [r] := ⟨hr, .inl rfl⟩
      obtain ⟨body, hload⟩ := (hchains [r] hsingle).2 r List.mem_cons_self
      have hcons : ∀ {rs}, Chain D getContent body rs → Chain D getContent content (r :: rs) :=
        fun hrs => ⟨hr, .inr ⟨body, hload, hrs⟩⟩
      refine ⟨hvisited [r] hsingle r List.mem_cons_self, body, hload, ih ?_ ?_⟩
      · intro rs hrs
        obtain ⟨hlength, hloads⟩ := hchains _ (hcons hrs)
        exact ⟨Nat.le_of_succ_le_succ hlength, (List.forall_mem_cons.mp hloads).2⟩
      · -- a key that is met again is the key of `r`, and `r` is not within itself
        intro rs hrs r' hr' hmem
        have hchain := hcons hrs
        rcases List.mem_cons.mp hmem with hkey | hmem
        · have hnames := hchain.names
          have heq : r' = r := ref_of_key (hnames r' (List.mem_cons_of_mem r hr'))
            (hnames r List.mem_cons_self) hkey
          exact Chain.not_mem_of_bounded (fun chain h => (hchains chain h).1) hchain (heq ▸ hr')
        · exact hvisited _ hchain r' (List.mem_cons_of_mem r hr') hmem

/-- **WHAT IS RETURNED** is the resolved text. -/
theorem resolved_of_resolveLevels (levels : Nat) {visited : List (List Char)}
    {content text : List Char} (h : resolveLevels D getContent levels visited content = .ok text) :
    Resolved D getContent content text := by
  induction levels generalizing visited content text with
  | zero => cases h
  | succ levels ih =>
      change (includePattern D).subM _ content = .ok text at h
      induction content using (includePattern D).induct generalizing text with
      | nil =>
          obtain rfl := Except.ok.inj h
          exact .nil
      | char c s hfront ih' =>
          rw [(includePattern D).subM_char _ hfront] at h
          obtain ⟨t, ht, rfl⟩ := map_eq_ok h
          exact .char hfront (ih' ht)
      | hit i s hi ih' =>
          rw [(includePattern D).subM_hit hi] at h
          obtain ⟨t, ht, h⟩ := bind_eq_ok.mp h
          obtain ⟨t', ht', h⟩ := bind_eq_ok.mp h
          obtain rfl := Except.ok.inj h
          obtain ⟨-, body, hload, hbody⟩ := includeOne_eq_ok_iff.mp ht
          exact .hit hi hload (ih hbody) (ih' ht')

/-- **INCLUDE RESOLUTION SUCCEEDS EXACTLY WHEN IT SHOULD**: it returns a text if no chain of
includes is longer than `MAX_INCLUDE_DEPTH` and every template that is met loads; the text is
then the resolved one.  Otherwise it raises. -/
theorem resolveIncludes_returns_iff (D : Digits) (getContent : GetContent) (content : List Char) :
    ((∃ text, resolveIncludes D getContent content = .ok text)
      ↔ ∀ chain, Chain D getContent content chain → chain.length ≤ maxIncludeDepth
        ∧ ∀ r ∈ chain, ∃ body, getContent r.name r.version = .ok body)
    ∧ ∀ text, resolveIncludes D getContent content = .ok text →
        Resolved D getContent content text := by
  refine ⟨⟨?_, ?_⟩, fun text h => resolved_of_resolveLevels _ h⟩
  · rintro ⟨text, h⟩ chain hchain
    exact chain_of_resolved maxIncludeDepth h hchain
  · intro hchains
    exact exists_resolved maxIncludeDepth hchains
      (fun _ _ _ _ hmem => (nomatch hmem))

end PureBoot.Templates
