/-
  PureBoot.Templates.Variables — the VARIABLES of templates.

  Embeds `resolve` and `list_variables` of `core/variable_resolver.py` with their pattern.
  A context has a dictionary of values for each namespace; `str` of a value is a parameter.

  Main results:
    * `resolve_hit` — what is put in the place of a variable is not scanned;
    * `resolve_uses_listed` — two contexts that agree on the listed variables give one text,
      and the text is read off the cut of the content.
-/
import PureBoot.Lib.Dict
import PureBoot.Lib.Pattern
import Mathlib.Data.List.Basic

namespace PureBoot.Templates

open PureBoot.Lib

/-! ## §1. The pattern. -/

/-- What `VARIABLE_PATTERN` captures. -/
structure Variable where
  ns : List Char
  key : List Char
  default : Option (List Char)
  deriving DecidableEq

/-- How a variable begins. -/
def variableOpen : List Char := "$\x7b".toList

/-- `(?:\|([^}]*))?\}`. -/
def spellDefault (default : Option (List Char)) : List Char :=
  (default.map (fun text => '|' :: text)).getD [] ++ ['}']

/-- The text of a variable. -/
def Variable.spell (v : Variable) : List Char :=
  variableOpen ++ (v.ns ++ '.' :: (v.key ++ spellDefault v.default))

/-- `[^}]`. -/
def notBrace (c : Char) : Bool := c ≠ '}'

/-- `[a-z_]`. -/
def isKeyChar (c : Char) : Bool := c.isLower || c = '_'

structure Variable.Valid (v : Variable) : Prop where
  ns_ne_nil : v.ns ≠ []
  ns : ∀ c ∈ v.ns, c.isLower = true
  key_ne_nil : v.key ≠ []
  key : ∀ c ∈ v.key, isKeyChar c = true
  default : ∀ text ∈ v.default, ∀ c ∈ text, notBrace c = true

/-- What follows the key. -/
def readDefault : List Char → Option (Option (List Char))
  | '}' :: _ => some none
  | '|' :: s =>
      match s.dropWhile notBrace with
      | [] => none
      | _ :: _ => some (some (s.takeWhile notBrace))
  | _ => none

/-- The variable at the front of a text. -/
def readVariable (s : List Char) : Option Variable := do
  let s ← s.dropPrefix? variableOpen
  let (ns, s) ← readRun Char.isLower s
  let s ← s.dropPrefix? ['.']
  let (key, s) ← readRun isKeyChar s
  let default ← readDefault s
  return ⟨ns, key, default⟩

theorem readDefault_eq_some_iff {s : List Char} {default : Option (List Char)} :
    readDefault s = some default ↔
      (∀ text ∈ default, ∀ c ∈ text, notBrace c = true) ∧ spellDefault default <+: s := by
  constructor
  · intro h
    unfold readDefault at h
    split at h
    next rest =>
      obtain rfl := Option.some.inj h
      exact ⟨fun text htext => (nomatch htext), ⟨rest, rfl⟩⟩
    next s =>
      split at h
      next => cases h
      next c rest hdrop =>
        -- the run of the default ends at the brace
        obtain rfl := Option.some.inj h
        have hhead := List.head?_dropWhile_not notBrace s
        rw [hdrop] at hhead
        obtain rfl : c = '}' := by simpa [notBrace] using hhead
        refine ⟨?_, rest, ?_⟩
        · rintro text ⟨⟩ c hc
          exact List.mem_takeWhile_imp hc
        · conv_rhs => rw [← List.takeWhile_append_dropWhile (p := notBrace) (l := s), hdrop]
          simp [spellDefault]
    next => cases h
  · rintro ⟨hvalid, rest, rfl⟩
    cases default with
    | none => rfl
    | some text =>
        have hall := hvalid text rfl
        have hspell : spellDefault (some text) ++ rest = '|' :: (text ++ '}' :: rest) := by
          simp [spellDefault]
        have hdrop : (text ++ '}' :: rest).dropWhile notBrace = '}' :: rest := by
          rw [List.dropWhile_append_of_pos hall]
          rfl
        have htake : (text ++ '}' :: rest).takeWhile notBrace = text := by
          rw [List.takeWhile_append_of_pos hall]
          exact List.append_nil text
        rw [hspell]
        unfold readDefault
        simp only [hdrop, htake]

/-- What was read is what is written. -/
theorem readVariable_eq_some_iff {s : List Char} {v : Variable} :
    readVariable s = some v ↔ v.Valid ∧ v.spell <+: s := by
  unfold readVariable
  simp only [Option.bind_eq_bind, Option.bind_eq_some_iff]
  constructor
  · rintro ⟨s₁, hopen, ⟨ns, s₂⟩, hns, s₃, hdot, ⟨key, s₄⟩, hkey, default, hdefault, heq⟩
    obtain rfl := Option.some.inj heq
    obtain ⟨p, rfl, hp⟩ := List.dropPrefix?_eq_some_iff.mp hopen
    obtain ⟨hne, hall, -, rfl⟩ := readRun_eq_some_iff.mp hns
    obtain ⟨p', rfl, hp'⟩ := List.dropPrefix?_eq_some_iff.mp hdot
    obtain ⟨hne', hall', -, rfl⟩ := readRun_eq_some_iff.mp hkey
    obtain ⟨hvalid, rest, rfl⟩ := readDefault_eq_some_iff.mp hdefault
    refine ⟨⟨hne, hall, hne', hall', hvalid⟩, rest, ?_⟩
    rw [eq_of_beq hp, eq_of_beq hp']
    simp [Variable.spell]
  · rintro ⟨⟨hne, hall, hne', hall', hvalid⟩, rest, rfl⟩
    have hspell : v.spell ++ rest
        = variableOpen ++ (v.ns ++ '.' :: (v.key ++ (spellDefault v.default ++ rest))) := by
      simp [Variable.spell]
    -- each name ends where the next part begins
    have hns : readRun Char.isLower (v.ns ++ '.' :: (v.key ++ (spellDefault v.default ++ rest)))
        = some (v.ns, '.' :: (v.key ++ (spellDefault v.default ++ rest))) := by
      refine readRun_eq_some_iff.mpr ⟨hne, hall, ?_, rfl⟩
      rintro c ⟨⟩
      decide
    have hkey : readRun isKeyChar (v.key ++ (spellDefault v.default ++ rest))
        = some (v.key, spellDefault v.default ++ rest) := by
      refine readRun_eq_some_iff.mpr ⟨hne', hall', ?_, rfl⟩
      cases v.default with
      | none =>
          rintro c ⟨⟩
          decide
      | some text =>
          rintro c ⟨⟩
          decide
    exact ⟨_, List.dropPrefix?_eq_some_iff.mpr ⟨_, hspell, beq_self_eq_true _⟩, _, hns,
      _, List.dropPrefix?_eq_some_iff.mpr ⟨['.'], rfl, beq_self_eq_true _⟩, _, hkey,
      v.default, readDefault_eq_some_iff.mpr ⟨hvalid, List.prefix_append _ _⟩, rfl⟩

theorem variableSpell_ne_nil (v : Variable) : v.spell ≠ [] := by
  have hopen : variableOpen ≠ [] := by decide
  exact fun hnil => hopen (List.append_eq_nil_iff.mp hnil).1

/-- `VARIABLE_PATTERN`. -/
def variablePattern : Pattern Char Variable where
  spell := Variable.spell
  Valid := Variable.Valid
  front := readVariable
  front_eq_some_iff := readVariable_eq_some_iff
  spell_ne_nil := fun _ => variableSpell_ne_nil _

/-! ## §2. Resolving. -/

/-- `VariableResolver.context`: for each namespace a dictionary, whose values may be `None`. -/
abbrev Context (ν : Type) : Type := Lib.Dict (List Char) (Lib.Dict (List Char) (Option ν))

variable {ν : Type} (str : ν → List Char)

/-- `self.context.get(namespace, {}).get(key)`. -/
def Context.value (ctx : Context ν) (ns key : List Char) : Option ν :=
  (((Dict.get ctx ns).getD Table.empty).get key).join

/-- What is put in the place of a variable. -/
def replacement (ctx : Context ν) (v : Variable) : List Char :=
  match ctx.value v.ns v.key with
  | none => v.default.getD v.spell
  | some value => str value

/-- `VariableResolver.resolve`. -/
def resolve (ctx : Context ν) (content : List Char) : List Char :=
  variablePattern.sub (replacement str ctx) content

/-- `VariableResolver.list_variables`. -/
def listVariables (content : List Char) : List (List Char) :=
  (variablePattern.hits content).map (fun v => v.ns ++ '.' :: v.key)

/-- The value of a listed variable: its name is split at the first dot. -/
def Context.valueOf (ctx : Context ν) (name : List Char) : Option ν :=
  ctx.value (name.takeWhile (fun c => c ≠ '.')) (name.dropWhile (fun c => c ≠ '.')).tail

/-! ## §3. Only the listed variables are used, once. -/

/-- A namespace has no dot. -/
theorem valueOf_name (ctx : Context ν) {v : Variable} (hv : v.Valid) :
    ctx.valueOf (v.ns ++ '.' :: v.key) = ctx.value v.ns v.key := by
  have hall : ∀ c ∈ v.ns, decide (c ≠ '.') = true := by
    intro c hc
    refine decide_eq_true ?_
    rintro rfl
    exact absurd (hv.ns '.' hc) (by decide)
  unfold Context.valueOf
  rw [List.takeWhile_append_of_pos hall, List.dropWhile_append_of_pos hall]
  have htake : ('.' :: v.key).takeWhile (fun c => decide (c ≠ '.')) = [] := rfl
  have hdrop : ('.' :: v.key).dropWhile (fun c => decide (c ≠ '.')) = '.' :: v.key := rfl
  rw [htake, hdrop, List.append_nil, List.tail_cons]

/-- **WHAT IS PUT IN** the place of a variable is not scanned. -/
theorem resolve_hit (ctx : Context ν) {v : Variable} (hv : v.Valid) (rest : List Char) :
    resolve str ctx (v.spell ++ rest) = replacement str ctx v ++ resolve str ctx rest :=
  variablePattern.sub_hit hv _ _

theorem resolve_congr {ctx ctx' : Context ν} {content : List Char}
    (h : ∀ name ∈ listVariables content, ctx.valueOf name = ctx'.valueOf name) :
    resolve str ctx content = resolve str ctx' content := by
  refine variablePattern.sub_congr (fun v hv => ?_)
  have hvalid : v.Valid := variablePattern.valid_of_mem_hits hv
  have hvalue := h _ (List.mem_map.mpr ⟨v, hv, rfl⟩)
  rw [valueOf_name ctx hvalid, valueOf_name ctx' hvalid] at hvalue
  unfold replacement
  rw [hvalue]

/-- **VARIABLE RESOLUTION** uses the listed variables only: contexts that agree on them give
one text.  The text is read off the one cut of the content into characters that no variable
begins at and variables; each variable is replaced by its value, by its default or by
itself. -/
theorem resolve_uses_listed {ctx ctx' : Context ν} {content : List Char}
    (h : ∀ name ∈ listVariables content, ctx.valueOf name = ctx'.valueOf name) :
    resolve str ctx content = resolve str ctx' content
      ∧ ∃ ps, variablePattern.Cut content ps
        ∧ (∀ ps', variablePattern.Cut content ps' → ps' = ps)
        ∧ (ps.map variablePattern.text).flatten = content
        ∧ resolve str ctx content
          = ps.flatMap (fun
            | .char c => [c]
            | .hit v => ((ctx.value v.ns v.key).map str).getD (v.default.getD v.spell)) := by
  refine ⟨resolve_congr str h, variablePattern.pieces content, variablePattern.cut_iff.mpr rfl,
    fun ps' hps' => variablePattern.cut_iff.mp hps', variablePattern.flatten_pieces content, ?_⟩
  unfold resolve Pattern.sub
  congr 1
  funext p
  cases p with
  | char c => rfl
  | hit v =>
      dsimp only
      unfold replacement
      cases ctx.value v.ns v.key <;> rfl

/-- A host name that is the text of a secret's placeholder, and some secret. -/
def withSecret (secret : List Char) : Context (List Char) :=
  Dict.set (Dict.set Table.empty "node".toList
      (Dict.set Table.empty "hostname".toList (some "$\x7bsecret.key\x7d".toList)))
    "secret".toList (Dict.set Table.empty "key".toList (some secret))

/-- The placeholder stays; the other variable has a default only. -/
theorem withSecret_resolve :
    resolve id (withSecret "one".toList) "$\x7bnode.hostname\x7d $\x7bnode.ip|dhcp\x7d".toList
        = resolve id (withSecret "two".toList)
          "$\x7bnode.hostname\x7d $\x7bnode.ip|dhcp\x7d".toList
      ∧ resolve id (withSecret "one".toList)
          "$\x7bnode.hostname\x7d $\x7bnode.ip|dhcp\x7d".toList
        = "$\x7bsecret.key\x7d dhcp".toList :=
  ⟨(resolve_uses_listed id (by decide +kernel)).1, by decide +kernel⟩

end PureBoot.Templates
