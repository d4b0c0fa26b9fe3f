/-
  PureBoot.Templates.Seams — does a DIRECTIVE survive that nobody wrote?

  A resolved text is made of fragments: the text between two directives of the content or of
  a template it includes, as it stands there, in document order (`Fringe`).  No fragment has
  a directive in it.  But the fragments are joined and not scanned again, so where one ends
  with `$` and the next begins with `{include:x}`, a directive is in the result.

  Main results:
    * `Fringe.clean` — no fragment contains a directive;
    * `resolveIncludes_clean_iff` — the texts that are resolved for good.
-/
import PureBoot.Templates.Includes

namespace PureBoot.Templates

open PureBoot.Lib

variable (D : Digits) (getContent : GetContent)

/-- No substring of the text matches `INCLUDE_PATTERN`. -/
def NoDirective (text : List Char) : Prop := ∀ i : Include, i.Valid D → ¬ i.spell <:+: text

/-- **THE FRAGMENTS** of a content: its text between directives, with the fragments of each
included template in the place of its directive. -/
inductive Fringe : List Char → List (List Char) → Prop where
  | nil : Fringe [] [[]]
  | char {c s g gs} (h : (includePattern D).front (c :: s) = none) (hs : Fringe s (g :: gs)) :
      Fringe (c :: s) ((c :: g) :: gs)
  | hit {i : Include} {s body fs gs} (hi : i.Valid D)
      (hload : getContent i.ref.name i.ref.version = .ok body)
      (hbody : Fringe body fs) (hs : Fringe s gs) : Fringe (i.spell ++ s) ([] :: (fs ++ gs))

variable {D getContent}

/-! ## §1. The resolved text is one text. -/

theorem resolved_char_iff {c : Char} {s t : List Char}
    (h : (includePattern D).front (c :: s) = none) :
    Resolved D getContent (c :: s) t ↔ ∃ t', t = c :: t' ∧ Resolved D getContent s t' := by
  constructor
  · intro hres
    generalize hcs : c :: s = cs at hres
    cases hres with
    | nil => cases hcs
    | char _ hs =>
        obtain ⟨rfl, rfl⟩ := List.cons.inj hcs
        exact ⟨_, rfl, hs⟩
    | hit hi =>
        rw [hcs, front_include hi] at h
        cases h
  · rintro ⟨t', rfl, hs⟩
    exact .char h hs

theorem resolved_include_iff {i : Include} {s t : List Char} (hi : i.Valid D) :
    Resolved D getContent (i.spell ++ s) t ↔ ∃ body t₁ t₂,
      getContent i.ref.name i.ref.version = .ok body ∧ Resolved D getContent body t₁
        ∧ Resolved D getContent s t₂ ∧ t = t₁ ++ t₂ := by
  constructor
  · intro hres
    have hfront := front_include hi s
    generalize hcs : i.spell ++ s = cs at hres hfront
    cases hres with
    | nil => exact absurd (List.append_eq_nil_iff.mp hcs).1 (includeSpell_ne_nil i)
    | char h _ =>
        rw [h] at hfront
        cases hfront
    | hit hi' hload hbody hs =>
        rw [front_include hi'] at hfront
        obtain rfl := Option.some.inj hfront
        obtain rfl := List.append_cancel_left hcs
        exact ⟨_, _, _, hload, hbody, hs, rfl⟩
  · rintro ⟨body, t₁, t₂, hload, hbody, hs, rfl⟩
    exact .hit hi hload hbody hs

theorem Resolved.unique {content t t' : List Char} (h : Resolved D getContent content t)
    (h' : Resolved D getContent content t') : t = t' := by
  induction h generalizing t' with
  | nil =>
      generalize hnil : [] = content at h'
      cases h' with
      | nil => rfl
      | char => cases hnil
      | hit => exact absurd (List.append_eq_nil_iff.mp hnil.symm).1 (includeSpell_ne_nil _)
  | char hfront _ ih =>
      obtain ⟨t', rfl, hs⟩ := (resolved_char_iff hfront).mp h'
      rw [ih hs]
  | hit hi hload _ _ ihbody ih =>
      obtain ⟨body, t₁, t₂, hload', hbody, hs, rfl⟩ := (resolved_include_iff hi).mp h'
      obtain rfl := Except.ok.inj (hload.symm.trans hload')
      rw [ihbody hbody, ih hs]

/-! ## §2. The fragments. -/

/-- The fragments make up the resolved text. -/
theorem Fringe.resolved {content : List Char} {frags : List (List Char)}
    (h : Fringe D getContent content frags) : Resolved D getContent content frags.flatten := by
  induction h with
  | nil => exact .nil
  | char hfront _ ih => exact .char hfront ih
  | hit hi hload _ _ ihbody ih =>
      rw [List.flatten_cons, List.nil_append, List.flatten_append]
      exact .hit hi hload ihbody ih

/-- The first fragment begins the content. -/
theorem Fringe.head {content : List Char} {frags : List (List Char)}
    (h : Fringe D getContent content frags) : ∃ g gs, frags = g :: gs ∧ g <+: content := by
  induction h with
  | nil => exact ⟨[], [], rfl, List.prefix_refl _⟩
  | char _ _ ih =>
      obtain ⟨g, gs, heq, hpre⟩ := ih
      obtain ⟨rfl, rfl⟩ := List.cons.inj heq
      exact ⟨_, _, rfl, List.cons_prefix_cons.mpr ⟨rfl, hpre⟩⟩
  | hit => exact ⟨_, _, rfl, List.nil_prefix⟩

theorem exists_fringe {content text : List Char} (h : Resolved D getContent content text) :
    ∃ frags, Fringe D getContent content frags := by
  induction h with
  | nil => exact ⟨_, .nil⟩
  | char hfront _ ih =>
      obtain ⟨frags, hfrags⟩ := ih
      obtain ⟨g, gs, rfl, -⟩ := hfrags.head
      exact ⟨_, .char hfront hfrags⟩
  | hit hi hload _ _ ihbody ih =>
      obtain ⟨fs, hfs⟩ := ihbody
      obtain ⟨gs, hgs⟩ := ih
      exact ⟨_, .hit hi hload hfs hgs⟩

/-- **NO FRAGMENT** contains a directive. -/
theorem Fringe.clean {content : List Char} {frags : List (List Char)}
    (h : Fringe D getContent content frags) : ∀ g ∈ frags, NoDirective D g := by
  induction h with
  | nil =>
      intro g hg i _ hinfix
      rw [List.mem_singleton.mp hg] at hinfix
      exact includeSpell_ne_nil i (List.infix_nil.mp hinfix)
  | @char c s g gs hfront hs ih =>
      obtain ⟨g', gs', heq, hpre⟩ := hs.head
      obtain ⟨rfl, rfl⟩ := List.cons.inj heq
      rw [List.forall_mem_cons] at ih ⊢
      refine ⟨fun i hi hinfix => ?_, ih.2⟩
      -- a directive at the front of the fragment would be one at the front of the text
      rcases List.infix_cons_iff.mp hinfix with hfirst | hrest
      · have hnone := (includePattern D).front_eq_none_iff.mp hfront i hi
        exact hnone (hfirst.trans (List.cons_prefix_cons.mpr ⟨rfl, hpre⟩))
      · exact ih.1 i hi hrest
  | hit _ _ _ _ ihbody ih =>
      rw [List.forall_mem_cons, List.forall_mem_append]
      refine ⟨fun i _ hinfix => ?_, ihbody, ih⟩
      exact includeSpell_ne_nil i (List.infix_nil.mp hinfix)

/-! ## §3. The result. -/

/-- A text without a directive is resolved as it is. -/
theorem resolveIncludes_of_noDirective {text : List Char} (h : NoDirective D text) :
    resolveIncludes D getContent text = .ok text :=
  (includePattern D).subM_of_hits_eq_nil (((includePattern D).hits_eq_nil_iff text).mpr h)

/-- **NO DIRECTIVE SURVIVES** in a resolved text exactly if none is spread over neighbouring
fragments. -/
theorem resolveIncludes_clean_iff {content text : List Char}
    (h : resolveIncludes D getContent content = .ok text) :
    (∃ frags, Fringe D getContent content frags) ∧
      ∀ frags, Fringe D getContent content frags →
        ((NoDirective D text ∧ resolveIncludes D getContent text = .ok text)
          ↔ ∀ i : Include, i.Valid D → ¬ Straddles i.spell frags) := by
  have hres : Resolved D getContent content text := resolved_of_resolveLevels _ h
  refine ⟨exists_fringe hres, fun frags hfrags => ?_⟩
  have htext : frags.flatten = text := hfrags.resolved.unique hres
  have hdirective : NoDirective D text
      ↔ ∀ i : Include, i.Valid D → ¬ Straddles i.spell frags := by
    refine forall₂_congr (fun i hi => not_congr ?_)
    rw [← htext, infix_flatten_iff (includeSpell_ne_nil i)]
    refine or_iff_right ?_
    rintro ⟨g, hg, hinfix⟩
    exact hfrags.clean g hg i hi hinfix
  constructor
  · intro hclean
    exact hdirective.mp hclean.1
  · intro hspread
    have hno := hdirective.mpr hspread
    exact ⟨hno, resolveIncludes_of_noDirective hno⟩

theorem isDigit_ascii (c : Char) (_ : c.toNat < 128) : Char.isDigit c = c.isDigit := rfl

/-- The digits of ASCII. -/
def asciiDigits : Digits := ⟨Char.isDigit, isDigit_ascii⟩

/-- A store of three templates; the text of `part` is a directive without its dollar. -/
def smallStore : GetContent := fun name _ =>
  if name = "part".toList then .ok "\x7binclude:motd\x7d".toList
  else if name = "motd".toList then .ok "hello".toList
  else .error "not found"

theorem motd_clean :
    (∃ frags, Fringe asciiDigits smallStore "<$\x7binclude:motd\x7d>".toList frags) ∧
      ∀ frags, Fringe asciiDigits smallStore "<$\x7binclude:motd\x7d>".toList frags →
        ((NoDirective asciiDigits "<hello>".toList
            ∧ resolveIncludes asciiDigits smallStore "<hello>".toList = .ok "<hello>".toList)
          ↔ ∀ i : Include, i.Valid asciiDigits → ¬ Straddles i.spell frags) :=
  resolveIncludes_clean_iff (by decide +kernel)

/-- A dollar before the directive makes the text of `part` one, and resolving the result again
replaces that. -/
theorem part_survives :
    resolveIncludes asciiDigits smallStore "$$\x7binclude:part\x7d".toList
        = .ok "$\x7binclude:motd\x7d".toList
      ∧ ¬ NoDirective asciiDigits "$\x7binclude:motd\x7d".toList
      ∧ resolveIncludes asciiDigits smallStore "$\x7binclude:motd\x7d".toList
        = .ok "hello".toList := by
  refine ⟨by decide +kernel, ?_, by decide +kernel⟩
  intro hno
  have hread : readInclude asciiDigits "$\x7binclude:motd\x7d".toList
      = some ⟨"motd".toList, none⟩ := by
    decide +kernel
  obtain ⟨hvalid, hprefix⟩ := readInclude_eq_some_iff.mp hread
  exact hno _ hvalid hprefix.isInfix

end PureBoot.Templates
