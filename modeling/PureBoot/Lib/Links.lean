/-
  PureBoot.Lib.Links — SYMBOLIC LINKS, and the path that a path resolves to.

  `Leads links p cs q` says that the components `cs` lead from the directory `p` to `q`, as
  `realpath` goes: `..` goes up from where the walk has come to, a name that is no link is
  entered, and a link is followed to where its text leads, from the top if the text begins
  with a slash.  Where a walk leads is unique, and no part of the path it ends in is a link.

  A `Layout` is a set of links without loops: every walk ends.

  Main results:
    * `Leads.unique`, `Leads.of_append` — walks are deterministic, and can be taken in parts;
    * `Leads.real` — they end in paths without links;
    * `leads_of_free`, `Layout.resolve_append_of_free` — a walk that meets no link and does not go
      up ends where it says.
-/
import PureBoot.Lib.Posix

namespace PureBoot.Lib

open AbsPath

/-! ## §1. Walks. -/

/-- What `readlink` says about a path; nothing, if it is not a link. -/
abbrev Links : Type := AbsPath → Option (List Char)

/-- The directory from which a text is read. -/
def AbsPath.startOf (p : AbsPath) (text : List Char) : AbsPath :=
  if text.head? = some '/' then top else p

/-- The components lead from the first path to the second. -/
inductive Leads (links : Links) : AbsPath → List (List Char) → AbsPath → Prop
  | done (p : AbsPath) : Leads links p [] p
  /-- `..`, an empty component or `.`, or a name that is no link. -/
  | enter {p q : AbsPath} {c : List Char} {cs : List (List Char)} :
      (isName c = true → links (p.enter c) = none) → Leads links (p.enter c) cs q →
      Leads links p (c :: cs) q
  | follow {p q r : AbsPath} {c text : List Char} {cs : List (List Char)} :
      isName c = true → links (p.enter c) = some text →
      Leads links (p.startOf text) (text.splitOn '/') r → Leads links r cs q →
      Leads links p (c :: cs) q

/-- No part of the path is a link. -/
def Real (links : Links) (p : AbsPath) : Prop :=
  ∀ q, Under q p → q ≠ top → links q = none

/-- No link is on the way from the first path down to the second. -/
def Free (links : Links) (p q : AbsPath) : Prop :=
  ∀ r, Inside p r → Under r q → links r = none

namespace Leads

variable {links : Links} {p q r : AbsPath} {cs ds : List (List Char)}

/-- **A WALK LEADS TO ONE PATH.** -/
theorem unique (h : Leads links p cs q) (h' : Leads links p cs r) : q = r := by
  induction h generalizing r with
  | done p =>
      cases h'
      rfl
  | enter hlink _ ih =>
      cases h' with
      | enter _ hrest => exact ih hrest
      | follow hname hfollow _ _ =>
          rw [hlink hname] at hfollow
          cases hfollow
  | follow hname hfollow _ _ ihTarget ih =>
      cases h' with
      | enter hlink _ =>
          rw [hlink hname] at hfollow
          cases hfollow
      | follow _ hfollow' htarget hrest =>
          rw [hfollow] at hfollow'
          obtain rfl := Option.some.inj hfollow'
          obtain rfl := ihTarget htarget
          exact ih hrest

/-- A walk in two parts. -/
theorem of_append (h : Leads links p (cs ++ ds) r) :
    ∃ q, Leads links p cs q ∧ Leads links q ds r := by
  induction cs generalizing p with
  | nil => exact ⟨p, .done p, h⟩
  | cons c cs ih =>
      cases h with
      | enter hlink hrest =>
          obtain ⟨q, hq, hr⟩ := ih hrest
          exact ⟨q, .enter hlink hq, hr⟩
      | follow hname hlink htarget hrest =>
          obtain ⟨q, hq, hr⟩ := ih hrest
          exact ⟨q, .follow hname hlink htarget hq, hr⟩

end Leads

/-! ## §2. Paths without links. -/

section

variable {links : Links} {p q : AbsPath} {cs : List (List Char)}

theorem real_top (links : Links) : Real links top := by
  intro q hunder hne
  exact absurd (ext (List.prefix_nil.mp hunder)) hne

theorem Real.parent (h : Real links p) : Real links p.parent := by
  intro q hunder hne
  exact h q (hunder.trans (List.dropLast_prefix p.parts)) hne

theorem Real.startOf (h : Real links p) (text : List Char) : Real links (p.startOf text) := by
  unfold AbsPath.startOf
  split
  next => exact real_top links
  next => exact h

/-- One component that is no link. -/
theorem Real.enter (h : Real links p) {c : List Char}
    (hlink : isName c = true → links (p.enter c) = none) : Real links (p.enter c) := by
  by_cases hc : isName c = true
  · intro q hunder hne
    have hparts := parts_enter_name (p := p) hc
    have hunder : q.parts <+: p.parts ++ [c] := hparts ▸ (hunder : q.parts <+: (p.enter c).parts)
    -- what is above the new path is above the old one, or is the new one
    rcases List.prefix_concat_iff.mp hunder with heq | hunder
    · rw [show q = p.enter c from ext (heq.trans hparts.symm)]
      exact hlink hc
    · exact h q hunder hne
  · unfold AbsPath.enter
    rw [dif_neg hc]
    split
    next => exact h.parent
    next => exact h

/-- **A WALK ENDS IN A PATH WITHOUT LINKS**, from one. -/
theorem Leads.real (h : Leads links p cs q) (hp : Real links p) : Real links q := by
  induction h with
  | done p => exact hp
  | enter hlink _ ih => exact ih (hp.enter hlink)
  | follow _ _ _ _ ihTarget ih => exact ih (ihTarget (hp.startOf _))

theorem under_foldl_enter (hdots : ['.', '.'] ∉ cs) (p : AbsPath) :
    Under p (cs.foldl AbsPath.enter p) := by
  unfold Under
  rw [parts_foldl_enter hdots]
  exact List.prefix_append p.parts _

/-- **A WALK THAT MEETS NO LINK** and does not go up. -/
theorem leads_of_free (hdots : ['.', '.'] ∉ cs)
    (hfree : Free links p (cs.foldl AbsPath.enter p)) :
    Leads links p cs (cs.foldl AbsPath.enter p) := by
  induction cs generalizing p with
  | nil => exact .done p
  | cons c cs ih =>
      have hc : c ≠ ['.', '.'] := fun heq => hdots (heq ▸ List.mem_cons_self)
      have hdots' : ['.', '.'] ∉ cs := fun hmem => hdots (List.mem_cons_of_mem c hmem)
      have hunder : Under (p.enter c) (cs.foldl AbsPath.enter (p.enter c)) :=
        under_foldl_enter hdots' _
      refine .enter (fun hname => ?_) (ih hdots' (fun q hinside hq => ?_))
      · refine hfree (p.enter c) ⟨under_enter hc, fun heq => ?_⟩ hunder
        have hlength := congrArg (fun p => p.parts.length) heq
        simp [parts_enter_name hname] at hlength
      · refine hfree q ⟨(under_enter hc).trans hinside.1, fun heq => ?_⟩ hq
        -- below the next path, and so below this one
        subst heq
        exact hinside.2 (ext (hinside.1.eq_of_length_le (under_enter hc).length_le))

end

/-! ## §3. Layouts. -/

/-- Links without loops, and `Path(…).resolve()` for the components of an absolute path. -/
structure Layout where
  links : Links
  resolve : List (List Char) → AbsPath
  leads : ∀ cs, Leads links top cs (resolve cs)

namespace Layout

variable (l : Layout)

theorem real_resolve (cs : List (List Char)) : Real l.links (l.resolve cs) :=
  (l.leads cs).real (real_top l.links)

/-- What is resolved goes on from where the first part has led. -/
theorem leads_resolve (cs ds : List (List Char)) :
    Leads l.links (l.resolve cs) ds (l.resolve (cs ++ ds)) := by
  obtain ⟨q, hq, hds⟩ := (l.leads (cs ++ ds)).of_append
  rw [(l.leads cs).unique hq]
  exact hds

/-- **A WAY DOWN THAT MEETS NO LINK** ends where it says. -/
theorem resolve_append_of_free {cs ds : List (List Char)} (hdots : ['.', '.'] ∉ ds)
    (hfree : Free l.links (l.resolve cs) (ds.foldl enter (l.resolve cs))) :
    l.resolve (cs ++ ds) = ds.foldl enter (l.resolve cs) :=
  (l.leads_resolve cs ds).unique (leads_of_free hdots hfree)

theorem resolve_eq {cs : List (List Char)} {p : AbsPath} (h : Leads l.links top cs p) :
    l.resolve cs = p :=
  (l.leads cs).unique h

/-- **A PATH WITHOUT LINKS RESOLVES TO ITSELF.** -/
theorem resolve_real {p : AbsPath} (h : Real l.links p) : l.resolve p.parts = p := by
  have hdots : ['.', '.'] ∉ p.parts := by
    intro hmem
    exact absurd (p.valid _ hmem) (by decide)
  have hend : p.parts.foldl AbsPath.enter top = p := by
    refine ext ?_
    rw [parts_foldl_enter hdots, List.filter_eq_self.mpr p.valid]
    rfl
  refine l.resolve_eq ?_
  have hwalk : Leads l.links top p.parts (p.parts.foldl AbsPath.enter top) := by
    refine leads_of_free hdots (fun q hinside hunder => ?_)
    rw [hend] at hunder
    exact h q hunder hinside.2.symm
  rw [hend] at hwalk
  exact hwalk

/-- No links at all. -/
def linkFree : Layout where
  links := fun _ => none
  resolve := fun cs => cs.foldl AbsPath.enter top
  leads := by
    intro cs
    generalize top = p
    induction cs generalizing p with
    | nil => exact .done p
    | cons c cs ih => exact .enter (fun _ => rfl) (ih (p.enter c))

end Layout

end PureBoot.Lib
