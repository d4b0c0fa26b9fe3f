/-
  PureBoot.Lib.Posix — absolute PATHS, as components and as texts.

  An absolute path is its list of names: a name is not empty, has no slash and is
  neither `.` nor `..`, so a path that is not in normal form cannot be built.
  `resolveFrom` walks from a path along a relative text as `resolve` does where
  there are no links: empty components and `.` stay, `..` goes up.

  A path lies below another component by component (`Under`).  Comparing the TEXTS
  instead admits one more case, `nameExtends`: a path through a sibling whose name
  begins with the last name of the other path.

  Main results:
    * `text_isPrefix_iff`, `text_slash_isPrefix_iff` — what a comparison of texts admits, and
      what one with a slash behind the first text.
-/
import PureBoot.Lib.Text

namespace PureBoot.Lib

/-! ## §1. Absolute paths. -/

/-- A component that names an entry of a directory. -/
def isName (n : List Char) : Bool :=
  n ≠ [] && !n.contains '/' && n ≠ ['.'] && n ≠ ['.', '.']

theorem isName_iff {n : List Char} :
    isName n = true ↔ n ≠ [] ∧ '/' ∉ n ∧ n ≠ ['.'] ∧ n ≠ ['.', '.'] := by
  unfold isName
  simp [and_assoc]

/-- `path.lstrip("/")`. -/
def lstripSlash (path : List Char) : List Char := path.dropWhile (fun c => c = '/')

/-- `path.rstrip("/")`. -/
def rstripSlash (path : List Char) : List Char :=
  (path.reverse.dropWhile (fun c => c = '/')).reverse

/-- An absolute path in normal form. -/
structure AbsPath where
  parts : List (List Char)
  valid : ∀ n ∈ parts, isName n = true

/-- No component of a text has a slash. -/
theorem no_slash_of_mem_splitOn {t c : List Char} (h : c ∈ t.splitOn '/') : '/' ∉ c :=
  not_mem_of_mem_splitOn h

namespace AbsPath

@[ext] theorem ext {p q : AbsPath} (h : p.parts = q.parts) : p = q := by
  cases p; cases q; cases h; rfl

instance : DecidableEq AbsPath := fun p q =>
  decidable_of_iff (p.parts = q.parts) ⟨ext, fun h => h ▸ rfl⟩

/-- The directory `/`. -/
def top : AbsPath := ⟨[], fun _ h => absurd h List.not_mem_nil⟩

def parent (p : AbsPath) : AbsPath where
  parts := p.parts.dropLast
  valid := fun n hn => p.valid n (List.mem_of_mem_dropLast hn)

def child (p : AbsPath) (n : List Char) (hn : isName n = true) : AbsPath where
  parts := p.parts ++ [n]
  valid := by
    intro m hm
    rcases List.mem_append.mp hm with hm | hm
    · exact p.valid m hm
    · rw [List.mem_singleton.mp hm]
      exact hn

/-- One component of a relative path. -/
def enter (p : AbsPath) (c : List Char) : AbsPath :=
  if hc : isName c = true then p.child c hc
  else if c = ['.', '.'] then p.parent
  else p

/-- `(p / text).resolve()` for a text that does not begin with a slash, without links. -/
def resolveFrom (p : AbsPath) (text : List Char) : AbsPath :=
  (text.splitOn '/').foldl enter p

/-- `q` is `p` or lies below it, component by component. -/
def Under (p q : AbsPath) : Prop := p.parts <+: q.parts

instance (p q : AbsPath) : Decidable (Under p q) :=
  inferInstanceAs (Decidable (p.parts <+: q.parts))

theorem under_refl (p : AbsPath) : Under p p := List.prefix_refl p.parts

theorem Under.trans {p q r : AbsPath} (hpq : Under p q) (hqr : Under q r) : Under p r :=
  List.IsPrefix.trans hpq hqr

/-- `q` is below `p` and `p` below `q` only if they are one path. -/
theorem Under.antisymm {p q : AbsPath} (hpq : Under p q) (hqp : Under q p) : p = q :=
  ext (hpq.eq_of_length (Nat.le_antisymm hpq.length_le hqp.length_le))

/-- `str(path)`. -/
def text (p : AbsPath) : List Char :=
  if p.parts = [] then ['/'] else p.parts.flatMap (fun n => '/' :: n)

theorem splitOn_name {n : List Char} (hn : isName n = true) : n.splitOn '/' = [n] := by
  refine List.splitOnP_eq_singleton ?_
  intro c hc
  rw [beq_eq_false_iff_ne]
  rintro rfl
  exact (isName_iff.mp hn).2.1 hc

/-- A text that is a name leads one level down. -/
theorem resolveFrom_name {p : AbsPath} {n : List Char} (hn : isName n = true) :
    p.resolveFrom n = p.child n hn := by
  unfold resolveFrom
  rw [splitOn_name hn]
  show p.enter n = p.child n hn
  unfold enter
  rw [dif_pos hn]

theorem enter_of_isName {p : AbsPath} {n : List Char} (hn : isName n = true) :
    p.enter n = p.child n hn :=
  dif_pos hn

theorem parts_enter_name {p : AbsPath} {n : List Char} (hn : isName n = true) :
    (p.enter n).parts = p.parts ++ [n] := by
  rw [enter_of_isName hn]
  rfl

theorem parent_enter {p : AbsPath} {n : List Char} (hn : isName n = true) :
    (p.enter n).parent = p := by
  refine AbsPath.ext ?_
  show (p.enter n).parts.dropLast = p.parts
  rw [parts_enter_name hn, List.dropLast_concat]

/-- Components without `..` lead down, along the names among them. -/
theorem parts_foldl_enter {cs : List (List Char)} (h : ['.', '.'] ∉ cs) (p : AbsPath) :
    (cs.foldl enter p).parts = p.parts ++ cs.filter isName := by
  induction cs generalizing p with
  | nil => simp
  | cons c cs ih =>
      rw [List.foldl_cons, ih (fun hmem => h (List.mem_cons_of_mem c hmem))]
      by_cases hc : isName c = true
      · rw [enter_of_isName hc, List.filter_cons_of_pos hc]
        simp [child]
      · have hdots : c ≠ ['.', '.'] := fun heq => h (heq ▸ List.mem_cons_self)
        unfold enter
        rw [dif_neg hc, if_neg hdots, List.filter_cons_of_neg hc]

/-- A text without `..` leads down, along the names in it. -/
theorem parts_resolveFrom (p : AbsPath) {text : List Char} (h : ['.', '.'] ∉ text.splitOn '/') :
    (p.resolveFrom text).parts = p.parts ++ (text.splitOn '/').filter isName :=
  parts_foldl_enter h p

/-- Only `..` leads up. -/
theorem under_enter {p : AbsPath} {c : List Char} (h : c ≠ ['.', '.']) :
    Under p (p.enter c) := by
  by_cases hc : isName c = true
  · rw [enter_of_isName hc]
    exact List.prefix_append p.parts [c]
  · unfold enter
    rw [dif_neg hc, if_neg h]
    exact List.prefix_refl p.parts

/-- `p / text` in normal form; a text that begins with a slash replaces the path. -/
def join (p : AbsPath) (text : List Char) : AbsPath :=
  if text.head? = some '/' then top.resolveFrom text else p.resolveFrom text

/-- The names in a text. -/
def names (text : List Char) : List (List Char) := (text.splitOn '/').filter isName

theorem names_append (text rest : List Char) :
    names (text ++ '/' :: rest) = names text ++ names rest := by
  unfold names
  rw [List.splitOn_append_cons_self, List.filter_append]

theorem names_lstripSlash (text : List Char) : names (lstripSlash text) = names text := by
  induction text with
  | nil => rfl
  | cons c text ih =>
      unfold lstripSlash at ih ⊢
      by_cases hc : c = '/'
      · rw [List.dropWhile_cons_of_pos (by simpa using hc), ih, hc]
        exact (names_append [] text).symm
      · rw [List.dropWhile_cons_of_neg (by simpa using hc)]

theorem names_rstripSlash (text : List Char) : names (rstripSlash text) = names text := by
  induction text using List.reverseRecOn with
  | nil => rfl
  | append_singleton text c ih =>
      unfold rstripSlash at ih ⊢
      rw [List.reverse_append, List.reverse_singleton, List.singleton_append]
      by_cases hc : c = '/'
      · rw [List.dropWhile_cons_of_pos (by simpa using hc), ih, hc, names_append]
        exact (List.append_nil _).symm
      · rw [List.dropWhile_cons_of_neg (by simpa using hc)]
        simp

theorem names_of_no_slash {n : List Char} (h : '/' ∉ n) :
    names n = if isName n then [n] else [] := by
  have hsplit : n.splitOn '/' = [n] := by
    refine List.splitOnP_eq_singleton ?_
    intro c hc
    rw [beq_eq_false_iff_ne]
    rintro rfl
    exact h hc
  unfold names
  rw [hsplit, List.filter_singleton, Bool.cond_eq_ite]

theorem infix_intercalate {sep c : List Char} {cs : List (List Char)} (h : c ∈ cs) :
    c <:+: sep.intercalate cs := by
  induction cs with
  | nil => exact absurd h List.not_mem_nil
  | cons c' cs ih =>
      cases cs with
      | nil =>
          rw [List.intercalate_singleton, List.mem_singleton.mp h]
      | cons c'' cs =>
          rw [List.intercalate_cons_cons]
          rcases List.mem_cons.mp h with rfl | h
          · exact ⟨[], sep ++ sep.intercalate (c'' :: cs), by simp⟩
          · exact (ih h).trans (List.suffix_append _ _).isInfix

/-- A component of a text stands in it. -/
theorem infix_of_mem_splitOn {text c : List Char} (h : c ∈ text.splitOn '/') : c <:+: text := by
  have htext : ['/'].intercalate (text.splitOn '/') = text := List.intercalate_splitOn '/'
  rw [← htext]
  exact infix_intercalate h

/-- A text without two dots in a row leads down. -/
theorem parts_resolveFrom_names (p : AbsPath) {text : List Char} (h : ¬ ['.', '.'] <:+: text) :
    (p.resolveFrom text).parts = p.parts ++ names text :=
  parts_resolveFrom p (fun hmem => h (infix_of_mem_splitOn hmem))

/-- `q` lies below `p`. -/
def Inside (p q : AbsPath) : Prop := Under p q ∧ p ≠ q

instance (p q : AbsPath) : Decidable (Inside p q) :=
  inferInstanceAs (Decidable (_ ∧ _))

/-- What is below `p` has its parent there, or in `p` itself. -/
theorem Inside.parent {p q : AbsPath} (h : Inside p q) : Under p q.parent := by
  obtain ⟨⟨rest, hrest⟩, hne⟩ := h
  have hnonempty : rest ≠ [] := by
    rintro rfl
    rw [List.append_nil] at hrest
    exact hne (ext hrest)
  show p.parts <+: q.parts.dropLast
  rw [← hrest, List.dropLast_append_of_ne_nil hnonempty]
  exact List.prefix_append _ _

/-- What is inside something is inside all that is above it. -/
theorem Inside.of_under {p q r : AbsPath} (h : Inside q r) (hpq : Under p q) : Inside p r := by
  refine ⟨hpq.trans h.1, ?_⟩
  rintro rfl
  exact h.2 (h.1.antisymm hpq)

/-- A path below something is inside whatever its parent lies in. -/
theorem Inside.of_under_parent {p q r : AbsPath} (h : Inside p r) (hq : Under q r.parent) :
    Inside q r := by
  refine ⟨hq.trans (List.dropLast_prefix r.parts), ?_⟩
  rintro rfl
  have hnames : q.parts ≠ [] := by
    intro hnil
    exact h.2 (ext ((List.prefix_nil.mp (hnil ▸ h.1)).trans hnil.symm))
  have hlength : q.parts.length ≤ q.parts.dropLast.length := hq.length_le
  rw [List.length_dropLast] at hlength
  have := List.length_pos_iff.mpr hnames
  omega

theorem under_child (p : AbsPath) {n : List Char} (hn : isName n = true) :
    Under p (p.child n hn) :=
  List.prefix_append p.parts [n]

/-- `PurePath.stem`. -/
def stem (name : List Char) : List Char :=
  let ext := name.reverse.takeWhile (fun c => c ≠ '.')
  let i := name.length - ext.length - 1
  if ext.length < name.length ∧ 0 < i ∧ ext ≠ [] then name.take i else name

/-- `path.with_suffix(suffix)`; the path of the top directory has no name. -/
def withSuffix (p : AbsPath) (suffix : List Char) : Option AbsPath :=
  p.parts.getLast?.map (fun name => p.parent.enter (stem name ++ suffix))

end AbsPath

/-! ## §2. Comparing texts. -/

section Flat

variable {α : Type*} {sep : α}

/-- The names, each behind a separator. -/
def flat (sep : α) (names : List (List α)) : List α :=
  names.flatMap (fun n => sep :: n)

/-- The second path goes through a name that is longer than the last name of the first
and begins with it, beside it in the same directory. -/
def nameExtends [DecidableEq α] : List (List α) → List (List α) → Bool
  | [], _ => false
  | _ :: _, [] => false
  | a :: p, b :: q =>
      if p = [] then decide (a <+: b) && decide (a ≠ b) else decide (a = b) && nameExtends p q

/-- Such a path is not below the first. -/
theorem not_prefix_of_nameExtends [DecidableEq α] : ∀ {p q : List (List α)},
    nameExtends p q = true → ¬ p <+: q := by
  intro p
  induction p with
  | nil => intro q h; cases h
  | cons a p ih =>
      intro q h hpre
      cases q with
      | nil => cases h
      | cons b q =>
          rw [List.cons_prefix_cons] at hpre
          unfold nameExtends at h
          split at h
          next =>
            rw [Bool.and_eq_true, decide_eq_true_eq, decide_eq_true_eq] at h
            exact h.2 hpre.1
          next =>
            rw [Bool.and_eq_true] at h
            exact ih h.2 hpre.2

/-- A text without separators is found before the first separator. -/
theorem prefix_before_sep {a b rest : List α} (ha : sep ∉ a) :
    a <+: b ++ sep :: rest ↔ a <+: b := by
  constructor
  · intro h
    rcases List.prefix_or_prefix_of_prefix h (List.prefix_append b (sep :: rest)) with hab | hba
    · exact hab
    · obtain ⟨t, rfl⟩ := hba
      rw [List.prefix_append_right_inj] at h
      cases t with
      | nil => simp
      | cons c t =>
          -- the next character of `a` would be the separator
          rw [List.cons_prefix_cons] at h
          rw [h.1] at ha
          exact absurd (by simp) ha
  · intro h
    exact h.trans (List.prefix_append b (sep :: rest))

/-- Two texts without separators, each followed by a separator. -/
theorem append_sep_prefix {a b s t : List α} (ha : sep ∉ a) (hb : sep ∉ b) :
    a ++ sep :: s <+: b ++ sep :: t ↔ a = b ∧ s <+: t := by
  constructor
  · intro h
    have hab : a <+: b :=
      (prefix_before_sep ha).mp ((List.prefix_append a (sep :: s)).trans h)
    obtain ⟨u, rfl⟩ := hab
    rw [List.append_assoc, List.prefix_append_right_inj] at h
    cases u with
    | nil =>
        rw [List.nil_append, List.cons_prefix_cons] at h
        exact ⟨(List.append_nil a).symm, h.2⟩
    | cons c u =>
        rw [List.cons_append, List.cons_prefix_cons] at h
        rw [← h.1] at hb
        exact absurd (by simp) hb
  · rintro ⟨rfl, h⟩
    rw [List.prefix_append_right_inj, List.cons_prefix_cons]
    exact ⟨rfl, h⟩

theorem flat_cons (n : List α) (names : List (List α)) :
    flat sep (n :: names) = sep :: (n ++ flat sep names) := rfl

/-- One text begins with the other: component by component, or with a longer last name. -/
theorem flat_isPrefix_iff [DecidableEq α] : ∀ {p q : List (List α)}, (∀ n ∈ p, sep ∉ n) →
    (∀ n ∈ q, sep ∉ n) →
    (flat sep p <+: flat sep q ↔ p <+: q ∨ nameExtends p q = true) := by
  intro p
  induction p with
  | nil =>
      intro q _ _
      simp [flat]
  | cons a p ih =>
      intro q hp hq
      have ha : sep ∉ a := hp a List.mem_cons_self
      have hp' : ∀ n ∈ p, sep ∉ n := fun n hn => hp n (List.mem_cons_of_mem a hn)
      cases q with
      | nil => simp [flat, nameExtends]
      | cons b q =>
          have hb : sep ∉ b := hq b List.mem_cons_self
          have hq' : ∀ n ∈ q, sep ∉ n := fun n hn => hq n (List.mem_cons_of_mem b hn)
          rw [flat_cons, flat_cons, List.cons_prefix_cons, List.cons_prefix_cons]
          simp only [true_and]
          cases p with
          | nil =>
              -- the last name of the first path
              have hname : a ++ flat sep [] <+: b ++ flat sep q ↔ a <+: b := by
                have hnil : flat sep ([] : List (List α)) = [] := rfl
                rw [hnil, List.append_nil]
                cases q with
                | nil => rw [hnil, List.append_nil]
                | cons c q => exact prefix_before_sep ha
              rw [hname]
              by_cases hab : a = b
              · simp [hab]
              · simp [nameExtends, hab]
          | cons a' p =>
              have hmore : a ++ flat sep (a' :: p) <+: b ++ flat sep q ↔
                  a = b ∧ flat sep (a' :: p) <+: flat sep q := by
                rw [flat_cons]
                cases q with
                | nil =>
                    have hnil : flat sep ([] : List (List α)) = [] := rfl
                    rw [hnil, List.append_nil]
                    constructor
                    · intro h
                      exact absurd (h.subset (by simp)) hb
                    · rintro ⟨-, h⟩
                      simp at h
                | cons b' q =>
                    rw [flat_cons, append_sep_prefix ha hb, List.cons_prefix_cons]
                    simp
              rw [hmore, ih hp' hq']
              have hstep : nameExtends (a :: a' :: p) (b :: q)
                  = (decide (a = b) && nameExtends (a' :: p) q) := by
                rw [nameExtends, if_neg (List.cons_ne_nil a' p)]
              rw [hstep, Bool.and_eq_true, decide_eq_true_eq]
              exact and_or_left

theorem flat_append_sep (p : List (List α)) : ∃ s, flat sep p ++ [sep] = sep :: s := by
  cases p with
  | nil => exact ⟨[], rfl⟩
  | cons a p => exact ⟨a ++ flat sep p ++ [sep], by rw [flat_cons, List.cons_append]⟩

/-- With a separator behind the first text, it is a comparison of components. -/
theorem flat_sep_isPrefix_iff : ∀ {p q : List (List α)}, (∀ n ∈ p, sep ∉ n) →
    (∀ n ∈ q, sep ∉ n) → (flat sep p ++ [sep] <+: flat sep q ↔ p <+: q ∧ p ≠ q) := by
  intro p
  induction p with
  | nil =>
      intro q _ _
      cases q with
      | nil => simp [flat]
      | cons b q => simp [flat]
  | cons a p ih =>
      intro q hp hq
      have ha : sep ∉ a := hp a List.mem_cons_self
      have hsep : ∃ s, flat sep p ++ [sep] = sep :: s := flat_append_sep p
      obtain ⟨s, hs⟩ := hsep
      cases q with
      | nil => simp [flat]
      | cons b q =>
          have hb : sep ∉ b := hq b List.mem_cons_self
          have hiff := ih (fun n hn => hp n (List.mem_cons_of_mem a hn))
            (fun n hn => hq n (List.mem_cons_of_mem b hn))
          rw [flat_cons, flat_cons, List.cons_append, List.append_assoc, hs, List.cons_prefix_cons,
            List.cons_prefix_cons, ne_eq, List.cons.injEq, not_and]
          cases q with
          | nil =>
              -- no separator is left in the last name
              have hlast : ¬ a ++ sep :: s <+: b ++ flat sep [] := by
                intro h
                have hmem : sep ∈ b ++ flat sep [] :=
                  h.subset (List.mem_append_right a List.mem_cons_self)
                rw [show flat sep ([] : List (List α)) = [] from rfl, List.append_nil] at hmem
                exact hb hmem
              refine iff_of_false (fun h => hlast h.2) ?_
              rintro ⟨⟨rfl, hnil⟩, hne⟩
              exact hne rfl (List.prefix_nil.mp hnil)
          | cons b' q =>
              have hflat : flat sep p ++ [sep] <+: flat sep (b' :: q) ↔
                  s <+: b' ++ flat sep q := by
                rw [hs, flat_cons, List.cons_prefix_cons]
                exact and_iff_right rfl
              rw [flat_cons, append_sep_prefix ha hb, ← hflat, hiff]
              constructor
              · rintro ⟨-, rfl, hpre, hne⟩
                exact ⟨⟨rfl, hpre⟩, fun _ => hne⟩
              · rintro ⟨⟨rfl, hpre⟩, hne⟩
                exact ⟨rfl, rfl, hpre, hne rfl⟩

end Flat

namespace AbsPath

theorem no_slash (p : AbsPath) : ∀ n ∈ p.parts, '/' ∉ n :=
  fun n hn => (isName_iff.mp (p.valid n hn)).2.1

/-- **WHAT `str(q).startswith(str(p))` ADMITS.** -/
theorem text_isPrefix_iff (p q : AbsPath) :
    p.text <+: q.text ↔ Under p q ∨ nameExtends p.parts q.parts = true := by
  have hflat := flat_isPrefix_iff p.no_slash q.no_slash
  unfold text Under
  by_cases hp : p.parts = []
  · -- every absolute path begins with a slash
    rw [if_pos hp, hp]
    simp only [List.nil_prefix, true_or, iff_true]
    split
    next => exact List.prefix_refl _
    next hq =>
      obtain ⟨n, rest, hq⟩ := List.exists_cons_of_ne_nil hq
      rw [hq]
      show ['/'] <+: '/' :: _
      simp
  · rw [if_neg hp]
    split
    next hq =>
      -- no name follows the slash of the top directory
      obtain ⟨n, rest, hn⟩ := List.exists_cons_of_ne_nil hp
      have hne : n ≠ [] := (isName_iff.mp (p.valid n (by rw [hn]; exact List.mem_cons_self))).1
      obtain ⟨c, n', rfl⟩ := List.exists_cons_of_ne_nil hne
      rw [hn, hq]
      simp [nameExtends]
    next hq => exact hflat

/-- **WHAT `str(q).startswith(str(p) + "/")` ADMITS**: what lies below `p`. -/
theorem text_slash_isPrefix_iff {p : AbsPath} (hp : p ≠ top) (q : AbsPath) :
    p.text ++ ['/'] <+: q.text ↔ Inside p q := by
  have hparts : p.parts ≠ [] := fun h => hp (ext h)
  have hflat := flat_sep_isPrefix_iff p.no_slash q.no_slash
  have hne : p.parts ≠ q.parts ↔ p ≠ q := not_congr ⟨ext, congrArg parts⟩
  rw [hne] at hflat
  unfold text
  rw [if_neg hparts]
  split
  next hq =>
    rw [hq] at hflat
    refine iff_of_false ?_ ?_
    · intro h
      obtain ⟨n, rest, hn⟩ := List.exists_cons_of_ne_nil hparts
      rw [hn] at h
      have hlength := h.length_le
      simp at hlength
    · intro h
      exact hparts (List.prefix_nil.mp (hq ▸ h.1))
  next => exact hflat

end AbsPath

end PureBoot.Lib
