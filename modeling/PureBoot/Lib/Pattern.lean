/-
  PureBoot.Lib.Pattern — PATTERNS, and the text that is cut at their matches.

  A pattern captures a value.  `spell` is the text that a value is captured from, so the
  pattern matches at the front of a text where the text of a valid value begins it; `front`
  finds that value, and there is one at most.  `pieces` cuts a text at the matches from the
  left that do not overlap, as `re.finditer` and `re.sub` do: each piece is a character that
  no match begins at, or a match.

  Main results:
    * `Pattern.induct` — induction along the cut;
    * `flatten_pieces`, `cut_iff` — the pieces make up the text, and there is one cut;
    * `hits_eq_nil_iff` — no match is found exactly if none occurs;
    * `infix_flatten_iff` — a word in a joined text is in one part, or straddles a seam.
-/
import Mathlib.Data.List.Infix
import Mathlib.Data.List.TakeWhile
import Mathlib.Tactic.Common

namespace PureBoot.Lib

variable {α μ ε : Type*}

/-! ## §1. Patterns. -/

structure Pattern (α μ : Type*) where
  /-- The text that a value is captured from. -/
  spell : μ → List α
  Valid : μ → Prop
  /-- The value that is captured at the front of a text. -/
  front : List α → Option μ
  front_eq_some_iff : ∀ {s x}, front s = some x ↔ Valid x ∧ spell x <+: s
  spell_ne_nil : ∀ {x}, Valid x → spell x ≠ []

/-- A piece of a text. -/
inductive Piece (α μ : Type*) where
  | char (a : α)
  | hit (x : μ)

namespace Pattern

variable (p : Pattern α μ)

theorem front_append {x : μ} (hx : p.Valid x) (s : List α) :
    p.front (p.spell x ++ s) = some x :=
  p.front_eq_some_iff.mpr ⟨hx, List.prefix_append _ _⟩

/-- No match begins the text. -/
theorem front_eq_none_iff {s : List α} :
    p.front s = none ↔ ∀ x, p.Valid x → ¬ p.spell x <+: s := by
  rw [Option.eq_none_iff_forall_ne_some]
  constructor
  · intro h x hx hpre
    exact h x (p.front_eq_some_iff.mpr ⟨hx, hpre⟩)
  · intro h x hfront
    obtain ⟨hx, hpre⟩ := p.front_eq_some_iff.mp hfront
    exact h x hx hpre

/-- **INDUCTION ALONG THE CUT** of a text. -/
theorem induct {P : List α → Prop} (nil : P [])
    (char : ∀ a s, p.front (a :: s) = none → P s → P (a :: s))
    (hit : ∀ x s, p.Valid x → P s → P (p.spell x ++ s)) (s : List α) : P s := by
  induction hn : s.length using Nat.strongRecOn generalizing s with
  | _ n ih =>
      cases s with
      | nil => exact nil
      | cons a s =>
          cases hfront : p.front (a :: s) with
          | none =>
              refine char a s hfront (ih s.length ?_ s rfl)
              rw [← hn, List.length_cons]
              exact Nat.lt_succ_self _
          | some x =>
              obtain ⟨hx, rest, hrest⟩ := p.front_eq_some_iff.mp hfront
              rw [← hrest]
              refine hit x rest hx (ih rest.length ?_ rest rfl)
              have hpos := List.length_pos_iff.mpr (p.spell_ne_nil hx)
              rw [← hn, ← hrest, List.length_append]
              omega

/-! ## §2. The pieces of a text. -/

/-- The pieces; `skip` characters belong to the match that was just found. -/
def piecesFrom : Nat → List α → List (Piece α μ)
  | _, [] => []
  | skip + 1, _ :: s => piecesFrom skip s
  | 0, a :: s =>
      match p.front (a :: s) with
      | some x => .hit x :: piecesFrom ((p.spell x).length - 1) s
      | none => .char a :: piecesFrom 0 s

def pieces (s : List α) : List (Piece α μ) := p.piecesFrom 0 s

theorem piecesFrom_append (t s : List α) : p.piecesFrom t.length (t ++ s) = p.pieces s := by
  induction t with
  | nil => rfl
  | cons a t ih => exact ih

@[simp] theorem pieces_nil : p.pieces [] = [] := rfl

theorem pieces_char {a : α} {s : List α} (h : p.front (a :: s) = none) :
    p.pieces (a :: s) = .char a :: p.pieces s := by
  unfold pieces
  conv_lhs => unfold piecesFrom
  rw [h]

theorem pieces_hit {x : μ} (hx : p.Valid x) (s : List α) :
    p.pieces (p.spell x ++ s) = .hit x :: p.pieces s := by
  have hfront := p.front_append hx s
  have hne := p.spell_ne_nil hx
  cases hspell : p.spell x with
  | nil => exact absurd hspell hne
  | cons a t =>
      rw [hspell, List.cons_append] at hfront
      have hrest := p.piecesFrom_append t s
      rw [List.cons_append]
      unfold pieces
      conv_lhs => unfold piecesFrom
      rw [hfront]
      dsimp only
      rw [hspell, List.length_cons, Nat.add_sub_cancel, hrest]
      rfl

/-- The text of a piece. -/
def text : Piece α μ → List α
  | .char a => [a]
  | .hit x => p.spell x

/-- **THE PIECES** make up the text. -/
theorem flatten_pieces (s : List α) : ((p.pieces s).map p.text).flatten = s := by
  induction s using p.induct with
  | nil => rfl
  | char a s hfront ih =>
      rw [p.pieces_char hfront, List.map_cons, List.flatten_cons, ih]
      rfl
  | hit x s hx ih =>
      rw [p.pieces_hit hx, List.map_cons, List.flatten_cons, ih]
      rfl

/-- The text is cut at the matches from the left: a character is passed where no match
begins. -/
inductive Cut : List α → List (Piece α μ) → Prop where
  | nil : Cut [] []
  | char {a s ps} (h : p.front (a :: s) = none) (hs : Cut s ps) : Cut (a :: s) (.char a :: ps)
  | hit {x s ps} (hx : p.Valid x) (hs : Cut s ps) : Cut (p.spell x ++ s) (.hit x :: ps)

/-- There is one cut of a text. -/
theorem cut_iff {s : List α} {ps : List (Piece α μ)} : p.Cut s ps ↔ ps = p.pieces s := by
  constructor
  · intro h
    induction h with
    | nil => rfl
    | char h _ ih => rw [p.pieces_char h, ih]
    | hit hx _ ih => rw [p.pieces_hit hx, ih]
  · rintro rfl
    induction s using p.induct with
    | nil => exact .nil
    | char a s hfront ih =>
        rw [p.pieces_char hfront]
        exact .char hfront ih
    | hit x s hx ih =>
        rw [p.pieces_hit hx]
        exact .hit hx ih

/-! ## §3. Finding and replacing. -/

/-- What is captured, as `findall` lists it. -/
def hits (s : List α) : List μ :=
  (p.pieces s).filterMap (fun | .char _ => none | .hit x => some x)

@[simp] theorem hits_nil : p.hits [] = [] := rfl

theorem hits_char {a : α} {s : List α} (h : p.front (a :: s) = none) :
    p.hits (a :: s) = p.hits s := by
  unfold hits
  rw [p.pieces_char h]
  rfl

theorem hits_hit {x : μ} (hx : p.Valid x) (s : List α) :
    p.hits (p.spell x ++ s) = x :: p.hits s := by
  unfold hits
  rw [p.pieces_hit hx]
  rfl

theorem valid_of_mem_hits {x : μ} {s : List α} (h : x ∈ p.hits s) : p.Valid x := by
  induction s using p.induct with
  | nil => cases h
  | char a s hfront ih => exact ih (p.hits_char hfront ▸ h)
  | hit y s hy ih =>
      rw [p.hits_hit hy] at h
      rcases List.mem_cons.mp h with rfl | h
      · exact hy
      · exact ih h

/-- The text with each match replaced, as `sub` does. -/
def sub (f : μ → List α) (s : List α) : List α :=
  (p.pieces s).flatMap (fun | .char a => [a] | .hit x => f x)

@[simp] theorem sub_nil (f : μ → List α) : p.sub f [] = [] := rfl

theorem sub_char {a : α} {s : List α} (f : μ → List α) (h : p.front (a :: s) = none) :
    p.sub f (a :: s) = a :: p.sub f s := by
  unfold sub
  rw [p.pieces_char h]
  rfl

theorem sub_hit {x : μ} (hx : p.Valid x) (f : μ → List α) (s : List α) :
    p.sub f (p.spell x ++ s) = f x ++ p.sub f s := by
  unfold sub
  rw [p.pieces_hit hx]
  rfl

/-- What is put in the place of each match is all that counts. -/
theorem sub_congr {f g : μ → List α} {s : List α} (h : ∀ x ∈ p.hits s, f x = g x) :
    p.sub f s = p.sub g s := by
  induction s using p.induct with
  | nil => rfl
  | char a s hfront ih =>
      rw [p.hits_char hfront] at h
      rw [p.sub_char f hfront, p.sub_char g hfront, ih h]
  | hit x s hx ih =>
      rw [p.hits_hit hx, List.forall_mem_cons] at h
      rw [p.sub_hit hx, p.sub_hit hx, h.1, ih h.2]

/-- The pieces in turn, where a replacement may fail. -/
def joinM (f : μ → Except ε (List α)) : List (Piece α μ) → Except ε (List α)
  | [] => .ok []
  | .char a :: ps => (joinM f ps).map (fun t => a :: t)
  | .hit x :: ps => do
      let t ← f x
      let rest ← joinM f ps
      return t ++ rest

/-- The text with each match replaced; the first failure is the answer. -/
def subM (f : μ → Except ε (List α)) (s : List α) : Except ε (List α) := joinM f (p.pieces s)

@[simp] theorem subM_nil (f : μ → Except ε (List α)) : p.subM f [] = .ok [] := rfl

theorem subM_char {a : α} {s : List α} (f : μ → Except ε (List α))
    (h : p.front (a :: s) = none) :
    p.subM f (a :: s) = (p.subM f s).map (fun t => a :: t) := by
  unfold subM
  rw [p.pieces_char h]
  rfl

theorem subM_hit {x : μ} (hx : p.Valid x) (f : μ → Except ε (List α)) (s : List α) :
    p.subM f (p.spell x ++ s) = (do
      let t ← f x
      let rest ← p.subM f s
      return t ++ rest) := by
  unfold subM
  rw [p.pieces_hit hx]
  rfl

/-- A text is made exactly if a replacement is made for each match. -/
theorem exists_subM_iff (f : μ → Except ε (List α)) (s : List α) :
    (∃ t, p.subM f s = .ok t) ↔ ∀ x ∈ p.hits s, ∃ t, f x = .ok t := by
  induction s using p.induct with
  | nil => simp
  | char a s hfront ih =>
      rw [p.subM_char f hfront, p.hits_char hfront, ← ih]
      cases p.subM f s with
      | error e => exact ⟨fun ⟨_, h⟩ => (nomatch h), fun ⟨_, h⟩ => (nomatch h)⟩
      | ok t => exact ⟨fun _ => ⟨t, rfl⟩, fun _ => ⟨a :: t, rfl⟩⟩
  | hit x s hx ih =>
      rw [p.subM_hit hx, p.hits_hit hx, List.forall_mem_cons, ← ih]
      cases f x with
      | error e => exact ⟨fun ⟨_, h⟩ => (nomatch h), fun ⟨⟨_, h⟩, _⟩ => (nomatch h)⟩
      | ok t =>
          cases p.subM f s with
          | error e => exact ⟨fun ⟨_, h⟩ => (nomatch h), fun ⟨_, ⟨_, h⟩⟩ => (nomatch h)⟩
          | ok rest => exact ⟨fun _ => ⟨⟨t, rfl⟩, ⟨rest, rfl⟩⟩, fun _ => ⟨t ++ rest, rfl⟩⟩

/-- **NO MATCH IS FOUND** exactly if none occurs anywhere in the text. -/
theorem hits_eq_nil_iff (s : List α) :
    p.hits s = [] ↔ ∀ x, p.Valid x → ¬ p.spell x <:+: s := by
  induction s using p.induct with
  | nil =>
      refine ⟨fun _ x hx hinfix => ?_, fun _ => rfl⟩
      exact p.spell_ne_nil hx (List.infix_nil.mp hinfix)
  | char a s hfront ih =>
      rw [p.hits_char hfront, ih]
      have hnone := p.front_eq_none_iff.mp hfront
      refine forall₂_congr (fun x hx => ?_)
      rw [List.infix_cons_iff, not_or]
      exact (and_iff_right (hnone x hx)).symm
  | hit x s hx ih =>
      rw [p.hits_hit hx]
      constructor
      · intro h
        cases h
      · intro h
        exact absurd (List.prefix_append _ _).isInfix (h x hx)

/-- A text without a match is left as it is. -/
theorem subM_of_hits_eq_nil {f : μ → Except ε (List α)} {s : List α} (h : p.hits s = []) :
    p.subM f s = .ok s := by
  induction s using p.induct with
  | nil => rfl
  | char a s hfront ih =>
      rw [p.hits_char hfront] at h
      rw [p.subM_char f hfront, ih h]
      rfl
  | hit x s hx ih =>
      rw [p.hits_hit hx] at h
      cases h

end Pattern

/-! ## §4. Reading a run of characters. -/

/-- A run of characters of a class, as long as it goes, and what follows it. -/
def readRun (q : α → Bool) (s : List α) : Option (List α × List α) :=
  if (s.takeWhile q).isEmpty then none else some (s.takeWhile q, s.dropWhile q)

/-- A run ends where the text does, or before a character of another class. -/
theorem readRun_eq_some_iff {q : α → Bool} {s t rest : List α} :
    readRun q s = some (t, rest) ↔
      t ≠ [] ∧ (∀ a ∈ t, q a = true) ∧ (∀ a ∈ rest.head?, q a = false) ∧ s = t ++ rest := by
  unfold readRun
  constructor
  · intro h
    split at h
    next => cases h
    next hne =>
      obtain ⟨rfl, rfl⟩ := Prod.mk.inj (Option.some.inj h)
      refine ⟨fun hnil => hne (List.isEmpty_iff.mpr hnil), fun a ha => List.mem_takeWhile_imp ha,
        ?_, List.takeWhile_append_dropWhile.symm⟩
      intro a ha
      have hhead := List.head?_dropWhile_not q s
      rw [Option.mem_def.mp ha] at hhead
      simpa using hhead
  · rintro ⟨hne, hall, hrest, rfl⟩
    have htake : rest.takeWhile q = [] := by
      cases rest with
      | nil => rfl
      | cons a rest => exact List.takeWhile_cons_of_neg (by simp [hrest a rfl])
    have hdrop : rest.dropWhile q = rest := by
      cases rest with
      | nil => rfl
      | cons a rest => exact List.dropWhile_cons_of_neg (by simp [hrest a rfl])
    rw [List.takeWhile_append_of_pos hall, List.dropWhile_append_of_pos hall, htake, hdrop,
      List.append_nil, if_neg (fun h => hne (List.isEmpty_iff.mp h))]

/-! ## §5. Words in a joined text. -/

/-- The word begins in one of the texts and ends in a later one. -/
def Straddles (w : List α) (parts : List (List α)) : Prop :=
  ∃ before g middle h after, parts = before ++ g :: (middle ++ h :: after)
    ∧ ∃ s t, s ≠ [] ∧ t ≠ [] ∧ s <:+ g ∧ t <+: h ∧ w = s ++ (middle.flatten ++ t)

/-- A text begins a joined text: it ends in one of the parts. -/
theorem prefix_flatten_iff {w : List α} (hw : w ≠ []) {parts : List (List α)} :
    w <+: parts.flatten ↔ ∃ middle h after t, parts = middle ++ h :: after
      ∧ t ≠ [] ∧ t <+: h ∧ w = middle.flatten ++ t := by
  constructor
  · intro hpre
    induction parts generalizing w with
    | nil => exact absurd (List.prefix_nil.mp hpre) hw
    | cons g parts ih =>
        obtain ⟨rest, hrest⟩ := hpre
        rw [List.flatten_cons] at hrest
        rcases List.append_eq_append_iff.mp hrest with ⟨u, hg, -⟩ | ⟨u, rfl, hu⟩
        · exact ⟨[], g, parts, w, rfl, hw, ⟨u, hg.symm⟩, rfl⟩
        · by_cases hnil : u = []
          · rw [hnil, List.append_nil] at hw ⊢
            exact ⟨[], g, parts, g, rfl, hw, List.prefix_refl g, rfl⟩
          · obtain ⟨middle, h, after, t, rfl, ht, hth, rfl⟩ := ih hnil ⟨rest, hu.symm⟩
            exact ⟨g :: middle, h, after, t, rfl, ht, hth, by simp⟩
  · rintro ⟨middle, h, after, t, rfl, -, ⟨u, rfl⟩, rfl⟩
    exact ⟨u ++ after.flatten, by simp⟩

/-- **A WORD IN A JOINED TEXT** is in one of the parts, or straddles a seam. -/
theorem infix_flatten_iff {w : List α} (hw : w ≠ []) {parts : List (List α)} :
    w <:+: parts.flatten ↔ (∃ g ∈ parts, w <:+: g) ∨ Straddles w parts := by
  induction parts with
  | nil =>
      constructor
      · intro h
        exact absurd (List.infix_nil.mp h) hw
      · rintro (⟨g, hg, -⟩ | ⟨before, g, middle, h, after, heq, -⟩)
        · cases hg
        · exact absurd heq.symm (by simp)
  | cons g parts ih =>
      rw [List.flatten_cons, List.infix_append_iff_ne_nil, ih, List.exists_mem_cons_iff]
      constructor
      · rintro (hg | (hrest | ⟨before, g', middle, h, after, rfl, hw'⟩)
          | ⟨s, t, hs, ht, rfl, hsg, hpre⟩)
        · exact .inl (.inl hg)
        · exact .inl (.inr hrest)
        · exact .inr ⟨g :: before, g', middle, h, after, rfl, hw'⟩
        · obtain ⟨middle, h, after, t', rfl, ht', hth, rfl⟩ := (prefix_flatten_iff ht).mp hpre
          exact .inr ⟨[], g, middle, h, after, rfl, s, t', hs, ht', hsg, hth, rfl⟩
      · rintro ((hg | hrest) | ⟨before, g', middle, h, after, heq, s, t, hs, ht, hsg, hth, rfl⟩)
        · exact .inl hg
        · exact .inr (.inl (.inl hrest))
        · cases before with
          | nil =>
              obtain ⟨rfl, rfl⟩ := List.cons.inj heq
              have hne : middle.flatten ++ t ≠ [] := by simp [ht]
              exact .inr (.inr ⟨s, _, hs, hne, rfl, hsg,
                (prefix_flatten_iff hne).mpr ⟨middle, h, after, t, rfl, ht, hth, rfl⟩⟩)
          | cons b before =>
              obtain ⟨rfl, rfl⟩ := List.cons.inj heq
              exact .inr (.inl (.inr ⟨before, g', middle, h, after, rfl, s, t, hs, ht, hsg, hth,
                rfl⟩))

end PureBoot.Lib
