/-
  PureBoot.Lib.Marks — MARKED WORDS, replaced in turn and at once.

  Marked words all begin with one character that none of them has again, and none of them
  begins another; placeholders such as `${name}` are marked words.  No two of them overlap
  in a text, so it does not matter where the search for them begins.  Replacing them at once
  leaves the values alone; replacing them in turn searches the values that were put in
  before.

  Main results:
    * `replaceAll_atOnce` — one more mark is replaced, where none has arisen;
    * `inTurn_eq_atOnce` — in turn is at once, where none arises;
    * `noneArises_of_inTurn_eq` — and only there, if the later values are free of the
      character.
-/
import PureBoot.Lib.Pattern
import PureBoot.Lib.Text
import Mathlib.Data.List.Nodup

namespace PureBoot.Lib

variable {α ι : Type*}

/-! ## §1. Where a word begins. -/

/-- A text without the character ends before it. -/
theorem prefix_of_not_mem {a : α} {r : List α} (ha : a ∉ r) {u z : List α}
    (h : r <+: u ++ a :: z) : r <+: u := by
  induction u generalizing r with
  | nil =>
      cases r with
      | nil => exact List.nil_prefix
      | cons b r =>
          obtain ⟨rfl, -⟩ := List.cons_prefix_cons.mp h
          exact absurd List.mem_cons_self ha
  | cons c u ih =>
      cases r with
      | nil => exact List.nil_prefix
      | cons b r =>
          obtain ⟨rfl, hr⟩ := List.cons_prefix_cons.mp h
          have hrest := ih (fun hmem => ha (List.mem_cons_of_mem b hmem)) hr
          exact List.cons_prefix_cons.mpr ⟨rfl, hrest⟩

/-- A word that begins with `a` and has no other does not reach past the next `a`. -/
theorem cons_prefix_append_iff {a c : α} {r : List α} (ha : a ∉ r) {u z : List α} :
    a :: r <+: c :: (u ++ a :: z) ↔ a :: r <+: c :: u := by
  rw [List.cons_prefix_cons, List.cons_prefix_cons]
  refine and_congr_right (fun _ => ⟨prefix_of_not_mem ha, fun h => ?_⟩)
  exact h.trans (List.prefix_append _ _)

section Search

variable [DecidableEq α]

/-- The number of places where the word begins; it is not empty. -/
def occurrences (w : List α) : List α → Nat
  | [] => 0
  | c :: s => (if w <+: c :: s then 1 else 0) + occurrences w s

theorem occurrences_cons_pos {w s : List α} {c : α} (h : w <+: c :: s) :
    occurrences w (c :: s) = occurrences w s + 1 := by
  rw [occurrences, if_pos h, Nat.add_comm]

theorem occurrences_cons_neg {w s : List α} {c : α} (h : ¬ w <+: c :: s) :
    occurrences w (c :: s) = occurrences w s := by
  rw [occurrences, if_neg h, Nat.zero_add]

theorem occurrences_le_append (w u z : List α) : occurrences w z ≤ occurrences w (u ++ z) := by
  induction u with
  | nil => exact Nat.le_refl _
  | cons c u ih =>
      rw [List.cons_append, occurrences]
      omega

/-- The places before an `a` and after it. -/
theorem occurrences_append {a : α} {r : List α} (ha : a ∉ r) (u z : List α) :
    occurrences (a :: r) (u ++ a :: z)
      = occurrences (a :: r) u + occurrences (a :: r) (a :: z) := by
  induction u with
  | nil => rw [List.nil_append, occurrences, Nat.zero_add]
  | cons c u ih =>
      by_cases hpre : a :: r <+: c :: u
      · rw [occurrences_cons_pos hpre, List.cons_append,
          occurrences_cons_pos ((cons_prefix_append_iff ha).mpr hpre), ih]
        omega
      · rw [occurrences_cons_neg hpre, List.cons_append,
          occurrences_cons_neg (fun h => hpre ((cons_prefix_append_iff ha).mp h)), ih]

/-- Nothing begins in a text that has no `a`. -/
theorem occurrences_append_of_not_mem {a : α} {r u : List α} (hu : a ∉ u) (z : List α) :
    occurrences (a :: r) (u ++ z) = occurrences (a :: r) z := by
  induction u with
  | nil => rfl
  | cons c u ih =>
      have hpre : ¬ a :: r <+: c :: (u ++ z) := by
        intro h
        exact hu ((List.cons_prefix_cons.mp h).1 ▸ List.mem_cons_self)
      rw [List.cons_append, occurrences_cons_neg hpre,
        ih (fun hmem => hu (List.mem_cons_of_mem c hmem))]

/-! ## §2. Replacing one word. -/

theorem replaceFrom_append (old new t s : List α) :
    replaceFrom old new t.length (t ++ s) = replaceAll old new s := by
  induction t with
  | nil => rfl
  | cons c t ih => exact ih

theorem replaceAll_cons_neg {old new s : List α} {c : α} (h : ¬ old <+: c :: s) :
    replaceAll old new (c :: s) = c :: replaceAll old new s := by
  unfold replaceAll
  conv_lhs => unfold replaceFrom
  rw [if_neg h]

theorem replaceAll_word (a : α) (r new s : List α) :
    replaceAll (a :: r) new (a :: r ++ s) = new ++ replaceAll (a :: r) new s := by
  have hrest := replaceFrom_append (a :: r) new r s
  unfold replaceAll
  rw [List.cons_append]
  conv_lhs => unfold replaceFrom
  rw [if_pos (List.cons_prefix_cons.mpr ⟨rfl, List.prefix_append r s⟩), List.length_cons,
    Nat.add_sub_cancel, hrest]
  rfl

/-- **INDUCTION ALONG THE PLACES** where the word begins. -/
theorem induct_word {P : List α → Prop} (a : α) (r : List α) (nil : P [])
    (char : ∀ c s, ¬ a :: r <+: c :: s → P s → P (c :: s))
    (word : ∀ s, P s → P (a :: r ++ s)) (s : List α) : P s := by
  induction hn : s.length using Nat.strongRecOn generalizing s with
  | _ n ih =>
      cases s with
      | nil => exact nil
      | cons c s =>
          by_cases hpre : a :: r <+: c :: s
          · obtain ⟨rest, hrest⟩ := hpre
            rw [← hrest]
            refine word rest (ih rest.length ?_ rest rfl)
            rw [← hn, ← hrest, List.length_append, List.length_cons]
            omega
          · refine char c s hpre (ih s.length ?_ s rfl)
            rw [← hn, List.length_cons]
            exact Nat.lt_succ_self _

/-- Text without the character stays where it is. -/
theorem prefix_replaceAll {a : α} {w r new s : List α} (ha : a ∉ r) (h : r <+: s) :
    r <+: replaceAll (a :: w) new s := by
  induction r generalizing s with
  | nil => exact List.nil_prefix
  | cons b r ih =>
      obtain ⟨z, rfl⟩ := h
      have hpre : ¬ a :: w <+: b :: (r ++ z) := by
        intro hpre
        exact ha ((List.cons_prefix_cons.mp hpre).1 ▸ List.mem_cons_self)
      rw [List.cons_append, replaceAll_cons_neg hpre]
      exact List.cons_prefix_cons.mpr ⟨rfl, ih (fun hmem => ha (List.mem_cons_of_mem b hmem))
        (List.prefix_append r z)⟩

section Marked

variable {a : α} {r : List α} (ha : a ∉ r)

include ha

theorem occurrences_word (s : List α) :
    occurrences (a :: r) (a :: r ++ s) = occurrences (a :: r) s + 1 := by
  rw [List.cons_append, occurrences_cons_pos (List.cons_prefix_cons.mpr
    ⟨rfl, List.prefix_append r s⟩), occurrences_append_of_not_mem ha]

/-- The text before an `a` and the text from it are searched by themselves. -/
theorem replaceAll_append (new u z : List α) :
    replaceAll (a :: r) new (u ++ a :: z)
      = replaceAll (a :: r) new u ++ replaceAll (a :: r) new (a :: z) := by
  induction u using induct_word a r with
  | nil => rfl
  | char c u hpre ih =>
      have hpre' : ¬ a :: r <+: c :: (u ++ a :: z) := by
        rw [cons_prefix_append_iff ha]
        exact hpre
      rw [List.cons_append, replaceAll_cons_neg hpre', replaceAll_cons_neg hpre, ih,
        List.cons_append]
  | word u ih =>
      rw [List.append_assoc, replaceAll_word, replaceAll_word, ih, List.append_assoc]

/-- A text where the word does not begin is left as it is. -/
theorem replaceAll_of_occurrences_eq_zero {new s : List α} (h : occurrences (a :: r) s = 0) :
    replaceAll (a :: r) new s = s := by
  induction s using induct_word a r with
  | nil => rfl
  | char c s hpre ih =>
      rw [occurrences_cons_neg hpre] at h
      rw [replaceAll_cons_neg hpre, ih h]
  | word s ih =>
      rw [occurrences_word ha] at h
      cases h

/-- Each replacement takes an `a` and gives those of the value. -/
theorem count_replaceAll (new s : List α) :
    (replaceAll (a :: r) new s).count a + occurrences (a :: r) s
      = s.count a + occurrences (a :: r) s * new.count a := by
  induction s using induct_word a r with
  | nil => simp [replaceAll, replaceFrom, occurrences]
  | char c s hpre ih =>
      rw [replaceAll_cons_neg hpre, occurrences_cons_neg hpre, List.count_cons, List.count_cons]
      omega
  | word s ih =>
      rw [replaceAll_word, occurrences_word ha, List.count_append, List.count_append,
        List.count_cons_self, List.count_eq_zero_of_not_mem ha, Nat.add_mul]
      omega

end Marked

end Search

/-! ## §3. Marks. -/

structure Marks (α ι : Type*) where
  first : α
  rest : ι → List α
  first_not_mem : ∀ i, first ∉ rest i
  eq_of_prefix : ∀ {i j}, rest i <+: rest j → i = j

namespace Marks

variable (m : Marks α ι)

def word (i : ι) : List α := m.first :: m.rest i

/-- One mark stands at one place. -/
theorem eq_of_word_prefix {i j : ι} {s : List α} (hi : m.word i <+: s) (hj : m.word j <+: s) :
    i = j := by
  rcases List.prefix_or_prefix_of_prefix hi hj with h | h
  · exact m.eq_of_prefix (List.cons_prefix_cons.mp h).2
  · exact (m.eq_of_prefix (List.cons_prefix_cons.mp h).2).symm

variable [DecidableEq α]

/-- The marks of a list, wherever they stand in a text. -/
def pattern (ks : List ι) : Pattern α ι where
  spell := m.word
  Valid i := i ∈ ks
  front s := ks.find? (fun i => m.word i <+: s)
  front_eq_some_iff := by
    intro s i
    constructor
    · intro h
      exact ⟨List.mem_of_find?_eq_some h, by simpa using List.find?_some h⟩
    · rintro ⟨hi, hpre⟩
      have hsome : (ks.find? (fun i => m.word i <+: s)).isSome :=
        List.find?_isSome.mpr ⟨i, hi, by simpa using hpre⟩
      obtain ⟨j, hj⟩ := Option.isSome_iff_exists.mp hsome
      have hpre' : m.word j <+: s := by simpa using List.find?_some hj
      rw [hj, m.eq_of_word_prefix hpre' hpre]
  spell_ne_nil := fun _ => List.cons_ne_nil _ _

/-- The marks are replaced at once: the values are not searched. -/
def atOnce (v : ι → List α) (ks : List ι) (t : List α) : List α := (m.pattern ks).sub v t

/-- The marks are replaced in turn, each in the text that the ones before it have left. -/
def inTurn (v : ι → List α) (ks : List ι) (t : List α) : List α :=
  ks.foldl (fun t k => replaceAll (m.word k) (v k) t) t

/-- **NO MARK ARISES**: where the marks before it are replaced at once, a mark stands as
often as before. -/
def NoneArises (v : ι → List α) (ks : List ι) (t : List α) : Prop :=
  ∀ i (h : i < ks.length), occurrences (m.word ks[i]) (m.atOnce v (ks.take i) t)
    = occurrences (m.word ks[i]) t

variable {m} {v : ι → List α}

/-! ## §4. One mark more. -/

theorem noneArises_concat {ks : List ι} {k : ι} {t : List α} :
    m.NoneArises v (ks ++ [k]) t ↔ m.NoneArises v ks t
      ∧ occurrences (m.word k) (m.atOnce v ks t) = occurrences (m.word k) t := by
  constructor
  · intro h
    refine ⟨fun i hi => ?_, ?_⟩
    · have hall := h i (by rw [List.length_append]; omega)
      rw [List.getElem_append_left hi, List.take_append_of_le_length (Nat.le_of_lt hi)] at hall
      exact hall
    · have hlast := h ks.length (by simp)
      simpa using hlast
  · rintro ⟨hall, hlast⟩ i hi
    rcases Nat.lt_or_ge i ks.length with hlt | hge
    · rw [List.getElem_append_left hlt, List.take_append_of_le_length (Nat.le_of_lt hlt)]
      exact hall i hlt
    · have hi' : i = ks.length := by
        rw [List.length_append, List.length_singleton] at hi
        omega
      subst hi'
      simpa using hlast

theorem inTurn_concat (ks : List ι) (k : ι) (t : List α) :
    m.inTurn v (ks ++ [k]) t = replaceAll (m.word k) (v k) (m.inTurn v ks t) := by
  unfold inTurn
  rw [List.foldl_append]
  rfl

theorem inTurn_nil (ks : List ι) : m.inTurn v ks [] = [] := by
  induction ks using List.reverseRecOn with
  | nil => rfl
  | append_singleton ks k ih =>
      rw [inTurn_concat, ih]
      rfl

@[simp] theorem atOnce_nil (ks : List ι) : m.atOnce v ks [] = [] := rfl

theorem atOnce_char {ks : List ι} {c : α} {s : List α}
    (h : ∀ k ∈ ks, ¬ m.word k <+: c :: s) :
    m.atOnce v ks (c :: s) = c :: m.atOnce v ks s :=
  (m.pattern ks).sub_char v ((m.pattern ks).front_eq_none_iff.mpr h)

theorem atOnce_word {ks : List ι} {k : ι} (hk : k ∈ ks) (s : List α) :
    m.atOnce v ks (m.word k ++ s) = v k ++ m.atOnce v ks s :=
  (m.pattern ks).sub_hit hk v s

/-- Text without the character is kept. -/
theorem atOnce_append_of_not_mem {ks : List ι} {r : List α} (hr : m.first ∉ r) (s : List α) :
    m.atOnce v ks (r ++ s) = r ++ m.atOnce v ks s := by
  induction r with
  | nil => rfl
  | cons c r ih =>
      have hnone : ∀ k ∈ ks, ¬ m.word k <+: c :: (r ++ s) := by
        intro k _ h
        exact hr ((List.cons_prefix_cons.mp h).1 ▸ List.mem_cons_self)
      rw [List.cons_append, atOnce_char hnone, ih (fun h => hr (List.mem_cons_of_mem c h)),
        List.cons_append]

/-- The other marks are kept. -/
theorem atOnce_word_of_not_mem {ks : List ι} {k : ι} (hk : k ∉ ks) (s : List α) :
    m.atOnce v ks (m.word k ++ s) = m.word k ++ m.atOnce v ks s := by
  have hnone : ∀ i ∈ ks, ¬ m.word i <+: m.first :: (m.rest k ++ s) := by
    intro i hi h
    exact hk (m.eq_of_word_prefix h (List.prefix_append (m.word k) s) ▸ hi)
  have hrest : m.atOnce v ks (m.rest k ++ s) = m.rest k ++ m.atOnce v ks s :=
    atOnce_append_of_not_mem (m.first_not_mem k) s
  calc m.atOnce v ks (m.word k ++ s)
      = m.first :: m.atOnce v ks (m.rest k ++ s) := atOnce_char hnone
    _ = m.word k ++ m.atOnce v ks s := by rw [hrest]; rfl

/-- No mark begins inside another. -/
theorem occurrences_word_of_ne {i k : ι} (h : i ≠ k) (s : List α) :
    occurrences (m.word k) (m.word i ++ s) = occurrences (m.word k) s := by
  have hpre : ¬ m.word k <+: m.first :: (m.rest i ++ s) := by
    intro hpre
    exact h (m.eq_of_word_prefix (List.prefix_append (m.word i) s) hpre)
  calc occurrences (m.word k) (m.word i ++ s)
      = occurrences (m.word k) (m.rest i ++ s) := occurrences_cons_neg hpre
    _ = occurrences (m.word k) s := occurrences_append_of_not_mem (m.first_not_mem i) s

theorem occurrences_word_self (k : ι) (s : List α) :
    occurrences (m.word k) (m.word k ++ s) = occurrences (m.word k) s + 1 :=
  occurrences_word (m.first_not_mem k) s

/-- What is before a mark and what is after it. -/
theorem occurrences_append_word (u s : List α) (k : ι) :
    occurrences (m.word k) (u ++ (m.word k ++ s))
      = occurrences (m.word k) u + (occurrences (m.word k) s + 1) := by
  calc occurrences (m.word k) (u ++ (m.word k ++ s))
      = occurrences (m.word k) u + occurrences (m.word k) (m.word k ++ s) :=
        occurrences_append (m.first_not_mem k) u (m.rest k ++ s)
    _ = occurrences (m.word k) u + (occurrences (m.word k) s + 1) := by
        rw [occurrences_word_self]

theorem replaceAll_append_word (new u s : List α) (k : ι) :
    replaceAll (m.word k) new (u ++ (m.word k ++ s))
      = replaceAll (m.word k) new u ++ (new ++ replaceAll (m.word k) new s) := by
  have hword : replaceAll (m.word k) new (m.word k ++ s)
      = new ++ replaceAll (m.word k) new s := replaceAll_word m.first (m.rest k) new s
  calc replaceAll (m.word k) new (u ++ (m.word k ++ s))
      = replaceAll (m.word k) new u ++ replaceAll (m.word k) new (m.word k ++ s) :=
        replaceAll_append (m.first_not_mem k) new u (m.rest k ++ s)
    _ = replaceAll (m.word k) new u ++ (new ++ replaceAll (m.word k) new s) := by rw [hword]

theorem replaceAll_of_occurrences_word {new s : List α} {k : ι}
    (h : occurrences (m.word k) s = 0) : replaceAll (m.word k) new s = s :=
  replaceAll_of_occurrences_eq_zero (m.first_not_mem k) h

/-- **INDUCTION ALONG THE MARKS** of `ks`, and one more. -/
theorem induct_marks {P : List α → Prop} (ks : List ι) {k : ι} (hk : k ∉ ks) (nil : P [])
    (char : ∀ c s, (∀ i ∈ ks ++ [k], ¬ m.word i <+: c :: s) → P s → P (c :: s))
    (other : ∀ i ∈ ks, i ≠ k → ∀ s, P s → P (m.word i ++ s))
    (self : ∀ s, P s → P (m.word k ++ s)) (s : List α) : P s := by
  induction s using (m.pattern (ks ++ [k])).induct with
  | nil => exact nil
  | char c s hfront ih =>
      exact char c s ((m.pattern (ks ++ [k])).front_eq_none_iff.mp hfront) ih
  | hit i s hi ih =>
      rcases List.mem_append.mp hi with hi | hi
      · exact other i hi (fun heq => hk (heq ▸ hi)) s ih
      · rw [List.mem_singleton.mp hi]
        exact self s ih

/-- What has been passed is `u`: the marks in the rest are still there, and if none has
arisen, the next one is replaced as if at once. -/
theorem replaceAll_append_atOnce {ks : List ι} {k : ι} (hk : k ∉ ks) (t u : List α) :
    occurrences (m.word k) t ≤ occurrences (m.word k) (u ++ m.atOnce v ks t)
      ∧ (occurrences (m.word k) (u ++ m.atOnce v ks t) = occurrences (m.word k) t →
        replaceAll (m.word k) (v k) (u ++ m.atOnce v ks t)
          = u ++ m.atOnce v (ks ++ [k]) t) := by
  have hself : k ∈ ks ++ [k] := List.mem_append_right ks List.mem_cons_self
  induction t using m.induct_marks ks hk generalizing u with
  | nil =>
      refine ⟨Nat.zero_le _, fun h => ?_⟩
      rw [atOnce_nil, atOnce_nil, List.append_nil] at *
      exact replaceAll_of_occurrences_word h
  | char c s hnone ih =>
      have hks := atOnce_char (v := v) (fun i hi => hnone i (List.mem_append_left [k] hi))
      rw [hks, atOnce_char hnone, occurrences_cons_neg (hnone k hself), List.append_cons u c _,
        List.append_cons u c (m.atOnce v (ks ++ [k]) s)]
      exact ih (u ++ [c])
  | other i hi hne s ih =>
      -- the value of an earlier mark is passed like other text
      rw [atOnce_word hi, atOnce_word (List.mem_append_left [k] hi), occurrences_word_of_ne hne,
        ← List.append_assoc, ← List.append_assoc]
      exact ih (u ++ v i)
  | self s ih =>
      -- as nothing has arisen in what was passed, it is left as it is
      obtain ⟨hle, heq⟩ := ih []
      rw [List.nil_append] at hle heq
      rw [atOnce_word_of_not_mem hk, occurrences_append_word, occurrences_word_self,
        atOnce_word hself]
      refine ⟨by omega, fun h => ?_⟩
      have hu : occurrences (m.word k) u = 0 := by omega
      rw [replaceAll_append_word, replaceAll_of_occurrences_word hu, heq (by omega),
        List.nil_append]

/-- **ONE MARK MORE** is replaced at once, where none of it has arisen. -/
theorem replaceAll_atOnce {ks : List ι} {k : ι} (hk : k ∉ ks) {t : List α}
    (h : occurrences (m.word k) (m.atOnce v ks t) = occurrences (m.word k) t) :
    replaceAll (m.word k) (v k) (m.atOnce v ks t) = m.atOnce v (ks ++ [k]) t :=
  (replaceAll_append_atOnce hk t []).2 h

theorem atOnce_none (t : List α) : m.atOnce v [] t = t := by
  induction t with
  | nil => rfl
  | cons c t ih => rw [atOnce_char (fun k hk => absurd hk List.not_mem_nil), ih]

/-- **IN TURN IS AT ONCE**, where no mark arises. -/
theorem inTurn_eq_atOnce {ks : List ι} {t : List α} (hnd : ks.Nodup)
    (h : m.NoneArises v ks t) : m.inTurn v ks t = m.atOnce v ks t := by
  induction ks using List.reverseRecOn with
  | nil => exact (atOnce_none t).symm
  | append_singleton ks k ih =>
      obtain ⟨hks, hk⟩ := noneArises_concat.mp h
      have hnot : k ∉ ks := fun hmem => (List.disjoint_of_nodup_append hnd) hmem
        List.mem_cons_self
      rw [inTurn_concat, ih hnd.of_append_left hks, replaceAll_atOnce hnot hk]

/-! ## §5. Counting the character. -/

/-- Each replacement takes one and gives those of the value. -/
theorem count_atOnce {ks : List ι} {k : ι} (hk : k ∉ ks) (t : List α) :
    (m.atOnce v (ks ++ [k]) t).count m.first + occurrences (m.word k) t
      = (m.atOnce v ks t).count m.first + occurrences (m.word k) t * (v k).count m.first := by
  have hself : k ∈ ks ++ [k] := List.mem_append_right ks List.mem_cons_self
  induction t using m.induct_marks ks hk with
  | nil => simp [occurrences]
  | char c s hnone ih =>
      have hks := atOnce_char (v := v) (fun i hi => hnone i (List.mem_append_left [k] hi))
      rw [hks, atOnce_char hnone, occurrences_cons_neg (hnone k hself), List.count_cons,
        List.count_cons]
      omega
  | other i hi hne s ih =>
      rw [atOnce_word hi, atOnce_word (List.mem_append_left [k] hi), occurrences_word_of_ne hne,
        List.count_append, List.count_append]
      omega
  | self s ih =>
      have hone : (m.word k).count m.first = 1 := by
        rw [word, List.count_cons_self, List.count_eq_zero_of_not_mem (m.first_not_mem k)]
      rw [atOnce_word_of_not_mem hk, atOnce_word hself, occurrences_word_self,
        List.count_append, List.count_append, hone, Nat.add_mul]
      omega

/-- The other marks are still there. -/
theorem occurrences_le_replaceAll {i k : ι} (h : k ≠ i) (new s : List α) :
    occurrences (m.word i) s ≤ occurrences (m.word i) (replaceAll (m.word k) new s) := by
  induction s using induct_word m.first (m.rest k) with
  | nil => exact Nat.zero_le _
  | char c s hpre ih =>
      have hcons : replaceAll (m.word k) new (c :: s) = c :: replaceAll (m.word k) new s :=
        replaceAll_cons_neg hpre
      rw [hcons]
      by_cases hi : m.word i <+: c :: s
      · obtain ⟨rfl, hrest⟩ := List.cons_prefix_cons.mp hi
        have hkeep : m.word i <+: m.first :: replaceAll (m.word k) new s :=
          List.cons_prefix_cons.mpr ⟨rfl, prefix_replaceAll (m.first_not_mem i) hrest⟩
        rw [occurrences_cons_pos hi, occurrences_cons_pos hkeep]
        omega
      · rw [occurrences_cons_neg hi]
        exact ih.trans (occurrences_le_append _ [c] _)
  | word s ih =>
      have hword : replaceAll (m.word k) new (m.word k ++ s)
          = new ++ replaceAll (m.word k) new s := replaceAll_word m.first (m.rest k) new s
      calc occurrences (m.word i) (m.word k ++ s)
          = occurrences (m.word i) s := occurrences_word_of_ne h s
        _ ≤ occurrences (m.word i) (replaceAll (m.word k) new s) := ih
        _ ≤ occurrences (m.word i) (replaceAll (m.word k) new (m.word k ++ s)) := by
            rw [hword]
            exact occurrences_le_append _ new _

theorem occurrences_le_inTurn {ks : List ι} {k : ι} (hk : k ∉ ks) (t : List α) :
    occurrences (m.word k) t ≤ occurrences (m.word k) (m.inTurn v ks t) := by
  induction ks using List.reverseRecOn with
  | nil => exact Nat.le_refl _
  | append_singleton ks i ih =>
      rw [List.mem_append, not_or, List.mem_singleton] at hk
      rw [inTurn_concat]
      exact (ih hk.1).trans (occurrences_le_replaceAll (Ne.symm hk.2) _ _)

/-- A mark that has arisen and is replaced by a value without the character takes one away
for good. -/
theorem count_inTurn_le {ks : List ι} (hnd : ks.Nodup)
    (hfree : ∀ k ∈ ks.tail, m.first ∉ v k) (t : List α) :
    (m.inTurn v ks t).count m.first ≤ (m.atOnce v ks t).count m.first
      ∧ ((m.inTurn v ks t).count m.first = (m.atOnce v ks t).count m.first →
        m.NoneArises v ks t) := by
  induction ks using List.reverseRecOn with
  | nil =>
      rw [atOnce_none]
      exact ⟨Nat.le_refl _, fun _ i hi => absurd hi (Nat.not_lt_zero i)⟩
  | append_singleton ks k ih =>
      have hnot : k ∉ ks := fun hmem => (List.disjoint_of_nodup_append hnd) hmem
        List.mem_cons_self
      cases ks with
      | nil =>
          -- the first mark cannot arise, whatever its value
          have hnone : m.NoneArises v ([] ++ [k]) t :=
            noneArises_concat.mpr ⟨fun i hi => absurd hi (Nat.not_lt_zero i), by rw [atOnce_none]⟩
          rw [inTurn_eq_atOnce hnd hnone]
          exact ⟨Nat.le_refl _, fun _ => hnone⟩
      | cons k₀ ks =>
          have hk : (v k).count m.first = 0 :=
            List.count_eq_zero_of_not_mem (hfree k (by simp))
          obtain ⟨hle, himp⟩ := ih hnd.of_append_left
            (fun i hi => hfree i (List.mem_append_left [k] hi))
          have hturn : (m.inTurn v (k₀ :: ks ++ [k]) t).count m.first
                + occurrences (m.word k) (m.inTurn v (k₀ :: ks) t)
              = (m.inTurn v (k₀ :: ks) t).count m.first := by
            have hcount := count_replaceAll (m.first_not_mem k) (v k) (m.inTurn v (k₀ :: ks) t)
            rw [hk, Nat.mul_zero, Nat.add_zero] at hcount
            rw [inTurn_concat]
            exact hcount
          have honce := count_atOnce (m := m) (v := v) hnot t
          rw [hk, Nat.mul_zero, Nat.add_zero] at honce
          -- in turn at least as many are taken away as at once
          have hkept := occurrences_le_inTurn (m := m) (v := v) hnot t
          refine ⟨by omega, fun heq => ?_⟩
          have hnone := himp (by omega)
          rw [inTurn_eq_atOnce hnd.of_append_left hnone] at hturn hkept
          exact noneArises_concat.mpr ⟨hnone, by omega⟩

/-- **IN TURN IS AT ONCE ONLY THERE**, if the values after the first are free of the
character. -/
theorem noneArises_of_inTurn_eq {ks : List ι} {t : List α} (hnd : ks.Nodup)
    (hfree : ∀ k ∈ ks.tail, m.first ∉ v k) (h : m.inTurn v ks t = m.atOnce v ks t) :
    m.NoneArises v ks t :=
  (count_inTurn_le hnd hfree t).2 (congrArg _ h)

end Marks

end PureBoot.Lib
