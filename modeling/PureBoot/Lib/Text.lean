/-
  PureBoot.Lib.Text — string operations of database and web code: the SQL `LIKE`
  match, Python's `str.replace` and the `$` of its regular expressions.

  A text is a list over an arbitrary alphabet.  A `LIKE` pattern is a list of
  tokens; building it from a text that is meant literally (`likePrefix`) lets the
  text's own wildcard characters act as wildcards, so the query can match MORE
  than the texts with that prefix — never less (`like_likePrefix`).  A replace of
  pairs of one character by nothing (`dropPairs`) works on each component of a text that
  another character splits (`splitOn_dropPairs`).
-/
import Mathlib.Data.List.Infix
import Mathlib.Tactic.Common

namespace PureBoot.Lib

variable {α : Type*} [DecidableEq α]

/-! ## §1. `LIKE`. -/

/-- A token of a `LIKE` pattern: a literal, `_` or `%`. -/
inductive LikeToken (α : Type*) where
  | lit (a : α)
  | one
  | many

/-- `text LIKE pattern`. -/
def like : List (LikeToken α) → List α → Bool
  | [], s => s = []
  | .lit _ :: _, [] => false
  | .lit a :: p, c :: s => a = c && like p s
  | .one :: _, [] => false
  | .one :: p, _ :: s => like p s
  | .many :: p, s => s.tails.any (like p)

/-- `%` matches one more character. -/
theorem like_many_cons {p : List (LikeToken α)} {s : List α} (c : α)
    (h : like p s = true) : like (.many :: p) (c :: s) = true := by
  unfold like
  rw [List.any_eq_true]
  exact ⟨s, (List.mem_tails s (c :: s)).mpr (List.suffix_cons c s), h⟩

/-- A pattern that ends here, followed by `%`, matches any rest. -/
theorem like_many (s : List α) : like [.many] s = true := by
  unfold like
  rw [List.any_eq_true]
  exact ⟨[], (List.mem_tails [] s).mpr (List.nil_suffix), rfl⟩

/-- The pattern of `startswith(pre)` without escaping: every character of `pre` is
read as a token (`token`), and `%` follows. -/
def likePrefix (token : α → LikeToken α) (pre : List α) : List (LikeToken α) :=
  pre.map token ++ [.many]

/-- Each token matches the character it was read from. -/
theorem like_token_cons (token : α → LikeToken α)
    (htok : ∀ a, token a = .lit a ∨ token a = .one ∨ token a = .many)
    {p : List (LikeToken α)} {s : List α} (a : α) (h : like p s = true) :
    like (token a :: p) (a :: s) = true := by
  rcases htok a with ha | ha | ha
  · rw [ha]
    simp [like, h]
  · rw [ha]
    simpa [like] using h
  · rw [ha]
    exact like_many_cons a h

/-- A text with the prefix is matched, whatever wildcards the prefix contains. -/
theorem like_likePrefix (token : α → LikeToken α)
    (htok : ∀ a, token a = .lit a ∨ token a = .one ∨ token a = .many) (s : List α) :
    ∀ pre : List α, like (likePrefix token pre) (pre ++ s) = true
  | [] => like_many s
  | a :: pre => like_token_cons token htok a (like_likePrefix token htok s pre)

/-- A prefix read without wildcards matches exactly the texts that begin with it. -/
theorem like_likePrefix_lit {token : α → LikeToken α} :
    ∀ {pre : List α}, (∀ a ∈ pre, token a = .lit a) → ∀ s : List α,
      (like (likePrefix token pre) s = true ↔ pre <+: s)
  | [], _, s => by
      have h : like (likePrefix token []) s = true := like_many s
      simp [h]
  | a :: pre, htok, s => by
      have ha : token a = .lit a := htok a (List.mem_cons_self)
      have hrest : ∀ b ∈ pre, token b = .lit b := fun b hb => htok b (List.mem_cons_of_mem a hb)
      have hcons : likePrefix token (a :: pre) = .lit a :: likePrefix token pre := by
        simp [likePrefix, ha]
      rw [hcons]
      cases s with
      | nil => simp [like]
      | cons c s =>
          rw [List.cons_prefix_cons, ← like_likePrefix_lit hrest s]
          simp [like]

/-! ## §2. `replace`. -/

/-- `s.replace(old, new, 1)`: the first occurrence from the left. -/
def replaceFirst (old new : List α) : List α → List α
  | [] => if old = [] then new else []
  | c :: s =>
      if old <+: c :: s then new ++ (c :: s).drop old.length
      else c :: replaceFirst old new s

/-- A text is replaced by itself. -/
theorem replaceFirst_self (old : List α) : ∀ s : List α, replaceFirst old old s = s
  | [] => by
      unfold replaceFirst
      split
      next h => exact h
      next => rfl
  | c :: s => by
      unfold replaceFirst
      split
      next h => exact List.prefix_iff_eq_append.mp h
      next => rw [replaceFirst_self old s]

/-- `s.replace(old, new)`: every occurrence, from the left; `skip` characters belong to the
one that was just replaced. -/
def replaceFrom (old new : List α) : Nat → List α → List α
  | _, [] => []
  | skip + 1, _ :: s => replaceFrom old new skip s
  | 0, c :: s =>
      if old <+: c :: s then new ++ replaceFrom old new (old.length - 1) s
      else c :: replaceFrom old new 0 s

/-- The same, from the beginning; `old` is not empty. -/
def replaceAll (old new s : List α) : List α := replaceFrom old new 0 s

/-- A text without the first character of `old` has no occurrence of it. -/
theorem replaceAll_of_not_mem {a : α} {old new : List α} :
    ∀ {s : List α}, a ∉ s → replaceAll (a :: old) new s = s
  | [], _ => rfl
  | c :: s, h => by
      have hpre : ¬ a :: old <+: c :: s := by
        intro hp
        exact h ((List.cons_prefix_cons.mp hp).1 ▸ List.mem_cons_self)
      have htail : replaceFrom (a :: old) new 0 s = s :=
        replaceAll_of_not_mem (fun hmem => h (List.mem_cons_of_mem c hmem))
      unfold replaceAll replaceFrom
      rw [if_neg hpre, htail]

/-- The text without its pairs of the character `a`, from the left. -/
def dropPairs (a : α) : List α → List α
  | [] => []
  | [c] => [c]
  | c :: d :: s => if c = a ∧ d = a then dropPairs a s else c :: dropPairs a (d :: s)

/-- Pairs are replaced by nothing. -/
theorem replaceAll_pair (a : α) (s : List α) : replaceAll [a, a] [] s = dropPairs a s := by
  unfold replaceAll
  induction s using dropPairs.induct a with
  | case1 => rfl
  | case2 c => simp [replaceFrom, dropPairs]
  | case3 c d s h ih =>
      obtain ⟨rfl, rfl⟩ := h
      simpa [replaceFrom, dropPairs] using ih
  | case4 c d s h ih =>
      have hpre : ¬ [a, a] <+: c :: d :: s := by
        simp only [List.cons_prefix_cons, List.nil_prefix, and_true]
        rintro ⟨rfl, rfl⟩
        exact h ⟨rfl, rfl⟩
      unfold replaceFrom dropPairs
      rw [if_neg hpre, if_neg h, ih]

/-- Other characters are kept. -/
theorem mem_dropPairs {a x : α} (hx : x ≠ a) (s : List α) : x ∈ dropPairs a s ↔ x ∈ s := by
  induction s using dropPairs.induct a with
  | case1 => rfl
  | case2 c => rfl
  | case3 c d s h ih =>
      obtain ⟨rfl, rfl⟩ := h
      unfold dropPairs
      simp [ih, hx]
  | case4 c d s h ih =>
      unfold dropPairs
      rw [if_neg h, List.mem_cons, List.mem_cons, ih]

/-- Of characters `a` alone, one is left at most. -/
theorem dropPairs_of_all {a : α} (s : List α) (h : ∀ x ∈ s, x = a) :
    dropPairs a s = [] ∨ dropPairs a s = [a] := by
  induction s using dropPairs.induct a with
  | case1 => exact .inl rfl
  | case2 c =>
      rw [h c List.mem_cons_self]
      exact .inr rfl
  | case3 c d s hpair ih =>
      unfold dropPairs
      rw [if_pos hpair]
      exact ih (fun x hx => h x (List.mem_cons_of_mem c (List.mem_cons_of_mem d hx)))
  | case4 c d s hpair ih =>
      exact absurd ⟨h c (by simp), h d (by simp)⟩ hpair

/-- No pair is left. -/
theorem dropPairs_ne_pair (a : α) (s : List α) : dropPairs a s ≠ [a, a] := by
  intro hpair
  have hall : ∀ x ∈ s, x = a := by
    intro x hx
    by_contra hne
    have hmem := (mem_dropPairs hne s).mpr hx
    rw [hpair] at hmem
    simp [hne] at hmem
  rcases dropPairs_of_all s hall with h | h
  · rw [h] at hpair
    cases hpair
  · rw [h] at hpair
    simp at hpair

/-- Another character comes first exactly after an even number of characters `a`. -/
theorem head?_dropPairs {a x : α} (hx : x ≠ a) (s : List α) :
    (dropPairs a s).head? = some x ↔
      (s.takeWhile (fun c => c = a)).length % 2 = 0 ∧
        (s.dropWhile (fun c => c = a)).head? = some x := by
  induction s using dropPairs.induct a with
  | case1 => simp [dropPairs]
  | case2 c =>
      by_cases hc : c = a
      · simp [dropPairs, hc, hx.symm]
      · simp [dropPairs, hc]
  | case3 c d s h ih =>
      rw [dropPairs, if_pos h, ih, h.1, h.2]
      simp only [List.takeWhile_cons, List.dropWhile_cons, decide_true, if_true, List.length_cons]
      have hparity : ∀ n : Nat, (n + 1 + 1) % 2 = n % 2 := by omega
      rw [hparity]
  | case4 c d s h ih =>
      rw [dropPairs, if_neg h]
      by_cases hc : c = a
      · have hd : d ≠ a := fun hd => h ⟨hc, hd⟩
        simp [hc, hd, hx.symm]
      · simp [hc]

/-- **PAIRS ARE DROPPED IN EACH COMPONENT** of a text that another character splits. -/
theorem splitOn_dropPairs {a sep : α} (hsep : sep ≠ a) (s : List α) :
    (dropPairs a s).splitOn sep = (s.splitOn sep).map (dropPairs a) := by
  induction s using dropPairs.induct a with
  | case1 => rfl
  | case2 c =>
      by_cases hc : c = sep
      · simp [dropPairs, List.splitOn_cons_eq_if_modifyHead, hc]
      · simp [dropPairs, List.splitOn_cons_eq_if_modifyHead, hc]
  | case3 c d s h ih =>
      have hdrop : dropPairs a (c :: d :: s) = dropPairs a s := by
        rw [dropPairs, if_pos h]
      rw [hdrop, ih, h.1, h.2]
      obtain ⟨first, rest, hsplit⟩ := List.exists_cons_of_ne_nil (List.splitOn_ne_nil sep s)
      simp [List.splitOn_cons_eq_if_modifyHead, hsep.symm, hsplit, dropPairs]
  | case4 c d s h ih =>
      have hdrop : dropPairs a (c :: d :: s) = c :: dropPairs a (d :: s) := by
        rw [dropPairs, if_neg h]
      rw [hdrop, List.splitOn_cons_eq_if_modifyHead, ih,
        List.splitOn_cons_eq_if_modifyHead c (d :: s)]
      split
      next => rfl
      next =>
        -- the component goes on with `d`, or ends here
        by_cases hd : d = sep
        · simp [List.splitOn_cons_eq_if_modifyHead, hd, dropPairs]
        · obtain ⟨first, rest, hsplit⟩ := List.exists_cons_of_ne_nil (List.splitOn_ne_nil sep s)
          simp [List.splitOn_cons_eq_if_modifyHead, hd, hsplit, dropPairs, h]

/-- No component has the character that splits. -/
theorem not_mem_of_mem_splitOn {sep : α} {s c : List α} (h : c ∈ s.splitOn sep) : sep ∉ c := by
  induction s generalizing c with
  | nil =>
      rw [List.splitOn_nil, List.mem_singleton] at h
      rw [h]
      exact List.not_mem_nil
  | cons a s ih =>
      rw [List.splitOn_cons_eq_if_modifyHead] at h
      split at h
      next =>
        rcases List.mem_cons.mp h with rfl | h
        · exact List.not_mem_nil
        · exact ih h
      next ha =>
        rw [beq_iff_eq] at ha
        obtain ⟨first, rest, hsplit⟩ := List.exists_cons_of_ne_nil (List.splitOn_ne_nil sep s)
        rw [hsplit, List.modifyHead_cons] at h
        rcases List.mem_cons.mp h with rfl | h
        · -- the first component has grown by another character
          have hfirst : sep ∉ first := ih (by rw [hsplit]; exact List.mem_cons_self)
          rw [List.mem_cons, not_or]
          exact ⟨fun heq => ha heq.symm, hfirst⟩
        · exact ih (by rw [hsplit]; exact List.mem_cons_of_mem first h)

/-- **WHAT A SPLIT IS**: the one list of parts without the character that joins to the text. -/
theorem splitOn_eq_iff {sep : α} {s : List α} {parts : List (List α)} :
    s.splitOn sep = parts ↔
      parts ≠ [] ∧ (∀ c ∈ parts, sep ∉ c) ∧ [sep].intercalate parts = s := by
  constructor
  · rintro rfl
    exact ⟨List.splitOn_ne_nil sep s, fun c hc => not_mem_of_mem_splitOn hc,
      List.intercalate_splitOn sep⟩
  · rintro ⟨hne, hfree, rfl⟩
    exact List.splitOn_intercalate sep hfree hne

/-- A text without the character goes to the last part. -/
theorem splitOn_append_of_not_mem {sep : α} {ext : List α} (hext : sep ∉ ext) (s : List α) :
    ∃ init last, s.splitOn sep = init ++ [last] ∧
      (s ++ ext).splitOn sep = init ++ [last ++ ext] := by
  by_cases hs : sep ∈ s
  · obtain ⟨a, b, hab⟩ := List.append_of_mem hs
    obtain ⟨init, last, hb, hbExt⟩ := splitOn_append_of_not_mem hext b
    refine ⟨a.splitOn sep ++ init, last, ?_, ?_⟩
    · rw [hab, List.splitOn_append_cons_self, hb, List.append_assoc]
    · rw [hab, List.append_assoc, List.cons_append, List.splitOn_append_cons_self, hbExt,
        List.append_assoc]
  · refine ⟨[], s, List.splitOn_eq_singleton hs, List.splitOn_eq_singleton ?_⟩
    intro h
    rcases List.mem_append.mp h with h | h
    · exact hs h
    · exact hext h
termination_by s.length
decreasing_by
  rw [hab, List.length_append, List.length_cons]
  omega

/-! ## §3. `$`. -/

/-- A pattern that ends in `$`: a newline at the end of the text is not looked at. -/
def endsLine (body : List Char → Bool) (t : List Char) : Bool :=
  body t || (t.getLast? = some '\n' && body t.dropLast)

/-- What is matched is a text of the pattern, or one with a newline after it. -/
theorem endsLine_iff {body : List Char → Bool} {t : List Char} :
    endsLine body t = true ↔ ∃ s, body s = true ∧ (t = s ∨ t = s ++ ['\n']) := by
  unfold endsLine
  rw [Bool.or_eq_true, Bool.and_eq_true, decide_eq_true_eq]
  constructor
  · rintro (h | ⟨hlast, h⟩)
    · exact ⟨t, h, .inl rfl⟩
    · exact ⟨t.dropLast, h, .inr (List.dropLast_append_getLast? _ hlast).symm⟩
  · rintro ⟨s, h, rfl | rfl⟩
    · exact .inl h
    · right
      rw [List.dropLast_concat, List.getLast?_concat]
      exact ⟨rfl, h⟩

end PureBoot.Lib
