/-
  PureBoot.Lib.Tree — a TREE OF FILES that is written to.

  A tree says what is at each absolute path: nothing, a directory, or a file with its
  content.  There are no links.  The operations are those of `pathlib`: they make the
  directories above a path, write, rename and delete a file; those of `shutil` delete and
  move a directory.  `none` is an `OSError`, which leaves the tree as it was.

  Each operation has one lemma that says when it succeeds and what the tree is then, path
  by path.  In a closed tree, deleting is leaving out: `Closed.unlink_eq`,
  `Closed.without_eq_iff`.
-/
import Mathlib.Logic.Function.Basic
import PureBoot.Lib.Posix

namespace PureBoot.Lib

open AbsPath

/-! ## §1. Trees. -/

/-- What is at a path. -/
inductive Item (β : Type*) where
  | dir
  | file (content : β)
  deriving DecidableEq

/-- What is at each path; `none` is nothing. -/
abbrev Tree (β : Type*) : Type _ := AbsPath → Option (Item β)

namespace Tree

variable {β : Type*}

def isDirAt (t : Tree β) (p : AbsPath) : Bool :=
  match t p with
  | some .dir => true
  | _ => false

def isFileAt (t : Tree β) (p : AbsPath) : Bool :=
  match t p with
  | some (.file _) => true
  | _ => false

theorem isDirAt_iff {t : Tree β} {p : AbsPath} : t.isDirAt p = true ↔ t p = some .dir := by
  unfold isDirAt
  cases t p with
  | none => simp
  | some e => cases e <;> simp

theorem isFileAt_of {t : Tree β} {p : AbsPath} {content : β} (h : t p = some (.file content)) :
    t.isFileAt p = true := by
  unfold isFileAt
  rw [h]

/-- The path has `n` of the names of `p`. -/
def upTo (p : AbsPath) (n : Nat) : AbsPath where
  parts := p.parts.take n
  valid := fun m hm => p.valid m (List.mem_of_mem_take hm)

/-- A file stands where a directory is needed: at the path or above it. -/
def blockedAt (t : Tree β) (p : AbsPath) : Bool :=
  (List.range (p.parts.length + 1)).any (fun n => t.isFileAt (upTo p n))

theorem blockedAt_eq_false {t : Tree β} {p : AbsPath} :
    t.blockedAt p = false ↔ ∀ q, Under q p → t.isFileAt q = false := by
  unfold blockedAt
  rw [List.any_eq_false]
  constructor
  · intro h q hq
    have htake : upTo p q.parts.length = q := AbsPath.ext (List.prefix_iff_eq_take.mp hq).symm
    have hlength : q.parts.length ∈ List.range (p.parts.length + 1) := by
      rw [List.mem_range]
      have := hq.length_le
      omega
    simpa [htake] using h _ hlength
  · intro h n _
    rw [Bool.not_eq_true]
    exact h _ (List.take_prefix n p.parts)

/-- The path that becomes `q` when `src` becomes `dst`. -/
def rebase (src dst q : AbsPath) : AbsPath where
  parts := src.parts ++ q.parts.drop dst.parts.length
  valid := by
    intro n hn
    rcases List.mem_append.mp hn with hn | hn
    · exact src.valid n hn
    · exact q.valid n (List.mem_of_mem_drop hn)

/-! ## §2. Operations. -/

/-- The tree with all directories down to the path. -/
def withDirs (t : Tree β) (p : AbsPath) : Tree β :=
  fun q => if Under q p ∧ t q = none then some .dir else t q

/-- `path.mkdir(parents=True, exist_ok=True)`. -/
def mkdirs (t : Tree β) (p : AbsPath) : Option (Tree β) :=
  if t.blockedAt p then none else some (t.withDirs p)

/-- `path.write_bytes(content)`. -/
def write (t : Tree β) (p : AbsPath) (content : β) : Option (Tree β) :=
  if t.isDirAt p.parent && !t.isDirAt p then some (Function.update t p (some (.file content)))
  else none

/-- `src.rename(dst)` of a file; a file at `dst` is replaced. -/
def rename (t : Tree β) (src dst : AbsPath) : Option (Tree β) :=
  match t src with
  | some (.file content) =>
      if t.isDirAt dst.parent && !t.isDirAt dst then
        some (Function.update (Function.update t src none) dst (some (.file content)))
      else none
  | _ => none

/-- `path.unlink()`. -/
def unlink (t : Tree β) (p : AbsPath) : Option (Tree β) :=
  if t.isFileAt p then some (Function.update t p none) else none

/-- `shutil.rmtree(path)`. -/
def removeAll (t : Tree β) (p : AbsPath) : Tree β := fun q => if Under p q then none else t q

/-- All that is below `src` is below `dst` then, whose directory is made. -/
def graft (t : Tree β) (src dst : AbsPath) : Tree β := fun q =>
  if Under dst q then t (rebase src dst q)
  else if Under src q then none
  else t.withDirs dst.parent q

/-- `shutil.move(src, dst)` to a path at which there is nothing.  A file is only moved into a
directory; a directory is copied, with those above it, where it cannot be renamed. -/
def move (t : Tree β) (src dst : AbsPath) : Option (Tree β) :=
  match t src with
  | some (.file _) => t.rename src dst
  | some .dir =>
      if Under src dst || t.blockedAt dst.parent then none else some (t.graft src dst)
  | none => none

/-! ## §3. When they succeed. -/

section Specs

variable {t : Tree β} {p q : AbsPath} {content : β}

theorem mkdirs_of (h : ∀ q, Under q p → t.isFileAt q = false) :
    t.mkdirs p = some (t.withDirs p) := by
  unfold mkdirs
  rw [blockedAt_eq_false.mpr h]
  rfl

/-- What is there stays. -/
theorem withDirs_of_some {e : Item β} (h : t q = some e) : t.withDirs p q = some e := by
  unfold withDirs
  rw [if_neg (by simp [h]), h]

/-- Nothing is made elsewhere. -/
theorem withDirs_of_not_under (h : ¬ Under q p) : t.withDirs p q = t q :=
  if_neg (fun hboth => h hboth.1)

theorem withDirs_under (hq : Under q p) (h : t.isFileAt q = false) :
    t.withDirs p q = some .dir := by
  cases hentry : t q with
  | none => exact if_pos ⟨hq, hentry⟩
  | some e =>
      cases e with
      | dir => exact withDirs_of_some hentry
      | file content =>
          rw [isFileAt_of hentry] at h
          cases h

theorem write_of (hparent : t p.parent = some .dir) (h : t p ≠ some .dir) :
    t.write p content = some (Function.update t p (some (.file content))) := by
  unfold write
  rw [isDirAt_iff.mpr hparent, Bool.true_and]
  rw [if_pos]
  rw [Bool.not_eq_true', ← Bool.not_eq_true, isDirAt_iff]
  exact h

theorem rename_of (hsrc : t q = some (.file content)) (hparent : t p.parent = some .dir)
    (h : t p ≠ some .dir) :
    t.rename q p
      = some (Function.update (Function.update t q none) p (some (.file content))) := by
  unfold rename
  rw [hsrc]
  dsimp only
  rw [isDirAt_iff.mpr hparent, Bool.true_and]
  rw [if_pos]
  rw [Bool.not_eq_true', ← Bool.not_eq_true, isDirAt_iff]
  exact h

theorem unlink_of (h : t p = some (.file content)) :
    t.unlink p = some (Function.update t p none) := by
  unfold unlink
  rw [isFileAt_of h]
  rfl

end Specs

/-! ## §4. The contents of the files. -/

section Contents

variable {t t' : Tree β} {p q src dst : AbsPath} {content c : β}

/-- The content of the file at the path. -/
def content? (t : Tree β) (p : AbsPath) : Option β :=
  match t p with
  | some (.file content) => some content
  | _ => none

theorem content?_eq_some : t.content? p = some c ↔ t p = some (.file c) := by
  unfold content?
  cases t p with
  | none => simp
  | some e => cases e <;> simp

theorem content?_write (h : t.write p content = some t') (q : AbsPath) :
    t'.content? q = if q = p then some content else t.content? q := by
  unfold write at h
  split at h
  next =>
    obtain rfl := Option.some.inj h
    unfold content?
    by_cases hq : q = p
    · rw [if_pos hq, hq, Function.update_self]
    · rw [if_neg hq, Function.update_of_ne hq]
  next => cases h

theorem content?_withDirs (t : Tree β) (p q : AbsPath) :
    (t.withDirs p).content? q = t.content? q := by
  unfold content? withDirs
  split_ifs with h
  · rw [h.2]
  · rfl

theorem content?_mkdirs (h : t.mkdirs p = some t') (q : AbsPath) :
    t'.content? q = t.content? q := by
  unfold mkdirs at h
  split at h
  next => cases h
  next =>
    obtain rfl := Option.some.inj h
    exact content?_withDirs t p q

theorem content?_removeAll (h : (t.removeAll p).content? q = some c) :
    t.content? q = some c := by
  rw [content?_eq_some] at h ⊢
  unfold removeAll at h
  split at h
  next => cases h
  next => exact h

theorem content?_unlink (hunlink : t.unlink p = some t') (h : t'.content? q = some c) :
    t.content? q = some c := by
  unfold unlink at hunlink
  split at hunlink
  next =>
    obtain rfl := Option.some.inj hunlink
    rw [content?_eq_some] at h ⊢
    by_cases hq : q = p
    · rw [hq, Function.update_self] at h
      cases h
    · rwa [Function.update_of_ne hq] at h
  next => cases hunlink

theorem content?_unlink_of_ne (hunlink : t.unlink p = some t') (h : q ≠ p) :
    t'.content? q = t.content? q := by
  unfold unlink at hunlink
  split at hunlink
  next =>
    obtain rfl := Option.some.inj hunlink
    unfold content?
    rw [Function.update_of_ne h]
  next => cases hunlink

/-- What a move brings to a path. -/
def moved (t : Tree β) (src dst q : AbsPath) : Option β :=
  match t src with
  | some (.file content) => if q = dst then some content else none
  | some .dir => if Under dst q then t.content? (rebase src dst q) else none
  | none => none

/-- What a move of a file does. -/
theorem rename_eq_some (hsrc : t src = some (.file content)) (h : t.rename src dst = some t') :
    t' = Function.update (Function.update t src none) dst (some (.file content)) := by
  unfold rename at h
  rw [hsrc] at h
  dsimp only at h
  split at h
  next => exact (Option.some.inj h).symm
  next => cases h

/-- A renamed file has left its path. -/
theorem content?_rename (h : t.rename src dst = some t') (q : AbsPath) :
    t'.content? q
      = if q = dst then t.content? src else if q = src then none else t.content? q := by
  cases hsrc : t src with
  | none =>
      unfold rename at h
      rw [hsrc] at h
      cases h
  | some e =>
      cases e with
      | dir =>
          unfold rename at h
          rw [hsrc] at h
          cases h
      | file content =>
          obtain rfl := rename_eq_some hsrc h
          unfold content?
          by_cases hdst : q = dst
          · rw [hdst, Function.update_self, if_pos rfl, hsrc]
          · rw [Function.update_of_ne hdst, if_neg hdst]
            by_cases hq : q = src
            · rw [hq, Function.update_self, if_pos rfl]
            · rw [Function.update_of_ne hq, if_neg hq]

/-- What a move of a directory does. -/
theorem graft_of_move (hsrc : t src = some .dir) (h : t.move src dst = some t') :
    t' = t.graft src dst := by
  unfold move at h
  rw [hsrc] at h
  dsimp only at h
  split at h
  next => cases h
  next => exact (Option.some.inj h).symm

theorem rename_of_move (hsrc : t src = some (.file content)) (h : t.move src dst = some t') :
    t.rename src dst = some t' := by
  unfold move at h
  rw [hsrc] at h
  exact h

/-- A move brings its files, -/
theorem content?_move_of (hmove : t.move src dst = some t') (h : t.moved src dst q = some c) :
    t'.content? q = some c := by
  unfold moved at h
  rw [content?_eq_some]
  cases hsrc : t src with
  | none =>
      rw [hsrc] at h
      cases h
  | some e =>
      rw [hsrc] at h
      cases e with
      | file content =>
          rw [rename_eq_some hsrc (rename_of_move hsrc hmove)]
          dsimp only at h
          split at h
          next hq => rw [hq, Function.update_self, Option.some.inj h]
          next => cases h
      | dir =>
          rw [graft_of_move hsrc hmove]
          dsimp only at h
          split at h
          next hq =>
            unfold graft
            rw [if_pos hq]
            exact content?_eq_some.mp h
          next => cases h

/-- and nothing else. -/
theorem content?_move (hmove : t.move src dst = some t') (h : t'.content? q = some c) :
    t.moved src dst q = some c ∨ t.content? q = some c := by
  unfold moved
  cases hsrc : t src with
  | none =>
      unfold move at hmove
      rw [hsrc] at hmove
      cases hmove
  | some e =>
      cases e with
      | file content =>
          rw [rename_eq_some hsrc (rename_of_move hsrc hmove), content?_eq_some] at h
          dsimp only
          by_cases hq : q = dst
          · rw [hq, Function.update_self] at h
            obtain rfl : content = c := by simpa using h
            exact .inl (if_pos hq)
          · rw [Function.update_of_ne hq] at h
            by_cases hqsrc : q = src
            · rw [hqsrc, Function.update_self] at h
              cases h
            · rw [Function.update_of_ne hqsrc] at h
              exact .inr (content?_eq_some.mpr h)
      | dir =>
          rw [graft_of_move hsrc hmove, content?_eq_some] at h
          unfold graft at h
          dsimp only
          -- grafted below the destination, emptied at the source, and as before elsewhere
          split_ifs at h with hdst hqsrc
          · rw [if_pos hdst]
            exact .inl (content?_eq_some.mpr h)
          · right
            rw [← content?_withDirs t dst.parent q]
            exact content?_eq_some.mpr h

end Contents

/-! ## §5. Closed trees. -/

section Closed

variable {t : Tree β} {p q : AbsPath}

/-- **A CLOSED TREE**: what is there lies in directories. -/
def Closed (t : Tree β) : Prop := ∀ p q, Inside p q → t q ≠ none → t p = some .dir

/-- The tree without these paths and all that is below them. -/
def without (t : Tree β) (ps : List AbsPath) : Tree β :=
  fun q => if ∃ p ∈ ps, Under p q then none else t q

/-- Below what is no directory there is nothing. -/
theorem Closed.nothing_below (h : t.Closed) (hp : t p ≠ some .dir) (hq : Inside p q) :
    t q = none := by
  by_contra hthere
  exact hp (h p q hq hthere)

theorem Closed.removeAll (h : t.Closed) (p : AbsPath) : (t.removeAll p).Closed := by
  intro a b hab hthere
  unfold Tree.removeAll at hthere ⊢
  split at hthere
  next => exact absurd rfl hthere
  next hb =>
    rw [if_neg (fun ha => hb (Under.trans ha hab.1))]
    exact h a b hab hthere

/-- What is not there is not there after a deletion. -/
theorem removeAll_none (h : t q = none) (p : AbsPath) : t.removeAll p q = none := by
  unfold removeAll
  split
  next => rfl
  next => exact h

/-- Deleting a path that is not there changes nothing. -/
theorem Closed.removeAll_of_none (h : t.Closed) (hp : t p = none) : t.removeAll p = t := by
  funext q
  unfold Tree.removeAll
  split
  next hunder =>
    by_cases hq : p = q
    · rw [← hq, hp]
    · have hdir : t p ≠ some .dir := by
        rw [hp]
        exact fun heq => nomatch heq
      exact (h.nothing_below hdir ⟨hunder, hq⟩).symm
  next => rfl

/-- A file is all that is at its path and below. -/
theorem Closed.unlink_eq (h : t.Closed) {content : β} (hp : t p = some (.file content)) :
    t.unlink p = some (t.removeAll p) := by
  rw [unlink_of hp]
  congr 1
  funext q
  unfold Tree.removeAll
  by_cases hq : q = p
  · rw [hq, Function.update_self, if_pos (under_refl p)]
  · rw [Function.update_of_ne hq]
    split
    next hunder =>
      have hdir : t p ≠ some .dir := by
        rw [hp]
        exact fun heq => nomatch heq
      exact h.nothing_below hdir ⟨hunder, Ne.symm hq⟩
    next => rfl

theorem without_nil (t : Tree β) : t.without [] = t := by
  funext q
  exact if_neg (fun ⟨_, hmem, _⟩ => List.not_mem_nil hmem)

theorem without_cons (t : Tree β) (p : AbsPath) (ps : List AbsPath) :
    t.without (p :: ps) = (t.removeAll p).without ps := by
  funext q
  unfold without Tree.removeAll
  by_cases hps : ∃ p ∈ ps, Under p q
  · obtain ⟨p', hp', hunder⟩ := hps
    rw [if_pos ⟨p', List.mem_cons_of_mem _ hp', hunder⟩, if_pos ⟨p', hp', hunder⟩]
  · rw [if_neg hps]
    refine if_congr ?_ rfl rfl
    constructor
    · rintro ⟨p', hp', hunder⟩
      rcases List.mem_cons.mp hp' with rfl | hp'
      · exact hunder
      · exact absurd ⟨p', hp', hunder⟩ hps
    · exact fun hunder => ⟨p, List.mem_cons_self, hunder⟩

theorem Closed.without (h : t.Closed) (ps : List AbsPath) : (t.without ps).Closed := by
  induction ps generalizing t with
  | nil =>
      rw [without_nil]
      exact h
  | cons p ps ih =>
      rw [without_cons]
      exact ih (h.removeAll p)

/-- A closed tree stays as it is exactly if none of the paths is there. -/
theorem Closed.without_eq_iff (h : t.Closed) {ps : List AbsPath} :
    t.without ps = t ↔ ∀ p ∈ ps, t p = none := by
  constructor
  · intro heq p hp
    rw [← congrFun heq p]
    exact if_pos ⟨p, hp, under_refl p⟩
  · intro hnone
    induction ps with
    | nil => exact without_nil t
    | cons p ps ih =>
        rw [without_cons, h.removeAll_of_none (hnone p List.mem_cons_self)]
        exact ih (fun p' hp' => hnone p' (List.mem_cons_of_mem p hp'))

end Closed

end Tree

end PureBoot.Lib
