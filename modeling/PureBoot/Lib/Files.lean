/-
  PureBoot.Lib.Files — a FILE SYSTEM with symbolic links.

  The entries are rows of a table by path; an entry lies in a directory (`valid`), so
  a file below a file, or below a link, cannot be built.  The target of a link is an
  absolute path.  `follow` reads a path name by name and goes on from the target where
  it meets a link; `real` is the end of this, as long as no more than `maxLinks` links
  are met, and `content` what is read there.

  The operations are those of programs that lay out directories: `mkdirs`,
  `symlinkTo`, `writeText`; `none` is the error of the operating system.

  Main results:
    * `real_real` — where a path leads is its own end;
    * `exists_of_content` — a file that can be read lies in a directory that is there.
-/
import PureBoot.Lib.Posix
import PureBoot.Lib.Table

namespace PureBoot.Lib

/-! ## §1. Entries. -/

/-- What is at a path. -/
inductive Entry (β : Type) where
  | dir
  | file (content : β)
  | link (target : AbsPath)
  deriving DecidableEq

structure FileRow (β : Type) where
  path : AbsPath
  entry : Entry β

section Lookup

variable {β : Type}

/-- The entry at a path, links not followed; `/` is a directory. -/
def lookup (table : Table (FileRow.path (β := β))) (p : AbsPath) : Option (Entry β) :=
  if p.parts = [] then some .dir else (table.get? p).map FileRow.entry

theorem lookup_top (table : Table (FileRow.path (β := β))) {p : AbsPath} (h : p.parts = []) :
    lookup table p = some .dir :=
  if_pos h

end Lookup

structure Files (β : Type) where
  table : Table (FileRow.path (β := β))
  valid : ∀ r ∈ table.rows, r.path.parts ≠ [] ∧ lookup table r.path.parent = some .dir

namespace Files

variable {β : Type}

/-- No entry but `/`. -/
def empty : Files β where
  table := Table.empty
  valid := fun _ h => absurd h List.not_mem_nil

def entryAt (fs : Files β) (p : AbsPath) : Option (Entry β) := lookup fs.table p

def isDirAt (fs : Files β) (p : AbsPath) : Bool :=
  match fs.entryAt p with
  | some .dir => true
  | _ => false

theorem isDirAt_iff {fs : Files β} {p : AbsPath} :
    fs.isDirAt p = true ↔ fs.entryAt p = some .dir := by
  unfold isDirAt
  split
  next h => simp [h]
  next h => simpa using h

/-- An entry lies in a directory. -/
theorem entryAt_parent {fs : Files β} {p : AbsPath} {e : Entry β} (h : fs.entryAt p = some e) :
    fs.entryAt p.parent = some .dir := by
  by_cases hp : p.parts = []
  · have hparent : p.parent.parts = [] := by
      show p.parts.dropLast = []
      rw [hp]
      rfl
    exact lookup_top fs.table hparent
  · unfold entryAt lookup at h
    rw [if_neg hp] at h
    obtain ⟨r, hr, -⟩ := Option.map_eq_some_iff.mp h
    obtain ⟨hmem, rfl⟩ := Table.get?_eq_some_iff.mp hr
    exact (fs.valid r hmem).2

/-! ## §2. Following links. -/

/-- Read names from a real path, up to the first link: its target and the names after it. -/
def walk (fs : Files β) : AbsPath → List (List Char) → AbsPath ⊕ (AbsPath × List (List Char))
  | cur, [] => .inl cur
  | cur, n :: rest =>
      match fs.entryAt (cur.enter n) with
      | some (.link target) => .inr (target, rest)
      | _ => walk fs (cur.enter n) rest

def follow (fs : Files β) : Nat → List (List Char) → Option AbsPath
  | 0, _ => none
  | k + 1, names =>
      match fs.walk AbsPath.top names with
      | .inl p => some p
      | .inr (target, rest) => follow fs k (target.parts ++ rest)

/-- The links that are followed for one path. -/
def maxLinks : Nat := 40

/-- Where a path leads. -/
def real (fs : Files β) (p : AbsPath) : Option AbsPath := fs.follow (maxLinks + 1) p.parts

/-- `(p / text).resolve()`; a path that leads nowhere is left as it is. -/
def resolve (fs : Files β) (p : AbsPath) (text : List Char) : AbsPath :=
  (fs.follow (maxLinks + 1) (p.parts ++ text.splitOn '/')).getD (p.resolveFrom text)

/-- The entry at the end of a path. -/
def stat (fs : Files β) (p : AbsPath) : Option (Entry β) :=
  match fs.real p with
  | some q => fs.entryAt q
  | none => none

/-- `path.exists()`. -/
def isThere (fs : Files β) (p : AbsPath) : Bool := (fs.stat p).isSome

/-- What is read from a path. -/
def content (fs : Files β) (p : AbsPath) : Option β :=
  match fs.stat p with
  | some (.file c) => some c
  | _ => none

theorem content_eq_some {fs : Files β} {p : AbsPath} {c : β} :
    fs.content p = some c ↔ ∃ q, fs.real p = some q ∧ fs.entryAt q = some (.file c) := by
  unfold content stat
  cases hreal : fs.real p with
  | none => simp
  | some q =>
      cases hentry : fs.entryAt q with
      | none => simp [hentry]
      | some e => cases e <;> simp [hentry]

/-- A walk along names that meets no link. -/
theorem walk_plain {fs : Files β} : ∀ {names : List (List Char)} {cur q : AbsPath},
    (∀ n ∈ names, isName n = true) → q.parts = cur.parts ++ names →
    (∀ p, AbsPath.Under p q → ∀ target, fs.entryAt p ≠ some (.link target)) →
    fs.walk cur names = .inl q := by
  intro names
  induction names with
  | nil =>
      intro cur q _ hq _
      rw [List.append_nil] at hq
      rw [AbsPath.ext hq]
      rfl
  | cons n names ih =>
      intro cur q hnames hq hplain
      have hn : isName n = true := hnames n List.mem_cons_self
      have hparts : q.parts = (cur.enter n).parts ++ names := by
        rw [AbsPath.parts_enter_name hn, hq, List.append_assoc]
        rfl
      have hnext : ∀ target, fs.entryAt (cur.enter n) ≠ some (.link target) :=
        hplain _ ⟨names, hparts.symm⟩
      have hrest := ih (fun m hm => hnames m (List.mem_cons_of_mem n hm)) hparts hplain
      unfold walk
      split
      next target hlink => exact absurd hlink (hnext target)
      next => exact hrest

/-- No link on the way to a path. -/
def Plain (fs : Files β) (p : AbsPath) : Prop :=
  ∀ q, AbsPath.Under q p → ∀ target, fs.entryAt q ≠ some (.link target)

theorem plain_top (fs : Files β) : fs.Plain AbsPath.top := by
  intro q hq target hlink
  have hnil : q.parts = [] := List.prefix_nil.mp hq
  rw [show fs.entryAt q = some .dir from lookup_top fs.table hnil] at hlink
  cases hlink

/-- One component further, onto something that is no link. -/
theorem Plain.enter {fs : Files β} {p : AbsPath} {n : List Char} (h : fs.Plain p)
    (hn : ∀ target, fs.entryAt (p.enter n) ≠ some (.link target)) : fs.Plain (p.enter n) := by
  intro q hq
  by_cases hname : isName n = true
  · have hq : q.parts <+: (p.enter n).parts := hq
    rw [AbsPath.parts_enter_name hname, List.prefix_concat_iff] at hq
    rcases hq with hself | habove
    · have heq : q = p.enter n := by
        refine AbsPath.ext ?_
        rw [AbsPath.parts_enter_name hname, hself]
      rw [heq]
      exact hn
    · exact h q habove
  · -- `..` and `.` lead to no deeper path
    refine h q (List.IsPrefix.trans hq ?_)
    unfold AbsPath.enter
    rw [dif_neg hname]
    split
    next => exact List.dropLast_prefix p.parts
    next => exact List.prefix_refl p.parts

theorem walk_inl_plain {fs : Files β} : ∀ {names : List (List Char)} {cur q : AbsPath},
    fs.Plain cur → fs.walk cur names = .inl q → fs.Plain q := by
  intro names
  induction names with
  | nil =>
      intro cur q hcur h
      injection h with h
      rw [← h]
      exact hcur
  | cons n names ih =>
      intro cur q hcur h
      unfold walk at h
      split at h
      next => cases h
      next hplain => exact ih (hcur.enter (fun target hlink => hplain target hlink)) h

theorem follow_plain {fs : Files β} : ∀ {k : Nat} {names : List (List Char)} {q : AbsPath},
    fs.follow k names = some q → fs.Plain q := by
  intro k
  induction k with
  | zero => intro names q h; cases h
  | succ k ih =>
      intro names q h
      unfold follow at h
      split at h
      next p hwalk =>
        injection h with h
        rw [← h]
        exact walk_inl_plain (plain_top fs) hwalk
      next => exact ih h

/-- A path without links on its way is its own end, whether it is there or not. -/
theorem real_of_plain {fs : Files β} {p : AbsPath} (h : fs.Plain p) : fs.real p = some p := by
  have hwalk : fs.walk AbsPath.top p.parts = .inl p := walk_plain p.valid rfl h
  unfold real follow
  rw [hwalk]

/-- **WHERE A PATH LEADS IS ITS OWN END.** -/
theorem real_real {fs : Files β} {p q : AbsPath} (h : fs.real p = some q) :
    fs.real q = some q :=
  real_of_plain (follow_plain h)

/-- Reading from a path and from where it leads is the same. -/
theorem content_resolved (fs : Files β) (p : AbsPath) :
    fs.content ((fs.real p).getD p) = fs.content p := by
  cases hreal : fs.real p with
  | none => rfl
  | some q =>
      show fs.content q = fs.content p
      unfold content stat
      rw [hreal, real_real hreal]

/-- A walk along names and one more. -/
theorem walk_append {fs : Files β} (n : List Char) : ∀ (names : List (List Char)) (cur : AbsPath),
    fs.walk cur (names ++ [n]) =
      match fs.walk cur names with
      | .inl d => fs.walk d [n]
      | .inr (target, rest) => .inr (target, rest ++ [n]) := by
  intro names
  induction names with
  | nil => intro cur; rfl
  | cons m names ih =>
      intro cur
      show fs.walk cur (m :: (names ++ [n])) = _
      unfold walk
      split
      next target hlink => rfl
      next => exact ih (cur.enter m)

/-- A link, not itself behind one, leads where its target leads. -/
theorem real_of_link {fs : Files β} {p target : AbsPath} {n : List Char}
    (hn : isName n = true) (hp : fs.Plain p) (hlink : fs.entryAt (p.enter n) = some (.link target))
    (htarget : fs.Plain target) : fs.real (p.enter n) = some target := by
  have hwalk : fs.walk AbsPath.top (p.enter n).parts = .inr (target, []) := by
    rw [AbsPath.parts_enter_name hn, walk_append, walk_plain p.valid rfl hp]
    show fs.walk p [n] = .inr (target, [])
    unfold walk
    rw [hlink]
  have hrest : fs.walk AbsPath.top target.parts = .inl target :=
    walk_plain target.valid rfl htarget
  unfold real follow
  rw [hwalk]
  show fs.follow maxLinks (target.parts ++ []) = some target
  rw [List.append_nil]
  show fs.follow (39 + 1) target.parts = some target
  unfold follow
  rw [hrest]

/-- The end of a path with one more name: the end of the path, and the entry there. -/
theorem follow_append {fs : Files β} {n : List Char} : ∀ {k : Nat} {names : List (List Char)}
    {q : AbsPath}, fs.follow k (names ++ [n]) = some q →
      ∃ d, fs.follow k names = some d ∧
        (q = d.enter n ∨ ∃ target, fs.entryAt (d.enter n) = some (.link target)) := by
  intro k
  induction k with
  | zero => intro names q h; cases h
  | succ k ih =>
      intro names q h
      unfold follow at h ⊢
      rw [walk_append] at h
      cases hwalk : fs.walk AbsPath.top names with
      | inr step =>
          rw [hwalk] at h
          dsimp only at h ⊢
          rw [← List.append_assoc] at h
          exact ih h
      | inl d =>
          rw [hwalk] at h
          refine ⟨d, rfl, ?_⟩
          by_cases hlink : ∃ target, fs.entryAt (d.enter n) = some (.link target)
          · exact .inr hlink
          · -- the last name is no link: the walk ends there
            have hone : fs.walk d [n] = .inl (d.enter n) := by
              unfold walk
              split
              next target hentry => exact absurd ⟨target, hentry⟩ hlink
              next => rfl
            dsimp only at h
            rw [hone] at h
            injection h with h
            exact .inl h.symm

/-- **A FILE THAT CAN BE READ LIES IN A DIRECTORY THAT IS THERE.** -/
theorem exists_of_content {fs : Files β} {p : AbsPath} {n : List Char} {c : β}
    (hn : isName n = true) (h : fs.content (p.enter n) = some c) : fs.isThere p = true := by
  obtain ⟨q, hq, hfile⟩ := content_eq_some.mp h
  unfold real at hq
  rw [AbsPath.parts_enter_name hn] at hq
  obtain ⟨d, hd, hend⟩ := follow_append hq
  have hdir : fs.entryAt d = some .dir := by
    rcases hend with rfl | ⟨target, hlink⟩
    · rw [← AbsPath.parent_enter (p := d) hn]
      exact entryAt_parent hfile
    · rw [← AbsPath.parent_enter (p := d) hn]
      exact entryAt_parent hlink
  unfold isThere stat
  rw [show fs.real p = some d from hd]
  show (fs.entryAt d).isSome = true
  rw [hdir]
  rfl

/-! ## §3. Operations. -/

/-- The table with the entry `e` at `p`. -/
def tableWith (fs : Files β) (p : AbsPath) (e : Entry β) : Table (FileRow.path (β := β)) :=
  fs.table.upsert ⟨p, e⟩

theorem lookup_tableWith (fs : Files β) {p : AbsPath} (e : Entry β) (x : AbsPath)
    (hp : p.parts ≠ []) :
    lookup (fs.tableWith p e) x = if x = p then some e else fs.entryAt x := by
  unfold lookup tableWith entryAt
  rw [Table.get?_upsert]
  by_cases hx : x = p
  · subst hx
    rw [if_neg hp, if_pos rfl, if_pos rfl]
    rfl
  · rw [if_neg hx, if_neg (show x ≠ FileRow.path ⟨p, e⟩ from hx)]
    rfl

theorem parent_ne {p : AbsPath} (hp : p.parts ≠ []) : p.parent ≠ p := by
  intro heq
  have hlen := congrArg (fun x : AbsPath => x.parts.length) heq
  have hpos := List.length_pos_of_ne_nil hp
  simp only [AbsPath.parent, List.length_dropLast] at hlen
  omega

/-- The entry at `p` becomes `e`: `p` lies in a directory and is none itself. -/
def set? (fs : Files β) (p : AbsPath) (e : Entry β) : Option (Files β) :=
  if h : p.parts ≠ [] ∧ fs.isDirAt p.parent = true ∧ fs.isDirAt p = false then
    some {
      table := fs.tableWith p e
      valid := by
        obtain ⟨hp, hparent, hself⟩ := h
        intro r hr
        rw [lookup_tableWith fs e _ hp]
        rcases Table.mem_upsert.mp hr with rfl | ⟨hr, hne⟩
        · rw [if_neg (parent_ne hp)]
          exact ⟨hp, isDirAt_iff.mp hparent⟩
        · obtain ⟨hparts, hdir⟩ := fs.valid r hr
          refine ⟨hparts, ?_⟩
          -- nothing lies below `p`, which is no directory
          have habove : r.path.parent ≠ p := by
            intro heq
            have hdir : fs.isDirAt p = true := isDirAt_iff.mpr (heq ▸ hdir)
            rw [hself] at hdir
            cases hdir
          rw [if_neg habove]
          exact hdir }
  else none

/-- `mkdir(parents=True, exist_ok=True)`, from a real path on. -/
def mkdirsFrom (fs : Files β) : AbsPath → List (List Char) → Option (Files β)
  | _, [] => some fs
  | cur, n :: rest =>
      match fs.entryAt (cur.enter n) with
      | some .dir => mkdirsFrom fs (cur.enter n) rest
      | some (.file _) => none
      | some (.link _) =>
          match fs.real (cur.enter n) with
          | some d => if fs.isDirAt d then mkdirsFrom fs d rest else none
          | none => none
      | none =>
          match fs.set? (cur.enter n) .dir with
          | some fs' => mkdirsFrom fs' (cur.enter n) rest
          | none => none

def mkdirs (fs : Files β) (p : AbsPath) : Option (Files β) := fs.mkdirsFrom AbsPath.top p.parts

/-- `(dir / name).symlink_to(target)`: nothing may be there, not even a link that leads
nowhere. -/
def symlinkTo (fs : Files β) (dir : AbsPath) (name : List Char) (target : AbsPath) :
    Option (Files β) :=
  match fs.real dir with
  | some d =>
      match fs.entryAt (d.enter name) with
      | none => fs.set? (d.enter name) (.link target)
      | some _ => none
  | none => none

/-- `path.write_text(…)`: a link is written through. -/
def writeText (fs : Files β) (p : AbsPath) (c : β) : Option (Files β) :=
  match fs.real p with
  | some q => fs.set? q (.file c)
  | none => none

/-- The names in a directory, as `glob` lists them. -/
def names (fs : Files β) (dir : AbsPath) : List (List Char) :=
  fs.table.rows.filterMap (fun r => if r.path.parent = dir then r.path.parts.getLast? else none)

end Files

end PureBoot.Lib
