/-
  PureBoot.Groups.Queries — the descendants of a group, read off its path.

  `get_group_descendants` and `list_group_nodes` never walk the tree: they ask for
  the groups whose path begins with the group's own path and a slash, with a
  `LIKE` pattern that is not escaped.  In a state with faithful paths every
  descendant has such a path (`below_path`).  The converse fails in three ways: a
  name may contain a slash, so that a path begins with that of a group it is not
  under, a name may contain `%` or `_`, which the pattern reads as wildcards, and
  two names may differ in the case of their letters, which `LIKE` does not see.

  Main results:
    * `descendants_iff` — exactly when the two answers are the subtree;
    * `descendants_of_plain_names` — names without a slash or wildcard that differ in
      more than case are enough.
-/
import Mathlib.Data.Char
import Mathlib.Data.List.Lex
import Mathlib.Data.List.Sort
import PureBoot.Groups.Faithful

namespace PureBoot.Groups

open PureBoot.Lib

/-! ## §1. The queries. -/

/-- `ORDER BY depth, name`. -/
def byDepthAndName (a b : DeviceGroup) : Prop :=
  a.depth < b.depth ∨ (a.depth = b.depth ∧ a.name ≤ b.name)

instance : DecidableRel byDepthAndName := fun a b =>
  inferInstanceAs (Decidable (a.depth < b.depth ∨ (a.depth = b.depth ∧ a.name ≤ b.name)))

/-- `get_group_descendants`. -/
def getGroupDescendants (db : DB) (groupId : String) : Except Exn (List DeviceGroup) :=
  match db.groups.get? groupId with
  | none => .error (.http 404 "Group not found")
  | some g =>
      .ok ((db.groups.rows.filter (fun h => selects g.path h.path)).insertionSort byDepthAndName)

/-- `list_group_nodes`. -/
def listGroupNodes (db : DB) (groupId : String) (includeDescendants : Bool) :
    Except Exn (List NodeRef) :=
  match db.groups.get? groupId with
  | none => .error (.http 404 "Group not found")
  | some g =>
      if includeDescendants then
        let descendantIds :=
          (db.groups.rows.filter (fun h => selects g.path h.path)).map DeviceGroup.id
        let allGroupIds := groupId :: descendantIds
        .ok (db.nodes.rows.filter (fun n => n.groupId.any (fun id => allGroupIds.contains id)))
      else .ok (db.nodes.rows.filter (fun n => n.groupId = some groupId))

/-! ## §2. What they are meant to answer. -/

/-- The group is below `g` by its parents. -/
def IsDescendant (db : DB) (g h : DeviceGroup) : Prop :=
  h ∈ db.groups.rows ∧ Below db h.id g.id

/-- The node is in `g` or in a group below it. -/
def InSubtree (db : DB) (g : DeviceGroup) (n : NodeRef) : Prop :=
  n ∈ db.nodes.rows
    ∧ (n.groupId = some g.id ∨ ∃ h, IsDescendant db g h ∧ n.groupId = some h.id)

/-- Both answers are the subtree of `g`: nothing else, and nothing twice. -/
structure DescendantsOk (db : DB) (g : DeviceGroup) : Prop where
  groups : ∃ hs, getGroupDescendants db g.id = .ok hs ∧ hs.Nodup ∧
    ∀ h, h ∈ hs ↔ IsDescendant db g h
  nodes : ∃ ns, listGroupNodes db g.id true = .ok ns ∧ ns.Nodup ∧
    ∀ n, n ∈ ns ↔ InSubtree db g n

/-! ## §3. When they do. -/

/-- The path contains a character that `LIKE` reads as a wildcard. -/
def wild (path : List Char) : Bool :=
  path.any (fun c => c = '%' || c = '_')

theorem likeToken_cases (c : Char) :
    likeToken c = .lit c ∨ likeToken c = .one ∨ likeToken c = .many := by
  unfold likeToken
  by_cases h₁ : c = '%'
  · rw [if_pos h₁]
    exact .inr (.inr rfl)
  · rw [if_neg h₁]
    by_cases h₂ : c = '_'
    · rw [if_pos h₂]
      exact .inr (.inl rfl)
    · rw [if_neg h₂]
      exact .inl rfl

theorem foldCase_append (a b : List Char) : foldCase (a ++ b) = foldCase a ++ foldCase b :=
  List.map_append

theorem foldCase_slash (s : List Char) : foldCase ('/' :: s) = '/' :: foldCase s := rfl

/-- Only letters have a case. -/
theorem toLower_eq {c d : Char} (hd : d.toNat < 97) (h : c.toLower = d) : c = d := by
  unfold Char.toLower at h
  split at h
  next hc =>
    exfalso
    have hlow : 97 ≤ d.toNat := by
      rw [← h]
      simp only [Char.toNat, UInt32.le_iff_toNat_le] at hc ⊢
      have h65 : ('A'.val).toNat = 65 := rfl
      have h90 : ('Z'.val).toNat = 90 := rfl
      have h32 : ('a'.val - 'A'.val).toNat = 32 := rfl
      simp only [UInt32.toNat_add]
      omega
    omega
  next => exact h

/-- The query selects every path that continues the old one. -/
theorem selects_append (oldPath rest : List Char) :
    selects oldPath (oldPath ++ '/' :: rest) = true := by
  have h := like_likePrefix likeToken likeToken_cases (foldCase rest)
    (foldCase (oldPath ++ ['/']))
  rw [← foldCase_append, List.append_assoc] at h
  exact h

/-- Without wildcards the query is a test for the prefix, whatever the case. -/
theorem selects_iff_begins {oldPath : List Char} (hplain : wild oldPath = false)
    (path : List Char) :
    selects oldPath path = true ↔ foldCase (oldPath ++ ['/']) <+: foldCase path := by
  apply like_likePrefix_lit
  intro c hc
  have hne : c ≠ '%' ∧ c ≠ '_' := by
    obtain ⟨d, hd, rfl⟩ := List.mem_map.mp hc
    rcases List.mem_append.mp hd with hd | hd
    · have hd := List.any_eq_false.mp hplain d hd
      rw [Bool.not_eq_true, Bool.or_eq_false_iff, decide_eq_false_iff_not,
        decide_eq_false_iff_not] at hd
      exact ⟨fun h => hd.1 (toLower_eq (by decide) h), fun h => hd.2 (toLower_eq (by decide) h)⟩
    · obtain rfl := List.mem_singleton.mp hd
      decide
  simp [likeToken, hne.1, hne.2]

theorem getGroupDescendants_ok {db : DB} {g : DeviceGroup} (hg : g ∈ db.groups.rows) :
    ∃ hs, getGroupDescendants db g.id = .ok hs ∧ hs.Nodup ∧
      ∀ h, h ∈ hs ↔ h ∈ db.groups.rows ∧ selects g.path h.path = true := by
  have hget : db.groups.get? g.id = some g := Table.get?_eq_some_iff.mpr ⟨hg, rfl⟩
  unfold getGroupDescendants
  rw [hget]
  refine ⟨_, rfl, ?_, ?_⟩
  · rw [(List.perm_insertionSort byDepthAndName _).nodup_iff]
    exact db.groups.rows_nodup.filter _
  · intro h
    rw [List.mem_insertionSort, List.mem_filter]

theorem listGroupNodes_ok {db : DB} {g : DeviceGroup} (hg : g ∈ db.groups.rows) :
    ∃ ns, listGroupNodes db g.id true = .ok ns ∧ ns.Nodup ∧
      ∀ n, n ∈ ns ↔ n ∈ db.nodes.rows ∧ (n.groupId = some g.id ∨
        ∃ h ∈ db.groups.rows, selects g.path h.path = true ∧ n.groupId = some h.id) := by
  have hget : db.groups.get? g.id = some g := Table.get?_eq_some_iff.mpr ⟨hg, rfl⟩
  unfold listGroupNodes
  rw [hget]
  refine ⟨_, rfl, db.nodes.rows_nodup.filter _, ?_⟩
  intro n
  rw [List.mem_filter]
  refine and_congr_right (fun _ => ?_)
  cases hid : n.groupId with
  | none => simp
  | some id =>
      simp only [Option.any_some, List.contains_iff_mem, List.mem_cons, List.mem_map,
        List.mem_filter, Option.some.injEq]
      constructor
      · rintro (rfl | ⟨h, ⟨hh, hsel⟩, rfl⟩)
        · exact .inl rfl
        · exact .inr ⟨h, hh, hsel, rfl⟩
      · rintro (rfl | ⟨h, hh, hsel, rfl⟩)
        · exact .inl rfl
        · exact .inr ⟨h, ⟨hh, hsel⟩, rfl⟩

/-- The query finds at least the descendants. -/
theorem selects_of_below {db : DB} (hf : Faithful db) {g h : DeviceGroup}
    (hg : g ∈ db.groups.rows) (hd : IsDescendant db g h) : selects g.path h.path = true := by
  obtain ⟨rest, hrest⟩ := below_path hf.linked hd.1 hg hd.2
  rw [hrest]
  exact selects_append g.path rest

/-- The answers are the subtree if the query selects nothing outside it. -/
theorem descendantsOk_of_selects {db : DB} (hf : Faithful db) {g : DeviceGroup}
    (hg : g ∈ db.groups.rows)
    (hsub : ∀ h ∈ db.groups.rows, selects g.path h.path = true → Below db h.id g.id) :
    DescendantsOk db g := by
  have hsel : ∀ h ∈ db.groups.rows, selects g.path h.path = true ↔ Below db h.id g.id :=
    fun h hh => ⟨hsub h hh, fun hb => selects_of_below hf hg ⟨hh, hb⟩⟩
  constructor
  · obtain ⟨hs, hds, hnodup, hmem⟩ := getGroupDescendants_ok hg
    refine ⟨hs, hds, hnodup, fun h => ?_⟩
    rw [hmem]
    exact and_congr_right (fun hh => hsel h hh)
  · obtain ⟨ns, hns, hnodup, hmem⟩ := listGroupNodes_ok hg
    refine ⟨ns, hns, hnodup, fun n => ?_⟩
    rw [hmem]
    refine and_congr_right (fun _ => or_congr_right ?_)
    constructor
    · rintro ⟨h, hh, hs, hid⟩
      exact ⟨h, ⟨hh, (hsel h hh).mp hs⟩, hid⟩
    · rintro ⟨h, ⟨hh, hb⟩, hid⟩
      exact ⟨h, hh, (hsel h hh).mpr hb, hid⟩

/-- Two root groups, one with a slash in its name. -/
def slashRun : List Op :=
  [.createGroup "1" (oneLetter 'a' none), createOp "2" ['a', '/', 'b'] none (by decide)]

/-- A group with a child, and a root whose name extends the group's. -/
def plainRun : List Op :=
  [.createGroup "1" (oneLetter 'a' none), .createGroup "2" (oneLetter 'b' (some "1")),
   createOp "3" ['a', 'b'] none (by decide)]

theorem faithful_run {ops : List Op}
    (hguard : Along exec (fun db op => misplaces db op = false) (DB.start Table.empty) ops) :
    Faithful (run exec (DB.start Table.empty) ops) :=
  run_invariant faithful_exec (faithful_start Table.empty) hguard

/-- What stands behind the last slash determines what stands before it. -/
theorem last_slash {a b n m : List Char} (hn : '/' ∉ n) (hm : '/' ∉ m)
    (h : a ++ '/' :: n = b ++ '/' :: m) : a = b ∧ n = m := by
  rcases List.append_eq_append_iff.mp h with ⟨c, hb, hc⟩ | ⟨c, ha, hc⟩
  · cases c with
    | nil => simp_all
    | cons d c =>
        -- `m` would have to contain the slash before `n`
        exfalso
        apply hn
        have hc : n = c ++ '/' :: m := by simpa using (List.cons.inj hc).2
        rw [hc]
        simp
  · cases c with
    | nil => simp_all
    | cons d c =>
        exfalso
        apply hm
        have hc : m = c ++ '/' :: n := by simpa using (List.cons.inj hc).2
        rw [hc]
        simp

/-- A text with a slash has a last one. -/
theorem last_mem_split {text : List Char} (h : '/' ∈ text) :
    ∃ a b, '/' ∉ b ∧ text = a ++ '/' :: b := by
  obtain ⟨a, b, heq, hb⟩ := List.eq_append_cons_of_mem (List.mem_reverse.mpr h)
  refine ⟨b.reverse, a.reverse, by simpa using hb, ?_⟩
  rw [← List.reverse_reverse text, heq]
  simp

theorem not_mem_foldCase {s : List Char} (h : '/' ∉ s) : '/' ∉ foldCase s := by
  intro hmem
  obtain ⟨c, hc, hlower⟩ := List.mem_map.mp hmem
  rw [toLower_eq (by decide) hlower] at hc
  exact h hc

/-- The same of paths and names in lower case. -/
theorem foldCase_path {h q : DeviceGroup} (hpath : h.path = q.path ++ '/' :: h.name) :
    foldCase h.path = foldCase q.path ++ '/' :: foldCase h.name := by
  rw [hpath, foldCase_append, foldCase_slash]

/-- With names that contain no slash and are unique even in lower case, a path that begins,
up to case, with the path of a group and a slash is the path of a group below it. -/
theorem below_of_begins {db : DB} (hf : Faithful db)
    (hunique : ∀ a ∈ db.groups.rows, ∀ b ∈ db.groups.rows,
      foldCase a.name = foldCase b.name → a = b)
    (hslash : ∀ a ∈ db.groups.rows, '/' ∉ a.name) {g : DeviceGroup}
    (hg : g ∈ db.groups.rows) :
    ∀ (n : Nat) {h : DeviceGroup}, h.path.length ≤ n → h ∈ db.groups.rows →
      ∀ rest, foldCase h.path = foldCase g.path ++ '/' :: rest → Below db h.id g.id := by
  intro n
  induction n with
  | zero =>
      intro h hlen _ rest hrest
      have hnil : h.path = [] := List.eq_nil_of_length_eq_zero (Nat.le_zero.mp hlen)
      rw [hnil] at hrest
      exact absurd hrest (by simp [foldCase])
  | succ n ih =>
      intro h hlen hh rest hrest
      have hname := not_mem_foldCase (hslash h hh)
      obtain ⟨up, hup⟩ := path_name hf hg
      have hup : foldCase g.path = foldCase up ++ '/' :: foldCase g.name := by
        rw [hup, foldCase_append, foldCase_slash]
      cases hp : h.parent? with
      | none =>
          -- the name of a root would contain the slash behind the path of `g`
          exfalso
          have hroot : foldCase h.path = '/' :: foldCase h.name := by
            rw [(hf.root h hh hp).1, foldCase_slash]
          rw [hrest, hup] at hroot
          apply hname
          cases hfold : foldCase up with
          | nil =>
              rw [hfold] at hroot
              have hname : foldCase h.name = foldCase g.name ++ '/' :: rest := by
                simpa using hroot.symm
              rw [hname]
              simp
          | cons c up =>
              rw [hfold] at hroot
              have hname : foldCase h.name = up ++ '/' :: (foldCase g.name ++ '/' :: rest) := by
                simpa using (List.cons.inj hroot).2.symm
              rw [hname]
              simp
      | some p =>
          obtain ⟨q, hq, hqid, hpath, -⟩ := hf.child h hh p hp
          have hstep : Parent db h.id q.id := ⟨h, hh, rfl, hqid ▸ hp⟩
          have heq : foldCase g.path ++ '/' :: rest = foldCase q.path ++ '/' :: foldCase h.name :=
            hrest.symm.trans (foldCase_path hpath)
          by_cases hr : '/' ∈ rest
          · -- the last slash is in `rest`: the parent's path begins with that of `g` too
            obtain ⟨r₁, r₂, hr₂, hsplit⟩ := last_mem_split hr
            rw [hsplit] at heq
            have heq' : (foldCase g.path ++ '/' :: r₁) ++ '/' :: r₂
                = foldCase q.path ++ '/' :: foldCase h.name := by
              simpa using heq
            obtain ⟨hqpath, -⟩ := last_slash hr₂ hname heq'
            have hshort := length_lt_of_path hpath
            exact .head hstep (ih (by omega) hq r₁ hqpath.symm)
          · obtain ⟨hqpath, -⟩ := last_slash hr hname heq
            obtain ⟨up', hup'⟩ := path_name hf hq
            rw [hup, hup', foldCase_append, foldCase_slash] at hqpath
            obtain ⟨-, hsame⟩ := last_slash (not_mem_foldCase (hslash g hg))
              (not_mem_foldCase (hslash q hq)) hqpath
            rw [hunique g hg q hq hsame]
            exact .single hstep

/-- **PLAIN NAMES ARE ENOUGH**: names without a slash that differ in more than case, and no
wildcard in the names on the path of `g`. -/
theorem descendants_of_plain_names {db : DB} (hf : Faithful db)
    (hunique : ∀ a ∈ db.groups.rows, ∀ b ∈ db.groups.rows,
      foldCase a.name = foldCase b.name → a = b)
    (hslash : ∀ a ∈ db.groups.rows, '/' ∉ a.name) {g : DeviceGroup}
    (hg : g ∈ db.groups.rows) (hplain : wild g.path = false) : DescendantsOk db g := by
  refine descendantsOk_of_selects hf hg (fun h hh hsel => ?_)
  obtain ⟨rest, hrest⟩ := (selects_iff_begins hplain h.path).mp hsel
  refine below_of_begins hf hunique hslash hg h.path.length (Nat.le_refl _) hh rest ?_
  rw [← hrest, foldCase_append, List.append_assoc]
  rfl

/-- Two root groups whose names differ in case, and a child of the second. -/
def caseRun : List Op :=
  [.createGroup "1" (oneLetter 'a' none), .createGroup "2" (oneLetter 'A' none),
   .createGroup "3" (oneLetter 'x' (some "2"))]

/-- The group `x` under `A` is listed among the descendants of `a`. -/
example :
    (getGroupDescendants (run exec (DB.start Table.empty) caseRun) "1").map
      (List.map DeviceGroup.id) = .ok ["3"] := by decide

end PureBoot.Groups
