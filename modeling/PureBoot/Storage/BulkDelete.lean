/-
  PureBoot.Storage.BulkDelete — deleting SEVERAL paths of an NFS storage at once.

  Embeds `NfsBackendService.delete_files` of `core/storage.py` with `_validate_path`, on a tree
  of files and folders without links.  A path is validated when its turn comes, so that what
  was deleted before a rejected path is gone.  The root passes the validator: it is emptied,
  and removed unless it is a mount point.

  Main results:
    * `MountPoint.validatePath_linkFree`, `MountPoint.deleteFiles_eq` — these are the
      operations of `Storage.Containment` and `Storage.FileApi`;
    * `MountPoint.deleteFiles_plain` — what the paths before a rejected one do;
    * `bulk_delete_iff` — when a bulk delete is all or nothing.
-/
import Mathlib.Data.List.TakeWhile
import PureBoot.Storage.Containment

namespace PureBoot.Storage

open PureBoot.Lib PureBoot.Lib.AbsPath

/-! ## §1. The operation. -/

/-- `_validate_path`; no path has a null character, and without links none is outside. -/
def MountPoint.validatePath (m : MountPoint) (path : Text) : Except StorageExn AbsPath :=
  if hasDots path then .error (.valueError "Path traversal not allowed")
  else if path.contains '\x00' then .error (.valueError "Path outside storage root")
  else .ok (m.root.resolveFrom (lstripSlash path))

/-- `delete_files`; what was deleted before an error stays deleted. -/
def MountPoint.deleteFiles (m : MountPoint) :
    List Text → Nat → Lib.Tree Bytes → Except StorageExn Nat × Lib.Tree Bytes
  | [], deleted, t => (.ok deleted, t)
  | path :: paths, deleted, t =>
      match m.validatePath path with
      | .error e => (.error e, t)
      | .ok target =>
          match t target with
          | none => m.deleteFiles paths deleted t
          | some .dir =>
              -- a mount point is emptied, but it is busy
              if target = m.root ∧ m.mounted = true then
                (.error .osError, Function.update (t.removeAll target) target (some .dir))
              else m.deleteFiles paths (deleted + 1) (t.removeAll target)
          | some (.file _) =>
              match t.unlink target with
              | some t' => m.deleteFiles paths (deleted + 1) t'
              | none => (.error .osError, t)

/-! ## §2. All or nothing. -/

/-- The paths that are named, as far as they are accepted. -/
def MountPoint.named (m : MountPoint) (paths : List Text) : List AbsPath :=
  paths.filterMap (fun path => (m.validatePath path).toOption)

/-- **ALL OR NOTHING, AND NEVER THE ROOT**: after a rejection the tree is as it was; otherwise
what was named is gone with all that is below it, nothing else is, and the root is there. -/
def AllOrNothing (m : MountPoint) (t : Lib.Tree Bytes) (paths : List Text) : Prop :=
  (Rejects (m.deleteFiles paths 0 t).1 → (m.deleteFiles paths 0 t).2 = t)
    ∧ (¬ Rejects (m.deleteFiles paths 0 t).1 →
        (m.deleteFiles paths 0 t).2 = t.without (m.named paths)
          ∧ (m.deleteFiles paths 0 t).2 m.root = some .dir)

/-- The path is accepted, and is not the root. -/
def MountPoint.plain (m : MountPoint) (path : Text) : Bool :=
  match m.validatePath path with
  | .ok target => target ≠ m.root
  | .error _ => false

/-- Either every path is accepted and none is the root, or a path is rejected and those before
the first such path name nothing that is there. -/
def MountPoint.deletesWhole (m : MountPoint) (t : Lib.Tree Bytes) (paths : List Text) : Prop :=
  (∀ path ∈ paths, m.plain path = true)
    ∨ (∃ path ∈ paths, Rejects (m.validatePath path))
      ∧ ∀ p ∈ m.named (paths.takeWhile (fun path => (m.validatePath path).isOk)), t p = none

/-! ## §3. The operations of the other modules. -/

section
variable {m : MountPoint} {path : Text} {target : AbsPath} {t : Lib.Tree Bytes}

theorem MountPoint.validatePath_linkFree {d : Disk} (hlayout : d.layout = Layout.linkFree)
    (m : MountPoint) (path : Text) :
    (d.validatePath m.root.parts path).map d.layout.resolve = m.validatePath path := by
  unfold MountPoint.validatePath
  by_cases hnul : '\x00' ∈ path
  · cases hdots : hasDots path with
    | true =>
        unfold Disk.validatePath
        rw [if_pos hdots]
        rfl
    | false =>
        -- the null character is behind the slashes
        have hstrip : (lstripSlash path).contains '\x00' = true := by
          rw [List.contains_iff_mem]
          rw [← List.takeWhile_append_dropWhile (p := fun c => decide (c = '/')) (l := path),
            List.mem_append] at hnul
          refine hnul.resolve_left (fun hmem => ?_)
          have hslash := List.mem_takeWhile_imp hmem
          revert hslash
          decide
        unfold Disk.validatePath Disk.resolvePath
        rw [if_neg (by simp [hdots]), if_pos hstrip, if_neg Bool.false_ne_true,
          if_pos (by simpa using hnul)]
        rfl
  · rw [Disk.validatePath_linkFree hlayout m.root hnul]
    unfold Storage.validatePath
    rw [if_neg (c := path.contains '\x00' = true) (by simpa using hnul)]

/-- What is accepted lies in the root. -/
theorem MountPoint.validatePath_under (h : m.validatePath path = .ok target) :
    Under m.root target := by
  unfold MountPoint.validatePath at h
  split at h
  next => cases h
  next hdots =>
    split at h
    next => cases h
    next =>
      obtain rfl := Except.ok.inj h
      have hunder := under_join_lstripSlash (p := m.root) (Bool.eq_false_of_not_eq_true hdots)
      unfold AbsPath.join at hunder
      rwa [if_neg (head?_lstripSlash path)] at hunder

/-- What is not accepted is rejected. -/
theorem MountPoint.rejects_of_error {e : StorageExn} (h : m.validatePath path = .error e) :
    Rejects (m.validatePath path) := by
  unfold MountPoint.validatePath at h ⊢
  split at h
  next hdots =>
    rw [if_pos hdots]
    exact ⟨_, rfl⟩
  next hdots =>
    split at h
    next hnul =>
      rw [if_neg hdots, if_pos hnul]
      exact ⟨_, rfl⟩
    next => cases h

theorem MountPoint.deleteFiles_eq :
    ∀ (paths : List Text) (deleted : Nat) (t : Lib.Tree Bytes),
      (∀ path ∈ paths, '\x00' ∉ path) →
      m.deleteFiles paths deleted t = nfsDeleteFiles m paths deleted t := by
  intro paths
  induction paths with
  | nil => exact fun _ _ _ => rfl
  | cons path paths ih =>
      intro deleted t hnul
      have hvalid : m.validatePath path = Storage.validatePath m.root path := by
        unfold MountPoint.validatePath Storage.validatePath
        rw [if_neg (c := path.contains '\x00' = true)
          (by simpa using hnul path List.mem_cons_self)]
      have hrest := fun deleted t => ih deleted t (fun p hp => hnul p (List.mem_cons_of_mem _ hp))
      unfold MountPoint.deleteFiles nfsDeleteFiles
      rw [hvalid]
      cases hpath : Storage.validatePath m.root path with
      | error e => rfl
      | ok target =>
          dsimp only
          cases htarget : t target with
          | none => exact hrest deleted t
          | some item =>
              cases item with
              | dir =>
                  dsimp only
                  rw [hrest]
              | file content =>
                  dsimp only
                  cases t.unlink target with
                  | none => rfl
                  | some t' => exact hrest _ t'

end

/-! ## §4. The loop. -/

section
variable {m : MountPoint} {path : Text} {target : AbsPath} {t : Lib.Tree Bytes}

/-- One path that is accepted, unless it is the mount point. -/
theorem MountPoint.deleteFiles_cons (ht : t.Closed) (hpath : m.validatePath path = .ok target)
    (hroot : ¬ (target = m.root ∧ m.mounted = true)) (paths : List Text) (deleted : Nat) :
    ∃ deleted', m.deleteFiles (path :: paths) deleted t
      = m.deleteFiles paths deleted' (t.removeAll target) := by
  rw [MountPoint.deleteFiles, hpath]
  dsimp only
  cases htarget : t target with
  | none =>
      rw [ht.removeAll_of_none htarget]
      exact ⟨deleted, rfl⟩
  | some item =>
      cases item with
      | dir =>
          dsimp only
          rw [if_neg hroot]
          exact ⟨deleted + 1, rfl⟩
      | file content =>
          dsimp only
          rw [ht.unlink_eq htarget]
          exact ⟨deleted + 1, rfl⟩

theorem MountPoint.plain_iff :
    m.plain path = true ↔ ∃ target, m.validatePath path = .ok target ∧ target ≠ m.root := by
  unfold MountPoint.plain
  cases m.validatePath path with
  | error e =>
      refine iff_of_false Bool.false_ne_true ?_
      rintro ⟨_, h, -⟩
      cases h
  | ok target =>
      dsimp only
      rw [decide_eq_true_eq]
      constructor
      · intro h
        exact ⟨target, rfl, h⟩
      · rintro ⟨_, heq, h⟩
        obtain rfl := Except.ok.inj heq
        exact h

theorem MountPoint.named_cons (hpath : m.validatePath path = .ok target) (paths : List Text) :
    m.named (path :: paths) = target :: m.named paths := by
  unfold MountPoint.named
  rw [List.filterMap_cons, hpath]
  rfl

/-- **WHAT PLAIN PATHS DO**: they leave out what they name. -/
theorem MountPoint.deleteFiles_plain (paths : List Text) :
    ∀ {plain : List Text} {t : Lib.Tree Bytes} (deleted : Nat), t.Closed →
      (∀ path ∈ plain, m.plain path = true) →
      ∃ deleted', m.deleteFiles (plain ++ paths) deleted t
        = m.deleteFiles paths deleted' (t.without (m.named plain)) := by
  intro plain
  induction plain with
  | nil =>
      intro t deleted _ _
      show ∃ deleted', m.deleteFiles paths deleted t = m.deleteFiles paths deleted' (t.without [])
      rw [Tree.without_nil]
      exact ⟨deleted, rfl⟩
  | cons path plain ih =>
      intro t deleted ht hplain
      obtain ⟨target, hpath, hroot⟩ := MountPoint.plain_iff.mp (hplain path List.mem_cons_self)
      obtain ⟨deleted', hcons⟩ := MountPoint.deleteFiles_cons ht hpath (fun h => hroot h.1)
        (plain ++ paths) deleted
      obtain ⟨deleted'', hrest⟩ := ih deleted' (ht.removeAll target)
        (fun p hp => hplain p (List.mem_cons_of_mem path hp))
      rw [MountPoint.named_cons hpath, Tree.without_cons]
      exact ⟨deleted'', hcons.trans hrest⟩

/-- What is gone does not come back. -/
theorem MountPoint.deleteFiles_none {q : AbsPath} :
    ∀ {paths : List Text} {deleted : Nat} {t : Lib.Tree Bytes}, t q = none →
      (m.deleteFiles paths deleted t).2 q = none := by
  intro paths
  induction paths with
  | nil => exact fun h => h
  | cons path paths ih =>
      intro deleted t hq
      unfold MountPoint.deleteFiles
      cases m.validatePath path with
      | error e => exact hq
      | ok target =>
          dsimp only
          cases htarget : t target with
          | none => exact ih hq
          | some item =>
              have hne : q ≠ target := by
                rintro rfl
                rw [hq] at htarget
                cases htarget
              cases item with
              | dir =>
                  dsimp only
                  split
                  next =>
                    -- only the mount point itself is there again
                    show Function.update (t.removeAll target) target (some .dir) q = none
                    rw [Function.update_of_ne hne]
                    exact Tree.removeAll_none hq target
                  next => exact ih (Tree.removeAll_none hq target)
              | file content =>
                  dsimp only
                  rw [Tree.unlink_of htarget]
                  refine ih ?_
                  rw [Function.update_of_ne hne]
                  exact hq

/-- No rejection comes after the root: it is emptied, or it is gone. -/
theorem MountPoint.deleteFiles_root (ht : t.Closed) (hdir : t m.root = some .dir)
    (hpath : m.validatePath path = .ok m.root) (paths : List Text) (deleted : Nat) :
    ¬ Rejects (m.deleteFiles (path :: paths) deleted t).1
      ∨ (m.deleteFiles (path :: paths) deleted t).2 m.root = none := by
  by_cases hmounted : m.mounted = true
  · -- `rmtree` fails at the mount point, with another exception
    left
    rintro ⟨text, herror⟩
    rw [MountPoint.deleteFiles, hpath] at herror
    dsimp only at herror
    rw [hdir] at herror
    dsimp only at herror
    rw [if_pos ⟨rfl, hmounted⟩] at herror
    cases herror
  · -- nothing brings the root back
    right
    obtain ⟨deleted', hcons⟩ := MountPoint.deleteFiles_cons ht hpath (fun h => hmounted h.2)
      paths deleted
    rw [hcons]
    exact MountPoint.deleteFiles_none (if_pos (under_refl m.root))

/-- A list of paths up to the first that is not plain. -/
theorem MountPoint.plain_split (m : MountPoint) (paths : List Text) :
    (∀ path ∈ paths, m.plain path = true)
      ∨ ∃ plain stop rest, paths = plain ++ stop :: rest
          ∧ (∀ path ∈ plain, m.plain path = true) ∧ m.plain stop = false := by
  induction paths with
  | nil => exact .inl (fun _ h => absurd h List.not_mem_nil)
  | cons path paths ih =>
      cases hpath : m.plain path with
      | false => exact .inr ⟨[], path, paths, rfl, fun _ h => absurd h List.not_mem_nil, hpath⟩
      | true =>
          rcases ih with hall | ⟨plain, stop, rest, rfl, hplain, hstop⟩
          · exact .inl (List.forall_mem_cons.mpr ⟨hpath, hall⟩)
          · exact .inr ⟨path :: plain, stop, rest, rfl, List.forall_mem_cons.mpr ⟨hpath, hplain⟩,
              hstop⟩

/-- What plain paths name is not the root. -/
theorem MountPoint.without_root {plain : List Text}
    (hplain : ∀ path ∈ plain, m.plain path = true) :
    t.without (m.named plain) m.root = t m.root := by
  refine if_neg ?_
  rintro ⟨target, hnamed, hunder⟩
  obtain ⟨path, hmem, htarget⟩ := List.mem_filterMap.mp hnamed
  have hpath := toOption_eq_some_iff.mp htarget
  obtain ⟨target', hpath', hne⟩ := MountPoint.plain_iff.mp (hplain path hmem)
  obtain rfl : target = target' := Except.ok.inj (hpath.symm.trans hpath')
  exact hne (hunder.antisymm (MountPoint.validatePath_under hpath))

theorem MountPoint.isOk_of_plain (h : m.plain path = true) :
    (m.validatePath path).isOk = true := by
  obtain ⟨target, hpath, -⟩ := MountPoint.plain_iff.mp h
  rw [hpath]
  rfl

/-- A rejected path behind plain ones. -/
theorem allOrNothing_rejected {plain rest : List Text} {stop : Text} {e : StorageExn}
    (ht : t.Closed) (hplain : ∀ path ∈ plain, m.plain path = true)
    (hstop : m.validatePath stop = .error e) :
    AllOrNothing m t (plain ++ stop :: rest) ↔ ∀ p ∈ m.named plain, t p = none := by
  obtain ⟨deleted', hrun⟩ := MountPoint.deleteFiles_plain (stop :: rest) 0 ht hplain
  rw [MountPoint.deleteFiles, hstop] at hrun
  obtain ⟨text, herror⟩ := MountPoint.rejects_of_error hstop
  rw [hstop] at herror
  obtain rfl := Except.error.inj herror
  have hrejects : Rejects (m.deleteFiles (plain ++ stop :: rest) 0 t).1 := by
    rw [hrun]
    exact ⟨text, rfl⟩
  rw [← ht.without_eq_iff]
  unfold AllOrNothing
  rw [and_iff_left (fun hno => absurd hrejects hno), imp_iff_right hrejects, hrun]

/-- The root behind plain paths. -/
theorem not_allOrNothing_root {plain rest : List Text} {stop : Text}
    (ht : t.Closed) (hdir : t m.root = some .dir)
    (hplain : ∀ path ∈ plain, m.plain path = true) (hstop : m.validatePath stop = .ok m.root) :
    ¬ AllOrNothing m t (plain ++ stop :: rest) := by
  rintro ⟨hreject, hdelete⟩
  obtain ⟨deleted', hrun⟩ := MountPoint.deleteFiles_plain (stop :: rest) 0 ht hplain
  have hstill : t.without (m.named plain) m.root = some .dir :=
    (MountPoint.without_root hplain).trans hdir
  have hroot := MountPoint.deleteFiles_root (ht.without _) hstill hstop rest deleted'
  rw [← hrun] at hroot
  by_cases hrejects : Rejects (m.deleteFiles (plain ++ stop :: rest) 0 t).1
  · -- a later path was rejected, and the tree should be as it was
    have hnone := hroot.resolve_left (fun h => h hrejects)
    rw [hreject hrejects, hdir] at hnone
    cases hnone
  · -- what is named should be gone, and the root should not
    obtain ⟨htree, hthere⟩ := hdelete hrejects
    have hnamed : m.root ∈ m.named (plain ++ stop :: rest) :=
      List.mem_filterMap.mpr ⟨stop, List.mem_append_right _ List.mem_cons_self, by rw [hstop]; rfl⟩
    have hnone : t.without (m.named (plain ++ stop :: rest)) m.root = none :=
      if_pos ⟨m.root, hnamed, under_refl m.root⟩
    rw [htree, hnone] at hthere
    cases hthere

/-- **A BULK DELETE IS ALL OR NOTHING** exactly if every path is accepted and none is the root,
or a path is rejected and those before it name nothing that is there: for every tree with the
root in it, and every list of paths. -/
theorem bulk_delete_iff (m : MountPoint) {t : Lib.Tree Bytes} (ht : t.Closed)
    (hdir : t m.root = some .dir) (paths : List Text) :
    AllOrNothing m t paths ↔ m.deletesWhole t paths := by
  rcases m.plain_split paths with hall | ⟨plain, stop, rest, rfl, hplain, hstop⟩
  · -- every path is plain
    refine iff_of_true ?_ (.inl hall)
    obtain ⟨deleted', hrun⟩ := MountPoint.deleteFiles_plain [] 0 ht hall
    rw [List.append_nil] at hrun
    have hresult : m.deleteFiles paths 0 t = (.ok deleted', t.without (m.named paths)) := hrun
    unfold AllOrNothing
    rw [hresult]
    refine ⟨?_, fun _ => ⟨rfl, (MountPoint.without_root hall).trans hdir⟩⟩
    rintro ⟨text, herror⟩
    cases herror
  · have hsome : ¬ ∀ path ∈ plain ++ stop :: rest, m.plain path = true := by
      intro hall
      rw [hall stop (List.mem_append_right _ List.mem_cons_self)] at hstop
      cases hstop
    have hbefore : ∀ path ∈ plain, (m.validatePath path).isOk = true :=
      fun path hmem => MountPoint.isOk_of_plain (hplain path hmem)
    unfold MountPoint.deletesWhole
    rw [or_iff_right hsome]
    cases hpath : m.validatePath stop with
    | error e =>
        have hreject : ∃ path ∈ plain ++ stop :: rest, Rejects (m.validatePath path) :=
          ⟨stop, List.mem_append_right _ List.mem_cons_self, MountPoint.rejects_of_error hpath⟩
        have htake : (plain ++ stop :: rest).takeWhile (fun path => (m.validatePath path).isOk)
            = plain := by
          rw [List.takeWhile_append_of_pos hbefore, List.takeWhile_cons_of_neg, List.append_nil]
          rw [hpath]
          exact Bool.false_ne_true
        rw [and_iff_right hreject, htake]
        exact allOrNothing_rejected ht hplain hpath
    | ok target =>
        -- it is accepted, so it is the root, which is there
        have htarget : target = m.root := by
          by_contra hne
          rw [MountPoint.plain_iff.mpr ⟨target, hpath, hne⟩] at hstop
          cases hstop
        rw [htarget] at hpath
        refine iff_of_false (not_allOrNothing_root ht hdir hplain hpath) ?_
        rintro ⟨-, hnone⟩
        have htake : stop ∈ (plain ++ stop :: rest).takeWhile
            (fun path => (m.validatePath path).isOk) := by
          rw [List.takeWhile_append_of_pos hbefore, List.takeWhile_cons_of_pos]
          · exact List.mem_append_right _ List.mem_cons_self
          · rw [hpath]
            rfl
        have hnamed := hnone m.root
          (List.mem_filterMap.mpr ⟨stop, htake, by rw [hpath]; rfl⟩)
        rw [hdir] at hnamed
        cases hnamed

end

/-! ## §5. A storage with one file. -/

theorem isName_srv : ∀ n ∈ ["srv".toList], isName n = true := by decide

/-- `/srv`, which is mounted. -/
def srvMount : MountPoint := ⟨⟨["srv".toList], isName_srv⟩, true⟩

/-- `/srv/boot.img`, and the directories above it. -/
def bootImage : Lib.Tree Bytes := fun q =>
  if q.parts = ["srv".toList, "boot.img".toList] then some (.file [1])
  else if Under q srvMount.root then some .dir else none

theorem bootImage_closed : bootImage.Closed := by
  intro p q hinside hthere
  have hdir : Under p srvMount.root → p.parts ≠ ["srv".toList, "boot.img".toList] := by
    intro hunder hp
    have hlength := hunder.length_le
    rw [hp] at hlength
    revert hlength
    decide
  have hunder : Under p srvMount.root := by
    unfold bootImage at hthere
    split at hthere
    next hq =>
      have hparent : p.parts <+: q.parts.dropLast := hinside.parent
      rw [hq] at hparent
      exact hparent
    next =>
      split at hthere
      next hq => exact hinside.1.trans hq
      next => exact absurd rfl hthere
  unfold bootImage
  rw [if_neg (hdir hunder), if_pos hunder]

/-- A file under two spellings, and one that is not there. -/
theorem bulk_delete_iff_spellings :
    AllOrNothing srvMount bootImage ["/boot.img".toList, "//./boot.img".toList, "/old".toList] :=
  (bulk_delete_iff srvMount bootImage_closed (by decide +kernel) _).mpr (.inl (by decide +kernel))

/-- A rejected path behind the file, which is gone; and the root, which is emptied. -/
theorem bulk_delete_rejected :
    Rejects (srvMount.deleteFiles ["/boot.img".toList, "/a\x00".toList] 0 bootImage).1
      ∧ ¬ AllOrNothing srvMount bootImage ["/boot.img".toList, "/a\x00".toList]
      ∧ ¬ AllOrNothing srvMount bootImage ["/".toList] := by
  have hrejects :
      Rejects (srvMount.deleteFiles ["/boot.img".toList, "/a\x00".toList] 0 bootImage).1 :=
    ⟨"Path outside storage root", by rfl⟩
  refine ⟨hrejects, fun hwhole => ?_, fun hwhole => ?_⟩
  · have htree := congrFun (hwhole.1 hrejects) ⟨["srv".toList, "boot.img".toList], by decide⟩
    revert htree
    decide +kernel
  · have hbusy : (srvMount.deleteFiles ["/".toList] 0 bootImage).1 = .error .osError := by rfl
    have hno : ¬ Rejects (srvMount.deleteFiles ["/".toList] 0 bootImage).1 := by
      rw [hbusy]
      rintro ⟨text, herror⟩
      cases herror
    obtain ⟨htree, hthere⟩ := hwhole.2 hno
    rw [htree] at hthere
    revert hthere
    decide +kernel

end PureBoot.Storage
