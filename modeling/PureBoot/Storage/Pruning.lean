/-
  PureBoot.Storage.Pruning — the VERSIONS that a sync job leaves in its destination directory.

  Embeds what `_execute_sync` of `core/sync.py` does there: the version directory that it
  makes, named by the time, and `_prune_versions` after a run that succeeded.  rsync writes
  inside the version directory.  All directories are pruned alike, whatever their names say:
  one that is no version takes the place of a version, or is removed.  A link to a directory
  counts for a directory, and `shutil.rmtree` refuses it, which ends the pruning.

  Main results:
    * `strftime_lt_iff` — the names of versions are ordered as text like their times;
    * `prune_rows` — what is left;
    * `pruning_iff` — the directories in which the newest versions and all else are kept.
-/
import PureBoot.Lib.Ranked
import PureBoot.Lib.Retention
import PureBoot.Lib.Table
import PureBoot.Lib.TimeText

namespace PureBoot.Storage

open PureBoot.Lib

/-! ## §1. The directory. -/

/-- What an entry is; a link to something else counts for a file. -/
inductive EntryKind where
  | dir
  | dirLink
  | file
  deriving DecidableEq, Repr

structure DirEntry where
  name : List Char
  kind : EntryKind
  deriving DecidableEq, Repr

abbrev Directory := Table DirEntry.name

/-- `d.is_dir()`, which follows links. -/
def DirEntry.isDir (e : DirEntry) : Bool := e.kind ≠ .file

/-- A link to a directory. -/
def DirEntry.isLink (e : DirEntry) : Bool := e.kind = .dirLink

/-- `%Y-%m-%dT%H:%M:%S`. -/
def timestampFormat : List Field :=
  [⟨4, ['-']⟩, ⟨2, ['-']⟩, ⟨2, ['T']⟩, ⟨2, [':']⟩, ⟨2, [':']⟩, ⟨2, []⟩]

/-- What `datetime.utcnow()` reads, in whole seconds: the clock starts in 1970. -/
abbrev UtcTime := { t : Moment // 1970 ≤ t.year }

/-- `strftime("%Y-%m-%dT%H:%M:%S")`. -/
def strftime (t : UtcTime) : List Char := spell timestampFormat t.val.fields

/-! ## §2. A run. -/

/-- `dest_path.mkdir(parents=True, exist_ok=True)`; a file of that name is an error. -/
def makeVersionDir (content : Directory) (now : UtcTime) : Option Directory :=
  match content.get? (strftime now) with
  | none => content.insert? ⟨strftime now, .dir⟩
  | some e => if e.isDir then some content else none

/-- `sorted([d for d in base_path.iterdir() if d.is_dir()], key=name, reverse=True)`. -/
def directories (content : Directory) : List DirEntry :=
  (content.rows.filter DirEntry.isDir).mergeSort (fun a b => b.name ≤ a.name)

/-- The loop of `_prune_versions`: `shutil.rmtree` of one after the other. -/
def removeDirs (content : Directory) : List DirEntry → Directory
  | [] => content
  | oldDir :: dirs =>
      if oldDir.isLink then content
      else removeDirs (content.delete (fun e => e.name = oldDir.name)) dirs

/-- `_prune_versions`. -/
def pruneVersions (content : Directory) (keepVersions : Nat) : Directory :=
  if keepVersions = 0 then content
  else removeDirs content ((directories content).drop keepVersions)

/-- `_execute_sync`, as far as the destination directory goes: whether the run succeeds, and
what the directory holds afterwards. -/
def executeSync (keepVersions : Nat) (now : UtcTime) (returncode : Int) (content : Directory) :
    Bool × Directory :=
  match makeVersionDir content now with
  | none => (false, content)
  | some content =>
      if returncode = 0 then (true, pruneVersions content keepVersions) else (false, content)

/-! ## §3. Names. -/

/-- **TEXT ORDER IS TIME ORDER**, for the names of versions. -/
theorem strftime_lt_iff {s t : UtcTime} : strftime s < strftime t ↔ s.val < t.val :=
  spell_lt_iff s.val.fits_fields t.val.fits_fields

theorem length_strftime (t : UtcTime) : (strftime t).length = 19 :=
  length_spell t.val.fits_fields

/-- A name that a run gives to its version. -/
def IsVersion (name : List Char) : Prop := ∃ t : UtcTime, name = strftime t

/-! ## §4. The law. -/

section Law

open scoped Classical in
/-- A version directory, among directories. -/
noncomputable def isVersionDir (e : DirEntry) : Bool := decide (IsVersion e.name)

theorem isVersionDir_iff {e : DirEntry} : isVersionDir e = true ↔ IsVersion e.name := by
  simp [isVersionDir]

/-- The directories, in no order. -/
def dirs (content : Directory) : List DirEntry := content.rows.filter DirEntry.isDir

/-- **THE NEWEST VERSIONS ARE KEPT**, that of the run among them, and all other directories. -/
structure KeepsNewest (k : Nat) (now : UtcTime) (before after : Directory) : Prop where
  written : ∃ e ∈ dirs after, e.name = strftime now
  others : ∀ e ∈ dirs before, ¬ IsVersion e.name → e ∈ dirs after
  number : ((dirs after).filter isVersionDir).length
    = min k ((dirs before).filter isVersionDir).length
  newest : ∀ v ∈ dirs after, ∀ w ∈ dirs before, w ∉ dirs after →
    ∀ s t, v.name = strftime s → w.name = strftime t → t.val < s.val

/-- No version is later than the run. -/
def NoneLater (now : UtcTime) (content : Directory) : Prop :=
  ∀ e ∈ dirs content, ∀ t, e.name = strftime t → ¬ now.val < t.val

/-- By their names, directories are removed that are versions and old enough. -/
def Spared (k : Nat) (before : Directory) : Prop :=
  Positioned DirEntry.name isVersionDir DirEntry.isLink k (dirs before)

end Law

/-! ## §5. What is left. -/

variable {content before after : Directory} {k : Nat} {now : UtcTime}

theorem directories_perm (content : Directory) : (directories content).Perm (dirs content) :=
  List.mergeSort_perm _ _

/-- Names are pairwise different, so their order is strict. -/
theorem directories_descending (content : Directory) :
    Descending DirEntry.name (directories content) := by
  have hsorted : (directories content).Pairwise (fun a b => b.name ≤ a.name) :=
    (ordered_mergeSort DirEntry.name (dirs content)).sorted
  have hnodup : ((directories content).map DirEntry.name).Nodup :=
    ((directories_perm content).map _).nodup_iff.mpr
      (content.nodup.sublist (List.filter_sublist.map _))
  refine (hsorted.and (List.pairwise_map.mp hnodup)).imp (fun h => ?_)
  exact lt_of_le_of_ne h.1 (fun heq => h.2 heq.symm)

/-- The loop ends at the first link. -/
theorem removeDirs_rows (content : Directory) (l : List DirEntry) :
    (removeDirs content l).rows = content.rows.filter (fun e =>
      e.name ∉ (l.takeWhile (fun d => !d.isLink)).map DirEntry.name) := by
  induction l generalizing content with
  | nil => exact (List.filter_eq_self.mpr (fun _ _ => by simp)).symm
  | cons d l ih =>
      unfold removeDirs
      cases hlink : d.isLink with
      | true =>
          rw [if_pos rfl, List.takeWhile_cons_of_neg (by simp [hlink])]
          exact (List.filter_eq_self.mpr (fun _ _ => by simp)).symm
      | false =>
          rw [if_neg Bool.false_ne_true, ih, List.takeWhile_cons_of_pos (by simp [hlink])]
          show (content.rows.filter _).filter _ = _
          rw [List.filter_filter]
          refine List.filter_congr (fun e _ => ?_)
          rw [Bool.eq_iff_iff]
          simp only [List.map_cons, List.mem_cons, Bool.and_eq_true, decide_eq_true_eq,
            Bool.not_eq_true', decide_eq_false_iff_not]
          tauto

/-- **WHAT IS LEFT** of the directories. -/
theorem prune_dirs (hk : 1 ≤ k) (before : Directory) :
    dirs (pruneVersions before k)
      = without (dirs before) (removal DirEntry.isLink k (directories before)) := by
  have hne : k ≠ 0 := Nat.one_le_iff_ne_zero.mp hk
  unfold pruneVersions dirs without
  rw [if_neg hne, removeDirs_rows, List.filter_filter, List.filter_filter]
  refine List.filter_congr (fun e he => ?_)
  have hmem : e.name ∈ (removal DirEntry.isLink k (directories before)).map DirEntry.name ↔
      e ∈ removal DirEntry.isLink k (directories before) := by
    rw [List.mem_map]
    constructor
    · rintro ⟨d, hd, hname⟩
      have hrow := (directories_perm before).mem_iff.mp (removal_sublist.subset hd)
      rwa [← before.eq_of_key_eq (List.mem_filter.mp hrow).1 he hname]
    · intro h
      exact ⟨e, h, rfl⟩
  rw [Bool.and_comm]
  congr 1
  exact decide_eq_decide.mpr (not_congr hmem)

/-- In no order: what is left, and what there was. -/
theorem left_perm (hk : 1 ≤ k) (before : Directory) :
    (without (directories before) (removal DirEntry.isLink k (directories before))).Perm
      (dirs (pruneVersions before k)) := by
  rw [prune_dirs hk]
  exact (directories_perm before).filter _

/-- What is kept, said of the directories in the order of their names. -/
theorem KeepsNewest.retains (hk : 1 ≤ k) (h : KeepsNewest k now before (pruneVersions before k)) :
    Retains DirEntry.name isVersionDir k (directories before)
      (without (directories before) (removal DirEntry.isLink k (directories before))) := by
  have hleft := left_perm hk before
  have hall := directories_perm before
  refine ⟨fun e he hbad => ?_, ?_, fun v hv w hw hgone hgv hgw => ?_⟩
  · refine hleft.mem_iff.mpr (h.others e (hall.mem_iff.mp he) (fun hversion => ?_))
    rw [isVersionDir_iff.mpr hversion] at hbad
    cases hbad
  · rw [(hleft.filter _).length_eq, (hall.filter _).length_eq]
    exact h.number
  · obtain ⟨s, hs⟩ := isVersionDir_iff.mp hgv
    obtain ⟨t, ht⟩ := isVersionDir_iff.mp hgw
    rw [hs, ht, strftime_lt_iff]
    exact h.newest v (hleft.mem_iff.mp hv) w (hall.mem_iff.mp hw)
      (fun hw' => hgone (hleft.mem_iff.mpr hw')) s t hs ht

/-- The version of the run is the newest one, so it is kept if the newest are. -/
theorem keepsNewest_of_retains (hk : 1 ≤ k) (hnone : NoneLater now before)
    (hwritten : ∃ e ∈ dirs before, e.name = strftime now)
    (h : Retains DirEntry.name isVersionDir k (directories before)
      (without (directories before) (removal DirEntry.isLink k (directories before)))) :
    KeepsNewest k now before (pruneVersions before k) := by
  have hleft := left_perm hk before
  have hall := directories_perm before
  have hnumber : ((dirs (pruneVersions before k)).filter isVersionDir).length
      = min k ((dirs before).filter isVersionDir).length := by
    rw [← (hleft.filter _).length_eq, ← (hall.filter _).length_eq]
    exact h.number
  have hnewest : ∀ v ∈ dirs (pruneVersions before k), ∀ w ∈ dirs before,
      w ∉ dirs (pruneVersions before k) →
      ∀ s t, v.name = strftime s → w.name = strftime t → t.val < s.val := by
    intro v hv w hw hgone s t hs ht
    have hlt := h.greatest v (hleft.mem_iff.mpr hv) w (hall.mem_iff.mpr hw)
      (fun hw' => hgone (hleft.mem_iff.mp hw')) (isVersionDir_iff.mpr ⟨s, hs⟩)
      (isVersionDir_iff.mpr ⟨t, ht⟩)
    rwa [hs, ht, strftime_lt_iff] at hlt
  refine ⟨?_, fun e he hbad => ?_, hnumber, hnewest⟩
  · obtain ⟨e, he, hname⟩ := hwritten
    by_cases hkept : e ∈ dirs (pruneVersions before k)
    · exact ⟨e, hkept, hname⟩
    · have hpos : 0 < ((dirs (pruneVersions before k)).filter isVersionDir).length := by
        have hmem : e ∈ (dirs before).filter isVersionDir :=
          List.mem_filter.mpr ⟨he, isVersionDir_iff.mpr ⟨now, hname⟩⟩
        have hsome := List.length_pos_of_mem hmem
        omega
      obtain ⟨v, hv⟩ := List.exists_mem_of_length_pos hpos
      obtain ⟨hv, hgv⟩ := List.mem_filter.mp hv
      obtain ⟨s, hs⟩ := isVersionDir_iff.mp hgv
      have hlater := hnewest v hv e he hkept s now hs hname
      rw [prune_dirs hk] at hv
      exact absurd hlater (hnone v (mem_without.mp hv).1 s hs)
  · refine hleft.mem_iff.mp (h.others e (hall.mem_iff.mpr he) ?_)
    rw [Bool.eq_false_iff]
    exact fun hgood => hbad (isVersionDir_iff.mp hgood)

/-- **WHEN PRUNING DOES WHAT IT IS FOR**, in a directory with the version of the run. -/
theorem keepsNewest_iff (hk : 1 ≤ k) (hnone : NoneLater now before)
    (hwritten : ∃ e ∈ dirs before, e.name = strftime now) :
    KeepsNewest k now before (pruneVersions before k) ↔ Spared k before := by
  have hdesc := directories_descending before
  have hretains : Retains DirEntry.name isVersionDir k (directories before)
      (without (directories before) (removal DirEntry.isLink k (directories before)))
        ↔ Spared k before := by
    rw [retains_iff hdesc removal_sublist, removal_iff hdesc,
      positioned_perm (directories_perm before)]
    rfl
  constructor
  · intro h
    exact hretains.mp (h.retains hk)
  · intro h
    exact keepsNewest_of_retains hk hnone hwritten (hretains.mpr h)

/-- Without links: at most `k` directories, or none but versions. -/
theorem spared_iff_of_no_link (hlink : ∀ e ∈ dirs before, e.isLink = false) :
    Spared k before ↔ (dirs before).length ≤ k ∨ ∀ e ∈ dirs before, IsVersion e.name := by
  have hperm := directories_perm before
  unfold Spared
  rw [← positioned_perm hperm, positioned_iff_of_free (directories_descending before)
    (fun e he => hlink e (hperm.mem_iff.mp he)), hperm.length_eq]
  simp only [hperm.mem_iff, isVersionDir_iff]

/-! ## §6. Runs. -/

theorem makeVersionDir_written (h : makeVersionDir content now = some before) :
    (∃ e ∈ dirs before, e.name = strftime now) ∧
      ∀ e ∈ dirs before, e.name = strftime now ∨ e ∈ dirs content := by
  unfold makeVersionDir at h
  split at h
  next =>
    obtain ⟨-, hrows⟩ := Table.insert?_eq_some_iff.mp h
    unfold dirs
    rw [hrows, List.filter_append]
    constructor
    · exact ⟨_, List.mem_append_right _ (List.mem_cons_self), rfl⟩
    · intro e he
      rcases List.mem_append.mp he with he | he
      · exact .inr he
      · rw [List.mem_singleton.mp (List.mem_filter.mp he).1]
        exact .inl rfl
  next e hget =>
    split at h
    next hdir =>
      obtain rfl := Option.some.inj h
      obtain ⟨hmem, hname⟩ := Table.get?_eq_some_iff.mp hget
      exact ⟨⟨e, List.mem_filter.mpr ⟨hmem, hdir⟩, hname⟩, fun e he => .inr he⟩
    next => cases h

theorem makeVersionDir_noneLater (hearlier : NoneLater now content)
    (h : makeVersionDir content now = some before) : NoneLater now before := by
  intro e he t ht hlt
  rcases (makeVersionDir_written h).2 e he with hname | he
  · rw [hname] at ht
    exact absurd (strftime_lt_iff.mpr hlt) (by rw [ht]; exact lt_irrefl _)
  · exact hearlier e he t ht hlt

/-- What a run that succeeds has done. -/
theorem executeSync_succeeds {returncode : Int}
    (h : executeSync k now returncode content = (true, after)) :
    ∃ before, makeVersionDir content now = some before ∧ after = pruneVersions before k := by
  unfold executeSync at h
  split at h
  next => cases (Prod.mk.inj h).1
  next before hmake =>
    split at h
    next => exact ⟨before, hmake, (Prod.mk.inj h).2.symm⟩
    next => cases (Prod.mk.inj h).1

/-- **PRUNING AFTER A RUN** keeps the newest versions and all other directories exactly if,
by their names, none is removed but old versions. -/
theorem pruning_iff (hk : 1 ≤ k) (hearlier : NoneLater now content) {returncode : Int}
    (hrun : executeSync k now returncode content = (true, after))
    (hmake : makeVersionDir content now = some before) :
    KeepsNewest k now before after ↔ Spared k before := by
  obtain ⟨before', hmake', rfl⟩ := executeSync_succeeds hrun
  obtain rfl := Option.some.inj (hmake'.symm.trans hmake)
  exact keepsNewest_iff hk (makeVersionDir_noneLater hearlier hmake)
    (makeVersionDir_written hmake).1

theorem makeVersionDir_new (content : Directory) (now : UtcTime)
    (h : ∀ e ∈ content.rows, e.name ≠ strftime now) :
    ∃ before, makeVersionDir content now = some before
      ∧ before.rows = content.rows ++ [⟨strftime now, .dir⟩] := by
  have hnone : content.get? (strftime now) = none := by
    unfold Table.get?
    rw [List.find?_eq_none]
    exact fun e he => by simpa using h e he
  obtain ⟨before, hinsert⟩ := Table.exists_insert? (t := content)
    (r := ⟨strftime now, .dir⟩) h
  refine ⟨before, ?_, (Table.insert?_eq_some_iff.mp hinsert).2⟩
  unfold makeVersionDir
  rw [hnone]
  exact hinsert

theorem executeSync_of_make (hmake : makeVersionDir content now = some before) :
    executeSync k now 0 content = (true, pruneVersions before k) := by
  unfold executeSync
  rw [hmake]
  rfl

/-- The beginning of 2026. -/
def newYear : UtcTime where
  val := Moment.newYear 2026
  property := by decide

/-- The two years before it. -/
def newYear2025 : UtcTime where
  val := Moment.newYear 2025
  property := by decide

def newYear2024 : UtcTime where
  val := Moment.newYear 2024
  property := by decide

/-- The versions of two runs, -/
def twoVersions : Directory where
  rows := [⟨strftime newYear2024, .dir⟩, ⟨strftime newYear2025, .dir⟩]
  nodup := by decide

/-- and that of a third one. -/
def threeVersions : Directory where
  rows := twoVersions.rows ++ [⟨strftime newYear, .dir⟩]
  nodup := by decide

theorem directories_threeVersions : directories threeVersions
    = [⟨strftime newYear, .dir⟩, ⟨strftime newYear2025, .dir⟩,
      ⟨strftime newYear2024, .dir⟩] := by
  have h₁ : ¬ strftime newYear2025 ≤ strftime newYear2024 := by decide
  have h₂ : ¬ strftime newYear ≤ strftime newYear2025 := by decide
  unfold directories
  rw [show threeVersions.rows.filter DirEntry.isDir = [⟨strftime newYear2024, .dir⟩,
    ⟨strftime newYear2025, .dir⟩, ⟨strftime newYear, .dir⟩] from rfl]
  simp [List.mergeSort, List.MergeSort.Internal.splitInTwo, h₁, h₂]

/-- With two versions to keep, the third run removes the version of the first. -/
theorem pruning_iff_three :
    ∃ before after, executeSync 2 newYear 0 twoVersions = (true, after) ∧
      makeVersionDir twoVersions newYear = some before ∧
      (KeepsNewest 2 newYear before after ↔ Spared 2 before) ∧
      before.rows.map DirEntry.name
        = [strftime newYear2024, strftime newYear2025, strftime newYear] ∧
      after.rows.map DirEntry.name = [strftime newYear2025, strftime newYear] := by
  have hmake : makeVersionDir twoVersions newYear = some threeVersions := by decide
  have hrun := executeSync_of_make (k := 2) hmake
  have hnone : NoneLater newYear twoVersions := by
    intro e he t ht hlater
    have hlater := strftime_lt_iff.mpr hlater
    rw [← ht] at hlater
    have hnot : ∀ e ∈ dirs twoVersions, ¬ strftime newYear < e.name := by decide
    exact hnot e he hlater
  refine ⟨threeVersions, _, hrun, hmake, pruning_iff (by decide) hnone hrun hmake, rfl, ?_⟩
  unfold pruneVersions
  rw [directories_threeVersions]
  rfl

/-- A directory as `mkfs` leaves it in a file system of its own. -/
def lostAndFound : Directory where
  rows := [⟨"lost+found".toList, .dir⟩]
  nodup := List.nodup_singleton _

/-- With one version to keep, the run removes the version that it has just written. -/
theorem lostAndFound_not_kept :
    ¬ ∀ (k : Nat) (now : UtcTime) (returncode : Int) (content before after : Directory), 1 ≤ k →
      NoneLater now content → executeSync k now returncode content = (true, after) →
      makeVersionDir content now = some before → KeepsNewest k now before after := by
  intro h
  have hname : ∀ t, "lost+found".toList ≠ strftime t := by
    intro t heq
    have hlength := congrArg List.length heq
    rw [length_strftime] at hlength
    exact absurd hlength (by decide)
  obtain ⟨before, hmake, hrows⟩ := makeVersionDir_new lostAndFound newYear
    (fun e he => by rw [List.mem_singleton.mp he]; exact hname newYear)
  have hnone : NoneLater newYear lostAndFound := by
    intro e he t ht
    rw [List.mem_singleton.mp (List.mem_filter.mp he).1] at ht
    exact absurd ht (hname t)
  have hdirs : dirs before
      = [⟨"lost+found".toList, .dir⟩, ⟨strftime newYear, .dir⟩] := by
    unfold dirs
    rw [hrows]
    rfl
  have hkeeps := h 1 newYear 0 lostAndFound before _ (le_refl 1) hnone
    (executeSync_of_make hmake) hmake
  rw [keepsNewest_iff (le_refl 1) (makeVersionDir_noneLater hnone hmake)
    (makeVersionDir_written hmake).1, spared_iff_of_no_link, hdirs] at hkeeps
  · rcases hkeeps with hlength | hall
    · exact absurd hlength (by decide)
    · obtain ⟨t, ht⟩ := hall _ List.mem_cons_self
      exact hname t ht
  · rw [hdirs]
    intro e he
    simp only [List.mem_cons, List.not_mem_nil, or_false] at he
    rcases he with rfl | rfl <;> rfl

end PureBoot.Storage
