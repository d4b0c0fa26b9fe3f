/-
  PureBoot.Templates.Versions — the VERSIONS of a template.

  Embeds `create_template_version`, `get_template_version` and `parse_version_string` of
  `api/routes/templates.py`, with `TemplateVersion.version_string`.  Nothing else writes
  versions.  The other columns of templates and versions, which no function here reads, are
  left out.  Requests come one after another, each in a session of its own.

  Main results:
    * `parseVersionString_versionString` — what is printed of a version is read as it;
    * `versionStep_grown` — the versions of a template grow, and the greatest is current;
    * `template_versions_grow` — so they do in every run, and each is found from then on.
-/
import PureBoot.Lib.Growing
import PureBoot.Lib.IntText
import PureBoot.Lib.Pattern
import PureBoot.Lib.Run
import PureBoot.Lib.Table
import PureBoot.Lifecycle.StateMachine
import Mathlib.Data.Prod.Lex

namespace PureBoot.Templates

open PureBoot.Lib
open PureBoot.Lifecycle (Exn Timestamp scalarOneOrNone)

/-! ## §1. Version strings. -/

/-- `f"v{major}.{minor}"`. -/
def versionString (major minor : Nat) : String := "v" ++ toString major ++ "." ++ toString minor

/-- `$`: the end, or a newline before it. -/
def atEnd (rest : List Char) : Bool := rest = [] || rest = ['\n']

/-- `v?`. -/
def dropV : List Char → List Char
  | 'v' :: text => text
  | text => text

section Parse

variable (data : CharData)

/-- The groups of `^v?(\d+)(?:\.(\d+))?$`. -/
def versionGroups (text : List Char) : Option (List Char × Option (List Char)) :=
  match readRun data.isDecimal (dropV text) with
  | none => none
  | some (major, '.' :: text) =>
      match readRun data.isDecimal text with
      | some (minor, rest) => if atEnd rest then some (major, some minor) else none
      | none => none
  | some (major, rest) => if atEnd rest then some (major, none) else none

/-- `parse_version_string`. -/
def parseVersionString (text : List Char) : Option (Int × Int) := do
  let (major, minor) ← versionGroups data text
  let major ← Radix.decimal.intOf data major
  let minor ← match minor with
    | some minor => Radix.decimal.intOf data minor
    | none => some 0
  return (major, minor)

end Parse

/-! ## §2. Rows and requests. -/

/-- `str(uuid.uuid4())`, which is no empty text. -/
abbrev Uuid := { text : String // text ≠ "" }

structure Template where
  id : Uuid
  currentVersionId : Option Uuid := none
  deriving DecidableEq

structure TemplateVersion where
  id : Uuid
  templateId : Uuid
  major : Nat
  minor : Nat
  content : String
  contentHash : String
  sizeBytes : Nat
  commitMessage : Option String
  createdAt : Timestamp
  deriving DecidableEq

namespace TemplateVersion

variable (v : TemplateVersion)

/-- `(v.major, v.minor)`. -/
def number : ℕ ×ₗ ℕ := toLex (v.major, v.minor)

/-- `version_string`. -/
def versionString : String := Templates.versionString v.major v.minor

end TemplateVersion

structure TemplateDb where
  templates : Table Template.id
  versions : Table TemplateVersion.id

/-- `Template.versions`. -/
def versionsOf (db : TemplateDb) (templateId : Uuid) : List TemplateVersion :=
  db.versions.rows.filter (fun v => v.templateId = templateId)

/-- `TemplateVersionCreate`; a longer content is refused with status 422. -/
structure TemplateVersionCreate where
  content : String
  commitMessage : Option String := none
  content_length : content.length ≤ 10000000

/-- A request, with the id that a new version gets and its time. -/
structure VersionRequest where
  templateId : Uuid
  data : TemplateVersionCreate
  bump : String := "minor"
  versionId : Uuid
  now : Timestamp

/-- `TemplateVersionResponse`. -/
structure TemplateVersionResponse where
  id : Uuid
  templateId : Uuid
  major : Nat
  minor : Nat
  versionString : String
  content : String
  contentHash : String
  sizeBytes : Nat
  commitMessage : Option String
  createdAt : Timestamp
  deriving DecidableEq

/-- `TemplateVersionResponse.from_version`. -/
def TemplateVersionResponse.fromVersion (v : TemplateVersion) : TemplateVersionResponse where
  id := v.id
  templateId := v.templateId
  major := v.major
  minor := v.minor
  versionString := v.versionString
  content := v.content
  contentHash := v.contentHash
  sizeBytes := v.sizeBytes
  commitMessage := v.commitMessage
  createdAt := v.createdAt

/-- `VersionApiResponse`. -/
structure VersionApiResponse where
  message : Option String := none
  data : TemplateVersionResponse

/-! ## §3. The endpoints. -/

/-- The numbers of a new version. -/
def nextNumbers (versions : List TemplateVersion) (bump : String) : Nat × Nat :=
  match versions.argmax TemplateVersion.number with
  | none => (1, 0)
  | some latest =>
      if bump = "major" then (latest.major + 1, 0) else (latest.major, latest.minor + 1)

/-- A version is added, if `uq_template_version` and the primary key admit it. -/
def insertVersion (db : TemplateDb) (v : TemplateVersion) : Except Exn TemplateDb :=
  if (versionsOf db v.templateId).any (fun w => w.number = v.number) then .error .integrityError
  else match db.versions.insert? v with
    | none => .error .integrityError
    | some versions => .ok { db with versions }

/-- The version that a request makes. -/
def newVersion (contentHash : String → String) (db : TemplateDb) (r : VersionRequest) :
    TemplateVersion where
  id := r.versionId
  templateId := r.templateId
  major := (nextNumbers (versionsOf db r.templateId) r.bump).1
  minor := (nextNumbers (versionsOf db r.templateId) r.bump).2
  content := r.data.content
  contentHash := contentHash r.data.content
  sizeBytes := r.data.content.utf8ByteSize
  commitMessage := r.data.commitMessage
  createdAt := r.now

/-- `create_template_version`; `compute_content_hash` is a parameter. -/
def createTemplateVersion (contentHash : String → String) (db : TemplateDb)
    (r : VersionRequest) : Except Exn (VersionApiResponse × TemplateDb) :=
  match db.templates.get? r.templateId with
  | none => .error (.http 404 "Template not found")
  | some template =>
      if r.bump ≠ "major" ∧ r.bump ≠ "minor" then
        .error (.http 400 "Invalid bump type. Must be 'major' or 'minor'")
      else do
        let version := newVersion contentHash db r
        let db ← insertVersion db version
        let template := { template with currentVersionId := some version.id }
        .ok ({ data := .fromVersion version,
               message := some ("Template version " ++ version.versionString
                 ++ " created successfully") },
          { db with templates := db.templates.put template })

/-- `version.lower() == "latest"`; no other character has one of these letters as its lower
case. -/
def isLatest (version : String) : Bool := version.toList.map Char.toLower = "latest".toList

/-- The version that a text asks for. -/
def findVersion (data : CharData) (db : TemplateDb) (template : Template) (version : String) :
    Except Exn (Option TemplateVersion) :=
  if isLatest version then
    match template.currentVersionId with
    | none => .error (.http 404 "No versions available for this template")
    | some id => .ok (db.versions.get? id)
  else match parseVersionString data version.toList with
    | none => .error (.http 400 ("Invalid version format: " ++ version))
    | some (major, minor) =>
        scalarOneOrNone ((versionsOf db template.id).filter
          (fun v => (v.major : Int) = major && (v.minor : Int) = minor))

/-- `get_template_version`. -/
def getTemplateVersion (data : CharData) (db : TemplateDb) (templateId : Uuid)
    (version : String) : Except Exn VersionApiResponse :=
  match db.templates.get? templateId with
  | none => .error (.http 404 "Template not found")
  | some template => do
      match ← findVersion data db template version with
      | none => .error (.http 404 ("Version " ++ version ++ " not found for this template"))
      | some v => .ok { data := .fromVersion v }

/-- A request for a new version, and its session. -/
def versionStep (contentHash : String → String) (db : TemplateDb) (r : VersionRequest) :
    TemplateDb :=
  commitOrRollback db (createTemplateVersion contentHash db r)

/-! ## §4. What is printed is read. -/

variable {data : CharData}

theorem toList_versionString (major minor : Nat) :
    (versionString major minor).toList
      = 'v' :: (Nat.toDigits 10 major ++ '.' :: Nat.toDigits 10 minor) := by
  unfold versionString
  simp [Nat.toList_repr]

theorem readRun_toDigits (data : CharData) (n : Nat) (rest : List Char)
    (hrest : ∀ c ∈ rest.head?, data.isDecimal c = false) :
    readRun data.isDecimal (Nat.toDigits 10 n ++ rest) = some (Nat.toDigits 10 n, rest) := by
  refine readRun_eq_some_iff.mpr ⟨Nat.toDigits_ne_nil, fun c hc => ?_, hrest, rfl⟩
  exact data.isDecimal_of_isDigit (Nat.isDigit_of_mem_toDigits (by decide) (le_refl 10) hc)

theorem isDecimal_dot : data.isDecimal '.' = false := by
  unfold CharData.isDecimal
  rw [data.ascii_eq (by decide)]
  rfl

theorem versionGroups_versionString (major minor : Nat) :
    versionGroups data (versionString major minor).toList
      = some (Nat.toDigits 10 major, some (Nat.toDigits 10 minor)) := by
  have hmajor := readRun_toDigits data major ('.' :: Nat.toDigits 10 minor)
    (fun c hc => Option.some.inj hc ▸ isDecimal_dot)
  have hminor := readRun_toDigits data minor [] (fun c hc => nomatch hc)
  rw [List.append_nil] at hminor
  have hv : ∀ text, dropV ('v' :: text) = text := fun _ => rfl
  rw [toList_versionString]
  unfold versionGroups
  rw [hv, hmajor]
  simp [hminor, atEnd]

/-- **WHAT IS PRINTED OF A VERSION** is read as it. -/
theorem parseVersionString_versionString (data : CharData) (major minor : Nat) :
    parseVersionString data (versionString major minor).toList
      = some ((major : Int), (minor : Int)) := by
  unfold parseVersionString
  rw [versionGroups_versionString]
  simp [intOf_toDigits]

/-- `int` reads whatever the groups hold. -/
theorem parseVersionString_isSome_iff {text : List Char} :
    (parseVersionString data text).isSome = true ↔ (versionGroups data text).isSome = true := by
  have hread : ∀ {s digits rest : List Char}, readRun data.isDecimal s = some (digits, rest) →
      ∃ n, Radix.decimal.intOf data digits = some n := by
    intro s digits rest h
    obtain ⟨hne, hall, -, -⟩ := readRun_eq_some_iff.mp h
    exact Option.isSome_iff_exists.mp (intOf_isSome_of_isDecimal hne hall)
  unfold parseVersionString versionGroups
  split
  next => simp
  next major text hmajor =>
    obtain ⟨n, hn⟩ := hread hmajor
    split
    next minor rest hminor =>
      obtain ⟨k, hk⟩ := hread hminor
      split <;> simp [hn, hk]
    next => simp
  next major rest _ hmajor =>
    obtain ⟨n, hn⟩ := hread hmajor
    split <;> simp [hn]

/-! ## §5. One request. -/

variable {contentHash : String → String} {db db' : TemplateDb} {r : VersionRequest}
  {answer : VersionApiResponse}

/-- The numbers of a new version are greater than those of all others. -/
theorem lt_newVersion (contentHash : String → String) (db : TemplateDb) (r : VersionRequest) :
    ∀ w ∈ versionsOf db r.templateId, w.number < (newVersion contentHash db r).number := by
  have hnumber : (newVersion contentHash db r).number
      = toLex (nextNumbers (versionsOf db r.templateId) r.bump) := rfl
  rw [hnumber]
  unfold nextNumbers
  cases hmax : (versionsOf db r.templateId).argmax TemplateVersion.number with
  | none =>
      rw [List.argmax_eq_none.mp hmax]
      exact fun w hw => nomatch hw
  | some latest =>
      refine lt_of_argmax_lt hmax ?_
      dsimp only
      split
      · exact Prod.Lex.toLex_lt_toLex.mpr (.inl (Nat.lt_succ_self _))
      · exact Prod.Lex.toLex_lt_toLex.mpr (.inr ⟨rfl, Nat.lt_succ_self _⟩)

/-- **THE UNIQUE CONSTRAINT** admits a new version; what may fail is its id. -/
theorem insertVersion_newVersion (contentHash : String → String) (db : TemplateDb)
    (r : VersionRequest) :
    insertVersion db (newVersion contentHash db r)
      = match db.versions.insert? (newVersion contentHash db r) with
        | none => .error .integrityError
        | some versions => .ok { db with versions } := by
  unfold insertVersion
  refine if_neg (fun hany => ?_)
  obtain ⟨w, hw, heq⟩ := List.any_eq_true.mp hany
  exact (lt_newVersion contentHash db r w hw).ne (of_decide_eq_true heq)

/-- The answer to a request that makes this version. -/
def createdAnswer (v : TemplateVersion) : VersionApiResponse where
  data := .fromVersion v
  message := some ("Template version " ++ v.versionString ++ " created successfully")

theorem createTemplateVersion_eq {template : Template}
    (htemplate : db.templates.get? r.templateId = some template)
    (hbump : r.bump = "major" ∨ r.bump = "minor") :
    createTemplateVersion contentHash db r
      = match db.versions.insert? (newVersion contentHash db r) with
        | none => .error .integrityError
        | some versions => .ok (createdAnswer (newVersion contentHash db r),
            { templates := db.templates.put { template with currentVersionId := some r.versionId },
              versions }) := by
  have hbump' : ¬ (r.bump ≠ "major" ∧ r.bump ≠ "minor") := by tauto
  unfold createTemplateVersion
  rw [htemplate]
  dsimp only
  rw [if_neg hbump', insertVersion_newVersion]
  cases db.versions.insert? (newVersion contentHash db r) with
  | none => rfl
  | some versions => rfl

/-- **WHEN A REQUEST RETURNS**: its template exists, its bump is one of the two and its id is
new. -/
structure Admitted (db : TemplateDb) (r : VersionRequest) : Prop where
  template : ∃ template, db.templates.get? r.templateId = some template
  bump : r.bump = "major" ∨ r.bump = "minor"
  fresh : ∀ w ∈ db.versions.rows, w.id ≠ r.versionId

/-- What a request does that returns. -/
structure Created (contentHash : String → String) (db : TemplateDb) (r : VersionRequest)
    (answer : VersionApiResponse) (db' : TemplateDb) : Prop where
  template : ∃ template, db.templates.get? r.templateId = some template ∧
    db'.templates = db.templates.put { template with currentVersionId := some r.versionId }
  versions : db'.versions.rows = db.versions.rows ++ [newVersion contentHash db r]
  answer : answer = createdAnswer (newVersion contentHash db r)

theorem admitted_of_ok (h : createTemplateVersion contentHash db r = .ok (answer, db')) :
    Admitted db r ∧ Created contentHash db r answer db' := by
  have hret := h
  unfold createTemplateVersion at h
  split at h
  next => cases h
  next template htemplate =>
    split at h
    next => cases h
    next hbump =>
      have hbump' : r.bump = "major" ∨ r.bump = "minor" := by tauto
      rw [createTemplateVersion_eq htemplate hbump'] at hret
      split at hret
      next => cases hret
      next versions hinsert =>
        obtain ⟨rfl, rfl⟩ := Prod.mk.inj (Except.ok.inj hret)
        obtain ⟨hfresh, hrows⟩ := Table.insert?_eq_some_iff.mp hinsert
        exact ⟨⟨⟨template, htemplate⟩, hbump', hfresh⟩, ⟨template, htemplate, rfl⟩, hrows, rfl⟩

theorem createTemplateVersion_returns_iff :
    (∃ answer db', createTemplateVersion contentHash db r = .ok (answer, db')) ↔
      Admitted db r := by
  constructor
  · rintro ⟨answer, db', h⟩
    exact (admitted_of_ok h).1
  · rintro ⟨⟨template, htemplate⟩, hbump, hfresh⟩
    obtain ⟨versions, hinsert⟩ := Table.exists_insert? (r := newVersion contentHash db r) hfresh
    rw [createTemplateVersion_eq htemplate hbump, hinsert]
    exact ⟨_, _, rfl⟩

/-- **ONLY AN ID CAN BE TAKEN.** -/
theorem id_taken_of_integrityError
    (h : createTemplateVersion contentHash db r = .error .integrityError) :
    ∃ w ∈ db.versions.rows, w.id = r.versionId := by
  by_contra hfresh
  push Not at hfresh
  have hbump : r.bump = "major" ∨ r.bump = "minor" := by
    by_contra hbump
    unfold createTemplateVersion at h
    split at h
    next => cases h
    next =>
      rw [if_pos (by tauto)] at h
      cases h
  cases htemplate : db.templates.get? r.templateId with
  | none =>
      unfold createTemplateVersion at h
      rw [htemplate] at h
      cases h
  | some template =>
      obtain ⟨answer, db', hok⟩ := createTemplateVersion_returns_iff.mpr
        (⟨⟨template, htemplate⟩, hbump, hfresh⟩ : Admitted db r)
      rw [hok] at h
      cases h

/-! ## §6. The versions of a template grow. -/

/-- Versions grow, and the greatest one is current. -/
structure Grown (db : TemplateDb) : Prop where
  growing : ∀ id, Growing TemplateVersion.number (versionsOf db id)
  current : ∀ t ∈ db.templates.rows,
    t.currentVersionId = ((versionsOf db t.id).argmax TemplateVersion.number).map (·.id)

theorem Created.versionsOf (h : Created contentHash db r answer db') :
    versionsOf db' r.templateId = versionsOf db r.templateId ++ [newVersion contentHash db r] := by
  unfold Templates.versionsOf
  rw [h.versions, List.filter_append]
  congr 1
  exact List.filter_cons_of_pos (decide_eq_true rfl)

theorem Created.versionsOf_of_ne (h : Created contentHash db r answer db') {id : Uuid}
    (hid : id ≠ r.templateId) : Templates.versionsOf db' id = Templates.versionsOf db id := by
  have hne : ¬ (newVersion contentHash db r).templateId = id := fun heq => hid heq.symm
  unfold Templates.versionsOf
  rw [h.versions, List.filter_append, List.filter_cons_of_neg (by simpa using hne),
    List.filter_nil, List.append_nil]

/-- The new version is the greatest. -/
theorem Created.argmax (h : Created contentHash db r answer db') :
    (Templates.versionsOf db' r.templateId).argmax TemplateVersion.number
      = some (newVersion contentHash db r) := by
  rw [h.versionsOf]
  exact argmax_concat_of_lt (lt_newVersion contentHash db r)

/-- **ONE REQUEST** keeps the versions growing and the greatest current. -/
theorem Created.grown (h : Created contentHash db r answer db') (hgrown : Grown db) :
    Grown db' := by
  constructor
  · intro id
    by_cases hid : id = r.templateId
    · rw [hid, h.versionsOf]
      exact (hgrown.growing r.templateId).concat (lt_newVersion contentHash db r)
    · rw [h.versionsOf_of_ne hid]
      exact hgrown.growing id
  · obtain ⟨template, htemplate, hput⟩ := h.template
    obtain ⟨hmem, hid⟩ := Table.get?_eq_some_iff.mp htemplate
    intro t ht
    let template' : Template := { template with currentVersionId := some r.versionId }
    have hrow : ∃ x ∈ db.templates.rows, x.id = template'.id := ⟨template, hmem, rfl⟩
    rw [hput] at ht
    rcases (Table.mem_put_iff hrow).mp ht with rfl | ⟨ht, hne⟩
    · show some r.versionId = ((Templates.versionsOf db' template.id).argmax _).map _
      rw [hid, h.argmax]
      rfl
    · have hne' : t.id ≠ r.templateId := fun heq => hne (heq.trans hid.symm)
      rw [h.versionsOf_of_ne hne']
      exact hgrown.current t ht

theorem versionStep_eq (contentHash : String → String) (db : TemplateDb) (r : VersionRequest) :
    versionStep contentHash db r = db ∨
      ∃ answer, Created contentHash db r answer (versionStep contentHash db r) := by
  unfold versionStep
  cases hret : createTemplateVersion contentHash db r with
  | error e => exact .inl rfl
  | ok result => exact .inr ⟨result.1, (admitted_of_ok hret).2⟩

/-- **THE STEP LEMMA.** -/
theorem versionStep_grown (contentHash : String → String) (db : TemplateDb) (r : VersionRequest)
    (hgrown : Grown db) : Grown (versionStep contentHash db r) := by
  rcases versionStep_eq contentHash db r with hsame | ⟨answer, hcreated⟩
  · rw [hsame]
    exact hgrown
  · exact hcreated.grown hgrown

/-- What is there stays: templates, and versions as they are. -/
structure Keeps (db db' : TemplateDb) : Prop where
  templates : ∀ t ∈ db.templates.rows, ∃ t' ∈ db'.templates.rows, t'.id = t.id
  versions : ∀ v ∈ db.versions.rows, v ∈ db'.versions.rows

theorem versionStep_keeps (contentHash : String → String) (db : TemplateDb)
    (r : VersionRequest) : Keeps db (versionStep contentHash db r) := by
  rcases versionStep_eq contentHash db r with hsame | ⟨answer, hcreated⟩
  · rw [hsame]
    exact ⟨fun t ht => ⟨t, ht, rfl⟩, fun v hv => hv⟩
  · constructor
    · obtain ⟨template, -, hput⟩ := hcreated.template
      intro t ht
      rw [hput]
      by_cases hid : t.id = template.id
      · exact ⟨_, Table.mem_put_self ht hid, hid.symm⟩
      · exact ⟨t, Table.mem_put_of_ne ht hid, rfl⟩
    · intro v hv
      rw [hcreated.versions]
      exact List.mem_append_left _ hv

theorem run_keeps (contentHash : String → String) (db : TemplateDb)
    (requests : List VersionRequest) : Keeps db (run (versionStep contentHash) db requests) := by
  induction requests generalizing db with
  | nil => exact ⟨fun t ht => ⟨t, ht, rfl⟩, fun v hv => hv⟩
  | cons r requests ih =>
      have hfirst := versionStep_keeps contentHash db r
      have hrest := ih (versionStep contentHash db r)
      refine ⟨fun t ht => ?_, fun v hv => hrest.versions v (hfirst.versions v hv)⟩
      obtain ⟨t', ht', hid⟩ := hfirst.templates t ht
      obtain ⟨t'', ht'', hid'⟩ := hrest.templates t' ht'
      exact ⟨t'', ht'', hid'.trans hid⟩

/-! ## §7. Looking versions up. -/

theorem isLatest_versionString (major minor : Nat) :
    isLatest (versionString major minor) = false := by
  unfold isLatest
  rw [toList_versionString, List.map_cons]
  exact decide_eq_false (fun h => absurd (List.cons.inj h).1 (by decide))

/-- A version is the only one of its template with its numbers. -/
theorem Grown.filter_number (hgrown : Grown db) {v : TemplateVersion} {id : Uuid}
    (hv : v ∈ versionsOf db id) :
    (versionsOf db id).filter (fun w =>
      (w.major : Int) = (v.major : Int) && (w.minor : Int) = (v.minor : Int)) = [v] := by
  have hsame : ∀ w : TemplateVersion,
      ((w.major : Int) = (v.major : Int) && (w.minor : Int) = (v.minor : Int))
        = decide (w.number = v.number) := by
    intro w
    rw [Bool.eq_iff_iff]
    simp [TemplateVersion.number]
  rw [List.filter_congr (fun w _ => hsame w)]
  exact Table.filter_eq_singleton (hgrown.growing id).nodup hv

/-- **A VERSION IS FOUND** by what is printed of it. -/
theorem Grown.get_versionString (hgrown : Grown db) (data : CharData) {v : TemplateVersion}
    (hv : v ∈ db.versions.rows) (htemplate : ∃ t ∈ db.templates.rows, t.id = v.templateId) :
    getTemplateVersion data db v.templateId v.versionString = .ok { data := .fromVersion v } := by
  obtain ⟨t, ht, hid⟩ := htemplate
  have hget : db.templates.get? v.templateId = some t := Table.get?_eq_some_iff.mpr ⟨ht, hid⟩
  have hmem : v ∈ versionsOf db t.id :=
    List.mem_filter.mpr ⟨hv, decide_eq_true hid.symm⟩
  have hfind : findVersion data db t v.versionString = .ok (some v) := by
    unfold findVersion TemplateVersion.versionString
    rw [isLatest_versionString, if_neg Bool.false_ne_true, parseVersionString_versionString]
    dsimp only
    rw [hgrown.filter_number hmem]
    rfl
  unfold getTemplateVersion
  rw [hget]
  dsimp only
  rw [hfind]
  rfl

/-- **THE LATEST** is the greatest. -/
theorem Grown.get_latest (hgrown : Grown db) (data : CharData) {t : Template}
    (ht : t ∈ db.templates.rows) {v : TemplateVersion}
    (hmax : (versionsOf db t.id).argmax TemplateVersion.number = some v) :
    getTemplateVersion data db t.id "latest" = .ok { data := .fromVersion v } := by
  have hget : db.templates.get? t.id = some t := Table.get?_eq_some_iff.mpr ⟨ht, rfl⟩
  have hcurrent : t.currentVersionId = some v.id := by
    rw [hgrown.current t ht, hmax]
    rfl
  have hv : db.versions.get? v.id = some v :=
    Table.get?_eq_some_iff.mpr ⟨(List.mem_filter.mp (List.argmax_mem hmax)).1, rfl⟩
  have hlatest : isLatest "latest" = true := by decide
  unfold getTemplateVersion findVersion
  rw [hget]
  dsimp only
  rw [if_pos hlatest, hcurrent]
  dsimp only
  rw [hv]
  rfl

/-! ## §8. Runs. -/

/-- No template has a version yet. -/
structure NoVersions (db : TemplateDb) : Prop where
  versions : db.versions.rows = []
  current : ∀ t ∈ db.templates.rows, t.currentVersionId = none

theorem NoVersions.grown (h : NoVersions db) : Grown db := by
  have hnone : ∀ id, versionsOf db id = [] := by
    intro id
    unfold versionsOf
    rw [h.versions, List.filter_nil]
  constructor
  · intro id
    rw [hnone]
    exact .nil
  · intro t ht
    rw [h.current t ht, hnone]
    rfl

theorem run_grown (contentHash : String → String) (h : NoVersions db)
    (requests : List VersionRequest) : Grown (run (versionStep contentHash) db requests) :=
  run_invariant (fun db r hgrown _ => versionStep_grown contentHash db r hgrown) h.grown
    (along_true _ _)

/-- What a request that returned has made of a template: a version that is greater than all
before it and current, and that is found from then on, whatever is requested later. -/
structure Grows (contentHash : String → String) (data : CharData) (db : TemplateDb)
    (r : VersionRequest) (answer : VersionApiResponse) (db' : TemplateDb)
    (v : TemplateVersion) : Prop where
  added : db'.versions.rows = db.versions.rows ++ [v]
  own : v.templateId = r.templateId
  answered : answer.data = .fromVersion v
  greater : ∀ w ∈ versionsOf db r.templateId, w.number < v.number
  current : ∃ t, db'.templates.get? r.templateId = some t ∧ t.currentVersionId = some v.id
  latest : getTemplateVersion data db' r.templateId "latest" = .ok { data := .fromVersion v }
  found : ∀ later, getTemplateVersion data (run (versionStep contentHash) db' later)
    r.templateId v.versionString = .ok { data := .fromVersion v }

/-- The current version is one of the template's, and none of them is greater. -/
def CurrentGreatest (db : TemplateDb) : Prop :=
  ∀ t ∈ db.templates.rows, ∀ w ∈ versionsOf db t.id,
    ∃ v ∈ versionsOf db t.id, t.currentVersionId = some v.id ∧ w.number ≤ v.number

theorem Grown.currentGreatest (hgrown : Grown db) : CurrentGreatest db := by
  intro t ht w hw
  cases hmax : (versionsOf db t.id).argmax TemplateVersion.number with
  | none =>
      rw [List.argmax_eq_none.mp hmax] at hw
      cases hw
  | some v =>
      refine ⟨v, List.argmax_mem hmax, ?_, List.le_of_mem_argmax hw hmax⟩
      rw [hgrown.current t ht, hmax]
      rfl

theorem Created.grows (h : Created contentHash db r answer db') (hgrown : Grown db)
    (data : CharData) (hrun : ∀ later, Grown (run (versionStep contentHash) db' later)) :
    Grows contentHash data db r answer db' (newVersion contentHash db r) := by
  obtain ⟨template, htemplate, hput⟩ := h.template
  obtain ⟨hmem, hid⟩ := Table.get?_eq_some_iff.mp htemplate
  let template' : Template := { template with currentVersionId := some r.versionId }
  have hmem' : template' ∈ db'.templates.rows := by
    rw [hput]
    exact Table.mem_put_self hmem rfl
  have hlatest := (h.grown hgrown).get_latest data hmem'
    (show (Templates.versionsOf db' template.id).argmax _ = _ by rw [hid]; exact h.argmax)
  refine ⟨h.versions, rfl, by rw [h.answer]; rfl, lt_newVersion contentHash db r,
    ⟨template', Table.get?_eq_some_iff.mpr ⟨hmem', hid⟩, rfl⟩, ?_, fun later => ?_⟩
  · rw [← hid]
    exact hlatest
  · have hkeeps := run_keeps contentHash db' later
    obtain ⟨t, ht, htid⟩ := hkeeps.templates template' hmem'
    have hv : newVersion contentHash db r ∈ db'.versions.rows := by
      rw [h.versions]
      exact List.mem_append_right _ List.mem_cons_self
    exact (hrun later).get_versionString data (hkeeps.versions _ hv) ⟨t, ht, htid.trans hid⟩

/-- **TEMPLATE VERSIONS GROW**, in every run of requests for new versions. -/
theorem template_versions_grow (contentHash : String → String) (data : CharData)
    {db₀ : TemplateDb} (h : NoVersions db₀) (earlier : List VersionRequest)
    (r : VersionRequest) :
    let db := run (versionStep contentHash) db₀ earlier
    (∀ id, Growing TemplateVersion.number (versionsOf db id)) ∧ CurrentGreatest db ∧
      ((∃ answer db', createTemplateVersion contentHash db r = .ok (answer, db')) ↔
        Admitted db r) ∧
      (createTemplateVersion contentHash db r = .error .integrityError →
        ∃ w ∈ db.versions.rows, w.id = r.versionId) ∧
      (∀ answer db', createTemplateVersion contentHash db r = .ok (answer, db') →
        ∃ v, Grows contentHash data db r answer db' v) ∧
      ∀ major minor, parseVersionString data (versionString major minor).toList
        = some ((major : Int), (minor : Int)) := by
  intro db
  have hgrown : Grown db := run_grown contentHash h earlier
  refine ⟨hgrown.growing, hgrown.currentGreatest, createTemplateVersion_returns_iff,
    id_taken_of_integrityError, fun answer db' hok => ?_, parseVersionString_versionString data⟩
  have hcreated := (admitted_of_ok hok).2
  refine ⟨_, hcreated.grows hgrown data (fun later => ?_)⟩
  exact run_invariant (fun db r hgrown _ => versionStep_grown contentHash db r hgrown)
    (hcreated.grown hgrown) (along_true _ _)

theorem templateId_ne : "template" ≠ "" := by decide

theorem versionId_ne : "version" ≠ "" := by decide

def oneTemplate : TemplateDb where
  templates := ⟨[{ id := ⟨"template", templateId_ne⟩ }], List.nodup_singleton _⟩
  versions := Table.empty

theorem oneTemplate_noVersions : NoVersions oneTemplate where
  versions := rfl
  current := fun _ ht => by rw [List.mem_singleton.mp ht]

theorem hello_length : "hello".length ≤ 10000000 := by decide

def firstVersion : VersionRequest where
  templateId := ⟨"template", templateId_ne⟩
  data := { content := "hello", content_length := hello_length }
  bump := "major"
  versionId := ⟨"version", versionId_ne⟩
  now := ⟨0, true⟩

/-- Another version of the same content. -/
def bumped (versionId : Uuid) (bump : String) : VersionRequest :=
  { firstVersion with versionId, bump }

theorem minorId_ne : "minor version" ≠ "" := by decide

theorem majorId_ne : "major version" ≠ "" := by decide

theorem lastId_ne : "last version" ≠ "" := by decide

/-- A minor and a major bump. -/
def threeVersionRequests : List VersionRequest :=
  [firstVersion, bumped ⟨"minor version", minorId_ne⟩ "minor",
    bumped ⟨"major version", majorId_ne⟩ "major"]

/-- A version after these is the greatest of four. -/
theorem template_versions_grow_bumps :
    let db := run (versionStep id) oneTemplate threeVersionRequests
    let r := bumped ⟨"last version", lastId_ne⟩ "minor"
    db.versions.rows.map (fun v => (v.major, v.minor)) = [(1, 0), (1, 1), (2, 0)] ∧
    ∃ answer db' v, createTemplateVersion id db r = .ok (answer, db') ∧
      Grows id .asciiOnly db r answer db' v ∧
      db'.versions.rows.map (fun v => (v.major, v.minor)) = [(1, 0), (1, 1), (2, 0), (2, 1)] := by
  intro db r
  obtain ⟨-, -, hreturns, -, hgrows, -⟩ :=
    template_versions_grow id .asciiOnly oneTemplate_noVersions threeVersionRequests r
  have hadmitted : Admitted db r :=
    ⟨⟨{ id := ⟨"template", templateId_ne⟩
        currentVersionId := some ⟨"major version", majorId_ne⟩ }, by decide⟩, .inr rfl, by decide⟩
  obtain ⟨answer, db', hok⟩ := hreturns.mpr hadmitted
  obtain ⟨v, hv⟩ := hgrows answer db' hok
  refine ⟨by decide, answer, db', v, hok, hv, ?_⟩
  have hnumbers : (versionStep id db r).versions.rows.map (fun v => (v.major, v.minor))
      = [(1, 0), (1, 1), (2, 0), (2, 1)] := by decide
  rwa [versionStep, hok, commitOrRollback_ok] at hnumbers

end PureBoot.Templates
