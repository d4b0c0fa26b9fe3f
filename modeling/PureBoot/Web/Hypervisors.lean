/-
  PureBoot.Web.Hypervisors — the HYPERVISORS and their PASSWORDS.

  Embeds `list_hypervisors`, `create_hypervisor`, `update_hypervisor`, `delete_hypervisor`,
  `get_hypervisor`, `test_hypervisor_connection` and the lists of machines and templates of
  `api/routes/hypervisors.py`, with `encrypt_password` and `decrypt_password`.  A password is
  written to the table in base 64 and read back for each connection; an exception of the
  reading is swallowed, and the connection is made without a password.

  The table is embedded for any way of keeping a text.  Under the way that keeps it as it is,
  the requests say what they are for.

  Main results:
    * `answerHypervisor_mirrors` — one request, on the table and on the table of plain passwords;
    * `hypervisor_passwords_kept` — every run answers, and connects, as if the passwords were
      kept as they were given, and no two hypervisors have one name.
-/
import PureBoot.Lib.Base64
import PureBoot.Lib.Mirror
import PureBoot.Lib.Run
import PureBoot.Lib.Unique

namespace PureBoot.Web

open PureBoot.Lib

variable {σ : Type}

/-! ## §1. Rows and requests. -/

inductive HypervisorType where
  | ovirt
  | proxmox
  deriving DecidableEq, Repr

inductive HypervisorStatus where
  | unknown
  | online
  | error
  deriving DecidableEq, Repr

/-- `Hypervisor`, without the times of its creation and of its last change. -/
structure Hypervisor (σ : Type) where
  id : String
  name : String
  type : HypervisorType
  apiUrl : String
  username : Option String
  passwordEncrypted : Option σ
  verifySsl : Bool
  status : HypervisorStatus := .unknown
  lastError : Option String := none
  lastSyncAt : Option Int := none
  vmCount : Int := 0
  hostCount : Int := 0

abbrev Hypervisors (σ : Type) : Type := Table (Hypervisor.id (σ := σ))

/-- `HypervisorResponse`: there is no password in it. -/
structure HypervisorResponse where
  id : String
  name : String
  type : HypervisorType
  apiUrl : String
  username : Option String
  verifySsl : Bool
  status : HypervisorStatus
  lastError : Option String
  lastSyncAt : Option Int
  vmCount : Int
  hostCount : Int
  deriving DecidableEq

/-- `HypervisorResponse.from_model`. -/
def HypervisorResponse.fromModel (h : Hypervisor σ) : HypervisorResponse where
  id := h.id
  name := h.name
  type := h.type
  apiUrl := h.apiUrl
  username := h.username
  verifySsl := h.verifySsl
  status := h.status
  lastError := h.lastError
  lastSyncAt := h.lastSyncAt
  vmCount := h.vmCount
  hostCount := h.hostCount

/-- `Field(min_length=2, max_length=100)`. -/
def NameOk (name : String) : Prop := 2 ≤ name.length ∧ name.length ≤ 100

/-- A request that has been validated. -/
structure HypervisorCreate where
  name : String
  nameOk : NameOk name
  type : HypervisorType
  apiUrl : String
  username : Option String := none
  password : Option String := none
  verifySsl : Bool := true

/-- A field of a PATCH request that was not sent is `none`, and one that was sent as `null` is
`some none`. -/
structure HypervisorUpdate where
  name : Option (Option String) := none
  nameOk : ∀ new, name = some (some new) → NameOk new
  apiUrl : Option (Option String) := none
  username : Option (Option String) := none
  password : Option (Option String) := none
  verifySsl : Option (Option Bool) := none

/-- What a connection is made with. -/
structure Connection where
  type : HypervisorType
  apiUrl : String
  username : Option String
  password : Option String
  verifySsl : Bool
  deriving DecidableEq

/-- `HypervisorTestResult`. -/
structure HypervisorTestResult where
  success : Bool
  message : String
  version : Option String := none
  vmCount : Option Int := none
  hostCount : Option Int := none
  deriving DecidableEq

inductive HypervisorAnswer where
  | shown (hypervisor : HypervisorResponse)
  /-- The list of all hypervisors, and its length. -/
  | listedAll (hypervisors : List HypervisorResponse) (total : Nat)
  | deleted (message : String)
  | tested (connection : Connection) (result : HypervisorTestResult)
  /-- The machines or the templates that the connection shows. -/
  | listed (connection : Connection)
  | refused (status : Nat) (detail : String)
  /-- A `null` that a column does not take: the request is rolled back. -/
  | raised
  deriving DecidableEq

inductive HypervisorRequest where
  | listAll
  | create (id : String) (data : HypervisorCreate)
  | show (id : String)
  | update (id : String) (data : HypervisorUpdate)
  | delete (id : String)
  | test (id : String) (now : Int)
  | list (id : String)

/-! ## §2. The handlers. -/

/-- A password that was sent and is not empty. -/
def truthyText : Option String → Option String
  | some password => if password = "" then none else some password
  | none => none

/-- The password for a connection. -/
def Hypervisor.password (k : Safe σ) (h : Hypervisor σ) : Option String :=
  h.passwordEncrypted.bind k.reveal

def Hypervisor.connection (k : Safe σ) (h : Hypervisor σ) : Connection where
  type := h.type
  apiUrl := h.apiUrl
  username := h.username
  password := h.password k
  verifySsl := h.verifySsl

/-- `setattr` of a field that was sent, for a column that takes no `null`. -/
def setField {α : Type} (old : α) : Option (Option α) → Option α
  | none => some old
  | some new => new

/-- The fields of an update. -/
def applyUpdate (k : Safe σ) (h : Hypervisor σ) (data : HypervisorUpdate) :
    Option (Hypervisor σ) :=
  match setField h.name data.name, setField h.apiUrl data.apiUrl,
      setField h.verifySsl data.verifySsl with
  | some name, some apiUrl, some verifySsl =>
      some { h with
        name, apiUrl, verifySsl
        username := data.username.getD h.username
        passwordEncrypted :=
          match data.password.bind truthyText with
          | some password => some (k.store password)
          | none => h.passwordEncrypted }
  | _, _, _ => none

/-- What a test of the connection writes. -/
def Hypervisor.tested (h : Hypervisor σ) (now : Int) (result : HypervisorTestResult) :
    Hypervisor σ :=
  { h with
    status := if result.success then .online else .error
    lastError := if result.success then none else some result.message
    lastSyncAt := some now
    vmCount := result.vmCount.getD h.vmCount
    hostCount := result.hostCount.getD h.hostCount }

/-- What its exception writes. -/
def Hypervisor.failed (h : Hypervisor σ) (message : String) : Hypervisor σ :=
  { h with status := .error, lastError := some message }

def notFound : HypervisorAnswer := .refused 404 "Hypervisor not found"

def duplicate (name : String) : HypervisorAnswer :=
  .refused 409 ("Hypervisor with name '" ++ name ++ "' already exists")

def nameTaken (t : Hypervisors σ) (name : String) : Bool := t.rows.any (fun h => h.name = name)

/-- The row of a new hypervisor. -/
def HypervisorCreate.row (k : Safe σ) (id : String) (data : HypervisorCreate) : Hypervisor σ where
  id := id
  name := data.name
  type := data.type
  apiUrl := data.apiUrl
  username := data.username
  passwordEncrypted := (truthyText data.password).map k.store
  verifySsl := data.verifySsl

/-- `list_hypervisors`: by name. -/
def listHypervisors (t : Hypervisors σ) : HypervisorAnswer :=
  let hypervisors := t.rows.mergeSort (fun a b => a.name ≤ b.name)
  .listedAll (hypervisors.map .fromModel) hypervisors.length

def createHypervisor (k : Safe σ) (t : Hypervisors σ) (id : String) (data : HypervisorCreate) :
    HypervisorAnswer × Hypervisors σ :=
  if nameTaken t data.name then (duplicate data.name, t)
  else (.shown (.fromModel (data.row k id)), (t.insert? (data.row k id)).getD t)

/-- The name of an update that another hypervisor may have. -/
def HypervisorUpdate.newName (data : HypervisorUpdate) (old : String) : Option String :=
  (data.name.bind truthyText).filter (fun name => name ≠ old)

def updateHypervisor (k : Safe σ) (t : Hypervisors σ) (id : String) (data : HypervisorUpdate) :
    HypervisorAnswer × Hypervisors σ :=
  match t.get? id with
  | none => (notFound, t)
  | some h =>
      match (data.newName h.name).filter (nameTaken t) with
      | some name => (duplicate name, t)
      | none =>
          match applyUpdate k h data with
          | some h' => (.shown (.fromModel h'), t.put h')
          | none => (.raised, t)

def deleteHypervisor (t : Hypervisors σ) (id : String) : HypervisorAnswer × Hypervisors σ :=
  match t.get? id with
  | none => (notFound, t)
  | some h =>
      (.deleted ("Hypervisor '" ++ h.name ++ "' deleted"), t.delete (fun r => r.id = id))

/-- `test_hypervisor_connection`; `probe` stands for the hypervisors: the functions of the
source answer every connection alike. -/
def testHypervisorConnection (k : Safe σ) (probe : Connection → Except String HypervisorTestResult)
    (t : Hypervisors σ) (id : String) (now : Int) : HypervisorAnswer × Hypervisors σ :=
  match t.get? id with
  | none => (notFound, t)
  | some h =>
      match probe (h.connection k) with
      | .ok result => (.tested (h.connection k) result, t.put (h.tested now result))
      | .error message =>
          (.tested (h.connection k) ⟨false, "Connection failed: " ++ message, none, none, none⟩,
            t.put (h.failed message))

def answerHypervisor (k : Safe σ) (probe : Connection → Except String HypervisorTestResult)
    (t : Hypervisors σ) : HypervisorRequest → HypervisorAnswer × Hypervisors σ
  | .listAll => (listHypervisors t, t)
  | .create id data => createHypervisor k t id data
  | .show id => (((t.get? id).map (fun h => .shown (.fromModel h))).getD notFound, t)
  | .update id data => updateHypervisor k t id data
  | .delete id => deleteHypervisor t id
  | .test id now => testHypervisorConnection k probe t id now
  | .list id => (((t.get? id).map (fun h => .listed (h.connection k))).getD notFound, t)

/-- The table, and what has been answered. -/
structure HypervisorApi (σ : Type) where
  table : Hypervisors σ := Table.empty
  answers : List HypervisorAnswer := []

def HypervisorApi.exec (k : Safe σ) (probe : Connection → Except String HypervisorTestResult)
    (s : HypervisorApi σ) (r : HypervisorRequest) : HypervisorApi σ where
  table := (answerHypervisor k probe s.table r).2
  answers := s.answers ++ [(answerHypervisor k probe s.table r).1]

/-! ## §3. The table and its plain twin. -/

/-- A row as it is kept. -/
def Hypervisor.kept (k : Safe σ) (h : Hypervisor String) : Hypervisor σ where
  id := h.id
  name := h.name
  type := h.type
  apiUrl := h.apiUrl
  username := h.username
  passwordEncrypted := h.passwordEncrypted.map k.store
  verifySsl := h.verifySsl
  status := h.status
  lastError := h.lastError
  lastSyncAt := h.lastSyncAt
  vmCount := h.vmCount
  hostCount := h.hostCount

/-- The rows of the plain table are kept. -/
abbrev Keeps (k : Safe σ) (t : Hypervisors σ) (plain : Hypervisors String) : Prop :=
  Mirrors (Hypervisor.kept k) id t plain

variable {k : Safe σ} {t : Hypervisors σ} {plain : Hypervisors String}
  {probe : Connection → Except String HypervisorTestResult}

theorem connection_kept (k : Safe σ) (h : Hypervisor String) :
    (h.kept k).connection k = h.connection .plain := by
  have hpassword : (h.kept k).password k = h.password .plain := by
    unfold Hypervisor.password Hypervisor.kept
    cases h.passwordEncrypted with
    | none => rfl
    | some password => exact k.reveal_store password
  unfold Hypervisor.connection
  rw [hpassword]
  rfl

theorem row_kept (k : Safe σ) (id : String) (data : HypervisorCreate) :
    (data.row .plain id).kept k = data.row k id := by
  unfold HypervisorCreate.row Hypervisor.kept
  cases truthyText data.password with
  | none => rfl
  | some password => rfl

theorem applyUpdate_kept (k : Safe σ) (h : Hypervisor String) (data : HypervisorUpdate) :
    applyUpdate k (h.kept k) data = (applyUpdate .plain h data).map (Hypervisor.kept k) := by
  have hpassword : (match data.password.bind truthyText with
      | some password => some (k.store password)
      | none => h.passwordEncrypted.map k.store)
      = (match data.password.bind truthyText with
        | some password => some password
        | none => h.passwordEncrypted).map k.store := by
    cases data.password.bind truthyText with
    | none => rfl
    | some password => rfl
  unfold applyUpdate Hypervisor.kept
  dsimp only
  cases setField h.name data.name with
  | none => rfl
  | some name =>
      cases setField h.apiUrl data.apiUrl with
      | none => rfl
      | some apiUrl =>
          cases setField h.verifySsl data.verifySsl with
          | none => rfl
          | some verifySsl =>
              dsimp only
              rw [hpassword]
              rfl

theorem nameTaken_keeps (h : Keeps k t plain) : nameTaken t = nameTaken plain :=
  funext (fun _ => h.any (fun _ => rfl))

/-- The list shows no password, and so it is the same. -/
theorem listHypervisors_keeps (h : Keeps k t plain) :
    listHypervisors t = listHypervisors plain := by
  obtain ⟨rows, hrows, hrows'⟩ := h
  have hsort : (rows.map (Hypervisor.kept k)).mergeSort (fun a b => a.name ≤ b.name)
      = (rows.mergeSort (fun a b => a.name ≤ b.name)).map (Hypervisor.kept k) :=
    (List.map_mergeSort (f := Hypervisor.kept k) (fun _ _ _ _ => rfl)).symm
  unfold listHypervisors
  rw [hrows, hrows', List.map_id, hsort]
  dsimp only
  rw [List.map_map, List.length_map]
  rfl

/-- A lookup finds a row as it is kept, and the row. -/
theorem get?_keeps (h : Keeps k t plain) (hypervisorId : String) :
    ∃ found : Option (Hypervisor String),
      t.get? hypervisorId = found.map (Hypervisor.kept k) ∧ plain.get? hypervisorId = found := by
  obtain ⟨found, hget, hget'⟩ := h.get? (fun _ => rfl) hypervisorId
  exact ⟨found, hget, by rw [hget', Option.map_id]; rfl⟩

/-- **ONE REQUEST** is answered alike, and leaves the tables alike. -/
theorem answerHypervisor_mirrors (h : Keeps k t plain) (r : HypervisorRequest) :
    (answerHypervisor k probe t r).1 = (answerHypervisor .plain probe plain r).1 ∧
      Keeps k (answerHypervisor k probe t r).2 (answerHypervisor .plain probe plain r).2 := by
  have hkey : ∀ a : Hypervisor String, (a.kept k).id = a.id := fun _ => rfl
  have hnames := nameTaken_keeps h
  cases r with
  | listAll => exact ⟨listHypervisors_keeps h, h⟩
  | create id data =>
      unfold answerHypervisor createHypervisor
      dsimp only
      rw [hnames]
      split
      next => exact ⟨rfl, h⟩
      next =>
        rw [← row_kept]
        exact ⟨rfl, h.insert? hkey (data.row .plain id)⟩
  | «show» id =>
      obtain ⟨found, hget, hget'⟩ := get?_keeps h id
      unfold answerHypervisor
      dsimp only
      rw [hget, hget']
      cases found with
      | none => exact ⟨rfl, h⟩
      | some a => exact ⟨rfl, h⟩
  | update id data =>
      obtain ⟨found, hget, hget'⟩ := get?_keeps h id
      unfold answerHypervisor updateHypervisor
      dsimp only
      rw [hget, hget', hnames]
      cases found with
      | none => exact ⟨rfl, h⟩
      | some a =>
          dsimp only [Option.map_some]
          rw [show (a.kept k).name = a.name from rfl, applyUpdate_kept]
          cases (data.newName a.name).filter (nameTaken plain) with
          | some name => exact ⟨rfl, h⟩
          | none =>
              cases applyUpdate .plain a data with
              | none => exact ⟨rfl, h⟩
              | some a' => exact ⟨rfl, h.put hkey a'⟩
  | delete id =>
      obtain ⟨found, hget, hget'⟩ := get?_keeps h id
      unfold answerHypervisor deleteHypervisor
      dsimp only
      rw [hget, hget']
      cases found with
      | none => exact ⟨rfl, h⟩
      | some a => exact ⟨rfl, h.delete (fun _ => rfl)⟩
  | test id now =>
      obtain ⟨found, hget, hget'⟩ := get?_keeps h id
      unfold answerHypervisor testHypervisorConnection
      dsimp only
      rw [hget, hget']
      cases found with
      | none => exact ⟨rfl, h⟩
      | some a =>
          dsimp only [Option.map_some]
          rw [connection_kept]
          cases probe (a.connection .plain) with
          | ok result => exact ⟨rfl, h.put hkey (a.tested now result)⟩
          | error message => exact ⟨rfl, h.put hkey (a.failed message)⟩
  | list id =>
      obtain ⟨found, hget, hget'⟩ := get?_keeps h id
      unfold answerHypervisor
      dsimp only
      rw [hget, hget']
      cases found with
      | none => exact ⟨rfl, h⟩
      | some a =>
          refine ⟨?_, h⟩
          show HypervisorAnswer.listed ((a.kept k).connection k) = _
          rw [connection_kept]
          rfl

/-! ## §4. Names. -/

/-- No two hypervisors have one name. -/
def NamesApart (t : Hypervisors σ) : Prop := (t.rows.map Hypervisor.name).Nodup

theorem nameTaken_eq_false {name : String} :
    nameTaken t name = false ↔ ∀ h ∈ t.rows, h.name ≠ name := by
  unfold nameTaken
  simp

/-- A row is put with its own name, or with a new one. -/
theorem NamesApart.put (h : NamesApart t) {old new : Hypervisor σ} (hold : old ∈ t.rows)
    (hid : new.id = old.id) (hname : new.name = old.name ∨ nameTaken t new.name = false) :
    NamesApart (t.put new) := by
  refine UniqueTable.nodup_put h ?_
  intro x hx hne hsame
  rcases hname with hname | hname
  · have hxold : x = old := List.inj_on_of_nodup_map h hx hold (hsame.trans hname)
    exact hne (by rw [hxold, hid])
  · exact nameTaken_eq_false.mp hname x hx hsame

theorem NamesApart.insert? (h : NamesApart t) {row : Hypervisor σ}
    (hname : nameTaken t row.name = false) : NamesApart ((t.insert? row).getD t) := by
  cases hinsert : t.insert? row with
  | none => exact h
  | some t' =>
      show (t'.rows.map Hypervisor.name).Nodup
      rw [(Table.insert?_eq_some_iff.mp hinsert).2, List.map_append, List.map_singleton]
      refine List.nodup_append.mpr ⟨h, List.nodup_singleton _, ?_⟩
      intro name hmem new hnew
      rw [List.mem_singleton] at hnew
      obtain ⟨x, hx, rfl⟩ := List.mem_map.mp hmem
      rw [hnew]
      exact nameTaken_eq_false.mp hname x hx

/-- The name of an updated row is the old one, or the one that was looked for. -/
theorem name_applyUpdate {h h' : Hypervisor σ} {data : HypervisorUpdate}
    (happly : applyUpdate k h data = some h')
    (hfree : ((data.newName h.name).filter (nameTaken t)) = none) :
    h'.id = h.id ∧ (h'.name = h.name ∨ nameTaken t h'.name = false) := by
  unfold applyUpdate at happly
  split at happly
  next name apiUrl verifySsl hname _ _ =>
    obtain rfl := Option.some.inj happly
    refine ⟨rfl, ?_⟩
    show name = h.name ∨ nameTaken t name = false
    unfold HypervisorUpdate.newName at hfree
    unfold setField at hname
    cases hdata : data.name with
    | none =>
        rw [hdata] at hname
        exact .inl (Option.some.inj hname).symm
    | some new =>
        rw [hdata] at hname hfree
        obtain rfl : new = some name := hname
        have hnonempty : name ≠ "" := by
          rintro rfl
          exact absurd (data.nameOk "" hdata).1 (by decide)
        by_cases hold : name = h.name
        · exact .inl hold
        · simpa [truthyText, hnonempty, hold] using hfree
  next => cases happly

theorem NamesApart.answered (h : NamesApart t) (r : HypervisorRequest) :
    NamesApart (answerHypervisor k probe t r).2 := by
  cases r with
  | listAll => exact h
  | create id data =>
      unfold answerHypervisor createHypervisor
      dsimp only
      split
      next => exact h
      next hfree => exact NamesApart.insert? h (Bool.not_eq_true _ ▸ hfree)
  | «show» id => exact h
  | update id data =>
      unfold answerHypervisor updateHypervisor
      dsimp only
      split
      next => exact h
      next old hget =>
        obtain ⟨hold, -⟩ := Table.get?_eq_some_iff.mp hget
        split
        next => exact h
        next hfree =>
          split
          next new happly =>
            obtain ⟨hid, hname⟩ := name_applyUpdate happly hfree
            exact h.put hold hid hname
          next => exact h
  | delete id =>
      unfold answerHypervisor deleteHypervisor
      dsimp only
      split
      next => exact h
      next => exact h.sublist (List.filter_sublist.map _)
  | test id now =>
      unfold answerHypervisor testHypervisorConnection
      dsimp only
      split
      next => exact h
      next old hget =>
        obtain ⟨hold, -⟩ := Table.get?_eq_some_iff.mp hget
        split
        next => exact h.put hold rfl (.inl rfl)
        next => exact h.put hold rfl (.inl rfl)
  | list id => exact h

/-! ## §5. Runs. -/

/-- Both tables, and the same answers. -/
def Twins (k : Safe σ) (s : HypervisorApi σ) (plain : HypervisorApi String) : Prop :=
  Keeps k s.table plain.table ∧ s.answers = plain.answers

theorem Twins.exec {s : HypervisorApi σ} {plain : HypervisorApi String} (h : Twins k s plain)
    (r : HypervisorRequest) : Twins k (s.exec k probe r) (plain.exec .plain probe r) := by
  have hstep : (answerHypervisor k probe s.table r).1
        = (answerHypervisor .plain probe plain.table r).1 ∧ _ :=
    answerHypervisor_mirrors h.1 r
  obtain ⟨hanswer, htables⟩ := hstep
  refine ⟨htables, ?_⟩
  show s.answers ++ [_] = plain.answers ++ [_]
  rw [h.2, hanswer]

/-- **PASSWORDS ARE KEPT.**  Every run of requests answers, and connects to the hypervisors, as
if the passwords were kept as they were given; and no two hypervisors have one name. -/
theorem hypervisor_passwords_kept (probe : Connection → Except String HypervisorTestResult)
    (requests : List HypervisorRequest) :
    let s := run (HypervisorApi.exec .base64 probe) {} requests
    let plain := run (HypervisorApi.exec .plain probe) {} requests
    s.answers = plain.answers ∧
    s.table.rows.map (fun h => (h.id, h.connection .base64))
      = plain.table.rows.map (fun h => (h.id, h.connection .plain)) ∧
    (s.table.rows.map Hypervisor.name).Nodup := by
  intro s plain
  have hstep : ∀ (s plain : HypervisorApi String) (r : HypervisorRequest), Twins .base64 s plain →
      Twins .base64 (s.exec .base64 probe r) (plain.exec .plain probe r) :=
    fun _ _ r h => h.exec r
  have htwins : Twins .base64 s plain := run_twins hstep requests ⟨Mirrors.empty, rfl⟩
  have hkeep : ∀ (s : HypervisorApi String) (r : HypervisorRequest), NamesApart s.table →
      NamesApart (s.exec .base64 probe r).table := fun _ r h => h.answered r
  have hnames : NamesApart s.table := run_invariant' hkeep requests List.nodup_nil
  refine ⟨htwins.2, ?_, hnames⟩
  obtain ⟨rows, hrows, hrows'⟩ := htwins.1
  rw [hrows, hrows', List.map_map, List.map_map]
  exact List.map_congr_left (fun h _ => congrArg (Prod.mk h.id) (connection_kept .base64 h))

end PureBoot.Web
