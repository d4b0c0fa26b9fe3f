/-
  PureBoot.Disks.Report — what a DISK REPORT of a node leaves in the table of disks.

  Embeds `receive_disk_report` of `api/routes/disks.py` with the `UniqueConstraint` of
  `DiskInfo`.  The disks of the node are looked up once, before the loop: a device that
  is not among them is added each time that the report names it, and the constraint then
  fails at the flush.

  Sizes of partitions are shown in floating point (`ReportEnv.divide`).  JSON texts are
  kept as the values they encode; the primary keys of disks, that nothing here reads, are
  left out.

  Main results:
    * `report_loop` — what the loop over the report makes of its state;
    * `flush_eq_some_iff` — when the database takes it;
    * `disk_report_iff` — the reports that are an upsert.
-/
import PureBoot.Lib.Dict
import PureBoot.Lifecycle.Staging

namespace PureBoot.Disks

open PureBoot.Lib
open PureBoot.Lifecycle (Exn JsonValue JsonDict configGet)

/-! ## §1. Rows and reports. -/

/-- `db/models.py: DiskInfo`. -/
structure DiskInfo where
  nodeId : String
  device : String
  sizeBytes : Int
  model : Option String
  serial : Option String
  partitionTable : Option String
  partitionsJson : Option (List JsonDict)
  scannedAt : Int
  deriving DecidableEq

/-- `uq_node_device`. -/
def DiskInfo.key (d : DiskInfo) : String × String := (d.nodeId, d.device)

theorem DiskInfo.key_eq {d : DiskInfo} {nodeId device : String} (hnode : d.nodeId = nodeId)
    (hdevice : d.device = device) : d.key = (nodeId, device) := by
  unfold key
  rw [hnode, hdevice]

/-- The columns of `Node` that are used here. -/
structure ScanNode where
  id : String
  diskScanRequestedAt : Option Int
  deriving DecidableEq

structure DB where
  nodes : Table ScanNode.id
  disks : Table DiskInfo.key

/-- `disk_data`, an entry of the report; `none` is a missing field.  A partition that is
no JSON object is `none`. -/
structure DiskEntry where
  device : Option String := none
  sizeBytes : Option Int := none
  model : Option (Option String) := none
  serial : Option (Option String) := none
  partitionTable : Option (Option String) := none
  partitions : List (Option JsonDict) := []

/-- What a report gets from elsewhere. -/
structure ReportEnv where
  now : Int
  Float : Type
  /-- `a / b`; `none` is its exception. -/
  divide : JsonValue → Nat → Option Float
  /-- `x >= 1`. -/
  atLeastOne : Float → Bool
  /-- `f"{x:.1f}"`. -/
  fixed1 : Float → String
  /-- The integer column of the database takes the value. -/
  takes : Int → Bool
  takes_zero : takes 0 = true

/-! ## §2. The handler. -/

/-- The device of an entry that is not skipped. -/
def DiskEntry.deviceName (entry : DiskEntry) : Option String :=
  entry.device.filter (fun device => device ≠ "")

namespace ReportEnv

variable (env : ReportEnv)

/-- `size_human`. -/
def sizeHuman (sizeBytes : JsonValue) : Option String := do
  let sizeGb ← env.divide sizeBytes (1024 ^ 3)
  if env.atLeastOne sizeGb then return env.fixed1 sizeGb ++ " GB"
  else
    let sizeMb ← env.divide sizeBytes (1024 ^ 2)
    return env.fixed1 sizeMb ++ " MB"

/-- `partition_info`; `none` is an exception, and the partition is skipped. -/
def partitionInfo (partition : Option JsonDict) : Option JsonDict := do
  let p ← partition
  let sizeBytes := configGet p "size_bytes" (.int 0)
  let sizeHuman ← env.sizeHuman sizeBytes
  return [("number", configGet p "number" (.int 0)),
    ("start_bytes", configGet p "start_bytes" (.int 0)),
    ("end_bytes", configGet p "end_bytes" (.int 0)),
    ("size_bytes", sizeBytes),
    ("size_human", .str sizeHuman),
    ("type", configGet p "type" (.str "unknown")),
    ("filesystem", configGet p "filesystem"),
    ("label", configGet p "label"),
    ("flags", configGet p "flags" (.other "[]" false)),
    ("used_bytes", configGet p "used_bytes"),
    ("used_percent", configGet p "used_percent"),
    ("can_shrink", configGet p "can_shrink" (.bool false)),
    ("min_size_bytes", configGet p "min_size_bytes")]

/-- `partitions_json`. -/
def partitionsJson (entry : DiskEntry) : Option (List JsonDict) :=
  if entry.partitions.isEmpty then none
  else some (entry.partitions.filterMap env.partitionInfo)

/-- Update an existing record. -/
def updateDisk (disk : DiskInfo) (entry : DiskEntry) : DiskInfo :=
  { disk with
    sizeBytes := entry.sizeBytes.getD disk.sizeBytes
    model := entry.model.getD disk.model
    serial := entry.serial.getD disk.serial
    partitionTable := entry.partitionTable.getD disk.partitionTable
    partitionsJson := env.partitionsJson entry
    scannedAt := env.now }

/-- Create a new record. -/
def createDisk (nodeId device : String) (entry : DiskEntry) : DiskInfo where
  nodeId := nodeId
  device := device
  sizeBytes := entry.sizeBytes.getD 0
  model := entry.model.getD none
  serial := entry.serial.getD none
  partitionTable := entry.partitionTable.getD none
  partitionsJson := env.partitionsJson entry
  scannedAt := env.now

end ReportEnv

/-- The variables of the loop. -/
structure ReportLoop where
  existingDisks : Dict String DiskInfo
  /-- The records of `db.add`. -/
  added : List DiskInfo := []
  reportedDevices : List String := []
  createdCount : Nat := 0
  updatedCount : Nat := 0

/-- One entry of the report. -/
def ReportLoop.step (env : ReportEnv) (nodeId : String) (l : ReportLoop) (entry : DiskEntry) :
    ReportLoop :=
  match entry.deviceName with
  | none => l
  | some device =>
      let reportedDevices :=
        if device ∈ l.reportedDevices then l.reportedDevices else l.reportedDevices ++ [device]
      match l.existingDisks.get device with
      | some disk =>
          { l with
            existingDisks := l.existingDisks.set device (env.updateDisk disk entry)
            reportedDevices := reportedDevices
            updatedCount := l.updatedCount + 1 }
      | none =>
          { l with
            added := l.added ++ [env.createDisk nodeId device entry]
            reportedDevices := reportedDevices
            createdCount := l.createdCount + 1 }

/-- `{d.device: d for d in …}` over the disks of the node. -/
def DB.existingDisks (db : DB) (nodeId : String) : Dict String DiskInfo :=
  Dict.setAll Table.empty
    ((db.disks.rows.filter (fun d => d.nodeId = nodeId)).map (fun d => (d.device, d)))

/-- A stored row with the columns that the loop has given its object. -/
def ReportLoop.written (l : ReportLoop) (nodeId : String) (row : DiskInfo) : DiskInfo :=
  match if row.nodeId = nodeId then l.existingDisks.get row.device else none with
  | some disk =>
      { row with
        sizeBytes := disk.sizeBytes
        model := disk.model
        serial := disk.serial
        partitionTable := disk.partitionTable
        partitionsJson := disk.partitionsJson
        scannedAt := disk.scannedAt }
  | none => row

theorem ReportLoop.written_key (l : ReportLoop) (nodeId : String) (row : DiskInfo) :
    (l.written nodeId row).key = row.key := by
  unfold written
  split <;> rfl

/-- `db.flush()`: the changed columns, then the new rows; `none` is its exception. -/
def DB.flush (env : ReportEnv) (db : DB) (nodeId : String) (l : ReportLoop) :
    Option (Table DiskInfo.key) :=
  let fits (row : DiskInfo) : Bool :=
    (l.written nodeId row).sizeBytes = row.sizeBytes
      || env.takes (l.written nodeId row).sizeBytes
  if db.disks.rows.all fits && l.added.all (fun d => env.takes d.sizeBytes) then
    (db.disks.update (l.written nodeId) (l.written_key nodeId)).insertAll? l.added
  else none

/-- The data of the answer, and of the event `partition.scan_complete`. -/
structure ReportAnswer where
  nodeId : String
  disksReported : Nat
  created : Nat
  updated : Nat
  deriving DecidableEq, Repr

def ReportAnswer.message (a : ReportAnswer) : String :=
  "Disk scan report processed: " ++ toString a.created ++ " created, " ++ toString a.updated
    ++ " updated"

/-- `receive_disk_report`; an exception rolls the session back. -/
def receiveDiskReport (env : ReportEnv) (db : DB) (nodeId : String) (disks : List DiskEntry) :
    Except Exn (ReportAnswer × DB) :=
  match db.nodes.get? nodeId with
  | none => .error (.http 404 "Node not found")
  | some node =>
      let l := disks.foldl (ReportLoop.step env nodeId)
        { existingDisks := db.existingDisks nodeId }
      match db.flush env nodeId l with
      | none => .error .integrityError
      | some table =>
          .ok ({ nodeId := nodeId
                 disksReported := l.reportedDevices.length
                 created := l.createdCount
                 updated := l.updatedCount },
            { nodes := db.nodes.put { node with diskScanRequestedAt := none }, disks := table })

/-! ## §3. Upserts. -/

/-- The entries of a report for one device. -/
def entriesOf (disks : List DiskEntry) (device : String) : List DiskEntry :=
  disks.filter (fun entry => entry.deviceName = some device)

/-- The last value of a field that may be missing. -/
def lastNamed {α : Type} (field : DiskEntry → Option α) (entries : List DiskEntry) : Option α :=
  (entries.filterMap field).getLast?

/-- A disk carries what the last of its entries says; a missing field keeps its value. -/
structure CarriesLast (env : ReportEnv) (entries : List DiskEntry) (before : Option DiskInfo)
    (d : DiskInfo) : Prop where
  sizeBytes : d.sizeBytes
    = (lastNamed DiskEntry.sizeBytes entries).getD ((before.map DiskInfo.sizeBytes).getD 0)
  model : d.model = (lastNamed DiskEntry.model entries).getD (before.bind DiskInfo.model)
  serial : d.serial = (lastNamed DiskEntry.serial entries).getD (before.bind DiskInfo.serial)
  partitionTable : d.partitionTable
    = (lastNamed DiskEntry.partitionTable entries).getD (before.bind DiskInfo.partitionTable)
  partitions : ∀ entry, entries.getLast? = some entry →
    d.partitionsJson = env.partitionsJson entry

/-- **THE REPORT IS AN UPSERT**: it succeeds and leaves these disks. -/
structure Upserted (env : ReportEnv) (db : DB) (nodeId : String) (disks : List DiskEntry)
    (db' : DB) : Prop where
  succeeds : ∃ answer, receiveDiskReport env db nodeId disks = .ok (answer, db')
  /-- One disk for each device that was stored or reported. -/
  one : ∀ device, db'.disks.rows.countP (fun d => d.nodeId = nodeId && d.device = device)
    = if (db.disks.get? (nodeId, device)).isSome ∨ entriesOf disks device ≠ [] then 1 else 0
  carried : ∀ d ∈ db'.disks.rows, d.nodeId = nodeId → entriesOf disks d.device ≠ [] →
    CarriesLast env (entriesOf disks d.device) (db.disks.get? (nodeId, d.device)) d
  others : ∀ d, ¬ (d.nodeId = nodeId ∧ entriesOf disks d.device ≠ []) →
    (d ∈ db'.disks.rows ↔ d ∈ db.disks.rows)

/-- No device that is not stored is named twice. -/
def NewNamedOnce (db : DB) (nodeId : String) (disks : List DiskEntry) : Prop :=
  ∀ device, db.disks.get? (nodeId, device) = none → (entriesOf disks device).length ≤ 1

/-- The column takes the last size of each device, where it is not the stored one. -/
def SizesFit (env : ReportEnv) (db : DB) (nodeId : String) (disks : List DiskEntry) : Prop :=
  ∀ device size, lastNamed DiskEntry.sizeBytes (entriesOf disks device) = some size →
    (∃ d, db.disks.get? (nodeId, device) = some d ∧ size = d.sizeBytes) ∨ env.takes size = true

/-! ## §4. One disk and its entries. -/

/-- A field that is overwritten wherever it is named ends with the last value named. -/
theorem foldl_getD {α : Type} (field : DiskEntry → Option α) (entries : List DiskEntry) (v : α) :
    entries.foldl (fun v entry => (field entry).getD v) v = (lastNamed field entries).getD v := by
  unfold lastNamed
  induction entries generalizing v with
  | nil => rfl
  | cons entry entries ih =>
      rw [List.foldl_cons, ih]
      cases hfield : field entry with
      | none => rw [List.filterMap_cons_none hfield, Option.getD_none]
      | some x =>
          rw [List.filterMap_cons_some hfield, List.getLast?_cons, Option.getD_some,
            Option.getD_some]

section Entries

variable (env : ReportEnv) (nodeId : String)

/-- A field of a disk after several entries, by the field after one. -/
theorem foldl_updateDisk {α : Type} (column : DiskInfo → α) (field : DiskEntry → Option α)
    (hcolumn : ∀ d entry, column (env.updateDisk d entry) = (field entry).getD (column d))
    (entries : List DiskEntry) (d : DiskInfo) :
    column (entries.foldl env.updateDisk d) = (lastNamed field entries).getD (column d) := by
  rw [← foldl_getD]
  induction entries generalizing d with
  | nil => rfl
  | cons entry entries ih => rw [List.foldl_cons, List.foldl_cons, ih, hcolumn]

theorem partitionsJson_foldl {entries : List DiskEntry} {entry : DiskEntry}
    (h : entries.getLast? = some entry) (d : DiskInfo) :
    (entries.foldl env.updateDisk d).partitionsJson = env.partitionsJson entry := by
  obtain ⟨before, rfl⟩ := List.getLast?_eq_some_iff.mp h
  rw [List.foldl_append]
  rfl

/-- The record before anything is named. -/
def blankDisk (device : String) : DiskInfo where
  nodeId := nodeId
  device := device
  sizeBytes := 0
  model := none
  serial := none
  partitionTable := none
  partitionsJson := none
  scannedAt := env.now

theorem createDisk_eq (device : String) (entry : DiskEntry) :
    env.createDisk nodeId device entry = env.updateDisk (blankDisk env nodeId device) entry := rfl

/-- A disk that its entries have been written to, one after another. -/
theorem carriesLast_foldl {d e : DiskInfo} (entries : List DiskEntry)
    (hsize : e.sizeBytes = (entries.foldl env.updateDisk d).sizeBytes)
    (hmodel : e.model = (entries.foldl env.updateDisk d).model)
    (hserial : e.serial = (entries.foldl env.updateDisk d).serial)
    (htable : e.partitionTable = (entries.foldl env.updateDisk d).partitionTable)
    (hpartitions : e.partitionsJson = (entries.foldl env.updateDisk d).partitionsJson) :
    CarriesLast env entries (some d) e where
  sizeBytes := by
    rw [hsize, foldl_updateDisk env DiskInfo.sizeBytes DiskEntry.sizeBytes (fun _ _ => rfl)]
    rfl
  model := by
    rw [hmodel, foldl_updateDisk env DiskInfo.model DiskEntry.model (fun _ _ => rfl)]
    rfl
  serial := by
    rw [hserial, foldl_updateDisk env DiskInfo.serial DiskEntry.serial (fun _ _ => rfl)]
    rfl
  partitionTable := by
    rw [htable, foldl_updateDisk env DiskInfo.partitionTable DiskEntry.partitionTable
      (fun _ _ => rfl)]
    rfl
  partitions := by
    intro entry hlast
    rw [hpartitions]
    exact partitionsJson_foldl env hlast d

end Entries

/-! ## §5. The loop. -/

section Loop

variable (env : ReportEnv) (nodeId : String)

/-- The record that an entry adds, by the devices that are stored. -/
def newDisk (stored : String → Bool) (entry : DiskEntry) : Option DiskInfo :=
  entry.deviceName.bind fun device =>
    if stored device then none else some (env.createDisk nodeId device entry)

theorem entriesOf_cons (entry : DiskEntry) (disks : List DiskEntry) (device : String) :
    entriesOf (entry :: disks) device
      = if entry.deviceName = some device then entry :: entriesOf disks device
        else entriesOf disks device := by
  unfold entriesOf
  by_cases hname : entry.deviceName = some device <;> simp [hname]

theorem step_get (l : ReportLoop) (entry : DiskEntry) (device : String) :
    (l.step env nodeId entry).existingDisks.get device
      = (l.existingDisks.get device).map (fun d =>
          if entry.deviceName = some device then env.updateDisk d entry else d) := by
  unfold ReportLoop.step
  cases hname : entry.deviceName with
  | none => simp
  | some named =>
      dsimp only
      cases hget : l.existingDisks.get named with
      | some disk =>
          dsimp only
          rw [Dict.get_set]
          by_cases hdevice : device = named
          · rw [if_pos hdevice, hdevice, hget, Option.map_some, if_pos rfl]
          · rw [if_neg hdevice]
            simp [Ne.symm hdevice]
      | none =>
          dsimp only
          by_cases hdevice : device = named
          · rw [hdevice, hget]
            rfl
          · simp [Ne.symm hdevice]

theorem step_added (l : ReportLoop) (entry : DiskEntry) :
    (l.step env nodeId entry).added
      = l.added ++ (newDisk env nodeId (fun d => (l.existingDisks.get d).isSome) entry).toList := by
  unfold ReportLoop.step newDisk
  cases entry.deviceName with
  | none => exact (List.append_nil _).symm
  | some named =>
      cases hget : l.existingDisks.get named with
      | some disk => simp [hget]
      | none => simp [hget]

/-- **THE LOOP** writes the entries of each stored device to it, one after another, and adds
a record for each entry of another one. -/
theorem report_loop (disks : List DiskEntry) (l : ReportLoop) :
    (∀ device, (disks.foldl (ReportLoop.step env nodeId) l).existingDisks.get device
      = (l.existingDisks.get device).map (fun d =>
          (entriesOf disks device).foldl env.updateDisk d))
    ∧ (disks.foldl (ReportLoop.step env nodeId) l).added
      = l.added ++ disks.filterMap
          (newDisk env nodeId (fun d => (l.existingDisks.get d).isSome)) := by
  induction disks generalizing l with
  | nil => simp [entriesOf]
  | cons entry disks ih =>
      obtain ⟨hget, hadded⟩ := ih (l.step env nodeId entry)
      rw [List.foldl_cons]
      constructor
      · intro device
        rw [hget, step_get, Option.map_map]
        congr 1
        funext d
        rw [Function.comp_apply, entriesOf_cons]
        by_cases hname : entry.deviceName = some device
        · rw [if_pos hname, if_pos hname, List.foldl_cons]
        · rw [if_neg hname, if_neg hname]
      · -- the devices that are stored stay the same
        have hstored : (fun d => ((l.step env nodeId entry).existingDisks.get d).isSome)
            = fun d => (l.existingDisks.get d).isSome := by
          funext d
          rw [step_get, Option.isSome_map]
        rw [hadded, step_added, hstored, List.append_assoc]
        congr 1
        cases hnew : newDisk env nodeId (fun d => (l.existingDisks.get d).isSome) entry with
        | none => rw [List.filterMap_cons_none hnew]; rfl
        | some d => rw [List.filterMap_cons_some hnew]; rfl

/-- The look-up before the loop finds what is stored. -/
theorem get_existingDisks (db : DB) (device : String) :
    (db.existingDisks nodeId).get device = db.disks.get? (nodeId, device) := by
  have hnodup : (((db.disks.rows.filter (fun d => d.nodeId = nodeId)).map
      (fun d => (d.device, d))).map Prod.fst).Nodup := by
    rw [List.map_map]
    exact Table.nodup_pairs_iff.mp db.disks.nodup nodeId
  unfold DB.existingDisks
  cases hget : db.disks.get? (nodeId, device) with
  | some d =>
      obtain ⟨hd, hkey⟩ := Table.get?_eq_some_iff.mp hget
      obtain ⟨hnode, rfl⟩ := Prod.mk.inj hkey
      refine Dict.get_setAll_of_nodup _ hnodup (List.mem_map.mpr ⟨d, ?_, rfl⟩)
      exact List.mem_filter.mpr ⟨hd, decide_eq_true hnode⟩
  | none =>
      rw [Dict.get_setAll, Dict.lastValue_eq_none]
      · rfl
      · intro hmem
        rw [List.map_map] at hmem
        obtain ⟨d, hd, hdevice⟩ := List.mem_map.mp hmem
        obtain ⟨hd, hnode⟩ := List.mem_filter.mp hd
        have hsome := Table.get?_eq_some_iff.mpr
          ⟨hd, DiskInfo.key_eq (of_decide_eq_true hnode) hdevice⟩
        rw [hget] at hsome
        cases hsome

/-- The state of the loop at its end. -/
def loopEnd (db : DB) (disks : List DiskEntry) : ReportLoop :=
  disks.foldl (ReportLoop.step env nodeId) { existingDisks := db.existingDisks nodeId }

/-- The records that a report adds. -/
def newDisks (db : DB) (disks : List DiskEntry) : List DiskInfo :=
  disks.filterMap (newDisk env nodeId (fun d => (db.disks.get? (nodeId, d)).isSome))

theorem loopEnd_added (db : DB) (disks : List DiskEntry) :
    (loopEnd env nodeId db disks).added = newDisks env nodeId db disks := by
  unfold loopEnd newDisks
  rw [(report_loop env nodeId disks _).2, List.nil_append]
  simp only [get_existingDisks]

theorem foldl_updateDisk_key (entries : List DiskEntry) (d : DiskInfo) :
    (entries.foldl env.updateDisk d).nodeId = d.nodeId
      ∧ (entries.foldl env.updateDisk d).device = d.device := by
  induction entries generalizing d with
  | nil => exact ⟨rfl, rfl⟩
  | cons entry entries ih => exact ih (env.updateDisk d entry)

/-- A stored disk of the node is written all its entries. -/
theorem written_eq {db : DB} {row : DiskInfo} (hrow : row ∈ db.disks.rows)
    (hnode : row.nodeId = nodeId) (disks : List DiskEntry) :
    (loopEnd env nodeId db disks).written nodeId row
      = (entriesOf disks row.device).foldl env.updateDisk row := by
  have hget : (loopEnd env nodeId db disks).existingDisks.get row.device
      = some ((entriesOf disks row.device).foldl env.updateDisk row) := by
    unfold loopEnd
    rw [(report_loop env nodeId disks _).1, get_existingDisks,
      Table.get?_eq_some_iff.mpr ⟨hrow, DiskInfo.key_eq hnode rfl⟩]
    rfl
  obtain ⟨hkeyNode, hkeyDevice⟩ :=
    foldl_updateDisk_key env (entriesOf disks row.device) row
  unfold ReportLoop.written
  rw [if_pos hnode, hget]
  generalize (entriesOf disks row.device).foldl env.updateDisk row = disk at hkeyNode hkeyDevice ⊢
  cases disk
  dsimp only at hkeyNode hkeyDevice ⊢
  rw [hkeyNode, hkeyDevice]

theorem written_other {db : DB} {row : DiskInfo} (hnode : row.nodeId ≠ nodeId)
    (disks : List DiskEntry) : (loopEnd env nodeId db disks).written nodeId row = row := by
  unfold ReportLoop.written
  rw [if_neg hnode]

theorem written_unreported {db : DB} {row : DiskInfo} (hrow : row ∈ db.disks.rows)
    {disks : List DiskEntry} (h : entriesOf disks row.device = []) :
    (loopEnd env nodeId db disks).written nodeId row = row := by
  by_cases hnode : row.nodeId = nodeId
  · rw [written_eq env nodeId hrow hnode, h]
    rfl
  · exact written_other env nodeId hnode disks

end Loop

/-! ## §6. The flush. -/

/-- **THE FLUSH** succeeds exactly if the column takes the sizes and no device is there
twice. -/
theorem flush_eq_some_iff {env : ReportEnv} {db : DB} {nodeId : String} {l : ReportLoop}
    {t : Table DiskInfo.key} :
    db.flush env nodeId l = some t
      ↔ (∀ row ∈ db.disks.rows, (l.written nodeId row).sizeBytes = row.sizeBytes
            ∨ env.takes (l.written nodeId row).sizeBytes = true)
        ∧ (∀ d ∈ l.added, env.takes d.sizeBytes = true)
        ∧ (db.disks.rows.map DiskInfo.key ++ l.added.map DiskInfo.key).Nodup
        ∧ t.rows = db.disks.rows.map (l.written nodeId) ++ l.added := by
  have hkeys : (db.disks.update (l.written nodeId) (l.written_key nodeId)).rows.map DiskInfo.key
      = db.disks.rows.map DiskInfo.key := by
    show (db.disks.rows.map (l.written nodeId)).map DiskInfo.key = _
    rw [List.map_map]
    exact List.map_congr_left (fun row _ => l.written_key nodeId row)
  unfold DB.flush
  rw [← hkeys, ← and_assoc]
  dsimp only
  split
  next hfits =>
    simp only [Bool.and_eq_true, List.all_eq_true, Bool.or_eq_true, decide_eq_true_eq] at hfits
    rw [Table.insertAll?_eq_some_iff]
    exact (and_iff_right hfits).symm
  next hfits =>
    simp only [Bool.and_eq_true, List.all_eq_true, Bool.or_eq_true, decide_eq_true_eq] at hfits
    constructor
    · intro h
      cases h
    · exact fun h => absurd h.1 hfits

section Added

variable {env : ReportEnv} {db : DB} {nodeId : String} {disks : List DiskEntry}

theorem mem_entriesOf {entry : DiskEntry} {device : String} :
    entry ∈ entriesOf disks device ↔ entry ∈ disks ∧ entry.deviceName = some device := by
  unfold entriesOf
  rw [List.mem_filter, decide_eq_true_eq]

theorem newDisk_of_name {stored : String → Bool} {entry : DiskEntry} {device : String}
    (h : entry.deviceName = some device) :
    newDisk env nodeId stored entry
      = if stored device then none else some (env.createDisk nodeId device entry) := by
  unfold newDisk
  rw [h]
  rfl

theorem mem_newDisks {d : DiskInfo} :
    d ∈ newDisks env nodeId db disks
      ↔ ∃ device entry, db.disks.get? (nodeId, device) = none ∧ entry ∈ entriesOf disks device
        ∧ d = env.createDisk nodeId device entry := by
  unfold newDisks
  rw [List.mem_filterMap]
  constructor
  · rintro ⟨entry, hentry, hd⟩
    obtain ⟨device, hname, -⟩ := Option.bind_eq_some_iff.mp hd
    rw [newDisk_of_name hname] at hd
    split at hd
    next => cases hd
    next hnew =>
      exact ⟨device, entry, by simpa using hnew, mem_entriesOf.mpr ⟨hentry, hname⟩,
        (Option.some.inj hd).symm⟩
  · rintro ⟨device, entry, hget, hentry, rfl⟩
    obtain ⟨hentry, hname⟩ := mem_entriesOf.mp hentry
    refine ⟨entry, hentry, ?_⟩
    rw [newDisk_of_name hname, if_neg (by simp [hget])]

/-- A device that is not stored is added once for each of its entries. -/
theorem count_newDisks (device : String) :
    ((newDisks env nodeId db disks).map DiskInfo.device).count device
      = if db.disks.get? (nodeId, device) = none then (entriesOf disks device).length else 0 := by
  unfold newDisks
  induction disks with
  | nil => simp [entriesOf]
  | cons entry disks ih =>
      rw [entriesOf_cons]
      cases hname : entry.deviceName with
      | none =>
          rw [List.filterMap_cons_none (by unfold newDisk; rw [hname]; rfl), ih,
            if_neg (c := none = some device) (by simp)]
      | some named =>
          have hnew : newDisk env nodeId (fun d => (db.disks.get? (nodeId, d)).isSome) entry = _ :=
            newDisk_of_name hname
          cases hget : db.disks.get? (nodeId, named) with
          | some stored =>
              rw [if_pos (by simp [hget])] at hnew
              rw [List.filterMap_cons_none hnew, ih]
              by_cases hdevice : named = device
              · rw [← hdevice, hget]
                simp
              · rw [if_neg (fun h : some named = some device => hdevice (Option.some.inj h))]
          | none =>
              rw [if_neg (by simp [hget])] at hnew
              rw [List.filterMap_cons_some hnew, List.map_cons, List.count_cons, ih]
              by_cases hdevice : named = device
              · rw [← hdevice, hget]
                simp [ReportEnv.createDisk]
              · rw [if_neg (fun h : some named = some device => hdevice (Option.some.inj h))]
                simp [ReportEnv.createDisk, hdevice]

/-- No key is there twice exactly if no device that is not stored is named twice. -/
theorem nodup_newDisks_iff :
    (db.disks.rows.map DiskInfo.key ++ (newDisks env nodeId db disks).map DiskInfo.key).Nodup
      ↔ NewNamedOnce db nodeId disks := by
  have hkeys : (newDisks env nodeId db disks).map DiskInfo.key
      = ((newDisks env nodeId db disks).map DiskInfo.device).map (fun d => (nodeId, d)) := by
    rw [List.map_map]
    refine List.map_congr_left (fun d hd => ?_)
    obtain ⟨device, entry, -, -, rfl⟩ := mem_newDisks.mp hd
    rfl
  have hdisjoint : ∀ k ∈ db.disks.rows.map DiskInfo.key,
      ∀ k' ∈ (newDisks env nodeId db disks).map DiskInfo.key, k ≠ k' := by
    rintro k hk k' hk' rfl
    obtain ⟨row, hrow, hkey⟩ := List.mem_map.mp hk
    obtain ⟨d, hd, rfl⟩ := List.mem_map.mp hk'
    obtain ⟨device, entry, hget, -, rfl⟩ := mem_newDisks.mp hd
    have hsome := Table.get?_eq_some_iff.mpr ⟨hrow, hkey⟩
    exact absurd (hsome.symm.trans hget) (Option.some_ne_none row)
  have hinjective : Function.Injective (fun d : String => (nodeId, d)) :=
    fun _ _ h => (Prod.mk.inj h).2
  rw [List.nodup_append, and_iff_right db.disks.nodup, and_iff_left hdisjoint, hkeys,
    List.nodup_map_iff hinjective, List.nodup_iff_count_le_one]
  unfold NewNamedOnce
  refine forall_congr' (fun device => ?_)
  rw [count_newDisks]
  by_cases hget : db.disks.get? (nodeId, device) = none
  · simp [hget]
  · simp [hget]

end Added

/-! ## §7. The reports that are an upsert. -/

section Upsert

variable {env : ReportEnv} {db : DB} {nodeId : String} {disks : List DiskEntry}

/-- A report returns exactly if the flush does. -/
theorem receiveDiskReport_returns_iff {answer : ReportAnswer} {db' : DB}
    (h : receiveDiskReport env db nodeId disks = .ok (answer, db')) :
    db.flush env nodeId (loopEnd env nodeId db disks) = some db'.disks := by
  unfold receiveDiskReport at h
  split at h
  next => cases h
  next node hnode =>
    dsimp only at h
    split at h
    next => cases h
    next t hflush =>
      obtain rfl := (Prod.mk.inj (Except.ok.inj h)).2
      exact hflush

theorem receiveDiskReport_of_flush {t : Table DiskInfo.key}
    (hnode : ∃ node ∈ db.nodes.rows, node.id = nodeId)
    (h : db.flush env nodeId (loopEnd env nodeId db disks) = some t) :
    ∃ answer db', receiveDiskReport env db nodeId disks = .ok (answer, db') ∧ db'.disks = t := by
  obtain ⟨node, hnode⟩ := hnode
  unfold receiveDiskReport
  rw [Table.get?_eq_some_iff.mpr hnode]
  dsimp only
  rw [show disks.foldl (ReportLoop.step env nodeId)
    { existingDisks := db.existingDisks nodeId } = loopEnd env nodeId db disks from rfl, h]
  exact ⟨_, _, rfl, rfl⟩

/-- What a flushed report leaves. -/
theorem mem_flushed_iff {t : Table DiskInfo.key}
    (h : t.rows = db.disks.rows.map ((loopEnd env nodeId db disks).written nodeId)
      ++ newDisks env nodeId db disks) {d : DiskInfo} :
    d ∈ t.rows ↔
      (∃ row ∈ db.disks.rows, d = (loopEnd env nodeId db disks).written nodeId row)
      ∨ ∃ device entry, db.disks.get? (nodeId, device) = none ∧ entry ∈ entriesOf disks device
        ∧ d = env.createDisk nodeId device entry := by
  rw [h, List.mem_append, List.mem_map, mem_newDisks]
  simp only [eq_comm]

theorem eq_singleton_of_length_le {entries : List DiskEntry} (h : entries.length ≤ 1)
    {entry : DiskEntry} (hmem : entry ∈ entries) : entries = [entry] := by
  obtain ⟨e, he⟩ := List.length_eq_one_iff.mp (le_antisymm h (List.length_pos_of_mem hmem))
  rw [he] at hmem ⊢
  rw [List.mem_singleton.mp hmem]

theorem get?_isSome_iff {t : Table DiskInfo.key} {device : String} :
    (t.get? (nodeId, device)).isSome = true ↔ ∃ d ∈ t.rows, d.key = (nodeId, device) := by
  rw [Option.isSome_iff_exists]
  exact exists_congr (fun _ => Table.get?_eq_some_iff)

/-- The written columns of a stored row, in and out of the report. -/
theorem written_unchanged {row : DiskInfo} (hrow : row ∈ db.disks.rows)
    (h : ¬ (row.nodeId = nodeId ∧ entriesOf disks row.device ≠ [])) :
    (loopEnd env nodeId db disks).written nodeId row = row := by
  by_cases hnode : row.nodeId = nodeId
  · exact written_unreported env nodeId hrow (not_not.mp (fun hne => h ⟨hnode, hne⟩))
  · exact written_other env nodeId hnode disks

/-- The devices of the node after a report. -/
theorem flushed_devices {t : Table DiskInfo.key}
    (h : t.rows = db.disks.rows.map ((loopEnd env nodeId db disks).written nodeId)
      ++ newDisks env nodeId db disks) (device : String) :
    (t.get? (nodeId, device)).isSome = true
      ↔ (db.disks.get? (nodeId, device)).isSome = true ∨ entriesOf disks device ≠ [] := by
  rw [get?_isSome_iff, get?_isSome_iff]
  constructor
  · rintro ⟨d, hd, hkey⟩
    rcases (mem_flushed_iff h).mp hd with ⟨row, hrow, rfl⟩ | ⟨device', entry, -, hentry, rfl⟩
    · rw [ReportLoop.written_key] at hkey
      exact .inl ⟨row, hrow, hkey⟩
    · obtain rfl : device' = device := (Prod.mk.inj hkey).2
      exact .inr (List.ne_nil_of_mem hentry)
  · intro hcases
    cases hget : db.disks.get? (nodeId, device) with
    | some row =>
        obtain ⟨hrow, hkey⟩ := Table.get?_eq_some_iff.mp hget
        exact ⟨_, (mem_flushed_iff h).mpr (.inl ⟨row, hrow, rfl⟩),
          (ReportLoop.written_key _ _ row).trans hkey⟩
    | none =>
        rcases hcases with ⟨row, hrow⟩ | hreported
        · rw [Table.get?_eq_some_iff.mpr hrow] at hget
          cases hget
        · obtain ⟨entry, hentry⟩ := List.exists_mem_of_ne_nil _ hreported
          exact ⟨_, (mem_flushed_iff h).mpr (.inr ⟨device, entry, hget, hentry, rfl⟩), rfl⟩

/-- A report that is flushed is an upsert. -/
theorem upserted_of_flush {db' : DB} (honce : NewNamedOnce db nodeId disks)
    (hreturns : ∃ answer, receiveDiskReport env db nodeId disks = .ok (answer, db')) :
    Upserted env db nodeId disks db' := by
  obtain ⟨answer, hreport⟩ := hreturns
  obtain ⟨-, -, -, hrows⟩ := flush_eq_some_iff.mp (receiveDiskReport_returns_iff hreport)
  rw [loopEnd_added] at hrows
  refine ⟨⟨answer, hreport⟩, ?_, ?_, ?_⟩
  · intro device
    have hpred : (fun d : DiskInfo => decide (d.nodeId = nodeId) && decide (d.device = device))
        = fun d => decide (d.key = (nodeId, device)) := by
      funext d
      unfold DiskInfo.key
      simp [Prod.ext_iff]
    rw [hpred, List.countP_eq_length_filter, Table.filter_key_eq]
    cases hget : db'.disks.get? (nodeId, device) with
    | some d => rw [if_pos ((flushed_devices hrows device).mp (by rw [hget]; rfl))]; rfl
    | none =>
        rw [if_neg]
        · rfl
        · intro h
          have hsome := (flushed_devices hrows device).mpr h
          rw [hget] at hsome
          cases hsome
  · intro d hd hnode hreported
    rcases (mem_flushed_iff hrows).mp hd with ⟨row, hrow, rfl⟩ | ⟨device, entry, hget, hentry, rfl⟩
    · obtain ⟨hkeyNode, hkeyDevice⟩ :=
        Prod.mk.inj ((loopEnd env nodeId db disks).written_key nodeId row)
      rw [hkeyNode] at hnode
      rw [hkeyDevice, Table.get?_eq_some_iff.mpr ⟨hrow, DiskInfo.key_eq hnode rfl⟩,
        written_eq env nodeId hrow hnode]
      exact carriesLast_foldl env _ rfl rfl rfl rfl rfl
    · have hone := eq_singleton_of_length_le (honce device hget) hentry
      show CarriesLast env (entriesOf disks device) (db.disks.get? (nodeId, device)) _
      rw [hget, hone]
      -- a new record is the blank one with the entry written to it
      obtain ⟨hsize, hmodel, hserial, htable, hpartitions⟩ := carriesLast_foldl env
        (d := blankDisk env nodeId device) (e := env.createDisk nodeId device entry) [entry]
        rfl rfl rfl rfl rfl
      exact ⟨hsize, hmodel, hserial, htable, hpartitions⟩
  · intro d hother
    rw [mem_flushed_iff hrows]
    constructor
    · rintro (⟨row, hrow, rfl⟩ | ⟨device, entry, -, hentry, rfl⟩)
      · obtain ⟨hkeyNode, hkeyDevice⟩ :=
          Prod.mk.inj ((loopEnd env nodeId db disks).written_key nodeId row)
        rw [hkeyNode, hkeyDevice] at hother
        rw [written_unchanged hrow hother]
        exact hrow
      · exact absurd ⟨rfl, List.ne_nil_of_mem hentry⟩ hother
    · intro hd
      exact .inl ⟨d, hd, (written_unchanged hd hother).symm⟩

/-- A stored row is written the last size that is named for its device. -/
theorem written_sizeBytes {row : DiskInfo} (hrow : row ∈ db.disks.rows)
    (hnode : row.nodeId = nodeId) :
    ((loopEnd env nodeId db disks).written nodeId row).sizeBytes
      = (lastNamed DiskEntry.sizeBytes (entriesOf disks row.device)).getD row.sizeBytes := by
  rw [written_eq env nodeId hrow hnode]
  exact foldl_updateDisk env DiskInfo.sizeBytes DiskEntry.sizeBytes (fun _ _ => rfl) _ _

/-- A new device, which one entry names, is given that entry's size, or 0. -/
theorem created_sizeBytes (honce : NewNamedOnce db nodeId disks) {device : String}
    (hget : db.disks.get? (nodeId, device) = none) {entry : DiskEntry}
    (hentry : entry ∈ entriesOf disks device) :
    (env.createDisk nodeId device entry).sizeBytes
      = (lastNamed DiskEntry.sizeBytes (entriesOf disks device)).getD 0 := by
  rw [eq_singleton_of_length_le (honce device hget) hentry, createDisk_eq]
  exact foldl_updateDisk env DiskInfo.sizeBytes DiskEntry.sizeBytes (fun _ _ => rfl) [entry]
    (blankDisk env nodeId device)

/-- The sizes that a flush writes, by what the report names. -/
theorem sizes_flushed_iff (honce : NewNamedOnce db nodeId disks) :
    ((∀ row ∈ db.disks.rows,
        ((loopEnd env nodeId db disks).written nodeId row).sizeBytes = row.sizeBytes
          ∨ env.takes ((loopEnd env nodeId db disks).written nodeId row).sizeBytes = true)
      ∧ ∀ d ∈ newDisks env nodeId db disks, env.takes d.sizeBytes = true)
      ↔ SizesFit env db nodeId disks := by
  constructor
  · rintro ⟨hstored, hnew⟩ device size hsize
    cases hget : db.disks.get? (nodeId, device) with
    | some row =>
        obtain ⟨hrow, hkey⟩ := Table.get?_eq_some_iff.mp hget
        obtain ⟨hnode, rfl⟩ := Prod.mk.inj hkey
        have hwritten := hstored row hrow
        rw [written_sizeBytes hrow hnode, hsize, Option.getD_some] at hwritten
        exact hwritten.imp_left (fun h => ⟨row, rfl, h⟩)
    | none =>
        have hne : entriesOf disks device ≠ [] := by
          intro hnil
          rw [hnil] at hsize
          cases hsize
        obtain ⟨entry, hentry⟩ := List.exists_mem_of_ne_nil _ hne
        have htakes := hnew _ (mem_newDisks.mpr ⟨device, entry, hget, hentry, rfl⟩)
        rw [created_sizeBytes honce hget hentry, hsize, Option.getD_some] at htakes
        exact .inr htakes
  · intro hfit
    constructor
    · intro row hrow
      by_cases hnode : row.nodeId = nodeId
      · rw [written_sizeBytes hrow hnode]
        cases hsize : lastNamed DiskEntry.sizeBytes (entriesOf disks row.device) with
        | none => exact .inl rfl
        | some size =>
            rcases hfit row.device size hsize with ⟨d, hd, rfl⟩ | htakes
            · rw [Table.get?_eq_some_iff.mpr ⟨hrow, DiskInfo.key_eq hnode rfl⟩] at hd
              exact .inl (congrArg DiskInfo.sizeBytes (Option.some.inj hd)).symm
            · exact .inr htakes
      · rw [written_other env nodeId hnode]
        exact .inl rfl
    · intro d hd
      obtain ⟨device, entry, hget, hentry, rfl⟩ := mem_newDisks.mp hd
      rw [created_sizeBytes honce hget hentry]
      cases hsize : lastNamed DiskEntry.sizeBytes (entriesOf disks device) with
      | none => exact env.takes_zero
      | some size =>
          rcases hfit device size hsize with ⟨d, hd, -⟩ | htakes
          · rw [hget] at hd
            cases hd
          · exact htakes

/-- **DISK REPORTS**: a report is an upsert exactly if no new device is named twice and the
sizes fit. -/
theorem disk_report_iff (hnode : ∃ node ∈ db.nodes.rows, node.id = nodeId) :
    (∃ db', Upserted env db nodeId disks db')
      ↔ NewNamedOnce db nodeId disks ∧ SizesFit env db nodeId disks := by
  constructor
  · rintro ⟨db', hupserted⟩
    obtain ⟨answer, hreport⟩ := hupserted.succeeds
    obtain ⟨hstored, hnew, hnodup, -⟩ :=
      flush_eq_some_iff.mp (receiveDiskReport_returns_iff hreport)
    rw [loopEnd_added] at hnew hnodup
    have honce := nodup_newDisks_iff.mp hnodup
    exact ⟨honce, (sizes_flushed_iff honce).mp ⟨hstored, hnew⟩⟩
  · rintro ⟨honce, hfit⟩
    obtain ⟨hstored, hnew⟩ := (sizes_flushed_iff honce).mpr hfit
    have hnodup : (db.disks.rows.map DiskInfo.key
        ++ (newDisks env nodeId db disks).map DiskInfo.key).Nodup := nodup_newDisks_iff.mpr honce
    rw [← loopEnd_added] at hnew hnodup
    have hkeys : ((db.disks.rows.map ((loopEnd env nodeId db disks).written nodeId)
        ++ (loopEnd env nodeId db disks).added).map DiskInfo.key).Nodup := by
      rw [List.map_append, List.map_map, List.map_congr_left (g := DiskInfo.key)]
      · exact hnodup
      · exact fun row _ => ReportLoop.written_key _ _ row
    obtain ⟨answer, db', hreport, -⟩ := receiveDiskReport_of_flush hnode
      (flush_eq_some_iff.mpr ⟨hstored, hnew, hnodup, rfl⟩ :
        _ = some (Table.mk _ hkeys))
    exact ⟨db', upserted_of_flush honce ⟨answer, hreport⟩⟩

end Upsert

/-- A database that takes every size; no partition is reported. -/
def wideEnv : ReportEnv where
  now := 0
  Float := Unit
  divide := fun _ _ => none
  atLeastOne := fun _ => false
  fixed1 := fun _ => ""
  takes := fun _ => true
  takes_zero := rfl

/-- One node, and these disks. -/
def oneNode (disks : Table DiskInfo.key) : DB where
  nodes := ⟨[⟨"n1", some 0⟩], List.nodup_singleton _⟩
  disks := disks

def storedDisk : DiskInfo where
  nodeId := "n1"
  device := "/dev/sda"
  sizeBytes := 256
  model := none
  serial := none
  partitionTable := none
  partitionsJson := none
  scannedAt := 0

def storedDisks : Table DiskInfo.key := ⟨[storedDisk], List.nodup_singleton _⟩

/-- A stored device may be reported twice. -/
theorem stored_twice_upserted : ∃ db', Upserted wideEnv (oneNode storedDisks) "n1"
    [{ device := some "/dev/sda", sizeBytes := some 512 }, { device := some "/dev/sda" }] db' := by
  have hnode : ∃ node ∈ (oneNode storedDisks).nodes.rows, node.id = "n1" :=
    ⟨_, List.mem_singleton_self _, rfl⟩
  refine (disk_report_iff hnode).mpr ⟨?_, ?_⟩
  swap
  · intro device size _
    exact .inr rfl
  intro device hget
  have hother : "/dev/sda" ≠ device := by
    rintro rfl
    cases hget
  have hname : ∀ size, DiskEntry.deviceName { device := some "/dev/sda", sizeBytes := size }
      ≠ some device := fun _ h => hother (Option.some.inj h)
  rw [entriesOf_cons, if_neg (hname _), entriesOf_cons, if_neg (hname _)]
  exact Nat.zero_le 1

/-- A new device that is reported twice fails the report. -/
theorem new_twice_not_upserted :
    receiveDiskReport wideEnv (oneNode Table.empty) "n1"
        [{ device := some "/dev/sda" }, { device := some "/dev/sda" }] = .error .integrityError
      ∧ ¬ ∃ db', Upserted wideEnv (oneNode Table.empty) "n1"
        [{ device := some "/dev/sda" }, { device := some "/dev/sda" }] db' := by
  have herror : receiveDiskReport wideEnv (oneNode Table.empty) "n1"
      [{ device := some "/dev/sda" }, { device := some "/dev/sda" }] = .error .integrityError := rfl
  refine ⟨herror, ?_⟩
  rintro ⟨db', hupserted⟩
  obtain ⟨answer, hreport⟩ := hupserted.succeeds
  rw [herror] at hreport
  cases hreport

end PureBoot.Disks
