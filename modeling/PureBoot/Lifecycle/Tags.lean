/-
  PureBoot.Lifecycle.Tags — the TAGS of nodes, one by one and in bulk.

  Embeds `add_node_tag`, `remove_node_tag`, `bulk_add_tag` and `bulk_remove_tag` of
  `api/routes/nodes.py`, with the validators of their requests.  A bulk request looks up once
  which of its nodes exist and lack the tag, and iterates over that set; a single request
  looks at its own node and refuses what has nothing to change.  The two kinds validate a
  tag differently: a bulk request strips it first, and looks at its characters in lower case.

  Main results:
    * `bulkAddTag_eq`, `addAll_eq` — the rows that a bulk request adds, and those that the
      single requests for its nodes add;
    * `bulk_tags_are_single_tags` — in every run bulk requests do what the single ones do.
-/
import PureBoot.Lib.Run
import PureBoot.Lib.SetIter
import PureBoot.Lifecycle.StateMachine
import PureBoot.Tftp.PiBoot

namespace PureBoot.Lifecycle

open PureBoot.Lib
open PureBoot.Tftp (Unicode strip)

/-! ## §1. Rows. -/

/-- `NodeTag`. -/
structure TagRow where
  nodeId : String
  tag : List Char
  deriving DecidableEq, Repr

/-- `uq_node_tag`. -/
def TagRow.key (r : TagRow) : String × List Char := (r.nodeId, r.tag)

theorem TagRow.key_injective : Function.Injective TagRow.key := by
  rintro ⟨n, t⟩ ⟨n', t'⟩ h
  obtain ⟨rfl, rfl⟩ := Prod.mk.inj h
  rfl

/-- The nodes, and the rows that refer to them. -/
structure TagDb where
  nodes : List String
  tags : Table TagRow.key
  owned : ∀ r ∈ tags.rows, r.nodeId ∈ nodes

namespace TagDb

variable (db : TagDb)

def Tagged (nodeId : String) (tag : List Char) : Prop := ⟨nodeId, tag⟩ ∈ db.tags.rows

instance (nodeId : String) (tag : List Char) : Decidable (db.Tagged nodeId tag) :=
  inferInstanceAs (Decidable (_ ∈ _))

theorem owned_insert {db : TagDb} {r : TagRow} {tags : Table TagRow.key} (hnode : r.nodeId ∈ db.nodes)
    (hinsert : db.tags.insert? r = some tags) : ∀ x ∈ tags.rows, x.nodeId ∈ db.nodes := by
  intro x hx
  rw [(Table.insert?_eq_some_iff.mp hinsert).2] at hx
  rcases List.mem_append.mp hx with hx | hx
  · exact db.owned x hx
  · rw [List.mem_singleton.mp hx]
    exact hnode

theorem owned_delete (p : TagRow → Bool) : ∀ x ∈ (db.tags.delete p).rows, x.nodeId ∈ db.nodes :=
  fun x hx => db.owned x (Table.mem_delete.mp hx).1

theorem owned_cons (nodeId : String) : ∀ x ∈ db.tags.rows, x.nodeId ∈ nodeId :: db.nodes :=
  fun x hx => List.mem_cons_of_mem _ (db.owned x hx)

/-- `db.add(NodeTag(...))`, flushed. -/
def add (r : TagRow) : Except Exn TagDb :=
  if hnode : r.nodeId ∈ db.nodes then
    match hinsert : db.tags.insert? r with
    | some tags => .ok { db with tags, owned := owned_insert hnode hinsert }
    | none => .error .integrityError
  else .error .integrityError

/-- Rows are deleted. -/
def remove (p : TagRow → Bool) : TagDb :=
  { db with tags := db.tags.delete p, owned := db.owned_delete p }

/-- A new node. -/
def addNode (nodeId : String) : TagDb :=
  { db with nodes := nodeId :: db.nodes, owned := db.owned_cons nodeId }

end TagDb

/-! ## §2. Requests. -/

/-- The character data, and the order in which a set is iterated over. -/
structure TagEnv extends Unicode where
  lower_lower : ∀ t, lower (lower t) = lower t
  iterate : Finset String → List String
  iterate_lists : ∀ nodeIds, Lists (iterate nodeIds) nodeIds

/-- `[a-zA-Z0-9_-]`. -/
def tagChar (c : Char) : Bool :=
  ('a' ≤ c && c ≤ 'z') || ('A' ≤ c && c ≤ 'Z') || ('0' ≤ c && c ≤ '9') || c = '_' || c = '-'

/-- `^[a-zA-Z0-9_-]+$`. -/
def tagPattern : List Char → Bool := endsLine (fun t => !t.isEmpty && t.all tagChar)

/-- The checks that two of the validators share. -/
def checkTag (v : List Char) : Except Exn Unit :=
  if v = [] ∨ 50 < v.length then .error (.valueError "Tag must be 1-50 characters")
  else if tagPattern v = false then
    .error (.valueError "Tag can only contain letters, numbers, hyphens, underscores")
  else .ok ()

variable (env : TagEnv)

/-- `TagCreate.validate_tag`. -/
def validateTagCreate (v : List Char) : Except Exn (List Char) :=
  (checkTag v).map (fun _ => env.lower v)

/-- `BulkAddTagRequest.validate_tag`. -/
def validateBulkAdd (v : List Char) : Except Exn (List Char) :=
  let v := env.lower (strip env.toUnicode v)
  (checkTag v).map (fun _ => v)

/-- `BulkRemoveTagRequest.validate_tag`. -/
def validateBulkRemove (v : List Char) : List Char := env.lower (strip env.toUnicode v)

/-- `add_node_tag`: how many nodes were changed, and the rows after it. -/
def addNodeTag (db : TagDb) (nodeId : String) (tagData : List Char) : Except Exn (Nat × TagDb) := do
  let tag ← validateTagCreate env tagData
  if nodeId ∉ db.nodes then .error (.http 404 "Node not found")
  else if db.Tagged nodeId tag then
    .error (.http 409 ("Tag '" ++ String.ofList tag ++ "' already exists on node"))
  else do
    let db ← db.add ⟨nodeId, tag⟩
    .ok (1, db)

/-- `remove_node_tag`. -/
def removeNodeTag (db : TagDb) (nodeId : String) (tag : List Char) : Except Exn (Nat × TagDb) :=
  if nodeId ∉ db.nodes then .error (.http 404 "Node not found")
  else if db.Tagged nodeId (env.lower tag) then
    .ok (1, db.remove (fun r => r = ⟨nodeId, env.lower tag⟩))
  else .error (.http 404 ("Tag '" ++ String.ofList tag ++ "' not found on node"))

/-- `valid_node_ids - existing_node_ids`. -/
def nodesToTag (db : TagDb) (nodeIds : List String) (tag : List Char) : Finset String :=
  (db.nodes.toFinset.filter (fun nodeId => nodeId ∈ nodeIds)).filter
    (fun nodeId => ¬ db.Tagged nodeId tag)

/-- `bulk_add_tag`. -/
def bulkAddTag (db : TagDb) (nodeIds : List String) (tag : List Char) :
    Except Exn (Nat × TagDb) := do
  let tag ← validateBulkAdd env tag
  let nodes := nodesToTag db nodeIds tag
  let db ← (env.iterate nodes).foldlM (fun db nodeId => db.add ⟨nodeId, tag⟩) db
  .ok (nodes.card, db)

/-- `bulk_remove_tag`. -/
def bulkRemoveTag (db : TagDb) (nodeIds : List String) (tag : List Char) :
    Except Exn (Nat × TagDb) :=
  let tag := validateBulkRemove env tag
  let listed := fun r : TagRow => decide (r.nodeId ∈ nodeIds ∧ r.tag = tag)
  .ok ((db.tags.rows.filter listed).length, db.remove listed)

inductive TagRequest where
  | createNode (nodeId : String)
  | addNodeTag (nodeId : String) (tag : List Char)
  | removeNodeTag (nodeId : String) (tag : List Char)
  | bulkAddTag (nodeIds : List String) (tag : List Char)
  | bulkRemoveTag (nodeIds : List String) (tag : List Char)
  deriving DecidableEq

/-- A request; a new node changes no tags. -/
def answerTag (db : TagDb) : TagRequest → Except Exn (Nat × TagDb)
  | .createNode nodeId => .ok (0, db.addNode nodeId)
  | .addNodeTag nodeId tag => addNodeTag env db nodeId tag
  | .removeNodeTag nodeId tag => removeNodeTag env db nodeId tag
  | .bulkAddTag nodeIds tag => bulkAddTag env db nodeIds tag
  | .bulkRemoveTag nodeIds tag => bulkRemoveTag env db nodeIds tag

/-- The database, and how many changes the answers have counted. -/
structure TagState where
  db : TagDb
  updated : Nat := 0

/-- A request in its own session. -/
def TagState.exec (s : TagState) (request : TagRequest) : TagState :=
  match answerTag env s.db request with
  | .ok (updated, db) => ⟨db, s.updated + updated⟩
  | .error _ => s

/-- The single requests for a bulk request, a request for each node that it lists; for a tag
that is refused, none. -/
def singles : TagRequest → List TagRequest
  | .bulkAddTag nodeIds tag =>
      match validateBulkAdd env tag with
      | .ok tag => nodeIds.map (fun nodeId => .addNodeTag nodeId tag)
      | .error _ => []
  | .bulkRemoveTag nodeIds tag =>
      nodeIds.map (fun nodeId => .removeNodeTag nodeId (validateBulkRemove env tag))
  | request => [request]

/-! ## §3. What requests change. -/

/-- Rows are added, those of existing nodes that satisfy `new`, and counted. -/
structure Grows (s s' : TagState) (new : TagRow → Prop) : Prop where
  nodes : s'.db.nodes = s.db.nodes
  mem : ∀ r, r ∈ s'.db.tags.rows ↔ r ∈ s.db.tags.rows ∨ (new r ∧ r.nodeId ∈ s.db.nodes)
  count : s'.updated + s.db.tags.rows.length = s.updated + s'.db.tags.rows.length

/-- Rows are deleted, those that satisfy `gone`, and counted. -/
structure Drops (s s' : TagState) (gone : TagRow → Prop) : Prop where
  nodes : s'.db.nodes = s.db.nodes
  mem : ∀ r, r ∈ s'.db.tags.rows ↔ r ∈ s.db.tags.rows ∧ ¬ gone r
  count : s'.updated + s'.db.tags.rows.length = s.updated + s.db.tags.rows.length

/-- **THE SAME TAGS**, by the same number of changes; the order of the rows may differ. -/
structure SameTags (s t : TagState) : Prop where
  nodes : s.db.nodes = t.db.nodes
  mem : ∀ r, r ∈ s.db.tags.rows ↔ r ∈ t.db.tags.rows
  updated : s.updated = t.updated

theorem SameTags.refl (s : TagState) : SameTags s s := ⟨rfl, fun _ => Iff.rfl, rfl⟩

/-- Tables with the same rows have equally many. -/
theorem length_rows_eq {a b : Table TagRow.key} (h : ∀ r, r ∈ a.rows ↔ r ∈ b.rows) :
    a.rows.length = b.rows.length :=
  ((List.perm_ext_iff_of_nodup a.rows_nodup b.rows_nodup).mpr h).length_eq

variable {env} {s s' s'' t t' : TagState} {new new' gone gone' : TagRow → Prop}

theorem Grows.same (h : SameTags s t) (hs : Grows s s' new) (ht : Grows t t' new) :
    SameTags s' t' := by
  have hmem : ∀ r, r ∈ s'.db.tags.rows ↔ r ∈ t'.db.tags.rows := by
    intro r
    rw [hs.mem, ht.mem, h.mem, h.nodes]
  refine ⟨hs.nodes.trans (h.nodes.trans ht.nodes.symm), hmem, ?_⟩
  have hbefore := length_rows_eq h.mem
  have hafter := length_rows_eq hmem
  have hcount := hs.count
  have hcount' := ht.count
  have hupdated := h.updated
  omega

theorem Drops.same (h : SameTags s t) (hs : Drops s s' gone) (ht : Drops t t' gone) :
    SameTags s' t' := by
  have hmem : ∀ r, r ∈ s'.db.tags.rows ↔ r ∈ t'.db.tags.rows := by
    intro r
    rw [hs.mem, ht.mem, h.mem]
  refine ⟨hs.nodes.trans (h.nodes.trans ht.nodes.symm), hmem, ?_⟩
  have hbefore := length_rows_eq h.mem
  have hafter := length_rows_eq hmem
  have hcount := hs.count
  have hcount' := ht.count
  have hupdated := h.updated
  omega

/-- Rows are added, and then more. -/
theorem Grows.trans (h : Grows s s' new) (h' : Grows s' s'' new') :
    Grows s s'' (fun r => new r ∨ new' r) where
  nodes := h'.nodes.trans h.nodes
  mem := by
    intro r
    rw [h'.mem, h.mem, h.nodes, or_and_right, or_assoc]
  count := by
    have hcount := h.count
    have hcount' := h'.count
    omega

theorem Drops.trans (h : Drops s s' gone) (h' : Drops s' s'' gone') :
    Drops s s'' (fun r => gone r ∨ gone' r) where
  nodes := h'.nodes.trans h.nodes
  mem := by
    intro r
    rw [h'.mem, h.mem, not_or, and_assoc]
  count := by
    have hcount := h.count
    have hcount' := h'.count
    omega

theorem Grows.congr (h : Grows s s' new) (hnew : ∀ r, new r ↔ new' r) : Grows s s' new' where
  nodes := h.nodes
  mem := fun r => (h.mem r).trans (or_congr_right (and_congr_left (fun _ => hnew r)))
  count := h.count

theorem Drops.congr (h : Drops s s' gone) (hgone : ∀ r, gone r ↔ gone' r) :
    Drops s s' gone' where
  nodes := h.nodes
  mem := fun r => (h.mem r).trans (and_congr_right (fun _ => not_congr (hgone r)))
  count := h.count

/-- The rows that are deleted and those that stay. -/
theorem length_filter_add (p : TagRow → Bool) (rows : List TagRow) :
    (rows.filter p).length + (rows.filter (fun r => !p r)).length = rows.length := by
  rw [← List.countP_eq_length_filter, ← List.countP_eq_length_filter,
    List.length_eq_countP_add_countP p]
  congr 1
  exact List.countP_congr (fun r _ => by simp)

/-! ### Single requests. -/

/-- A new row of an existing node is added. -/
theorem add_eq_ok {db : TagDb} {r : TagRow} (hnode : r.nodeId ∈ db.nodes)
    (hnew : r ∉ db.tags.rows) :
    ∃ db', db.add r = .ok db' ∧ db'.nodes = db.nodes ∧ db'.tags.rows = db.tags.rows ++ [r] := by
  have hkey : ∀ x ∈ db.tags.rows, x.key ≠ r.key := by
    intro x hx hsame
    exact hnew (TagRow.key_injective hsame ▸ hx)
  obtain ⟨tags, htags⟩ := Table.exists_insert? hkey
  unfold TagDb.add
  rw [dif_pos hnode]
  split
  next tags' hinsert =>
    exact ⟨_, rfl, rfl, (Table.insert?_eq_some_iff.mp hinsert).2⟩
  next hinsert =>
    rw [htags] at hinsert
    cases hinsert

/-- **A SINGLE TAG** is added to an existing node that lacks it. -/
theorem exec_addNodeTag {nodeId : String} {tagData tag : List Char}
    (hvalid : validateTagCreate env tagData = .ok tag) (s : TagState) :
    Grows s (s.exec env (.addNodeTag nodeId tagData)) (fun r => r = ⟨nodeId, tag⟩) := by
  have hanswer : answerTag env s.db (.addNodeTag nodeId tagData)
      = (if nodeId ∉ s.db.nodes then .error (.http 404 "Node not found")
        else if s.db.Tagged nodeId tag then
          .error (.http 409 ("Tag '" ++ String.ofList tag ++ "' already exists on node"))
        else do
          let db ← s.db.add ⟨nodeId, tag⟩
          .ok (1, db)) := by
    show addNodeTag env s.db nodeId tagData = _
    unfold addNodeTag
    rw [hvalid]
    rfl
  unfold TagState.exec
  rw [hanswer]
  by_cases hnode : nodeId ∈ s.db.nodes
  · rw [if_neg (not_not.mpr hnode)]
    by_cases htagged : s.db.Tagged nodeId tag
    · rw [if_pos htagged]
      refine ⟨rfl, fun r => (or_iff_left_of_imp ?_).symm, rfl⟩
      rintro ⟨rfl, -⟩
      exact htagged
    · obtain ⟨db', hadd, hnodes, hrows⟩ := add_eq_ok hnode htagged
      rw [if_neg htagged, hadd]
      refine ⟨hnodes, ?_, ?_⟩
      · intro r
        show r ∈ db'.tags.rows ↔ _
        rw [hrows, List.mem_append, List.mem_singleton]
        refine or_congr_right ⟨fun hr => ⟨hr, hr ▸ hnode⟩, And.left⟩
      · show s.updated + 1 + _ = s.updated + db'.tags.rows.length
        rw [hrows, List.length_append, List.length_singleton]
        omega
  · rw [if_pos hnode]
    refine ⟨rfl, fun r => (or_iff_left_of_imp ?_).symm, rfl⟩
    rintro ⟨rfl, hmem⟩
    exact absurd hmem hnode

/-- **A SINGLE TAG** is removed from a node that has it. -/
theorem exec_removeNodeTag (s : TagState) (nodeId : String) (tag : List Char) :
    Drops s (s.exec env (.removeNodeTag nodeId tag)) (fun r => r = ⟨nodeId, env.lower tag⟩) := by
  have habsent : ¬ s.db.Tagged nodeId (env.lower tag) →
      Drops s s (fun r => r = ⟨nodeId, env.lower tag⟩) := by
    intro hnot
    refine ⟨rfl, fun r => (and_iff_left_of_imp ?_).symm, rfl⟩
    rintro hr rfl
    exact hnot hr
  have hanswer : answerTag env s.db (.removeNodeTag nodeId tag)
      = removeNodeTag env s.db nodeId tag := rfl
  unfold TagState.exec
  rw [hanswer]
  unfold removeNodeTag
  by_cases hnode : nodeId ∈ s.db.nodes
  · rw [if_neg (not_not.mpr hnode)]
    by_cases htagged : s.db.Tagged nodeId (env.lower tag)
    · rw [if_pos htagged]
      refine ⟨rfl, fun r => ?_, ?_⟩
      · exact Table.mem_delete.trans (and_congr_right (fun _ => decide_eq_false_iff_not))
      · show s.updated + 1 + (s.db.tags.rows.filter _).length = s.updated + s.db.tags.rows.length
        have hone : (s.db.tags.rows.filter (fun r => r = ⟨nodeId, env.lower tag⟩)).length = 1 := by
          rw [← List.count_eq_one_of_mem s.db.tags.rows_nodup htagged, List.count_eq_countP,
            List.countP_eq_length_filter]
          exact congrArg List.length (List.filter_congr (fun _ _ => rfl))
        rw [← length_filter_add (fun r => r = ⟨nodeId, env.lower tag⟩) s.db.tags.rows, hone,
          Nat.add_assoc]
    · rw [if_neg htagged]
      exact habsent htagged
  · rw [if_pos hnode]
    exact habsent (fun htagged => hnode (s.db.owned _ htagged))

/-! ### Single requests one after another. -/

theorem run_addNodeTag {tag : List Char} (hvalid : validateTagCreate env tag = .ok tag)
    (nodeIds : List String) (s : TagState) :
    Grows s (run (TagState.exec env) s (nodeIds.map (fun nodeId => .addNodeTag nodeId tag)))
      (fun r => r.tag = tag ∧ r.nodeId ∈ nodeIds) := by
  induction nodeIds generalizing s with
  | nil => exact ⟨rfl, fun r => by simp [run], rfl⟩
  | cons nodeId nodeIds ih =>
      refine ((exec_addNodeTag hvalid s).trans (ih _)).congr (fun r => ?_)
      rw [List.mem_cons]
      constructor
      · rintro (rfl | ⟨rfl, hmem⟩)
        · exact ⟨rfl, Or.inl rfl⟩
        · exact ⟨rfl, Or.inr hmem⟩
      · rintro ⟨rfl, rfl | hmem⟩
        · exact Or.inl rfl
        · exact Or.inr ⟨rfl, hmem⟩

theorem run_removeNodeTag {tag : List Char} (hlower : env.lower tag = tag)
    (nodeIds : List String) (s : TagState) :
    Drops s (run (TagState.exec env) s (nodeIds.map (fun nodeId => .removeNodeTag nodeId tag)))
      (fun r => r.nodeId ∈ nodeIds ∧ r.tag = tag) := by
  induction nodeIds generalizing s with
  | nil => exact ⟨rfl, fun r => by simp [run], rfl⟩
  | cons nodeId nodeIds ih =>
      refine ((exec_removeNodeTag s nodeId tag).trans (ih _)).congr (fun r => ?_)
      rw [List.mem_cons, hlower]
      constructor
      · rintro (rfl | ⟨hmem, rfl⟩)
        · exact ⟨Or.inl rfl, rfl⟩
        · exact ⟨Or.inr hmem, rfl⟩
      · rintro ⟨rfl | hmem, rfl⟩
        · exact Or.inl rfl
        · exact Or.inr ⟨hmem, rfl⟩

/-! ### Bulk requests. -/

theorem mem_nodesToTag {db : TagDb} {nodeIds : List String} {tag : List Char} {nodeId : String} :
    nodeId ∈ nodesToTag db nodeIds tag ↔
      nodeId ∈ db.nodes ∧ nodeId ∈ nodeIds ∧ ¬ db.Tagged nodeId tag := by
  unfold nodesToTag
  rw [Finset.mem_filter, Finset.mem_filter, List.mem_toFinset, and_assoc]

/-- The loop of `bulk_add_tag`: every row is new, so none is refused. -/
theorem addAll_eq (tag : List Char) (nodeIds : List String) (hnodup : nodeIds.Nodup) (db : TagDb)
    (hnew : ∀ nodeId ∈ nodeIds, nodeId ∈ db.nodes ∧ ¬ db.Tagged nodeId tag) :
    ∃ db', nodeIds.foldlM (fun (db : TagDb) nodeId => db.add ⟨nodeId, tag⟩) db = .ok db' ∧
      db'.nodes = db.nodes ∧
      db'.tags.rows = db.tags.rows ++ nodeIds.map (fun nodeId => ⟨nodeId, tag⟩) := by
  induction nodeIds generalizing db with
  | nil => exact ⟨db, rfl, rfl, (List.append_nil _).symm⟩
  | cons nodeId nodeIds ih =>
      obtain ⟨hfresh, hnodup⟩ := List.nodup_cons.mp hnodup
      obtain ⟨hnode, hlacks⟩ := hnew nodeId List.mem_cons_self
      obtain ⟨db₁, hadd, hnodes, hrows⟩ := add_eq_ok (r := ⟨nodeId, tag⟩) hnode hlacks
      have hrest : ∀ other ∈ nodeIds, other ∈ db₁.nodes ∧ ¬ db₁.Tagged other tag := by
        intro other hother
        obtain ⟨hthere, hlacks'⟩ := hnew other (List.mem_cons_of_mem _ hother)
        refine ⟨hnodes ▸ hthere, ?_⟩
        unfold TagDb.Tagged
        rw [hrows, List.mem_append, List.mem_singleton, not_or]
        refine ⟨hlacks', ?_⟩
        intro hsame
        obtain rfl : other = nodeId := congrArg TagRow.nodeId hsame
        exact hfresh hother
      obtain ⟨db', hfold, hnodes', hrows'⟩ := ih hnodup db₁ hrest
      refine ⟨db', ?_, hnodes'.trans hnodes, ?_⟩
      · rw [List.foldlM_cons, hadd]
        exact hfold
      · rw [hrows', hrows, List.append_assoc]
        rfl

/-- **A BULK REQUEST** adds the tag to the existing nodes that it lists and that lack it. -/
theorem bulkAddTag_eq {tagData tag : List Char} (hvalid : validateBulkAdd env tagData = .ok tag)
    (s : TagState) (nodeIds : List String) :
    Grows s (s.exec env (.bulkAddTag nodeIds tagData))
      (fun r => r.tag = tag ∧ r.nodeId ∈ nodeIds) := by
  obtain ⟨hnodup, hset⟩ := env.iterate_lists (nodesToTag s.db nodeIds tag)
  have hlisted : ∀ nodeId, nodeId ∈ env.iterate (nodesToTag s.db nodeIds tag) ↔
      nodeId ∈ s.db.nodes ∧ nodeId ∈ nodeIds ∧ ¬ s.db.Tagged nodeId tag := by
    intro nodeId
    rw [← List.mem_toFinset, hset, mem_nodesToTag]
  have hcard : (nodesToTag s.db nodeIds tag).card
      = (env.iterate (nodesToTag s.db nodeIds tag)).length := by
    rw [← List.toFinset_card_of_nodup hnodup, hset]
  obtain ⟨db', hfold, hnodes, hrows⟩ := addAll_eq tag _ hnodup s.db
    (fun nodeId hmem => ⟨((hlisted nodeId).mp hmem).1, ((hlisted nodeId).mp hmem).2.2⟩)
  have hexec : s.exec env (.bulkAddTag nodeIds tagData)
      = ⟨db', s.updated + (nodesToTag s.db nodeIds tag).card⟩ := by
    have hanswer : bulkAddTag env s.db nodeIds tagData
        = .ok ((nodesToTag s.db nodeIds tag).card, db') := by
      unfold bulkAddTag
      rw [hvalid, ok_bind]
      dsimp only
      rw [hfold, ok_bind]
    unfold TagState.exec
    rw [show answerTag env s.db (.bulkAddTag nodeIds tagData) = _ from hanswer]
  rw [hexec]
  refine ⟨hnodes, ?_, ?_⟩
  · intro r
    show r ∈ db'.tags.rows ↔ _
    rw [hrows, List.mem_append]
    constructor
    · rintro (hr | hr)
      · exact Or.inl hr
      · obtain ⟨nodeId, hmem, rfl⟩ := List.mem_map.mp hr
        obtain ⟨hnode, hasked, -⟩ := (hlisted nodeId).mp hmem
        exact Or.inr ⟨⟨rfl, hasked⟩, hnode⟩
    · rintro (hr | ⟨⟨rfl, hasked⟩, hnode⟩)
      · exact Or.inl hr
      · by_cases htagged : s.db.Tagged r.nodeId r.tag
        · exact Or.inl htagged
        · exact Or.inr (List.mem_map.mpr ⟨r.nodeId, (hlisted _).mpr ⟨hnode, hasked, htagged⟩, rfl⟩)
  · show s.updated + _ + s.db.tags.rows.length = s.updated + db'.tags.rows.length
    rw [hrows, hcard, List.length_append, List.length_map]
    omega

theorem bulkRemoveTag_eq (s : TagState) (nodeIds : List String) (tag : List Char) :
    Drops s (s.exec env (.bulkRemoveTag nodeIds tag))
      (fun r => r.nodeId ∈ nodeIds ∧ r.tag = validateBulkRemove env tag) where
  nodes := rfl
  mem := fun _ => Table.mem_delete.trans (and_congr_right (fun _ => decide_eq_false_iff_not))
  count := by
    show s.updated + (s.db.tags.rows.filter _).length + (s.db.tags.rows.filter _).length = _
    rw [Nat.add_assoc, length_filter_add]

/-! ## §4. Bulk requests are single requests. -/

/-- A tag that a bulk request accepts is accepted, as it is, by a single one. -/
theorem validateTagCreate_of_bulk {tagData tag : List Char}
    (h : validateBulkAdd env tagData = .ok tag) : validateTagCreate env tag = .ok tag := by
  obtain ⟨x, hcheck, rfl⟩ := map_eq_ok h
  unfold validateTagCreate
  rw [hcheck]
  show Except.ok (env.lower (env.lower _)) = _
  rw [env.lower_lower]

theorem lower_validateBulkRemove (tag : List Char) :
    env.lower (validateBulkRemove env tag) = validateBulkRemove env tag :=
  env.lower_lower _

/-- A request that is refused for its tag changes nothing. -/
theorem exec_of_error {request : TagRequest} {e : Exn} (s : TagState)
    (h : answerTag env s.db request = .error e) : s.exec env request = s := by
  unfold TagState.exec
  rw [h]

/-- **ONE REQUEST** and the single requests for it. -/
theorem SameTags.step (h : SameTags s t) (request : TagRequest) :
    SameTags (s.exec env request) (run (TagState.exec env) t (singles env request)) := by
  cases request with
  | createNode nodeId =>
      exact ⟨congrArg (nodeId :: ·) h.nodes, h.mem, congrArg (· + 0) h.updated⟩
  | addNodeTag nodeId tagData =>
      cases hvalid : validateTagCreate env tagData with
      | ok tag => exact (exec_addNodeTag hvalid s).same h (exec_addNodeTag hvalid t)
      | error e =>
          have herror : ∀ db, answerTag env db (.addNodeTag nodeId tagData) = .error e := by
            intro db
            show addNodeTag env db nodeId tagData = _
            unfold addNodeTag
            rw [hvalid]
            rfl
          show SameTags _ (t.exec env _)
          rw [exec_of_error s (herror _), exec_of_error t (herror _)]
          exact h
  | removeNodeTag nodeId tag =>
      exact (exec_removeNodeTag s nodeId tag).same h (exec_removeNodeTag t nodeId tag)
  | bulkAddTag nodeIds tagData =>
      unfold singles
      dsimp only
      cases hvalid : validateBulkAdd env tagData with
      | ok tag =>
          exact (bulkAddTag_eq hvalid s nodeIds).same h
            (run_addNodeTag (validateTagCreate_of_bulk hvalid) nodeIds t)
      | error e =>
          have herror : answerTag env s.db (.bulkAddTag nodeIds tagData) = .error e := by
            show bulkAddTag env s.db nodeIds tagData = _
            unfold bulkAddTag
            rw [hvalid]
            rfl
          rw [exec_of_error s herror]
          exact h
  | bulkRemoveTag nodeIds tag =>
      exact (bulkRemoveTag_eq s nodeIds tag).same h
        (run_removeNodeTag (lower_validateBulkRemove tag) nodeIds t)

/-- **BULK REQUESTS ARE SINGLE REQUESTS**: in every run, replacing each bulk request by single
requests for the nodes that it lists, repeated and unknown ones too, leaves the same tags, and
the answers count the same number of changes. -/
theorem bulk_tags_are_single_tags (env : TagEnv) (s : TagState) (requests : List TagRequest) :
    SameTags (run (TagState.exec env) s requests)
      (run (TagState.exec env) s (requests.flatMap (singles env))) :=
  run_flatMap (fun _ _ request h => h.step request) requests (SameTags.refl s)

end PureBoot.Lifecycle
