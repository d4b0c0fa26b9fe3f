/-
  PureBoot.Lifecycle.BulkState — a bulk state change is a set of INDEPENDENT transitions.

  `bulk_change_state` catches what a transition raises and goes on in the same session, so a
  row that was half changed before the exception would be flushed with the others.  Here the
  transition is written over the row it changes (`transitionRow`): what it raises leaves the
  row as the statements before it made it.  It raises before the first of them.

  Main results:
    * `transitionRow_run` — a transition changes the row or raises, never both;
    * `bulk_independent` — what a bulk change does, in whatever order the rows are visited.
-/
import Mathlib.Data.List.Dedup
import PureBoot.Lifecycle.NodeSteps

namespace PureBoot.Lifecycle

open PureBoot.Lib

/-! ## §1. The transition over the row it changes. -/

/-- The writes of `StateTransitionService.transition`, statement by statement. -/
def applyTransition (now : Timestamp) (toState : NodeState) : StateM Node NodeStateLog := do
  let fromState := (← get).state
  modify (fun node => { node with state := toState })
  modify (fun node => { node with stateChangedAt := some now })
  if toState = .installed then
    modify (fun node => { node with installAttempts := 0 })
    modify (fun node => { node with lastInstallError := none })
  return { nodeId := (← get).id, fromState, toState, triggeredBy := .bulkOperation,
           userId := none, comment := none, metadataJson := none }

/-- `StateTransitionService.transition` of a bulk operation: its two checks, its writes. -/
def transitionRow (now : Timestamp) (toState : NodeState) :
    ExceptT Exn (StateM Node) NodeStateLog := do
  let node ← get
  if node.state = .installFailed ∧ toState = .pending
      ∧ maxInstallAttempts ≤ node.installAttempts then
    throw (.valueError "Max install attempts (3) exceeded. Use force=true to reset and retry.")
  else if canTransition node.state toState = false then
    throw (.invalidStateTransition node.state toState)
  else
    applyTransition now toState

/-- The transition a bulk change makes of one node. -/
def bulkTransition (now : Timestamp) (newState : NodeState) (node : Node) :
    Except Exn (Node × NodeStateLog) :=
  transition now node newState .bulkOperation none [] false

/-- **A TRANSITION CHANGES THE ROW OR RAISES**: what it raises, it raises before it has
written anything. -/
theorem transitionRow_run (now : Timestamp) (newState : NodeState) (node : Node) :
    (transitionRow now newState).run.run node
      = match bulkTransition now newState node with
        | .ok (node', log) => (.ok log, node')
        | .error e => (.error e, node) := by
  have hrun : (transitionRow now newState).run.run node
      = ExceptT.run (m := StateM Node)
          (if node.state = .installFailed ∧ newState = .pending
              ∧ maxInstallAttempts ≤ node.installAttempts then
            throw (.valueError
              "Max install attempts (3) exceeded. Use force=true to reset and retry.")
          else if canTransition node.state newState = false then
            throw (.invalidStateTransition node.state newState)
          else applyTransition now newState) node := rfl
  rw [hrun]
  unfold bulkTransition transition
  simp only [true_and]
  split
  next => rfl
  next =>
    split
    next => rfl
    next =>
      cases newState <;> rfl

/-! ## §2. The loop over the session. -/

/-- The loop of `bulk_change_state`.  An exception that is caught leaves the row in the
session, where it is flushed as it stands. -/
def bulkSessionLoop (now : Timestamp) (newState : NodeState) :
    DB → BulkChangeStateResult → List Node → Except Exn (BulkChangeStateResult × DB)
  | db, acc, [] => .ok (acc, db)
  | db, acc, node :: rest =>
      match (transitionRow now newState).run.run node with
      | (.ok log, node') =>
          bulkSessionLoop now newState (db.save node' [log] [])
            { acc with updated := acc.updated + 1 } rest
      | (.error e, node') =>
          match bulkErrorText e with
          | some text =>
              bulkSessionLoop now newState (db.save node' [] [])
                { acc with errors := acc.errors ++ [(node.id, text)] } rest
          | none => .error e

/-- `WHERE id IN (...)`: each existing listed node once. -/
def selectedNodes (db : DB) (nodeIds : List String) : List Node :=
  db.nodes.rows.filter (fun n => n.id ∈ nodeIds)

/-- `bulk_change_state`, the rows visited in the order the query returns them. -/
def bulkChangeStateIn (order : List Node) (now : Timestamp) (db : DB) (newState : NodeState) :
    Except Exn (BulkChangeStateResult × DB) :=
  bulkSessionLoop now newState db ⟨0, []⟩ order

/-! ## §3. One node on its own. -/

section
variable (now : Timestamp) (newState : NodeState) (node : Node)

/-- The transition is allowed. -/
def moves : Bool :=
  match bulkTransition now newState node with
  | .ok _ => true
  | .error _ => false

/-- The node after the transition, if it is allowed. -/
def movedNode : Node :=
  match bulkTransition now newState node with
  | .ok (node', _) => node'
  | .error _ => node

/-- The audit row of the transition, if it is allowed. -/
def movedLog : Option NodeStateLog :=
  match bulkTransition now newState node with
  | .ok (_, log) => some log
  | .error _ => none

/-- What is reported of the node if its transition is not allowed. -/
def moveError : Option (String × String) :=
  match bulkTransition now newState node with
  | .ok _ => none
  | .error e => (bulkErrorText e).map (fun text => (node.id, text))

/-- Which transitions are allowed. -/
theorem moves_iff :
    moves now newState node = true ↔ canTransition node.state newState = true
      ∧ ¬ (node.state = .installFailed ∧ newState = .pending
        ∧ maxInstallAttempts ≤ node.installAttempts) := by
  unfold moves bulkTransition transition
  simp only [true_and]
  by_cases hretry : node.state = .installFailed ∧ newState = .pending
      ∧ maxInstallAttempts ≤ node.installAttempts
  · simp [hretry]
  · by_cases hcan : canTransition node.state newState = false
    · simp [hretry, hcan]
    · simp [hretry, hcan]

end

section
variable {now : Timestamp} {newState : NodeState} {node : Node}

/-- What a transition raises is caught. -/
theorem bulkTransition_caught {e : Exn} (h : bulkTransition now newState node = .error e) :
    ∃ text, bulkErrorText e = some text := by
  unfold bulkTransition transition at h
  split at h
  next =>
    cases h
    exact ⟨_, rfl⟩
  next =>
    split at h
    next =>
      cases h
      exact ⟨_, rfl⟩
    next => cases h

theorem movedNode_id : (movedNode now newState node).id = node.id := by
  unfold movedNode
  split
  next h => exact (transition_ok h).1
  next => rfl

theorem movedLog_nodeId {log : NodeStateLog} (h : movedLog now newState node = some log) :
    log.nodeId = node.id ∧ log.fromState = node.state ∧ log.toState = newState := by
  unfold movedLog at h
  split at h
  next ht =>
    obtain ⟨-, -, hid, hfrom, hto, -⟩ := transition_ok ht
    injection h with h
    subst h
    exact ⟨hid, hfrom, hto⟩
  next => cases h

/-- A node is moved with one audit row, or reported and left as it is. -/
theorem moved_or_reported (now : Timestamp) (newState : NodeState) (node : Node) :
    (moves now newState node = true ∧ (∃ log, movedLog now newState node = some log)
        ∧ moveError now newState node = none)
      ∨ (moves now newState node = false ∧ movedNode now newState node = node
        ∧ movedLog now newState node = none
        ∧ ∃ text, moveError now newState node = some (node.id, text)) := by
  unfold moves movedNode movedLog moveError
  cases h : bulkTransition now newState node with
  | ok moved => exact .inl ⟨rfl, ⟨moved.2, rfl⟩, rfl⟩
  | error e =>
      obtain ⟨text, htext⟩ := bulkTransition_caught h
      refine .inr ⟨rfl, rfl, rfl, text, ?_⟩
      dsimp only
      rw [htext]
      rfl

/-! ## §4. The whole change. -/

/-- One pass of the loop: the node as it is moved, its audit row and its report. -/
theorem bulkSessionLoop_cons (db : DB) (acc : BulkChangeStateResult) (rest : List Node) :
    bulkSessionLoop now newState db acc (node :: rest)
      = bulkSessionLoop now newState
          (db.save (movedNode now newState node) (movedLog now newState node).toList [])
          ⟨acc.updated + (if moves now newState node then 1 else 0),
            acc.errors ++ (moveError now newState node).toList⟩ rest := by
  have hrow := transitionRow_run now newState node
  rw [bulkSessionLoop]
  unfold moves movedNode movedLog moveError
  cases h : bulkTransition now newState node with
  | ok moved =>
      rw [h] at hrow
      rw [hrow]
      simp
  | error e =>
      rw [h] at hrow
      rw [hrow]
      obtain ⟨text, htext⟩ := bulkTransition_caught h
      simp [htext]

/-- The row of a node after the nodes with these ids have been visited. -/
def visited (now : Timestamp) (newState : NodeState) (ids : List String) (node : Node) : Node :=
  if node.id ∈ ids then movedNode now newState node else node

/-- Visiting a node writes its own row and no other. -/
theorem put_visited {nodes : Table Node.id} {ids : List String} (hnode : node ∈ nodes.rows)
    (hnew : node.id ∉ ids) :
    (nodes.put (movedNode now newState node)).rows.map (visited now newState ids)
      = nodes.rows.map (visited now newState (node.id :: ids)) := by
  show (nodes.rows.map fun x =>
    if x.id = (movedNode now newState node).id then movedNode now newState node else x).map _ = _
  rw [List.map_map]
  refine List.map_congr_left (fun x hx => ?_)
  rw [Function.comp_apply, movedNode_id]
  unfold visited
  by_cases hid : x.id = node.id
  · obtain rfl : x = node := nodes.eq_of_key_eq hx hnode hid
    rw [if_pos rfl, movedNode_id, if_neg hnew, if_pos List.mem_cons_self]
  · rw [if_neg hid]
    simp [hid]

/-- What the loop has done when it is through: each visited row once, nothing else. -/
theorem bulkSessionLoop_spec (now : Timestamp) (newState : NodeState) :
    ∀ (order : List Node) (db : DB) (acc : BulkChangeStateResult),
      (∀ n ∈ order, n ∈ db.nodes.rows) → (order.map Node.id).Nodup →
      ∃ res db', bulkSessionLoop now newState db acc order = .ok (res, db')
        ∧ db'.nodes.rows = db.nodes.rows.map (visited now newState (order.map Node.id))
        ∧ db'.logs = db.logs ++ order.filterMap (movedLog now newState)
        ∧ db'.events = db.events ∧ db'.sessions = db.sessions
        ∧ res.updated = acc.updated + order.countP (moves now newState)
        ∧ res.errors = acc.errors ++ order.filterMap (moveError now newState) := by
  intro order
  induction order with
  | nil =>
      intro db acc _ _
      exact ⟨acc, db, rfl, (List.map_id _).symm, (List.append_nil _).symm, rfl, rfl, rfl,
        (List.append_nil _).symm⟩
  | cons node rest ih =>
      intro db acc hmem hnodup
      rw [List.map_cons, List.nodup_cons] at hnodup
      have hnode := hmem node List.mem_cons_self
      have hrest : ∀ n ∈ rest, n ∈ (db.nodes.put (movedNode now newState node)).rows := by
        -- the ids differ, so the rows to come are not the one just written
        intro n hn
        refine Table.mem_put_of_ne (hmem n (List.mem_cons_of_mem node hn)) ?_
        rw [movedNode_id]
        exact fun hid => hnodup.1 (List.mem_map.mpr ⟨n, hn, hid⟩)
      rw [bulkSessionLoop_cons]
      obtain ⟨res, db', hloop, hnodes, hlogs, hevents, hsessions, hupdated, herrors⟩ :=
        ih (db.save (movedNode now newState node) (movedLog now newState node).toList [])
          ⟨acc.updated + (if moves now newState node then 1 else 0),
            acc.errors ++ (moveError now newState node).toList⟩ hrest hnodup.2
      refine ⟨res, db', hloop, ?_, ?_, ?_, hsessions, ?_, ?_⟩
      · rw [hnodes]
        exact put_visited hnode hnodup.1
      · rw [hlogs, List.filterMap_cons]
        show (db.logs ++ (movedLog now newState node).toList) ++ _ = _
        cases movedLog now newState node <;> simp
      · rw [hevents]
        exact List.append_nil _
      · rw [hupdated, List.countP_cons]
        dsimp only
        omega
      · rw [herrors, List.filterMap_cons]
        cases moveError now newState node <;> simp

/-- The audit rows of one node among those of all. -/
theorem filter_movedLogs (id : String) (order : List Node) :
    (order.filterMap (movedLog now newState)).filter (fun l => l.nodeId = id)
      = (order.filter (fun n => n.id = id)).filterMap (movedLog now newState) := by
  induction order with
  | nil => rfl
  | cons node rest ih =>
      rw [List.filterMap_cons, List.filter_cons]
      cases hlog : movedLog now newState node with
      | none =>
          dsimp only
          rw [ih]
          split
          next => rw [List.filterMap_cons, hlog]
          next => rfl
      | some log =>
          dsimp only
          rw [List.filter_cons, (movedLog_nodeId hlog).1, ih]
          split
          next => rw [List.filterMap_cons, hlog]
          next => rfl

/-- What a bulk change does to the database `db`, seen from outside. -/
structure BulkMoves (now : Timestamp) (newState : NodeState) (db : DB) (nodeIds : List String)
    (res : BulkChangeStateResult) (db' : DB) : Prop where
  /-- The nodes stay; a listed one whose transition is allowed is what the transition makes of
  it, any other one is what it was. -/
  nodes : db'.nodes.rows = db.nodes.rows.map fun node =>
    if node.id ∈ nodeIds ∧ moves now newState node = true then movedNode now newState node
    else node
  /-- One audit row for each node that is moved, and no other. -/
  moved : ∀ node ∈ db.nodes.rows, node.id ∈ nodeIds → moves now newState node = true →
    ∃ log, bulkTransition now newState node = .ok (movedNode now newState node, log)
      ∧ db'.logsOf node.id = db.logsOf node.id ++ [log]
  kept : ∀ id, (∀ node ∈ db.nodes.rows, node.id = id → node.id ∈ nodeIds →
    moves now newState node = false) → db'.logsOf id = db.logsOf id
  rest : db'.events = db.events ∧ db'.sessions = db.sessions
  /-- Each distinct listed node that exists is counted once. -/
  counted : res.updated + res.errors.length
    = (nodeIds.dedup.filter (fun id => ∃ node ∈ db.nodes.rows, node.id = id)).length
  updated : res.updated = (selectedNodes db nodeIds).countP (moves now newState)
  errors : res.errors.Perm ((selectedNodes db nodeIds).filterMap (moveError now newState))

/-- Every visited node is counted as moved or reported. -/
theorem countP_moves_add (order : List Node) :
    order.countP (moves now newState) + (order.filterMap (moveError now newState)).length
      = order.length := by
  induction order with
  | nil => rfl
  | cons node rest ih =>
      rw [List.countP_cons, List.filterMap_cons, List.length_cons]
      rcases moved_or_reported now newState node with
        ⟨hmoves, -, herror⟩ | ⟨hmoves, -, -, text, herror⟩
      · rw [hmoves, herror]
        dsimp only
        rw [if_pos rfl]
        omega
      · rw [hmoves, herror]
        dsimp only
        rw [if_neg Bool.false_ne_true, List.length_cons]
        omega

theorem mem_selectedNodes {db : DB} {nodeIds : List String} :
    node ∈ selectedNodes db nodeIds ↔ node ∈ db.nodes.rows ∧ node.id ∈ nodeIds := by
  unfold selectedNodes
  rw [List.mem_filter, decide_eq_true_eq]

theorem selectedNodes_nodup (db : DB) (nodeIds : List String) :
    ((selectedNodes db nodeIds).map Node.id).Nodup :=
  db.nodes.nodup.sublist (List.filter_sublist.map Node.id)

/-- The selected nodes are as many as the distinct listed ids that exist. -/
theorem length_selectedNodes (db : DB) (nodeIds : List String) :
    (selectedNodes db nodeIds).length
      = (nodeIds.dedup.filter (fun id => ∃ node ∈ db.nodes.rows, node.id = id)).length := by
  rw [← List.length_map (f := Node.id)]
  refine List.Perm.length_eq ((List.perm_ext_iff_of_nodup (selectedNodes_nodup db nodeIds)
    (nodeIds.nodup_dedup.filter _)).mpr (fun id => ?_))
  rw [List.mem_map, List.mem_filter, List.mem_dedup, decide_eq_true_eq]
  constructor
  · rintro ⟨node, hnode, rfl⟩
    obtain ⟨hmem, hlisted⟩ := mem_selectedNodes.mp hnode
    exact ⟨hlisted, node, hmem, rfl⟩
  · rintro ⟨hlisted, node, hmem, rfl⟩
    exact ⟨node, mem_selectedNodes.mpr ⟨hmem, hlisted⟩, rfl⟩

/-- The rows of one node, in whatever order the selected ones are visited. -/
theorem filter_id_order {db : DB} {nodeIds : List String} {order : List Node}
    (horder : order.Perm (selectedNodes db nodeIds)) (hmem : node ∈ db.nodes.rows) :
    order.filter (fun n => n.id = node.id) = if node.id ∈ nodeIds then [node] else [] := by
  split
  next hlisted =>
    exact Table.filter_eq_singleton
      ((horder.map Node.id).nodup_iff.mpr (selectedNodes_nodup db nodeIds))
      (horder.mem_iff.mpr (mem_selectedNodes.mpr ⟨hmem, hlisted⟩))
  next hlisted =>
    rw [List.filter_eq_nil_iff]
    intro n hn
    rw [decide_eq_true_eq]
    intro hid
    exact hlisted (hid ▸ (mem_selectedNodes.mp (horder.mem_iff.mp hn)).2)

/-- The row of a node once the selected ones were visited, in whatever order. -/
theorem visited_order {db : DB} {nodeIds : List String} {order : List Node}
    (horder : order.Perm (selectedNodes db nodeIds)) (hmem : node ∈ db.nodes.rows) :
    visited now newState (order.map Node.id) node
      = if node.id ∈ nodeIds ∧ moves now newState node = true then movedNode now newState node
        else node := by
  have hlisted : node.id ∈ order.map Node.id ↔ node.id ∈ nodeIds := by
    rw [(horder.map Node.id).mem_iff, List.mem_map]
    constructor
    · rintro ⟨n, hn, hid⟩
      exact hid ▸ (mem_selectedNodes.mp hn).2
    · exact fun h => ⟨node, mem_selectedNodes.mpr ⟨hmem, h⟩, rfl⟩
  unfold visited
  rw [if_congr hlisted rfl rfl]
  -- a node that is only reported is left as it is
  rcases moved_or_reported now newState node with ⟨hmoves, -, -⟩ | ⟨hmoves, hkept, -⟩
  · simp [hmoves]
  · simp [hmoves, hkept]

/-- A transition that is allowed writes one audit row. -/
theorem bulkTransition_of_moves (h : moves now newState node = true) :
    ∃ log, bulkTransition now newState node = .ok (movedNode now newState node, log)
      ∧ movedLog now newState node = some log := by
  unfold moves at h
  unfold movedNode movedLog
  cases hmoved : bulkTransition now newState node with
  | error e =>
      rw [hmoved] at h
      cases h
  | ok moved => exact ⟨moved.2, rfl, rfl⟩

theorem movedLog_of_not_moves (h : moves now newState node = false) :
    movedLog now newState node = none := by
  rcases moved_or_reported now newState node with ⟨hmoves, -, -⟩ | ⟨-, -, hlog, -⟩
  · rw [h] at hmoves
    cases hmoves
  · exact hlog

/-- The loop does what a bulk change is to do. -/
theorem bulkChangeStateIn_moves (now : Timestamp) (newState : NodeState) {db : DB}
    {nodeIds : List String} {order : List Node}
    (horder : order.Perm (selectedNodes db nodeIds)) :
    ∃ res db', bulkChangeStateIn order now db newState = .ok (res, db')
      ∧ BulkMoves now newState db nodeIds res db' := by
  have hnodup := (horder.map Node.id).nodup_iff.mpr (selectedNodes_nodup db nodeIds)
  obtain ⟨res, db', hloop, hnodes, hlogs, hevents, hsessions, hupdated, herrors⟩ :=
    bulkSessionLoop_spec now newState order db ⟨0, []⟩
      (fun n hn => (mem_selectedNodes.mp (horder.mem_iff.mp hn)).1) hnodup
  rw [Nat.zero_add] at hupdated
  rw [List.nil_append] at herrors
  have hlogsOf : ∀ id, db'.logsOf id = db.logsOf id
      ++ (order.filter (fun n => n.id = id)).filterMap (movedLog now newState) := by
    intro id
    rw [← filter_movedLogs]
    unfold DB.logsOf
    rw [hlogs, List.filter_append]
  refine ⟨res, db', hloop, ?_, ?_, ?_, ⟨hevents, hsessions⟩, ?_, ?_, ?_⟩
  · rw [hnodes]
    exact List.map_congr_left (fun node hmem => visited_order horder hmem)
  · intro node hmem hlisted hmoves
    obtain ⟨log, htransition, hlog⟩ := bulkTransition_of_moves hmoves
    refine ⟨log, htransition, ?_⟩
    rw [hlogsOf, filter_id_order horder hmem, if_pos hlisted, List.filterMap_cons, hlog]
    rfl
  · intro id hkept
    rw [hlogsOf, List.filterMap_eq_nil_iff.mpr, List.append_nil]
    intro node hnode
    obtain ⟨hnode, hid⟩ := List.mem_filter.mp hnode
    obtain ⟨hmem, hlisted⟩ := mem_selectedNodes.mp (horder.mem_iff.mp hnode)
    exact movedLog_of_not_moves (hkept node hmem (of_decide_eq_true hid) hlisted)
  · rw [hupdated, herrors, countP_moves_add, horder.length_eq, length_selectedNodes]
  · rw [hupdated, horder.countP_eq]
  · rw [herrors]
    exact horder.filterMap _

/-- What a bulk change leaves is determined by what it is to do. -/
theorem BulkMoves.same {db db₁ db₂ : DB} {nodeIds : List String}
    {res₁ res₂ : BulkChangeStateResult} (h₁ : BulkMoves now newState db nodeIds res₁ db₁)
    (h₂ : BulkMoves now newState db nodeIds res₂ db₂) :
    db₁.nodes = db₂.nodes ∧ ∀ id, db₁.logsOf id = db₂.logsOf id := by
  refine ⟨Table.ext (h₁.nodes.trans h₂.nodes.symm), fun id => ?_⟩
  by_cases hmoved : ∃ node ∈ db.nodes.rows, node.id = id ∧ node.id ∈ nodeIds
      ∧ moves now newState node = true
  · obtain ⟨node, hmem, rfl, hlisted, hmoves⟩ := hmoved
    obtain ⟨log₁, hlog₁, heq₁⟩ := h₁.moved node hmem hlisted hmoves
    obtain ⟨log₂, hlog₂, heq₂⟩ := h₂.moved node hmem hlisted hmoves
    rw [hlog₁] at hlog₂
    injection hlog₂ with hlog₂
    injection hlog₂ with _ hlog₂
    rw [heq₁, heq₂, hlog₂]
  · have hkept : ∀ node ∈ db.nodes.rows, node.id = id → node.id ∈ nodeIds →
        moves now newState node = false :=
      fun node hmem hid hlisted => Bool.eq_false_iff.mpr
        (fun hmoves => hmoved ⟨node, hmem, hid, hlisted, hmoves⟩)
    rw [h₁.kept id hkept, h₂.kept id hkept]

/-- Saving a row as it is changes nothing. -/
theorem save_self {db : DB} (hmem : node ∈ db.nodes.rows) : db.save node [] [] = db := by
  have hrows : (db.nodes.put node).rows = db.nodes.rows := by
    refine (List.map_congr_left (fun x hx => ?_)).trans (List.map_id _)
    split
    next hid => exact (db.nodes.eq_of_key_eq hx hmem hid).symm
    next => rfl
  unfold DB.save
  rw [Table.ext hrows, List.append_nil, List.append_nil]

/-- The loop over the rows and the loop over the session do the same. -/
theorem bulkLoop_eq (now : Timestamp) (newState : NodeState) :
    ∀ (order : List Node) (db : DB) (acc : BulkChangeStateResult),
      (∀ n ∈ order, n ∈ db.nodes.rows) → (order.map Node.id).Nodup →
      bulkLoop now newState db acc order = bulkSessionLoop now newState db acc order := by
  intro order
  induction order with
  | nil => exact fun _ _ _ _ => rfl
  | cons node rest ih =>
      intro db acc hmem hnodup
      rw [List.map_cons, List.nodup_cons] at hnodup
      have hrow := transitionRow_run now newState node
      have hrest : ∀ n ∈ rest, n ∈ db.nodes.rows :=
        fun n hn => hmem n (List.mem_cons_of_mem node hn)
      rw [bulkLoop, bulkSessionLoop]
      change (match bulkTransition now newState node with | .ok (node', log) => _ | .error e => _)
        = _
      cases h : bulkTransition now newState node with
      | ok moved =>
          rw [h] at hrow
          rw [hrow]
          refine ih _ _ (fun n hn => Table.mem_put_of_ne (hrest n hn) ?_) hnodup.2
          rw [(transition_ok h).1]
          exact fun hid => hnodup.1 (List.mem_map.mpr ⟨n, hn, hid⟩)
      | error e =>
          rw [h] at hrow
          rw [hrow]
          obtain ⟨text, htext⟩ := bulkTransition_caught h
          dsimp only
          rw [htext, save_self (hmem node List.mem_cons_self)]
          exact ih _ _ hrest hnodup.2

theorem bulkChangeState_eq (now : Timestamp) (db : DB) (nodeIds : List String)
    (newState : NodeState) :
    bulkChangeState now db nodeIds newState
      = bulkChangeStateIn (selectedNodes db nodeIds) now db newState :=
  bulkLoop_eq now newState _ db ⟨0, []⟩ (fun _ hn => (mem_selectedNodes.mp hn).1)
    (selectedNodes_nodup db nodeIds)

/-- **A BULK CHANGE IS A SET OF INDEPENDENT TRANSITIONS**: in whatever order the selected nodes
are visited, it does what it is to do, and leaves what it leaves in the order of the table. -/
theorem bulk_independent (now : Timestamp) (newState : NodeState) {db : DB}
    {nodeIds : List String} {order : List Node}
    (horder : order.Perm (selectedNodes db nodeIds)) :
    ∃ res db' res₀ db₀, bulkChangeStateIn order now db newState = .ok (res, db')
      ∧ bulkChangeState now db nodeIds newState = .ok (res₀, db₀)
      ∧ BulkMoves now newState db nodeIds res db'
      ∧ db'.nodes = db₀.nodes ∧ ∀ id, db'.logsOf id = db₀.logsOf id := by
  obtain ⟨res, db', hrun, hmoves⟩ := bulkChangeStateIn_moves now newState horder
  obtain ⟨res₀, db₀, hrun₀, hmoves₀⟩ := bulkChangeStateIn_moves now newState
    (.refl (selectedNodes db nodeIds))
  exact ⟨res, db', res₀, db₀, hrun, (bulkChangeState_eq now db nodeIds newState).trans hrun₀,
    hmoves, hmoves.same hmoves₀⟩

/-- Two discovered nodes and one that has used up its attempts. -/
def bulkDB : DB where
  nodes :=
    ⟨[{ id := "1", macAddress := "aa", state := .discovered },
      { id := "2", macAddress := "bb", state := .installFailed, installAttempts := 3 },
      { id := "3", macAddress := "cc", state := .discovered }], by decide⟩
  logs := []
  events := []
  sessions := Table.empty

/-- The last node is visited first; an unknown id and a repetition are listed. -/
theorem bulk_independent_reversed :
    ∃ res db' res₀ db₀,
      bulkChangeStateIn (selectedNodes bulkDB ["3", "9", "1", "2", "1"]).reverse ⟨0, true⟩ bulkDB
          .pending = .ok (res, db')
        ∧ bulkChangeState ⟨0, true⟩ bulkDB ["3", "9", "1", "2", "1"] .pending = .ok (res₀, db₀)
        ∧ BulkMoves ⟨0, true⟩ .pending bulkDB ["3", "9", "1", "2", "1"] res db'
        ∧ db'.nodes = db₀.nodes ∧ ∀ id, db'.logsOf id = db₀.logsOf id :=
  bulk_independent ⟨0, true⟩ .pending (List.reverse_perm _)

end

end PureBoot.Lifecycle
