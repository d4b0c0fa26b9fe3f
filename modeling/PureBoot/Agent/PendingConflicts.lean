/-
  PureBoot.Agent.PendingConflicts — the conflicts that are PENDING over repeated checks.

  Embeds `get_pending_conflicts`, `resolve_conflict` and `clear_resolved` of
  `agent/conflicts.py`, over runs in which they and `check_conflicts` are called in any order.

  `mark_conflict` replaces the row with the id of the conflict, and every conflict of a pass has
  an id of its own: what is still pending is stored once more by each pass that finds it.  As a
  set the pending entries do not change.

  Main results:
    * `findings_at` — the conflicts that a pass finds for one address;
    * `pendingKeys_check` — what a pass adds to the pending ones;
    * `pending_conflicts_iff` — when repeated checks do not pile up.
-/
import PureBoot.Agent.Conflicts
import PureBoot.Lib.Run

namespace PureBoot.Agent

open PureBoot.Lib

/-! ## §1. The operations. -/

/-- `get_pending_conflicts`. -/
def getPendingConflicts (store : ConflictStore) : List Conflict :=
  (store.rows.filter (fun row => !row.resolved)).mergeSort
    (fun a b => b.detectedAt ≤ a.detectedAt)

/-- What `resolve_conflict` makes of the row with this id. -/
def Conflict.resolve (conflictId : String) (resolution : Resolution) (resolvedBy : String)
    (now : Nat) (row : Conflict) : Conflict :=
  if row.id = conflictId then
    { row with
      resolved := true
      resolution := some resolution
      resolvedAt := some now
      resolvedBy := some resolvedBy }
  else row

theorem Conflict.resolve_id (conflictId : String) (resolution : Resolution)
    (resolvedBy : String) (now : Nat) (row : Conflict) :
    (row.resolve conflictId resolution resolvedBy now).id = row.id := by
  unfold Conflict.resolve
  split
  next => rfl
  next => rfl

/-- `resolve_conflict`. -/
def resolveConflict (store : ConflictStore) (conflictId : String) (resolution : Resolution)
    (resolvedBy : String) (now : Nat) : Bool × ConflictStore :=
  (store.rows.any (fun row => row.id = conflictId),
    store.update (Conflict.resolve conflictId resolution resolvedBy now)
      (Conflict.resolve_id conflictId resolution resolvedBy now))

/-- The row was resolved more than so many days ago. -/
def Conflict.resolvedBefore (olderThanDays : Int) (now : Nat) (row : Conflict) : Bool :=
  match row.resolvedAt with
  | some resolvedAt => row.resolved && (resolvedAt : Int) + olderThanDays * 86400 < now
  | none => false

/-- `clear_resolved`. -/
def clearResolved (store : ConflictStore) (olderThanDays : Int) (now : Nat) :
    Nat × ConflictStore :=
  (store.rows.countP (Conflict.resolvedBefore olderThanDays now),
    store.delete (Conflict.resolvedBefore olderThanDays now))

/-! ## §2. Runs. -/

/-- A call, with the time, and for a pass the ids that are drawn and the two sides. -/
inductive ConflictCall where
  | check (now : Nat) (uuid : Nat → String) (central : List CentralNode) (cache : StateCache)
  | resolve (conflictId : String) (resolution : Resolution) (resolvedBy : String) (now : Nat)
  | clear (olderThanDays : Int) (now : Nat)

def ConflictCall.perform (store : ConflictStore) : ConflictCall → ConflictStore
  | check now uuid central cache => (checkConflicts now uuid store central cache).2
  | resolve conflictId resolution resolvedBy now =>
      (resolveConflict store conflictId resolution resolvedBy now).2
  | clear olderThanDays now => (clearResolved store olderThanDays now).2

/-- `uuid4` draws ids that are new. -/
def FreshIds (store : ConflictStore) : ConflictCall → Prop
  | .check now uuid central cache =>
      (store.rows.map Conflict.id
        ++ (checkConflicts now uuid store central cache).1.map Conflict.id).Nodup
  | _ => True

instance : ∀ store call, Decidable (FreshIds store call)
  | store, .check now uuid central cache =>
      inferInstanceAs (Decidable (store.rows.map Conflict.id
        ++ (checkConflicts now uuid store central cache).1.map Conflict.id).Nodup)
  | _, .resolve _ _ _ _ => .isTrue trivial
  | _, .clear _ _ => .isTrue trivial

/-- The MAC address and the type of a conflict. -/
def Finding.key (f : Finding) : String × ConflictType := (f.nodeMac, f.conflictType)

def pendingKeys (store : ConflictStore) : List (String × ConflictType) :=
  (getPendingConflicts store).map (fun conflict => conflict.toFinding.key)

/-- The entries that are pending, as far as they do not depend on the time of a pass. -/
def pendingEntries (store : ConflictStore) : List Difference :=
  (getPendingConflicts store).map (fun conflict => conflict.toFinding.difference)

/-- **REPEATED CHECKS DO NOT PILE UP**: no two conflicts are pending for one address and type,
and a second pass over the same two sides leaves the set of pending entries as it is. -/
structure DoNotPileUp (store : ConflictStore) : Prop where
  distinct : (pendingKeys store).Nodup
  unchanged : ∀ now uuid now' uuid' central cache,
    let once := (checkConflicts now uuid store central cache).2
    FreshIds store (.check now uuid central cache) →
    FreshIds once (.check now' uuid' central cache) →
    ∀ entry, entry ∈ pendingEntries (checkConflicts now' uuid' once central cache).2
      ↔ entry ∈ pendingEntries once

/-! ## §3. One address. -/

/-- The cached nodes whose address this is in lower case. -/
def cachedUnder (cache : StateCache) (mac : String) : List CachedNode :=
  cache.rows.filter (fun c => c.macAddress.toLower = mac)

/-- The node of central whose address this is in lower case; of several the last one. -/
def centralUnder (central : List CentralNode) (mac : String) : Option CentralNode :=
  if mac = "" then none else (central.filter (fun n => n.macAddress.toLower = mac)).getLast?

/-- The types of the conflicts that the two sides give for one address.  Central's node stands
for one cached node: others under the same address are missing there. -/
def conflictTypes : List CachedNode → Option CentralNode → List ConflictType
  | cached, none => cached.map (fun _ => .missingCentral)
  | [], some _ => [.missingLocal]
  | c :: rest, some n =>
      (if c.state ≠ n.state then [.stateMismatch] else []) ++ rest.map (fun _ => .missingCentral)

/-- **NOTHING IS FOUND AGAIN**: for no address do the two sides give a type of conflict twice,
or one that is pending for it. -/
def NothingAgain (store : ConflictStore) : ConflictCall → Prop
  | .check _ _ central cache =>
      (∀ mac, (conflictTypes (cachedUnder cache mac) (centralUnder central mac)).Nodup)
        ∧ ∀ row ∈ store.rows, row.resolved = false →
            row.conflictType
              ∉ conflictTypes (cachedUnder cache row.nodeMac) (centralUnder central row.nodeMac)
  | _ => True

theorem get_centralByMac_eq (central : List CentralNode) (mac : String) :
    (centralByMac central).get mac = centralUnder central mac := by
  unfold centralByMac centralUnder
  rw [Dict.get_setAll]
  show (Dict.lastValue mac _).or none = _
  rw [Option.or_none]
  unfold Dict.lastValue
  rw [List.filter_map, List.filter_filter, List.getLast?_map, Option.map_map]
  split
  next hempty =>
    rw [List.filter_eq_nil_iff.mpr]
    · rfl
    · intro n _
      simp [hempty]
  next hmac =>
    have hfilter : central.filter (fun n =>
          ((fun p => decide (p.1 = mac)) ∘ fun n : CentralNode => (n.macAddress.toLower, n)) n
            && decide (n.macAddress.toLower ≠ ""))
        = central.filter (fun n => n.macAddress.toLower = mac) := by
      refine List.filter_congr (fun n _ => ?_)
      simp only [Function.comp_apply]
      by_cases hn : n.macAddress.toLower = mac
      · simp [hn, hmac]
      · simp [hn]
    rw [hfilter]
    exact Option.map_id'

theorem conflictTypes_none (cached : List CachedNode) :
    conflictTypes cached none = cached.map (fun _ => .missingCentral) := by
  cases cached <;> rfl

theorem conflictTypes_cons (now : Nat) (c : CachedNode) (rest : List CachedNode)
    (central : Option CentralNode) :
    conflictTypes (c :: rest) central
      = (compareNode now c central).toList.map Finding.conflictType ++ conflictTypes rest none := by
  rw [conflictTypes_none]
  cases central with
  | none => rfl
  | some n =>
      unfold conflictTypes compareNode
      dsimp only
      split
      next => rfl
      next => rfl

/-- Nothing is found twice for an address under which one node is cached at most. -/
theorem nodup_conflictTypes {cached : List CachedNode} (h : cached.length ≤ 1)
    (central : Option CentralNode) : (conflictTypes cached central).Nodup := by
  cases cached with
  | nil =>
      cases central with
      | none => exact List.nodup_nil
      | some n => exact List.nodup_singleton _
  | cons c rest =>
      have hrest : rest.length = 0 := Nat.le_zero.mp (Nat.le_of_succ_le_succ h)
      obtain rfl : rest = [] := List.length_eq_zero_iff.mp hrest
      rw [conflictTypes_cons 0, conflictTypes_none, List.map_nil, List.append_nil]
      cases compareNode 0 c central with
      | none => exact List.nodup_nil
      | some f => exact List.nodup_singleton _

theorem compareNode_nodeMac {now : Nat} {c : CachedNode} {central : Option CentralNode}
    {f : Finding} (h : f ∈ (compareNode now c central).toList) :
    f.nodeMac = c.macAddress.toLower := by
  rw [Option.mem_toList] at h
  cases central with
  | none =>
      obtain rfl := Option.some.inj h
      rfl
  | some n =>
      unfold compareNode at h
      dsimp only at h
      split at h
      next =>
        obtain rfl := Option.some.inj h
        rfl
      next => cases h

/-- What the loop over the cache finds for one address, and what it leaves of it. -/
theorem checkCached_at (now : Nat) (mac : String) :
    ∀ (cached : List CachedNode) (byMac : Dict String CentralNode),
      ((checkCached now byMac cached).1.filter (fun f => f.nodeMac = mac)).map
            Finding.conflictType
          ++ ((checkCached now byMac cached).2.get mac).toList.map (fun _ => .missingLocal)
        = conflictTypes (cached.filter (fun c => c.macAddress.toLower = mac)) (byMac.get mac) := by
  intro cached
  induction cached with
  | nil =>
      intro byMac
      cases hget : byMac.get mac with
      | none =>
          show [] ++ (byMac.get mac).toList.map _ = _
          rw [hget]
          rfl
      | some n =>
          show [] ++ (byMac.get mac).toList.map _ = _
          rw [hget]
          rfl
  | cons c rest ih =>
      intro byMac
      have hrest := ih (byMac.pop c.macAddress.toLower)
      unfold checkCached
      dsimp only
      rw [List.filter_append, List.map_append, List.append_assoc, hrest]
      -- a cached node takes its address out of the table, for the rest of the loop
      by_cases hc : c.macAddress.toLower = mac
      · rw [Dict.get_pop, if_pos hc.symm, List.filter_cons_of_pos (by simpa using hc),
          conflictTypes_cons now, List.filter_eq_self.mpr, hc]
        intro f hf
        exact decide_eq_true ((compareNode_nodeMac hf).trans hc)
      · rw [Dict.get_pop_of_ne _ (Ne.symm hc), List.filter_cons_of_neg (by simpa using hc),
          List.filter_eq_nil_iff.mpr]
        · rfl
        · intro f hf
          rw [compareNode_nodeMac hf]
          simpa using hc

/-- **WHAT A PASS FINDS FOR ONE ADDRESS.** -/
theorem findings_at (now : Nat) (central : List CentralNode) (cache : StateCache)
    (mac : String) :
    ((findings now central cache).filter (fun f => f.nodeMac = mac)).map Finding.conflictType
      = conflictTypes (cachedUnder cache mac) (centralUnder central mac) := by
  rw [← get_centralByMac_eq]
  unfold cachedUnder
  rw [← checkCached_at now mac]
  unfold findings getAllNodes
  dsimp only
  rw [List.filter_append, List.map_append]
  congr 1
  rw [List.filter_map, List.map_map]
  show List.map _ (((checkCached now (centralByMac central) cache.rows).2).rows.filter
    (fun p => p.1 = mac)) = _
  rw [Table.filter_key_eq]
  unfold Dict.get
  cases (checkCached now (centralByMac central) cache.rows).2.get? mac <;> rfl

/-! ## §4. What a call does to the pending ones. -/

theorem pendingKeys_perm (store : ConflictStore) :
    (pendingKeys store).Perm
      ((store.rows.filter (fun row => !row.resolved)).map
        (fun conflict => conflict.toFinding.key)) :=
  (List.mergeSort_perm _ _).map _

theorem mem_pendingKeys {store : ConflictStore} {key : String × ConflictType} :
    key ∈ pendingKeys store
      ↔ ∃ row ∈ store.rows, row.resolved = false ∧ row.toFinding.key = key := by
  rw [(pendingKeys_perm store).mem_iff, List.mem_map]
  refine exists_congr (fun row => ?_)
  rw [List.mem_filter, Bool.not_eq_true', and_assoc]

theorem mem_pendingEntries {store : ConflictStore} {entry : Difference} :
    entry ∈ pendingEntries store
      ↔ ∃ row ∈ store.rows, row.resolved = false ∧ row.toFinding.difference = entry := by
  unfold pendingEntries getPendingConflicts
  rw [((List.mergeSort_perm _ _).map _).mem_iff, List.mem_map]
  refine exists_congr (fun row => ?_)
  rw [List.mem_filter, Bool.not_eq_true', and_assoc]

section
variable {now : Nat} {uuid : Nat → String} {store : ConflictStore} {central : List CentralNode}
  {cache : StateCache}

theorem resolved_of_check {conflict : Conflict}
    (h : conflict ∈ (checkConflicts now uuid store central cache).1) :
    conflict.resolved = false := by
  obtain ⟨k, -, rfl⟩ := List.mem_mapIdx.mp h
  rfl

/-- **WHAT A PASS STORES**: it appends what it finds. -/
theorem rows_check (hfresh : FreshIds store (.check now uuid central cache)) :
    (checkConflicts now uuid store central cache).2.rows
      = store.rows ++ (checkConflicts now uuid store central cache).1 :=
  Table.rows_foldl_upsert hfresh

/-- **WHAT A PASS ADDS** to what is pending. -/
theorem pendingKeys_check (hfresh : FreshIds store (.check now uuid central cache)) :
    (pendingKeys (checkConflicts now uuid store central cache).2).Perm
      (pendingKeys store ++ (findings now central cache).map Finding.key) := by
  refine (pendingKeys_perm _).trans ?_
  rw [rows_check hfresh, List.filter_append, List.map_append]
  have hnew : (checkConflicts now uuid store central cache).1.filter (fun row => !row.resolved)
      = (checkConflicts now uuid store central cache).1 := by
    refine List.filter_eq_self.mpr (fun conflict hconflict => ?_)
    rw [resolved_of_check hconflict]
    rfl
  rw [hnew, ← checkConflicts_findings now uuid store central cache, List.map_map]
  exact (pendingKeys_perm store).symm.append_right _

/-- A pass finds nothing twice exactly if the two sides give nothing twice. -/
theorem nodup_findings_iff :
    ((findings now central cache).map Finding.key).Nodup
      ↔ ∀ mac, (conflictTypes (cachedUnder cache mac) (centralUnder central mac)).Nodup := by
  refine Table.nodup_pairs_iff.trans (forall_congr' (fun mac => ?_))
  rw [findings_at]

theorem mem_findings_iff {mac : String} {type : ConflictType} :
    (mac, type) ∈ (findings now central cache).map Finding.key
      ↔ type ∈ conflictTypes (cachedUnder cache mac) (centralUnder central mac) := by
  rw [← findings_at now, List.mem_map, List.mem_map]
  refine exists_congr (fun f => ?_)
  rw [List.mem_filter, decide_eq_true_eq, and_assoc]
  exact and_congr_right (fun _ => Prod.mk_inj)

/-- The next pass keeps the pending ones distinct exactly if it finds nothing again. -/
theorem nodup_check_iff (hfresh : FreshIds store (.check now uuid central cache))
    (hdistinct : (pendingKeys store).Nodup) :
    (pendingKeys (checkConflicts now uuid store central cache).2).Nodup
      ↔ NothingAgain store (.check now uuid central cache) := by
  rw [(pendingKeys_check hfresh).nodup_iff, List.nodup_append, nodup_findings_iff]
  constructor
  · rintro ⟨-, honce, hdisjoint⟩
    refine ⟨honce, fun row hrow hpending hagain => ?_⟩
    exact hdisjoint row.toFinding.key (mem_pendingKeys.mpr ⟨row, hrow, hpending, rfl⟩)
      (row.nodeMac, row.conflictType) (mem_findings_iff.mpr hagain) rfl
  · rintro ⟨honce, hagain⟩
    refine ⟨hdistinct, honce, ?_⟩
    rintro key hkey ⟨mac, type⟩ hfound rfl
    obtain ⟨row, hrow, hpending, heq⟩ := mem_pendingKeys.mp hkey
    obtain ⟨rfl, rfl⟩ := Prod.mk.inj heq
    exact hagain row hrow hpending (mem_findings_iff.mp hfound)

/-- What is found does not depend on the time. -/
theorem findings_difference (now now' : Nat) (central : List CentralNode) (cache : StateCache) :
    (findings now central cache).map Finding.difference
      = (findings now' central cache).map Finding.difference := by
  have hloop : ∀ (cached : List CachedNode) (byMac : Dict String CentralNode),
      (checkCached now byMac cached).1.map Finding.difference
          = (checkCached now' byMac cached).1.map Finding.difference
        ∧ (checkCached now byMac cached).2 = (checkCached now' byMac cached).2 := by
    intro cached
    induction cached with
    | nil => exact fun _ => ⟨rfl, rfl⟩
    | cons c rest ih =>
        intro byMac
        obtain ⟨hfound, hleft⟩ := ih (byMac.pop c.macAddress.toLower)
        unfold checkCached
        dsimp only
        refine ⟨?_, hleft⟩
        rw [List.map_append, List.map_append, hfound]
        congr 1
        cases byMac.get c.macAddress.toLower with
        | none => rfl
        | some n =>
            unfold compareNode
            dsimp only
            split
            next => rfl
            next => rfl
  obtain ⟨hfound, hleft⟩ := hloop (getAllNodes cache) (centralByMac central)
  unfold findings
  dsimp only
  rw [List.map_append, List.map_append, hfound, hleft, List.map_map, List.map_map]
  rfl

/-- The entries that are pending after a pass. -/
theorem mem_pendingEntries_check (hfresh : FreshIds store (.check now uuid central cache))
    {entry : Difference} :
    entry ∈ pendingEntries (checkConflicts now uuid store central cache).2
      ↔ entry ∈ pendingEntries store
        ∨ entry ∈ (findings now central cache).map Finding.difference := by
  rw [mem_pendingEntries, mem_pendingEntries, rows_check hfresh,
    ← checkConflicts_findings now uuid store central cache, List.map_map, List.mem_map]
  constructor
  · rintro ⟨row, hrow, hpending, hentry⟩
    rcases List.mem_append.mp hrow with hrow | hrow
    · exact .inl ⟨row, hrow, hpending, hentry⟩
    · exact .inr ⟨row, hrow, hentry⟩
  · rintro (⟨row, hrow, hpending, hentry⟩ | ⟨row, hrow, hentry⟩)
    · exact ⟨row, List.mem_append_left _ hrow, hpending, hentry⟩
    · exact ⟨row, List.mem_append_right _ hrow, resolved_of_check hrow, hentry⟩

end

/-- **A SECOND PASS** leaves the set of pending entries as it is. -/
theorem pendingEntries_second {store : ConflictStore} {now now' : Nat}
    {uuid uuid' : Nat → String} {central : List CentralNode} {cache : StateCache}
    (hfresh : FreshIds store (.check now uuid central cache))
    (hfresh' : FreshIds (checkConflicts now uuid store central cache).2
      (.check now' uuid' central cache)) (entry : Difference) :
    entry ∈ pendingEntries
        (checkConflicts now' uuid' (checkConflicts now uuid store central cache).2 central cache).2
      ↔ entry ∈ pendingEntries (checkConflicts now uuid store central cache).2 := by
  rw [mem_pendingEntries_check hfresh', findings_difference now' now]
  -- what the second pass finds, the first has stored
  refine or_iff_left_of_imp (fun hfound => ?_)
  exact (mem_pendingEntries_check hfresh).mpr (.inr hfound)

theorem nodup_of_sublist {store store' : ConflictStore}
    (h : ((store'.rows.filter (fun row => !row.resolved)).map
          (fun conflict => conflict.toFinding.key)).Sublist
        ((store.rows.filter (fun row => !row.resolved)).map
          (fun conflict => conflict.toFinding.key)))
    (hdistinct : (pendingKeys store).Nodup) : (pendingKeys store').Nodup :=
  (pendingKeys_perm store').nodup_iff.mpr
    (((pendingKeys_perm store).nodup_iff.mp hdistinct).sublist h)

/-- A resolution takes a conflict out of the pending ones, and changes no other. -/
theorem nodup_resolve {store : ConflictStore} (conflictId : String) (resolution : Resolution)
    (resolvedBy : String) (now : Nat) (hdistinct : (pendingKeys store).Nodup) :
    (pendingKeys (resolveConflict store conflictId resolution resolvedBy now).2).Nodup := by
  refine nodup_of_sublist ?_ hdistinct
  have hkey : ∀ row : Conflict,
      (row.resolve conflictId resolution resolvedBy now).toFinding = row.toFinding := by
    intro row
    unfold Conflict.resolve
    split
    next => rfl
    next => rfl
  have hpending : ∀ row : Conflict,
      (!(row.resolve conflictId resolution resolvedBy now).resolved) = true →
        (!row.resolved) = true := by
    intro row hrow
    unfold Conflict.resolve at hrow
    split at hrow
    next => cases hrow
    next => exact hrow
  have hkeys : (fun conflict : Conflict => conflict.toFinding.key)
        ∘ Conflict.resolve conflictId resolution resolvedBy now
      = fun conflict => conflict.toFinding.key :=
    funext (fun row => congrArg Finding.key (hkey row))
  -- the row keeps its key, and is no longer among the pending ones
  show (((store.rows.map _).filter _).map _).Sublist _
  rw [List.filter_map, List.map_map, hkeys]
  exact (List.monotone_filter_right _ hpending).map _

theorem nodup_clear {store : ConflictStore} (olderThanDays : Int) (now : Nat)
    (hdistinct : (pendingKeys store).Nodup) :
    (pendingKeys (clearResolved store olderThanDays now).2).Nodup :=
  nodup_of_sublist ((List.filter_sublist.filter _).map _) hdistinct

/-- **REPEATED CHECKS DO NOT PILE UP** exactly if no pass finds again what is still pending, or
one thing twice: for every run of passes, resolutions and clearings. -/
theorem pending_conflicts_iff {calls : List ConflictCall}
    (hfresh : Along ConflictCall.perform FreshIds .empty calls) :
    Always ConflictCall.perform DoNotPileUp .empty calls
      ↔ Along ConflictCall.perform NothingAgain .empty calls := by
  have hstep : ∀ (store : ConflictStore) (call : ConflictCall), FreshIds store call →
      (pendingKeys store).Nodup → NothingAgain store call →
        (pendingKeys (call.perform store)).Nodup := by
    intro store call hfresh hdistinct hagain
    cases call with
    | check now uuid central cache => exact (nodup_check_iff hfresh hdistinct).mpr hagain
    | resolve conflictId resolution resolvedBy now =>
        exact nodup_resolve conflictId resolution resolvedBy now hdistinct
    | clear olderThanDays now => exact nodup_clear olderThanDays now hdistinct
  -- the invariant is that the keys are distinct: a pass that breaks it is seen at once
  refine always_iff_along_of hstep ?_ ?_ hfresh
    ((pendingKeys_perm .empty).nodup_iff.mpr List.nodup_nil)
  · intro store hdistinct
    exact ⟨hdistinct, fun _ _ _ _ _ _ h h' => pendingEntries_second h h'⟩
  · intro store call hfresh hdistinct hagain hpile
    cases call with
    | check now uuid central cache =>
        exact hagain ((nodup_check_iff hfresh hdistinct).mp hpile.distinct)
    | resolve conflictId resolution resolvedBy now => exact hagain trivial
    | clear olderThanDays now => exact hagain trivial

/-- A node whose state central learned while the agent was away. -/
def behind : ConflictCall :=
  .check 1 (fun _ => "c1") [⟨"n1", "aa:bb:cc:dd:ee:ff", "active", none⟩]
    ⟨[{ macAddress := "aa:bb:cc:dd:ee:ff", state := "installing", cachedAt := 0
        expiresAt := 300 }], List.nodup_singleton _⟩

/-- The next pass over the same sides. -/
def behindAgain : ConflictCall :=
  .check 3 (fun _ => "c2") [⟨"n1", "aa:bb:cc:dd:ee:ff", "active", none⟩]
    ⟨[{ macAddress := "aa:bb:cc:dd:ee:ff", state := "installing", cachedAt := 0
        expiresAt := 300 }], List.nodup_singleton _⟩

theorem pending_conflicts_iff_resolved :
    Always ConflictCall.perform DoNotPileUp .empty
      [behind, .resolve "c1" .keepCentral "system" 2, behindAgain] := by
  refine (pending_conflicts_iff (by decide +kernel)).mpr ⟨⟨fun mac => ?_, ?_⟩, trivial,
    ⟨fun mac => ?_, by decide +kernel⟩, trivial⟩
  · exact nodup_conflictTypes (List.length_filter_le _ _) _
  · intro row hrow
    cases hrow
  · exact nodup_conflictTypes (List.length_filter_le _ _) _

/-- Without a resolution between the passes the conflict is pending twice. -/
theorem pending_conflicts_twice :
    Along ConflictCall.perform FreshIds .empty [behind, behindAgain]
      ∧ (pendingKeys (run ConflictCall.perform .empty [behind, behindAgain])).Perm
          [("aa:bb:cc:dd:ee:ff", .stateMismatch), ("aa:bb:cc:dd:ee:ff", .stateMismatch)]
      ∧ ¬ Always ConflictCall.perform DoNotPileUp .empty [behind, behindAgain] := by
  have hpending : (pendingKeys (run ConflictCall.perform .empty [behind, behindAgain])).Perm
      [("aa:bb:cc:dd:ee:ff", .stateMismatch), ("aa:bb:cc:dd:ee:ff", .stateMismatch)] :=
    (pendingKeys_perm _).trans (List.Perm.of_eq (by decide +kernel))
  refine ⟨by decide +kernel, hpending, fun halways => ?_⟩
  have hdistinct := hpending.nodup_iff.mp halways.last.distinct
  exact (List.nodup_cons.mp hdistinct).1 List.mem_cons_self

end PureBoot.Agent
