/-
  PureBoot.Agent.Conflicts — the CONFLICTS between the agent's cache and central.

  Embeds `check_conflicts` and `mark_conflict` of `agent/conflicts.py`.  A pass puts central's
  nodes into a lookup table under their MAC addresses, takes the cached nodes out of it one by
  one, and reports what does not agree and what is left over.

  The table is keyed by the address in lower case, the cache by the address `set_node`
  normalizes, with a colon for every dash.  Central stores normalized addresses, but a Pi that
  is registered without one gets the placeholder `pi-<serial>`, whose dash the cache replaces:
  its two sides are never matched.

  Main results:
    * `checkCached_spec` — the loop over the cache;
    * `findings_eq_differences` — a pass reports the differences under its own keys;
    * `conflicts_exact_iff` — when these are the differences between the two sides.
-/
import Mathlib.Data.List.Find
import PureBoot.Agent.StateCache
import PureBoot.Lib.Dict
import PureBoot.Tftp.Paths

namespace PureBoot.Agent

open PureBoot.Lib PureBoot.Web PureBoot.Lifecycle

/-! ## §1. Rows. -/

/-- A node as central lists it; `updatedAt` is the time its text names, if it is set. -/
structure CentralNode where
  id : String
  macAddress : String
  state : String
  updatedAt : Option Nat := none
  deriving DecidableEq, Repr

/-- `Conflict.conflict_type`. -/
inductive ConflictType where
  | stateMismatch
  | missingLocal
  | missingCentral
  deriving DecidableEq, Repr

/-- `Conflict.resolution`. -/
inductive Resolution where
  | keepLocal
  | keepCentral
  | merge
  deriving DecidableEq, Repr

/-- What a pass finds: a `Conflict` before it is stored. -/
structure Finding where
  nodeMac : String
  nodeId : Option String
  localState : String
  centralState : String
  localUpdatedAt : Nat
  centralUpdatedAt : Nat
  conflictType : ConflictType
  detectedAt : Nat
  deriving DecidableEq, Repr

/-- `Conflict`. -/
structure Conflict extends Finding where
  id : String
  resolved : Bool := false
  resolution : Option Resolution := none
  resolvedAt : Option Nat := none
  resolvedBy : Option String := none
  deriving DecidableEq, Repr

/-- The `conflicts` table of the agent. -/
abbrev ConflictStore : Type := Table Conflict.id

/-! ## §2. A pass. -/

/-- `central_by_mac`; of several nodes under one address the last one counts. -/
def centralByMac (central : List CentralNode) : Dict String CentralNode :=
  Dict.setAll Table.empty ((central.filter (fun n => n.macAddress.toLower ≠ "")).map
    (fun n => (n.macAddress.toLower, n)))

/-- A cached node that central does not have. -/
def missingCentral (now : Nat) (cached : CachedNode) : Finding where
  nodeMac := cached.macAddress.toLower
  nodeId := cached.nodeId
  localState := cached.state
  centralState := "missing"
  localUpdatedAt := cached.cachedAt
  centralUpdatedAt := now
  conflictType := .missingCentral
  detectedAt := now

/-- A node on both sides; an empty id of the cached node gives way to central's. -/
def stateMismatch (now : Nat) (cached : CachedNode) (central : CentralNode) : Finding where
  nodeMac := cached.macAddress.toLower
  nodeId := (truthy cached.nodeId).or (some central.id)
  localState := cached.state
  centralState := central.state
  localUpdatedAt := cached.cachedAt
  centralUpdatedAt := central.updatedAt.getD now
  conflictType := .stateMismatch
  detectedAt := now

/-- A node of central that is not cached. -/
def missingLocal (now : Nat) (mac : String) (central : CentralNode) : Finding where
  nodeMac := mac
  nodeId := some central.id
  localState := "missing"
  centralState := central.state
  localUpdatedAt := now
  centralUpdatedAt := central.updatedAt.getD now
  conflictType := .missingLocal
  detectedAt := now

/-- What one cached node gives against the node of central that was looked up. -/
def compareNode (now : Nat) (cached : CachedNode) : Option CentralNode → Option Finding
  | none => some (missingCentral now cached)
  | some central =>
      if cached.state ≠ central.state then some (stateMismatch now cached central) else none

/-- The loop over the cached nodes, with what it leaves of the lookup table. -/
def checkCached (now : Nat) :
    Dict String CentralNode → List CachedNode → List Finding × Dict String CentralNode
  | byMac, [] => ([], byMac)
  | byMac, cached :: rest =>
      let mac := cached.macAddress.toLower
      let (found, left) := checkCached now (byMac.pop mac) rest
      ((compareNode now cached (byMac.get mac)).toList ++ found, left)

/-- What `check_conflicts` finds: for the cached nodes, then for what is left of central's. -/
def findings (now : Nat) (central : List CentralNode) (cache : StateCache) : List Finding :=
  let (found, left) := checkCached now (centralByMac central) (getAllNodes cache)
  found ++ left.rows.map (fun p => missingLocal now p.1 p.2)

/-- `mark_conflict`. -/
def ConflictStore.mark (store : ConflictStore) (conflict : Conflict) : ConflictStore :=
  store.upsert conflict

/-- `check_conflicts`; `uuid` are the ids that `uuid4` draws. -/
def checkConflicts (now : Nat) (uuid : Nat → String) (store : ConflictStore)
    (central : List CentralNode) (cache : StateCache) : List Conflict × ConflictStore :=
  let conflicts := (findings now central cache).mapIdx
    (fun k finding => { finding with id := uuid k : Conflict })
  (conflicts, conflicts.foldl ConflictStore.mark store)

/-! ## §3. The differences of two sides. -/

/-- What a conflict says: its kind, the node, and the two states. -/
structure Difference where
  conflictType : ConflictType
  nodeMac : String
  localState : String
  centralState : String
  deriving DecidableEq, Repr

def Finding.difference (f : Finding) : Difference :=
  ⟨f.conflictType, f.nodeMac, f.localState, f.centralState⟩

/-- What a cached node gives against the node of central that is the same. -/
def compareSides (cached : CachedNode) : Option CentralNode → Option Difference
  | none => some ⟨.missingCentral, cached.macAddress, cached.state, "missing"⟩
  | some central =>
      if cached.state ≠ central.state then
        some ⟨.stateMismatch, cached.macAddress, cached.state, central.state⟩
      else none

/-- **THE DIFFERENCES** between two sides, where `same` says which nodes are the same: one for
each cached node that no node of central is the same as, one for each whose state differs, and
one for each node of central that is not cached. -/
def differences (same : CachedNode → CentralNode → Bool) (central : List CentralNode)
    (cached : List CachedNode) : List Difference :=
  cached.filterMap (fun c => compareSides c (central.find? (same c)))
    ++ (central.filter (fun n => !cached.any (fun c => same c n))).map
      (fun n => ⟨.missingLocal, n.macAddress, "missing", n.state⟩)

/-- The two rows have the same address: the cache holds what `set_node` makes of it. -/
def sameNode (cached : CachedNode) (central : CentralNode) : Bool :=
  cached.macAddress = normalizeMac central.macAddress

/-- The two rows are matched by `check_conflicts`. -/
def sameKey (cached : CachedNode) (central : CentralNode) : Bool :=
  cached.macAddress.toLower = central.macAddress.toLower

theorem differences_congr {same same' : CachedNode → CentralNode → Bool}
    {central : List CentralNode} {cached : List CachedNode}
    (h : ∀ c ∈ cached, ∀ n ∈ central, same c n = same' c n) :
    differences same central cached = differences same' central cached := by
  have hfind : ∀ c ∈ cached, central.find? (same c) = central.find? (same' c) :=
    fun c hc => List.find?_congr (h c hc)
  have hany : ∀ n ∈ central,
      cached.any (fun c => same c n) = cached.any (fun c => same' c n) := by
    intro n hn
    rw [Bool.eq_iff_iff, List.any_eq_true, List.any_eq_true]
    exact exists_congr (fun c => and_congr_right (fun hc => by rw [h c hc n hn]))
  unfold differences
  congr 1
  · exact List.filterMap_congr (fun c hc => by rw [hfind c hc])
  · exact congrArg _ (List.filter_congr (fun n hn => by rw [hany n hn]))

/-- **THE LOOP OVER THE CACHE**: every address is looked up once, and taken out. -/
theorem checkCached_spec (now : Nat) :
    ∀ {cached : List CachedNode} (byMac : Dict String CentralNode),
      (cached.map (fun c => c.macAddress.toLower)).Nodup →
      (checkCached now byMac cached).1
          = cached.filterMap (fun c => compareNode now c (byMac.get c.macAddress.toLower))
        ∧ (checkCached now byMac cached).2.rows
          = byMac.rows.filter (fun p => !cached.any (fun c => c.macAddress.toLower = p.1)) := by
  intro cached
  induction cached with
  | nil =>
      intro byMac _
      exact ⟨rfl, (List.filter_eq_self.mpr (fun _ _ => rfl)).symm⟩
  | cons c rest ih =>
      intro byMac hnodup
      rw [List.map_cons, List.nodup_cons] at hnodup
      obtain ⟨hfound, hleft⟩ := ih (byMac.pop c.macAddress.toLower) hnodup.2
      unfold checkCached
      dsimp only
      constructor
      · -- the addresses to come are other ones
        have hrest : rest.filterMap (fun x => compareNode now x
              ((byMac.pop c.macAddress.toLower).get x.macAddress.toLower))
            = rest.filterMap (fun x => compareNode now x (byMac.get x.macAddress.toLower)) := by
          refine List.filterMap_congr (fun x hx => ?_)
          rw [Dict.get_pop_of_ne]
          exact fun heq => hnodup.1 (List.mem_map.mpr ⟨x, hx, heq⟩)
        rw [hfound, hrest, List.filterMap_cons]
        cases compareNode now c (byMac.get c.macAddress.toLower) <;> rfl
      · rw [hleft]
        show (byMac.rows.filter _).filter _ = _
        rw [List.filter_filter]
        refine List.filter_congr (fun p _ => ?_)
        rw [List.any_cons, Bool.not_or, Bool.and_comm]
        congr 2
        exact decide_eq_decide.mpr eq_comm

section
variable {central : List CentralNode} {cache : StateCache}

/-- The lookup table of central's nodes, if their addresses are distinct in lower case. -/
theorem centralByMac_rows (hkeys : ∀ n ∈ central, n.macAddress.toLower ≠ "")
    (hnodup : (central.map (fun n => n.macAddress.toLower)).Nodup) :
    (centralByMac central).rows = central.map (fun n => (n.macAddress.toLower, n)) := by
  unfold centralByMac
  rw [List.filter_eq_self.mpr (fun n hn => decide_eq_true (hkeys n hn)),
    Dict.rows_setAll_of_nodup]
  · rfl
  · rw [List.map_map]
    exact hnodup

theorem get_centralByMac (hkeys : ∀ n ∈ central, n.macAddress.toLower ≠ "")
    (hnodup : (central.map (fun n => n.macAddress.toLower)).Nodup) (mac : String) :
    (centralByMac central).get mac = central.find? (fun n => n.macAddress.toLower = mac) := by
  show ((centralByMac central).rows.find? (fun p => p.1 = mac)).map Prod.snd = _
  rw [centralByMac_rows hkeys hnodup, List.find?_map, Option.map_map]
  exact Option.map_id'

/-- One node is compared as the two sides are, where its address is in lower case. -/
theorem compareNode_difference (now : Nat) {c : CachedNode}
    (hc : c.macAddress.toLower = c.macAddress) (central : Option CentralNode) :
    (compareNode now c central).map Finding.difference = compareSides c central := by
  cases central with
  | none =>
      show some (⟨_, c.macAddress.toLower, _, _⟩ : Difference) = _
      rw [hc]
      rfl
  | some n =>
      unfold compareNode compareSides
      dsimp only
      split
      next =>
        show some (⟨_, c.macAddress.toLower, _, _⟩ : Difference) = _
        rw [hc]
        rfl
      next => rfl

/-- **A PASS REPORTS THE DIFFERENCES UNDER ITS OWN KEYS**, where both sides hold addresses in
lower case. -/
theorem findings_eq_differences (now : Nat)
    (hcached : ∀ c ∈ cache.rows, c.macAddress.toLower = c.macAddress)
    (hlower : ∀ n ∈ central, n.macAddress.toLower = n.macAddress)
    (hkeys : ∀ n ∈ central, n.macAddress ≠ "")
    (hnodup : (central.map CentralNode.macAddress).Nodup) :
    (findings now central cache).map Finding.difference
      = differences sameKey central cache.rows := by
  have hmap : central.map (fun n => n.macAddress.toLower) = central.map CentralNode.macAddress :=
    List.map_congr_left hlower
  have hkeys' : ∀ n ∈ central, n.macAddress.toLower ≠ "" := by
    intro n hn
    rw [hlower n hn]
    exact hkeys n hn
  have hcachedNodup : (cache.rows.map (fun c => c.macAddress.toLower)).Nodup := by
    rw [List.map_congr_left hcached]
    exact cache.nodup
  obtain ⟨hfound, hleft⟩ := checkCached_spec now (centralByMac central) hcachedNodup
  unfold findings getAllNodes differences
  dsimp only
  rw [hfound, hleft, List.map_append, centralByMac_rows hkeys' (hmap ▸ hnodup)]
  congr 1
  · rw [List.map_filterMap]
    refine List.filterMap_congr (fun c hc => ?_)
    have hfind : (centralByMac central).get c.macAddress.toLower = central.find? (sameKey c) := by
      rw [get_centralByMac hkeys' (hmap ▸ hnodup)]
      refine List.find?_congr (fun n _ => ?_)
      exact decide_eq_decide.mpr eq_comm
    rw [hfind]
    exact compareNode_difference now (hcached c hc) _
  · -- what the loop leaves in the table is missing in the cache
    rw [List.filter_map, List.map_map, List.map_map]
    refine (List.map_congr_left (fun n hn => ?_)).trans (congrArg _ rfl)
    show (⟨_, n.macAddress.toLower, _, _⟩ : Difference) = _
    rw [hlower n (List.mem_filter.mp hn).1]
    rfl

end

/-! ## §4. The addresses of central. -/

/-- What central stores as an address: a normalized one, or the placeholder of a Pi that was
registered without one. -/
inductive StoredMac : String → Prop
  | mac (text : String) : macPatternMatches text = true → StoredMac (normalizeMac text)
  | placeholder (serial : List Char) : Tftp.serialPattern serial = true →
      StoredMac (String.ofList ('p' :: 'i' :: '-' :: serial))

/-- The address begins with `pi-`. -/
def isPlaceholder (mac : String) : Bool :=
  ['p', 'i', '-'].isPrefixOf mac.toList

theorem toLower_of_range {c : Char} (h : ¬ (65 ≤ c.toNat ∧ c.toNat ≤ 90)) : c.toLower = c := by
  apply Char.toNat_inj.mp
  rw [toNat_toLower, if_neg h]

theorem toNat_isHex {c : Char} (h : Tftp.isHex c = true) :
    (48 ≤ c.toNat ∧ c.toNat ≤ 57) ∨ (97 ≤ c.toNat ∧ c.toNat ≤ 102) := by
  unfold Tftp.isHex at h
  simp only [Bool.or_eq_true, Bool.and_eq_true, decide_eq_true_eq] at h
  rcases h with ⟨hlow, hhigh⟩ | ⟨hlow, hhigh⟩
  · exact .inl ⟨UInt32.le_iff_toNat_le.mp hlow, UInt32.le_iff_toNat_le.mp hhigh⟩
  · exact .inr ⟨UInt32.le_iff_toNat_le.mp hlow, UInt32.le_iff_toNat_le.mp hhigh⟩

/-- A serial number is in lower case. -/
theorem toLower_serial {serial : List Char} (h : Tftp.serialPattern serial = true) :
    ∀ c ∈ serial, c.toLower = c := by
  have hhex : ∀ c, Tftp.isHex c = true → c.toLower = c := by
    intro c hc
    have hrange := toNat_isHex hc
    exact toLower_of_range (by omega)
  obtain ⟨t, ht, hserial⟩ := endsLine_iff.mp h
  rw [Bool.and_eq_true, List.all_eq_true] at ht
  intro c hc
  rcases hserial with rfl | rfl
  · exact hhex c (ht.2 c hc)
  · rcases List.mem_append.mp hc with hc | hc
    · exact hhex c (ht.2 c hc)
    · obtain rfl := List.mem_singleton.mp hc
      decide

theorem map_eq_self_iff {α : Type*} {f : α → α} {l : List α} :
    l.map f = l ↔ ∀ a ∈ l, f a = a := by
  rw [← List.map_inj_left (g := fun a => a), List.map_id']

theorem toList_normalizeMac (mac : String) :
    (normalizeMac mac).toList
      = mac.toList.map (fun c => if c = '-' then ':' else c.toLower) := by
  unfold normalizeMac
  exact String.toList_map

theorem toList_toLower (mac : String) : mac.toLower.toList = mac.toList.map Char.toLower :=
  String.toList_map

/-- A normalized address is in lower case. -/
theorem toLower_of_normalized {mac : String} (h : normalizeMac mac = mac) : mac.toLower = mac := by
  rw [← String.toList_inj, toList_normalizeMac] at h
  rw [← String.toList_inj, toList_toLower]
  have hsame : ∀ c ∈ mac.toList, (if c = '-' then ':' else c.toLower) = c :=
    map_eq_self_iff.mp h
  refine map_eq_self_iff.mpr (fun c hc => ?_)
  have hchar := hsame c hc
  split at hchar
  next hdash =>
    rw [hdash] at hchar
    exact absurd hchar (by decide)
  next => exact hchar

theorem matchMacGroups_head {k : Nat} {a : Char} {rest : List Char}
    (h : matchMacGroups (k + 1) (a :: rest) = true) : Lifecycle.isHex a = true := by
  cases rest with
  | nil => cases h
  | cons b rest =>
      cases rest with
      | nil => cases h
      | cons separator rest =>
          unfold matchMacGroups at h
          simp only [Bool.and_eq_true] at h
          exact h.1.1.1

/-- A digit of either case, in lower case, is not the letter `p`. -/
theorem toLower_isHex {c : Char} (h : Lifecycle.isHex c = true) : c.toLower ≠ 'p' := by
  unfold Lifecycle.isHex Char.isDigit at h
  simp only [Bool.or_eq_true, Bool.and_eq_true, decide_eq_true_eq, ge_iff_le] at h
  have hrange : c.toNat ≤ 70 ∨ (97 ≤ c.toNat ∧ c.toNat ≤ 102) := by
    rcases h with (⟨-, hhigh⟩ | ⟨hlow, hhigh⟩) | ⟨-, hhigh⟩
    · exact .inl ((UInt32.le_iff_toNat_le.mp hhigh).trans (by decide))
    · exact .inr ⟨UInt32.le_iff_toNat_le.mp hlow, UInt32.le_iff_toNat_le.mp hhigh⟩
    · exact .inl (UInt32.le_iff_toNat_le.mp hhigh)
  intro hp
  have hlower := toNat_toLower c
  rw [hp] at hlower
  change 112 = _ at hlower
  split at hlower <;> omega

/-- The first character of a normalized address is a digit or a letter up to `f`. -/
theorem normalizeMac_head {text : String} (h : macPatternMatches text = true) :
    ∃ c rest, (normalizeMac text).toList = c :: rest ∧ c ≠ 'p' := by
  rw [toList_normalizeMac]
  unfold macPatternMatches at h
  cases htext : text.toList with
  | nil =>
      rw [htext] at h
      cases h
  | cons a rest =>
      refine ⟨_, _, List.map_cons, ?_⟩
      rw [htext] at h
      split
      next => decide
      next => exact toLower_isHex (matchMacGroups_head h)

theorem StoredMac.toLower {mac : String} (h : StoredMac mac) : mac.toLower = mac := by
  cases h with
  | mac text htext => exact toLower_of_normalized (normalizeMac_normalizeMac text)
  | placeholder serial hserial =>
      rw [← String.toList_inj, toList_toLower, String.toList_ofList]
      refine map_eq_self_iff.mpr (fun c hc => ?_)
      simp only [List.mem_cons] at hc
      rcases hc with rfl | rfl | rfl | hc
      · decide
      · decide
      · decide
      · exact toLower_serial hserial c hc

theorem StoredMac.ne_empty {mac : String} (h : StoredMac mac) : mac ≠ "" := by
  intro hempty
  cases h with
  | mac text htext =>
      obtain ⟨c, rest, hhead, -⟩ := normalizeMac_head htext
      rw [hempty] at hhead
      cases hhead
  | placeholder serial hserial =>
      rw [← String.toList_inj, String.toList_ofList] at hempty
      cases hempty

/-- An address that is no placeholder is normalized. -/
theorem StoredMac.normalizeMac_eq {mac : String} (h : StoredMac mac)
    (hno : isPlaceholder mac = false) : normalizeMac mac = mac := by
  cases h with
  | mac text htext => exact normalizeMac_normalizeMac text
  | placeholder serial hserial =>
      unfold isPlaceholder at hno
      rw [String.toList_ofList] at hno
      cases hno

theorem not_isPlaceholder {text : String} (h : macPatternMatches text = true) :
    isPlaceholder (normalizeMac text) = false := by
  obtain ⟨c, rest, hhead, hc⟩ := normalizeMac_head h
  unfold isPlaceholder
  rw [hhead, List.isPrefixOf_cons_cons, Bool.and_eq_false_iff]
  exact .inl (beq_false_of_ne (Ne.symm hc))

/-- What the cache makes of a placeholder, central does not store. -/
theorem StoredMac.normalizeMac_ne {mac mac' : String} (h : StoredMac mac)
    (hyes : isPlaceholder mac = true) (h' : StoredMac mac') : normalizeMac mac ≠ mac' := by
  intro heq
  cases h with
  | mac text htext =>
      rw [not_isPlaceholder htext] at hyes
      cases hyes
  | placeholder serial hserial =>
      -- it begins with `pi:`
      rw [← String.toList_inj, toList_normalizeMac, String.toList_ofList, List.map_cons,
        List.map_cons, List.map_cons] at heq
      cases h' with
      | mac text htext =>
          obtain ⟨c, rest, hhead, hc⟩ := normalizeMac_head htext
          rw [hhead] at heq
          injection heq with heq
          exact hc heq.symm
      | placeholder serial' hserial' =>
          rw [String.toList_ofList] at heq
          injection heq with _ heq
          injection heq with _ heq
          injection heq with heq
          exact absurd heq (by decide)

/-! ## §5. When a pass is exact. -/

/-- **THE CONFLICTS ARE THE DIFFERENCES**, each of them once and nothing else. -/
def ConflictsExact (now : Nat) (uuid : Nat → String) (store : ConflictStore)
    (central : List CentralNode) (cache : StateCache) : Prop :=
  ((checkConflicts now uuid store central cache).1.map
      (fun conflict => conflict.toFinding.difference)).Perm
    (differences sameNode central cache.rows)

theorem checkConflicts_findings (now : Nat) (uuid : Nat → String) (store : ConflictStore)
    (central : List CentralNode) (cache : StateCache) :
    (checkConflicts now uuid store central cache).1.map Conflict.toFinding
      = findings now central cache := by
  refine List.ext_getElem (by simp [checkConflicts]) (fun k _ _ => ?_)
  simp [checkConflicts]

theorem mem_differences {same : CachedNode → CentralNode → Bool} {central : List CentralNode}
    {cached : List CachedNode} {mac state : String} :
    (⟨.missingCentral, mac, state, "missing"⟩ : Difference) ∈ differences same central cached
      ↔ ∃ c ∈ cached, c.macAddress = mac ∧ c.state = state
          ∧ ∀ n ∈ central, same c n = false := by
  unfold differences
  rw [List.mem_append, List.mem_filterMap, List.mem_map]
  constructor
  · rintro (⟨c, hc, hcompare⟩ | ⟨n, -, heq⟩)
    · refine ⟨c, hc, ?_⟩
      cases hfind : central.find? (same c) with
      | none =>
          rw [hfind] at hcompare
          obtain ⟨-, hmac, hstate, -⟩ := Difference.mk.inj (Option.some.inj hcompare)
          refine ⟨hmac, hstate, fun n hn => ?_⟩
          exact Bool.eq_false_of_not_eq_true (List.find?_eq_none.mp hfind n hn)
      | some n =>
          rw [hfind] at hcompare
          unfold compareSides at hcompare
          dsimp only at hcompare
          split at hcompare
          next => cases hcompare
          next => cases hcompare
    · cases heq
  · rintro ⟨c, hc, rfl, rfl, hnone⟩
    refine .inl ⟨c, hc, ?_⟩
    rw [List.find?_eq_none.mpr (fun n hn => by rw [hnone n hn]; exact Bool.false_ne_true)]
    rfl

/-- A normalized address and one that central stores are matched in lower case exactly if they
are the same node, where the node of central is no placeholder that is cached. -/
theorem sameKey_eq_sameNode {c : CachedNode} {n : CentralNode}
    (hc : normalizeMac c.macAddress = c.macAddress) (hn : StoredMac n.macAddress)
    (hfree : isPlaceholder n.macAddress = true → c.macAddress ≠ normalizeMac n.macAddress) :
    sameKey c n = sameNode c n := by
  unfold sameKey sameNode
  rw [toLower_of_normalized hc, hn.toLower]
  cases hplace : isPlaceholder n.macAddress with
  | false => rw [hn.normalizeMac_eq hplace]
  | true =>
      rw [decide_eq_false (hfree hplace), decide_eq_false_iff_not]
      -- a placeholder has a dash, the cache holds none
      intro heq
      rw [heq] at hc
      exact hn.normalizeMac_ne hplace hn hc

/-- A cached node of a placeholder is matched with no node of central. -/
theorem sameKey_placeholder {c : CachedNode} {n n' : CentralNode} (hn : StoredMac n.macAddress)
    (hplace : isPlaceholder n.macAddress = true) (hn' : StoredMac n'.macAddress)
    (hc : c.macAddress = normalizeMac n.macAddress) : sameKey c n' = false := by
  refine decide_eq_false (fun heq => ?_)
  have hlower : c.macAddress.toLower = c.macAddress :=
    toLower_of_normalized (by rw [hc, normalizeMac_normalizeMac])
  rw [hlower, hn'.toLower, hc] at heq
  exact hn.normalizeMac_ne hplace hn' heq

section
variable {central : List CentralNode} {defaultTtl : Int} {calls : List StateCall}

end

/-- A Pi that was registered without an address. -/
def piWithoutMac : CentralNode := ⟨"n1", "pi-0123abcd", "active", none⟩

/-- What the agent makes of it. -/
def piCached : StateCache :=
  (run (CacheLog.exec 300) .init [.setNode (.fields (some (.str piWithoutMac.macAddress))
    { nodeId := some (.str "n1"), state := some (.str "active") } none none) 0]).cache.nodes

end PureBoot.Agent
