/-
  PureBoot.Agent.StateCache — the node state cache AS A MAP from MAC addresses to nodes.

  Embeds both forms of `set_node`, `get_node`, `invalidate`, `clear` and `get_all_nodes` of
  `agent/cache/state_cache.py`.  `raw_data` is JSON, so it is read as it was written.  A
  `CachedNode` may carry an expiry without a time zone, which `get_node` cannot compare.

  A run is watched together with its calls, and what the cache should answer is read off
  these calls alone (`lastSet`).  Every reader normalizes the address it is given.  Of the
  writers, `set_node` with a `CachedNode` does not.

  Main results:
    * `StateCall.perform_setNode` — both forms of `set_node` store the node they return;
    * `CacheLog.Ok.exec` — what a call with a normalized address preserves;
    * `isNodeMap_always_iff` — the cache is a map in every state of a run exactly if each
      `CachedNode` that is stored has a normalized address, and an expiry with a time zone.
-/
import PureBoot.Agent.Proxy
import PureBoot.Lib.Run

namespace PureBoot.Agent

open PureBoot.Lib PureBoot.Web PureBoot.Lifecycle

/-! ## §1. The operations. -/

/-- A row of the table.  `CachedNode` has no validator for its times, so that a caller may give
one whose expiry has no time zone. -/
structure StoredNode where
  node : CachedNode
  /-- `expires_at` has a time zone. -/
  zoned : Bool

def StoredNode.macAddress (row : StoredNode) : String := row.node.macAddress

/-- The `nodes` table. -/
abbrev NodeStateCache : Type := Table StoredNode.macAddress

/-- `get_all_nodes`. -/
def getAllNodes (cache : StateCache) : List CachedNode := cache.rows

namespace NodeStateCache

/-- The nodes in the table. -/
def nodes (cache : NodeStateCache) : StateCache where
  rows := cache.rows.map StoredNode.node
  nodup := by
    rw [List.map_map]
    exact cache.nodup

/-- `get_node`, which also returns expired entries; but first it asks whether they have expired. -/
def getNode (cache : NodeStateCache) (mac : String) : Except Raised (Option StoredNode) :=
  match cache.get? (normalizeMac mac) with
  | none => .ok none
  | some row => if row.zoned then .ok (some row) else .error .typeError

/-- `invalidate`. -/
def invalidate (cache : NodeStateCache) (mac : String) : Bool × NodeStateCache :=
  let mac := normalizeMac mac
  (cache.rows.any (fun row => row.macAddress = mac),
    cache.delete (fun row => row.macAddress = mac))

/-- `clear`. -/
def clear (cache : NodeStateCache) : Nat × NodeStateCache :=
  (cache.rows.length, cache.delete (fun _ => true))

end NodeStateCache

/-- The arguments of `set_node`: a `CachedNode`, or single fields. -/
inductive SetNode where
  | node (node : CachedNode) (zoned : Bool)
  | fields (macAddress : Option Json) (fields : NodeFields) (rawData : Option Dict)
      (ttl : Option Int)

/-- The node that a `set_node` stores; with the default TTL of the cache. -/
def SetNode.made (defaultTtl : Int) (now : Nat) : SetNode → Except Raised StoredNode
  -- as it stands, under the address it carries
  | node n zoned => .ok ⟨n, zoned⟩
  -- `datetime.now(timezone.utc) + timedelta(seconds=ttl_secs)`
  | fields macAddress f rawData ttl =>
      (nodeOfFields (ttl.getD defaultTtl) now macAddress f (rawData.getD [])).map
        (fun n => ⟨n, true⟩)

/-- `set_node`. -/
def SetNode.perform (defaultTtl : Int) (now : Nat) (cache : NodeStateCache) (args : SetNode) :
    Except Raised (StoredNode × NodeStateCache) := do
  let row ← args.made defaultTtl now
  return (row, cache.upsert row)

/-! ## §2. Runs, and what the cache should answer. -/

inductive StateCall where
  | setNode (args : SetNode) (now : Nat)
  | invalidate (mac : String)
  | clear

/-- The cache after a call; a `set_node` that raises stores nothing. -/
def StateCall.perform (defaultTtl : Int) (cache : NodeStateCache) : StateCall → NodeStateCache
  | setNode args now => commitOrRollback cache (args.perform defaultTtl now cache)
  | invalidate mac => (cache.invalidate mac).2
  | clear => cache.clear.2

/-- Two spellings of one MAC address. -/
def SameMac (mac mac' : String) : Prop := normalizeMac mac = normalizeMac mac'

instance (mac mac' : String) : Decidable (SameMac mac mac') :=
  inferInstanceAs (Decidable (normalizeMac mac = normalizeMac mac'))

/-- The last `set_node` for the address that no `invalidate` of it and no `clear` followed.
The latest call comes first. -/
def lastSet (defaultTtl : Int) (mac : String) : List StateCall → Option StoredNode
  | [] => none
  | .setNode args now :: calls =>
      match args.made defaultTtl now with
      | .ok row => if SameMac mac row.macAddress then some row else lastSet defaultTtl mac calls
      | .error _ => lastSet defaultTtl mac calls
  | .invalidate mac' :: calls => if SameMac mac mac' then none else lastSet defaultTtl mac calls
  | .clear :: _ => none

/-- The cache, and the calls so far. -/
structure CacheLog where
  cache : NodeStateCache
  calls : List StateCall

/-- A new database. -/
def CacheLog.init : CacheLog := ⟨.empty, []⟩

def CacheLog.exec (defaultTtl : Int) (x : CacheLog) (call : StateCall) : CacheLog where
  cache := call.perform defaultTtl x.cache
  calls := call :: x.calls

/-- **THE CACHE IS A MAP**: every spelling of an address finds what was last stored for it,
and no address is listed twice. -/
structure IsNodeMap (defaultTtl : Int) (x : CacheLog) : Prop where
  reads : ∀ mac, x.cache.getNode mac = .ok (lastSet defaultTtl mac x.calls)
  distinct : (getAllNodes x.cache.nodes).Pairwise (fun a b => ¬ SameMac a.macAddress b.macAddress)

/-- A `CachedNode` that is stored has a normalized address. -/
def StateCall.normalized : StateCall → Bool
  | setNode (.node n _) _ => normalizeMac n.macAddress = n.macAddress
  | _ => true

/-- A `CachedNode` that is stored has an expiry with a time zone. -/
def StateCall.zoned : StateCall → Bool
  | setNode (.node _ zoned) _ => zoned
  | _ => true

/-! ## §3. What `set_node` stores. -/

theorem toNat_toLower (c : Char) :
    c.toLower.toNat = if 65 ≤ c.toNat ∧ c.toNat ≤ 90 then c.toNat + 32 else c.toNat := by
  unfold Char.toLower
  split
  next h =>
    have hlow : 65 ≤ c.toNat := UInt32.le_iff_toNat_le.mp h.1
    have hhigh : c.toNat ≤ 90 := UInt32.le_iff_toNat_le.mp h.2
    rw [if_pos ⟨hlow, hhigh⟩]
    show (c.toNat + 32) % 2 ^ 32 = _
    omega
  next h =>
    rw [if_neg]
    rintro ⟨hlow, hhigh⟩
    exact h ⟨UInt32.le_iff_toNat_le.mpr hlow, UInt32.le_iff_toNat_le.mpr hhigh⟩

/-- A normalized address is left as it is. -/
theorem normalizeMac_normalizeMac (mac : String) :
    normalizeMac (normalizeMac mac) = normalizeMac mac := by
  have hchar : ∀ c : Char, c ≠ '-' → c.toLower ≠ '-' ∧ c.toLower.toLower = c.toLower := by
    intro c hc
    have hnat : c.toNat ≠ 45 := fun h => hc (Char.toNat_inj.mp h)
    constructor
    · intro h
      have hlower := toNat_toLower c
      rw [h] at hlower
      change 45 = _ at hlower
      split at hlower <;> omega
    · apply Char.toNat_inj.mp
      rw [toNat_toLower c.toLower, toNat_toLower c]
      split_ifs <;> omega
  unfold normalizeMac
  rw [String.map_map]
  congr 1
  funext c
  rw [Function.comp_apply]
  by_cases hc : c = '-'
  · rw [if_pos hc]
    decide
  · rw [if_neg hc, if_neg (hchar c hc).1, (hchar c hc).2]

theorem cachedNode_macAddress {ttl : Int} {now : Nat} {mac : String} {state : Json}
    {f : NodeFields} {rawData : Dict} {node : CachedNode}
    (h : cachedNode ttl now mac state f rawData = .ok node) :
    node.macAddress = normalizeMac mac := by
  unfold cachedNode at h
  obtain ⟨_, -, h⟩ := bind_eq_ok.mp h
  obtain ⟨_, -, h⟩ := bind_eq_ok.mp h
  obtain ⟨_, -, h⟩ := bind_eq_ok.mp h
  obtain ⟨_, -, h⟩ := bind_eq_ok.mp h
  obtain ⟨_, -, h⟩ := bind_eq_ok.mp h
  obtain ⟨_, -, h⟩ := bind_eq_ok.mp h
  obtain ⟨_, -, h⟩ := bind_eq_ok.mp h
  exact congrArg CachedNode.macAddress (Except.ok.inj h).symm

/-- What `set_node` does to the cache. -/
theorem StateCall.perform_setNode (defaultTtl : Int) (cache : NodeStateCache) (args : SetNode)
    (now : Nat) :
    (StateCall.setNode args now).perform defaultTtl cache
      = match args.made defaultTtl now with
        | .ok row => cache.upsert row
        | .error _ => cache := by
  show commitOrRollback cache (args.perform defaultTtl now cache) = _
  unfold SetNode.perform
  cases args.made defaultTtl now with
  | ok row => rfl
  | error e => rfl

/-- What is made of single fields has a normalized address, and an expiry with a time zone. -/
theorem SetNode.made_fields {defaultTtl : Int} {now : Nat} {macAddress : Option Json}
    {f : NodeFields} {rawData : Option Dict} {ttl : Option Int} {row : StoredNode}
    (h : (SetNode.fields macAddress f rawData ttl).made defaultTtl now = .ok row) :
    normalizeMac row.macAddress = row.macAddress ∧ row.zoned = true := by
  unfold SetNode.made at h
  obtain ⟨n, hnode, rfl⟩ := map_eq_ok h
  refine ⟨?_, rfl⟩
  show normalizeMac n.macAddress = n.macAddress
  unfold nodeOfFields at hnode
  split at hnode
  next => cases hnode
  next => cases hnode
  next => cases hnode
  next => cases hnode
  next => rw [cachedNode_macAddress hnode, normalizeMac_normalizeMac]
  next => cases hnode

theorem SetNode.made_normalized {defaultTtl : Int} {now : Nat} {args : SetNode}
    {row : StoredNode} (hcall : (StateCall.setNode args now).normalized = true)
    (h : args.made defaultTtl now = .ok row) : normalizeMac row.macAddress = row.macAddress := by
  cases args with
  | node n zoned =>
      obtain rfl : (⟨n, zoned⟩ : StoredNode) = row := Except.ok.inj h
      exact of_decide_eq_true hcall
  | fields macAddress f rawData ttl => exact (SetNode.made_fields h).1

theorem SetNode.made_zoned {defaultTtl : Int} {now : Nat} {args : SetNode}
    {row : StoredNode} (hcall : (StateCall.setNode args now).zoned = true)
    (h : args.made defaultTtl now = .ok row) : row.zoned = true := by
  cases args with
  | node n zoned =>
      obtain rfl : (⟨n, zoned⟩ : StoredNode) = row := Except.ok.inj h
      exact hcall
  | fields macAddress f rawData ttl => exact (SetNode.made_fields h).2

/-! ## §4. The cache is a map. -/

/-- What is true of the cache along a run with normalized addresses. -/
structure CacheLog.Ok (defaultTtl : Int) (x : CacheLog) : Prop where
  normal : ∀ row ∈ x.cache.rows, normalizeMac row.macAddress = row.macAddress
  finds : ∀ mac, x.cache.get? (normalizeMac mac) = lastSet defaultTtl mac x.calls

/-- Every expiry has a time zone. -/
def CacheLog.Zoned (x : CacheLog) : Prop := ∀ row ∈ x.cache.rows, row.zoned = true

theorem CacheLog.ok_init (defaultTtl : Int) : (CacheLog.init).Ok defaultTtl where
  normal := by
    intro row hrow
    cases hrow
  finds := fun _ => rfl

theorem CacheLog.zoned_init : (CacheLog.init).Zoned := by
  intro row hrow
  cases hrow

/-- With time zones, what is found is returned. -/
theorem CacheLog.Zoned.getNode_eq {x : CacheLog} (h : x.Zoned) (mac : String) :
    x.cache.getNode mac = .ok (x.cache.get? (normalizeMac mac)) := by
  unfold NodeStateCache.getNode
  cases hget : x.cache.get? (normalizeMac mac) with
  | none => rfl
  | some row =>
      dsimp only
      rw [if_pos (h row (Table.get?_eq_some_iff.mp hget).1)]

/-- Normalized addresses that are one address are the same text. -/
theorem CacheLog.Ok.isNodeMap {defaultTtl : Int} {x : CacheLog} (h : x.Ok defaultTtl)
    (hzoned : x.Zoned) : IsNodeMap defaultTtl x where
  reads := fun mac => by rw [hzoned.getNode_eq, h.finds]
  distinct := by
    have hkeys : x.cache.rows.Pairwise (fun a b => a.macAddress ≠ b.macAddress) :=
      List.pairwise_map.mp x.cache.nodup
    refine List.pairwise_map.mpr (hkeys.imp_of_mem ?_)
    intro a b ha hb hne hsame
    unfold SameMac at hsame
    exact hne ((h.normal a ha).symm.trans (hsame.trans (h.normal b hb)))

theorem lastSet_setNode (defaultTtl : Int) (mac : String) (args : SetNode) (now : Nat)
    (calls : List StateCall) :
    lastSet defaultTtl mac (.setNode args now :: calls)
      = match args.made defaultTtl now with
        | .ok row => if SameMac mac row.macAddress then some row else lastSet defaultTtl mac calls
        | .error _ => lastSet defaultTtl mac calls := rfl

/-- A node with a normalized address is found under every spelling of it. -/
theorem CacheLog.Ok.store {defaultTtl : Int} {x x' : CacheLog} {row : StoredNode}
    (h : x.Ok defaultTtl) (hrow : normalizeMac row.macAddress = row.macAddress)
    (hcache : x'.cache = x.cache.upsert row)
    (hlast : ∀ mac, lastSet defaultTtl mac x'.calls
      = if SameMac mac row.macAddress then some row else lastSet defaultTtl mac x.calls) :
    x'.Ok defaultTtl where
  normal := by
    intro row' hmem
    rw [hcache] at hmem
    rcases Table.mem_upsert.mp hmem with rfl | ⟨hmem, -⟩
    · exact hrow
    · exact h.normal row' hmem
  finds := by
    intro mac
    have hsame : SameMac mac row.macAddress ↔ normalizeMac mac = row.macAddress := by
      unfold SameMac
      rw [hrow]
    rw [hlast mac, ← h.finds mac, hcache, Table.get?_upsert, if_congr hsame rfl rfl]

/-- **A CALL WITH A NORMALIZED ADDRESS** keeps what is found right. -/
theorem CacheLog.Ok.exec {defaultTtl : Int} {x : CacheLog} {call : StateCall}
    (h : x.Ok defaultTtl) (hcall : call.normalized = true) :
    (x.exec defaultTtl call).Ok defaultTtl := by
  cases call with
  | setNode args now =>
      have hcache := StateCall.perform_setNode defaultTtl x.cache args now
      have hlast := fun mac => lastSet_setNode defaultTtl mac args now x.calls
      cases hmade : args.made defaultTtl now with
      | error e =>
          simp only [hmade] at hcache hlast
          have hsame : (x.exec defaultTtl (.setNode args now)).cache = x.cache := hcache
          constructor
          · rw [hsame]
            exact h.normal
          · intro mac
            rw [hsame, h.finds mac]
            exact (hlast mac).symm
      | ok row =>
          rw [hmade] at hcache
          simp only [hmade] at hlast
          exact h.store (SetNode.made_normalized hcall hmade) hcache hlast
  | invalidate mac' =>
      constructor
      · intro row hmem
        exact h.normal row (Table.mem_delete.mp hmem).1
      · intro mac
        show (x.cache.delete (fun row => row.macAddress = normalizeMac mac')).get?
          (normalizeMac mac) = if SameMac mac mac' then none else lastSet defaultTtl mac x.calls
        rw [Table.get?_delete, ← h.finds mac]
        rfl
  | clear =>
      constructor
      · intro row hmem
        exact h.normal row (Table.mem_delete.mp hmem).1
      · intro mac
        show (x.cache.delete (fun _ => true)).get? (normalizeMac mac) = none
        rw [Option.eq_none_iff_forall_ne_some]
        intro row hrow
        exact absurd (Table.mem_delete.mp (Table.get?_eq_some_iff.mp hrow).1).2 (by decide)

/-- A call with a time zone stores one. -/
theorem CacheLog.Zoned.exec {defaultTtl : Int} {x : CacheLog} {call : StateCall} (h : x.Zoned)
    (hcall : call.zoned = true) : (x.exec defaultTtl call).Zoned := by
  intro row hmem
  cases call with
  | setNode args now =>
      have hcache := StateCall.perform_setNode defaultTtl x.cache args now
      change row ∈ ((StateCall.setNode args now).perform defaultTtl x.cache).rows at hmem
      rw [hcache] at hmem
      split at hmem
      next new hmade =>
        rcases Table.mem_upsert.mp hmem with rfl | ⟨hmem, -⟩
        · exact SetNode.made_zoned hcall hmade
        · exact h row hmem
      next => exact h row hmem
  | invalidate mac => exact h row (Table.mem_delete.mp hmem).1
  | clear => exact h row (Table.mem_delete.mp hmem).1

/-- A `CachedNode` with another spelling is stored where no reader looks for it, and one without
a time zone cannot be read. -/
theorem not_isNodeMap_of_node {defaultTtl : Int} {x : CacheLog} {call : StateCall}
    (hcall : ¬ (call.normalized && call.zoned) = true) :
    ¬ IsNodeMap defaultTtl (x.exec defaultTtl call) := by
  intro hmap
  cases call with
  | invalidate mac => exact hcall rfl
  | clear => exact hcall rfl
  | setNode args now =>
      cases args with
      | fields macAddress f rawData ttl => exact hcall rfl
      | node n zoned =>
          have hread : NodeStateCache.getNode (x.cache.upsert ⟨n, zoned⟩) n.macAddress
              = .ok (some ⟨n, zoned⟩) :=
            (hmap.reads n.macAddress).trans (congrArg Except.ok (if_pos rfl))
          unfold NodeStateCache.getNode at hread
          split at hread
          next => cases hread
          next row hget =>
            split at hread
            next hzoned =>
              obtain rfl : row = ⟨n, zoned⟩ := Option.some.inj (Except.ok.inj hread)
              have hkey : n.macAddress = normalizeMac n.macAddress :=
                (Table.get?_eq_some_iff.mp hget).2
              exact hcall (Bool.and_eq_true_iff.mpr ⟨decide_eq_true hkey.symm, hzoned⟩)
            next => cases hread

/-- **THE NODE STATE CACHE IS A MAP** in every state of a run exactly if each `CachedNode`
that is stored has a normalized address, and an expiry with a time zone. -/
theorem isNodeMap_always_iff (defaultTtl : Int) (calls : List StateCall) :
    Always (CacheLog.exec defaultTtl) (IsNodeMap defaultTtl) .init calls
      ↔ ∀ call ∈ calls, (call.normalized && call.zoned) = true := by
  let inv : CacheLog → Prop := fun x => x.Ok defaultTtl ∧ x.Zoned
  have hstep : ∀ x call, inv x → (call.normalized && call.zoned) = true →
      inv (x.exec defaultTtl call) := by
    intro x call h hcall
    obtain ⟨hnormal, hzoned⟩ := Bool.and_eq_true_iff.mp hcall
    exact ⟨h.1.exec hnormal, h.2.exec hzoned⟩
  have hinit : inv .init := ⟨CacheLog.ok_init defaultTtl, CacheLog.zoned_init⟩
  have hiff : Always (CacheLog.exec defaultTtl) (IsNodeMap defaultTtl) .init calls
      ↔ Along (CacheLog.exec defaultTtl) (fun _ call => (call.normalized && call.zoned) = true)
          .init calls :=
    always_iff_along (L := fun _ => True) (fun x call _ => hstep x call)
      (fun _ h => h.1.isNodeMap h.2) (fun _ _ _ _ hcall => not_isNodeMap_of_node hcall)
      (fun _ _ => trivial) hinit
  exact hiff.trans along_label_iff

/-- One address in two spellings, as single fields and as a `CachedNode`. -/
def twoSpellings : List StateCall :=
  [.setNode (.fields (some (.str "AA-BB-CC-DD-EE-FF")) { state := some (.str "discovered") }
      none none) 0,
    .setNode (.node { macAddress := "AA-BB-CC-DD-EE-FF", state := "active", cachedAt := 1
                      expiresAt := 301 } true) 1]

/-- The `CachedNode` is not found, and its address is listed twice. -/
theorem twoSpellings_not_map :
    ((run (CacheLog.exec 300) .init twoSpellings).cache.getNode "AA-BB-CC-DD-EE-FF").map
        (Option.map (fun row => row.node.state)) = .ok (some "discovered")
      ∧ (getAllNodes (run (CacheLog.exec 300) .init twoSpellings).cache.nodes).map
          (fun node => normalizeMac node.macAddress)
        = ["aa:bb:cc:dd:ee:ff", "aa:bb:cc:dd:ee:ff"]
      ∧ ¬ IsNodeMap 300 (run (CacheLog.exec 300) .init twoSpellings) := by
  refine ⟨by decide +kernel, by decide +kernel, fun hmap => ?_⟩
  have hreads := congrArg (Except.map (Option.map (fun row => row.node.state)))
    (hmap.reads "AA-BB-CC-DD-EE-FF")
  revert hreads
  decide +kernel

end PureBoot.Agent
