/-
  PureBoot.Approvals.RuleSelection — the RULE that an operation falls under.

  Embeds `find_matching_rule` and `_operation_matches` of `services/approvals.py`.  The
  query orders the active rules by their priority alone, and the first one that matches is
  taken: of the matching rules of the highest priority, the database chooses.

  Main results:
    * `operationMatches_iff` — what the patterns match;
    * `findMatchingRule_eq_find?` — the loop takes the first rule that applies;
    * `exists_found_iff` — which rules can be returned;
    * `ruleSelection_iff` — the tables where the scopes decide.
-/
import PureBoot.Approvals.Service
import PureBoot.Lib.Ranked

namespace PureBoot.Approvals

open PureBoot.Lib

/-! ## §1. Rows. -/

/-- `db/models.py: ApprovalRule`, as it is stored. -/
structure RuleRow where
  rule : ApprovalRule
  /-- `operations_json` is JSON: the array `rule.operations`. -/
  isJson : Bool := true
  deriving DecidableEq, Repr

def RuleRow.id (r : RuleRow) : String := r.rule.id

/-- `json.loads(rule.operations_json)`; `none` is a `JSONDecodeError`. -/
def RuleRow.loads (r : RuleRow) : Option (List String) :=
  if r.isJson then some r.rule.operations else none

/-- `db/models.py: UserGroupMember`. -/
structure UserGroupMember where
  userId : String
  userGroupId : String
  deriving DecidableEq, Repr

/-- The tables that are read. -/
structure RuleDB where
  rules : Table RuleRow.id
  members : List UserGroupMember

/-! ## §2. `find_matching_rule`. -/

/-- `_operation_matches`. -/
def operationMatches (operationType : String) : List String → Bool
  | [] => false
  | pattern :: operations =>
      if pattern = "*" then true
      else if pattern = operationType then true
      else if ".*".toList <:+ pattern.toList
          ∧ pattern.toList.take (pattern.length - 2) ++ ['.'] <+: operationType.toList then true
      else operationMatches operationType operations

/-- The groups of the user. -/
def RuleDB.userGroupIds (db : RuleDB) (userId : String) : List String :=
  (db.members.filter (fun m => m.userId = userId)).map UserGroupMember.userGroupId

/-- The active rules, in an order that the query may give them in. -/
def RuleDB.Returned (db : RuleDB) (rows : List RuleRow) : Prop :=
  Ordered (fun r => r.rule.priority) rows (db.rules.rows.filter (fun r => r.rule.isActive))

section

variable (operationType : String) (userGroupIds : List String) (deviceGroupId : Option String)

/-- The loop of `find_matching_rule` over the rows of the query. -/
def findMatchingRule : List RuleRow → Option RuleRow
  | [] => none
  | rule :: rules =>
      match rule.loads with
      | none => findMatchingRule rules
      | some operations =>
          if operationMatches operationType operations then
            match rule.rule.scopeType with
            | .deviceGroup =>
                if truthy deviceGroupId ∧ rule.rule.scopeId = deviceGroupId then some rule
                else findMatchingRule rules
            | .userGroup =>
                if rule.rule.scopeId ∈ userGroupIds.map some then some rule
                else findMatchingRule rules
            | .global => some rule
          else findMatchingRule rules

/-! ## §3. The rules that apply. -/

/-- Exactly, by `*`, or by `prefix.*`. -/
def PatternMatches (operationType pattern : String) : Prop :=
  pattern = "*" ∨ pattern = operationType
  ∨ ∃ pre rest, pattern.toList = pre ++ ['.', '*'] ∧ operationType.toList = pre ++ '.' :: rest

/-- The scope of a rule has the device group, or one of the user's groups, or everything. -/
def ScopeMatches (rule : ApprovalRule) : Prop :=
  match rule.scopeType with
  | .deviceGroup => truthy deviceGroupId = true ∧ rule.scopeId = deviceGroupId
  | .userGroup => ∃ groupId ∈ userGroupIds, rule.scopeId = some groupId
  | .global => True

/-- The operation and the scope match. -/
def Applies (rule : RuleRow) : Prop :=
  (∃ operations, rule.loads = some operations
    ∧ ∃ pattern ∈ operations, PatternMatches operationType pattern)
  ∧ ScopeMatches userGroupIds deviceGroupId rule.rule

/-- The same, evaluated. -/
def scopeMatches (rule : ApprovalRule) : Bool :=
  match rule.scopeType with
  | .deviceGroup => truthy deviceGroupId ∧ rule.scopeId = deviceGroupId
  | .userGroup => rule.scopeId ∈ userGroupIds.map some
  | .global => true

def applies (rule : RuleRow) : Bool :=
  rule.loads.any (operationMatches operationType) && scopeMatches userGroupIds deviceGroupId rule.rule

end

variable {operationType : String} {userGroupIds : List String} {deviceGroupId : Option String}

/-- A pattern that ends in `.*`. -/
theorem prefix_pattern_iff {pattern : String} :
    (".*".toList <:+ pattern.toList
      ∧ pattern.toList.take (pattern.length - 2) ++ ['.'] <+: operationType.toList) ↔
    ∃ pre rest, pattern.toList = pre ++ ['.', '*'] ∧ operationType.toList = pre ++ '.' :: rest := by
  -- `pattern[:-2]` is what stands before the last two characters
  have htake : ∀ pre : List Char, pattern.toList = pre ++ ['.', '*'] →
      pattern.toList.take (pattern.length - 2) = pre := by
    intro pre hpre
    rw [← String.length_toList, hpre]
    simp
  constructor
  · rintro ⟨⟨pre, hpre⟩, rest, hrest⟩
    refine ⟨pre, rest, hpre.symm, ?_⟩
    rw [htake pre hpre.symm] at hrest
    rw [← hrest, List.append_assoc]
    rfl
  · rintro ⟨pre, rest, hpattern, hoperation⟩
    refine ⟨⟨pre, hpattern.symm⟩, rest, ?_⟩
    rw [htake pre hpattern, hoperation, List.append_assoc]
    rfl

/-- **WHAT THE PATTERNS MATCH.** -/
theorem operationMatches_iff {operations : List String} :
    operationMatches operationType operations = true ↔
      ∃ pattern ∈ operations, PatternMatches operationType pattern := by
  induction operations with
  | nil => simp [operationMatches]
  | cons pattern operations ih =>
      rw [List.exists_mem_cons_iff, ← ih]
      conv_lhs => unfold operationMatches
      unfold PatternMatches
      rw [← prefix_pattern_iff]
      split
      next h => exact iff_of_true rfl (.inl (.inl h))
      next hstar =>
        split
        next h => exact iff_of_true rfl (.inl (.inr (.inl h)))
        next hexact =>
          split
          next h => exact iff_of_true rfl (.inl (.inr (.inr h)))
          next h =>
            refine ⟨.inr, fun hor => hor.resolve_left ?_⟩
            rintro (heq | heq | hprefix)
            · exact hstar heq
            · exact hexact heq
            · exact h hprefix

theorem scopeMatches_iff {rule : ApprovalRule} :
    scopeMatches userGroupIds deviceGroupId rule = true ↔
      ScopeMatches userGroupIds deviceGroupId rule := by
  unfold scopeMatches ScopeMatches
  cases rule.scopeType with
  | deviceGroup => simp
  | userGroup => simp [eq_comm]
  | global => simp

theorem applies_iff {rule : RuleRow} :
    applies operationType userGroupIds deviceGroupId rule = true ↔
      Applies operationType userGroupIds deviceGroupId rule := by
  unfold applies Applies
  rw [Bool.and_eq_true, scopeMatches_iff, Option.any_eq_true]
  simp only [operationMatches_iff]

/-- **THE LOOP** takes the first rule that applies. -/
theorem findMatchingRule_eq_find? (rules : List RuleRow) :
    findMatchingRule operationType userGroupIds deviceGroupId rules
      = rules.find? (applies operationType userGroupIds deviceGroupId) := by
  induction rules with
  | nil => rfl
  | cons rule rules ih =>
      rw [List.find?_cons]
      conv_lhs => unfold findMatchingRule
      rw [ih]
      generalize rules.find? (applies operationType userGroupIds deviceGroupId) = rest
      unfold applies scopeMatches
      cases rule.loads with
      | none => rfl
      | some operations =>
          -- a rule whose patterns do not match is passed whatever its scope
          rw [Option.any_some]
          dsimp only
          cases operationMatches operationType operations with
          | false => rfl
          | true =>
              rw [Bool.true_and, if_pos rfl]
              cases rule.rule.scopeType with
              | deviceGroup =>
                  dsimp only
                  split
                  next h => rw [decide_eq_true h]
                  next h => rw [decide_eq_false h]
              | userGroup =>
                  dsimp only
                  split
                  next h => rw [decide_eq_true h]
                  next h => rw [decide_eq_false h]
              | global => rfl

/-! ## §4. Which rule is returned. -/

/-- The order of the scopes: a device group, then a user group, then everything. -/
def ScopeType.place : ScopeType → Nat
  | .deviceGroup => 0
  | .userGroup => 1
  | .global => 2

section

variable (db : RuleDB) (operationType userId : String) (deviceGroupId : Option String)

/-- `find_matching_rule`, with the rows of the query. -/
def RuleDB.find (rows : List RuleRow) : Option RuleRow :=
  findMatchingRule operationType (db.userGroupIds userId) deviceGroupId rows

/-- The active rules that match. -/
def RuleDB.Matching (rule : RuleRow) : Prop :=
  rule ∈ db.rules.rows ∧ rule.rule.isActive = true
    ∧ Applies operationType (db.userGroupIds userId) deviceGroupId rule

/-- Those of the highest priority. -/
def RuleDB.Highest (rule : RuleRow) : Prop :=
  db.Matching operationType userId deviceGroupId rule
    ∧ ∀ rule', db.Matching operationType userId deviceGroupId rule' →
      rule'.rule.priority ≤ rule.rule.priority

/-- **RULE SELECTION**: none is returned exactly if none matches, otherwise one of the highest
priority, by the order of the scopes; and the scope is the same however the database orders
rules of one priority.  The scope may be read as its type, or as its type and its id. -/
def RuleDB.RuleSelection {σ : Type} (scopeOf : ApprovalRule → σ) : Prop :=
  ∀ rows, db.Returned rows →
    (db.find operationType userId deviceGroupId rows = none ↔
      ¬ ∃ rule, db.Matching operationType userId deviceGroupId rule)
    ∧ (∀ rule, db.find operationType userId deviceGroupId rows = some rule →
        db.Highest operationType userId deviceGroupId rule
        ∧ ∀ rule', db.Highest operationType userId deviceGroupId rule' →
          rule.rule.scopeType.place ≤ rule'.rule.scopeType.place)
    ∧ ∀ rows', db.Returned rows' →
        (db.find operationType userId deviceGroupId rows').map (fun r => scopeOf r.rule)
          = (db.find operationType userId deviceGroupId rows).map (fun r => scopeOf r.rule)

end

variable {db : RuleDB} {userId : String}

/-- The highest rules are the highest of the active rows that apply. -/
theorem highest_iff {rule : RuleRow} :
    db.Highest operationType userId deviceGroupId rule ↔
      Top (fun r => r.rule.priority) (applies operationType (db.userGroupIds userId) deviceGroupId)
        (db.rules.rows.filter (fun r => r.rule.isActive)) rule := by
  unfold RuleDB.Highest RuleDB.Matching
  simp only [← applies_iff]
  constructor
  · rintro ⟨⟨hmem, hactive, happlies⟩, hhighest⟩
    refine ⟨List.mem_filter.mpr ⟨hmem, hactive⟩, happlies, fun rule' hmem' happlies' => ?_⟩
    obtain ⟨hmem', hactive'⟩ := List.mem_filter.mp hmem'
    exact hhighest rule' ⟨hmem', hactive', happlies'⟩
  · rintro ⟨hmem, happlies, hhighest⟩
    obtain ⟨hmem, hactive⟩ := List.mem_filter.mp hmem
    refine ⟨⟨hmem, hactive, happlies⟩, ?_⟩
    rintro rule' ⟨hmem', hactive', happlies'⟩
    exact hhighest rule' (List.mem_filter.mpr ⟨hmem', hactive'⟩) happlies'

/-- No rule is returned exactly if none matches. -/
theorem find_eq_none_iff {rows : List RuleRow} (hrows : db.Returned rows) :
    db.find operationType userId deviceGroupId rows = none ↔
      ¬ ∃ rule, db.Matching operationType userId deviceGroupId rule := by
  unfold RuleDB.find RuleDB.Matching
  rw [findMatchingRule_eq_find?, hrows.find?_eq_none_iff, not_exists]
  refine forall_congr' (fun rule => ?_)
  rw [List.mem_filter, Ne, applies_iff, ← and_assoc, not_and]

/-- A rule that is returned is one of the highest. -/
theorem highest_of_find {rows : List RuleRow} {rule : RuleRow} (hrows : db.Returned rows)
    (h : db.find operationType userId deviceGroupId rows = some rule) :
    db.Highest operationType userId deviceGroupId rule := by
  unfold RuleDB.find at h
  rw [findMatchingRule_eq_find?] at h
  exact highest_iff.mpr (hrows.top_of_find? h)

/-- **WHICH RULES CAN BE RETURNED**: each of the highest. -/
theorem exists_found_iff {rule : RuleRow} :
    (∃ rows, db.Returned rows ∧ db.find operationType userId deviceGroupId rows = some rule) ↔
      db.Highest operationType userId deviceGroupId rule := by
  rw [highest_iff, ← exists_ordered_find?_iff]
  unfold RuleDB.find RuleDB.Returned
  simp only [findMatchingRule_eq_find?]

theorem ScopeType.place_inj {s t : ScopeType} (h : s.place = t.place) : s = t := by
  cases s <;> cases t <;> first | rfl | cases h

/-- **THE SCOPES DECIDE** exactly if the matching rules of the highest priority have one scope. -/
theorem ruleSelection_iff {σ : Type} (scopeOf : ApprovalRule → σ) (db : RuleDB)
    (operationType userId : String) (deviceGroupId : Option String) :
    db.RuleSelection operationType userId deviceGroupId scopeOf ↔
      ∀ rule rule', db.Highest operationType userId deviceGroupId rule →
        db.Highest operationType userId deviceGroupId rule' →
        rule.rule.scopeType = rule'.rule.scopeType
          ∧ scopeOf rule.rule = scopeOf rule'.rule := by
  constructor
  · intro h rule rule' hrule hrule'
    -- each of the two is returned for some order of the rows
    obtain ⟨rows, hrows, hfound⟩ := exists_found_iff.mpr hrule
    obtain ⟨rows', hrows', hfound'⟩ := exists_found_iff.mpr hrule'
    have hle := ((h rows hrows).2.1 rule hfound).2 rule' hrule'
    have hge := ((h rows' hrows').2.1 rule' hfound').2 rule hrule
    have hsame := (h rows' hrows').2.2 rows hrows
    rw [hfound, hfound'] at hsame
    exact ⟨ScopeType.place_inj (Nat.le_antisymm hle hge), Option.some.inj hsame⟩
  · intro h rows hrows
    refine ⟨find_eq_none_iff hrows, fun rule hfound => ?_, fun rows' hrows' => ?_⟩
    · have hrule := highest_of_find hrows hfound
      refine ⟨hrule, fun rule' hrule' => ?_⟩
      exact Nat.le_of_eq (congrArg ScopeType.place (h rule rule' hrule hrule').1)
    · cases hfound : db.find operationType userId deviceGroupId rows with
      | none =>
          have hnone := (find_eq_none_iff hrows).mp hfound
          rw [(find_eq_none_iff hrows').mpr hnone]
      | some rule =>
          cases hfound' : db.find operationType userId deviceGroupId rows' with
          | none =>
              have hnone := (find_eq_none_iff hrows').mp hfound'
              rw [(find_eq_none_iff hrows).mpr hnone] at hfound
              cases hfound
          | some rule' =>
              have hrule := highest_of_find hrows hfound
              have hrule' := highest_of_find hrows' hfound'
              exact congrArg some (h rule' rule hrule' hrule).2

/-- A rule for every device. -/
def globalRule : RuleRow where
  rule := { id := "r1", name := "all", scopeType := .global, operations := ["*"] }

/-- A rule of the same priority for the device group `g1`. -/
def groupRule : RuleRow where
  rule := { id := "r2", name := "racks", scopeType := .deviceGroup, scopeId := some "g1",
            operations := ["node.*"], requiredApprovers := 2 }

def tiedRules : RuleDB where
  rules := ⟨[globalRule, groupRule], by decide⟩
  members := []

/-- Which one is returned depends on the order of the rows. -/
theorem tiedRules_not_selected :
    ¬ tiedRules.RuleSelection "node.provision" "u1" (some "g1") ApprovalRule.scopeType := by
  intro h
  have hrows : tiedRules.Returned [globalRule, groupRule] := ⟨List.Perm.refl _, by decide⟩
  have hrows' : tiedRules.Returned [groupRule, globalRule] := ⟨List.Perm.swap _ _ _, by decide⟩
  have hsame := (h _ hrows).2.2 _ hrows'
  revert hsame
  decide +kernel

end PureBoot.Approvals
