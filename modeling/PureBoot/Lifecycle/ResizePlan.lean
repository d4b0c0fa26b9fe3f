/-
  PureBoot.Lifecycle.ResizePlan — the suggested RESIZE PLAN of a clone.

  Embeds `_generate_resize_plan` of `api/routes/clone.py` with `PartitionPlanItem` and
  `ResizePlan` of `api/schemas.py`.  A partition comes from a stored JSON document;
  pydantic's conversions of its fields are a parameter.  Sizes are integers, of either sign.

  Two loops run from the last partition to the first.  Each is a function on the reversed
  list: `growFirst` stops at the first partition it can grow, `distribute` carries the bytes
  that are still to be cut and stops when none are left.

  Main results:
    * `distribute_shrinks` — what the distribution does to each partition;
    * `sum_cuts_distribute` — the cuts sum to what was asked for, or to all there is;
    * `generateResizePlan_exact` — feasibility, conservation and the frame, in every mode.
-/
import Mathlib.Algebra.Ring.Int.Defs
import PureBoot.Web.Central

namespace PureBoot.Lifecycle

open PureBoot.Lib
open PureBoot.Web (Json Dict)

/-! ## §1. Plans. -/

inductive PartitionAction where
  | keep
  | shrink
  | grow
  | delete
  deriving DecidableEq, Repr

structure PartitionPlanItem where
  partition : Int
  currentSizeBytes : Int
  newSizeBytes : Int
  filesystem : Option String := none
  action : PartitionAction := .keep
  minSizeBytes : Option Int := none
  canResize : Bool := true
  deriving DecidableEq, Repr

structure ResizePlan where
  sourceDiskBytes : Int
  targetDiskBytes : Int
  resizeMode : ResizeMode
  partitions : List PartitionPlanItem
  feasible : Bool := true
  errorMessage : Option String := none
  deriving DecidableEq, Repr

/-- What a plan is made from of a `DiskInfo` row.  A `partitions_json` that is not empty is
given as `json.loads` reads it, with `none` for a text that is not JSON. -/
structure DiskSizes where
  sizeBytes : Int
  partitionsJson : Option (Option Json) := none

/-- What the parsing of the partitions raises. -/
inductive PlanExn where
  | validationError
  | attributeError
  deriving DecidableEq, Repr

/-- Pydantic's conversions to `int`, `str` and `bool`; `none` is a `ValidationError`. -/
structure Conversions where
  int : Json → Option Int
  str : Json → Option String
  bool : Json → Option Bool

/-! ## §2. The partitions of the source. -/

/-- A field that is made from `p.get(key, default)`. -/
def field {α : Type} (convert : Json → Option α) (default : α) :
    Option Json → Except PlanExn α
  | none => .ok default
  | some value =>
      match convert value with
      | some a => .ok a
      | none => .error .validationError

/-- A field that may be `None`. -/
def optionalField {α : Type} (convert : Json → Option α) :
    Option Json → Except PlanExn (Option α)
  | some .null => .ok none
  | value => field (fun v => (convert v).map some) none value

/-- One element of the document. -/
def planItem (conv : Conversions) : Json → Except PlanExn PartitionPlanItem
  | .obj p => do
      let size ← field conv.int 0 (Dict.get? p "size_bytes")
      return {
        partition := ← field conv.int 0 (Dict.get? p "number")
        currentSizeBytes := size
        newSizeBytes := size
        filesystem := ← optionalField conv.str (Dict.get? p "filesystem")
        action := .keep
        minSizeBytes := ← optionalField conv.int (Dict.get? p "min_size_bytes")
        canResize := ← field conv.bool false (Dict.get? p "can_shrink") }
  -- `p.get`
  | _ => .error .attributeError

/-- The partitions of a disk. -/
def parsePartitions (conv : Conversions) (disk : DiskSizes) :
    Except PlanExn (List PartitionPlanItem) :=
  match disk.partitionsJson with
  -- no document, or a `JSONDecodeError`
  | none | some none => .ok []
  | some (some (.arr items)) => items.mapM (planItem conv)
  -- the elements of these are texts, which have no `get`
  | some (some (.obj fields)) => if fields.isEmpty then .ok [] else .error .attributeError
  | some (some (.str s)) => if s = "" then .ok [] else .error .attributeError
  -- a `TypeError`: not iterable
  | some (some _) => .ok []

/-! ## §3. The loops. -/

/-- `p.can_resize and p.filesystem in ("ext4", "xfs", "btrfs", "ntfs")`. -/
def PartitionPlanItem.growable (p : PartitionPlanItem) : Bool :=
  p.canResize && p.filesystem.any (fun fs => fs ∈ ["ext4", "xfs", "btrfs", "ntfs"])

/-- The first partition that can be grown gets the extra space. -/
def growFirst (extraSpace : Int) : List PartitionPlanItem → List PartitionPlanItem
  | [] => []
  | p :: ps =>
      if p.growable then
        { p with newSizeBytes := p.currentSizeBytes + extraSpace, action := .grow } :: ps
      else p :: growFirst extraSpace ps

/-- `shrink_potential`, of a partition that may be shrunk; it may be negative. -/
def PartitionPlanItem.shrinkPotential? (p : PartitionPlanItem) : Option Int :=
  if p.canResize then p.minSizeBytes.map (fun minimum => p.currentSizeBytes - minimum) else none

/-- `total_shrinkable`, up to here. -/
def addShrinkable (total : Int) (p : PartitionPlanItem) : Int :=
  match p.shrinkPotential? with
  | some potential => if potential > 0 then total + potential else total
  | none => total

/-- The partitions in turn are cut, until nothing remains to be cut. -/
def distribute (remaining : Int) : List PartitionPlanItem → List PartitionPlanItem
  | [] => []
  | p :: ps =>
      if remaining ≤ 0 then p :: ps
      else
        match p.shrinkPotential? with
        | none => p :: distribute remaining ps
        | some potential =>
            if potential > 0 then
              let amount := min potential remaining
              { p with newSizeBytes := p.currentSizeBytes - amount, action := .shrink }
                :: distribute (remaining - amount) ps
            else p :: distribute remaining ps

/-- `target_disk.size_bytes if target_disk else source_size`. -/
def targetSize (sourceDisk : DiskSizes) (targetDisk : Option DiskSizes) : Int :=
  (targetDisk.map DiskSizes.sizeBytes).getD sourceDisk.sizeBytes

/-- `_generate_resize_plan`. -/
def generateResizePlan (conv : Conversions) (sourceDisk : DiskSizes)
    (targetDisk : Option DiskSizes) (resizeMode : ResizeMode) : Except PlanExn ResizePlan := do
  let sourceSize := sourceDisk.sizeBytes
  let target := targetSize sourceDisk targetDisk
  let partitions ← parsePartitions conv sourceDisk
  if target ≥ sourceSize then
    return {
      sourceDiskBytes := sourceSize
      targetDiskBytes := target
      resizeMode
      partitions :=
        if resizeMode = .growTarget ∧ target > sourceSize then
          (growFirst (target - sourceSize) partitions.reverse).reverse
        else partitions
      feasible := true }
  let sizeToReduce := sourceSize - target
  let totalShrinkable := partitions.foldl addShrinkable 0
  if totalShrinkable < sizeToReduce then
    return {
      sourceDiskBytes := sourceSize
      targetDiskBytes := target
      resizeMode := .shrinkSource
      partitions
      feasible := false
      errorMessage := some ("Cannot shrink partitions enough. Need to reduce "
        ++ toString sizeToReduce ++ " bytes but only " ++ toString totalShrinkable
        ++ " bytes available for shrinking.") }
  return {
    sourceDiskBytes := sourceSize
    targetDiskBytes := target
    resizeMode := .shrinkSource
    partitions := (distribute sizeToReduce partitions.reverse).reverse
    feasible := true }

/-! ## §4. What a plan should do. -/

/-- A partition as it is parsed. -/
structure PartitionPlanItem.Untouched (p : PartitionPlanItem) : Prop where
  size : p.newSizeBytes = p.currentSizeBytes
  action : p.action = .keep

/-- The bytes that a partition can be cut by. -/
def PartitionPlanItem.shrinkable (p : PartitionPlanItem) : Int :=
  match p.canResize, p.minSizeBytes with
  | true, some minimum => max 0 (p.currentSizeBytes - minimum)
  | _, _ => 0

/-- A partition is left as it is, or cut to a size not below its known minimum. -/
inductive Shrinks (p : PartitionPlanItem) : PartitionPlanItem → Prop where
  | keep : Shrinks p p
  | shrink (minimum new : Int) (hresize : p.canResize = true)
      (hminimum : p.minSizeBytes = some minimum) (hlow : minimum ≤ new)
      (hless : new < p.currentSizeBytes) :
      Shrinks p { p with newSizeBytes := new, action := .shrink }

/-- The last partition that can be grown gets the extra space, the others are left alone. -/
def GrowsLast (extra : Int) (parts parts' : List PartitionPlanItem) : Prop :=
  ∃ before p after, parts = before ++ p :: after
    ∧ p.growable = true ∧ (∀ q ∈ after, q.growable = false)
    ∧ parts' = before
      ++ { p with newSizeBytes := p.currentSizeBytes + extra, action := .grow } :: after

/-- The sizes before and after. -/
def currentTotal (parts : List PartitionPlanItem) : Int :=
  (parts.map PartitionPlanItem.currentSizeBytes).sum

def newTotal (parts : List PartitionPlanItem) : Int :=
  (parts.map PartitionPlanItem.newSizeBytes).sum

/-- **WHAT A PLAN SHOULD BE**, where `need` bytes are missing on the target. -/
structure PlanMeets (sourceSize target : Int) (resizeMode : ResizeMode)
    (parts : List PartitionPlanItem) (plan : ResizePlan) : Prop where
  /-- A plan that has to shrink is feasible exactly if there is enough to cut. -/
  feasible_iff : 0 < sourceSize - target →
    (plan.feasible = true
      ↔ sourceSize - target ≤ (parts.map PartitionPlanItem.shrinkable).sum)
  /-- It keeps the partitions and their order and cuts exactly what is missing. -/
  shrinks : 0 < sourceSize - target → plan.feasible = true →
    List.Forall₂ Shrinks parts plan.partitions
      ∧ currentTotal parts - newTotal plan.partitions = sourceSize - target
      ∧ (currentTotal parts ≤ sourceSize → newTotal plan.partitions ≤ target)
  /-- A plan that is not feasible changes nothing. -/
  infeasible : plan.feasible = false → plan.partitions = parts
  /-- Where nothing is missing, at most the last partition that can be grown is grown. -/
  enough : sourceSize - target ≤ 0 → plan.feasible = true
    ∧ ((plan.partitions = parts ∧ newTotal plan.partitions = currentTotal parts
        ∧ (resizeMode = .growTarget → sourceSize - target < 0 →
          ∀ p ∈ parts, p.growable = false))
      ∨ (resizeMode = .growTarget ∧ sourceSize - target < 0
        ∧ GrowsLast (-(sourceSize - target)) parts plan.partitions
        ∧ newTotal plan.partitions = currentTotal parts + -(sourceSize - target)))

/-! ## §5. The partitions are parsed untouched. -/

theorem planItem_untouched {conv : Conversions} {value : Json} {p : PartitionPlanItem}
    (h : planItem conv value = .ok p) : p.Untouched := by
  cases value with
  | obj fields =>
      unfold planItem at h
      obtain ⟨size, -, h⟩ := bind_eq_ok.mp h
      obtain ⟨number, -, h⟩ := bind_eq_ok.mp h
      obtain ⟨filesystem, -, h⟩ := bind_eq_ok.mp h
      obtain ⟨minimum, -, h⟩ := bind_eq_ok.mp h
      obtain ⟨canResize, -, h⟩ := bind_eq_ok.mp h
      obtain rfl := Except.ok.inj h
      exact ⟨rfl, rfl⟩
  | _ => cases h

theorem parsePartitions_untouched {conv : Conversions} {disk : DiskSizes}
    {parts : List PartitionPlanItem} (h : parsePartitions conv disk = .ok parts) :
    ∀ p ∈ parts, p.Untouched := by
  have hnil : ∀ {ps : List PartitionPlanItem},
      (.ok [] : Except PlanExn (List PartitionPlanItem)) = .ok ps → ∀ p ∈ ps, p.Untouched := by
    intro ps heq p hp
    obtain rfl := Except.ok.inj heq
    cases hp
  unfold parsePartitions at h
  split at h
  next => exact hnil h
  next => exact hnil h
  next items =>
    intro p hp
    obtain ⟨value, -, hvalue⟩ := (Table.mem_of_mapM_ok h).2 p hp
    exact planItem_untouched hvalue
  next =>
    split at h
    next => exact hnil h
    next => cases h
  next =>
    split at h
    next => exact hnil h
    next => cases h
  next => exact hnil h

/-! ## §6. The loops. -/

theorem shrinkPotential?_eq_some {p : PartitionPlanItem} {potential : Int}
    (h : p.shrinkPotential? = some potential) :
    p.canResize = true ∧ ∃ minimum, p.minSizeBytes = some minimum
      ∧ potential = p.currentSizeBytes - minimum := by
  unfold PartitionPlanItem.shrinkPotential? at h
  split at h
  next hresize =>
    obtain ⟨minimum, hminimum, rfl⟩ := Option.map_eq_some_iff.mp h
    exact ⟨hresize, minimum, hminimum, rfl⟩
  next => cases h

/-- What can be cut, by what the code computes. -/
theorem shrinkable_eq (p : PartitionPlanItem) :
    p.shrinkable = max 0 (p.shrinkPotential?.getD 0) := by
  unfold PartitionPlanItem.shrinkable PartitionPlanItem.shrinkPotential?
  cases p.canResize <;> cases p.minSizeBytes <;> rfl

theorem addShrinkable_eq (total : Int) (p : PartitionPlanItem) :
    addShrinkable total p = total + p.shrinkable := by
  rw [shrinkable_eq]
  unfold addShrinkable
  cases p.shrinkPotential? with
  | none => simp
  | some potential =>
      dsimp only
      split <;> simp <;> omega

/-- What the code sums up is what can be cut. -/
theorem foldl_addShrinkable (parts : List PartitionPlanItem) (total : Int) :
    parts.foldl addShrinkable total
      = total + (parts.map PartitionPlanItem.shrinkable).sum := by
  induction parts generalizing total with
  | nil => simp
  | cons p parts ih =>
      rw [List.foldl_cons, ih, List.map_cons, List.sum_cons, ← add_assoc]
      congr 1
      exact addShrinkable_eq total p

theorem shrinkable_nonneg (p : PartitionPlanItem) : 0 ≤ p.shrinkable := by
  unfold PartitionPlanItem.shrinkable
  split
  next => exact le_max_left _ _
  next => exact le_refl _

theorem sum_shrinkable_nonneg (parts : List PartitionPlanItem) :
    0 ≤ (parts.map PartitionPlanItem.shrinkable).sum :=
  List.sum_nonneg (List.forall_mem_map.mpr (fun p _ => shrinkable_nonneg p))

/-- **EACH PARTITION** is left alone or cut to a size not below its minimum. -/
theorem distribute_shrinks (parts : List PartitionPlanItem) (remaining : Int) :
    List.Forall₂ Shrinks parts (distribute remaining parts) := by
  induction parts generalizing remaining with
  | nil => exact .nil
  | cons p parts ih =>
      unfold distribute
      split
      next => exact List.forall₂_same.mpr (fun q _ => .keep)
      next hpos =>
        split
        next => exact .cons .keep (ih remaining)
        next potential hpotential =>
          obtain ⟨hresize, minimum, hminimum, rfl⟩ := shrinkPotential?_eq_some hpotential
          split
          next hcut =>
            refine .cons (.shrink minimum _ hresize hminimum ?_ ?_) (ih _) <;> omega
          next => exact .cons .keep (ih remaining)

theorem newTotal_untouched {parts : List PartitionPlanItem} (h : ∀ p ∈ parts, p.Untouched) :
    newTotal parts = currentTotal parts :=
  congrArg List.sum (List.map_congr_left (fun p hp => (h p hp).size))

/-- **THE CUTS** sum to what was asked for, or to all that can be cut. -/
theorem newTotal_distribute {parts : List PartitionPlanItem} {remaining : Int}
    (h : ∀ p ∈ parts, p.Untouched) (hremaining : 0 ≤ remaining) :
    newTotal (distribute remaining parts)
      = currentTotal parts - min remaining (parts.map PartitionPlanItem.shrinkable).sum := by
  induction parts generalizing remaining with
  | nil =>
      show (0 : Int) = 0 - min remaining 0
      omega
  | cons p parts ih =>
      obtain ⟨hp, hrest⟩ := List.forall_mem_cons.mp h
      have hsum := sum_shrinkable_nonneg parts
      have hshrinkable := shrinkable_eq p
      have hsize := hp.size
      have hcurrent : currentTotal (p :: parts) = p.currentSizeBytes + currentTotal parts :=
        List.sum_cons
      -- the first partition gets `new`, the rest is cut by what remains then
      have hcons : ∀ (q : PartitionPlanItem) (qs : List PartitionPlanItem),
          newTotal (q :: qs) = q.newSizeBytes + newTotal qs := fun q qs => List.sum_cons
      rw [hcurrent, List.map_cons, List.sum_cons]
      unfold distribute
      split
      next hzero =>
        rw [hcons, newTotal_untouched hrest]
        omega
      next hpos =>
        split
        next hnone =>
          rw [hnone] at hshrinkable
          rw [hcons, ih hrest hremaining, hsize]
          simp only [Option.getD_none, max_self] at hshrinkable
          omega
        next potential hpotential =>
          rw [hpotential] at hshrinkable
          simp only [Option.getD_some] at hshrinkable
          split
          next hcut =>
            rw [hcons, ih hrest (by omega)]
            show p.currentSizeBytes - min potential remaining + _ = _
            omega
          next =>
            rw [hcons, ih hrest hremaining, hsize]
            omega

/-- **THE FIRST PARTITION** that can be grown is grown, if there is one. -/
theorem growFirst_eq (extra : Int) (parts : List PartitionPlanItem) :
    (∀ p ∈ parts, p.growable = false) ∧ growFirst extra parts = parts
      ∨ ∃ before p after, parts = before ++ p :: after
        ∧ p.growable = true ∧ (∀ q ∈ before, q.growable = false)
        ∧ growFirst extra parts = before
          ++ { p with newSizeBytes := p.currentSizeBytes + extra, action := .grow } :: after := by
  induction parts with
  | nil => exact .inl ⟨fun p hp => (nomatch hp), rfl⟩
  | cons p parts ih =>
      unfold growFirst
      by_cases hp : p.growable = true
      · rw [if_pos hp]
        exact .inr ⟨[], p, parts, rfl, hp, fun q hq => (nomatch hq), rfl⟩
      · rw [if_neg hp]
        rw [Bool.not_eq_true] at hp
        rcases ih with ⟨hnone, heq⟩ | ⟨before, q, after, rfl, hq, hbefore, heq⟩
        · exact .inl ⟨List.forall_mem_cons.mpr ⟨hp, hnone⟩, by rw [heq]⟩
        · refine .inr ⟨p :: before, q, after, rfl, hq, List.forall_mem_cons.mpr ⟨hp, hbefore⟩, ?_⟩
          rw [heq]
          rfl

theorem newTotal_growsLast {extra : Int} {parts parts' : List PartitionPlanItem}
    (huntouched : ∀ p ∈ parts, p.Untouched) (h : GrowsLast extra parts parts') :
    newTotal parts' = currentTotal parts + extra := by
  obtain ⟨before, p, after, rfl, -, -, rfl⟩ := h
  rw [List.forall_mem_append, List.forall_mem_cons] at huntouched
  obtain ⟨hbefore, -, hafter⟩ := huntouched
  have hb := newTotal_untouched hbefore
  have ha := newTotal_untouched hafter
  unfold newTotal currentTotal at *
  simp only [List.map_append, List.map_cons, List.sum_append, List.sum_cons]
  omega

/-! ## §7. The plan. -/

theorem newTotal_reverse (parts : List PartitionPlanItem) :
    newTotal parts.reverse = newTotal parts := by
  unfold newTotal
  rw [List.map_reverse, List.sum_reverse]

/-- The distribution, from the last partition to the first. -/
theorem distribute_reverse {parts : List PartitionPlanItem} {need : Int}
    (h : ∀ p ∈ parts, p.Untouched) (hneed : 0 ≤ need) :
    List.Forall₂ Shrinks parts (distribute need parts.reverse).reverse
      ∧ newTotal (distribute need parts.reverse).reverse
        = currentTotal parts - min need (parts.map PartitionPlanItem.shrinkable).sum := by
  have hshrinks := List.forall₂_reverse_iff.mpr (distribute_shrinks parts.reverse need)
  rw [List.reverse_reverse] at hshrinks
  refine ⟨hshrinks, ?_⟩
  rw [newTotal_reverse, newTotal_distribute (fun p hp => h p (List.mem_reverse.mp hp)) hneed]
  unfold currentTotal
  rw [List.map_reverse, List.sum_reverse, List.map_reverse, List.sum_reverse]

/-- Growing, from the last partition to the first. -/
theorem growFirst_reverse (extra : Int) (parts : List PartitionPlanItem) :
    (∀ p ∈ parts, p.growable = false) ∧ (growFirst extra parts.reverse).reverse = parts
      ∨ GrowsLast extra parts (growFirst extra parts.reverse).reverse := by
  rcases growFirst_eq extra parts.reverse with
    ⟨hnone, heq⟩ | ⟨before, p, after, hparts, hp, hbefore, heq⟩
  · refine .inl ⟨fun p hp => hnone p (List.mem_reverse.mpr hp), ?_⟩
    rw [heq, List.reverse_reverse]
  · refine .inr ⟨after.reverse, p, before.reverse, ?_, hp,
      fun q hq => hbefore q (List.mem_reverse.mp hq), ?_⟩
    · rw [← List.reverse_reverse parts, hparts]
      simp
    · rw [heq]
      simp

/-- Nothing is missing on the target. -/
theorem planMeets_enough {source target : Int} {resizeMode : ResizeMode}
    {parts : List PartitionPlanItem} {plan : ResizePlan} (huntouched : ∀ p ∈ parts, p.Untouched)
    (htarget : target ≥ source) (hfeasible : plan.feasible = true)
    (hparts : plan.partitions = if resizeMode = .growTarget ∧ target > source then
      (growFirst (target - source) parts.reverse).reverse else parts) :
    PlanMeets source target resizeMode parts plan where
  feasible_iff := by
    intro hneed
    omega
  shrinks := by
    intro hneed
    omega
  infeasible := by
    intro hnot
    rw [hfeasible] at hnot
    cases hnot
  enough := by
    intro _
    refine ⟨hfeasible, ?_⟩
    rw [show -(source - target) = target - source by omega]
    split at hparts
    next hgrow =>
      rcases growFirst_reverse (target - source) parts with ⟨hnone, heq⟩ | hlast
      · rw [heq] at hparts
        rw [hparts]
        exact .inl ⟨rfl, newTotal_untouched huntouched, fun _ _ => hnone⟩
      · rw [hparts]
        exact .inr ⟨hgrow.1, by omega, hlast, newTotal_growsLast huntouched hlast⟩
    next hkeep =>
      rw [hparts]
      refine .inl ⟨rfl, newTotal_untouched huntouched, fun hmode hneed => ?_⟩
      exact absurd ⟨hmode, by omega⟩ hkeep

/-- There is not enough to cut. -/
theorem planMeets_infeasible {source target : Int} {resizeMode : ResizeMode}
    {parts : List PartitionPlanItem} {plan : ResizePlan} (htarget : ¬ target ≥ source)
    (htotal : (parts.map PartitionPlanItem.shrinkable).sum < source - target)
    (hfeasible : plan.feasible = false) (hparts : plan.partitions = parts) :
    PlanMeets source target resizeMode parts plan where
  feasible_iff := by
    intro _
    rw [hfeasible]
    constructor
    · intro h
      cases h
    · intro h
      omega
  shrinks := by
    intro _ h
    rw [hfeasible] at h
    cases h
  infeasible := fun _ => hparts
  enough := by
    intro hneed
    omega

/-- The missing bytes are cut. -/
theorem planMeets_shrunk {source target : Int} {resizeMode : ResizeMode}
    {parts : List PartitionPlanItem} {plan : ResizePlan} (huntouched : ∀ p ∈ parts, p.Untouched)
    (htarget : ¬ target ≥ source)
    (htotal : ¬ (parts.map PartitionPlanItem.shrinkable).sum < source - target)
    (hfeasible : plan.feasible = true)
    (hparts : plan.partitions = (distribute (source - target) parts.reverse).reverse) :
    PlanMeets source target resizeMode parts plan where
  feasible_iff := fun _ => ⟨fun _ => by omega, fun _ => hfeasible⟩
  shrinks := by
    intro hneed _
    obtain ⟨hshrinks, hnew⟩ := distribute_reverse huntouched (le_of_lt hneed)
    rw [← hparts] at hshrinks hnew
    refine ⟨hshrinks, ?_, ?_⟩ <;> omega
  infeasible := by
    intro hnot
    rw [hfeasible] at hnot
    cases hnot
  enough := by
    intro hneed
    omega

/-- **THE RESIZE PLAN**, for every list of partitions, every target and every mode. -/
theorem generateResizePlan_exact (conv : Conversions) {sourceDisk : DiskSizes}
    {parts : List PartitionPlanItem} (targetDisk : Option DiskSizes) (resizeMode : ResizeMode)
    (h : parsePartitions conv sourceDisk = .ok parts) :
    (∀ p ∈ parts, p.Untouched)
      ∧ ∃ plan, generateResizePlan conv sourceDisk targetDisk resizeMode = .ok plan
        ∧ PlanMeets sourceDisk.sizeBytes (targetSize sourceDisk targetDisk) resizeMode
          parts plan := by
  have huntouched := parsePartitions_untouched h
  have htotal := foldl_addShrinkable parts 0
  rw [zero_add] at htotal
  refine ⟨huntouched, ?_⟩
  unfold generateResizePlan
  rw [h, ok_bind]
  dsimp only
  split
  next htarget => exact ⟨_, rfl, planMeets_enough huntouched htarget rfl rfl⟩
  next htarget =>
    rw [htotal]
    split
    next hless => exact ⟨_, rfl, planMeets_infeasible htarget hless rfl rfl⟩
    next hmuch => exact ⟨_, rfl, planMeets_shrunk huntouched htarget hmuch rfl rfl⟩

/-- Numbers of digits, texts and truth values as they are. -/
def plainConversions : Conversions where
  int
    | .num text => some (text.toList.foldl (fun n c => 10 * n + (c.toNat - 48 : Int)) 0)
    | _ => none
  str
    | .str text => some text
    | _ => none
  bool
    | .bool b => some b
    | _ => none

/-- A disk with a root partition that can be cut by 40, and one of unknown minimum. -/
def rootAndData : DiskSizes where
  sizeBytes := 100
  partitionsJson := some (some (.arr [
    .obj [("number", .num "1"), ("size_bytes", .num "60"), ("filesystem", .str "ext4"),
      ("min_size_bytes", .num "20"), ("can_shrink", .bool true)],
    .obj [("number", .num "2"), ("size_bytes", .num "40"), ("can_shrink", .bool true)]]))

theorem generateResizePlan_rootAndData :
    ∃ plan, generateResizePlan plainConversions rootAndData (some { sizeBytes := 70 }) .none
        = .ok plan
      ∧ PlanMeets 100 70 .none
        [{ partition := 1, currentSizeBytes := 60, newSizeBytes := 60, filesystem := some "ext4"
           minSizeBytes := some 20 },
          { partition := 2, currentSizeBytes := 40, newSizeBytes := 40 }] plan := by
  have hparse : parsePartitions plainConversions rootAndData = .ok
      [{ partition := 1, currentSizeBytes := 60, newSizeBytes := 60, filesystem := some "ext4"
         minSizeBytes := some 20 },
        { partition := 2, currentSizeBytes := 40, newSizeBytes := 40 }] := by
    decide +kernel
  exact (generateResizePlan_exact plainConversions (some { sizeBytes := 70 }) .none hparse).2

end PureBoot.Lifecycle
