import Mathlib.Data.Countable.Basic
import Mathlib.Data.List.Range
import Mathlib.Logic.Equiv.List
import Mathlib.Tactic.DeriveCountable
import Parqonaut.Repair.DependencyOrder
import Parqonaut.Schema.CanonicalField

/-!
# Generated plans can be sorted

The operation ids of a plan are digests of what the operations do, so two findings that propose the
same action give the same id, and the sort takes the plan for cyclic.
-/

namespace Parqonaut.Repair

open Effects Rust Schema List Option String
open Fallible (Returns)

/-! ## Lists -/

section

variable {α β κ : Type} [DecidableEq α] {f : α → Option β} {items : List α}

lemma count_le_one_of_nodup_filterMap {item : α} {value : β}
    (distinct : (items.filterMap f).Nodup) (found : f item = some value) : items.count item ≤ 1 := by
  induction items with
  | nil => simp
  | cons first rest ih =>
    rw [filterMap_cons] at distinct
    by_cases same : first = item
    · subst same
      rw [found] at distinct
      have gone : first ∉ rest := fun mem =>
        (nodup_cons.mp distinct).1 (mem_filterMap.mpr ⟨first, mem, found⟩)
      rw [count_cons_self, count_eq_zero_of_not_mem gone]
    · rw [count_cons_of_ne same]
      cases made : f first with
      | none =>
        rw [made] at distinct
        exact ih distinct
      | some =>
        rw [made] at distinct
        exact ih (nodup_cons.mp distinct).2

/-- A partial map that keeps items apart lists distinct values exactly if no item with a value
occurs twice. -/
lemma nodup_filterMap_iff (apart : ∀ a b value, f a = some value → f b = some value → a = b) :
    (items.filterMap f).Nodup ↔ ∀ item, (f item).isSome = true → items.count item ≤ 1 := by
  constructor
  · intro distinct item present
    obtain ⟨value, found⟩ := isSome_iff_exists.mp present
    exact count_le_one_of_nodup_filterMap distinct found
  · intro once
    induction items with
    | nil => simp
    | cons first _ ih =>
      have later := ih fun item present =>
        (count_le_count_cons).trans (once item present)
      cases made : f first with
      | none => rwa [filterMap_cons_none made]
      | some value =>
        rw [filterMap_cons_some made, nodup_cons]
        refine ⟨fun mem => ?_, later⟩
        obtain ⟨other, inside, found⟩ := mem_filterMap.mp mem
        obtain rfl := apart first other value made found
        have twice := once first (by simp [made])
        rw [count_cons_self] at twice
        exact count_pos_iff.mpr inside |>.not_ge (by omega)

omit [DecidableEq α] in
/-- Items with distinct keys have distinct values if the values determine the keys. -/
lemma nodup_filterMap_of_key {key : α → κ} (distinct : (items.map key).Nodup)
    (determines : ∀ a b value, f a = some value → f b = some value → key a = key b) :
    (items.filterMap f).Nodup := by
  rw [Nodup, pairwise_filterMap]
  refine (pairwise_map.mp distinct).imp ?_
  rintro first other apart value made _ otherMade rfl
  exact apart (determines first other value made otherMade)

end

/-! ## Assigned dependencies -/

section

variable {ops previous rest : List RepairOperation} {op : RepairOperation}

lemma map_dependOnEarlier : (dependOnEarlier previous rest).map
      (fun op => (op.operationId, op.action)) =
    rest.map fun op => (op.operationId, op.action) := by
  induction rest generalizing previous with
  | nil => rfl
  | cons _ _ ih => simp [dependOnEarlier, ih]

lemma dependsOn_earlier (mem : op ∈ dependOnEarlier previous rest) {dep : String}
    (named : dep ∈ op.dependsOn) : ∃ other ∈ previous ++ rest, other.operationId = dep ∧
      actionOrder other.action < actionOrder op.action := by
  induction rest generalizing previous with
  | nil => cases mem
  | cons _ _ ih =>
    rw [dependOnEarlier] at mem
    rcases mem_cons.mp mem with rfl | later
    · obtain ⟨other, inside, rfl⟩ := mem_map.mp named
      obtain ⟨earlier, lower⟩ := mem_filter.mp inside
      exact ⟨other, mem_append_left _ earlier, rfl, of_decide_eq_true lower⟩
    · obtain ⟨other, inside, found⟩ := ih later
      exact ⟨other, by simpa using inside, found⟩

lemma assignDependencies_ids (ops : List RepairOperation) :
    ((assignDependencies ops).map (·.operationId)).Perm (ops.map (·.operationId)) := by
  have kept := congrArg (map Prod.fst) (@map_dependOnEarlier [] (ops.insertionSort runsBefore))
  rw [List.map_map, List.map_map] at kept
  rw [assignDependencies]
  exact (Perm.of_eq kept).trans ((perm_insertionSort runsBefore ops).map _)

lemma assignDependencies_layered (ops : List RepairOperation) :
    Layered (fun op => actionOrder op.action) (assignDependencies ops) := by
  intro op mem _ named
  obtain ⟨other, inside, rfl, _⟩ := dependsOn_earlier mem named
  have listed : (other.operationId, other.action) ∈ (assignDependencies ops).map
      fun op => (op.operationId, op.action) := by
    rw [assignDependencies, map_dependOnEarlier]
    exact mem_map_of_mem (f := fun op : RepairOperation => (op.operationId, op.action))
      (by simpa using inside)
  obtain ⟨same, isOp, equal⟩ := mem_map.mp listed
  obtain ⟨ids, actions⟩ := Prod.mk.inj equal
  refine ⟨same, isOp, ids, ?_⟩
  dsimp only
  rwa [actions]

end

/-! ## Ids -/

/-- `stable_hex_id` is injective in its kind and content. -/
def Digests.Injective (digests : Digests) : Prop :=
  ∀ kind content otherKind otherContent,
    stableHexId digests kind content = stableHexId digests otherKind otherContent →
      kind = otherKind ∧ content = otherContent

/-- Ids of the given kinds. -/
def OfKinds (digests : Digests) (kinds : List String) (ids : List String) : Prop :=
  ∀ id ∈ ids, ∃ kind ∈ kinds, ∃ content, id = stableHexId digests kind content

section

variable {digests : Digests} {kinds others ids more : List String}

lemma OfKinds.append (one : OfKinds digests kinds ids) (two : OfKinds digests others more) :
    OfKinds digests (kinds ++ others) (ids ++ more) := by
  intro id mem
  rcases mem_append.mp mem with left | right
  · obtain ⟨kind, listed, content, same⟩ := one id left
    exact ⟨kind, mem_append_left _ listed, content, same⟩
  · obtain ⟨kind, listed, content, same⟩ := two id right
    exact ⟨kind, mem_append_right _ listed, content, same⟩

lemma OfKinds.perm (one : OfKinds digests kinds ids) (same : ids.Perm more) :
    OfKinds digests kinds more :=
  fun id mem => one id (same.mem_iff.mpr mem)

/-- Ids of different kinds are different. -/
lemma nodup_append_kinds (injective : digests.Injective) (one : OfKinds digests kinds ids)
    (two : OfKinds digests others more) (apart : ∀ kind ∈ kinds, kind ∉ others) :
    (ids ++ more).Nodup ↔ ids.Nodup ∧ more.Nodup := by
  rw [nodup_append]
  constructor
  · exact fun all => ⟨all.1, all.2.1⟩
  · rintro ⟨left, right⟩
    refine ⟨left, right, ?_⟩
    rintro id mem _ other rfl
    obtain ⟨kind, listed, _, same⟩ := one id mem
    obtain ⟨_, otherListed, _, equal⟩ := two id other
    obtain ⟨rfl, -⟩ := injective _ _ _ _ (same.symm.trans equal)
    exact apart kind listed otherListed

lemma blockedId_injective : Function.Injective blockedId := by
  intro _ _ same
  rw [blockedId, blockedId] at same
  exact Str.zeroPadded_injective (by simpa using same)

lemma blockedId_ne {kind : String} (other : kind.toList.head? ≠ some 'b') (nonempty : kind ≠ "")
    (index : Nat) (content : IdContent) : blockedId index ≠ stableHexId digests kind content := by
  intro same
  have heads := congrArg (fun id : String => id.toList.head?) same
  have blocked : "blocked-schema-".toList = 'b' :: "locked-schema-".toList := by decide
  cases letters : kind.toList with
  | nil => exact nonempty (Str.eq_of_toList_eq letters)
  | cons =>
    rw [letters] at other
    simp only [blockedId, stableHexId, toList_append, blocked, letters, cons_append,
      head?_cons] at heads other
    exact other heads.symm

end

/-! ## What the rules propose -/

def idsOf (ops : List ProposedOperation) : List String := ops.map (·.operationId)

section

variable {digests : Digests} {root : String} {scan : ScanReport} {policy : EffectivePolicy}
  {inventory : DatasetInventory} {findings : List String} {schema : SchemaPolicy} {code : String}

/-- Three codes have a rule, one of them under a condition. -/
lemma ruleFor_isSome : (ruleFor digests root inventory policy code).isSome = true ↔
      (code = REPAIR_EXCESSIVE_SMALL_FILES ∧ mergeProposed root inventory policy = true) ∨
        code = REPAIR_INEFFICIENT_ROW_GROUPS ∨ code = REPAIR_INCONSISTENT_COMPRESSION := by
  have first : REPAIR_EXCESSIVE_SMALL_FILES ≠ REPAIR_INEFFICIENT_ROW_GROUPS := by decide
  have second : REPAIR_EXCESSIVE_SMALL_FILES ≠ REPAIR_INCONSISTENT_COMPRESSION := by decide
  rw [ruleFor]
  by_cases small : code = REPAIR_EXCESSIVE_SMALL_FILES
  · rw [if_pos small]
    split
    · rename_i proposed
      simp [small, proposed]
    · rename_i declined
      simp [small, declined, first, second]
  · rw [if_neg small]
    split
    · rename_i groups
      simp [groups]
    · rename_i groups
      split
      · rename_i codecs
        simp [codecs]
      · rename_i codecs
        simp [small, groups, codecs]

variable {op : ProposedOperation}

/-- An operation that a rule proposes has an id that holds the code. -/
lemma ruleFor_id (proposed : ruleFor digests root inventory policy code = some op) :
    ∃ kind ∈ ["merge", "rowgroups", "compress"], ∃ action,
      op.operationId = stableHexId digests kind (.finding code action) ∧ op.action = action := by
  rw [ruleFor] at proposed
  split at proposed
  · split at proposed
    · cases proposed
      exact ⟨"merge", by simp, _, rfl, rfl⟩
    · cases proposed
  · split at proposed
    · cases proposed
      exact ⟨"rowgroups", by simp, _, rfl, rfl⟩
    · split at proposed
      · cases proposed
        exact ⟨"compress", by simp, _, rfl, rfl⟩
      · cases proposed

lemma idsOf_filterMap {α : Type} {f : α → Option ProposedOperation} {items : List α} :
    idsOf (items.filterMap f) = items.filterMap fun item => (f item).map (·.operationId) := by
  rw [idsOf, map_filterMap]

lemma ruleIds_kinds : OfKinds digests ["merge", "rowgroups", "compress"]
    (idsOf (findings.filterMap (ruleFor digests root inventory policy))) := by
  intro _ mem
  obtain ⟨_, listed, rfl⟩ := mem_map.mp mem
  obtain ⟨_, -, proposed⟩ := mem_filterMap.mp listed
  obtain ⟨kind, known, _, same, -⟩ := ruleFor_id proposed
  exact ⟨kind, known, _, same⟩

lemma ruleIds_nodup (injective : digests.Injective) :
    (idsOf (findings.filterMap (ruleFor digests root inventory policy))).Nodup ↔
      (mergeProposed root inventory policy = true →
          findings.count REPAIR_EXCESSIVE_SMALL_FILES ≤ 1) ∧
        findings.count REPAIR_INEFFICIENT_ROW_GROUPS ≤ 1 ∧
        findings.count REPAIR_INCONSISTENT_COMPRESSION ≤ 1 := by
  rw [idsOf_filterMap, nodup_filterMap_iff]
  · simp only [isSome_map, ruleFor_isSome]
    constructor
    · intro once
      exact ⟨fun proposed => once _ (.inl ⟨rfl, proposed⟩), once _ (.inr (.inl rfl)),
        once _ (.inr (.inr rfl))⟩
    · rintro ⟨small, groups, codecs⟩ code (⟨rfl, proposed⟩ | rfl | rfl)
      · exact small proposed
      · exact groups
      · exact codecs
  · intro _ _ _ found otherFound
    obtain ⟨_, proposed, rfl⟩ := map_eq_some_iff.mp found
    obtain ⟨_, otherProposed, same⟩ := map_eq_some_iff.mp otherFound
    obtain ⟨_, -, _, made, -⟩ := ruleFor_id proposed
    obtain ⟨_, -, _, otherMade, -⟩ := ruleFor_id otherProposed
    rw [made, otherMade] at same
    exact (IdContent.finding.inj (injective _ _ _ _ same).2).1.symm

lemma statisticsOps_kinds :
    OfKinds digests ["stats"] (idsOf (statisticsOps digests root inventory)) := by
  intro _ mem
  rw [statisticsOps] at mem
  split at mem
  · cases mem
  · exact ⟨"stats", by simp, _, mem_singleton.mp mem⟩

lemma statisticsOps_nodup : (idsOf (statisticsOps digests root inventory)).Nodup := by
  rw [statisticsOps]
  split
  · exact nodup_nil
  · exact nodup_singleton _

lemma splitOps_ids : idsOf (splitOps digests root inventory policy) =
    ((oversizedFiles inventory policy).map fun file =>
      (relativize root file.path, file.sizeBytes)).map fun file =>
        stableHexId digests "split" (.file file.1 file.2) := by
  rw [idsOf, splitOps, List.map_map, List.map_map]
  rfl

lemma splitOps_kinds :
    OfKinds digests ["split"] (idsOf (splitOps digests root inventory policy)) := by
  intro _ mem
  rw [splitOps_ids] at mem
  obtain ⟨_, -, rfl⟩ := mem_map.mp mem
  exact ⟨"split", by simp, _, rfl⟩

lemma splitOps_nodup (injective : digests.Injective) :
    (idsOf (splitOps digests root inventory policy)).Nodup ↔
      ((oversizedFiles inventory policy).map fun file =>
        (relativize root file.path, file.sizeBytes)).Nodup := by
  rw [splitOps_ids, nodup_map_iff]
  intro _ _ same
  obtain ⟨paths, sizes⟩ := IdContent.file.inj (injective _ _ _ _ same).2
  exact Prod.ext paths sizes

lemma scanOps_ids : idsOf (scanOps digests root inventory policy scan) =
    replicate (scan.findings.count METADATA_ROW_GROUP_SUSPICIOUSLY_SMALL)
      (stableHexId digests "rowgroups-scan" (.finding METADATA_ROW_GROUP_SUSPICIOUSLY_SMALL
        (resizeAction root inventory policy))) := by
  rw [idsOf, scanOps, List.map_map, filter_eq, map_replicate]
  rfl

lemma scanOps_kinds :
    OfKinds digests ["rowgroups-scan"] (idsOf (scanOps digests root inventory policy scan)) := by
  intro _ mem
  rw [scanOps_ids] at mem
  exact ⟨"rowgroups-scan", by simp, _, eq_of_mem_replicate mem⟩

/-- Only the rule for inefficient row groups resizes. -/
lemma any_isResize : (findings.filterMap (ruleFor digests root inventory policy) ++
        statisticsOps digests root inventory ++ splitOps digests root inventory policy).any
        (·.isResize) = true ↔ REPAIR_INEFFICIENT_ROW_GROUPS ∈ findings := by
  have statistics : (statisticsOps digests root inventory).any (·.isResize) = false := by
    rw [statisticsOps]
    split <;> rfl
  have splits : (splitOps digests root inventory policy).any (·.isResize) = false := by
    rw [splitOps, List.any_map]
    exact any_eq_false.mpr fun _ _ => Bool.false_ne_true
  rw [any_append, any_append, statistics, splits, Bool.or_false, Bool.or_false, List.any_eq_true]
  constructor
  · rintro ⟨_, mem, resizes⟩
    obtain ⟨code, found, proposed⟩ := mem_filterMap.mp mem
    by_contra absent
    have other : code ≠ REPAIR_INEFFICIENT_ROW_GROUPS := by
      rintro rfl
      exact absent found
    rw [ruleFor, if_neg other] at proposed
    split at proposed <;>
    · rw [ite_none_right_eq_some] at proposed
      cases proposed.2
      cases resizes
  · intro found
    refine ⟨buildOp digests "rowgroups" REPAIR_INEFFICIENT_ROW_GROUPS .safe
      (resizeAction root inventory policy), mem_filterMap.mpr ⟨_, found, ?_⟩, rfl⟩
    rw [ruleFor, if_neg (by decide), if_pos rfl]

/-- What has to be different for the ids of the file rules to be distinct. -/
structure DistinctProposals (root : String) (scan : ScanReport) (policy : EffectivePolicy)
    (inventory : DatasetInventory) (findings : List String) : Prop where
  /-- At most one finding asks for the merge. -/
  merge : mergeProposed root inventory policy = true →
    findings.count REPAIR_EXCESSIVE_SMALL_FILES ≤ 1
  /-- At most one finding asks for new row groups. -/
  rowGroups : findings.count REPAIR_INEFFICIENT_ROW_GROUPS ≤ 1
  /-- At most one finding asks for another compression. -/
  compression : findings.count REPAIR_INCONSISTENT_COMPRESSION ≤ 1
  /-- Without one of them, the scan has at most one finding about tiny row groups. -/
  tinyRowGroups : REPAIR_INEFFICIENT_ROW_GROUPS ∉ findings →
    scan.findings.count METADATA_ROW_GROUP_SUSPICIOUSLY_SMALL ≤ 1
  /-- No two files that are too large have the same relative path and size. -/
  oversized : ((oversizedFiles inventory policy).map fun file =>
    (relativize root file.path, file.sizeBytes)).Nodup

lemma idsOf_applyRepairRules :
    (idsOf (applyRepairRules digests root inventory policy scan findings)).Perm
      (idsOf (findings.filterMap (ruleFor digests root inventory policy)) ++
        idsOf (statisticsOps digests root inventory) ++
        idsOf (splitOps digests root inventory policy) ++
        if REPAIR_INEFFICIENT_ROW_GROUPS ∈ findings then []
        else idsOf (scanOps digests root inventory policy scan)) := by
  rw [applyRepairRules]
  refine ((perm_insertionSort _ _).map _).trans (.of_eq ?_)
  by_cases found : REPAIR_INEFFICIENT_ROW_GROUPS ∈ findings
  · rw [if_pos (any_isResize.mpr found), if_pos found]
    simp [idsOf]
  · rw [if_neg (mt any_isResize.mp found), if_neg found]
    simp [idsOf]

lemma tinyIds_kinds : OfKinds digests ["rowgroups-scan"]
    (if REPAIR_INEFFICIENT_ROW_GROUPS ∈ findings then []
      else idsOf (scanOps digests root inventory policy scan)) := by
  split
  · exact fun _ mem => nomatch mem
  · exact scanOps_kinds

lemma applyRepairRules_kinds : OfKinds digests
    ["merge", "rowgroups", "compress", "stats", "split", "rowgroups-scan"]
    (idsOf (applyRepairRules digests root inventory policy scan findings)) :=
  (((ruleIds_kinds.append statisticsOps_kinds).append splitOps_kinds).append tinyIds_kinds).perm
    idsOf_applyRepairRules.symm

lemma applyRepairRules_nodup (injective : digests.Injective) :
    (idsOf (applyRepairRules digests root inventory policy scan findings)).Nodup ↔
      DistinctProposals root scan policy inventory findings := by
  have once : (if REPAIR_INEFFICIENT_ROW_GROUPS ∈ findings then []
        else idsOf (scanOps digests root inventory policy scan)).Nodup ↔
      (REPAIR_INEFFICIENT_ROW_GROUPS ∉ findings →
        scan.findings.count METADATA_ROW_GROUP_SUSPICIOUSLY_SMALL ≤ 1) := by
    by_cases found : REPAIR_INEFFICIENT_ROW_GROUPS ∈ findings
    · simp [found]
    · simp [found, scanOps_ids]
  rw [idsOf_applyRepairRules.nodup_iff,
    nodup_append_kinds injective ((ruleIds_kinds.append statisticsOps_kinds).append splitOps_kinds)
      tinyIds_kinds (by decide),
    nodup_append_kinds injective (ruleIds_kinds.append statisticsOps_kinds) splitOps_kinds
      (by decide),
    nodup_append_kinds injective ruleIds_kinds statisticsOps_kinds (by decide),
    ruleIds_nodup injective, splitOps_nodup injective, once]
  constructor
  · rintro ⟨⟨⟨⟨merge, rowGroups, compression⟩, -⟩, oversized⟩, tinyRowGroups⟩
    exact ⟨merge, rowGroups, compression, tinyRowGroups, oversized⟩
  · rintro ⟨merge, rowGroups, compression, tinyRowGroups, oversized⟩
    exact ⟨⟨⟨⟨merge, rowGroups, compression⟩, statisticsOps_nodup⟩, oversized⟩, tinyRowGroups⟩

lemma applyRenameRules_kinds :
    OfKinds digests ["schema-rename"] (idsOf (applyRenameRules digests inventory schema)) := by
  intro _ mem
  obtain ⟨_, listed, rfl⟩ := mem_map.mp mem
  obtain ⟨_, -, proposed⟩ := mem_filterMap.mp listed
  rw [renameOp, ite_none_left_eq_some, ite_none_left_eq_some] at proposed
  exact ⟨"schema-rename", by simp, _, congrArg _ (Option.some.inj proposed.2.2).symm⟩

/-- The keys of the rename map are distinct. -/
lemma applyRenameRules_nodup (injective : digests.Injective) :
    (idsOf (applyRenameRules digests inventory schema)).Nodup := by
  rw [applyRenameRules, idsOf_filterMap]
  refine @nodup_filterMap_of_key _ _ _ _ _ Prod.fst ?_ ?_
  · rw [Std.TreeMap.map_fst_toList_eq_keys]
    exact schema.rename.nodup_keys
  · intro _ _ _ made otherMade
    obtain ⟨_, proposed, rfl⟩ := map_eq_some_iff.mp made
    obtain ⟨_, otherProposed, same⟩ := map_eq_some_iff.mp otherMade
    rw [renameOp, ite_none_left_eq_some, ite_none_left_eq_some] at proposed
    rw [renameOp, ite_none_left_eq_some, ite_none_left_eq_some] at otherProposed
    cases proposed.2.2
    cases otherProposed.2.2
    exact (IdContent.rename.inj (injective _ _ _ _ same).2).1.symm

variable {canonical : List FieldDescriptor}

/-- An operation for a difference has an id that holds the path. -/
lemma schemaOp_id {difference : FieldDifference}
    (proposed : schemaOp digests schema canonical difference = some op) :
    ∃ kind ∈ ["schema-widen", "schema-cond"], ∃ action,
      op.operationId = stableHexId digests kind (.field difference.path action) := by
  rw [schemaOp, ite_none_left_eq_some] at proposed
  obtain ⟨kind, isKind, rest⟩ := bind_eq_some_iff.mp proposed.2
  obtain ⟨_, -, rest⟩ := bind_eq_some_iff.mp rest
  obtain ⟨action, -, made⟩ := bind_eq_some_iff.mp rest
  cases made
  refine ⟨kind, ?_, action, rfl⟩
  cases compatible : difference.compatibility <;> rw [compatible] at isKind <;> cases isKind <;> simp

variable {diff : SchemaDiff}

lemma applySchemaRules_kinds : OfKinds digests ["schema-widen", "schema-cond"]
      (idsOf (applySchemaRules digests schema diff canonical)) := by
  intro _ mem
  obtain ⟨_, listed, rfl⟩ := mem_map.mp mem
  obtain ⟨_, -, proposed⟩ := mem_filterMap.mp listed
  obtain ⟨kind, known, _, same⟩ := schemaOp_id proposed
  exact ⟨kind, known, _, same⟩

lemma applySchemaRules_nodup (injective : digests.Injective)
    (distinct : (diff.fields.map (·.path)).Nodup) :
    (idsOf (applySchemaRules digests schema diff canonical)).Nodup := by
  rw [applySchemaRules, idsOf_filterMap]
  refine nodup_filterMap_of_key distinct ?_
  intro _ _ _ made otherMade
  obtain ⟨_, proposed, rfl⟩ := map_eq_some_iff.mp made
  obtain ⟨_, otherProposed, same⟩ := map_eq_some_iff.mp otherMade
  obtain ⟨_, -, _, isId⟩ := schemaOp_id proposed
  obtain ⟨_, -, _, otherId⟩ := schemaOp_id otherProposed
  rw [isId, otherId] at same
  exact (IdContent.field.inj (injective _ _ _ _ same).2).1.symm

lemma idsOf_blocked {conflicts : List UnresolvableSchemaConflict} :
    idsOf (applySchemaRulesBlocked conflicts) = (range conflicts.length).map blockedId := by
  apply ext_getElem
  · simp [idsOf, applySchemaRulesBlocked]
  · intro _ _ _
    simp [idsOf, applySchemaRulesBlocked]

/-- Only the file rules can give two operations the same id. -/
lemma proposedOperations_nodup (injective : digests.Injective) {resolution : SchemaResolution}
    (distinct : (resolution.diff.fields.map (·.path)).Nodup) :
    (idsOf (proposedOperations digests root scan policy inventory findings resolution)).Nodup ↔
      DistinctProposals root scan policy inventory findings := by
  have kinds := (@applyRepairRules_kinds digests root scan policy inventory findings).append
    (@applyRenameRules_kinds digests inventory policy.schema)
  have allKinds := kinds.append (@applySchemaRules_kinds digests policy.schema
    (resolution.targetSchema.getD resolution.diff.canonicalSchema) resolution.diff)
  have apart : ∀ id ∈ idsOf (applyRepairRules digests root inventory policy scan findings) ++
      idsOf (applyRenameRules digests inventory policy.schema) ++
      idsOf (applySchemaRules digests policy.schema resolution.diff
        (resolution.targetSchema.getD resolution.diff.canonicalSchema)),
      ∀ other ∈ (range resolution.conflicts.length).map blockedId, id ≠ other := by
    rintro _ mem _ blocked rfl
    obtain ⟨index, -, rfl⟩ := mem_map.mp blocked
    obtain ⟨kind, known, content, same⟩ := allKinds _ mem
    have letters : ∀ kind ∈ ["merge", "rowgroups", "compress", "stats", "split", "rowgroups-scan"] ++
        ["schema-rename"] ++ ["schema-widen", "schema-cond"],
        kind.toList.head? ≠ some 'b' ∧ kind ≠ "" := by decide
    exact blockedId_ne (letters kind known).1 (letters kind known).2 index content same
  rw [proposedOperations]
  rw [show ∀ a b c d : List ProposedOperation, idsOf (a ++ b ++ c ++ d) =
      idsOf a ++ idsOf b ++ idsOf c ++ idsOf d by simp [idsOf], idsOf_blocked, nodup_append,
    nodup_append_kinds injective kinds applySchemaRules_kinds (by decide),
    nodup_append_kinds injective applyRepairRules_kinds applyRenameRules_kinds (by decide),
    applyRepairRules_nodup injective]
  constructor
  · exact fun all => all.1.1.1
  · exact fun proposals => ⟨⟨⟨proposals, applyRenameRules_nodup injective⟩,
      applySchemaRules_nodup injective distinct⟩,
      nodup_range.map blockedId_injective, apart⟩

end

/-! ## Plans -/

variable {root : String} {scan : ScanReport} {policy : EffectivePolicy}

lemma DistinctProposals.perm {inventory : DatasetInventory} {findings others : List String}
    (same : findings.Perm others) (proposals : DistinctProposals root scan policy inventory findings) :
    DistinctProposals root scan policy inventory others where
  merge := fun proposed => same.count_eq _ ▸ proposals.merge proposed
  rowGroups := same.count_eq _ ▸ proposals.rowGroups
  compression := same.count_eq _ ▸ proposals.compression
  tinyRowGroups := fun absent => proposals.tinyRowGroups (mt same.mem_iff.mp absent)
  oversized := proposals.oversized

variable {File Schema Batch : Type} {tools : Toolkit File Schema Batch} {truncated : File}
  {disk after : Disk File} {digests : Digests}

/-- The ids of a generated plan are distinct exactly if no two file rules propose the same action
for the same reason. -/
lemma distinctIds_iff (injective : digests.Injective) {target : Option (List FieldDescriptor)}
    {plan : RepairPlan}
    (generated : Returns (Disk.service truncated)
      (generatePlan digests root scan policy tools target) disk plan after) :
    (plan.operations.map (·.operationId)).Nodup ↔
      DistinctProposals root scan policy (inventoryOf tools disk root scan)
        (foundCodes scan policy.repair (inventoryOf tools disk root scan)) := by
  obtain ⟨⟨findings, found, rfl⟩, -⟩ := generatePlan_returns generated
  have ids := assignDependencies_ids ((proposedOperations digests root scan policy
    (inventoryOf tools disk root scan) findings (resolveCanonicalSchema digests.toUppercase
      policy.schema (viewsFromInventory (inventoryOf tools disk root scan)) target)).map
        fun op => ⟨op.operationId, op.safety, op.action, []⟩)
  rw [List.map_map] at ids
  have paths := computeSchemaDiff_paths digests.toUppercase policy.schema
    (viewsFromInventory (inventoryOf tools disk root scan))
  have nodup := ids.nodup_iff.trans (proposedOperations_nodup injective paths)
  exact nodup.trans ⟨.perm found, .perm found.symm⟩

/-- A generated plan has distinct ids and can be sorted exactly if no two file rules propose the
same action for the same reason. -/
theorem sortable_iff {digests : Digests} (injective : digests.Injective) {root : String}
    {scan : ScanReport} {policy : EffectivePolicy} {target : Option (List FieldDescriptor)}
    {plan : RepairPlan}
    (generated : Returns (Disk.service truncated)
      (generatePlan digests root scan policy tools target) disk plan after) :
    ((plan.operations.map (·.operationId)).Nodup ∧
        ∃ sorted, sortByDependencies plan.operations = .ok sorted) ↔
      DistinctProposals root scan policy (inventoryOf tools disk root scan)
        (foundCodes scan policy.repair (inventoryOf tools disk root scan)) := by
  have distinct := distinctIds_iff injective generated
  obtain ⟨⟨_, _, rfl⟩, -⟩ := generatePlan_returns generated
  constructor
  · exact fun sortable => distinct.mp sortable.1
  · intro proposals
    have distinctIds := distinct.mpr proposals
    exact ⟨distinctIds, sortByDependencies_ok distinctIds (assignDependencies_layered _)⟩

/-! ## Digests without collisions -/

instance countableChar : Countable Char :=
  Function.Injective.countable (f := Char.toNat) fun _ _ same => Char.toNat_inj.mp same

instance countableString : Countable String :=
  Function.Injective.countable (f := String.toList) fun _ _ same => toList_inj.mp same

deriving instance Countable for RepairSafety
deriving instance Countable for RepairAction
deriving instance Countable for FieldDescriptor
deriving instance Countable for IdContent

/-- A digest of digits can be read off an id, since no digit is a dash. -/
lemma takeWhile_stableHexId {kind : String} {content : IdContent}
    {number : Nat} (digits : digests.idDigest kind content = Str.zeroPadded 0 number) :
    (stableHexId digests kind content).toList.reverse.takeWhile (· != '-') =
      (Str.zeroPadded 0 number).toList.reverse := by
  have dash : "-".toList = ['-'] := by decide
  rw [stableHexId, digits]
  simp only [toList_append, dash, reverse_append, reverse_singleton, singleton_append]
  rw [takeWhile_append_of_pos, takeWhile_cons_of_neg (by decide), append_nil]
  intro _ mem
  have digit := Str.isDigit_of_mem_zeroPadded (mem_reverse.mp mem)
  rw [bne_iff_ne]
  rintro rfl
  exact absurd digit (by decide)

/-- There are digests without collisions. -/
lemma exists_injective : ∃ digests : Digests, digests.Injective := by
  obtain ⟨number, injective⟩ := Countable.exists_injective_nat (String × IdContent)
  refine ⟨⟨fun kind content => Str.zeroPadded 0 (number (kind, content)), fun _ => "", id⟩, ?_⟩
  intro _ _ _ _ same
  have digits := congrArg (fun id : String => id.toList.reverse.takeWhile (· != '-')) same
  rw [takeWhile_stableHexId rfl, takeWhile_stableHexId rfl, reverse_inj, toList_inj] at digits
  exact Prod.mk.inj (injective (Str.zeroPadded_injective digits))

namespace Reference

def plainTools : Toolkit (List Nat) Unit Nat := .ofRows id id

/-- A directory with two files. -/
def twoFiles : Disk (List Nat) where
  files := [⟨["/", "d", "a"], [1, 2]⟩, ⟨["/", "d", "b"], [3]⟩].toAList
  dirs := [["/", "d"]]

def twoAssets (findings : List String) : ScanReport :=
  ⟨[⟨"/d/a", .parquet, 2, none⟩, ⟨"/d/b", .parquet, 1, none⟩], findings⟩

lemma generates (digests : Digests) (findings : List String) :
    ∃ plan, Returns (Disk.service []) (generatePlan digests "/d" (twoAssets findings)
      .standard plainTools none) twoFiles plan twoFiles := by
  have inspects : ∃ files after, Returns (Disk.service []) (inspectAssets plainTools
      (parquetAssets (twoAssets []))) twoFiles files after ∧ true = true :=
    Fallible.exists_returns_of_eval (by decide +kernel)
  obtain ⟨_, _, inspected, -⟩ := inspects
  exact exists_plan inspected

theorem single_finding_sortable : ∃ digests plan, Returns (Disk.service [])
      (generatePlan digests "/d" (twoAssets [METADATA_ROW_GROUP_SUSPICIOUSLY_SMALL]) .standard
        plainTools none) twoFiles plan twoFiles ∧
    (plan.operations.map (·.operationId)).Nodup ∧
      ∃ sorted, sortByDependencies plan.operations = .ok sorted := by
  obtain ⟨digests, injective⟩ := exists_injective
  obtain ⟨plan, generated⟩ := generates digests [METADATA_ROW_GROUP_SUSPICIOUSLY_SMALL]
  refine ⟨digests, plan, generated, (sortable_iff injective generated).mpr ?_⟩
  exact ⟨by decide +kernel, by decide +kernel, by decide +kernel, by decide +kernel,
    by decide +kernel⟩

/-- Two files with tiny row groups, and a scan that reports each of them. -/
theorem two_findings_unsortable : ∃ digests : Digests, digests.Injective ∧ ∃ plan,
    Returns (Disk.service []) (generatePlan digests "/d"
      (twoAssets [METADATA_ROW_GROUP_SUSPICIOUSLY_SMALL, METADATA_ROW_GROUP_SUSPICIOUSLY_SMALL])
      .standard plainTools none) twoFiles plan twoFiles ∧
    ¬ (plan.operations.map (·.operationId)).Nodup := by
  obtain ⟨digests, injective⟩ := exists_injective
  obtain ⟨plan, generated⟩ := generates digests
    [METADATA_ROW_GROUP_SUSPICIOUSLY_SMALL, METADATA_ROW_GROUP_SUSPICIOUSLY_SMALL]
  refine ⟨digests, injective, plan, generated, fun distinct => ?_⟩
  have proposals := (distinctIds_iff injective generated).mp distinct
  exact absurd (proposals.tinyRowGroups (by decide +kernel)) (by decide +kernel)

end Reference

end Parqonaut.Repair
