import Parqonaut.Repair.SortablePlans
import Parqonaut.Rust.SortedBy

/-!
# The sorted order is canonical

`sort_by_dependencies` always takes the least operation whose dependencies are all taken. There is
one such order of a set of operations, and `assign_dependencies` leaves it behind.
-/

namespace Parqonaut.Repair

open List

variable {ops order left right : List RepairOperation} {op : RepairOperation}

/-- Every operation comes after its dependencies, and is the least of those that could come next. -/
def TakesLeast (order : List RepairOperation) : Prop :=
  ∀ before op after, order = before ++ op :: after → op.dependsOn ⊆ before.map (·.operationId) ∧
      ∀ other ∈ after, other.dependsOn ⊆ before.map (·.operationId) →
        op.operationId ≤ other.operationId

lemma TakesLeast.dependenciesFirst (least : TakesLeast order) : DependenciesFirst order :=
  fun before op after split _ named => (least before op after split).1 named

/-- Two orders of the same operations take the same operation after a common start. -/
lemma TakesLeast.unique {start : List RepairOperation} (isLeft : TakesLeast (start ++ left))
    (isRight : TakesLeast (start ++ right)) (same : left.Perm right)
    (distinct : (left.map (·.operationId)).Nodup) : left = right := by
  induction left generalizing start right with
  | nil => exact same.nil_eq
  | cons first rest ih =>
    cases right with
    | nil => exact absurd same.symm.nil_eq (cons_ne_nil _ _).symm
    | cons other others =>
      obtain ⟨firstFree, firstLeast⟩ := isLeft start first rest rfl
      obtain ⟨otherFree, otherLeast⟩ := isRight start other others rfl
      have equal : first = other := by
        by_contra differ
        have isRest : other ∈ rest := by
          have mem := same.symm.subset mem_cons_self
          exact (mem_cons.mp mem).resolve_left (Ne.symm differ)
        have isOthers : first ∈ others := by
          have mem := same.subset mem_cons_self
          exact (mem_cons.mp mem).resolve_left differ
        have ids : first.operationId = other.operationId :=
          le_antisymm (firstLeast other isRest otherFree) (otherLeast first isOthers firstFree)
        exact differ (inj_on_of_nodup_map distinct mem_cons_self (mem_cons_of_mem _ isRest) ids)
      subst equal
      rw [@ih others (start ++ [first]) (by simpa using isLeft) (by simpa using isRight)
        same.cons_inv (nodup_cons.mp distinct).2]

/-! ## What the loop takes -/

lemma sortLoop_least {rounds : Nat} {taken ready : List String} {indegree : String → Nat}
    (distinctIds : (ops.map (·.operationId)).Nodup)
    (invariant : SortInvariant ops taken indegree ready)
    (complete : SortComplete ops taken indegree ready) (sorted : ready.Pairwise (· ≤ ·)) :
    ∀ before op after, sortLoop ops rounds indegree ready = before ++ op :: after →
      ∀ other ∈ after, other.dependsOn ⊆ taken ++ before.map (·.operationId) →
        op.operationId ≤ other.operationId := by
  induction rounds generalizing taken indegree ready with
  | zero => simp [sortLoop]
  | succ rounds ih =>
    cases ready with
    | nil => simp [sortLoop]
    | cons id ready =>
      obtain ⟨first, mem, rfl⟩ := mem_map.mp (invariant.known id mem_cons_self)
      obtain ⟨_, _, folded, next, stays⟩ := invariant.step distinctIds
      rw [sortLoop, folded, operationById_eq distinctIds mem]
      intro before op after equal other later free
      cases before with
      | nil =>
        obtain ⟨rfl, rfl⟩ := List.cons.inj equal
        have isOp : other ∈ ops := mem_sortLoop later
        have closed : indegree other.operationId = 0 := by
          rw [map_nil, append_nil] at free
          rw [invariant.counts other isOp, countP_eq_zero]
          exact fun dep named => by simpa using free named
        -- it is taken later, so it can only be ready now
        have untaken : other.operationId ∉ taken ++ [first.operationId] := by
          have apart := (nodup_append.mp
            (@sortLoop_order _ _ _ _ rounds distinctIds next.sorted).1).2.2
          exact fun present => apart _ present _ (mem_map_of_mem later) rfl
        have waiting : other.operationId ∈ ready := by
          simp only [mem_append, mem_singleton, not_or] at untaken
          simpa [untaken] using complete other isOp closed
        exact (pairwise_cons.mp sorted).1 _ waiting
      | cons _ before =>
        obtain ⟨rfl, rest⟩ := List.cons.inj equal
        exact ih next.sorted (stays complete).sorted
          (pairwise_insertionSort (· ≤ ·) _) before op after rest other later
          (by simpa using free)

/-- The sort takes the least operation each time. -/
lemma sortByDependencies_least (distinctIds : (ops.map (·.operationId)).Nodup)
    (sorts : sortByDependencies ops = .ok order) : TakesLeast order := by
  have first := (sortByDependencies_order distinctIds sorts).2
  rw [sortByDependencies] at sorts
  split at sorts
  · cases sorts
  · dsimp only at sorts
    split at sorts
    · cases sorts
    · cases sorts
      intro before op after split
      refine ⟨fun dep named => first before op after split dep named, ?_⟩
      have ordered : (sortedIds (ops.map (·.operationId))).Pairwise (· ≤ ·) :=
        (pairwise_insertionSort (· ≤ ·) _).sublist (dedup_sublist _)
      exact sortLoop_least distinctIds (sortInvariant_start distinctIds rfl) sortComplete_start
        (ordered.filter _) before op after split

/-! ## Cycles -/

/-- The operation `id` names the operation `dep` as a dependency. -/
def DependsOn (ops : List RepairOperation) (id dep : String) : Prop :=
  ∃ op ∈ ops, op.operationId = id ∧ dep ∈ op.dependsOn

def Cyclic (ops : List RepairOperation) : Prop :=
  ∃ id, Relation.TransGen (DependsOn ops) id id

/-- Dependencies stand earlier in the list. -/
lemma DependenciesFirst.idxOf_lt (first : DependenciesFirst order)
    (distinct : (order.map (·.operationId)).Nodup) {id dep : String}
    (depends : DependsOn order id dep) :
    (order.map (·.operationId)).idxOf dep < (order.map (·.operationId)).idxOf id := by
  obtain ⟨op, mem, rfl, named⟩ := depends
  obtain ⟨before, after, rfl⟩ := append_of_mem mem
  have earlier := first before op after rfl dep named
  rw [map_append, map_cons] at distinct ⊢
  have fresh : op.operationId ∉ before.map (·.operationId) := fun present =>
    (nodup_append.mp distinct).2.2 _ present _ mem_cons_self rfl
  rw [idxOf_append_of_mem earlier, idxOf_append_of_notMem fresh]
  exact (idxOf_lt_length_of_mem earlier).trans_le (Nat.le_add_right _ _)

lemma DependenciesFirst.layered (first : DependenciesFirst order)
    (distinct : (order.map (·.operationId)).Nodup) (same : order.Perm ops) :
    Layered (fun op => (order.map (·.operationId)).idxOf op.operationId) ops := by
  intro op mem dep named
  have isOrdered := same.mem_iff.mpr mem
  obtain ⟨before, after, rfl⟩ := append_of_mem isOrdered
  obtain ⟨other, earlier, rfl⟩ := mem_map.mp (first before op after rfl dep named)
  exact ⟨other, same.subset (mem_append_left _ earlier), rfl,
    first.idxOf_lt distinct ⟨op, isOrdered, rfl, named⟩⟩

lemma DependenciesFirst.not_cyclic (first : DependenciesFirst order)
    (distinct : (order.map (·.operationId)).Nodup) : ¬ Cyclic order := by
  rintro ⟨id, cycle⟩
  have lower : ∀ {id dep : String}, Relation.TransGen (DependsOn order) id dep →
      (order.map (·.operationId)).idxOf dep < (order.map (·.operationId)).idxOf id := by
    intro _ _ path
    induction path with
    | single depends => exact first.idxOf_lt distinct depends
    | tail _ depends ih => exact (first.idxOf_lt distinct depends).trans ih
  exact Nat.lt_irrefl _ (lower cycle)

open Classical in
/-- Without a cycle, an operation has fewer dependencies below it than its dependents. -/
lemma exists_layered (closed : ∀ op ∈ ops, op.dependsOn ⊆ ops.map (·.operationId))
    (acyclic : ¬ Cyclic ops) : ∃ rank, Layered rank ops := by
  let below (id : String) : Finset String :=
    (ops.map (·.operationId)).toFinset.filter (Relation.TransGen (DependsOn ops) id)
  refine ⟨fun op => (below op.operationId).card, fun op mem dep named => ?_⟩
  obtain ⟨other, isOp, rfl⟩ := mem_map.mp (closed op mem named)
  have depends : DependsOn ops op.operationId other.operationId := ⟨op, mem, rfl, named⟩
  refine ⟨other, isOp, rfl, Finset.card_lt_card (Finset.ssubset_iff_subset_ne.mpr ⟨?_, ?_⟩)⟩
  · intro _ inside
    simp only [below, Finset.mem_filter] at inside ⊢
    exact ⟨inside.1, .trans (.single depends) inside.2⟩
  · intro equal
    have inside : other.operationId ∈ below op.operationId := by
      simpa [below] using ⟨⟨other, isOp, rfl⟩, Relation.TransGen.single depends⟩
    rw [← equal] at inside
    exact acyclic ⟨_, (Finset.mem_filter.mp inside).2⟩

/-! ## Sorted order -/

lemma sortByDependencies_eq_ok (distinctIds : (ops.map (·.operationId)).Nodup) :
    sortByDependencies ops = .ok order ↔ order.Perm ops ∧ TakesLeast order := by
  constructor
  · intro sorts
    exact ⟨(sortByDependencies_order distinctIds sorts).1,
      sortByDependencies_least distinctIds sorts⟩
  · rintro ⟨same, least⟩
    have distinct := (same.map (·.operationId)).nodup_iff.mpr distinctIds
    obtain ⟨sorted, sorts⟩ :=
      sortByDependencies_ok distinctIds (least.dependenciesFirst.layered distinct same)
    have permutes := (sortByDependencies_order distinctIds sorts).1
    rw [sorts, @TakesLeast.unique order sorted [] least
      (sortByDependencies_least distinctIds sorts) (same.trans permutes.symm) distinct]

/-- The sort fails exactly for unknown dependencies and cycles; otherwise it lists the operations
after their dependencies, independently of how they were listed. -/
theorem sortByDependencies_sorts (distinctIds : (ops.map (·.operationId)).Nodup) :
    ((∃ error, sortByDependencies ops = .error error) ↔
      (∃ op ∈ ops, ∃ dep ∈ op.dependsOn, dep ∉ ops.map (·.operationId)) ∨ Cyclic ops) ∧
    ∀ sorted, sortByDependencies ops = .ok sorted → sorted.Perm ops ∧ DependenciesFirst sorted ∧
      ∀ other : List RepairOperation, other.Perm ops → sortByDependencies other = .ok sorted := by
  refine ⟨⟨?_, ?_⟩, ?_⟩
  · rintro ⟨error, fails⟩
    by_contra sound
    obtain ⟨known, acyclic⟩ := not_or.mp sound
    have closed : ∀ op ∈ ops, op.dependsOn ⊆ ops.map (·.operationId) := by
      intro op mem dep named
      by_contra unknown
      exact known ⟨op, mem, dep, named, unknown⟩
    obtain ⟨_, layered⟩ := exists_layered closed acyclic
    obtain ⟨sorted, sorts⟩ := sortByDependencies_ok distinctIds layered
    rw [sorts] at fails
    cases fails
  · intro broken
    cases sorts : sortByDependencies ops with
    | error error => exact ⟨error, rfl⟩
    | ok =>
      obtain ⟨same, first⟩ := sortByDependencies_order distinctIds sorts
      have distinct := (same.map (·.operationId)).nodup_iff.mpr distinctIds
      rcases broken with ⟨op, mem, dep, named, unknown⟩ | ⟨id, cycle⟩
      · obtain ⟨other, isOp, rfl, -⟩ := first.layered distinct same op mem dep named
        exact absurd (mem_map_of_mem isOp) unknown
      · refine absurd ⟨id, Relation.TransGen.mono ?_ id id cycle⟩ (first.not_cyclic distinct)
        exact fun _ _ ⟨op, mem, depends⟩ => ⟨op, same.mem_iff.mpr mem, depends⟩
  · intro _ sorts
    obtain ⟨same, first⟩ := sortByDependencies_order distinctIds sorts
    refine ⟨same, first, fun other permuted => ?_⟩
    refine (sortByDependencies_eq_ok ((permuted.map _).nodup_iff.mpr distinctIds)).mpr ?_
    exact ⟨same.trans permuted.symm, sortByDependencies_least distinctIds sorts⟩

/-- An operation on no files. -/
def rebuilding (id : String) (dependsOn : List String) : RepairOperation :=
  ⟨id, .safe, .rebuildStatistics [], dependsOn⟩

theorem listed_backwards_sorts : sortByDependencies [rebuilding "a" ["b"], rebuilding "b" []] =
      .ok [rebuilding "b" [], rebuilding "a" ["b"]] :=
  ((@sortByDependencies_sorts [rebuilding "b" [], rebuilding "a" ["b"]] (by decide)).2 _
    (by decide +kernel)).2.2 _ (.swap ..)

/-! ## Assigned dependencies -/

instance : Std.Total runsBefore where
  total a b := by
    unfold runsBefore
    have ids := le_total a.operationId b.operationId
    have orders := Nat.lt_trichotomy (actionOrder a.action) (actionOrder b.action)
    grind

instance : IsTrans RepairOperation runsBefore where
  trans a b c first second := by
    unfold runsBefore at *
    rcases first with lower | ⟨equal, ids⟩ <;> rcases second with lower' | ⟨equal', ids'⟩
    · exact .inl (lower.trans lower')
    · exact .inl (equal' ▸ lower)
    · exact .inl (equal ▸ lower')
    · exact .inr ⟨equal.trans equal', ids.trans ids'⟩

/-- An operation depends on those of earlier phases before it. -/
lemma dependsOn_dependOnEarlier {previous rest before after : List RepairOperation}
    (split : dependOnEarlier previous rest = before ++ op :: after) :
    op.dependsOn = ((previous ++ before).filter fun prev =>
      actionOrder prev.action < actionOrder op.action).map (·.operationId) := by
  induction rest generalizing previous before with
  | nil => simp [dependOnEarlier] at split
  | cons _ _ ih =>
    rw [dependOnEarlier] at split
    cases before with
    | nil =>
      obtain ⟨rfl, -⟩ := List.cons.inj split
      simp
    | cons =>
      obtain ⟨rfl, later⟩ := List.cons.inj split
      rw [ih later]
      simp [filter_append, filter_cons]
      split <;> simp_all

lemma assignDependencies_pairwise (ops : List RepairOperation) :
    (assignDependencies ops).Pairwise runsBefore := by
  -- only ids and actions are compared, and those are kept
  have sorted : ((ops.insertionSort runsBefore).map fun op => (op.operationId, op.action)).Pairwise
      fun p q => actionOrder p.2 < actionOrder q.2 ∨
        actionOrder p.2 = actionOrder q.2 ∧ p.1 ≤ q.1 :=
    pairwise_map.mpr (pairwise_insertionSort runsBefore ops)
  rw [← @map_dependOnEarlier []] at sorted
  have compared := pairwise_map.mp sorted
  exact compared

/-- The order that `assign_dependencies` leaves behind, by phase and then by id, is the one in
which the operations are executed. -/
theorem sortByDependencies_assignDependencies (distinctIds : (ops.map (·.operationId)).Nodup) :
    (assignDependencies ops).Pairwise runsBefore ∧
      sortByDependencies (assignDependencies ops) = .ok (assignDependencies ops) := by
  have sorted := assignDependencies_pairwise ops
  have distinct := (assignDependencies_ids ops).nodup_iff.mpr distinctIds
  refine ⟨sorted, (sortByDependencies_eq_ok distinct).mpr ⟨.refl _, ?_⟩⟩
  intro before op _ split
  refine ⟨?_, fun other later free => ?_⟩
  · rw [dependsOn_dependOnEarlier split, nil_append]
    exact map_subset _ (filter_subset_self _)
  · rw [split] at sorted distinct
    have runs : runsBefore op other :=
      (pairwise_cons.mp (pairwise_append.mp sorted).2.1).1 other later
    rcases runs with lower | ⟨-, ids⟩
    · -- then the later operation depends on the earlier one
      obtain ⟨mid, rest, rfl⟩ := append_of_mem later
      have named := dependsOn_dependOnEarlier (split.trans
        (append_assoc before (op :: mid) (other :: rest)).symm)
      have present : op.operationId ∈ before.map (·.operationId) := by
        refine free (named ▸ mem_map_of_mem (mem_filter.mpr ⟨?_, ?_⟩))
        · simp
        · simpa using lower
      rw [map_append] at distinct
      exact absurd rfl ((nodup_append.mp distinct).2.2 _ present _ mem_cons_self)
    · exact ids

theorem assigned_pair_sorts : sortByDependencies (assignDependencies
        [⟨"a", .safe, .mergeSmallFiles 1 [], []⟩, rebuilding "b" []]) =
      .ok [rebuilding "b" [], ⟨"a", .safe, .mergeSmallFiles 1 [], ["b"]⟩] :=
  (sortByDependencies_assignDependencies (by decide)).2.trans (by decide +kernel)

/-!
# What a fingerprint detects

The entries of a fingerprint are sorted by relative path, so a set of entries with distinct
paths has one digest, and two fingerprints match exactly when their entries are the same.
-/

open Rust

variable {File Schema Batch : Type}

/-- What a fingerprint records of a file. -/
def fingerprintEntry (root : String) (file : ParquetFileMeta) : FingerprintEntry where
  relativePath := relativize root file.path
  sizeBytes := file.sizeBytes
  numRows := file.numRows
  numRowGroups := file.numRowGroups
  schemaSignature := file.schemaSignature
  compressionCodecs := file.compressionCodecs

def DatasetInventory.entries (inventory : DatasetInventory) (root : String) :
    List FingerprintEntry :=
  inventory.parquetFiles.map (fingerprintEntry root)

variable {tools : Toolkit File Schema Batch} {root otherRoot : String}
  {inventory other : DatasetInventory}

/-- Entries with distinct paths are sorted strictly. -/
lemma sorted_entries (distinct : ((inventory.entries root).map (·.relativePath)).Nodup) :
    (computeDatasetFingerprint tools root inventory).entries.Pairwise
      fun a b => a.relativePath < b.relativePath := by
  let before := fun a b : FingerprintEntry => a.relativePath ≤ b.relativePath
  have total : Std.Total before := ⟨fun a b => le_total a.relativePath b.relativePath⟩
  have trans : IsTrans FingerprintEntry before := ⟨fun _ _ _ => le_trans⟩
  have sorted := List.pairwise_insertionSort before (inventory.entries root)
  have apart : (((inventory.entries root).insertionSort before).map (·.relativePath)).Nodup :=
    ((List.perm_insertionSort before _).map _).nodup_iff.mpr distinct
  exact (sorted.and (List.pairwise_map.mp apart)).imp fun both => lt_of_le_of_ne both.1 both.2

variable (tools) in
lemma mem_entries {entry : FingerprintEntry} :
    entry ∈ (computeDatasetFingerprint tools root inventory).entries ↔
      entry ∈ inventory.entries root :=
  List.mem_insertionSort _

/-- With an injective digest, two fingerprints match if and only if the inventories have the same
entries, in any order and below any roots. -/
theorem verifyAgainst_iff_same_entries (injective : Function.Injective tools.digest)
    (distinct : ((inventory.entries root).map (·.relativePath)).Nodup)
    (otherDistinct : ((other.entries otherRoot).map (·.relativePath)).Nodup) :
    (computeDatasetFingerprint tools root inventory).verifyAgainst
        (computeDatasetFingerprint tools otherRoot other) = .ok () ↔
      ∀ entry, entry ∈ inventory.entries root ↔ entry ∈ other.entries otherRoot := by
  rw [DatasetFingerprint.verifyAgainst]
  constructor
  · intro verified
    split at verified
    · cases verified
    · rename_i same
      have equal : (computeDatasetFingerprint tools root inventory).entries =
          (computeDatasetFingerprint tools otherRoot other).entries :=
        injective (not_not.mp same)
      intro _
      rw [← mem_entries tools, equal, mem_entries]
  · intro same
    have equal : (computeDatasetFingerprint tools root inventory).entries =
        (computeDatasetFingerprint tools otherRoot other).entries := by
      apply eq_of_pairwise_lt (·.relativePath) (sorted_entries distinct)
        (sorted_entries otherDistinct)
      simpa [mem_entries] using same
    exact if_neg (not_not.mpr (congrArg tools.digest equal))

deriving instance Countable for FingerprintEntry

def oneFile (root : String) : DatasetInventory :=
  ⟨root, [⟨root ++ "/a", 3, 1, 1, 3, [], "s", [], true⟩], 1, ["s"]⟩

/-- There is a digest without collisions, and under it a moved dataset matches. -/
theorem verifyAgainst_iff_moved : ∃ tools : Toolkit (List Nat) Unit Nat,
    Function.Injective tools.digest ∧
      (computeDatasetFingerprint tools "/d" (oneFile "/d")).verifyAgainst
        (computeDatasetFingerprint tools "/e" (oneFile "/e")) = .ok () := by
  obtain ⟨number, injective⟩ := Countable.exists_injective_nat (List FingerprintEntry)
  let tools : Toolkit (List Nat) Unit Nat :=
    { Reference.plainTools with digest := fun entries => Str.zeroPadded 0 (number entries) }
  have digests : Function.Injective tools.digest := Str.zeroPadded_injective.comp injective
  have same : (oneFile "/d").entries "/d" = (oneFile "/e").entries "/e" := by decide +kernel
  refine ⟨tools, digests, (verifyAgainst_iff_same_entries digests ?_ ?_).mpr fun _ => by rw [same]⟩
  all_goals exact List.nodup_singleton _

end Parqonaut.Repair
