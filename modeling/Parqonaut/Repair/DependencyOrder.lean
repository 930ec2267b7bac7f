import Parqonaut.Repair.VerifiedPublication

/-!
# The sorted order respects the dependencies

For distinct ids the result of `sort_by_dependencies` is a permutation in which every operation
comes after its dependencies. The counter of an operation is the number of its dependencies that
are not taken yet, repeated entries counted as often as they occur.
-/

namespace Parqonaut.Repair

open List

variable {ops : List RepairOperation} {op : RepairOperation} {id : String}

/-- Every operation comes after the operations that it depends on. -/
def DependenciesFirst (order : List RepairOperation) : Prop :=
  ∀ before op after, order = before ++ op :: after →
    ∀ dep ∈ op.dependsOn, dep ∈ before.map (·.operationId)

/-! ## Dependents -/

lemma operationById_eq (distinct : (ops.map (·.operationId)).Nodup) (mem : op ∈ ops) :
    operationById ops op.operationId = some op := by
  cases found : operationById ops op.operationId with
  | none =>
    have absent := List.find?_eq_none.mp found op (mem_reverse.mpr mem)
    exact absurd (decide_eq_true rfl) absent
  | some other =>
    have same : other.operationId = op.operationId := by simpa using List.find?_some found
    rw [inj_on_of_nodup_map distinct (mem_of_operationById found) mem same]

variable {deps : List String}

/-- One name for each mention of `id`. -/
lemma count_mentions {name other : String} :
    ((deps.filter (· = id)).map fun _ => name).count other =
      if name = other then deps.count id else 0 := by
  rw [map_const', count_replicate, ← countP_eq_length_filter, List.count]
  simp only [beq_iff_eq]
  congr

lemma mem_dependentsOf {child : String} :
    child ∈ dependentsOf ops id ↔ ∃ op ∈ ops, op.operationId = child ∧ id ∈ op.dependsOn := by
  simp only [dependentsOf, mem_flatMap, mem_map, mem_filter, decide_eq_true_eq]
  constructor
  · rintro ⟨op, mem, _, ⟨mentioned, rfl⟩, named⟩
    exact ⟨op, mem, named, mentioned⟩
  · rintro ⟨op, mem, named, mentioned⟩
    exact ⟨op, mem, id, ⟨mentioned, rfl⟩, named⟩

lemma dependentsOf_cons {rest : List RepairOperation} : dependentsOf (op :: rest) id =
      ((op.dependsOn.filter (· = id)).map fun _ => op.operationId) ++ dependentsOf rest id := rfl

/-- An operation is a dependent as often as it names the dependency. -/
lemma count_dependentsOf (distinct : (ops.map (·.operationId)).Nodup) (mem : op ∈ ops) :
    (dependentsOf ops id).count op.operationId = op.dependsOn.count id := by
  induction ops with
  | nil => cases mem
  | cons head rest ih =>
    obtain ⟨fresh, distinct⟩ := nodup_cons.mp distinct
    rw [dependentsOf_cons, count_append, count_mentions]
    rcases mem_cons.mp mem with rfl | later
    · have absent : op.operationId ∉ dependentsOf rest id := by
        intro present
        obtain ⟨other, isRest, same, -⟩ := mem_dependentsOf.mp present
        exact fresh (mem_map.mpr ⟨other, isRest, same⟩)
      rw [if_pos rfl, count_eq_zero_of_not_mem absent, Nat.add_zero]
    · have other : head.operationId ≠ op.operationId := by
        intro same
        exact fresh (mem_map.mpr ⟨op, later, same.symm⟩)
      rw [if_neg other, ih distinct later, Nat.zero_add]

/-! ## One round of the loop -/

/-- Releasing dependents lowers each counter by its mentions, and the ids that come to zero become
ready once. -/
lemma foldl_release {children ready : List String} {indegree : String → Nat}
    (enough : ∀ child, children.count child ≤ indegree child) :
    ∃ freed, children.foldl release (indegree, ready) =
        (fun child => indegree child - children.count child, ready ++ freed) ∧
      freed.Nodup ∧ ∀ child, child ∈ freed ↔
        child ∈ children ∧ indegree child = children.count child := by
  induction children generalizing indegree ready with
  | nil => exact ⟨[], by simp, nodup_nil, by simp⟩
  | cons first rest ih =>
    have bound := enough first
    rw [count_cons_self] at bound
    have lowered : decrement (indegree first) = indegree first - 1 := by
      rw [decrement, if_neg (by omega)]
    have enough' : ∀ child, rest.count child ≤
        (if child = first then indegree first - 1 else indegree child) := by
      intro child
      by_cases same : child = first
      · subst same
        rw [if_pos rfl]
        omega
      · rw [if_neg same, ← count_cons_of_ne (Ne.symm same)]
        exact enough child
    have lower : ∀ child, (if child = first then indegree first - 1 else indegree child) -
        rest.count child = indegree child - (first :: rest).count child := by
      intro child
      by_cases same : child = first
      · subst same
        rw [if_pos rfl, count_cons_self]
        omega
      · rw [if_neg same, count_cons_of_ne (Ne.symm same)]
    obtain ⟨freed, folded, distinct, isFreed⟩ :=
      @ih (if indegree first - 1 = 0 then ready ++ [first] else ready) _ enough'
    rw [foldl_cons, release, lowered, folded]
    simp only [lower]
    by_cases last : indegree first - 1 = 0
    · have gone : first ∉ rest := count_eq_zero.mp (by omega)
      refine ⟨first :: freed, ?_, ?_, ?_⟩
      · rw [if_pos last, append_assoc, singleton_append]
      · exact nodup_cons.mpr ⟨fun mem => gone ((isFreed first).mp mem).1, distinct⟩
      · intro child
        by_cases same : child = first
        · subst same
          have once : indegree child = (child :: rest).count child := by
            rw [count_cons_self, count_eq_zero_of_not_mem gone]
            omega
          simp [once]
        · rw [mem_cons, isFreed, if_neg same, mem_cons, count_cons_of_ne (Ne.symm same)]
          simp [same]
    · refine ⟨freed, ?_, distinct, ?_⟩
      · rw [if_neg last]
      · intro child
        rw [isFreed]
        by_cases same : child = first
        · subst same
          rw [if_pos rfl, count_cons_self]
          constructor
          · rintro ⟨-, _⟩
            exact ⟨mem_cons_self, by omega⟩
          · rintro ⟨-, _⟩
            exact ⟨count_pos_iff.mp (by omega), by omega⟩
        · rw [if_neg same, mem_cons, count_cons_of_ne (Ne.symm same)]
          simp [same]

/-- The loop has taken the ids in `taken`: no id is taken or ready twice, the counters count the
open dependencies, and those of taken and ready ids are zero. -/
structure SortInvariant (ops : List RepairOperation) (taken : List String)
    (indegree : String → Nat) (ready : List String) : Prop where
  distinct : (taken ++ ready).Nodup
  known : ∀ id ∈ ready, id ∈ ops.map (·.operationId)
  counts : ∀ op ∈ ops, indegree op.operationId = op.dependsOn.countP (· ∉ taken)
  zero : ∀ id ∈ taken ++ ready, indegree id = 0

variable {taken ready : List String} {indegree : String → Nat}

lemma countP_not_mem_append (fresh : id ∉ taken) :
    deps.countP (· ∉ taken ++ [id]) + deps.count id = deps.countP (· ∉ taken) := by
  induction deps with
  | nil => rfl
  | cons dep _ ih =>
    rw [countP_cons, countP_cons, count_cons, ← ih]
    by_cases same : dep = id
    · subst same
      simp [fresh]
      omega
    · simp [same]
      omega

/-- The dependencies of a ready operation are taken. -/
lemma SortInvariant.taken_of_zero (invariant : SortInvariant ops taken indegree ready)
    (mem : op ∈ ops) (zero : indegree op.operationId = 0) {dep : String}
    (named : dep ∈ op.dependsOn) : dep ∈ taken := by
  rw [invariant.counts op mem, countP_eq_zero] at zero
  simpa using zero dep named

/-- Every operation without open dependencies is taken or ready. -/
def SortComplete (ops : List RepairOperation) (taken : List String) (indegree : String → Nat)
    (ready : List String) : Prop :=
  ∀ op ∈ ops, indegree op.operationId = 0 → op.operationId ∈ taken ++ ready

lemma SortInvariant.step (distinctIds : (ops.map (·.operationId)).Nodup)
    (invariant : SortInvariant ops taken indegree (id :: ready)) :
    ∃ indegree' ready', (dependentsOf ops id).foldl release (indegree, ready) =
        (indegree', ready') ∧
      SortInvariant ops (taken ++ [id]) indegree' ready' ∧
      (SortComplete ops taken indegree (id :: ready) →
        SortComplete ops (taken ++ [id]) indegree' ready') := by
  have untaken : id ∉ taken := by
    have apart := (nodup_append.mp invariant.distinct).2.2
    exact fun mem => apart id mem id mem_cons_self rfl
  have enough : ∀ child, (dependentsOf ops id).count child ≤ indegree child := by
    intro child
    by_cases present : child ∈ dependentsOf ops id
    · obtain ⟨op, mem, rfl, -⟩ := mem_dependentsOf.mp present
      rw [count_dependentsOf distinctIds mem, invariant.counts op mem,
        ← countP_not_mem_append untaken]
      omega
    · rw [count_eq_zero_of_not_mem present]
      exact Nat.zero_le _
  obtain ⟨freed, folded, once, isFreed⟩ := @foldl_release _ ready _ enough
  have apart : ∀ child ∈ freed, child ∉ taken ++ id :: ready := by
    intro child free mem
    obtain ⟨present, equal⟩ := (isFreed child).mp free
    rw [invariant.zero child mem] at equal
    exact count_eq_zero.mp equal.symm present
  have regroup : taken ++ [id] ++ (ready ++ freed) = taken ++ id :: ready ++ freed := by simp
  refine ⟨_, _, folded, ⟨?_, ?_, ?_, ?_⟩, ?_⟩
  · rw [regroup, nodup_append]
    refine ⟨invariant.distinct, once, ?_⟩
    rintro child mem _ free rfl
    exact apart child free mem
  · intro child mem
    rcases mem_append.mp mem with waiting | free
    · exact invariant.known child (mem_cons_of_mem id waiting)
    · obtain ⟨op, isOp, rfl, -⟩ := mem_dependentsOf.mp ((isFreed child).mp free).1
      exact mem_map_of_mem isOp
  · intro op mem
    rw [invariant.counts op mem, count_dependentsOf distinctIds mem,
      ← countP_not_mem_append untaken, Nat.add_sub_cancel]
  · intro child mem
    rw [regroup] at mem
    rcases mem_append.mp mem with earlier | free
    · rw [invariant.zero child earlier, Nat.zero_sub]
    · rw [((isFreed child).mp free).2, Nat.sub_self]
  · intro complete op mem closed
    rw [regroup]
    by_cases already : indegree op.operationId = 0
    · exact mem_append_left _ (complete op mem already)
    · have equal : indegree op.operationId = (dependentsOf ops id).count op.operationId := by
        have bound := enough op.operationId
        dsimp only at closed
        omega
      have present : op.operationId ∈ dependentsOf ops id := by
        rw [← count_pos_iff]
        omega
      exact mem_append_right _ ((isFreed _).mpr ⟨present, equal⟩)

lemma SortInvariant.sorted (invariant : SortInvariant ops taken indegree ready) :
    SortInvariant ops taken indegree (ready.insertionSort (· ≤ ·)) := by
  have same := perm_insertionSort (· ≤ ·) ready
  refine ⟨?_, ?_, invariant.counts, ?_⟩
  · exact (List.Perm.nodup_iff (same.append_left taken)).mpr invariant.distinct
  · exact fun id mem => invariant.known id (same.mem_iff.mp mem)
  · exact fun id mem => invariant.zero id ((same.append_left taken).mem_iff.mp mem)

/-! ## Whole loop -/

variable {rounds : Nat}

/-- What the loop lists is fresh, and comes after its dependencies. -/
lemma sortLoop_order (distinctIds : (ops.map (·.operationId)).Nodup)
    (invariant : SortInvariant ops taken indegree ready) :
    (taken ++ (sortLoop ops rounds indegree ready).map (·.operationId)).Nodup ∧
      ∀ before op after, sortLoop ops rounds indegree ready = before ++ op :: after →
        ∀ dep ∈ op.dependsOn, dep ∈ taken ++ before.map (·.operationId) := by
  induction rounds generalizing taken indegree ready with
  | zero =>
    refine ⟨?_, ?_⟩
    · simpa [sortLoop] using (nodup_append.mp invariant.distinct).1
    · intro before op after equal
      simp [sortLoop] at equal
  | succ _ ih =>
    cases ready with
    | nil =>
      refine ⟨?_, ?_⟩
      · simpa [sortLoop] using invariant.distinct
      · intro before _ after equal
        simp [sortLoop] at equal
    | cons id =>
      obtain ⟨_, mem, rfl⟩ := mem_map.mp (invariant.known id mem_cons_self)
      obtain ⟨_, _, folded, next, -⟩ := invariant.step distinctIds
      obtain ⟨fresh, ordered⟩ := ih next.sorted
      rw [sortLoop, folded, operationById_eq distinctIds mem]
      refine ⟨?_, ?_⟩
      · simpa using fresh
      · intro before other after equal dep named
        cases before with
        | nil =>
          cases equal
          have taken := invariant.taken_of_zero mem (invariant.zero _ (by simp)) named
          exact mem_append_left _ taken
        | cons _ before =>
          obtain ⟨rfl, later⟩ := List.cons.inj equal
          simpa using ordered before other after later dep named

lemma sortInvariant_start (distinctIds : (ops.map (·.operationId)).Nodup)
    (start : indegree = fun id => ((operationById ops id).map (·.dependsOn.length)).getD 0) :
    SortInvariant ops [] indegree
      ((sortedIds (ops.map (·.operationId))).filter (indegree · = 0)) := by
  refine ⟨?_, ?_, ?_, ?_⟩
  · exact (nodup_dedup _).filter _
  · intro _ mem
    have listed := mem_dedup.mp (mem_filter.mp mem).1
    exact (mem_insertionSort _).mp listed
  · intro _ mem
    simp [start, operationById_eq distinctIds mem]
  · intro _ mem
    exact of_decide_eq_true (mem_filter.mp mem).2

/-- A sorted plan visits every operation once, after its dependencies. -/
lemma sortByDependencies_order {sorted : List RepairOperation}
    (distinctIds : (ops.map (·.operationId)).Nodup) (sorts : sortByDependencies ops = .ok sorted) :
    sorted.Perm ops ∧ DependenciesFirst sorted := by
  have contained : sorted ⊆ ops := fun _ => mem_of_sortByDependencies sorts
  rw [sortByDependencies] at sorts
  split at sorts
  · cases sorts
  · dsimp only at sorts
    split at sorts
    · cases sorts
    · rename_i sameLength
      cases sorts
      obtain ⟨fresh, ordered⟩ :=
        @sortLoop_order ops [] _ _ ops.length distinctIds (sortInvariant_start distinctIds rfl)
      have once := List.Nodup.of_map _ fresh
      refine ⟨?_, ordered⟩
      exact (subperm_of_subset once contained).perm_of_length_le (not_not.mp sameLength).ge

/-! ## Plans that can be sorted -/

lemma SortComplete.sorted (complete : SortComplete ops taken indegree ready) :
    SortComplete ops taken indegree (ready.insertionSort (· ≤ ·)) := by
  intro op mem closed
  have same := (perm_insertionSort (· ≤ ·) ready).append_left taken
  exact same.mem_iff.mpr (complete op mem closed)

/-- Every dependency is an operation of the plan with a lower rank. -/
def Layered (rank : RepairOperation → Nat) (ops : List RepairOperation) : Prop :=
  ∀ op ∈ ops, ∀ dep ∈ op.dependsOn, ∃ other ∈ ops, other.operationId = dep ∧ rank other < rank op

variable {rank : RepairOperation → Nat}

/-- The loop only stops when everything is taken. -/
lemma taken_of_idle (layered : Layered rank ops) (invariant : SortInvariant ops taken indegree [])
    (complete : SortComplete ops taken indegree []) (mem : op ∈ ops) :
    op.operationId ∈ taken := by
  induction height : rank op using Nat.strong_induction_on generalizing op with
  | _ _ ih =>
    have closed : indegree op.operationId = 0 := by
      rw [invariant.counts op mem, countP_eq_zero]
      intro dep named
      obtain ⟨other, isOp, rfl, _⟩ := layered op mem dep named
      simpa using ih (rank other) (by omega) isOp rfl
    simpa using complete op mem closed

lemma sortLoop_complete (distinctIds : (ops.map (·.operationId)).Nodup) (layered : Layered rank ops)
    (invariant : SortInvariant ops taken indegree ready)
    (complete : SortComplete ops taken indegree ready)
    (known : taken ⊆ ops.map (·.operationId)) (enough : ops.length ≤ taken.length + rounds)
    (mem : op ∈ ops) :
    op.operationId ∈ taken ++ (sortLoop ops rounds indegree ready).map (·.operationId) := by
  induction rounds generalizing taken indegree ready with
  | zero =>
    have once := (nodup_append.mp invariant.distinct).1
    have all : taken.Perm (ops.map (·.operationId)) := by
      refine (subperm_of_subset once known).perm_of_length_le ?_
      rw [length_map]
      omega
    exact mem_append_left _ (all.mem_iff.mpr (mem_map_of_mem mem))
  | succ _ ih =>
    cases ready with
    | nil => exact mem_append_left _ (taken_of_idle layered invariant complete mem)
    | cons id =>
      obtain ⟨_, isOp, rfl⟩ := mem_map.mp (invariant.known id mem_cons_self)
      obtain ⟨_, _, folded, next, stays⟩ := invariant.step distinctIds
      have later := ih next.sorted (stays complete).sorted ?_ ?_
      · rw [sortLoop, folded, operationById_eq distinctIds isOp]
        simpa using later
      · intro _ inside
        rcases mem_append.mp inside with old | new
        · exact known old
        · rw [mem_singleton.mp new]
          exact mem_map_of_mem isOp
      · rw [length_append, length_singleton]
        omega

/-- Every dependency is an operation of the plan. -/
lemma unknownDependency_eq_none : unknownDependency ops = none ↔
    ∀ op ∈ ops, op.dependsOn ⊆ ops.map (·.operationId) := by
  simp [unknownDependency, List.findSome?_eq_none_iff, subset_def]

lemma sortComplete_start : SortComplete ops [] indegree
    ((sortedIds (ops.map (·.operationId))).filter (indegree · = 0)) := by
  intro _ mem closed
  rw [nil_append, mem_filter]
  refine ⟨mem_dedup.mpr ((mem_insertionSort _).mpr (mem_map_of_mem mem)), ?_⟩
  simpa using closed

/-- A plan with distinct ids and layered dependencies can be sorted. -/
lemma sortByDependencies_ok
    (distinctIds : (ops.map (·.operationId)).Nodup) (layered : Layered rank ops) :
    ∃ sorted, sortByDependencies ops = .ok sorted := by
  have known : unknownDependency ops = none := by
    refine unknownDependency_eq_none.mpr fun op mem dep named => ?_
    obtain ⟨_, isOp, rfl, -⟩ := layered op mem dep named
    exact mem_map_of_mem isOp
  obtain ⟨indegree, start⟩ : ∃ indegree : String → Nat,
      indegree = fun id => ((operationById ops id).map (·.dependsOn.length)).getD 0 := ⟨_, rfl⟩
  have invariant := sortInvariant_start distinctIds start
  obtain ⟨once, -⟩ := @sortLoop_order ops [] _ _ ops.length distinctIds invariant
  rw [nil_append] at once
  have everything : ops.map (·.operationId) ⊆ (sortLoop ops ops.length indegree
      ((sortedIds (ops.map (·.operationId))).filter (indegree · = 0))).map (·.operationId) := by
    intro _ mem
    obtain ⟨_, isOp, rfl⟩ := mem_map.mp mem
    simpa using sortLoop_complete distinctIds layered invariant sortComplete_start
      (nil_subset _) (by simp) isOp
  have contained : (sortLoop ops ops.length indegree
      ((sortedIds (ops.map (·.operationId))).filter (indegree · = 0))).map (·.operationId) ⊆
      ops.map (·.operationId) := by
    intro _ mem
    obtain ⟨_, listed, rfl⟩ := mem_map.mp mem
    exact mem_map_of_mem (mem_sortLoop listed)
  have lengths := ((subperm_of_subset distinctIds everything).antisymm
    (subperm_of_subset once contained)).length_eq
  rw [length_map, length_map] at lengths
  subst start
  rw [sortByDependencies, known]
  exact ⟨_, if_neg (not_not.mpr lengths.symm)⟩

/-!
# Operations run as authorized

`run_repair_operations` applies, reports and audits the safe operations and those that the user
authorized after review, and no others.

Which operations are applied does not depend on what applying one does, so an arbitrary function in
an arbitrary monad takes the place of `apply_operation`.
-/

open Effects Rust

variable {File Schema Batch : Type}

/-! ## What should run -/

/-- The operation is safe, or it needs review and its id is authorized. -/
def Permitted (authorization : RepairAuthorization) (op : RepairOperation) : Prop :=
  op.safety = .safe ∨
    op.safety = .reviewRequired ∧ op.operationId ∈ authorization.authorizedOperationIds

instance (authorization : RepairAuthorization) : DecidablePred (Permitted authorization) :=
  fun op => inferInstanceAs (Decidable (op.safety = .safe ∨ op.safety = .reviewRequired ∧
    op.operationId ∈ authorization.authorizedOperationIds))

/-- The audit record of an operation says whether it ran, and why. -/
structure RecordAgrees (authorization : RepairAuthorization) (op : RepairOperation)
    (record : OperationAuditRecord) : Prop where
  operationId : record.operationId = op.operationId
  safety : record.safety = op.safety
  executed : record.executed = true ↔ Permitted authorization op
  automatic : record.authorizationSource = .automaticSafePolicy ↔ op.safety = .safe
  explicit : record.authorizationSource = .explicitUser ↔ op.safety = .reviewRequired ∧
    op.operationId ∈ authorization.authorizedOperationIds
  refused : record.authorizationSource = .notAuthorized ↔ op.safety = .reviewRequired ∧
    op.operationId ∉ authorization.authorizedOperationIds
  blocked : record.authorizationSource = .blockedByPolicy ↔
    op.safety = .blocked ∨ op.safety = .destructive

/-! ## Loop -/

section

variable {m : Type → Type} [Monad m]

/-- One round of the loop of `run_repair_operations` around a function that applies one
operation. -/
def visit (executor : RepairExecutor) (apply : RepairOperation → Working → m Working)
    (op : RepairOperation) (working : Working) : m Working :=
  if runs executor op then apply op working else return working

def visitAll (executor : RepairExecutor) (context : OperationAuditContext)
    (apply : RepairOperation → Working → m Working) :
    List RepairOperation → Working → RepairOperationOutcome → m (Working × RepairOperationOutcome)
  | [], working, outcome => return (working, outcome)
  | op :: rest, working, outcome => do
      let next ← visit executor apply op working
      visitAll executor context apply rest next (outcome.record executor context op)

/-- Apply operations one after the other. -/
def applyAll (apply : RepairOperation → Working → m Working) :
    List RepairOperation → Working → m Working
  | [], working => return working
  | op :: rest, working => do
      let next ← apply op working
      applyAll apply rest next

variable {executor : RepairExecutor} {context : OperationAuditContext}
  {apply : RepairOperation → Working → m Working}
  {authorization : RepairAuthorization}

lemma isAuthorized_iff :
    authorization.isAuthorized id = true ↔ id ∈ authorization.authorizedOperationIds := by
  rw [RepairAuthorization.isAuthorized, contains_iff_mem]

lemma runs_iff : runs executor op = true ↔ Permitted executor.authorization op := by
  rw [runs, authorizationFor, Permitted, ← isAuthorized_iff]
  cases op.safety <;> cases executor.authorization.isAuthorized op.operationId <;>
    simp [skipReason]

lemma filter_runs (ops : List RepairOperation) :
    ops.filter (runs executor) = ops.filter (Permitted executor.authorization ·) := by
  apply filter_congr
  intro _ _
  rw [Bool.eq_iff_iff, runs_iff, decide_eq_true_iff]

lemma filter_not_runs (ops : List RepairOperation) :
    ops.filter (!runs executor ·) = ops.filter (¬ Permitted executor.authorization ·) := by
  apply filter_congr
  intro _ _
  rw [Bool.eq_iff_iff, Bool.not_eq_true', ← Bool.not_eq_true, runs_iff, decide_eq_true_iff]

lemma not_permitted (withheld : op.safety = .blocked ∨ op.safety = .destructive) :
    ¬ Permitted authorization op := by
  rintro (_ | ⟨_, -⟩) <;> rcases withheld with _ | _ <;> simp_all

lemma auditRecord_agrees :
    RecordAgrees executor.authorization op (auditRecord executor context op) := by
  refine ⟨rfl, rfl, runs_iff, ?_, ?_, ?_, ?_⟩ <;>
  · rw [auditRecord]
    dsimp only
    rw [authorizationFor]
    try rw [← isAuthorized_iff]
    cases op.safety <;> cases executor.authorization.isAuthorized op.operationId <;> simp

variable {outcome : RepairOperationOutcome}

/-- What the loop reports, whatever the operations do. -/
lemma foldl_record : ops.foldl (fun outcome op => outcome.record executor context op) outcome =
      ⟨outcome.executed ++ (ops.filter (runs executor)).map (·.operationId),
        outcome.skipped ++ (ops.filter (!runs executor ·)).map (·.operationId),
        outcome.audit ++ ops.map (auditRecord executor context)⟩ := by
  induction ops generalizing outcome with
  | nil => simp
  | cons op _ ih =>
    rw [foldl_cons, ih]
    cases ran : runs executor op <;> simp [RepairOperationOutcome.record, ran]

/-- The loop applies the operations that run, in their order, and nothing else. -/
lemma visitAll_eq [LawfulMonad m] {working : Working} :
    visitAll executor context apply ops working outcome = (do
      let final ← applyAll apply (ops.filter (runs executor)) working
      return (final, ops.foldl (fun outcome op => outcome.record executor context op) outcome)) := by
  induction ops generalizing working outcome with
  | nil => simp [visitAll, applyAll]
  | cons op _ ih =>
    cases ran : runs executor op <;> simp [visitAll, visit, applyAll, ran, ih]

end

lemma runSorted_eq_visitAll {tools : Toolkit File Schema Batch} [DecidableEq Schema]
    {executor : RepairExecutor} {context : OperationAuditContext} {root work : String}
    {working : Working} {outcome : RepairOperationOutcome} :
    runSorted tools executor context root work ops working outcome =
      visitAll executor context (fun op => applyOperation tools op root work) ops working
        outcome := by
  induction ops generalizing working outcome with
  | nil => rfl
  | cons _ _ ih =>
    rw [runSorted, visitAll]
    exact congrArg _ (funext fun next => ih)

/-- When a plan with distinct ids is run to its end, there is one order of its operations,
dependencies first, in which the permitted ones were applied once each, and the reports and the
audit say so. -/
theorem operations_run_as_authorized {State : Type} [DecidableEq Schema]
    (tools : Toolkit File Schema Batch) (executor : RepairExecutor) (plan : RepairPlan)
    (root work : String) (working : Working) (context : OperationAuditContext)
    (service : Service (FsRequest File) FsRequest.Answer State) (state after : State)
    (final : Working) (outcome : RepairOperationOutcome)
    (distinct : (plan.operations.map (·.operationId)).Nodup)
    (returns : Fallible.Returns service
      (runRepairOperations tools executor plan root work working context) state (final, outcome)
      after) :
    ∃ visited : List RepairOperation, visited.Perm plan.operations ∧ DependenciesFirst visited ∧
      runRepairOperations tools executor plan root work working context =
        visitAll executor context (fun op => applyOperation tools op root work) visited working
          ⟨[], [], []⟩ ∧
      (∀ (m : Type → Type) [Monad m] [LawfulMonad m]
        (apply : RepairOperation → Working → m Working) (start : Working),
        visitAll executor context apply visited start ⟨[], [], []⟩ = (do
          let final ← applyAll apply (visited.filter (Permitted executor.authorization ·)) start
          return (final, outcome))) ∧
      outcome.executed = (visited.filter (Permitted executor.authorization ·)).map (·.operationId) ∧
      outcome.skipped =
        (visited.filter (¬ Permitted executor.authorization ·)).map (·.operationId) ∧
      (∀ op ∈ plan.operations, op.safety = .blocked ∨ op.safety = .destructive →
        op.operationId ∉ outcome.executed) ∧
      List.Forall₂ (RecordAgrees executor.authorization) visited outcome.audit := by
  rw [runRepairOperations] at returns ⊢
  obtain ⟨visited, _, sorts, visits⟩ := returns.of_bind
  obtain ⟨ordered, rfl⟩ := value_of_returns_liftResult sorts
  obtain ⟨permutes, first⟩ := sortByDependencies_order distinct ordered
  rw [runSorted_eq_visitAll, visitAll_eq, foldl_record] at visits
  obtain ⟨_, _, _, ended⟩ := visits.of_bind
  obtain ⟨equal, -⟩ := Fallible.returns_pure.mp ended
  cases equal
  rw [ordered, filter_runs, filter_not_runs]
  refine ⟨visited, permutes, first, runSorted_eq_visitAll, ?_, rfl, rfl, ?_, ?_⟩
  · intro _ _ _ apply _
    rw [visitAll_eq, foldl_record, filter_runs, filter_not_runs]
  · intro op mem withheld executed
    obtain ⟨_, applied, same⟩ := mem_map.mp executed
    obtain ⟨isVisited, permitted⟩ := mem_filter.mp applied
    have equal := inj_on_of_nodup_map distinct (permutes.mem_iff.mp isVisited) mem same
    subst equal
    exact not_permitted withheld (of_decide_eq_true permitted)
  · apply forall₂_map_right_iff.mpr
    exact forall₂_same.mpr fun op _ => auditRecord_agrees

namespace Reference

open Storage.Reference

/-- A plan of a safe merge that comes after a reviewed one, and a blocked one. -/
def reviewedPlan : RepairPlan :=
  planOf "a" [⟨"merge", .safe, .mergeSmallFiles 1 [], ["align"]⟩,
    ⟨"align", .reviewRequired, .mergeSmallFiles 1 [], []⟩,
    ⟨"drop", .blocked, .mergeSmallFiles 1 [], []⟩]

/-- Every id is authorized. -/
def authorizing : RepairExecutor := ⟨⟨["align", "drop", "merge"]⟩, true⟩

def auditContext : OperationAuditContext := ⟨"p", "a", "f", "v"⟩

theorem reviewed_plan_runs : (reviewedPlan.operations.map (·.operationId)).Nodup ∧
    ∃ final outcome after, Fallible.Returns (Disk.service tools.created)
        (runRepairOperations tools authorizing reviewedPlan "/d" "/w" ∅ auditContext)
        (diskOf []) (final, outcome) after ∧
      outcome.executed = ["align", "merge"] ∧ outcome.skipped = ["drop"] ∧
      ∃ visited, visited.Perm reviewedPlan.operations ∧ DependenciesFirst visited ∧
        List.Forall₂ (RecordAgrees authorizing.authorization) visited outcome.audit := by
  have distinct : (reviewedPlan.operations.map (·.operationId)).Nodup := by decide
  obtain ⟨⟨final, outcome⟩, after, returns, reported⟩ :=
    @Fallible.exists_returns_of_eval _ _ _ _ _ (Disk.service tools.created) (diskOf [])
      (runRepairOperations tools authorizing reviewedPlan "/d" "/w" ∅ auditContext)
      (fun ended _ => ended.2.executed = ["align", "merge"] && ended.2.skipped = ["drop"])
      (by decide)
  obtain ⟨executed, skipped⟩ := (Bool.and_eq_true _ _).mp reported
  obtain ⟨visited, permutes, first, -, -, -, -, -, agrees⟩ :=
    operations_run_as_authorized tools authorizing reviewedPlan "/d" "/w" ∅ auditContext
      (Disk.service tools.created) (diskOf []) after final outcome distinct returns
  exact ⟨distinct, final, outcome, after, returns, of_decide_eq_true executed,
    of_decide_eq_true skipped, visited, permutes, first, agrees⟩

end Reference

end Parqonaut.Repair
