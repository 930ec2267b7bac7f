import Parqonaut.Orchestrator.TaskTrace

/-!
# Succeeded datasets are final

Over a fresh run and any resumes, each of which may be cancelled or stop between any two steps: the
row of a succeeded dataset never changes again and the dataset is not executed again.

A process that goes on has at most the rest of the task that recorded the success in hand.
-/

namespace Parqonaut.Orchestrator

open Effects Sql List Option

section

variable {Req Lock State : Type} {Resp : Req → Type} {answer : (request : Req) → Resp request}
  {setup : BatchSetup Req Resp Lock} {service : Service Req Resp State}

/-! ## What a process has in hand -/

/-- Datasets of the tasks that are not over. -/
def Pool.ids (pool : Pool Resp) : List String :=
  pool.pending.map (·.dataset.datasetId) ++ pool.holding.toList.map (·.dataset.datasetId) ++
    pool.active.map (·.task.dataset.datasetId)

/-- The tasks of a process are for different datasets, and each of them behaves as the
task of its dataset. -/
def SoundPhase (answer : (request : Req) → Resp request) : Phase Resp → Prop
  | .stopped => True
  | .recovering _ => True
  | .preparing _ _ todo tasks =>
    (tasks.map (·.dataset.datasetId) ++ todo.map (·.datasetId)).Nodup
  | .scheduling _ pool =>
    pool.ids.Nodup ∧ ∀ spawned ∈ pool.active, ∃ trace, Follows true answer spawned trace
  | .closing _ => True

/-- The process does nothing more for the dataset, except to end a task that has
recorded its success. -/
def LeavesAlone (answer : (request : Req) → Resp request) (id : String) : Phase Resp → Prop
  | .stopped => True
  | .recovering todo => ∀ record ∈ todo, record.datasetId = id → record.state = .succeeded
  | .preparing mode existing _ tasks =>
    mode = .resume ∧ skippedOnResume existing id = true ∧
      ∀ task ∈ tasks, task.dataset.datasetId ≠ id
  | .scheduling _ pool =>
    (∀ task ∈ pool.pending, task.dataset.datasetId ≠ id) ∧
      (∀ task ∈ pool.holding, task.dataset.datasetId ≠ id) ∧
      ∀ spawned ∈ pool.active, spawned.task.dataset.datasetId = id →
        ∃ trace, trace.settled = true ∧ Follows true answer spawned trace
  | .closing _ => True

/-- The journal says that the dataset has succeeded. -/
def SucceededRow (shared : Shared) (id : String) (record : DatasetRunRecord) : Prop :=
  shared.journal.dataset id = some record ∧ record.state = .succeeded

/-! ## One step -/

variable {existing : List DatasetRunRecord} {ds : DatasetPlan} {tasks : List PreparedTask}
  {id : String}

lemma prepareDataset_skips (skipped : skippedOnResume existing id = true)
    (others : ∀ task ∈ tasks, task.dataset.datasetId ≠ id) :
    ∀ task ∈ prepareDataset .resume existing ds tasks, task.dataset.datasetId ≠ id := by
  unfold prepareDataset
  split
  · exact others
  · rename_i taken
    intro task mem
    rcases mem_append.mp mem with earlier | new
    · exact others task earlier
    · rw [mem_singleton.mp new]
      rintro rfl
      exact taken ⟨rfl, skipped⟩

variable {shared : Shared} {trace : TaskTrace}

/-- The effect of a task on the row of a dataset that is not its own, or that it has
settled. -/
lemma TaskEffect.frame {shared' : Shared} {after : TaskTrace} {own : String}
    (effect : TaskEffect (shared, trace) (shared', after))
    (touches : ∀ other ∈ after.touched, other = own) (foreign : own = id → after = trace) :
    shared'.journal.dataset id = shared.journal.dataset id ∧
      shared'.calls.count id = shared.calls.count id := by
  have longer : ∀ {first : String} {list : List String}, first :: list ≠ list :=
    fun same => absurd (congrArg List.length same) (Nat.succ_ne_self _)
  cases effect with
  | quiet journal calls => exact ⟨by rw [journal], by rw [calls]⟩
  | @wrote _ _ record =>
    have isOwn : record.datasetId = own := touches _ mem_cons_self
    refine ⟨dataset_upsertDataset.trans (if_neg ?_), rfl⟩
    rintro rfl
    exact longer (congrArg TaskTrace.touched (foreign isOwn.symm))
  | @began _ _ begun =>
    have isOwn : begun = own := touches _ mem_cons_self
    refine ⟨rfl, ?_⟩
    have different : begun ≠ id := by
      rintro rfl
      exact longer (congrArg TaskTrace.touched (foreign isOwn.symm))
    rw [count_append, count_singleton, if_neg (by simpa using different)]
    rfl

variable {before after : Config Resp State} {record : DatasetRunRecord}

/-- A step of a process that leaves the dataset alone neither touches its row nor executes it, and
goes on leaving it alone. -/
lemma RunStep.leavesAlone (steps : RunStep setup service before after)
    (sound : SoundPhase answer before.phase) (row : SucceededRow before.shared id record)
    (alone : LeavesAlone answer id before.phase) :
    SucceededRow after.shared id record ∧ LeavesAlone answer id after.phase ∧
      after.shared.calls.count id = before.shared.calls.count id := by
  cases steps with
  | @recover head todo =>
    have later : LeavesAlone answer id (.recovering todo : Phase Resp) :=
      fun other mem => alone other (mem_cons_of_mem _ mem)
    refine ⟨⟨?_, row.2⟩, later, by dsimp only; split <;> rfl⟩
    dsimp only
    split
    · rename_i needs
      rw [← row.1]
      refine dataset_upsertDataset.trans (if_neg ?_)
      intro same
      have succeeded := alone head mem_cons_self same.symm
      rw [needsRecovery, succeeded] at needs
      exact absurd needs (by decide)
    · exact row.1
  | readJournal =>
    refine ⟨row, ⟨rfl, ?_, forall_mem_nil _⟩, rfl⟩
    rw [skippedOnResume_eq, findRecord_listDatasets, row.1, any_some, row.2]
    rfl
  | prepare =>
    obtain ⟨rfl, skipped, others⟩ := alone
    exact ⟨row, ⟨rfl, skipped, prepareDataset_skips skipped others⟩, rfl⟩
  | schedule =>
    exact ⟨row, ⟨alone.2.2, fun _ held => (by cases held), forall_mem_nil _⟩, rfl⟩
  | take =>
    obtain ⟨pending, -, active⟩ := alone
    refine ⟨row, ⟨fun task mem => pending task (mem_cons_of_mem _ mem), ?_, active⟩, rfl⟩
    intro task held
    cases held
    exact pending _ mem_cons_self
  | spawn =>
    obtain ⟨pending, holding, active⟩ := alone
    refine ⟨row, ⟨pending, fun _ held => (by cases held), ?_⟩, rfl⟩
    intro spawned mem isOwn
    rcases mem_append.mp mem with earlier | new
    · exact active spawned earlier isOwn
    · rw [mem_singleton.mp new] at isOwn
      exact absurd isOwn (holding _ rfl)
  | @serve _ pending holding front back _ task request next _ _ _ _ _ answers =>
      obtain ⟨pending, holding, active⟩ := alone
      have mem : (⟨task, .call request next⟩ : SpawnedTask Resp) ∈
          front ++ ⟨task, .call request next⟩ :: back :=
        mem_append_right _ mem_cons_self
      -- the observer of the task: settled if the task is for this dataset
      obtain ⟨trace, follows, settled⟩ : ∃ trace,
          Follows true answer ⟨task, .call request next⟩ trace ∧
            (task.dataset.datasetId = id → trace.settled = true) := by
        by_cases isOwn : task.dataset.datasetId = id
        · obtain ⟨trace, settled, follows⟩ := active _ mem isOwn
          exact ⟨trace, follows, fun _ => settled⟩
        · obtain ⟨trace, follows⟩ := sound.2 _ mem
          exact ⟨trace, follows, fun same => absurd same isOwn⟩
      obtain ⟨seen, goesOn, effect, final⟩ := follows.serve answers fun may => by cases may
      obtain ⟨sameRow, sameCalls⟩ := effect.frame goesOn.own fun isOwn => final (settled isOwn)
      refine ⟨⟨sameRow.trans row.1, row.2⟩, ⟨pending, holding, ?_⟩, sameCalls⟩
      intro spawned among isOwn
      rcases mem_replaced among with rfl | other
      · refine ⟨seen, ?_, goesOn⟩
        rw [final (settled isOwn)]
        exact settled isOwn
      · exact active spawned other isOwn
  | join
  | panic =>
    exact ⟨row, ⟨alone.1, alone.2.1, fun spawned mem =>
      alone.2.2 spawned (sublist_removed.subset mem)⟩, rfl⟩
  | finish => exact ⟨row, trivial, rfl⟩
  | cancel => exact ⟨row, alone, rfl⟩

lemma nodup_prepareDataset {mode : ExecutionMode} {todo : List DatasetPlan}
    (distinct : (tasks.map (·.dataset.datasetId) ++ (ds :: todo).map (·.datasetId)).Nodup) :
    ((prepareDataset mode existing ds tasks).map (·.dataset.datasetId) ++
      todo.map (·.datasetId)).Nodup := by
  unfold prepareDataset
  split
  · exact distinct.sublist sublist_removed
  · rw [map_append, append_assoc]
    exact distinct

/-- Tasks stay tasks of different datasets. -/
lemma RunStep.sound (distinct : (setup.plan.datasets.map (·.datasetId)).Nodup)
    (steps : RunStep setup service before after) (sound : SoundPhase answer before.phase) :
    SoundPhase answer after.phase := by
  cases steps with
  | recover => trivial
  | readJournal => exact distinct
  | prepare => exact nodup_prepareDataset sound
  | schedule =>
    refine ⟨?_, nofun⟩
    have pending := (nodup_append.mp sound).1
    simpa only [Pool.ids, toList_none, map_nil, append_nil] using pending
  | take =>
    refine ⟨?_, sound.2⟩
    have before := sound.1
    simp only [Pool.ids, toList_none, toList_some, map_cons, map_nil,
      append_nil, cons_append] at before ⊢
    rw [append_assoc, singleton_append]
    exact nodup_middle.mpr before
  | @spawn _ task pending active =>
    constructor
    · have before := sound.1
      simp only [Pool.ids, toList_none, toList_some, map_append, map_cons,
        map_nil, append_nil, append_assoc, singleton_append] at before ⊢
      have moved := (perm_append_singleton task.dataset.datasetId
        (active.map (·.task.dataset.datasetId))).symm.append_left
          (pending.map (·.dataset.datasetId))
      exact moved.nodup_iff.mp before
    · intro spawned mem
      rcases mem_append.mp mem with earlier | new
      · exact sound.2 spawned earlier
      · rw [mem_singleton.mp new]
        exact ⟨_, .start⟩
  | @serve _ _ _ _ _ _ task request next _ _ _ _ _ answers =>
      constructor
      · have before := sound.1
        simp only [Pool.ids, map_append, map_cons] at before ⊢
        exact before
      · intro spawned among
        rcases mem_replaced among with rfl | other
        · obtain ⟨_, follows⟩ := sound.2 ⟨task, .call request next⟩
            (mem_append_right _ mem_cons_self)
          obtain ⟨seen, goesOn, -, -⟩ := follows.serve answers nofun
          exact ⟨seen, goesOn⟩
        · exact sound.2 spawned other
  | join
  | panic =>
    exact ⟨sound.1.sublist ((sublist_removed.map _).append_left _),
      fun spawned mem => sound.2 spawned (sublist_removed.subset mem)⟩
  | finish => trivial
  | cancel => exact sound

/-- The row of a dataset becomes a success only by the record of one. -/
lemma SucceededRow.of_upsert {written : DatasetRunRecord}
    (row : SucceededRow { shared with journal := shared.journal.upsertDataset written } id record)
    (open_ : ∀ earlier, ¬ SucceededRow shared id earlier) :
    id = written.datasetId ∧ written.state = .succeeded := by
  obtain ⟨found, succeeded⟩ := row
  rw [dataset_upsertDataset] at found
  split at found
  · cases found
    exact ⟨‹_›, succeeded⟩
  · exact absurd ⟨found, succeeded⟩ (open_ record)

/-- Nothing but the task itself is in hand for the dataset of a spawned task. -/
lemma leavesAlone_of_settled {pending : List PreparedTask}
    {holding : Option PreparedTask} {front back : List (SpawnedTask Resp)}
    {results : List DatasetExecutionOutcome} {spawned : SpawnedTask Resp}
    (distinct : (Pool.ids ⟨pending, holding, front ++ spawned :: back, results⟩).Nodup)
    (settled : trace.settled = true) (follows : Follows true answer spawned trace) :
    LeavesAlone answer spawned.task.dataset.datasetId
      (.scheduling existing ⟨pending, holding, front ++ spawned :: back, results⟩) := by
  rw [Pool.ids, map_append, map_cons, ← append_assoc, nodup_middle, nodup_cons] at distinct
  have others := distinct.1
  simp only [mem_append, List.mem_map, not_or, not_exists, not_and, mem_toList] at others
  obtain ⟨⟨⟨noPending, noHolding⟩, noFront⟩, noBack⟩ := others
  refine ⟨noPending, noHolding, ?_⟩
  intro other mem same
  rcases mem_append.mp mem with early | late
  · exact absurd same (noFront other early)
  · rcases mem_cons.mp late with rfl | late
    · exact ⟨trace, settled, follows⟩
    · exact absurd same (noBack other late)

/-- A dataset whose row becomes a success was recorded by its own task, which is the
only one for it. -/
lemma RunStep.settles (steps : RunStep setup service before after)
    (sound : SoundPhase answer before.phase)
    (open_ : ∀ earlier, ¬ SucceededRow before.shared id earlier)
    (row : SucceededRow after.shared id record) : LeavesAlone answer id after.phase := by
  cases steps with
  | recover =>
    dsimp only at row
    split at row
    · rename_i needs
      have succeeded := (row.of_upsert open_).2
      rw [recoveredRecord_state needs] at succeeded
      exact absurd succeeded nofun
    · exact absurd row (open_ record)
  | @serve _ pending holding front back results task request next _ _ reply _ _ answers =>
      obtain ⟨_, follows⟩ := sound.2 ⟨task, .call request next⟩
        (mem_append_right _ mem_cons_self)
      obtain ⟨_, goesOn, effect, -⟩ := follows.serve answers nofun
      cases effect with
      | quiet journal =>
        rw [SucceededRow, journal] at row
        exact absurd row (open_ record)
      | began => exact absurd row (open_ record)
      | @wrote _ _ written =>
        obtain ⟨rfl, succeeded⟩ := row.of_upsert open_
        have isOwn : written.datasetId = task.dataset.datasetId :=
          goesOn.own _ mem_cons_self
        rw [isOwn]
        have distinct : (Pool.ids ⟨pending, holding, front ++ ⟨task, next reply⟩ :: back,
            results⟩).Nodup := by
          simpa only [Pool.ids, map_append, map_cons] using sound.1
        refine leavesAlone_of_settled distinct ?_ goesOn
        rw [TaskTrace.wrote, succeeded, decide_eq_true rfl, Bool.or_true]
  | readJournal | prepare | schedule | take | spawn | join | panic | finish | cancel =>
    exact absurd row (open_ record)

/-! ## Runs and resumes -/

/-- The tasks in hand are sound, and every dataset that has succeeded is left alone. -/
structure Sound (answer : (request : Req) → Resp request) (config : Config Resp State) : Prop where
  phase : SoundPhase answer config.phase
  alone : ∀ id record, SucceededRow config.shared id record → LeavesAlone answer id config.phase

/-- A new process finds the rows of the datasets that have succeeded. -/
lemma leavesAlone_listDatasets (row : SucceededRow shared id record) :
    LeavesAlone answer id (.recovering shared.journal.listDatasets : Phase Resp) := by
  intro other mem same
  have found : shared.journal.dataset id = some other :=
    Table.find_eq_some.mpr ⟨mem_listDatasets.mp mem, same⟩
  rw [row.1, Option.some.injEq] at found
  exact found ▸ row.2

lemma BatchStep.sound (distinct : (setup.plan.datasets.map (·.datasetId)).Nodup)
    (steps : BatchStep setup service before after) (sound : Sound answer before) :
    Sound answer after := by
  cases steps with
  | run steps =>
    refine ⟨steps.sound distinct sound.phase, fun id record row => ?_⟩
    by_cases earlier : ∃ record, SucceededRow before.shared id record
    · obtain ⟨old, oldRow⟩ := earlier
      exact (steps.leavesAlone sound.phase oldRow (sound.alone id old oldRow)).2.1
    · exact steps.settles sound.phase (not_exists.mp earlier) row
  | stop | mark | resumeComplete => exact ⟨trivial, fun _ _ _ => trivial⟩
  | resume =>
    exact ⟨trivial, fun id record row => leavesAlone_listDatasets row⟩

lemma BatchStep.keeps (steps : BatchStep setup service before after)
    (sound : Sound answer before) (row : SucceededRow before.shared id record) :
    SucceededRow after.shared id record ∧
      after.shared.calls.count id = before.shared.calls.count id := by
  cases steps with
  | run steps =>
    obtain ⟨kept, -, calls⟩ := steps.leavesAlone sound.phase row (sound.alone id record row)
    exact ⟨kept, calls⟩
  | stop | resume => exact ⟨row, rfl⟩
  | @mark _ shared _ now =>
    obtain ⟨journal, marked⟩ := @markRun_eq setup.plan now shared
    exact ⟨⟨markRun_dataset.trans row.1, row.2⟩, by rw [marked]⟩
  | @resumeComplete shared _ now =>
    obtain ⟨_, marked⟩ := @markCompleted_eq now shared
    exact ⟨⟨markCompleted_dataset.trans row.1, row.2⟩, by rw [marked]⟩

variable {cancelled : Bool} {outside : State}

lemma sound_freshRun (distinct : (setup.plan.datasets.map (·.datasetId)).Nodup) :
    Sound answer (freshRun setup cancelled outside) :=
  ⟨distinct, fun _ _ row => absurd row.1 nofun⟩

variable {config : Config Resp State}

lemma sound_of_reaches (distinct : (setup.plan.datasets.map (·.datasetId)).Nodup)
    (steps : Relation.ReflTransGen (BatchStep setup service) (freshRun setup cancelled outside)
      config) : Sound answer config := by
  induction steps with
  | refl => exact sound_freshRun distinct
  | tail _ step ih => exact step.sound distinct ih

lemma keeps_of_steps {later : Config Resp State}
    (distinct : (setup.plan.datasets.map (·.datasetId)).Nodup)
    (steps : Relation.ReflTransGen (BatchStep setup service) config later)
    (sound : Sound answer config) (row : SucceededRow config.shared id record) :
    Sound answer later ∧ SucceededRow later.shared id record ∧
      later.shared.calls.count id = config.shared.calls.count id := by
  induction steps with
  | refl => exact ⟨sound, row, rfl⟩
  | tail _ step ih =>
    obtain ⟨soundHere, rowHere, calls⟩ := ih
    obtain ⟨rowNext, callsNext⟩ := step.keeps soundHere rowHere
    exact ⟨step.sound distinct soundHere, rowNext, callsNext.trans calls⟩

/-- Once the journal says that a dataset has succeeded, its row stays and it is not executed again,
over every later step of the run and its resumes. -/
theorem succeeded_rows_final (setup : BatchSetup Req Resp Lock) (service : Service Req Resp State)
    (distinct : (setup.plan.datasets.map (·.datasetId)).Nodup) (config later : Config Resp State)
    (reached : BatchReaches setup service config)
    (goesOn : Relation.ReflTransGen (BatchStep setup service) config later) (id : String)
    (record : DatasetRunRecord) (found : config.shared.journal.dataset id = some record)
    (succeeded : record.state = .succeeded) :
    later.shared.journal.dataset id = some record ∧
      later.shared.calls.count id = config.shared.calls.count id := by
  obtain ⟨_, outside, steps⟩ := reached
  -- whatever the observer expects, it expects an answer the service could give
  have sound : Sound (fun request => (service.serve request outside).1) config :=
    sound_of_reaches distinct steps
  obtain ⟨-, row, calls⟩ := keeps_of_steps distinct goesOn sound ⟨found, succeeded⟩
  exact ⟨row.1, calls⟩

end

namespace Reference

/-- The process stops right after the task, and a resume finds the run complete. -/
theorem succeeded_rows_final_resumed :
    ∃ (config later : Config NoAnswer Unit) (record : DatasetRunRecord),
      BatchReaches setup service config ∧ record.state = .succeeded ∧
      later.shared.journal.identity.completedAt = some "12:00" ∧
      later.shared.journal.dataset "sales" = some record ∧
      later.shared.calls.count "sales" = config.shared.calls.count "sales" := by
  obtain ⟨record, found, succeeded⟩ := succeeds
  have reached : BatchReaches setup service
      ⟨.scheduling [] ⟨[], none, [⟨task, .done outcome⟩], []⟩, afterTask, ()⟩ :=
    ⟨false, (), runs.lift id fun _ _ => .run⟩
  have resumes : Relation.ReflTransGen (BatchStep setup service)
      ⟨.scheduling [] ⟨[], none, [⟨task, .done outcome⟩], []⟩, afterTask, ()⟩
      ⟨.stopped, markCompleted "12:00" afterTask, ()⟩ :=
    .head .stop (.single (.resumeComplete (by decide +kernel) (by decide +kernel)))
  obtain ⟨kept, calls⟩ := succeeded_rows_final setup service (by decide) _ _ reached resumes
    "sales" record found succeeded
  exact ⟨_, _, record, reached, succeeded, by decide +kernel, kept, calls⟩

end Reference

end Parqonaut.Orchestrator
