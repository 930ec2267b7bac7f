import Parqonaut.Orchestrator.TaskTrace

/-!
# What a resume executes

A resume that runs to its end without cancellation or panic executes exactly the datasets whose
state is not terminal. `is_terminal` counts `Cancelled`, so no resume executes a dataset that was
left cancelled, although the status of the run calls it resumable.
-/

namespace Parqonaut.Orchestrator

open Effects List

section

variable {Req Lock State : Type} {Resp : Req → Type} {answer : (request : Req) → Resp request}
  {setup : BatchSetup Req Resp Lock} {service : Service Req Resp State}

/-- The journal has a terminal state for the dataset. -/
def isFinished (journal : Journal) (id : String) : Bool :=
  (journal.dataset id).any fun record => record.state.isTerminal

/-! ## Datasets in hand -/

/-- No task of the pool is for a finished dataset, and the spawned ones keep to their own. -/
structure OpenPool (answer : (request : Req) → Resp request) (finished : String → Bool)
    (pool : Pool Resp) : Prop where
  pending : ∀ task ∈ pool.pending, finished task.dataset.datasetId = false
  holding : ∀ task ∈ pool.holding, finished task.dataset.datasetId = false
  active : ∀ spawned ∈ pool.active, finished spawned.task.dataset.datasetId = false ∧
    ∃ trace, Follows true answer spawned trace

/-- The dataset has been executed, or there is a task that will execute it. -/
inductive InHand (answer : (request : Req) → Resp request) (executed : List String)
    (pool : Pool Resp) (id : String) : Prop where
  | executed (done : id ∈ executed)
  | pending (task : PreparedTask) (mem : task ∈ pool.pending) (isTask : task.dataset.datasetId = id)
  | holding (task : PreparedTask) (mem : task ∈ pool.holding) (isTask : task.dataset.datasetId = id)
  | active (spawned : SpawnedTask Resp) (mem : spawned ∈ pool.active)
      (isTask : spawned.task.dataset.datasetId = id) (trace : TaskTrace)
      (follows : Follows false answer spawned trace)
      (noted : ∀ attempted ∈ trace.attempted, attempted ∈ executed)

/-- Every open dataset of the plan is accounted for, unless the run is disturbed. -/
def Accounts (setup : BatchSetup Req Resp Lock) (finished : String → Bool) (shared : Shared)
    (handled : String → Prop) : Prop :=
  shared.cancelled = true ∨ shared.panicked = true ∨
    ∀ ds ∈ setup.plan.datasets, finished ds.datasetId = false → handled ds.datasetId

/-- What holds of a process that resumes a run. `finished` are the datasets with a terminal state,
`calls` the calls before the resume. -/
def Progress (answer : (request : Req) → Resp request) (setup : BatchSetup Req Resp Lock)
    (finished : String → Bool) (calls : List String) (config : Config Resp State) : Prop :=
  ∃ executed, config.shared.calls = calls ++ executed ∧ (∀ id ∈ executed, finished id = false) ∧
    match config.phase with
    | .stopped => False
    | .recovering todo =>
      (∀ id, isFinished config.shared.journal id = finished id) ∧
        ∀ record ∈ todo, record.state.isTerminal = finished record.datasetId
    | .preparing mode existing todo tasks =>
      mode = .resume ∧ (∀ id, skippedOnResume existing id = finished id) ∧
        (∀ task ∈ tasks, finished task.dataset.datasetId = false) ∧
        ∀ ds ∈ setup.plan.datasets, finished ds.datasetId = false →
          ds ∈ todo ∨ ∃ task ∈ tasks, task.dataset.datasetId = ds.datasetId
    | .scheduling _ pool =>
      OpenPool answer finished pool ∧
        Accounts setup finished config.shared (InHand answer executed pool)
    | .closing _ => Accounts setup finished config.shared (· ∈ executed)

/-! ## One step -/

variable {finished : String → Bool} {shared shared' : Shared}

lemma Accounts.imp
    {handled handled' : String → Prop} (accounts : Accounts setup finished shared handled)
    (cancelled : shared.cancelled = true → shared'.cancelled = true)
    (panicked : shared.panicked = true → shared'.panicked = true)
    (handles : ∀ id, handled id → handled' id) : Accounts setup finished shared' handled' := by
  rcases accounts with isCancelled | hasPanicked | all
  · exact .inl (cancelled isCancelled)
  · exact .inr (.inl (panicked hasPanicked))
  · exact .inr (.inr fun ds mem isOpen => handles _ (all ds mem isOpen))

variable {journal : Journal} {id : String}

lemma isFinished_upsertDataset {record : DatasetRunRecord} :
    isFinished (journal.upsertDataset record) id =
      if id = record.datasetId then record.state.isTerminal else isFinished journal id := by
  unfold isFinished
  rw [dataset_upsertDataset]
  split <;> rfl

variable {trace after : TaskTrace}

/-- The calls that a request of a task adds. -/
lemma TaskEffect.calls (effect : TaskEffect (shared, trace) (shared', after)) :
    ∃ added, shared'.calls = shared.calls ++ added ∧ (∀ id ∈ added, id ∈ after.touched) ∧
      ∀ id ∈ after.attempted, id ∈ trace.attempted ∨ id ∈ added := by
  cases effect with
  | quiet _ calls =>
    exact ⟨[], by rw [calls, append_nil], nofun, fun _ => .inl⟩
  | wrote => exact ⟨[], (append_nil _).symm, nofun, fun _ => .inl⟩
  | @began _ _ id =>
    refine ⟨[id], rfl, ?_, ?_⟩
    · intro _ added
      rw [mem_singleton.mp added]
      exact mem_cons_self
    · intro _ attempted
      rcases mem_cons.mp attempted with rfl | earlier
      · exact .inr mem_cons_self
      · exact .inl earlier

lemma TaskEffect.disturbed (effect : TaskEffect (shared, trace) (shared', after)) :
    (shared.cancelled = true → shared'.cancelled = true) ∧
      (shared.panicked = true → shared'.panicked = true) := by
  cases effect with
  | quiet _ _ panicked cancelled => exact ⟨cancelled, fun set => panicked.trans set⟩
  | wrote | began => exact ⟨id, id⟩

variable {pending : List PreparedTask} {holding : Option PreparedTask}
  {front back : List (SpawnedTask Resp)} {results : List DatasetExecutionOutcome}
  {executed : List String}

/-- A dataset stays in hand when one task of the pool moves or leaves, provided that the
dataset of that task does. -/
lemma InHand.replace {active : List (SpawnedTask Resp)}
    {results' : List DatasetExecutionOutcome} {spawned : SpawnedTask Resp} {executed' : List String}
    (inHand : InHand answer executed ⟨pending, holding, front ++ spawned :: back, results⟩ id)
    (others : front ++ back ⊆ active) (grows : executed ⊆ executed')
    (moved : ∀ trace, Follows false answer spawned trace →
      (∀ attempted ∈ trace.attempted, attempted ∈ executed) →
      InHand answer executed' ⟨pending, holding, active, results'⟩ spawned.task.dataset.datasetId) :
    InHand answer executed' ⟨pending, holding, active, results'⟩ id := by
  cases inHand with
  | executed done => exact .executed (grows done)
  | pending task mem isTask => exact .pending task mem isTask
  | holding task mem isTask => exact .holding task mem isTask
  | active other mem isTask trace follows noted =>
    by_cases same : other = spawned
    · subst same
      exact isTask ▸ moved trace follows noted
    · have stays : other ∈ front ++ back := by
        simpa only [mem_append, mem_cons, same, false_or] using mem
      exact .active other (others stays) isTask trace follows fun attempted seen =>
        grows (noted attempted seen)

variable {existing : List DatasetRunRecord} {ds : DatasetPlan} {task : PreparedTask}

lemma mem_prepareDataset {tasks : List PreparedTask}
    (skipped : ∀ id, skippedOnResume existing id = finished id) :
    task ∈ prepareDataset .resume existing ds tasks ↔ task ∈ tasks ∨ finished ds.datasetId = false ∧
        task = ⟨ds, (findRecord existing ds.datasetId).map (·.state)⟩ := by
  unfold prepareDataset
  rw [skipped]
  cases isFinished : finished ds.datasetId with
  | true => simp
  | false => simp

variable {calls : List String} {world world' : State}

/-- One task of the pool makes a request. -/
lemma Progress.serve {request : TaskReq Req}
    {next : TaskResp Resp request → TaskM Resp DatasetExecutionOutcome}
    {reply : TaskResp Resp request}
    (answers : (taskService.both service).Answers request (shared, world) reply (shared', world'))
    (isCalls : shared.calls = calls ++ executed) (isOpen : ∀ id ∈ executed, finished id = false)
    (pool : OpenPool answer finished
      ⟨pending, holding, front ++ ⟨task, .call request next⟩ :: back, results⟩)
    (accounts : Accounts setup finished shared (InHand answer executed
      ⟨pending, holding, front ++ ⟨task, .call request next⟩ :: back, results⟩)) :
    Progress answer setup finished calls
      ⟨.scheduling existing ⟨pending, holding, front ++ ⟨task, next reply⟩ :: back, results⟩,
        shared', world'⟩ := by
  obtain ⟨taskOpen, _, follows⟩ :=
    pool.active _ (mem_append_right _ mem_cons_self)
  obtain ⟨after, goesOn, effect, -⟩ := follows.serve answers nofun
  obtain ⟨added, isAdded, addedOwn, -⟩ := effect.calls
  obtain ⟨cancelled, panicked⟩ := effect.disturbed
  refine ⟨executed ++ added, ?_, ?_, ⟨pool.pending, pool.holding, ?_⟩, ?_⟩
  · rw [isAdded, isCalls, append_assoc]
  · intro id mem
    rcases mem_append.mp mem with earlier | new
    · exact isOpen id earlier
    · rw [goesOn.own id (addedOwn id new)]
      exact taskOpen
  · intro spawned mem
    rcases mem_replaced mem with rfl | other
    · exact ⟨taskOpen, after, goesOn⟩
    · exact pool.active spawned other
  · -- a task is followed as one that is not told of a cancellation while there is none
    cases live : shared.cancelled with
    | true => exact .inl (cancelled live)
    | false =>
      refine accounts.imp cancelled panicked fun id inHand => ?_
      refine inHand.replace ?_ (subset_append_left _ _) ?_
      · exact sublist_removed.subset
      · intro _ followsLive noted
        obtain ⟨seen', goesOnLive, effectLive, -⟩ := followsLive.serve answers fun _ => live
        obtain ⟨added', isAdded', -, attempts⟩ := effectLive.calls
        have sameAdded : added' = added :=
          append_cancel_left (isAdded'.symm.trans isAdded)
        refine .active _ (mem_append_right _ mem_cons_self) rfl seen' goesOnLive ?_
        intro attempted isAttempted
        rcases attempts attempted isAttempted with earlier | new
        · exact mem_append_left _ (noted attempted earlier)
        · exact mem_append_right _ (sameAdded ▸ new)

variable {before : Config Resp State}

lemma Progress.step {after : Config Resp State} (steps : RunStep setup service before after)
    (progress : Progress answer setup finished calls before) :
    Progress answer setup finished calls after := by
  obtain ⟨executed, isCalls, isOpen, progress⟩ := progress
  cases steps with
  | @recover record _ shared _ now =>
    obtain ⟨sameFinished, todoFinished⟩ := progress
    refine ⟨executed, ?_, isOpen, ?_, fun other mem =>
      todoFinished other (mem_cons_of_mem _ mem)⟩
    · dsimp only
      split <;> exact isCalls
    · intro id
      dsimp only
      split
      · change isFinished (shared.journal.upsertDataset (recoveredRecord record now)) id = _
        rw [isFinished_upsertDataset]
        split
        · rename_i same
          rw [same]
          exact (DatasetState.isTerminal_recoverAfterCrash record.state).trans
            (todoFinished record mem_cons_self)
        · exact sameFinished id
      · exact sameFinished id
  | readJournal =>
    refine ⟨executed, isCalls, isOpen, rfl, ?_, nofun, fun ds mem _ => .inl mem⟩
    intro id
    rw [skippedOnResume_eq, findRecord_listDatasets]
    exact progress.1 id
  | prepare =>
    obtain ⟨rfl, skipped, tasksOpen, covered⟩ := progress
    refine ⟨executed, isCalls, isOpen, rfl, skipped, ?_, ?_⟩
    · intro task mem
      rcases (mem_prepareDataset skipped).mp mem with earlier | ⟨open_, rfl⟩
      · exact tasksOpen task earlier
      · exact open_
    · intro other mem open_
      rcases covered other mem open_ with todoMember | ⟨task, taskMember, isTask⟩
      · rcases mem_cons.mp todoMember with rfl | later
        · exact .inr ⟨_, (mem_prepareDataset skipped).mpr (.inr ⟨open_, rfl⟩), rfl⟩
        · exact .inl later
      · exact .inr ⟨task, (mem_prepareDataset skipped).mpr (.inl taskMember), isTask⟩
  | @schedule _ _ _ _ _ _ ended =>
    obtain ⟨rfl, _, tasksOpen, covered⟩ := progress
    refine ⟨executed, isCalls, isOpen, ⟨tasksOpen, nofun, nofun⟩, ?_⟩
    rcases ended with rfl | isCancelled
    · refine .inr (.inr fun ds mem open_ => ?_)
      rcases covered ds mem open_ with never | ⟨task, taskMember, isTask⟩
      · cases never
      · exact .pending task taskMember isTask
    · exact .inl isCancelled
  | @take _ _ pending active =>
    obtain ⟨pool, accounts⟩ := progress
    refine ⟨executed, isCalls, isOpen, ⟨fun other mem =>
      pool.pending other (mem_cons_of_mem _ mem), ?_, pool.active⟩,
      accounts.imp id id ?_⟩
    · rintro other ⟨⟩
      exact pool.pending _ mem_cons_self
    · intro _ inHand
      cases inHand with
      | executed done => exact .executed done
      | holding _ mem => cases mem
      | active spawned mem isTask trace follows noted =>
        exact .active spawned mem isTask trace follows noted
      | pending other mem isTask =>
        rcases mem_cons.mp mem with rfl | mem
        · exact .holding other rfl isTask
        · exact .pending other mem isTask
  | @spawn _ task pending active =>
    obtain ⟨pool, accounts⟩ := progress
    refine ⟨executed, isCalls, isOpen, ⟨pool.pending, nofun, ?_⟩, accounts.imp id id ?_⟩
    · intro spawned mem
      rcases mem_append.mp mem with earlier | new
      · exact pool.active spawned earlier
      · rw [mem_singleton.mp new]
        exact ⟨pool.holding task rfl, _, .start⟩
    · intro _ inHand
      cases inHand with
      | executed done => exact .executed done
      | pending other mem isTask => exact .pending other mem isTask
      | active spawned mem isTask trace follows noted =>
        exact .active spawned (mem_append_left _ mem) isTask trace follows noted
      | holding _ mem isTask =>
        cases mem
        exact .active _ (mem_append_right _ mem_cons_self) isTask _ .start nofun
  | @serve _ _ _ _ _ _ _ _ _ _ _ _ _ _ answers =>
      obtain ⟨pool, accounts⟩ := progress
      exact Progress.serve answers isCalls isOpen pool accounts
  | @join _ pending holding =>
    obtain ⟨pool, accounts⟩ := progress
    refine ⟨executed, isCalls, isOpen, ⟨pool.pending, pool.holding, fun spawned mem =>
      pool.active spawned (sublist_removed.subset mem)⟩, ?_⟩
    refine accounts.imp id id fun _ inHand => ?_
    refine inHand.replace (List.Subset.refl _) (List.Subset.refl _) ?_
    intro _ follows noted
    exact .executed (noted _ (Program.wp_done.mp follows.rest rfl))
  | @panic _ pending holding =>
    obtain ⟨pool, -⟩ := progress
    exact ⟨executed, isCalls, isOpen, ⟨pool.pending, pool.holding, fun spawned mem =>
      pool.active spawned (sublist_removed.subset mem)⟩, .inr (.inl rfl)⟩
  | @finish _ pending _ _ _ ended =>
    obtain ⟨-, accounts⟩ := progress
    refine ⟨executed, isCalls, isOpen, ?_⟩
    rcases ended with rfl | isCancelled
    · refine accounts.imp id id fun _ inHand => ?_
      cases inHand with
      | executed done => exact done
      | pending _ mem => cases mem
      | holding _ mem => cases mem
      | active _ mem => cases mem
    · exact .inl isCancelled
  | @cancel phase =>
    refine ⟨executed, isCalls, isOpen, ?_⟩
    cases phase with
    | stopped | recovering | preparing => exact progress
    | scheduling => exact ⟨progress.1, .inl rfl⟩
    | closing => exact .inl rfl

lemma Progress.steps {after : Config Resp State}
    (steps : Relation.ReflTransGen (RunStep setup service) before after)
    (progress : Progress answer setup finished calls before) :
    Progress answer setup finished calls after := by
  induction steps with
  | refl => exact progress
  | tail _ step ih => exact ih.step step

variable {cancelled : Bool}

lemma Progress.start : Progress answer setup (isFinished shared.journal) shared.calls
      ⟨.recovering shared.journal.listDatasets, newProcess cancelled shared, world⟩ := by
  refine ⟨[], (append_nil _).symm, nofun, fun _ => rfl, ?_⟩
  intro record mem
  have found : shared.journal.dataset record.datasetId = some record :=
    Sql.Table.find_eq_some.mpr ⟨mem_listDatasets.mp mem, rfl⟩
  rw [isFinished, found, Option.any_some]

/-! ## A whole resume -/

/-- States that a resume is meant to leave as they are. -/
def isSettled : Option DatasetState → Bool
  | some .succeeded | some .blocked | some .staleSource | some .failedPermanent
  | some .verificationFailed => true
  | _ => false

/-- State of a dataset in the journal. -/
def stateOf (journal : Journal) (id : String) : Option DatasetState :=
  (journal.dataset id).map (·.state)

lemma isFinished_eq : isFinished journal id =
      (isSettled (stateOf journal id) || decide (stateOf journal id = some .cancelled)) := by
  unfold isFinished stateOf
  cases journal.dataset id with
  | none => rfl
  | some record => cases state : record.state <;> simp [state, isSettled, DatasetState.isTerminal]

/-- The dataset was executed between two shared states of a run. -/
def ExecutedBetween (before after : Shared) (id : String) : Prop :=
  ∃ executed, after.calls = before.calls ++ executed ∧ id ∈ executed

lemma not_executedBetween {before after : Shared}
    (same : after.calls = before.calls) : ¬ ExecutedBetween before after id := by
  rintro ⟨_, isCalls, mem⟩
  rw [same, self_eq_append_right] at isCalls
  rw [isCalls] at mem
  cases mem

/-- A resume of an incomplete run that is not disturbed executes the open datasets and no
other ones. -/
lemma executedBetween_iff {outcomes : List DatasetExecutionOutcome}
    (steps : Relation.ReflTransGen (RunStep setup service)
      ⟨.recovering shared.journal.listDatasets, newProcess cancelled shared, world⟩
      ⟨.closing outcomes, shared', world'⟩)
    (live : shared'.cancelled = false) (calm : shared'.panicked = false)
    (mem : ds ∈ setup.plan.datasets) :
    ExecutedBetween shared shared' ds.datasetId ↔
      isFinished shared.journal ds.datasetId = false := by
  -- whatever the observer expects, it expects an answer the service could give
  have progress : Progress (fun request => (service.serve request world).1) setup
      (isFinished shared.journal) shared.calls ⟨.closing outcomes, shared', world'⟩ :=
    Progress.start.steps steps
  obtain ⟨executed, isCalls, isOpen, accounts⟩ := progress
  constructor
  · rintro ⟨executed', isCalls', isExecuted⟩
    have same : executed' = executed := append_cancel_left (isCalls'.symm.trans isCalls)
    exact isOpen _ (same ▸ isExecuted)
  · intro open_
    rcases accounts with cancelled | panicked | all
    · exact absurd (live.symm.trans cancelled) nofun
    · exact absurd (calm.symm.trans panicked) nofun
    · exact ⟨executed, isCalls, all ds mem open_⟩

lemma isFinished_of_complete {plan : BatchPlan}
    (complete : runIsComplete plan journal.listDatasets = true) (mem : ds ∈ plan.datasets) :
    isFinished journal ds.datasetId = true := by
  have finished := all_eq_true.mp complete ds mem
  rw [findRecord_listDatasets] at finished
  exact finished

/-- A resume that runs to its end, without cancellation or panic, executes a dataset that is not
settled exactly when it is not a dry run and the dataset is not cancelled in the journal. -/
theorem unsettled_executed_iff (setup : BatchSetup Req Resp Lock)
    (service : Service Req Resp State) (dryRun : Bool) (before after : Shared × State)
    (resumes : Resumes setup service dryRun before after) (live : after.1.cancelled = false)
    (calm : after.1.panicked = false) (ds : DatasetPlan) (member : ds ∈ setup.plan.datasets) :
    (isSettled (stateOf before.1.journal ds.datasetId) = false →
        ExecutedBetween before.1 after.1 ds.datasetId) ↔
      (isSettled (stateOf before.1.journal ds.datasetId) = true ∨
        dryRun = false ∧ stateOf before.1.journal ds.datasetId ≠ some .cancelled) := by
  cases settled : isSettled (stateOf before.1.journal ds.datasetId) with
  | true => simp only [Bool.true_eq_false, false_implies, true_or]
  | false =>
    have finished : isFinished before.1.journal ds.datasetId =
        decide (stateOf before.1.journal ds.datasetId = some .cancelled) := by
      rw [isFinished_eq, settled, Bool.false_or]
    simp only [true_implies, Bool.false_eq_true, false_or]
    cases resumes with
    | dryRun =>
      refine iff_of_false (not_executedBetween rfl) ?_
      exact fun condition => absurd condition.1 nofun
    | @complete shared _ cancelled now _ complete =>
      obtain ⟨_, marked⟩ := @markCompleted_eq now (newProcess cancelled shared)
      refine iff_of_false (not_executedBetween (by rw [marked]; rfl)) ?_
      rintro ⟨-, notCancelled⟩
      rw [isFinished_of_complete complete member] at finished
      exact notCancelled (of_decide_eq_true finished.symm)
    | @execute _ _ _ _ shared' _ now _ _ steps =>
      obtain ⟨_, marked⟩ := @markRun_eq setup.plan now shared'
      rw [marked] at live calm ⊢
      have executes := executedBetween_iff steps live calm member
      rw [finished, decide_eq_false_iff_not] at executes
      exact executes.trans ⟨fun notCancelled => ⟨rfl, notCancelled⟩, fun meets => meets.2⟩

/-! ## Scheduler -/

variable {pool : Pool Resp}

/-- Number of tasks that run or are about to be spawned. -/
def Pool.load (pool : Pool Resp) : Nat := pool.active.length + pool.holding.toList.length

/-- What has become of the tasks of `pool` in `later`: `spawned` were spawned, in the order of
the list, `ended` have ended with these outcomes, and `lost` have panicked. -/
structure Advances (maxJobs : Nat) (cancelled panicked : Bool) (pool later : Pool Resp)
    (spawned lost : List PreparedTask) (ended : List (PreparedTask × DatasetExecutionOutcome)) :
    Prop where
  order : pool.holding.toList ++ pool.pending = spawned ++ (later.holding.toList ++ later.pending)
  tasks : (pool.active.map (·.task) ++ spawned).Perm
    (ended.map (·.1) ++ (lost ++ later.active.map (·.task)))
  results : later.results = pool.results ++ ended.map (·.2)
  calm : panicked = false → lost = []
  bounded : pool.load ≤ maxJobs → later.load ≤ maxJobs
  stopped : cancelled = true → later.pending = pool.pending

/-- The scheduler has come to this configuration from `pool`, or is through. -/
def Scheduled (setup : BatchSetup Req Resp Lock) (pool : Pool Resp) (cancelled : Bool)
    (config : Config Resp State) : Prop :=
  (cancelled = true → config.shared.cancelled = true) ∧
    match config.phase with
    | .scheduling _ later => ∃ spawned lost ended,
      Advances setup.maxJobs cancelled config.shared.panicked pool later spawned lost ended
    | .closing _ => True
    | _ => False

lemma Scheduled.step {config next : Config Resp State}
    (scheduled : Scheduled setup pool cancelled config)
    (step : RunStep setup service config next) : Scheduled setup pool cancelled next := by
  obtain ⟨flag, scheduled⟩ := scheduled
  cases step with
  | recover | readJournal | prepare | schedule => exact scheduled.elim
  | finish => exact ⟨flag, trivial⟩
  | cancel => exact ⟨fun _ => rfl, scheduled⟩
  | take live room =>
    obtain ⟨spawned, lost, ended, adv⟩ := scheduled
    exact ⟨flag, spawned, lost, ended, { adv with
      bounded := fun _ => room, stopped := fun set => nomatch live.symm.trans (flag set) }⟩
  | @spawn _ task =>
    obtain ⟨spawned, lost, ended, adv⟩ := scheduled
    refine ⟨flag, spawned ++ [task], lost, ended, { adv with
      order := ?_, tasks := ?_, bounded := ?_ }⟩
    · rw [adv.order, append_assoc]
      rfl
    · simpa only [map_append, map_cons, map_nil, append_assoc] using adv.tasks.append_right [task]
    · simpa [Pool.load] using adv.bounded
  | @serve _ _ _ _ _ _ _ _ _ _ outside _ _ _ answers =>
    obtain ⟨spawned, lost, ended, adv⟩ := scheduled
    let answer := fun request => (service.serve request outside).1
    obtain ⟨_, -, effect⟩ : ∃ after, (observer true answer).Answers _ (.start, ()) _ (after, ()) ∧
        TaskEffect _ (_, after) := observes answers nofun
    obtain ⟨keeps, panics⟩ := effect.disturbed
    refine ⟨fun set => keeps (flag set), spawned, lost, ended, { adv with
      tasks := ?_, bounded := ?_, calm := fun still => adv.calm (Bool.eq_false_iff.mpr ?_) }⟩
    · simpa using adv.tasks
    · exact fun set => nomatch still.symm.trans (panics set)
    · simpa [Pool.load] using adv.bounded
  | @join _ _ _ front _ _ task outcome =>
    obtain ⟨spawned, lost, ended, adv⟩ := scheduled
    have joined := @perm_middle _ task (lost ++ front.map (·.task))
    refine ⟨flag, spawned, lost, ended ++ [(task, outcome)], { adv with
      tasks := adv.tasks.trans ?_, results := ?_
      bounded := fun bound =>
        (Nat.add_le_add_right sublist_removed.length_le _).trans (adv.bounded bound) }⟩
    · simpa using joined.append_left (ended.map (·.1))
    · simp [← adv.results, ← append_assoc]
  | @panic _ _ _ front _ _ task =>
    obtain ⟨spawned, lost, ended, adv⟩ := scheduled
    have left := @perm_middle _ task (front.map (·.task))
    refine ⟨flag, spawned, lost ++ [task], ended, { adv with
      tasks := adv.tasks.trans ?_, calm := nofun
      bounded := fun bound =>
        (Nat.add_le_add_right sublist_removed.length_le _).trans (adv.bounded bound) }⟩
    simpa using (left.append_left lost).append_left (ended.map (·.1))

end

namespace Reference

/-! ## A resume that executes its dataset, and one that does not -/

/-- A process is stopped before it does anything, and a resume of the run executes the
dataset. -/
theorem unsettled_executed_iff_stopped : BatchReaches setup service ⟨.stopped, shared, ()⟩ ∧
      ∃ later, ExecutedBetween shared later "sales" ∧
        later.journal.identity.completedAt = some "12:00" := by
  have stopped : BatchReaches setup service ⟨.stopped, shared, ()⟩ :=
    ⟨false, (), .single .stop⟩
  have spawns : Relation.ReflTransGen (RunStep setup service)
      ⟨.recovering shared.journal.listDatasets, newProcess false shared, ()⟩
      ⟨.scheduling [] ⟨[], none, [⟨task, setup.program task⟩], []⟩, shared, ()⟩ :=
    .head (.readJournal (by decide +kernel)) (.head (.prepare rfl) (.head (.schedule (.inl rfl))
      (.head (.take rfl (by decide)) (.single .spawn))))
  have runs := spawns.trans (RunStep.runTask [] (setup.program task) shared ())
  have ends :=
    runs.trans (.head (@RunStep.join _ _ _ _ _ _ _ _ _ [] [] _ _ _ _ _ (by decide +kernel))
      (.single (.finish (.inl rfl))))
  have resumes : Resumes setup service false (shared, ())
      (markRun setup.plan "12:00" afterTask, ()) :=
    .execute (by decide +kernel) (by decide +kernel) ends
  refine ⟨stopped, markRun setup.plan "12:00" afterTask, ?_, by decide +kernel⟩
  exact (unsettled_executed_iff setup service false _ _ resumes (by decide +kernel)
    (by decide +kernel) dataset (mem_singleton.mpr rfl)).mpr
    (.inr ⟨rfl, by decide +kernel⟩) (by decide +kernel)

/-- Task, after it has found that the run is not cancelled. -/
def started : TaskM NoAnswer DatasetExecutionOutcome :=
  executeDatasetWithRetries setup.outside setup.repair setup.config dataset setup.runId none

/-- What the process leaves when the run is cancelled at that point. -/
def cancelledRun : Shared :=
  markRun setup.plan "11:00"
    (started.run (taskService.both service) ({ shared with cancelled := true }, ())).2.1

/-- The run is cancelled while its task starts, so the journal says that the dataset is cancelled.
The resume finds all datasets terminal and marks the run completed. -/
theorem cancelled_dataset_not_executed : BatchReaches setup service ⟨.stopped, cancelledRun, ()⟩ ∧
      stateOf cancelledRun.journal "sales" = some .cancelled ∧
      ∃ later, Resumes setup service false (cancelledRun, ()) later ∧
        later.1.cancelled = false ∧ later.1.panicked = false ∧
        later.1.journal.identity.completedAt = some "12:00" ∧
        ¬ ExecutedBetween cancelledRun later.1 "sales" := by
  have starts :=
    spawns.trans (.head (@RunStep.serve _ _ _ _ _ _ _ _ _ [] [] _ _ _ _ _ _ _ _ _ (.inl rfl))
      (.single .cancel))
  have runs := starts.trans (RunStep.runTask [] started { shared with cancelled := true } ())
  have closes := runs.trans (.head
    (@RunStep.join _ _ _ _ _ _ _ _ _ [] [] _ _ _ _ _ (by decide +kernel))
    (.single (.finish (.inl rfl))))
  have stops : Relation.ReflTransGen (BatchStep setup service) (freshRun setup false ())
      ⟨.stopped, cancelledRun, ()⟩ :=
    (closes.lift id fun _ _ => .run).tail .mark
  have resumes : Resumes setup service false (cancelledRun, ())
      (markCompleted "12:00" (newProcess false cancelledRun), ()) :=
    .complete (by decide +kernel) (by decide +kernel)
  refine ⟨⟨false, (), stops⟩, by decide +kernel, _, resumes, by decide +kernel,
    by decide +kernel, by decide +kernel, not_executedBetween (by decide +kernel)⟩

end Reference

end Parqonaut.Orchestrator
