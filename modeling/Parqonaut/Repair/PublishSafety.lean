import Parqonaut.Repair.Plan
import Parqonaut.Storage.FaultFree

/-!
# What a publication of a work directory does

`publish_work_dir` keeps the dataset consistent at every backend call. When it returns a value,
each of its objects was created by this very call.
-/

namespace Parqonaut.Repair

open Effects Rust Storage
open Storage.RemotePublicationSession

section

variable {Bytes : Type} {ids : VersionIds} {serde : SerdeJson Bytes} {location : S3Location}
  {s3 : S3Service Bytes} {store : Store Bytes} {session : RemotePublicationSession}

/-- The objects that an upload of the keys `rels` has created. -/
structure Uploaded (location : S3Location) (versionId : String) (rels : List String)
    (before : Store Bytes) : Prop where
  clean : ∀ rel ∈ rels, Str.contains (dataPath versionId rel).relative ".." = false
  absent : ∀ rel ∈ rels, ¬ before.Has (location.locate (dataPath versionId rel))
  distinct : (rels.map (dataPath versionId)).Nodup

variable {rel : String} {rels : List String}

lemma Uploaded.cons {versionId : String} {after : Store Bytes}
    (within : ∀ rel, (dataPath versionId rel).Within ids)
    (created : Created location (dataPath versionId rel) store after)
    (keeps : Keeps ids location store after) (rest : Uploaded location versionId rels after) :
    Uploaded location versionId (rel :: rels) store where
  clean := by
    intro other mem
    rcases List.mem_cons.mp mem with same | later
    · rw [same]
      exact created.clean
    · exact rest.clean other later
  absent := by
    intro other mem before
    rcases List.mem_cons.mp mem with same | later
    · rw [same] at before
      exact created.absent before
    · have still := keeps.present _ (within other) (by simp [dataPath]) before
      exact rest.absent other later still
  distinct := by
    rw [List.map_cons, List.nodup_cons]
    refine ⟨fun mem => ?_, rest.distinct⟩
    obtain ⟨other, later, same⟩ := List.mem_map.mp mem
    apply rest.absent other later
    rw [same]
    exact created.present

/-- The postcondition of the publishing methods. -/
def UploadPost {α : Type} (ids : VersionIds) (serde : SerdeJson Bytes)
    (location : S3Location) (before : RemotePublicationSession) (rels : List String)
    (initial : Store Bytes) (outcome : Except RepairError α × RemotePublicationSession)
    (after : Store Bytes) : Prop :=
  SessionPost ids serde location before (fun _ => True) outcome after ∧
    ∀ value, outcome.1 = .ok value → Uploaded location before.versionId rels initial

variable {α : Type}

lemma wp_uploadPost_nil
    {method : PublishM Bytes α} (safe : Safe ids serde location s3 (fun _ => True) method session
      store) :
    (method.exec session).wp s3.service (Preserves ids serde location)
      (UploadPost ids serde location session [] store) store := by
  apply Program.wp_mono _ safe
  intro _ _ post
  exact ⟨post, fun _ _ => ⟨nofun, nofun, List.nodup_nil⟩⟩

/-- An object and what is uploaded after it. -/
lemma wp_upload_bind {data : Bytes} {second : PublicationObjectRecord → PublishM Bytes α}
    (valid : Consistent ids serde location store)
    (holds : SessionConsistent ids location session store)
    (rest : ∀ record next after, Consistent ids serde location after →
      SessionConsistent ids location next after → next.versionId = session.versionId →
      ((second record).exec next).wp s3.service (Preserves ids serde location)
        (UploadPost ids serde location next rels after) after) :
    ((uploadObject serde rel data >>= second).exec session).wp s3.service
      (Preserves ids serde location)
      (UploadPost ids serde location session (rel :: rels) store) store := by
  rw [Method.wp_bind, uploadObject, Method.wp_bind, Method.wp_mapErr]
  apply Program.wp_mono _ (Program.wp_relates Keeps.refl Keeps.trans
    (fun _ _ preserves => preserves.2) (wp_putVersionObject valid holds))
  intro outcome after put
  obtain ⟨⟨post, created⟩, keeps⟩ := put
  rcases outcome with ⟨result, next⟩
  cases result with
  | error =>
    exact ⟨SessionPost.failed post.consistent post.session post.version, nofun⟩
  | ok metadata =>
    have version : next.versionId = session.versionId := post.version
    apply Program.wp_done.mpr
    apply Program.wp_mono _ (rest _ next after post.consistent post.session version)
    intro _ _ ended
    refine ⟨ended.1.trans version, fun value returned => ?_⟩
    have uploaded := ended.2 value returned
    rw [version] at uploaded
    exact Uploaded.cons (fun _ => holds.admits) (created metadata rfl) keeps uploaded

/-- Uploading files one after another. -/
lemma wp_uploadFiles_bind (files : List (WorkFile Bytes))
    {second : List PublicationObjectRecord → PublishM Bytes α}
    (valid : Consistent ids serde location store)
    (holds : SessionConsistent ids location session store)
    (rest : ∀ records next after, Consistent ids serde location after →
      SessionConsistent ids location next after → next.versionId = session.versionId →
      ((second records).exec next).wp s3.service (Preserves ids serde location)
        (UploadPost ids serde location next rels after) after) :
    ((uploadFiles serde files >>= second).exec session).wp s3.service (Preserves ids serde location)
      (UploadPost ids serde location session (files.map WorkFile.rel ++ rels) store) store := by
  induction files generalizing store session second with
  | nil => exact rest [] session store valid holds rfl
  | cons _ _ ih =>
    rw [uploadFiles, bind_assoc]
    apply wp_upload_bind valid holds
    intro _ _ _ valid holds version
    rw [bind_assoc]
    apply ih valid holds
    intro _ last final valid holds same
    exact rest _ last final valid holds (same.trans version)

variable {runId : String} {work : List (WorkFile Bytes)} {manifest : Bytes}

/-- Publishing on an open session. -/
lemma wp_publishSession (valid : Consistent ids serde location store)
    (holds : SessionConsistent ids location session store) :
    ((publishSession serde (.s3 location) work runId manifest).exec session).wp s3.service
      (Preserves ids serde location)
      (UploadPost ids serde location session
        (work.map WorkFile.rel ++ [EXECUTION_MANIFEST_FILE]) store) store := by
  rw [publishSession]
  apply wp_uploadFiles_bind work valid holds
  intro _ next after valid holds _
  apply wp_upload_bind valid holds
  intro _ next after valid holds _
  apply wp_uploadPost_nil
  apply wp_session_bind (wp_session_mapErr (wp_advanceTo valid holds (by decide)))
  intro _ next after valid holds _ _
  apply wp_session_bind (wp_session_mapErr (wp_advanceTo valid holds (by decide)))
  intro _ next after valid holds _ _
  apply wp_session_bind (wp_session_mapErr (wp_writeManifest valid holds))
  intro _ next after valid holds _ _
  have uri : Safe ids serde location s3 (fun _ => True) (checkUri (.s3 location) runId) next
      after := by
    rw [checkUri]
    split
    · exact safe_pure valid holds _
    · exact safe_throw valid holds _
  apply wp_session_bind uri
  intro _ _ _ valid holds _ _
  apply wp_session_bind (wp_session_mapErr (wp_finish valid holds))
  intro _ _ _ valid holds _ _
  exact safe_pure valid holds _

/-- Every backend call of a publication keeps the dataset consistent. -/
lemma wp_publishWorkDir {capabilities : StorageCapabilities} (admits : ids.Admits runId)
    (valid : Consistent ids serde location store) :
    (publishWorkDir serde capabilities (.s3 location) work runId manifest).run.wp s3.service
      (Preserves ids serde location)
      (fun result _ => ∀ value, result = .ok value →
        Uploaded location runId (work.map WorkFile.rel ++ [EXECUTION_MANIFEST_FILE]) store)
      store := by
  rw [publishWorkDir, Fallible.wp_bind, Fallible.wp_mapErr]
  apply Program.wp_mono _ (Program.wp_relates Keeps.refl Keeps.trans
    (fun _ _ preserves => preserves.2) (wp_begin admits valid))
  intro result _ begun
  obtain ⟨⟨valid, opened⟩, keeps⟩ := begun
  cases result with
  | error => exact nofun
  | ok session =>
    obtain ⟨holds, version⟩ := opened session rfl
    dsimp only [Except.mapError]
    rw [Method.wp_callOn]
    apply Program.wp_mono _ (wp_publishSession valid holds)
    intro _ _ post value returned
    have uploaded := post.2 value returned
    rw [version] at uploaded
    refine ⟨uploaded.clean, fun rel mem before => ?_, uploaded.distinct⟩
    exact uploaded.absent rel mem (keeps.present _ admits (by simp [dataPath]) before)

/-!
# Recovery of an interrupted publication

An interrupted publication is called again with the same work directory and run. Objects are
created under the condition that they are absent, so the second call goes through as long as the
first one had not created a data object.
-/

open List Function

/-- Key of a file below `data/`. -/
def WorkFile.key (file : WorkFile Bytes) : String :=
  Str.trimStartMatches '/' file.rel

/-- Data objects of a published work directory. -/
def publishedObjects (work : List (WorkFile Bytes)) (manifest : Bytes) : List (String × Bytes) :=
  work.map (fun file => (file.key, file.data)) ++ [(EXECUTION_MANIFEST_FILE, manifest)]

/-- Texts for which every object of the publication has a key of its own. -/
structure Publishable (runId : String) (work : List (WorkFile Bytes)) : Prop where
  run : Str.contains runId ".." = false
  files : ∀ file ∈ work, Str.contains file.key ".." = false
  distinct : (work.map WorkFile.key ++ [EXECUTION_MANIFEST_FILE]).Nodup

/-! ## Second call -/

/-- Contents after uploading a list of objects in turn. -/
def uploaded (contents : String → Option Bytes) : List (String × Bytes) → String → Option Bytes
  | [] => contents
  | (key, data) :: rest => uploaded (Function.update contents key (some data)) rest

/-- A session that can still upload, over data objects `contents`. -/
structure Uploads (location : S3Location) (runId : String) (contents : String → Option Bytes)
    (session : RemotePublicationSession) (store : Store Bytes) : Prop where
  opened : SessionOf location runId session
  early : session.state = .preparing ∨ session.state = .uploading
  stage : Stage location runId contents .uploading store

variable {contents : String → Option Bytes} {data : Bytes}

lemma ends_uploadObject (clean : Str.contains runId ".." = false)
    (uploads : Uploads location runId contents session store)
    (plain : Str.contains (Str.trimStartMatches '/' rel) ".." = false)
    (fresh : contents (Str.trimStartMatches '/' rel) = none) :
    Ends s3 ((uploadObject serde rel data).exec session) store (Reached location runId
        (Function.update contents (Str.trimStartMatches '/' rel) (some data)) .uploading) := by
  rw [uploadObject]
  apply ends_bind (ends_mapErr (ends_putVersionObject clean uploads.opened uploads.early
    uploads.stage plain fresh))
  intro _ _ _ session uploading stage
  exact Program.wp_done.mpr ⟨⟨_, rfl⟩, session, uploading, stage⟩

/-- Files with fresh and distinct keys are uploaded one after another. -/
lemma ends_uploadFiles (clean : Str.contains runId ".." = false) (files : List (WorkFile Bytes))
    (uploads : Uploads location runId contents session store)
    (plain : ∀ file ∈ files, Str.contains file.key ".." = false)
    (fresh : ∀ file ∈ files, contents file.key = none) (distinct : (files.map WorkFile.key).Nodup) :
    Ends s3 ((uploadFiles serde files).exec session) store (fun outcome after =>
      ∃ records, outcome.1 = .ok records ∧ Uploads location runId
          (uploaded contents (files.map fun file => (file.key, file.data))) outcome.2 after) := by
  induction files generalizing session store contents with
  | nil => exact Program.wp_done.mpr ⟨[], rfl, uploads⟩
  | cons file files ih =>
    rw [map_cons, nodup_cons] at distinct
    rw [uploadFiles, map_cons, uploaded]
    apply ends_bind (ends_uploadObject clean uploads (plain file (by simp)) (fresh file (by simp)))
    intro _ next after session uploading stage
    have later : ∀ other ∈ files,
        Function.update contents file.key (some file.data) other.key = none := by
      intro other mem
      have different : other.key ≠ file.key := by
        intro same
        exact distinct.1 (mem_map.mpr ⟨other, mem, same⟩)
      rw [update_of_ne different]
      exact fresh other (by simp [mem])
    have rest : Uploads location runId
        (Function.update contents file.key (some file.data)) next after :=
      ⟨session, .inr uploading, stage⟩
    apply ends_bind_of (fun _ next after => Uploads location runId
      (uploaded (Function.update contents file.key (some file.data))
        (files.map fun file => (file.key, file.data))) next after)
    · exact ih rest (fun other mem => plain other (by simp [mem])) later distinct.2
    · intro _ _ _ uploads
      exact Program.wp_done.mpr ⟨_, rfl, uploads⟩

variable {key : String}

lemma uploaded_of_not_mem (objects : List (String × Bytes)) (other : key ∉ objects.map Prod.fst) :
    uploaded contents objects key = contents key := by
  induction objects generalizing contents with
  | nil => rfl
  | cons _ _ ih =>
    simp only [map_cons, mem_cons, not_or] at other
    rw [uploaded, ih other.2, update_of_ne other.1]

lemma uploaded_append (contents : String → Option Bytes) (first second : List (String × Bytes)) :
    uploaded contents (first ++ second) = uploaded (uploaded contents first) second := by
  induction first generalizing contents with
  | nil => rfl
  | cons _ _ ih => exact ih _

lemma manifestUri_of_clean (location : S3Location) (clean : Str.contains runId ".." = false) :
    ∃ uri, manifestUri (.s3 location) runId = .ok uri := by
  have key : ".parqonaut/versions/" ++ runId ++ "/data/" ++ EXECUTION_MANIFEST_FILE =
      (PublicationPath.version runId (.data EXECUTION_MANIFEST_FILE)).relative := by
    apply Str.eq_of_toList_eq
    simp [PublicationPath.relative, versionPrefix, VERSIONS_PREFIX, VersionFile.name, DATA_PREFIX]
  have plain : (VersionFile.data EXECUTION_MANIFEST_FILE).hasDots = false := by decide
  unfold manifestUri
  simp only [key, S3Location.objectKey_relative, relative_clean _ clean plain]
  exact ⟨_, rfl⟩

/-- Publishing on a session that can still upload. -/
lemma ends_publishSession (publishable : Publishable runId work)
    (uploads : Uploads location runId (fun _ => none) session store) :
    Ends s3 ((publishSession serde (.s3 location) work runId manifest).exec session) store
      (fun outcome after => (∃ value, outcome.1 = .ok value) ∧
        Stage location runId (uploaded (fun _ => none) (publishedObjects work manifest))
          .current after ∧
        Names serde location runId after) := by
  have clean := publishable.run
  have distinct := nodup_append.mp publishable.distinct
  have trimmed : Str.trimStartMatches '/' EXECUTION_MANIFEST_FILE = EXECUTION_MANIFEST_FILE := by
    decide
  have fresh : uploaded (fun _ => none) (work.map fun file => (file.key, file.data))
      EXECUTION_MANIFEST_FILE = none := by
    apply uploaded_of_not_mem
    rw [map_map]
    intro mem
    exact distinct.2.2 _ mem _ (by simp) rfl
  rw [publishSession]
  apply ends_bind_of (fun _ next after => Uploads location runId
    (uploaded (fun _ => none) (work.map fun file => (file.key, file.data))) next after)
    (ends_uploadFiles clean work uploads publishable.files (fun _ _ => rfl) distinct.1)
  intro _ next after uploads
  apply ends_bind (ends_uploadObject clean uploads (by rw [trimmed]; decide)
    (by rw [trimmed]; exact fresh))
  intro _ next after opened uploading stage
  rw [trimmed] at stage
  apply ends_bind (ends_mapErr (ends_advanceTo clean opened (by rw [uploading]; rfl)
    (stage.advance (by decide) (by decide))))
  intro _ next after opened uploaded stage
  apply ends_bind (ends_mapErr (ends_advanceTo clean opened (by rw [uploaded]; rfl)
    (stage.advance (by decide) (by decide))))
  intro _ _ _ opened verified stage
  apply ends_bind (ends_mapErr (ends_writeManifest clean opened verified stage))
  intro _ _ _ opened written stage
  obtain ⟨_, located⟩ := manifestUri_of_clean location clean
  rw [checkUri, located, Ends, Method.wp_bind]
  apply Program.wp_done.mpr
  dsimp only
  rw [Method.wp_bind, Method.wp_mapErr]
  apply Program.wp_mono _ (ends_finish clean opened written stage)
  intro outcome _ finished
  rcases outcome with ⟨_, _⟩
  obtain ⟨returned, stage, names⟩ := finished
  dsimp only at returned
  subst returned
  refine Program.wp_done.mpr ⟨⟨_, rfl⟩, ?_, names⟩
  rw [publishedObjects, uploaded_append]
  exact stage

/-- A published version: marker, pointer, and as its data exactly the files of the work directory
and the execution manifest. -/
structure Published (serde : SerdeJson Bytes) (location : S3Location) (runId : String)
    (work : List (WorkFile Bytes)) (manifest : Bytes) (store : Store Bytes) : Prop where
  committed : store.Has (location.locate (.version runId .commit))
  current : Names serde location runId store
  present : ∀ key data, (key, data) ∈ publishedObjects work manifest →
    ∃ object, store.objects (location.locate (.version runId (.data key))) = some object ∧
      object.data = data
  nothingElse : ∀ key, store.Has (location.locate (.version runId (.data key))) →
    ∃ data, (key, data) ∈ publishedObjects work manifest

/-- A call of `publish_work_dir` that returns a value and leaves the version published. -/
def Publishes (serde : SerdeJson Bytes) (s3 : S3Service Bytes) (location : S3Location)
    (work : List (WorkFile Bytes)) (runId : String) (manifest : Bytes)
    (store : Store Bytes) : Prop :=
  let outcome := Fallible.eval s3.service
    (publishWorkDir serde .s3 (.s3 location) work runId manifest) store
  (∃ value, outcome.1 = .ok value) ∧ Published serde location runId work manifest outcome.2

lemma uploaded_of_mem {objects : List (String × Bytes)} (distinct : (objects.map Prod.fst).Nodup)
    (mem : (key, data) ∈ objects) : uploaded contents objects key = some data := by
  induction objects generalizing contents with
  | nil => cases mem
  | cons _ rest ih =>
    rw [map_cons, nodup_cons] at distinct
    rcases mem_cons.mp mem with same | later
    · subst same
      rw [uploaded, uploaded_of_not_mem rest distinct.1, update_self]
    · exact ih distinct.2 later

lemma publishedObjects_keys (work : List (WorkFile Bytes)) (manifest : Bytes) :
    (publishedObjects work manifest).map Prod.fst =
      work.map WorkFile.key ++ [EXECUTION_MANIFEST_FILE] := by
  simp [publishedObjects, comp_def]

lemma Published.of_stage (publishable : Publishable runId work) (stage : Stage location runId
      (uploaded (fun _ => none) (publishedObjects work manifest)) .current store)
    (names : Names serde location runId store) :
    Published serde location runId work manifest store := by
  have distinct : ((publishedObjects work manifest).map Prod.fst).Nodup := by
    rw [publishedObjects_keys]
    exact publishable.distinct
  refine ⟨stage.commit.mpr (by decide), names, ?_, ?_⟩
  · intro key data mem
    have contents := stage.data key
    rw [uploaded_of_mem distinct mem, Option.map_eq_some_iff] at contents
    exact contents
  · intro key has
    obtain ⟨_, lookup⟩ := Store.has_iff.mp has
    have contents := stage.data key
    rw [lookup] at contents
    by_contra missing
    have absent : key ∉ (publishedObjects work manifest).map Prod.fst := by
      intro mem
      obtain ⟨⟨_, data⟩, listed, same⟩ := mem_map.mp mem
      dsimp only at same
      subst same
      exact missing ⟨data, listed⟩
    rw [uploaded_of_not_mem _ absent] at contents
    cases contents

/-- On a restartable store the call publishes the work directory. -/
lemma publishes_of_restartable (publishable : Publishable runId work)
    (restartable : Restartable serde location runId store) :
    Publishes serde s3 location work runId manifest store := by
  have ends : Ends s3 (publishWorkDir serde .s3 (.s3 location) work runId manifest).run store
      (fun result after => (∃ value, result = .ok value) ∧
        Stage location runId (uploaded (fun _ => none) (publishedObjects work manifest))
          .current after ∧ Names serde location runId after) := by
    rw [publishWorkDir, Ends, Fallible.wp_bind, Fallible.wp_mapErr]
    apply Program.wp_mono _ (ends_begin publishable.run restartable)
    intro _ _ begun
    obtain ⟨_, rfl, opened, early, stage⟩ := begun
    dsimp only [Except.mapError]
    rw [Method.wp_callOn]
    exact ends_publishSession publishable ⟨opened, early, stage⟩
  have outcome := Program.wp_run ends
  rw [Program.run_reliable] at outcome
  obtain ⟨returns, stage, names⟩ := outcome
  exact ⟨returns, Published.of_stage publishable stage names⟩

/-! ## Where the first call was interrupted -/

lemma publishSession_cons (serde : SerdeJson Bytes) (output : DatasetLocation) (file : WorkFile Bytes)
    (rest : List (WorkFile Bytes)) (runId : String) (manifest : Bytes) :
    ∃ cont : ObjectMetadata → PublishM Bytes (String × String),
      publishSession serde output (file :: rest) runId manifest =
        Method.mapErr publicationErr (putVersionObject serde file.rel file.data) >>=
          cont := by
  rw [publishSession, uploadFiles, uploadObject, bind_assoc, bind_assoc]
  exact ⟨_, rfl⟩

variable {served : Nat} {left : Store Bytes}

/-- Before its ninth call a publication has not created a data object, and from then on
its first data object is there. -/
lemma interrupted_publishWorkDir {file : WorkFile Bytes} {rest : List (WorkFile Bytes)}
    (clean : Str.contains runId ".." = false) (plain : Str.contains file.key ".." = false)
    (unpublished : Unpublished location store)
    (interrupted : Interrupted s3.service served
      (publishWorkDir serde .s3 (.s3 location) (file :: rest) runId manifest).run store left) :
    (served ≤ 7 → Restartable serde location runId left) ∧
      (8 ≤ served → left.Has (location.locate (dataPath runId file.rel))) := by
  have holds : (publishWorkDir serde .s3 (.s3 location) (file :: rest) runId manifest).run.wp
      s3.service (Preserves (.only runId) serde location) _ store :=
    wp_publishWorkDir rfl unpublished.consistent
  obtain ⟨_, _, _, beginSpine, _, openingRestartable, begunRestartable,
    opened, preparing⟩ := spine_begin serde s3 clean unpublished
  obtain ⟨_, _, _, putSpine, _, puttingRestartable, present⟩ :=
    spine_putVersionObject s3 file.data clean plain begunRestartable opened preparing
  obtain ⟨_, first⟩ :=
    publishSession_cons serde (.s3 location) file rest runId manifest
  rw [publishWorkDir, ExceptT.run_bind] at holds interrupted
  have mappedBegin := Fallible.spine_mapErr publicationErr beginSpine
  have afterBegin := mappedBegin.wp_rest holds
  rcases mappedBegin.interrupted (by
      intro failed failure
      obtain ⟨_, rfl⟩ := failure
      exact ⟨_, rfl⟩) interrupted with within | ⟨beyond, later⟩
  · have bound := (List.getElem?_eq_some_iff.mp within).1
    refine ⟨fun _ => openingRestartable left (mem_of_getElem? within), fun late => ?_⟩
    omega
  · dsimp only [Except.mapError] at afterBegin later
    rw [Method.run_callOn, first, Method.exec_bind, Program.bind_assoc] at afterBegin later
    have mappedPut := Method.spine_mapErr publicationErr putSpine
    have afterPut := mappedPut.wp_rest afterBegin
    rcases mappedPut.interrupted (by
        intro failed failure
        rcases failed with ⟨_, _⟩
        obtain ⟨_, ended⟩ := failure
        dsimp only at ended
        subst ended
        exact ⟨_, rfl⟩) later with within | ⟨past, final⟩
    · have bound := (List.getElem?_eq_some_iff.mp within).1
      refine ⟨fun _ => puttingRestartable left (mem_of_getElem? within), fun late => ?_⟩
      omega
    · refine ⟨fun early => by omega, fun _ => ?_⟩
      have keeps :=
        final.relates _ Keeps.refl Keeps.trans (fun _ _ preserves => preserves.2) afterPut
      exact keeps.present (dataPath runId file.rel) rfl (by simp [dataPath]) present

/-- A call that returns was made with distinct keys, none of which was taken. -/
lemma uploaded_of_returns
    {value : String × String} (valid : Consistent (.only runId) serde location store)
    (returns : (Fallible.eval s3.service
      (publishWorkDir serde .s3 (.s3 location) work runId manifest) store).1 = .ok value) :
    Uploaded location runId (work.map WorkFile.rel ++ [EXECUTION_MANIFEST_FILE]) store := by
  have holds : (publishWorkDir serde .s3 (.s3 location) work runId manifest).run.wp
      s3.service (Preserves (.only runId) serde location) _ store :=
    wp_publishWorkDir rfl valid
  exact Program.wp_run holds value returns

lemma Publishable.of_uploaded
    (uploaded : Uploaded location runId (work.map WorkFile.rel ++ [EXECUTION_MANIFEST_FILE])
      store) : Publishable runId work := by
  have trimmed : Str.trimStartMatches '/' EXECUTION_MANIFEST_FILE = EXECUTION_MANIFEST_FILE := by
    decide
  have clean := uploaded.clean EXECUTION_MANIFEST_FILE (by simp)
  rw [dataPath, PublicationPath.relative_dots, Bool.or_eq_false_iff] at clean
  refine ⟨clean.1, ?_, ?_⟩
  · intro file mem
    have plain := uploaded.clean file.rel (mem_append_left _ (mem_map_of_mem mem))
    rw [dataPath, PublicationPath.relative_dots, Bool.or_eq_false_iff] at plain
    exact plain.2
  · have paths : (work.map WorkFile.rel ++ [EXECUTION_MANIFEST_FILE]).map (dataPath runId) =
        (work.map WorkFile.key ++ [EXECUTION_MANIFEST_FILE]).map
          fun key => .version runId (.data key) := by
      simp [dataPath, WorkFile.key, trimmed]
    have distinct := uploaded.distinct
    rw [paths] at distinct
    exact (pairwise_map.mp distinct).imp fun different same => different (by rw [same])

/-- An interrupted publication leaves a consistent dataset. -/
lemma interrupted_consistent (unpublished : Unpublished location store)
    (interrupted : Interrupted s3.service served
      (publishWorkDir serde .s3 (.s3 location) work runId manifest).run store left) :
    Consistent (.only runId) serde location left := by
  have holds : (publishWorkDir serde .s3 (.s3 location) work runId manifest).run.wp
      s3.service (Preserves (.only runId) serde location) _ store :=
    wp_publishWorkDir rfl unpublished.consistent
  exact interrupted.relates (fun before after => Consistent (.only runId) serde location before →
      Consistent (.only runId) serde location after)
    (fun _ valid => valid) (fun early late valid => late (early valid))
    (fun _ _ preserves _ => preserves.1) holds unpublished.consistent

theorem second_call_publishes_iff (serde : SerdeJson Bytes) (s3 : S3Service Bytes)
    (location : S3Location) (work : List (WorkFile Bytes)) (nonempty : work ≠ [])
    (runId : String) (manifest : Bytes) (initial : Store Bytes)
    (unpublished : Unpublished location initial) (served : Nat) (left : Store Bytes)
    (interrupted : Interrupted s3.service served
      (publishWorkDir serde .s3 (.s3 location) work runId manifest).run initial left) :
    Publishes serde s3 location work runId manifest left ↔ served ≤ 7 ∧ Publishable runId work := by
  cases work with
  | nil => exact absurd rfl nonempty
  | cons file =>
    constructor
    · intro publishes
      obtain ⟨⟨_, returns⟩, _⟩ := publishes
      have uploaded :=
        uploaded_of_returns (interrupted_consistent unpublished interrupted) returns
      have publishable := Publishable.of_uploaded uploaded
      refine ⟨?_, publishable⟩
      by_contra late
      have present := (interrupted_publishWorkDir publishable.run
        (publishable.files file (by simp)) unpublished interrupted).2 (by omega)
      exact uploaded.absent file.rel (by simp) present
    · rintro ⟨early, publishable⟩
      apply publishes_of_restartable publishable
      exact (interrupted_publishWorkDir publishable.run
        (publishable.files file (by simp)) unpublished interrupted).1 early

end

/-! ## A publication interrupted after its first data object -/

namespace Reference

open Storage.Reference

def work : List (WorkFile Payload) := [⟨"a.parquet", .contents "rows"⟩]

/-- Publication of a single file. -/
def publish : Fallible (Request Payload) Request.Answer RepairError (String × String) :=
  publishWorkDir serde .s3 (.s3 location) work "r" (.contents "manifest")

lemma publishable_work : Publishable "r" work :=
  ⟨by decide, by decide, by decide⟩

/-- The process dies when the first data object has been created; the second call then
returns an error. -/
theorem second_call_fails : ∃ left, Interrupted s3.service 8 publish.run empty left ∧
      (∀ value, (Fallible.eval s3.service publish left).1 ≠ .ok value) ∧
      ¬ Publishes serde s3 location work "r" (.contents "manifest") left := by
  have interrupted : ∃ left, Interrupted s3.service 8 publish.run empty left :=
    ⟨_, .later (.later (.later (.later (.later (.later (.later (.later .crash)))))))⟩
  obtain ⟨left, interrupted⟩ := interrupted
  have unpublished : Unpublished location empty := fun _ => rfl
  have present := (interrupted_publishWorkDir publishable_work.run
    (publishable_work.files _ (by simp [work])) unpublished interrupted).2 (by omega)
  have fails : ∀ value, (Fallible.eval s3.service publish left).1 ≠ .ok value := by
    intro value returns
    have uploaded :=
      uploaded_of_returns (interrupted_consistent unpublished interrupted) returns
    exact uploaded.absent _ (by simp [work]) present
  refine ⟨left, interrupted, fails, fun publishes => ?_⟩
  obtain ⟨⟨value, returns⟩, _⟩ := publishes
  exact fails value returns

theorem second_call_publishes_early : ∃ left, Interrupted s3.service 3 publish.run empty left ∧
      Publishes serde s3 location work "r" (.contents "manifest") left := by
  have interrupted : ∃ left, Interrupted s3.service 3 publish.run empty left :=
    ⟨_, .later (.later (.later .crash))⟩
  obtain ⟨left, interrupted⟩ := interrupted
  exact ⟨left, interrupted, (second_call_publishes_iff serde s3 location work (by simp [work])
    "r" (.contents "manifest") empty (fun _ => rfl) 3 left interrupted).mpr
    ⟨by decide, publishable_work⟩⟩

end Reference

end Parqonaut.Repair
