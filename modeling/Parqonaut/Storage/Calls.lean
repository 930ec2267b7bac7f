import Parqonaut.Storage.Publication

/-!
# Rules for backend calls

A call leaves the store alone or writes or deletes exactly the object that it names; a rule
therefore asks for the guarantee on an unchanged store and on that one update.
-/

namespace Parqonaut.Storage

open Effects Rust Program S3Service Fallible

variable {Bytes α : Type} {s3 : S3Service Bytes} {store : Store Bytes}
  {rel : Store Bytes → Store Bytes → Prop}

namespace Store

variable {location : ObjectLocation}

lemma has_iff : store.Has location ↔ ∃ object, store.objects location = some object := by
  rw [Has, Option.isSome_iff_exists]

lemma not_has_iff : ¬ store.Has location ↔ store.objects location = none := by
  rw [Has, Option.not_isSome_iff_eq_none]

lemma has_put {query : ObjectLocation} {object : StoredObject Bytes} :
    (store.put location object).Has query ↔ query = location ∨ store.Has query := by
  by_cases same : query = location
  · subst same
    simp [Has]
  · simp [Has, put_objects_of_ne same, same]

end Store

/-! ## What a single call can do -/

section

variable {bucket key : String} {after : Store Bytes} {answer : Except StorageError ObjectMetadata}

lemma answers_head (answers : s3.service.Answers (.head (.s3 bucket key)) store answer after) :
    after = store ∧ ((∃ object, store.objects (.s3 bucket key) = some object ∧
          answer = .ok (s3.metadata (.s3 bucket key) object)) ∨
        (store.objects (.s3 bucket key) = none ∧ ∃ location, answer = .error (.notFound location)) ∨
        ∃ error, error.isFailure ∧ answer = .error error) := by
  cases answers with
  | inl served =>
    simp only [service, serve, head, Prod.mk.injEq] at served
    obtain ⟨rfl, rfl⟩ := served
    refine ⟨rfl, ?_⟩
    cases lookup : after.objects (.s3 bucket key) with
    | none => exact .inr (.inl ⟨rfl, _, rfl⟩)
    | some object => exact .inl ⟨object, rfl, rfl⟩
  | inr failed => exact ⟨failed.2, .inr (.inr failed.1)⟩

lemma answers_read {answer : Except StorageError Bytes}
    (answers : s3.service.Answers (.readStream (.s3 bucket key)) store answer after) :
    after = store ∧ ((∃ object, store.objects (.s3 bucket key) = some object ∧
          answer = .ok object.data) ∨
        (store.objects (.s3 bucket key) = none ∧ ∃ location, answer = .error (.notFound location)) ∨
        ∃ error, error.isFailure ∧ answer = .error error) := by
  cases answers with
  | inl served =>
    simp only [service, serve, readStream, Prod.mk.injEq] at served
    obtain ⟨rfl, rfl⟩ := served
    refine ⟨rfl, ?_⟩
    cases lookup : after.objects (.s3 bucket key) with
    | none => exact .inr (.inl ⟨rfl, _, rfl⟩)
    | some object => exact .inl ⟨object, rfl, rfl⟩
  | inr failed => exact ⟨failed.2, .inr (.inr failed.1)⟩

variable {data : Bytes}

/-- A conditional create writes only where nothing was. -/
lemma answers_create (answers : s3.service.Answers
      (.conditionalCreate (.s3 bucket key) .mustNotExist data) store answer after) :
    (store.objects (.s3 bucket key) = none ∧
        answer = .ok (s3.metadata (.s3 bucket key) (s3.stored store data)) ∧
        after = store.put (.s3 bucket key) (s3.stored store data)) ∨
      (after = store ∧ ∃ error, answer = .error error) := by
  cases answers with
  | inl served =>
    cases lookup : store.objects (.s3 bucket key) with
    | none =>
      simp only [service, serve, conditionalCreate,
        ConditionalCreate.mustNotExist, lookup, accept, Bool.not_true,
        Bool.false_eq_true, if_false, Prod.mk.injEq] at served
      exact .inl ⟨rfl, served⟩
    | some =>
      simp only [service, serve, conditionalCreate,
        ConditionalCreate.mustNotExist, lookup, Bool.not_true, Bool.false_eq_true,
        if_false, Prod.mk.injEq] at served
      exact .inr ⟨served.2, _, served.1⟩
  | inr failed =>
    obtain ⟨⟨error, _, answered⟩, unchanged⟩ := failed
    exact .inr ⟨unchanged, error, answered⟩

lemma answers_replace {condition : ConditionalReplace} (answers : s3.service.Answers
      (.conditionalReplace (.s3 bucket key) condition data) store answer after) :
    (answer = .ok (s3.metadata (.s3 bucket key) (s3.stored store data)) ∧
        after = store.put (.s3 bucket key) (s3.stored store data)) ∨
      (after = store ∧ ∃ error, answer = .error error) := by
  cases answers with
  | inl served =>
    simp only [service, serve, conditionalReplace] at served
    split at served
    · exact .inl (Prod.mk.inj served)
    · split at served
      · exact .inr ⟨(Prod.mk.inj served).2, _, (Prod.mk.inj served).1⟩
      · split at served
        · exact .inl (Prod.mk.inj served)
        · exact .inr ⟨(Prod.mk.inj served).2, _, (Prod.mk.inj served).1⟩
  | inr failed =>
    obtain ⟨⟨error, _, answered⟩, unchanged⟩ := failed
    exact .inr ⟨unchanged, error, answered⟩

lemma answers_delete {answer : Except StorageError Unit}
    (answers : s3.service.Answers (.deleteOwnedObject (.s3 bucket key)) store answer after) :
    (answer = .ok () ∧ after = store.remove (.s3 bucket key)) ∨
      (after = store ∧ ∃ error, answer = .error error) := by
  cases answers with
  | inl served => exact .inl (Prod.mk.inj served)
  | inr failed =>
    obtain ⟨⟨error, _, answered⟩, unchanged⟩ := failed
    exact .inr ⟨unchanged, error, answered⟩

end

/-! ## What a served call answers -/

section

variable {location : S3Location} {path : PublicationPath} {object : StoredObject Bytes}
  {data : Bytes}

lemma serve_head_some (lookup : store.objects (location.locate path) = some object) :
    s3.service.serve (.head (location.locate path)) store =
      (.ok (s3.metadata (location.locate path) object), store) := by
  change (s3.head store _, _) = _
  rw [head, lookup]

lemma serve_head_none (lookup : store.objects (location.locate path) = none) :
    s3.service.serve (.head (location.locate path)) store =
      (.error (.notFound (location.locate path).displayUri), store) := by
  change (s3.head store _, _) = _
  rw [head, lookup]

lemma serve_read_some (lookup : store.objects (location.locate path) = some object) :
    s3.service.serve (.readStream (location.locate path)) store = (.ok object.data, store) := by
  change (readStream store _, _) = _
  rw [readStream, lookup]

lemma serve_read_none (lookup : store.objects (location.locate path) = none) :
    s3.service.serve (.readStream (location.locate path)) store =
      (.error (.notFound (location.locate path).displayUri), store) := by
  change (readStream store _, _) = _
  rw [readStream, lookup]

lemma serve_create_none (lookup : store.objects (location.locate path) = none) :
    s3.service.serve (.conditionalCreate (location.locate path) .mustNotExist data) store =
      s3.accept store (location.locate path) data := by
  change s3.conditionalCreate store (location.locate path) .mustNotExist data = _
  rw [conditionalCreate, lookup]
  rfl

lemma serve_create_some (lookup : store.objects (location.locate path) = some object) :
    s3.service.serve (.conditionalCreate (location.locate path) .mustNotExist data) store =
      (.error (.conflict ("object already exists: " ++ (location.locate path).displayUri)),
        store) := by
  change s3.conditionalCreate store (location.locate path) .mustNotExist data = _
  rw [conditionalCreate, lookup]
  rfl

/-- A replacement conditional on what is there is accepted. -/
lemma serve_replace_matching (lookup : store.objects (location.locate path) = some object) :
    s3.service.serve (.conditionalReplace (location.locate path)
      (.matching (s3.metadata (location.locate path) object)) data) store =
      s3.accept store (location.locate path) data := by
  change s3.conditionalReplace store _ _ _ = _
  rw [conditionalReplace]
  cases tag : object.etag with
  | none => simp [ConditionalReplace.matching, metadata, tag]
  | some =>
    simp [ConditionalReplace.matching, metadata, tag, lookup]

lemma serve_delete : s3.service.serve (.deleteOwnedObject (location.locate path)) store =
      (.ok (), store.remove (location.locate path)) := rfl

end

/-! ## Fault-free evaluation -/

section

variable {location : S3Location} {path : PublicationPath}

/-- A path without `..` is located without a call. -/
lemma locateObject_relative (path : PublicationPath)
    (clean : Str.contains path.relative ".." = false) :
    (locateObject (.s3 location) path.relative : BackendM Bytes ObjectLocation) =
      pure (location.locate path) := by
  rw [locateObject, location.objectAt_relative, clean]
  rfl

lemma eval_backendCall (request : Request Bytes) : eval s3.service (backendCall request) store =
      ((s3.service.serve request store).1.mapError .storage,
        (s3.service.serve request store).2) := by
  rw [backendCall, eval_request_bind]
  cases (s3.service.serve request store).1 <;> rfl

lemma eval_readJsonObject {codec : JsonCodec Bytes α} :
    eval s3.service (readJsonObject codec (location.locate path)) store =
      (match store.objects (location.locate path) with
        | none => .error (.storage (.notFound (location.locate path).displayUri))
        | some object => match codec.fromSlice object.data with
            | .ok value => .ok value
            | .error message => .error (.storage (.other ("invalid JSON at " ++
                (location.locate path).displayUri ++ ": " ++ message))), store) := by
  rw [readJsonObject, eval_bind, eval_backendCall]
  cases lookup : store.objects (location.locate path) with
  | none =>
    rw [serve_read_none lookup]
    rfl
  | some object =>
    rw [serve_read_some lookup]
    dsimp only [Except.mapError]
    cases codec.fromSlice object.data <;> rfl

end

/-! ## Rules for call sequences -/

variable {service : Service (Request Bytes) Request.Answer (Store Bytes)} {location : S3Location}
  {path : PublicationPath}

lemma wp_locateObject {post : Except PublicationError ObjectLocation → Store Bytes → Prop}
    (fails : ∀ error, post (.error error) store)
    (found : Str.contains path.relative ".." = false → post (.ok (location.locate path)) store) :
    (locateObject (.s3 location) path.relative).run.wp service rel post store := by
  rw [locateObject, location.objectAt_relative path]
  by_cases dots : Str.contains path.relative ".."
  · rw [if_pos dots]
    exact wp_done.mpr (fails _)
  · rw [if_neg dots]
    exact wp_done.mpr (found (Bool.not_eq_true _ ▸ dots))

lemma wp_backendCall (request : Request Bytes)
    {post : Except PublicationError request.Result → Store Bytes → Prop} :
    (backendCall request).run.wp service rel post store ↔
      ∀ answer after, service.Answers request store answer after →
        rel store after ∧ post (answer.mapError .storage) after := by
  rw [backendCall, wp_request_bind]
  constructor
  · intro holds answer after answers
    obtain ⟨allowed, rest⟩ := holds answer after answers
    cases answer <;> exact ⟨allowed, wp_done.mp rest⟩
  · intro holds answer after answers
    obtain ⟨allowed, rest⟩ := holds answer after answers
    cases answer <;> exact ⟨allowed, wp_done.mpr rest⟩

variable {data : Bytes} {post : Except PublicationError ObjectMetadata → Store Bytes → Prop}

section

variable (unchanged : rel store store)
include unchanged

lemma wp_create (fails : ∀ error, post (.error error) store)
    (creates : store.objects (location.locate path) = none →
      rel store (store.put (location.locate path) (s3.stored store data)) ∧
        ∀ metadata, post (.ok metadata) (store.put (location.locate path) (s3.stored store data))) :
    (backendCall (.conditionalCreate (location.locate path) .mustNotExist data)).run.wp
      s3.service rel post store := by
  apply (wp_backendCall (.conditionalCreate _ _ _)).mpr
  intro _ _ answers
  rcases answers_create answers with ⟨absent, rfl, rfl⟩ | ⟨rfl, _, rfl⟩
  · obtain ⟨allowed, holds⟩ := creates absent
    exact ⟨allowed, holds _⟩
  · exact ⟨unchanged, fails _⟩

lemma wp_delete {post : Except PublicationError Unit → Store Bytes → Prop}
    (fails : ∀ error, post (.error error) store)
    (deletes : rel store (store.remove (location.locate path)) ∧
      post (.ok ()) (store.remove (location.locate path))) :
    (backendCall (.deleteOwnedObject (location.locate path))).run.wp
      s3.service rel post store := by
  apply (wp_backendCall (.deleteOwnedObject _)).mpr
  intro _ _ answers
  rcases answers_delete answers with ⟨rfl, rfl⟩ | ⟨rfl, _, rfl⟩
  · exact deletes
  · exact ⟨unchanged, fails _⟩

/-- Replacing or creating writes the object at most once. -/
lemma wp_replaceOrCreate (fails : ∀ error, post (.error error) store)
    (writes : rel store (store.put (location.locate path) (s3.stored store data)) ∧
      ∀ metadata, post (.ok metadata) (store.put (location.locate path) (s3.stored store data))) :
    (replaceOrCreate (location.locate path) data).run.wp s3.service rel post store := by
  rw [replaceOrCreate, wp_request_bind]
  intro _ _ answers
  obtain ⟨rfl, outcome⟩ := answers_head answers
  refine ⟨unchanged, ?_⟩
  rcases outcome with ⟨_, _, rfl⟩ | ⟨_, _, rfl⟩ | ⟨error, failure, rfl⟩
  · apply (wp_backendCall (.conditionalReplace _ _ _)).mpr
    intro _ _ answers
    rcases answers_replace answers with ⟨rfl, rfl⟩ | ⟨rfl, error, rfl⟩
    · exact ⟨writes.1, writes.2 _⟩
    · exact ⟨unchanged, fails _⟩
  · exact wp_create unchanged fails (fun _ => writes)
  · cases error <;> first
      | exact wp_done.mpr (fails _)
      | exact Bool.noConfusion failure

/-- A JSON object is read from the store or the read fails. -/
lemma wp_readJsonObject {codec : JsonCodec Bytes α}
    {post : Except PublicationError α → Store Bytes → Prop} (fails : ∀ error, post (.error error) store)
    (reads : ∀ object value, store.objects (location.locate path) = some object →
      codec.fromSlice object.data = .ok value → post (.ok value) store) :
    (readJsonObject codec (location.locate path)).run.wp s3.service rel post store := by
  rw [readJsonObject, Fallible.wp_bind]
  apply (wp_backendCall (.readStream _)).mpr
  intro _ _ answers
  obtain ⟨rfl, outcome⟩ := answers_read answers
  refine ⟨unchanged, ?_⟩
  rcases outcome with ⟨object, lookup, rfl⟩ | ⟨_, _, rfl⟩ | ⟨error, _, rfl⟩
  · cases decoded : codec.fromSlice object.data with
    | ok value =>
      simp only [Except.mapError, decoded]
      exact wp_done.mpr (reads object value lookup decoded)
    | error =>
      simp only [Except.mapError, decoded]
      exact wp_done.mpr (fails _)
  · exact fails _
  · exact fails _

lemma wp_isVersionCommitted {versionId : String}
    {post : Except PublicationError Bool → Store Bytes → Prop}
    (fails : ∀ error, post (.error error) store)
    (committed : Str.contains (PublicationPath.version versionId .commit).relative ".." = false →
      store.Has (location.locate (.version versionId .commit)) → post (.ok true) store)
    (uncommitted : ¬ store.Has (location.locate (.version versionId .commit)) →
      post (.ok false) store) :
    (isVersionCommitted (.s3 location) versionId).run.wp
      s3.service rel post store := by
  rw [isVersionCommitted, PublicationPath.relative_commit, Fallible.wp_bind]
  apply wp_locateObject fails
  intro clean
  apply wp_request_bind.mpr
  intro _ _ answers
  obtain ⟨rfl, outcome⟩ := answers_head answers
  refine ⟨unchanged, ?_⟩
  rcases outcome with ⟨object, lookup, rfl⟩ | ⟨absent, _, rfl⟩ | ⟨error, failure, rfl⟩
  · exact wp_done.mpr (committed clean (Store.has_iff.mpr ⟨object, lookup⟩))
  · exact wp_done.mpr (uncommitted (Store.not_has_iff.mpr absent))
  · cases error <;> first
      | exact wp_done.mpr (fails _)
      | exact Bool.noConfusion failure

/-- Reading the pointer leaves the store alone. -/
lemma wp_readCurrentVersion {serde : SerdeJson Bytes}
    {post : Except PublicationError (Option String) → Store Bytes → Prop}
    (any : ∀ result, post result store) :
    (readCurrentVersion serde (.s3 location)).run.wp s3.service rel post store := by
  rw [readCurrentVersion, Fallible.wp_bind]
  change (locateObject (.s3 location) PublicationPath.current.relative).run.wp _ _ _ _
  apply wp_locateObject
  · intro _
    exact any _
  · intro _
    dsimp only
    rw [wp_attempt_bind]
    apply wp_readJsonObject unchanged
    · intro _
      split <;> exact wp_done.mpr (any _)
    · intro _ _ _ _
      exact wp_done.mpr (any _)

end

/-!
# Consistency of a published dataset

A reader can find any first part of the objects of a version. `Consistent` relates them: a marker
only with a manifest, a pointer only to a marked version, a recorded state only with the objects it
stands for. `Admissible` says which single writes keep that relation.
-/

open Store PublicationPath

/-- The objects that the recorded state of a version stands for. -/
structure Backed (location : S3Location) (store : Store Bytes) (versionId : String)
    (state : PublicationState) : Prop where
  manifest : PublicationState.manifestWritten.ordinal ≤ state.ordinal →
    store.Has (location.locate (.version versionId .manifest))
  commit : PublicationState.committed.ordinal ≤ state.ordinal →
    store.Has (location.locate (.version versionId .commit))

structure Consistent (ids : VersionIds) (serde : SerdeJson Bytes) (location : S3Location)
    (store : Store Bytes) : Prop where
  manifest_of_commit : ∀ versionId, ids.Admits versionId →
    store.Has (location.locate (.version versionId .commit)) →
    store.Has (location.locate (.version versionId .manifest))
  commit_of_current : ∀ object, store.objects (location.locate .current) = some object →
    ∃ versionId, ids.Admits versionId ∧ serde.current.fromSlice object.data = .ok ⟨versionId⟩ ∧
      store.Has (location.locate (.version versionId .commit))
  backed_of_state : ∀ versionId, ids.Admits versionId → ∀ object record,
    store.objects (location.locate (.version versionId .state)) = some object →
    serde.state.fromSlice object.data = .ok record →
    Backed location store versionId record.state

/-- What no transition may touch: manifests, markers, and the data of a marked version. Only the
lock is ever deleted. -/
structure Keeps (ids : VersionIds) (location : S3Location) (before after : Store Bytes) : Prop where
  manifest : ∀ versionId, ids.Admits versionId → ∀ object,
    before.objects (location.locate (.version versionId .manifest)) = some object →
    after.objects (location.locate (.version versionId .manifest)) = some object
  commit : ∀ versionId, ids.Admits versionId → ∀ object,
    before.objects (location.locate (.version versionId .commit)) = some object →
    after.objects (location.locate (.version versionId .commit)) = some object
  data : ∀ versionId, ids.Admits versionId →
    before.Has (location.locate (.version versionId .commit)) → ∀ key,
    after.objects (location.locate (.version versionId (.data key))) =
      before.objects (location.locate (.version versionId (.data key)))
  present : ∀ path : PublicationPath, path.Within ids → path ≠ .writerLock →
    before.Has (location.locate path) → after.Has (location.locate path)

/-- The guarantee of every backend call of a session. -/
def Preserves (ids : VersionIds) (serde : SerdeJson Bytes) (location : S3Location)
    (before after : Store Bytes) : Prop :=
  Consistent ids serde location after ∧ Keeps ids location before after

/-- The writes that keep a dataset consistent. -/
def Admissible (ids : VersionIds) (serde : SerdeJson Bytes) (location : S3Location)
    (store : Store Bytes) :
    PublicationPath → Bytes → Prop
  | .writerLock, _ => True
  | .current, data => ∃ versionId, ids.Admits versionId ∧
      serde.current.fromSlice data = .ok ⟨versionId⟩ ∧
      store.Has (location.locate (.version versionId .commit))
  | .version versionId .state, data => ∀ record, serde.state.fromSlice data = .ok record →
      Backed location store versionId record.state
  | .version versionId .manifest, _ =>
    store.objects (location.locate (.version versionId .manifest)) = none
  | .version versionId .commit, _ =>
    store.objects (location.locate (.version versionId .commit)) = none ∧
    store.Has (location.locate (.version versionId .manifest))
  | .version versionId (.data _), _ =>
    ¬ store.Has (location.locate (.version versionId .commit))

section

variable {ids : VersionIds} {serde : SerdeJson Bytes}
  {object : StoredObject Bytes}

lemma Keeps.refl (store : Store Bytes) : Keeps ids location store store where
  manifest := fun _ _ _ lookup => lookup
  commit := fun _ _ _ lookup => lookup
  data := fun _ _ _ _ => rfl
  present := fun _ _ _ has => has

lemma Keeps.trans {first second third : Store Bytes}
    (early : Keeps ids location first second) (late : Keeps ids location second third) :
    Keeps ids location first third where
  manifest := fun versionId admits object lookup =>
    late.manifest versionId admits object (early.manifest versionId admits object lookup)
  commit := fun versionId admits object lookup =>
    late.commit versionId admits object (early.commit versionId admits object lookup)
  data := by
    intro versionId admits sealed key
    obtain ⟨marker, lookup⟩ := has_iff.mp sealed
    have still : second.Has (location.locate (.version versionId .commit)) :=
      has_iff.mpr ⟨marker, early.commit versionId admits marker lookup⟩
    rw [late.data versionId admits still key, early.data versionId admits sealed key]
  present := fun path within different has =>
    late.present path within different (early.present path within different has)

lemma preserves_refl (valid : Consistent ids serde location store) :
    Preserves ids serde location store store :=
  ⟨valid, Keeps.refl store⟩

/-- Writing at one path leaves the objects of other paths. -/
lemma put_locate_of_ne (query : PublicationPath) (pathWithin : path.Within ids)
    (queryWithin : query.Within ids) (different : query ≠ path) :
    (store.put (location.locate path) object).objects (location.locate query) =
      store.objects (location.locate query) := by
  apply put_objects_of_ne
  intro equal
  exact different (S3Location.locate_inj queryWithin pathWithin equal)

variable {versionId : String} {state : PublicationState}

lemma Backed.put {place : ObjectLocation} (backed : Backed location store versionId state) :
    Backed location (store.put place object) versionId state where
  manifest := fun reached => has_put.mpr (.inr (backed.manifest reached))
  commit := fun reached => has_put.mpr (.inr (backed.commit reached))

lemma Consistent.put (valid : Consistent ids serde location store)
    (within : path.Within ids) (admissible : Admissible ids serde location store path object.data) :
    Consistent ids serde location (store.put (location.locate path) object) where
  manifest_of_commit := by
    intro versionId admits marked
    apply has_put.mpr
    right
    rcases has_put.mp marked with same | before
    · have equal : version versionId .commit = path :=
        S3Location.locate_inj admits within same
      subst equal
      exact admissible.2
    · exact valid.manifest_of_commit versionId admits before
  commit_of_current := by
    intro found lookup
    by_cases same : current = path
    · subst same
      rw [put_objects_self] at lookup
      obtain ⟨versionId, admits, decoded, marked⟩ := admissible
      cases lookup
      exact ⟨versionId, admits, decoded, has_put.mpr (.inr marked)⟩
    · rw [put_locate_of_ne .current within trivial same] at lookup
      obtain ⟨versionId, admits, decoded, marked⟩ :=
        valid.commit_of_current found lookup
      exact ⟨versionId, admits, decoded, has_put.mpr (.inr marked)⟩
  backed_of_state := by
    intro versionId admits found record lookup decoded
    apply Backed.put
    by_cases same : version versionId .state = path
    · subst same
      rw [put_objects_self] at lookup
      cases lookup
      exact admissible record decoded
    · rw [put_locate_of_ne (.version versionId .state) within admits same]
        at lookup
      exact valid.backed_of_state versionId admits found record lookup decoded

lemma Keeps.put (within : path.Within ids)
    (admissible : Admissible ids serde location store path object.data) :
    Keeps ids location store (store.put (location.locate path) object) where
  manifest := by
    intro versionId admits found lookup
    by_cases same : version versionId .manifest = path
    · subst same
      rw [admissible] at lookup
      cases lookup
    · rw [put_locate_of_ne (.version versionId .manifest) within admits same]
      exact lookup
  commit := by
    intro versionId admits _ lookup
    by_cases same : version versionId .commit = path
    · subst same
      rw [admissible.1] at lookup
      cases lookup
    · rw [put_locate_of_ne (.version versionId .commit) within admits same]
      exact lookup
  data := by
    intro versionId admits sealed key
    by_cases same : version versionId (.data key) = path
    · subst same
      exact absurd sealed admissible
    · exact put_locate_of_ne (.version versionId (.data key)) within admits same
  present := fun _ _ _ has => has_put.mpr (.inr has)

lemma preserves_put (valid : Consistent ids serde location store) (within : path.Within ids)
    (admissible : Admissible ids serde location store path object.data) :
    Preserves ids serde location store (store.put (location.locate path) object) :=
  ⟨valid.put within admissible, Keeps.put within admissible⟩

/-! ## Lock object -/

lemma preserves_putLock (valid : Consistent ids serde location store)
    (object : StoredObject Bytes) :
    Preserves ids serde location store (store.put (location.locate .writerLock) object) := by
  have within : writerLock.Within ids := trivial
  exact preserves_put valid within trivial

lemma remove_lock_of_ne {query : PublicationPath} (within : query.Within ids)
    (different : query ≠ .writerLock) :
    (store.remove (location.locate .writerLock)).objects (location.locate query) =
      store.objects (location.locate query) := by
  apply remove_objects_of_ne
  intro equal
  exact different (S3Location.locate_inj within trivial equal)

lemma has_remove_lock (query : PublicationPath) (within : query.Within ids)
    (different : query ≠ .writerLock) :
    (store.remove (location.locate .writerLock)).Has (location.locate query) ↔
      store.Has (location.locate query) := by
  rw [Has, Has, remove_lock_of_ne within different]

lemma Backed.removeLock
    (admits : ids.Admits versionId) (backed : Backed location store versionId state) :
    Backed location (store.remove (location.locate .writerLock)) versionId state where
  manifest := fun reached =>
    (has_remove_lock (.version versionId .manifest) admits (by simp)).mpr (backed.manifest reached)
  commit := fun reached =>
    (has_remove_lock (.version versionId .commit) admits (by simp)).mpr (backed.commit reached)

lemma preserves_removeLock (valid : Consistent ids serde location store) :
    Preserves ids serde location store (store.remove (location.locate .writerLock)) := by
  have others : ∀ path : PublicationPath, path.Within ids → path ≠ .writerLock →
      (store.remove (location.locate .writerLock)).objects (location.locate path) =
        store.objects (location.locate path) :=
    fun path within different => remove_lock_of_ne within different
  constructor
  · constructor
    · intro versionId admits marked
      rw [has_remove_lock (.version versionId .commit) admits (by simp)] at marked
      rw [has_remove_lock (.version versionId .manifest) admits (by simp)]
      exact valid.manifest_of_commit versionId admits marked
    · intro found lookup
      rw [others .current trivial (by simp)] at lookup
      obtain ⟨versionId, admits, decoded, marked⟩ :=
        valid.commit_of_current found lookup
      rw [← has_remove_lock (.version versionId .commit) admits (by simp)] at marked
      exact ⟨versionId, admits, decoded, marked⟩
    · intro versionId admits found record lookup decoded
      rw [others (.version versionId .state) admits (by simp)] at lookup
      apply Backed.removeLock admits
      exact valid.backed_of_state versionId admits found record lookup decoded
  · constructor
    · intro versionId admits found lookup
      rw [others (.version versionId .manifest) admits (by simp)]
      exact lookup
    · intro versionId admits _ lookup
      rw [others (.version versionId .commit) admits (by simp)]
      exact lookup
    · intro versionId admits _ key
      exact others (.version versionId (.data key)) admits (by simp)
    · intro path within different has
      exact (has_remove_lock path within different).mpr has

end

/-- A dataset without publication objects. -/
def Unpublished (location : S3Location) (store : Store Bytes) : Prop :=
  ∀ path, store.objects (location.locate path) = none

lemma Unpublished.consistent {ids : VersionIds} {serde : SerdeJson Bytes}
    (unpublished : Unpublished location store) :
    Consistent ids serde location store where
  manifest_of_commit := by
    intro versionId _ marked
    exact absurd (unpublished _) (by
      rw [← not_has_iff]
      exact not_not.mpr marked)
  commit_of_current := by
    intro object lookup
    rw [unpublished] at lookup
    cases lookup
  backed_of_state := by
    intro _ _ _ _ lookup
    rw [unpublished] at lookup
    cases lookup

end Parqonaut.Storage
