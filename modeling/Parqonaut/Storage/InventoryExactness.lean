import Parqonaut.Storage.Calls

/-!
# What the inventory contains

The inventory should hold the user's objects and, without parquet objects among them, the parquet
data objects of the committed version that `CURRENT` names.

The exclusion filter runs on the logical key, without `.parqonaut/versions/{id}/data/`. So a data
object of an uncommitted or superseded version passes it, and a parquet one hides the published
version. The inventory is right exactly for listings without such stray objects.
-/

namespace Parqonaut.Storage

open Effects Rust Fallible List Str

variable {Bytes : Type}

/-! ## Kinds of objects -/

variable (root : S3Location) (listed : List ObjectMetadata)

/-- A user object: a key of the dataset outside the paths that the tool owns. -/
def isUserObject (object : ObjectMetadata) : Bool :=
  match relativeObjectKey root object.location with
  | some relative => !isExcludedInventoryPath relative
  | none => false

def isParquetObject (object : ObjectMetadata) : Bool :=
  match relativeObjectKey root object.location with
  | some relative => endsWith relative ".parquet"
  | none => false

/-- A data object of the version `versionId`. -/
def isVersionData (versionId : String) (object : ObjectMetadata) : Bool :=
  match relativeObjectKey root object.location with
  | some relative => startsWith relative (dataPrefix versionId)
  | none => false

/-- A data object of some version whose name passes the exclusion filter. -/
def isStrayData (object : ObjectMetadata) : Bool :=
  match (relativeObjectKey root object.location).bind stripPublishedDataRelativeKey with
  | some logical => !isExcludedInventoryPath logical
  | none => false

/-- Version that `CURRENT` names, if its commit marker exists. -/
def committedCurrent (serde : SerdeJson Bytes) (root : S3Location) (store : Store Bytes) :
    Option String :=
  match store.objects (root.locate .current) with
  | none => none
  | some object =>
    match serde.current.fromSlice object.data with
    | .error _ => none
    | .ok pointer =>
      match objectAt (.s3 root) (versionCommitKey pointer.versionId) with
      | .error _ => none
      | .ok marker => if store.Has marker then some pointer.versionId else none

/-- The pages that the store returns from a continuation token on, and the objects on
them. -/
inductive Pages (s3 : S3Service Bytes) (store : Store Bytes) (root : S3Location) :
    Option String → List ObjectMetadata → Prop where
  | last {token : Option String} {page : ListPage}
      (served : s3.page store root ⟨true, none⟩ token = page) (ends : page.truncated = false) :
      Pages s3 store root token page.objects
  | more {token : Option String} {page : ListPage} {rest : List ObjectMetadata}
      (served : s3.page store root ⟨true, none⟩ token = page) (truncated : page.truncated = true)
      (continues : Pages s3 store root page.continuationToken rest) :
      Pages s3 store root token (page.objects ++ rest)

/-- The listing of a dataset returns every object under its prefix exactly once. -/
structure ListsExactly (s3 : S3Service Bytes) (store : Store Bytes) (root : S3Location)
    (listed : List ObjectMetadata) : Prop where
  pages : Pages s3 store root none listed
  once : (listed.map (·.location)).Nodup
  complete : ∀ location, location ∈ listed.map (·.location) ↔
    store.Has location ∧ ∃ key, location = .s3 root.bucket key ∧
      startsWith key root.keyPrefix = true

/-- No parquet object of the user is listed. -/
def NoUserParquet : Prop :=
  ∀ object ∈ listed, isUserObject root object = true → isParquetObject root object = false

/-- A parquet data object of the published version. -/
def IsPublishedData (current : Option String) (object : ObjectMetadata) : Prop :=
  ∃ versionId, current = some versionId ∧ isVersionData root versionId object = true ∧
    isParquetObject root object = true

/-- What the inventory should contain. -/
def InInventory (current : Option String) (listed : List ObjectMetadata) (object : ObjectMetadata) :
    Prop :=
  object ∈ listed ∧ (isUserObject root object = true ∨
    (NoUserParquet root listed ∧ IsPublishedData root current object))

/-- A data object of the version whose own name is one that the filter excludes. -/
def hasOwnedName (versionId : String) (object : ObjectMetadata) : Bool :=
  match (relativeObjectKey root object.location).bind (stripPrefix · (dataPrefix versionId)) with
  | some logical => isExcludedInventoryPath logical
  | none => false

/-- The listings for which the inventory is right: data objects that pass the filter are those of
the published version and not beside parquet objects of the user, and all of the published parquet
data passes the filter, or none does and its names are not excluded. -/
structure OnlyPublishedData (root : S3Location) (current : Option String)
    (listed : List ObjectMetadata) : Prop where
  published : ∀ object ∈ listed, isStrayData root object = true →
    IsPublishedData root current object
  alone : ¬ NoUserParquet root listed → ∀ object ∈ listed, isStrayData root object = false
  visible : NoUserParquet root listed → (∀ object ∈ listed, IsPublishedData root current object →
      isStrayData root object = true) ∨
    ∀ object ∈ listed, isStrayData root object = false ∧
      ∀ versionId, current = some versionId → IsPublishedData root current object →
        hasOwnedName root versionId object = false

section

variable {root : S3Location} {object : ObjectMetadata} {relative logical versionId : String}

/-- Everything below `.parqonaut/` is excluded. -/
lemma excluded_of_owned (rest : String) :
    isExcludedInventoryPath (".parqonaut" ++ "/" ++ rest) = true := by
  have trimmed : trimStartMatches '/' (".parqonaut" ++ "/" ++ rest) = ".parqonaut" ++ "/" ++ rest :=
    trimStartMatches_of_head (d := '.') (by simp; rfl) (by decide)
  have segments : split (".parqonaut" ++ "/" ++ rest) '/' =
      ".parqonaut" :: split rest '/' := split_append_sep rfl (by decide)
  have owned : isOwnedSegment ".parqonaut" = true := by decide
  simp only [isExcludedInventoryPath, trimmed, segments, any_cons, owned, Bool.true_or,
    Bool.or_true]

private lemma versions_text :
    ".parqonaut/versions/" = ".parqonaut" ++ ("/" ++ "versions/") := by simp

private lemma data_text_head : "/data/" = "/" ++ "data/" := by simp

private lemma data_text_last : "/data/" = "/data" ++ "/" := by simp

lemma dataPrefix_eq (versionId rest : String) : dataPrefix versionId ++ rest =
      ".parqonaut" ++ "/" ++ ("versions/" ++ versionId ++ "/data/" ++ rest) := by
  unfold dataPrefix
  rewrite [versions_text]
  simp only [-String.reduceAppend, String.append_assoc]

lemma strip_eq_some (stripped : stripPublishedDataRelativeKey relative = some logical) :
    ∃ versionId, relative = dataPrefix versionId ++ logical := by
  simp only [stripPublishedDataRelativeKey, Option.bind_eq_bind, Option.bind_eq_some_iff] at stripped
  obtain ⟨_, below, ⟨versionId, after⟩, splits, stripped⟩ := stripped
  refine ⟨versionId, ?_⟩
  have separator : "/".toList = ['/'] := rfl
  rw [stripPrefix_eq_some.mp below, splitOnce_eq_some separator splits,
    show after = "data/" ++ logical from stripPrefix_eq_some.mp stripped]
  unfold dataPrefix
  rewrite [data_text_head]
  simp only [-String.reduceAppend, String.append_assoc]

lemma excluded_of_data (versionId rest : String) :
    isExcludedInventoryPath (dataPrefix versionId ++ rest) = true := by
  rw [dataPrefix_eq]
  exact excluded_of_owned _

/-- The file type of a data object is that of its logical name. -/
lemma endsWith_data (versionId rest : String) :
    endsWith (dataPrefix versionId ++ rest) ".parquet" = endsWith rest ".parquet" := by
  have split : dataPrefix versionId ++ rest =
      (".parqonaut/versions/" ++ versionId ++ "/data") ++ "/" ++ rest := by
    unfold dataPrefix
    rewrite [data_text_last]
    simp only [-String.reduceAppend, String.append_assoc]
  have separator : "/".toList = ['/'] := rfl
  rw [split]
  exact endsWith_append_sep separator (by decide)

/-- The exclusion filter keeps the user's objects and the stray ones. -/
lemma retained_eq : retained root object = (isUserObject root object || isStrayData root object) := by
  rw [retained, datasetObjectRelativeKey, isUserObject, isStrayData]
  cases relativeObjectKey root object.location with
  | none => rfl
  | some relative =>
    rw [Option.map_some, Option.bind_some, logicalInventoryKey]
    cases stripped : stripPublishedDataRelativeKey relative with
    | none => simp
    | some =>
      obtain ⟨_, rfl⟩ := strip_eq_some stripped
      simp [excluded_of_data]

lemma hasParquetKey_eq : hasParquetKey root object = isParquetObject root object := by
  rw [hasParquetKey, datasetObjectRelativeKey, isParquetObject]
  cases relativeObjectKey root object.location with
  | none => rfl
  | some relative =>
    rw [Option.map_some, logicalInventoryKey]
    cases stripped : stripPublishedDataRelativeKey relative with
    | none => rfl
    | some logical =>
      obtain ⟨versionId, rfl⟩ := strip_eq_some stripped
      exact (endsWith_data versionId logical).symm

lemma isPublishedObject_eq : isPublishedObject root versionId object =
    (isVersionData root versionId object && isParquetObject root object &&
      !hasOwnedName root versionId object) := by
  rw [isPublishedObject, isVersionData, isParquetObject, hasOwnedName]
  cases relativeObjectKey root object.location with
  | none => rfl
  | some relative =>
    dsimp only [Option.bind_some]
    cases stripped : stripPrefix relative (dataPrefix versionId) with
    | none =>
      have below : startsWith relative (dataPrefix versionId) = false := by
        by_contra starts
        rw [Bool.not_eq_false] at starts
        obtain ⟨_, rfl⟩ := startsWith_iff.mp starts
        rw [stripPrefix_append] at stripped
        cases stripped
      rw [below]
      rfl
    | some logical =>
      have whole := stripPrefix_eq_some.mp stripped
      have below : startsWith relative (dataPrefix versionId) = true :=
        startsWith_iff.mpr ⟨logical, whole⟩
      rw [below, whole, endsWith_data, Bool.true_and, Bool.and_comm]

lemma not_user_of_stray (stray : isStrayData root object = true) :
    isUserObject root object = false := by
  rw [isStrayData] at stray
  rw [isUserObject]
  cases place : relativeObjectKey root object.location with
  | none => rfl
  | some relative =>
    rw [place, Option.bind_some] at stray
    cases stripped : stripPublishedDataRelativeKey relative with
    | none =>
      rw [stripped] at stray
      cases stray
    | some =>
      obtain ⟨_, rfl⟩ := strip_eq_some stripped
      simp [excluded_of_data]

lemma not_user_of_data (data : isVersionData root versionId object = true) :
    isUserObject root object = false := by
  rw [isVersionData] at data
  rw [isUserObject]
  cases place : relativeObjectKey root object.location with
  | none => rfl
  | some =>
    rw [place] at data
    obtain ⟨_, rfl⟩ := startsWith_iff.mp data
    simp [excluded_of_data]

end

section

variable {serde : SerdeJson Bytes} {s3 : S3Service Bytes} {store : Store Bytes} {root : S3Location}
  {listed objects : List ObjectMetadata}

/-! ## Evaluation -/

lemma eval_list (token : Option String) :
    eval s3.service (storageCall (.list (.s3 root) ⟨true, none⟩ token)) store =
      (.ok (s3.page store root ⟨true, none⟩ token), store) := rfl

/-- With enough pages the loop returns all listed objects. -/
lemma eval_listPages {token : Option String} (pages : Pages s3 store root token listed) :
    ∃ enough, ∀ bound, enough ≤ bound → eval s3.service (listPages (.s3 root) bound token) store =
        (.ok (some listed), store) := by
  induction pages with
  | @last _ _ served ends =>
    refine ⟨1, ?_⟩
    intro bound large
    obtain ⟨fewer, rfl⟩ := Nat.exists_eq_add_of_le' large
    rw [listPages, eval_bind, eval_list, served]
    simp [ends]
  | @more _ _ _ served truncated _ ih =>
    obtain ⟨enough, evaluates⟩ := ih
    refine ⟨enough + 1, ?_⟩
    intro _ large
    obtain ⟨fewer, rfl⟩ := Nat.exists_eq_add_of_le' (Nat.le_of_add_left_le large)
    rw [listPages, eval_bind, eval_list, served]
    have evaluated := evaluates fewer (by omega)
    simp only [truncated, Bool.not_true, Bool.false_eq_true, if_false]
    rw [eval_bind, evaluated]
    rfl

lemma eval_readCurrentVersion : eval s3.service (readCurrentVersion serde (.s3 root)) store =
      (match store.objects (root.locate .current) with
        | none => .ok none
        | some object => match serde.current.fromSlice object.data with
            | .ok pointer => .ok (some pointer.versionId)
            | .error message => .error (.storage (.other ("invalid JSON at " ++
                (root.locate .current).displayUri ++ ": " ++ message))), store) := by
  have located : (locateObject (.s3 root) CURRENT_KEY : BackendM Bytes ObjectLocation) =
      pure (root.locate .current) := locateObject_relative .current rfl
  rw [readCurrentVersion, located, pure_bind, eval_attempt_bind, eval_readJsonObject]
  cases store.objects (root.locate .current) with
  | none => rfl
  | some object =>
    dsimp only
    cases serde.current.fromSlice object.data <;> rfl

lemma eval_isVersionCommitted (versionId : String) :
    eval s3.service (isVersionCommitted (.s3 root) versionId) store =
      (match objectAt (.s3 root) (versionCommitKey versionId) with
        | .error error => .error (.storage error)
        | .ok marker => .ok (decide (store.Has marker)), store) := by
  rw [isVersionCommitted, locateObject, PublicationPath.relative_commit, root.objectAt_relative]
  by_cases dots : contains (PublicationPath.version versionId .commit).relative ".." = true
  · rw [if_pos dots]
    rfl
  · rw [if_neg dots]
    dsimp only
    rw [pure_bind, eval_request_bind]
    cases lookup : store.objects (root.locate (.version versionId .commit)) with
    | none =>
      rw [serve_head_none lookup, decide_eq_false (Store.not_has_iff.mpr lookup)]
      rfl
    | some object =>
      rw [serve_head_some lookup, decide_eq_true (Store.has_iff.mpr ⟨object, lookup⟩)]
      rfl

/-- Objects that the published version adds. -/
def publishedOf (root : S3Location) (current : Option String) (listed : List ObjectMetadata) :
    List ObjectMetadata :=
  match current with
  | some versionId => listed.filter (isPublishedObject root versionId)
  | none => []

lemma eval_publishedDataInventory (serde : SerdeJson Bytes) (s3 : S3Service Bytes)
    (store : Store Bytes) (root : S3Location) (listed : List ObjectMetadata) :
    ∃ result, eval s3.service (publishedDataInventory serde root listed) store = (result, store) ∧
      result.toOption.getD [] = publishedOf root (committedCurrent serde root store) listed := by
  rw [publishedDataInventory, eval_bind, eval_mapErr, eval_readCurrentVersion, committedCurrent]
  cases store.objects (root.locate .current) with
  | none => exact ⟨_, rfl, rfl⟩
  | some object =>
    dsimp only
    cases serde.current.fromSlice object.data with
    | error => exact ⟨_, rfl, rfl⟩
    | ok pointer =>
      dsimp only [Except.mapError]
      rw [eval_bind, eval_mapErr, eval_isVersionCommitted]
      cases objectAt (.s3 root) (versionCommitKey pointer.versionId) with
      | error => exact ⟨_, rfl, rfl⟩
      | ok marker =>
        dsimp only [Except.mapError]
        by_cases marked : store.Has marker
        · rw [decide_eq_true marked, if_pos rfl, if_pos marked]
          exact ⟨_, rfl, rfl⟩
        · rw [decide_eq_false marked, if_neg (by decide), if_neg marked]
          exact ⟨_, rfl, rfl⟩

/-- Objects of the inventory before sorting. -/
def collected (root : S3Location) (current : Option String) (listed : List ObjectMetadata) :
    List ObjectMetadata :=
  if (listed.filter (retained root)).any (hasParquetKey root) then
    listed.filter (retained root)
  else
    listed.filter (retained root) ++ publishedOf root current listed

lemma eval_withPublished : eval s3.service
      (withPublished serde root listed (listed.filter (retained root))) store =
        (.ok (collected root (committedCurrent serde root store) listed), store) := by
  rw [withPublished, collected]
  by_cases parquet : (listed.filter (retained root)).any (hasParquetKey root) = true
  · rw [if_pos parquet, if_pos parquet]
    rfl
  · obtain ⟨result, evaluates, published⟩ := eval_publishedDataInventory serde s3 store root listed
    rw [if_neg parquet, if_neg parquet, eval_attempt_bind, evaluates, ← published]
    cases result with
    | ok => rfl
    | error =>
      dsimp only [Except.toOption, Option.getD]
      rw [append_nil]
      rfl

/-! ## Contents -/

/-- Dropping neighbours with equal keys loses nothing when keys identify elements. -/
lemma mem_destutter_of_key {α κ : Type} [DecidableEq κ] {key : α → κ} {items : List α}
    {head item : α} (unique : ∀ first ∈ head :: items, ∀ second ∈ head :: items,
      key first = key second → first = second) :
    item ∈ items.destutter' (fun a b => key a ≠ key b) head ↔ item ∈ head :: items := by
  induction items generalizing head with
  | nil => rfl
  | cons next _ ih =>
    by_cases same : key head = key next
    · have equal : head = next := unique head (by simp) next (by simp) same
      subst equal
      rw [List.destutter'_cons_neg _ (by simp), ih]
      · simp
      · intro first firstIn second secondIn
        exact unique first (mem_cons_of_mem _ firstIn) second (mem_cons_of_mem _ secondIn)
    · rw [List.destutter'_cons_pos _ same, mem_cons, ih]
      · exact mem_cons.symm
      intro first firstIn second secondIn
      exact unique first (mem_cons_of_mem _ firstIn) second (mem_cons_of_mem _ secondIn)

variable {object : ObjectMetadata}

lemma mem_sortedByKey (unique : ∀ first ∈ objects, ∀ second ∈ objects,
      objectSortKey first.location = objectSortKey second.location → first = second) :
    object ∈ sortedByKey objects ↔ object ∈ objects := by
  have members : ∀ item, item ∈ objects.mergeSort (fun a b =>
      decide (objectSortKey a.location ≤ objectSortKey b.location)) ↔ item ∈ objects :=
    fun _ => mem_mergeSort
  rw [sortedByKey, ← members object]
  cases sorted : objects.mergeSort (fun a b =>
      decide (objectSortKey a.location ≤ objectSortKey b.location)) with
  | nil => rfl
  | cons head rest =>
    rw [sorted] at members
    apply mem_destutter_of_key
    intro first firstIn second secondIn
    exact unique first ((members first).mp firstIn) second ((members second).mp secondIn)

lemma ListsExactly.unique (exact : ListsExactly s3 store root listed) :
    ∀ first ∈ listed, ∀ second ∈ listed,
      objectSortKey first.location = objectSortKey second.location → first = second := by
  intro first firstIn second secondIn same
  obtain ⟨_, _, firstLocation, _⟩ :=
    (exact.complete first.location).mp (mem_map_of_mem firstIn)
  obtain ⟨_, _, secondLocation, _⟩ :=
    (exact.complete second.location).mp (mem_map_of_mem secondIn)
  apply inj_on_of_nodup_map exact.once firstIn secondIn
  rw [firstLocation, secondLocation] at same ⊢
  exact congrArg _ same

variable {current : Option String}

lemma mem_publishedOf : object ∈ publishedOf root current listed ↔ object ∈ listed ∧
      IsPublishedData root current object ∧
        ∀ versionId, current = some versionId → hasOwnedName root versionId object = false := by
  cases current with
  | none => simp [publishedOf, IsPublishedData]
  | some =>
    simp [publishedOf, IsPublishedData, isPublishedObject_eq, and_assoc]

/-- The listed objects that the filter keeps are parquet for some user or stray
object. -/
lemma any_retained_parquet : (listed.filter (retained root)).any (hasParquetKey root) = true ↔
      ∃ object ∈ listed, (isUserObject root object = true ∨ isStrayData root object = true) ∧
        isParquetObject root object = true := by
  simp [any_eq_true, hasParquetKey_eq, retained_eq]

lemma mem_collected : object ∈ collected root current listed ↔
      object ∈ listed ∧ (isUserObject root object = true ∨ isStrayData root object = true ∨
        ((∀ other ∈ listed, isUserObject root other = true ∨ isStrayData root other = true →
            isParquetObject root other = false) ∧
          IsPublishedData root current object ∧
          ∀ versionId, current = some versionId → hasOwnedName root versionId object = false)) := by
  rw [collected]
  by_cases parquet : (listed.filter (retained root)).any (hasParquetKey root) = true
  · obtain ⟨found, foundIn, kept, isParquet⟩ := any_retained_parquet.mp parquet
    rw [if_pos parquet, mem_filter, retained_eq, Bool.or_eq_true]
    constructor
    · rintro ⟨mem, user | stray⟩
      · exact ⟨mem, .inl user⟩
      · exact ⟨mem, .inr (.inl stray)⟩
    · rintro ⟨mem, user | stray | ⟨none, _⟩⟩
      · exact ⟨mem, .inl user⟩
      · exact ⟨mem, .inr stray⟩
      · rw [none found foundIn kept] at isParquet
        cases isParquet
  · rw [if_neg parquet, mem_append, mem_filter, retained_eq, Bool.or_eq_true, mem_publishedOf]
    have none : ∀ other ∈ listed, isUserObject root other = true ∨
        isStrayData root other = true → isParquetObject root other = false := by
      intro other otherIn kept
      rw [any_retained_parquet] at parquet
      rw [← Bool.not_eq_true]
      exact fun isParquet => parquet ⟨other, otherIn, kept, isParquet⟩
    constructor
    · rintro (⟨mem, user | stray⟩ | ⟨mem, published⟩)
      · exact ⟨mem, .inl user⟩
      · exact ⟨mem, .inr (.inl stray)⟩
      · exact ⟨mem, .inr (.inr ⟨none, published⟩)⟩
    · rintro ⟨mem, user | stray | ⟨_, published⟩⟩
      · exact .inl ⟨mem, .inl user⟩
      · exact .inl ⟨mem, .inr stray⟩
      · exact .inr ⟨mem, published⟩

lemma eval_listRemoteInventory (pages : Pages s3 store root none listed) :
    ∃ enough, ∀ bound, enough ≤ bound →
      eval s3.service (listRemoteInventory serde bound root) store =
        (.ok (some ⟨.s3 root, sortedByKey
          (collected root (committedCurrent serde root store) listed)⟩), store) := by
  obtain ⟨enough, evaluates⟩ := eval_listPages pages
  refine ⟨enough, ?_⟩
  intro bound large
  rw [listRemoteInventory, eval_bind, evaluates bound large]
  dsimp only
  rw [eval_bind, eval_withPublished]
  rfl

lemma mem_inventory (exact : ListsExactly s3 store root listed) :
    object ∈ sortedByKey (collected root current listed) ↔
      object ∈ collected root current listed := by
  apply mem_sortedByKey
  intro first firstIn second secondIn
  exact exact.unique first (mem_collected.mp firstIn).1 second (mem_collected.mp secondIn).1

/-! ## Exactness -/

lemma IsPublishedData.not_user
    (published : IsPublishedData root current object) : isUserObject root object = false := by
  obtain ⟨_, _, data, _⟩ := published
  exact not_user_of_data data

lemma onlyPublishedData_of_exact (exact : ∀ object, object ∈ collected root current listed ↔
      InInventory root current listed object) : OnlyPublishedData root current listed := by
  have stray : ∀ object ∈ listed, isStrayData root object = true →
      NoUserParquet root listed ∧ IsPublishedData root current object := by
    intro object mem stray
    have inside := (exact object).mp (mem_collected.mpr ⟨mem, .inr (.inl stray)⟩)
    rcases inside.2 with user | published
    · rw [not_user_of_stray stray] at user
      cases user
    · exact published
  refine ⟨fun object mem isStray => (stray object mem isStray).2, ?_, ?_⟩
  · intro userParquet object mem
    rw [← Bool.not_eq_true]
    exact fun isStray => userParquet (stray object mem isStray).1
  · intro noUser
    have kept : ∀ object ∈ listed, IsPublishedData root current object →
        isStrayData root object = true ∨
          ((∀ other ∈ listed, isUserObject root other = true ∨ isStrayData root other = true →
              isParquetObject root other = false) ∧
            ∀ versionId, current = some versionId →
              hasOwnedName root versionId object = false) := by
      intro object mem published
      have inside := (exact object).mpr ⟨mem, .inr ⟨noUser, published⟩⟩
      rcases (mem_collected.mp inside).2 with user | isStray | ⟨none, _, named⟩
      · rw [published.not_user] at user
        cases user
      · exact .inl isStray
      · exact .inr ⟨none, named⟩
    by_cases any : ∃ object ∈ listed, isStrayData root object = true
    · left
      obtain ⟨found, foundIn, foundStray⟩ := any
      obtain ⟨_, _, _, _, isParquet⟩ := stray found foundIn foundStray
      intro object mem published
      rcases kept object mem published with isStray | ⟨none, _⟩
      · exact isStray
      · rw [none found foundIn (.inr foundStray)] at isParquet
        cases isParquet
    · right
      have clean : ∀ object ∈ listed, isStrayData root object = false := by
        intro object mem
        rw [← Bool.not_eq_true]
        exact fun isStray => any ⟨object, mem, isStray⟩
      intro object mem
      refine ⟨clean object mem, ?_⟩
      intro versionId names published
      rcases kept object mem published with isStray | ⟨_, named⟩
      · rw [clean object mem] at isStray
        cases isStray
      · exact named versionId names

lemma exact_of_onlyPublishedData
    (only : OnlyPublishedData root current listed) (object : ObjectMetadata) :
    object ∈ collected root current listed ↔ InInventory root current listed object := by
  rw [mem_collected]
  constructor
  · rintro ⟨mem, user | stray | ⟨none, published, _⟩⟩
    · exact ⟨mem, .inl user⟩
    · refine ⟨mem, .inr ⟨?_, only.published object mem stray⟩⟩
      by_contra userParquet
      rw [only.alone userParquet object mem] at stray
      cases stray
    · exact ⟨mem, .inr ⟨fun other otherIn user => none other otherIn (.inl user), published⟩⟩
  · rintro ⟨mem, user | ⟨noUser, published⟩⟩
    · exact ⟨mem, .inl user⟩
    · rcases only.visible noUser with passes | clean
      · exact ⟨mem, .inr (.inl (passes object mem published))⟩
      · refine ⟨mem, .inr (.inr ⟨?_, published, ?_⟩)⟩
        · rintro other otherIn (user | stray)
          · exact noUser other otherIn user
          · rw [(clean other otherIn).1] at stray
            cases stray
        · intro versionId names
          exact (clean object mem).2 versionId names published

/-- The inventory is returned, and it contains exactly the user's objects and the published parquet
data if and only if the listed data objects that pass the filter are those of the published
version. -/
theorem remote_inventory_exact_iff (serde : SerdeJson Bytes)
    (exact : ListsExactly s3 store root listed) :
    ∃ inventory : RemoteInventory, (∃ enough, ∀ bound, enough ≤ bound →
        eval s3.service (listRemoteInventory serde bound root) store =
          (.ok (some inventory), store)) ∧
      ((∀ object, object ∈ inventory.objects ↔
          InInventory root (committedCurrent serde root store) listed object) ↔
        OnlyPublishedData root (committedCurrent serde root store) listed) := by
  refine ⟨_, eval_listRemoteInventory exact.pages, ?_⟩
  simp only [mem_inventory exact]
  constructor
  · exact onlyPublishedData_of_exact
  · exact exact_of_onlyPublishedData

end

namespace Reference

/-! ## Finite stores -/

/-- Store with the given keys and payloads in the bucket of `location`. -/
def storeOf (entries : List (String × Payload)) : Store Payload where
  objects
    | .s3 bucket key =>
      if bucket = location.bucket then
        (entries.lookup key).map fun payload => ⟨payload, none, none⟩
      else none
    | .localFile _ => none
  writes := 0

def listedObject (key : String) : ObjectMetadata := ⟨.s3 location.bucket key, 0, none, none⟩

/-- Service that lists the given keys on one page. -/
def listingOf (entries : List (String × Payload)) : S3Service Payload :=
  { s3 with page := fun _ _ _ _ => ⟨entries.map fun entry => listedObject entry.1, false, none⟩ }

lemma has_storeOf {entries : List (String × Payload)} {object : ObjectLocation} :
    (storeOf entries).Has object ↔
      ∃ key ∈ entries.map Prod.fst, object = .s3 location.bucket key := by
  cases object with
  | localFile => simp [Store.Has, storeOf]
  | s3 bucket =>
    rw [Store.Has, storeOf]
    by_cases same : bucket = location.bucket
    · simp [same, lookup_isSome_iff]
    · simp [same]

lemma lists_storeOf (entries : List (String × Payload)) (distinct : (entries.map Prod.fst).Nodup) :
    ListsExactly (listingOf entries) (storeOf entries) location
      (entries.map fun entry => listedObject entry.1) := by
  have locations : (entries.map fun entry => listedObject entry.1).map (·.location) =
      (entries.map Prod.fst).map (ObjectLocation.s3 location.bucket) := by
    simp [listedObject]
  refine ⟨.last rfl rfl, ?_, ?_⟩
  · rw [locations]
    apply distinct.map
    intro _ _ same
    cases same
    rfl
  · intro _
    rw [locations, has_storeOf, mem_map]
    constructor
    · rintro ⟨key, mem, rfl⟩
      exact ⟨⟨key, mem, rfl⟩, key, rfl, rfl⟩
    · rintro ⟨⟨key, mem, rfl⟩, _⟩
      exact ⟨key, mem, rfl⟩

/-- A data object of a version that was never committed. -/
def abandoned : List (String × Payload) :=
  [(".parqonaut/versions/old/data/a.parquet", .contents "rows")]

/-- The inventory reports the data object of the abandoned version. -/
theorem abandoned_data_in_inventory :
    ListsExactly (listingOf abandoned) (storeOf abandoned) location
        (abandoned.map fun entry => listedObject entry.1) ∧
      ¬ (storeOf abandoned).Has (location.locate (.version "old" .commit)) ∧
      ∃ inventory : RemoteInventory, (∃ enough, ∀ bound, enough ≤ bound →
          eval (listingOf abandoned).service (listRemoteInventory serde bound location)
            (storeOf abandoned) = (.ok (some inventory), storeOf abandoned)) ∧
        ∃ object ∈ inventory.objects, isVersionData location "old" object = true ∧
          ¬ InInventory location (committedCurrent serde location (storeOf abandoned))
            (abandoned.map fun entry => listedObject entry.1) object := by
  have exact := lists_storeOf abandoned (by decide)
  refine ⟨exact, by decide, _, eval_listRemoteInventory exact.pages,
    listedObject ".parqonaut/versions/old/data/a.parquet", ?_, by decide, ?_⟩
  · rw [mem_inventory exact, mem_collected]
    exact ⟨by decide, .inr (.inl (by decide))⟩
  · have unpublished : committedCurrent serde location (storeOf abandoned) = none := by decide
    rintro ⟨_, user | ⟨_, _, names, _⟩⟩
    · exact absurd user (by decide)
    · rw [unpublished] at names
      cases names

/-- Committed version `r`, which `CURRENT` names. -/
def published : List (String × Payload) :=
  [(".parqonaut/CURRENT", .current ⟨"r"⟩), (".parqonaut/versions/r/COMMITTED", .marker ⟨"r", "r"⟩),
    (".parqonaut/versions/r/data/a.parquet", .contents "rows")]

theorem remote_inventory_exact_published :
    ListsExactly (listingOf published) (storeOf published) location
        (published.map fun entry => listedObject entry.1) ∧
      ∃ inventory : RemoteInventory, (∃ enough, ∀ bound, enough ≤ bound →
          eval (listingOf published).service (listRemoteInventory serde bound location)
            (storeOf published) = (.ok (some inventory), storeOf published)) ∧
        ∀ object, object ∈ inventory.objects ↔ InInventory location
          (committedCurrent serde location (storeOf published))
          (published.map fun entry => listedObject entry.1) object := by
  have exact := lists_storeOf published (by decide)
  obtain ⟨inventory, evaluates, right⟩ := remote_inventory_exact_iff serde exact
  refine ⟨exact, inventory, evaluates, right.mpr ?_⟩
  have current : committedCurrent serde location (storeOf published) = some "r" := by decide
  rw [current]
  refine ⟨?_, ?_, ?_⟩
  · intro object mem _
    refine ⟨"r", rfl, ?_⟩
    revert object
    decide
  · intro userParquet
    exact absurd (show NoUserParquet _ _ by unfold NoUserParquet; decide) userParquet
  · intro _
    left
    rintro object _ ⟨_, names, _⟩
    cases names
    revert object
    decide

end Reference

end Parqonaut.Storage
