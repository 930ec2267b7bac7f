import Mathlib.Data.String.Basic
import Parqonaut.Rust.SortedBy
import Parqonaut.Storage.InventoryExactness
import Parqonaut.Storage.LocationUri

/-!
# Keys of an inventory

The inventory is sorted strictly by key, however the backend orders the objects, repeats them or
cuts them into pages. A relative key and the object that it addresses determine each other.
-/

namespace Parqonaut.Storage

open Effects Rust DatasetLocation

variable {Bytes : Type} {objects : List ObjectMetadata}

lemma sortedByKey_pairwise : (sortedByKey objects).Pairwise fun a b =>
    objectSortKey a.location < objectSortKey b.location := by
  let key := fun object : ObjectMetadata => objectSortKey object.location
  have sorted : (objects.mergeSort fun a b => decide (key a ≤ key b)).Pairwise
      fun a b => decide (key a ≤ key b) = true :=
    List.pairwise_mergeSort (by simpa using fun a b c => le_trans)
      (by simpa using fun a b => le_total (key a) (key b)) objects
  exact destutter_pairwise_lt key (sorted.imp of_decide_eq_true)

/-- Listings with the same objects lead to the same inventory, which is sorted strictly by
key. -/
theorem inventory_canonical (serde : SerdeJson Bytes) (store : Store Bytes) (root : S3Location)
    (catalogue : List ObjectMetadata) (distinct : ∀ first ∈ catalogue, ∀ second ∈ catalogue,
      objectSortKey first.location = objectSortKey second.location → first = second) :
    ∃ inventory : RemoteInventory, (inventory.objects.Pairwise fun a b =>
        objectSortKey a.location < objectSortKey b.location) ∧
      ∀ (s3 : S3Service Bytes) (listed : List ObjectMetadata), Pages s3 store root none listed →
        (∀ object, object ∈ listed ↔ object ∈ catalogue) → ∃ enough, ∀ bound, enough ≤ bound →
          Fallible.eval s3.service (listRemoteInventory serde bound root) store =
            (.ok (some inventory), store) := by
  refine ⟨⟨.s3 root, sortedByKey (collected root (committedCurrent serde root store) catalogue)⟩,
    sortedByKey_pairwise, fun s3 listed pages same => ?_⟩
  have unique : ∀ {some : List ObjectMetadata}, (∀ object, object ∈ some ↔ object ∈ catalogue) →
      ∀ first ∈ collected root (committedCurrent serde root store) some,
        ∀ second ∈ collected root (committedCurrent serde root store) some,
          objectSortKey first.location = objectSortKey second.location → first = second := by
    intro _ same first firstIn second secondIn
    exact distinct first ((same first).mp (mem_collected.mp firstIn).1) second
      ((same second).mp (mem_collected.mp secondIn).1)
  have equal : sortedByKey (collected root (committedCurrent serde root store) listed) =
      sortedByKey (collected root (committedCurrent serde root store) catalogue) := by
    apply eq_of_pairwise_lt (fun object : ObjectMetadata => objectSortKey object.location)
      sortedByKey_pairwise sortedByKey_pairwise
    intro _
    rw [mem_sortedByKey (unique same), mem_sortedByKey (unique fun _ => Iff.rfl), mem_collected,
      mem_collected]
    simp [same]
  rw [← equal]
  exact eval_listRemoteInventory pages

open Reference in
theorem inventory_canonical_published : ∃ inventory : RemoteInventory, ∃ enough, ∀ bound,
    enough ≤ bound → Fallible.eval (listingOf published).service
      (listRemoteInventory serde bound location) (storeOf published) =
        (.ok (some inventory), storeOf published) := by
  obtain ⟨inventory, -, canonical⟩ := inventory_canonical serde (storeOf published) location
    (published.map fun entry => listedObject entry.1) (by decide)
  exact ⟨inventory, canonical (listingOf published) _ (.last rfl rfl) fun _ => Iff.rfl⟩

/-! ## Relative keys -/

variable {location : S3Location} {relative : String}

/-- `parse` leaves no slash at the end of a prefix. -/
lemma trimEndMatches_of_parse {crate : UrlCrate.Crate} {input : String}
    (parsed : parse crate input = .ok (.s3 location)) :
    Str.trimEndMatches '/' location.keyPrefix = location.keyPrefix := by
  unfold parse at parsed
  dsimp only at parsed
  split at parsed
  · cases parsed
  split at parsed
  · cases found : parseS3Dataset crate (Str.trim input) with
    | error =>
      rw [found] at parsed
      cases parsed
    | ok =>
      rw [found] at parsed
      cases parsed
      unfold parseS3Dataset s3LocationOf at found
      repeat' split at found
      all_goals cases found
      rw [Str.trimEndMatches, Str.trimEndMatches, String.toList_ofList, List.rdropWhile_idempotent]
  · cases found : parseLocalDataset crate (Str.trim input) <;> rw [found] at parsed <;> cases parsed

lemma trimStartMatches_of_relative (relatively : Str.startsWith relative "/" = false) :
    Str.trimStartMatches '/' relative = relative := by
  cases letters : relative.toList with
  | nil => simp_all [Str.trimStartMatches]
  | cons =>
    apply Str.trimStartMatches_of_head letters
    rintro rfl
    simp [Str.startsWith, letters] at relatively

/-- A relative key of a dataset. -/
structure IsRelativeKey (relative : String) : Prop where
  nonempty : relative ≠ ""
  relatively : Str.startsWith relative "/" = false
  plain : Str.contains relative ".." = false

lemma relativeObjectKey_objectAt
    (trimmed : Str.trimEndMatches '/' location.keyPrefix = location.keyPrefix)
    (key : IsRelativeKey relative) : ∃ object, objectAt (.s3 location) relative = .ok object ∧
      relativeObjectKey location object = some relative := by
  have start := trimStartMatches_of_relative key.relatively
  by_cases root : location.keyPrefix = ""
  · refine ⟨.s3 location.bucket relative, ?_, ?_⟩
    · simp [objectAt, S3Location.objectKey, start, key.plain, root]
    · have empty : Str.trimEndMatches '/' "" = "" := by decide
      simp [relativeObjectKey, root, empty, start]
  · refine ⟨.s3 location.bucket (location.keyPrefix ++ "/" ++ relative), ?_, ?_⟩
    · simp [objectAt, S3Location.objectKey, start, key.plain, root, key.nonempty, trimmed]
    · have longer : location.keyPrefix ++ "/" ++ relative ≠ location.keyPrefix := by
        intro same
        have lengths := congrArg String.length same
        rw [String.length_append, String.length_append] at lengths
        have slash : "/".length = 1 := rfl
        omega
      simp only [relativeObjectKey, trimmed, if_true, if_neg root, if_neg longer]
      exact Str.stripPrefix_append _ _

/-- In a dataset that `parse` returned, a relative key addresses an object whose relative key it
is, and no other key does. -/
theorem relative_key_round_trip {crate : UrlCrate.Crate} {input : String}
    (parsed : parse crate input = .ok (.s3 location))
    (key : IsRelativeKey relative) : ∃ object, objectAt (.s3 location) relative = .ok object ∧
      relativeObjectKey location object = some relative ∧
      ∀ other, IsRelativeKey other → objectAt (.s3 location) other = .ok object →
        other = relative := by
  have trimmed := trimEndMatches_of_parse parsed
  obtain ⟨object, addresses, inverse⟩ := relativeObjectKey_objectAt trimmed key
  refine ⟨object, addresses, inverse, fun other otherKey same => ?_⟩
  obtain ⟨_, finds, named⟩ := relativeObjectKey_objectAt trimmed otherKey
  rw [same] at finds
  cases finds
  rw [inverse] at named
  exact (Option.some.inj named).symm

theorem relative_key_round_trip_data : ∃ crate location object,
    parse crate "s3://bucket/a//b/" = .ok (.s3 location) ∧
      objectAt (.s3 location) "data/c" = .ok object ∧
      relativeObjectKey location object = some "data/c" := by
  let crate : UrlCrate.Crate := ⟨.ok, fun _ => .error .invalidIpv6Address, nofun, false,
    fun _ => .error .relativeUrlWithoutBase⟩
  have parsed : parse crate "s3://bucket/a//b/" = .ok (.s3 ⟨"bucket", "a//b"⟩) := by
    decide
  have key : IsRelativeKey "data/c" := ⟨by decide, by decide, by decide⟩
  obtain ⟨object, addresses, inverse, -⟩ := relative_key_round_trip parsed key
  exact ⟨crate, _, object, parsed, addresses, inverse⟩

end Parqonaut.Storage
