import Parqonaut.Orchestrator.State

/-!
# Accepted configurations and accepted plans

When the plan of an accepted configuration is accepted, with the locations that were checked.
-/

namespace Parqonaut.Orchestrator

open Repair Rust Rust.UrlCrate Storage List Result DatasetLocation

/-! ## Overlaps -/

/-- Two datasets with no common place. -/
def Apart (left right : BatchPathSpec) : Prop :=
  locationsOverlap left.source right.source = false ∧
    locationsOverlap left.source right.output = false ∧
    locationsOverlap left.output right.source = false ∧
    locationsOverlap left.output right.output = false

lemma crossOverlapDetail_eq_none {left right : BatchPathSpec} :
    crossOverlapDetail left right = none ↔ Apart left right := by
  simp [crossOverlapDetail, Apart]

variable {specs : List BatchPathSpec}

lemma firstCrossOverlap_eq_none : firstCrossOverlap specs = none ↔ specs.Pairwise Apart := by
  induction specs with
  | nil => simp [firstCrossOverlap]
  | cons _ _ ih =>
    rw [firstCrossOverlap, Option.or_eq_none_iff, List.findSome?_eq_none_iff, pairwise_cons, ih]
    simp [crossOverlapDetail_eq_none]

lemma validateBatchOverlap_eq_ok : validateBatchOverlap specs = .ok () ↔
      (∀ spec ∈ specs, locationsOverlap spec.source spec.output = false) ∧
        specs.Pairwise Apart := by
  rw [validateBatchOverlap]
  cases found : specs.find? fun spec => locationsOverlap spec.source spec.output with
  | some spec =>
    refine iff_of_false (by simp) fun apart => ?_
    have overlaps := List.find?_some found
    rw [apart.1 spec (List.mem_of_find?_eq_some found)] at overlaps
    cases overlaps
  | none =>
    rw [List.find?_eq_none] at found
    have free : ∀ spec ∈ specs, locationsOverlap spec.source spec.output = false :=
      fun spec mem => by simpa using found spec mem
    rw [and_iff_right free, ← firstCrossOverlap_eq_none]
    cases firstCrossOverlap specs with
    | none => simp
    | some => simp

/-- The same locations overlap. -/
lemma locationsOverlap_congr {a a' b b' : DatasetLocation} (first : a.Same a')
    (second : b.Same b') : locationsOverlap a b = locationsOverlap a' b' := by
  cases a with
  | localDir =>
    cases a' with
    | s3 => cases first
    | localDir =>
      cases b with
      | localDir =>
        cases b' with
        | s3 => cases second
        | localDir =>
          change Path.components _ = Path.components _ at first second
          simp [locationsOverlap, Repair.pathsOverlap, Path.startsWith, first, second]
      | s3 =>
        cases b' with
        | s3 => rfl
        | localDir => cases second
  | s3 a =>
    cases a' with
    | localDir => cases first
    | s3 a' =>
      obtain rfl : a = a' := first
      cases b with
      | localDir =>
        cases b' with
        | s3 => cases second
        | localDir => rfl
      | s3 b =>
        cases b' with
        | localDir => cases second
        | s3 b' =>
          obtain rfl : b = b' := second
          rfl

/-! ## Related lists -/

section

variable {α β : Type} {related : α → β → Prop} {list : List α} {others : List β}

lemma exists_mem_of_forall₂ (pairs : List.Forall₂ related list others) {other : β}
    (mem : other ∈ others) : ∃ item ∈ list, related item other := by
  induction pairs with
  | nil => cases mem
  | @cons item _ _ _ isRelated _ ih =>
    rcases mem_cons.mp mem with rfl | later
    · exact ⟨item, mem_cons_self, isRelated⟩
    · obtain ⟨before, isBefore, holds⟩ := ih later
      exact ⟨before, mem_cons_of_mem _ isBefore, holds⟩

lemma pairwise_of_forall₂ {mid : α → α → Prop} {after : β → β → Prop}
    (transfer : ∀ {a b a' b'}, related a a' → related b b' → mid a b → after a' b')
    (pairs : List.Forall₂ related list others) (holds : list.Pairwise mid) :
    others.Pairwise after := by
  induction pairs with
  | nil => exact .nil
  | @cons _ _ _ _ isRelated tail ih =>
    rw [pairwise_cons] at holds
    refine pairwise_cons.mpr ⟨fun other mem => ?_, ih holds.2⟩
    obtain ⟨before, isBefore, same⟩ := exists_mem_of_forall₂ tail mem
    exact transfer isRelated same (holds.1 before isBefore)

end

/-! ## Plans of mappings -/

/-- A plan that stores the locations of the mappings. -/
def BuiltFrom (mappings : List OutputMapping) (plan : BatchPlan) : Prop :=
  List.Forall₂ (fun mapping ds => ds.datasetId = mapping.datasetId ∧
    ds.sourcePath = mapping.source.displayUri ∧ ds.outputPath = mapping.output.displayUri)
    mappings plan.datasets

/-- Every plan of the mappings is accepted, and gives back their locations. -/
def PlansAccepted (crate : Crate) (mappings : List OutputMapping) : Prop :=
  (∀ plan, BuiltFrom mappings plan → validateBatchPlan (parse crate) plan = .ok ()) ∧
  ∀ mapping ∈ mappings, mapping.source.RoundTrips crate ∧ mapping.output.RoundTrips crate

section

variable {env : PlanEnv} {config : BatchConfig} {base : String} {mappings : List OutputMapping}

lemma forall₂_resolveOutputMappings
    (resolved : resolveOutputMappings env config base = .ok mappings) :
    ∃ root, config.batch.outputRoot = some root ∧
      List.Forall₂ (fun ds mapping => resolveMapping env base (resolveDatasetLocation base root) ds =
        .ok mapping) config.datasets mappings ∧
      validateBatchOverlap (mappings.map OutputMapping.spec) = .ok () := by
  rw [resolveOutputMappings] at resolved
  obtain ⟨root, isRoot, continues⟩ := bind_eq_ok.mp resolved
  obtain ⟨_, maps, checks⟩ := bind_eq_ok.mp continues
  obtain ⟨-, -, overlaps⟩ := bind_eq_ok.mp checks
  obtain ⟨⟨⟩, free, returned⟩ := bind_eq_ok.mp overlaps
  obtain rfl := pure_eq_ok.mp returned
  refine ⟨root, ?_, mapM_eq_ok.mp maps, free⟩
  rw [BatchConfig.requireOutputRoot] at isRoot
  split at isRoot
  · rename_i isLocation
    rw [isLocation, Except.ok.inj isRoot]
  · cases isRoot

lemma stored_of_planMapping {ds : DatasetConfig} {mapping : OutputMapping} {result : DatasetPlan}
    (plans : planMapping env base ds mapping = .ok result) :
    result.datasetId = mapping.datasetId ∧ result.sourcePath = mapping.source.displayUri ∧
      result.outputPath = mapping.output.displayUri := by
  obtain ⟨_, -, targets⟩ := bind_eq_ok.mp plans
  obtain ⟨_, -, repairs⟩ := bind_eq_ok.mp targets
  obtain ⟨_, -, returned⟩ := bind_eq_ok.mp repairs
  obtain rfl := pure_eq_ok.mp returned
  exact ⟨rfl, rfl, rfl⟩

lemma forall₂_planMapping {related : DatasetConfig → OutputMapping → Prop}
    {configs : List DatasetConfig} {results : List DatasetPlan}
    (pairs : List.Forall₂ related configs mappings)
    (planned : List.Forall₂ (fun (pair : DatasetConfig × OutputMapping) result =>
      planMapping env base pair.1 pair.2 = .ok result) (configs.zip mappings) results) :
    List.Forall₂ (fun mapping ds => ds.datasetId = mapping.datasetId ∧
      ds.sourcePath = mapping.source.displayUri ∧ ds.outputPath = mapping.output.displayUri)
      mappings results := by
  induction pairs generalizing results with
  | nil =>
    cases planned
    exact .nil
  | cons _ _ ih =>
    cases planned with
    | cons first rest => exact .cons (stored_of_planMapping first) (ih rest)

variable {plan : BatchPlan}

/-- The plan of a configuration stores the locations of its mappings. -/
lemma builtFrom_buildBatchPlan (built : buildBatchPlan env config base = .ok plan) :
    ∃ mappings, resolveOutputMappings env config base = .ok mappings ∧ BuiltFrom mappings plan := by
  rw [buildBatchPlan] at built
  obtain ⟨-, -, resolves⟩ := bind_eq_ok.mp built
  obtain ⟨mappings, resolved, roots⟩ := bind_eq_ok.mp resolves
  obtain ⟨_, -, runs⟩ := bind_eq_ok.mp roots
  obtain ⟨_, -, plans⟩ := bind_eq_ok.mp runs
  obtain ⟨_, maps, returned⟩ := bind_eq_ok.mp plans
  obtain rfl := pure_eq_ok.mp returned
  obtain ⟨_, -, pairs, -⟩ := forall₂_resolveOutputMappings resolved
  exact ⟨mappings, resolved, forall₂_planMapping pairs (mapM_eq_ok.mp maps)⟩

/-- Locations that are read back are the ones that were checked. -/
lemma validateBatchPlan_of_roundTrips {crate : Crate} (built : BuiltFrom mappings plan)
    (free : validateBatchOverlap (mappings.map OutputMapping.spec) = .ok ())
    (same : ∀ mapping ∈ mappings,
      mapping.source.RoundTrips crate ∧ mapping.output.RoundTrips crate) :
    validateBatchPlan (parse crate) plan = .ok () := by
  have found : ∃ specs, datasetLocations (parse crate) plan = .ok specs ∧
      List.Forall₂ (fun mapping spec => Same spec.source mapping.source ∧
        Same spec.output mapping.output) mappings specs := by
    rw [BuiltFrom] at built
    rw [datasetLocations]
    generalize plan.datasets = datasets at built
    clear free
    induction built with
    | nil => exact ⟨[], rfl, .nil⟩
    | @cons mapping ds _ _ stored _ ih =>
      obtain ⟨⟨source, isSource, sameSource⟩, output, isOutput, sameOutput⟩ :=
        same mapping mem_cons_self
      obtain ⟨specs, isSpecs, pairs⟩ := ih fun other mem =>
        same other (mem_cons_of_mem _ mem)
      refine ⟨⟨ds.datasetId, source, output⟩ :: specs, ?_, .cons ⟨sameSource, sameOutput⟩ pairs⟩
      rw [mapM_cons, isSpecs, stored.2.1, stored.2.2, isSource, isOutput]
      rfl
  obtain ⟨specs, isSpecs, pairs⟩ := found
  rw [validateBatchPlan, isSpecs]
  change validateBatchOverlap specs = .ok ()
  rw [validateBatchOverlap_eq_ok] at free ⊢
  rw [pairwise_map] at free
  refine ⟨fun spec mem => ?_, pairwise_of_forall₂ ?_ pairs free.2⟩
  · obtain ⟨mapping, isMapping, sameSource, sameOutput⟩ := exists_mem_of_forall₂ pairs mem
    rw [locationsOverlap_congr sameSource sameOutput]
    exact free.1 mapping.spec (mem_map_of_mem isMapping)
  · rintro _ _ _ _ ⟨source, output⟩ ⟨otherSource, otherOutput⟩ apart
    rw [Apart, locationsOverlap_congr source otherSource, locationsOverlap_congr source otherOutput,
      locationsOverlap_congr output otherSource, locationsOverlap_congr output otherOutput]
    exact apart

end

/-! ## Plain configurations -/

/-- Locations that are read back from their URIs. -/
def PlainLocation (crate : Crate) : DatasetLocation → Prop
  | .localDir location => PlainPath location.path
  | .s3 location => PlainS3 crate location

lemma roundTrips_iff_plainLocation {crate : Crate} {location : DatasetLocation} :
    location.RoundTrips crate ↔ PlainLocation crate location := by
  cases location with
  | localDir => exact roundTrips_localDir_iff
  | s3 => exact roundTrips_s3_iff

section

variable (env : PlanEnv) (base : String)

/-- The source is an object-store location or a directory with a plain canonical path. -/
def DatasetConfig.PlainSource (ds : DatasetConfig) : Prop :=
  match ds.path with
  | .s3 location => PlainS3 env.crate location
  | .localDir location => ∀ canonical,
      env.canonicalize (localPathForPolicy base location.path) = .ok canonical → PlainPath canonical

/-- A name below the output root. -/
def PlainSegment (root : DatasetLocation) (segment : String) : Prop :=
  match root with
  | .localDir location => PlainPath (Path.join (localPathForPolicy base location.path) segment)
  | .s3 location => PlainS3 env.crate ⟨location.bucket, segmentKey location segment⟩

/-- The output is a plain name below the output root, a plain path from the configuration's
directory, or a plain location. -/
def DatasetConfig.PlainOutput (root : DatasetLocation) (ds : DatasetConfig) : Prop :=
  match ds.output with
  | none => PlainSegment env base root ds.id
  | some text =>
    if Str.contains text "://" || isAbsolute text then
      ∀ location, parse env.crate (Str.trim text) = .ok location →
        PlainLocation env.crate (resolveDatasetLocation base location)
    else if Str.contains text "/" || Str.contains text ".." then PlainPath (Path.join base text)
    else PlainSegment env base root text

/-- Every path that the configuration leads to is a plain one. -/
def BatchConfig.IsPlain (config : BatchConfig) : Prop :=
  ∀ ds ∈ config.datasets, ds.PlainSource env base ∧
    ∀ root, config.batch.outputRoot = some root → ds.PlainOutput env base root

variable {env : PlanEnv} {base : String} {ds : DatasetConfig} {root location : DatasetLocation}

lemma plainSource_iff (found : canonicalizeLocalLocation env base ds.path = .ok location) :
    ds.PlainSource env base ↔ PlainLocation env.crate location := by
  rw [canonicalizeLocalLocation] at found
  rw [DatasetConfig.PlainSource]
  cases path : ds.path with
  | s3 =>
    rw [path] at found
    obtain rfl := Except.ok.inj found
    rfl
  | localDir =>
    rw [path] at found
    obtain ⟨canonical, isCanonical, returned⟩ := bind_eq_ok.mp found
    obtain rfl := pure_eq_ok.mp returned
    rw [mapError_eq_ok] at isCanonical
    constructor
    · intro plain
      exact plain canonical isCanonical
    · intro _ _ isOther
      rw [isCanonical] at isOther
      rwa [← Except.ok.inj isOther]

lemma plainSegment_iff {segment : String}
    (found : joinOutputSegment (resolveDatasetLocation base root) segment = .ok location) :
    PlainSegment env base root segment ↔ PlainLocation env.crate location := by
  unfold joinOutputSegment at found
  split at found
  · cases found
  · cases root with
    | localDir | s3 =>
      obtain rfl := Except.ok.inj found
      rfl

lemma plainOutput_iff
    (found : resolveDatasetOutput env base (resolveDatasetLocation base root) ds = .ok location) :
    ds.PlainOutput env base root ↔ PlainLocation env.crate location := by
  rw [resolveDatasetOutput] at found
  rw [DatasetConfig.PlainOutput]
  cases output : ds.output with
  | none =>
    rw [output] at found
    exact plainSegment_iff found
  | some =>
    rw [output] at found
    dsimp only at found ⊢
    split at found
    · rename_i overrides
      rw [if_pos overrides]
      rw [parseOutputOverride] at found
      split at found
      · obtain ⟨parsed, isParsed, returned⟩ := bind_eq_ok.mp found
        obtain rfl := pure_eq_ok.mp returned
        rw [mapError_eq_ok] at isParsed
        constructor
        · intro plain
          exact plain parsed isParsed
        · intro _ _ isOther
          rw [isParsed] at isOther
          rwa [← Except.ok.inj isOther]
      · cases found
    · rename_i named
      rw [if_neg named]
      rw [Bool.or_eq_true, not_or] at named
      split at found
      · rename_i nested
        rw [if_pos nested]
        obtain rfl := Except.ok.inj found
        rw [localPathForPolicy, if_neg named.2]
        rfl
      · rename_i simple
        rw [if_neg simple]
        exact plainSegment_iff found

end

namespace Reference

/-- A crate that takes every host as it is and knows no addresses. -/
def plainCrate : Crate where
  parseHost := .ok
  parseIpv6 := fun _ => .error .invalidIpv6Address
  ipv6_letters := by
    intro _ _ parsed
    cases parsed
  encodesCaret := false
  parseOther := fun _ => .error .relativeUrlWithoutBase

/-- Canonical paths, default policies and the plan of a dataset that cannot be scanned. -/
def planEnv : PlanEnv where
  crate := plainCrate
  canonicalize := .ok
  readPolicy := fun _ => .ok .standard
  readTargetSchema := fun _ => .ok none
  planDataset := fun source policy _ => .ok {
    schemaVersion := PLAN_SCHEMA_VERSION
    planId := "plan"
    datasetRoot := locationRoot source
    datasetFingerprint := ⟨1, locationRoot source, [], "unscannable-dataset"⟩
    policyFingerprint := "policy"
    repairPolicy := policy.repair
    operations := [] }
  configFingerprint := fun _ => "batch-config"
  derivePlanId := fun _ _ _ _ => "batch-plan"

/-- One dataset with the default output below an output root. -/
def oneDataset (outputRoot : String) : BatchConfig where
  schemaVersion := BATCH_CONFIG_SCHEMA_VERSION
  batch := ⟨2, some (.localDir ⟨outputRoot⟩), none, 8⟩
  datasets := [⟨"a", .localDir ⟨"/data/a"⟩, none, none, [], none⟩]

end Reference

end Parqonaut.Orchestrator
