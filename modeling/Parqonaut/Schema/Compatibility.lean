import Mathlib.Data.List.AList
import Mathlib.Data.List.Sort
import Parqonaut.Rust.Str

/-!
# Conversions between physical types

`compatibility.rs` of the columnar crate: the type labels, their widening ranks, and how much
a conversion between two of them may lose. `str::to_uppercase` is a parameter.
-/

namespace Parqonaut.Schema

open Rust Str

/-- Loss classification for a type conversion. -/
inductive Compatibility where
  | lossless
  | conditionallyLossless
  | potentiallyLossy
  | unsupported
  deriving DecidableEq

/-- Normalized physical type labels. -/
inductive PhysicalType where
  | int8
  | int16
  | int32
  | int64
  | uint8
  | uint16
  | uint32
  | uint64
  | float32
  | float64
  | boolean
  | utf8
  | binary
  | timestamp
  | date32
  | decimal
  | unknown (raw : String)
  deriving DecidableEq

namespace PhysicalType

/-- First label whose name occurs in the text. `INT8` occurs in `UINT8`, so unsigned labels are
never found. -/
def parse (toUppercase : String → String) (raw : String) : PhysicalType :=
  let upper := toUppercase raw
  if contains upper "INT8" || startsWith upper "INT(8)" then .int8
  else if contains upper "INT16" then .int16
  else if contains upper "INT32" then .int32
  else if contains upper "INT64" then .int64
  else if contains upper "UINT8" then .uint8
  else if contains upper "UINT16" then .uint16
  else if contains upper "UINT32" then .uint32
  else if contains upper "UINT64" then .uint64
  else if contains upper "FLOAT" && !contains upper "DOUBLE" then .float32
  else if contains upper "DOUBLE" then .float64
  else if contains upper "BOOL" then .boolean
  else if contains upper "STRING" || contains upper "UTF8" ||
      (contains upper "BYTE_ARRAY" && contains upper "STRING") then .utf8
  else if contains upper "BYTE_ARRAY" then .binary
  else if contains upper "TIMESTAMP" then .timestamp
  else if contains upper "DATE32" || contains upper "DATE" then .date32
  else if contains upper "DECIMAL" then .decimal
  else .unknown raw

def wideningRank : PhysicalType → Option Nat
  | .int8 => some 0
  | .int16 => some 1
  | .int32 => some 2
  | .int64 => some 3
  | .uint8 => some 10
  | .uint16 => some 11
  | .uint32 => some 12
  | .uint64 => some 13
  | .float32 => some 20
  | .float64 => some 21
  | _ => none

/-- Pairs of the first match arm: the second type holds every value of the first. -/
def widens : PhysicalType → PhysicalType → Bool
  | .int32, .int64 | .int16, .int32 | .int16, .int64
  | .int8, .int16 | .int8, .int32 | .int8, .int64
  | .uint32, .uint64 | .uint16, .uint32 | .uint16, .uint64
  | .uint8, .uint16 | .uint8, .uint32 | .uint8, .uint64
  | .float32, .float64 => true
  | _, _ => false

end PhysicalType

/-- Classify conversion from `source` to `target` under widening/nullable policy flags. -/
def classifyConversionFlags (source target : PhysicalType) (sourceNullable targetNullable : Bool)
    (allowNumericWidening allowNullableWidening : Bool) : Compatibility :=
  if source = target ∧ sourceNullable = targetNullable then .lossless
  else if source = target ∧ !sourceNullable ∧ targetNullable ∧ allowNullableWidening then .lossless
  else if source ≠ target then
    if !allowNumericWidening then .unsupported
    else if source.widens target then
      if sourceNullable = targetNullable ∨
          (!sourceNullable ∧ targetNullable ∧ allowNullableWidening) then .lossless
      else .conditionallyLossless
    else match source, target with
      | .int32, .float64 | .int64, .float64 => .potentiallyLossy
      | .utf8, .int64 | .int64, .utf8 | .utf8, .int32 | .int32, .utf8 => .unsupported
      | _, _ => .unsupported
  else if sourceNullable ∧ !targetNullable then .potentiallyLossy
  else .unsupported

/-- Whether no value is lost for certain. -/
def Compatibility.Accepted : Compatibility → Prop
  | .lossless | .conditionallyLossless => True
  | .potentiallyLossy | .unsupported => False

instance : DecidablePred Compatibility.Accepted := fun
  | .lossless | .conditionallyLossless => isTrue trivial
  | .potentiallyLossy | .unsupported => isFalse id

/-! ## Widening order -/

namespace PhysicalType

/-- `source` is `target` or, if widening is allowed, can be widened to it. -/
def Fits (widening : Bool) (source target : PhysicalType) : Prop :=
  source = target ∨ widening = true ∧ source.widens target = true

lemma Fits.refl (widening : Bool) (label : PhysicalType) : Fits widening label label := .inl rfl

variable {source target : PhysicalType}

lemma rank_of_widens (wider : source.widens target = true) :
    source.wideningRank.getD 0 < target.wideningRank.getD 0 := by
  cases source <;> cases target <;> first | (cases wider; done) | decide

lemma ne_of_widens (wider : source.widens target = true) : source ≠ target := by
  rintro rfl
  exact lt_irrefl _ (rank_of_widens wider)

variable {first second third : PhysicalType}

lemma widens_trans (one : first.widens second = true)
    (two : second.widens third = true) : first.widens third = true := by
  cases first <;> cases second <;> first
    | (cases one; done)
    | (cases third <;> first | rfl | cases two)

variable {widening : Bool}

lemma Fits.trans (one : Fits widening first second) (two : Fits widening second third) :
    Fits widening first third := by
  rcases one with rfl | ⟨allowed, one⟩
  · exact two
  · rcases two with rfl | ⟨-, two⟩
    · exact .inr ⟨allowed, one⟩
    · exact .inr ⟨allowed, widens_trans one two⟩

lemma Fits.antisymm
    (one : Fits widening first second) (two : Fits widening second first) : first = second := by
  rcases one with same | ⟨-, one⟩
  · exact same
  · rcases two with same | ⟨-, two⟩
    · exact same.symm
    · exact (lt_asymm (rank_of_widens one) (rank_of_widens two)).elim

end PhysicalType

/-! ## What the classes mean -/

variable {source target : PhysicalType} {sourceNullable targetNullable numeric nullable : Bool}

/-- A type of its own nullability, or a required one that may become optional. -/
def NullabilityFits (widening sourceNullable targetNullable : Bool) : Prop :=
  sourceNullable = targetNullable ∨ widening = true ∧ sourceNullable = false ∧ targetNullable = true

instance (widening sourceNullable targetNullable : Bool) :
    Decidable (NullabilityFits widening sourceNullable targetNullable) :=
  inferInstanceAs (Decidable (_ ∨ _))

/-- A conversion between different types is lossless exactly if it widens and the nullability
fits. -/
lemma classify_eq_lossless (different : source ≠ target) :
    classifyConversionFlags source target sourceNullable targetNullable numeric nullable =
        .lossless ↔
      (numeric = true ∧ source.widens target = true) ∧
        NullabilityFits nullable sourceNullable targetNullable := by
  unfold classifyConversionFlags NullabilityFits
  rw [if_neg fun same => different same.1, if_neg fun same => different same.1, if_pos different]
  cases numeric with
  | false => simp
  | true =>
    rw [if_neg (by decide)]
    by_cases wider : source.widens target = true
    · rw [if_pos wider]
      cases sourceNullable <;> cases targetNullable <;> cases nullable <;> simp [wider]
    · rw [if_neg wider]
      simp only [wider, and_false, Bool.false_eq_true, false_and, iff_false]
      split <;> decide

/-- A conversion is accepted exactly if the types are the same and the nullability fits, or if it
widens. -/
lemma classify_accepted :
    (classifyConversionFlags source target sourceNullable targetNullable numeric
        nullable).Accepted ↔
      (source = target ∧ NullabilityFits nullable sourceNullable targetNullable) ∨
        (numeric = true ∧ source.widens target = true) := by
  unfold classifyConversionFlags NullabilityFits
  by_cases same : source = target
  · subst same
    have narrow : source.widens source = false :=
      Bool.eq_false_iff.mpr fun wider => PhysicalType.ne_of_widens wider rfl
    cases sourceNullable <;> cases targetNullable <;> cases nullable <;>
      simp [narrow, Compatibility.Accepted]
  · rw [if_neg fun equal => same equal.1, if_neg fun equal => same equal.1, if_pos same]
    cases numeric with
    | false => simp [same, Compatibility.Accepted]
    | true =>
      rw [if_neg (by decide)]
      by_cases wider : source.widens target = true
      · rw [if_pos wider]
        split <;> simp [wider, Compatibility.Accepted]
      · rw [if_neg wider]
        split <;> simp [same, wider, Compatibility.Accepted]

/-!
# The canonical schema of a dataset

`compute_schema_diff` and `resolve_canonical_schema` of the repair crate. The canonical field is a
fold over the variants in the order of their paths; only the first variant that differs from it is
classified.
-/

open Std (TreeMap)

structure FieldDescriptor where
  name : String
  physicalType : String
  nullable : Bool
  deriving DecidableEq, Inhabited

/-- Schema reconciliation policy. The flags for missing columns and timestamp units are read by
nothing. -/
structure SchemaPolicy where
  allowNumericWidening : Bool
  allowNullableWidening : Bool
  allowColumnReorder : Bool
  rename : TreeMap String String

/-- `SchemaPolicy::default`. -/
def SchemaPolicy.standard : SchemaPolicy where
  allowNumericWidening := true
  allowNullableWidening := true
  allowColumnReorder := true
  rename := ∅

/-- Per-file schema view used for dataset-level diff. -/
structure FileSchemaView where
  path : String
  fields : List FieldDescriptor

/-- Kind of structural difference between two field descriptors. -/
inductive SchemaDifferenceKind where
  | identical
  | columnOrderDifference
  | nullableDifference
  | compatibleNumericWidening
  | compatibleTypePromotion
  | missingColumn
  | extraColumn
  | columnNameDifference
  | incompatibleTypeChange
  | nestedSchemaDifference
  deriving DecidableEq

/-- One field-level diff entry. The path of a field has one part, its name. -/
structure FieldDifference where
  path : String
  left : Option FieldDescriptor
  right : Option FieldDescriptor
  difference : SchemaDifferenceKind
  compatibility : Compatibility
  leftFileCount : Nat
  rightFileCount : Nat

structure SchemaDiff where
  fields : List FieldDifference
  canonicalSchema : List FieldDescriptor

structure UnresolvableSchemaConflict where
  field : String
  variants : List FieldDescriptor
  reason : String

structure SchemaResolution where
  diff : SchemaDiff
  conflicts : List UnresolvableSchemaConflict
  targetSchema : Option (List FieldDescriptor)

/-! ## Grouping by field -/

/-- Enter one field of one file. -/
def recordField (path : String) (fieldFiles : TreeMap String (TreeMap String FieldDescriptor))
    (field : FieldDescriptor) : TreeMap String (TreeMap String FieldDescriptor) :=
  fieldFiles.alter field.name fun perFile => some ((perFile.getD ∅).insert path field)

def recordView (fieldFiles : TreeMap String (TreeMap String FieldDescriptor))
    (view : FileSchemaView) : TreeMap String (TreeMap String FieldDescriptor) :=
  view.fields.foldl (recordField view.path) fieldFiles

/-- Variants of every field, by the paths of their files. -/
def groupFields (views : List FileSchemaView) : TreeMap String (TreeMap String FieldDescriptor) :=
  views.foldl recordView ∅

/-- `per_file.values()`: the variants in the order of the paths. -/
def valuesOf (perFile : TreeMap String FieldDescriptor) : List FieldDescriptor :=
  perFile.toList.map Prod.snd

/-! ## Canonical field -/

variable (toUppercase : String → String) (policy : SchemaPolicy)

def FieldDescriptor.label (field : FieldDescriptor) : PhysicalType :=
  .parse toUppercase field.physicalType

/-- Classify conversion under repair schema policy. -/
def classifyConversion (source target : FieldDescriptor) : Compatibility :=
  classifyConversionFlags (source.label toUppercase) (target.label toUppercase) source.nullable
    target.nullable policy.allowNumericWidening policy.allowNullableWidening

/-- One round of the loop over the variants. -/
def widenField (best variant : FieldDescriptor) : FieldDescriptor :=
  let rank := fun field : FieldDescriptor => (field.label toUppercase).wideningRank.getD 0
  if classifyConversion toUppercase policy best variant = .lossless ∧ rank variant > rank best then
    variant
  else if variant.nullable && !best.nullable && policy.allowNullableWidening then
    { best with nullable := true }
  else best

def pickCanonicalField : List FieldDescriptor → FieldDescriptor
  | [] => default
  | first :: rest => rest.foldl (widenField toUppercase policy) first

/-! ## Differences -/

/-- The variant is not the canonical field. -/
def FieldDescriptor.differs (canonical variant : FieldDescriptor) : Bool :=
  variant.physicalType ≠ canonical.physicalType || variant.nullable ≠ canonical.nullable

/-- What the loop over the fields reports for one of them. -/
def fieldDifference (name : String) (variants : List FieldDescriptor) : Option FieldDifference :=
  let canonical := pickCanonicalField toUppercase policy variants
  let distinct := (variants.map fun variant => (variant.physicalType, variant.nullable)).dedup
  if distinct.length = 1 then
    let only := variants.headD default
    let kind := if only.nullable ≠ canonical.nullable then .nullableDifference
      else if only.physicalType ≠ canonical.physicalType then .compatibleNumericWidening
      else .identical
    if kind ≠ .identical then
      some {
        path := name
        left := some only
        right := some canonical
        difference := kind
        compatibility := classifyConversion toUppercase policy only canonical
        leftFileCount := variants.length
        rightFileCount := 0 }
    else none
  else
    let source := (variants.find? canonical.differs).getD canonical
    let leftCount := variants.countP fun variant =>
      variant.physicalType = source.physicalType && variant.nullable = source.nullable
    let compat := classifyConversion toUppercase policy source canonical
    let kind := if compat = .unsupported then .incompatibleTypeChange
      else if source.physicalType ≠ canonical.physicalType then .compatibleNumericWidening
      else if source.nullable ≠ canonical.nullable then .nullableDifference
      else .identical
    if kind = .identical then none
    else
      some {
        path := name
        left := some source
        right := some canonical
        difference := kind
        compatibility := compat
        leftFileCount := leftCount
        rightFileCount := variants.length - leftCount }

/-- Compute structured schema diff across multiple file schemas. -/
def computeSchemaDiff (views : List FileSchemaView) : SchemaDiff :=
  let fields := (groupFields views).toList.filter fun entry => !(valuesOf entry.2).isEmpty
  let canonical := fields.map fun entry => pickCanonicalField toUppercase policy (valuesOf entry.2)
  let differences := fields.filterMap fun entry =>
    fieldDifference toUppercase policy entry.1 (valuesOf entry.2)
  { fields := differences.insertionSort fun a b => a.path ≤ b.path
    canonicalSchema := canonical.insertionSort fun a b => a.name ≤ b.name }

/-! ## Resolution -/

/-- Conflict that a difference stands for. -/
def conflictOf (difference : FieldDifference) : Option UnresolvableSchemaConflict :=
  if difference.compatibility = .unsupported ∨ difference.compatibility = .potentiallyLossy then
    some {
      field := difference.path
      variants := [difference.left.getD default, difference.right.getD default]
      reason := "No deterministic canonical type under current schema policy" }
  else none

/-- Resolve canonical target schema from file views or explicit override. -/
def resolveCanonicalSchema (views : List FileSchemaView)
    (explicit : Option (List FieldDescriptor)) : SchemaResolution :=
  let diff := computeSchemaDiff toUppercase policy views
  let conflicts := diff.fields.filterMap conflictOf
  { diff := diff
    conflicts := conflicts
    targetSchema := explicit.or (if conflicts.isEmpty then some diff.canonicalSchema else none) }

end Parqonaut.Schema
