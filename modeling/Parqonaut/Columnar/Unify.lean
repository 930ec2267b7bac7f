import Mathlib.Data.Fintype.Defs
import Mathlib.Data.List.AList
import Parqonaut.Columnar.Batch

/-!
# Schema unification

`TypeKind`, `widen_types` and `UnifiedSchema::from_schemas` of the columnar crate. Column by
column the unification is a fold of a partial binary operation over the kinds of the column.
-/

namespace Parqonaut.Columnar

open Arrow List AList Option

inductive SchemaConflictPolicy where
  | strict
  | widen
  | stringify
  deriving DecidableEq

inductive TypeKind where
  | null
  | bool
  | i8
  | i16
  | i32
  | i64
  | f32
  | f64
  | utf8
  | date
  | datetime
  | binary
  deriving DecidableEq

namespace TypeKind

instance : Fintype TypeKind where
  elems := ⟨↑[null, bool, i8, i16, i32, i64, f32, f64, utf8, date, datetime, binary], by decide⟩
  complete := by
    intro kind
    cases kind <;> decide

def debug : TypeKind → String
  | .null => "Null"
  | .bool => "Bool"
  | .i8 => "I8"
  | .i16 => "I16"
  | .i32 => "I32"
  | .i64 => "I64"
  | .f32 => "F32"
  | .f64 => "F64"
  | .utf8 => "Utf8"
  | .date => "Date"
  | .datetime => "Datetime"
  | .binary => "Binary"

def fromArrowType : DataType → Except ColumnarError TypeKind
  | .null => .ok .null
  | .boolean => .ok .bool
  | .int8 => .ok .i8
  | .int16 => .ok .i16
  | .int32 => .ok .i32
  | .int64 => .ok .i64
  | .float32 => .ok .f32
  | .float64 => .ok .f64
  | .utf8 | .largeUtf8 => .ok .utf8
  | .binary | .largeBinary => .ok .binary
  | .date32 => .ok .date
  | .date64 => .ok .datetime
  | .timestamp _ _ => .ok .datetime
  | .other name => .error (.schema ("unsupported Arrow type for unification: " ++ name))

def toArrowType : TypeKind → DataType
  | .null => .null
  | .bool => .boolean
  | .i8 => .int8
  | .i16 => .int16
  | .i32 => .int32
  | .i64 => .int64
  | .f32 => .float32
  | .f64 => .float64
  | .utf8 => .utf8
  | .date => .date32
  | .datetime => .timestamp .millisecond none
  | .binary => .binary

end TypeKind

/-- Table of `widen_types`: the pairs of different kinds that have a common kind under every
policy. -/
def widened : TypeKind → TypeKind → Option TypeKind
  | .bool, .i8 | .i8, .bool => some .i8
  | .bool, .i16 | .i16, .bool => some .i16
  | .bool, .i32 | .i32, .bool => some .i32
  | .bool, .i64 | .i64, .bool => some .i64
  | .bool, .f32 | .f32, .bool => some .f32
  | .bool, .f64 | .f64, .bool => some .f64
  | .i8, .i16 | .i16, .i8 => some .i16
  | .i8, .i32 | .i32, .i8 => some .i32
  | .i8, .i64 | .i64, .i8 => some .i64
  | .i16, .i32 | .i32, .i16 => some .i32
  | .i16, .i64 | .i64, .i16 => some .i64
  | .i32, .i64 | .i64, .i32 => some .i64
  | .i8, .f32 | .f32, .i8 => some .f32
  | .i8, .f64 | .f64, .i8 => some .f64
  | .i16, .f32 | .f32, .i16 => some .f32
  | .i16, .f64 | .f64, .i16 => some .f64
  | .i32, .f32 | .f32, .i32 => some .f32
  | .i32, .f64 | .f64, .i32 => some .f64
  | .i64, .f32 | .f32, .i64 => some .f64
  | .i64, .f64 | .f64, .i64 => some .f64
  | .f32, .f64 | .f64, .f32 => some .f64
  | .date, .datetime | .datetime, .date => some .datetime
  | _, _ => none

def widenTypes (left right : TypeKind) (stringifyConflicts : Bool)
    (policy : SchemaConflictPolicy) : Except ColumnarError TypeKind :=
  if left = .null then .ok right
  else if right = .null then .ok left
  else if left = right then .ok left
  else
    match widened left right with
    | some kind => .ok kind
    | none =>
      if stringifyConflicts && (left = .utf8 || right = .utf8) then .ok .utf8
      else if stringifyConflicts && (left = .binary || right = .binary) then .ok .utf8
      else if policy = .strict then
        .error (.schema ("Cannot unify incompatible types under strict policy: " ++
          left.debug ++ " and " ++ right.debug))
      else
        .error (.schema ("Cannot unify incompatible types: " ++ left.debug ++ " and " ++
          right.debug))

def unifyTypes (left right : TypeKind) (policy : SchemaConflictPolicy) :
    Except ColumnarError TypeKind :=
  widenTypes left right (policy = .stringify) policy

/-! ## Unified schemas -/

structure UnifiedSchema where
  schema : Schema
  typeMapping : AList fun _ : String => TypeKind

/-- Columns met so far, in the order of their first occurrence. -/
structure UnifyState where
  columnTypes : AList fun _ : String => TypeKind
  columnOrder : List String

def UnifyState.start : UnifyState := ⟨∅, []⟩

/-- Take one field into account. -/
def addField (policy : SchemaConflictPolicy) (state : UnifyState) (field : Field) :
    Except ColumnarError UnifyState := do
  let kind ← TypeKind.fromArrowType field.dataType
  match state.columnTypes.lookup field.name with
  | some existing => do
      let widened ← unifyTypes existing kind policy
      return { state with columnTypes := state.columnTypes.insert field.name widened }
  | none =>
    return ⟨state.columnTypes.insert field.name kind, state.columnOrder ++ [field.name]⟩

def UnifyState.fields (state : UnifyState) : Schema :=
  state.columnOrder.filterMap fun name =>
    (state.columnTypes.lookup name).map fun kind => ⟨name, kind.toArrowType, true⟩

def fromSchemas (schemas : List Schema) (policy : SchemaConflictPolicy) :
    Except ColumnarError UnifiedSchema := do
  let state ← schemas.foldlM (fun state schema => schema.foldlM (addField policy) state) .start
  return ⟨state.fields, state.columnTypes⟩

/-! ## Column by column -/

/-- Kinds of a column, in the order in which its fields are met. -/
def columnKinds (name : String) (fields : List Field) : List TypeKind :=
  fields.filterMap fun field =>
    if field.name = name then (TypeKind.fromArrowType field.dataType).toOption else none

/-- One more kind of a column. The outer `none` is a conflict. -/
def meetKind (policy : SchemaConflictPolicy) : Option TypeKind → TypeKind → Option (Option TypeKind)
  | none, kind => some (some kind)
  | some existing, kind => (unifyTypes existing kind policy).toOption.map some

/-- Kinds of a column, one after the other. -/
def meetKinds (policy : SchemaConflictPolicy) (start : Option TypeKind) (kinds : List TypeKind) :
    Option (Option TypeKind) :=
  kinds.foldlM (meetKind policy) start

def Supported (dataType : DataType) : Prop := ∃ kind, TypeKind.fromArrowType dataType = .ok kind

/-- Fields that can be unified, and the kinds that come out. -/
def Unifies (policy : SchemaConflictPolicy) (fields : List Field) (before : UnifyState)
    (after : String → Option TypeKind) : Prop :=
  (∀ field ∈ fields, Supported field.dataType) ∧
    ∀ name, meetKinds policy (before.columnTypes.lookup name) (columnKinds name fields) =
      some (after name)

section

variable {policy : SchemaConflictPolicy} {field : Field} {fields : List Field}
  {before after : UnifyState}

lemma columnKinds_cons_same {kind : TypeKind}
    (supported : TypeKind.fromArrowType field.dataType = .ok kind) :
    columnKinds field.name (field :: fields) = kind :: columnKinds field.name fields := by
  simp [columnKinds, supported, Except.toOption]

lemma columnKinds_cons_other {name : String} (other : field.name ≠ name) :
    columnKinds name (field :: fields) = columnKinds name fields := by
  simp [columnKinds, other]

lemma columnKinds_append (name : String) (left right : List Field) :
    columnKinds name (left ++ right) = columnKinds name left ++ columnKinds name right :=
  filterMap_append

/-- What a field does to the table of columns. -/
lemma addField_eq_ok : addField policy before field = .ok after ↔
    ∃ kind met, TypeKind.fromArrowType field.dataType = .ok kind ∧
      meetKind policy (before.columnTypes.lookup field.name) kind = some (some met) ∧
      after.columnTypes = before.columnTypes.insert field.name met ∧
      after.columnOrder = (match before.columnTypes.lookup field.name with
        | some _ => before.columnOrder
        | none => before.columnOrder ++ [field.name]) := by
  obtain ⟨_, _⟩ := after
  rw [addField]
  cases TypeKind.fromArrowType field.dataType with
  | error => simp [bind, Except.bind]
  | ok kind =>
    cases found : before.columnTypes.lookup field.name with
    | none => simp [bind, Except.bind, pure, Except.pure, meetKind, eq_comm]
    | some existing =>
      cases unified : unifyTypes existing kind policy with
      | error => simp [bind, Except.bind, meetKind, unified, Except.toOption]
      | ok =>
        simp [bind, Except.bind, pure, Except.pure, meetKind, unified, Except.toOption, eq_comm]

/-- Every column is folded on its own. -/
lemma unifies_of_addFields (added : fields.foldlM (addField policy) before = .ok after) :
    Unifies policy fields before after.columnTypes.lookup := by
  induction fields generalizing before with
  | nil =>
    cases added
    exact ⟨by simp, fun name => rfl⟩
  | cons field _ ih =>
    rw [foldlM_cons] at added
    cases first : addField policy before field with
    | error => rw [first] at added; cases added
    | ok =>
      rw [first] at added
      obtain ⟨supported, columns⟩ := ih added
      obtain ⟨kind, _, isKind, meets, inserted, -⟩ := addField_eq_ok.mp first
      refine ⟨forall_mem_cons.mpr ⟨⟨kind, isKind⟩, supported⟩, fun name => ?_⟩
      have column := columns name
      rw [inserted] at column
      by_cases same : field.name = name
      · subst same
        rw [lookup_insert] at column
        rw [columnKinds_cons_same isKind, meetKinds, foldlM_cons, meets]
        exact column
      · rw [lookup_insert_ne (Ne.symm same)] at column
        rw [columnKinds_cons_other same]
        exact column

/-- Fields whose columns fold without a conflict are unified. -/
lemma exists_addFields_of_unifies {kinds : String → Option TypeKind}
    (unifies : Unifies policy fields before kinds) :
    ∃ after, fields.foldlM (addField policy) before = .ok after := by
  induction fields generalizing before with
  | nil => exact ⟨before, rfl⟩
  | cons field rest ih =>
    obtain ⟨supported, columns⟩ := unifies
    obtain ⟨⟨kind, isKind⟩, others⟩ := forall_mem_cons.mp supported
    have column := columns field.name
    rw [columnKinds_cons_same isKind, meetKinds, foldlM_cons] at column
    obtain ⟨result, meets, folded⟩ := bind_eq_some_iff.mp column
    have exists_met : ∃ met, result = some met := by
      cases found : before.columnTypes.lookup field.name with
      | none =>
        rw [found] at meets
        exact ⟨kind, (Option.some.inj meets).symm⟩
      | some =>
        rw [found, meetKind, map_eq_some_iff] at meets
        obtain ⟨met, -, isResult⟩ := meets
        exact ⟨met, isResult.symm⟩
    obtain ⟨met, rfl⟩ := exists_met
    let middle : UnifyState := ⟨before.columnTypes.insert field.name met,
      match before.columnTypes.lookup field.name with
      | some _ => before.columnOrder
      | none => before.columnOrder ++ [field.name]⟩
    have first : addField policy before field = .ok middle :=
      addField_eq_ok.mpr ⟨kind, met, isKind, meets, rfl, rfl⟩
    rw [foldlM_cons, first]
    refine ih ⟨others, fun name => ?_⟩
    by_cases same : field.name = name
    · subst same
      rw [lookup_insert]
      exact folded
    · rw [lookup_insert_ne (Ne.symm same)]
      have rest := columns name
      rwa [columnKinds_cons_other same] at rest

/-- The order of the columns lists the columns of the table. -/
lemma mem_columnOrder_of_addFields (added : fields.foldlM (addField policy) before = .ok after)
    (known : ∀ name, name ∈ before.columnOrder ↔ (before.columnTypes.lookup name).isSome) :
    ∀ name, name ∈ after.columnOrder ↔ (after.columnTypes.lookup name).isSome := by
  induction fields generalizing before with
  | nil =>
    cases added
    exact known
  | cons field _ ih =>
    rw [foldlM_cons] at added
    cases first : addField policy before field with
    | error => rw [first] at added; cases added
    | ok =>
      rw [first] at added
      obtain ⟨_, _, -, -, inserted, ordered⟩ := addField_eq_ok.mp first
      refine ih added fun name => ?_
      rw [inserted, ordered]
      have here := known name
      by_cases same : name = field.name
      · subst same
        rw [lookup_insert]
        cases found : before.columnTypes.lookup field.name with
        | none => simp
        | some => simpa [found] using here
      · rw [lookup_insert_ne same, ← here]
        cases before.columnTypes.lookup field.name with
        | none => simp [same]
        | some => simp

end

/-! ## Unification of schemas -/

lemma foldlM_schemas (policy : SchemaConflictPolicy) (schemas : List Schema) (state : UnifyState) :
    schemas.foldlM (fun state schema => schema.foldlM (addField policy) state) state =
      schemas.flatten.foldlM (addField policy) state := by
  induction schemas generalizing state with
  | nil => rfl
  | cons _ _ ih =>
    rw [foldlM_cons, flatten_cons, foldlM_append]
    exact congrArg _ (funext ih)

variable {schemas : List Schema} {policy : SchemaConflictPolicy} {unified : UnifiedSchema}

lemma lookup_start (name : String) : UnifyState.start.columnTypes.lookup name = none :=
  lookup_empty name

/-- The kinds of a unified schema are the folds of the kinds of its columns. -/
lemma unifies_of_fromSchemas (succeeds : fromSchemas schemas policy = .ok unified) :
    Unifies policy schemas.flatten .start unified.typeMapping.lookup := by
  rw [fromSchemas, foldlM_schemas] at succeeds
  cases added : schemas.flatten.foldlM (addField policy) .start with
  | error => rw [added] at succeeds; cases succeeds
  | ok =>
    rw [added] at succeeds
    cases succeeds
    exact unifies_of_addFields added

/-- Unification succeeds when no column has a conflict. -/
lemma exists_fromSchemas_of_unifies {kinds : String → Option TypeKind}
    (unifies : Unifies policy schemas.flatten .start kinds) :
    ∃ unified, fromSchemas schemas policy = .ok unified := by
  obtain ⟨_, added⟩ := exists_addFields_of_unifies unifies
  rw [fromSchemas, foldlM_schemas, added]
  exact ⟨_, rfl⟩

/-- The fields of a unified schema are its columns with the unified types. -/
lemma mem_schema_of_fromSchemas (succeeds : fromSchemas schemas policy = .ok unified)
    (field : Field) : field ∈ unified.schema ↔
      ∃ kind, unified.typeMapping.lookup field.name = some kind ∧
        field = ⟨field.name, kind.toArrowType, true⟩ := by
  rw [fromSchemas, foldlM_schemas] at succeeds
  cases added : schemas.flatten.foldlM (addField policy) .start with
  | error => rw [added] at succeeds; cases succeeds
  | ok =>
    rw [added] at succeeds
    cases succeeds
    have known := mem_columnOrder_of_addFields added
      (fun name => by rw [lookup_start]; simp [UnifyState.start])
    rw [UnifyState.fields, mem_filterMap]
    constructor
    · intro ⟨name, _, isField⟩
      obtain ⟨kind, found, rfl⟩ := map_eq_some_iff.mp isField
      exact ⟨kind, found, rfl⟩
    · intro ⟨_, found, isField⟩
      refine ⟨field.name, (known field.name).mpr ?_, ?_⟩
      · rw [found]
        rfl
      · rw [found, isField]
        rfl

end Parqonaut.Columnar
