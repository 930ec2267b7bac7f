import Parqonaut.Columnar.Unify

/-!
# Aligning batches with a unified schema

`BatchAligner::align_batch_with_source` of `coercion.rs`: columns are coerced to the types of a
unified schema, and missing ones are filled with NULLs. An unwrapped downcast that fails is the
outcome `panicked`.
-/

namespace Parqonaut.Coercion

open Arrow Columnar List

/-- A column with its own type. -/
structure ArrowArray where
  dataType : DataType
  cells : List Cell

/-- Rows across columns. -/
def arrayRows (numRows : Nat) (arrays : List ArrowArray) : List Row :=
  (List.range numRows).map fun idx => arrays.map fun array => (array.cells[idx]?).join

/-- First column that does not have the type of its field. -/
def typeMismatch (schema : Schema) (arrays : List ArrowArray) : Option (Field × ArrowArray) :=
  (schema.zip arrays).find? fun entry => entry.1.dataType ≠ entry.2.dataType

/-- `RecordBatch::try_new`, for columns that have their own types. -/
def tryNewArrays (schema : Schema) (arrays : List ArrowArray) : Except String Batch :=
  if arrays.length ≠ schema.length then
    .error ("number of columns(" ++ toString arrays.length ++ ") must match number of fields(" ++
      toString schema.length ++ ") in schema")
  else
    match arrays with
    | [] => .error "must either specify a row count or at least one column"
    | first :: _ =>
      match nullViolation schema (arrayRows first.cells.length arrays) with
      | some field =>
        .error ("Column '" ++ field.name ++
          "' is declared as non-nullable but contains null values")
      | none =>
        if arrays.any fun array => array.cells.length ≠ first.cells.length then
          .error "all columns in a record batch must have the same length"
        else
          match typeMismatch schema arrays with
          | some (field, array) =>
            .error ("column types must match schema types, expected " ++
              field.dataType.debug ++ " but found " ++ array.dataType.debug)
          | none => .ok ⟨schema, arrayRows first.cells.length arrays⟩

inductive MawError where
  | arrow (message : String)
  | schema (message : String)
  | panicked

/-- Parsing and printing of numbers, as the standard library does it. -/
structure NumberFormat where
  parseI64 : String → Option Int
  parseF64 : String → Option UInt64
  displayF64 : UInt64 → String
  i64AsF64 : Int → UInt64

def parseBool (text : String) : Option Bool :=
  if text = "true" then some true else if text = "false" then some false else none

structure BatchAligner where
  unifiedSchema : UnifiedSchema
  columnMapping : List (String × String)
  includeColumns : Option (List String)
  excludeColumns : Option (List String)
  stringifyConflicts : Bool

section

variable (format : NumberFormat)

/-! ## Columns -/

/-- A value of a column as a text; a text of the wide type is taken for one of the other. -/
def arrayValueDisplay (dataType : DataType) (cell : Cell) : Except MawError String :=
  match dataType, cell with
  | .utf8, some (.utf8 text) => .ok text
  | .largeUtf8, _ => .error .panicked
  | .int64, some (.int value) | .int32, some (.int value) => .ok (toString value)
  | .float64, some (.float bits) => .ok (format.displayF64 bits)
  | .boolean, some (.boolean value) => .ok (toString value)
  | other, _ => .ok other.debug

/-- `Array::is_null`; the columns of the NULL type have no validity mask. -/
def isNullAt (dataType : DataType) (cell : Cell) : Bool :=
  dataType ≠ .null && cell.isNone

def stringifyCell (dataType : DataType) (cell : Cell) : Except MawError Cell :=
  if isNullAt dataType cell then .ok none
  else (arrayValueDisplay format dataType cell).map fun text => some (.utf8 text)

/-- Cells of a column, one after the other. -/
def stringifyCells (dataType : DataType) : List Cell → Except MawError (List Cell)
  | [] => .ok []
  | cell :: rest => do
      let first ← stringifyCell format dataType cell
      let others ← stringifyCells dataType rest
      return first :: others

def stringifyColumn (array : ArrowArray) : Except MawError ArrowArray := do
  let cells ← stringifyCells format array.dataType array.cells
  return ⟨.utf8, cells⟩

/-- A column of NULLs. Types without a builder get a column of texts. -/
def createNullColumn (dataType : DataType) (numRows : Nat) : ArrowArray :=
  match dataType with
  | .int64 | .float64 | .boolean => ⟨dataType, List.replicate numRows none⟩
  | _ => ⟨.utf8, List.replicate numRows none⟩

/-- A column of texts, read as values of another type; what cannot be read is NULL. -/
def parseColumn (target : DataType) (parse : String → Option Scalar) (array : ArrowArray) :
    ArrowArray :=
  ⟨target, array.cells.map fun cell =>
    match cell with
    | some (.utf8 text) => parse text
    | _ => none⟩

/-- A column that has the type already. Types without a case are replaced by NULLs. -/
def keepColumn (array : ArrowArray) (numRows : Nat) : Except MawError ArrowArray :=
  match array.dataType with
  | .int32 | .int64 | .float64 | .utf8 | .boolean => .ok array
  | .largeUtf8 => .error .panicked
  | other => .ok (createNullColumn other numRows)

def convertColumn (array : ArrowArray) (target : DataType) : Except MawError ArrowArray :=
  match array.dataType, target with
  | .utf8, .int64 => .ok (parseColumn .int64 (fun text => (format.parseI64 text).map .int) array)
  | .utf8, .float64 =>
    .ok (parseColumn .float64 (fun text => (format.parseF64 text).map .float) array)
  | .utf8, .boolean =>
    .ok (parseColumn .boolean (fun text => (parseBool text).map .boolean) array)
  | .largeUtf8, .int64 | .largeUtf8, .float64 | .largeUtf8, .boolean => .error .panicked
  | .int64, .float64 =>
    .ok ⟨.float64, array.cells.map fun cell =>
      match cell with
      | some (.int value) => some (.float (format.i64AsF64 value))
      | _ => none⟩
  | _, .utf8 => stringifyColumn format array
  | source, _ => .error (.schema ("Cannot coerce " ++ source.debug ++ " to " ++ target.debug))

def coerceColumn (array : ArrowArray) (target : DataType) (numRows : Nat) :
    Except MawError ArrowArray :=
  if array.dataType = target then keepColumn array numRows
  else convertColumn format array target

/-! ## Batches -/

def BatchAligner.selects (aligner : BatchAligner) (name : String) : Bool :=
  aligner.includeColumns.all (·.contains name) && !aligner.excludeColumns.any (·.contains name)

def sourceArray (batch : Batch) (idx : Nat) : Option ArrowArray :=
  (batch.schema[idx]?).map fun field => ⟨field.dataType, column batch idx⟩

/-- Column of the batch that a unified column is taken from. -/
def BatchAligner.sourceOf (aligner : BatchAligner) (batch : Batch) (sourceFields : List String)
    (name : String) : Option ArrowArray := do
  let mapped := ((aligner.columnMapping.find? fun entry => entry.1 = name).map (·.2)).getD name
  let idx ← sourceFields.findIdx? fun source => source = mapped
  sourceArray batch idx

def BatchAligner.alignColumn (aligner : BatchAligner) (batch : Batch) (sourceFields : List String)
    (field : Field) : Except MawError ArrowArray :=
  match aligner.sourceOf batch sourceFields field.name with
  | some array => coerceColumn format array field.dataType batch.numRows
  | none => .ok (createNullColumn field.dataType batch.numRows)

def BatchAligner.alignColumns (aligner : BatchAligner) (batch : Batch)
    (sourceFields : List String) : List Field → Except MawError (List ArrowArray)
  | [] => .ok []
  | field :: rest => do
      let first ← aligner.alignColumn format batch sourceFields field
      let others ← aligner.alignColumns batch sourceFields rest
      return first :: others

/-- Selected columns of the unified schema. -/
def BatchAligner.selected (aligner : BatchAligner) : Schema :=
  aligner.unifiedSchema.schema.filter fun field => aligner.selects field.name

/-- The batch is built with the whole unified schema, whatever was selected. -/
def BatchAligner.alignBatchWithSource (aligner : BatchAligner) (batch : Batch)
    (sourceFields : List String) : Except MawError Batch := do
  let aligned ← aligner.alignColumns format batch sourceFields aligner.selected
  (tryNewArrays aligner.unifiedSchema.schema aligned).mapError .arrow

end

/-! ## Columns that can be aligned -/

/-- Types for which there is a column of NULLs. -/
def hasNullColumn : DataType → Bool
  | .int64 | .float64 | .boolean | .utf8 => true
  | _ => false

/-- The columns that can be coerced to a type. -/
def Coercible (array : ArrowArray) (target : DataType) : Prop :=
  array.dataType = target ∧ (hasNullColumn target = true ∨ target = .int32) ∨
    array.dataType = .utf8 ∧ hasNullColumn target = true ∨
    array.dataType = .int64 ∧ target = .float64 ∨
    target = .utf8 ∧ (array.dataType = .largeUtf8 → ∀ cell ∈ array.cells, cell = none)

/-- A column of the unified schema can be taken from the batch, or filled with NULLs. -/
def Fits (source : Option ArrowArray) (target : DataType) : Prop :=
  match source with
  | some array => Coercible array target
  | none => hasNullColumn target = true

/-- All unified columns are selected, there is one, and each can be built from the batch. -/
structure Alignable (aligner : BatchAligner) (batch : Batch) (sourceFields : List String) :
    Prop where
  nonempty : aligner.unifiedSchema.schema ≠ []
  selected : ∀ field ∈ aligner.unifiedSchema.schema, aligner.selects field.name = true
  fits : ∀ field ∈ aligner.unifiedSchema.schema,
    Fits (aligner.sourceOf batch sourceFields field.name) field.dataType

section

variable {format : NumberFormat} {array : ArrowArray} {target : DataType} {numRows : Nat}

lemma createNullColumn_type :
    (createNullColumn target numRows).dataType = target ↔ hasNullColumn target = true := by
  cases target <;> simp [createNullColumn, hasNullColumn]

lemma createNullColumn_length : (createNullColumn target numRows).cells.length = numRows := by
  cases target <;> simp [createNullColumn]

variable {dataType : DataType}

lemma stringifyCell_eq_error {cell : Cell} :
    (∃ result, stringifyCell format dataType cell = .ok result) ↔
      (dataType = .largeUtf8 → cell = none) := by
  by_cases large : dataType = .largeUtf8
  · subst large
    cases cell <;> simp [stringifyCell, isNullAt, arrayValueDisplay, Except.map]
  · have displays : ∃ text, arrayValueDisplay format dataType cell = .ok text := by
      unfold arrayValueDisplay
      split
      · exact ⟨_, rfl⟩
      · exact absurd rfl large
      all_goals exact ⟨_, rfl⟩
    obtain ⟨_, displays⟩ := displays
    simp only [large, false_implies, iff_true, stringifyCell, displays]
    split <;> exact ⟨_, rfl⟩

variable {cells : List Cell}

lemma stringifyCells_ok : (∃ result, stringifyCells format dataType cells = .ok result) ↔
      (dataType = .largeUtf8 → ∀ cell ∈ cells, cell = none) := by
  induction cells with
  | nil => simp [stringifyCells]
  | cons cell rest ih =>
    have both : (dataType = .largeUtf8 → ∀ other ∈ cell :: rest, other = none) ↔
        (dataType = .largeUtf8 → cell = none) ∧
          (dataType = .largeUtf8 → ∀ other ∈ rest, other = none) := by
      rw [← imp_and]
      simp
    rw [both, ← ih, ← @stringifyCell_eq_error format, stringifyCells]
    cases stringifyCell format dataType cell with
    | error => simp [bind, Except.bind]
    | ok =>
      cases stringifyCells format dataType rest with
      | error => simp [bind, Except.bind]
      | ok => simp [bind, Except.bind, pure, Except.pure]

lemma stringifyCells_length {result : List Cell}
    (succeeds : stringifyCells format dataType cells = .ok result) :
    result.length = cells.length := by
  induction cells generalizing result with
  | nil =>
    cases succeeds
    rfl
  | cons cell rest ih =>
    rw [stringifyCells] at succeeds
    cases first : stringifyCell format dataType cell with
    | error => rw [first] at succeeds; cases succeeds
    | ok =>
      cases others : stringifyCells format dataType rest with
      | error => rw [first, others] at succeeds; cases succeeds
      | ok =>
        rw [first, others] at succeeds
        cases succeeds
        rw [length_cons, length_cons, ih others]

lemma stringifyColumn_ok :
    (∃ result, stringifyColumn format array = .ok result ∧ result.dataType = .utf8) ↔
      (array.dataType = .largeUtf8 → ∀ cell ∈ array.cells, cell = none) := by
  rw [← @stringifyCells_ok format, stringifyColumn]
  cases stringifyCells format array.dataType array.cells with
  | error => simp [bind, Except.bind]
  | ok => simp [bind, Except.bind, pure, Except.pure]

lemma keepColumn_type :
    (∃ result, keepColumn array numRows = .ok result ∧ result.dataType = array.dataType) ↔
      hasNullColumn array.dataType = true ∨ array.dataType = .int32 := by
  unfold keepColumn
  obtain ⟨dataType, _⟩ := array
  cases dataType <;> simp [createNullColumn, hasNullColumn]

lemma convertColumn_type (differ : array.dataType ≠ target) :
    (∃ result, convertColumn format array target = .ok result ∧ result.dataType = target) ↔
      Coercible array target := by
  unfold convertColumn
  split
  all_goals simp_all [Coercible, hasNullColumn, parseColumn, stringifyColumn_ok]

/-- The columns that are coerced to the type that was asked for. -/
lemma coerceColumn_type : (∃ result, coerceColumn format array target numRows = .ok result ∧
      result.dataType = target) ↔ Coercible array target := by
  by_cases same : array.dataType = target
  · subst same
    rw [coerceColumn, if_pos rfl, keepColumn_type]
    constructor
    · exact fun kept => .inl ⟨rfl, kept⟩
    · intro coercible
      rcases coercible with ⟨-, kept⟩ | ⟨-, hasNull⟩ | ⟨isInt, isFloat⟩ | ⟨isText, -⟩
      · exact kept
      · exact .inl hasNull
      · rw [isInt] at isFloat
        cases isFloat
      · exact .inl (by rw [isText]; rfl)
  · rw [coerceColumn, if_neg same, convertColumn_type same]

lemma coerceColumn_length {result : ArrowArray}
    (succeeds : coerceColumn format array target numRows = .ok result)
    (full : array.cells.length = numRows) : result.cells.length = numRows := by
  rw [coerceColumn] at succeeds
  split at succeeds
  · unfold keepColumn at succeeds
    split at succeeds
    all_goals cases succeeds
    all_goals first | exact full | exact createNullColumn_length
  · unfold convertColumn at succeeds
    split at succeeds
    case h_8 =>
      rw [stringifyColumn] at succeeds
      cases cells : stringifyCells format array.dataType array.cells with
      | error => rw [cells] at succeeds; cases succeeds
      | ok =>
        rw [cells] at succeeds
        cases succeeds
        exact (stringifyCells_length cells).trans full
    all_goals cases succeeds
    all_goals simpa [parseColumn] using full

end

/-! ## Batches that can be aligned -/

section

variable {format : NumberFormat} {aligner : BatchAligner} {batch : Batch}
  {sourceFields : List String} {array : ArrowArray}

lemma sourceOf_length {name : String}
    (found : aligner.sourceOf batch sourceFields name = some array) :
    array.cells.length = batch.numRows := by
  obtain ⟨_, -, isSource⟩ := Option.bind_eq_some_iff.mp found
  obtain ⟨_, -, rfl⟩ := Option.map_eq_some_iff.mp isSource
  exact length_map _

variable {field : Field}

lemma alignColumn_type : (∃ array, aligner.alignColumn format batch sourceFields field = .ok array ∧
      array.dataType = field.dataType) ↔
      Fits (aligner.sourceOf batch sourceFields field.name) field.dataType := by
  rw [BatchAligner.alignColumn]
  cases aligner.sourceOf batch sourceFields field.name with
  | some => exact coerceColumn_type
  | none => simpa [Fits] using createNullColumn_type

lemma alignColumn_length
    (aligned : aligner.alignColumn format batch sourceFields field = .ok array) :
    array.cells.length = batch.numRows := by
  rw [BatchAligner.alignColumn] at aligned
  cases found : aligner.sourceOf batch sourceFields field.name with
  | some =>
    rw [found] at aligned
    exact coerceColumn_length aligned (sourceOf_length found)
  | none =>
    rw [found] at aligned
    cases aligned
    exact createNullColumn_length

variable {fields : List Field} {arrays : List ArrowArray}

lemma alignColumns_eq_ok : aligner.alignColumns format batch sourceFields fields = .ok arrays ↔
      List.Forall₂ (fun field array =>
        aligner.alignColumn format batch sourceFields field = .ok array) fields arrays := by
  induction fields generalizing arrays with
  | nil => simp [BatchAligner.alignColumns, eq_comm]
  | cons field rest ih =>
    rw [BatchAligner.alignColumns]
    cases first : aligner.alignColumn format batch sourceFields field with
    | error => cases arrays <;> simp [bind, Except.bind, first]
    | ok =>
      cases arrays with
      | nil =>
        cases aligner.alignColumns format batch sourceFields rest <;>
          simp [bind, Except.bind, pure, Except.pure]
      | cons =>
        rw [forall₂_cons, first, ← ih]
        cases aligner.alignColumns format batch sourceFields rest <;>
          simp [bind, Except.bind, pure, Except.pure]

/-- Columns of the types of a schema of nullable fields make a batch. -/
lemma tryNewArrays_eq_ok {schema : Schema} {result : Batch}
    {numRows : Nat} (nullable : ∀ field ∈ schema, field.nullable = true)
    (full : ∀ array ∈ arrays, array.cells.length = numRows) :
    tryNewArrays schema arrays = .ok result ↔ arrays ≠ [] ∧
      List.Forall₂ (fun field array => field.dataType = array.dataType) schema arrays ∧
      result = ⟨schema, arrayRows numRows arrays⟩ := by
  rw [forall₂_iff_zip]
  by_cases counts : arrays.length = schema.length
  · cases arrays with
    | nil => simp [tryNewArrays, counts]
    | cons first rest =>
      have noNulls (rows : List Row) : nullViolation schema rows = none := by
        rw [nullViolation, Option.map_eq_none_iff, List.find?_eq_none]
        intro entry mem
        rw [nullable entry.1 (fst_mem_of_mem_zipIdx mem)]
        simp
      have sameLength : ((first :: rest).any fun array =>
          decide (array.cells.length ≠ numRows)) = false := by
        rw [any_eq_false]
        intro array mem
        simp [full array mem]
      rw [tryNewArrays, if_neg (not_not.mpr counts)]
      simp only [noNulls, full first mem_cons_self]
      rw [if_neg (by rw [sameLength]; exact Bool.false_ne_true)]
      cases mismatch : typeMismatch schema (first :: rest) with
      | some =>
        have differs := List.find?_some mismatch
        have mem := List.mem_of_find?_eq_some mismatch
        simp only [reduceCtorEq, false_iff]
        intro ⟨_, ⟨_, agree⟩, _⟩
        exact of_decide_eq_true differs (agree mem)
      | none =>
        rw [typeMismatch, List.find?_eq_none] at mismatch
        simp only [Except.ok.injEq, ne_eq, reduceCtorEq, not_false_eq_true, true_and]
        constructor
        · intro isResult
          refine ⟨⟨counts.symm, fun {field array} mem => ?_⟩, isResult.symm⟩
          by_contra differ
          exact mismatch (field, array) mem (decide_eq_true differ)
        · exact fun agree => agree.2.symm
  · unfold tryNewArrays
    rw [if_pos counts]
    simp only [reduceCtorEq, false_iff]
    exact fun made => counts made.2.1.1.symm

lemma exists_alignColumns
    (fits : ∀ field ∈ fields, Fits (aligner.sourceOf batch sourceFields field.name)
      field.dataType) :
    ∃ arrays, aligner.alignColumns format batch sourceFields fields = .ok arrays ∧
      List.Forall₂ (fun field array => field.dataType = array.dataType) fields arrays := by
  induction fields with
  | nil => exact ⟨[], rfl, .nil⟩
  | cons _ _ ih =>
    obtain ⟨here, later⟩ := forall_mem_cons.mp fits
    obtain ⟨array, aligned, isType⟩ := (@alignColumn_type format _ _ _ _).mpr here
    obtain ⟨arrays, others, types⟩ := ih later
    refine ⟨array :: arrays, ?_, .cons isType.symm types⟩
    rw [BatchAligner.alignColumns, aligned, others]
    rfl

lemma full_of_alignColumns
    (aligned : aligner.alignColumns format batch sourceFields fields = .ok arrays) :
    ∀ array ∈ arrays, array.cells.length = batch.numRows := by
  have each := alignColumns_eq_ok.mp aligned
  clear aligned
  induction each with
  | nil => simp
  | cons first _ ih => exact forall_mem_cons.mpr ⟨alignColumn_length first, ih⟩

/-- The batch is aligned: it keeps its number of rows and gets the selected columns, with their
unified types. -/
def Realized (format : NumberFormat) (aligner : BatchAligner) (batch : Batch)
    (sourceFields : List String) : Prop :=
  ∃ aligned, aligner.alignBatchWithSource format batch sourceFields = .ok aligned ∧
    aligned.numRows = batch.numRows ∧ aligned.schema = aligner.selected

lemma realized_iff (nullable : ∀ field ∈ aligner.unifiedSchema.schema, field.nullable = true) :
    Realized format aligner batch sourceFields ↔ Alignable aligner batch sourceFields := by
  constructor
  · intro ⟨aligned, succeeds, _⟩
    rw [BatchAligner.alignBatchWithSource] at succeeds
    cases columns : aligner.alignColumns format batch sourceFields aligner.selected with
    | error => rw [columns] at succeeds; cases succeeds
    | ok arrays =>
      rw [columns] at succeeds
      have made : tryNewArrays aligner.unifiedSchema.schema arrays = .ok aligned := by
        cases made : tryNewArrays aligner.unifiedSchema.schema arrays with
        | error => simp [bind, Except.bind, made, Except.mapError] at succeeds
        | ok => simpa [bind, Except.bind, made, Except.mapError] using succeeds
      obtain ⟨nonempty, types, -⟩ :=
        (tryNewArrays_eq_ok nullable (full_of_alignColumns columns)).mp made
      have each := alignColumns_eq_ok.mp columns
      -- a dropped column would leave fewer columns than the schema has fields
      have all : aligner.selected = aligner.unifiedSchema.schema :=
        filter_sublist.eq_of_length (each.length_eq.trans types.length_eq.symm)
      refine ⟨?_, ?_, ?_⟩
      · intro empty
        rw [empty] at types
        cases types
        exact nonempty rfl
      · exact filter_eq_self.mp all
      · rw [all] at each
        intro _ mem
        obtain ⟨_, bound, rfl⟩ := mem_iff_getElem.mp mem
        apply (@alignColumn_type format _ _ _ _).mp
        exact ⟨_, each.get bound (each.length_eq ▸ bound),
          (types.get bound (types.length_eq ▸ bound)).symm⟩
  · intro ⟨nonempty, selected, fits⟩
    have all : aligner.selected = aligner.unifiedSchema.schema := filter_eq_self.mpr selected
    obtain ⟨arrays, columns, types⟩ := @exists_alignColumns format _ _ _ _ fits
    have some_ : arrays ≠ [] := by
      intro empty
      rw [empty, forall₂_nil_right_iff] at types
      exact nonempty types
    have made := (tryNewArrays_eq_ok nullable (full_of_alignColumns columns)).mpr
      ⟨some_, types, rfl⟩
    refine ⟨⟨aligner.unifiedSchema.schema, arrayRows batch.numRows arrays⟩, ?_, ?_, all.symm⟩
    · rw [BatchAligner.alignBatchWithSource, all, columns]
      simp only [bind, Except.bind, made]
      rfl
    · simp [RecordBatch.numRows, arrayRows]

end

/-- An aligner for a unified schema, as the conversions build it. -/
def aligner (unified : UnifiedSchema) (policy : SchemaConflictPolicy)
    (includeColumns excludeColumns : Option (List String)) : BatchAligner :=
  ⟨unified, [], includeColumns, excludeColumns, policy = .stringify⟩

/-- A batch, of one of the unified schemas or any other, is aligned exactly when every unified
column is selected and can be built from it. -/
theorem unified_realizable_iff (format : NumberFormat) {schemas : List Schema}
    {policy : SchemaConflictPolicy} {unified : UnifiedSchema}
    (accepted : fromSchemas schemas policy = .ok unified) (batch : Batch)
    (includeColumns excludeColumns : Option (List String)) :
    Realized format (aligner unified policy includeColumns excludeColumns) batch
        (batch.schema.map (·.name)) ↔
      Alignable (aligner unified policy includeColumns excludeColumns) batch
        (batch.schema.map (·.name)) := by
  apply realized_iff
  intro field mem
  obtain ⟨_, -, isField⟩ := (mem_schema_of_fromSchemas accepted field).mp mem
  rw [isField]

namespace Reference

def format : NumberFormat := ⟨fun _ => none, fun _ => none, fun _ => "", fun _ => 0⟩

def narrow : Batch := ⟨[⟨"a", .int32, true⟩], [[some (.int 1)]]⟩

def wide : Batch := ⟨[⟨"a", .int64, true⟩], [[some (.int 1)]]⟩

def wideSchema : UnifiedSchema := ⟨[⟨"a", .int64, true⟩], AList.singleton "a" .i64⟩

/-- A narrow and a wide integer column are unified to the wide type, but a batch with the narrow
column cannot be aligned. -/
theorem narrow_not_widened : fromSchemas [narrow.schema, wide.schema] .widen = .ok wideSchema ∧
      (aligner wideSchema .widen none none).alignBatchWithSource format narrow ["a"] =
        .error (.schema "Cannot coerce Int32 to Int64") ∧
      ¬ Realized format (aligner wideSchema .widen none none) narrow ["a"] := by
  have fails : (aligner wideSchema .widen none none).alignBatchWithSource format narrow ["a"] =
      .error (.schema "Cannot coerce Int32 to Int64") := rfl
  refine ⟨rfl, fails, ?_⟩
  intro ⟨_, succeeds, _⟩
  rw [fails] at succeeds
  cases succeeds

/-- The batch with the wide column is aligned. -/
theorem wide_aligned : fromSchemas [narrow.schema, wide.schema] .widen = .ok wideSchema ∧
      Realized format (aligner wideSchema .widen none none) wide ["a"] := by
  refine ⟨rfl, (unified_realizable_iff format
    (rfl : fromSchemas [narrow.schema, wide.schema] .widen = .ok wideSchema) wide none none).mpr ?_⟩
  refine ⟨by decide, by decide, ?_⟩
  intro _ mem
  cases mem_singleton.mp mem
  exact .inl ⟨rfl, .inl rfl⟩

end Reference

end Parqonaut.Coercion
