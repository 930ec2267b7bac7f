import Mathlib.Data.Fintype.Option
import Parqonaut.Columnar.Unify

/-!
# The order of unification

Under `Strict` and `Widen` the kinds that can be unified form families with least upper bounds, so
the order of the schemas does not matter.

Under `Stringify` a text absorbs every kind, but a number and a date have no common kind until a
text is met, so no two schemas may bring these together first.
-/

namespace Parqonaut.Columnar

open Arrow List TypeKind

/-! ## Conflicts that cannot be resolved -/

variable {policy : SchemaConflictPolicy}

/-- Two kinds can be met in either order. -/
lemma meetKind_swap (plain : policy ≠ .stringify) (state : Option TypeKind) (x y : TypeKind) :
    (meetKind policy state x).bind (meetKind policy · y) =
      (meetKind policy state y).bind (meetKind policy · x) := by
  cases policy with
  | stringify => exact absurd rfl plain
  | _ =>
    -- one evaluation for each kind of the first column
    revert state y
    cases x <;> decide +kernel

lemma meetKinds_perm (plain : policy ≠ .stringify)
    {left right : List TypeKind} (permuted : left.Perm right) (start : Option TypeKind) :
    meetKinds policy start left = meetKinds policy start right := by
  induction permuted generalizing start with
  | nil => rfl
  | cons _ _ ih =>
    rw [meetKinds, meetKinds, foldlM_cons, foldlM_cons]
    exact congrArg _ (funext ih)
  | swap x y rest =>
    have swapped := meetKind_swap plain start y x
    simp only [meetKinds, foldlM_cons]
    rw [← bind_assoc, ← bind_assoc]
    exact congrArg (· >>= fun state => rest.foldlM (meetKind policy) state) swapped
  | trans _ _ first second => exact (first start).trans (second start)

variable {left right : List Schema}

lemma columnKinds_perm (permuted : left.Perm right) (name : String) :
    (columnKinds name left.flatten).Perm (columnKinds name right.flatten) := by
  have flattened := permuted.flatMap_right id
  rw [flatMap_id, flatMap_id] at flattened
  exact flattened.filterMap _

lemma mem_flatten_perm (permuted : left.Perm right) (field : Field) :
    field ∈ left.flatten ↔ field ∈ right.flatten := by
  rw [mem_flatten, mem_flatten]
  simp only [permuted.mem_iff]

lemma Unifies.perm (plain : policy ≠ .stringify)
    (permuted : left.Perm right) {kinds : String → Option TypeKind}
    (unifies : Unifies policy left.flatten .start kinds) :
    Unifies policy right.flatten .start kinds := by
  obtain ⟨supported, columns⟩ := unifies
  refine ⟨fun field mem => supported field ((mem_flatten_perm permuted field).mpr mem), ?_⟩
  intro name
  rw [← meetKinds_perm plain (columnKinds_perm permuted name)]
  exact columns name

/-- Under `Strict` and `Widen` the order of the schemas matters neither for success nor for the
columns and their types. -/
theorem fromSchemas_order_independent {policy : SchemaConflictPolicy} (plain : policy ≠ .stringify)
    {schemas other : List Schema} (permuted : schemas.Perm other) :
    ((∃ unified, fromSchemas schemas policy = .ok unified) ↔
      ∃ unified, fromSchemas other policy = .ok unified) ∧
    ∀ unified again, fromSchemas schemas policy = .ok unified →
      fromSchemas other policy = .ok again →
      (∀ field, field ∈ unified.schema ↔ field ∈ again.schema) ∧
        ∀ name, unified.typeMapping.lookup name = again.typeMapping.lookup name := by
  constructor
  · constructor
    · intro ⟨unified, succeeds⟩
      exact exists_fromSchemas_of_unifies ((unifies_of_fromSchemas succeeds).perm plain permuted)
    · intro ⟨unified, succeeds⟩
      exact exists_fromSchemas_of_unifies
        ((unifies_of_fromSchemas succeeds).perm plain permuted.symm)
  · intro unified again first second
    have types : ∀ name, unified.typeMapping.lookup name = again.typeMapping.lookup name := by
      intro name
      have here := ((unifies_of_fromSchemas first).perm plain permuted).2 name
      have there := (unifies_of_fromSchemas second).2 name
      exact Option.some.inj (here.symm.trans there)
    refine ⟨fun field => ?_, types⟩
    rw [mem_schema_of_fromSchemas first, mem_schema_of_fromSchemas second, types]

namespace Reference

def intColumn : Schema := [⟨"a", .int32, true⟩]

def floatColumn : Schema := [⟨"a", .float32, true⟩]

/-- An integer and a float column in both orders. -/
theorem int_float_order : ((∃ unified, fromSchemas [intColumn, floatColumn] .widen = .ok unified) ↔
      ∃ unified, fromSchemas [floatColumn, intColumn] .widen = .ok unified) ∧
    ∀ unified again, fromSchemas [intColumn, floatColumn] .widen = .ok unified →
      fromSchemas [floatColumn, intColumn] .widen = .ok again →
      (∀ field, field ∈ unified.schema ↔ field ∈ again.schema) ∧
        ∀ name, unified.typeMapping.lookup name = again.typeMapping.lookup name :=
  fromSchemas_order_independent (by decide) (List.Perm.swap _ _ _)

end Reference

/-! ## Stringified conflicts -/

def TypeKind.isNumeric : TypeKind → Bool
  | .bool | .i8 | .i16 | .i32 | .i64 | .f32 | .f64 => true
  | .null | .utf8 | .date | .datetime | .binary => false

def TypeKind.isDate : TypeKind → Bool
  | .date | .datetime => true
  | _ => false

/-- Kinds that only a text brings together. -/
def TypeKind.opposes (left right : TypeKind) : Bool :=
  left.isNumeric && right.isDate || left.isDate && right.isNumeric

/-- Common kind of two kinds when every conflict is resolved by a text. -/
def textSup (left right : TypeKind) : TypeKind :=
  ((unifyTypes left right .stringify).toOption).getD .utf8

def addSup : Option TypeKind → TypeKind → Option TypeKind
  | none, kind => some kind
  | some existing, kind => some (textSup existing kind)

lemma meetKind_stringify (existing kind : TypeKind) : meetKind .stringify (some existing) kind =
      if existing.opposes kind then none else some (some (textSup existing kind)) := by
  revert existing kind
  decide +kernel

lemma addSup_swap (state : Option TypeKind) (x y : TypeKind) :
    addSup (addSup state x) y = addSup (addSup state y) x := by
  revert state y
  cases x <;> decide +kernel

variable {start : Option TypeKind} {kinds : List TypeKind}

/-- A column that folds without a conflict folds to the common kind. -/
lemma eq_foldl_of_meetKinds {result : Option TypeKind}
    (meets : meetKinds .stringify start kinds = some result) :
    result = kinds.foldl addSup start := by
  induction kinds generalizing start with
  | nil => exact (Option.some.inj meets).symm
  | cons _ _ ih =>
    rw [meetKinds, foldlM_cons] at meets
    obtain ⟨_, first, folded⟩ := Option.bind_eq_some_iff.mp meets
    rw [foldl_cons, ih folded]
    cases start with
    | none =>
      cases Option.some.inj first
      rfl
    | some =>
      rw [meetKind_stringify, Option.ite_none_left_eq_some] at first
      cases Option.some.inj first.2
      rfl

/-- A column of one family, apart from columns of NULLs. -/
def Only (family : TypeKind → Bool) (kinds : List TypeKind) : Prop :=
  (∀ kind ∈ kinds, kind = .null ∨ family kind = true) ∧ ∃ kind ∈ kinds, family kind = true

/-- The families that can oppose each other. -/
def IsFamily (family : TypeKind → Bool) : Prop :=
  family = isNumeric ∨ family = isDate

/-- Nothing but NULLs was met so far. -/
def Blank : Option TypeKind → Bool
  | none => true
  | some kind => kind = .null

def InFamily (family : TypeKind → Bool) : Option TypeKind → Bool
  | none => false
  | some kind => family kind

variable {family : TypeKind → Bool}

lemma addSup_inFamily (isFamily : IsFamily family) (state : Option TypeKind) (kind : TypeKind) :
    InFamily family (addSup state kind) =
        (InFamily family state && (kind = .null || family kind) || Blank state && family kind) ∧
      Blank (addSup state kind) = (Blank state && kind = .null) := by
  rcases isFamily with rfl | rfl <;>
  · revert state kind
    decide +kernel

lemma family_ne_null (isFamily : IsFamily family) {kind : TypeKind}
    (mem : family kind = true) : kind ≠ .null := by
  rcases isFamily with rfl | rfl <;>
  · rintro rfl
    cases mem

/-- The common kind belongs to a family when all kinds do. -/
lemma foldl_inFamily (isFamily : IsFamily family) :
    InFamily family (kinds.foldl addSup start) = true ↔
      (InFamily family start = true ∧ ∀ kind ∈ kinds, kind = .null ∨ family kind = true) ∨
        (Blank start = true ∧ Only family kinds) := by
  induction kinds generalizing start with
  | nil => simp [Only]
  | cons kind _ ih =>
    obtain ⟨inFamily, blank⟩ := addSup_inFamily isFamily start kind
    rw [foldl_cons, ih, inFamily, blank]
    simp only [Only, mem_cons, forall_eq_or_imp, exists_eq_or_imp, Bool.and_eq_true,
      Bool.or_eq_true, decide_eq_true_eq]
    by_cases null : kind = .null
    · have outside : family kind = false := by
        rw [← Bool.not_eq_true]
        exact fun mem => family_ne_null isFamily mem null
      simp [null, null ▸ outside]
    · simp only [null, false_or, and_false, false_and, or_false]
      constructor
      · intro ⟨early, others⟩
        rcases early with ⟨started, mem⟩ | ⟨blankStart, mem⟩
        · exact .inl ⟨started, mem, others⟩
        · exact .inr ⟨blankStart, ⟨mem, others⟩, .inl mem⟩
      · intro later
        rcases later with ⟨started, mem, others⟩ | ⟨blankStart, ⟨mem, others⟩, -⟩
        · exact ⟨.inl ⟨started, mem⟩, others⟩
        · exact ⟨.inr ⟨blankStart, mem⟩, others⟩

/-- A number and a date meet in `second`, with no text before them, when the kinds of `first` were
met before. -/
def Clashing (first second : List TypeKind) : Prop :=
  ∃ before kind rest, second = before ++ kind :: rest ∧
    (Only isNumeric (first ++ before) ∧ kind.isDate = true ∨
      Only isDate (first ++ before) ∧ kind.isNumeric = true)

/-- No schema alone and no two schemas together bring a number and a date of one column together
before a text. -/
def Unopposed (schemas : List Schema) : Prop :=
  ∀ name, (∀ schema ∈ schemas, ¬ Clashing [] (columnKinds name schema)) ∧
    schemas.Pairwise fun s t => ¬ Clashing (columnKinds name s) (columnKinds name t) ∧
      ¬ Clashing (columnKinds name t) (columnKinds name s)

lemma Unopposed.perm {schemas other : List Schema} (unopposed : Unopposed schemas)
    (permuted : other.Perm schemas) : Unopposed other := by
  intro name
  obtain ⟨alone, paired⟩ := unopposed name
  refine ⟨fun schema mem => alone schema (permuted.mem_iff.mp mem), ?_⟩
  exact (permuted.pairwise_iff fun {s t} clash => ⟨clash.2, clash.1⟩).mpr paired

section

variable {kinds first second : List TypeKind}

/-- A fold fails at the first kind that the common kind of the ones before it opposes. -/
lemma meetKinds_eq_none : meetKinds .stringify start kinds = none ↔ ∃ before kind rest existing,
      kinds = before ++ kind :: rest ∧
      meetKinds .stringify start before = some (some existing) ∧
      existing.opposes kind = true := by
  induction kinds generalizing start with
  | nil => simp [meetKinds]
  | cons kind rest ih =>
    rw [meetKinds, foldlM_cons]
    constructor
    · intro failed
      cases met : meetKind .stringify start kind with
      | none =>
        cases start with
        | none => cases met
        | some existing =>
          rw [meetKind_stringify, ite_eq_left_iff] at met
          refine ⟨[], kind, rest, existing, rfl, rfl, ?_⟩
          by_contra differ
          cases met differ
      | some =>
        rw [met] at failed
        obtain ⟨before, other, after, existing, rfl, meets, opposed⟩ := ih.mp failed
        refine ⟨kind :: before, other, after, existing, rfl, ?_, opposed⟩
        rw [meetKinds, foldlM_cons, met]
        exact meets
    · rintro ⟨before, other, after, existing, split, meets, opposed⟩
      cases before with
      | nil =>
        cases split
        cases Option.some.inj meets
        rw [meetKind_stringify, if_pos opposed]
        rfl
      | cons _ before =>
        cases split
        rw [meetKinds, foldlM_cons] at meets
        obtain ⟨_, met, folded⟩ := Option.bind_eq_some_iff.mp meets
        rw [met]
        exact ih.mpr ⟨before, other, after, existing, rfl, folded, opposed⟩

variable {existing : TypeKind}

lemma only_of_meetKinds (isFamily : IsFamily family)
    (meets : meetKinds .stringify none kinds = some (some existing))
    (mem : family existing = true) : Only family kinds := by
  have common : InFamily family (kinds.foldl addSup none) = true := by
    rw [← eq_foldl_of_meetKinds meets]
    exact mem
  rcases (foldl_inFamily isFamily).mp common with ⟨never, -⟩ | ⟨-, only⟩
  · cases never
  · exact only

lemma not_opposes_of_family (isFamily : IsFamily family)
    {kind : TypeKind} (mem : family existing = true)
    (other : kind = .null ∨ family kind = true) : existing.opposes kind = false := by
  rcases isFamily with rfl | rfl <;>
  · revert existing kind
    decide +kernel

lemma opposes_null (existing : TypeKind) : existing.opposes .null = false := by
  cases existing <;> rfl

/-- Kinds of one family have a common kind in it. -/
lemma exists_meetKinds_of_only (isFamily : IsFamily family) (only : Only family kinds) : ∃ existing,
      meetKinds .stringify none kinds = some (some existing) ∧ family existing = true := by
  cases meets : meetKinds .stringify none kinds with
  | none =>
    obtain ⟨before, kind, _, existing, rfl, met, opposed⟩ := meetKinds_eq_none.mp meets
    have mem : family kind = true := by
      rcases only.1 kind (by simp) with null | mem
      · rw [null, opposes_null] at opposed
        cases opposed
      · exact mem
    -- what was met before the conflict is of the family too, or there was nothing
    have common : InFamily family (some existing) = true ∨ Blank (some existing) = true := by
      rw [eq_foldl_of_meetKinds met]
      by_cases some_ : ∃ kind ∈ before, family kind = true
      · refine .inl ((foldl_inFamily isFamily).mpr (.inr ⟨rfl, ?_, some_⟩))
        exact fun other inside => only.1 other (by simp [inside])
      · refine .inr ?_
        have nulls : ∀ other ∈ before, other = .null := by
          intro other inside
          rcases only.1 other (by simp [inside]) with null | mem
          · exact null
          · exact absurd ⟨other, inside, mem⟩ some_
        clear met meets only some_
        induction before using List.reverseRecOn with
        | nil => rfl
        | append_singleton _ last ih =>
          rw [foldl_concat, (addSup_inFamily isFamily _ _).2,
            ih fun other inside => nulls other (by simp [inside]), nulls last (by simp)]
          rfl
    rcases common with inside | blank
    · rw [not_opposes_of_family isFamily inside (.inr mem)] at opposed
      cases opposed
    · have null : existing = .null := by simpa [Blank] using blank
      subst null
      cases opposed
  | some result =>
    have inside : InFamily family result = true := by
      rw [eq_foldl_of_meetKinds meets]
      exact (foldl_inFamily isFamily).mpr (.inr ⟨rfl, only⟩)
    cases result with
    | none => cases inside
    | some existing => exact ⟨existing, rfl, inside⟩

/-- Clashing columns cannot be unified in this order. -/
lemma meetKinds_of_clashing (clashing : Clashing first second) (rest : List TypeKind) :
    meetKinds .stringify none (first ++ second ++ rest) = none := by
  obtain ⟨before, kind, after, rfl, opposed⟩ := clashing
  apply meetKinds_eq_none.mpr
  rcases opposed with ⟨only, isDate⟩ | ⟨only, isNumeric⟩
  · obtain ⟨existing, meets, mem⟩ := exists_meetKinds_of_only (.inl rfl) only
    refine ⟨first ++ before, kind, after ++ rest, existing, by simp, meets, ?_⟩
    simp [opposes, mem, isDate]
  · obtain ⟨existing, meets, mem⟩ := exists_meetKinds_of_only (.inr rfl) only
    refine ⟨first ++ before, kind, after ++ rest, existing, by simp, meets, ?_⟩
    simp [opposes, mem, isNumeric]

end

lemma columnKinds_flatten (name : String) (schemas : List Schema) :
    columnKinds name schemas.flatten = schemas.flatMap (columnKinds name) := by
  induction schemas with
  | nil => rfl
  | cons _ _ ih =>
    rw [flatten_cons, columnKinds_append, ih, flatMap_cons]

variable {name : String} {schemas : List Schema}

/-- A place in the concatenated columns lies in one of the schemas. -/
lemma exists_schema_of_split {before rest : List TypeKind} {kind : TypeKind}
    (split : schemas.flatMap (columnKinds name) = before ++ kind :: rest) :
    ∃ earlier schema later inner after, schemas = earlier ++ schema :: later ∧
      columnKinds name schema = inner ++ kind :: after ∧
      before = earlier.flatMap (columnKinds name) ++ inner := by
  induction schemas generalizing before with
  | nil => simp at split
  | cons schema others ih =>
    rw [flatMap_cons] at split
    rcases append_eq_append_iff.mp split with ⟨middle, isBefore, isRest⟩ | ⟨middle, here, isRest⟩
    · obtain ⟨earlier, found, later, inner, after, rfl, column, rfl⟩ := ih isRest
      exact ⟨schema :: earlier, found, later, inner, after, rfl, column,
        by rw [isBefore, flatMap_cons, append_assoc]⟩
    · cases middle with
      | nil =>
        rw [append_nil] at here
        obtain ⟨earlier, found, later, inner, after, rfl, column, isEmpty⟩ :=
          @ih [] isRest.symm
        refine ⟨schema :: earlier, found, later, inner, after, rfl, column, ?_⟩
        rw [flatMap_cons, append_assoc, ← isEmpty, append_nil, here]
      | cons _ middle =>
        cases isRest
        exact ⟨[], schema, others, before, middle, rfl, here, rfl⟩

lemma only_of_sublist {kinds others : List TypeKind}
    (only : Only family kinds) (inside : ∀ kind ∈ others, kind ∈ kinds)
    (present : ∃ kind ∈ others, family kind = true) : Only family others :=
  ⟨fun kind mem => only.1 kind (inside kind mem), present⟩

/-- The family that meets its opponent comes from the schema itself or from one before it. -/
lemma clashing_of_split {earlier later : List Schema} {schema : Schema} {inner : List TypeKind}
    (only : Only family (earlier.flatMap (columnKinds name) ++ inner))
    (clash : ∀ first, Only family (first ++ inner) → Clashing first (columnKinds name schema))
    (unopposed : Unopposed (earlier ++ schema :: later)) : False := by
  obtain ⟨alone, paired⟩ := unopposed name
  obtain ⟨other, mem, inFamily⟩ := only.2
  rcases mem_append.mp mem with early | inside
  · obtain ⟨source, isEarlier, isKind⟩ := mem_flatMap.mp early
    have apart := pairwise_append.mp paired
    refine (apart.2.2 source isEarlier schema mem_cons_self).1 (clash _ ?_)
    refine only_of_sublist only ?_ ⟨other, mem_append_left _ isKind, inFamily⟩
    intro kind present
    rcases mem_append.mp present with left | right
    · exact mem_append_left _ (mem_flatMap.mpr ⟨source, isEarlier, left⟩)
    · exact mem_append_right _ right
  · refine alone schema (by simp) (clash [] ?_)
    exact only_of_sublist only (fun kind present => mem_append_right _ present)
      ⟨other, inside, inFamily⟩

/-- Schemas that do not oppose each other can be unified, to the common kind of each column. -/
lemma Unopposed.unifies (unopposed : Unopposed schemas)
    (supported : ∀ schema ∈ schemas, ∀ field ∈ schema, Supported field.dataType) :
    Unifies .stringify schemas.flatten .start fun name =>
      (columnKinds name schemas.flatten).foldl addSup none := by
  refine ⟨fun field mem => ?_, fun name => ?_⟩
  · obtain ⟨schema, isSchema, isField⟩ := mem_flatten.mp mem
    exact supported schema isSchema field isField
  · rw [lookup_start]
    cases meets : meetKinds .stringify none (columnKinds name schemas.flatten) with
    | some => rw [eq_foldl_of_meetKinds meets]
    | none =>
      obtain ⟨_, kind, _, _, split, met, opposed⟩ := meetKinds_eq_none.mp meets
      rw [columnKinds_flatten] at split
      obtain ⟨_, _, _, inner, after, rfl, column, rfl⟩ :=
        exists_schema_of_split split
      rw [opposes, Bool.or_eq_true, Bool.and_eq_true, Bool.and_eq_true] at opposed
      rcases opposed with ⟨numeric, isDate⟩ | ⟨date, isNumeric⟩
      · exact (clashing_of_split (only_of_meetKinds (.inl rfl) met numeric)
          (fun first only => ⟨inner, kind, after, column, .inl ⟨only, isDate⟩⟩) unopposed).elim
      · exact (clashing_of_split (only_of_meetKinds (.inr rfl) met date)
          (fun first only => ⟨inner, kind, after, column, .inr ⟨only, isNumeric⟩⟩)
          unopposed).elim

/-- Schemas of which some order starts with a clash do not always unify. -/
lemma not_unifies_of_clashing {first rest : List Schema} (name : String)
    {left right : List TypeKind} (clashing : Clashing left right)
    (starts : first.flatMap (columnKinds name) = left ++ right) {unified : UnifiedSchema}
    (succeeds : fromSchemas (first ++ rest) .stringify = .ok unified) : False := by
  have column := (unifies_of_fromSchemas succeeds).2 name
  rw [lookup_start, columnKinds_flatten, flatMap_append, starts,
    meetKinds_of_clashing clashing] at column
  cases column

/-- Unification resolves all conflicts, the same way in every order. -/
def ResolvesAll (schemas : List Schema) : Prop :=
  ∃ unified, fromSchemas schemas .stringify = .ok unified ∧
    ∀ other, other.Perm schemas → ∃ again, fromSchemas other .stringify = .ok again ∧
      ∀ name, again.typeMapping.lookup name = unified.typeMapping.lookup name

/-- Under `Stringify`, unification resolves all conflicts exactly when no column can bring a
number and a date together before a text. -/
theorem stringify_resolves_iff (schemas : List Schema)
    (supported : ∀ schema ∈ schemas, ∀ field ∈ schema, Supported field.dataType) :
    ResolvesAll schemas ↔ Unopposed schemas := by
  constructor
  · intro ⟨_, _, resolves⟩ name
    constructor
    · intro schema mem clashing
      obtain ⟨before, after, rfl⟩ := append_of_mem mem
      have permuted : ([schema] ++ (before ++ after)).Perm (before ++ schema :: after) := by
        rw [singleton_append]
        exact perm_middle.symm
      obtain ⟨again, succeeds, -⟩ := resolves _ permuted
      exact not_unifies_of_clashing name clashing (by simp) succeeds
    · apply pairwise_iff_forall_sublist.mpr
      intro s t both
      obtain ⟨rest, permuted⟩ := both.exists_perm_append
      constructor
      · intro clashing
        obtain ⟨again, succeeds, -⟩ := resolves ([s, t] ++ rest) permuted.symm
        exact not_unifies_of_clashing name clashing (by simp) succeeds
      · intro clashing
        obtain ⟨again, succeeds, -⟩ := resolves ([t, s] ++ rest)
          ((List.Perm.swap s t rest).trans permuted.symm)
        exact not_unifies_of_clashing name clashing (by simp) succeeds
  · intro unopposed
    obtain ⟨unified, succeeds⟩ := exists_fromSchemas_of_unifies (unopposed.unifies supported)
    have common (list : List Schema) (unified : UnifiedSchema) (permuted : list.Perm schemas)
        (succeeds : fromSchemas list .stringify = .ok unified) (name : String) :
        unified.typeMapping.lookup name = (columnKinds name schemas.flatten).foldl addSup none := by
      have column := (unifies_of_fromSchemas succeeds).2 name
      rw [lookup_start] at column
      refine (eq_foldl_of_meetKinds column).trans ?_
      exact (columnKinds_perm permuted name).foldl_eq' (fun x _ y _ z => addSup_swap z x y) none
    refine ⟨unified, succeeds, fun other permuted => ?_⟩
    obtain ⟨again, resolved⟩ := exists_fromSchemas_of_unifies
      ((unopposed.perm permuted).unifies fun schema mem =>
        supported schema (permuted.mem_iff.mp mem))
    refine ⟨again, resolved, fun name => ?_⟩
    rw [common other again permuted resolved, common schemas unified (List.Perm.refl _) succeeds]

namespace Reference

def dateColumn : Schema := [⟨"a", .date32, true⟩]

def textColumn : Schema := [⟨"a", .utf8, true⟩]

/-- A number and a date have no common kind, not even a text. -/
theorem date_not_stringified :
    (∀ schema ∈ [intColumn, dateColumn], ∀ field ∈ schema, Supported field.dataType) ∧
      fromSchemas [intColumn, dateColumn] .stringify =
        .error (.schema "Cannot unify incompatible types: I32 and Date") ∧
      ¬ ResolvesAll [intColumn, dateColumn] := by
  have fails : fromSchemas [intColumn, dateColumn] .stringify =
      .error (.schema "Cannot unify incompatible types: I32 and Date") := rfl
  refine ⟨?_, fails, ?_⟩
  · simp [intColumn, dateColumn, Supported, fromArrowType]
  · intro ⟨_, succeeds, _⟩
    rw [fails] at succeeds
    cases succeeds

lemma not_clashing_text (kinds : List TypeKind) (first : List TypeKind)
    (texts : ∀ kind ∈ kinds, kind = .utf8) : ¬ Clashing first kinds := by
  intro ⟨_, kind, _, split, opposed⟩
  have text : kind = .utf8 := texts kind (by rw [split]; simp)
  subst text
  rcases opposed with ⟨-, never⟩ | ⟨-, never⟩ <;> cases never

/-- Texts of different widths have a common kind in every order. -/
theorem texts_stringified : (∀ schema ∈ [textColumn, [⟨"a", .largeUtf8, true⟩]], ∀ field ∈ schema,
      Supported field.dataType) ∧ ResolvesAll [textColumn, [⟨"a", .largeUtf8, true⟩]] := by
  have supported : ∀ schema ∈ [textColumn, [⟨"a", .largeUtf8, true⟩]], ∀ field ∈ schema,
      Supported field.dataType := by
    simp [textColumn, Supported, fromArrowType]
  have texts (name : String) : ∀ schema ∈ [textColumn, [⟨"a", .largeUtf8, true⟩]],
      ∀ kind ∈ columnKinds name schema, kind = .utf8 := by
    simp [textColumn, columnKinds, fromArrowType, Except.toOption]
  refine ⟨supported, (stringify_resolves_iff _ supported).mpr fun name => ⟨?_, ?_⟩⟩
  · exact fun schema mem => not_clashing_text _ _ (texts name schema mem)
  · refine pairwise_pair.mpr ⟨?_, ?_⟩
    all_goals exact not_clashing_text _ _ (texts name _ (by simp))

end Reference

end Parqonaut.Columnar
