import Mathlib.Data.List.Dedup
import Mathlib.Data.String.Basic
import Parqonaut.Schema.Compatibility

/-!
# What the canonical field is

The fold over the variants of a field: where its type comes from, which nullability it has, which
variants it can reach, and when it stays with the first one.
-/

namespace Parqonaut.Schema

open PhysicalType List

variable {toUppercase : String → String} {policy : SchemaPolicy}

lemma FieldDescriptor.label_congr {left right : FieldDescriptor}
    (same : left.physicalType = right.physicalType) :
    left.label toUppercase = right.label toUppercase :=
  congrArg (PhysicalType.parse toUppercase) same

/-! ## One round -/

section

variable {best variant : FieldDescriptor}

/-- The round takes the variant over. -/
def Takes (toUppercase : String → String) (policy : SchemaPolicy)
    (best variant : FieldDescriptor) : Prop :=
  (policy.allowNumericWidening = true ∧
      (best.label toUppercase).widens (variant.label toUppercase) = true) ∧
    NullabilityFits policy.allowNullableWidening best.nullable variant.nullable

instance : Decidable (Takes toUppercase policy best variant) := inferInstanceAs (Decidable (_ ∧ _))

lemma takes_iff : (classifyConversion toUppercase policy best variant = .lossless ∧
        (variant.label toUppercase).wideningRank.getD 0 >
          (best.label toUppercase).wideningRank.getD 0) ↔
      Takes toUppercase policy best variant := by
  by_cases same : best.label toUppercase = variant.label toUppercase
  · constructor
    · rintro ⟨-, higher⟩
      rw [same] at higher
      exact (lt_irrefl _ higher).elim
    · intro takes
      exact (ne_of_widens takes.1.2 same).elim
  · rw [classifyConversion, classify_eq_lossless same, Takes]
    exact ⟨fun both => both.1, fun takes => ⟨takes, rank_of_widens takes.1.2⟩⟩

/-- What a round can do. -/
lemma widenField_cases (toUppercase : String → String) (policy : SchemaPolicy)
    (best variant : FieldDescriptor) :
    (Takes toUppercase policy best variant ∧ widenField toUppercase policy best variant = variant) ∨
      ¬ Takes toUppercase policy best variant ∧
        ((policy.allowNullableWidening = true ∧ variant.nullable = true ∧ best.nullable = false ∧
            widenField toUppercase policy best variant = { best with nullable := true }) ∨
          (policy.allowNullableWidening = true → variant.nullable = true → best.nullable = true) ∧
            widenField toUppercase policy best variant = best) := by
  by_cases takes : Takes toUppercase policy best variant
  · exact .inl ⟨takes, by rw [widenField, if_pos (takes_iff.mpr takes)]⟩
  · refine .inr ⟨takes, ?_⟩
    rw [widenField, if_neg fun both => takes (takes_iff.mp both)]
    by_cases widens : (variant.nullable && !best.nullable && policy.allowNullableWidening) = true
    · rw [if_pos widens]
      simp only [Bool.and_eq_true, Bool.not_eq_true'] at widens
      exact .inl ⟨widens.2, widens.1.1, widens.1.2, rfl⟩
    · rw [if_neg widens]
      refine .inr ⟨fun allowed nullable => ?_, rfl⟩
      simpa [allowed, nullable] using widens

lemma nullable_widenField : (widenField toUppercase policy best variant).nullable =
    if policy.allowNullableWidening then best.nullable || variant.nullable else best.nullable := by
  rcases widenField_cases toUppercase policy best variant with
    ⟨takes, taken⟩ | ⟨-, ⟨allowed, optional, required, made⟩ | ⟨kept, same⟩⟩
  · rw [taken]
    rcases takes.2 with equal | ⟨allowed, _, optional⟩
    · simp [equal]
    · simp [allowed, optional]
  · simp [made, allowed, optional]
  · rw [same]
    cases allowed : policy.allowNullableWidening with
    | false => simp
    | true =>
      cases optional : variant.nullable with
      | false => simp
      | true => simp [kept allowed optional]

lemma fits_widenField : Fits policy.allowNumericWidening (best.label toUppercase)
    ((widenField toUppercase policy best variant).label toUppercase) := by
  rcases widenField_cases toUppercase policy best variant with
    ⟨takes, taken⟩ | ⟨-, ⟨-, -, -, made⟩ | ⟨-, same⟩⟩
  · rw [taken]
    exact .inr takes.1
  · rw [made]
    exact .refl _ _
  · rw [same]
    exact .refl _ _

/-- A variant that cannot widen the type leaves it. -/
lemma label_widenField (narrow : Fits policy.allowNumericWidening (variant.label toUppercase)
      (best.label toUppercase)) :
    (widenField toUppercase policy best variant).label toUppercase = best.label toUppercase := by
  rcases widenField_cases toUppercase policy best variant with
    ⟨takes, -⟩ | ⟨-, ⟨-, -, -, made⟩ | ⟨-, same⟩⟩
  · exact (ne_of_widens takes.1.2 (Fits.antisymm (.inr takes.1) narrow)).elim
  · rw [made]
    rfl
  · rw [same]

end

/-! ## Whole loop -/

section

variable {first variant : FieldDescriptor} {rest before after variants : List FieldDescriptor}

lemma pickCanonicalField_concat (nonempty : variants ≠ []) :
    pickCanonicalField toUppercase policy (variants ++ [variant]) =
      widenField toUppercase policy (pickCanonicalField toUppercase policy variants) variant := by
  cases variants with
  | nil => exact (nonempty rfl).elim
  | cons => exact foldl_concat ..

lemma nullable_pickCanonicalField :
    (pickCanonicalField toUppercase policy (first :: rest)).nullable =
      if policy.allowNullableWidening then (first :: rest).any (·.nullable)
      else first.nullable := by
  induction rest using List.reverseRecOn with
  | nil => simp [pickCanonicalField]
  | append_singleton _ _ ih =>
    rw [← cons_append, pickCanonicalField_concat (cons_ne_nil _ _), nullable_widenField, ih]
    split
    · rw [any_append]
      simp
    · rfl

lemma fits_pickCanonicalField (nonempty : before ≠ []) (after : List FieldDescriptor) :
    Fits policy.allowNumericWidening
      ((pickCanonicalField toUppercase policy before).label toUppercase)
      ((pickCanonicalField toUppercase policy (before ++ after)).label toUppercase) := by
  induction after using List.reverseRecOn with
  | nil =>
    rw [append_nil]
    exact .refl _ _
  | append_singleton _ _ ih =>
    rw [← append_assoc, pickCanonicalField_concat (by simp [nonempty])]
    exact ih.trans fits_widenField

/-- The variant after `before` may give its type to the canonical field: under nullable widening it
is optional or before every optional one, otherwise it has the first variant's nullability. -/
def Eligible (policy : SchemaPolicy) (before : List FieldDescriptor) (variant : FieldDescriptor) :
    Prop :=
  (policy.allowNullableWidening = true →
      variant.nullable = true ∨ ∀ earlier ∈ before, earlier.nullable = false) ∧
    (policy.allowNullableWidening = false →
      ∀ first, before.head? = some first → variant.nullable = first.nullable)

/-- The type of the canonical field is that of an eligible variant. -/
lemma exists_source (nonempty : variants ≠ []) :
    ∃ before source after, variants = before ++ source :: after ∧ Eligible policy before source ∧
      (pickCanonicalField toUppercase policy variants).physicalType = source.physicalType ∧
      (pickCanonicalField toUppercase policy variants).name = source.name := by
  induction variants using List.reverseRecOn with
  | nil => exact (nonempty rfl).elim
  | append_singleton variants last ih =>
    cases variants with
    | nil => exact ⟨[], last, [], rfl, by simp [Eligible], rfl, rfl⟩
    | cons first rest =>
      obtain ⟨before, source, after, split, eligible, typed, named⟩ := ih (by simp)
      rw [pickCanonicalField_concat (by simp)]
      have earlier : ∃ before source after, first :: rest ++ [last] = before ++ source :: after ∧
          Eligible policy before source ∧
          (pickCanonicalField toUppercase policy (first :: rest)).physicalType =
            source.physicalType ∧
          (pickCanonicalField toUppercase policy (first :: rest)).name = source.name :=
        ⟨before, source, after ++ [last], by rw [split]; simp, eligible, typed, named⟩
      rcases widenField_cases toUppercase policy
          (pickCanonicalField toUppercase policy (first :: rest)) last with
        ⟨takes, taken⟩ | ⟨-, ⟨-, -, -, made⟩ | ⟨-, same⟩⟩
      · refine ⟨first :: rest, last, [], rfl, ⟨?_, ?_⟩, by rw [taken], by rw [taken]⟩
        · intro allowed
          have fits := takes.2
          rw [nullable_pickCanonicalField, if_pos allowed] at fits
          cases optional : last.nullable with
          | true => exact .inl rfl
          | false =>
            rw [optional] at fits
            have none : (first :: rest).any (·.nullable) = false :=
              fits.resolve_right fun never => by cases never.2.2
            simpa using none
        · rintro forbidden _ ⟨⟩
          have fits := takes.2
          rw [nullable_pickCanonicalField, if_neg (by simp [forbidden])] at fits
          exact (fits.resolve_right fun never => by simp [forbidden] at never).symm
      · rw [made]
        exact earlier
      · rw [same]
        exact earlier

/-- An eligible variant to which all types can be widened gives its type to the canonical
field. -/
lemma label_pickCanonicalField (eligible : Eligible policy before variant)
    (widest : ∀ other ∈ before ++ variant :: after, Fits policy.allowNumericWidening
      (other.label toUppercase) (variant.label toUppercase)) :
    (pickCanonicalField toUppercase policy (before ++ variant :: after)).label toUppercase =
      variant.label toUppercase := by
  induction after using List.reverseRecOn with
  | nil =>
    cases before with
    | nil => rfl
    | cons first rest =>
      rw [pickCanonicalField_concat (by simp)]
      obtain ⟨_, source, _, split, -, typed, -⟩ :=
        @exists_source toUppercase policy (first :: rest) (by simp)
      have sourced : (pickCanonicalField toUppercase policy (first :: rest)).label toUppercase =
          source.label toUppercase := FieldDescriptor.label_congr typed
      have mem : source ∈ first :: rest ++ [variant] := by
        rw [split]
        simp
      rcases widest source mem with same | wider
      · rw [label_widenField (by rw [sourced, same]; exact .refl _ _), sourced, same]
      · have takes : Takes toUppercase policy
            (pickCanonicalField toUppercase policy (first :: rest)) variant := by
          refine ⟨by rw [sourced]; exact wider, ?_⟩
          rw [nullable_pickCanonicalField]
          split
          · rename_i allowed
            rcases eligible.1 allowed with optional | required
            · rw [optional, NullabilityFits]
              cases (first :: rest).any (·.nullable) <;> simp [allowed]
            · have none : (first :: rest).any (·.nullable) = false := by simpa using required
              rw [none, NullabilityFits]
              cases variant.nullable <;> simp [allowed]
          · rename_i forbidden
            exact .inl (eligible.2 (by simpa using forbidden) first rfl).symm
        rcases widenField_cases toUppercase policy
            (pickCanonicalField toUppercase policy (first :: rest)) variant with
          ⟨-, taken⟩ | ⟨not, -⟩
        · rw [taken]
        · exact (not takes).elim
  | append_singleton _ last ih =>
    have shorter := ih fun other mem => widest other (by
      rcases mem_append.mp mem with inBefore | later
      · exact mem_append_left _ inBefore
      · rcases mem_cons.mp later with rfl | inAfter
        · simp
        · simp [inAfter])
    rw [← cons_append, ← append_assoc, pickCanonicalField_concat (by simp),
      label_widenField, shorter]
    rw [shorter]
    exact widest last (by simp)

end

/-!
# The variants of a field

What the grouping of the fields by name and path holds, and what the resolution reports in
terms of it.
-/

open Std (TreeMap)

/-! ## Grouping -/

/-- Entry for a field of a file. -/
def variantAt (fieldFiles : TreeMap String (TreeMap String FieldDescriptor))
    (name path : String) : Option FieldDescriptor :=
  fieldFiles[name]?.bind fun perFile => perFile[path]?

/-- Field of that name in a file: the last one that is listed. -/
def lastField (name : String) (fields : List FieldDescriptor) : Option FieldDescriptor :=
  fields.reverse.find? fun field => field.name = name

section

variable {fieldFiles : TreeMap String (TreeMap String FieldDescriptor)}
  {views : List FileSchemaView} {view : FileSchemaView} {field : FieldDescriptor}
  {name path place : String}

lemma variantAt_recordField : variantAt (recordField place fieldFiles field) name path =
    if field.name = name ∧ place = path then some field else variantAt fieldFiles name path := by
  rw [variantAt, recordField, TreeMap.getElem?_alter]
  simp only [Std.compare_eq_iff_eq]
  by_cases named : field.name = name
  · subst named
    rw [if_pos rfl, Option.bind_some, TreeMap.getElem?_insert]
    simp only [Std.compare_eq_iff_eq, true_and]
    split
    · rfl
    · rw [variantAt]
      cases fieldFiles[field.name]? with
      | none => simp
      | some => rfl
  · rw [if_neg named, if_neg fun both => named both.1, variantAt]

lemma lastField_concat {fields : List FieldDescriptor} : lastField name (fields ++ [field]) =
    if field.name = name then some field else lastField name fields := by
  rw [lastField, reverse_append, reverse_singleton, singleton_append, find?_cons]
  split
  · rename_i named
    rw [if_pos (of_decide_eq_true named)]
  · rename_i other
    rw [if_neg (of_decide_eq_false other), lastField]

lemma variantAt_recordView : variantAt (recordView fieldFiles view) name path =
    if view.path = path then (lastField name view.fields).or (variantAt fieldFiles name path)
    else variantAt fieldFiles name path := by
  rw [recordView]
  induction view.fields using reverseRecOn with
  | nil => simp [lastField]
  | append_singleton _ field ih =>
    rw [foldl_concat, variantAt_recordField, ih, lastField_concat]
    by_cases here : view.path = path <;> by_cases named : field.name = name <;>
      simp [here, named]

lemma groupFields_concat : groupFields (views ++ [view]) = recordView (groupFields views) view :=
  foldl_concat ..

/-- Every entry comes from a file. -/
lemma exists_view_of_variantAt (found : variantAt (groupFields views) name path = some field) :
    ∃ view ∈ views, view.path = path ∧ lastField name view.fields = some field := by
  induction views using reverseRecOn with
  | nil => simp [groupFields, variantAt] at found
  | append_singleton views view ih =>
    rw [groupFields_concat, variantAt_recordView] at found
    have earlier : variantAt (groupFields views) name path = some field →
        ∃ other ∈ views ++ [view], other.path = path ∧
          lastField name other.fields = some field := by
      intro found
      obtain ⟨other, mem, located⟩ := ih found
      exact ⟨other, mem_append_left _ mem, located⟩
    split at found
    · rename_i here
      rcases Option.or_eq_some_iff.mp found with last | ⟨-, found⟩
      · exact ⟨view, by simp, here, last⟩
      · exact earlier found
    · exact earlier found

/-- With distinct paths the entry of a file is its own field. -/
lemma variantAt_of_mem (distinct : (views.map (·.path)).Nodup) (mem : view ∈ views) :
    variantAt (groupFields views) name view.path = lastField name view.fields := by
  induction views using reverseRecOn with
  | nil => cases mem
  | append_singleton views last ih =>
    rw [map_append, nodup_append] at distinct
    rw [groupFields_concat, variantAt_recordView]
    rcases mem_append.mp mem with earlier | later
    · have apart : last.path ≠ view.path := fun same =>
        distinct.2.2 _ (mem_map_of_mem earlier) _ (mem_singleton_self _) same.symm
      rw [if_neg apart, ih distinct.1 earlier]
    · obtain rfl := mem_singleton.mp later
      have fresh : variantAt (groupFields views) name view.path = none := by
        by_contra found
        obtain ⟨_, found⟩ := Option.ne_none_iff_exists'.mp found
        obtain ⟨_, inside, same, -⟩ := exists_view_of_variantAt found
        exact distinct.2.2 _ (mem_map_of_mem inside) _ (mem_singleton_self _) same
      rw [if_pos rfl, fresh, Option.or_none]

end

/-- Files of a field with their variants, in the order of their paths. -/
def filesOf (views : List FileSchemaView) (name : String) : List (String × FieldDescriptor) :=
  ((groupFields views)[name]?.map TreeMap.toList).getD []

/-- Variants of a field, in the order of the paths of their files. -/
def variants (views : List FileSchemaView) (name : String) : List FieldDescriptor :=
  (filesOf views name).map Prod.snd

section

variable {views : List FileSchemaView} {name path : String} {field : FieldDescriptor}

lemma mem_filesOf : (path, field) ∈ filesOf views name ↔
      variantAt (groupFields views) name path = some field := by
  rw [filesOf, variantAt]
  cases (groupFields views)[name]? with
  | none => simp
  | some => simp [TreeMap.mem_toList_iff_getElem?_eq_some]

lemma filesOf_sorted (views : List FileSchemaView) (name : String) :
    (filesOf views name).Pairwise fun left right => left.1 < right.1 := by
  rw [filesOf]
  cases (groupFields views)[name]? with
  | none => exact .nil
  | some perFile =>
    refine perFile.ordered_keys_toList.imp ?_
    intro _ _ before
    exact compare_lt_iff_lt.mp before

lemma name_of_lastField {fields : List FieldDescriptor} (found : lastField name fields = some field) :
    field ∈ fields ∧ field.name = name :=
  ⟨mem_reverse.mp (mem_of_find?_eq_some found), by simpa using find?_some found⟩

/-- A variant is a field of that name in one of the files. -/
lemma exists_view_of_mem_variants (mem : field ∈ variants views name) :
    ∃ view ∈ views, field ∈ view.fields ∧ field.name = name := by
  obtain ⟨⟨_, _⟩, inside, rfl⟩ := mem_map.mp mem
  obtain ⟨view, listed, -, last⟩ := exists_view_of_variantAt (mem_filesOf.mp inside)
  exact ⟨view, listed, name_of_lastField last⟩

/-- The fields with a variant, as the loop over the map meets them. -/
lemma exists_entry {property : String → List FieldDescriptor → Prop} :
    (∃ entry ∈ (groupFields views).toList.filter fun entry => !(valuesOf entry.2).isEmpty,
        property entry.1 (valuesOf entry.2)) ↔
      ∃ name, variants views name ≠ [] ∧ property name (variants views name) := by
  constructor
  · rintro ⟨⟨name, perFile⟩, mem, holds⟩
    obtain ⟨listed, nonempty⟩ := mem_filter.mp mem
    have found := TreeMap.mem_toList_iff_getElem?_eq_some.mp listed
    have same : variants views name = valuesOf perFile := by
      rw [variants, filesOf, found]
      rfl
    refine ⟨name, ?_, ?_⟩
    · rw [same]
      simpa using nonempty
    · rw [same]
      exact holds
  · rintro ⟨name, nonempty, holds⟩
    cases found : (groupFields views)[name]? with
    | none => simp [variants, filesOf, found] at nonempty
    | some perFile =>
      have same : variants views name = valuesOf perFile := by
        rw [variants, filesOf, found]
        rfl
      rw [same] at nonempty holds
      refine ⟨(name, perFile), mem_filter.mpr
        ⟨TreeMap.mem_toList_iff_getElem?_eq_some.mpr found, ?_⟩, holds⟩
      simpa using nonempty

lemma mem_canonicalSchema : field ∈ (computeSchemaDiff toUppercase policy views).canonicalSchema ↔
      ∃ name, variants views name ≠ [] ∧
        pickCanonicalField toUppercase policy (variants views name) = field := by
  rw [← @exists_entry views fun _ values => pickCanonicalField toUppercase policy values = field]
  simp [computeSchemaDiff]

lemma name_pickCanonicalField (nonempty : variants views name ≠ []) :
    (pickCanonicalField toUppercase policy (variants views name)).name = name := by
  obtain ⟨_, source, _, split, -, -, named⟩ :=
    @exists_source toUppercase policy _ nonempty
  obtain ⟨_, -, -, same⟩ := @exists_view_of_mem_variants views name source (by rw [split]; simp)
  rw [named, same]

/-- The field is reported as a conflict. -/
def Conflicting (resolution : SchemaResolution) (name : String) : Prop :=
  ∃ conflict ∈ resolution.conflicts, conflict.field = name

end

/-! ## Conflicts -/

variable {first : FieldDescriptor} {rest variants : List FieldDescriptor}

/-- Variants that do not differ make a canonical field that does not differ from them. -/
lemma pickCanonicalField_of_same (same : ∀ variant ∈ rest, first.differs variant = false) :
    pickCanonicalField toUppercase policy (first :: rest) = first := by
  induction rest using reverseRecOn with
  | nil => rfl
  | append_singleton _ last ih =>
    rw [← cons_append, pickCanonicalField_concat (by simp),
      ih fun variant mem => same variant (mem_append_left _ mem)]
    have equal := same last (by simp)
    rw [FieldDescriptor.differs, Bool.or_eq_false_iff] at equal
    simp only [decide_eq_false_iff_not, not_not] at equal
    rcases widenField_cases toUppercase policy first last with
      ⟨takes, -⟩ | ⟨-, ⟨-, optional, required, -⟩ | ⟨-, unchanged⟩⟩
    · exact (PhysicalType.ne_of_widens takes.1.2 (FieldDescriptor.label_congr equal.1.symm)).elim
    · rw [equal.2, required] at optional
      cases optional
    · exact unchanged

lemma same_of_single (single : ((first :: rest).map fun variant =>
      (variant.physicalType, variant.nullable)).dedup.length = 1) :
    ∀ variant ∈ rest, first.differs variant = false := by
  intro variant mem
  obtain ⟨only, one⟩ := length_eq_one_iff.mp single
  have equal : ∀ other ∈ first :: rest, (other.physicalType, other.nullable) = only := by
    intro other listed
    apply mem_singleton.mp
    rw [← one, mem_dedup]
    exact mem_map.mpr ⟨other, listed, rfl⟩
  have same := (equal variant (mem_cons_of_mem _ mem)).trans (equal first mem_cons_self).symm
  obtain ⟨typed, nullable⟩ := Prod.mk.inj same
  simp [FieldDescriptor.differs, typed, nullable]

lemma accepted_self (field : FieldDescriptor) :
    classifyConversion toUppercase policy field field = .lossless := by
  simp [classifyConversion, classifyConversionFlags]

variable {name : String}

/-- A difference that is not accepted is reported exactly if the first variant that differs from
the canonical field cannot be converted to it. -/
lemma fieldDifference_conflict (nonempty : variants ≠ []) :
    (∃ difference, fieldDifference toUppercase policy name variants = some difference ∧
        ¬ difference.compatibility.Accepted) ↔
      ∃ variant, variants.find? (pickCanonicalField toUppercase policy variants).differs =
          some variant ∧
        ¬ (classifyConversion toUppercase policy variant
          (pickCanonicalField toUppercase policy variants)).Accepted := by
  generalize canonicalField : pickCanonicalField toUppercase policy variants = canonical
  obtain ⟨first, rest, rfl⟩ := exists_cons_of_ne_nil nonempty
  cases found : (first :: rest).find? canonical.differs with
  | none =>
    have nothing : fieldDifference toUppercase policy name (first :: rest) = none := by
      have same := find?_eq_none.mp found first mem_cons_self
      simp only [FieldDescriptor.differs, Bool.or_eq_true, decide_eq_true_eq, not_or,
        not_not] at same
      simp only [fieldDifference, canonicalField, found, headD_cons, same, ne_eq,
        not_true_eq_false, if_false, Option.getD_none, accepted_self]
      split <;> rfl
    simp [nothing]
  | some variant =>
    have differs := find?_some found
    have several : ((first :: rest).map fun variant =>
        (variant.physicalType, variant.nullable)).dedup.length ≠ 1 := by
      intro single
      have same := same_of_single single
      rw [pickCanonicalField_of_same same] at canonicalField
      subst canonicalField
      rcases mem_cons.mp (mem_of_find?_eq_some found) with rfl | mem
      · simp [FieldDescriptor.differs] at differs
      · rw [same variant mem] at differs
        cases differs
    have different : variant.physicalType ≠ canonical.physicalType ∨
        variant.nullable ≠ canonical.nullable := by
      simpa [FieldDescriptor.differs] using differs
    have kind : (if classifyConversion toUppercase policy variant canonical = .unsupported then
          .incompatibleTypeChange
        else if variant.physicalType ≠ canonical.physicalType then .compatibleNumericWidening
        else if variant.nullable ≠ canonical.nullable then .nullableDifference
        else .identical : SchemaDifferenceKind) ≠ .identical := by
      split
      · decide
      · split
        · decide
        · rename_i typed
          rw [if_pos (different.resolve_left typed)]
          decide
    have reported : ∃ difference, fieldDifference toUppercase policy name (first :: rest) =
        some difference ∧ difference.compatibility =
          classifyConversion toUppercase policy variant canonical := by
      rw [fieldDifference]
      simp only [canonicalField, found, if_neg several, Option.getD_some, if_neg kind]
      exact ⟨_, rfl, rfl⟩
    obtain ⟨_, made, compat⟩ := reported
    simp [made, compat]

variable {difference : FieldDifference}

lemma path_of_fieldDifference
    (made : fieldDifference toUppercase policy name variants = some difference) :
    difference.path = name := by
  rw [fieldDifference] at made
  dsimp only at made
  split at made
  · rw [Option.ite_none_right_eq_some] at made
    rw [← Option.some.inj made.2]
  · rw [Option.ite_none_left_eq_some] at made
    rw [← Option.some.inj made.2]

/-- No field has two differences. -/
lemma computeSchemaDiff_paths (toUppercase : String → String) (policy : SchemaPolicy)
    (views : List FileSchemaView) :
    ((computeSchemaDiff toUppercase policy views).fields.map (·.path)).Nodup := by
  rw [computeSchemaDiff]
  dsimp only
  rw [((perm_insertionSort _ _).map _).nodup_iff]
  have keys : ((groupFields views).toList.map Prod.fst).Nodup := by
    rw [Std.TreeMap.map_fst_toList_eq_keys]
    exact (groupFields views).nodup_keys
  have fields := Nodup.sublist (Sublist.map Prod.fst
    (filter_sublist (p := fun entry => !(valuesOf entry.2).isEmpty))) keys
  rw [Nodup, pairwise_map, pairwise_filterMap]
  refine (pairwise_map.mp fields).imp ?_
  intro _ _ apart _ made _ otherMade
  rw [path_of_fieldDifference made, path_of_fieldDifference otherMade]
  exact apart

lemma exists_conflictOf :
    (∃ conflict, conflictOf difference = some conflict ∧ conflict.field = name) ↔
      ¬ difference.compatibility.Accepted ∧ difference.path = name := by
  rw [conflictOf]
  cases difference.compatibility <;> simp [Compatibility.Accepted]

/-- A field is reported as a conflict exactly if the first variant that differs from the
canonical field cannot be converted to it. -/
lemma conflicting_iff {views : List FileSchemaView} :
    Conflicting (resolveCanonicalSchema toUppercase policy views none) name ↔
      ∃ variant, (Schema.variants views name).find? (pickCanonicalField toUppercase policy
          (Schema.variants views name)).differs = some variant ∧
        ¬ (classifyConversion toUppercase policy variant
          (pickCanonicalField toUppercase policy (Schema.variants views name))).Accepted := by
  simp only [Conflicting, resolveCanonicalSchema, computeSchemaDiff, mem_filterMap,
    mem_insertionSort]
  constructor
  · rintro ⟨conflict, ⟨difference, ⟨entry, listed, made⟩, found⟩, named⟩
    obtain ⟨refused, located⟩ := exists_conflictOf.mp ⟨conflict, found, named⟩
    obtain ⟨_, nonempty, made⟩ := (@exists_entry views fun name values =>
      fieldDifference toUppercase policy name values = some difference).mp ⟨entry, listed, made⟩
    rw [path_of_fieldDifference made] at located
    subst located
    exact (fieldDifference_conflict nonempty).mp ⟨difference, made, refused⟩
  · intro refusal
    have nonempty : Schema.variants views name ≠ [] := by
      obtain ⟨_, found, -⟩ := refusal
      exact ne_nil_of_mem (mem_of_find?_eq_some found)
    obtain ⟨difference, made, refused⟩ :=
      (@fieldDifference_conflict toUppercase policy _ name nonempty).mpr refusal
    obtain ⟨conflict, found, named⟩ :=
      exists_conflictOf.mpr ⟨refused, path_of_fieldDifference made⟩
    obtain ⟨entry, listed, made⟩ := (@exists_entry views fun name values =>
      fieldDifference toUppercase policy name values = some difference).mpr ⟨name, nonempty, made⟩
    exact ⟨conflict, ⟨difference, ⟨entry, listed, made⟩, found⟩, named⟩

end Parqonaut.Schema
