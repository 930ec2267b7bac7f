import Mathlib.Data.List.Perm.Basic
import Parqonaut.Schema.CanonicalField

/-!
# When a resolved field is sound for every file

Only the first variant that differs from the canonical field is classified, and a field that was
widened away from the first variant always passes. So the resolution is sound if all variants fit
a widest one, or if the first one stays canonical and the first different one is refused.
-/

namespace Parqonaut.Schema

open PhysicalType Rust List

section

variable (toUppercase : String → String) (policy : SchemaPolicy)

/-- Without a reported conflict the variant of every file converts to the canonical field. -/
def ResolvesSoundly (views : List FileSchemaView) (name : String) : Prop :=
  let resolution := resolveCanonicalSchema toUppercase policy views none
  ¬ Conflicting resolution name →
    ∀ canonical ∈ resolution.diff.canonicalSchema, canonical.name = name →
      ∀ view ∈ views, ∀ field ∈ view.fields, field.name = name →
        (classifyConversion toUppercase policy field canonical).Accepted

/-- Fields of that name in all files. -/
def fieldsNamed (views : List FileSchemaView) (name : String) : List FieldDescriptor :=
  views.flatMap fun view => view.fields.filter fun field => field.name = name

/-- An eligible variant is the widest, and the fields of its type agree with the joint nullability:
under nullable widening some variant is optional if one of them is, otherwise they have the first
variant's. -/
def Covered (variants all : List FieldDescriptor) : Prop :=
  ∃ before widest after, variants = before ++ widest :: after ∧ Eligible policy before widest ∧
    (∀ field ∈ all, Fits policy.allowNumericWidening (field.label toUppercase)
      (widest.label toUppercase)) ∧
    ∀ field ∈ all, field.label toUppercase = widest.label toUppercase →
      (policy.allowNullableWidening = true → field.nullable = true →
        ∃ variant ∈ variants, variant.nullable = true) ∧
      (policy.allowNullableWidening = false →
        ∀ first, variants.head? = some first → field.nullable = first.nullable)

/-- No variant widens the first one, and the first variant that differs from it cannot be
converted to it. -/
def Exposed (variants : List FieldDescriptor) : Prop :=
  ∃ first rest, variants = first :: rest ∧
    (∀ variant ∈ rest, ¬ Takes toUppercase policy first variant ∧
      (policy.allowNullableWidening = true → variant.nullable = true → first.nullable = true)) ∧
    ∃ before variant after, rest = before ++ variant :: after ∧
      (∀ earlier ∈ before, first.differs earlier = false) ∧ first.differs variant = true ∧
      ¬ (classifyConversion toUppercase policy variant first).Accepted

variable {toUppercase policy} {variants all rest : List FieldDescriptor} {first : FieldDescriptor}

lemma accepted_iff {source target : FieldDescriptor} :
    (classifyConversion toUppercase policy source target).Accepted ↔
      Fits policy.allowNumericWidening (source.label toUppercase) (target.label toUppercase) ∧
        (source.label toUppercase = target.label toUppercase →
          NullabilityFits policy.allowNullableWidening source.nullable target.nullable) := by
  rw [classifyConversion, classify_accepted, Fits]
  constructor
  · rintro (⟨same, nullable⟩ | wider)
    · exact ⟨.inl same, fun _ => nullable⟩
    · exact ⟨.inr wider, fun same => (ne_of_widens wider.2 same).elim⟩
  · rintro ⟨same | wider, nullable⟩
    · exact .inl ⟨same, nullable same⟩
    · exact .inr wider

/-- The first variant converts to the canonical field. -/
lemma first_accepted : (classifyConversion toUppercase policy first
    (pickCanonicalField toUppercase policy (first :: rest))).Accepted := by
  refine accepted_iff.mpr ⟨fits_pickCanonicalField (cons_ne_nil first []) rest, fun _ => ?_⟩
  rw [nullable_pickCanonicalField, NullabilityFits]
  split
  · rename_i allowed
    cases required : first.nullable with
    | true => simp [required]
    | false => cases (first :: rest).any (·.nullable) <;> simp [allowed]
  · exact .inl rfl

lemma covered_iff (subset : first :: rest ⊆ all) : Covered toUppercase policy (first :: rest) all ↔
      ∀ field ∈ all, (classifyConversion toUppercase policy field
        (pickCanonicalField toUppercase policy (first :: rest))).Accepted := by
  constructor
  · rintro ⟨before, widest, after, split, eligible, fits, nullability⟩ field mem
    have typed : (pickCanonicalField toUppercase policy (first :: rest)).label toUppercase =
        widest.label toUppercase := by
      rw [split]
      exact label_pickCanonicalField eligible fun other inside =>
        fits other (subset (split ▸ inside))
    rw [accepted_iff, typed]
    refine ⟨fits field mem, fun same => ?_⟩
    obtain ⟨optional, required⟩ := nullability field mem same
    rw [nullable_pickCanonicalField]
    cases allowed : policy.allowNullableWidening with
    | false =>
      rw [if_neg Bool.false_ne_true]
      exact .inl (required allowed first rfl)
    | true =>
      rw [if_pos rfl]
      cases nullable : field.nullable with
      | false => cases (first :: rest).any (·.nullable) <;> simp [NullabilityFits]
      | true =>
        have some : (first :: rest).any (·.nullable) = true :=
          any_eq_true.mpr (optional allowed nullable)
        exact .inl some.symm
  · intro accepted
    obtain ⟨before, source, after, split, eligible, typed, -⟩ :=
      @exists_source toUppercase policy (first :: rest) (cons_ne_nil _ _)
    have labelled : (pickCanonicalField toUppercase policy (first :: rest)).label toUppercase =
        source.label toUppercase := FieldDescriptor.label_congr typed
    refine ⟨before, source, after, split, eligible, ?_, ?_⟩
    · intro field mem
      rw [← labelled]
      exact (accepted_iff.mp (accepted field mem)).1
    · intro field mem same
      have fits := (accepted_iff.mp (accepted field mem)).2 (same.trans labelled.symm)
      rw [nullable_pickCanonicalField] at fits
      constructor
      · intro allowed nullable
        rw [if_pos allowed, nullable] at fits
        exact any_eq_true.mp (fits.resolve_right fun never => Bool.noConfusion never.2.1).symm
      · rintro forbidden _ ⟨⟩
        rw [if_neg (by simp [forbidden])] at fits
        exact fits.resolve_right fun never => by simp [forbidden] at never

/-- A canonical field that does not differ from the first variant was never changed. -/
lemma stays_of_same
    (same : (pickCanonicalField toUppercase policy (first :: rest)).differs first = false) :
    ∀ variant ∈ rest, ¬ Takes toUppercase policy first variant ∧
      (policy.allowNullableWidening = true → variant.nullable = true → first.nullable = true) := by
  simp only [FieldDescriptor.differs, Bool.or_eq_false_iff, decide_eq_false_iff_not,
    not_not] at same
  obtain ⟨typed, nullable⟩ := same
  rw [nullable_pickCanonicalField] at nullable
  intro variant mem
  constructor
  · intro takes
    -- up to this variant the canonical field is still the first one, so the loop takes it over
    obtain ⟨before, after, split⟩ := append_of_mem mem
    have labelled : first.label toUppercase =
        (pickCanonicalField toUppercase policy (first :: before ++ variant :: after)).label
          toUppercase := by
      rw [cons_append, ← split]
      exact FieldDescriptor.label_congr typed
    have unchanged : (pickCanonicalField toUppercase policy (first :: before)).label toUppercase =
        first.label toUppercase := by
      refine Fits.antisymm ?_ (fits_pickCanonicalField (cons_ne_nil first []) before)
      rw [labelled]
      exact fits_pickCanonicalField (cons_ne_nil first before) _
    have optional : (pickCanonicalField toUppercase policy (first :: before)).nullable =
        first.nullable := by
      rw [nullable_pickCanonicalField]
      split
      · rename_i allowed
        rw [if_pos allowed, split] at nullable
        cases required : first.nullable with
        | true => simp [required]
        | false =>
          rw [required, eq_comm, any_eq_false] at nullable
          rw [any_eq_false]
          intro _ inside
          apply nullable
          rcases mem_cons.mp inside with rfl | later
          · exact mem_cons_self
          · exact mem_cons_of_mem _ (mem_append_left _ later)
      · rfl
    have taken : pickCanonicalField toUppercase policy (first :: before ++ [variant]) = variant := by
      rw [pickCanonicalField_concat (cons_ne_nil _ _)]
      rcases widenField_cases toUppercase policy
          (pickCanonicalField toUppercase policy (first :: before)) variant with ⟨-, taken⟩ | ⟨not, -⟩
      · exact taken
      · refine (not ?_).elim
        rw [Takes, unchanged, optional]
        exact takes
    have later : Fits policy.allowNumericWidening (variant.label toUppercase)
        (first.label toUppercase) := by
      rw [labelled]
      have fits := @fits_pickCanonicalField toUppercase policy (first :: before ++ [variant])
        (by simp) after
      rw [taken] at fits
      simpa using fits
    exact ne_of_widens takes.1.2 (Fits.antisymm (.inr takes.1) later)
  · intro allowed optional
    rw [if_pos allowed] at nullable
    rw [nullable]
    exact any_eq_true.mpr ⟨variant, mem_cons_of_mem _ mem, optional⟩

lemma pickCanonicalField_of_stays
    (stays : ∀ variant ∈ rest, ¬ Takes toUppercase policy first variant ∧
      (policy.allowNullableWidening = true → variant.nullable = true → first.nullable = true)) :
    pickCanonicalField toUppercase policy (first :: rest) = first := by
  induction rest using List.reverseRecOn with
  | nil => rfl
  | append_singleton _ last ih =>
    rw [← cons_append, pickCanonicalField_concat (cons_ne_nil _ _),
      ih fun variant mem => stays variant (mem_append_left _ mem)]
    obtain ⟨narrow, nullable⟩ := stays last (by simp)
    rcases widenField_cases toUppercase policy first last with
      ⟨takes, -⟩ | ⟨-, ⟨allowed, optional, required, -⟩ | ⟨-, unchanged⟩⟩
    · exact (narrow takes).elim
    · rw [nullable allowed optional] at required
      cases required
    · exact unchanged

lemma exposed_iff : Exposed toUppercase policy (first :: rest) ↔ ∃ variant, (first :: rest).find?
        (pickCanonicalField toUppercase policy (first :: rest)).differs = some variant ∧
      ¬ (classifyConversion toUppercase policy variant
        (pickCanonicalField toUppercase policy (first :: rest))).Accepted := by
  have reflexive : first.differs first = false := by simp [FieldDescriptor.differs]
  constructor
  · rintro ⟨_, _, ⟨⟩, stays, before, variant, after, split, same, differs, refused⟩
    rw [pickCanonicalField_of_stays stays]
    refine ⟨variant, ?_, refused⟩
    rw [List.find?_cons_of_neg (by simp [reflexive]), split, List.find?_append,
      List.find?_eq_none.mpr fun earlier mem => by simp [same earlier mem],
      Option.none_or, List.find?_cons_of_pos differs]
  · rintro ⟨variant, found, refused⟩
    have same : (pickCanonicalField toUppercase policy (first :: rest)).differs first = false := by
      by_contra differs
      rw [List.find?_cons_of_pos (by simpa using differs)] at found
      cases found
      exact refused first_accepted
    have stays := stays_of_same same
    rw [pickCanonicalField_of_stays stays] at found refused
    rw [List.find?_cons_of_neg (by simp [reflexive])] at found
    obtain ⟨differs, before, after, split, earlier⟩ := List.find?_eq_some_iff_append.mp found
    exact ⟨first, rest, rfl, stays, before, variant, after, split,
      fun other mem => by simpa using earlier other mem, differs, refused⟩

/-- The resolution of a field is sound exactly if its variants fit a widest one, or if the first
one stays canonical and the first different one is refused. -/
theorem resolvesSoundly_iff (toUppercase : String → String) (policy : SchemaPolicy)
    (views : List FileSchemaView) (name : String) :
    ResolvesSoundly toUppercase policy views name ↔ (Schema.variants views name ≠ [] →
        Covered toUppercase policy (Schema.variants views name) (fieldsNamed views name) ∨
          Exposed toUppercase policy (Schema.variants views name)) := by
  have located : ∀ field, field ∈ fieldsNamed views name ↔
      ∃ view ∈ views, field ∈ view.fields ∧ field.name = name := by
    intro field
    simp [fieldsNamed]
  have subset : Schema.variants views name ⊆ fieldsNamed views name := by
    intro field mem
    exact (located field).mpr (exists_view_of_mem_variants mem)
  constructor
  · intro sound nonempty
    obtain ⟨_, _, listed⟩ := exists_cons_of_ne_nil nonempty
    by_cases conflict : Conflicting (resolveCanonicalSchema toUppercase policy views none) name
    · rw [conflicting_iff, listed] at conflict
      rw [listed]
      exact .inr (exposed_iff.mpr conflict)
    · left
      have accepted := sound conflict _ (mem_canonicalSchema.mpr ⟨name, nonempty, rfl⟩)
        (name_pickCanonicalField nonempty)
      rw [listed] at accepted subset ⊢
      rw [covered_iff subset]
      intro field mem
      obtain ⟨view, inside, listedField, named⟩ := (located field).mp mem
      exact accepted view inside field listedField named
  · rintro condition quiet _ mem named view inside field listedField fieldNamed
    obtain ⟨other, nonempty, rfl⟩ := mem_canonicalSchema.mp mem
    obtain rfl : other = name := (name_pickCanonicalField nonempty).symm.trans named
    obtain ⟨_, _, listed⟩ := exists_cons_of_ne_nil nonempty
    have either := condition nonempty
    rw [conflicting_iff] at quiet
    rw [listed] at either quiet subset ⊢
    rcases either with covered | exposed
    · exact (covered_iff subset).mp covered field
        ((located field).mpr ⟨view, inside, listedField, fieldNamed⟩)
    · exact (quiet (exposed_iff.mp exposed)).elim

end

namespace Reference

/-- Same column with three types. -/
def mixedViews : List FileSchemaView :=
  [⟨"a", [⟨"x", "INT32", false⟩]⟩, ⟨"b", [⟨"x", "INT64", false⟩]⟩, ⟨"c", [⟨"x", "STRING", false⟩]⟩]

/-- The first file is widened to the second, and the text column of the third is never looked
at. -/
theorem text_column_unreported :
    ¬ ResolvesSoundly Str.toAsciiUppercase .standard mixedViews "x" := by
  intro sound
  have quiet : (resolveCanonicalSchema Str.toAsciiUppercase .standard mixedViews none).conflicts =
      [] := by decide +kernel
  have canonical : (⟨"x", "INT64", false⟩ : FieldDescriptor) ∈
      (resolveCanonicalSchema Str.toAsciiUppercase .standard mixedViews
        none).diff.canonicalSchema := by decide +kernel
  have refused : ¬ (classifyConversion Str.toAsciiUppercase .standard ⟨"x", "STRING", false⟩
      ⟨"x", "INT64", false⟩).Accepted := by decide +kernel
  refine refused (sound ?_ _ canonical rfl ⟨"c", [⟨"x", "STRING", false⟩]⟩ (by simp [mixedViews]) _
    (by simp) rfl)
  rintro ⟨_, reported, -⟩
  rw [quiet] at reported
  cases reported

end Reference

/-!
## When a resolution does not depend on file names

Renaming the files permutes the variants of a field. The result is the same for all names exactly
if every field has a widest type with one spelling and a nullability that does not depend on which
file comes first.
-/

/-! ## Renaming -/

/-- Views with other paths. -/
def renamed (rename : String → String) (views : List FileSchemaView) : List FileSchemaView :=
  views.map fun view => { view with path := rename view.path }

section

variable {views : List FileSchemaView} {rename : String → String} {name path : String}
  {field : FieldDescriptor}

lemma mem_filesOf_of_distinct (distinct : (views.map (·.path)).Nodup) :
    (path, field) ∈ filesOf views name ↔
      ∃ view ∈ views, view.path = path ∧ lastField name view.fields = some field := by
  rw [mem_filesOf]
  constructor
  · exact exists_view_of_variantAt
  · rintro ⟨_, mem, rfl, last⟩
    rw [variantAt_of_mem distinct mem, last]

lemma renamed_distinct (distinct : (views.map (·.path)).Nodup)
    (injective : Set.InjOn rename {path | path ∈ views.map (·.path)}) :
    ((renamed rename views).map (·.path)).Nodup := by
  have paths : (renamed rename views).map (·.path) = (views.map (·.path)).map rename := by
    rw [renamed, map_map, map_map]
    rfl
  rw [paths]
  exact distinct.map_on fun left inLeft right inRight => injective inLeft inRight

lemma mem_filesOf_renamed (distinct : (views.map (·.path)).Nodup)
    (injective : Set.InjOn rename {path | path ∈ views.map (·.path)}) :
    (path, field) ∈ filesOf (renamed rename views) name ↔
      ∃ old, (old, field) ∈ filesOf views name ∧ rename old = path := by
  rw [mem_filesOf_of_distinct (renamed_distinct distinct injective)]
  simp only [mem_filesOf_of_distinct distinct, renamed, mem_map]
  constructor
  · rintro ⟨_, ⟨view, mem, rfl⟩, rfl, last⟩
    exact ⟨view.path, ⟨view, mem, rfl, last⟩, rfl⟩
  · rintro ⟨_, ⟨view, mem, rfl, last⟩, rfl⟩
    exact ⟨_, ⟨view, mem, rfl⟩, rfl, last⟩

lemma filesOf_nodup (views : List FileSchemaView) (name : String) : (filesOf views name).Nodup := by
  refine (filesOf_sorted views name).imp ?_
  rintro _ _ before rfl
  exact lt_irrefl _ before

lemma variants_renamed_perm (distinct : (views.map (·.path)).Nodup)
    (injective : Set.InjOn rename {path | path ∈ views.map (·.path)}) :
    (variants (renamed rename views) name).Perm (variants views name) := by
  have listed : ∀ file ∈ filesOf views name, file.1 ∈ views.map (·.path) := by
    rintro ⟨_, _⟩ mem
    obtain ⟨view, inside, same, -⟩ := (mem_filesOf_of_distinct distinct).mp mem
    exact mem_map.mpr ⟨view, inside, same⟩
  have files : (filesOf (renamed rename views) name).Perm
      ((filesOf views name).map (Prod.map rename id)) := by
    apply (perm_ext_iff_of_nodup (filesOf_nodup _ _) ?_).mpr
    · rintro ⟨_, _⟩
      rw [mem_filesOf_renamed distinct injective]
      simp [Prod.map, and_comm]
    · refine (filesOf_nodup views name).map_on ?_
      intro left inLeft right inRight same
      obtain ⟨paths, fields⟩ := Prod.mk.inj same
      exact Prod.ext (injective (listed left inLeft) (listed right inRight) paths) fields
  have fields := files.map Prod.snd
  rwa [map_map] at fields

/-- A renaming that gives one file the least of all names. -/
def nameFirst (path : String) : String → String :=
  fun other => if other = path then "" else "a" ++ other

lemma nameFirst_injective (path : String) : Function.Injective (nameFirst path) := by
  have longer : ∀ other : String, "a" ++ other ≠ "" := by
    intro _ empty
    have lengths := congrArg String.length empty
    simp at lengths
  intro left right same
  simp only [nameFirst] at same
  split at same <;> split at same
  · rename_i first second
    rw [first, second]
  · exact (longer right same.symm).elim
  · exact (longer left same).elim
  · simpa using same

lemma exists_renaming_first (distinct : (views.map (·.path)).Nodup)
    (mem : field ∈ variants views name) :
    ∃ rename, Function.Injective rename ∧
      ∃ rest, variants (renamed rename views) name = field :: rest := by
  obtain ⟨⟨path, _⟩, inside, rfl⟩ := mem_map.mp mem
  have injective := nameFirst_injective path
  refine ⟨nameFirst path, injective, ?_⟩
  have moved := (mem_filesOf_renamed distinct injective.injOn).mpr ⟨path, inside, rfl⟩
  rw [show nameFirst path path = "" from if_pos rfl] at moved
  have sorted := filesOf_sorted (renamed (nameFirst path) views) name
  rw [variants]
  cases files : filesOf (renamed (nameFirst path) views) name with
  | nil =>
    rw [files] at moved
    cases moved
  | cons =>
    rw [files] at moved sorted
    rcases mem_cons.mp moved with rfl | later
    · exact ⟨_, rfl⟩
    · have before := (pairwise_cons.mp sorted).1 _ later
      rw [String.lt_iff_toList_lt] at before
      simp at before

end

/-! ## Independence of the order -/

/-- Every type can be widened to that of the variant. -/
def Widest (toUppercase : String → String) (policy : SchemaPolicy)
    (variants : List FieldDescriptor) (variant : FieldDescriptor) : Prop :=
  ∀ other ∈ variants, Fits policy.allowNumericWidening (other.label toUppercase)
    (variant.label toUppercase)

/-- The variants of a field resolve in the same way in every order. -/
structure OrderFree (toUppercase : String → String) (policy : SchemaPolicy)
    (variants : List FieldDescriptor) : Prop where
  /-- One of them is the widest. -/
  widest : variants ≠ [] → ∃ variant ∈ variants, Widest toUppercase policy variants variant
  /-- The widest type has one spelling. -/
  text : ∀ left ∈ variants, ∀ right ∈ variants, Widest toUppercase policy variants left →
    Widest toUppercase policy variants right → left.physicalType = right.physicalType
  /-- Under nullable widening, an optional variant is matched by one of the widest type. -/
  optional : policy.allowNullableWidening = true → (∃ variant ∈ variants, variant.nullable = true) →
    ∃ variant ∈ variants, Widest toUppercase policy variants variant ∧ variant.nullable = true
  /-- Without it, all variants have one nullability. -/
  required : policy.allowNullableWidening = false →
    ∀ left ∈ variants, ∀ right ∈ variants, left.nullable = right.nullable

section

variable {toUppercase : String → String} {policy : SchemaPolicy}
  {variants others : List FieldDescriptor} {first : FieldDescriptor} {variant : FieldDescriptor}

lemma widest_perm (same : variants.Perm others) :
    Widest toUppercase policy variants variant ↔ Widest toUppercase policy others variant :=
  ⟨fun widest other mem => widest other (same.mem_iff.mpr mem),
    fun widest other mem => widest other (same.mem_iff.mp mem)⟩

lemma OrderFree.perm (free : OrderFree toUppercase policy variants)
    (same : variants.Perm others) : OrderFree toUppercase policy others := by
  constructor
  · intro nonempty
    obtain ⟨variant, mem, widest⟩ := free.widest fun empty =>
      nonempty (perm_nil.mp (empty ▸ same.symm))
    exact ⟨variant, same.mem_iff.mp mem, (widest_perm same).mp widest⟩
  · intro left inLeft right inRight widestLeft widestRight
    exact free.text left (same.mem_iff.mpr inLeft) right (same.mem_iff.mpr inRight)
      ((widest_perm same).mpr widestLeft) ((widest_perm same).mpr widestRight)
  · rintro allowed ⟨variant, mem, nullable⟩
    obtain ⟨widest, inside, isWidest, optional⟩ :=
      free.optional allowed ⟨variant, same.mem_iff.mpr mem, nullable⟩
    exact ⟨widest, same.mem_iff.mp inside, (widest_perm same).mp isWidest, optional⟩
  · intro forbidden left inLeft right inRight
    exact free.required forbidden left (same.mem_iff.mpr inLeft) right (same.mem_iff.mpr inRight)

/-- Copies of one field resolve in the same way in every order. -/
lemma orderFree_of_const {field : FieldDescriptor} (const : ∀ variant ∈ variants, variant = field) :
    OrderFree toUppercase policy variants := by
  have widest : ∀ variant ∈ variants, Widest toUppercase policy variants variant := by
    intro variant mem other inside
    rw [const variant mem, const other inside]
    exact .refl _ _
  constructor
  · intro nonempty
    obtain ⟨variant, mem⟩ := exists_mem_of_ne_nil variants nonempty
    exact ⟨variant, mem, widest variant mem⟩
  · intro left inLeft right inRight _ _
    rw [const left inLeft, const right inRight]
  · rintro - ⟨variant, mem, optional⟩
    exact ⟨variant, mem, widest variant mem, optional⟩
  · intro _ left inLeft right inRight
    rw [const left inLeft, const right inRight]

section

variable (free : OrderFree toUppercase policy variants)
include free

/-- Some widest variant is eligible, whatever the order. -/
lemma OrderFree.exists_eligible (nonempty : variants ≠ []) :
    ∃ before widest after, variants = before ++ widest :: after ∧ Eligible policy before widest ∧
      Widest toUppercase policy variants widest := by
  have located : ∀ widest ∈ variants, Widest toUppercase policy variants widest →
      (policy.allowNullableWidening = true → widest.nullable = true ∨
        ∀ variant ∈ variants, variant.nullable = false) →
      ∃ before widest after, variants = before ++ widest :: after ∧
        Eligible policy before widest ∧ Widest toUppercase policy variants widest := by
    intro widest mem isWidest optional
    obtain ⟨before, after, split⟩ := append_of_mem mem
    refine ⟨before, widest, after, split, ⟨?_, ?_⟩, isWidest⟩
    · intro allowed
      refine (optional allowed).imp_right fun none earlier inside => none earlier ?_
      rw [split]
      exact mem_append_left _ inside
    · intro forbidden head found
      refine free.required forbidden widest mem head ?_
      rw [split]
      exact mem_append_left _ (List.mem_of_mem_head? found)
  by_cases nullable : ∃ variant ∈ variants, variant.nullable = true
  · cases allowed : policy.allowNullableWidening with
    | false =>
      obtain ⟨widest, mem, isWidest⟩ := free.widest nonempty
      exact located widest mem isWidest fun forbidden => by simp [allowed] at forbidden
    | true =>
      obtain ⟨widest, mem, isWidest, optional⟩ := free.optional allowed nullable
      exact located widest mem isWidest fun _ => .inl optional
  · obtain ⟨widest, mem, isWidest⟩ := free.widest nonempty
    refine located widest mem isWidest fun _ => .inr fun variant inside => ?_
    exact Bool.eq_false_iff.mpr fun optional => nullable ⟨variant, inside, optional⟩

lemma OrderFree.covered
    (nonempty : variants ≠ []) : Covered toUppercase policy variants variants := by
  obtain ⟨before, widest, after, split, eligible, isWidest⟩ := free.exists_eligible nonempty
  refine ⟨before, widest, after, split, eligible, isWidest, fun field mem _ => ⟨?_, ?_⟩⟩
  · intro _ optional
    exact ⟨field, mem, optional⟩
  · intro forbidden head found
    exact free.required forbidden field mem head (List.mem_of_mem_head? found)

/-- The canonical type is spelled like the widest variant. -/
lemma OrderFree.physicalType
    (mem : variant ∈ variants) (isWidest : Widest toUppercase policy variants variant) :
    (pickCanonicalField toUppercase policy variants).physicalType = variant.physicalType := by
  have nonempty := ne_nil_of_mem mem
  obtain ⟨_, widest, _, split, eligible, eligibleWidest⟩ := free.exists_eligible nonempty
  obtain ⟨_, source, _, sourceSplit, -, typed, -⟩ :=
    @exists_source toUppercase policy _ nonempty
  have labelled : source.label toUppercase = widest.label toUppercase := by
    have reached : (pickCanonicalField toUppercase policy variants).label toUppercase =
        widest.label toUppercase := by
      rw [split] at eligibleWidest ⊢
      exact label_pickCanonicalField eligible eligibleWidest
    rw [← reached]
    exact FieldDescriptor.label_congr typed.symm
  rw [typed]
  refine free.text source (by rw [sourceSplit]; simp) variant mem ?_ isWidest
  intro other inside
  rw [labelled]
  exact eligibleWidest other inside

lemma OrderFree.nullable (same : variants.Perm others) :
    (pickCanonicalField toUppercase policy variants).nullable =
      (pickCanonicalField toUppercase policy others).nullable := by
  cases variants with
  | nil => rw [nil_perm.mp same]
  | cons left =>
    cases others with
    | nil => exact (cons_ne_nil _ _ (perm_nil.mp same)).elim
    | cons right =>
      rw [nullable_pickCanonicalField, nullable_pickCanonicalField]
      cases allowed : policy.allowNullableWidening with
      | true =>
        rw [if_pos rfl, if_pos rfl]
        exact same.any_eq
      | false =>
        exact free.required allowed left mem_cons_self right (same.mem_iff.mpr mem_cons_self)

end

/-- A widest variant that comes first gives its spelling to the canonical field. -/
lemma physicalType_of_widest_first {rest : List FieldDescriptor}
    (widest : ∀ variant ∈ rest, Fits policy.allowNumericWidening (variant.label toUppercase)
      (first.label toUppercase)) :
    (pickCanonicalField toUppercase policy (first :: rest)).physicalType = first.physicalType := by
  induction rest using List.reverseRecOn with
  | nil => rfl
  | append_singleton rest last ih =>
    have typed := ih fun variant mem => widest variant (mem_append_left _ mem)
    rw [← cons_append, pickCanonicalField_concat (cons_ne_nil _ _)]
    rcases widenField_cases toUppercase policy
        (pickCanonicalField toUppercase policy (first :: rest)) last with
      ⟨takes, -⟩ | ⟨-, ⟨-, -, -, made⟩ | ⟨-, unchanged⟩⟩
    · have labelled : (pickCanonicalField toUppercase policy (first :: rest)).label toUppercase =
          first.label toUppercase := FieldDescriptor.label_congr typed
      have wider := takes.1
      rw [labelled] at wider
      exact (ne_of_widens wider.2 (Fits.antisymm (.inr wider) (widest last (by simp)))).elim
    · rw [made]
      exact typed
    · rw [unchanged]
      exact typed

end

/-! ## Independence of the names -/

/-- The same canonical type and nullability for every field, and the same conflicting fields. -/
def SameResolution (left right : SchemaResolution) : Prop :=
  (∀ field, field ∈ left.diff.canonicalSchema ↔ field ∈ right.diff.canonicalSchema) ∧
    ∀ name, Conflicting left name ↔ Conflicting right name

section

variable (toUppercase : String → String) (policy : SchemaPolicy) (views : List FileSchemaView)

/-- No renaming of the files to distinct paths changes the resolution. -/
def NameIndependent : Prop :=
  ∀ rename : String → String, Set.InjOn rename {path | path ∈ views.map (·.path)} →
    SameResolution (resolveCanonicalSchema toUppercase policy views none)
      (resolveCanonicalSchema toUppercase policy (renamed rename views) none)

variable {toUppercase policy views} {name : String}

lemma not_conflicting_of_orderFree (free : OrderFree toUppercase policy (variants views name)) :
    ¬ Conflicting (resolveCanonicalSchema toUppercase policy views none) name := by
  rw [conflicting_iff]
  rintro ⟨variant, found, refused⟩
  have mem := List.mem_of_find?_eq_some found
  have nonempty := ne_nil_of_mem mem
  have covered := free.covered nonempty
  obtain ⟨_, _, listed⟩ := exists_cons_of_ne_nil nonempty
  rw [listed] at covered mem refused
  exact refused ((covered_iff (List.Subset.refl _)).mp covered variant mem)

lemma pick_eq_of_same {others : List FileSchemaView}
    (same : SameResolution (resolveCanonicalSchema toUppercase policy views none)
      (resolveCanonicalSchema toUppercase policy others none))
    (nonempty : variants views name ≠ []) :
    pickCanonicalField toUppercase policy (variants views name) =
      pickCanonicalField toUppercase policy (variants others name) := by
  obtain ⟨other, there, equal⟩ := mem_canonicalSchema.mp
    ((same.1 _).mp (mem_canonicalSchema.mpr ⟨name, nonempty, rfl⟩))
  have named := @name_pickCanonicalField toUppercase policy others other there
  rw [equal, name_pickCanonicalField nonempty] at named
  rw [← equal, named]

/-- Variants that resolve in the same way in every order give the same field after a renaming. -/
lemma pick_renamed {rename : String → String}
    (free : OrderFree toUppercase policy (variants views name))
    (same : (variants (renamed rename views) name).Perm (variants views name))
    (nonempty : variants views name ≠ []) :
    pickCanonicalField toUppercase policy (variants (renamed rename views) name) =
      pickCanonicalField toUppercase policy (variants views name) := by
  obtain ⟨widest, mem, isWidest⟩ := free.widest nonempty
  have there : variants (renamed rename views) name ≠ [] :=
    ne_nil_of_mem (same.mem_iff.mpr mem)
  have typed := (free.perm same.symm).physicalType (same.mem_iff.mpr mem)
    ((widest_perm same.symm).mp isWidest)
  rw [← free.physicalType mem isWidest] at typed
  have nullable := free.nullable same.symm
  have named := (@name_pickCanonicalField toUppercase policy _ _ there).trans
    (@name_pickCanonicalField toUppercase policy _ _ nonempty).symm
  cases left : pickCanonicalField toUppercase policy (variants (renamed rename views) name)
  cases right : pickCanonicalField toUppercase policy (variants views name)
  rw [left, right] at typed nullable named
  simp only [FieldDescriptor.mk.injEq]
  exact ⟨named, typed, nullable.symm⟩

lemma nameIndependent_of_orderFree (distinct : (views.map (·.path)).Nodup)
    (free : ∀ name, OrderFree toUppercase policy (variants views name)) :
    NameIndependent toUppercase policy views := by
  intro rename injective
  have same : ∀ name, (variants (renamed rename views) name).Perm (variants views name) :=
    fun name => variants_renamed_perm distinct injective
  constructor
  · intro _
    simp only [resolveCanonicalSchema, mem_canonicalSchema]
    refine exists_congr fun name => ?_
    by_cases nonempty : variants views name = []
    · have empty : variants (renamed rename views) name = [] :=
        perm_nil.mp (nonempty ▸ same name)
      simp [nonempty, empty]
    · have there : variants (renamed rename views) name ≠ [] := fun empty =>
        nonempty (nil_perm.mp (empty ▸ same name))
      rw [pick_renamed (free name) (same name) nonempty]
      simp [nonempty, there]
  · intro name
    exact iff_of_false (not_conflicting_of_orderFree (free name))
      (not_conflicting_of_orderFree ((free name).perm (same name).symm))

lemma orderFree_of_nameIndependent (distinct : (views.map (·.path)).Nodup)
    (independent : NameIndependent toUppercase policy views) (name : String) :
    OrderFree toUppercase policy (variants views name) := by
  -- any variant can be made the first one without a change of the canonical field
  have bring : ∀ variant ∈ variants views name, ∃ rest,
      pickCanonicalField toUppercase policy (variants views name) =
        pickCanonicalField toUppercase policy (variant :: rest) ∧
      (variant :: rest).Perm (variants views name) := by
    intro variant mem
    obtain ⟨rename, injective, rest, first⟩ := exists_renaming_first distinct mem
    refine ⟨rest, ?_, ?_⟩
    · rw [← first]
      exact pick_eq_of_same (independent rename injective.injOn) (ne_nil_of_mem mem)
    · rw [← first]
      exact variants_renamed_perm distinct injective.injOn
  have fits : ∀ variant ∈ variants views name, Fits policy.allowNumericWidening
      (variant.label toUppercase)
      ((pickCanonicalField toUppercase policy (variants views name)).label toUppercase) := by
    intro variant mem
    obtain ⟨rest, same, -⟩ := bring variant mem
    rw [same]
    exact (accepted_iff.mp first_accepted).1
  constructor
  · intro nonempty
    obtain ⟨before, source, _, split, -, typed, -⟩ :=
      @exists_source toUppercase policy _ nonempty
    refine ⟨source, by rw [split]; simp, fun variant mem => ?_⟩
    rw [← @FieldDescriptor.label_congr toUppercase _ _ typed]
    exact fits variant mem
  · have spelled : ∀ variant ∈ variants views name,
        Widest toUppercase policy (variants views name) variant →
        (pickCanonicalField toUppercase policy (variants views name)).physicalType =
          variant.physicalType := by
      intro variant mem widest
      obtain ⟨rest, same, perm⟩ := bring variant mem
      rw [same]
      exact physicalType_of_widest_first fun other inside =>
        widest other (perm.mem_iff.mp (mem_cons_of_mem _ inside))
    intro left inLeft right inRight widestLeft widestRight
    rw [← spelled left inLeft widestLeft, spelled right inRight widestRight]
  · rintro allowed ⟨variant, mem, optional⟩
    obtain ⟨rest, same, perm⟩ := bring variant mem
    obtain ⟨before, source, _, split, eligible, typed, -⟩ :=
      @exists_source toUppercase policy (variant :: rest) (cons_ne_nil _ _)
    refine ⟨source, perm.mem_iff.mp (by rw [split]; simp), ?_, ?_⟩
    · intro other inside
      rw [← @FieldDescriptor.label_congr toUppercase _ _ typed, ← same]
      exact fits other inside
    · cases before with
      | nil =>
        cases split
        exact optional
      | cons =>
        cases split
        refine (eligible.1 allowed).resolve_right fun none => ?_
        rw [none _ mem_cons_self] at optional
        cases optional
  · intro forbidden left inLeft right inRight
    have first : ∀ variant ∈ variants views name,
        (pickCanonicalField toUppercase policy (variants views name)).nullable =
          variant.nullable := by
      intro variant mem
      obtain ⟨_, same, -⟩ := bring variant mem
      rw [same, nullable_pickCanonicalField, if_neg (by simp [forbidden])]
    rw [← first left inLeft, first right inRight]

end

namespace Reference

/-- A column that is a number in one file and a text in the other. -/
def clashingViews : List FileSchemaView :=
  [⟨"a", [⟨"x", "INT32", false⟩]⟩, ⟨"b", [⟨"x", "STRING", false⟩]⟩]

end Reference

end Parqonaut.Schema
