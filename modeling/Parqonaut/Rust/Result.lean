import Mathlib.Data.List.Forall2

/-!
# Results

How a computation that returns a `Result` is taken apart when it succeeds.
-/

namespace Parqonaut.Rust.Result

open List

variable {ε ε' α β : Type} {first : Except ε α} {next : α → Except ε β} {result : β}

lemma bind_eq_ok :
    (first >>= next) = .ok result ↔ ∃ value, first = .ok value ∧ next value = .ok result := by
  cases first with
  | error | ok => simp [bind, Except.bind]

variable {value : α}

lemma pure_eq_ok {result : α} : (pure value : Except ε α) = .ok result ↔ value = result :=
  Except.ok.injEq value result ▸ Iff.rfl

variable {convert : α → β}

lemma map_eq_ok :
    first.map convert = .ok result ↔ ∃ value, first = .ok value ∧ convert value = result := by
  cases first with
  | error | ok => simp [Except.map]

lemma mapError_eq_ok {convert : ε → ε'} {result : α} :
    first.mapError convert = .ok result ↔ first = .ok result := by
  cases first with
  | error | ok => simp [Except.mapError]

variable {error : ε}

/-- A check in front of the rest of a computation. -/
lemma check_eq_ok {failed : Prop} [Decidable failed] {next : Unit → Except ε β} :
    (if failed then throw error >>= next else next ()) = .ok result ↔
      ¬ failed ∧ next () = .ok result := by
  by_cases fails : failed
  · simp [fails, bind, Except.bind, throw, throwThe, MonadExceptOf.throw]
  · simp [fails]

variable {f : α → Except ε β} {list : List α} {results : List β}

lemma mapM_eq_ok :
    list.mapM f = .ok results ↔ List.Forall₂ (fun value result => f value = .ok result)
      list results := by
  induction list generalizing results with
  | nil =>
    rw [mapM_nil, pure_eq_ok, forall₂_nil_left_iff, eq_comm]
  | cons _ _ ih =>
    rw [mapM_cons, bind_eq_ok, forall₂_cons_left_iff]
    constructor
    · intro ⟨first, isFirst, continues⟩
      obtain ⟨others, isRest, made⟩ := bind_eq_ok.mp continues
      exact ⟨first, others, isFirst, ih.mp isRest, (pure_eq_ok.mp made).symm⟩
    · intro ⟨first, others, isFirst, isRest, made⟩
      exact ⟨first, isFirst, bind_eq_ok.mpr ⟨others, ih.mpr isRest, pure_eq_ok.mpr made.symm⟩⟩

lemma mem_iff_of_mapM (maps : list.mapM f = .ok results) :
    result ∈ results ↔ ∃ value ∈ list, f value = .ok result := by
  have pairs := mapM_eq_ok.mp maps
  clear maps
  induction pairs with
  | nil => simp
  | @cons _ converted _ _ here _ ih =>
    simp [ih, here, @eq_comm _ converted]

lemma mapM_append {others : List α} :
    (list ++ others).mapM f = .ok results ↔ ∃ first second, list.mapM f = .ok first ∧
      others.mapM f = .ok second ∧ results = first ++ second := by
  rw [List.mapM_append, bind_eq_ok]
  constructor
  · intro ⟨first, here, continues⟩
    obtain ⟨second, there, whole⟩ := bind_eq_ok.mp continues
    exact ⟨first, second, here, there, (pure_eq_ok.mp whole).symm⟩
  · intro ⟨first, second, here, there, whole⟩
    exact ⟨first, here, bind_eq_ok.mpr ⟨second, there, pure_eq_ok.mpr whole.symm⟩⟩

lemma forM_eq_ok {f : α → Except ε Unit} {result : Unit} :
    list.forM f = .ok result ↔ ∀ value ∈ list, f value = .ok () := by
  induction list with
  | nil =>
    constructor
    · intro _ _ mem
      cases mem
    · intro _
      rfl
  | cons _ _ ih =>
    rw [List.forM, bind_eq_ok, forall_mem_cons, ← ih]
    constructor
    · intro ⟨_, here, later⟩
      exact ⟨here, later⟩
    · intro ⟨here, later⟩
      exact ⟨(), here, later⟩

lemma toOption_eq_some {result : Except ε α} :
    result.toOption = some value ↔ result = .ok value := by
  cases result with
  | error | ok => simp [Except.toOption]

/-- Lists whose elements have the same results have the same results. -/
lemma toOption_mapM {γ : Type} {f : α → Except ε γ} {g : β → Except ε' γ} {others : List β}
    (same : List.Forall₂ (fun value other => (f value).toOption = (g other).toOption) list others) :
    (list.mapM f).toOption = (others.mapM g).toOption := by
  ext results
  rw [toOption_eq_some, toOption_eq_some, mapM_eq_ok, mapM_eq_ok]
  induction same generalizing results with
  | nil => rw [forall₂_nil_left_iff, forall₂_nil_left_iff]
  | @cons value other _ _ here _ ih =>
    have heads (result : γ) : f value = .ok result ↔ g other = .ok result := by
      rw [← toOption_eq_some, here, toOption_eq_some]
    simp only [forall₂_cons_left_iff, ih, heads]

/-! ## Errors -/

/-- Every error that the computation can end with is among the given ones. -/
def Fails (errors : ε → Prop) (result : Except ε α) : Prop :=
  ∀ error, result = .error error → errors error

variable {errors : ε → Prop}

lemma fails_ok : Fails errors (.ok value) := by
  intro _ never
  cases never

lemma fails_error (among : errors error) : Fails errors (.error error : Except ε α) := by
  intro _ same
  cases same
  exact among

lemma fails_bind (here : Fails errors first)
    (later : ∀ value, Fails errors (next value)) : Fails errors (first >>= next) := by
  cases first with
  | error error => exact fails_error (here error rfl)
  | ok value => exact later value

lemma fails_map (here : Fails errors first) : Fails errors (first.map convert) := by
  cases first with
  | error error => exact fails_error (here error rfl)
  | ok => exact fails_ok

lemma fails_mapError {first : Except ε' α} {convert : ε' → ε}
    (among : ∀ error, errors (convert error)) : Fails errors (first.mapError convert) := by
  cases first with
  | error error => exact fails_error (among error)
  | ok => exact fails_ok

lemma fails_ite {condition : Prop} [Decidable condition] {second : Except ε α}
    (here : Fails errors first) (there : Fails errors second) :
    Fails errors (if condition then first else second) := by
  split
  · exact here
  · exact there

lemma fails_mapM (each : ∀ value, Fails errors (f value)) : Fails errors (list.mapM f) := by
  induction list with
  | nil => exact fails_ok
  | cons value _ ih =>
    rw [mapM_cons]
    exact fails_bind (each value) fun _ => fails_bind ih fun _ => fails_ok

lemma fails_foldlM {f : β → α → Except ε β} {start : β}
    (each : ∀ state value, Fails errors (f state value)) :
    Fails errors (list.foldlM f start) := by
  induction list generalizing start with
  | nil => exact fails_ok
  | cons value _ ih =>
    rw [foldlM_cons]
    exact fails_bind (each start value) fun _ => ih

end Parqonaut.Rust.Result
