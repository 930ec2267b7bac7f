import Mathlib.Data.List.Nodup

/-!
# Tables with a primary key

A table is the list of its rows in the order of insertion, with distinct keys. A guarded update
keeps the keys. `All` carries what holds of every row through a sequence of statements, `Tracks`
what a row may become.
-/

namespace Parqonaut.Sql

open List

/-- Rows of a table whose primary key is `key`. -/
structure Table {Row Key : Type} (key : Row → Key) where
  rows : List Row
  distinct : (rows.map key).Nodup

/-- The `SET` part of an update. No statement assigns the primary key. -/
structure Assignment {Row Key : Type} (key : Row → Key) where
  set : Row → Row
  keepsKey : ∀ row, key (set row) = key row

namespace Table

variable {Row Key : Type} {key : Row → Key}

/-- A table without rows. -/
def empty : Table key := ⟨[], nodup_nil⟩

/-- `UPDATE … SET … WHERE guard`. -/
def update (table : Table key) (guard : Row → Bool) (assignment : Assignment key) : Table key where
  rows := table.rows.map fun row => if guard row then assignment.set row else row
  distinct := by
    have keys : (table.rows.map fun row => if guard row then assignment.set row else row).map key
        = table.rows.map key := by
      rw [map_map]
      apply map_congr_left
      intro row _
      rw [Function.comp_apply]
      split
      · exact assignment.keepsKey row
      · rfl
    rw [keys]
    exact table.distinct

/-- Number of rows an update touches. -/
def affected (table : Table key) (guard : Row → Bool) : Nat :=
  table.rows.countP guard

section

variable [DecidableEq Key]

/-- Row with a given key. -/
def find (table : Table key) (wanted : Key) : Option Row :=
  table.rows.find? fun row => key row = wanted

/-- `INSERT`. A key that is already there violates the primary key. -/
def insert (table : Table key) (row : Row) : Option (Table key) :=
  if free : key row ∈ table.rows.map key then none
  else some {
    rows := table.rows ++ [row]
    distinct := by
      rw [map_append, map_singleton]
      exact nodup_append.mpr ⟨table.distinct, nodup_singleton _, by
        intro taken mem fresh same equal
        rw [mem_singleton.mp same] at equal
        exact free (equal ▸ mem)⟩ }

/-- Assignment of an upsert: the row with the same key is replaced. -/
def replacing (row : Row) : Assignment key where
  set old := if key old = key row then row else old
  keepsKey old := by
    split
    · exact Eq.symm ‹_›
    · rfl

/-- `INSERT … ON CONFLICT DO UPDATE` of every column. -/
def upsert (table : Table key) (row : Row) : Table key :=
  match table.insert row with
  | some next => next
  | none => table.update (fun _ => true) (replacing row)

end

variable {table next : Table key} {row other : Row} {guard : Row → Bool}
  {assignment : Assignment key}

/-! ## Rows -/

lemma eq_of_key (mem : row ∈ table.rows) (also : other ∈ table.rows)
    (same : key row = key other) : row = other :=
  inj_on_of_nodup_map table.distinct mem also same

lemma mem_update : row ∈ (table.update guard assignment).rows ↔
    ∃ old ∈ table.rows, (if guard old then assignment.set old else old) = row :=
  mem_map

variable {wanted : Key}

lemma find_eq_some [DecidableEq Key] :
    table.find wanted = some row ↔ row ∈ table.rows ∧ key row = wanted := by
  constructor
  · intro found
    exact ⟨List.mem_of_find?_eq_some found, by simpa using List.find?_some found⟩
  · rintro ⟨mem, same⟩
    have isSome : (table.find wanted).isSome :=
      List.find?_isSome.mpr ⟨row, mem, by simpa using same⟩
    obtain ⟨found, isFound⟩ := Option.isSome_iff_exists.mp isSome
    have foundKey : key found = wanted := by simpa using List.find?_some isFound
    have equal : found = row :=
      eq_of_key (List.mem_of_find?_eq_some isFound) mem (foundKey.trans same.symm)
    rw [isFound, equal]

lemma mem_insert [DecidableEq Key] (inserts : table.insert row = some next) :
    other ∈ next.rows ↔ other ∈ table.rows ∨ other = row := by
  unfold insert at inserts
  split at inserts
  · cases inserts
  · cases inserts
    rw [mem_append, mem_singleton]

lemma mem_upsert [DecidableEq Key] : other ∈ (table.upsert row).rows ↔
      other = row ∨ other ∈ table.rows ∧ key other ≠ key row := by
  unfold upsert
  cases inserts : table.insert row with
  | some =>
    have fresh : key row ∉ table.rows.map key := by
      intro taken
      rw [insert, dif_pos taken] at inserts
      cases inserts
    simp only [mem_insert inserts]
    constructor
    · rintro (old | rfl)
      · exact .inr ⟨old, fun same => fresh (same ▸ mem_map_of_mem old)⟩
      · exact .inl rfl
    · rintro (rfl | ⟨old, -⟩)
      · exact .inr rfl
      · exact .inl old
  | none =>
    have taken : key row ∈ table.rows.map key := by
      by_contra fresh
      rw [insert, dif_neg fresh] at inserts
      cases inserts
    obtain ⟨present, mem, same⟩ := mem_map.mp taken
    simp only [mem_update, if_true, replacing]
    constructor
    · rintro ⟨old, wasMember, rfl⟩
      split
      · exact .inl rfl
      · exact .inr ⟨wasMember, ‹_›⟩
    · rintro (rfl | ⟨old, different⟩)
      · exact ⟨present, mem, if_pos same⟩
      · exact ⟨other, old, if_neg different⟩

lemma find_upsert_self [DecidableEq Key] : (table.upsert row).find (key row) = some row :=
  find_eq_some.mpr ⟨mem_upsert.mpr (.inl rfl), rfl⟩

lemma find_upsert_of_ne [DecidableEq Key] (different : wanted ≠ key row) :
    (table.upsert row).find wanted = table.find wanted := by
  apply Option.ext
  intro _
  rw [find_eq_some, find_eq_some, mem_upsert]
  constructor
  · rintro ⟨rfl | ⟨old, -⟩, same⟩
    · exact absurd same.symm different
    · exact ⟨old, same⟩
  · rintro ⟨old, same⟩
    exact ⟨.inr ⟨old, fun equal => different (same.symm.trans equal)⟩, same⟩

/-! ## Every row -/

/-- Every row of the table satisfies `property`. -/
def All (property : Row → Prop) (table : Table key) : Prop :=
  ∀ row ∈ table.rows, property row

variable {property : Row → Prop}

lemma all_empty : (empty : Table key).All property :=
  fun _ mem => absurd mem not_mem_nil

lemma All.update (holds : table.All property)
    (assigned : ∀ row ∈ table.rows, property row → guard row = true →
      property (assignment.set row)) :
    (table.update guard assignment).All property := by
  intro _ mem
  obtain ⟨old, present, rfl⟩ := mem_update.mp mem
  split
  · exact assigned old present (holds old present) ‹_›
  · exact holds old present

lemma All.insert [DecidableEq Key] (holds : table.All property)
    (inserts : table.insert row = some next) (fresh : property row) : next.All property := by
  intro other mem
  rcases (mem_insert inserts).mp mem with old | rfl
  · exact holds other old
  · exact fresh

/-! ## What a row becomes -/

/-- Every row is still there under its key, and has become a row that `relation` allows. -/
def Tracks (relation : Row → Row → Prop) (before after : Table key) : Prop :=
  ∀ row ∈ before.rows, ∃ later ∈ after.rows, key later = key row ∧ relation row later

variable {relation : Row → Row → Prop} {middle : Table key}

lemma Tracks.refl (reflexive : ∀ row, relation row row) : Tracks relation table table :=
  fun row mem => ⟨row, mem, rfl, reflexive row⟩

lemma Tracks.trans (transitive : ∀ {first second third}, relation first second →
      relation second third → relation first third)
    (first : Tracks relation table middle) (second : Tracks relation middle next) :
    Tracks relation table next := by
  intro row mem
  obtain ⟨mid, present, sameKey, related⟩ := first row mem
  obtain ⟨later, last, laterKey, onward⟩ := second mid present
  exact ⟨later, last, laterKey.trans sameKey, transitive related onward⟩

lemma Tracks.update (reflexive : ∀ row, relation row row)
    (assigned : ∀ row ∈ table.rows, guard row = true → relation row (assignment.set row)) :
    Tracks relation table (table.update guard assignment) := by
  intro row mem
  refine ⟨_, mem_update.mpr ⟨row, mem, rfl⟩, ?_⟩
  split
  · exact ⟨assignment.keepsKey row, assigned row mem ‹_›⟩
  · exact ⟨rfl, reflexive row⟩

lemma Tracks.insert [DecidableEq Key] (reflexive : ∀ row, relation row row)
    (inserts : table.insert row = some next) : Tracks relation table next :=
  fun old mem => ⟨old, (mem_insert inserts).mpr (.inl mem), rfl, reflexive old⟩

end Table

end Parqonaut.Sql
