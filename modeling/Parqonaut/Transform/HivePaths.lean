import Parqonaut.Transform.FusedExecute

/-!
# Paths of partitions

In an encoded value every separator is preceded by a backslash. So the directory of a part either
has a name with an equals sign, or ends below a name that ends with a backslash.
-/

namespace Parqonaut.Transform

open Arrow Repair Rust Storage List Str
open String (toList_append toList_ofList empty_append)

/-! ## Guarded separators -/

/-- Every separator comes after a backslash. The first character comes after `previous`. -/
def guardedFrom (previous : Option Char) : List Char → Bool
  | [] => true
  | c :: rest => (c ≠ '/' || previous = some '\\') && guardedFrom (some c) rest

/-- Every separator comes after a backslash of the text. -/
def Guarded (chars : List Char) : Prop := ∀ previous, guardedFrom previous chars = true

variable {left right : List Char}

lemma guardedFrom_append {previous : Option Char} : guardedFrom previous (left ++ right) =
      (guardedFrom previous left && guardedFrom (left.getLast?.or previous) right) := by
  induction left generalizing previous with
  | nil => rfl
  | cons c rest ih =>
    rw [cons_append, guardedFrom, guardedFrom, ih, Bool.and_assoc]
    cases rest <;> rfl

lemma Guarded.append (first : Guarded left) (second : Guarded right) : Guarded (left ++ right) := by
  intro _
  rw [guardedFrom_append, first, second]
  rfl

variable {chars : List Char}

lemma guarded_of_free (free : '/' ∉ chars) : Guarded chars := by
  induction chars with
  | nil => exact fun _ => rfl
  | cons _ _ ih =>
    rw [mem_cons, not_or] at free
    obtain ⟨here, later⟩ := free
    intro _
    rw [guardedFrom, ih later]
    simp [Ne.symm here]

lemma Guarded.flatMap {convert : Char → List Char}
    (each : ∀ c, Guarded (convert c)) : Guarded (chars.flatMap convert) := by
  induction chars with
  | nil => exact fun _ => rfl
  | cons c _ ih =>
    rw [flatMap_cons]
    exact (each c).append ih

variable {after : List Char}

/-- A separator of a guarded text comes after a backslash. -/
lemma Guarded.before {before : List Char} (guarded : Guarded (before ++ '/' :: after)) :
    before.getLast? = some '\\' := by
  have whole := guarded none
  rw [guardedFrom_append, Bool.and_eq_true, guardedFrom, Bool.and_eq_true] at whole
  simpa using whole.2.1

variable {c : Char}

/-- The parts of a guarded text on both sides of another character are guarded. -/
lemma Guarded.sides {before : List Char} (other : c ≠ '\\')
    (guarded : Guarded (before ++ c :: after)) : Guarded before ∧ Guarded after := by
  constructor
  · intro previous
    have whole := guarded previous
    rw [guardedFrom_append, Bool.and_eq_true] at whole
    exact whole.1
  · intro _
    have whole := guarded none
    rw [guardedFrom_append, Bool.and_eq_true, guardedFrom, Bool.and_eq_true] at whole
    cases after with
    | nil => rfl
    | cons first rest =>
      have rest := whole.2.2
      rw [guardedFrom, Bool.and_eq_true] at rest ⊢
      have notSlash : first ≠ '/' := by simpa [other] using rest.1
      exact ⟨by simp [notSlash], rest.2⟩

/-- An encoded value is guarded. -/
lemma guarded_encodePartitionValue (value : Option String) :
    Guarded (encodePartitionValue value).toList := by
  have token : Guarded HIVE_DEFAULT_PARTITION.toList := guarded_of_free (by decide)
  have escape : Guarded ESCAPE_PREFIX.toList := guarded_of_free (by decide)
  cases value with
  | none => exact token
  | some =>
    rw [encodePartitionValue]
    split
    · rw [toList_append]
      exact escape.append token
    · split
      · rw [toList_append]
        refine escape.append ?_
        simp only [replaceWith, toList_ofList, flatMap_assoc]
        refine Guarded.flatMap fun c => ?_
        by_cases backslash : c = '\\'
        · subst backslash
          exact guarded_of_free (by decide)
        · by_cases slash : c = '/'
          · subst slash
            intro _
            rfl
          · refine guarded_of_free ?_
            by_cases zero : c = '\x00'
            · subst zero
              decide
            · simp [backslash, slash, zero, Ne.symm slash]
      · rename_i plain
        refine guarded_of_free ?_
        simp only [Bool.or_eq_true, contains_iff_mem, not_or] at plain
        exact plain.1.1

/-- The key of some values is guarded. -/
lemma guarded_keyOf (values : List (Option String)) : Guarded (keyOf values).toList := by
  rw [keyOf]
  induction values with
  | nil => exact fun _ => rfl
  | cons value rest ih =>
    cases rest with
    | nil =>
      rw [map_cons, map_nil, String.intercalate_singleton]
      exact guarded_encodePartitionValue value
    | cons =>
      rw [map_cons, map_cons, String.intercalate_cons_cons, toList_append, toList_append]
      exact ((guarded_encodePartitionValue value).append (guarded_of_free (by decide))).append ih

/-- The pieces of a guarded text are guarded. -/
lemma guarded_splitOn {chars piece : List Char} (other : c ≠ '\\')
    (guarded : Guarded chars) (mem : piece ∈ chars.splitOn c) : Guarded piece := by
  by_cases present : c ∈ chars
  · obtain ⟨_, _, whole, free⟩ := eq_append_cons_of_mem present
    have sides := Guarded.sides other (whole ▸ guarded)
    rw [whole, splitOn_append_cons_self_of_not_mem free] at mem
    rcases mem_cons.mp mem with rfl | later
    · exact sides.1
    · exact guarded_splitOn other sides.2 later
  · rw [splitOn_eq_singleton present, mem_singleton] at mem
    rwa [mem]
termination_by chars.length
decreasing_by
  rw [whole, length_append, length_cons]
  omega

/-- The values that a key is cut into are guarded. -/
lemma guarded_of_mem_split {values : List (Option String)} {piece : String}
    (mem : piece ∈ split (keyOf values) KEY_SEPARATOR) : Guarded piece.toList := by
  obtain ⟨_, isPiece, rfl⟩ := mem_map.mp mem
  rw [toList_ofList]
  exact guarded_splitOn (by decide) (guarded_keyOf values) isPiece

/-! ## Directories of partitions -/

/-- A name that the last value of a key leaves in a path. -/
def Marked (name : String) : Prop := '=' ∈ name.toList ∨ name.toList.getLast? = some '\\'

lemma not_marked_empty : ¬ Marked "" := by
  rw [Marked]
  decide

/-- The names of a directory end like those of a partition. -/
def HiveDir (names : List String) : Prop :=
  (∃ before dir, names = before ++ [dir] ∧ Marked dir) ∨
  ∃ before above dir, names = before ++ [above, dir] ∧ above.toList.getLast? = some '\\'

/-- The path of a part of a partition. -/
def HivePath (path : String) : Prop :=
  ∃ dirs idx, split path '/' = dirs ++ [partName idx] ∧ HiveDir dirs

lemma slash_toList : "/".toList = ['/'] := by decide

variable {base value : String}

/-- A directory whose name ends with a guarded value. -/
lemma hiveDir_split (guarded : Guarded value.toList) :
    HiveDir (split (base ++ "=" ++ value) '/') := by
  obtain ⟨_, name, rfl, closed, free⟩ := Path.exists_dir_name value
  rcases closed with rfl | ⟨path, rfl⟩
  · -- the value is part of the last name
    obtain ⟨above, last, rfl, closed, lastFree⟩ := Path.exists_dir_name base
    obtain ⟨pieces, splits⟩ := Path.split_dir closed
    refine .inl ⟨pieces, last ++ "=" ++ name, ?_, .inl (by simp)⟩
    rw [← splits]
    · simp only [String.append_assoc, empty_append]
    · simp only [toList_append, mem_append, not_or]
      exact ⟨⟨lastFree, by decide⟩, free⟩
  · -- the last separator of the value comes after a backslash
    have inner : Guarded (path.toList ++ '/' :: name.toList) := by
      simpa [slash_toList] using guarded
    have ended := inner.before
    obtain ⟨_, last, isPath, closed, lastFree⟩ := Path.exists_dir_name (base ++ "=" ++ path)
    obtain ⟨pieces, splits⟩ := Path.split_dir closed
    refine .inr ⟨pieces, last, name, ?_, ?_⟩
    · rw [show base ++ "=" ++ (path ++ "/" ++ name) = base ++ "=" ++ path ++ "/" ++ name by
        simp only [String.append_assoc], split_append_cons slash_toList, isPath,
        splits last lastFree, split_eq_singleton free, append_assoc]
      rfl
    · have whole := congrArg (List.getLast? ∘ String.toList) isPath
      simp only [Function.comp_apply, toList_append, List.getLast?_append, ended,
        Option.some_or] at whole
      cases chars : last.toList with
      | nil =>
        rw [chars] at whole
        rcases closed with rfl | ⟨_, rfl⟩
        · cases whole
        · simp [slash_toList] at whole
      | cons first rest =>
        rw [chars] at whole
        have found : (first :: rest).getLast? ≠ none := by simp
        obtain ⟨_, isLast⟩ := Option.ne_none_iff_exists'.mp found
        rw [isLast, Option.some_or] at whole
        rw [isLast, whole]

variable {names : List String}

lemma HiveDir.append (hive : HiveDir names) (before : List String) : HiveDir (before ++ names) := by
  rcases hive with ⟨first, dir, rfl, marked⟩ | ⟨first, above, dir, rfl, marked⟩
  · exact .inl ⟨before ++ first, dir, by rw [append_assoc], marked⟩
  · exact .inr ⟨before ++ first, above, dir, by rw [append_assoc], marked⟩

/-- Names that are followed on the way to an object. -/
def isFollowed (name : String) : Bool := !(name = "" || name = ".")

variable {name : String}

lemma Marked.isFollowed (marked : Marked name) : isFollowed name = true := by
  by_contra skipped
  simp only [Transform.isFollowed, Bool.not_eq_true, Bool.not_eq_false', Bool.or_eq_true,
    decide_eq_true_eq] at skipped
  rcases skipped with rfl | rfl
  · exact not_marked_empty marked
  · revert marked
    rw [Marked]
    decide

lemma HiveDir.filter (hive : HiveDir names) : HiveDir (names.filter isFollowed) := by
  rcases hive with ⟨_, dir, rfl, marked⟩ | ⟨_, above, dir, rfl, marked⟩
  · rw [filter_append, filter_cons_of_pos marked.isFollowed]
    exact .inl ⟨_, dir, rfl, marked⟩
  · have isMarked : Marked above := .inr marked
    rw [filter_append, filter_cons_of_pos isMarked.isFollowed]
    by_cases last : isFollowed dir = true
    · rw [filter_cons_of_pos last]
      exact .inr ⟨_, above, dir, rfl, marked⟩
    · rw [filter_cons_of_neg last]
      exact .inl ⟨_, above, rfl, isMarked⟩

lemma partName_free (idx : Nat) : '/' ∉ (partName idx).toList := by
  simp only [partName, toList_append, mem_append, not_or]
  refine ⟨⟨by decide, ?_⟩, by decide⟩
  intro mem
  exact absurd (isDigit_of_mem_zeroPadded mem) (by decide)

lemma startsWith_of_free (free : '/' ∉ name.toList) : startsWith name "/" = false := by
  by_contra starts
  rw [Bool.not_eq_false, startsWith_iff] at starts
  obtain ⟨_, rfl⟩ := starts
  exact free (by simp [slash_toList])

variable {dir : String}

/-- The last name of a directory that ends with a separator is empty. -/
lemma exists_split_of_endsWith (closed : endsWith dir "/" = true) :
    ∃ before, before ++ "/" = dir ∧ split dir '/' = split before '/' ++ [""] := by
  obtain ⟨before, equal⟩ := isSuffixOf_iff_suffix.mp closed
  obtain rfl : String.ofList before ++ "/" = dir :=
    eq_of_toList_eq (by rw [toList_append, toList_ofList, equal])
  have pieces : split (String.ofList before ++ "/" ++ "") '/' = _ :=
    split_append_cons slash_toList
  rw [String.append_empty, show split "" '/' = [""] by decide] at pieces
  exact ⟨_, rfl, pieces⟩

/-- The names of a file in a directory. -/
lemma split_join (free : '/' ∉ name.toList) (nonempty : dir ≠ "") : split (Path.join dir name) '/' =
      (if endsWith dir "/" then (split dir '/').dropLast else split dir '/') ++ [name] := by
  rw [Path.join_relative (startsWith_of_free free), Path.joinBase]
  by_cases closed : endsWith dir "/" = true
  · rw [if_pos (by rw [closed, Bool.or_true]), if_pos closed]
    obtain ⟨_, rfl, pieces⟩ := exists_split_of_endsWith closed
    rw [split_append_cons slash_toList, pieces, split_eq_singleton free, dropLast_concat]
  · rw [if_neg (by simp [nonempty, closed]), if_neg closed, split_append_cons slash_toList,
      split_eq_singleton free]

/-- A part in a directory of a partition. -/
lemma hivePath_join (hive : HiveDir (split dir '/')) (idx : Nat) :
    HivePath (Path.join dir (partName idx)) := by
  have nonempty : dir ≠ "" := by
    rintro rfl
    rw [show split "" '/' = [""] by decide] at hive
    rcases hive with ⟨before, dir, equal, marked⟩ | ⟨before, above, dir, equal, -⟩
    · obtain ⟨-, same⟩ := append_inj' (show [] ++ [""] = before ++ [dir] from equal) rfl
      cases same
      exact not_marked_empty marked
    · have length := congrArg List.length equal
      simp at length
  rw [HivePath]
  refine ⟨_, idx, split_join (partName_free idx) nonempty, ?_⟩
  split
  · rename_i closed
    obtain ⟨_, -, pieces⟩ := exists_split_of_endsWith closed
    rw [pieces] at hive ⊢
    rw [dropLast_concat]
    rcases hive with ⟨first, _, equal, marked⟩ | ⟨first, above, _, equal, marked⟩
    · obtain ⟨-, same⟩ := append_inj' equal rfl
      cases same
      exact (not_marked_empty marked).elim
    · have dropped := congrArg List.dropLast equal
      rw [dropLast_concat, dropLast_append_of_ne_nil (cons_ne_nil _ _)] at dropped
      exact .inl ⟨first, above, dropped, .inr marked⟩
  · exact hive

/-- The text of a directory that is reached by a name ends with the name. -/
lemma exists_join_eq (path name : String) : ∃ before, Path.join path name = before ++ name := by
  rw [Path.join]
  split
  · exact ⟨"", (empty_append).symm⟩
  · split
    · exact ⟨path, rfl⟩
    · exact ⟨path ++ "/", rfl⟩

variable {columns : List String}

/-- The columns and the values of a key, which are not empty. -/
lemma exists_last_entry (values : List (Option String)) (nonempty : columns ≠ []) :
    ∃ before column value, columns.zip (split (keyOf values) KEY_SEPARATOR) =
      before ++ [(column, value)] ∧ Guarded value.toList := by
  have entries : columns.zip (split (keyOf values) KEY_SEPARATOR) ≠ [] := by
    intro empty
    rcases zip_eq_nil_iff.mp empty with none | none
    · exact nonempty none
    · exact splitOn_ne_nil _ _ (map_eq_nil_iff.mp none)
  refine ⟨_, ((columns.zip _).getLast entries).1, ((columns.zip _).getLast entries).2,
    (dropLast_append_getLast entries).symm, ?_⟩
  have mem := getLast_mem entries
  exact guarded_of_mem_split (of_mem_zip mem).2

/-- The parts of a partition are written at such paths. -/
lemma hivePath_partitionDir (values : List (Option String)) (nonempty : columns ≠ []) (idx : Nat) :
    HivePath (Path.join (partitionDir base columns (keyOf values)) (partName idx)) := by
  obtain ⟨before, column, value, entries, guarded⟩ := exists_last_entry values nonempty
  apply hivePath_join
  rw [partitionDir, entries, foldl_append]
  obtain ⟨_, joined⟩ := exists_join_eq
    (before.foldl (fun path entry => Path.join path (entry.1 ++ "=" ++ entry.2)) base)
    (column ++ "=" ++ value)
  rw [foldl_cons, foldl_nil, joined, ← String.append_assoc, ← String.append_assoc]
  exact hiveDir_split guarded

/-! ## Routed paths -/

lemma intercalate_concat (texts : List String) (last : String) :
    ∃ before, String.intercalate "/" (texts ++ [last]) = before ++ last := by
  by_cases empty : texts = []
  · rw [empty]
    exact ⟨"", by rw [nil_append, String.intercalate_singleton, empty_append]⟩
  · refine ⟨String.intercalate "/" texts ++ "/", ?_⟩
    rw [String.intercalate_append_of_ne_nil empty (cons_ne_nil _ _), String.intercalate_singleton]

lemma exists_hiveRelativePath_eq (values : List (Option String))
    (nonempty : columns ≠ []) (idx : Nat) :
    ∃ before value, Guarded value.toList ∧ hiveRelativePath columns (keyOf values) idx =
      before ++ "=" ++ value ++ "/" ++ partName idx := by
  obtain ⟨entries, column, value, split, guarded⟩ := exists_last_entry values nonempty
  obtain ⟨front, equal⟩ := intercalate_concat
    (entries.map fun entry => entry.1 ++ "=" ++ entry.2) (column ++ "=" ++ value)
  refine ⟨front ++ column, value, guarded, ?_⟩
  rw [hiveRelativePath, split, map_append,
    String.intercalate_append_of_ne_nil (by simp) (cons_ne_nil _ _),
    String.intercalate_singleton, map_cons, map_nil, equal]
  simp only [String.append_assoc]

/-- A directory text that is neither empty nor closed by a separator. -/
def IsOpen (path : String) : Prop := path ≠ "" ∧ endsWith path "/" = false

variable {before : String}

lemma isOpen_of_concat (free : '/' ∉ name.toList)
    (nonempty : name ≠ "") : IsOpen (before ++ name) := by
  have chars : name.toList ≠ [] := fun empty => nonempty (String.toList_eq_nil_iff.mp empty)
  constructor
  · intro empty
    have letters := congrArg String.toList empty
    rw [toList_append] at letters
    exact chars (append_eq_nil_iff.mp letters).2
  · by_contra closed
    rw [Bool.not_eq_false, endsWith, isSuffixOf_iff_suffix, slash_toList, toList_append] at closed
    obtain ⟨_, equal⟩ := closed
    have last := congrArg List.getLast? equal
    rw [List.getLast?_concat, List.getLast?_append_of_ne_nil _ chars] at last
    exact free (List.mem_of_getLast? last.symm)

lemma isOpen_join (base : String) (free : '/' ∉ name.toList)
    (nonempty : name ≠ "") : IsOpen (Path.join base name) := by
  obtain ⟨_, joined⟩ := exists_join_eq base name
  rw [joined]
  exact isOpen_of_concat free nonempty

lemma split_join_of_isOpen (opened : IsOpen dir) (free : '/' ∉ name.toList) :
    split (Path.join dir name) '/' = split dir '/' ++ [name] := by
  rw [split_join free opened.1, if_neg (by rw [opened.2]; exact Bool.false_ne_true)]

variable {path : String} {pieces : List String}

/-- The names that are followed from a directory. -/
lemma split_of_pushPieces (free : ∀ piece ∈ pieces, '/' ∉ piece.toList) (opened : IsOpen base)
    (pushes : pushPieces pieces base = .ok path) :
    split path '/' = split base '/' ++ pieces.filter isFollowed := by
  induction pieces generalizing base with
  | nil =>
    cases pushes
    rw [filter_nil, append_nil]
  | cons piece _ ih =>
    obtain ⟨here, later⟩ := forall_mem_cons.mp free
    rw [pushPieces] at pushes
    by_cases skipped : (decide (piece = "") || decide (piece = ".")) = true
    · rw [if_pos skipped] at pushes
      rw [filter_cons_of_neg (by simp only [isFollowed, skipped]; decide)]
      exact ih later opened pushes
    · rw [if_neg skipped] at pushes
      split at pushes
      · cases pushes
      · have nonempty : piece ≠ "" := by
          rintro rfl
          exact skipped rfl
        have next := ih later (isOpen_join base here nonempty) pushes
        rw [next, split_join_of_isOpen opened here, filter_cons_of_pos
          (by simp [isFollowed, skipped]), append_assoc]
        rfl

/-- A file in a directory has its name last. -/
lemma exists_split_join (base : String) (free : '/' ∉ name.toList) :
    ∃ before, split (Path.join base name) '/' = before ++ [name] := by
  by_cases empty : base = ""
  · refine ⟨[], ?_⟩
    rw [empty, Path.join_relative (startsWith_of_free free),
      show Path.joinBase "" = "" by decide, empty_append, split_eq_singleton free]
    rfl
  · exact ⟨_, split_join free empty⟩

/-- The names that are followed come last, if there are any. -/
lemma exists_split_of_pushPieces
    (free : ∀ piece ∈ pieces, '/' ∉ piece.toList) (some_ : pieces.filter isFollowed ≠ [])
    (pushes : pushPieces pieces base = .ok path) :
    ∃ before, split path '/' = before ++ pieces.filter isFollowed := by
  induction pieces generalizing base with
  | nil => exact absurd rfl some_
  | cons piece _ ih =>
    obtain ⟨here, later⟩ := forall_mem_cons.mp free
    rw [pushPieces] at pushes
    by_cases skipped : (decide (piece = "") || decide (piece = ".")) = true
    · rw [if_pos skipped] at pushes
      rw [filter_cons_of_neg (by simp only [isFollowed, skipped]; decide)] at some_ ⊢
      exact ih later some_ pushes
    · rw [if_neg skipped] at pushes
      split at pushes
      · cases pushes
      · have nonempty : piece ≠ "" := by
          rintro rfl
          exact skipped rfl
        obtain ⟨_, joined⟩ := exists_join_eq base piece
        have opened : IsOpen (Path.join base piece) := joined ▸ isOpen_of_concat here nonempty
        rw [split_of_pushPieces later opened pushes,
          filter_cons_of_pos (by simp [isFollowed, skipped])]
        obtain ⟨before, isSplit⟩ := exists_split_join base here
        exact ⟨before, by rw [isSplit, append_assoc]; rfl⟩

variable {idx : Nat}

/-- The parts of a routed partition are written at such paths. -/
lemma hivePath_of_pushPieces (guarded : Guarded value.toList)
    (pushes : pushPieces (split (before ++ "=" ++ value ++ "/" ++ partName idx) '/') base =
      .ok path) : HivePath path := by
  have pieces : split (before ++ "=" ++ value ++ "/" ++ partName idx) '/' =
      split (before ++ "=" ++ value) '/' ++ [partName idx] := by
    rw [split_append_cons slash_toList, split_eq_singleton (partName_free idx)]
  have last : isFollowed (partName idx) = true := by
    have long : 2 < (partName idx).toList.length := by
      simp only [partName, toList_append, length_append]
      have : "part-".toList.length = 5 := by decide
      omega
    obtain ⟨nonempty, dot, -⟩ := Path.isName_of_length long (partName_free idx)
    simp [isFollowed, nonempty, dot]
  have followed : (split (before ++ "=" ++ value) '/' ++ [partName idx]).filter isFollowed =
      (split (before ++ "=" ++ value) '/').filter isFollowed ++ [partName idx] := by
    rw [filter_append, filter_cons_of_pos last, filter_nil]
  obtain ⟨front, isSplit⟩ := exists_split_of_pushPieces
    (fun piece mem => free_of_mem_split mem) (by rw [pieces, followed]; simp) pushes
  rw [pieces, followed, ← append_assoc] at isSplit
  exact ⟨_, idx, isSplit, (hiveDir_split guarded).filter.append front⟩

/-- The objects of a routed partition have such names. -/
lemma hivePath_of_objectKey {location : S3Location} {key : String} (guarded : Guarded value.toList)
    (isKey : location.objectKey (before ++ "=" ++ value ++ "/" ++ partName idx) = .ok key) :
    HivePath (ObjectLocation.s3 location.bucket key).displayUri := by
  have trimmed : ∃ front, trimStartMatches '/' (before ++ "=" ++ value ++ "/" ++ partName idx) =
        front ++ "=" ++ value ++ "/" ++ partName idx := by
    refine ⟨trimStartMatches '/' before, eq_of_toList_eq ?_⟩
    have stops : ("=".toList) = ['='] := by decide
    simp only [trimStartMatches, toList_ofList, toList_append, stops, append_assoc]
    induction before.toList with
    | nil => rfl
    | cons c rest ih =>
      by_cases slash : c = '/'
      · subst slash
        simpa using ih
      · simp [slash]
  obtain ⟨front, isTrimmed⟩ := trimmed
  have shaped : ∃ start, key = start ++ "=" ++ value ++ "/" ++ partName idx := by
    simp only [S3Location.objectKey, isTrimmed] at isKey
    split at isKey
    · cases isKey
    · split at isKey
      · cases isKey
        exact ⟨front, rfl⟩
      · split at isKey
        · rename_i empty
          have letters := congrArg String.toList empty
          simp [slash_toList] at letters
        · cases isKey
          exact ⟨trimEndMatches '/' location.keyPrefix ++ "/" ++ front,
            by simp only [String.append_assoc]⟩
  obtain ⟨start, rfl⟩ := shaped
  refine ⟨_, idx, ?_, @hiveDir_split ("s3://" ++ location.bucket ++ "/" ++ start) value guarded⟩
  rw [ObjectLocation.displayUri, ← split_eq_singleton (partName_free idx),
    ← split_append_cons slash_toList]
  simp only [String.append_assoc]

end Parqonaut.Transform
