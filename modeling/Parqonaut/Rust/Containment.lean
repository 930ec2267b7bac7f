import Parqonaut.Rust.Disk

/-!
# Files below a directory

Which path texts stay below a directory when they are joined to it, and which files a call of the
file system creates, overwrites or deletes. `..` takes back the name before it, and what is left
of it stands at the front.
-/

namespace Parqonaut.Rust

open List
open String (ofList)

namespace Path

/-- `place` is reached from the directory `base` by going down. -/
def Beneath (base place : List String) : Prop :=
  ∃ name rest, place = base ++ name :: rest ∧ name ≠ ".." ∧ name ≠ "/"

/-- A relative path that, normalised, goes down from where it starts. -/
def Inside (relative : String) : Prop := Beneath [] (resolve relative)

/-! ## Normalisation -/

variable {first piece : String} {rest : List String}

/-- A place that starts at the root, or above where it started, keeps its first name. -/
lemma push_head (top : first = "/" ∨ first = "..") :
    ∃ rest', push (first :: rest) piece = first :: rest' := by
  rw [push]
  split
  · exact ⟨rest, rfl⟩
  · split
    · cases rest with
      | nil => rcases top with rfl | rfl <;> exact ⟨_, rfl⟩
      | cons =>
        rw [getLast?_cons_cons]
        split
        · rename_i never
          simp at never
        · exact ⟨_, rfl⟩
        · exact ⟨_, rfl⟩
        · exact ⟨_, rfl⟩
    · exact ⟨_, rfl⟩

variable {pieces : List String}

lemma foldl_push_head (top : first = "/" ∨ first = "..") :
    ∃ rest', pieces.foldl push (first :: rest) = first :: rest' := by
  induction pieces generalizing rest with
  | nil => exact ⟨rest, rfl⟩
  | cons _ _ ih =>
    obtain ⟨_, pushed⟩ := push_head top
    rw [foldl_cons, pushed]
    exact ih

variable {path : String}

lemma resolve_absolute (absolute : Str.startsWith path "/" = true) :
    ∃ rest, resolve path = "/" :: rest := by
  rw [resolve, if_pos absolute]
  exact foldl_push_head (.inl rfl)

variable {base : List String}

/-- The names pushed above a directory, unless they climb out of it. -/
lemma foldl_push_base {names : List String}
    (downward : ∀ name ∈ names, name ≠ ".." ∧ name ≠ "/") (free : ∀ piece ∈ pieces, piece ≠ "/") :
    (∃ rest, pieces.foldl push names = ".." :: rest) ∨
      pieces.foldl push (base ++ names) = base ++ pieces.foldl push names ∧
        ∀ name ∈ pieces.foldl push names, name ≠ ".." ∧ name ≠ "/" := by
  induction pieces generalizing names with
  | nil => exact .inr ⟨rfl, downward⟩
  | cons piece pieces ih =>
    have free' : ∀ other ∈ pieces, other ≠ "/" :=
      fun other mem => free other (mem_cons_of_mem piece mem)
    rw [foldl_cons, foldl_cons]
    by_cases skipped : piece = "" ∨ piece = "."
    · have same : ∀ place, push place piece = place := by
        intro place
        rw [push, if_pos (by simpa using skipped)]
      rw [same, same]
      exact ih downward free'
    · rw [not_or] at skipped
      by_cases back : piece = ".."
      · subst back
        rcases eq_nil_or_concat names with rfl | ⟨_, last, rfl⟩
        · exact .inl (foldl_push_head (.inr rfl))
        · have isName := downward last (by simp)
          have popped : ∀ place, push (place ++ [last]) ".." = place := by
            intro place
            simp [push, isName.1, isName.2]
          rw [concat_eq_append] at downward ⊢
          rw [← append_assoc, popped, popped]
          exact ih (fun name mem => downward name (mem_append_left _ mem)) free'
      · have pushed : ∀ place, push place piece = place ++ [piece] :=
          fun place => push_name ⟨skipped.1, skipped.2, back⟩
        rw [pushed, pushed, append_assoc]
        apply ih _ free'
        intro name mem
        rcases mem_append.mp mem with earlier | last
        · exact downward name earlier
        · rw [mem_singleton] at last
          subst last
          exact ⟨back, free name mem_cons_self⟩

lemma ne_slash_of_mem_split (mem : piece ∈ Str.split path '/') : piece ≠ "/" := by
  rintro rfl
  exact Str.free_of_mem_split mem (by decide)

/-! ## Joining -/

lemma Inside.relative {relative : String} (inside : Inside relative) :
    Str.startsWith relative "/" = false := by
  by_contra absolute
  rw [Bool.not_eq_false] at absolute
  obtain ⟨_, equal⟩ := resolve_absolute absolute
  obtain ⟨_, _, downward, -, notRoot⟩ := inside
  rw [equal] at downward
  exact notRoot (cons.inj downward).1.symm

variable {relative : String}

lemma resolve_of_relative (open_ : Str.startsWith relative "/" = false) :
    resolve relative = (Str.split relative '/').foldl push [] := by
  rw [resolve, open_, if_neg Bool.false_ne_true]

/-- A path that goes down leads on from every directory that it is joined to. -/
lemma Inside.resolve_join (inside : Inside relative) (path : String) :
    resolve (join path relative) = resolve path ++ resolve relative := by
  have open_ := inside.relative
  have downward := @foldl_push_base (Str.split relative '/') (resolve path) [] (by simp)
    (fun _ => ne_slash_of_mem_split)
  rw [join_relative open_, resolve_append (isDirText_joinBase path) open_, resolve_joinBase,
    resolve_of_relative open_]
  rcases downward with ⟨_, climbs⟩ | ⟨equal, -⟩
  · obtain ⟨_, _, downward, notUp, -⟩ := inside
    rw [resolve_of_relative open_, climbs] at downward
    exact absurd (cons.inj downward).1.symm notUp
  · rw [append_nil] at equal
    exact equal

lemma Inside.beneath_join (inside : Inside relative) (path : String) :
    Beneath (resolve path) (resolve (join path relative)) := by
  rw [inside.resolve_join path]
  obtain ⟨name, rest, equal, isName⟩ := inside
  exact ⟨name, rest, by rw [equal, nil_append], isName⟩

/-- The working directory may be the current one; then the joined path is the path. -/
lemma join_empty (relative : String) : join "" relative = relative := by
  rw [join]
  split
  · rfl
  · rw [if_pos (by rfl), String.empty_append]

lemma inside_of_beneath
    (beneath : Beneath (resolve "") (resolve (join "" relative))) : Inside relative := by
  rw [join_empty] at beneath
  exact beneath

variable {other : String}

lemma Inside.resolve_join_inj (inside : Inside relative) (otherInside : Inside other)
    (same : resolve (join path relative) = resolve (join path other)) :
    resolve relative = resolve other := by
  rw [inside.resolve_join, otherInside.resolve_join] at same
  exact append_cancel_left same

variable {place : List String}

lemma Beneath.below {middle : List String} (beneath : Beneath base middle)
    (below : Disk.below middle place = true) : Beneath base place := by
  obtain ⟨name, rest, rfl, isName⟩ := beneath
  obtain ⟨next, others, rfl⟩ := Disk.below_iff.mp below
  exact ⟨name, rest ++ next :: others, by simp, isName⟩

/-! ## Last name -/

variable {name : String}

lemma resolve_dir_name {dir : String} (closed : IsDirText dir) (isName : IsName name) :
    resolve (dir ++ name) = resolve dir ++ [name] := by
  have plain := isPlain_of_isName isName
  rw [resolve_append closed (not_startsWith_slash_of_isPlain plain),
    Str.split_eq_singleton isName.2.2.2]
  exact push_name ⟨isName.1, isName.2.1, isName.2.2.1⟩

lemma beneath_snoc
    (beneath : Beneath base (place ++ [name])) (isName : other ≠ ".." ∧ other ≠ "/") :
    Beneath base (place ++ [other]) := by
  obtain ⟨next, rest, equal, downward⟩ := beneath
  rcases eq_nil_or_concat rest with rfl | ⟨init, _, rfl⟩
  · obtain ⟨rfl, -⟩ := append_inj' equal rfl
    exact ⟨other, [], rfl, isName⟩
  · rw [concat_eq_append, ← cons_append, ← append_assoc] at equal
    obtain ⟨rfl, -⟩ := append_inj' equal rfl
    exact ⟨next, init ++ [other], by simp, downward⟩

lemma ne_of_isName (isName : IsName name) : name ≠ ".." ∧ name ≠ "/" := by
  refine ⟨isName.2.2.1, ?_⟩
  rintro rfl
  exact isName.2.2.2 (by decide)

lemma resolve_trimEnd (nonempty : Str.trimEndMatches '/' path ≠ "") :
    resolve (Str.trimEndMatches '/' path) = resolve path := by
  suffices closed : ∀ chars : List Char, ofList (chars.rdropWhile (· == '/')) ≠ "" →
      resolve (ofList (chars.rdropWhile (· == '/'))) = resolve (ofList chars) by
    have equal := closed path.toList nonempty
    rwa [String.ofList_toList] at equal
  intro chars
  induction chars using reverseRecOn with
  | nil => exact fun _ => rfl
  | append_singleton _ last ih =>
    by_cases slash : last = '/'
    · rw [slash, rdropWhile_concat_pos _ _ _ (by rfl)]
      intro kept
      rw [ih kept, String.ofList_append]
      refine (resolve_slash ?_).symm
      rintro empty
      rw [String.ofList_eq_empty_iff] at empty
      rw [empty] at kept
      exact kept rfl
    · rw [rdropWhile_concat_neg _ _ _ (by simpa using slash)]
      exact fun _ => rfl

section

variable {path dir name : String} (trimmed : Str.trimEndMatches '/' path = dir ++ name)
  (closed : IsDirText dir) (free : '/' ∉ name.toList)

include trimmed closed free

lemma lastPiece_of_trimmed : lastPiece path = name := by
  obtain ⟨_, splits⟩ := split_dir closed
  rw [lastPiece, trimmed, splits name free]
  simp

lemma beforeLast_of_trimmed : beforeLast path = dir := by
  apply Str.eq_of_toList_eq
  rw [beforeLast, lastPiece_of_trimmed trimmed closed free, trimmed]
  simp

end

/-- The sibling of a path with another extension stays in the same directory. -/
lemma beneath_withExtension {extension : String}
    (long : 2 < extension.toList.length) (free : '/' ∉ extension.toList)
    (beneath : Beneath base (resolve path)) :
    Beneath base (resolve (withExtension path extension)) := by
  obtain ⟨dir, name, trimmed, closed, nameFree⟩ := exists_dir_name (Str.trimEndMatches '/' path)
  rw [withExtension, lastPiece_of_trimmed trimmed closed nameFree,
    beforeLast_of_trimmed trimmed closed nameFree]
  split
  · exact beneath
  · rename_i ordinary
    simp only [Bool.or_eq_true, decide_eq_true_eq, not_or] at ordinary
    obtain ⟨⟨nonempty, dot⟩, dots⟩ := ordinary
    have sibling : IsName (fileStem name ++ "." ++ extension) := by
      refine isName_of_length ?_ ?_
      · simp only [String.toList_append, length_append]
        omega
      · simp only [String.toList_append, mem_append, not_or]
        exact ⟨⟨fun mem => nameFree (mem_of_mem_fileStem mem), by decide⟩, free⟩
    have text : resolve path = resolve dir ++ [name] := by
      rw [← resolve_dir_name closed ⟨nonempty, dot, dots, nameFree⟩, ← trimmed, resolve_trimEnd]
      rw [trimmed]
      exact fun empty => nonempty (String.append_eq_empty_iff.mp empty).2
    have regroup : dir ++ fileStem name ++ "." ++ extension =
        dir ++ (fileStem name ++ "." ++ extension) := by
      simp only [String.append_assoc]
    rw [regroup, resolve_dir_name closed sibling]
    rw [text] at beneath
    exact beneath_snoc beneath (ne_of_isName sibling)

/-- `place` is the directory `base` or reached from it by going down. -/
def AtOrBeneath (base place : List String) : Prop :=
  place = base ∨ Beneath base place

lemma Beneath.snoc (beneath : Beneath base place) (name : String) :
    Beneath base (place ++ [name]) := by
  obtain ⟨first, rest, rfl, isName⟩ := beneath
  exact ⟨first, rest ++ [name], by simp, isName⟩

/-- What is below a directory together with its last name was at or below it without. -/
lemma atOrBeneath_of_snoc (beneath : Beneath base (place ++ [name])) :
    (place = base ∧ name ≠ "..") ∨ Beneath base place := by
  obtain ⟨first, rest, equal, isName⟩ := beneath
  rcases eq_nil_or_concat rest with rfl | ⟨init, _, rfl⟩
  · obtain ⟨rfl, names⟩ := append_inj' equal rfl
    cases names
    exact .inl ⟨rfl, isName.1⟩
  · rw [concat_eq_append, ← cons_append, ← append_assoc] at equal
    obtain ⟨rfl, -⟩ := append_inj' equal rfl
    exact .inr ⟨first, init, rfl, isName⟩

lemma atOrBeneath_of_push (beneath : Beneath base (push place piece)) : AtOrBeneath base place := by
  rw [push] at beneath
  split at beneath
  · exact .inr beneath
  · split at beneath
    · split at beneath
      · rcases @atOrBeneath_of_snoc base [] _ beneath with ⟨-, down⟩ | ⟨_, _, equal, -⟩
        · exact absurd rfl down
        · simp at equal
      · rcases atOrBeneath_of_snoc beneath with ⟨-, down⟩ | above
        · exact absurd rfl down
        · exact .inr above
      · exact .inr beneath
      · rename_i last _ _ ends
        have whole := beneath.snoc last
        rw [dropLast_append_getLast? last ends] at whole
        exact .inr whole
    · rcases atOrBeneath_of_snoc beneath with ⟨same, -⟩ | above
      · exact .inl same
      · exact .inr above

variable {dir : String}

lemma resolve_slashes (slashes : Str.trimEndMatches '/' dir = "") :
    resolve dir = if Str.startsWith dir "/" then ["/"] else [] := by
  suffices all : ∀ chars : List Char, ofList (chars.rdropWhile (· == '/')) = "" →
      resolve (ofList chars) =
        if Str.startsWith (ofList chars) "/" then ["/"] else [] by
    have equal := all dir.toList slashes
    rwa [String.ofList_toList] at equal
  intro chars
  induction chars using reverseRecOn with
  | nil => exact fun _ => by decide
  | append_singleton chars last ih =>
    by_cases slash : last = '/'
    · subst slash
      rw [rdropWhile_concat_pos _ _ _ (by rfl)]
      intro trimmed
      cases chars with
      | nil => decide
      | cons first rest =>
        have nonempty : ofList (first :: rest) ≠ "" := by simp
        have starts : Str.startsWith (ofList (first :: rest ++ ['/'])) "/" =
            Str.startsWith (ofList (first :: rest)) "/" := by
          simp [Str.startsWith, isPrefixOf]
        rw [starts, ← ih trimmed, String.ofList_append]
        exact resolve_slash nonempty
    · rw [rdropWhile_concat_neg _ _ _ (by simpa using slash)]
      intro empty
      rw [String.ofList_eq_empty_iff] at empty
      simp at empty

lemma startsWith_slash_trimEnd (nonempty : Str.trimEndMatches '/' path ≠ "") :
    Str.startsWith (Str.trimEndMatches '/' path) "/" = Str.startsWith path "/" := by
  obtain ⟨_, whole⟩ := rdropWhile_prefix (· == '/') path.toList
  simp only [Str.startsWith, Str.trimEndMatches, String.toList_ofList]
  nth_rewrite 2 [← whole]
  cases chars : path.toList.rdropWhile (· == '/') with
  | nil => exact absurd (by rw [Str.trimEndMatches, chars]) nonempty
  | cons => simp [isPrefixOf]

lemma startsWith_slash_dir (free : '/' ∉ name.toList) :
    Str.startsWith (dir ++ name) "/" = Str.startsWith dir "/" := by
  simp only [Str.startsWith, String.toList_append]
  cases dir.toList with
  | nil =>
    cases chars : name.toList with
    | nil => rfl
    | cons =>
      rw [chars, mem_cons, not_or] at free
      simp [isPrefixOf, free.1]
  | cons => simp [isPrefixOf]

variable {above : String}

/-- A path leads on from its parent by its last piece. -/
lemma resolve_parent (parent : Path.parent path = some above) :
    ∃ piece, resolve path = push (resolve above) piece := by
  obtain ⟨dir, name, trimmed, closed, free⟩ := exists_dir_name (Str.trimEndMatches '/' path)
  rw [Path.parent, beforeLast_of_trimmed trimmed closed free] at parent
  split at parent
  · cases parent
  · rename_i nonempty
    have starts : Str.startsWith path "/" = Str.startsWith dir "/" := by
      rw [← startsWith_slash_trimEnd nonempty, trimmed, startsWith_slash_dir free]
    have plain : Str.startsWith name "/" = false := by
      have named := @startsWith_slash_dir name "" free
      rw [String.empty_append] at named
      exact named
    have same : resolve above = resolve dir := by
      rw [← Option.some.inj parent]
      by_cases slashes : Str.trimEndMatches '/' dir = ""
      · rw [resolve_slashes slashes, slashes, starts]
        cases Str.startsWith dir "/" <;> decide
      · rw [if_neg (by simp [slashes]), resolve_trimEnd slashes]
    refine ⟨name, ?_⟩
    rw [same, ← resolve_trimEnd nonempty, trimmed, resolve_append closed plain,
      Str.split_eq_singleton free]
    rfl

lemma atOrBeneath_parent
    (beneath : Beneath base (resolve path)) (parent : Path.parent path = some above) :
    AtOrBeneath base (resolve above) := by
  obtain ⟨_, equal⟩ := resolve_parent parent
  rw [equal] at beneath
  exact atOrBeneath_of_push beneath

lemma Inside.withName (closed : IsDirText dir) (isName : IsName name)
    (otherName : IsName other) (inside : Inside (dir ++ name)) : Inside (dir ++ other) := by
  rw [Inside, resolve_dir_name closed isName] at inside
  rw [Inside, resolve_dir_name closed otherName]
  exact beneath_snoc inside (ne_of_isName otherName)

lemma inside_of_isName (isName : IsName name) : Inside name := by
  have named := resolve_dir_name (.inl rfl) isName
  rw [String.empty_append] at named
  exact ⟨name, [], named, ne_of_isName isName⟩

end Path

/-! ## Calls -/

open Effects Path

variable {File : Type}

/-- The call creates, overwrites or deletes the file at a place. -/
def FsRequest.Touches (place : List String) : FsRequest File → Prop
  | .write path _ => place = resolve path
  | .copy _ target => place = resolve target
  | .rename source target => place = resolve source ∨ place = resolve target
  | .removeFile path => place = resolve path
  | .removeDirAll path => Disk.below (resolve path) place = true
  | .exists _ | .isFile _ | .createDirAll _ | .read _ | .walkFiles _ => False

/-- The call touches files below a directory only. -/
def FsRequest.Within (work : String) (request : FsRequest File) : Prop :=
  ∀ place, request.Touches place → Beneath (resolve work) place

/-- The call touches files below a directory only, and makes directories there only. -/
def FsRequest.Confined (work : String) (request : FsRequest File) : Prop :=
  request.Within work ∧ ∀ path, request = .createDirAll path →
    AtOrBeneath (resolve work) (resolve path)

namespace Disk

variable {truncated : File} {disk after : Disk File} {place : List String} {path : String}
  {contents : File}

lemma lookup_put (other : place ≠ resolve path) :
    (disk.put path contents).2.files.lookup place = disk.files.lookup place := by
  rw [put]
  split
  · rfl
  · split
    · rfl
    · exact AList.lookup_insert_ne other

variable {source target : String}

lemma lookup_rename (notSource : place ≠ resolve source) (notTarget : place ≠ resolve target) :
    (disk.rename source target).2.files.lookup place = disk.files.lookup place := by
  rw [rename]
  split
  · rfl
  · split
    · rfl
    · have kept := @lookup_put _ disk _ _ ‹File› notTarget
      split
      · rename_i stored
        rw [stored] at kept
        exact (AList.lookup_erase_ne notSource).trans kept
      · rename_i stored
        rw [stored] at kept
        exact kept

variable {request : FsRequest File} {answer : request.Answer}

/-- A call leaves the files that it does not touch as they are. -/
lemma lookup_of_answers (answers : (service truncated).Answers request disk answer after)
    (untouched : ¬ request.Touches place) :
    after.files.lookup place = disk.files.lookup place := by
  rcases answers with served | ⟨-, rfl⟩
  · have moved : after = (serve truncated request disk).2 := congrArg Prod.snd served
    rw [moved]
    cases request with
    | «exists» | isFile | walkFiles => rfl
    | createDirAll =>
      rw [serve, createDirAll]
      split <;> rfl
    | read =>
      rw [serve]
      split <;> rfl
    | write => exact lookup_put untouched
    | copy =>
      rw [serve, copy]
      split
      · rfl
      · exact lookup_put untouched
    | rename =>
      exact lookup_rename (fun same => untouched (.inl same)) fun same => untouched (.inr same)
    | removeFile =>
      rw [serve, removeFile]
      split
      · rfl
      · exact AList.lookup_erase_ne untouched
    | removeDirAll path =>
      rw [serve, removeDirAll]
      split
      · rfl
      · have kept : below (resolve path) place = false := Bool.eq_false_iff.mpr untouched
        rw [lookup_filterFiles, kept]
        rfl
  · rfl

/-! ### Directories -/

/-- Something exists at the path, as `Path::exists` tells. -/
def Present (disk : Disk File) (path : String) : Prop :=
  ((disk.fileAt path).isSome || disk.isDir (resolve path)) = true

instance (disk : Disk File) (path : String) : Decidable (disk.Present path) :=
  inferInstanceAs (Decidable (_ = true))

lemma dirs_put : (disk.put path contents).2.dirs = disk.dirs := by
  rw [put]
  split
  · rfl
  · split <;> rfl

lemma dirs_rename : (disk.rename source target).2.dirs = disk.dirs := by
  rw [rename]
  split
  · rfl
  · rename_i contents _
    split
    · rfl
    · have kept := @dirs_put File disk target contents
      split
      · rename_i stored
        rw [stored] at kept
        exact kept
      · rename_i stored
        rw [stored] at kept
        exact kept

/-- How a call changes the directories. -/
lemma dirs_of_answers (answers : (service truncated).Answers request disk answer after) :
    after.dirs = disk.dirs ∨ (∃ path, request = .createDirAll path ∧
        after.dirs = disk.dirs ++ (resolve path).inits) ∨
      ∃ path, request = .removeDirAll path ∧
        after.dirs = disk.dirs.filter fun dir => !(resolve path).isPrefixOf dir := by
  rcases answers with served | ⟨-, rfl⟩
  · have moved : after = (serve truncated request disk).2 := congrArg Prod.snd served
    rw [moved]
    cases request with
    | «exists» | isFile | walkFiles => exact .inl rfl
    | read =>
      left
      rw [serve]
      split <;> rfl
    | write => exact .inl dirs_put
    | copy =>
      left
      rw [serve, copy]
      split
      · rfl
      · exact dirs_put
    | rename => exact .inl dirs_rename
    | removeFile =>
      left
      rw [serve, removeFile]
      split <;> rfl
    | createDirAll path =>
      rw [serve, createDirAll]
      split
      · exact .inl rfl
      · exact .inr (.inl ⟨path, rfl, rfl⟩)
    | removeDirAll path =>
      rw [serve, removeDirAll]
      split
      · exact .inl rfl
      · exact .inr (.inr ⟨path, rfl, rfl⟩)
  · exact .inl rfl

/-- A directory stays unless one that holds it is removed. -/
lemma isDir_of_answers (answers : (service truncated).Answers request disk answer after)
    (kept : ∀ path, request = .removeDirAll path → ¬ resolve path <+: place)
    (isDir : disk.isDir place = true) : after.isDir place = true := by
  simp only [Disk.isDir, Bool.or_eq_true, decide_eq_true_eq, contains_iff_mem] at isDir ⊢
  refine isDir.imp_right fun mem => ?_
  rcases dirs_of_answers answers with same | ⟨path, -, grown⟩ | ⟨path, removes, shrunk⟩
  · exact same ▸ mem
  · exact grown ▸ mem_append_left _ mem
  · rw [shrunk]
    refine mem_filter.mpr ⟨mem, ?_⟩
    rw [Bool.not_eq_true', Bool.eq_false_iff, ne_eq, isPrefixOf_iff_prefix]
    exact kept path removes

/-- A call that is confined to a directory makes nothing outside of it. -/
lemma not_present_of_answers {work : String}
    (answers : (service truncated).Answers request disk answer after)
    (confined : request.Confined work) (above : ¬ resolve path <+: resolve work)
    (outside : ¬ resolve work <+: resolve path) (absent : ¬ disk.Present path) :
    ¬ after.Present path := by
  have untouched : ¬ request.Touches (resolve path) := by
    intro touched
    obtain ⟨name, rest, inside, -⟩ := confined.1 _ touched
    exact outside (inside ▸ prefix_append _ _)
  simp only [Present, fileAt, Disk.isDir, Bool.or_eq_true, decide_eq_true_eq,
    contains_iff_mem, not_or] at absent ⊢
  rw [lookup_of_answers answers untouched]
  refine ⟨absent.1, absent.2.1, fun mem => ?_⟩
  rcases dirs_of_answers answers with same | ⟨other, creates, grown⟩ | ⟨other, -, shrunk⟩
  · exact absent.2.2 (same ▸ mem)
  · rw [grown] at mem
    rcases mem_append.mp mem with old | made
    · exact absent.2.2 old
    · have below := (mem_inits _ _).mp made
      rcases confined.2 other creates with same | ⟨_, _, inside, -⟩
      · exact above (same ▸ below)
      · rw [inside] at below
        rcases prefix_or_prefix_of_prefix below (prefix_append _ _) with up | down
        · exact above up
        · exact outside down
  · rw [shrunk] at mem
    exact absent.2.2 (mem_filter.mp mem).1

/-- A directory that was made exists. -/
lemma isDir_of_createDirAll
    (answers : (service truncated).Answers (.createDirAll path) disk (.ok ()) after) :
    after.isDir (resolve path) = true := by
  have served : disk.createDirAll path = (.ok (), after) := serve_of_answers_ok answers
  rw [createDirAll] at served
  split at served
  · cases served
  · cases served
    simp [Disk.isDir]

end Disk

end Parqonaut.Rust
