import Parqonaut.Rust.Str

/-!
# Path texts

The operations of `Utf8Path` on path texts with `/` as the separator. A path text is resolved
lexically, and two texts address the same file when they resolve to the same list of names.
-/

namespace Parqonaut.Rust.Path

open List Str
open String (ofList toList_append toList_ofList empty_append)

/-- `Utf8Path::join`: an absolute right side replaces the left one. -/
def join (path relative : String) : String :=
  if Str.startsWith relative "/" then relative
  else if path = "" || endsWith path "/" then path ++ relative
  else path ++ "/" ++ relative

/-- Last piece of a path text, without trailing separators. -/
def lastPiece (path : String) : String :=
  (split (trimEndMatches '/' path) '/').getLastD ""

/-- Text before the last piece. -/
def beforeLast (path : String) : String :=
  let text := (trimEndMatches '/' path).toList
  ofList (text.take (text.length - (lastPiece path).toList.length))

/-- `Utf8Path::parent`. -/
def parent (path : String) : Option String :=
  if trimEndMatches '/' path = "" then none
  else
    let above := trimEndMatches '/' (beforeLast path)
    some (if above = "" && Str.startsWith path "/" then "/" else above)

/-- Name without its last extension; a leading dot does not start an extension. -/
def fileStem (name : String) : String :=
  let before := ((name.toList.reverse.dropWhile (· != '.')).drop 1).reverse
  if before = [] then name else ofList before

/-- `Utf8Path::extension`: what follows the last dot of the name, unless that is a leading one. -/
def extension (path : String) : Option String :=
  let name := lastPiece path
  if name = "" || name = "." || name = ".." || fileStem name = name then none
  else some (ofList (name.toList.drop ((fileStem name).toList.length + 1)))

/-- `Utf8Path::with_extension`. -/
def withExtension (path extension : String) : String :=
  let name := lastPiece path
  if name = "" || name = "." || name = ".." then path
  else beforeLast path ++ fileStem name ++ "." ++ extension

/-- `Utf8Path::components`: empty pieces and `.` pieces are dropped, except for a
leading `.`; `/` stands for the root. -/
def components (path : String) : List String :=
  let pieces := (split path '/').filter fun piece => piece ≠ "" && piece ≠ "."
  if Str.startsWith path "/" then "/" :: pieces
  else if path = "." || Str.startsWith path "./" then "." :: pieces
  else pieces

/-- `Utf8Path::starts_with`. -/
def startsWith (path base : String) : Bool :=
  (components base).isPrefixOf (components path)

/-- `Utf8Path::strip_prefix`: the rest of the path after the pieces of `base`. -/
def stripPrefix (path base : String) : Option String :=
  if startsWith path base then
    some (String.intercalate "/" ((components path).drop (components base).length))
  else none

/-! ## Addressed file -/

/-- Follow one piece of a path text. -/
def push (place : List String) (piece : String) : List String :=
  if piece = "" || piece = "." then place
  else if piece = ".." then
    match place.getLast? with
    | none => [".."]
    | some ".." => place ++ [".."]
    | some "/" => place
    | some _ => place.dropLast
  else place ++ [piece]

/-- Names that a path text addresses; `/` stands for the root. -/
def resolve (path : String) : List String :=
  (split path '/').foldl push (if Str.startsWith path "/" then ["/"] else [])

/-- A piece that is kept as it is. -/
def IsName (piece : String) : Prop :=
  piece ≠ "" ∧ piece ≠ "." ∧ piece ≠ ".." ∧ '/' ∉ piece.toList

instance (piece : String) : Decidable (IsName piece) :=
  inferInstanceAs (Decidable (_ ∧ _ ∧ _ ∧ _))

/-- A relative path of plain names. -/
def IsPlain (path : String) : Prop :=
  ∀ piece ∈ split path '/', piece ≠ "" ∧ piece ≠ "." ∧ piece ≠ ".."

instance (path : String) : Decidable (IsPlain path) :=
  inferInstanceAs (Decidable (∀ piece ∈ split path '/', _))

variable {place : List String}

lemma push_name {piece : String}
    (name : piece ≠ "" ∧ piece ≠ "." ∧ piece ≠ "..") : push place piece = place ++ [piece] := by
  simp [push, name.1, name.2.1, name.2.2]

lemma foldl_push {pieces : List String}
    (plain : ∀ piece ∈ pieces, piece ≠ "" ∧ piece ≠ "." ∧ piece ≠ "..") :
    pieces.foldl push place = place ++ pieces := by
  induction pieces generalizing place with
  | nil => simp
  | cons piece _ ih =>
    rw [foldl_cons, push_name (plain piece mem_cons_self),
      ih fun other mem => plain other (mem_cons_of_mem _ mem), append_assoc]
    rfl

/-! ## Joining -/

/-- The text of a directory in front of a name: empty, or closed by a separator. -/
def IsDirText (dir : String) : Prop :=
  dir = "" ∨ ∃ path, dir = path ++ "/"

/-- What `join` puts in front of a relative path. -/
def joinBase (path : String) : String :=
  if path = "" || endsWith path "/" then path else path ++ "/"

private lemma slash_toList : "/".toList = ['/'] := by decide

variable {relative : String}

lemma not_startsWith_slash_of_isPlain (plain : IsPlain relative) :
    Str.startsWith relative "/" = false := by
  by_contra starts
  rw [Bool.not_eq_false, Str.startsWith_iff] at starts
  obtain ⟨rest, equal⟩ := starts
  have pieces := plain ""
  rw [equal, ← empty_append (s := "/" ++ rest), ← String.append_assoc,
    split_append_cons slash_toList] at pieces
  exact (pieces (by simp [split])).1 rfl

variable {path : String}

lemma join_relative (open_ : Str.startsWith relative "/" = false) :
    join path relative = joinBase path ++ relative := by
  rw [join, open_, if_neg Bool.false_ne_true, joinBase]
  split <;> rfl

lemma join_eq (plain : IsPlain relative) : join path relative = joinBase path ++ relative :=
  join_relative (not_startsWith_slash_of_isPlain plain)

lemma isDirText_joinBase (path : String) : IsDirText (joinBase path) := by
  rw [joinBase]
  split
  · rename_i closed
    rw [Bool.or_eq_true, decide_eq_true_eq] at closed
    rcases closed with empty | ends
    · exact .inl empty
    · rw [endsWith, isSuffixOf_iff_suffix] at ends
      obtain ⟨before, equal⟩ := ends
      refine .inr ⟨ofList before, eq_of_toList_eq ?_⟩
      rw [toList_append, toList_ofList, equal]
  · exact .inr ⟨path, rfl⟩

private lemma startsWith_slash_append (path rest : String) :
    Str.startsWith (path ++ "/" ++ rest) "/" = Str.startsWith (path ++ "/") "/" := by
  simp only [Str.startsWith, toList_append, slash_toList]
  cases path.toList <;> rfl

private lemma split_empty : split "" '/' = [""] := by decide

lemma resolve_closed (path : String) : resolve (path ++ "/") =
      (split path '/').foldl push (if Str.startsWith (path ++ "/") "/" then ["/"] else []) := by
  have pieces : split (path ++ "/") '/' = split path '/' ++ [""] := by
    rw [← split_empty, ← split_append_cons slash_toList, String.append_empty]
  rw [resolve, pieces, foldl_append]
  simp [push]

lemma resolve_append {dir : String} (closed : IsDirText dir)
    (plain : Str.startsWith relative "/" = false) :
    resolve (dir ++ relative) = (split relative '/').foldl push (resolve dir) := by
  rcases closed with rfl | ⟨_, rfl⟩
  · rw [empty_append, resolve, plain, if_neg Bool.false_ne_true]
    rfl
  · rw [resolve_closed, ← foldl_append, ← split_append_cons slash_toList, resolve,
      startsWith_slash_append]

lemma resolve_slash (nonempty : path ≠ "") : resolve (path ++ "/") = resolve path := by
  rw [resolve_closed, resolve]
  congr 1
  cases chars : path.toList with
  | nil => exact absurd (String.toList_eq_nil_iff.mp chars) nonempty
  | cons => simp [Str.startsWith, chars, slash_toList]

lemma resolve_joinBase (path : String) : resolve (joinBase path) = resolve path := by
  rw [joinBase]
  split
  · rfl
  · rename_i open_
    apply resolve_slash
    rintro rfl
    exact open_ (by decide)

/-- A plain relative path leads on from the directory that it is joined to. -/
lemma resolve_join (plain : IsPlain relative) :
    resolve (join path relative) = resolve path ++ split relative '/' := by
  rw [join_eq plain, resolve_append (isDirText_joinBase path)
    (not_startsWith_slash_of_isPlain plain), resolve_joinBase, foldl_push plain]

/-! ## Last name -/

variable {name : String}

lemma isPlain_of_isName (isName : IsName name) : IsPlain name := by
  intro _ mem
  rw [split_eq_singleton isName.2.2.2, mem_singleton] at mem
  rw [mem]
  exact ⟨isName.1, isName.2.1, isName.2.2.1⟩

lemma isName_of_length (long : 2 < name.toList.length)
    (free : '/' ∉ name.toList) : IsName name := by
  refine ⟨?_, ?_, ?_, free⟩ <;> rintro rfl <;> revert long <;> decide

/-- A path text ends with its last name. -/
lemma exists_dir_name (path : String) :
    ∃ dir name : String, path = dir ++ name ∧ IsDirText dir ∧ '/' ∉ name.toList := by
  refine ⟨ofList (path.toList.rdropWhile (· != '/')),
    ofList (path.toList.rtakeWhile (· != '/')), eq_of_toList_eq ?_, ?_, ?_⟩
  · simp [rdropWhile_append_rtakeWhile]
  · by_cases none : path.toList.rdropWhile (· != '/') = []
    · exact .inl (by rw [none])
    · have last := rdropWhile_last_not _ _ none
      rw [bne_iff_ne, not_not] at last
      refine .inr ⟨ofList (path.toList.rdropWhile (· != '/')).dropLast, eq_of_toList_eq ?_⟩
      have whole := dropLast_append_getLast none
      rw [last] at whole
      simp [slash_toList, whole]
  · intro mem
    rw [toList_ofList] at mem
    exact absurd (mem_rtakeWhile_imp mem) (by decide)

section

variable {dir name : String} (closed : IsDirText dir)

include closed

lemma split_dir : ∃ pieces, ∀ name : String, '/' ∉ name.toList →
    split (dir ++ name) '/' = pieces ++ [name] := by
  rcases closed with rfl | ⟨path, rfl⟩
  · exact ⟨[], fun name free => by rw [empty_append, split_eq_singleton free]; rfl⟩
  · refine ⟨split path '/', fun name free => ?_⟩
    rw [split_append_cons slash_toList, split_eq_singleton free]

variable (free : '/' ∉ name.toList) (nonempty : name ≠ "")

include free nonempty

omit closed in
private lemma trim_dir_name : trimEndMatches '/' (dir ++ name) = dir ++ name := by
  have chars : name.toList ≠ [] := fun empty => nonempty (String.toList_eq_nil_iff.mp empty)
  apply eq_of_toList_eq
  rw [trimEndMatches, toList_ofList, rdropWhile_eq_self_iff]
  intro _
  simp only [toList_append, getLast_append_of_ne_nil _ chars, beq_iff_eq]
  intro last
  exact free (last ▸ getLast_mem chars)

lemma lastPiece_dir_name : lastPiece (dir ++ name) = name := by
  obtain ⟨_, splits⟩ := split_dir closed
  rw [lastPiece, trim_dir_name free nonempty, splits name free]
  simp

end

lemma isPlain_dir_name {dir other : String} (closed : IsDirText dir)
    (plain : IsPlain (dir ++ name)) (free : '/' ∉ name.toList) (isName : IsName other) :
    IsPlain (dir ++ other) := by
  obtain ⟨_, splits⟩ := split_dir closed
  intro piece mem
  rw [splits other isName.2.2.2, mem_append, mem_singleton] at mem
  rcases mem with before | rfl
  · exact plain piece (by rw [splits name free]; exact mem_append_left _ before)
  · exact ⟨isName.1, isName.2.1, isName.2.2.1⟩

lemma mem_of_mem_fileStem {c : Char} (mem : c ∈ (fileStem name).toList) : c ∈ name.toList := by
  rw [fileStem] at mem
  split at mem
  · exact mem
  · rw [toList_ofList, mem_reverse] at mem
    exact mem_reverse.mp ((dropWhile_sublist _).subset ((drop_sublist _ _).subset mem))

/-- A plain path stays plain when text is added to its last name. -/
lemma isPlain_append {text : String} (plain : IsPlain relative)
    (long : 2 < text.toList.length) (free : '/' ∉ text.toList) : IsPlain (relative ++ text) := by
  obtain ⟨_, _, rfl, closed, nameFree⟩ := exists_dir_name relative
  rw [String.append_assoc]
  refine isPlain_dir_name closed plain nameFree (isName_of_length ?_ ?_)
  · simp only [toList_append, length_append]
    omega
  · simp only [toList_append, mem_append, not_or]
    exact ⟨nameFree, free⟩

/-- Distinct plain paths below one directory address distinct files. -/
lemma resolve_join_inj {other : String} (plain : IsPlain relative) (otherPlain : IsPlain other)
    (same : resolve (join path relative) = resolve (join path other)) : relative = other := by
  rw [resolve_join plain, resolve_join otherPlain] at same
  exact split_injective (append_cancel_left same)

/-! ## Components -/

lemma pieces_of_isPlain (plain : IsPlain relative) :
    (split relative '/').filter (fun piece => piece ≠ "" && piece ≠ ".") = split relative '/' := by
  rw [filter_eq_self]
  intro piece mem
  simp [(plain piece mem).1, (plain piece mem).2.1]

/-- First component that is not a name: the root or a leading dot. -/
def leading (path : String) : List String :=
  if Str.startsWith path "/" then ["/"]
  else if path = "." || Str.startsWith path "./" then ["."] else []

lemma components_eq (path : String) : components path =
    leading path ++ (split path '/').filter fun piece => piece ≠ "" && piece ≠ "." := by
  rw [components, leading]
  split
  · rfl
  · split
    · rfl
    · rfl

lemma leading_of_isPlain (plain : IsPlain relative) : leading relative = [] := by
  have dotted : ¬ (relative = "." || Str.startsWith relative "./") = true := by
    rw [Bool.or_eq_true, decide_eq_true_eq]
    rintro (rfl | starts)
    · exact absurd rfl (plain "." (by decide)).2.1
    · obtain ⟨rest, rfl⟩ := Str.startsWith_iff.mp starts
      refine absurd rfl (plain "." ?_).2.1
      rw [show "./" ++ rest = "." ++ "/" ++ rest from rfl, split_append_cons slash_toList]
      exact mem_append_left _ (by decide)
  rw [leading, if_neg (by simp [not_startsWith_slash_of_isPlain plain]), if_neg dotted]

/-- What follows a separator does not change how a path begins. -/
lemma leading_append {rest : String} (nonempty : path ≠ "") :
    leading (joinBase path ++ rest) = leading path := by
  have dotText : "./".toList = ['.', '/'] := by decide
  have isDot : ∀ text : String, text = "." ↔ text.toList = ['.'] := fun text =>
    ⟨fun same => same ▸ by decide, fun same => eq_of_toList_eq same⟩
  have closes : ∃ tail, (joinBase path ++ rest).toList = path.toList ++ tail ∧
      (path.toList.getLast? ≠ some '/' → ∃ more, tail = '/' :: more) := by
    rw [joinBase]
    split
    · rename_i closed
      rw [Bool.or_eq_true, decide_eq_true_eq] at closed
      refine ⟨rest.toList, toList_append, fun open_ => absurd ?_ open_⟩
      obtain ⟨_, equal⟩ := isSuffixOf_iff_suffix.mp (closed.resolve_left nonempty)
      rw [← equal, slash_toList, List.getLast?_concat]
    · exact ⟨'/' :: rest.toList, by simp [slash_toList], fun _ => ⟨_, rfl⟩⟩
  obtain ⟨_, whole, separated⟩ := closes
  simp only [leading, Str.startsWith, slash_toList, dotText, isDot, whole]
  cases letters : path.toList with
  | nil => exact absurd (String.toList_eq_nil_iff.mp letters) nonempty
  | cons first others =>
    cases others with
    | cons => simp
    | nil =>
      by_cases slash : first = '/'
      · simp [slash]
      · obtain ⟨_, rfl⟩ := separated (by simp [letters, slash])
        simp [eq_comm (a := '.')]

/-- The components of a path below a directory. -/
lemma components_join (plain : IsPlain relative) :
    components (join path relative) = components path ++ split relative '/' := by
  rw [join_eq plain]
  by_cases empty : path = ""
  · subst empty
    have base : joinBase "" = "" := by decide
    have nothing : components "" = [] := by decide
    rw [base, empty_append, nothing, components_eq, leading_of_isPlain plain,
      pieces_of_isPlain plain]
  · have pieces : (split (joinBase path ++ relative) '/').filter
        (fun piece => piece ≠ "" && piece ≠ ".") =
        (split path '/').filter (fun piece => piece ≠ "" && piece ≠ ".") ++ split relative '/' := by
      rw [joinBase]
      split
      · rename_i closed
        rw [Bool.or_eq_true, decide_eq_true_eq] at closed
        obtain ⟨before, equal⟩ := isSuffixOf_iff_suffix.mp (closed.resolve_left empty)
        obtain rfl : ofList before ++ "/" = path :=
          eq_of_toList_eq (by rw [toList_append, toList_ofList, equal])
        have ended : split (ofList before ++ "/" ++ "") '/' = _ :=
          split_append_cons slash_toList
        rw [String.append_empty] at ended
        rw [split_append_cons slash_toList, ended, filter_append, filter_append,
          pieces_of_isPlain plain]
        simp [show split "" '/' = [""] by decide]
      · rw [split_append_cons slash_toList, filter_append, pieces_of_isPlain plain]
    rw [components_eq, components_eq, leading_append empty, pieces, append_assoc]

end Parqonaut.Rust.Path
