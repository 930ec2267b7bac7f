import Parqonaut.Rust.Result
import Parqonaut.Rust.UrlText
import Parqonaut.Storage.Location

/-!
# Locations as URIs

`DatasetLocation::parse` of `location.rs`, and which locations come back when the URI that
`display_uri` shows is parsed again.
-/

namespace Parqonaut.Storage

open Rust Rust.UrlCrate List Str
open String (ofList intercalate toList_ofList ofList_inj toList_append)

/-! ## Normalization -/

section

variable {α : Type} [DecidableEq α] (slash dot : α)

/-- Follow one piece of a path: `..` takes back the last name. -/
def pushComponent (out : List (List α)) (piece : List α) : List (List α) :=
  if piece = [] ∨ piece = [dot] then out
  else if piece = [dot, dot] then out.dropLast
  else out ++ [piece]

/-- Names of `normalize_local_path`. -/
def normalizeLocalPath (path : List α) : List (List α) :=
  (path.splitOn slash).foldl (pushComponent dot) []

end

/-! ## Parsing -/

def rootedPath (names : List String) : String := "/" ++ intercalate "/" names

/-- A text that is not a URI is a path. -/
def plainLocalPath (input : String) : String :=
  let names := (normalizeLocalPath '/' '.' input.toList).map ofList
  if startsWith input "/" then rootedPath names else intercalate "/" names

def filePathOf (input : String) (url : Url) : Except StorageError String :=
  if url.scheme ≠ "file" then
    .error (.invalidLocation ("unsupported URI scheme for local dataset: " ++ input))
  else
    match url.toFilePath with
    | none => .error (.invalidLocation ("invalid file URI: " ++ input))
    | some bytes =>
      match (normalizeLocalPath 47 46 bytes).mapM fromUtf8 with
      | none => .error (.invalidLocation "local path must be valid UTF-8")
      | some names => .ok (rootedPath names)

def parseLocalDataset (crate : Crate) (input : String) : Except StorageError String :=
  match crate.parse input.toList with
  | .ok url => filePathOf input url
  | .error _ => .ok (plainLocalPath input)

def s3LocationOf (input : String) (url : Url) : Except StorageError S3Location :=
  if url.scheme ≠ "s3" then
    .error (.invalidLocation ("expected s3:// URI, got " ++ input))
  else if url.username ≠ [] ∨ url.password ≠ none then
    .error (.invalidLocation "credentials must not be embedded in S3 URIs")
  else
    match url.host with
    | none => .error (.invalidLocation "S3 URI missing bucket")
    | some bucket =>
      .ok ⟨ofList bucket, trimEndMatches '/' (trimStartMatches '/' (ofList url.pathText))⟩

def parseS3Dataset (crate : Crate) (input : String) : Except StorageError S3Location :=
  match crate.parse input.toList with
  | .ok url => s3LocationOf input url
  | .error error => .error (.invalidLocation ("invalid S3 URI: " ++ error.display))

namespace DatasetLocation

def parse (crate : Crate) (input : String) : Except StorageError DatasetLocation :=
  let trimmed := trim input
  if trimmed = "" then .error (.invalidLocation "location must not be empty")
  else if startsWith trimmed "s3://" then (parseS3Dataset crate trimmed).map .s3
  else (parseLocalDataset crate trimmed).map fun path => .localDir ⟨path⟩

/-- Equality of locations: paths are compared by their components. -/
def Same : DatasetLocation → DatasetLocation → Prop
  | .localDir a, .localDir b => Path.components a.path = Path.components b.path
  | .s3 a, .s3 b => a = b
  | _, _ => False

/-- A location that is read back from its URI. -/
def RoundTrips (crate : Crate) (location : DatasetLocation) : Prop :=
  ∃ parsed, parse crate location.displayUri = .ok parsed ∧ Same parsed location

end DatasetLocation

/-! ## Names -/

section

variable {α : Type} [DecidableEq α] {slash dot : α} {pieces out : List (List α)}

lemma forall_mem_foldl_pushComponent {property : List α → Prop}
    (each : ∀ piece ∈ pieces, piece ≠ [] → piece ≠ [dot] → piece ≠ [dot, dot] → property piece)
    (before : ∀ piece ∈ out, property piece) :
    ∀ piece ∈ pieces.foldl (pushComponent dot) out, property piece := by
  induction pieces generalizing out with
  | nil => exact before
  | cons piece _ ih =>
    refine ih (fun other mem => each other (mem_cons_of_mem _ mem)) ?_
    rw [pushComponent]
    split
    · exact before
    · split
      · exact fun other mem => before other (dropLast_subset _ mem)
      · rename_i named notDots
        rw [not_or] at named
        refine forall_mem_append.mpr ⟨before, ?_⟩
        rw [forall_mem_singleton]
        exact each piece mem_cons_self named.1 named.2 notDots

/-- The names of a normalized path are plain ones. -/
lemma name_of_mem_normalizeLocalPath {path piece : List α}
    (mem : piece ∈ normalizeLocalPath slash dot path) :
    piece ≠ [] ∧ piece ≠ [dot] ∧ piece ≠ [dot, dot] ∧ slash ∉ piece := by
  have names : ∀ piece ∈ normalizeLocalPath slash dot path,
      piece ≠ [] ∧ piece ≠ [dot] ∧ piece ≠ [dot, dot] ∧ slash ∉ piece :=
    forall_mem_foldl_pushComponent (fun _ isPiece nonempty notDot notDots =>
        ⟨nonempty, notDot, notDots, not_mem_of_mem_splitOn isPiece⟩) (by simp)
  exact names piece mem

lemma foldl_pushComponent (plain : ∀ piece ∈ pieces, piece ≠ [dot, dot]) :
    pieces.foldl (pushComponent dot) out =
      out ++ pieces.filter fun piece => piece ≠ [] && piece ≠ [dot] := by
  induction pieces generalizing out with
  | nil => simp
  | cons piece _ ih =>
    have later := fun other mem => plain other (mem_cons_of_mem piece mem)
    rw [foldl_cons, ih later, pushComponent, filter_cons]
    by_cases dropped : piece = [] ∨ piece = [dot]
    · rw [if_pos dropped, if_neg]
      rw [Bool.and_eq_true, decide_eq_true_eq, decide_eq_true_eq]
      exact fun kept => dropped.elim kept.1 kept.2
    · rw [if_neg dropped, if_neg (plain piece mem_cons_self), if_pos, append_assoc]
      · rfl
      · rw [Bool.and_eq_true, decide_eq_true_eq, decide_eq_true_eq]
        exact not_or.mp dropped

end

/-! ## What normalization keeps -/

section

variable {α : Type} [DecidableEq α] (slash dot : α)

/-- Text of `normalize_local_path`. -/
def normalizedText (path : List α) : List α :=
  (if path.head? = some slash then [slash] else []) ++
    [slash].intercalate (normalizeLocalPath slash dot path)

/-- Names that a path leads to from an absolute directory. -/
def resolveAgainst (base : List (List α)) (path : List α) : List (List α) :=
  (path.splitOn slash).foldl (pushComponent dot) (if path.head? = some slash then [] else base)

/-- How many `..` find no name to take back. -/
def climbs : List (List α) → List (List α) → Nat
  | _, [] => 0
  | out, piece :: rest =>
    (if piece = [dot, dot] ∧ out = [] then 1 else 0) + climbs (pushComponent dot out piece) rest

variable {slash dot} {pieces out base : List (List α)}

/-- Names in front of a path are kept, but for the ones that it climbs above. -/
lemma foldl_pushComponent_append : pieces.foldl (pushComponent dot) (base ++ out) =
    base.rdrop (climbs dot out pieces) ++ pieces.foldl (pushComponent dot) out := by
  induction pieces generalizing base out with
  | nil => simp [climbs, rdrop]
  | cons piece rest ih =>
    rw [foldl_cons, foldl_cons, climbs]
    by_cases up : piece = [dot, dot]
    · subst up
      cases out using reverseRecOn with
      | nil =>
        have above : base.dropLast.rdrop (climbs dot [] rest) =
            base.rdrop (1 + climbs dot [] rest) := by
          simp [rdrop, dropLast_eq_take, take_take]
          omega
        have climbed := @ih [] base.dropLast
        rw [append_nil, above] at climbed
        simpa [pushComponent] using climbed
      | append_singleton names =>
        have popped := @ih names base
        simpa [pushComponent, ← append_assoc, -append_assoc] using popped
    · rw [if_neg fun both => up both.1, Nat.zero_add]
      have stays : pushComponent dot (base ++ out) piece = base ++ pushComponent dot out piece := by
        simp only [pushComponent, if_neg up]
        split
        · rfl
        · exact append_assoc ..
      rw [stays, ih]

variable {path : List α}

lemma foldl_normalizedText : ((normalizedText slash dot path).splitOn slash).foldl
    (pushComponent dot) out = out ++ normalizeLocalPath slash dot path := by
  have names := @name_of_mem_normalizeLocalPath _ _ slash dot path
  have pieces : (([slash].intercalate (normalizeLocalPath slash dot path)).splitOn slash).foldl
      (pushComponent dot) out = out ++ normalizeLocalPath slash dot path := by
    by_cases none : normalizeLocalPath slash dot path = []
    · simp [none, pushComponent]
    · rw [splitOn_intercalate slash (fun _ mem => (names mem).2.2.2) none,
        foldl_pushComponent fun _ mem => (names mem).2.2.1, filter_eq_self.mpr]
      intro _ mem
      simp [names mem]
  rw [normalizedText]
  split
  · simpa [splitOn_cons_eq_if_modifyHead, pushComponent] using pieces
  · exact pieces

lemma head?_normalizedText :
    (normalizedText slash dot path).head? = some slash ↔ path.head? = some slash := by
  rw [normalizedText]
  split
  · simpa
  · rename_i relative
    simp only [relative, iff_false, nil_append]
    cases names : normalizeLocalPath slash dot path with
    | nil => simp
    | cons name rest =>
      have plain := name_of_mem_normalizeLocalPath (names ▸ mem_cons_self)
      cases name with
      | nil => exact absurd rfl plain.1
      | cons letter =>
        have other : slash ≠ letter := fun same => plain.2.2.2 (same ▸ mem_cons_self)
        cases rest <;> simpa [List.intercalate, intersperse] using other.symm

/-- A normalized path leads where the path does, unless a `..` of a relative one climbs above a
start with something above it. -/
theorem normalizeLocalPath_preserves_iff :
    normalizedText slash dot (normalizedText slash dot path) = normalizedText slash dot path ∧
    (resolveAgainst slash dot base (normalizedText slash dot path) =
        resolveAgainst slash dot base path ↔
      path.head? = some slash ∨ base = [] ∨ climbs dot [] (path.splitOn slash) = 0) := by
  constructor
  · have names : normalizeLocalPath slash dot (normalizedText slash dot path) =
        normalizeLocalPath slash dot path := foldl_normalizedText
    rw [normalizedText, names, if_congr head?_normalizedText rfl rfl]
    rfl
  · rw [resolveAgainst, foldl_normalizedText, if_congr head?_normalizedText rfl rfl, resolveAgainst]
    by_cases absolute : path.head? = some slash
    · simp only [absolute, if_true, true_or, iff_true]
      rfl
    · have climbed := @foldl_pushComponent_append _ _ dot (path.splitOn slash) [] base
      rw [append_nil] at climbed
      rw [if_neg absolute, climbed, normalizeLocalPath, append_cancel_right_eq, eq_comm, rdrop,
        take_eq_self_iff, ← length_eq_zero_iff]
      simp only [absolute, false_or]
      omega

/-- `../data` is read as `data`, which is another directory. -/
theorem parent_lost : plainLocalPath "../data" = "data" ∧
    resolveAgainst '/' '.' ["home".toList, "user".toList] "../data".toList =
      ["home".toList, "data".toList] ∧
    resolveAgainst '/' '.' ["home".toList, "user".toList]
        (normalizedText '/' '.' "../data".toList) =
      ["home".toList, "user".toList, "data".toList] := by decide

end

/-! ## Local paths -/

/-- Pieces of a path that name something. -/
def namesOf (path : Text) : List (List UInt8) := ((path.splitOn '/').map utf8).filter isKept

lemma mass_namesOf (path : Text) : mass (namesOf path).flatten = mass (utf8 path) := by
  have kept : ∀ pieces : List Text,
      mass ((pieces.map utf8).filter isKept).flatten = mass (utf8 pieces.flatten) := by
    intro pieces
    induction pieces with
    | nil => rfl
    | cons piece _ ih =>
      have dropped : isKept (utf8 piece) = false → mass (utf8 piece) = 0 := by
        rw [isKept, Bool.and_eq_false_iff]
        simp only [decide_eq_false_iff_not, not_not]
        rintro (empty | dot)
        · rw [empty, mass_nil]
        · rw [dot]
          rfl
      rw [map_cons, filter_cons, flatten_cons, utf8_append, mass_append, ← ih]
      split
      · rw [flatten_cons, mass_append]
      · rename_i other
        rw [dropped (by simpa using other), Nat.zero_add]
  have slashes : ∀ text : Text,
      mass (utf8 (text.filter fun c => !(c == '/'))) = mass (utf8 text) := by
    intro text
    induction text with
    | nil => rfl
    | cons c _ ih =>
      rw [filter_cons, utf8_cons, mass_append]
      split
      · rw [utf8_cons, mass_append, ih]
      · rename_i isSlash
        obtain rfl : c = '/' := by simpa using isSlash
        rw [ih]
        exact (Nat.zero_add _).symm
  rw [namesOf, kept, List.splitOn, flatten_splitOnP, slashes]

lemma mass_normalizeLocalPath_le (bytes : List UInt8) :
    mass (normalizeLocalPath 47 46 bytes).flatten ≤ mass bytes := by
  have pushed : ∀ pieces out : List (List UInt8),
      mass (pieces.foldl (pushComponent 46) out).flatten ≤
        mass out.flatten + mass pieces.flatten := by
    intro pieces
    induction pieces with
    | nil => intro out; exact Nat.le_add_right _ _
    | cons piece _ ih =>
      intro out
      have step : mass (pushComponent 46 out piece).flatten ≤ mass out.flatten + mass piece := by
        have shorter := mass_flatten_le_of_sublist (dropLast_sublist out)
        rw [pushComponent]
        split
        · omega
        · split
          · omega
          · simp
      have later := ih (pushComponent 46 out piece)
      rw [foldl_cons, flatten_cons, mass_append]
      omega
  have split := mass_le_of_sublist
    (filter_sublist (p := fun byte : UInt8 => !(byte == 47)) (l := bytes))
  have whole := pushed (bytes.splitOn 47) []
  rw [List.splitOn, flatten_splitOnP] at whole
  rw [normalizeLocalPath, List.splitOn]
  simp only [flatten_nil, mass_nil] at whole
  omega

/-- Names that a `file` URI with this path addresses. -/
def addressed (caret : Bool) (path : Text) : List (List UInt8) :=
  normalizeLocalPath 47 46
    ((parsePath caret true path).flatMap fun segment => 47 :: percentDecode segment)

section

variable {caret : Bool} {path : Text}

lemma splitOnP_isSeparator (free : '\\' ∉ path) :
    path.splitOnP (isSeparator true) = path.splitOn '/' := by
  have same : ∀ text : Text, '\\' ∉ text →
      text.splitOnP (isSeparator true) = text.splitOnP (· == '/') := by
    intro text
    induction text with
    | nil => intro _; rfl
    | cons c _ ih =>
      intro absent
      rw [mem_cons, not_or] at absent
      have separates : isSeparator true c = (c == '/') := by
        simp [isSeparator, Ne.symm absent.1]
        rfl
      rw [splitOnP_cons_eq_if_modifyHead, splitOnP_cons_eq_if_modifyHead, ih absent.2, separates]
  exact same path free

/-- Escapes and backslashes apart, a URI addresses what the path in it names. -/
lemma addressed_eq (free : '\\' ∉ path)
    (plain : ∀ piece ∈ path.splitOn '/', ¬ HasEscape piece ∧ piece ≠ ['.', '.'])
    (noPipe : ¬ PipeFirst (path.splitOn '/')) : addressed caret path = namesOf path := by
  have decoded : ((parsePath caret true path).map percentDecode).filter isKept = namesOf path := by
    rw [parsePath, splitOnP_isSeparator free, decoded_addSegments plain (.inr noPipe)]
    rfl
  have closed : ∀ segment ∈ parsePath caret true path, (47 : UInt8) ∉ percentDecode segment := by
    refine forall_mem_addSegments (by simp [percentDecode]) ?_ (by simp)
    intro segment mem _ _ before inside
    obtain ⟨piece, isPiece, rfl⟩ := mem_map.mp mem
    rw [splitOnP_isSeparator free] at isPiece
    have letters : ∀ text : Text, '/' ∉ text → (47 : UInt8) ∉ utf8 text := by
      intro _ absent isByte
      obtain ⟨c, isLetter, encodes⟩ := mem_flatMap.mp isByte
      obtain rfl : c = '/' := eq_of_toNat (eq_of_mem_utf8EncodeChar (by decide) encodes)
      exact absent isLetter
    rcases drive_cases true before (percentEncode (isPathEncoded caret) piece) with
      same | ⟨letter, mark, -, isAlpha, -, fixed⟩
    · rw [same, percentDecode_encoded (plain piece isPiece).1] at inside
      exact letters piece (not_mem_of_mem_splitOn isPiece) inside
    · rw [fixed] at inside
      refine letters [letter, ':'] ?_ inside
      simp only [mem_cons, not_mem_nil, or_false, not_or]
      refine ⟨?_, by decide⟩
      rintro rfl
      revert isAlpha
      decide
  have pieces : (parsePath caret true path).flatMap
      (fun segment => (percentDecode segment).splitOn 47) =
      (parsePath caret true path).map percentDecode := by
    rw [flatMap_congr fun segment mem => splitOn_eq_singleton (closed segment mem)]
    exact (map_eq_flatMap ..).symm
  have noDots : ∀ piece ∈ [] :: (parsePath caret true path).map percentDecode,
      piece ≠ [46, 46] := by
    rintro _ mem rfl
    have kept : ([46, 46] : List UInt8) ∈ namesOf path := by
      rw [← decoded, mem_filter]
      exact ⟨(mem_cons.mp mem).resolve_left (by decide), by decide⟩
    obtain ⟨name, isName, same⟩ := mem_map.mp (mem_filter.mp kept).1
    exact (plain name isName).2 (utf8_injective same)
  rw [addressed, normalizeLocalPath, splitOn_flatMap_cons, pieces, foldl_pushComponent noDots,
    nil_append]
  exact decoded

lemma pathMass_encoded (caret : Bool) (pieces : List Text) :
    pathMass (pieces.map (percentEncode (isPathEncoded caret))) ≤ mass (utf8 pieces.flatten) ∧
      ((∃ piece ∈ pieces, HasEscape piece) →
        pathMass (pieces.map (percentEncode (isPathEncoded caret))) <
          mass (utf8 pieces.flatten)) := by
  induction pieces with
  | nil => simp
  | cons piece _ ih =>
    obtain ⟨_, strict⟩ := mass_percentDecode piece
    rw [map_cons, pathMass_cons, percentDecode_pathEncoded, flatten_cons, utf8_append, mass_append]
    refine ⟨by omega, ?_⟩
    rintro ⟨escaping, mem, escape⟩
    rcases mem_cons.mp mem with rfl | later
    · have := strict escape
      omega
    · have := ih.2 ⟨escaping, later, escape⟩
      omega

lemma mass_addressed_le (caret : Bool) (path : Text) :
    mass (addressed caret path).flatten ≤ pathMass (parsePath caret true path) := by
  have bytes : mass ((parsePath caret true path).flatMap fun segment =>
      47 :: percentDecode segment) = pathMass (parsePath caret true path) := by
    generalize parsePath caret true path = segments
    induction segments with
    | nil => rfl
    | cons _ _ ih =>
      rw [flatMap_cons, mass_append, mass_cons, ih, pathMass_cons]
      simp [weight]
  exact bytes ▸ mass_normalizeLocalPath_le _

lemma pathMass_parsePath_le (caret : Bool) (path : Text) : pathMass (parsePath caret true path) ≤
      mass (utf8 (path.filter fun c => !isSeparator true c)) := by
  have segments := pathMass_addSegments_le true []
    ((path.splitOnP (isSeparator true)).map (percentEncode (isPathEncoded caret)))
  have encoded := (pathMass_encoded caret (path.splitOnP (isSeparator true))).1
  rw [pathMass_nil] at segments
  rw [flatten_splitOnP] at encoded
  rw [parsePath]
  omega

lemma mass_addressed_le_utf8 (caret : Bool) (path : Text) :
    mass (addressed caret path).flatten ≤ mass (utf8 path) :=
  calc
    mass (addressed caret path).flatten ≤ pathMass (parsePath caret true path) :=
      mass_addressed_le caret path
    _ ≤ mass (utf8 (path.filter fun c => !isSeparator true c)) := pathMass_parsePath_le caret path
    _ ≤ mass (utf8 path) := mass_utf8_le_of_sublist filter_sublist

/-- A URI that addresses all of the path was not rewritten by the parser. -/
lemma plain_of_mass_addressed (kept : mass (utf8 path) ≤ mass (addressed caret path).flatten) :
    '\\' ∉ path ∧ (∀ piece ∈ path.splitOn '/', ¬ HasEscape piece) ∧
      ¬ PipeFirst (path.splitOn '/') := by
  have addressedMass := mass_addressed_le caret path
  have free : '\\' ∉ path := by
    have apart := mass_utf8_le_of_sublist (monotone_filter_right path
      (p := fun c => !isSeparator true c) (q := fun c => !(c == '\\')) (by
        intro c stays
        simp only [isSeparator, Bool.not_eq_true', Bool.or_eq_false_iff] at stays
        simpa using stays.2))
    have segments := pathMass_parsePath_le caret path
    have heavy : ∀ c : Char, (c == '\\') = true → c ≠ '/' ∧ c ≠ '.' := by
      intro c same
      rw [beq_iff_eq] at same
      rw [same]
      decide
    have absent : ∀ c ∈ path, (c == '\\') = false := filter_of_mass heavy (by omega)
    exact fun mem => absurd (absent '\\' mem) (by decide)
  have segments := pathMass_addSegments_le true []
    ((path.splitOn '/').map (percentEncode (isPathEncoded caret)))
  have encoded := pathMass_encoded caret (path.splitOn '/')
  have fewer : mass (utf8 (path.splitOn '/').flatten) ≤ mass (utf8 path) := by
    rw [List.splitOn, flatten_splitOnP]
    exact mass_utf8_le_of_sublist filter_sublist
  rw [parsePath, splitOnP_isSeparator free] at addressedMass
  rw [pathMass_nil] at segments
  refine ⟨free, fun piece mem escape => ?_, fun pipe => ?_⟩
  · have := encoded.2 ⟨piece, mem, escape⟩
    omega
  · have := @pathMass_of_pipeFirst caret _ pipe
    omega

end

/-! ## The URI of a local path -/

/-- A path that its `file` URI keeps. -/
structure PlainPath (path : String) : Prop where
  absolute : startsWith path "/" = true
  letters : ∀ c ∈ path.toList, c ∉ ['\t', '\n', '\r', '\\', '?', '#']
  closing : ∀ c ∈ path.toList.getLast?, isWhitespace c = false ∧ isC0OrSpace c = false
  names : ∀ piece ∈ path.toList.splitOn '/', piece ≠ ['.', '.'] ∧ ¬ HasEscape piece
  drive : ¬ PipeFirst ((path.toList.drop 1).splitOn '/')

/-- What the parser sees of a path after the first separator. -/
def visible (rest : Text) : Text :=
  beforeQuery (Crate.cleanedRest (rest.rdropWhile isWhitespace))

lemma heavy_of_isWhitespace (c : Char) (space : isWhitespace c = true) : c ≠ '/' ∧ c ≠ '.' := by
  constructor <;> rintro rfl <;> revert space <;> decide

lemma heavy_of_isC0OrSpace (c : Char) (control : isC0OrSpace c = true) : c ≠ '/' ∧ c ≠ '.' := by
  constructor <;> rintro rfl <;> revert control <;> decide

lemma heavy_of_isTabOrNewline (c : Char) (blank : isTabOrNewline c = true) : c ≠ '/' ∧ c ≠ '.' := by
  constructor <;> rintro rfl <;> revert blank <;> decide

/-- The letters that end a path or vanish from it. -/
structure Visible (rest : Text) : Prop where
  letters : ∀ c ∈ rest, isTabOrNewline c = false ∧ c ≠ '?' ∧ c ≠ '#'
  closing : ∀ c ∈ rest.getLast?, isWhitespace c = false ∧ isC0OrSpace c = false

lemma rdropWhile_eq_self {drops : Char → Bool} {text : Text} :
    text.rdropWhile drops = text ↔ ∀ c ∈ text.getLast?, drops c = false := by
  rw [rdropWhile_eq_self_iff]
  cases last : text.getLast? with
  | none =>
    rw [List.getLast?_eq_none_iff] at last
    simp [last]
  | some =>
    have nonempty : text ≠ [] := by
      rintro rfl
      cases last
    rw [List.getLast?_eq_some_getLast nonempty, Option.some.injEq] at last
    simp [nonempty, last]

variable {rest : Text}

lemma visible_eq_self (plain : Visible rest) : visible rest = rest := by
  have spaces : rest.rdropWhile isWhitespace = rest :=
    rdropWhile_eq_self.mpr fun c last => (plain.closing c last).1
  have controls : rest.rdropWhile isC0OrSpace = rest :=
    rdropWhile_eq_self.mpr fun c last => (plain.closing c last).2
  have blanks : rest.filter (fun c => !isTabOrNewline c) = rest :=
    filter_eq_self.mpr fun c mem => by simp [(plain.letters c mem).1]
  rw [visible, spaces, Crate.cleanedRest, controls, blanks, beforeQuery, takeWhile_eq_self_iff]
  intro c mem
  simp [(plain.letters c mem).2]

lemma mass_visible (rest : Text) : mass (utf8 (visible rest)) ≤ mass (utf8 rest) ∧
    (mass (utf8 rest) ≤ mass (utf8 (visible rest)) → Visible rest) := by
  have cuts : ∀ text : Text,
      beforeQuery text = text.takeWhile fun c => !(c == '?' || c == '#') := by
    intro text
    have same : (fun c : Char => decide (c ≠ '?') && decide (c ≠ '#')) =
        fun c => !(c == '?' || c == '#') := by
      funext c
      rw [Bool.eq_iff_iff]
      simp
    rw [beforeQuery, same]
  have heavyQuery : ∀ c : Char, (c == '?' || c == '#') = true → c ≠ '/' ∧ c ≠ '.' := by
    intro c ends
    rw [Bool.or_eq_true, beq_iff_eq, beq_iff_eq] at ends
    rcases ends with rfl | rfl <;> decide
  rw [visible, Crate.cleanedRest, cuts]
  generalize trimmed : rest.rdropWhile isWhitespace = text
  generalize stripped : text.rdropWhile isC0OrSpace = second
  generalize filtered : second.filter (fun c => !isTabOrNewline c) = third
  have fewerSpaces := mass_utf8_le_of_sublist
    (trimmed ▸ (List.rdropWhile_prefix isWhitespace rest).sublist)
  have fewerControls := mass_utf8_le_of_sublist
    (stripped ▸ (List.rdropWhile_prefix isC0OrSpace text).sublist)
  have fewerBlanks := mass_utf8_le_of_sublist
    (filtered ▸ filter_sublist (p := fun c => !isTabOrNewline c) (l := second))
  have shorter := mass_utf8_le_of_sublist
    (List.takeWhile_prefix (l := third) fun c => !(c == '?' || c == '#')).sublist
  refine ⟨by omega, fun kept => ?_⟩
  -- Every stage keeps the mass, so each of them keeps the text.
  have noSpaces : text = rest := by
    rw [← trimmed]
    exact rdropWhile_of_mass heavy_of_isWhitespace (by rw [trimmed]; omega)
  have noControls : second = text := by
    rw [← stripped]
    exact rdropWhile_of_mass heavy_of_isC0OrSpace (by rw [stripped]; omega)
  have noBlanks := filter_of_mass heavy_of_isTabOrNewline (by rw [filtered]; omega)
  have sameThird : third = second := by
    rw [← filtered, filter_eq_self]
    intro c mem
    rw [noBlanks c mem, Bool.not_false]
  have noQuery : ∀ c ∈ third, (c == '?' || c == '#') = false :=
    takeWhile_of_mass heavyQuery (by omega)
  rw [sameThird, noControls, noSpaces] at noQuery
  rw [noControls, noSpaces] at noBlanks
  rw [noSpaces] at trimmed
  rw [noControls, noSpaces] at stripped
  refine ⟨fun c mem => ⟨noBlanks c mem, ?_⟩, fun c last => ?_⟩
  · simpa using noQuery c mem
  · exact ⟨rdropWhile_eq_self.mp trimmed c last, rdropWhile_eq_self.mp stripped c last⟩

/-- The URI of a path addresses the names of the path exactly if the path is a plain one. -/
lemma addressed_visible_iff {caret : Bool} : addressed caret (visible rest) = namesOf rest ↔
      Visible rest ∧ '\\' ∉ rest ∧
        (∀ piece ∈ rest.splitOn '/', piece ≠ ['.', '.'] ∧ ¬ HasEscape piece) ∧
        ¬ PipeFirst (rest.splitOn '/') := by
  constructor
  · intro same
    have mass_eq := mass_namesOf rest
    rw [← same] at mass_eq
    have bound := mass_addressed_le_utf8 caret (visible rest)
    have isVisible := (mass_visible rest).2 (by omega)
    have unchanged := visible_eq_self isVisible
    rw [unchanged] at mass_eq
    obtain ⟨free, escapes, pipe⟩ := plain_of_mass_addressed (by rw [mass_eq])
    refine ⟨isVisible, free, fun piece mem => ⟨?_, escapes piece mem⟩, pipe⟩
    rintro rfl
    have kept : ([46, 46] : List UInt8) ∈ namesOf rest :=
      mem_filter.mpr ⟨mem_map.mpr ⟨_, mem, rfl⟩, by decide⟩
    rw [← same] at kept
    exact (name_of_mem_normalizeLocalPath kept).2.2.1 rfl
  · rintro ⟨isVisible, free, plain, pipe⟩
    rw [visible_eq_self isVisible]
    exact addressed_eq free (fun piece mem => (plain piece mem).symm) pipe

/-! ## Components -/

lemma toList_trim {text : String} {first last : Char} {more : Text}
    (letters : text.toList = first :: more ++ [last] ++ rest)
    (opens : isWhitespace first = false) (closes : isWhitespace last = false) :
    (trim text).toList = first :: more ++ [last] ++ rest.rdropWhile isWhitespace := by
  have start : text.toList.dropWhile isWhitespace = first :: more ++ [last] ++ rest := by
    rw [letters]
    exact dropWhile_cons_of_neg (by simp [opens])
  rw [trim, toList_ofList, start]
  exact Crate.rdropWhile_append_of_last closes

section

variable {names : List String}

lemma split_intercalate (free : ∀ name ∈ names, '/' ∉ name.toList) (nonempty : names ≠ []) :
    split (intercalate "/" names) '/' = names := by
  have slash : "/".toList = ['/'] := by decide
  rw [split, String.toList_intercalate, slash, splitOn_intercalate '/' ?_ (by simpa)]
  · rw [map_map]
    exact map_id'' (fun name => String.ofList_toList) names
  · intro _ mem
    obtain ⟨name, isName, rfl⟩ := mem_map.mp mem
    exact free name isName

lemma pieces_intercalate (plain : ∀ name ∈ names, name ≠ "" ∧ name ≠ "." ∧ '/' ∉ name.toList) :
    (split (intercalate "/" names) '/').filter (fun piece => piece ≠ "" && piece ≠ ".") =
      names := by
  by_cases empty : names = []
  · subst empty
    decide
  · rw [split_intercalate (fun name mem => (plain name mem).2.2) empty, filter_eq_self]
    intro name mem
    simp [(plain name mem).1, (plain name mem).2.1]

lemma components_intercalate
    (plain : ∀ name ∈ names, name ≠ "" ∧ name ≠ "." ∧ name ≠ ".." ∧ '/' ∉ name.toList) :
    Path.components (intercalate "/" names) = names := by
  have pieces := pieces_intercalate fun name mem =>
    ⟨(plain name mem).1, (plain name mem).2.1, (plain name mem).2.2.2⟩
  by_cases empty : names = []
  · subst empty
    decide
  · have split := split_intercalate (fun name mem => (plain name mem).2.2.2) empty
    have isPlain : Path.IsPlain (intercalate "/" names) := by
      rw [Path.IsPlain, split]
      exact fun name mem =>
        ⟨(plain name mem).1, (plain name mem).2.1, (plain name mem).2.2.1⟩
    rw [Path.components_eq, Path.leading_of_isPlain isPlain, pieces, nil_append]

lemma components_rootedPath (plain : ∀ name ∈ names, name ≠ "" ∧ name ≠ "." ∧ '/' ∉ name.toList) :
    Path.components (rootedPath names) = "/" :: names := by
  have slash : "/".toList = ['/'] := by decide
  have starts : startsWith (rootedPath names) "/" = true :=
    startsWith_iff.mpr ⟨_, rfl⟩
  have pieces : split (rootedPath names) '/' = [""] ++ split (intercalate "/" names) '/' := by
    rw [rootedPath, ← String.empty_append (s := "/"), split_append_cons slash]
    rfl
  rw [Path.components, starts, if_pos rfl, pieces, filter_append, pieces_intercalate plain]
  rfl

end

/-- The components of an absolute path, as bytes. -/
lemma components_absolute {path : String} (letters : path.toList = '/' :: rest) :
    ∃ names : List String, Path.components path = "/" :: names ∧
      names.map (fun name => utf8 name.toList) = namesOf rest := by
  have starts : startsWith path "/" = true := by
    rw [startsWith, letters]
    rfl
  refine ⟨(split path '/').filter fun piece => piece ≠ "" && piece ≠ ".", ?_, ?_⟩
  · rw [Path.components, starts, if_pos rfl]
  · have kept : ∀ piece : Text, (decide (ofList piece ≠ "") &&
        decide (ofList piece ≠ ".")) = isKept (utf8 piece) := by
      intro piece
      have empty : ofList piece = "" ↔ utf8 piece = [] :=
        ⟨fun same => by rw [String.ofList_eq_empty_iff.mp same]; rfl, fun same => by
          rw [utf8_injective (same.trans utf8_nil.symm)]⟩
      have dot : ofList piece = "." ↔ utf8 piece = [46] := by
        have letter : utf8 ['.'] = [46] := rfl
        rw [← letter]
        exact ⟨fun same => congrArg utf8 (ofList_inj.mp same), fun same => by
          rw [utf8_injective same]⟩
      simp [isKept, empty, dot]
    have head : (path.toList.splitOn '/') = [] :: rest.splitOn '/' := by
      rw [letters]
      exact splitOn_append_cons_self [] rest
    rw [split, head, filter_map, map_map, namesOf, filter_map]
    have selects : ((fun piece => decide (piece ≠ "") && decide (piece ≠ ".")) ∘ ofList) =
        isKept ∘ utf8 := funext kept
    have reads : ((fun name : String => utf8 name.toList) ∘ ofList) = utf8 :=
      funext fun piece => congrArg utf8 toList_ofList
    rw [filter_cons_of_neg (by decide), selects, reads]

variable {names : List String}

lemma mapM_fromUtf8 {pieces : List (List UInt8)} :
    pieces.mapM fromUtf8 = some names ↔ pieces = names.map fun name => utf8 name.toList := by
  induction pieces generalizing names with
  | nil =>
    cases names with
    | nil => exact iff_of_true rfl rfl
    | cons => simp
  | cons piece rest ih =>
    rw [mapM_cons]
    cases names with
    | nil =>
      cases fromUtf8 piece with
      | none => simp
      | some => cases rest.mapM fromUtf8 <;> simp
    | cons =>
      simp only [map_cons, List.cons.injEq, ← fromUtf8_eq_some, ← ih]
      cases fromUtf8 piece with
      | none => simp
      | some => cases rest.mapM fromUtf8 <;> simp

lemma components_of_mapM {bytes : List UInt8}
    (decoded : (normalizeLocalPath 47 46 bytes).mapM fromUtf8 = some names) :
    Path.components (rootedPath names) = "/" :: names := by
  rw [mapM_fromUtf8] at decoded
  refine components_rootedPath fun name mem => ?_
  have isName : utf8 name.toList ∈ normalizeLocalPath 47 46 bytes := by
    rw [decoded]
    exact mem_map_of_mem mem
  obtain ⟨nonempty, notDot, -, free⟩ := name_of_mem_normalizeLocalPath isName
  refine ⟨?_, ?_, ?_⟩
  · rintro rfl
    exact nonempty rfl
  · rintro rfl
    exact notDot rfl
  · intro slash
    exact free (mem_flatMap.mpr ⟨'/', slash, by decide⟩)

namespace DatasetLocation

variable {crate : Crate} {path : String}

/-- The parser sees a path URI without the spaces at its end. -/
lemma parse_localDir (crate : Crate) (path : String) :
    parse crate (DatasetLocation.localDir ⟨path⟩).displayUri =
      (parseLocalDataset crate (trim ("file://" ++ path))).map fun path => .localDir ⟨path⟩ := by
  have letters : ("file://" ++ path).toList = 'f' :: "ile:/".toList ++ ['/'] ++ path.toList :=
    toList_append
  have trimmed := toList_trim letters (by decide) (by decide)
  have nonempty : trim ("file://" ++ path) ≠ "" := by
    intro empty
    rw [empty] at trimmed
    cases trimmed
  have notS3 : startsWith (trim ("file://" ++ path)) "s3://" = false := by
    rw [startsWith, trimmed]
    rfl
  rw [parse]
  change (if trim ("file://" ++ path) = "" then _ else _) = _
  rw [if_neg nonempty]
  change (if startsWith (trim ("file://" ++ path)) "s3://" = true then _ else _) = _
  rw [notS3, if_neg Bool.false_ne_true]
  rfl

lemma crate_parse_localDir (crate : Crate) (path : String) :
    crate.parse (trim ("file://" ++ path)).toList =
      crate.parseFile (Crate.cleanedRest (path.toList.rdropWhile isWhitespace)) := by
  have letters : ("file://" ++ path).toList = 'f' :: "ile:/".toList ++ ['/'] ++ path.toList :=
    toList_append
  rw [toList_trim letters (by decide) (by decide)]
  exact Crate.parse_file _

lemma filePathOf_fileUrl (input : String) (rest : Text) :
    filePathOf input (crate.fileUrl none rest) =
      match (addressed crate.encodesCaret rest).mapM fromUtf8 with
      | none => .error (.invalidLocation "local path must be valid UTF-8")
      | some names => .ok (rootedPath names) := by
  have isFile : ¬ (crate.fileUrl none rest).scheme ≠ "file" := not_not.mpr rfl
  rw [filePathOf, if_neg isFile]
  rfl

lemma parseLocalDataset_absolute (letters : path.toList = '/' :: rest) :
    parseLocalDataset crate (trim ("file://" ++ path)) =
      match (addressed crate.encodesCaret (visible rest)).mapM fromUtf8 with
      | none => .error (.invalidLocation "local path must be valid UTF-8")
      | some names => .ok (rootedPath names) := by
  have trimmed : ('/' :: rest).rdropWhile isWhitespace = '/' :: rest.rdropWhile isWhitespace :=
    @Crate.rdropWhile_append_of_last _ _ [] _ (by decide)
  have cleaned : Crate.cleanedRest ('/' :: rest.rdropWhile isWhitespace) =
      '/' :: Crate.cleanedRest (rest.rdropWhile isWhitespace) := by
    have stripped : ('/' :: rest.rdropWhile isWhitespace).rdropWhile isC0OrSpace =
        '/' :: (rest.rdropWhile isWhitespace).rdropWhile isC0OrSpace :=
      @Crate.rdropWhile_append_of_last _ _ [] _ (by decide)
    rw [Crate.cleanedRest, stripped]
    rfl
  rw [parseLocalDataset, crate_parse_localDir, letters, trimmed, cleaned, Crate.parseFile_slash]
  dsimp only
  rw [filePathOf_fileUrl, visible]

lemma roundTrips_absolute (letters : path.toList = '/' :: rest) :
    RoundTrips crate (.localDir ⟨path⟩) ↔
      addressed crate.encodesCaret (visible rest) = namesOf rest := by
  obtain ⟨names, components, bytes⟩ := components_absolute letters
  have parsed := parse_localDir crate path
  rw [parseLocalDataset_absolute letters] at parsed
  constructor
  · rintro ⟨_, isFound, same⟩
    rw [parsed] at isFound
    cases decoded : (addressed crate.encodesCaret (visible rest)).mapM fromUtf8 with
    | none =>
      rw [decoded] at isFound
      cases isFound
    | some others =>
      rw [decoded] at isFound
      cases isFound
      change Path.components (rootedPath others) = Path.components path at same
      rw [components_of_mapM decoded, components] at same
      obtain ⟨-, rfl⟩ := List.cons.inj same
      rw [mapM_fromUtf8.mp decoded, bytes]
  · intro same
    have decoded : (addressed crate.encodesCaret (visible rest)).mapM fromUtf8 = some names := by
      rw [mapM_fromUtf8, same, bytes]
    refine ⟨.localDir ⟨rootedPath names⟩, ?_, ?_⟩
    · rw [parsed, decoded]
      rfl
    · change Path.components (rootedPath names) = Path.components path
      rw [components_of_mapM decoded, components]

/-! ## Relative paths -/

section

/-- Pieces of a text path that name something. -/
def isNamed (piece : Text) : Bool := piece ≠ [] && piece ≠ ['.']

lemma components_relative (relative : startsWith path "/" = false) :
    ∃ start : List Text, (start = [] ∨ start = [['.']]) ∧ (Path.components path).map String.toList =
        start ++ (path.toList.splitOn '/').filter isNamed := by
  have named : ((fun piece => decide (piece ≠ "") && decide (piece ≠ ".")) ∘ ofList) =
      isNamed := by
    funext piece
    have empty : ofList piece = "" ↔ piece = [] := String.ofList_eq_empty_iff
    have dot : ofList piece = "." ↔ piece = ['.'] :=
      ⟨fun same => ofList_inj.mp same, fun same => by rw [same]⟩
    simp [isNamed, empty, dot]
  have reads : String.toList ∘ ofList = id := funext fun piece => toList_ofList
  have pieces : ((split path '/').filter fun piece => piece ≠ "" && piece ≠ ".").map
      String.toList = (path.toList.splitOn '/').filter isNamed := by
    rw [split, filter_map, map_map, named, reads, map_id]
  rw [Path.components_eq, map_append, pieces, Path.leading, relative, if_neg Bool.false_ne_true]
  split
  · exact ⟨[['.']], .inr rfl, rfl⟩
  · exact ⟨[], .inl rfl, rfl⟩

/-- Text without separators belongs to the last piece. -/
lemma splitOn_append_of_not_mem {text more : Text} (free : '/' ∉ more) :
    ∃ before last, text.splitOn '/' = before ++ [last] ∧
      (text ++ more).splitOn '/' = before ++ [last ++ more] := by
  induction text with
  | nil => exact ⟨[], [], rfl, by rw [nil_append, splitOn_eq_singleton free]; rfl⟩
  | cons c _ ih =>
    obtain ⟨before, last, split, appended⟩ := ih
    rw [cons_append, splitOn_cons_eq_if_modifyHead, splitOn_cons_eq_if_modifyHead, split, appended]
    split
    · exact ⟨[] :: before, last, rfl, rfl⟩
    · cases before with
      | nil => exact ⟨[], c :: last, rfl, rfl⟩
      | cons first others => exact ⟨(c :: first) :: others, last, rfl, rfl⟩

lemma eq_of_rotated {first last : Text} {pieces : List Text}
    (same : first :: pieces = pieces ++ [last]) : last = first := by
  induction pieces generalizing first with
  | nil => exact (List.cons.inj same).1.symm
  | cons _ _ ih =>
    obtain ⟨rfl, tails⟩ := List.cons.inj same
    exact ih tails

/-- The components of a relative path never start with the scheme of its URI. -/
lemma relative_names_ne (relative : startsWith path "/" = false) :
    normalizeLocalPath '/' '.' ("file://".toList ++ path.toList.rdropWhile isWhitespace) ≠
      (Path.components path).map String.toList := by
  intro same
  have spaces : ∀ c ∈ path.toList.rtakeWhile isWhitespace, isWhitespace c = true :=
    fun c mem => mem_rtakeWhile_imp mem
  have free : '/' ∉ path.toList.rtakeWhile isWhitespace := fun mem =>
    absurd (spaces '/' mem) (by decide)
  have whole : path.toList.rdropWhile isWhitespace ++ path.toList.rtakeWhile isWhitespace =
      path.toList := rdropWhile_append_rtakeWhile
  obtain ⟨before, last, split, appended⟩ :=
    @splitOn_append_of_not_mem (path.toList.rdropWhile isWhitespace) _ free
  rw [whole] at appended
  obtain ⟨start, isStart, components⟩ := components_relative relative
  rw [appended, filter_append] at components
  generalize path.toList.rtakeWhile isWhitespace = blank at *
  have noDots : ∀ piece ∈ before, piece ≠ ['.', '.'] := by
    rintro _ mem rfl
    have kept : ['.', '.'] ∈ (Path.components path).map String.toList := by
      rw [components]
      exact mem_append_right _ (mem_append_left _ (mem_filter.mpr ⟨mem, by decide⟩))
    rw [← same] at kept
    exact (name_of_mem_normalizeLocalPath kept).2.2.1 rfl
  have names : normalizeLocalPath '/' '.'
      ("file://".toList ++ path.toList.rdropWhile isWhitespace) =
      pushComponent '.' ("file:".toList :: before.filter isNamed) last := by
    have pieces : ("file://".toList ++ path.toList.rdropWhile isWhitespace).splitOn '/' =
        "file:".toList :: [] :: (before ++ [last]) := by
      rw [← split]
      have parts : "file://".toList ++ path.toList.rdropWhile isWhitespace =
          "file:".toList ++ '/' :: ([] ++ '/' :: path.toList.rdropWhile isWhitespace) := rfl
      rw [parts, splitOn_append_cons_self, splitOn_append_cons_self]
      rfl
    rw [normalizeLocalPath, pieces, foldl_cons, foldl_cons, foldl_append,
      foldl_pushComponent noDots]
    rfl
  rw [names, components] at same
  generalize before.filter isNamed = kept at same
  have few : ([last ++ blank].filter isNamed).length ≤ 1 := length_filter_le _ _
  -- The scheme in front makes the list longer, or turns it by one place.
  have headed : ∀ rest, "file:".toList :: rest = start ++ (kept ++ [last ++ blank].filter isNamed) →
      "file:".toList :: rest = kept ++ [last ++ blank].filter isNamed := by
    intro _ equal
    rcases isStart with rfl | rfl
    · exact equal
    · exact absurd (List.cons.inj equal).1 (by decide)
  rw [pushComponent] at same
  split at same
  · rename_i dropped
    have turned := headed _ same
    have named : isNamed (last ++ blank) = true := by
      by_contra other
      have lengths := congrArg List.length turned
      rw [filter_cons_of_neg other] at lengths
      simp at lengths
    rw [filter_cons_of_pos named] at turned
    have isScheme := eq_of_rotated turned
    rcases dropped with rfl | rfl
    · have blankScheme : blank = "file:".toList := isScheme
      exact absurd (spaces 'f' (blankScheme ▸ mem_cons_self)) (by decide)
    · cases isScheme
  · split at same
    · rename_i isDots
      have named : isNamed (last ++ blank) = true := by
        rw [isDots]
        rfl
      have lengths := congrArg List.length same
      rw [filter_cons_of_pos named] at lengths
      simp only [filter_nil, length_dropLast, length_cons, length_append, length_nil] at lengths
      omega
    · have lengths := congrArg List.length (headed (kept ++ [last]) same)
      simp only [length_cons, length_append, length_nil] at lengths
      omega

lemma not_roundTrips_relative (relative : startsWith path "/" = false) :
    ¬ RoundTrips crate (.localDir ⟨path⟩) := by
  rintro ⟨_, isFound, same⟩
  rw [parse_localDir, parseLocalDataset, crate_parse_localDir] at isFound
  cases parsed : crate.parseFile (Crate.cleanedRest (path.toList.rdropWhile isWhitespace)) with
  | ok url =>
    rw [parsed] at isFound
    obtain ⟨text, isText, rfl⟩ := Result.map_eq_ok.mp isFound
    have rooted : ∃ names, Path.components text = "/" :: names := by
      change filePathOf _ url = .ok text at isText
      unfold filePathOf at isText
      split at isText
      · cases isText
      · split at isText
        · cases isText
        · split at isText
          · cases isText
          · rename_i names decoded
            cases isText
            exact ⟨names, components_of_mapM decoded⟩
    obtain ⟨_, components⟩ := rooted
    obtain ⟨start, isStart, texts⟩ := components_relative relative
    rw [← same, components, map_cons] at texts
    have isSlash : ['/'] ∈ start ++ (path.toList.splitOn '/').filter isNamed := by
      rw [← texts]
      exact mem_cons_self
    rcases mem_append.mp isSlash with inStart | inPieces
    · rcases isStart with rfl | rfl
      · cases inStart
      · exact absurd inStart (by decide)
    · exact not_mem_of_mem_splitOn (mem_filter.mp inPieces).1 mem_cons_self
  | error =>
    rw [parsed] at isFound
    obtain rfl := Except.ok.inj isFound
    have components := same
    have letters : ("file://" ++ path).toList = 'f' :: "ile:/".toList ++ ['/'] ++ path.toList :=
      toList_append
    have trimmed := toList_trim letters (by decide) (by decide)
    have schemed : startsWith (trim ("file://" ++ path)) "/" = false := by
      rw [startsWith, trimmed]
      rfl
    refine relative_names_ne relative ?_
    rw [← components, plainLocalPath, schemed, if_neg Bool.false_ne_true, trimmed,
      components_intercalate]
    · rw [map_map]
      exact (map_id'' (fun name => toList_ofList) _).symm
    · intro _ mem
      obtain ⟨_, isPiece, rfl⟩ := mem_map.mp mem
      obtain ⟨nonempty, notDot, notDots, _⟩ := name_of_mem_normalizeLocalPath isPiece
      refine ⟨?_, ?_, ?_, by rwa [toList_ofList]⟩
      · exact fun equal => nonempty (String.ofList_eq_empty_iff.mp equal)
      · exact fun equal => notDot (ofList_inj.mp equal)
      · exact fun equal => notDots (ofList_inj.mp equal)

end

/-- A local path is read back from its URI exactly if it is a plain one. -/
lemma roundTrips_localDir_iff : RoundTrips crate (.localDir ⟨path⟩) ↔ PlainPath path := by
  cases absolute : startsWith path "/" with
  | false =>
    refine iff_of_false (not_roundTrips_relative absolute) fun plain => ?_
    rw [plain.absolute] at absolute
    cases absolute
  | true =>
    obtain ⟨more, isMore⟩ := startsWith_iff.mp absolute
    have letters : path.toList = '/' :: more.toList := by
      rw [isMore]
      exact toList_append
    have pieces : path.toList.splitOn '/' = [] :: more.toList.splitOn '/' := by
      rw [letters]
      exact splitOn_append_cons_self [] _
    rw [roundTrips_absolute letters, addressed_visible_iff]
    constructor
    · rintro ⟨isVisible, free, plain, _⟩
      refine ⟨absolute, ?_, ?_, ?_, ?_⟩
      · rw [letters]
        intro c mem special
        rcases mem_cons.mp mem with rfl | later
        · revert special
          decide
        · obtain ⟨blank, query, fragment⟩ := isVisible.letters c later
          simp only [mem_cons, not_mem_nil, or_false] at special
          rcases special with rfl | rfl | rfl | rfl | rfl | rfl
          · cases blank
          · cases blank
          · cases blank
          · exact free later
          · exact query rfl
          · exact fragment rfl
      · rw [letters]
        intro c last
        cases rest : more.toList with
        | nil =>
          rw [rest] at last
          obtain rfl := Option.some.inj last
          decide
        | cons =>
          rw [rest, List.getLast?_cons_cons, ← rest] at last
          exact isVisible.closing c last
      · rw [pieces]
        intro piece mem
        rcases mem_cons.mp mem with rfl | later
        · exact ⟨by simp, not_hasEscape_nil⟩
        · exact plain piece later
      · rwa [letters]
    · intro plain
      have special := plain.letters
      have closing := plain.closing
      have names := plain.names
      have drive := plain.drive
      rw [letters] at special closing drive
      rw [pieces] at names
      refine ⟨⟨fun c mem => ?_, fun c last => ?_⟩, fun mem => ?_, fun piece mem => ?_, drive⟩
      · have kept := special c (mem_cons_of_mem _ mem)
        simp only [mem_cons, not_mem_nil, or_false, not_or] at kept
        simp [isTabOrNewline, kept]
      · refine closing c ?_
        cases rest : more.toList with
        | nil =>
          rw [rest] at last
          cases last
        | cons =>
          rw [List.getLast?_cons_cons, ← rest]
          exact last
      · exact special _ (mem_cons_of_mem _ mem) (by decide)
      · exact names piece (mem_cons_of_mem _ mem)

end DatasetLocation

end Parqonaut.Storage
