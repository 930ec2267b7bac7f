import Parqonaut.Storage.LocationUri

/-!
# Object-store locations as URIs

Which buckets and key prefixes come back when the URI of an object-store location is parsed
again.
-/

namespace Parqonaut.Storage

open Rust Rust.UrlCrate List Crate DatasetLocation Result Str
open String (toList_ofList ofList toList_append)

/-! ## Buckets -/

/-- A bucket name that the parser of hosts keeps. -/
def PlainBucket (crate : Crate) (bucket : Text) : Prop :=
  bucket ≠ [] ∧ ((∀ c ∈ bucket, isForbiddenHost c = false ∧ isControl c = false) ∨
    ∃ address, bucket = '[' :: address ++ [']'] ∧ crate.parseIpv6 address = .ok address)

variable {crate : Crate} {c : Char}

lemma not_isControl_of_isHexDigit (isHex : isHexDigit c = true) :
    isForbiddenHost c = false ∧ isControl c = false := by
  have range := range_of_isHexDigit isHex
  constructor
  · by_contra forbidden
    rw [Bool.not_eq_false] at forbidden
    simp only [isForbiddenHost, isTabOrNewline, Bool.or_eq_true, decide_eq_true_eq,
      contains_iff_mem, mem_cons, not_mem_nil, or_false] at forbidden
    rcases forbidden with (rfl | (rfl | rfl) | rfl) | rfl | rfl | rfl | rfl | rfl | rfl | rfl |
      rfl | rfl | rfl | rfl | rfl | rfl <;> revert range <;> decide
  · simp only [isControl]
    simp
    omega

variable {isEncoded : Char → Bool} {text : Text}

/-- The letters of a percent-encoded text. -/
lemma forall_mem_percentEncode {property : Char → Prop}
    (percent : property '%') (digits : ∀ c, isHexDigit c = true → property c)
    (kept : ∀ c ∈ text, isEncoded c = false → property c) :
    ∀ c ∈ percentEncode isEncoded text, property c := by
  intro c mem
  obtain ⟨letter, isLetter, inside⟩ := mem_flatMap.mp mem
  rw [encodeChar] at inside
  split at inside
  · obtain ⟨byte, -, isEscape⟩ := mem_flatMap.mp inside
    have bound : byte.toNat < 256 := byte.toNat_lt
    simp only [escaped, mem_cons, not_mem_nil, or_false] at isEscape
    rcases isEscape with rfl | rfl | rfl
    · exact percent
    · exact digits _ (isHexDigit_hexDigit (by omega))
    · exact digits _ (isHexDigit_hexDigit (by omega))
  · rename_i plain
    rw [mem_singleton.mp inside]
    exact kept letter isLetter (by simpa using plain)

lemma percentEncode_eq_self
    (plain : ∀ c ∈ text, isEncoded c = false) : percentEncode isEncoded text = text := by
  induction text with
  | nil => rfl
  | cons c _ ih =>
    rw [percentEncode_cons, encodeChar, plain c mem_cons_self,
      if_neg Bool.false_ne_true, ih fun other mem => plain other (mem_cons_of_mem _ mem)]
    rfl

variable {host : Text}

/-- A host that the parser returns: plain letters or an address. -/
lemma opaqueHost_letters (parsed : crate.opaqueHost text = .ok host) :
    (∀ c ∈ host, isForbiddenHost c = false ∧ isControl c = false) ∨
      ∃ inner address, host = '[' :: address ++ [']'] ∧ crate.parseIpv6 inner = .ok address := by
  unfold opaqueHost at parsed
  split at parsed
  · split at parsed
    · obtain ⟨address, isAddress, made⟩ := bind_eq_ok.mp parsed
      exact .inr ⟨_, address, (pure_eq_ok.mp made).symm, isAddress⟩
    · cases parsed
  · split at parsed
    · cases parsed
    · rename_i allowed
      obtain rfl := Except.ok.inj parsed
      refine .inl (forall_mem_percentEncode (by decide)
        (fun c isHex => not_isControl_of_isHexDigit isHex) fun c mem plain => ⟨?_, plain⟩)
      by_contra forbidden
      exact allowed (any_eq_true.mpr ⟨c, mem, by simpa using forbidden⟩)

lemma opaqueHost_address (address : Text) : crate.opaqueHost ('[' :: address ++ [']']) = do
      let found ← crate.parseIpv6 address
      return '[' :: found ++ [']'] := by
  change (if (address ++ [']']).getLast? = some ']' then do
      let found ← crate.parseIpv6 (address ++ [']']).dropLast
      return '[' :: found ++ [']']
    else _) = _
  rw [List.getLast?_concat, if_pos rfl, dropLast_concat]

variable {bucket : Text}

lemma opaqueHost_eq_self :
    (crate.opaqueHost bucket = .ok bucket ∧ bucket ≠ []) ↔ PlainBucket crate bucket := by
  constructor
  · rintro ⟨parsed, nonempty⟩
    refine ⟨nonempty, ?_⟩
    rcases opaqueHost_letters parsed with plain | ⟨-, address, isAddress, -⟩
    · exact .inl plain
    · refine .inr ⟨address, isAddress, ?_⟩
      rw [isAddress, opaqueHost_address] at parsed
      obtain ⟨_, isFound, made⟩ := bind_eq_ok.mp parsed
      have same := List.cons.inj (pure_eq_ok.mp made)
      rw [isFound, append_cancel_right same.2]
  · rintro ⟨nonempty, plain | ⟨_, rfl, isAddress⟩⟩
    · refine ⟨?_, nonempty⟩
      have allowed : ¬ bucket.any isForbiddenHost = true := by
        rw [any_eq_true]
        rintro ⟨c, mem, forbidden⟩
        rw [(plain c mem).1] at forbidden
        cases forbidden
      have encoded := percentEncode_eq_self fun c mem => (plain c mem).2
      unfold opaqueHost
      split
      · exact absurd (plain '[' mem_cons_self).1 (by decide)
      · rw [if_neg allowed, encoded]
    · refine ⟨?_, nonempty⟩
      rw [opaqueHost_address, isAddress]
      rfl

/-! ## Authority -/

/-- Letters of which an authority may consist. -/
def isAuthorityLetter (c : Char) : Bool :=
  !isTabOrNewline c && !isAuthorityEnd false c && c ≠ '@'

/-- A bucket that is all of its authority. -/
structure WholeHost (bucket : Text) : Prop where
  letters : ∀ c ∈ bucket, isAuthorityLetter c = true
  port : splitPort false bucket = (bucket, none)

lemma splitPort_plain (free : ∀ c ∈ text, c ≠ ':') (inside : Bool) :
    splitPort inside text = (text, none) := by
  induction text generalizing inside with
  | nil => rfl
  | cons c _ ih =>
    have notColon := free c mem_cons_self
    rw [splitPort, if_neg (by simp [notColon]),
      ih fun other mem => free other (mem_cons_of_mem _ mem)]

lemma splitPort_address {address : Text} (letters : ∀ c ∈ address, isIpv6Letter c = true) :
    splitPort true (address ++ [']']) = (address ++ [']'], none) := by
  induction address with
  | nil => rfl
  | cons c _ ih =>
    have isLetter := letters c mem_cons_self
    have others : c ≠ '[' ∧ c ≠ ']' := by
      constructor <;> rintro rfl <;> revert isLetter <;> decide
    rw [cons_append, splitPort, if_neg (by simp), if_neg others.1, if_neg others.2,
      ih fun other mem => letters other (mem_cons_of_mem _ mem)]

/-- Any other letter ends the authority or is removed from it. -/
lemma isAuthorityLetter_of
    (allowed : c ∉ ['\t', '\n', '\r', '/', '?', '#', '@']) : isAuthorityLetter c = true := by
  simp only [mem_cons, not_mem_nil, or_false, not_or] at allowed
  simp [isAuthorityLetter, isAuthorityEnd, isSeparator, isTabOrNewline, allowed]

/-- The letters of a parsed host. -/
def HostLetters (host : Text) : Prop :=
  (∀ c ∈ host, isForbiddenHost c = false ∧ isControl c = false) ∨
    ∃ address, host = '[' :: address ++ [']'] ∧ ∀ c ∈ address, isIpv6Letter c = true

lemma wholeHost_of_hostLetters (letters : HostLetters host) : WholeHost host := by
  rcases letters with plain | ⟨_, rfl, isAddress⟩
  · refine ⟨fun c mem => isAuthorityLetter_of fun special => ?_,
      splitPort_plain (fun c mem => ?_) false⟩
    · have forbidden : ∀ c ∈ ['\t', '\n', '\r', '/', '?', '#', '@'],
          isForbiddenHost c = true := forall_mem_of_all (by decide)
      exact absurd (forbidden c special) (by simp [(plain c mem).1])
    · rintro rfl
      exact absurd (plain ':' mem).1 (by decide)
  · refine ⟨fun c mem => isAuthorityLetter_of fun special => ?_, ?_⟩
    · have outside : ∀ c ∈ ['\t', '\n', '\r', '/', '?', '#', '@'],
          isIpv6Letter c = false ∧ c ≠ '[' ∧ c ≠ ']' :=
        forall_mem_of_all (by decide)
      obtain ⟨notLetter, notOpen, notClose⟩ := outside c special
      rw [cons_append, mem_cons, mem_append, mem_singleton] at mem
      rcases mem with isOpen | inside | isClose
      · exact notOpen isOpen
      · rw [isAddress c inside] at notLetter
        cases notLetter
      · exact notClose isClose
    · rw [cons_append, splitPort, if_neg (by decide), if_pos rfl, splitPort_address isAddress]

lemma hostLetters_of_plainBucket (plain : PlainBucket crate bucket) :
    HostLetters bucket := by
  obtain ⟨-, letters | ⟨address, isAddress, parsed⟩⟩ := plain
  · exact .inl letters
  · exact .inr ⟨address, isAddress, crate.ipv6_letters _ _ parsed⟩

/-- The URL of a bucket that is all of its authority. -/
def bucketUrl (crate : Crate) (host rest : Text) : Url where
  scheme := "s3"
  username := []
  password := none
  host := some host
  path := parsePath crate.encodesCaret false (beforeQuery rest)

variable {rest : Text}

lemma parseAuthority_of_wholeHost (whole : WholeHost bucket) (nonempty : bucket ≠ []) :
    crate.parseAuthority "s3" (bucket ++ '/' :: rest) = do
      let host ← crate.opaqueHost bucket
      return bucketUrl crate host rest := by
  have stays : ∀ c ∈ bucket, (!isAuthorityEnd false c) = true := by
    intro c mem
    have isLetter := whole.letters c mem
    rw [isAuthorityLetter, Bool.and_eq_true, Bool.and_eq_true] at isLetter
    exact isLetter.1.2
  have authority : (bucket ++ '/' :: rest).takeWhile (fun c => !isAuthorityEnd false c) =
      bucket := by
    rw [takeWhile_append_of_pos stays]
    exact append_nil bucket
  have after : (bucket ++ '/' :: rest).dropWhile (fun c => !isAuthorityEnd false c) =
      '/' :: rest := by
    rw [dropWhile_append_of_pos stays]
    rfl
  have noCredentials : splitCredentials bucket = ([], bucket) := by
    refine if_neg fun mem => ?_
    have isLetter := whole.letters '@' mem
    revert isLetter
    decide
  have path : beforeQuery ('/' :: rest) = '/' :: beforeQuery rest := rfl
  have host : crate.authorityHost [] bucket none = do
      let parsed ← crate.opaqueHost bucket
      return some parsed := by
    rw [authorityHost, if_neg nonempty]
    rfl
  rw [parseAuthority]
  simp only [authority, after, noCredentials, whole.port, path, host]
  cases crate.opaqueHost bucket <;> rfl

lemma percentEncode_ne_nil (nonempty : text ≠ []) : percentEncode isEncoded text ≠ [] := by
  obtain ⟨c, _, rfl⟩ := exists_cons_of_ne_nil nonempty
  rw [percentEncode_cons]
  rcases encodeChar_cases c with ⟨kept, -⟩ | ⟨-, _, encoded⟩
  · rw [kept]
    simp
  · rw [encoded]
    simp

lemma opaqueHost_ne_nil (nonempty : text ≠ [])
    (parsed : crate.opaqueHost text = .ok host) : host ≠ [] := by
  unfold opaqueHost at parsed
  split at parsed
  · split at parsed
    · obtain ⟨_, -, closed⟩ := bind_eq_ok.mp parsed
      rw [← pure_eq_ok.mp closed]
      simp
    · cases parsed
  · split at parsed
    · cases parsed
    · rw [← Except.ok.inj parsed]
      exact percentEncode_ne_nil nonempty

variable {url : Url}

lemma host_of_parseAuthority
    (parsed : crate.parseAuthority "s3" rest = .ok url) (isHost : url.host = some host) :
    ∃ text, text ≠ [] ∧ crate.opaqueHost text = .ok host := by
  rw [parseAuthority] at parsed
  obtain ⟨found, isFound, made⟩ := bind_eq_ok.mp parsed
  obtain rfl := pure_eq_ok.mp made
  obtain rfl : found = some host := isHost
  rw [authorityHost] at isFound
  split at isFound
  · split at isFound <;> cases isFound
  · rename_i nonempty
    split at isFound
    · obtain ⟨_, isName, same⟩ := bind_eq_ok.mp isFound
      obtain rfl := Option.some.inj (pure_eq_ok.mp same)
      exact ⟨_, nonempty, isName⟩
    · cases isFound

lemma hostLetters_of_opaqueHost (parsed : crate.opaqueHost text = .ok host) :
    HostLetters host := by
  rcases opaqueHost_letters parsed with plain | ⟨_, address, isAddress, isParsed⟩
  · exact .inl plain
  · exact .inr ⟨address, isAddress, crate.ipv6_letters _ _ isParsed⟩

lemma filter_of_wholeHost (whole : WholeHost bucket) :
    bucket.filter (fun c => !isTabOrNewline c) = bucket := by
  rw [filter_eq_self]
  intro c mem
  have isLetter := whole.letters c mem
  rw [isAuthorityLetter, Bool.and_eq_true, Bool.and_eq_true] at isLetter
  exact isLetter.1.1

/-- A bucket that is found again is plain. -/
lemma bucketUrl_of_parseAuthority (parsed : crate.parseAuthority "s3"
      (bucket.filter (fun c => !isTabOrNewline c) ++ '/' :: rest) = .ok url)
    (isHost : url.host = some bucket) :
    PlainBucket crate bucket ∧ url = bucketUrl crate bucket rest := by
  obtain ⟨_, named, isName⟩ := host_of_parseAuthority parsed isHost
  have nonempty := opaqueHost_ne_nil named isName
  have whole := wholeHost_of_hostLetters (hostLetters_of_opaqueHost isName)
  rw [filter_of_wholeHost whole, parseAuthority_of_wholeHost whole nonempty] at parsed
  obtain ⟨again, isAgain, returned⟩ := bind_eq_ok.mp parsed
  obtain rfl := pure_eq_ok.mp returned
  obtain rfl : again = bucket := Option.some.inj isHost
  exact ⟨opaqueHost_eq_self.mp ⟨isAgain, nonempty⟩, rfl⟩

/-- The URI of a plain bucket is read as such. -/
lemma parseAuthority_of_plainBucket (plain : PlainBucket crate bucket) :
    crate.parseAuthority "s3" (bucket.filter (fun c => !isTabOrNewline c) ++ '/' :: rest) =
      .ok (bucketUrl crate bucket rest) := by
  have whole := wholeHost_of_hostLetters (hostLetters_of_plainBucket plain)
  obtain ⟨isHost, nonempty⟩ := opaqueHost_eq_self.mpr plain
  rw [filter_of_wholeHost whole, parseAuthority_of_wholeHost whole nonempty, isHost]
  rfl

/-! ## Keys -/

/-- A key prefix that the parser keeps. -/
structure PlainKey (crate : Crate) (key : Text) : Prop where
  letters : ∀ c ∈ key, isPathEncoded crate.encodesCaret c = false
  opening : key.head? ≠ some '/'
  closing : key.getLast? ≠ some '/'
  segments : ∀ piece ∈ key.splitOn '/', piece ∉ singleDots ∧ piece ∉ doubleDots

/-- Key prefix that is read from a path. -/
def keyOf (path : List Text) : Text :=
  ((path.flatMap ('/' :: ·)).dropWhile (· == '/')).rdropWhile (· == '/')

/-- Key of an object, where separators at the end count. -/
def keyText (path : List Text) : Text := (path.flatMap ('/' :: ·)).dropWhile (· == '/')

lemma drive_of_not_file (path : List Text) (segment : Text) :
    drive false path segment = segment := by
  unfold drive
  split <;> rfl

/-- Other letters are removed or encoded. -/
lemma letters_of_not_isPathEncoded {caret : Bool} (plain : isPathEncoded caret c = false) :
    isWhitespace c = false ∧ isC0OrSpace c = false ∧ isTabOrNewline c = false ∧
      c ≠ '?' ∧ c ≠ '#' := by
  have range : 0x21 ≤ c.toNat ∧ c.toNat ≤ 0x7e := by
    simp only [isPathEncoded, isControl, Bool.or_eq_false_iff, decide_eq_false_iff_not,
      contains_cons, beq_eq_false_iff_ne] at plain
    omega
  refine ⟨?_, ?_, ?_, ?_, ?_⟩
  · simp only [isWhitespace]
    simp
    omega
  · simp only [isC0OrSpace]
    simp
    omega
  · by_contra blank
    rw [Bool.not_eq_false] at blank
    simp only [isTabOrNewline, Bool.or_eq_true, decide_eq_true_eq] at blank
    rcases blank with (rfl | rfl) | rfl <;> revert range <;> decide
  · rintro rfl
    revert plain
    cases caret <;> decide
  · rintro rfl
    revert plain
    cases caret <;> decide

lemma addSegments_plain {path segments : List Text}
    (plain : ∀ segment ∈ segments, segment ∉ singleDots ∧ segment ∉ doubleDots) :
    addSegments false path segments = path ++ segments := by
  induction segments generalizing path with
  | nil => exact (append_nil path).symm
  | cons segment _ ih =>
    obtain ⟨notSingle, notDouble⟩ := plain segment mem_cons_self
    rw [addSegments, addSegment, if_neg notDouble, if_neg notSingle, drive_of_not_file,
      ih fun other mem => plain other (mem_cons_of_mem _ mem), append_assoc]
    rfl

lemma splitOnP_isSeparator_false (text : Text) :
    text.splitOnP (isSeparator false) = text.splitOn '/' := by
  have same : isSeparator false = (· == '/') := by
    funext c
    rw [Bool.eq_iff_iff]
    simp [isSeparator]
  rw [same, List.splitOn]

lemma flatMap_splitOn (key : Text) : (key.splitOn '/').flatMap ('/' :: ·) = '/' :: key := by
  induction key with
  | nil => rfl
  | cons c rest ih =>
    rw [splitOn_cons_eq_if_modifyHead]
    obtain ⟨piece, pieces, split⟩ := exists_cons_of_ne_nil (splitOn_ne_nil '/' rest)
    split
    · rename_i isSlash
      obtain rfl : c = '/' := by simpa using isSlash
      rw [flatMap_cons, ih]
      rfl
    · rw [split, flatMap_cons] at ih
      have tails : piece ++ pieces.flatMap ('/' :: ·) = rest := (List.cons.inj ih).2
      rw [split, modifyHead_cons, flatMap_cons, cons_append, cons_append, tails]

section

variable {caret : Bool} {key : Text}

lemma keyText_plain (letters : ∀ c ∈ key, isPathEncoded caret c = false)
    (opening : key.head? ≠ some '/')
    (segments : ∀ piece ∈ key.splitOn '/', piece ∉ singleDots ∧ piece ∉ doubleDots) :
    keyText (parsePath caret false key) = key := by
  have encoded : (key.splitOn '/').map (percentEncode (isPathEncoded caret)) = key.splitOn '/' := by
    refine (map_congr_left fun piece mem => ?_).trans (map_id _)
    exact percentEncode_eq_self fun c inside => letters c (mem_of_mem_splitOn mem inside)
  rw [parsePath, splitOnP_isSeparator_false, encoded, addSegments_plain segments, nil_append,
    keyText, flatMap_splitOn, dropWhile_cons_of_pos (by decide)]
  cases key with
  | nil => rfl
  | cons => exact dropWhile_cons_of_neg (by simpa using opening)

lemma keyOf_plain (letters : ∀ c ∈ key, isPathEncoded caret c = false)
    (opening : key.head? ≠ some '/') (closing : key.getLast? ≠ some '/')
    (segments : ∀ piece ∈ key.splitOn '/', piece ∉ singleDots ∧ piece ∉ doubleDots) :
    keyOf (parsePath caret false key) = key := by
  change (keyText _).rdropWhile _ = _
  rw [keyText_plain letters opening segments, rdropWhile_eq_self]
  intro c last
  rw [beq_eq_false_iff_ne]
  rintro rfl
  exact closing last

/-- Separators at the start do not add pieces. -/
lemma splitOn_dropWhile_subset (text : Text) :
    ∀ piece ∈ (text.dropWhile (· == '/')).splitOn '/', piece ∈ text.splitOn '/' := by
  induction text with
  | nil => exact fun _ mem => mem
  | cons c rest ih =>
    intro piece mem
    by_cases isSlash : c = '/'
    · subst isSlash
      rw [dropWhile_cons_of_pos (by decide)] at mem
      have split : ('/' :: rest).splitOn '/' = [] :: rest.splitOn '/' :=
        splitOn_append_cons_self [] rest
      rw [split]
      exact mem_cons_of_mem _ (ih piece mem)
    · rwa [dropWhile_cons_of_neg (by simpa using isSlash)] at mem

lemma splitOn_rdropWhile_subset (text : Text) :
    ∀ piece ∈ (text.rdropWhile (· == '/')).splitOn '/', piece ∈ text.splitOn '/' := by
  intro _ mem
  have whole : text.rdropWhile (· == '/') ++ text.rtakeWhile (· == '/') = text :=
    rdropWhile_append_rtakeWhile
  cases ends : text.rtakeWhile (· == '/') with
  | nil =>
    rw [ends, append_nil] at whole
    rwa [whole] at mem
  | cons c =>
    have isSlash : c ∈ text.rtakeWhile (· == '/') := ends ▸ mem_cons_self
    obtain rfl : c = '/' := by simpa using mem_rtakeWhile_imp isSlash
    rw [ends] at whole
    rw [← whole, splitOn_append_cons_self]
    exact mem_append_left _ mem

lemma keyText_letters (text : Text) :
    ∀ c ∈ keyText (parsePath caret false text), isPathEncoded caret c = false := by
  intro c mem
  obtain ⟨segment, isSegment, inside⟩ :=
    mem_flatMap.mp ((dropWhile_sublist _).subset mem)
  rcases mem_cons.mp inside with rfl | isLetter
  · cases caret <;> decide
  · have letters : ∀ segment ∈ parsePath caret false text,
        ∀ c ∈ segment, isPathEncoded caret c = false := by
      refine forall_mem_addSegments (by simp) ?_ (by simp)
      intro _ isEncoded _ _ _
      obtain ⟨_, -, rfl⟩ := mem_map.mp isEncoded
      rw [drive_of_not_file]
      exact forall_mem_percentEncode (by cases caret <;> decide) isPathEncoded_of_isHexDigit
        fun c _ plain => plain
    exact letters segment isSegment c isLetter

lemma keyOf_ends (path : List Text) :
    (keyOf path).head? ≠ some '/' ∧ (keyOf path).getLast? ≠ some '/' := by
  generalize isText : path.flatMap ('/' :: ·) = text
  constructor
  · intro first
    rw [keyOf, isText] at first
    have start : (text.dropWhile (· == '/')).head? = some '/' := by
      obtain ⟨_, isRest⟩ := rdropWhile_prefix (· == '/') (text.dropWhile (· == '/'))
      rw [← isRest, List.head?_append, first]
      rfl
    have stops := List.head?_dropWhile_not (· == '/') text
    rw [start] at stops
    simp at stops
  · intro last
    rw [keyOf, isText] at last
    have nonempty : (text.dropWhile (· == '/')).rdropWhile (· == '/') ≠ [] := by
      intro empty
      rw [empty] at last
      cases last
    have stops := rdropWhile_last_not (· == '/') _ nonempty
    rw [List.getLast?_eq_some_getLast nonempty, Option.some.injEq] at last
    rw [last] at stops
    simp at stops

lemma keyText_segments (text : Text) : ∀ piece ∈ (keyText (parsePath caret false text)).splitOn '/',
      piece ∉ singleDots ∧ piece ∉ doubleDots := by
  have kept : ∀ segment ∈ parsePath caret false text,
      '/' ∉ segment ∧ segment ∉ singleDots ∧ segment ∉ doubleDots := by
    refine forall_mem_addSegments (by decide) ?_ (by simp)
    intro _ isEncoded notSingle notDouble _
    obtain ⟨piece, isPiece, rfl⟩ := mem_map.mp isEncoded
    rw [splitOnP_isSeparator_false] at isPiece
    rw [drive_of_not_file]
    refine ⟨?_, notSingle, notDouble⟩
    have letters : ∀ c ∈ percentEncode (isPathEncoded caret) piece, c ≠ '/' := by
      refine forall_mem_percentEncode (by decide) ?_ ?_
      · rintro c isHex rfl
        revert isHex
        decide
      · rintro _ mem - rfl
        exact not_mem_of_mem_splitOn isPiece mem
    exact fun mem => letters '/' mem rfl
  intro piece mem
  have inPath := splitOn_dropWhile_subset _ piece mem
  have split : ((parsePath caret false text).flatMap ('/' :: ·)).splitOn '/' = _ :=
    splitOn_flatMap_cons '/' id _
  rw [split] at inPath
  rcases mem_cons.mp inPath with rfl | later
  · decide
  · obtain ⟨segment, isSegment, inside⟩ := mem_flatMap.mp later
    rw [id_eq, splitOn_eq_singleton (kept segment isSegment).1, mem_singleton] at inside
    exact inside ▸ (kept segment isSegment).2

lemma plainKey_keyOf (text : Text) :
    PlainKey crate (keyOf (parsePath crate.encodesCaret false text)) where
  letters := fun c mem => keyText_letters text c ((List.rdropWhile_prefix _ _).subset mem)
  opening := (keyOf_ends _).1
  closing := (keyOf_ends _).2
  segments := fun piece mem => keyText_segments text piece (splitOn_rdropWhile_subset _ _ mem)

end

/-! ## The URI of a location -/

structure PlainS3 (crate : Crate) (location : S3Location) : Prop where
  bucket : PlainBucket crate location.bucket.toList
  key : PlainKey crate location.keyPrefix.toList

namespace DatasetLocation

variable {location : S3Location}

lemma toList_displayUri_s3 (location : S3Location) :
    (s3 location).displayUri.toList = 's' :: "3:/".toList ++ ['/'] ++
        (location.bucket.toList ++ '/' :: location.keyPrefix.toList) := by
  have slash : "/".toList = ['/'] := by decide
  have scheme : "s3://".toList = 's' :: "3:/".toList ++ ['/'] := by decide
  change location.displayUri.toList = _
  rw [S3Location.displayUri]
  split
  · rename_i empty
    rw [empty, toList_append, toList_append, scheme, slash, append_assoc]
    rfl
  · rw [toList_append, toList_append, toList_append, scheme, slash, append_assoc, append_assoc]
    rfl

/-- What the parser sees of the text after the scheme. -/
lemma cleanedRest_s3 (bucket key : Text) :
    cleanedRest ((bucket ++ '/' :: key).rdropWhile isWhitespace) =
      bucket.filter (fun c => !isTabOrNewline c) ++
        '/' :: cleanedRest (key.rdropWhile isWhitespace) := by
  have trimmed : (bucket ++ '/' :: key).rdropWhile isWhitespace =
      bucket ++ ['/'] ++ key.rdropWhile isWhitespace := by
    rw [← rdropWhile_append_of_last (by decide), append_assoc]
    rfl
  rw [trimmed, cleanedRest, rdropWhile_append_of_last (by decide),
    filter_append, filter_append, append_assoc]
  rfl

lemma startsWith_trim_s3 (location : S3Location) : trim (s3 location).displayUri ≠ "" ∧
      startsWith (trim (s3 location).displayUri) "s3://" = true := by
  have trimmed := toList_trim (toList_displayUri_s3 location) (by decide) (by decide)
  constructor
  · intro empty
    rw [empty] at trimmed
    cases trimmed
  · rw [startsWith, trimmed]
    rfl

lemma parse_s3 (location : S3Location) : parse crate (s3 location).displayUri =
      (parseS3Dataset crate (trim (s3 location).displayUri)).map .s3 := by
  obtain ⟨nonempty, isS3⟩ := startsWith_trim_s3 location
  rw [parse]
  simp [nonempty, isS3]

lemma crate_parse_s3 (location : S3Location) : crate.parse (trim (s3 location).displayUri).toList =
      crate.parseAuthority "s3" (location.bucket.toList.filter (fun c => !isTabOrNewline c) ++
        '/' :: cleanedRest (location.keyPrefix.toList.rdropWhile isWhitespace)) := by
  rw [toList_trim (toList_displayUri_s3 location) (by decide) (by decide), ← cleanedRest_s3]
  exact Crate.parse_s3 _

variable {input : String}

lemma parseS3Dataset_eq_ok (found : parseS3Dataset crate input = .ok location) :
    ∃ url, crate.parse input.toList = .ok url ∧ s3LocationOf input url = .ok location := by
  rw [parseS3Dataset] at found
  cases parsed : crate.parse input.toList with
  | error =>
    rw [parsed] at found
    cases found
  | ok url =>
    rw [parsed] at found
    exact ⟨url, rfl, found⟩

lemma s3LocationOf_eq_ok (found : s3LocationOf input url = .ok location) :
    ∃ host, url.host = some host ∧ location = ⟨ofList host, ofList (keyOf url.path)⟩ := by
  unfold s3LocationOf at found
  split at found
  · cases found
  · split at found
    · cases found
    · split at found
      · cases found
      · rename_i host isHost
        refine ⟨host, isHost, ?_⟩
        rw [← Except.ok.inj found, trimEndMatches, trimStartMatches, toList_ofList, toList_ofList]
        rfl

lemma s3LocationOf_bucketUrl (input : String) (host rest : Text) :
    s3LocationOf input (bucketUrl crate host rest) = .ok ⟨ofList host,
      ofList (keyOf (parsePath crate.encodesCaret false (beforeQuery rest)))⟩ := by
  have isS3 : ¬ (bucketUrl crate host rest).scheme ≠ "s3" := not_not.mpr rfl
  have anonymous : ¬ ((bucketUrl crate host rest).username ≠ [] ∨
      (bucketUrl crate host rest).password ≠ none) := by
    rintro (named | secret)
    · exact named rfl
    · exact secret rfl
  rw [s3LocationOf, if_neg isS3, if_neg anonymous, trimEndMatches, trimStartMatches,
    toList_ofList, toList_ofList]
  rfl

lemma visible_of_letters {caret : Bool} {key : Text}
    (letters : ∀ c ∈ key, isPathEncoded caret c = false) : Visible key := by
  refine ⟨fun c mem => ?_, fun c last => ?_⟩
  · obtain ⟨-, -, blank, query, fragment⟩ := letters_of_not_isPathEncoded (letters c mem)
    exact ⟨blank, query, fragment⟩
  · obtain ⟨space, control, -⟩ :=
      letters_of_not_isPathEncoded (letters c (List.mem_of_getLast? last))
    exact ⟨space, control⟩

/-- An object-store location is read back from its URI exactly if bucket and key are plain. -/
lemma roundTrips_s3_iff : RoundTrips crate (.s3 location) ↔ PlainS3 crate location := by
  constructor
  · rintro ⟨_, isFound, same⟩
    rw [parse_s3] at isFound
    obtain ⟨other, isOther, rfl⟩ := map_eq_ok.mp isFound
    obtain rfl : other = location := same
    obtain ⟨url, parsed, made⟩ := parseS3Dataset_eq_ok isOther
    rw [crate_parse_s3] at parsed
    obtain ⟨host, isHost, made⟩ := s3LocationOf_eq_ok made
    have isBucket : other.bucket.toList = host := by
      rw [made]
      exact toList_ofList
    have isKey : other.keyPrefix.toList = keyOf url.path := by
      rw [made]
      exact toList_ofList
    obtain ⟨bucket, rfl⟩ := bucketUrl_of_parseAuthority parsed (isBucket ▸ isHost)
    refine ⟨bucket, ?_⟩
    rw [isKey]
    exact plainKey_keyOf _
  · rintro ⟨bucket, key⟩
    have isVisible := visible_eq_self (visible_of_letters key.letters)
    refine ⟨.s3 location, ?_, rfl⟩
    rw [parse_s3, parseS3Dataset, crate_parse_s3, parseAuthority_of_plainBucket bucket]
    change (s3LocationOf _ (bucketUrl crate _ _)).map _ = _
    rw [s3LocationOf_bucketUrl]
    change Except.ok (s3 ⟨_, ofList (keyOf (parsePath _ _
      (visible location.keyPrefix.toList)))⟩) = _
    rw [isVisible, keyOf_plain key.letters key.opening key.closing key.segments,
      String.ofList_toList, String.ofList_toList]

end DatasetLocation

end Parqonaut.Storage
