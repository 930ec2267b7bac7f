import Mathlib.Algebra.Order.BigOperators.Group.List
import Mathlib.Tactic.IntervalCases
import Parqonaut.Rust.Url

/-!
# What survives a URL

Each stage of the parser keeps or lowers the mass of a text, which counts its bytes without
separators and dots; a stage that keeps the mass keeps the text.
-/

namespace Parqonaut.Rust.UrlCrate

open List

/-! ## Bytes -/

@[simp] lemma utf8_nil : utf8 [] = [] := rfl

@[simp] lemma utf8_cons (c : Char) (text : Text) :
    utf8 (c :: text) = String.utf8EncodeChar c ++ utf8 text := rfl

@[simp] lemma utf8_append (left right : Text) : utf8 (left ++ right) = utf8 left ++ utf8 right :=
  flatMap_append

variable {left right : List UInt8}

lemma toByteArray_injective (same : left.toByteArray = right.toByteArray) : left = right := by
  have lists := congrArg (fun bytes => bytes.data.toList) same
  simpa using lists

lemma fromUtf8_eq_some {bytes : List UInt8} {text : String} :
    fromUtf8 bytes = some text ↔ bytes = utf8 text.toList := by
  have encoded : text.toByteArray = (utf8 text.toList).toByteArray :=
    (String.utf8Encode_toList (b := text)).symm
  rw [fromUtf8, String.fromUTF8?]
  constructor
  · intro decoded
    split at decoded
    · obtain rfl := Option.some.inj decoded
      exact toByteArray_injective encoded
    · cases decoded
  · rintro rfl
    have valid := encoded ▸ text.isValidUTF8
    rw [dif_pos valid]
    exact congrArg some (String.toByteArray_inj.mp encoded.symm)

lemma fromUtf8_utf8 (text : Text) : fromUtf8 (utf8 text) = some (String.ofList text) :=
  fromUtf8_eq_some.mpr (by rw [String.toList_ofList])

lemma utf8_injective {left right : Text} (same : utf8 left = utf8 right) : left = right := by
  have decoded := fromUtf8_utf8 left
  rw [same, fromUtf8_utf8] at decoded
  exact (String.ofList_inj.mp (Option.some.inj decoded)).symm

variable {c : Char}

/-- A byte of ASCII occurs in the encoding of its letter only. -/
lemma eq_of_mem_utf8EncodeChar {byte : UInt8} (ascii : byte.toNat < 128)
    (mem : byte ∈ String.utf8EncodeChar c) : c.toNat = byte.toNat := by
  have code : c.val.toNat = c.toNat := rfl
  rw [String.utf8EncodeChar] at mem
  simp only [code] at mem
  split at mem
  · rw [mem_singleton] at mem
    rw [mem, UInt8.toNat_ofNat']
    omega
  · split at mem
    · simp only [mem_cons, not_mem_nil, or_false] at mem
      rcases mem with rfl | rfl <;> rw [UInt8.toNat_ofNat'] at ascii <;> omega
    · split at mem
      · simp only [mem_cons, not_mem_nil, or_false] at mem
        rcases mem with rfl | rfl | rfl <;> rw [UInt8.toNat_ofNat'] at ascii <;> omega
      · simp only [mem_cons, not_mem_nil, or_false] at mem
        rcases mem with rfl | rfl | rfl | rfl <;> rw [UInt8.toNat_ofNat'] at ascii <;> omega

lemma eq_of_toNat {d : Char} (same : c.toNat = d.toNat) : c = d :=
  Char.ext (UInt32.toNat_inj.mp same)

/-! ## Mass -/

/-- Separators and dots weigh nothing; a drive mark weighs more than the colon it becomes. -/
def weight (byte : UInt8) : Nat :=
  if byte = 47 ∨ byte = 46 then 0 else if byte = 124 then 2 else 1

def mass (bytes : List UInt8) : Nat := (bytes.map weight).sum

@[simp] lemma mass_nil : mass [] = 0 := rfl

@[simp] lemma mass_cons (byte : UInt8) (bytes : List UInt8) :
    mass (byte :: bytes) = weight byte + mass bytes := by
  simp [mass]

@[simp] lemma mass_append (left right : List UInt8) :
    mass (left ++ right) = mass left + mass right := by
  simp [mass]

lemma mass_le_of_sublist (part : Sublist left right) : mass left ≤ mass right :=
  (part.map weight).sum_le_sum fun _ _ => Nat.zero_le _

lemma weight_le_two (byte : UInt8) : weight byte ≤ 2 := by
  rw [weight]
  split
  · omega
  · split <;> omega

lemma mass_utf8EncodeChar_pos (slash : c ≠ '/') (dot : c ≠ '.') :
    0 < mass (String.utf8EncodeChar c) := by
  obtain ⟨byte, _, encoded⟩ := exists_cons_of_ne_nil (String.utf8EncodeChar_ne_nil (c := c))
  have mem : byte ∈ String.utf8EncodeChar c := encoded ▸ mem_cons_self
  have heavy : 0 < weight byte := by
    rw [weight, if_neg]
    · split <;> omega
    · rintro (rfl | rfl)
      · exact slash (eq_of_toNat (eq_of_mem_utf8EncodeChar (by decide) mem))
      · exact dot (eq_of_toNat (eq_of_mem_utf8EncodeChar (by decide) mem))
  rw [encoded, mass_cons]
  omega

/-- A text without mass has separators and dots only. -/
lemma eq_of_mass_eq_zero {text : Text} (empty : mass (utf8 text) = 0)
    (mem : c ∈ text) : c = '/' ∨ c = '.' := by
  induction text with
  | nil => cases mem
  | cons _ _ ih =>
    rw [utf8_cons, mass_append, Nat.add_eq_zero_iff] at empty
    rcases mem_cons.mp mem with rfl | later
    · by_contra other
      rw [not_or] at other
      exact absurd empty.1 (Nat.ne_of_gt (mass_utf8EncodeChar_pos other.1 other.2))
    · exact ih empty.2 later

section

variable {text : Text} {drops : Char → Bool} (heavy : ∀ c, drops c = true → c ≠ '/' ∧ c ≠ '.')

lemma mass_utf8_le_of_sublist {left right : Text} (part : Sublist left right) :
    mass (utf8 left) ≤ mass (utf8 right) := by
  induction part with
  | slnil => exact le_rfl
  | cons =>
    rw [utf8_cons, mass_append]
    omega
  | cons_cons =>
    rw [utf8_cons, utf8_cons, mass_append, mass_append]
    omega

include heavy

/-- What is removed at the end counts. -/
lemma rdropWhile_of_mass (kept : mass (utf8 text) ≤ mass (utf8 (text.rdropWhile drops))) :
    text.rdropWhile drops = text := by
  have whole : text.rdropWhile drops ++ text.rtakeWhile drops = text :=
    rdropWhile_append_rtakeWhile
  have removed : text.rtakeWhile drops = [] := by
    rw [eq_nil_iff_forall_not_mem]
    intro c mem
    have split : mass (utf8 text) =
        mass (utf8 (text.rdropWhile drops)) + mass (utf8 (text.rtakeWhile drops)) := by
      rw [← mass_append, ← utf8_append, whole]
    have light := heavy c (mem_rtakeWhile_imp mem)
    have weightless : mass (utf8 (text.rtakeWhile drops)) = 0 := by omega
    rcases eq_of_mass_eq_zero weightless mem with same | same
    · exact light.1 same
    · exact light.2 same
  rwa [removed, append_nil] at whole

lemma takeWhile_of_mass (kept : mass (utf8 text) ≤ mass (utf8 (text.takeWhile fun c => !drops c))) :
    ∀ c ∈ text, drops c = false := by
  have whole := takeWhile_append_dropWhile (p := fun c => !drops c) (l := text)
  cases rest : text.dropWhile fun c => !drops c with
  | nil =>
    rw [rest, append_nil] at whole
    intro c mem
    rw [← whole] at mem
    simpa using mem_takeWhile_imp mem
  | cons first others =>
    have dropped : drops first = true := by
      simpa [rest] using head_dropWhile_not (fun c => !drops c) (l := text) (by simp [rest])
    have light := heavy first dropped
    have positive := mass_utf8EncodeChar_pos light.1 light.2
    have split : mass (utf8 text) = mass (utf8 (text.takeWhile fun c => !drops c)) +
        mass (utf8 (first :: others)) := by
      rw [← mass_append, ← utf8_append, ← rest, whole]
    rw [utf8_cons, mass_append] at split
    omega

lemma filter_of_mass (kept : mass (utf8 text) ≤ mass (utf8 (text.filter fun c => !drops c))) :
    ∀ c ∈ text, drops c = false := by
  induction text with
  | nil => simp
  | cons first rest ih =>
    have smaller := mass_utf8_le_of_sublist (filter_sublist (p := fun c => !drops c) (l := rest))
    cases dropped : drops first with
    | true =>
      have light := heavy first dropped
      have positive := mass_utf8EncodeChar_pos light.1 light.2
      rw [filter_cons_of_neg (by simp [dropped]), utf8_cons, mass_append] at kept
      omega
    | false =>
      rw [filter_cons_of_pos (by simp [dropped]), utf8_cons, utf8_cons, mass_append,
        mass_append] at kept
      intro c mem
      rcases mem_cons.mp mem with rfl | later
      · exact dropped
      · exact ih (by omega) c later

end

/-! ## Pieces -/

variable {α : Type}

lemma flatten_splitOnP (isSep : α → Bool) (items : List α) :
    (items.splitOnP isSep).flatten = items.filter fun item => !isSep item := by
  induction items with
  | nil => rfl
  | cons first rest ih =>
    rw [splitOnP_cons_eq_if_modifyHead]
    cases separates : isSep first with
    | true => simp [separates, ih]
    | false =>
      obtain ⟨_, _, split⟩ :=
        exists_cons_of_ne_nil (splitOnP_ne_nil isSep rest)
      rw [split] at ih
      simp [separates, split, ← ih]

variable {items piece : List α}

lemma not_mem_of_mem_splitOn [DecidableEq α] {sep : α}
    (mem : piece ∈ items.splitOn sep) : sep ∉ piece := by
  intro inside
  have kept : sep ∈ (items.splitOnP (· == sep)).flatten :=
    mem_flatten.mpr ⟨piece, mem, inside⟩
  rw [flatten_splitOnP, mem_filter] at kept
  simp at kept

lemma mem_of_mem_splitOn [DecidableEq α] {sep item : α}
    (mem : piece ∈ items.splitOn sep) (inside : item ∈ piece) : item ∈ items := by
  have kept : item ∈ (items.splitOnP (· == sep)).flatten :=
    mem_flatten.mpr ⟨piece, mem, inside⟩
  rw [flatten_splitOnP] at kept
  exact (mem_filter.mp kept).1

/-- A text whose pieces are opened by separators is split at them. -/
lemma splitOn_flatMap_cons {β : Type} [DecidableEq α] (sep : α) (text : β → List α)
    (path : List β) :
    (path.flatMap fun segment => sep :: text segment).splitOn sep =
      [] :: path.flatMap fun segment => (text segment).splitOn sep := by
  induction path with
  | nil => rfl
  | cons _ rest ih =>
    have first : ∀ items : List α, (sep :: items).splitOn sep = [] :: items.splitOn sep :=
      fun items => splitOn_append_cons_self [] items
    rw [flatMap_cons, flatMap_cons, cons_append, first]
    cases rest with
    | nil => simp
    | cons =>
      rw [flatMap_cons, cons_append, first] at ih
      rw [flatMap_cons, cons_append, splitOn_append_cons_self, (cons.inj ih).2]

lemma mass_flatten (pieces : List (List UInt8)) : mass pieces.flatten = (pieces.map mass).sum := by
  induction pieces with
  | nil => rfl
  | cons _ _ ih => simp [ih]

lemma mass_flatten_le_of_sublist {left right : List (List UInt8)}
    (part : Sublist left right) : mass left.flatten ≤ mass right.flatten := by
  rw [mass_flatten, mass_flatten]
  exact (part.map mass).sum_le_sum fun _ _ => Nat.zero_le _

/-! ## Decoding -/

/-- Two hexadecimal digits at the start of a text. -/
def hexPair : Text → Bool
  | high :: low :: _ => isHexDigit high && isHexDigit low
  | _ => false

variable {rest : Text}

lemma percentDecode_cons (plain : ¬ (c = '%' ∧ hexPair rest = true)) :
    percentDecode (c :: rest) = String.utf8EncodeChar c ++ percentDecode rest := by
  match rest with
  | [] | [second] => simp [percentDecode]
  | high :: low :: more =>
    rw [hexPair, Bool.and_eq_true] at plain
    rw [percentDecode, if_neg]
    simpa [and_assoc] using plain

lemma percentDecode_escape {high low : Char} (isHigh : isHexDigit high = true)
    (isLow : isHexDigit low = true) :
    percentDecode ('%' :: high :: low :: rest) =
      UInt8.ofNat (hexValue high * 16 + hexValue low) :: percentDecode rest := by
  rw [percentDecode, if_pos (by simp [isHigh, isLow])]

/-- An escape somewhere in a text. -/
def HasEscape (text : Text) : Prop :=
  ∃ before after, text = before ++ '%' :: after ∧ hexPair after = true

lemma hasEscape_cons :
    HasEscape (c :: rest) ↔ (c = '%' ∧ hexPair rest = true) ∨ HasEscape rest := by
  constructor
  · rintro ⟨before, after, equal, isHex⟩
    cases before with
    | nil =>
      obtain ⟨rfl, rfl⟩ := cons.inj equal
      exact .inl ⟨rfl, isHex⟩
    | cons _ more => exact .inr ⟨more, after, (cons.inj equal).2, isHex⟩
  · rintro (⟨rfl, isHex⟩ | ⟨before, after, rfl, isHex⟩)
    · exact ⟨[], rest, rfl, isHex⟩
    · exact ⟨c :: before, after, rfl, isHex⟩

lemma not_hasEscape_nil : ¬ HasEscape [] := by
  rintro ⟨_, _, equal, -⟩
  simp at equal

instance decidableHasEscape : (text : Text) → Decidable (HasEscape text)
  | [] => .isFalse not_hasEscape_nil
  | _ :: rest =>
    have := decidableHasEscape rest
    decidable_of_iff _ hasEscape_cons.symm

lemma percentDecode_of_not_hasEscape {text : Text} (plain : ¬ HasEscape text) :
    percentDecode text = utf8 text := by
  induction text with
  | nil => rfl
  | cons _ _ ih =>
    rw [hasEscape_cons, not_or] at plain
    rw [percentDecode_cons plain.1, ih plain.2, utf8_cons]

lemma weight_utf8EncodeChar_percent : mass (String.utf8EncodeChar '%') = 1 := by decide

lemma one_le_mass_of_isHexDigit (isHex : isHexDigit c = true) :
    1 ≤ mass (String.utf8EncodeChar c) := by
  apply mass_utf8EncodeChar_pos <;> rintro rfl <;> revert isHex <;> decide

/-- Decoding does not add mass, and an escape costs. -/
lemma mass_percentDecode (text : Text) : mass (percentDecode text) ≤ mass (utf8 text) ∧
      (HasEscape text → mass (percentDecode text) < mass (utf8 text)) := by
  induction text using percentDecode.induct with
  | case1 _ high low _ isEscape =>
    simp only [Bool.and_eq_true, decide_eq_true_eq] at isEscape
    obtain ⟨⟨rfl, isHigh⟩, isLow⟩ := isEscape
    have light := weight_le_two (UInt8.ofNat (hexValue high * 16 + hexValue low))
    have highMass := one_le_mass_of_isHexDigit isHigh
    have lowMass := one_le_mass_of_isHexDigit isLow
    have percentMass := weight_utf8EncodeChar_percent
    rw [percentDecode_escape isHigh isLow]
    simp only [mass_cons, utf8_cons, mass_append]
    omega
  | case2 c high low rest notEscape ih =>
    have plain : ¬ (c = '%' ∧ hexPair (high :: low :: rest) = true) := by
      simpa [hexPair, and_assoc] using notEscape
    rw [percentDecode_cons plain, utf8_cons, mass_append, mass_append, hasEscape_cons]
    refine ⟨by omega, ?_⟩
    rintro (escape | later)
    · exact absurd escape plain
    · have := ih.2 later
      omega
  | case3 text short =>
    have plain : ¬ HasEscape text := by
      rintro ⟨before, after, rfl, isHex⟩
      match after, isHex with
      | high :: low :: rest, _ =>
        cases before with
        | nil => exact short _ _ _ _ rfl
        | cons _ more =>
          cases more with
          | nil => exact short _ _ _ _ rfl
          | cons _ others =>
            cases others with
            | nil | cons => exact short _ _ _ _ rfl
    rw [percentDecode_of_not_hasEscape plain]
    exact ⟨le_rfl, fun escape => absurd escape plain⟩

/-! ## Encoding -/

section

variable {isEncoded : Char → Bool} (digits : ∀ c, isHexDigit c = true → isEncoded c = false)
  {value : Nat}

lemma isHexDigit_hexDigit (small : value < 16) : isHexDigit (hexDigit value) = true := by
  interval_cases value <;> decide

lemma hexValue_hexDigit (small : value < 16) : hexValue (hexDigit value) = value := by
  interval_cases value <;> decide

lemma percentDecode_escaped (byte : UInt8) (rest : Text) :
    percentDecode (escaped byte ++ rest) = byte :: percentDecode rest := by
  have bound : byte.toNat < 256 := byte.toNat_lt
  have high : byte.toNat / 16 < 16 := by omega
  have low : byte.toNat % 16 < 16 := by omega
  change percentDecode ('%' :: hexDigit _ :: hexDigit _ :: rest) = _
  rw [percentDecode_escape (isHexDigit_hexDigit high) (isHexDigit_hexDigit low),
    hexValue_hexDigit high, hexValue_hexDigit low, Nat.div_add_mod' byte.toNat 16,
    UInt8.ofNat_toNat]

lemma percentDecode_flatMap_escaped (bytes : List UInt8) (rest : Text) :
    percentDecode (bytes.flatMap escaped ++ rest) = bytes ++ percentDecode rest := by
  induction bytes with
  | nil => rfl
  | cons _ _ ih =>
    rw [flatMap_cons, append_assoc, percentDecode_escaped, ih, cons_append]

@[simp] lemma percentEncode_nil : percentEncode isEncoded [] = [] := rfl

lemma percentEncode_cons (c : Char) (text : Text) :
    percentEncode isEncoded (c :: text) = encodeChar isEncoded c ++ percentEncode isEncoded text :=
  rfl

/-- An encoded letter starts with itself or with a percent sign. -/
lemma encodeChar_cases (c : Char) : encodeChar isEncoded c = [c] ∧ isEncoded c = false ∨
    isEncoded c = true ∧ ∃ rest, encodeChar isEncoded c = '%' :: rest := by
  rw [encodeChar]
  cases isEncoded c with
  | false => exact .inl ⟨rfl, rfl⟩
  | true =>
    obtain ⟨byte, bytes, encoded⟩ :=
      exists_cons_of_ne_nil (String.utf8EncodeChar_ne_nil (c := c))
    refine .inr ⟨rfl, (escaped byte).tail ++ bytes.flatMap escaped, ?_⟩
    rw [if_pos rfl, encoded, flatMap_cons]
    rfl

lemma hexPair_of_not (other : isHexDigit c = false) (rest : Text) :
    hexPair (c :: rest) = false := by
  cases rest with
  | nil => rfl
  | cons => rw [hexPair, other, Bool.false_and]

include digits

lemma not_isHexDigit_of_isEncoded (encoded : isEncoded c = true) : isHexDigit c = false := by
  by_contra isHex
  rw [digits c (by simpa using isHex)] at encoded
  cases encoded

lemma hexPair_percentEncode (text : Text) :
    hexPair (percentEncode isEncoded text) = hexPair text := by
  have percent : isHexDigit '%' = false := by decide
  cases text with
  | nil => rfl
  | cons high rest =>
    rw [percentEncode_cons]
    rcases encodeChar_cases high with ⟨kept, -⟩ | ⟨isHigh, more, encoded⟩
    · rw [kept]
      cases rest with
      | nil => rfl
      | cons low =>
        rw [percentEncode_cons]
        rcases encodeChar_cases low with
          ⟨same, -⟩ | ⟨isLow, more, encoded⟩
        · rw [same]
          rfl
        · rw [encoded]
          simp [hexPair, percent, not_isHexDigit_of_isEncoded digits isLow]
    · rw [encoded, hexPair_of_not (not_isHexDigit_of_isEncoded digits isHigh)]
      exact hexPair_of_not percent _

/-- Decoding takes back what encoding did and decodes the escapes that were there. -/
lemma percentDecode_percentEncode (percent : isEncoded '%' = false) (text : Text) :
    percentDecode (percentEncode isEncoded text) = percentDecode text := by
  induction text using percentDecode.induct with
  | case1 c high low rest isEscape ih =>
    simp only [Bool.and_eq_true, decide_eq_true_eq] at isEscape
    obtain ⟨⟨rfl, isHigh⟩, isLow⟩ := isEscape
    have kept : percentEncode isEncoded ('%' :: high :: low :: rest) =
        '%' :: high :: low :: percentEncode isEncoded rest := by
      simp [percentEncode_cons, encodeChar, percent, digits _ isHigh, digits _ isLow]
    rw [kept, percentDecode_escape isHigh isLow, percentDecode_escape isHigh isLow, ih]
  | case2 c high low rest notEscape ih =>
    have plain : ¬ (c = '%' ∧ hexPair (high :: low :: rest) = true) := by
      simpa [hexPair, and_assoc] using notEscape
    rw [percentDecode_cons plain, ← ih, percentEncode_cons, encodeChar]
    split
    · rw [percentDecode_flatMap_escaped]
    · rw [singleton_append, percentDecode_cons]
      rwa [hexPair_percentEncode digits]
  | case3 text short =>
    have single : ∀ (c : Char) (rest : Text), hexPair rest = false →
        percentDecode (percentEncode isEncoded rest) = utf8 rest →
        percentDecode (percentEncode isEncoded (c :: rest)) = utf8 (c :: rest) := by
      intro c rest noPair ih
      rw [percentEncode_cons, encodeChar]
      split
      · rw [percentDecode_flatMap_escaped, ih, utf8_cons]
      · rw [singleton_append, percentDecode_cons, ih, utf8_cons]
        rw [hexPair_percentEncode digits, noPair]
        simp
    have shortDecode : percentDecode text = utf8 text := by
      match text, short with
      | [], _ => rfl
      | [c], _ => rfl
      | [c, d], _ => rfl
      | a :: b :: c :: rest, short => exact absurd rfl (short a b c rest)
    rw [shortDecode]
    match text, short with
    | [], _ => rfl
    | [c], _ => exact single c [] rfl rfl
    | [c, d], _ => exact single c [d] rfl (single d [] rfl rfl)
    | a :: b :: c :: rest, short => exact absurd rfl (short a b c rest)

end

lemma range_of_isHexDigit (isHex : isHexDigit c = true) :
    (48 ≤ c.toNat ∧ c.toNat ≤ 57) ∨ (97 ≤ c.toNat ∧ c.toNat ≤ 102) ∨
      (65 ≤ c.toNat ∧ c.toNat ≤ 70) := by
  simpa [isHexDigit, Char.le_def, UInt32.le_iff_toNat_le, or_assoc] using isHex

lemma isPathEncoded_of_isHexDigit {caret : Bool} (c : Char) (isHex : isHexDigit c = true) :
    isPathEncoded caret c = false := by
  have range := range_of_isHexDigit isHex
  have notCaret : c ≠ '^' := by
    rintro rfl
    revert range
    decide
  simp only [isPathEncoded, isControl, contains_cons, contains_nil, notCaret]
  simp
  omega

lemma percentDecode_pathEncoded (caret : Bool) (text : Text) :
    percentDecode (percentEncode (isPathEncoded caret) text) = percentDecode text :=
  percentDecode_percentEncode isPathEncoded_of_isHexDigit (by cases caret <;> decide) text

/-! ## Segments -/

def pathMass (path : List Text) : Nat := (path.map fun segment => mass (percentDecode segment)).sum

@[simp] lemma pathMass_nil : pathMass [] = 0 := rfl

@[simp] lemma pathMass_cons (segment : Text) (path : List Text) :
    pathMass (segment :: path) = mass (percentDecode segment) + pathMass path := by
  simp [pathMass]

@[simp] lemma pathMass_append (left right : List Text) :
    pathMass (left ++ right) = pathMass left + pathMass right := by
  simp [pathMass]

lemma pathMass_le_of_sublist {left right : List Text} (part : Sublist left right) :
    pathMass left ≤ pathMass right :=
  (part.map _).sum_le_sum fun _ _ => Nat.zero_le _

lemma drive_cases (isFile : Bool) (path : List Text) (segment : Text) :
    drive isFile path segment = segment ∨
      ∃ letter mark, segment = [letter, mark] ∧ letter.isAlpha = true ∧
        (mark = ':' ∨ mark = '|') ∧ drive isFile path segment = [letter, ':'] := by
  unfold drive
  split
  · rename_i letter mark
    split
    · rename_i fixed
      simp only [isDriveLetter, Bool.and_eq_true, Bool.or_eq_true, decide_eq_true_eq] at fixed
      exact .inr ⟨letter, mark, rfl, fixed.2.1, fixed.2.2, rfl⟩
    · exact .inl rfl
  · exact .inl rfl

lemma mass_drive_le (isFile : Bool) (path : List Text) (segment : Text) :
    mass (percentDecode (drive isFile path segment)) ≤ mass (percentDecode segment) := by
  rcases drive_cases isFile path segment with same | ⟨letter, mark, rfl, -, isMark, fixed⟩
  · rw [same]
  · have colon : mass (utf8 [':']) ≤ mass (utf8 [mark]) := by
      rcases isMark with rfl | rfl <;> decide
    rw [fixed]
    simp only [percentDecode, utf8_cons letter, mass_append]
    exact Nat.add_le_add_left colon _

lemma sublist_shorten (isFile : Bool) (path : List Text) : Sublist (shorten isFile path) path := by
  unfold shorten
  split
  · split
    · exact Sublist.refl _
    · exact nil_sublist _
  · exact dropLast_sublist _

lemma pathMass_closing (isLast : Bool) : pathMass (closing isLast) = 0 := by
  cases isLast <;> rfl

lemma pathMass_addSegment_le (isFile isLast : Bool) (path : List Text) (segment : Text) :
    pathMass (addSegment isFile path segment isLast) ≤
      pathMass path + mass (percentDecode segment) := by
  have shorter := pathMass_le_of_sublist (sublist_shorten isFile path)
  have lighter := mass_drive_le isFile path segment
  rw [addSegment]
  split
  · rw [pathMass_append, pathMass_closing]
    omega
  · split
    · rw [pathMass_append, pathMass_closing]
      omega
    · rw [pathMass_append, pathMass_cons, pathMass_nil]
      omega

lemma pathMass_addSegments_le (isFile : Bool) (path segments : List Text) :
    pathMass (addSegments isFile path segments) ≤ pathMass path + pathMass segments := by
  induction segments generalizing path with
  | nil => exact Nat.le_add_right _ _
  | cons segment rest ih =>
    have step := pathMass_addSegment_le isFile rest.isEmpty path segment
    have later := ih (addSegment isFile path segment rest.isEmpty)
    rw [addSegments, pathMass_cons]
    omega

/-- What holds of every segment that is kept holds of every segment of the path. -/
lemma forall_mem_addSegments {property : Text → Prop} {isFile : Bool} {path segments : List Text}
    (empty : property []) (each : ∀ segment ∈ segments, segment ∉ singleDots →
      segment ∉ doubleDots → ∀ path, property (drive isFile path segment))
    (before : ∀ segment ∈ path, property segment) :
    ∀ segment ∈ addSegments isFile path segments, property segment := by
  have closed : ∀ isLast, ∀ segment ∈ closing isLast, property segment := by
    intro isLast segment mem
    cases isLast with
    | false => cases mem
    | true =>
      rw [mem_singleton.mp mem]
      exact empty
  induction segments generalizing path with
  | nil => exact before
  | cons segment _ ih =>
    refine ih (fun other mem => each other (mem_cons_of_mem _ mem)) ?_
    rw [addSegment]
    split
    · exact forall_mem_append.mpr
        ⟨fun other mem => before other ((sublist_shorten isFile path).subset mem), closed _⟩
    · split
      · exact forall_mem_append.mpr ⟨before, closed _⟩
      · rename_i notDouble notSingle
        refine forall_mem_append.mpr ⟨before, ?_⟩
        rw [forall_mem_singleton]
        exact each segment mem_cons_self notSingle notDouble path

/-- The path starts with a drive whose mark is rewritten. -/
def PipeFirst (segments : List Text) : Prop :=
  ∃ letter rest, letter.isAlpha = true ∧ segments.dropWhile (· = ['.']) = [letter, '|'] :: rest

/-- A drive with the mark that is rewritten. -/
def isPipeDrive : Text → Bool
  | [letter, mark] => letter.isAlpha && mark = '|'
  | _ => false

lemma isPipeDrive_iff {segment : Text} :
    isPipeDrive segment = true ↔ ∃ letter : Char, letter.isAlpha = true ∧ segment = [letter, '|'] := by
  unfold isPipeDrive
  split
  · simp
  · rename_i other
    refine iff_of_false Bool.false_ne_true ?_
    rintro ⟨_, -, rfl⟩
    exact other _ _ rfl

instance (segments : List Text) : Decidable (PipeFirst segments) :=
  decidable_of_iff ((segments.dropWhile (· = ['.'])).head?.any isPipeDrive = true) <| by
      cases first : segments.dropWhile (· = ['.']) with
      | nil => simp [PipeFirst, first]
      | cons segment rest => simp [PipeFirst, first, isPipeDrive_iff]

section

variable {caret : Bool}

lemma percentEncode_drive {letter mark : Char} (isDrive : isDriveLetter [letter, mark] = true) :
    percentEncode (isPathEncoded caret) [letter, mark] = [letter, mark] := by
  simp only [isDriveLetter, Bool.and_eq_true, Bool.or_eq_true, decide_eq_true_eq] at isDrive
  have letterKept : isPathEncoded caret letter = false := by
    have range : (65 ≤ letter.toNat ∧ letter.toNat ≤ 90) ∨
        (97 ≤ letter.toNat ∧ letter.toNat ≤ 122) := by
      have isLetter : (decide (65 ≤ letter.val ∧ letter.val ≤ 90) ||
        97 ≤ letter.val && letter.val ≤ 122) = true := isDrive.1
      simpa [UInt32.le_iff_toNat_le] using isLetter
    have notCaret : letter ≠ '^' := by
      rintro rfl
      revert range
      decide
    simp only [isPathEncoded, isControl, contains_cons, contains_nil, notCaret]
    simp
    omega
  have markKept : isPathEncoded caret mark = false := by
    rcases isDrive.2 with rfl | rfl <;> cases caret <;> decide
  simp [percentEncode_cons, encodeChar, letterKept, markKept]

lemma percentEncode_dot : percentEncode (isPathEncoded caret) ['.'] = ['.'] := by
  cases caret <;> decide

variable {pieces : List Text}

lemma pathMass_of_pipeFirst (pipe : PipeFirst pieces) :
    pathMass (addSegments true [] (pieces.map (percentEncode (isPathEncoded caret)))) <
      pathMass (pieces.map (percentEncode (isPathEncoded caret))) := by
  obtain ⟨letter, _, isAlpha, first⟩ := pipe
  induction pieces with
  | nil => cases first
  | cons piece rest ih =>
    by_cases dot : piece = ['.']
    · subst dot
      rw [dropWhile_cons_of_pos (by decide)] at first
      have more : (rest.map (percentEncode (isPathEncoded caret))).isEmpty = false := by
        cases rest with
        | nil => cases first
        | cons => rfl
      have dots : (['.'] : Text) ∉ doubleDots ∧ (['.'] : Text) ∈ singleDots := by decide
      have weightless : mass (percentDecode ['.']) = 0 := by decide
      have nothing : closing false = [] := rfl
      rw [map_cons, percentEncode_dot, addSegments, more, addSegment, if_neg dots.1,
        if_pos dots.2, nothing, append_nil, pathMass_cons, weightless, Nat.zero_add]
      exact ih first
    · rw [dropWhile_cons_of_neg (by simpa using dot)] at first
      obtain ⟨rfl, rfl⟩ := cons.inj first
      have isDrive : isDriveLetter [letter, '|'] = true := by simp [isDriveLetter, isAlpha]
      have dots : ([letter, '|'] : Text) ∉ doubleDots ∧ [letter, '|'] ∉ singleDots := by
        simp [doubleDots, singleDots]
      have fixed : drive true [] [letter, '|'] = [letter, ':'] := by simp [drive, isDrive]
      have lighter : mass (percentDecode [letter, ':']) < mass (percentDecode [letter, '|']) := by
        simp only [percentDecode, utf8_cons, utf8_nil, mass_append]
        exact Nat.add_lt_add_left (by decide) _
      have behind := pathMass_addSegments_le true [[letter, ':']]
        (rest.map (percentEncode (isPathEncoded caret)))
      rw [map_cons, percentEncode_drive isDrive, addSegments, addSegment, if_neg dots.1,
        if_neg dots.2, fixed, nil_append]
      simp only [pathMass_cons, pathMass_nil] at behind ⊢
      omega

/-- Pieces that name something. -/
def isKept (piece : List UInt8) : Bool := piece ≠ [] && piece ≠ [46]

variable {segment : Text}

lemma percentDecode_of_mem_singleDots (isDot : segment ∈ singleDots) :
    percentDecode segment = [46] := by
  have each : ∀ segment ∈ singleDots, percentDecode segment = [46] := by decide
  exact each segment isDot

lemma percentDecode_of_mem_doubleDots (isDots : segment ∈ doubleDots) :
    percentDecode segment = [46, 46] := by
  have each : ∀ segment ∈ doubleDots, percentDecode segment = [46, 46] := by decide
  exact each segment isDots

variable {piece : Text}

lemma percentDecode_encoded (plain : ¬ HasEscape piece) :
    percentDecode (percentEncode (isPathEncoded caret) piece) = utf8 piece := by
  rw [percentDecode_pathEncoded, percentDecode_of_not_hasEscape plain]

variable {path : List Text} {isFile : Bool}

/-- A drive is left alone behind another segment, and where its mark is a colon. -/
lemma drive_eq_self
    (stays : path ≠ [] ∨ ∀ letter : Char, letter.isAlpha = true → segment ≠ [letter, '|']) :
    drive isFile path segment = segment := by
  unfold drive
  split
  · rename_i letter _
    split
    · rename_i fixed
      simp only [isDriveLetter, Bool.and_eq_true, Bool.or_eq_true, decide_eq_true_eq,
        List.isEmpty_iff] at fixed
      rcases stays with nonempty | other
      · exact absurd fixed.1.2 nonempty
      · rcases fixed.2.2 with rfl | rfl
        · rfl
        · exact absurd rfl (other letter fixed.2.1)
    · rfl
  · rfl

lemma not_pipeFirst_tail {rest : List Text} (dot : piece = ['.'])
    (other : ¬ PipeFirst (piece :: rest)) : ¬ PipeFirst rest := by
  rintro ⟨letter, later, isAlpha, first⟩
  exact other ⟨letter, later, isAlpha, by rw [dropWhile_cons_of_pos (by simp [dot]), first]⟩

/-- Pieces without escapes come back from the path as they are. -/
lemma decoded_addSegments (plain : ∀ piece ∈ pieces, ¬ HasEscape piece ∧ piece ≠ ['.', '.'])
    (stays : path ≠ [] ∨ ¬ PipeFirst pieces) :
    ((addSegments isFile path (pieces.map (percentEncode (isPathEncoded caret)))).map
        percentDecode).filter isKept =
      (path.map percentDecode).filter isKept ++ (pieces.map utf8).filter isKept := by
  have closed : ∀ isLast, ((closing isLast).map percentDecode).filter isKept = [] := by decide
  induction pieces generalizing path with
  | nil => simp [addSegments]
  | cons piece rest ih =>
    obtain ⟨noEscape, notDots⟩ := plain piece mem_cons_self
    have decoded : percentDecode (percentEncode (isPathEncoded caret) piece) = utf8 piece :=
      percentDecode_encoded noEscape
    have later := fun other mem => plain other (mem_cons_of_mem piece mem)
    have notDouble : percentEncode (isPathEncoded caret) piece ∉ doubleDots := fun isDots =>
      notDots (utf8_injective (decoded.symm.trans (percentDecode_of_mem_doubleDots isDots)))
    rw [map_cons, addSegments, addSegment, if_neg notDouble, map_cons, filter_cons]
    by_cases isDot : percentEncode (isPathEncoded caret) piece ∈ singleDots
    · have encoded := decoded.symm.trans (percentDecode_of_mem_singleDots isDot)
      have dot : piece = ['.'] := utf8_injective encoded
      rw [if_pos isDot, ih later, map_append, filter_append, closed, append_nil,
        encoded, if_neg (by decide)]
      rcases stays with nonempty | other
      · exact .inl (append_ne_nil_of_left_ne_nil nonempty _)
      · exact .inr (not_pipeFirst_tail dot other)
    · have kept : drive isFile path (percentEncode (isPathEncoded caret) piece) =
          percentEncode (isPathEncoded caret) piece := by
        refine drive_eq_self (stays.imp_right fun other letter isAlpha same => ?_)
        have isPipe : piece = [letter, '|'] := by
          apply utf8_injective
          rw [← decoded, same]
          rfl
        refine other ⟨letter, rest, isAlpha, ?_⟩
        rw [dropWhile_cons_of_neg (by simp [isPipe]), isPipe]
      rw [if_neg isDot, kept, ih later (.inl (by simp)), map_append, filter_append,
        map_singleton, decoded, filter_singleton, append_assoc]
      cases isKept (utf8 piece) <;> rfl

end
/-! ## Two forms -/

namespace Crate

variable {crate : Crate}

/-- Rest of a text that starts with a scheme, without what the parser removes. -/
def cleanedRest (rest : Text) : Text :=
  (rest.rdropWhile isC0OrSpace).filter fun c => !isTabOrNewline c

variable {last : Char}

lemma rdropWhile_append_of_last {drops : Char → Bool} {start rest : Text}
    (stays : drops last = false) :
    (start ++ [last] ++ rest).rdropWhile drops = start ++ [last] ++ rest.rdropWhile drops := by
  rw [rdropWhile, reverse_append, dropWhile_append]
  split
  · rename_i removed
    have nothing : rest.rdropWhile drops = [] := by
      rw [rdropWhile, List.isEmpty_iff.mp removed, reverse_nil]
    rw [nothing, reverse_append, reverse_singleton, singleton_append,
      dropWhile_cons_of_neg (by simp [stays])]
    simp
  · rw [reverse_append, reverse_reverse, rdropWhile]

lemma cleaned_append {first : Char} {more : Text} (rest : Text)
    (opens : isC0OrSpace first = false) (closes : isC0OrSpace last = false)
    (kept : ∀ c ∈ first :: more ++ [last], isTabOrNewline c = false) :
    cleaned (first :: more ++ [last] ++ rest) = first :: more ++ [last] ++ cleanedRest rest := by
  have start : (first :: more ++ [last] ++ rest).dropWhile isC0OrSpace =
      first :: more ++ [last] ++ rest :=
    dropWhile_cons_of_neg (by simp [opens])
  rw [cleaned, start, rdropWhile_append_of_last closes, filter_append]
  congr 1
  rw [filter_eq_self]
  intro c mem
  rw [kept c mem, Bool.not_false]

lemma parse_file (rest : Text) :
    crate.parse ("file://".toList ++ rest) = crate.parseFile (cleanedRest rest) := by
  have clean : cleaned ("file://".toList ++ rest) = "file://".toList ++ cleanedRest rest :=
    @cleaned_append '/' 'f' "ile:/".toList rest (by decide) (by decide)
      (Str.forall_mem_of_all (by decide))
  rw [parse, clean]
  simp only [List.isPrefixOf_iff_prefix.mpr (prefix_append _ _), if_true]
  rfl

lemma parse_s3 (rest : Text) :
    crate.parse ("s3://".toList ++ rest) = crate.parseAuthority "s3" (cleanedRest rest) := by
  have clean : cleaned ("s3://".toList ++ rest) = "s3://".toList ++ cleanedRest rest :=
    @cleaned_append '/' 's' "3:/".toList rest (by decide) (by decide)
      (Str.forall_mem_of_all (by decide))
  have other : "file://".toList.isPrefixOf ("s3://".toList ++ cleanedRest rest) = false := rfl
  rw [parse, clean]
  simp only [other, Bool.false_eq_true, if_false,
    isPrefixOf_iff_prefix.mpr (prefix_append _ _), if_true]
  rfl

/-- A path after `file://` has no host. -/
lemma parseFile_slash (rest : Text) :
    crate.parseFile ('/' :: rest) = .ok (crate.fileUrl none (beforeQuery rest)) := rfl

end Crate

end Parqonaut.Rust.UrlCrate
