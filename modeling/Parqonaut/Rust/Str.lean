import Mathlib.Data.List.DropRight
import Mathlib.Data.List.Infix

/-!
# String operations of the Rust standard library

The operations of `str` on Lean strings, each through the list of characters.
-/

namespace Parqonaut.Rust.Str

open List String
open String (ofList)

/-- `str::trim_start_matches` with a character pattern. -/
def trimStartMatches (c : Char) (s : String) : String :=
  ofList (s.toList.dropWhile (· == c))

/-- `str::trim_end_matches` with a character pattern. -/
def trimEndMatches (c : Char) (s : String) : String :=
  ofList (s.toList.rdropWhile (· == c))

/-- `str::contains` with a string pattern. -/
def contains (s pattern : String) : Bool :=
  decide (pattern.toList <:+: s.toList)

/-- `str::starts_with` with a string pattern. -/
def startsWith (s pattern : String) : Bool :=
  pattern.toList.isPrefixOf s.toList

/-- `str::ends_with` with a string pattern. -/
def endsWith (s pattern : String) : Bool :=
  pattern.toList.isSuffixOf s.toList

/-- `str::strip_prefix` with a string pattern. -/
def stripPrefix (s pattern : String) : Option String :=
  if startsWith s pattern then
    some (ofList (s.toList.drop pattern.toList.length))
  else
    none

/-- `str::split_once` with a character pattern: the text before and after the
first occurrence. -/
def splitOnce (s : String) (c : Char) : Option (String × String) :=
  if c ∈ s.toList then
    some (ofList (s.toList.takeWhile (· != c)), ofList ((s.toList.dropWhile (· != c)).drop 1))
  else
    none

/-- `str::split` with a character pattern. -/
def split (s : String) (c : Char) : List String :=
  (s.toList.splitOn c).map ofList

/-- A number with leading zeros up to a width, as `{:04}` formats it. -/
def zeroPadded (width number : Nat) : String :=
  ofList ((Nat.toDigits 10 number).leftpad width '0')

/-- `str::replace` of one character by another. -/
def replaceChar (s : String) (old new : Char) : String :=
  ofList (s.toList.map fun c => if c == old then new else c)

/-- `str::replace` of a character by a text. -/
def replaceWith (s : String) (old : Char) (new : String) : String :=
  ofList (s.toList.flatMap fun c => if c == old then new.toList else [c])

/-- `char::is_whitespace`. -/
def isWhitespace (c : Char) : Bool :=
  let code := c.toNat
  (9 ≤ code && code ≤ 13) || code = 0x20 || code = 0x85 || code = 0xa0 || code = 0x1680 ||
    (0x2000 ≤ code && code ≤ 0x200a) || code = 0x2028 || code = 0x2029 || code = 0x202f ||
    code = 0x205f || code = 0x3000

/-- `str::split_whitespace` and its first piece. -/
def firstWord (s : String) : Option String :=
  match (s.toList.dropWhile isWhitespace).takeWhile fun c => !isWhitespace c with
  | [] => none
  | word => some (ofList word)

/-- `str::to_ascii_uppercase`, which is `str::to_uppercase` on ASCII texts. -/
def toAsciiUppercase (s : String) : String := ofList (s.toList.map Char.toUpper)

def toAsciiLowercase (s : String) : String := ofList (s.toList.map Char.toLower)

/-- `str::trim`. -/
def trim (s : String) : String :=
  ofList ((s.toList.dropWhile isWhitespace).reverse.dropWhile isWhitespace).reverse

variable {s : String}

lemma eq_of_toList_eq {t : String} (equal : s.toList = t.toList) : s = t :=
  toList_inj.mp equal

lemma trim_append_newline : trim (s ++ "\n") = trim s := by
  simp only [trim, toList_append, dropWhile_append]
  have blank : isWhitespace '\n' = true := rfl
  split
  · rename_i all
    simp [isEmpty_iff.mp all, blank]
  · simp [blank]

lemma length_trim_le : (trim s).toList.length ≤ s.toList.length := by
  rw [trim, toList_ofList, length_reverse]
  refine (dropWhile_suffix _).length_le.trans ?_
  rw [length_reverse]
  exact (dropWhile_suffix _).length_le

variable {c : Char}

/-- A property of the letters of a text, checked letter by letter. -/
lemma forall_mem_of_all {letter : Char → Prop} [DecidablePred letter] {text : List Char}
    (all : text.all (fun c => decide (letter c)) = true) : ∀ c ∈ text, letter c := by
  simpa using all

/-- Trimming leaves a text alone that starts with another character. -/
lemma trimStartMatches_of_head {d : Char} {rest : List Char}
    (head : s.toList = d :: rest) (different : d ≠ c) : trimStartMatches c s = s := by
  apply eq_of_toList_eq
  simp [trimStartMatches, head, different]

variable {pattern : String}

lemma startsWith_iff : startsWith s pattern = true ↔ ∃ rest, s = pattern ++ rest := by
  simp only [startsWith, isPrefixOf_iff_prefix]
  constructor
  · rintro ⟨rest, equal⟩
    exact ⟨ofList rest, eq_of_toList_eq (by simp [equal])⟩
  · rintro ⟨rest, rfl⟩
    exact ⟨rest.toList, by simp⟩

lemma stripPrefix_append (pattern rest : String) :
    stripPrefix (pattern ++ rest) pattern = some rest := by
  have starts : startsWith (pattern ++ rest) pattern = true :=
    startsWith_iff.mpr ⟨rest, rfl⟩
  simp [stripPrefix, starts]

lemma stripPrefix_eq_some {rest : String} :
    stripPrefix s pattern = some rest ↔ s = pattern ++ rest := by
  constructor
  · intro stripped
    by_cases starts : startsWith s pattern
    · obtain ⟨_, rfl⟩ := startsWith_iff.mp starts
      rw [stripPrefix_append] at stripped
      rw [Option.some.inj stripped]
    · simp [stripPrefix, starts] at stripped
  · rintro rfl
    exact stripPrefix_append pattern rest

/-- The text before the first separator determines the split. -/
lemma append_sep_inj {left right x y : List Char} (leftFree : c ∉ left) (rightFree : c ∉ right)
    (equal : left ++ c :: x = right ++ c :: y) : left = right ∧ x = y := by
  induction left generalizing right with
  | nil =>
    cases right with
    | nil => exact ⟨rfl, by simpa using equal⟩
    | cons => simp at equal rightFree; exact absurd equal.1 rightFree.1
  | cons _ _ ih =>
    cases right with
    | nil => simp at equal leftFree; exact absurd equal.1.symm leftFree.1
    | cons =>
      simp only [cons_append, List.cons.injEq] at equal
      simp only [mem_cons, not_or] at leftFree rightFree
      obtain ⟨tails, suffixes⟩ := ih leftFree.2 rightFree.2 equal.2
      exact ⟨by rw [equal.1, tails], suffixes⟩

/-- A separator is not bridged by a pattern that does not contain it. -/
lemma infix_append_sep {pattern left right : List Char}
    (nonempty : pattern ≠ []) (free : c ∉ pattern) :
    pattern <:+: left ++ c :: right ↔ pattern <:+: left ∨ pattern <:+: right := by
  constructor
  · rintro ⟨before, after, equal⟩
    rw [List.append_assoc] at equal
    rcases append_eq_append_iff.mp equal with ⟨rest, leftEq, tailEq⟩ | ⟨rest, _, tailEq⟩
    · left
      rcases append_eq_append_iff.mp tailEq with ⟨more, restEq, _⟩ | ⟨more, patternEq, sepEq⟩
      · exact ⟨before, more, by rw [leftEq, restEq, List.append_assoc]⟩
      · cases more with
        | nil => exact ⟨before, [], by rw [leftEq, patternEq]; simp⟩
        | cons =>
          simp only [cons_append, List.cons.injEq] at sepEq
          exact absurd (by rw [patternEq, sepEq.1]; simp) free
    · right
      cases rest with
      | nil =>
        cases pattern with
        | nil => exact absurd rfl nonempty
        | cons =>
          simp only [nil_append, cons_append, List.cons.injEq] at tailEq
          exact absurd (by rw [tailEq.1]; simp) free
      | cons _ tail =>
        simp only [cons_append, List.cons.injEq] at tailEq
        exact ⟨tail, after, by rw [tailEq.2, List.append_assoc]⟩
  · rintro (⟨before, after, equal⟩ | ⟨before, after, equal⟩)
    · exact ⟨before, after ++ c :: right, by rw [← equal]; simp⟩
    · exact ⟨left ++ c :: before, after, by rw [← equal]; simp⟩

variable {left right separator : String}

lemma contains_append_sep (single : separator.toList = [c]) (nonempty : pattern.toList ≠ [])
    (free : c ∉ pattern.toList) :
    contains (left ++ separator ++ right) pattern =
      (contains left pattern || contains right pattern) := by
  simp [contains, single, infix_append_sep nonempty free]

/-- The first piece of a split ends at the first separator. -/
lemma split_append_sep (single : separator.toList = [c]) (free : c ∉ left.toList) :
    split (left ++ separator ++ right) c = left :: split right c := by
  have pieces := splitOn_append_cons_self_of_not_mem free right.toList
  simp [split, single, pieces]

/-- A suffix without the separator lies behind it. -/
lemma endsWith_append_sep (single : separator.toList = [c]) (free : c ∉ pattern.toList) :
    endsWith (left ++ separator ++ right) pattern = endsWith right pattern := by
  have whole : (left ++ separator ++ right).toList = left.toList ++ c :: right.toList := by
    simp [single]
  rw [Bool.eq_iff_iff, endsWith, endsWith, isSuffixOf_iff_suffix, isSuffixOf_iff_suffix, whole]
  constructor
  · intro ends
    rcases suffix_or_suffix_of_suffix ends (suffix_append _ _) with within | beyond
    · rcases suffix_cons_iff.mp within with same | behind
      · exact absurd (same ▸ mem_cons_self) free
      · exact behind
    · exact absurd (beyond.subset mem_cons_self) free
  · intro ends
    exact ends.trans ((suffix_cons _ _).trans (suffix_append _ _))

lemma dropWhile_ne_of_mem {chars : List Char} (present : c ∈ chars) :
    chars.dropWhile (· != c) = c :: (chars.dropWhile (· != c)).drop 1 := by
  induction chars with
  | nil => cases present
  | cons head tail ih =>
    by_cases same : head = c
    · simp [same]
    · have later : c ∈ tail := (mem_cons.mp present).resolve_left (Ne.symm same)
      simpa [same] using ih later

lemma splitOnce_eq_some {before after : String}
    (single : separator.toList = [c]) (found : splitOnce s c = some (before, after)) :
    s = before ++ separator ++ after := by
  by_cases present : c ∈ s.toList
  · rw [splitOnce, if_pos present] at found
    cases found
    have dropped := dropWhile_ne_of_mem present
    apply eq_of_toList_eq
    conv_lhs => rw [← List.takeWhile_append_dropWhile (p := (· != c)) (l := s.toList), dropped]
    simp [single]
  · rw [splitOnce, if_neg present] at found
    cases found

lemma split_eq_singleton (free : c ∉ s.toList) : split s c = [s] := by
  simp [split, splitOn_eq_singleton free]

lemma free_of_mem_split {piece : String} (mem : piece ∈ split s c) : c ∉ piece.toList := by
  have free : ∀ chars part : List Char, part ∈ chars.splitOn c → c ∉ part := by
    intro chars
    induction chars with
    | nil => simp [splitOn_nil]
    | cons _ rest ih =>
      intro part isPart
      rw [splitOn_cons_eq_if_modifyHead] at isPart
      split at isPart
      · rcases mem_cons.mp isPart with rfl | later
        · simp
        · exact ih part later
      · rename_i other
        cases pieces : rest.splitOn c with
        | nil => exact absurd pieces (splitOn_ne_nil _ _)
        | cons head =>
          rw [pieces] at isPart ih
          rcases mem_cons.mp isPart with rfl | later
          · rw [mem_cons, not_or]
            exact ⟨fun same => other (beq_iff_eq.mpr same.symm), ih head mem_cons_self⟩
          · exact ih part (mem_cons_of_mem _ later)
  obtain ⟨part, isPart, rfl⟩ := mem_map.mp mem
  rw [toList_ofList]
  exact free s.toList part isPart

lemma split_append_cons (single : separator.toList = [c]) :
    split (left ++ separator ++ right) c = split left c ++ split right c := by
  simp [split, single, splitOn_append_cons_self]

/-- What is asked of the pieces of joined texts is asked of the pieces of each text. -/
lemma any_split_intercalate (single : separator.toList = [c]) {test : String → Bool}
    (empty : test "" = false) (texts : List String) :
    (split (String.intercalate separator texts) c).any test =
      texts.any fun text => (split text c).any test := by
  induction texts with
  | nil => simp [split, splitOn_nil, empty]
  | cons text rest ih =>
    cases rest with
    | nil => simp
    | cons =>
      rw [String.intercalate_cons_cons, split_append_cons single, any_append, ih,
        any_cons (a := text)]

lemma startsWith_split_append (free : c ∉ left.toList) :
    ∃ piece ∈ split (left ++ right) c, startsWith piece left = true := by
  by_cases present : c ∈ right.toList
  · obtain ⟨before, after, parts, first⟩ := eq_append_cons_of_mem present
    have whole : left ++ right = left ++ ofList before ++ ofList [c] ++ ofList after := by
      apply eq_of_toList_eq
      simp [parts]
    rw [whole, split_append_sep toList_ofList (by simp [free, first])]
    exact ⟨_, mem_cons_self, startsWith_iff.mpr ⟨_, rfl⟩⟩
  · rw [split_eq_singleton (by simp [free, present])]
    exact ⟨_, mem_singleton_self _, startsWith_iff.mpr ⟨_, rfl⟩⟩

/-- A part of joined texts stands at the start or behind a separator. -/
lemma stands_in_intercalate {part : List Char} {parts : List (List Char)} (mem : part ∈ parts) :
    part <+: [c].intercalate parts ∨ c :: part <:+: [c].intercalate parts := by
  induction parts with
  | nil => cases mem
  | cons _ rest ih =>
    cases rest with
    | nil => simp_all
    | cons =>
      rw [List.intercalate_cons_cons, List.append_assoc, singleton_append]
      rcases mem_cons.mp mem with rfl | later
      · exact .inl (prefix_append _ _)
      · rcases ih later with starts | stands
        · exact .inr (((prefix_cons_inj c).mpr starts).isInfix.trans (suffix_append ..).isInfix)
        · exact .inr (stands.trans ((suffix_cons ..).isInfix.trans (suffix_append ..).isInfix))

/-- A piece that starts with a pattern starts at the start or behind a separator. -/
lemma any_startsWith_split (s : String) (single : separator.toList = [c])
    (free : c ∉ pattern.toList) :
    (split s c).any (startsWith · pattern) =
      (startsWith s pattern || contains s (separator ++ pattern)) := by
  rw [Bool.eq_iff_iff, any_eq_true, Bool.or_eq_true]
  constructor
  · rintro ⟨piece, mem, starts⟩
    obtain ⟨part, isPart, rfl⟩ := mem_map.mp mem
    have within : pattern.toList <+: part := by simpa [startsWith] using starts
    have stands := stands_in_intercalate (c := c) isPart
    rw [intercalate_splitOn] at stands
    simp only [startsWith, isPrefixOf_iff_prefix, contains, decide_eq_true_eq, toList_append,
      single, singleton_append]
    exact stands.imp within.trans ((prefix_cons_inj c).mpr within).isInfix.trans
  · rintro (starts | stands)
    · obtain ⟨_, rfl⟩ := startsWith_iff.mp starts
      exact startsWith_split_append free
    · obtain ⟨before, after, whole⟩ := of_decide_eq_true stands
      have parts : s = ofList before ++ separator ++ (pattern ++ ofList after) := by
        apply eq_of_toList_eq
        simp [← whole]
      obtain ⟨piece, mem, starts⟩ := @startsWith_split_append c pattern (ofList after) free
      rw [parts, split_append_cons single]
      exact ⟨piece, mem_append_right _ mem, starts⟩

lemma split_injective : Function.Injective fun s => split s c := by
  intro s t equal
  have pieces := map_injective_iff.mpr (fun _ _ same => ofList_inj.mp same) equal
  have joined := congrArg [c].intercalate pieces
  rwa [intercalate_splitOn, intercalate_splitOn, toList_inj] at joined

/-! ## Padded numbers -/

variable {width : Nat}

lemma zeroPadded_injective : Function.Injective (zeroPadded width) := by
  have decode : ∀ number, Nat.ofDigitChars 10 (zeroPadded width number).toList 0 = number := by
    intro _
    simp [zeroPadded, List.leftpad, Nat.ofDigitChars_append, Nat.ofDigitChars_replicate_zero,
      Nat.ofDigitChars_ten_toDigits]
  intro first _ equal
  rw [← decode first, equal, decode]

lemma isDigit_of_mem_zeroPadded {number : Nat}
    (mem : c ∈ (zeroPadded width number).toList) : c.isDigit = true := by
  simp only [zeroPadded, toList_ofList, List.leftpad, mem_append] at mem
  rcases mem with padding | digit
  · rw [eq_of_mem_replicate padding]
    rfl
  · exact Nat.isDigit_of_mem_toDigits (by decide) (by decide) digit

end Parqonaut.Rust.Str
