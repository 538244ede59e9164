import Mathlib.Data.List.DropRight
import Mathlib.Data.List.Infix

/-! # Splitting, trimming and joining text

The operations are those of Rust's `str` on sequences of Unicode scalar values.
Each has a form on character lists, about which the laws are stated, and a form
on strings.
-/

namespace Text

/-- The characters with the Unicode property White_Space. -/
def isWhiteSpace (c : Char) : Bool :=
  (0x09 ≤ c.toNat && c.toNat ≤ 0x0D) || c.toNat == 0x20 || c.toNat == 0x85 || c.toNat == 0xA0 ||
    c.toNat == 0x1680 || (0x2000 ≤ c.toNat && c.toNat ≤ 0x200A) || c.toNat == 0x2028 ||
    c.toNat == 0x2029 || c.toNat == 0x202F || c.toNat == 0x205F || c.toNat == 0x3000

/-- Remove the blanks at both ends. -/
def strip (blank : Char → Bool) (chars : List Char) : List Char :=
  (chars.dropWhile blank).rdropWhile blank

/-- `str::split` at a character: one piece more than there are separators. -/
def split (s : String) (separator : Char) : List String :=
  (s.toList.splitOn separator).map String.ofList

/-- `join` with a separator of one character. -/
def join (pieces : List String) (separator : Char) : String :=
  (String.singleton separator).intercalate pieces

/-- Remove the given blanks at both ends of a string. -/
def trimBy (blank : Char → Bool) (s : String) : String :=
  String.ofList (strip blank s.toList)

/-- `str::trim`. -/
def trim (s : String) : String := trimBy isWhiteSpace s

/-- `str::starts_with`. -/
def startsWith (s pattern : String) : Bool := pattern.toList.isPrefixOf s.toList

/-- Whether `pattern` occurs somewhere in `s`. -/
def contains (s pattern : String) : Bool := decide (pattern.toList <:+: s.toList)

/-- `str::rsplit_once`: the text before and after the last separator. -/
def rsplitOnce (s : String) (separator : Char) : Option (String × String) :=
  if separator ∈ s.toList then
    some (String.ofList (s.toList.rdropWhile (· ≠ separator)).dropLast,
      String.ofList (s.toList.rtakeWhile (· ≠ separator)))
  else none

/-- Every character is one of ASCII that is shown, and none is a blank. -/
def Printable (s : String) : Prop := ∀ char ∈ s.toList, 0x20 < char.toNat ∧ char.toNat < 0x7F

/-- Printable texts can be put together. -/
theorem Printable.append {first second : String} (front : Printable first)
    (back : Printable second) : Printable (first ++ second) := by
  intro char member
  rw [String.toList_append] at member
  exact (List.mem_append.mp member).elim (front char) (back char)

/-- A text without the separator is not divided. -/
theorem rsplitOnce_eq_none {s : String} {separator : Char} :
    rsplitOnce s separator = none ↔ separator ∉ s.toList := by
  simp only [rsplitOnce, ite_eq_right_iff, reduceCtorEq, imp_false]

/-- What comes behind the last separator has none. -/
theorem rsplitOnce_eq_some {s front back : String} {separator : Char}
    (divided : rsplitOnce s separator = some (front, back)) :
    separator ∈ s.toList ∧ back.toList = s.toList.rtakeWhile (· ≠ separator) := by
  unfold rsplitOnce at divided
  split at divided
  · next member =>
      cases divided
      exact ⟨member, String.toList_ofList⟩
  · cases divided

/-- The part after the last separator is free of separators. -/
theorem not_mem_of_rsplitOnce {s front back : String} {separator : Char}
    (divided : rsplitOnce s separator = some (front, back)) : separator ∉ back.toList := by
  rw [(rsplitOnce_eq_some divided).2]
  intro member
  simpa using List.mem_rtakeWhile_imp member

/-! ## Occurrences and blanks -/

/-- A solid pattern does not reach into blanks before a text. -/
theorem infix_append_blank {blank : Char → Bool} {pattern front chars : List Char}
    (solid : ∀ c ∈ pattern, blank c = false) (blanks : ∀ c ∈ front, blank c = true) :
    pattern <:+: front ++ chars ↔ pattern <:+: chars := by
  induction front with
  | nil => rw [List.nil_append]
  | cons first front ih =>
      have shorter := ih fun c member => blanks c (List.mem_cons_of_mem first member)
      rw [List.cons_append, List.infix_cons_iff, shorter]
      refine ⟨fun occurs => occurs.elim (fun starts => ?_) id, Or.inr⟩
      cases pattern with
      | nil => exact List.nil_infix
      | cons head tail =>
          have same : head = first := (List.cons_prefix_cons.mp starts).1
          have clash := solid head List.mem_cons_self
          rw [same, blanks first List.mem_cons_self] at clash
          cases clash

/-- A solid pattern is found whether blanks are dropped in front or not. -/
theorem infix_dropWhile {blank : Char → Bool} {pattern chars : List Char}
    (solid : ∀ c ∈ pattern, blank c = false) :
    pattern <:+: chars.dropWhile blank ↔ pattern <:+: chars := by
  have blanks : ∀ c ∈ chars.takeWhile blank, blank c = true := fun c => List.mem_takeWhile_imp
  conv_rhs => rw [← List.takeWhile_append_dropWhile (p := blank) (l := chars)]
  exact (infix_append_blank solid blanks).symm

/-- A solid pattern is found whether blanks are dropped at the end or not. -/
theorem infix_rdropWhile {blank : Char → Bool} {pattern chars : List Char}
    (solid : ∀ c ∈ pattern, blank c = false) :
    pattern <:+: chars.rdropWhile blank ↔ pattern <:+: chars := by
  have reversed : ∀ c ∈ pattern.reverse, blank c = false :=
    fun c member => solid c (List.mem_reverse.mp member)
  rw [← List.reverse_infix, List.rdropWhile, List.reverse_reverse, infix_dropWhile reversed,
    List.reverse_infix]

/-- Trimming keeps every occurrence of a pattern without blanks. -/
theorem contains_trimBy {blank : Char → Bool} {pattern : String} (s : String)
    (solid : pattern.toList.any blank = false) :
    contains (trimBy blank s) pattern = contains s pattern := by
  have visible : ∀ c ∈ pattern.toList, blank c = false := fun c member =>
    Bool.eq_false_iff.mpr (List.any_eq_false.mp solid c member)
  have kept : pattern.toList <:+: strip blank s.toList ↔ pattern.toList <:+: s.toList :=
    (infix_rdropWhile visible).trans (infix_dropWhile visible)
  rw [contains, contains, trimBy, String.toList_ofList]
  exact decide_eq_decide.mpr kept

/-- A text contains the pattern that occurs in it. -/
theorem contains_of_infix {s pattern : String} (occurs : pattern.toList <:+: s.toList) :
    contains s pattern = true :=
  decide_eq_true occurs

/-! ## Pieces and trimmed text -/

/-- A text without separators is its only piece. -/
theorem split_of_not_mem {s : String} {separator : Char} (absent : separator ∉ s.toList) :
    split s separator = [s] := by
  rw [split, List.splitOn_eq_singleton absent, List.map_singleton, String.ofList_toList]

/-- No piece of a divided text has the separator. -/
theorem not_mem_of_mem_splitOn {separator : Char} {chars piece : List Char}
    (member : piece ∈ chars.splitOn separator) : separator ∉ piece := by
  induction chars generalizing piece with
  | nil =>
      rw [List.splitOn_nil, List.mem_singleton] at member
      rw [member]
      exact List.not_mem_nil
  | cons first rest ih =>
      rw [List.splitOn_cons_eq_if_modifyHead] at member
      split at member
      · rcases List.mem_cons.mp member with rfl | later
        · exact List.not_mem_nil
        · exact ih later
      · next different =>
          cases pieces : rest.splitOn separator with
          | nil => exact (List.splitOn_ne_nil separator rest pieces).elim
          | cons head tail =>
              rw [pieces] at member ih
              rcases List.mem_cons.mp member with rfl | later
              · intro inside
                rcases List.mem_cons.mp inside with rfl | deeper
                · exact different (beq_self_eq_true separator)
                · exact ih List.mem_cons_self deeper
              · exact ih (List.mem_cons_of_mem _ later)

/-- The pieces of a text are free of separators. -/
theorem not_mem_of_mem_split {s piece : String} {separator : Char}
    (member : piece ∈ split s separator) : separator ∉ piece.toList := by
  obtain ⟨chars, split, rfl⟩ := List.mem_map.mp member
  rw [String.toList_ofList]
  exact not_mem_of_mem_splitOn split

/-- Splitting undoes the joining of pieces that are free of separators. -/
theorem split_join {pieces : List String} {separator : Char} (nonempty : pieces ≠ [])
    (absent : ∀ piece ∈ pieces, separator ∉ piece.toList) :
    split (join pieces separator) separator = pieces := by
  have separate : ∀ chars ∈ pieces.map String.toList, separator ∉ chars := by
    intro chars member
    obtain ⟨piece, listed, rfl⟩ := List.mem_map.mp member
    exact absent piece listed
  rw [split, join, String.toList_intercalate, String.toList_singleton,
    List.splitOn_intercalate separator separate (by simpa using nonempty), List.map_map]
  exact (List.map_congr_left fun piece _ => String.ofList_toList).trans (List.map_id pieces)

/-- A second strip changes nothing. -/
theorem strip_strip (blank : Char → Bool) (chars : List Char) :
    strip blank (strip blank chars) = strip blank chars := by
  have front : (strip blank chars).dropWhile blank = strip blank chars := by
    cases stripped : strip blank chars with
    | nil => rfl
    | cons head tail =>
        have begins : head :: tail <+: chars.dropWhile blank := by
          rw [← stripped]
          exact List.rdropWhile_prefix _ _
        obtain ⟨rest, whole⟩ := begins
        have visible := List.head?_dropWhile_not blank chars
        rw [← whole] at visible
        exact List.dropWhile_cons_of_neg (by simpa using visible)
  rw [strip, front]
  exact List.rdropWhile_idempotent ..

/-- A text without blanks is stripped of nothing. -/
theorem strip_of_solid {blank : Char → Bool} {chars : List Char}
    (solid : ∀ c ∈ chars, blank c = false) : strip blank chars = chars := by
  have front : chars.dropWhile blank = chars := by
    cases chars with
    | nil => rfl
    | cons head tail =>
        exact List.dropWhile_cons_of_neg (by simp [solid head List.mem_cons_self])
  rw [strip, front, List.rdropWhile_eq_self_iff]
  intro nonempty
  simp [solid _ (List.getLast_mem nonempty)]

/-- A strip adds no characters. -/
theorem mem_of_mem_strip {blank : Char → Bool} {chars : List Char} {c : Char}
    (member : c ∈ strip blank chars) : c ∈ chars :=
  (List.dropWhile_sublist _).subset ((List.rdropWhile_prefix _ _).subset member)

/-- A second trim changes nothing. -/
theorem trim_trim (s : String) : trim (trim s) = trim s := by
  rw [trim, trim, trimBy, trimBy, String.toList_ofList, strip_strip]

/-- A text without white space is trimmed of nothing. -/
theorem trim_of_solid {s : String} (solid : ∀ c ∈ s.toList, isWhiteSpace c = false) :
    trim s = s := by
  rw [trim, trimBy, strip_of_solid solid, String.ofList_toList]

/-- Trimming adds no characters. -/
theorem mem_of_mem_trim {s : String} {c : Char} (member : c ∈ (trim s).toList) : c ∈ s.toList := by
  rw [trim, trimBy, String.toList_ofList] at member
  exact mem_of_mem_strip member

end Text
