import Mathlib.Data.List.Infix
import Mathlib.Data.Sum.Basic

/-! # Self-delimiting byte formats

A format writes a value as bytes and reads one off the front of a byte string, giving
back the bytes it did not use. The laws ask that what was written is read back to the
last byte, and that reading does not depend on what follows. The combinators are those
of postcard: integers of variable length, counted sequences, tagged choices.
-/

/-- How the values of a type are written and read. -/
structure Wire (α : Type) where
  put : α → List UInt8
  take : List UInt8 → Option (α × List UInt8)

namespace Wire

variable {α β : Type}

/-- The laws of a self-delimiting format. -/
structure Lawful (format : Wire α) : Prop where
  take_put : ∀ value, format.take (format.put value) = some (value, [])
  take_append : ∀ {bytes value rest}, format.take bytes = some (value, rest) →
    ∀ more, format.take (bytes ++ more) = some (value, rest ++ more)

/-- Read a value off the front and ignore what follows it. -/
def fromBytes (format : Wire α) (bytes : List UInt8) : Option α := (format.take bytes).map Prod.fst

/-- Bytes can follow a value that is read from a slice. -/
theorem fromBytes_eq_some {format : Wire α} {bytes : List UInt8} {value : α} :
    format.fromBytes bytes = some value ↔ ∃ unused, format.take bytes = some (value, unused) := by
  simp only [fromBytes, Option.map_eq_some_iff, Prod.exists, exists_and_right, exists_eq_right]

namespace Lawful

variable {format : Wire α}

/-- What is written can be read from a slice. -/
theorem fromBytes_put (lawful : format.Lawful) (value : α) :
    format.fromBytes (format.put value) = some value :=
  fromBytes_eq_some.mpr ⟨[], lawful.take_put value⟩

/-- What is written can be read in front of more bytes. -/
theorem take_put_append (lawful : format.Lawful) (value : α) (more : List UInt8) :
    format.take (format.put value ++ more) = some (value, more) :=
  lawful.take_append (lawful.take_put value) more

/-- Nothing is read from a proper front part of what was written. -/
theorem take_eq_none_of_prefix (lawful : format.Lawful) {bytes : List UInt8} {value : α}
    (cut : bytes <+: format.put value) (proper : bytes ≠ format.put value) :
    format.take bytes = none := by
  cases found : format.take bytes with
  | none => rfl
  | some read =>
      obtain ⟨other, rest⟩ := read
      obtain ⟨more, whole⟩ := cut
      have extended := lawful.take_append found more
      rw [whole, lawful.take_put, Option.some.injEq, Prod.mk.injEq] at extended
      have nothing := (List.append_eq_nil_iff.mp extended.2.symm).2
      rw [nothing, List.append_nil] at whole
      exact absurd whole proper

end Lawful

/-- One byte. -/
def byte : Wire UInt8 where
  put value := [value]
  take
    | [] => none
    | value :: rest => some (value, rest)

theorem byte_lawful : byte.Lawful where
  take_put _ := rfl
  take_append {bytes _ _} taken more := by
    cases bytes with
    | nil => cases taken
    | cons head tail => cases taken; rfl

/-- A fixed number of bytes. -/
def block (count : Nat) : Wire { bytes : List UInt8 // bytes.length = count } where
  put value := value.1
  take bytes :=
    if enough : count ≤ bytes.length then
      some (⟨bytes.take count, List.length_take_of_le enough⟩, bytes.drop count)
    else none

theorem block_lawful (count : Nat) : (block count).Lawful where
  take_put value := by
    obtain ⟨bytes, rfl⟩ := value
    simp [block]
  take_append {bytes value rest} taken more := by
    simp only [block] at taken ⊢
    split at taken
    · next enough =>
        cases taken
        rw [dif_pos (by rw [List.length_append]; omega)]
        simp only [List.take_append_of_le_length enough, List.drop_append_of_le_length enough]
    · cases taken

/-- A value of one format after a value of another. -/
def pair (first : Wire α) (second : Wire β) : Wire (α × β) where
  put value := first.put value.1 ++ second.put value.2
  take bytes := do
    let (left, middle) ← first.take bytes
    let (right, rest) ← second.take middle
    return ((left, right), rest)

/-- A pair is read as written if its parts are. -/
theorem pair_lawful {first : Wire α} {second : Wire β} (lawfulFirst : first.Lawful)
    (lawfulSecond : second.Lawful) : (pair first second).Lawful where
  take_put value := by
    simp only [pair, lawfulFirst.take_put_append, lawfulSecond.take_put, Option.bind_eq_bind,
      Option.bind_some, Option.pure_def]
  take_append {bytes value rest} taken more := by
    simp only [pair, Option.bind_eq_bind, Option.bind_eq_some_iff] at taken
    obtain ⟨⟨left, middle⟩, head, ⟨right, last⟩, tail, same⟩ := taken
    cases same
    simp only [pair, lawfulFirst.take_append head, lawfulSecond.take_append tail,
      Option.bind_eq_bind, Option.bind_some, Option.pure_def]

/-- The values of a format that stand for values of another type. -/
def restrict (format : Wire α) (build : α → Option β) (raw : β → α) : Wire β where
  put value := format.put (raw value)
  take bytes := do
    let (read, rest) ← format.take bytes
    let value ← build read
    return (value, rest)

/-- A value that is built from a raw one is read as written. -/
theorem restrict_lawful {format : Wire α} {build : α → Option β} {raw : β → α}
    (lawful : format.Lawful) (inverse : ∀ value, build (raw value) = some value) :
    (restrict format build raw).Lawful where
  take_put value := by
    simp only [restrict, lawful.take_put, inverse, Option.bind_eq_bind, Option.bind_some,
      Option.pure_def]
  take_append {bytes value rest} taken more := by
    simp only [restrict, Option.bind_eq_bind, Option.bind_eq_some_iff] at taken
    obtain ⟨⟨read, last⟩, head, built, found, same⟩ := taken
    cases same
    simp only [restrict, lawful.take_append head, found, Option.bind_eq_bind, Option.bind_some,
      Option.pure_def]

/-- A choice of two formats, told apart by the index in front. -/
def either (first : Wire α) (second : Wire β) : Wire (α ⊕ β) where
  put
    | .inl value => 0 :: first.put value
    | .inr value => 1 :: second.put value
  take
    | 0 :: rest => (first.take rest).map fun read => (.inl read.1, read.2)
    | 1 :: rest => (second.take rest).map fun read => (.inr read.1, read.2)
    | _ => none

/-- A choice is read as written if both sides are. -/
theorem either_lawful {first : Wire α} {second : Wire β} (lawfulFirst : first.Lawful)
    (lawfulSecond : second.Lawful) : (either first second).Lawful where
  take_put value := by
    cases value with
    | inl left => simp [either, lawfulFirst.take_put]
    | inr right => simp [either, lawfulSecond.take_put]
  take_append {bytes value rest} taken more := by
    simp only [either] at taken
    split at taken
    · obtain ⟨read, head, same⟩ := Option.map_eq_some_iff.mp taken
      cases same
      simp [either, lawfulFirst.take_append head]
    · obtain ⟨read, head, same⟩ := Option.map_eq_some_iff.mp taken
      cases same
      simp [either, lawfulSecond.take_append head]
    · cases taken

/-- Seven bits a byte, the low ones first; every byte but the last is marked. -/
def putVarint (value : Nat) : List UInt8 :=
  if value < 128 then [UInt8.ofNat value]
  else UInt8.ofNat (value % 128 + 128) :: putVarint (value / 128)

/-- Read an integer of variable length. Longer spellings than necessary are accepted. -/
def takeVarint : List UInt8 → Option (Nat × List UInt8)
  | [] => none
  | head :: rest =>
      if head.toNat < 128 then some (head.toNat, rest)
      else do
        let (high, last) ← takeVarint rest
        return (head.toNat - 128 + 128 * high, last)

/-- An integer of variable length. -/
def varint : Wire Nat := ⟨putVarint, takeVarint⟩

/-- A number is read as written. -/
theorem takeVarint_putVarint (value : Nat) : takeVarint (putVarint value) = some (value, []) := by
  fun_induction putVarint value with
  | case1 value small =>
      have code : (UInt8.ofNat value).toNat = value := by
        rw [UInt8.toNat_ofNat']
        omega
      simp only [takeVarint, code, small, ↓reduceIte]
  | case2 value large ih =>
      have code : (UInt8.ofNat (value % 128 + 128)).toNat = value % 128 + 128 := by
        rw [UInt8.toNat_ofNat']
        omega
      have marked : ¬ value % 128 + 128 < 128 := by omega
      have whole : value % 128 + 128 - 128 + 128 * (value / 128) = value := by omega
      simp only [takeVarint, code, marked, ↓reduceIte, ih, Option.bind_eq_bind, Option.bind_some,
        Option.pure_def, whole]

/-- A number that is read takes nothing of what follows it. -/
theorem takeVarint_append {bytes rest : List UInt8} {value : Nat}
    (taken : takeVarint bytes = some (value, rest)) (more : List UInt8) :
    takeVarint (bytes ++ more) = some (value, rest ++ more) := by
  induction bytes generalizing value rest with
  | nil => cases taken
  | cons head tail ih =>
      simp only [takeVarint] at taken
      split at taken
      · next small =>
          cases taken
          simp only [List.cons_append, takeVarint, small, ↓reduceIte]
      · next marked =>
          simp only [Option.bind_eq_bind, Option.bind_eq_some_iff] at taken
          obtain ⟨⟨high, last⟩, read, same⟩ := taken
          cases same
          simp only [List.cons_append, takeVarint, marked, ↓reduceIte, ih read,
            Option.bind_eq_bind, Option.bind_some, Option.pure_def]

/-- A number of variable length is read as written. -/
theorem varint_lawful : varint.Lawful := ⟨takeVarint_putVarint, takeVarint_append⟩

/-- Read a number of values. -/
def takeMany (format : Wire α) : Nat → List UInt8 → Option (List α × List UInt8)
  | 0, bytes => some ([], bytes)
  | count + 1, bytes => do
      let (head, middle) ← format.take bytes
      let (tail, rest) ← takeMany format count middle
      return (head :: tail, rest)

/-- A sequence of values after their number. -/
def counted (format : Wire α) : Wire (List α) where
  put values := varint.put values.length ++ values.flatMap format.put
  take bytes := do
    let (count, middle) ← varint.take bytes
    takeMany format count middle

/-- As many values as were written are read as written. -/
theorem takeMany_put {format : Wire α} (lawful : format.Lawful) (values : List α) :
    takeMany format values.length (values.flatMap format.put) = some (values, []) := by
  induction values with
  | nil => rfl
  | cons head tail ih =>
      simp only [List.length_cons, List.flatMap_cons, takeMany, lawful.take_put_append, ih,
        Option.bind_eq_bind, Option.bind_some, Option.pure_def]

/-- Values that are read take nothing of what follows them. -/
theorem takeMany_append {format : Wire α} (lawful : format.Lawful) {count : Nat}
    {bytes rest : List UInt8} {values : List α}
    (taken : takeMany format count bytes = some (values, rest)) (more : List UInt8) :
    takeMany format count (bytes ++ more) = some (values, rest ++ more) := by
  induction count generalizing bytes values with
  | zero => cases taken; rfl
  | succ count ih =>
      simp only [takeMany, Option.bind_eq_bind, Option.bind_eq_some_iff] at taken
      obtain ⟨⟨head, middle⟩, read, ⟨tail, last⟩, readTail, same⟩ := taken
      cases same
      simp only [takeMany, lawful.take_append read, ih readTail, Option.bind_eq_bind,
        Option.bind_some, Option.pure_def]

/-- A list with its length in front is read as written. -/
theorem counted_lawful {format : Wire α} (lawful : format.Lawful) : (counted format).Lawful where
  take_put values := by
    simp only [counted, varint_lawful.take_put_append, takeMany_put lawful, Option.bind_eq_bind,
      Option.bind_some]
  take_append {bytes values rest} taken more := by
    simp only [counted, Option.bind_eq_bind, Option.bind_eq_some_iff] at taken
    obtain ⟨⟨count, middle⟩, head, tail⟩ := taken
    simp only [counted, varint_lawful.take_append head, takeMany_append lawful tail,
      Option.bind_eq_bind, Option.bind_some]

/-- UTF-8 text after the number of its bytes. -/
def text : Wire String :=
  restrict (counted byte) (fun bytes => String.fromUTF8? ⟨bytes.toArray⟩)
    fun value => value.toByteArray.data.toList

/-- A text with its length in front is read as written. -/
theorem text_lawful : text.Lawful :=
  restrict_lawful (counted_lawful byte_lawful) fun value => by
    simp [String.fromUTF8?, value.isValidUTF8, String.fromUTF8]

end Wire
