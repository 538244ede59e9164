import Mathlib.Algebra.BigOperators.Group.List.Basic
import Mathlib.Algebra.GroupWithZero.Nat
import Mathlib.Data.Bool.Basic
import Mathlib.Data.List.TakeDrop
import Mathlib.Data.Option.Basic

/-! # UTF-8: encoding, lossy decoding and byte offsets

Decoding follows Rust's `Utf8Chunks`: a byte string is cut into maximal pieces,
each a scalar value or an ill-formed sequence, and an ill-formed sequence ends
before the first byte that cannot continue it.
-/

namespace Utf8

/-- A continuation byte `10xxxxxx`. -/
def isContinuation (byte : UInt8) : Bool := 0x80 ≤ byte.toNat && byte.toNat ≤ 0xBF

/-- The length of the sequence a lead byte announces, zero where no sequence starts. -/
def charWidth (lead : UInt8) : Nat :=
  if lead.toNat < 0x80 then 1
  else if 0xC2 ≤ lead.toNat && lead.toNat ≤ 0xDF then 2
  else if 0xE0 ≤ lead.toNat && lead.toNat ≤ 0xEF then 3
  else if 0xF0 ≤ lead.toNat && lead.toNat ≤ 0xF4 then 4
  else 0

/-- The second bytes of three- and four-byte sequences, which exclude overlong
forms, surrogates and values above U+10FFFF. -/
def secondAllowed (lead second : UInt8) : Bool :=
  if lead.toNat = 0xE0 then 0xA0 ≤ second.toNat && second.toNat ≤ 0xBF
  else if lead.toNat = 0xED then 0x80 ≤ second.toNat && second.toNat ≤ 0x9F
  else if lead.toNat = 0xF0 then 0x90 ≤ second.toNat && second.toNat ≤ 0xBF
  else if lead.toNat = 0xF4 then 0x80 ≤ second.toNat && second.toNat ≤ 0x8F
  else isContinuation second

/-- The first piece of `lead :: rest`, `none` for an ill-formed sequence, and the
bytes after it. -/
def nextPiece (lead : UInt8) (rest : List UInt8) : Option Char × List UInt8 :=
  match charWidth lead, rest with
  | 1, _ => (some (Char.ofNat lead.toNat), rest)
  | 2, second :: tail =>
      if isContinuation second then
        (some (Char.ofNat ((lead.toNat - 0xC0) * 0x40 + (second.toNat - 0x80))), tail)
      else (none, rest)
  | 3, second :: tail =>
      if secondAllowed lead second then
        match tail with
        | third :: tail' =>
            if isContinuation third then
              (some (Char.ofNat ((lead.toNat - 0xE0) * 0x1000 + (second.toNat - 0x80) * 0x40 +
                (third.toNat - 0x80))), tail')
            else (none, tail)
        | [] => (none, [])
      else (none, rest)
  | 4, second :: tail =>
      if secondAllowed lead second then
        match tail with
        | third :: tail' =>
            if isContinuation third then
              match tail' with
              | fourth :: tail'' =>
                  if isContinuation fourth then
                    (some (Char.ofNat ((lead.toNat - 0xF0) * 0x40000 +
                      (second.toNat - 0x80) * 0x1000 + (third.toNat - 0x80) * 0x40 +
                      (fourth.toNat - 0x80))), tail'')
                  else (none, tail')
              | [] => (none, [])
            else (none, tail)
        | [] => (none, [])
      else (none, rest)
  | _, _ => (none, rest)

/-- The pieces of a byte string, with the number of bytes as fuel. -/
def piecesWithin : Nat → List UInt8 → List (Option Char)
  | 0, _ => []
  | _, [] => []
  | fuel + 1, lead :: rest =>
      (nextPiece lead rest).1 :: piecesWithin fuel (nextPiece lead rest).2

/-- The maximal pieces of a byte string. -/
def pieces (bytes : List UInt8) : List (Option Char) := piecesWithin bytes.length bytes

/-- U+FFFD REPLACEMENT CHARACTER. -/
def replacement : Char := Char.ofNat 0xFFFD

/-- `String::from_utf8_lossy`: every ill-formed sequence becomes U+FFFD. -/
def fromUtf8Lossy (bytes : List UInt8) : String :=
  String.ofList ((pieces bytes).map (·.getD replacement))

/-- Whether `std::str::from_utf8` accepts the bytes. -/
def isValid (bytes : List UInt8) : Bool := (pieces bytes).all Option.isSome

/-- The UTF-8 bytes of a string. -/
def encode (s : String) : List UInt8 := s.toList.flatMap String.utf8EncodeChar

/-- The number of bytes of a character sequence. -/
def size (chars : List Char) : Nat := (chars.map Char.utf8Size).sum

/-- The characters of the first `count` bytes, if `count` is a character boundary. -/
def takeBytes : List Char → Nat → Option (List Char)
  | _, 0 => some []
  | [], _ + 1 => none
  | char :: rest, count =>
      if char.utf8Size ≤ count then (takeBytes rest (count - char.utf8Size)).map (char :: ·)
      else none

/-! ## Pieces -/

/-- The bytes a piece has in the decoded text. -/
def pieceSize : Option Char → Nat
  | some char => char.utf8Size
  | none => 3

theorem utf8Size_replacement : replacement.utf8Size = 3 := by decide

/-- A piece is written in as many bytes as its size says. -/
theorem utf8Size_getD (piece : Option Char) :
    (piece.getD replacement).utf8Size = pieceSize piece := by
  cases piece with
  | some char => rfl
  | none => exact utf8Size_replacement

private theorem val_ofNat {code : Nat} (valid : code.isValidChar) :
    (Char.ofNat code).val.toNat = code := by
  rw [Char.ofNat, dif_pos valid]
  rfl

private theorem utf8Size_ofNat_one {code : Nat} (upper : code ≤ 0x7F) :
    (Char.ofNat code).utf8Size = 1 := by
  rw [Char.utf8Size_eq_one_iff, UInt32.le_iff_toNat_le, val_ofNat (Or.inl (by omega))]
  exact upper

/-- Every piece leaves a suffix of what follows its lead byte. -/
theorem nextPiece_length_le (lead : UInt8) (rest : List UInt8) :
    (nextPiece lead rest).2.length ≤ rest.length := by
  unfold nextPiece
  repeat' split
  all_goals simp only [List.length_cons, List.length_nil]
  all_goals omega

/-- Fuel beyond the number of bytes changes nothing. -/
theorem piecesWithin_congr {first second : Nat} {bytes : List UInt8}
    (enoughFirst : bytes.length ≤ first) (enoughSecond : bytes.length ≤ second) :
    piecesWithin first bytes = piecesWithin second bytes := by
  induction first generalizing second bytes with
  | zero =>
      rw [List.length_eq_zero_iff.mp (Nat.le_zero.mp enoughFirst)]
      cases second <;> rfl
  | succ first ih =>
      cases bytes with
      | nil => cases second <;> rfl
      | cons lead rest =>
          have shrinks := nextPiece_length_le lead rest
          rw [List.length_cons] at enoughFirst enoughSecond
          obtain ⟨second, rfl⟩ := Nat.exists_eq_add_one_of_ne_zero (show second ≠ 0 by omega)
          simp only [piecesWithin, List.cons.injEq, true_and]
          exact ih (by omega) (by omega)

@[simp] theorem pieces_nil : pieces [] = [] := rfl

/-- The pieces of a text are its first one and those of the rest. -/
theorem pieces_cons (lead : UInt8) (rest : List UInt8) :
    pieces (lead :: rest) = (nextPiece lead rest).1 :: pieces (nextPiece lead rest).2 := by
  simp only [pieces, List.length_cons, piecesWithin, List.cons.injEq, true_and]
  exact piecesWithin_congr (nextPiece_length_le lead rest) (Nat.le_refl _)

/-! ## ASCII text -/

/-- A byte of ASCII is a piece of its own. -/
theorem nextPiece_ascii {lead : UInt8} (ascii : lead.toNat < 0x80) (rest : List UInt8) :
    nextPiece lead rest = (some (Char.ofNat lead.toNat), rest) := by
  unfold nextPiece
  simp only [charWidth, ascii, ↓reduceIte]

/-- Bytes of ASCII are read one by one. -/
theorem pieces_ascii {bytes : List UInt8} (ascii : ∀ byte ∈ bytes, byte.toNat < 0x80) :
    pieces bytes = bytes.map fun byte => some (Char.ofNat byte.toNat) := by
  induction bytes with
  | nil => rfl
  | cons lead rest ih =>
      rw [pieces_cons, nextPiece_ascii (ascii lead List.mem_cons_self)]
      simp only [List.map_cons, List.cons.injEq, true_and]
      exact ih fun byte member => ascii byte (List.mem_cons_of_mem lead member)

/-- A character of ASCII is written as one byte. -/
theorem encodeChar_ascii {char : Char} (ascii : char.toNat < 0x80) :
    String.utf8EncodeChar char = [UInt8.ofNat char.toNat] := by
  have single : char.utf8Size = 1 := by
    rw [Char.utf8Size_eq_one_iff, UInt32.le_iff_toNat_le]
    exact Nat.le_of_lt_succ ascii
  rw [String.utf8EncodeChar_eq_singleton single]
  rfl

/-- A text of ASCII is written character by character. -/
theorem encode_ascii {s : String} (ascii : ∀ char ∈ s.toList, char.toNat < 0x80) :
    encode s = s.toList.map fun char => UInt8.ofNat char.toNat := by
  unfold encode
  rw [List.flatMap_congr fun char member => encodeChar_ascii (ascii char member)]
  exact List.flatMap_pure_eq_map _ _

theorem toNat_ofNat_ascii {char : Char} (ascii : char.toNat < 0x80) :
    (UInt8.ofNat char.toNat).toNat = char.toNat := by
  rw [UInt8.toNat_ofNat']
  exact Nat.mod_eq_of_lt (Nat.lt_of_lt_of_le ascii (by decide))

/-- A text of ASCII is written in bytes of ASCII. -/
theorem bytes_ascii {s : String} (ascii : ∀ char ∈ s.toList, char.toNat < 0x80) :
    ∀ byte ∈ encode s, byte.toNat < 0x80 := by
  intro byte member
  rw [encode_ascii ascii] at member
  obtain ⟨char, inside, rfl⟩ := List.mem_map.mp member
  rw [toNat_ofNat_ascii (ascii char inside)]
  exact ascii char inside

/-- ASCII text survives encoding and lossy decoding. -/
theorem fromUtf8Lossy_encode {s : String} (ascii : ∀ char ∈ s.toList, char.toNat < 0x80) :
    fromUtf8Lossy (encode s) = s := by
  have decoded := pieces_ascii (bytes_ascii ascii)
  rw [fromUtf8Lossy, decoded, encode_ascii ascii, List.map_map, List.map_map]
  conv_rhs => rw [← String.ofList_toList (s := s), ← List.map_id s.toList]
  refine congrArg String.ofList (List.map_congr_left fun char member => ?_)
  simp only [Function.comp_apply, toNat_ofNat_ascii (ascii char member), Option.getD_some, id_eq]
  exact Char.ofNat_toNat char

theorem pieceSize_ascii {byte : UInt8} (ascii : byte.toNat < 0x80) :
    pieceSize (some (Char.ofNat byte.toNat)) = 1 :=
  utf8Size_ofNat_one (Nat.le_of_lt_succ ascii)

/-! ## Whole texts -/

/-- Texts that are put together are written one after the other. -/
theorem encode_append (first second : String) :
    encode (first ++ second) = encode first ++ encode second := by
  rw [encode, String.toList_append, List.flatMap_append]
  rfl

/-- Different texts are written differently. -/
theorem encode_injective {first second : String} (same : encode first = encode second) :
    first = second := by
  apply String.toByteArray_inj.mp
  have bytes := congrArg List.toByteArray same
  rwa [encode, encode, ← List.utf8Encode, ← List.utf8Encode, ← String.toByteArray_ofList,
    ← String.toByteArray_ofList, String.ofList_toList, String.ofList_toList] at bytes

/-! ## Byte offsets -/

/-- An offset is a character boundary when some of the leading characters fill
exactly that many bytes. -/
theorem takeBytes_isSome (chars : List Char) (count : Nat) :
    (takeBytes chars count).isSome ↔ ∃ taken, size (chars.take taken) = count := by
  induction chars generalizing count with
  | nil => cases count <;> simp [takeBytes, size]
  | cons char rest ih =>
      have positive := char.utf8Size_pos
      cases count with
      | zero => simpa [takeBytes] using ⟨0, rfl⟩
      | succ count =>
          simp only [takeBytes]
          split
          · next fits =>
              rw [Option.isSome_map, ih]
              constructor
              · intro both
                obtain ⟨taken, filled⟩ := both
                refine ⟨taken + 1, ?_⟩
                simp only [size, List.take_succ_cons, List.map_cons, List.sum_cons] at filled ⊢
                omega
              · intro both
                obtain ⟨taken, filled⟩ := both
                cases taken with
                | zero => simp [size] at filled
                | succ taken =>
                    refine ⟨taken, ?_⟩
                    simp only [size, List.take_succ_cons, List.map_cons, List.sum_cons] at filled ⊢
                    omega
          · next large =>
              simp only [Option.isSome_none, Bool.false_eq_true, false_iff, not_exists]
              intro taken filled
              cases taken with
              | zero => simp [size] at filled
              | succ taken =>
                  simp only [size, List.take_succ_cons, List.map_cons, List.sum_cons] at filled
                  omega

/-! ## ASCII text -/

theorem utf8Size_ascii {char : Char} (ascii : char.toNat < 0x80) : char.utf8Size = 1 := by
  rw [Char.utf8Size_eq_one_iff, UInt32.le_iff_toNat_le]
  exact Nat.le_of_lt_succ ascii

/-- ASCII text has as many bytes as characters. -/
theorem size_ascii {chars : List Char} (ascii : ∀ char ∈ chars, char.toNat < 0x80) :
    size chars = chars.length := by
  induction chars with
  | nil => rfl
  | cons char rest ih =>
      obtain ⟨here, others⟩ := List.forall_mem_cons.mp ascii
      have tail := ih others
      rw [size] at tail ⊢
      rw [List.map_cons, List.sum_cons, tail, utf8Size_ascii here, List.length_cons,
        Nat.add_comm]

/-- Of ASCII text the first bytes are the first characters. -/
theorem takeBytes_ascii {chars : List Char} (ascii : ∀ char ∈ chars, char.toNat < 0x80)
    {count : Nat} (enough : count ≤ chars.length) :
    takeBytes chars count = some (chars.take count) := by
  induction chars generalizing count with
  | nil =>
      cases Nat.le_zero.mp enough
      rfl
  | cons char rest ih =>
      cases count with
      | zero => rfl
      | succ count =>
          obtain ⟨here, others⟩ := List.forall_mem_cons.mp ascii
          have tail := ih others (Nat.le_of_succ_le_succ enough)
          have fits : char.utf8Size ≤ count + 1 := by
            rw [utf8Size_ascii here]
            exact Nat.le_add_left 1 count
          simp only [takeBytes]
          rw [if_pos fits, utf8Size_ascii here, Nat.succ_eq_add_one, Nat.add_sub_cancel, tail]
          rfl

end Utf8
