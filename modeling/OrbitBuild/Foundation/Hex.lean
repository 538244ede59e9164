import OrbitBuild.Foundation.Utf8

/-! # Lower-case hexadecimal text

The strict encoding: two lower-case digits a byte, and a decoder that accepts
nothing else.
-/

namespace Hex

/-- The digit for a value below sixteen. -/
def digit (value : Nat) : Char :=
  Char.ofNat (if value < 10 then 0x30 + value else 0x57 + value)

/-- The value of an ASCII lower-case hexadecimal digit. -/
def digitValue (byte : UInt8) : Option Nat :=
  if 0x30 ≤ byte.toNat ∧ byte.toNat ≤ 0x39 then some (byte.toNat - 0x30)
  else if 0x61 ≤ byte.toNat ∧ byte.toNat ≤ 0x66 then some (byte.toNat - 0x57)
  else none

/-- The digits of a byte string. -/
def encodeChars (bytes : List UInt8) : List Char :=
  bytes.flatMap fun byte => [digit (byte.toNat / 16), digit (byte.toNat % 16)]

/-- `HEXLOWER.encode`. -/
def encode (bytes : List UInt8) : String := String.ofList (encodeChars bytes)

/-- `HEXLOWER.decode`: an odd length or any other byte is refused. -/
def decode : List UInt8 → Option (List UInt8)
  | [] => some []
  | [_] => none
  | high :: low :: rest => do
      let upper ← digitValue high
      let lower ← digitValue low
      let tail ← decode rest
      return UInt8.ofNat (16 * upper + lower) :: tail

/-- The alphabet, as code points: figures and lower case letters. -/
theorem digit_toNat : ∀ value < 16,
    (digit value).toNat = if value < 10 then 0x30 + value else 0x57 + value := by
  decide

theorem digit_ascii : ∀ value < 16, (digit value).toNat < 0x80 := by decide

theorem encodeChars_cons (byte : UInt8) (rest : List UInt8) :
    encodeChars (byte :: rest) =
      digit (byte.toNat / 16) :: digit (byte.toNat % 16) :: encodeChars rest := rfl

/-- An encoded text is ASCII. -/
theorem encode_ascii (bytes : List UInt8) : ∀ char ∈ (encode bytes).toList, char.toNat < 0x80 := by
  intro char member
  rw [encode, String.toList_ofList] at member
  obtain ⟨byte, -, digits⟩ := List.mem_flatMap.mp member
  have bound := byte.toNat_lt
  rcases List.mem_pair.mp digits with rfl | rfl <;> exact digit_ascii _ (by omega)

/-- A digit has the value it was made for. -/
theorem digitValue_digit : ∀ value < 16,
    digitValue (UInt8.ofNat (digit value).toNat) = some value := by
  decide

/-- A value is read from the character of its digit and from no other. -/
theorem digitValue_eq_some {byte : UInt8} {value : Nat} :
    digitValue byte = some value ↔ value < 16 ∧ byte = UInt8.ofNat (digit value).toNat := by
  constructor
  · intro read
    have small : value < 16 ∧
        byte.toNat = if value < 10 then 0x30 + value else 0x57 + value := by
      unfold digitValue at read
      split at read
      · cases read
        rw [if_pos (by omega)]
        omega
      · split at read
        · cases read
          rw [if_neg (by omega)]
          omega
        · cases read
    refine ⟨small.1, ?_⟩
    rw [digit_toNat value small.1, ← small.2, UInt8.ofNat_toNat]
  · rintro ⟨small, rfl⟩
    exact digitValue_digit value small

/-- An encoded text has one byte for each digit. -/
theorem utf8_encode (bytes : List UInt8) :
    Utf8.encode (encode bytes) =
      (encodeChars bytes).map fun char => UInt8.ofNat char.toNat := by
  rw [Utf8.encode_ascii (encode_ascii bytes), encode, String.toList_ofList]

/-- Each byte makes its two digits. -/
theorem utf8_encode_cons (byte : UInt8) (rest : List UInt8) :
    Utf8.encode (encode (byte :: rest)) =
      UInt8.ofNat (digit (byte.toNat / 16)).toNat :: UInt8.ofNat (digit (byte.toNat % 16)).toNat ::
        Utf8.encode (encode rest) := by
  rw [utf8_encode, utf8_encode, encodeChars_cons, List.map_cons, List.map_cons]

/-- Decoding the text of a byte string gives the bytes back. -/
theorem decode_encode (bytes : List UInt8) : decode (Utf8.encode (encode bytes)) = some bytes := by
  induction bytes with
  | nil =>
      rw [utf8_encode]
      rfl
  | cons byte rest ih =>
      have bound := byte.toNat_lt
      have high := digitValue_digit (byte.toNat / 16) (by omega)
      have low := digitValue_digit (byte.toNat % 16) (by omega)
      have value : UInt8.ofNat (16 * (byte.toNat / 16) + byte.toNat % 16) = byte := by
        rw [Nat.div_add_mod, UInt8.ofNat_toNat]
      simp only [utf8_encode_cons, decode, high, low, ih, Option.bind_eq_bind,
        Option.bind_some, value, Option.pure_def]

/-- The decoder accepts the encoded texts and nothing else. -/
theorem decode_eq_some {text bytes : List UInt8} :
    decode text = some bytes ↔ text = Utf8.encode (encode bytes) := by
  constructor
  · intro decoded
    induction text using decode.induct generalizing bytes with
    | case1 =>
        cases decoded
        rw [utf8_encode]
        rfl
    | case2 _ => cases decoded
    | case3 high low rest ih =>
        simp only [decode, Option.bind_eq_bind, Option.bind_eq_some_iff] at decoded
        obtain ⟨upper, readUpper, lower, readLower, tail, readTail, decoded⟩ := decoded
        obtain ⟨smallUpper, rfl⟩ := digitValue_eq_some.mp readUpper
        obtain ⟨smallLower, rfl⟩ := digitValue_eq_some.mp readLower
        cases decoded
        have value : (UInt8.ofNat (16 * upper + lower)).toNat = 16 * upper + lower := by
          rw [UInt8.toNat_ofNat']
          omega
        have quotient : (16 * upper + lower) / 16 = upper := by omega
        have remainder : (16 * upper + lower) % 16 = lower := by omega
        rw [utf8_encode_cons, value, quotient, remainder, ih readTail]
  · rintro rfl
    exact decode_encode bytes

/-- An encoded text has two bytes for each byte. -/
theorem length_utf8_encode (bytes : List UInt8) :
    (Utf8.encode (encode bytes)).length = 2 * bytes.length := by
  induction bytes with
  | nil =>
      rw [utf8_encode]
      rfl
  | cons byte rest ih =>
      rw [utf8_encode_cons, List.length_cons, List.length_cons, ih, List.length_cons]
      omega

/-- An encoded text has nothing but digits. -/
theorem isSome_digitValue_of_mem {bytes : List UInt8} {byte : UInt8}
    (member : byte ∈ Utf8.encode (encode bytes)) : (digitValue byte).isSome := by
  induction bytes with
  | nil =>
      rw [utf8_encode] at member
      cases member
  | cons first rest ih =>
      have bound := first.toNat_lt
      rw [utf8_encode_cons, List.mem_cons, List.mem_cons] at member
      rcases member with rfl | rfl | later
      · rw [digitValue_digit _ (by omega), Option.isSome_some]
      · rw [digitValue_digit _ (by omega), Option.isSome_some]
      · exact ih later

/-- Different bytes have different texts. -/
theorem encode_injective {first second : List UInt8} (same : encode first = encode second) :
    first = second := by
  have texts := decode_encode first
  rw [same, decode_encode] at texts
  exact (Option.some.inj texts).symm

/-- A byte takes two places. -/
theorem length_encodeChars (bytes : List UInt8) :
    (encodeChars bytes).length = 2 * bytes.length := by
  induction bytes with
  | nil => rfl
  | cons byte rest ih =>
      rw [encodeChars_cons, List.length_cons, List.length_cons, ih, List.length_cons]
      omega

/-- The digits of the first bytes are the first digits. -/
theorem encodeChars_take (bytes : List UInt8) (count : Nat) :
    encodeChars (bytes.take count) = (encodeChars bytes).take (2 * count) := by
  induction bytes generalizing count with
  | nil => simp [encodeChars]
  | cons byte rest ih =>
      cases count with
      | zero => rfl
      | succ count =>
          rw [List.take_succ_cons, encodeChars_cons, ih, encodeChars_cons, Nat.mul_succ,
            List.take_succ_cons, List.take_succ_cons]

end Hex
