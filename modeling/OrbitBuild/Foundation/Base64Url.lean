import Mathlib.Data.List.Infix
import OrbitBuild.Foundation.Text
import OrbitBuild.Foundation.Utf8

/-! # base64url text without padding

Three bytes become four sextets, and a last group of one or two bytes becomes two or
three. The strict decoder refuses bytes outside the alphabet, a last group of one
sextet, and a last group whose unused bits are not zero.
-/

namespace Base64Url

/-- The digit for a sextet. -/
def digit (value : Nat) : Char :=
  Char.ofNat
    (if value < 26 then 0x41 + value
    else if value < 52 then 0x61 + (value - 26)
    else if value < 62 then 0x30 + (value - 52)
    else if value = 62 then 0x2D
    else 0x5F)

/-- The sextet of a digit. -/
def digitValue (byte : UInt8) : Option Nat :=
  if 0x41 ≤ byte.toNat ∧ byte.toNat ≤ 0x5A then some (byte.toNat - 0x41)
  else if 0x61 ≤ byte.toNat ∧ byte.toNat ≤ 0x7A then some (byte.toNat - 0x61 + 26)
  else if 0x30 ≤ byte.toNat ∧ byte.toNat ≤ 0x39 then some (byte.toNat - 0x30 + 52)
  else if byte.toNat = 0x2D then some 62
  else if byte.toNat = 0x5F then some 63
  else none

/-- The sextets of a byte string. The last one is filled up with zero bits. -/
def sextets : List UInt8 → List Nat
  | [] => []
  | [first] => [first.toNat / 4, first.toNat % 4 * 16]
  | [first, second] =>
      [first.toNat / 4, first.toNat % 4 * 16 + second.toNat / 16, second.toNat % 16 * 4]
  | first :: second :: third :: rest =>
      first.toNat / 4 :: (first.toNat % 4 * 16 + second.toNat / 16) ::
        (second.toNat % 16 * 4 + third.toNat / 64) :: third.toNat % 64 :: sextets rest

/-- The byte string of a sequence of sextets. -/
def ofSextets : List Nat → Option (List UInt8)
  | [] => some []
  | [_] => none
  | [first, second] =>
      if second % 16 = 0 then some [UInt8.ofNat (first * 4 + second / 16)] else none
  | [first, second, third] =>
      if third % 4 = 0 then
        some [UInt8.ofNat (first * 4 + second / 16), UInt8.ofNat (second % 16 * 16 + third / 4)]
      else none
  | first :: second :: third :: fourth :: rest => do
      let tail ← ofSextets rest
      return UInt8.ofNat (first * 4 + second / 16) :: UInt8.ofNat (second % 16 * 16 + third / 4) ::
        UInt8.ofNat (third % 4 * 64 + fourth) :: tail

/-- `BASE64URL_NOPAD.encode`. -/
def encode (bytes : List UInt8) : String := String.ofList ((sextets bytes).map digit)

/-- `BASE64URL_NOPAD.decode`. -/
def decode (text : List UInt8) : Option (List UInt8) := do
  let values ← text.mapM digitValue
  ofSextets values

/-! ## Digits -/

theorem digit_printable :
    ∀ value < 64, 0x20 < (digit value).toNat ∧ (digit value).toNat < 0x7F := by
  decide

/-- A digit has the value it was made for. -/
theorem digitValue_digit : ∀ value < 64,
    digitValue (UInt8.ofNat (digit value).toNat) = some value := by
  decide

/-- The alphabet, as code points: upper case, lower case, figures, minus and underscore. -/
theorem digit_toNat : ∀ value < 64, (digit value).toNat =
    if value < 26 then 0x41 + value
    else if value < 52 then 0x61 + (value - 26)
    else if value < 62 then 0x30 + (value - 52)
    else if value = 62 then 0x2D
    else 0x5F := by
  decide

/-- Only the digit of a sextet stands for it. -/
theorem digitValue_eq_some {byte : UInt8} {value : Nat} :
    digitValue byte = some value ↔ value < 64 ∧ byte = UInt8.ofNat (digit value).toNat := by
  constructor
  · intro found
    have bound : value < 64 := by
      unfold digitValue at found
      split_ifs at found <;> cases found <;> omega
    have code : (digit value).toNat = byte.toNat := by
      rw [digit_toNat value bound]
      unfold digitValue at found
      split_ifs at found <;> cases found <;> split_ifs <;> omega
    exact ⟨bound, by rw [code, UInt8.ofNat_toNat]⟩
  · intro both
    obtain ⟨bound, rfl⟩ := both
    exact digitValue_digit value bound

/-- Exactly the digits of values below 64 have values, and these determine the text. -/
theorem mapM_digitValue_eq_some {text : List UInt8} {values : List Nat} :
    text.mapM digitValue = some values ↔
      (∀ value ∈ values, value < 64) ∧
        text = values.map fun value => UInt8.ofNat (digit value).toNat := by
  induction text generalizing values with
  | nil => cases values <;> simp
  | cons byte rest ih =>
      rw [List.mapM_cons]
      cases values with
      | nil => simp [Option.bind_eq_some_iff]
      | cons value values =>
          simp only [Option.bind_eq_bind, Option.bind_eq_some_iff, Option.pure_def,
            Option.some.injEq, List.cons.injEq, List.forall_mem_cons, List.map_cons]
          constructor
          · intro both
            obtain ⟨head, found, tail, decoded, rfl, rfl⟩ := both
            obtain ⟨bound, rfl⟩ := digitValue_eq_some.mp found
            obtain ⟨bounds, rfl⟩ := ih.mp decoded
            exact ⟨⟨bound, bounds⟩, rfl, rfl⟩
          · intro both
            obtain ⟨⟨bound, bounds⟩, rfl, rfl⟩ := both
            exact ⟨value, digitValue_digit value bound, values, ih.mpr ⟨bounds, rfl⟩, rfl, rfl⟩

/-! ## Groups of sextets -/

/-- Each group of six bits is a number below 64. -/
theorem sextets_lt (bytes : List UInt8) : ∀ value ∈ sextets bytes, value < 64 := by
  fun_induction sextets bytes with
  | case1 => exact nofun
  | case2 first =>
      have bound := first.toNat_lt
      simp only [List.forall_mem_cons, List.not_mem_nil, false_implies, implies_true, and_true]
      omega
  | case3 first second =>
      have bound := first.toNat_lt
      have boundSecond := second.toNat_lt
      simp only [List.forall_mem_cons, List.not_mem_nil, false_implies, implies_true, and_true]
      omega
  | case4 first second third rest ih =>
      have bound := first.toNat_lt
      have boundSecond := second.toNat_lt
      have boundThird := third.toNat_lt
      simp only [List.forall_mem_cons]
      refine ⟨by omega, by omega, by omega, by omega, ih⟩

theorem ofNat_eq {value : Nat} (byte : UInt8) (same : value = byte.toNat) :
    UInt8.ofNat value = byte := by
  rw [same, UInt8.ofNat_toNat]

/-- Cutting bytes into groups of six bits loses nothing. -/
theorem ofSextets_sextets (bytes : List UInt8) : ofSextets (sextets bytes) = some bytes := by
  fun_induction sextets bytes with
  | case1 => rfl
  | case2 first =>
      have unused : first.toNat % 4 * 16 % 16 = 0 := by omega
      rw [ofSextets, if_pos unused, ofNat_eq first (by omega)]
  | case3 first second =>
      have bound := second.toNat_lt
      have unused : second.toNat % 16 * 4 % 4 = 0 := by omega
      rw [ofSextets, if_pos unused, ofNat_eq first (by omega),
        ofNat_eq second (by omega)]
  | case4 first second third rest ih =>
      have bound := second.toNat_lt
      have boundThird := third.toNat_lt
      rw [ofSextets, ih, ofNat_eq first (by omega), ofNat_eq second (by omega),
        ofNat_eq third (by omega)]
      rfl

theorem toNat_ofNat {value : Nat} (bound : value < 256) : (UInt8.ofNat value).toNat = value := by
  rw [UInt8.toNat_ofNat']
  exact Nat.mod_eq_of_lt bound

/-- Strictness: what decodes is what the decoded bytes are encoded as. -/
theorem sextets_of_ofSextets {values : List Nat} {bytes : List UInt8}
    (bounded : ∀ value ∈ values, value < 64) (decoded : ofSextets values = some bytes) :
    sextets bytes = values := by
  fun_induction ofSextets values generalizing bytes with
  | case1 => cases decoded; rfl
  | case2 => cases decoded
  | case3 first second unused =>
      cases decoded
      simp only [List.forall_mem_cons] at bounded
      rw [sextets, toNat_ofNat (by omega)]
      simp only [List.cons.injEq, and_true]
      omega
  | case4 => cases decoded
  | case5 first second third unused =>
      cases decoded
      simp only [List.forall_mem_cons] at bounded
      rw [sextets, toNat_ofNat (by omega), toNat_ofNat (by omega)]
      simp only [List.cons.injEq, and_true]
      omega
  | case6 => cases decoded
  | case7 first second third fourth rest ih =>
      simp only [List.forall_mem_cons] at bounded
      obtain ⟨boundFirst, boundSecond, boundThird, boundFourth, boundRest⟩ := bounded
      obtain ⟨tail, decodedTail, whole⟩ := Option.bind_eq_some_iff.mp decoded
      cases whole
      rw [sextets, ih boundRest decodedTail, toNat_ofNat (by omega), toNat_ofNat (by omega),
        toNat_ofNat (by omega)]
      simp only [List.cons.injEq, and_true]
      omega

/-- The first byte fills the first group and the upper bits of the second. -/
theorem sextets_cons (first : UInt8) (rest : List UInt8) :
    ∃ second tail, sextets (first :: rest) = first.toNat / 4 :: second :: tail ∧
      second / 16 = first.toNat % 4 := by
  match rest with
  | [] => exact ⟨_, _, rfl, by omega⟩
  | [second] =>
      have bound := second.toNat_lt
      exact ⟨_, _, rfl, by omega⟩
  | second :: third :: rest =>
      have bound := second.toNat_lt
      exact ⟨_, _, rfl, by omega⟩

/-- Two bytes fill the first two groups and the upper bits of the third. -/
theorem sextets_cons_cons (first second : UInt8) (rest : List UInt8) :
    ∃ third tail, sextets (first :: second :: rest) =
        first.toNat / 4 :: (first.toNat % 4 * 16 + second.toNat / 16) :: third :: tail ∧
      third / 4 = second.toNat % 16 := by
  match rest with
  | [] => exact ⟨_, _, rfl, by omega⟩
  | third :: rest =>
      have bound := third.toNat_lt
      exact ⟨_, _, rfl, by omega⟩

/-- The bytes of a front part of the sextets are a front part of the bytes. -/
theorem prefix_of_sextets {front whole : List UInt8} (cut : sextets front <+: sextets whole) :
    front <+: whole := by
  fun_induction sextets front generalizing whole with
  | case1 => exact List.nil_prefix
  | case2 first =>
      match whole with
      | [] => simp [sextets] at cut
      | head :: rest =>
          obtain ⟨second, tail, shape, high⟩ := sextets_cons head rest
          simp only [shape, List.cons_prefix_cons, List.nil_prefix, and_true] at cut
          have same : first = head := UInt8.toNat_inj.mp (by omega)
          rw [same]
          exact List.prefix_append [head] rest
  | case3 first second =>
      match whole with
      | [] | [_] => simp [sextets] at cut
      | head :: next :: rest =>
          obtain ⟨third, tail, shape, high⟩ := sextets_cons_cons head next rest
          have bound := second.toNat_lt
          have boundNext := next.toNat_lt
          simp only [shape, List.cons_prefix_cons, List.nil_prefix, and_true] at cut
          have same : first = head := UInt8.toNat_inj.mp (by omega)
          have sameNext : second = next := UInt8.toNat_inj.mp (by omega)
          rw [same, sameNext]
          exact List.prefix_append [head, next] rest
  | case4 first second third rest ih =>
      match whole with
      | [] | [_] | [_, _] => simp [sextets] at cut
      | head :: next :: last :: whole =>
          have bound := second.toNat_lt
          have boundNext := next.toNat_lt
          have boundThird := third.toNat_lt
          have boundLast := last.toNat_lt
          simp only [sextets, List.cons_prefix_cons] at cut
          obtain ⟨one, two, three, four, tail⟩ := cut
          have same : first = head := UInt8.toNat_inj.mp (by omega)
          have sameNext : second = next := UInt8.toNat_inj.mp (by omega)
          have sameLast : third = last := UInt8.toNat_inj.mp (by omega)
          simp only [same, sameNext, sameLast, List.cons_prefix_cons, true_and]
          exact ih tail

/-! ## Texts -/

/-- An encoded text can be printed. -/
theorem encode_printable (bytes : List UInt8) : Text.Printable (encode bytes) := by
  intro char member
  rw [encode, String.toList_ofList] at member
  obtain ⟨value, inside, rfl⟩ := List.mem_map.mp member
  exact digit_printable value (sextets_lt bytes value inside)

/-- An encoded text is ASCII. -/
theorem encode_ascii (bytes : List UInt8) : ∀ char ∈ (encode bytes).toList, char.toNat < 0x80 :=
  fun char member => Nat.lt_succ_of_lt (encode_printable bytes char member).2

/-- An encoded text has one byte for each digit. -/
theorem utf8_encode (bytes : List UInt8) :
    Utf8.encode (encode bytes) =
      (sextets bytes).map fun value => UInt8.ofNat (digit value).toNat := by
  rw [Utf8.encode_ascii (encode_ascii bytes), encode, String.toList_ofList, List.map_map]
  rfl

/-- The decoder accepts exactly the texts the encoder writes. -/
theorem decode_eq_some {text bytes : List UInt8} :
    decode text = some bytes ↔ text = Utf8.encode (encode bytes) := by
  rw [utf8_encode, decode, Option.bind_eq_bind, Option.bind_eq_some_iff]
  constructor
  · intro both
    obtain ⟨values, read, decoded⟩ := both
    obtain ⟨bounded, rfl⟩ := mapM_digitValue_eq_some.mp read
    rw [sextets_of_ofSextets bounded decoded]
  · rintro rfl
    exact ⟨sextets bytes, mapM_digitValue_eq_some.mpr ⟨sextets_lt bytes, rfl⟩,
      ofSextets_sextets bytes⟩

/-- **Decoding undoes encoding.** Every list of bytes comes back from its text. -/
theorem decode_encode (bytes : List UInt8) : decode (Utf8.encode (encode bytes)) = some bytes :=
  decode_eq_some.mpr rfl

/-- A front part of a text that still decodes decodes to a front part of the bytes. -/
theorem prefix_of_decode {text front whole : List UInt8}
    (cut : text <+: Utf8.encode (encode whole)) (decoded : decode text = some front) :
    front <+: whole := by
  rw [decode_eq_some.mp decoded, utf8_encode, utf8_encode] at cut
  have values : ∀ bytes : List UInt8,
      ((sextets bytes).map fun value => UInt8.ofNat (digit value).toNat).map digitValue =
        (sextets bytes).map some := by
    intro bytes
    rw [List.map_map]
    exact List.map_congr_left fun value member =>
      digitValue_digit value (sextets_lt bytes value member)
  have cutValues := cut.map digitValue
  rw [values, values] at cutValues
  exact prefix_of_sextets
    ((List.prefix_map_iff_of_injective (Option.some_injective _)).mp cutValues)

end Base64Url
