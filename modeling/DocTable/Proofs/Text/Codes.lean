import DocTable.ExtendedJson.Reader
import DocTable.ExtendedJson.Writer

/-!
# Bytes as text

Bytes come back from their hexadecimal digits and from their Base64 letters, however many they are.
-/

namespace DocTable

theorem UInt8.ofNat_eq {n : Nat} {b : UInt8} (h : n = b.toNat) : UInt8.ofNat n = b := by
  rw [h, UInt8.ofNat_toNat]

namespace Hex

variable {n : Nat}

@[simp] theorem digitValue?_digit (h : n < 16) : digitValue? (digit n) = some n := by
  revert n
  decide

theorem utf8Size_digit (h : n < 16) : (digit n).utf8Size = 1 := by
  revert n
  decide

theorem digits_lt (b : UInt8) : b.toNat / 16 < 16 ∧ b.toNat % 16 < 16 := by
  have := b.toNat_lt
  omega

theorem encode_cons (b : UInt8) (bytes : List UInt8) :
    encode (b :: bytes) = digit (b.toNat / 16) :: digit (b.toNat % 16) :: encode bytes := rfl

theorem decode?_encode (bytes : List UInt8) : decode? (encode bytes) = some bytes := by
  induction bytes with
  | nil => rfl
  | cons b bytes ih =>
    obtain ⟨high, low⟩ := digits_lt b
    rw [encode_cons, decode?, digitValue?_digit high, digitValue?_digit low, ih]
    simp only [bind, Option.bind, pure, Nat.div_add_mod', UInt8.ofNat_toNat]

theorem value?_ofByte (b : UInt8) : value? ('0' :: '0' :: ofByte b) = some b.toNat := by
  obtain ⟨high, low⟩ := digits_lt b
  have zero : digitValue? '0' = some 0 := rfl
  simp [value?, ofByte, zero, high, low, Nat.div_add_mod']

end Hex

namespace Base64

variable {n : Nat}

theorem letterValue?_letter (h : n < 64) : letterValue? (letter n) = some n := by
  revert n
  decide

theorem letter_ne_padding (h : n < 64) : letter n ≠ '=' := by
  intro same
  have value := letterValue?_letter h
  rw [same] at value
  cases value

theorem decode?_encode (bytes : List UInt8) : decode? (encode bytes) = some bytes := by
  induction bytes using encode.induct with
  | case1 => rfl
  | case2 a =>
    have := a.toNat_lt
    have first := letterValue?_letter (n := a.toNat / 4) (by omega)
    have second := letterValue?_letter (n := a.toNat % 4 * 16) (by omega)
    have unused : a.toNat % 4 * 16 % 16 = 0 := by omega
    rw [encode, decode?, first, second]
    simp only [bind, Option.bind, if_pos unused]
    rw [UInt8.ofNat_eq (b := a) (by omega)]
  | case3 a b =>
    have := a.toNat_lt
    have := b.toNat_lt
    have first := letterValue?_letter (n := a.toNat / 4) (by omega)
    have second := letterValue?_letter (n := a.toNat % 4 * 16 + b.toNat / 16) (by omega)
    have third := letterValue?_letter (n := b.toNat % 16 * 4) (by omega)
    have unused : b.toNat % 16 * 4 % 4 = 0 := by omega
    rw [encode, decode?.eq_3 _ _ _ (letter_ne_padding (by omega)), first, second, third]
    simp only [bind, Option.bind, if_pos unused]
    rw [UInt8.ofNat_eq (b := a) (by omega), UInt8.ofNat_eq (b := b) (by omega)]
  | case4 a b c bytes ih =>
    have := a.toNat_lt
    have := b.toNat_lt
    have := c.toNat_lt
    have first := letterValue?_letter (n := a.toNat / 4) (by omega)
    have second := letterValue?_letter (n := a.toNat % 4 * 16 + b.toNat / 16) (by omega)
    have third := letterValue?_letter (n := b.toNat % 16 * 4 + c.toNat / 64) (by omega)
    have fourth := letterValue?_letter (n := c.toNat % 64) (by omega)
    have last : letter (c.toNat % 64) ≠ '=' := letter_ne_padding (by omega)
    rw [encode, decode?.eq_4 _ _ _ _ _ (fun _ pad _ => last pad) fun pad _ => last pad, first,
      second, third, fourth, ih]
    simp only [bind, Option.bind, pure]
    rw [UInt8.ofNat_eq (b := a) (by omega), UInt8.ofNat_eq (b := b) (by omega),
      UInt8.ofNat_eq (b := c) (by omega)]

end Base64

namespace ExtendedJson.Content

theorem size_encode (bytes : List UInt8) : Utf8.size (Hex.encode bytes) = 2 * bytes.length := by
  induction bytes with
  | nil => rfl
  | cons b bytes ih =>
    obtain ⟨high, low⟩ := Hex.digits_lt b
    have step : Utf8.size (Hex.encode (b :: bytes)) = 1 + (1 + Utf8.size (Hex.encode bytes)) := by
      rw [Hex.encode_cons, Utf8.size, List.foldr_cons, List.foldr_cons, Hex.utf8Size_digit high,
        Hex.utf8Size_digit low, Utf8.size]
    rw [step, ih, List.length_cons]
    omega

theorem firstForeignByte?_encode (index : Nat) (bytes : List UInt8) :
    firstForeignByte? index (Hex.encode bytes) = none := by
  induction bytes generalizing index with
  | nil => rfl
  | cons b bytes ih =>
    obtain ⟨high, low⟩ := Hex.digits_lt b
    simp [Hex.encode_cons, firstForeignByte?, high, low, ih]

theorem objectId_hex (id : ObjectId) : objectId id.hex = .ok id := by
  have even : Utf8.size (Hex.encode id.bytes) % 2 = 0 := by
    rw [size_encode]
    omega
  have bytes : ObjectId.ofBytes? id.bytes = some id := dif_pos id.length_eq
  simp [objectId, ObjectId.hex, even, firstForeignByte?_encode, Hex.decode?_encode, bytes]

theorem binary_encode (subtype : UInt8) (bytes : List UInt8) :
    binary (String.ofList (Base64.encode bytes)) (subtypeText subtype) =
      .ok (.binary subtype bytes) := by
  have one : Hex.decode? (Hex.ofByte subtype) = some [subtype] := by
    simpa [Hex.encode] using Hex.decode?_encode [subtype]
  simp [binary, subtypeText, Base64.decode?_encode, one]

end ExtendedJson.Content

end DocTable
