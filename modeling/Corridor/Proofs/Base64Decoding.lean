import Corridor.Proofs.Inert

namespace Corridor.Base64

theorem sextet?_letter {n : Nat} (small : n < 64) : sextet? (letter n) = some n := by
  have all : ∀ m < 64, sextet? (letter m) = some m := by decide
  exact all n small

theorem letter_ne_padding {n : Nat} (small : n < 64) : letter n ≠ '=' := by
  have all : ∀ m < 64, letter m ≠ '=' := by decide
  exact all n small

theorem ofNat_eq_of_eq_toNat {n : Nat} {byte : UInt8} (value : n = byte.toNat) :
    UInt8.ofNat n = byte := by
  rw [value, UInt8.ofNat_toNat]

theorem decode?_letters {p q r t : Nat} (first : p < 64) (second : q < 64) (third : r < 64)
    (fourth : t < 64) (rest : List Char) :
    decode? (letter p :: letter q :: letter r :: letter t :: rest) =
      (decode? rest).map fun bytes => UInt8.ofNat (p * 4 + q / 16) ::
        UInt8.ofNat (q % 16 * 16 + r / 4) :: UInt8.ofNat (r % 4 * 64 + t) :: bytes := by
  rw [decode?, sextet?_letter first, sextet?_letter second, sextet?_letter third,
    sextet?_letter fourth]
  · cases decode? rest <;> rfl
  -- the last letter is no padding
  · exact fun _ padding _ => letter_ne_padding fourth padding
  · exact fun padding _ => letter_ne_padding fourth padding

theorem decode?_encode (bytes : List UInt8) : decode? (encode bytes) = some bytes := by
  fun_induction encode bytes with
  | case1 => rfl
  | case2 a =>
    have boundA := a.toNat_lt
    have byteA : UInt8.ofNat (a.toNat / 4 * 4 + a.toNat % 4 * 16 / 16) = a :=
      ofNat_eq_of_eq_toNat (by omega)
    rw [decode?, sextet?_letter (by omega), sextet?_letter (by omega)]
    simp only [Option.bind_eq_bind, Option.bind_some]
    rw [if_pos (by omega), byteA]
  | case3 a b =>
    have boundA := a.toNat_lt
    have boundB := b.toNat_lt
    have byteA : UInt8.ofNat (a.toNat / 4 * 4 + (a.toNat % 4 * 16 + b.toNat / 16) / 16) = a :=
      ofNat_eq_of_eq_toNat (by omega)
    have byteB : UInt8.ofNat ((a.toNat % 4 * 16 + b.toNat / 16) % 16 * 16 + b.toNat % 16 * 4 / 4) =
        b := ofNat_eq_of_eq_toNat (by omega)
    rw [decode?, sextet?_letter (by omega), sextet?_letter (by omega), sextet?_letter (by omega)]
    · simp only [Option.bind_eq_bind, Option.bind_some]
      rw [if_pos (by omega), byteA, byteB]
    · exact letter_ne_padding (by omega)
  | case4 a b c rest ih =>
    have boundA := a.toNat_lt
    have boundB := b.toNat_lt
    have boundC := c.toNat_lt
    have byteA : UInt8.ofNat (a.toNat / 4 * 4 + (a.toNat % 4 * 16 + b.toNat / 16) / 16) = a :=
      ofNat_eq_of_eq_toNat (by omega)
    have byteB : UInt8.ofNat ((a.toNat % 4 * 16 + b.toNat / 16) % 16 * 16 +
        (b.toNat % 16 * 4 + c.toNat / 64) / 4) = b := ofNat_eq_of_eq_toNat (by omega)
    have byteC : UInt8.ofNat ((b.toNat % 16 * 4 + c.toNat / 64) % 4 * 64 + c.toNat % 64) = c :=
      ofNat_eq_of_eq_toNat (by omega)
    rw [decode?_letters (by omega) (by omega) (by omega) (by omega), ih, Option.map_some, byteA,
      byteB, byteC]

theorem decode?_encodeText (text : String) :
    decode? (encodeText text).toList = some text.toUTF8.toList := by
  rw [encodeText, String.toList_ofList, decode?_encode]

theorem utf8_inj {first second : String} :
    first.toUTF8.toList = second.toUTF8.toList ↔ first = second := by
  rw [toList_eq_data, toList_eq_data, Array.toList_inj]
  constructor
  · exact fun same => String.toByteArray_inj.mp (ByteArray.ext same)
  · exact fun same => by rw [same]

theorem encodeText_inj {first second : String} :
    encodeText first = encodeText second ↔ first = second := by
  constructor
  · intro same
    rw [← utf8_inj]
    apply Option.some.inj
    rw [← decode?_encodeText, ← decode?_encodeText, same]
  · exact congrArg encodeText

end Corridor.Base64
