import Corridor.Base64
import Corridor.Decimal.Positional
import Corridor.Text.Blank
import Corridor.Proofs.NumeralGrammar
/-!
Characters that neither divide records nor are trimmed. Main statements: all numerals, decimals and
base 64 texts are made of them.
-/
namespace Corridor

def Text.isInert (c : Char) : Bool := c ≠ ',' && c ≠ ';' && !isBlank c

theorem Text.isInert_of_isDigit {c : Char} (digit : c.isDigit = true) : isInert c = true := by
  have range : 48 ≤ c.toNat ∧ c.toNat ≤ 57 := by
    simpa [Char.isDigit, UInt32.le_iff_toNat_le] using digit
  have comma : c ≠ ',' := by
    rintro rfl
    revert range
    decide
  have semicolon : c ≠ ';' := by
    rintro rfl
    revert range
    decide
  have visible : isBlank c = false := by
    rw [isBlank, List.any_eq_false]
    intro range member
    simp only [blankRanges, List.mem_cons, List.not_mem_nil, or_false] at member
    rcases member with rfl | rfl | rfl | rfl | rfl | rfl | rfl | rfl | rfl | rfl <;> simp <;> omega
  simp [isInert, comma, semicolon, visible]

theorem Text.isBlank_of_isInert {c : Char} (inert : isInert c = true) : isBlank c = false := by
  simp only [isInert, Bool.and_eq_true, Bool.not_eq_true'] at inert
  exact inert.2

theorem Text.not_mem_of_isInert {text : List Char} {mark : Char} (dividing : isInert mark = false)
    (inert : ∀ c ∈ text, isInert c = true) : mark ∉ text := by
  intro member
  rw [inert mark member] at dividing
  cases dividing

theorem Numeral.isInert_of_mem_ofNat {n : Nat} {c : Char} (member : c ∈ ofNat n) :
    Text.isInert c = true :=
  Text.isInert_of_isDigit (isDigit_of_mem_ofNat member)

theorem Numeral.isInert_of_mem_ofInt {n : Int} {c : Char} (member : c ∈ ofInt n) :
    Text.isInert c = true := by
  cases n with
  | ofNat n => exact isInert_of_mem_ofNat member
  | negSucc n =>
    rcases List.mem_cons.mp member with rfl | member
    · decide
    · exact isInert_of_mem_ofNat member

theorem Numeral.Digits.isInert {text : List Char} {value : Nat} (digits : Digits text value) :
    ∀ c ∈ text, Text.isInert c = true := fun c member =>
  Text.isInert_of_isDigit (digits.digits c member)

theorem Numeral.isInert_of_unsigned? {max n : Nat} {text : List Char}
    (read : unsigned? max text = some n) : ∀ c ∈ text, Text.isInert c = true := by
  cases (unsigned?_eq_some_iff.mp read).1 with
  | bare digits => exact digits.isInert
  | plus digits => exact List.forall_mem_cons.mpr ⟨by decide, digits.isInert⟩

theorem Numeral.Signed.isInert {text : List Char} {value : Int} (signed : Signed text value) :
    ∀ c ∈ text, Text.isInert c = true := by
  cases signed with
  | plus digits => exact List.forall_mem_cons.mpr ⟨by decide, digits.isInert⟩
  | minus digits => exact List.forall_mem_cons.mpr ⟨by decide, digits.isInert⟩

namespace Decimal

theorem isInert_of_mem_fractionDigits {places fraction : Nat} {c : Char}
    (member : c ∈ fractionDigits places fraction) : Text.isInert c = true := by
  have padded : c ∈ List.replicate (places - (Numeral.ofNat fraction).length) '0' ++
      Numeral.ofNat fraction := by
    rw [fractionDigits, List.mem_reverse] at member
    exact List.mem_reverse.mp ((List.dropWhile_sublist _).mem member)
  rcases List.mem_append.mp padded with zero | digit
  · rw [List.eq_of_mem_replicate zero]
    decide
  · exact Numeral.isInert_of_mem_ofNat digit

theorem isInert_of_mem_positional {s : Scaled} {c : Char} (member : c ∈ s.positional) :
    Text.isInert c = true := by
  have parts : (∀ d ∈ s.parts.1, Text.isInert d = true) ∧ ∀ d ∈ s.parts.2, Text.isInert d = true := by
    rw [Scaled.parts]
    split
    · exact ⟨fun d => Numeral.isInert_of_mem_ofNat, by simp⟩
    · exact ⟨fun d => Numeral.isInert_of_mem_ofNat, fun d => isInert_of_mem_fractionDigits⟩
  rw [Scaled.positional] at member
  split at member
  · rename_i whole same
    rw [same] at parts
    exact parts.1 c member
  · rename_i whole fraction _ same
    rw [same] at parts
    rcases List.mem_append.mp member with inWhole | later
    · exact parts.1 c inWhole
    · rcases List.mem_cons.mp later with rfl | inFraction
      · decide
      · exact parts.2 c inFraction

theorem isInert_of_mem_text {reading : Reading} {c : Char} (member : c ∈ reading.text) :
    Text.isInert c = true := by
  cases reading with
  | notANumber =>
    have word : Reading.notANumber.text.all Text.isInert = true := by decide
    exact List.all_eq_true.mp word c member
  | infinite negative =>
    have word : (Reading.infinite negative).text.all Text.isInert = true := by
      cases negative <;> decide
    exact List.all_eq_true.mp word c member
  | finite negative magnitude =>
    cases negative with
    | false => exact isInert_of_mem_positional member
    | true =>
      rcases List.mem_cons.mp member with rfl | later
      · decide
      · exact isInert_of_mem_positional later

theorem positional_ne_nil (s : Scaled) : s.positional ≠ [] := by
  have whole : s.parts.1 ≠ [] := by
    rw [Scaled.parts]
    split
    · exact Numeral.ofNat_ne_nil _
    · exact Numeral.ofNat_ne_nil _
  rw [Scaled.positional]
  split
  · rename_i same
    rwa [same] at whole
  · simp

theorem ofFloat_ne_nil (x : Float) : ofFloat x ≠ [] := by
  rw [ofFloat]
  cases readingOfBits x.toBits.toNat with
  | notANumber => simp [Reading.text]
  | infinite negative => cases negative <;> simp [Reading.text]
  | finite negative magnitude =>
    cases negative with
    | false => exact positional_ne_nil magnitude
    | true => simp [Reading.text]

theorem isInert_of_mem_ofFloat {x : Float} {c : Char} (member : c ∈ ofFloat x) :
    Text.isInert c = true :=
  isInert_of_mem_text member

end Decimal

namespace Base64

theorem isInert_letter (n : Nat) : Text.isInert (letter n) = true := by
  by_cases bound : n < 62
  · have small : ∀ m < 62, Text.isInert (letter m) = true := by decide
    exact small n bound
  · rw [letter, if_neg (by omega), if_neg (by omega), if_neg bound]
    split <;> decide

theorem encode_ne_nil {bytes : List UInt8} (nonempty : bytes ≠ []) : encode bytes ≠ [] := by
  fun_cases encode bytes with
  | case1 => exact absurd rfl nonempty
  | case2 => simp
  | case3 => simp
  | case4 => simp

theorem isInert_of_mem_encode {bytes : List UInt8} {c : Char} (member : c ∈ encode bytes) :
    Text.isInert c = true := by
  have padding : Text.isInert '=' = true := by decide
  fun_induction encode bytes with
  | case1 => cases member
  | case2 a =>
    simp only [List.mem_cons, List.not_mem_nil, or_false] at member
    rcases member with rfl | rfl | rfl | rfl
    · exact isInert_letter _
    · exact isInert_letter _
    · exact padding
    · exact padding
  | case3 a b =>
    simp only [List.mem_cons, List.not_mem_nil, or_false] at member
    rcases member with rfl | rfl | rfl | rfl
    · exact isInert_letter _
    · exact isInert_letter _
    · exact isInert_letter _
    · exact padding
  | case4 a b d rest ih =>
    simp only [List.mem_cons] at member
    rcases member with rfl | rfl | rfl | rfl | later
    · exact isInert_letter _
    · exact isInert_letter _
    · exact isInert_letter _
    · exact isInert_letter _
    · exact ih later

theorem toListLoop_eq (bytes : ByteArray) (i : Nat) (read : List UInt8) :
    ByteArray.toList.loop bytes i read = read.reverse ++ bytes.data.toList.drop i := by
  fun_induction ByteArray.toList.loop bytes i read with
  | case1 i read inside ih =>
    have next : bytes.data.toList.drop i = bytes.get! i :: bytes.data.toList.drop (i + 1) := by
      have bound : i < bytes.data.toList.length := inside
      have byte : bytes.get! i = bytes.data.toList[i] := getElem!_pos bytes.data i inside
      rw [List.drop_eq_getElem_cons bound, byte]
    rw [ih, next, List.reverse_cons, List.append_assoc, List.singleton_append]
  | case2 i read outside =>
    rw [List.drop_of_length_le (by simpa using outside), List.append_nil]

theorem toList_eq_data (bytes : ByteArray) : bytes.toList = bytes.data.toList := by
  rw [ByteArray.toList, toListLoop_eq, List.reverse_nil, List.nil_append, List.drop_zero]

theorem length_utf8 (text : String) : text.toUTF8.toList.length = text.utf8ByteSize :=
  congrArg List.length (toList_eq_data text.toUTF8)

theorem encodeText_ne_nil {text : String} (nonempty : text.toList ≠ []) :
    (encodeText text).toList ≠ [] := by
  rw [encodeText, String.toList_ofList]
  apply encode_ne_nil
  intro empty
  have size := length_utf8 text
  rw [empty, List.length_nil] at size
  rw [String.utf8ByteSize_eq_zero_iff.mp size.symm] at nonempty
  exact nonempty rfl

theorem isInert_of_mem_encodeText {text : String} {c : Char} (member : c ∈ (encodeText text).toList) :
    Text.isInert c = true := by
  rw [encodeText, String.toList_ofList] at member
  exact isInert_of_mem_encode member

end Base64
end Corridor
