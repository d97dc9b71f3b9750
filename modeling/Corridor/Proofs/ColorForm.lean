import Mathlib.Data.List.Basic
import Corridor.Color
import Corridor.Proofs.Trimming

namespace Corridor

namespace Text

def HexDigit (c : Char) (value : Nat) : Prop :=
  value < 16 ∧ (c = hexDigit value ∨ c = (hexDigit value).toUpper)

instance (c : Char) (value : Nat) : Decidable (HexDigit c value) :=
  inferInstanceAs (Decidable (_ ∧ _))

inductive HexPair : Char → Char → Nat → Prop
  | digits {high low : Char} {a b : Nat} (first : HexDigit high a) (second : HexDigit low b) :
    HexPair high low (a * 16 + b)

/-- A byte as it is read, where a plus sign may stand in front of a single digit. -/
inductive BytePair : Char → Char → Nat → Prop
  | pair {high low : Char} {value : Nat} (digits : HexPair high low value) : BytePair high low value
  | signed {low : Char} {value : Nat} (digit : HexDigit low value) : BytePair '+' low value

theorem toNat_lt_of_hexDigit? {c : Char} {value : Nat} (read : hexDigit? c = some value) :
    c.toNat < 128 := by
  have below {last : Char} (bound : c ≤ last) : c.toNat ≤ last.toNat :=
    UInt32.le_iff_toNat_le.mp bound
  rw [hexDigit?] at read
  split at read
  · rename_i range
    exact Nat.lt_of_le_of_lt (below range.2) (by decide)
  · split at read
    · rename_i range
      exact Nat.lt_of_le_of_lt (below range.2) (by decide)
    · split at read
      · rename_i range
        exact Nat.lt_of_le_of_lt (below range.2) (by decide)
      · cases read

theorem hexDigit?_eq_some_iff {c : Char} {value : Nat} :
    hexDigit? c = some value ↔ HexDigit c value := by
  constructor
  · intro read
    have each : ∀ code < 128, ∀ n ∈ hexDigit? (Char.ofNat code), HexDigit (Char.ofNat code) n := by
      decide +kernel
    have found := each c.toNat (toNat_lt_of_hexDigit? read) value
    rw [Char.ofNat_toNat] at found
    exact found read
  · rintro ⟨small, rfl | rfl⟩
    · exact hexDigit?_hexDigit value small
    · have upper : ∀ n < 16, hexDigit? (hexDigit n).toUpper = some n := by decide
      exact upper value small

theorem not_hexDigit_plus {value : Nat} : ¬HexDigit '+' value := by
  rw [← hexDigit?_eq_some_iff]
  simp [hexDigit?]

theorem not_hexDigit_hash {value : Nat} : ¬HexDigit '#' value := by
  rw [← hexDigit?_eq_some_iff]
  simp [hexDigit?]

theorem hexByte?_eq_some_iff {high low : Char} {value : Nat} :
    hexByte? high low = some value ↔ BytePair high low value := by
  rw [hexByte?]
  split
  · rename_i plus
    subst plus
    rw [hexDigit?_eq_some_iff]
    constructor
    · exact .signed
    · intro read
      cases read with
      | pair digits =>
        cases digits with
        | digits first => exact absurd first not_hexDigit_plus
      | signed digit => exact digit
  · rename_i other
    simp only [Option.bind_eq_bind, Option.bind_eq_some_iff, hexDigit?_eq_some_iff,
      Option.some.injEq]
    constructor
    · rintro ⟨a, first, b, second, rfl⟩
      exact .pair (.digits first second)
    · intro read
      cases read with
      | pair digits =>
        cases digits with
        | digits first second => exact ⟨_, first, _, second, rfl⟩
      | signed => exact absurd rfl other

theorem HexDigit.toNat_lt {c : Char} {value : Nat} (digit : HexDigit c value) : c.toNat < 128 :=
  toNat_lt_of_hexDigit? (hexDigit?_eq_some_iff.mpr digit)

namespace BytePair

variable {high low : Char} {value : Nat}

theorem value_lt (read : BytePair high low value) : value < 256 := by
  cases read with
  | pair digits =>
    cases digits with
    | @digits a b first second =>
      have bound := first.1
      have small := second.1
      omega
  | signed digit => exact Nat.lt_trans digit.1 (by decide)

theorem toNat_lt (read : BytePair high low value) : high.toNat < 128 ∧ low.toNat < 128 := by
  cases read with
  | pair digits =>
    cases digits with
    | digits first second => exact ⟨first.toNat_lt, second.toNat_lt⟩
  | signed digit => exact ⟨by decide, digit.toNat_lt⟩

theorem ne_hash (read : BytePair high low value) : high ≠ '#' ∧ low ≠ '#' := by
  have apart {c : Char} {n : Nat} (digit : HexDigit c n) : c ≠ '#' := by
    rintro rfl
    exact not_hexDigit_hash digit
  cases read with
  | pair digits =>
    cases digits with
    | digits first second => exact ⟨apart first, apart second⟩
  | signed digit => exact ⟨by decide, apart digit⟩

theorem hexPair_iff : HexPair high low value ↔ BytePair high low value ∧ high ≠ '+' ∧ low ≠ '+' := by
  have apart {c : Char} {n : Nat} (digit : HexDigit c n) : c ≠ '+' := by
    rintro rfl
    exact not_hexDigit_plus digit
  constructor
  · intro digits
    refine ⟨.pair digits, ?_⟩
    cases digits with
    | digits first second => exact ⟨apart first, apart second⟩
  · rintro ⟨read, other, _⟩
    cases read with
    | pair digits => exact digits
    | signed => exact absurd rfl other

end BytePair
end Text

namespace Rgb

open Text (HexPair BytePair)

inductive Spells (Pair : Char → Char → Nat → Prop) : List Char → Rgb → Prop
  | six {a b c d e f : Char} {rgb : Rgb} (red : Pair a b rgb.red.toNat)
    (green : Pair c d rgb.green.toNat) (blue : Pair e f rgb.blue.toNat) :
    Spells Pair [a, b, c, d, e, f] rgb

def Hashed (Pair : Char → Char → Nat → Prop) (hashes : Nat) (text : String) (rgb : Rgb) : Prop :=
  ∃ digits, Text.trim text.toList = List.replicate hashes '#' ++ digits ∧ Spells Pair digits rgb

def SixAscii (digits : List Char) : Prop := digits.length = 6 ∧ ∀ c ∈ digits, c.toNat < 128

theorem ofHexDigits?_eq_some_iff {digits : List Char} {rgb : Rgb} :
    ofHexDigits? digits = some rgb ↔ Spells BytePair digits rgb := by
  unfold ofHexDigits?
  split
  · simp only [Option.bind_eq_bind, Option.bind_eq_some_iff, Text.hexByte?_eq_some_iff,
      Option.some.injEq]
    constructor
    · rintro ⟨red, first, green, second, blue, third, rfl⟩
      refine .six ?_ ?_ ?_
      · rwa [UInt8.toNat_ofNat_of_lt' first.value_lt]
      · rwa [UInt8.toNat_ofNat_of_lt' second.value_lt]
      · rwa [UInt8.toNat_ofNat_of_lt' third.value_lt]
    · intro spelled
      cases spelled with
      | six red green blue =>
        refine ⟨_, red, _, green, _, blue, ?_⟩
        rw [UInt8.ofNat_toNat, UInt8.ofNat_toNat, UInt8.ofNat_toNat]
  · rename_i short
    refine iff_of_false (by simp) ?_
    intro spelled
    cases spelled
    exact short _ _ _ _ _ _ rfl

namespace Spells

variable {digits : List Char} {rgb : Rgb}

theorem forall_mem {Pair : Char → Char → Nat → Prop} {P : Char → Prop} (spelled : Spells Pair digits rgb)
    (each : ∀ {high low value}, Pair high low value → P high ∧ P low) : ∀ c ∈ digits, P c := by
  cases spelled with
  | six red green blue =>
    simp only [List.forall_mem_cons]
    exact ⟨(each red).1, (each red).2, (each green).1, (each green).2, (each blue).1, (each blue).2,
      List.forall_mem_nil _⟩

theorem sixAscii (spelled : Spells BytePair digits rgb) : SixAscii digits := by
  refine ⟨?_, spelled.forall_mem BytePair.toNat_lt⟩
  cases spelled
  rfl

theorem hexPair_iff : Spells HexPair digits rgb ↔ Spells BytePair digits rgb ∧ '+' ∉ digits := by
  constructor
  · intro spelled
    refine ⟨?_, fun member => ?_⟩
    · cases spelled with
      | six red green blue => exact .six (.pair red) (.pair green) (.pair blue)
    · exact spelled.forall_mem (fun pair => (BytePair.hexPair_iff.mp pair).2) '+' member rfl
  · rintro ⟨spelled, absent⟩
    have other : ∀ c ∈ digits, c ≠ '+' := fun c member plus => absent (plus ▸ member)
    cases spelled with
    | six red green blue =>
      simp only [List.forall_mem_cons] at other
      obtain ⟨a, b, c, d, e, f, _⟩ := other
      exact .six (BytePair.hexPair_iff.mpr ⟨red, a, b⟩) (BytePair.hexPair_iff.mpr ⟨green, c, d⟩)
        (BytePair.hexPair_iff.mpr ⟨blue, e, f⟩)

end Spells

theorem hexDigits_of_eq {text digits : List Char} {hashes : Nat}
    (written : Text.trim text = List.replicate hashes '#' ++ digits) (absent : '#' ∉ digits) :
    hexDigits text = digits := by
  have marks : ∀ c ∈ List.replicate hashes '#', (c == '#') = true := fun c member =>
    beq_iff_eq.mpr (List.eq_of_mem_replicate member)
  rw [hexDigits, written, List.dropWhile_append_of_pos marks]
  cases digits with
  | nil => rfl
  | cons first rest =>
    have other : first ≠ '#' := fun same => absent (same ▸ List.mem_cons_self)
    simp [other]

theorem hash_not_mem {digits : List Char} {rgb : Rgb} (spelled : Spells BytePair digits rgb) :
    '#' ∉ digits := fun member => spelled.forall_mem BytePair.ne_hash '#' member rfl

theorem hashed_iff {text : String} {rgb : Rgb} :
    (∃ hashes, Hashed BytePair hashes text rgb) ↔ Spells BytePair (hexDigits text.toList) rgb := by
  constructor
  · rintro ⟨hashes, digits, written, spelled⟩
    rwa [hexDigits_of_eq written (hash_not_mem spelled)]
  · intro spelled
    obtain ⟨hashes, written⟩ := Text.exists_replicate_append_dropWhile '#' (Text.trim text.toList)
    exact ⟨hashes, hexDigits text.toList, written, spelled⟩

theorem sixAscii_iff {digits : List Char} :
    (digits.length = 6 && digits.all fun c => c.toNat < 128) = true ↔ SixAscii digits := by
  simp [SixAscii]

theorem parse_eq_ok_iff {text : String} {rgb : Rgb} :
    parse text = .ok rgb ↔ Spells BytePair (hexDigits text.toList) rgb := by
  rw [← ofHexDigits?_eq_some_iff, parse]
  split
  · cases ofHexDigits? (hexDigits text.toList) <;> simp
  · rename_i short
    refine iff_of_false (by simp) fun read => short ?_
    exact sixAscii_iff.mpr (ofHexDigits?_eq_some_iff.mp read).sixAscii

theorem parse_eq_error_iff {text : String} {error : ColorError} :
    parse text = .error error ↔
      (SixAscii (hexDigits text.toList) ∧ (¬∃ rgb, Spells BytePair (hexDigits text.toList) rgb) ∧
        error = .badDigit text) ∨
      (¬SixAscii (hexDigits text.toList) ∧ error = .badLength text) := by
  simp only [← ofHexDigits?_eq_some_iff, ← sixAscii_iff]
  rw [parse]
  split
  · rename_i six
    cases ofHexDigits? (hexDigits text.toList) <;> simp [six, @eq_comm _ error]
  · rename_i short
    simp [short, @eq_comm _ error]

theorem exists_hexPair_iff {text : String} {rgb : Rgb} :
    (∃ hashes ≤ 1, Hashed HexPair hashes text rgb) ↔
      parse text = .ok rgb ∧ (Text.trim text.toList).count '#' ≤ 1 ∧ '+' ∉ Text.trim text.toList := by
  rw [parse_eq_ok_iff, ← hashed_iff]
  have hashes_eq {hashes : Nat} {digits : List Char}
      (written : Text.trim text.toList = List.replicate hashes '#' ++ digits)
      (spelled : Spells BytePair digits rgb) : (Text.trim text.toList).count '#' = hashes := by
    rw [written, List.count_append, List.count_replicate_self,
      List.count_eq_zero.mpr (hash_not_mem spelled), Nat.add_zero]
  constructor
  · rintro ⟨hashes, few, digits, written, spelled⟩
    obtain ⟨read, absent⟩ := Spells.hexPair_iff.mp spelled
    refine ⟨⟨hashes, digits, written, read⟩, ?_, ?_⟩
    · rwa [hashes_eq written read]
    · rw [written, List.mem_append, not_or, List.mem_replicate]
      exact ⟨fun plus => absurd plus.2 (by decide), absent⟩
  · rintro ⟨⟨hashes, digits, written, read⟩, few, absent⟩
    rw [hashes_eq written read] at few
    rw [written, List.mem_append, not_or] at absent
    exact ⟨hashes, few, digits, written, Spells.hexPair_iff.mpr ⟨read, absent.2⟩⟩

/-- What is read as a colour is six hex digits behind any number of hashes, where a plus sign may stand
for the first digit of a pair. These are the texts with at most one hash and proper digits, if two
hashes and plus signs are left aside. If what is left behind the hashes is of the right length, the
error is that of a bad digit, and else that of a bad length. -/
theorem parse_by_digits (text : String) :
    (∀ rgb, parse text = .ok rgb ↔ ∃ hashes, Hashed BytePair hashes text rgb) ∧
    (∀ rgb, (∃ hashes ≤ 1, Hashed HexPair hashes text rgb) ↔
      parse text = .ok rgb ∧ (Text.trim text.toList).count '#' ≤ 1 ∧ '+' ∉ Text.trim text.toList) ∧
    ∀ error, parse text = .error error ↔
      (SixAscii (hexDigits text.toList) ∧ (¬∃ rgb, Spells BytePair (hexDigits text.toList) rgb) ∧
        error = .badDigit text) ∨
      (¬SixAscii (hexDigits text.toList) ∧ error = .badLength text) := by
  refine ⟨fun rgb => ?_, fun rgb => exists_hexPair_iff, fun error => parse_eq_error_iff⟩
  rw [parse_eq_ok_iff, hashed_iff]

theorem signed_and_hashed_accepted :
    (parse "+f8000" = .ok ⟨15, 128, 0⟩ ∧
      ¬∃ rgb, ∃ hashes ≤ 1, Hashed HexPair hashes "+f8000" rgb) ∧
    parse "##ff8000" = .ok ⟨255, 128, 0⟩ ∧
      ¬∃ rgb, ∃ hashes ≤ 1, Hashed HexPair hashes "##ff8000" rgb := by
  simp only [exists_hexPair_iff]
  refine ⟨⟨by decide, ?_⟩, by decide, ?_⟩
  · rintro ⟨rgb, _, _, absent⟩
    exact absent (by decide)
  · rintro ⟨rgb, _, few, _⟩
    exact absurd few (by decide)

end Rgb
end Corridor
