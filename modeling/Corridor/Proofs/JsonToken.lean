import Corridor.Json.Reader
import Corridor.Json.Writer

namespace Corridor

theorem Numeral.head?_ofNat_ne_zero {n : Nat} (positive : 0 < n) : (ofNat n).head? ≠ some '0' := by
  induction n using Nat.strongRecOn with
  | ind n ih =>
    rw [ofNat, Nat.toDigits_eq_if (by decide)]
    split
    · rename_i small
      simp only [List.head?_cons, ne_eq, Option.some.injEq, Nat.digitChar_eq_zero]
      omega
    · rename_i large
      have shorter : 0 < n / 10 ∧ n / 10 < n := by omega
      have inner := ih (n / 10) shorter.2 shorter.1
      obtain ⟨first, others, written⟩ := List.exists_cons_of_ne_nil (ofNat_ne_nil (n / 10))
      rw [written] at inner
      rw [ofNat] at written
      rw [written]
      exact inner

theorem Numeral.ofNat_ne_zero_cons {n : Nat} {second : Char} {rest : List Char} :
    ofNat n ≠ '0' :: second :: rest := by
  intro padded
  rcases Nat.eq_zero_or_pos n with rfl | positive
  · rw [ofNat, Nat.toDigits_zero] at padded
    cases padded
  · apply head?_ofNat_ne_zero positive
    rw [padded, List.head?_cons]

namespace Json

/-- Not a text that goes on with a number begun before it. -/
def Closed (text : List Char) : Prop :=
  ∀ c ∈ text.head?, c.isDigit = false ∧ c ≠ '.' ∧ c ≠ 'e' ∧ c ≠ 'E'

theorem closed_nil : Closed [] := fun _ => nofun

theorem closed_cons {c : Char} (mark : c = ',' ∨ c = ']' ∨ c = '\x7d') (rest : List Char) :
    Closed (c :: rest) := by
  intro first same
  obtain rfl : c = first := by simpa using same
  rcases mark with rfl | rfl | rfl <;> decide

section Number

variable {n : Nat} {rest : List Char} (closed : Closed rest)
include closed

theorem digitsOf_ofNat : digitsOf (Numeral.ofNat n ++ rest) = Numeral.ofNat n := by
  have stops : rest.takeWhile Char.isDigit = [] := by
    cases rest with
    | nil => rfl
    | cons c rest => rw [List.takeWhile_cons_of_neg (by simp [(closed c rfl).1])]
  rw [digitsOf, List.takeWhile_append_of_pos fun _ => Numeral.isDigit_of_mem_ofNat, stops,
    List.append_nil]

theorem afterDigits_ofNat : afterDigits (Numeral.ofNat n ++ rest) = rest := by
  have stops : rest.dropWhile Char.isDigit = rest := by
    cases rest with
    | nil => rfl
    | cons c rest => rw [List.dropWhile_cons_of_neg (by simp [(closed c rfl).1])]
  rw [afterDigits, List.dropWhile_append_of_pos fun _ => Numeral.isDigit_of_mem_ofNat, stops]

theorem readWhole_ofNat : readWhole (Numeral.ofNat n ++ rest) = some (n, rest) := by
  rw [readWhole, digitsOf_ofNat closed, afterDigits_ofNat closed]
  split
  · rename_i empty
    exact absurd empty (Numeral.ofNat_ne_nil n)
  · rename_i padded
    exact absurd padded Numeral.ofNat_ne_zero_cons
  · rw [Numeral.ofNat, Nat.ofDigitChars_ten_toDigits]

theorem readFraction_closed : readFraction rest = some (none, rest) := by
  rw [readFraction]
  rintro later rfl
  exact absurd rfl (closed '.' rfl).2.1

theorem readPower_closed : readPower rest = some (none, rest) := by
  rw [readPower]
  · rintro later rfl
    exact absurd rfl (closed 'e' rfl).2.2.1
  · rintro later rfl
    exact absurd rfl (closed 'E' rfl).2.2.2

theorem readMagnitude_ofNat (negative : Bool) :
    readMagnitude negative (Numeral.ofNat n ++ rest) = some (.integer negative n, rest) := by
  simp [readMagnitude, readWhole_ofNat closed, readFraction_closed closed, readPower_closed closed]

theorem readNumber_chars (negative : Bool) :
    readNumber ((Number.integer negative n).chars ++ rest) = some (.integer negative n, rest) := by
  cases negative with
  | true => exact readMagnitude_ofNat closed true
  | false =>
    rw [Number.chars, if_neg Bool.false_ne_true, List.nil_append, readNumber]
    · exact readMagnitude_ofNat closed false
    · intro later signed
      obtain ⟨digit, digits, written⟩ := List.exists_cons_of_ne_nil (Numeral.ofNat_ne_nil n)
      rw [written, List.cons_append, List.cons.injEq] at signed
      have minus : '-' ∈ Numeral.ofNat n := by
        rw [written, ← signed.1]
        exact List.mem_cons_self
      exact absurd (Numeral.isDigit_of_mem_ofNat minus) (by decide)

end Number

section Quote

def pieceOf (c : Char) : Piece :=
  if c.toNat < 32 ∧ c ∉ ['\x08', '\x0c', '\n', '\r', '\t'] then .unit c.toNat else .literal c

theorem readPieces_escape (c : Char) (text : List Char) :
    readPieces (escape c ++ text) =
      (readPieces text).bind fun (pieces, rest) => some (pieceOf c :: pieces, rest) := by
  unfold escape
  split
  · simp [readPieces, simpleEscape?, pieceOf, bind]
  · simp [readPieces, simpleEscape?, pieceOf, bind]
  · simp [readPieces, simpleEscape?, pieceOf, bind]
  · simp [readPieces, simpleEscape?, pieceOf, bind]
  · simp [readPieces, simpleEscape?, pieceOf, bind]
  · simp [readPieces, simpleEscape?, pieceOf, bind]
  · simp [readPieces, simpleEscape?, pieceOf, bind]
  · rename_i quote backslash b f n r t
    split
    · rename_i control
      have high := Text.hexDigit?_hexDigit (c.toNat / 16) (by omega)
      have low := Text.hexDigit?_hexDigit (c.toNat % 16) (Nat.mod_lt _ (by decide))
      have zero : Text.hexDigit? '0' = some 0 := by decide
      have joined : c.toNat / 16 * 16 + c.toNat % 16 = c.toNat := by omega
      have piece : pieceOf c = .unit c.toNat :=
        if_pos ⟨control, by simpa using ⟨b, f, n, r, t⟩⟩
      simp [readPieces, high, low, zero, joined, piece, bind]
    · rename_i printable
      have piece : pieceOf c = .literal c := if_neg fun both => printable both.1
      rw [List.singleton_append, readPieces, if_neg (not_or.mpr ⟨printable, backslash⟩), piece]
      · rfl
      · exact quote
      · rintro _ _ _ _ _ rfl
        exact absurd rfl backslash
      · rintro _ _ rfl
        exact absurd rfl backslash

theorem readPieces_quoted (text rest : List Char) :
    readPieces (text.flatMap escape ++ '"' :: rest) = some (text.map pieceOf, rest) := by
  induction text with
  | nil => rfl
  | cons c text ih =>
    rw [List.flatMap_cons, List.append_assoc, readPieces_escape, ih]
    rfl

theorem joinPieces_unit {code : Nat} (low : code < 0xD800) (pieces : List Piece) :
    joinPieces (.unit code :: pieces) = (joinPieces pieces).map (Char.ofNat code :: ·) := by
  have notHigh : isHigh code = false := by
    simp only [isHigh, Bool.and_eq_false_imp, decide_eq_true_eq]
    omega
  have notLow : isLow code = false := by
    simp only [isLow, Bool.and_eq_false_imp, decide_eq_true_eq]
    omega
  cases pieces with
  | nil => simp [joinPieces, notHigh, notLow]
  | cons piece pieces => cases piece <;> simp [joinPieces, notHigh, notLow]

theorem joinPieces_pieceOf (text : List Char) : joinPieces (text.map pieceOf) = some text := by
  induction text with
  | nil => rfl
  | cons c text ih =>
    rw [List.map_cons, pieceOf]
    split
    · rename_i control
      rw [joinPieces_unit (by omega), ih, Char.ofNat_toNat]
      rfl
    · rw [joinPieces, ih]
      rfl

theorem readString_quoted (text : String) (rest : List Char) :
    readString (text.toList.flatMap escape ++ '"' :: rest) = some (some text, rest) := by
  simp [readString, readPieces_quoted, joinPieces_pieceOf, bind]

end Quote

end Json
end Corridor
