import Corridor.Numeral

namespace Corridor.Numeral

structure Digits (text : List Char) (value : Nat) : Prop where
  nonempty : text ≠ []
  digits : ∀ c ∈ text, c.isDigit = true
  value_eq : Nat.ofDigitChars 10 text 0 = value

inductive Unsigned : List Char → Nat → Prop
  | bare {text : List Char} {value : Nat} (digits : Digits text value) : Unsigned text value
  | plus {text : List Char} {value : Nat} (digits : Digits text value) : Unsigned ('+' :: text) value

inductive Signed : List Char → Int → Prop
  | plus {text : List Char} {value : Nat} (digits : Digits text value) : Signed ('+' :: text) value
  | minus {text : List Char} {value : Nat} (digits : Digits text value) : Signed ('-' :: text) (-value)

theorem digits?_eq_some_iff {text : List Char} {value : Nat} :
    digits? text = some value ↔ Digits text value := by
  rw [digits?]
  split
  · rename_i shaped
    constructor
    · intro read
      exact ⟨shaped.1, List.all_eq_true.mp shaped.2, Option.some.inj read⟩
    · intro digits
      rw [digits.value_eq]
  · rename_i misshapen
    refine iff_of_false (by simp) ?_
    intro digits
    exact misshapen ⟨digits.nonempty, List.all_eq_true.mpr digits.digits⟩

theorem Digits.not_cons {sign : Char} (other : sign.isDigit = false) {rest : List Char} {value : Nat} :
    ¬Digits (sign :: rest) value := by
  intro digits
  have digit : sign.isDigit = true := digits.digits sign List.mem_cons_self
  rw [other] at digit
  cases digit

theorem unsigned_plus_iff {rest : List Char} {value : Nat} :
    Unsigned ('+' :: rest) value ↔ Digits rest value := by
  constructor
  · intro unsigned
    cases unsigned with
    | bare digits => exact absurd digits (Digits.not_cons (by decide))
    | plus digits => exact digits
  · exact .plus

theorem unsigned_iff_of_ne {text : List Char} (bare : ∀ rest, text ≠ '+' :: rest) {value : Nat} :
    Unsigned text value ↔ Digits text value := by
  constructor
  · intro unsigned
    cases unsigned with
    | bare digits => exact digits
    | plus digits => exact absurd rfl (bare _)
  · exact .bare

theorem unsigned?_eq_some_iff {max value : Nat} {text : List Char} :
    unsigned? max text = some value ↔ Unsigned text value ∧ value ≤ max := by
  unfold unsigned?
  split
  · rw [Option.filter_eq_some_iff, decide_eq_true_eq, digits?_eq_some_iff, unsigned_plus_iff]
  · rename_i bare
    rw [Option.filter_eq_some_iff, decide_eq_true_eq, digits?_eq_some_iff, unsigned_iff_of_ne bare]

theorem signed_plus_iff {rest : List Char} {value : Int} :
    Signed ('+' :: rest) value ↔ ∃ n : Nat, Digits rest n ∧ (n : Int) = value := by
  constructor
  · intro signed
    cases signed with
    | plus digits => exact ⟨_, digits, rfl⟩
  · rintro ⟨n, digits, rfl⟩
    exact .plus digits

theorem signed_minus_iff {rest : List Char} {value : Int} :
    Signed ('-' :: rest) value ↔ ∃ n : Nat, Digits rest n ∧ -(n : Int) = value := by
  constructor
  · intro signed
    cases signed with
    | minus digits => exact ⟨_, digits, rfl⟩
  · rintro ⟨n, digits, rfl⟩
    exact .minus digits

/-- Where the sign is given, the reader of integers accepts signed numerals within its bounds. -/
theorem signed?_eq_some_iff {low high value : Int} {sign : Char} (marked : sign = '+' ∨ sign = '-')
    (rest : List Char) :
    signed? low high (sign :: rest) = some value ↔
      Signed (sign :: rest) value ∧ low ≤ value ∧ value ≤ high := by
  rcases marked with rfl | rfl
  · simp only [signed?, Option.filter_eq_some_iff, decide_eq_true_eq, Option.map_eq_some_iff,
      digits?_eq_some_iff, signed_plus_iff, Int.ofNat_eq_natCast]
  · simp only [signed?, Option.filter_eq_some_iff, decide_eq_true_eq, Option.map_eq_some_iff,
      digits?_eq_some_iff, signed_minus_iff, Int.ofNat_eq_natCast]

theorem ofInt_inj {first second : Int} : ofInt first = ofInt second ↔ first = second := by
  have unsigned {n m : Nat} (same : ofNat n = ofNat m) : n = m := by
    apply Option.some.inj
    rw [← digits?_ofNat, ← digits?_ofNat, same]
  constructor
  · intro same
    cases first with
    | ofNat n =>
      cases second with
      | ofNat m => rw [unsigned same]
      | negSucc m => exact absurd same (ofNat_ne_cons (by decide) n _)
    | negSucc n =>
      cases second with
      | ofNat m => exact absurd same.symm (ofNat_ne_cons (by decide) m _)
      | negSucc m => rw [Nat.succ.inj (unsigned (List.cons.inj same).2)]
  · exact congrArg ofInt

end Corridor.Numeral
