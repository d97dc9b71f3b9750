import Mathlib.Data.List.Basic
import Corridor.Proofs.Inert
import Corridor.Proofs.Trimming
import Corridor.Theme.Template

namespace Corridor

namespace Quantity

theorem ofName?_eq_some_iff {name : List Char} {quantity : Quantity} :
    ofName? name = some quantity ↔ name = quantity.name.toList := by
  constructor
  · intro found
    have same := List.find?_some found
    exact (of_decide_eq_true same).symm
  · rintro rfl
    cases quantity <;> decide

theorem plain_name (quantity : Quantity) :
    ∀ c ∈ quantity.name.toList, Text.isBlank c = false ∧ Cell.isSign c = false := by
  have plain : quantity.name.toList.all (fun c => !Text.isBlank c && !Cell.isSign c) = true := by
    cases quantity <;> decide
  intro c member
  simpa using List.all_eq_true.mp plain c member

end Quantity

namespace Cell

def Braceless (text : List Char) : Prop := openBrace ∉ text ∧ closeBrace ∉ text

/-- What can follow the name in a placeholder: nothing, or an offset with its sign and then blanks. -/
inductive OffsetText : List Char → Int → Prop
  | absent : OffsetText [] 0
  | signed {numeral tail : List Char} {offset : Int} (signed : Numeral.Signed numeral offset)
    (low : Numeral.minInt64 ≤ offset) (high : offset ≤ Numeral.maxInt64)
    (trailing : Text.Blank tail) : OffsetText (numeral ++ tail) offset

/-- A placeholder: in braces, the name of a quantity among blanks and what can follow it. -/
inductive StandsFor : List Char → Quantity → Int → Prop
  | braced {before after ending : List Char} {quantity : Quantity} {offset : Int}
    (leading : Text.Blank before) (trailing : Text.Blank after) (shifted : OffsetText ending offset) :
    StandsFor (openBrace :: (before ++ quantity.name.toList ++ after ++ ending ++ [closeBrace]))
      quantity offset

theorem not_braceless_iff {text : List Char} :
    ¬Braceless text ↔ openBrace ∈ text ∨ closeBrace ∈ text := by
  rw [Braceless, ← not_or, not_not]

theorem inner?_eq_some_iff {raw inner : List Char} :
    inner? raw = some inner ↔ raw = openBrace :: (inner ++ [closeBrace]) := by
  constructor
  · intro found
    unfold inner? at found
    split at found
    · cases found
    · split at found
      · rename_i first rest braced
        cases found
        rw [braced.1, List.dropLast_append_getLast? _ braced.2]
      · cases found
  · rintro rfl
    simp [inner?]

theorem isSign_iff {c : Char} : isSign c = true ↔ c = '+' ∨ c = '-' := by
  simp [isSign]

theorem isBlank_of_isSign {c : Char} (sign : isSign c = true) : Text.isBlank c = false := by
  rcases isSign_iff.mp sign with rfl | rfl <;> decide

theorem isSign_of_blank {text : List Char} (blank : Text.Blank text) : ∀ c ∈ text, isSign c = false := by
  intro c member
  rw [Bool.eq_false_iff]
  intro sign
  exact blank.not_mem (isBlank_of_isSign sign) member

theorem OffsetText.isSign_head {ending : List Char} {offset : Int} (shifted : OffsetText ending offset) :
    ∀ c ∈ ending.head?, isSign c = true := by
  cases shifted with
  | absent => simp
  | signed signed => cases signed <;> simp [isSign]

theorem trim_signed {numeral : List Char} {offset : Int} (signed : Numeral.Signed numeral offset) :
    Text.trim numeral = numeral :=
  Text.trim_eq_self_of_forall fun c member => Text.isBlank_of_isInert (signed.isInert c member)

theorem offsetText_cons_iff {sign : Char} (marked : isSign sign = true) {rest : List Char} {offset : Int} :
    OffsetText (sign :: rest) offset ↔ Numeral.int64? (Text.trim (sign :: rest)) = some offset := by
  have read (digits : List Char) : Numeral.int64? (sign :: digits) = some offset ↔
      Numeral.Signed (sign :: digits) offset ∧
        Numeral.minInt64 ≤ offset ∧ offset ≤ Numeral.maxInt64 :=
    Numeral.signed?_eq_some_iff (isSign_iff.mp marked) digits
  constructor
  · intro shifted
    generalize whole : sign :: rest = ending at shifted
    cases shifted with
    | absent => cases whole
    | @signed numeral tail _ signed low high trailing =>
      obtain ⟨digits, rfl⟩ : ∃ digits, numeral = sign :: digits := by
        cases signed <;> cases whole <;> exact ⟨_, rfl⟩
      rw [Text.trim_append_tail trailing, trim_signed signed, read]
      exact ⟨signed, low, high⟩
  · intro parsed
    rw [Text.trim_cons (isBlank_of_isSign marked), read] at parsed
    obtain ⟨tail, trailing, joined⟩ := Text.exists_trimEnd_append rest
    have shifted := OffsetText.signed parsed.1 parsed.2.1 parsed.2.2 trailing
    rwa [List.cons_append, ← joined] at shifted

theorem offsetText_nil_iff {offset : Int} : OffsetText [] offset ↔ offset = 0 := by
  constructor
  · intro shifted
    generalize whole : ([] : List Char) = ending at shifted
    cases shifted with
    | absent => rfl
    | signed signed => cases signed <;> cases whole
  · rintro rfl
    exact .absent

/-- The first sign parts the name from the offset. -/
theorem ofInner?_eq_some_iff {inner : List Char} {cell : Cell} :
    ofInner? inner = some cell ↔ ∃ quantity offset,
      Text.trim (inner.takeWhile fun c => !isSign c) = quantity.name.toList ∧
      OffsetText (inner.dropWhile fun c => !isSign c) offset ∧ cell = placeholder quantity offset := by
  have first := List.head?_dropWhile_not (fun c => !isSign c) inner
  rw [ofInner?]
  split
  · rename_i none_left
    simp only [none_left, offsetText_nil_iff, Option.map_eq_some_iff, Quantity.ofName?_eq_some_iff]
    constructor
    · rintro ⟨quantity, named, rfl⟩
      exact ⟨quantity, 0, named, rfl, rfl⟩
    · rintro ⟨quantity, offset, named, rfl, rfl⟩
      exact ⟨quantity, named, rfl⟩
  · rename_i signed nonempty
    obtain ⟨sign, rest, shown⟩ := List.exists_cons_of_ne_nil nonempty
    have marked : isSign sign = true := by
      simpa [shown] using first
    simp only [shown, offsetText_cons_iff marked, Option.bind_eq_bind, Option.bind_eq_some_iff,
      Quantity.ofName?_eq_some_iff, Option.some.injEq]
    constructor
    · rintro ⟨offset, parsed, quantity, named, rfl⟩
      exact ⟨quantity, offset, named, parsed, rfl⟩
    · rintro ⟨quantity, offset, named, parsed, rfl⟩
      exact ⟨offset, parsed, quantity, named, rfl⟩

theorem parts_of_name (quantity : Quantity) {before after ending : List Char} {offset : Int}
    (leading : Text.Blank before) (trailing : Text.Blank after) (shifted : OffsetText ending offset) :
    let front := before ++ quantity.name.toList ++ after
    ((front ++ ending).takeWhile fun c => !isSign c) = front ∧
      ((front ++ ending).dropWhile fun c => !isSign c) = ending := by
  intro front
  have unsigned : ∀ c ∈ front, (!isSign c) = true := by
    simp only [front, List.forall_mem_append, Bool.not_eq_true']
    exact ⟨⟨isSign_of_blank leading, fun c member => (quantity.plain_name c member).2⟩,
      isSign_of_blank trailing⟩
  rw [List.takeWhile_append_of_pos unsigned, List.dropWhile_append_of_pos unsigned]
  cases ending with
  | nil => simp
  | cons sign rest => simp [shifted.isSign_head sign rfl]

theorem standsFor_iff {raw : List Char} {quantity : Quantity} {offset : Int} :
    StandsFor raw quantity offset ↔
      (inner? raw).bind ofInner? = some (placeholder quantity offset) := by
  simp only [Option.bind_eq_some_iff, inner?_eq_some_iff, ofInner?_eq_some_iff]
  constructor
  · intro stands
    cases stands with
    | @braced before after ending quantity offset leading trailing shifted =>
      obtain ⟨front, back⟩ := parts_of_name quantity leading trailing shifted
      refine ⟨_, rfl, quantity, offset, ?_, ?_, rfl⟩
      · rw [front, Text.trim_append_tail trailing, Text.trim_lead_append leading]
        exact Text.trim_eq_self_of_forall fun c member => (quantity.plain_name c member).1
      · rwa [back]
  · rintro ⟨inner, rfl, quantity, offset, named, shifted, same⟩
    cases same
    obtain ⟨before, after, leading, trailing, joined⟩ :=
      Text.exists_trim_append (inner.takeWhile fun c => !isSign c)
    have stands : StandsFor _ quantity offset := .braced leading trailing shifted
    rwa [← named, ← joined, List.takeWhile_append_dropWhile] at stands

theorem exists_standsFor_iff {raw : List Char} :
    (∃ quantity offset, StandsFor raw quantity offset) ↔
      ∃ cell, (inner? raw).bind ofInner? = some cell := by
  simp only [standsFor_iff]
  constructor
  · rintro ⟨quantity, offset, read⟩
    exact ⟨_, read⟩
  · rintro ⟨cell, read⟩
    obtain ⟨inner, _, parsed⟩ := Option.bind_eq_some_iff.mp read
    obtain ⟨quantity, offset, _, _, rfl⟩ := ofInner?_eq_some_iff.mp parsed
    exact ⟨quantity, offset, read⟩

theorem StandsFor.openBrace_mem {raw : List Char} {quantity : Quantity} {offset : Int}
    (stands : StandsFor raw quantity offset) : openBrace ∈ raw := by
  cases stands
  exact List.mem_cons_self

theorem parse_eq_placeholder_iff {raw : List Char} {quantity : Quantity} {offset : Int} :
    parse raw = .ok (placeholder quantity offset) ↔ StandsFor raw quantity offset := by
  rw [parse]
  split
  · rw [standsFor_iff]
    cases (inner? raw).bind ofInner? <;> simp
  · rename_i braceless
    refine iff_of_false (by simp) fun stands => braceless (.inl stands.openBrace_mem)

theorem parse_eq_literal_iff {raw : List Char} {text : String} :
    parse raw = .ok (literal text) ↔ Braceless raw ∧ text = String.ofList raw := by
  rw [parse, Braceless, ← not_or]
  split
  · rename_i braced
    have read : ¬(inner? raw).bind ofInner? = some (literal text) := by
      intro found
      obtain ⟨inner, _, parsed⟩ := Option.bind_eq_some_iff.mp found
      obtain ⟨_, _, _, _, same⟩ := ofInner?_eq_some_iff.mp parsed
      cases same
    cases found : (inner? raw).bind ofInner? with
    | none => simp [braced]
    | some cell =>
      rw [found] at read
      simpa [braced] using fun same => read (congrArg some same)
  · rename_i braceless
    simp [braceless, eq_comm]

theorem parse_eq_error_iff {raw : List Char} {error : ThemeError} :
    parse raw = .error error ↔
      (¬Braceless raw ∧ ¬∃ quantity offset, StandsFor raw quantity offset) ∧
        error = .badPlaceholder (String.ofList raw) := by
  rw [parse, not_braceless_iff, exists_standsFor_iff]
  split
  · rename_i braced
    cases (inner? raw).bind ofInner? <;> simp [braced, eq_comm]
  · rename_i braceless
    simp [braceless]

/-- A text is read as a literal that holds it iff it has no brace, as a placeholder iff it is written
as that placeholder, and is refused with an error that holds it in every other case. -/
theorem parse_by_form (raw : List Char) :
    (∀ text, parse raw = .ok (literal text) ↔ Braceless raw ∧ text = String.ofList raw) ∧
    (∀ quantity offset, parse raw = .ok (placeholder quantity offset) ↔
      StandsFor raw quantity offset) ∧
    ∀ error, parse raw = .error error ↔
      (¬Braceless raw ∧ ¬∃ quantity offset, StandsFor raw quantity offset) ∧
        error = .badPlaceholder (String.ofList raw) :=
  ⟨fun _ => parse_eq_literal_iff, fun _ _ => parse_eq_placeholder_iff, fun _ => parse_eq_error_iff⟩

example : parse "\x7b x  -5 \x7d".toList = .ok (placeholder .x (-5)) ∧
    parse "\x7bx - 5\x7d".toList = .error (.badPlaceholder "\x7bx - 5\x7d") := by
  decide +kernel

end Cell
end Corridor
