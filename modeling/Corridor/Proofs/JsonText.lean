import Corridor.Proofs.JsonToken
/-!
Values without decimals, written and read. Main statement: a value is read back from its own text.
-/
namespace Corridor.Json

/-- Without decimals and without strings that are no text. -/
inductive Plain : Json → Prop where
  | null : Plain .null
  | bool (value : Bool) : Plain (.bool value)
  | integer (negative : Bool) (magnitude : Nat) : Plain (.number (.integer negative magnitude))
  | string (text : String) : Plain (.string (some text))
  | array {items : List Json} (plain : ∀ item ∈ items, Plain item) : Plain (.array items)
  | object {members : List (Option String × Json)} (named : ∀ member ∈ members, member.1.isSome)
      (plain : ∀ member ∈ members, Plain member.2) : Plain (.object members)

def Opens (c : Char) : Prop := isSpace c = false ∧ c ≠ ']'

theorem opens_of_isDigit {c : Char} (digit : c.isDigit = true) : Opens c := by
  constructor
  · cases spaces : isSpace c with
    | false => rfl
    | true =>
      simp only [isSpace, Bool.or_eq_true, decide_eq_true_eq] at spaces
      rcases spaces with ((rfl | rfl) | rfl) | rfl <;> cases digit
  · rintro rfl
    cases digit

theorem Plain.exists_chars {json : Json} (plain : json.Plain) :
    ∃ c rest, json.chars = c :: rest ∧ Opens c := by
  cases plain with
  | null => exact ⟨_, _, rfl, by decide, by decide⟩
  | bool value => cases value <;> exact ⟨_, _, rfl, by decide, by decide⟩
  | integer negative magnitude =>
    cases negative with
    | true => exact ⟨_, _, rfl, by decide, by decide⟩
    | false =>
      obtain ⟨digit, digits, written⟩ := List.exists_cons_of_ne_nil (Numeral.ofNat_ne_nil magnitude)
      have first : digit ∈ Numeral.ofNat magnitude := written ▸ List.mem_cons_self
      exact ⟨digit, digits, written, opens_of_isDigit (Numeral.isDigit_of_mem_ofNat first)⟩
  | string text => exact ⟨_, _, rfl, by decide, by decide⟩
  | array _ => exact ⟨_, _, by rw [chars], by decide, by decide⟩
  | object _ _ => exact ⟨_, _, by rw [chars], by decide, by decide⟩

theorem skip_cons {c : Char} (visible : isSpace c = false) (rest : List Char) :
    skip (c :: rest) = c :: rest := by
  rw [skip, List.dropWhile_cons_of_neg (by simp [visible])]

/-- A value is read from its text, whatever follows that does not go on with it. -/
def ReadsBack (json : Json) : Prop :=
  ∀ fuel rest, json.chars.length ≤ fuel → Closed rest →
    readValue fuel (json.chars ++ rest) = some (json, rest)

theorem readValue_number {c : Char} (first : c = '-' ∨ c.isDigit = true) (fuel : Nat)
    (text : List Char) :
    readValue (fuel + 1) (c :: text) =
      (readNumber (c :: text)).map fun (n, rest) => (.number n, rest) := by
  have visible : isSpace c = false := by
    rcases first with rfl | digit
    · decide
    · exact (opens_of_isDigit digit).1
  have other : ∀ d : Char, d ≠ '-' → d.isDigit = false → c ≠ d := by
    rintro d sign letter rfl
    rcases first with minus | digit
    · exact sign minus
    · rw [digit] at letter
      cases letter
  rw [readValue, skip_cons visible]
  split
  iterate 6
    · rename_i same
      exact absurd (List.cons.inj same).1 (other _ (by decide) (by decide))
  · rfl

theorem readsBack_integer (negative : Bool) (magnitude : Nat) :
    ReadsBack (.number (.integer negative magnitude)) := by
  intro fuel rest enough closed
  obtain ⟨c, others, written, first⟩ :
      ∃ c others, (Number.integer negative magnitude).chars = c :: others ∧
        (c = '-' ∨ c.isDigit = true) := by
    cases negative with
    | true => exact ⟨_, _, rfl, .inl rfl⟩
    | false =>
      obtain ⟨digit, digits, same⟩ := List.exists_cons_of_ne_nil (Numeral.ofNat_ne_nil magnitude)
      have inside : digit ∈ Numeral.ofNat magnitude := same ▸ List.mem_cons_self
      exact ⟨digit, digits, same, .inr (Numeral.isDigit_of_mem_ofNat inside)⟩
  have read := readNumber_chars closed (n := magnitude) negative
  rw [chars] at enough ⊢
  rw [written] at read enough ⊢
  cases fuel with
  | zero => cases enough
  | succ fuel =>
    rw [List.cons_append] at read ⊢
    rw [readValue_number first, read]
    rfl

theorem readsBack_string (text : String) : ReadsBack (.string (some text)) := by
  intro fuel rest enough _
  cases fuel with
  | zero => cases enough
  | succ fuel =>
    have read := readString_quoted text rest
    simp [chars, quote, readValue, skip_cons (c := '"') (by decide), read]

theorem readItems_itemsChars {items : List Json} (nonempty : items ≠ [])
    (each : ∀ item ∈ items, item.ReadsBack) (fuel : Nat) (rest : List Char)
    (enough : (itemsChars items).length ≤ fuel) :
    readItems fuel (itemsChars items ++ rest) = some (items, rest) := by
  induction items generalizing fuel with
  | nil => exact absurd rfl nonempty
  | cons item others ih =>
    have head : item.ReadsBack := each item List.mem_cons_self
    cases others with
    | nil =>
      rw [itemsChars, List.length_append] at enough
      cases fuel with
      | zero => simp at enough
      | succ fuel =>
        have read := head fuel (']' :: rest) (by simpa using enough) (closed_cons (by decide) rest)
        simp [itemsChars, readItems, read, skip_cons (c := ']') (by decide), bind]
    | cons second others =>
      have later := ih (List.cons_ne_nil _ _) fun other member => each other (.tail item member)
      rw [itemsChars, List.length_append, List.length_cons] at enough
      · cases fuel with
        | zero => simp at enough
        | succ fuel =>
          have read := head fuel (',' :: (itemsChars (second :: others) ++ rest)) (by omega)
            (closed_cons (by decide) _)
          simp [itemsChars, readItems, read, skip_cons (c := ',') (by decide), later fuel (by omega),
            bind]
      · nofun

theorem exists_itemsChars {item : Json} (plain : item.Plain) (others : List Json) :
    ∃ c rest, itemsChars (item :: others) = c :: rest ∧ Opens c := by
  obtain ⟨c, rest, written, opens⟩ := plain.exists_chars
  cases others with
  | nil => exact ⟨c, rest ++ [']'], by rw [itemsChars, written, List.cons_append], opens⟩
  | cons second others =>
    refine ⟨c, rest ++ ',' :: itemsChars (second :: others), ?_, opens⟩
    rw [itemsChars, written, List.cons_append]
    nofun

theorem readValue_items {c : Char} (opens : Opens c) (fuel : Nat) (text : List Char) :
    readValue (fuel + 1) ('[' :: c :: text) =
      (readItems fuel (c :: text)).map fun (items, rest) => (.array items, rest) := by
  simp only [readValue, skip_cons (c := '[') (by decide), skip_cons opens.1]
  split
  · rename_i same
    exact absurd (List.cons.inj same).1 opens.2
  · rfl

theorem readValue_members (fuel : Nat) (text : List Char) :
    readValue (fuel + 1) ('\x7b' :: '"' :: text) =
      (readMembers fuel ('"' :: text)).map fun (members, rest) => (.object members, rest) := by
  simp only [readValue, skip_cons (c := '\x7b') (by decide), skip_cons (c := '"') (by decide)]
  rfl

theorem readsBack_array {items : List Json} (plain : ∀ item ∈ items, item.Plain)
    (each : ∀ item ∈ items, item.ReadsBack) : ReadsBack (.array items) := by
  intro fuel rest enough _
  cases fuel with
  | zero => simp [chars] at enough
  | succ fuel =>
    rw [chars, List.length_cons] at enough
    cases items with
    | nil =>
      simp [chars, itemsChars, readValue, skip_cons (c := '[') (by decide),
        skip_cons (c := ']') (by decide)]
    | cons item others =>
      have read := readItems_itemsChars (List.cons_ne_nil item others) each fuel rest (by omega)
      obtain ⟨c, later, written, opens⟩ := exists_itemsChars (plain item List.mem_cons_self) others
      rw [written, List.cons_append] at read
      rw [chars, written, List.cons_append, List.cons_append, readValue_items opens, read]
      rfl

theorem readMembers_membersChars {members : List (Option String × Json)} (nonempty : members ≠ [])
    (named : ∀ member ∈ members, member.1.isSome) (each : ∀ member ∈ members, member.2.ReadsBack)
    (fuel : Nat) (rest : List Char) (enough : (membersChars members).length ≤ fuel) :
    readMembers fuel (membersChars members ++ rest) = some (members, rest) := by
  induction members generalizing fuel with
  | nil => exact absurd rfl nonempty
  | cons member others ih =>
    obtain ⟨name, present⟩ := Option.isSome_iff_exists.mp (named member List.mem_cons_self)
    obtain ⟨_, value⟩ := member
    cases present
    have head : value.ReadsBack := each _ List.mem_cons_self
    have key (text : List Char) := readString_quoted name (':' :: text)
    have quoteMark := skip_cons (c := '"') (by decide)
    have colon := skip_cons (c := ':') (by decide)
    cases others with
    | nil =>
      rw [membersChars] at enough
      simp only [List.length_append, List.length_cons, List.length_nil] at enough
      cases fuel with
      | zero => omega
      | succ fuel =>
        have read := head fuel ('\x7d' :: rest) (by omega) (closed_cons (by decide) rest)
        have brace := skip_cons (c := '\x7d') (by decide)
        simp [membersChars, quote, readMembers, quoteMark, key, colon, read, brace, bind]
    | cons second others =>
      have later := ih (List.cons_ne_nil _ _) (fun other member => named other (.tail _ member))
        fun other member => each other (.tail _ member)
      rw [membersChars] at enough
      · simp only [List.length_append, List.length_cons] at enough
        cases fuel with
        | zero => omega
        | succ fuel =>
          have read := head fuel (',' :: (membersChars (second :: others) ++ rest)) (by omega)
            (closed_cons (by decide) _)
          have comma := skip_cons (c := ',') (by decide)
          simp [membersChars, quote, readMembers, quoteMark, key, colon, read, comma,
            later fuel (by omega), bind]
      · nofun

theorem readsBack_object {members : List (Option String × Json)}
    (named : ∀ member ∈ members, member.1.isSome) (each : ∀ member ∈ members, member.2.ReadsBack) :
    ReadsBack (.object members) := by
  intro fuel rest enough _
  cases fuel with
  | zero => simp [chars] at enough
  | succ fuel =>
    rw [chars, List.length_cons] at enough
    cases members with
    | nil =>
      simp [chars, membersChars, readValue, skip_cons (c := '\x7b') (by decide),
        skip_cons (c := '\x7d') (by decide)]
    | cons member others =>
      have read := readMembers_membersChars (List.cons_ne_nil member others) named each fuel rest
        (by omega)
      obtain ⟨text, written⟩ : ∃ text, membersChars (member :: others) = '"' :: text := by
        cases others with
        | nil => exact ⟨_, by rw [membersChars, quote, List.cons_append, List.cons_append,
            List.cons_append]⟩
        | cons second others => exact ⟨_, by rw [membersChars, quote, List.cons_append,
            List.cons_append, List.cons_append]; nofun⟩
      rw [written, List.cons_append] at read
      rw [chars, written, List.cons_append, List.cons_append, readValue_members, read]
      rfl

theorem Plain.readsBack {json : Json} (plain : json.Plain) : json.ReadsBack := by
  induction plain with
  | null =>
    intro fuel rest enough _
    cases fuel with
    | zero => cases enough
    | succ fuel => simp [chars, readValue, skip_cons (c := 'n') (by decide)]
  | bool value =>
    intro fuel rest enough _
    cases fuel with
    | zero => cases value <;> cases enough
    | succ fuel =>
      cases value <;> simp [chars, readValue, skip_cons (c := 't') (by decide),
        skip_cons (c := 'f') (by decide)]
  | integer negative magnitude => exact readsBack_integer negative magnitude
  | string text => exact readsBack_string text
  | array plain each => exact readsBack_array plain each
  | object named _ each => exact readsBack_object named each

theorem parse?_text {json : Json} (plain : json.Plain) : parse? json.text = some json := by
  have read := plain.readsBack (2 * json.chars.length + 2) [] (by omega) closed_nil
  rw [List.append_nil] at read
  rw [parse?, text, String.toList_ofList, parseChars?, read]
  rfl

end Corridor.Json
