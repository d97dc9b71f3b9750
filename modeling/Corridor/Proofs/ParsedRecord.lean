import Corridor.Proofs.Printable

namespace Corridor

namespace Record

/-- The items of a text: what stands between its commas, trimmed. -/
def tokens (body : List Char) : List (List Char) := (body.splitOn ',').map Text.trim

/-- What is read of the text of one record: neither the blanks around it nor, then, the semicolons
at its end. -/
def bodyOf (text : List Char) : List Char := Text.stripEnd ';' (Text.trim text)

/-- Two items that are read as a field: its key, and its value as it stands. -/
structure Spells (pair : List Char × List Char) (field : Key × FieldValue) : Prop where
  key : parseKey? pair.1 = some field.1
  value : field.2 = .text (String.ofList pair.2)

theorem mem_of_mem_pairs {α : Type} {items : List α} {pair : α × α} (member : pair ∈ pairs items) :
    pair.1 ∈ items ∧ pair.2 ∈ items := by
  fun_induction pairs items with
  | case1 first second rest ih =>
    rcases List.mem_cons.mp member with rfl | later
    · simp
    · obtain ⟨left, right⟩ := ih later
      exact ⟨by simp [left], by simp [right]⟩
  | case2 => cases member

theorem pairs_ne_nil {α : Type} {items : List α} (nonempty : items ≠ [])
    (even : ¬items.length % 2 = 1) : pairs items ≠ [] := by
  match items with
  | [] => exact absurd rfl nonempty
  | [_] => exact absurd rfl even
  | _ :: _ :: _ => simp [pairs]

theorem pairs_map {α β : Type} (f : α → β) (items : List α) :
    pairs (items.map f) = (pairs items).map fun pair => (f pair.1, f pair.2) := by
  induction items using pairs.induct with
  | case1 first second rest ih => simp [pairs, ih]
  | case2 items fewer =>
    cases items with
    | nil => rfl
    | cons first rest =>
      cases rest with
      | nil => rfl
      | cons second rest => exact absurd rfl (fewer first second rest)

theorem flatten_pairs {α : Type} {items : List (List α)} (even : ¬items.length % 2 = 1) :
    ((pairs items).flatMap fun pair => pair.1 ++ pair.2) = items.flatten := by
  induction items using pairs.induct with
  | case1 first second rest ih =>
    have evenRest : ¬rest.length % 2 = 1 := by
      simp only [List.length_cons] at even
      omega
    simp [pairs, ih evenRest]
  | case2 items fewer =>
    cases items with
    | nil => rfl
    | cons first rest =>
      cases rest with
      | nil => exact absurd rfl even
      | cons second rest => exact absurd rfl (fewer first second rest)

theorem tokens_ne_nil (body : List Char) : tokens body ≠ [] := by
  simp [tokens, List.splitOn_ne_nil]

theorem mem_of_mem_tokens {body token : List Char} (member : token ∈ tokens body) :
    ',' ∉ token ∧ Text.trim token = token ∧ ∀ c ∈ token, c ∈ body := by
  obtain ⟨piece, cut, rfl⟩ := List.mem_map.mp member
  refine ⟨fun comma => ?_, Text.trim_trim piece, fun c inside => ?_⟩
  · exact Pieces.not_mem_of_mem_splitOn cut ((Text.trim_sublist piece).mem comma)
  · exact Pieces.mem_of_mem_splitOn cut ((Text.trim_sublist piece).mem inside)

/-- Blanks around a text are blanks around its first and its last item. -/
theorem tokens_trim (body : List Char) : tokens (Text.trim body) = tokens body := by
  obtain ⟨lead, tail, leading, trailing, joined⟩ := Text.exists_trim_append body
  have inLead : ',' ∉ lead := leading.not_mem (by decide)
  have inTail : ',' ∉ tail := trailing.not_mem (by decide)
  obtain ⟨first, rest, pieces, longer⟩ :=
    Pieces.splitOn_of_not_mem_append inLead (Text.trim body)
  obtain ⟨front, last, parts, whole⟩ :=
    Pieces.splitOn_append_of_not_mem inTail (lead ++ Text.trim body)
  calc
    tokens (Text.trim body) = (first :: rest).map Text.trim := by rw [tokens, pieces]
    _ = ((lead ++ first) :: rest).map Text.trim := by simp [Text.trim_lead_append leading]
    _ = (front ++ [last]).map Text.trim := by rw [← longer, parts]
    _ = (front ++ [last ++ tail]).map Text.trim := by simp [Text.trim_append_tail trailing]
    _ = tokens (lead ++ Text.trim body ++ tail) := by rw [tokens, whole]
    _ = tokens body := by rw [← joined]

theorem parseField_eq_ok_iff (body : List Char) {pair : List Char × List Char}
    {field : Key × FieldValue} :
    parseField body pair = .ok field ↔ Spells (Text.trim pair.1, Text.trim pair.2) field := by
  obtain ⟨key, value⟩ := field
  rw [parseField]
  split
  · rename_i found read
    constructor
    · intro same
      cases same
      exact ⟨read, rfl⟩
    · rintro ⟨keyed, kept⟩
      rw [read] at keyed
      cases keyed
      cases kept
      rfl
  · rename_i unread
    constructor
    · intro same
      cases same
    · rintro ⟨keyed, _⟩
      rw [unread] at keyed
      cases keyed

theorem parseBody_eq_ok_iff {body : List Char} {record : Record} :
    parseBody body = .ok record ↔
      ¬(tokens body).length % 2 = 1 ∧ List.Forall₂ Spells (pairs (tokens body)) record.fields := by
  rw [parseBody, tokens, List.length_map, pairs_map, List.forall₂_map_left_iff]
  simp only [← parseField_eq_ok_iff body]
  rw [← Checked.mapM_eq_ok_iff]
  split
  · rename_i odd
    simp [odd]
  · rename_i even
    obtain ⟨fields⟩ := record
    rw [Checked.map_eq_ok_iff]
    simp [even]

theorem parseBody_trim {body : List Char} {record : Record} :
    parseBody (Text.trim body) = .ok record ↔ parseBody body = .ok record := by
  rw [parseBody_eq_ok_iff, parseBody_eq_ok_iff, tokens_trim]

theorem Spells.chars {pair : List Char × List Char} {field : Key × FieldValue}
    (spelled : Spells pair field) : field.2.chars = pair.2 := by
  rw [spelled.value, FieldValue.chars, String.toList_ofList]

theorem Spells.inert_key {pair : List Char × List Char} {field : Key × FieldValue}
    (spelled : Spells pair field) : ∀ c ∈ pair.1, Text.isInert c = true := by
  obtain ⟨n, read, _⟩ := Option.map_eq_some_iff.mp spelled.key
  exact Numeral.isInert_of_unsigned? read

theorem count_of_spells {spelling : List (List Char × List Char)}
    {fields : List (Key × FieldValue)} (spelled : List.Forall₂ Spells spelling fields) :
    (spelling.flatMap fun pair => pair.1 ++ pair.2).count ';' =
      (fields.flatMap fun field => field.2.chars).count ';' := by
  induction spelled with
  | nil => rfl
  | cons spells _ ih =>
    have key : List.count ';' _ = 0 :=
      List.count_eq_zero.mpr (Text.not_mem_of_isInert (by decide) spells.inert_key)
    rw [List.flatMap_cons, List.flatMap_cons, List.count_append, List.count_append,
      List.count_append, key, Nat.zero_add, spells.chars, ih]

theorem parseBody_nil (record : Record) : parseBody [] ≠ .ok record := by
  intro parsed
  exact (parseBody_eq_ok_iff.mp parsed).1 rfl

section
variable {body : List Char} {record : Record} (parsed : parseBody body = .ok record)
include parsed

theorem exists_token_of_parseBody {field : Key × FieldValue} (member : field ∈ record.fields) :
    ∃ token ∈ tokens body, field.2 = .text (String.ofList token) ∧ field.2.chars = token := by
  obtain ⟨_, spelled⟩ := parseBody_eq_ok_iff.mp parsed
  obtain ⟨pair, present, spells⟩ := Checked.exists_of_mem_forall₂ spelled member
  exact ⟨pair.2, (mem_of_mem_pairs present).2, spells.value, spells.chars⟩

theorem itemized_of_parseBody : record.Itemized where
  fields_ne_nil := by
    obtain ⟨even, spelled⟩ := parseBody_eq_ok_iff.mp parsed
    intro empty
    rw [empty, List.forall₂_nil_right_iff] at spelled
    exact pairs_ne_nil (tokens_ne_nil body) even spelled
  values field member := by
    obtain ⟨token, listed, _, chars⟩ := exists_token_of_parseBody parsed member
    obtain ⟨comma, trimmed, _⟩ := mem_of_mem_tokens listed
    exact ⟨by rwa [chars], by rwa [chars]⟩

theorem printed_of_parseBody : record.printed = record := by
  obtain ⟨fields⟩ := record
  have kept : ∀ field ∈ fields, (field.1, FieldValue.text field.2.asText) = field := by
    intro field member
    obtain ⟨token, _, value, chars⟩ := exists_token_of_parseBody parsed member
    rw [FieldValue.asText, chars, ← value]
  rw [printed]
  exact congrArg Record.mk ((List.map_congr_left kept).trans (List.map_id fields))

theorem count_of_parseBody : body.count ';' = record.valueChars.count ';' := by
  obtain ⟨even, spelled⟩ := parseBody_eq_ok_iff.mp parsed
  calc
    body.count ';' = ([','].intercalate (body.splitOn ',')).count ';' := by
      rw [List.intercalate_splitOn]
    _ = (body.splitOn ',').flatten.count ';' := Pieces.count_intercalate (by decide) _
    _ = (tokens body).flatten.count ';' :=
      (Text.count_flatten_map_trim ';' (by decide) _).symm
    _ = ((pairs (tokens body)).flatMap fun pair => pair.1 ++ pair.2).count ';' := by
      rw [flatten_pairs even]
    _ = record.valueChars.count ';' := count_of_spells spelled

theorem printable_of_parseBody (semicolon : ';' ∉ body) : record.Printable where
  fields_ne_nil := (itemized_of_parseBody parsed).fields_ne_nil
  values field member := by
    obtain ⟨comma, trimmed⟩ := (itemized_of_parseBody parsed).values field member
    obtain ⟨token, listed, _, chars⟩ := exists_token_of_parseBody parsed member
    exact ⟨comma, fun inside => semicolon ((mem_of_mem_tokens listed).2.2 _ (chars ▸ inside)), trimmed⟩

end

theorem parseChars_eq_ok_iff {text : List Char} {record : Record} :
    parseChars text = .ok record ↔ parseBody (bodyOf text) = .ok record := by
  rw [parseChars, ← bodyOf]
  split
  · rename_i empty
    rw [empty]
    exact iff_of_false (by simp) (parseBody_nil record)
  · rfl

theorem printed_of_parseChars {text : List Char} {record : Record}
    (parsed : parseChars text = .ok record) : record.printed = record :=
  printed_of_parseBody (parseChars_eq_ok_iff.mp parsed)

theorem printable_of_parseChars {text : List Char} {record : Record} (semicolon : ';' ∉ text)
    (parsed : parseChars text = .ok record) : record.Printable := by
  apply printable_of_parseBody (parseChars_eq_ok_iff.mp parsed)
  intro member
  exact semicolon ((Text.trim_sublist text).mem ((Text.stripEnd_sublist ';' _).mem member))

end Record

theorem printable_of_parseRecordChars {text : List Char} {records : List Record}
    (parsed : parseRecordChars text = .ok records) : ∀ record ∈ records, record.Printable := by
  intro record member
  obtain ⟨piece, present, read⟩ := Checked.exists_of_mem_mapM parsed member
  have cut : piece ∈ text.splitOn ';' := (List.mem_filter.mp present).1
  exact Record.printable_of_parseChars (Pieces.not_mem_of_mem_splitOn cut) read

end Corridor
