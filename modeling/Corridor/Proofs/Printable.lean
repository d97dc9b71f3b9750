import Corridor.Record.Parser
import Corridor.Record.Printer
import Corridor.Proofs.Checked
import Corridor.Proofs.Inert
import Corridor.Proofs.Pieces
import Corridor.Proofs.Trimming
/-!
Records that survive being written and read. Main statements: the text of printable records reads
back as these records, and all records that are read from text are printable.
-/
namespace Corridor

/-- A value that stays one item between commas and that no trimming shortens. -/
structure FieldValue.Itemized (value : FieldValue) : Prop where
  comma : ',' ∉ value.chars
  trimmed : Text.trim value.chars = value.chars

/-- A value that no divider cuts and no trimming shortens. It may be empty. -/
structure FieldValue.Printable (value : FieldValue) : Prop where
  comma : ',' ∉ value.chars
  semicolon : ';' ∉ value.chars
  trimmed : Text.trim value.chars = value.chars

structure Record.Itemized (record : Record) : Prop where
  fields_ne_nil : record.fields ≠ []
  values : ∀ field ∈ record.fields, field.2.Itemized

structure Record.Printable (record : Record) : Prop where
  fields_ne_nil : record.fields ≠ []
  values : ∀ field ∈ record.fields, field.2.Printable

/-- The record as it is read back, with every value as its text. -/
def Record.printed (record : Record) : Record :=
  ⟨record.fields.map fun (key, value) => (key, .text value.asText)⟩

theorem Record.Printable.itemized {record : Record} (printable : record.Printable) :
    record.Itemized where
  fields_ne_nil := printable.fields_ne_nil
  values field member := ⟨(printable.values field member).comma, (printable.values field member).trimmed⟩

namespace FieldValue

theorem printable_of_inert {value : FieldValue} (inert : ∀ c ∈ value.chars, Text.isInert c = true) :
    value.Printable where
  comma := Text.not_mem_of_isInert (by decide) inert
  semicolon := Text.not_mem_of_isInert (by decide) inert
  trimmed := Text.trim_eq_self_of_forall fun c member => Text.isBlank_of_isInert (inert c member)

theorem printable_int (n : Int) : (int n).Printable :=
  printable_of_inert fun _ => Numeral.isInert_of_mem_ofInt

end FieldValue

namespace Record

def valueChars (record : Record) : List Char := record.fields.flatMap fun field => field.2.chars

def bodyChars (record : Record) : List Char := [','].intercalate record.items

theorem items_cons (field : Key × FieldValue) (rest : List (Key × FieldValue)) :
    items ⟨field :: rest⟩ = Numeral.ofNat field.1.toNat :: field.2.chars :: items ⟨rest⟩ := rfl

theorem pairs_items (record : Record) :
    pairs record.items = record.fields.map fun field =>
      (Numeral.ofNat field.1.toNat, field.2.chars) := by
  obtain ⟨fields⟩ := record
  induction fields with
  | nil => rfl
  | cons field rest ih => rw [items_cons, pairs, ih, List.map_cons]

theorem items_printed (record : Record) : record.printed.items = record.items := by
  simp [printed, items, List.flatMap_map, FieldValue.asText, FieldValue.chars]

theorem chars_printed (record : Record) : record.printed.chars = record.chars := by
  rw [chars, chars, items_printed]

theorem length_items (record : Record) : record.items.length = 2 * record.fields.length := by
  obtain ⟨fields⟩ := record
  induction fields with
  | nil => rfl
  | cons field rest ih =>
    simp only [items_cons, List.length_cons, ih]
    omega

theorem mem_items_iff (record : Record) (item : List Char) :
    item ∈ record.items ↔
      ∃ field ∈ record.fields, item = Numeral.ofNat field.1.toNat ∨ item = field.2.chars := by
  rw [items, List.mem_flatMap]
  simp only [List.mem_cons, List.not_mem_nil, or_false]

theorem items_ne_nil {record : Record} (nonempty : record.fields ≠ []) : record.items ≠ [] := by
  intro empty
  have length := length_items record
  rw [empty, List.length_nil] at length
  have positive := List.length_pos_iff.mpr nonempty
  omega

theorem comma_not_mem_items {record : Record}
    (undivided : ∀ field ∈ record.fields, ',' ∉ field.2.chars) :
    ∀ item ∈ record.items, ',' ∉ item := by
  intro item member
  obtain ⟨field, present, rfl | rfl⟩ := (mem_items_iff record item).mp member
  · exact Text.not_mem_of_isInert (by decide) fun _ => Numeral.isInert_of_mem_ofNat
  · exact undivided field present

theorem splitOn_bodyChars {record : Record} (nonempty : record.fields ≠ [])
    (undivided : ∀ field ∈ record.fields, ',' ∉ field.2.chars) :
    record.bodyChars.splitOn ',' = record.items :=
  List.splitOn_intercalate ',' (comma_not_mem_items undivided) (items_ne_nil nonempty)

theorem count_bodyChars (record : Record) :
    record.bodyChars.count ';' = record.valueChars.count ';' := by
  have keys (key : Key) : (Numeral.ofNat key.toNat).count ';' = 0 :=
    List.count_eq_zero.mpr
      (Text.not_mem_of_isInert (by decide) fun _ => Numeral.isInert_of_mem_ofNat)
  obtain ⟨fields⟩ := record
  rw [bodyChars, Pieces.count_intercalate (by decide), valueChars]
  induction fields with
  | nil => rfl
  | cons field rest ih =>
    rw [items_cons, List.flatten_cons, List.flatten_cons, List.flatMap_cons, List.count_append,
      List.count_append, List.count_append, keys, ih, Nat.zero_add]

theorem semicolon_not_mem_bodyChars {record : Record}
    (undivided : ∀ field ∈ record.fields, ';' ∉ field.2.chars) : ';' ∉ record.bodyChars := by
  intro member
  rcases Pieces.mem_intercalate_iff.mp member with ⟨same, _⟩ | ⟨item, listed, inside⟩
  · exact absurd same (by decide)
  · obtain ⟨field, present, rfl | rfl⟩ := (mem_items_iff record item).mp listed
    · exact Text.not_mem_of_isInert (by decide) (fun _ => Numeral.isInert_of_mem_ofNat) inside
    · exact undivided field present inside

theorem exists_head?_bodyChars {record : Record} (nonempty : record.fields ≠ []) :
    ∃ c, record.bodyChars.head? = some c ∧ Text.isInert c = true := by
  obtain ⟨field, rest, fields⟩ := List.exists_cons_of_ne_nil nonempty
  obtain ⟨c, digits, numeral⟩ := List.exists_cons_of_ne_nil (Numeral.ofNat_ne_nil field.1.toNat)
  refine ⟨c, ?_, ?_⟩
  · obtain ⟨fields⟩ := record
    cases fields
    rw [bodyChars, items_cons, List.intercalate_cons_cons, numeral]
    rfl
  · apply Numeral.isInert_of_mem_ofNat (n := field.1.toNat)
    rw [numeral]
    exact List.mem_cons_self

theorem getLast?_bodyChars {record : Record} {front : List (Key × FieldValue)}
    {last : Key × FieldValue} (fields : record.fields = front ++ [last]) :
    record.bodyChars.getLast? = some (last.2.chars.getLast?.getD ',') := by
  have items : record.items = (items ⟨front⟩ ++ [Numeral.ofNat last.1.toNat]) ++ [last.2.chars] := by
    rw [Record.items, fields, List.flatMap_append]
    simp [Record.items]
  rw [bodyChars, items, Pieces.intercalate_concat _ _ _ (by simp), List.getLast?_append,
    List.getLast?_cons, Option.some_or]

theorem isBlank_getLast?_bodyChars {record : Record} (itemized : record.Itemized) :
    ∀ c ∈ record.bodyChars.getLast?, Text.isBlank c = false := by
  obtain ⟨front, last, fields⟩ : ∃ front last, record.fields = front ++ [last] :=
    ⟨_, _, (List.dropLast_append_getLast itemized.fields_ne_nil).symm⟩
  have value := itemized.values last (by simp [fields])
  intro c ending
  rw [getLast?_bodyChars fields, Option.mem_some_iff] at ending
  cases shown : last.2.chars.getLast? with
  | none =>
    rw [shown, Option.getD_none] at ending
    rw [← ending]
    decide
  | some d =>
    rw [shown, Option.getD_some] at ending
    exact ((Text.trim_eq_self_iff _).mp value.trimmed).2 c (ending ▸ shown)

theorem isBlank_head?_bodyChars {record : Record} (nonempty : record.fields ≠ []) :
    ∀ c ∈ record.bodyChars.head?, Text.isBlank c = false := by
  obtain ⟨first, head, inert⟩ := exists_head?_bodyChars nonempty
  intro c found
  rw [head, Option.mem_some_iff] at found
  rw [← found]
  exact Text.isBlank_of_isInert inert

theorem trim_bodyChars {record : Record} (itemized : record.Itemized) :
    Text.trim record.bodyChars = record.bodyChars :=
  Text.trim_eq_self (isBlank_head?_bodyChars itemized.fields_ne_nil)
    (isBlank_getLast?_bodyChars itemized)

theorem bodyChars_ne_nil {record : Record} (nonempty : record.fields ≠ []) :
    record.bodyChars ≠ [] := by
  obtain ⟨first, head, _⟩ := exists_head?_bodyChars nonempty
  intro empty
  rw [empty] at head
  cases head

theorem parseKey?_ofNat (key : Key) : parseKey? (Numeral.ofNat key.toNat) = some key := by
  have bound : key.toNat ≤ 65535 := by
    have small := key.toNat_lt
    omega
  rw [parseKey?, Numeral.unsigned?_ofNat bound, Option.map_some, UInt16.ofNat_toNat]

theorem parseField_printed (body : List Char) (field : Key × FieldValue)
    (itemized : field.2.Itemized) :
    parseField body (Numeral.ofNat field.1.toNat, field.2.chars) =
      .ok (field.1, .text field.2.asText) := by
  have key : Text.trim (Numeral.ofNat field.1.toNat) = Numeral.ofNat field.1.toNat :=
    (FieldValue.printable_int (Int.ofNat field.1.toNat)).trimmed
  rw [parseField, key, parseKey?_ofNat, itemized.trimmed]
  rfl

theorem parseBody_bodyChars {record : Record} (itemized : record.Itemized) :
    parseBody record.bodyChars = .ok record.printed := by
  have items : record.bodyChars.splitOn ',' = record.items :=
    splitOn_bodyChars itemized.fields_ne_nil fun field member => (itemized.values field member).comma
  have even : ¬record.items.length % 2 = 1 := by
    rw [length_items]
    omega
  have fields : (pairs record.items).mapM (parseField record.bodyChars) =
      .ok (record.fields.map fun field => (field.1, .text field.2.asText)) := by
    rw [pairs_items, List.mapM_map]
    apply Checked.mapM_eq_ok_map
    intro field member
    exact parseField_printed record.bodyChars field (itemized.values field member)
  rw [parseBody, items]
  rw [if_neg even, fields]
  rfl

theorem parseChars_bodyChars {record : Record} (printable : record.Printable) :
    parseChars record.bodyChars = .ok record.printed := by
  have whole : ';' ∉ record.bodyChars :=
    semicolon_not_mem_bodyChars fun field member => (printable.values field member).semicolon
  rw [parseChars, trim_bodyChars printable.itemized, Text.stripEnd_eq_self whole]
  rw [if_neg (bodyChars_ne_nil printable.fields_ne_nil), parseBody_bodyChars printable.itemized]

end Record

theorem splitOn_recordChars (records : List Record)
    (printable : ∀ record ∈ records, record.Printable) :
    (recordChars records).splitOn ';' = records.map Record.bodyChars ++ [[]] := by
  induction records with
  | nil => rfl
  | cons record rest ih =>
    have absent : ';' ∉ record.bodyChars := Record.semicolon_not_mem_bodyChars fun field member =>
      ((printable record List.mem_cons_self).values field member).semicolon
    have chars : recordChars (record :: rest) = record.bodyChars ++ ';' :: recordChars rest := by
      simp [recordChars, Record.chars, Record.bodyChars]
    rw [chars, List.splitOn_append_cons_self_of_not_mem absent,
      ih fun other member => printable other (List.mem_cons_of_mem record member)]
    rfl

theorem recordPieces_recordChars (records : List Record)
    (printable : ∀ record ∈ records, record.Printable) :
    recordPieces (recordChars records) = records.map Record.bodyChars := by
  have shown : ∀ piece ∈ records.map Record.bodyChars, (!piece.all Text.isBlank) = true := by
    intro piece member
    obtain ⟨record, present, rfl⟩ := List.mem_map.mp member
    obtain ⟨c, head, inert⟩ := Record.exists_head?_bodyChars (printable record present).fields_ne_nil
    rw [Bool.not_eq_true', List.all_eq_false]
    exact ⟨c, List.mem_of_mem_head? head, by simp [Text.isBlank_of_isInert inert]⟩
  rw [recordPieces, splitOn_recordChars records printable, List.filter_append,
    List.filter_eq_self.mpr shown]
  simp

theorem parseRecordChars_recordChars (records : List Record)
    (printable : ∀ record ∈ records, record.Printable) :
    parseRecordChars (recordChars records) = .ok (records.map Record.printed) := by
  rw [parseRecordChars, recordPieces_recordChars records printable, List.mapM_map]
  apply Checked.mapM_eq_ok_map
  intro record member
  exact Record.parseChars_bodyChars (printable record member)

end Corridor
