import Corridor.Catalogue
import Corridor.Proofs.ParsedRecord

namespace Corridor

theorem Numeral.int64?_ofNat {n : Nat} (small : n ≤ maxNat32) : int64? (ofNat n) = some (n : Int) := by
  apply signed?_ofNat
  · simp only [minInt64]
    omega
  · simp only [maxInt64, maxNat32] at *
    omega

theorem printed_of_parseRecordChars {text : List Char} {records : List Record}
    (parsed : parseRecordChars text = .ok records) : records.map Record.printed = records := by
  have kept : ∀ record ∈ records, record.printed = id record := by
    intro record member
    obtain ⟨piece, _, read⟩ := Checked.exists_of_mem_mapM parsed member
    exact Record.printed_of_parseChars read
  rw [List.map_congr_left kept, List.map_id]

theorem parseRecords_recordText {records : List Record}
    (printable : ∀ record ∈ records, record.Printable) :
    parseRecords (recordText records) = .ok (records.map Record.printed) := by
  rw [parseRecords, recordText, String.toList_ofList]
  exact parseRecordChars_recordChars records printable

namespace Record

variable (record : Record)

theorem get?_printed (key : Key) :
    record.printed.get? key = (record.get? key).map fun value => .text value.asText := by
  obtain ⟨fields⟩ := record
  rw [get?, get?, printed]
  induction fields with
  | nil => rfl
  | cons field rest ih =>
    obtain ⟨other, value⟩ := field
    simp only [List.map_cons, List.lookup_cons]
    cases key == other with
    | true => rfl
    | false => exact ih

theorem getText?_printed (key : Key) : record.printed.getText? key = record.getText? key := by
  rw [getText?, getText?, get?_printed, Option.map_map]
  apply Option.map_congr
  intro value _
  simp [FieldValue.asText, FieldValue.chars]

theorem objectId?_printed {id : Nat} {rest : List (Key × FieldValue)} (small : id ≤ Numeral.maxNat32)
    (begun : record.fields = (ofId id).fields ++ rest) :
    record.printed.objectId? = record.objectId? := by
  obtain ⟨fields⟩ := record
  cases begun
  have read : Numeral.int64? (FieldValue.int id).asText.toList = some (id : Int) := by
    rw [FieldValue.asText, String.toList_ofList]
    exact Numeral.int64?_ofNat small
  calc
    objectId? (printed ⟨(ofId id).fields ++ rest⟩) = Numeral.int64? (FieldValue.int id).asText.toList := rfl
    _ = some (id : Int) := read

end Record

/-- Whatever text was read, what is written of it reads the same, so that it is not changed by being
read and written again. And printable records read back one by one as themselves with every value as
its text, with the same text under every key, and with the same object if they were begun with one. -/
theorem written_normal_form :
    (∀ text records, parseRecords text = .ok records →
      parseRecords (recordText records) = .ok records) ∧
    (∀ text normal, (parseRecords text).map recordText = .ok normal →
      (parseRecords normal).map recordText = .ok normal) ∧
    ∀ records : List Record, (∀ record ∈ records, record.Printable) →
      parseRecords (recordText records) = .ok (records.map Record.printed) ∧
      ∀ record ∈ records,
        record.printed.fields = record.fields.map (fun field => (field.1, .text field.2.asText)) ∧
        (∀ key, record.printed.getText? key = record.getText? key) ∧
        ∀ id ≤ Numeral.maxNat32, ∀ rest, record.fields = (Record.ofId id).fields ++ rest →
          record.printed.objectId? = record.objectId? := by
  have again : ∀ text records, parseRecords text = .ok records →
      parseRecords (recordText records) = .ok records := by
    intro text records parsed
    rw [parseRecords_recordText (printable_of_parseRecordChars parsed),
      printed_of_parseRecordChars parsed]
  refine ⟨again, ?_, ?_⟩
  · intro text normal normalized
    obtain ⟨records, parsed, rfl⟩ := Checked.map_eq_ok_iff.mp normalized
    exact Checked.map_eq_ok_iff.mpr ⟨records, again text records parsed, rfl⟩
  · intro records printable
    refine ⟨parseRecords_recordText printable, fun record _ => ⟨rfl, ?_, ?_⟩⟩
    · exact record.getText?_printed
    · intro id small rest begun
      exact record.objectId?_printed small begun

def looseText : String := " 1, 12 ,31,; ;;+007,a b ;"

def looseRecords : List Record := [⟨[(1, .text "12"), (31, .text "")]⟩, ⟨[(7, .text "a b")]⟩]

def signpost : Record :=
  Record.ofId ObjectId.textLabel |>.placedAt (.int (-30)) (.float 15.5)
    |>.field Key.text (.text "a b")

theorem loose_normal_form :
    parseRecords looseText = .ok looseRecords ∧
    parseRecords (recordText looseRecords) = .ok looseRecords ∧
    (parseRecords looseText).map recordText = .ok "1,12,31,;7,a b;" ∧
    (parseRecords "1,12,31,;7,a b;").map recordText = .ok "1,12,31,;7,a b;" ∧
    (∀ record ∈ [signpost], record.Printable) ∧
    parseRecords (recordText [signpost]) = .ok [signpost.printed] ∧
    signpost.printed.getText? Key.y = signpost.getText? Key.y ∧
    signpost.printed.objectId? = some 914 := by
  obtain ⟨again, normal, back⟩ := written_normal_form
  have parsed : parseRecords looseText = .ok looseRecords := by decide +kernel
  have written : (parseRecords looseText).map recordText = .ok "1,12,31,;7,a b;" := by decide +kernel
  have printable : ∀ record ∈ [signpost], record.Printable := by
    intro record member
    rw [List.mem_singleton.mp member]
    refine ⟨by simp [signpost], ?_⟩
    simp only [signpost, Record.fields_field, Record.fields_placedAt, Record.fields_ofId,
      List.cons_append, List.nil_append, List.forall_mem_cons]
    refine ⟨FieldValue.printable_int _, FieldValue.printable_int _, ?_,
      ⟨by decide, by decide, by decide⟩, List.forall_mem_nil _⟩
    exact FieldValue.printable_of_inert fun _ => Decimal.isInert_of_mem_ofFloat
  obtain ⟨read, kept⟩ := back [signpost] printable
  obtain ⟨_, texts, object⟩ := kept signpost List.mem_cons_self
  exact ⟨parsed, again _ _ parsed, written, normal _ _ written, printable, read, texts Key.y,
    object 914 (by decide) _ rfl⟩

end Corridor
