import Corridor.Proofs.Base64Decoding
import Corridor.Proofs.SingleRecord

namespace Corridor

namespace Base64

def IsLetter (c : Char) : Prop :=
  ('A' ≤ c ∧ c ≤ 'Z') ∨ ('a' ≤ c ∧ c ≤ 'z') ∨ ('0' ≤ c ∧ c ≤ '9') ∨ c = '-' ∨ c = '_'

instance (c : Char) : Decidable (IsLetter c) := inferInstanceAs (Decidable (_ ∨ _))

theorem isLetter_letter (n : Nat) : IsLetter (letter n) := by
  by_cases bound : n < 62
  · have small : ∀ m < 62, IsLetter (letter m) := by decide
    exact small n bound
  · rw [letter, if_neg (by omega), if_neg (by omega), if_neg bound]
    split <;> decide

theorem length_encode (bytes : List UInt8) :
    (encode bytes).length = 4 * ((bytes.length + 2) / 3) := by
  fun_induction encode bytes with
  | case1 => rfl
  | case2 => simp
  | case3 => simp
  | case4 a b c rest ih =>
    simp only [List.length_cons, ih]
    omega

/-- The bytes that a last group lacks are made up for by padding, and nothing else is. -/
theorem exists_letters (bytes : List UInt8) :
    ∃ letters, encode bytes = letters ++ List.replicate ((3 - bytes.length % 3) % 3) '=' ∧
      ∀ c ∈ letters, IsLetter c := by
  fun_induction encode bytes with
  | case1 => exact ⟨[], rfl, fun _ member => absurd member List.not_mem_nil⟩
  | case2 a =>
    refine ⟨[_, _], rfl, ?_⟩
    simp [isLetter_letter]
  | case3 a b =>
    refine ⟨[_, _, _], rfl, ?_⟩
    simp [isLetter_letter]
  | case4 a b c rest ih =>
    obtain ⟨letters, shape, all⟩ := ih
    have same : (a :: b :: c :: rest).length % 3 = rest.length % 3 := Nat.add_mod_right _ 3
    -- a whole group puts four letters in front and leaves the padding as it is
    rw [shape, same]
    refine ⟨_ :: _ :: _ :: _ :: letters, rfl, ?_⟩
    simpa [isLetter_letter] using all

end Base64

/-- A value that no divider cuts, whatever blanks there are around it. -/
structure FieldValue.Undivided (value : FieldValue) : Prop where
  comma : ',' ∉ value.chars
  semicolon : ';' ∉ value.chars

theorem FieldValue.Printable.undivided {value : FieldValue} (printable : value.Printable) :
    value.Undivided :=
  ⟨printable.comma, printable.semicolon⟩

theorem FieldValue.printable_encodeText (text : String) :
    (FieldValue.text (Base64.encodeText text)).Printable :=
  printable_of_inert fun _ => Base64.isInert_of_mem_encodeText

namespace Record

/-- The record as it is read back, with every value as its text without the blanks around it. -/
def trimmed (record : Record) : Record :=
  ⟨record.fields.map fun (key, value) => (key, .text (String.ofList (Text.trim value.chars)))⟩

theorem keys_trimmed (record : Record) :
    record.trimmed.fields.map Prod.fst = record.fields.map Prod.fst := by
  rw [trimmed, List.map_map]
  rfl

theorem fields_trimmed_append {text : String} (kept : Text.trim text.toList = text.toList) (key : Key)
    (front back : List (Key × FieldValue)) :
    (trimmed ⟨front ++ (key, .text text) :: back⟩).fields =
      (trimmed ⟨front⟩).fields ++ (key, .text text) :: (trimmed ⟨back⟩).fields := by
  simp only [trimmed, List.map_append, List.map_cons, FieldValue.chars, kept, String.ofList_toList]

section
variable {record : Record} (nonempty : record.fields ≠ [])
  (undivided : ∀ field ∈ record.fields, field.2.Undivided)
include nonempty undivided

theorem parseBody_eq_trimmed : parseBody record.bodyChars = .ok record.trimmed := by
  have tokens : tokens record.bodyChars = record.items.map Text.trim := by
    rw [Record.tokens, splitOn_bodyChars nonempty fun field member => (undivided field member).comma]
  rw [parseBody_eq_ok_iff, tokens, List.length_map, length_items, pairs_map, pairs_items, List.map_map]
  refine ⟨by omega, ?_⟩
  rw [trimmed, List.forall₂_map_left_iff, List.forall₂_map_right_iff, List.forall₂_same]
  intro field _
  have key : Text.trim (Numeral.ofNat field.1.toNat) = Numeral.ofNat field.1.toNat :=
    (FieldValue.printable_int (Int.ofNat field.1.toNat)).trimmed
  constructor
  · show parseKey? (Text.trim (Numeral.ofNat field.1.toNat)) = some field.1
    rw [key, parseKey?_ofNat]
  · rfl

theorem parseRecords_asText : parseRecords record.asText = .ok [record.trimmed] := by
  have whole : ';' ∉ record.bodyChars :=
    semicolon_not_mem_bodyChars fun field member => (undivided field member).semicolon
  have body := parseBody_trim.mpr (parseBody_eq_trimmed nonempty undivided)
  have shown : Text.trim record.bodyChars ≠ [] := by
    intro empty
    rw [empty] at body
    exact parseBody_nil _ body
  have pieces : recordPieces record.chars = [record.bodyChars] := by
    have chars : record.chars = record.bodyChars ++ ';' :: [] := rfl
    rw [chars, recordPieces_append_cons, recordPieces_eq_singleton whole shown]
    rfl
  have stripped : bodyOf record.bodyChars = Text.trim record.bodyChars :=
    Text.stripEnd_eq_self fun inside => whole ((Text.trim_sublist _).mem inside)
  rw [parseRecords, asText, String.toList_ofList, parseRecordChars, pieces, Checked.mapM_eq_ok_iff,
    List.forall₂_cons]
  refine ⟨?_, .nil⟩
  rw [parseChars_eq_ok_iff, stripped]
  exact body

end

end Record

namespace Base64

/-- An encoded text has four characters for each three bytes begun: letters, then padding for the bytes
that are missing. It gives back the bytes of the text, so that no two texts are encoded alike. And a
record that holds it under any key reads back with exactly this text in the same place, and under the
key unless that stands earlier, provided that no other value holds a comma or a semicolon. -/
theorem encodeText_reads_back (text : String) :
    let encoded := (encodeText text).toList
    let size := text.utf8ByteSize
    encoded.length = 4 * ((size + 2) / 3) ∧
    (∃ letters, encoded = letters ++ List.replicate ((3 - size % 3) % 3) '=' ∧
      ∀ c ∈ letters, IsLetter c) ∧
    decode? encoded = some text.toUTF8.toList ∧
    (∀ other, encodeText other = encodeText text ↔ other = text) ∧
    ∀ (key : Key) (front back : List (Key × FieldValue)),
      (∀ field ∈ front ++ back, field.2.Undivided) →
      let record : Record := ⟨front ++ (key, .text (encodeText text)) :: back⟩
      parseRecords record.asText = .ok [record.trimmed] ∧
      record.trimmed.fields[front.length]? = some (key, .text (encodeText text)) ∧
      (key ∉ front.map Prod.fst → record.trimmed.getText? key = some (encodeText text)) := by
  intro encoded size
  have written : encoded = encode text.toUTF8.toList := String.toList_ofList
  have counted : size = text.toUTF8.toList.length := (length_utf8 text).symm
  refine ⟨?_, ?_, decode?_encodeText text, fun _ => encodeText_inj, ?_⟩
  · rw [written, counted, length_encode]
  · rw [written, counted]
    exact exists_letters _
  · intro key front back undivided record
    have printable := FieldValue.printable_encodeText text
    have all : ∀ field ∈ record.fields, field.2.Undivided := by
      intro field member
      rcases List.mem_append.mp member with before | rest
      · exact undivided field (List.mem_append_left back before)
      · rcases List.mem_cons.mp rest with rfl | behind
        · exact printable.undivided
        · exact undivided field (List.mem_append_right front behind)
    have nonempty : record.fields ≠ [] := by simp [record]
    have fields := Record.fields_trimmed_append printable.trimmed key front back
    have before : (Record.trimmed ⟨front⟩).fields.length = front.length := List.length_map _
    refine ⟨Record.parseRecords_asText nonempty all, ?_, ?_⟩
    · rw [fields, ← before, List.getElem?_append_right (Nat.le_refl _), Nat.sub_self]
      rfl
    · intro first
      rw [← Record.keys_trimmed ⟨front⟩] at first
      rw [Record.getText?, Record.get?_eq_some_of_not_mem fields first, Option.map_some,
        FieldValue.asText, FieldValue.chars, String.ofList_toList]

def priceTag : Record :=
  ⟨[(1, .int 914)] ++ (31, .text (encodeText "1€;")) :: [(5, .text " b ")]⟩

theorem priceTag_reads_back :
    (encodeText "1€;").toList.length = 8 ∧ encodeText "1€;" = "MeKCrDs=" ∧
    decode? (encodeText "1€;").toList = some [0x31, 0xE2, 0x82, 0xAC, 0x3B] ∧
    (∀ field ∈ [(1, FieldValue.int 914)] ++ [((5 : Key), .text " b ")], field.2.Undivided) ∧
    parseRecords priceTag.asText =
      .ok [⟨[(1, .text "914"), (31, .text "MeKCrDs="), (5, .text "b")]⟩] ∧
    priceTag.trimmed.getText? 31 = some "MeKCrDs=" := by
  have encoded : encodeText "1€;" = "MeKCrDs=" := by decide +kernel
  have undivided :
      ∀ field ∈ [(1, FieldValue.int 914)] ++ [((5 : Key), .text " b ")], field.2.Undivided := by
    simp only [List.cons_append, List.nil_append, List.forall_mem_cons]
    exact ⟨⟨by decide, by decide⟩, ⟨by decide, by decide⟩, List.forall_mem_nil _⟩
  obtain ⟨counted, _, decoded, _, carried⟩ := encodeText_reads_back "1€;"
  obtain ⟨read, _, found⟩ := carried 31 [(1, .int 914)] [(5, .text " b ")] undivided
  refine ⟨counted.trans (by decide), encoded, decoded.trans (by decide +kernel), undivided, ?_, ?_⟩
  · exact read.trans (by decide +kernel)
  · exact (found (by decide)).trans (congrArg some encoded)

end Base64
end Corridor
