import Corridor.Proofs.ParsedRecord

namespace Corridor

theorem recordPieces_append_cons (front back : List Char) :
    recordPieces (front ++ ';' :: back) = recordPieces front ++ recordPieces back := by
  rw [recordPieces, List.splitOn_append_cons_self, List.filter_append, ← recordPieces, ← recordPieces]

theorem recordPieces_eq_nil {text : List Char}
    (empty : ∀ c ∈ text, c = ';' ∨ Text.isBlank c = true) : recordPieces text = [] := by
  rw [recordPieces, List.filter_eq_nil_iff]
  intro piece cut
  have blank : piece.all Text.isBlank = true := by
    rw [List.all_eq_true]
    intro c inside
    rcases empty c (Pieces.mem_of_mem_splitOn cut inside) with rfl | blank
    · exact absurd inside (Pieces.not_mem_of_mem_splitOn cut)
    · exact blank
  simp [blank]

theorem recordPieces_eq_singleton {text : List Char} (whole : ';' ∉ text)
    (shown : Text.trim text ≠ []) : recordPieces text = [text] := by
  have visible : ¬text.all Text.isBlank = true := fun blank =>
    shown (Text.trim_eq_nil (List.all_eq_true.mp blank))
  rw [recordPieces, List.splitOn_eq_singleton whole]
  simp [visible]

namespace Record

theorem exists_recordPieces_eq {text : List Char} (whole : ';' ∉ bodyOf text)
    (shown : Text.trim (bodyOf text) ≠ []) :
    ∃ lead tail, Text.Blank lead ∧ Text.Blank tail ∧
      recordPieces text = [lead ++ bodyOf text ++ tail] := by
  obtain ⟨lead, tail, leading, trailing, joined⟩ := Text.exists_trim_append text
  obtain ⟨count, stripped⟩ := Text.exists_stripEnd_append ';' (Text.trim text)
  have inLead : ';' ∉ lead := leading.not_mem (by decide)
  have inTail : ';' ∉ tail := trailing.not_mem (by decide)
  rw [← bodyOf] at stripped
  cases count with
  | zero =>
    have same : text = lead ++ bodyOf text ++ tail := by
      rw [stripped] at joined
      simpa using joined
    refine ⟨lead, tail, leading, trailing, ?_⟩
    rw [← same]
    apply recordPieces_eq_singleton
    · rw [same]
      simp [inLead, whole, inTail]
    · rwa [same, Text.trim_append_tail trailing, Text.trim_lead_append leading]
  | succ count =>
    have parted : text = (lead ++ bodyOf text) ++ ';' :: (List.replicate count ';' ++ tail) := by
      rw [stripped, List.replicate_succ] at joined
      simpa using joined
    have front : recordPieces (lead ++ bodyOf text) = [lead ++ bodyOf text] := by
      apply recordPieces_eq_singleton
      · simp [inLead, whole]
      · rwa [Text.trim_lead_append leading]
    have back : recordPieces (List.replicate count ';' ++ tail) = [] := by
      apply recordPieces_eq_nil
      intro c member
      rcases List.mem_append.mp member with mark | blank
      · exact .inl (List.eq_of_mem_replicate mark)
      · exact .inr (trailing c blank)
    refine ⟨lead, [], leading, fun _ member => absurd member List.not_mem_nil, ?_⟩
    calc
      recordPieces text = recordPieces (lead ++ bodyOf text) ++
          recordPieces (List.replicate count ';' ++ tail) := by
        rw [← recordPieces_append_cons, ← parted]
      _ = [lead ++ bodyOf text ++ []] := by rw [front, back, List.append_nil, List.append_nil]

section
variable {text : List Char} {record : Record} (parsed : parseChars text = .ok record)
include parsed

theorem semicolon_not_mem_bodyOf_iff :
    ';' ∉ bodyOf text ↔ ∀ field ∈ record.fields, ';' ∉ field.2.chars := by
  rw [← List.count_eq_zero, count_of_parseBody (parseChars_eq_ok_iff.mp parsed), List.count_eq_zero,
    valueChars, List.mem_flatMap]
  simp only [not_exists, not_and]

theorem parseRecordChars_of_whole (whole : ';' ∉ bodyOf text) :
    parseRecordChars text = .ok [record] := by
  have trimmed : parseBody (Text.trim (bodyOf text)) = .ok record :=
    parseBody_trim.mpr (parseChars_eq_ok_iff.mp parsed)
  have shown : Text.trim (bodyOf text) ≠ [] := by
    intro empty
    rw [empty] at trimmed
    exact parseBody_nil record trimmed
  obtain ⟨lead, tail, leading, trailing, pieces⟩ := exists_recordPieces_eq whole shown
  have body : bodyOf (lead ++ bodyOf text ++ tail) = Text.trim (bodyOf text) := by
    rw [bodyOf, Text.trim_append_tail trailing, Text.trim_lead_append leading]
    exact Text.stripEnd_eq_self fun inside => whole ((Text.trim_sublist _).mem inside)
  rw [parseRecordChars, pieces, Checked.mapM_eq_ok_iff, List.forall₂_cons]
  refine ⟨?_, .nil⟩
  rw [parseChars_eq_ok_iff, body]
  exact trimmed

theorem parseRecordChars_eq_singleton_iff :
    parseRecordChars text = .ok [record] ↔ ∀ field ∈ record.fields, ';' ∉ field.2.chars := by
  constructor
  · intro block field member
    have printable := printable_of_parseRecordChars block record List.mem_cons_self
    exact (printable.values field member).semicolon
  · intro whole
    exact parseRecordChars_of_whole parsed ((semicolon_not_mem_bodyOf_iff parsed).mpr whole)

end

theorem bodyOf_chars {record : Record} (nonempty : record.fields ≠ []) :
    bodyOf record.chars = Text.stripEnd ';' record.bodyChars := by
  have chars : record.chars = record.bodyChars ++ [';'] := rfl
  have trimmed : Text.trim record.chars = record.chars := by
    apply Text.trim_eq_self
    · intro c first
      rw [chars, List.head?_append_of_ne_nil _ (bodyChars_ne_nil nonempty)] at first
      exact isBlank_head?_bodyChars nonempty c first
    · intro c last
      rw [chars, List.getLast?_concat, Option.mem_some_iff] at last
      rw [← last]
      decide
  rw [bodyOf, trimmed, chars, Text.stripEnd_append_self]

theorem getLast?_bodyChars_eq_iff {record : Record} (nonempty : record.fields ≠ []) :
    record.bodyChars.getLast? = some ';' ↔
      ∃ field ∈ record.fields.getLast?, field.2.chars.getLast? = some ';' := by
  obtain ⟨front, last, fields⟩ : ∃ front last, record.fields = front ++ [last] :=
    ⟨_, _, (List.dropLast_append_getLast nonempty).symm⟩
  rw [getLast?_bodyChars fields, fields, List.getLast?_concat]
  cases shown : last.2.chars.getLast? <;> simp [shown]

/-- Only the semicolons at its very end are lost when a record is written and read again. -/
theorem parseChars_chars_iff {record : Record} (itemized : record.Itemized)
    (text : record.printed = record) :
    parseChars record.chars = .ok record ↔ record.bodyChars.getLast? ≠ some ';' := by
  rw [parseChars_eq_ok_iff, bodyOf_chars itemized.fields_ne_nil]
  constructor
  · intro parsed
    obtain ⟨count, stripped⟩ := Text.exists_stripEnd_append ';' record.bodyChars
    have kept : (Text.stripEnd ';' record.bodyChars).count ';' = record.bodyChars.count ';' := by
      rw [count_of_parseBody parsed, count_bodyChars]
    have nothing : count = 0 := by
      have counted := congrArg (List.count ';') stripped
      rw [List.count_append, List.count_replicate_self] at counted
      omega
    rw [nothing, List.replicate_zero, List.append_nil] at stripped
    rw [stripped]
    exact Text.getLast?_stripEnd_ne ';' _
  · intro last
    rw [Text.stripEnd_eq_self_of_last last, parseBody_bodyChars itemized, text]

/-- No value that is read holds a comma. The text reads as a block of the same one record if and only
if no value holds a semicolon, which is so if all semicolons of the trimmed text stand at its end.
What is written of the record reads back as it if and only if its last value does not end with a
semicolon. -/
theorem parse_agrees_iff {text : String} {record : Record} (parsed : parse text = .ok record) :
    (∀ field ∈ record.fields, ',' ∉ field.2.chars) ∧
    (parseRecords text = .ok [record] ↔ ∀ field ∈ record.fields, ';' ∉ field.2.chars) ∧
    ((∀ field ∈ record.fields, ';' ∉ field.2.chars) ↔
      ';' ∉ Text.stripEnd ';' (Text.trim text.toList)) ∧
    (parse record.asText = .ok record ↔
      ¬∃ field ∈ record.fields.getLast?, field.2.chars.getLast? = some ';') := by
  have body := parseChars_eq_ok_iff.mp parsed
  have itemized := itemized_of_parseBody body
  refine ⟨fun field member => (itemized.values field member).comma,
    parseRecordChars_eq_singleton_iff parsed, (semicolon_not_mem_bodyOf_iff parsed).symm, ?_⟩
  rw [parse, asText, String.toList_ofList, parseChars_chars_iff itemized (printed_of_parseBody body),
    ne_eq, getLast?_bodyChars_eq_iff itemized.fields_ne_nil]

def knottedText : String := " 1,a;b ,2, c ;; "

def knotted : Record := ⟨[(1, .text "a;b"), (2, .text "c")]⟩

theorem knotted_reads_back :
    parse knottedText = .ok knotted ∧
    (∀ field ∈ knotted.fields, ',' ∉ field.2.chars) ∧
    parseRecords knottedText ≠ .ok [knotted] ∧
    ';' ∈ Text.stripEnd ';' (Text.trim knottedText.toList) ∧
    parse knotted.asText = .ok knotted := by
  have parsed : parse knottedText = .ok knotted := by decide +kernel
  obtain ⟨comma, block, whole, back⟩ := parse_agrees_iff parsed
  have held : ¬∀ field ∈ knotted.fields, ';' ∉ field.2.chars := by decide +kernel
  refine ⟨parsed, comma, fun agreed => held (block.mp agreed), ?_, back.mpr (by decide +kernel)⟩
  by_contra absent
  exact held (whole.mpr absent)

theorem parse_ne_parseRecords :
    parse "1,1; ;" = .ok ⟨[(1, .text "1;")]⟩ ∧
    parseRecords "1,1; ;" = .ok [⟨[(1, .text "1")]⟩] ∧
    parse (asText ⟨[(1, .text "1;")]⟩) = .ok ⟨[(1, .text "1")]⟩ := by
  decide +kernel

end Record
end Corridor
