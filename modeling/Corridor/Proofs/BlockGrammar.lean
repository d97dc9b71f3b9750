import Corridor.Proofs.NumeralGrammar
import Corridor.Proofs.ParsedRecord

namespace Corridor

namespace Record

def IsKey (text : List Char) : Prop := ∃ value ≤ 65535, Numeral.Unsigned text value

/-- A key and a value as they are read, without the blanks around them. -/
structure Denotes (pair : List Char × List Char) (field : Key × FieldValue) : Prop where
  key : Numeral.Unsigned (Text.trim pair.1) field.1.toNat
  value : field.2 = .text (String.ofList (Text.trim pair.2))

/-- The items of a piece are these pairs, written one after the other. -/
def Lists (piece : List Char) (spelling : List (List Char × List Char)) : Prop :=
  piece.splitOn ',' = spelling.flatMap fun pair => [pair.1, pair.2]

def Readable (piece : List Char) : Prop :=
  ∃ spelling, Lists piece spelling ∧ ∀ pair ∈ spelling, IsKey (Text.trim pair.1)

def ReadsAs (piece : List Char) (record : Record) : Prop :=
  ∃ spelling, Lists piece spelling ∧ List.Forall₂ Denotes spelling record.fields

/-- The error of a bad piece. An item without a partner counts before any key. -/
inductive Fault (piece : List Char) : RecordError → Prop
  | unpaired (odd : (piece.splitOn ',').length % 2 = 1) :
    Fault piece (.unpairedField (String.ofList (Text.trim piece)))
  | badKey {before after : List (List Char × List Char)} {pair : List Char × List Char}
    (split : Lists piece (before ++ pair :: after))
    (earlier : ∀ other ∈ before, IsKey (Text.trim other.1)) (bad : ¬IsKey (Text.trim pair.1)) :
    Fault piece
      (.invalidKey (String.ofList (Text.trim piece)) (String.ofList (Text.trim pair.1)))

theorem parseKey?_eq_some_iff {text : List Char} {key : Key} :
    parseKey? text = some key ↔ Numeral.Unsigned text key.toNat := by
  simp only [parseKey?, Option.map_eq_some_iff, Numeral.unsigned?_eq_some_iff]
  constructor
  · rintro ⟨value, ⟨unsigned, bound⟩, rfl⟩
    rwa [UInt16.toNat_ofNat_of_lt' (Nat.lt_succ_of_le bound)]
  · intro unsigned
    exact ⟨key.toNat, ⟨unsigned, Nat.le_of_lt_succ key.toNat_lt⟩, UInt16.ofNat_toNat⟩

theorem isKey_iff {text : List Char} : IsKey text ↔ ∃ key, parseKey? text = some key := by
  simp only [parseKey?_eq_some_iff]
  constructor
  · rintro ⟨value, bound, unsigned⟩
    refine ⟨UInt16.ofNat value, ?_⟩
    rwa [UInt16.toNat_ofNat_of_lt' (Nat.lt_succ_of_le bound)]
  · rintro ⟨key, unsigned⟩
    exact ⟨key.toNat, Nat.le_of_lt_succ key.toNat_lt, unsigned⟩

theorem parseField_eq_ok_iff_denotes {body : List Char} {pair : List Char × List Char}
    {field : Key × FieldValue} : parseField body pair = .ok field ↔ Denotes pair field := by
  rw [parseField_eq_ok_iff]
  constructor
  · rintro ⟨key, value⟩
    exact ⟨parseKey?_eq_some_iff.mp key, value⟩
  · rintro ⟨key, value⟩
    exact ⟨parseKey?_eq_some_iff.mpr key, value⟩

theorem exists_parseField_iff {body : List Char} {pair : List Char × List Char} :
    (∃ field, parseField body pair = .ok field) ↔ IsKey (Text.trim pair.1) := by
  rw [isKey_iff, parseField]
  cases parseKey? (Text.trim pair.1) <;> simp

theorem parseField_eq_error_iff {body : List Char} {pair : List Char × List Char}
    {error : RecordError} :
    parseField body pair = .error error ↔ ¬IsKey (Text.trim pair.1) ∧
      error = .invalidKey (String.ofList body) (String.ofList (Text.trim pair.1)) := by
  rw [isKey_iff, parseField]
  cases parseKey? (Text.trim pair.1) <;> simp [eq_comm]

theorem eq_flatMap_iff {α : Type} {items : List α} {spelling : List (α × α)} :
    items = spelling.flatMap (fun pair => [pair.1, pair.2]) ↔
      items.length % 2 = 0 ∧ pairs items = spelling := by
  induction spelling generalizing items with
  | nil =>
    match items with
    | [] => simp [pairs]
    | [_] => simp
    | _ :: _ :: _ => simp [pairs]
  | cons pair rest ih =>
    match items with
    | [] => simp [pairs]
    | [_] => simp
    | first :: second :: others =>
      have even : (others.length + 1 + 1) % 2 = others.length % 2 := Nat.add_mod_right _ 2
      rw [pairs, List.flatMap_cons, List.length_cons, List.length_cons, even, List.cons.injEq,
        and_left_comm, ← ih, Prod.ext_iff]
      simp [and_assoc]

theorem lists_iff {piece : List Char} {spelling : List (List Char × List Char)} :
    Lists piece spelling ↔
      (piece.splitOn ',').length % 2 = 0 ∧ pairs (piece.splitOn ',') = spelling :=
  eq_flatMap_iff

theorem Lists.unique {piece : List Char} {first second : List (List Char × List Char)}
    (listed : Lists piece first) (also : Lists piece second) : first = second :=
  (lists_iff.mp listed).2.symm.trans (lists_iff.mp also).2

theorem length_splitOn_trim (piece : List Char) :
    ((Text.trim piece).splitOn ',').length = (piece.splitOn ',').length := by
  have same := congrArg List.length (tokens_trim piece)
  rwa [tokens, tokens, List.length_map, List.length_map] at same

theorem mapM_parseField_tokens (body piece : List Char) :
    (pairs (piece.splitOn ',')).mapM (parseField body) =
      (pairs (tokens piece)).mapM (parseField body) := by
  rw [tokens, pairs_map, List.mapM_map]
  apply Checked.mapM_congr
  intro pair _
  rw [Function.comp_apply, parseField, parseField, Text.trim_trim, Text.trim_trim]

theorem parseBody_trim_of_lists {piece : List Char} {spelling : List (List Char × List Char)}
    (listed : Lists piece spelling) :
    parseBody (Text.trim piece) =
      (spelling.mapM (parseField (Text.trim piece))).map Record.mk := by
  obtain ⟨even, rfl⟩ := lists_iff.mp listed
  have paired : ¬((Text.trim piece).splitOn ',').length % 2 = 1 := by
    rw [length_splitOn_trim, even]
    decide
  -- blanks around the piece are blanks around items, which every field trims
  rw [parseBody, if_neg paired, mapM_parseField_tokens, tokens_trim, ← mapM_parseField_tokens]

theorem parseBody_trim_of_odd {piece : List Char} (odd : (piece.splitOn ',').length % 2 = 1) :
    parseBody (Text.trim piece) = .error (.unpairedField (String.ofList (Text.trim piece))) := by
  rw [← length_splitOn_trim] at odd
  exact if_pos odd

theorem not_lists_of_odd {piece : List Char} (odd : (piece.splitOn ',').length % 2 = 1)
    (spelling : List (List Char × List Char)) : ¬Lists piece spelling := by
  intro listed
  have even := (lists_iff.mp listed).1
  omega

theorem lists_or_odd (piece : List Char) :
    (∃ spelling, Lists piece spelling) ∨ (piece.splitOn ',').length % 2 = 1 := by
  rcases Nat.mod_two_eq_zero_or_one (piece.splitOn ',').length with even | odd
  · exact .inl ⟨_, lists_iff.mpr ⟨even, rfl⟩⟩
  · exact .inr odd

theorem parseBody_trim_eq_ok_iff {piece : List Char} {record : Record} :
    parseBody (Text.trim piece) = .ok record ↔ ReadsAs piece record := by
  rcases lists_or_odd piece with ⟨spelling, listed⟩ | odd
  · rw [parseBody_trim_of_lists listed, Checked.map_eq_ok_iff]
    simp only [Checked.mapM_eq_ok_iff, parseField_eq_ok_iff_denotes]
    constructor
    · rintro ⟨fields, denoted, rfl⟩
      exact ⟨spelling, listed, denoted⟩
    · rintro ⟨other, also, denoted⟩
      obtain rfl := also.unique listed
      exact ⟨record.fields, denoted, rfl⟩
  · rw [parseBody_trim_of_odd odd]
    refine iff_of_false nofun ?_
    rintro ⟨spelling, listed, _⟩
    exact not_lists_of_odd odd spelling listed

theorem exists_readsAs_iff {piece : List Char} : (∃ record, ReadsAs piece record) ↔ Readable piece := by
  constructor
  · rintro ⟨record, spelling, listed, denoted⟩
    refine ⟨spelling, listed, fun pair member => ?_⟩
    obtain ⟨field, _, denotes⟩ := Checked.exists_of_mem_forall₂ denoted.flip member
    exact ⟨field.1.toNat, Nat.le_of_lt_succ field.1.toNat_lt, denotes.key⟩
  · rintro ⟨spelling, listed, keys⟩
    have each : ∀ pair ∈ spelling, ∃ field, parseField piece pair = .ok field :=
      fun pair member => exists_parseField_iff.mpr (keys pair member)
    obtain ⟨fields, read⟩ := Checked.exists_mapM_eq_ok_iff.mpr each
    rw [Checked.mapM_eq_ok_iff] at read
    exact ⟨⟨fields⟩, spelling, listed, read.imp fun _ _ => parseField_eq_ok_iff_denotes.mp⟩

theorem parseBody_trim_eq_error_iff {piece : List Char} {error : RecordError} :
    parseBody (Text.trim piece) = .error error ↔ Fault piece error := by
  rcases lists_or_odd piece with ⟨spelling, listed⟩ | odd
  · rw [parseBody_trim_of_lists listed, Checked.map_eq_error_iff, Checked.mapM_eq_error_iff]
    simp only [exists_parseField_iff, parseField_eq_error_iff]
    constructor
    · rintro ⟨before, pair, after, rfl, earlier, bad, rfl⟩
      exact .badKey listed earlier bad
    · intro fault
      cases fault with
      | unpaired odd => exact absurd listed (not_lists_of_odd odd spelling)
      | badKey split earlier bad => exact ⟨_, _, _, listed.unique split, earlier, bad, rfl⟩
  · rw [parseBody_trim_of_odd odd]
    constructor
    · intro same
      cases same
      exact .unpaired odd
    · intro fault
      cases fault with
      | unpaired => rfl
      | badKey split => exact absurd split (not_lists_of_odd odd _)

theorem parseChars_of_mem_recordPieces {text piece : List Char} (member : piece ∈ recordPieces text) :
    parseChars piece = parseBody (Text.trim piece) := by
  obtain ⟨cut, shown⟩ := List.mem_filter.mp member
  have whole : ';' ∉ piece := Pieces.not_mem_of_mem_splitOn cut
  have body : Text.stripEnd ';' (Text.trim piece) = Text.trim piece :=
    Text.stripEnd_eq_self fun inside => whole ((Text.trim_sublist piece).mem inside)
  have nonempty : Text.trim piece ≠ [] := by
    intro empty
    have blank := List.all_eq_true.mpr (Text.trim_eq_nil_iff.mp empty)
    simp [blank] at shown
  rw [parseChars, body]
  exact if_neg nonempty

end Record

theorem parseRecordChars_eq_mapM (text : List Char) :
    parseRecordChars text =
      (recordPieces text).mapM fun piece => Record.parseBody (Text.trim piece) :=
  Checked.mapM_congr fun _ => Record.parseChars_of_mem_recordPieces

theorem parseRecordChars_eq_ok_iff {text : List Char} {records : List Record} :
    parseRecordChars text = .ok records ↔ List.Forall₂ Record.ReadsAs (recordPieces text) records := by
  simp only [parseRecordChars_eq_mapM, Checked.mapM_eq_ok_iff, Record.parseBody_trim_eq_ok_iff]

theorem exists_parseRecordChars_iff {text : List Char} :
    (∃ records, parseRecordChars text = .ok records) ↔
      ∀ piece ∈ recordPieces text, Record.Readable piece := by
  simp only [parseRecordChars_eq_mapM, Checked.exists_mapM_eq_ok_iff, Record.parseBody_trim_eq_ok_iff,
    Record.exists_readsAs_iff]

theorem parseRecordChars_eq_error_iff {text : List Char} {error : RecordError} :
    parseRecordChars text = .error error ↔
      ∃ before piece after, recordPieces text = before ++ piece :: after ∧
        (∀ other ∈ before, Record.Readable other) ∧ Record.Fault piece error := by
  simp only [parseRecordChars_eq_mapM, Checked.mapM_eq_error_iff, Record.parseBody_trim_eq_ok_iff,
    Record.exists_readsAs_iff, Record.parseBody_trim_eq_error_iff]

/-- A block is cut at its semicolons, and its blank pieces do not count. It reads iff each of the others
is made of keys and values in turn, and then as one record for each. Otherwise it is refused with the
error of the first piece that is not, which is never that of an empty record. -/
theorem parseRecords_by_pieces (text : String) :
    let pieces := (text.toList.splitOn ';').filter fun piece => !piece.all Text.isBlank
    ((∃ records, parseRecords text = .ok records) ↔ ∀ piece ∈ pieces, Record.Readable piece) ∧
    (∀ records, parseRecords text = .ok records ↔ List.Forall₂ Record.ReadsAs pieces records) ∧
    (∀ error, parseRecords text = .error error ↔
      ∃ before piece after, pieces = before ++ piece :: after ∧
        (∀ other ∈ before, Record.Readable other) ∧ Record.Fault piece error) ∧
    ∀ body, parseRecords text ≠ .error (.empty body) := by
  refine ⟨exists_parseRecordChars_iff, fun _ => parseRecordChars_eq_ok_iff,
    fun _ => parseRecordChars_eq_error_iff, fun body empty => ?_⟩
  obtain ⟨_, piece, _, _, _, fault⟩ := parseRecordChars_eq_error_iff.mp empty
  cases fault

theorem parseRecords_first_fault :
    (∃ records, parseRecords " +007, a ;; 1,,2,b " = .ok records) ∧
    parseRecords " +007, a ;; x,1,2 ;65536,0" = .error (.unpairedField "x,1,2") ∧
    parseRecords "1,a,65536, b ;x" = .error (.invalidKey "1,a,65536, b" "65536") := by
  have seven : Record.IsKey "+007".toList := Record.isKey_iff.mpr ⟨7, by decide +kernel⟩
  have one : Record.IsKey ['1'] := Record.isKey_iff.mpr ⟨1, by decide +kernel⟩
  have two : Record.IsKey ['2'] := Record.isKey_iff.mpr ⟨2, by decide +kernel⟩
  have large : ¬Record.IsKey "65536".toList := by
    have unread : Record.parseKey? "65536".toList = none := by decide +kernel
    rw [Record.isKey_iff, unread]
    nofun
  have first : Record.Readable " +007, a ".toList :=
    ⟨[(" +007".toList, " a ".toList)], rfl, List.forall_mem_singleton.mpr seven⟩
  have second : Record.Readable " 1,,2,b ".toList :=
    ⟨[(" 1".toList, []), ("2".toList, "b ".toList)], rfl,
      List.forall_mem_cons.mpr ⟨one, List.forall_mem_singleton.mpr two⟩⟩
  refine ⟨(parseRecords_by_pieces _).1.mpr ?_, ((parseRecords_by_pieces _).2.2.1 _).mpr ?_,
    ((parseRecords_by_pieces _).2.2.1 _).mpr ?_⟩
  · exact List.forall_mem_cons.mpr ⟨first, List.forall_mem_singleton.mpr second⟩
  · refine ⟨[" +007, a ".toList], " x,1,2 ".toList, ["65536,0".toList], rfl,
      List.forall_mem_singleton.mpr first, ?_⟩
    exact .unpaired rfl
  · refine ⟨[], "1,a,65536, b ".toList, ["x".toList], rfl, List.forall_mem_nil _, ?_⟩
    exact @Record.Fault.badKey _ [("1".toList, "a".toList)] [] ("65536".toList, " b ".toList) rfl
      (List.forall_mem_singleton.mpr one) large

end Corridor
