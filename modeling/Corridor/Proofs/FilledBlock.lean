import Corridor.Proofs.BlockGrammar
import Corridor.Proofs.NormalForm
import Corridor.Proofs.PlaceholderGrammar
/-!
Blocks of templates whose placeholders are filled in as text. Main statement: what is read of a block
that was filled in prints as the rendered templates of the block.
-/
namespace Corridor

/-- A value before and after its placeholder is replaced by a number, with the blanks around it kept.
A value that is no placeholder stays. -/
inductive FillsValue (frame : Frame) : List Char → List Char → Prop
  | number {lead raw tail : List Char} {quantity : Quantity} {offset : Int}
    (leading : Text.Blank lead) (stands : Cell.StandsFor raw quantity offset)
    (trailing : Text.Blank tail) :
    FillsValue frame (lead ++ raw ++ tail)
      (lead ++ Numeral.ofInt (frame.value quantity + offset) ++ tail)
  | kept {value : List Char}
    (other : ¬∃ quantity offset, Cell.StandsFor (Text.trim value) quantity offset) :
    FillsValue frame value value

/-- The items of a piece before and after. Every second item is a value, and the others stay. -/
inductive FillsItems (frame : Frame) : List (List Char) → List (List Char) → Prop
  | nil : FillsItems frame [] []
  | single (item : List Char) : FillsItems frame [item] [item]
  | pair {value filled : List Char} {rest filledRest : List (List Char)} (key : List Char)
    (first : FillsValue frame value filled) (others : FillsItems frame rest filledRest) :
    FillsItems frame (key :: value :: rest) (key :: filled :: filledRest)

def FillsPiece (frame : Frame) (piece filled : List Char) : Prop :=
  FillsItems frame (piece.splitOn ',') (filled.splitOn ',')

def FillsBlock (frame : Frame) (block filled : List Char) : Prop :=
  List.Forall₂ (FillsPiece frame) (block.splitOn ';') (filled.splitOn ';')

variable {frame : Frame}

namespace Cell

theorem trim_standsFor {raw : List Char} {quantity : Quantity} {offset : Int}
    (stands : StandsFor raw quantity offset) : Text.trim raw = raw := by
  cases stands with
  | @braced before after ending quantity offset leading trailing shifted =>
    rw [← List.cons_append]
    apply Text.trim_eq_self
    · intro c first
      rw [List.cons_append, List.head?_cons, Option.mem_some_iff] at first
      rw [← first]
      decide
    · intro c last
      rw [List.getLast?_concat, Option.mem_some_iff] at last
      rw [← last]
      decide

theorem trim_ofInt (n : Int) : Text.trim (Numeral.ofInt n) = Numeral.ofInt n :=
  (FieldValue.printable_int n).trimmed

end Cell

namespace FillsValue

variable {value filled : List Char}

theorem trim_eq_render (fills : FillsValue frame value filled) {cell : Cell}
    (parsed : Cell.parse (Text.trim value) = .ok cell) :
    Text.trim filled = (cell.render frame).chars := by
  cases fills with
  | @number lead raw tail quantity offset leading stands trailing =>
    rw [Text.trim_append_tail trailing, Text.trim_lead_append leading, Cell.trim_standsFor stands,
      Cell.parse_eq_placeholder_iff.mpr stands] at parsed
    cases parsed
    rw [Text.trim_append_tail trailing, Text.trim_lead_append leading, Cell.trim_ofInt]
    rfl
  | kept other =>
    cases cell with
    | literal text =>
      rw [(Cell.parse_eq_literal_iff.mp parsed).2, Cell.render, FieldValue.chars, String.toList_ofList]
    | placeholder quantity offset =>
      exact absurd ⟨quantity, offset, Cell.parse_eq_placeholder_iff.mp parsed⟩ other

theorem not_mem {mark : Char} (dividing : Text.isInert mark = false)
    (fills : FillsValue frame value filled) (absent : mark ∉ value) : mark ∉ filled := by
  cases fills with
  | @number lead raw tail quantity offset leading stands trailing =>
    have inNumber : mark ∉ Numeral.ofInt (frame.value quantity + offset) :=
      Text.not_mem_of_isInert dividing fun _ => Numeral.isInert_of_mem_ofInt
    simp only [List.mem_append, not_or] at absent ⊢
    exact ⟨⟨absent.1.1, inNumber⟩, absent.2⟩
  | kept => exact absent

end FillsValue

theorem exists_fillsValue (frame : Frame) (value : List Char) : ∃ filled, FillsValue frame value filled := by
  by_cases stands : ∃ quantity offset, Cell.StandsFor (Text.trim value) quantity offset
  · obtain ⟨quantity, offset, stands⟩ := stands
    obtain ⟨lead, tail, leading, trailing, joined⟩ := Text.exists_trim_append value
    have fills : FillsValue frame (lead ++ Text.trim value ++ tail) _ := .number leading stands trailing
    rw [← joined] at fills
    exact ⟨_, fills⟩
  · exact ⟨value, .kept stands⟩

theorem exists_fillsItems (frame : Frame) (items : List (List Char)) :
    ∃ filled, FillsItems frame items filled := by
  induction items using Record.pairs.induct with
  | case1 key value rest ih =>
    obtain ⟨filled, first⟩ := exists_fillsValue frame value
    obtain ⟨filledRest, others⟩ := ih
    exact ⟨_, .pair key first others⟩
  | case2 items fewer =>
    cases items with
    | nil => exact ⟨[], .nil⟩
    | cons item rest =>
      cases rest with
      | nil => exact ⟨[item], .single item⟩
      | cons value rest => exact absurd rfl (fewer item value rest)

namespace FillsItems

variable {items filled : List (List Char)}

theorem not_mem {mark : Char} (dividing : Text.isInert mark = false)
    (fills : FillsItems frame items filled) (absent : ∀ item ∈ items, mark ∉ item) :
    ∀ item ∈ filled, mark ∉ item := by
  induction fills with
  | nil => exact absent
  | single => exact absent
  | pair key first others ih =>
    simp only [List.forall_mem_cons] at absent ⊢
    exact ⟨absent.1, first.not_mem dividing absent.2.1, ih absent.2.2⟩

theorem length_eq (fills : FillsItems frame items filled) : filled.length = items.length := by
  induction fills with
  | nil => rfl
  | single => rfl
  | pair key first others ih => simp [ih]

theorem denotes (fills : FillsItems frame items filled) {fields : List (Key × FieldValue)}
    {cells : List (Key × Cell)}
    (denoted : List.Forall₂ Record.Denotes (Record.pairs items) fields)
    (parsed : List.Forall₂ (fun field cell => Template.parseField field = .ok cell) fields cells) :
    List.Forall₂ Record.Denotes (Record.pairs filled)
      (cells.map fun cell => (cell.1, .text (cell.2.render frame).asText)) := by
  induction fills generalizing fields cells with
  | nil =>
    cases denoted
    cases parsed
    exact .nil
  | single =>
    cases denoted
    cases parsed
    exact .nil
  | @pair value filled rest filledRest key first others ih =>
    cases denoted with
    | @cons _ field _ fields spelled denotedRest =>
      cases parsed with
      | @cons _ cell _ cells read parsedRest =>
        obtain ⟨found, parsed, same⟩ := Checked.map_eq_ok_iff.mp read
        cases same
        rw [spelled.value, FieldValue.chars, String.toList_ofList] at parsed
        have value : (found.render frame).asText = String.ofList (Text.trim filled) := by
          rw [first.trim_eq_render parsed]
          rfl
        exact .cons ⟨spelled.key, congrArg FieldValue.text value⟩ (ih denotedRest parsedRest)

end FillsItems

theorem eq_of_splitOn_eq {piece filled : List Char} (same : piece.splitOn ',' = filled.splitOn ',') :
    piece = filled := by
  calc
    piece = [','].intercalate (piece.splitOn ',') := (List.intercalate_splitOn ',').symm
    _ = [','].intercalate (filled.splitOn ',') := by rw [same]
    _ = filled := List.intercalate_splitOn ','

namespace FillsPiece

variable {piece filled : List Char}

/-- A piece without a comma has no value, so that nothing is filled in. -/
theorem eq_of_blank (fills : FillsPiece frame piece filled)
    (blank : Text.Blank piece ∨ Text.Blank filled) : piece = filled := by
  apply eq_of_splitOn_eq
  have comma {text : List Char} (blank : Text.Blank text) : text.splitOn ',' = [text] :=
    List.splitOn_eq_singleton (blank.not_mem (by decide))
  rw [FillsPiece] at fills
  rcases blank with blank | blank
  · rw [comma blank] at fills ⊢
    generalize filled.splitOn ',' = items at fills ⊢
    cases fills
    rfl
  · rw [comma blank] at fills ⊢
    generalize piece.splitOn ',' = items at fills ⊢
    cases fills
    rfl

theorem all_isBlank_eq (fills : FillsPiece frame piece filled) :
    piece.all Text.isBlank = filled.all Text.isBlank := by
  rw [Bool.eq_iff_iff, List.all_eq_true, List.all_eq_true]
  constructor
  · intro blank
    exact fills.eq_of_blank (.inl blank) ▸ blank
  · intro blank
    exact fills.eq_of_blank (.inr blank) ▸ blank

theorem readsAs (fills : FillsPiece frame piece filled) {record : Record} {template : Template}
    (reads : Record.ReadsAs piece record) (made : Template.ofRecord record = .ok template) :
    Record.ReadsAs filled (template.render frame).printed := by
  obtain ⟨cells, parsed, rfl⟩ := Checked.map_eq_ok_iff.mp made
  obtain ⟨spelling, listed, denoted⟩ := reads
  obtain ⟨even, rfl⟩ := Record.lists_iff.mp listed
  have filledDenoted := FillsItems.denotes fills denoted (Checked.mapM_eq_ok_iff.mp parsed)
  rw [Record.printed, Template.render, List.map_map]
  exact ⟨_, Record.lists_iff.mpr ⟨fills.length_eq ▸ even, rfl⟩, filledDenoted⟩

end FillsPiece

theorem exists_fillsPiece (frame : Frame) {piece : List Char} (whole : ';' ∉ piece) :
    ∃ filled, FillsPiece frame piece filled ∧ ';' ∉ filled := by
  obtain ⟨items, fills⟩ := exists_fillsItems frame (piece.splitOn ',')
  have commas : ∀ item ∈ items, ',' ∉ item :=
    fills.not_mem (by decide) fun item => Pieces.not_mem_of_mem_splitOn
  have semicolons : ∀ item ∈ items, ';' ∉ item :=
    fills.not_mem (by decide) fun item cut inside => whole (Pieces.mem_of_mem_splitOn cut inside)
  have nonempty : items ≠ [] := by
    rw [ne_eq, ← List.length_eq_zero_iff, fills.length_eq, List.length_eq_zero_iff]
    exact List.splitOn_ne_nil ',' piece
  refine ⟨[','].intercalate items, ?_, ?_⟩
  · rwa [FillsPiece, List.splitOn_intercalate ',' commas nonempty]
  · rw [Pieces.mem_intercalate_iff]
    rintro (⟨same, _⟩ | ⟨item, member, inside⟩)
    · exact absurd same (by decide)
    · exact semicolons item member inside

theorem exists_fillsBlock (frame : Frame) (block : List Char) :
    ∃ filled, FillsBlock frame block filled := by
  have each : ∀ piece ∈ block.splitOn ';', ∃ filled, FillsPiece frame piece filled ∧ ';' ∉ filled :=
    fun piece cut => exists_fillsPiece frame (Pieces.not_mem_of_mem_splitOn cut)
  choose! fill fills whole using each
  refine ⟨[';'].intercalate ((block.splitOn ';').map fill), ?_⟩
  have apart : ∀ piece ∈ (block.splitOn ';').map fill, ';' ∉ piece :=
    List.forall_mem_map.mpr whole
  have nonempty : (block.splitOn ';').map fill ≠ [] := by
    simp [List.splitOn_ne_nil]
  rw [FillsBlock, List.splitOn_intercalate ';' apart nonempty, List.forall₂_map_right_iff,
    List.forall₂_same]
  exact fills

namespace FillsBlock

variable {block filled : List Char}

theorem recordPieces (fills : FillsBlock frame block filled) :
    List.Forall₂ (FillsPiece frame) (recordPieces block) (recordPieces filled) := by
  refine List.rel_filter ?_ fills
  intro piece filledPiece related
  simp only [related.all_isBlank_eq]

theorem readsAs (fills : FillsBlock frame block filled) {records : List Record}
    {templates : List Template} (read : parseRecordChars block = .ok records)
    (made : records.mapM Template.ofRecord = .ok templates) :
    parseRecordChars filled = .ok (templates.map fun template => (template.render frame).printed) := by
  rw [parseRecordChars_eq_ok_iff] at read ⊢
  rw [Checked.mapM_eq_ok_iff] at made
  have pieces := fills.recordPieces
  generalize Corridor.recordPieces block = before at read pieces
  generalize Corridor.recordPieces filled = after at pieces ⊢
  induction pieces generalizing records templates with
  | nil =>
    cases read
    cases made
    exact .nil
  | cons piece _ ih =>
    cases read with
    | cons reads others =>
      cases made with
      | cons ofRecord rest => exact .cons (piece.readsAs reads ofRecord) (ih rest others)

end FillsBlock

theorem mem_of_mem_value {text : List Char} {records : List Record}
    (read : parseRecordChars text = .ok records) {record : Record} (present : record ∈ records)
    {field : Key × FieldValue} (member : field ∈ record.fields) : ∀ c ∈ field.2.chars, c ∈ text := by
  obtain ⟨piece, listed, reads⟩ :=
    Checked.exists_of_mem_forall₂ (parseRecordChars_eq_ok_iff.mp read) present
  obtain ⟨token, found, _, chars⟩ :=
    Record.exists_token_of_parseBody
      (Record.parseBody_trim.mp (Record.parseBody_trim_eq_ok_iff.mpr reads)) member
  have cut : piece ∈ text.splitOn ';' := (List.mem_filter.mp listed).1
  intro c inside
  rw [chars] at inside
  exact Pieces.mem_of_mem_splitOn cut ((Record.mem_of_mem_tokens found).2.2 c inside)

namespace Template

variable {block : List Char} {templates : List Template}

theorem render_eq_printed {record : Record} {template : Template}
    (made : ofRecord record = .ok template)
    (braceless : ∀ field ∈ record.fields, Cell.Braceless field.2.chars) (frame : Frame) :
    template.render frame = record.printed := by
  obtain ⟨cells, parsed, rfl⟩ := Checked.map_eq_ok_iff.mp made
  rw [render, Record.printed, Record.mk.injEq]
  apply Checked.map_eq_map_of_mapM parsed
  intro field member cell read
  have literal : Cell.parse field.2.chars = .ok (.literal field.2.asText) :=
    Cell.parse_eq_literal_iff.mpr ⟨braceless field member, rfl⟩
  rw [parseField, literal] at read
  cases read
  rfl

theorem render_of_braceless (braceless : Cell.Braceless block)
    (accepted : parseBlock block = .ok templates) (frame : Frame) :
    parseRecordChars block = .ok (templates.map (render frame)) := by
  obtain ⟨records, read, made⟩ := parseBlock_eq_ok_iff.mp accepted
  have bare : ∀ record ∈ records, ∀ field ∈ record.fields, Cell.Braceless field.2.chars := by
    intro record present field member
    have inside := mem_of_mem_value read present member
    exact ⟨fun brace => braceless.1 (inside _ brace), fun brace => braceless.2 (inside _ brace)⟩
  have rendered : templates.map (render frame) = records.map Record.printed :=
    Checked.map_eq_map_of_mapM made fun record present template filled =>
      render_eq_printed filled (bare record present) frame
  rw [read, rendered, printed_of_parseRecordChars read]

/-- Whatever a block that is accepted becomes when its placeholders are replaced by numbers, it reads as
records that print as the templates do when they are rendered. Without braces, the rendered templates
are the records that the block itself reads as. -/
theorem render_by_filling (accepted : parseBlock block = .ok templates) (frame : Frame) :
    (∃ filled, FillsBlock frame block filled) ∧
    (∀ filled, FillsBlock frame block filled → ∃ records, parseRecordChars filled = .ok records ∧
      records.map Record.asText = templates.map fun template => (template.render frame).asText) ∧
    (Cell.Braceless block → parseRecordChars block = .ok (templates.map (render frame))) := by
  obtain ⟨records, read, made⟩ := parseBlock_eq_ok_iff.mp accepted
  refine ⟨exists_fillsBlock frame block, fun filled fills => ?_, fun braceless => ?_⟩
  · refine ⟨_, fills.readsAs read made, ?_⟩
    simp only [List.map_map, Function.comp_def, Record.asText, Record.chars_printed]
  · exact render_of_braceless braceless accepted frame

def lanternBlock : List Char := "1,7 ,2, \x7bx -500\x7d ;; 3,\x7bmin_height\x7d,31,a b;".toList

def lanternFrame : Frame where
  x := 465
  y := 195
  maxHeight := 195
  minHeight := 45
  corridorHeight := 60

def lanternTemplates : List Template :=
  [⟨[(1, .literal "7"), (2, .placeholder .x (-500))]⟩,
    ⟨[(3, .placeholder .minHeight 0), (31, .literal "a b")]⟩]

def lanternFilled : List Char := "1,7 ,2, -35 ;; 3,45,31,a b;".toList

theorem fillsBlock_lantern : FillsBlock lanternFrame lanternBlock lanternFilled := by
  have literal {value : List Char} (bare : Cell.openBrace ∉ Text.trim value) :
      FillsValue lanternFrame value value :=
    .kept fun ⟨_, _, stands⟩ => bare stands.openBrace_mem
  have shifted : Cell.StandsFor "\x7bx -500\x7d".toList .x (-500) :=
    Cell.parse_eq_placeholder_iff.mp (by decide +kernel)
  have named : Cell.StandsFor "\x7bmin_height\x7d".toList .minHeight 0 :=
    Cell.parse_eq_placeholder_iff.mp (by decide +kernel)
  have space : Text.Blank [' '] := by decide
  have nothing : Text.Blank [] := by decide
  have first : FillsPiece lanternFrame "1,7 ,2, \x7bx -500\x7d ".toList "1,7 ,2, -35 ".toList :=
    .pair ['1'] (literal (by decide)) (.pair ['2'] (.number space shifted space) .nil)
  have second : FillsPiece lanternFrame " 3,\x7bmin_height\x7d,31,a b".toList " 3,45,31,a b".toList :=
    .pair [' ', '3'] (.number nothing named nothing)
      (.pair ['3', '1'] (literal (by decide)) .nil)
  have blank : FillsPiece lanternFrame [] [] := .single []
  have before : lanternBlock.splitOn ';' = ["1,7 ,2, \x7bx -500\x7d ".toList, [],
      " 3,\x7bmin_height\x7d,31,a b".toList, []] := by decide +kernel
  have after : lanternFilled.splitOn ';' = ["1,7 ,2, -35 ".toList, [], " 3,45,31,a b".toList, []] := by
    decide +kernel
  rw [FillsBlock, before, after]
  exact .cons first (.cons blank (.cons second (.cons blank .nil)))

theorem lantern_render_by_filling :
    parseBlock lanternBlock = .ok lanternTemplates ∧
    FillsBlock lanternFrame lanternBlock lanternFilled ∧
    ∃ records, parseRecordChars lanternFilled = .ok records ∧
      records.map Record.asText = ["1,7,2,-35;", "3,45,31,a b;"] := by
  have accepted : parseBlock lanternBlock = .ok lanternTemplates := by decide +kernel
  obtain ⟨_, reads, _⟩ := render_by_filling accepted lanternFrame
  obtain ⟨records, read, printed⟩ := reads lanternFilled fillsBlock_lantern
  refine ⟨accepted, fillsBlock_lantern, records, read, ?_⟩
  rw [printed]
  decide +kernel

end Template

end Corridor
