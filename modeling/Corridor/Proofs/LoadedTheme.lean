import Corridor.Proofs.ParsedRecord
import Corridor.Proofs.PlaceholderGrammar
import Corridor.Proofs.Declared

namespace Corridor

structure Theme.Printable (theme : Theme) : Prop where
  rules : ∀ rule ∈ theme.rules, ∀ frame, ∀ record ∈ rule.render frame, record.Printable
  patterns : ∀ pattern ∈ theme.patterns, ∀ record ∈ pattern.records, record.Printable

namespace Cell

theorem printable_render {value : FieldValue} {cell : Cell} (printable : value.Printable)
    (parsed : parse value.chars = .ok cell) (frame : Frame) : (cell.render frame).Printable := by
  cases cell with
  | placeholder quantity offset => exact FieldValue.printable_int _
  | literal text =>
    have same : (render frame (literal text)).chars = value.chars := by
      rw [render, FieldValue.chars, (parse_eq_literal_iff.mp parsed).2, String.toList_ofList]
    constructor
    · rw [same]
      exact printable.comma
    · rw [same]
      exact printable.semicolon
    · rw [same]
      exact printable.trimmed

end Cell

namespace Template

theorem printable_render {record : Record} {template : Template} (printable : record.Printable)
    (parsed : ofRecord record = .ok template) (frame : Frame) : (template.render frame).Printable := by
  obtain ⟨fields, matched, rfl⟩ := Checked.map_eq_ok_iff.mp parsed
  constructor
  · intro empty
    have none_left : fields = [] := List.map_eq_nil_iff.mp empty
    have matched := Checked.mapM_eq_ok_iff.mp matched
    rw [none_left, List.forall₂_nil_right_iff] at matched
    exact printable.fields_ne_nil matched
  · intro field member
    obtain ⟨⟨key, cell⟩, present, rfl⟩ := List.mem_map.mp member
    obtain ⟨source, listed, read⟩ := Checked.exists_of_mem_mapM matched present
    obtain ⟨found, read, same⟩ := Checked.map_eq_ok_iff.mp read
    cases same
    exact Cell.printable_render (printable.values source listed) read frame

theorem printable_of_parseBlock {text : List Char} {templates : List Template}
    (parsed : parseBlock text = .ok templates) (frame : Frame) :
    ∀ template ∈ templates, (template.render frame).Printable := by
  obtain ⟨records, read, made⟩ := parseBlock_eq_ok_iff.mp parsed
  intro template member
  obtain ⟨record, present, filled⟩ := Checked.exists_of_mem_mapM made member
  exact printable_render (printable_of_parseRecordChars read record present) filled frame

end Template

theorem Command.printable_of_parse {text : String} {command : Command}
    (parsed : parse text = .ok command) (frame : Frame) :
    ∀ record ∈ command.render frame, record.Printable := by
  rw [parse, parseChars] at parsed
  split at parsed
  · split at parsed
    · cases parsed
      simp
    · cases parsed
  · obtain ⟨templates, read, rfl⟩ := Checked.map_eq_ok_iff.mp parsed
    rw [render_records]
    intro record member
    obtain ⟨template, present, rfl⟩ := List.mem_map.mp member
    exact Template.printable_of_parseBlock read frame template present

theorem RuleEntry.printable_of_gives {entry : RuleEntry} {rule : Rule} (given : entry.Gives rule)
    (frame : Frame) : ∀ record ∈ rule.render frame, record.Printable := by
  obtain ⟨commands, parsed, rfl⟩ := given
  intro record member
  obtain ⟨command, present, placed⟩ := List.mem_flatMap.mp member
  obtain ⟨text, _, read⟩ := Checked.exists_of_mem_mapM parsed present
  exact Command.printable_of_parse read frame record placed

theorem PatternEntry.printable_of_gives {entry : PatternEntry} {pattern : RepeatingPattern}
    (given : entry.Gives pattern) : ∀ record ∈ pattern.records, record.Printable := by
  obtain ⟨records, read, rfl⟩ := given
  exact printable_of_parseRecordChars read

namespace Theme

theorem printable_of_ofFile {file : ThemeFile} {theme : Theme} (loaded : ofFile file = .ok theme) :
    theme.Printable := by
  have kept := keeps_of_ofFile loaded
  constructor
  · intro rule member frame
    obtain ⟨entry, _, given⟩ := Checked.exists_of_mem_forall₂ kept.rules member
    exact RuleEntry.printable_of_gives given frame
  · intro pattern member
    obtain ⟨entry, _, given⟩ := Checked.exists_of_mem_forall₂ kept.patterns member
    exact PatternEntry.printable_of_gives given

theorem printable_of_parse {text : String} {theme : Theme} (loaded : parse text = .ok theme) :
    theme.Printable := by
  rw [parse] at loaded
  split at loaded
  · cases loaded
  · exact printable_of_ofFile loaded

end Theme
end Corridor
