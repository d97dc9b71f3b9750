import Corridor.Color
import Corridor.Orientation
import Corridor.Record.Parser

namespace Corridor

/-- Rules and their indices count from zero. -/
inductive ThemeError where
  | notJson
  | emptyPattern (rule : Nat)
  | patternTooLong (rule length : Nat)
  | emptyNotPattern (rule : Nat)
  | nonPositivePeriod (rule : Nat) (period : Int)
  | offsetOutOfRange (rule : Nat) (offset period : Int)
  | multipleElseRules (first second : Nat)
  | nonPositiveRepeat (id period : Int)
  | negativeStart (id start : Int)
  | badPlaceholder (text : String)
  | unknownOverride (name : String)
  | record (error : RecordError)
  | color (slot : Nat) (error : ColorError)
  deriving DecidableEq, Repr

def ThemeError.message : ThemeError → String
  | notJson => "theme is not valid JSON"
  | emptyPattern rule => s!"rule {rule} has an empty pattern"
  | patternTooLong rule length =>
    s!"rule {rule} has a pattern of {length} codes, longer than the window ({windowLength})"
  | emptyNotPattern rule => s!"rule {rule} has an empty not-pattern"
  | nonPositivePeriod rule period => s!"rule {rule} has non-positive period {period}"
  | offsetOutOfRange rule offset period => s!"rule {rule} offset {offset} is outside 0..{period}"
  | multipleElseRules first second => s!"rules {first} and {second} are both else rules"
  | nonPositiveRepeat id period => s!"pattern {id} has non-positive repeat {period}"
  | negativeStart id start => s!"pattern {id} has negative start {start}"
  | badPlaceholder text => s!"bad placeholder `{text}`"
  | unknownOverride name => s!"unknown override category `{name}`"
  | record error => error.message
  | color slot error => s!"colour slot {slot}: {error.message}"

end Corridor
