import Corridor.Theme.Error
/-!
Record templates: records some of whose values are placeholders in braces, such as
an x coordinate with an offset, which are filled in at each segment.
-/
namespace Corridor

inductive Quantity where
  | x
  | y
  | maxHeight
  | minHeight
  | corridorHeight
  deriving DecidableEq, Repr

namespace Quantity

def all : List Quantity := [x, y, maxHeight, minHeight, corridorHeight]

def name : Quantity → String
  | x => "x"
  | y => "y"
  | maxHeight => "max_height"
  | minHeight => "min_height"
  | corridorHeight => "corridor_height"

def ofName? (name : List Char) : Option Quantity :=
  all.find? fun quantity => quantity.name.toList = name

end Quantity

structure Frame where
  x : Int
  y : Int
  maxHeight : Int
  minHeight : Int
  corridorHeight : Int
  deriving DecidableEq, Repr

def Frame.value (frame : Frame) : Quantity → Int
  | .x => frame.x
  | .y => frame.y
  | .maxHeight => frame.maxHeight
  | .minHeight => frame.minHeight
  | .corridorHeight => frame.corridorHeight

inductive Cell where
  | literal (text : String)
  | placeholder (quantity : Quantity) (offset : Int)
  deriving DecidableEq, Repr

namespace Cell

def openBrace : Char := '\x7b'

def closeBrace : Char := '\x7d'

def inner? : List Char → Option (List Char)
  | [] => none
  | first :: rest =>
    if first = openBrace ∧ rest.getLast? = some closeBrace then some rest.dropLast else none

def isSign (c : Char) : Bool := c = '+' || c = '-'

/-- A name, which ends at the first sign, and an offset, which begins there. -/
def ofInner? (inner : List Char) : Option Cell :=
  let name := Text.trim (inner.takeWhile fun c => !isSign c)
  match inner.dropWhile fun c => !isSign c with
  | [] => (Quantity.ofName? name).map fun quantity => placeholder quantity 0
  | signed => do
    let offset ← Numeral.int64? (Text.trim signed)
    let quantity ← Quantity.ofName? name
    some (placeholder quantity offset)

/-- A text without braces is a literal; any other has to be a placeholder. -/
def parse (raw : List Char) : Except ThemeError Cell :=
  if openBrace ∈ raw ∨ closeBrace ∈ raw then
    match (inner? raw).bind ofInner? with
    | some cell => .ok cell
    | none => .error (.badPlaceholder (String.ofList raw))
  else .ok (literal (String.ofList raw))

def render (frame : Frame) : Cell → FieldValue
  | literal text => .text text
  | placeholder quantity offset => .int (frame.value quantity + offset)

end Cell

structure Template where
  fields : List (Key × Cell)
  deriving DecidableEq, Repr

namespace Template

def parseField (field : Key × FieldValue) : Except ThemeError (Key × Cell) :=
  (Cell.parse field.2.chars).map fun cell => (field.1, cell)

def ofRecord (record : Record) : Except ThemeError Template :=
  (record.fields.mapM parseField).map Template.mk

def parseBlock (text : List Char) : Except ThemeError (List Template) :=
  match parseRecordChars text with
  | .error error => .error (.record error)
  | .ok records => records.mapM ofRecord

theorem parseBlock_eq_ok_iff {text : List Char} {templates : List Template} :
    parseBlock text = .ok templates ↔
      ∃ records, parseRecordChars text = .ok records ∧ records.mapM ofRecord = .ok templates := by
  rw [parseBlock]
  cases parseRecordChars text <;> simp

def render (frame : Frame) (template : Template) : Record :=
  ⟨template.fields.map fun (key, cell) => (key, cell.render frame)⟩

end Template
end Corridor
