import Corridor.Override
import Corridor.Text.Control
/-!
The refusal of a category: its text in colours, and the message that is left of it where no
terminal shows colours.
-/
namespace Corridor.CommandLine

def styled (style text : String) : String := style ++ text ++ "\x1b[0m"

def bold (text : String) : String := styled "\x1b[1m" text

/-- The whole text, which names the category twice. -/
def refusal (name : String) : String :=
  let known := ", ".intercalate (Category.all.map Category.name)
  styled "\x1b[1m\x1b[31m" "error:" ++ " invalid value '" ++ styled "\x1b[33m" name ++ "' for '" ++
    bold "--override <CATEGORY>" ++
    s!"': unknown category `{name}` (expected one of: {known})\n\n" ++
    "For more information, try '" ++ bold "--help" ++ "'.\n"

def line : List Char → List Char
  | [] => []
  | '\n' :: _ => []
  | '\r' :: '\n' :: _ => []
  | c :: rest => c :: line rest

def lineFrom? (phrase : List Char) : List Char → Option (List Char)
  | [] => none
  | c :: rest =>
    if phrase.isPrefixOf (c :: rest) then some (line (c :: rest)) else lineFrom? phrase rest

/-- What is unknown, as far as its line goes. -/
def refusalMessage? (name : String) : Option String :=
  (lineFrom? "unknown category ".toList (Text.visible (refusal name).toList)).map String.ofList

end Corridor.CommandLine
