import Corridor.Override
import Corridor.Theme.Template

namespace Corridor

inductive Command where
  | override (category : Category)
  | records (templates : List Template)
  deriving DecidableEq, Repr

namespace Command

def overrideName? : List Char → Option (List Char)
  | 'o' :: 'v' :: 'e' :: 'r' :: 'r' :: 'i' :: 'd' :: 'e' :: mark :: name =>
    if mark = ':' ∨ mark = '-' then some name else none
  | _ => none

def parseChars (text : List Char) : Except ThemeError Command :=
  let text := Text.trim text
  match overrideName? text with
  | some name =>
    match Category.ofName? (String.ofList name) with
    | some category => .ok (override category)
    | none => .error (.unknownOverride (String.ofList name))
  | none => (Template.parseBlock text).map records

def parse (text : String) : Except ThemeError Command := parseChars text.toList

def category? : Command → Option Category
  | override category => some category
  | records _ => none

def render (frame : Frame) : Command → List Record
  | override _ => []
  | records templates => templates.map (Template.render frame)

@[simp] theorem category?_override (category : Category) :
    (override category).category? = some category := rfl

@[simp] theorem category?_records (templates : List Template) :
    (records templates).category? = none := rfl

@[simp] theorem render_override (frame : Frame) (category : Category) :
    (override category).render frame = [] := rfl

@[simp] theorem render_records (frame : Frame) (templates : List Template) :
    (records templates).render frame = templates.map (Template.render frame) := rfl

end Command

/-- A condition on the window and the index of a segment. A period of zero constrains nothing. -/
inductive Condition where
  | suffix (codes : List Orientation)
  | notSuffix (codes : List Orientation)
  | residue (period residue : Nat)
  | notResidue (period : Nat) (residues : List Nat)
  deriving DecidableEq, Repr

def Condition.holds (window : Window) (index : Nat) : Condition → Bool
  | suffix codes => window.endsWith codes
  | notSuffix codes => !window.endsWith codes
  | residue period rest => period = 0 || index % period = rest
  | notResidue period residues => period = 0 || !residues.contains (index % period)

/-- A fallback rule comes into play only where no other rule matches. -/
structure Rule where
  conditions : List Condition
  commands : List Command
  fallback : Bool
  deriving DecidableEq, Repr

namespace Rule

def holds (rule : Rule) (window : Window) (index : Nat) : Bool :=
  rule.conditions.all (Condition.holds window index)

def overrides (rule : Rule) : List Category := rule.commands.filterMap Command.category?

def render (frame : Frame) (rule : Rule) : List Record :=
  rule.commands.flatMap (Command.render frame)

end Rule
end Corridor
