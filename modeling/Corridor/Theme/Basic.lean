import Corridor.Theme.Rule

namespace Corridor

structure RepeatingPattern where
  id : Int
  records : List Record
  start : Int
  period : Int
  deriving DecidableEq, Repr

/-- A period of zero never comes round. -/
def RepeatingPattern.firesAt (pattern : RepeatingPattern) (x : Int) : Bool :=
  pattern.start ≤ x && pattern.period ≠ 0 && Int.tmod (x - pattern.start) pattern.period = 0

/-- The way that a coordinate is beyond the start has 64 bits. Before the start it is not formed. -/
def RepeatingPattern.fits (pattern : RepeatingPattern) (x : Int) : Bool :=
  x < pattern.start || Numeral.IsInt64 (x - pattern.start)

structure ThemeMetadata where
  name : String := ""
  author : String := ""
  version : String := ""
  pack : String := ""
  kind : String := ""
  description : String := ""
  date : String := ""
  deriving DecidableEq, Repr

structure Theme where
  metadata : ThemeMetadata := {}
  colors : List ColorChannel := []
  rules : List Rule := []
  patterns : List RepeatingPattern := []
  deriving DecidableEq, Repr

structure Evaluation where
  rule : Option Nat
  overrides : List Category
  rendered : List Record
  injected : List RepeatingPattern
  deriving DecidableEq, Repr

def Evaluation.records (evaluation : Evaluation) : List Record :=
  evaluation.rendered ++ evaluation.injected.flatMap RepeatingPattern.records

def FieldValue.fits : FieldValue → Bool
  | .int n => Numeral.IsInt64 n
  | _ => true

def Evaluation.fits (evaluation : Evaluation) : Bool :=
  evaluation.rendered.all fun record => record.fields.all fun field => field.2.fits

def Evaluation.apply (evaluation : Evaluation) (overrides : Overrides) : Overrides :=
  overrides.insertAll evaluation.overrides

namespace Theme

def select (theme : Theme) (window : Window) (index : Nat) : Option Nat :=
  (theme.rules.findIdx? fun rule => !rule.fallback && rule.holds window index).or
    (theme.rules.findIdx? fun rule => rule.fallback && rule.holds window index)

def evaluate (theme : Theme) (window : Window) (index : Nat) (frame : Frame) : Evaluation :=
  let injected := theme.patterns.filter fun pattern => pattern.firesAt frame.x
  match theme.select window index with
  | none => ⟨none, [], [], injected⟩
  | some selected =>
    match theme.rules[selected]? with
    | none => ⟨some selected, [], [], injected⟩
    | some rule => ⟨some selected, rule.overrides, rule.render frame, injected⟩

end Theme
end Corridor
