import Corridor.Text.Blank
import Corridor.Json.Writer
import Corridor.Json.Shape

namespace Corridor

inductive Category where
  | base
  | endUp
  | endDown
  | slope
  | fuzz
  | spike
  | portal
  | speed
  deriving DecidableEq, Repr

namespace Category

def all : List Category := [base, endUp, endDown, slope, fuzz, spike, portal, speed]

def name : Category → String
  | base => "base"
  | endUp => "endup"
  | endDown => "enddown"
  | slope => "slope"
  | fuzz => "fuzz"
  | spike => "spike"
  | portal => "portal"
  | speed => "speed"

def ofName? (name : String) : Option Category :=
  all.find? fun category => category.name = Text.folded name

def ofJson? : Json → Option Category := Json.named? all name

end Category

structure Overrides where
  base : Bool := false
  endUp : Bool := false
  endDown : Bool := false
  slope : Bool := false
  fuzz : Bool := false
  spike : Bool := false
  portal : Bool := false
  speed : Bool := false
  deriving DecidableEq, Repr

namespace Overrides

def contains (overrides : Overrides) : Category → Bool
  | .base => overrides.base
  | .endUp => overrides.endUp
  | .endDown => overrides.endDown
  | .slope => overrides.slope
  | .fuzz => overrides.fuzz
  | .spike => overrides.spike
  | .portal => overrides.portal
  | .speed => overrides.speed

def insert (overrides : Overrides) : Category → Overrides
  | .base => { overrides with base := true }
  | .endUp => { overrides with endUp := true }
  | .endDown => { overrides with endDown := true }
  | .slope => { overrides with slope := true }
  | .fuzz => { overrides with fuzz := true }
  | .spike => { overrides with spike := true }
  | .portal => { overrides with portal := true }
  | .speed => { overrides with speed := true }

def insertAll (overrides : Overrides) (categories : List Category) : Overrides :=
  categories.foldl insert overrides

def ofList (categories : List Category) : Overrides := insertAll {} categories

def toList (overrides : Overrides) : List Category := Category.all.filter overrides.contains

def names (overrides : Overrides) : List String := overrides.toList.map Category.name

def fieldNames : List String :=
  ["base", "end_up", "end_down", "slope", "fuzz", "spike", "portal", "speed"]

def ofJson? (json : Json) : Option Overrides := do
  let fields ← json.fields? fieldNames
  some {
    base := ← Json.optional fields "base" false Json.bool?
    endUp := ← Json.optional fields "end_up" false Json.bool?
    endDown := ← Json.optional fields "end_down" false Json.bool?
    slope := ← Json.optional fields "slope" false Json.bool?
    fuzz := ← Json.optional fields "fuzz" false Json.bool?
    spike := ← Json.optional fields "spike" false Json.bool?
    portal := ← Json.optional fields "portal" false Json.bool?
    speed := ← Json.optional fields "speed" false Json.bool? }

def toJson (overrides : Overrides) : Json :=
  .ofMembers [("base", .bool overrides.base), ("end_up", .bool overrides.endUp),
    ("end_down", .bool overrides.endDown), ("slope", .bool overrides.slope),
    ("fuzz", .bool overrides.fuzz), ("spike", .bool overrides.spike),
    ("portal", .bool overrides.portal), ("speed", .bool overrides.speed)]

theorem contains_insert (overrides : Overrides) (added category : Category) :
    (overrides.insert added).contains category =
      (decide (category = added) || overrides.contains category) := by
  cases added <;> cases category <;> simp [insert, contains]

theorem contains_insertAll (overrides : Overrides) (added : List Category) (category : Category) :
    (overrides.insertAll added).contains category =
      (decide (category ∈ added) || overrides.contains category) := by
  induction added generalizing overrides with
  | nil => simp [insertAll]
  | cons head tail ih =>
    rw [insertAll, List.foldl_cons, ← insertAll, ih, contains_insert]
    by_cases same : category = head <;> simp [same]

theorem ext_contains {first second : Overrides}
    (agree : ∀ category, first.contains category = second.contains category) : first = second := by
  obtain ⟨⟩ := first
  obtain ⟨⟩ := second
  have base := agree .base
  have endUp := agree .endUp
  have endDown := agree .endDown
  have slope := agree .slope
  have fuzz := agree .fuzz
  have spike := agree .spike
  have portal := agree .portal
  have speed := agree .speed
  simp only [contains] at *
  simp [*]

end Overrides
end Corridor
