import Corridor.Text.Blank
import Corridor.Json.Shape
import Corridor.Level.Basic
/-!
Orientation codes: each segment of a biome is classified by one code, and a window holds the latest.
-/
namespace Corridor

inductive Orientation where
  | absent
  | base
  | endDown
  | endUp
  | slope
  | fuzz
  | spike
  | portal
  | speed
  deriving DecidableEq, Repr

namespace Orientation

def all : List Orientation := [absent, base, endDown, endUp, slope, fuzz, spike, portal, speed]

def id : Orientation → Nat
  | absent => 0
  | base => 1
  | endDown => 2
  | endUp => 3
  | slope => 4
  | fuzz => 5
  | spike => 6
  | portal => 7
  | speed => 8

def ofId? (id : Nat) : Option Orientation := all[id]?

def name : Orientation → String
  | absent => "none"
  | base => "base"
  | endDown => "enddown"
  | endUp => "endup"
  | slope => "slope"
  | fuzz => "fuzz"
  | spike => "spike"
  | portal => "portal"
  | speed => "speed"

def ofName? (name : String) : Option Orientation :=
  all.find? fun code => code.name = Text.folded name

def label : Orientation → String
  | absent => "None"
  | base => "Base"
  | endDown => "EndDown"
  | endUp => "EndUp"
  | slope => "Slope"
  | fuzz => "Fuzz"
  | spike => "Spike"
  | portal => "Portal"
  | speed => "Speed"

def ofJson? : Json → Option Orientation
  | .number n => (Json.nat? 255 (.number n)).bind ofId?
  | .string (some name) => ofName? name
  | _ => none

end Orientation

def SegmentOptions.feature (options : SegmentOptions) : Orientation :=
  if options.portal ≠ .absent then .portal
  else if options.speedChange ≠ .absent then .speed
  else if options.spike then .spike
  else if options.fuzzy then .fuzz
  else .slope

/-- The code of the segment at `index` out of `count`: the first is the base, a last one that is not
neutral is an end, and all others go by their features. -/
def Segment.orientation (segment : Segment) (index count : Nat) : Orientation :=
  if index = 0 then .base
  else if index + 1 = count then
    match segment.swing with
    | .up => .endUp
    | .down => .endDown
    | .neutral => segment.options.feature
  else segment.options.feature

def windowLength : Nat := 11

structure Window where
  codes : List Orientation
  length_codes : codes.length = windowLength
  deriving DecidableEq, Repr

namespace Window

def empty : Window := ⟨List.replicate windowLength .absent, List.length_replicate⟩

def push (window : Window) (code : Orientation) : Window :=
  ⟨window.codes.tail ++ [code], by
    have nonempty : 0 < window.codes.length := by rw [window.length_codes]; decide
    simp [window.length_codes, windowLength]⟩

def ofHistory (codes : List Orientation) : Window := codes.foldl push empty

def last (window : Window) : Orientation := window.codes.getLast?.getD .absent

def endsWith (window : Window) (pattern : List Orientation) : Bool :=
  pattern.isSuffixOf window.codes

theorem endsWith_iff (window : Window) (pattern : List Orientation) :
    window.endsWith pattern = true ↔ pattern <:+ window.codes := by
  rw [endsWith, List.isSuffixOf_iff_suffix]

theorem last_push (window : Window) (code : Orientation) : (window.push code).last = code := by
  simp [last, push]

end Window
end Corridor
