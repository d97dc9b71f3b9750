import Corridor.Level.Json
import Corridor.Theme.Basic
/-!
Theme files: the declarations of a theme as its JSON text gives them, before they are checked.
-/
namespace Corridor

structure ColorEntry where
  slot : Nat
  hex : String
  blending : Bool := false
  opacity : Float := 1.0
  copyColor : Option Nat := none
  special : String := ""
  deriving DecidableEq, Repr

structure RuleEntry where
  pattern : List Orientation := []
  notPatterns : List (List Orientation) := []
  offset : Option Int := none
  notOffsets : List Int := []
  period : Int := 2
  commands : List String := []
  fallback : Bool := false
  deriving DecidableEq, Repr

structure PatternEntry where
  id : Int
  data : String
  start : Int := 195
  period : Int := 300
  deriving DecidableEq, Repr

structure ThemeFile where
  metadata : ThemeMetadata := {}
  colors : List ColorEntry := []
  rules : List RuleEntry := []
  patterns : List PatternEntry := []
  deriving DecidableEq, Repr

def ThemeMetadata.fieldNames : List String :=
  ["name", "author", "version", "pack", "type", "description", "date"]

def ThemeMetadata.ofJson? (json : Json) : Option ThemeMetadata := do
  let fields ← json.fields? fieldNames
  some {
    name := ← Json.optional fields "name" "" Json.text?
    author := ← Json.optional fields "author" "" Json.text?
    version := ← Json.optional fields "version" "" Json.text?
    pack := ← Json.optional fields "pack" "" Json.text?
    kind := ← Json.optional fields "type" "" Json.text?
    description := ← Json.optional fields "description" "" Json.text?
    date := ← Json.optional fields "date" "" Json.text? }

def ColorEntry.fieldNames : List String :=
  ["slot", "hex", "blending", "opacity", "copy_color", "special"]

def ColorEntry.ofJson? (json : Json) : Option ColorEntry := do
  let fields ← json.fields? fieldNames
  some {
    slot := ← Json.required fields "slot" (Json.nat? Numeral.maxNat32)
    hex := ← Json.required fields "hex" Json.text?
    blending := ← Json.optional fields "blending" false Json.bool?
    opacity := ← Json.optional fields "opacity" 1.0 Json.float?
    copyColor := ← Json.optional fields "copy_color" none (Json.nullable? (Json.nat? Numeral.maxNat32))
    special := ← Json.optional fields "special" "" Json.text? }

def RuleEntry.fieldNames : List String :=
  ["pattern", "not_patterns", "offset", "not_offsets", "period", "commands", "else"]

def RuleEntry.ofJson? (json : Json) : Option RuleEntry := do
  let fields ← json.fields? fieldNames
  some {
    pattern := ← Json.optional fields "pattern" [] (Json.list? Orientation.ofJson?)
    notPatterns := ← Json.optional fields "not_patterns" []
      (Json.list? (Json.list? Orientation.ofJson?))
    offset := ← Json.optional fields "offset" none (Json.nullable? Json.int64?)
    notOffsets := ← Json.optional fields "not_offsets" [] (Json.list? Json.int64?)
    period := ← Json.optional fields "period" 2 Json.int64?
    commands := ← Json.optional fields "commands" [] (Json.list? Json.text?)
    fallback := ← Json.optional fields "else" false Json.bool? }

def PatternEntry.fieldNames : List String := ["id", "data", "start", "repeat"]

def PatternEntry.ofJson? (json : Json) : Option PatternEntry := do
  let fields ← json.fields? fieldNames
  some {
    id := ← Json.required fields "id" Json.int64?
    data := ← Json.required fields "data" Json.text?
    start := ← Json.optional fields "start" 195 Json.int64?
    period := ← Json.optional fields "repeat" 300 Json.int64? }

def ThemeFile.fieldNames : List String := ["metadata", "colors", "rules", "patterns"]

def ThemeFile.ofJson? (json : Json) : Option ThemeFile := do
  let fields ← json.fields? fieldNames
  some {
    metadata := ← Json.optional fields "metadata" {} ThemeMetadata.ofJson?
    colors := ← Json.optional fields "colors" [] (Json.list? ColorEntry.ofJson?)
    rules := ← Json.optional fields "rules" [] (Json.list? RuleEntry.ofJson?)
    patterns := ← Json.optional fields "patterns" [] (Json.list? PatternEntry.ofJson?) }

def ThemeFile.parse? (text : String) : Option ThemeFile := (Json.parse? text).bind ofJson?

end Corridor
