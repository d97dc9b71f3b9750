import Corridor.Text.Blank
import Corridor.Level.Json

namespace Corridor

structure Settings where
  cornerPieces : Bool := true
  meterMarks : Bool := true
  markerInterval : Int := 100
  activeTheme : String := "none"
  deriving DecidableEq, Repr

inductive SettingsError where
  | negativeMarkerInterval (interval : Int)
  | invalidThemeName (name : String)
  deriving DecidableEq, Repr

def SettingsError.message : SettingsError → String
  | negativeMarkerInterval interval => s!"marker interval must not be negative, got {interval}"
  | invalidThemeName name =>
    s!"theme name `{name}` may only contain letters, digits, `-` and `_`"

def isThemeNameChar (c : Char) : Bool := c.isAlphanum || c = '-' || c = '_'

namespace Settings

def themeName (settings : Settings) : List Char := Text.trim settings.activeTheme.toList

def marksEnabled (settings : Settings) : Bool := settings.meterMarks && 0 < settings.markerInterval

def hasTheme (settings : Settings) : Bool :=
  settings.themeName ≠ [] && Text.lower settings.themeName ≠ ['n', 'o', 'n', 'e']

def errors (settings : Settings) : List SettingsError :=
  (if settings.markerInterval < 0 then [.negativeMarkerInterval settings.markerInterval] else []) ++
  (if settings.themeName.all isThemeNameChar then [] else [.invalidThemeName settings.activeTheme])

def fieldNames : List String := ["corner_pieces", "meter_marks", "marker_interval", "active_theme"]

def ofJson? (json : Json) : Option Settings := do
  let fields ← json.fields? fieldNames
  some {
    cornerPieces := ← Json.optional fields "corner_pieces" true Json.bool?
    meterMarks := ← Json.optional fields "meter_marks" true Json.bool?
    markerInterval := ← Json.optional fields "marker_interval" 100 Json.int64?
    activeTheme := ← Json.optional fields "active_theme" "none" Json.text? }

def toJson (settings : Settings) : Json :=
  .ofMembers [("corner_pieces", .bool settings.cornerPieces),
    ("meter_marks", .bool settings.meterMarks),
    ("marker_interval", .ofInt settings.markerInterval),
    ("active_theme", .ofText settings.activeTheme)]

end Settings
end Corridor
