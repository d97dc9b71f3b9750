import Corridor.Json.Shape
import Corridor.Json.Writer
import Corridor.Json.Reader
import Corridor.Level.Basic

namespace Corridor

def Swing.ofJson? : Json → Option Swing := Json.named? all name

def PortalKind.ofJson? : Json → Option PortalKind := Json.named? all name

def SpeedChange.ofJson? : Json → Option SpeedChange := Json.named? all name

def WaveSize.ofJson? : Json → Option WaveSize := Json.named? all name

def ColorMode.ofJson? : Json → Option ColorMode := Json.named? all name

def Visibility.ofJson? : Json → Option Visibility := Json.named? all name

namespace SegmentOptions

def fieldNames : List String := ["portal", "gravity", "speed_change", "spike", "spike_side", "fuzzy"]

def ofJson? (json : Json) : Option SegmentOptions := do
  let fields ← json.fields? fieldNames
  some {
    portal := ← Json.optional fields "portal" .absent PortalKind.ofJson?
    gravity := ← Json.optional fields "gravity" false Json.bool?
    speedChange := ← Json.optional fields "speed_change" .absent SpeedChange.ofJson?
    spike := ← Json.optional fields "spike" false Json.bool?
    spikeSide := ← Json.optional fields "spike_side" false Json.bool?
    fuzzy := ← Json.optional fields "fuzzy" false Json.bool? }

def members (options : SegmentOptions) : List (String × Json) :=
  [("portal", .ofText options.portal.name), ("gravity", .bool options.gravity),
    ("speed_change", .ofText options.speedChange.name), ("spike", .bool options.spike),
    ("spike_side", .bool options.spikeSide), ("fuzzy", .bool options.fuzzy)]

def toJson (options : SegmentOptions) : Json := .ofMembers options.members

end SegmentOptions

namespace Segment

def fieldNames : List String := ["x", "y", "swing", "options"]

def ofJson? (json : Json) : Option Segment := do
  let fields ← json.fields? fieldNames
  some {
    x := ← Json.required fields "x" Json.int32?
    y := ← Json.required fields "y" Json.int32?
    swing := ← Json.optional fields "swing" .neutral Swing.ofJson?
    options := ← Json.optional fields "options" {} SegmentOptions.ofJson? }

def members (segment : Segment) : List (String × Json) :=
  [("x", .ofInt segment.x), ("y", .ofInt segment.y), ("swing", .ofText segment.swing.name),
    ("options", segment.options.toJson)]

def toJson (segment : Segment) : Json := .ofMembers segment.members

end Segment

namespace BiomeOptions

def fieldNames : List String :=
  ["corridor_height", "starting_speed", "starting_size", "color_mode", "visibility",
    "starting_gravity", "length", "min_height", "max_height"]

def ofJson? (json : Json) : Option BiomeOptions := do
  let fields ← json.fields? fieldNames
  some {
    corridorHeight := ← Json.optional fields "corridor_height" 60 Json.int32?
    startingSpeed := ← Json.optional fields "starting_speed" .normal SpeedChange.ofJson?
    startingSize := ← Json.optional fields "starting_size" .normal WaveSize.ofJson?
    colorMode := ← Json.optional fields "color_mode" .normal ColorMode.ofJson?
    visibility := ← Json.optional fields "visibility" .normal Visibility.ofJson?
    startingGravity := ← Json.optional fields "starting_gravity" false Json.bool?
    length := ← Json.optional fields "length" 0 Json.int64?
    minHeight := ← Json.optional fields "min_height" 45 Json.int32?
    maxHeight := ← Json.optional fields "max_height" 195 Json.int32? }

def members (options : BiomeOptions) : List (String × Json) :=
  [("corridor_height", .ofInt options.corridorHeight),
    ("starting_speed", .ofText options.startingSpeed.name),
    ("starting_size", .ofText options.startingSize.name),
    ("color_mode", .ofText options.colorMode.name),
    ("visibility", .ofText options.visibility.name),
    ("starting_gravity", .bool options.startingGravity),
    ("length", .ofInt options.length),
    ("min_height", .ofInt options.minHeight),
    ("max_height", .ofInt options.maxHeight)]

def toJson (options : BiomeOptions) : Json := .ofMembers options.members

end BiomeOptions

namespace Biome

def fieldNames : List String := ["options", "x_initial", "y_initial", "segments"]

def ofJson? (json : Json) : Option Biome := do
  let fields ← json.fields? fieldNames
  some {
    options := ← Json.optional fields "options" {} BiomeOptions.ofJson?
    xInitial := ← Json.optional fields "x_initial" 465 Json.int32?
    yInitial := ← Json.optional fields "y_initial" 195 Json.int32?
    segments := ← Json.optional fields "segments" [] (Json.list? Segment.ofJson?) }

def members (biome : Biome) : List (String × Json) :=
  [("options", biome.options.toJson), ("x_initial", .ofInt biome.xInitial),
    ("y_initial", .ofInt biome.yInitial), ("segments", .ofList Segment.toJson biome.segments)]

def toJson (biome : Biome) : Json := .ofMembers biome.members

end Biome

namespace Level

def fieldNames : List String := ["seed", "song", "biomes"]

def ofJson? (json : Json) : Option Level := do
  let fields ← json.fields? fieldNames
  some {
    seed := ← Json.optional fields "seed" 0 (Json.nat? Numeral.maxNat64)
    song := ← Json.optional fields "song" 0 Json.int32?
    biomes := ← Json.optional fields "biomes" [] (Json.list? Biome.ofJson?) }

def members (level : Level) : List (String × Json) :=
  [("seed", .ofNat level.seed), ("song", .ofInt level.song),
    ("biomes", .ofList Biome.toJson level.biomes)]

def toJson (level : Level) : Json := .ofMembers level.members

def parse? (text : String) : Option Level := (Json.parse? text).bind ofJson?

def text (level : Level) : String := level.toJson.text

end Level
end Corridor
