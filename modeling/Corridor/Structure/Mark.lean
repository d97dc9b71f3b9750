import Corridor.Settings
import Corridor.Base64
import Corridor.Structure.Start

namespace Corridor.Structure

def tickHeight : Nat → Float
  | 0 => 15.5
  | row + 1 => tickHeight row + 30.0

def tick (meters : Int) (row : Nat) : Record :=
  Record.ofId ObjectId.meterTick
    |>.placedAt (.int (345 + meters * grid)) (.float (tickHeight row))
    |>.field Key.editorLayer (.int 1) |>.field Key.group (.int Group.markers)
    |>.rotation (-90) |>.plain |>.field Key.colorChannel (.int Channel.marker)
    |>.zLayer 12 |>.field Key.zLayerOffset (.int 1) |>.field Key.zOrder (.int 11)

def labelText (meters : Int) : String :=
  Base64.encodeText (String.ofList (Numeral.ofInt meters ++ ['m']))

def label (meters : Int) : Record :=
  Record.ofId ObjectId.textLabel
    |>.placedAt (.int (375 + meters * grid)) (.int 21)
    |>.field Key.editorLayer (.int 1) |>.field Key.group (.int Group.markers)
    |>.scale 0.62 |>.field Key.colorChannel (.int Channel.marker)
    |>.field Key.text (.text (labelText meters))
    |>.zLayer 12 |>.field Key.zLayerOffset (.int 1) |>.plain |>.field Key.zOrder (.int 11)

def mark (meters : Int) : List Record := (List.range 10).map (tick meters) ++ [label meters]

/-- The number of marks: every whole interval within the length, up to the greatest length. -/
def markCount (length interval : Int) : Nat := ((min length maxLength).tdiv interval).toNat

def marks (options : BiomeOptions) (settings : Settings) : List Record :=
  if settings.marksEnabled then
    (List.range (markCount options.length settings.markerInterval)).flatMap fun (step : Nat) =>
      mark (settings.markerInterval * (step + 1))
  else []

def haze : Record :=
  Record.ofId ObjectId.alphaTrigger |>.placedAt (.int 285) (.int 255)
    |>.field Key.targetGroup (.int Group.haze) |>.field Key.opacity (.float 0.55)
    |>.field Key.duration (.int 0) |>.plain

def startingPortal : Record :=
  Record.ofId ObjectId.gravityUpPortal |>.placedAt (.int 299) (.int 99) |>.rotation 45 |>.scale 0.57

def overlays (options : BiomeOptions) : List Record :=
  (if options.visibility = .low then [haze] else []) ++
  (if options.startingGravity then [startingPortal] else [])

end Corridor.Structure
