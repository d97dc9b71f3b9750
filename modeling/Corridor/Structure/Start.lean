import Corridor.Catalogue
import Corridor.Level.Basic
import Corridor.Structure.Block

namespace Corridor

/-- The trigger of a speed; without a change of speed that of the triple one. -/
def SpeedChange.triggerId : SpeedChange → Nat
  | .half => ObjectId.speedHalf
  | .normal => ObjectId.speedNormal
  | .double => ObjectId.speedDouble
  | .quadruple => ObjectId.speedQuadruple
  | .triple => ObjectId.speedTriple
  | .absent => ObjectId.speedTriple

namespace Structure

def solidBlock (x y : Int) : Record :=
  Record.ofId ObjectId.solidBlock |>.placedAt (.int x) (.int y) |>.plain

def baseBlocks : List Record :=
  ((List.range 14).map fun (column : Nat) => solidBlock (15 + grid * column) 15) ++
  ((List.range 6).map fun (row : Nat) => solidBlock 435 (15 + grid * row))

def connectorHeights (corridorHeight : Int) : List Int :=
  (List.range 5).map fun (row : Nat) => 165 + grid * row + corridorHeight

def startingConnectors (corridorHeight : Int) : List Record :=
  (connectorHeights corridorHeight).map (solidBlock 435)

def startingSpeed (speed : SpeedChange) : Record :=
  Record.ofId speed.triggerId |>.placedAt (.int 255) (.int 165)
    |>.field Key.touchTriggered (.int 1) |>.plain

def start (options : BiomeOptions) : List Block :=
  [.of .base (baseBlocks ++ startingConnectors options.corridorHeight)
      (connectorHeights options.corridorHeight),
    .fixed [startingSpeed options.startingSpeed]]

end Structure
end Corridor
