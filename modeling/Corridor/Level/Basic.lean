/-!
Levels: biomes, each a corridor of segments on a grid. All coordinates are in level units.
-/
namespace Corridor

def grid : Int := 30

def maxLength : Int := 100000

inductive Swing where
  | up
  | down
  | neutral
  deriving DecidableEq, Repr

namespace Swing

def all : List Swing := [up, down, neutral]

def name : Swing → String
  | up => "up"
  | down => "down"
  | neutral => "neutral"

def sign : Swing → Int
  | up => 1
  | down => -1
  | neutral => 0

def reverse : Swing → Swing
  | up => down
  | down => up
  | neutral => neutral

end Swing

inductive PortalKind where
  | absent
  | gravity
  | fake
  deriving DecidableEq, Repr

namespace PortalKind

def all : List PortalKind := [absent, gravity, fake]

def name : PortalKind → String
  | absent => "none"
  | gravity => "gravity"
  | fake => "fake"

end PortalKind

inductive SpeedChange where
  | absent
  | half
  | normal
  | double
  | triple
  | quadruple
  deriving DecidableEq, Repr

namespace SpeedChange

def all : List SpeedChange := [absent, half, normal, double, triple, quadruple]

def name : SpeedChange → String
  | absent => "none"
  | half => "0.5x"
  | normal => "1x"
  | double => "2x"
  | triple => "3x"
  | quadruple => "4x"

end SpeedChange

inductive WaveSize where
  | normal
  | mini
  deriving DecidableEq, Repr

namespace WaveSize

def all : List WaveSize := [normal, mini]

def name : WaveSize → String
  | normal => "normal"
  | mini => "mini"

end WaveSize

inductive ColorMode where
  | normal
  | night
  deriving DecidableEq, Repr

namespace ColorMode

def all : List ColorMode := [normal, night]

def name : ColorMode → String
  | normal => "normal"
  | night => "night"

end ColorMode

inductive Visibility where
  | normal
  | low
  deriving DecidableEq, Repr

namespace Visibility

def all : List Visibility := [normal, low]

def name : Visibility → String
  | normal => "normal"
  | low => "low"

end Visibility

structure SegmentOptions where
  portal : PortalKind := .absent
  gravity : Bool := false
  speedChange : SpeedChange := .absent
  spike : Bool := false
  spikeSide : Bool := false
  fuzzy : Bool := false
  deriving DecidableEq, Repr

structure Segment where
  x : Int
  y : Int
  swing : Swing := .neutral
  options : SegmentOptions := {}
  deriving DecidableEq, Repr

structure BiomeOptions where
  corridorHeight : Int := 60
  startingSpeed : SpeedChange := .normal
  startingSize : WaveSize := .normal
  colorMode : ColorMode := .normal
  visibility : Visibility := .normal
  startingGravity : Bool := false
  length : Int := 0
  minHeight : Int := 45
  maxHeight : Int := 195
  deriving DecidableEq, Repr

structure Biome where
  options : BiomeOptions := {}
  xInitial : Int := 465
  yInitial : Int := 195
  segments : List Segment := []
  deriving DecidableEq, Repr

def Biome.ofSegments (options : BiomeOptions) (segments : List Segment) : Biome :=
  match segments with
  | [] => ⟨options, 465, 195, []⟩
  | first :: rest => ⟨options, first.x, first.y, first :: rest⟩

structure Level where
  seed : Nat := 0
  song : Int := 0
  biomes : List Biome := []
  deriving DecidableEq, Repr

end Corridor
