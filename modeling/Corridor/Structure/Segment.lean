import Corridor.Settings
import Corridor.Structure.Site
import Corridor.Structure.Start

namespace Corridor.Structure

def gravityPortalId (gravity : Bool) : Nat :=
  if gravity then ObjectId.gravityUpPortal else ObjectId.gravityDownPortal

def walls (options : BiomeOptions) (segment : Segment) : List Record :=
  let up : Bool := segment.swing = .up
  match options.startingSize with
  | .mini =>
    let piece (y rotation : Int) : Record :=
      Record.ofId ObjectId.miniSlope |>.placedAt (.int segment.x) (.int y) |>.rotation rotation
        |>.field Key.flipX (.int (if up then 1 else 0)) |>.plain
    [piece (segment.y - 15) 90, piece (segment.y + 15 + options.corridorHeight) (-90)]
  | .normal =>
    let piece (y rotation : Int) : Record :=
      Record.ofId ObjectId.slope |>.placedAt (.int segment.x) (.int y) |>.rotation rotation |>.plain
    [piece segment.y (if up then 0 else 90),
      piece (segment.y + options.corridorHeight) (if up then 180 else 270)]

def wallSums (options : BiomeOptions) (segment : Segment) : List Int :=
  match options.startingSize with
  | .mini => [segment.y - 15, segment.y + 15, segment.y + 15 + options.corridorHeight]
  | .normal => [segment.y + options.corridorHeight]

def corners (options : BiomeOptions) (segment : Segment) (previous : Swing) : List Record :=
  let corner (x y : Int) : Record := Record.ofId ObjectId.corner |>.placedAt (.int x) (.int y)
  match previous, segment.swing with
  | .up, .down =>
    let y := segment.y + options.corridorHeight + grid
    [corner (segment.x - grid) y |>.rotation (-180), corner segment.x y |>.rotation (-90) |>.plain]
  | .down, .up =>
    let y := segment.y - grid
    [corner (segment.x - grid) y |>.rotation 90, corner segment.x y |>.plain]
  | _, _ => []

def cornerSums (options : BiomeOptions) (segment : Segment) (previous : Swing) : List Int :=
  match previous, segment.swing with
  | .up, .down =>
    let ceiling := segment.y + options.corridorHeight
    [ceiling, ceiling + grid, segment.x - grid]
  | .down, .up => [segment.y - grid, segment.x - grid]
  | _, _ => []

/-- The first two segments have no corners. -/
def cornersAt (options : BiomeOptions) (settings : Settings) (site : Site) : List Record :=
  if 1 < site.index ∧ settings.cornerPieces then
    match site.previous with
    | some previous => corners options site.segment previous
    | none => []
  else []

def cornerSumsAt (options : BiomeOptions) (settings : Settings) (site : Site) : List Int :=
  if 1 < site.index ∧ settings.cornerPieces then
    match site.previous with
    | some previous => cornerSums options site.segment previous
    | none => []
  else []

def heightRatio (options : BiomeOptions) : Float := Float.ofInt options.corridorHeight / 60.0

/-- A portal that faces up iff `facing` is 1, shifted upwards. -/
def portalPiece (options : BiomeOptions) (segment : Segment) (id : Nat) (facing shift : Int) : Record :=
  let height := options.corridorHeight
  let normal := height.tdiv 10
  let position := height.tdiv 4
  let rise := if facing = 1 then normal + position - 15 else height + 15 - normal - position
  Record.ofId id
    |>.placedAt (.int (segment.x - 15 - normal + position)) (.int (segment.y + shift + rise))
    |>.rotation (if facing = 1 then 45 else -45)
    |>.scale (heightRatio options * 1.414 / 2.5) |>.plain

def portalSums (options : BiomeOptions) (segment : Segment) (facing shift : Int) : List Int :=
  let height := options.corridorHeight
  let normal := height.tdiv 10
  let position := height.tdiv 4
  let rise := if facing = 1 then normal + position - 15 else height + 15 - normal - position
  (if facing = 1 then [normal + position, normal + position - 15]
    else [height + 15, height + 15 - normal, height + 15 - normal - position]) ++
  [segment.x - 15, segment.x - 15 - normal, segment.x - 15 - normal + position,
    segment.y + shift, segment.y + shift + rise]

/-- Where the swing goes on as before, the portal faces the other way and moves one cell that way. -/
def gravityPortal (options : BiomeOptions) (segment : Segment) (previous : Option Swing) : Record :=
  let facing := segment.swing.sign
  let id := gravityPortalId segment.options.gravity
  if previous = some segment.swing then portalPiece options segment id (-facing) (grid * -facing)
  else portalPiece options segment id facing 0

def gravityPortalSums (options : BiomeOptions) (segment : Segment) (previous : Option Swing) :
    List Int :=
  let facing := segment.swing.sign
  if previous = some segment.swing then portalSums options segment (-facing) (grid * -facing)
  else portalSums options segment facing 0

/-- A decoy shows the other gravity and never moves. -/
def fakePortal (options : BiomeOptions) (segment : Segment) : Record :=
  portalPiece options segment (gravityPortalId (!segment.options.gravity)) segment.swing.sign 0

def portal (options : BiomeOptions) (site : Site) : List Record :=
  match site.segment.options.portal with
  | .gravity => [gravityPortal options site.segment site.previous]
  | .fake => [fakePortal options site.segment]
  | .absent => []

def portalSumsAt (options : BiomeOptions) (site : Site) : List Int :=
  match site.segment.options.portal with
  | .gravity => gravityPortalSums options site.segment site.previous
  | .fake => portalSums options site.segment site.segment.swing.sign 0
  | .absent => []

def speedTrigger (options : BiomeOptions) (segment : Segment) : List Record :=
  if segment.options.speedChange = .absent then []
  else
    let up : Bool := segment.swing = .up
    let y := segment.y + options.corridorHeight.tdiv 2 + 15 * (if up then -1 else 1)
    [Record.ofId segment.options.speedChange.triggerId |>.placedAt (.int (segment.x - 15)) (.int y)
      |>.rotation (if up then -45 else 45) |>.scale (0.5 * heightRatio options) |>.plain |>.zLayer 1]

def speedSums (options : BiomeOptions) (segment : Segment) : List Int :=
  if segment.options.speedChange = .absent then []
  else
    let middle := segment.y + options.corridorHeight.tdiv 2
    [middle, middle + 15 * (if segment.swing = .up then -1 else 1), segment.x - 15]

def spikePose (options : BiomeOptions) (segment : Segment) : Int × Int :=
  match segment.swing, segment.options.spikeSide with
  | .up, false => (segment.y + options.corridorHeight - 6, 135)
  | .up, true => (segment.y + 6, -45)
  | .down, true => (segment.y + options.corridorHeight - 6, -135)
  | _, _ => (segment.y + 6, 45)

def spike (options : BiomeOptions) (segment : Segment) : List Record :=
  if segment.options.spike then
    let x := if segment.options.spikeSide then segment.x - 6 else segment.x + 6
    let (y, rotation) := spikePose options segment
    [Record.ofId ObjectId.spike |>.placedAt (.int x) (.int y) |>.rotation rotation |>.plain]
  else []

def spikeSums (options : BiomeOptions) (segment : Segment) : List Int :=
  if segment.options.spike then
    let ceiling := segment.y + options.corridorHeight
    (if segment.options.spikeSide then segment.x - 6 else segment.x + 6) ::
      match segment.swing, segment.options.spikeSide with
      | .up, false => [ceiling, ceiling - 6]
      | .down, true => [ceiling, ceiling - 6]
      | _, _ => [segment.y + 6]
  else []

def tint (mode : ColorMode) (record : Record) : Record :=
  match mode with
  | .normal => record
  | .night =>
    record.field Key.colorChannel (.int Channel.nightFuzz) |>.field Key.hsvEnabled (.int 1)
      |>.field Key.hsv (.text "0a1a0.60a0a0")

def fuzz (options : BiomeOptions) (segment : Segment) : List Record :=
  if segment.options.fuzzy then
    let up : Bool := segment.swing = .up
    let piece (y rotation : Int) : Record :=
      tint options.colorMode (Record.ofId ObjectId.fuzz |>.placedAt (.int segment.x) (.int y))
        |>.rotation rotation |>.plain |>.zLayer 7
    [piece segment.y (if up then 0 else 90),
      piece (segment.y + options.corridorHeight) (if up then 180 else 270)]
  else []

def fuzzSums (options : BiomeOptions) (segment : Segment) : List Int :=
  if segment.options.fuzzy then [segment.y + options.corridorHeight] else []

def segment (options : BiomeOptions) (settings : Settings) (site : Site) : List Block :=
  [.of .slope (walls options site.segment ++ cornersAt options settings site)
      (wallSums options site.segment ++ cornerSumsAt options settings site),
    .of .portal (portal options site) (portalSumsAt options site),
    .of .speed (speedTrigger options site.segment) (speedSums options site.segment),
    .of .spike (spike options site.segment) (spikeSums options site.segment),
    .of .fuzz (fuzz options site.segment) (fuzzSums options site.segment)]

end Corridor.Structure
