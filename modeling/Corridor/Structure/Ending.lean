import Corridor.Structure.Start

namespace Corridor.Structure

def diagonalPiece (x y rotation : Int) : Record :=
  Record.ofId ObjectId.slope |>.placedAt (.int x) (.int y) |>.rotation rotation |>.plain

/-- The cells of a diagonal upwards until it has passed `limit`. -/
def climb (limit x y : Int) : List (Int × Int) :=
  if y ≤ limit then (x + grid, y + grid) :: climb limit (x + grid) (y + grid) else []
termination_by (limit + 1 - y).toNat
decreasing_by simp only [grid]; omega

def descend (limit x y : Int) : List (Int × Int) :=
  if limit ≤ y then (x + grid, y - grid) :: descend limit (x + grid) (y - grid) else []
termination_by (y + 1 - limit).toNat
decreasing_by simp only [grid]; omega

def diagonal (rotation : Int) (cells : List (Int × Int)) : List Record :=
  cells.map fun (x, y) => diagonalPiece x y rotation

def diagonals (options : BiomeOptions) (x top bottom : Int) : List Record :=
  diagonal 180 (climb (options.maxHeight + options.corridorHeight + grid) x top) ++
    diagonal 90 (descend options.minHeight x bottom)

def coordinates (cells : List (Int × Int)) : List Int := cells.flatMap fun (x, y) => [x, y]

def diagonalSums (options : BiomeOptions) (x top bottom : Int) : List Int :=
  let ceiling := options.maxHeight + options.corridorHeight
  ceiling :: (ceiling + grid) ::
    (coordinates (climb (ceiling + grid) x top) ++ coordinates (descend options.minHeight x bottom))

/-- A corridor that ends level has no diagonals. -/
def ending (biome : Biome) : List Block :=
  match biome.segments.getLast? with
  | none => []
  | some last =>
    let ceiling := last.y + biome.options.corridorHeight
    match last.swing with
    | .up =>
      [.of .endUp (diagonals biome.options last.x ceiling (last.y + grid))
        (ceiling :: (last.y + grid) :: diagonalSums biome.options last.x ceiling (last.y + grid))]
    | .down =>
      [.of .endDown (diagonals biome.options last.x (ceiling - grid) last.y)
        (ceiling :: (ceiling - grid) :: diagonalSums biome.options last.x (ceiling - grid) last.y)]
    | .neutral => []

end Corridor.Structure
