import Corridor.Compiled

namespace Corridor

structure Spot where
  object : Int
  x : Int
  y : Int
  deriving DecidableEq, Repr

/-- The spot of a record whose object and point are whole numbers. -/
def Record.spot? (record : Record) : Option Spot :=
  match record.objectId?, record.get? Key.x, record.get? Key.y with
  | some object, some (.int x), some (.int y) => some ⟨object, x, y⟩
  | _, _, _ => none

namespace Structure

def floorSpot (options : BiomeOptions) (segment : Segment) : Spot :=
  match options.startingSize with
  | .normal => ⟨1338, segment.x, segment.y⟩
  | .mini => ⟨1339, segment.x, segment.y - 15⟩

def ceilingSpot (options : BiomeOptions) (segment : Segment) : Spot :=
  match options.startingSize with
  | .normal => ⟨1338, segment.x, segment.y + options.corridorHeight⟩
  | .mini => ⟨1339, segment.x, segment.y + 15 + options.corridorHeight⟩

theorem spots_walls (options : BiomeOptions) (segment : Segment) :
    (walls options segment).map Record.spot? =
      [some (floorSpot options segment), some (ceilingSpot options segment)] := by
  rw [walls, floorSpot, ceilingSpot]
  cases options.startingSize with
  | normal => rfl
  | mini => rfl

theorem spot?_fuzzPiece (mode : ColorMode) (x y rotation : Int) :
    (tint mode (Record.ofId ObjectId.fuzz |>.placedAt (.int x) (.int y))
      |>.rotation rotation |>.plain |>.zLayer 7).spot? = some ⟨1717, x, y⟩ := by
  cases mode <;> rfl

@[simp] theorem spot?_diagonalPiece (x y rotation : Int) :
    (diagonalPiece x y rotation).spot? = some ⟨1338, x, y⟩ :=
  rfl

@[simp] theorem rotation_diagonalPiece (x y rotation : Int) :
    (diagonalPiece x y rotation).get? Key.rotation = some (.int rotation) :=
  rfl

end Structure
end Corridor
