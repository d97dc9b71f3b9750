import Corridor.Level.Validation
import Corridor.Proofs.LevelText
import Corridor.Proofs.Spots

namespace Corridor

open Numeral (IsInt32)

namespace Structure

def cellsPast (distance : Int) : Nat := if distance < 0 then 0 else (distance / 30 + 1).toNat

theorem cellsPast_of_neg {distance : Int} (past : distance < 0) : cellsPast distance = 0 :=
  if_pos past

theorem cellsPast_of_nonneg {distance : Int} (within : 0 ≤ distance) :
    cellsPast distance = cellsPast (distance - 30) + 1 := by
  rw [cellsPast, cellsPast, if_neg (by omega)]
  split <;> omega

theorem cellsPast_sub (bound start : Int) :
    cellsPast (bound - start) = if bound < start then 0 else ((bound - start) / 30 + 1).toNat := by
  have past : bound - start < 0 ↔ bound < start := by omega
  simp only [cellsPast, past]

theorem thirty_mul_cellsPast_le (distance : Int) :
    (30 : Int) * cellsPast distance ≤ max (distance + 30) 0 := by
  rw [cellsPast]
  split <;> omega

/-- The last cell is the only one beyond the bound, and it begins before it. -/
theorem last_cellsPast {distance : Int} {count : Nat} (counted : cellsPast distance = count)
    (positive : 0 < count) :
    (∀ cell : Nat, cell < count → (distance < 30 * (cell + 1) ↔ cell + 1 = count)) ∧
      distance < 30 * count ∧ 30 * count ≤ distance + 30 := by
  have within : ¬distance < 0 := by
    intro past
    rw [cellsPast_of_neg past] at counted
    omega
  rw [cellsPast, if_neg within] at counted
  refine ⟨?_, by omega, by omega⟩
  intro cell _
  omega

/-- Cells one after the other, each `rise` above the one before. -/
def slant (x y rise : Int) (count : Nat) : List (Int × Int) :=
  (List.range count).map fun (cell : Nat) => (x + 30 * (cell + 1), y + rise * (cell + 1))

theorem slant_succ (x y rise : Int) (count : Nat) :
    slant x y rise (count + 1) = (x + 30, y + rise) :: slant (x + 30) (y + rise) rise count := by
  rw [slant, List.range_succ_eq_map, List.map_cons, List.map_map, slant]
  congr 1
  · simp
  · apply List.map_congr_left
    intro cell _
    have across : x + 30 * ((cell + 1 : Nat) + 1 : Int) = x + 30 + 30 * (cell + 1) := by
      omega
    have upwards : y + rise * ((cell + 1 : Nat) + 1 : Int) = y + rise + rise * (cell + 1) := by
      rw [Int.natCast_succ, Int.mul_add rise (cell + 1) 1]
      omega
    rw [Function.comp_apply, across, upwards]

theorem poses_diagonal_slant (x y rise rotation : Int) (count : Nat) :
    (diagonal rotation (slant x y rise count)).map
        (fun record => (record.spot?, record.get? Key.rotation)) =
      (List.range count).map fun (cell : Nat) =>
        (some ⟨1338, x + 30 * (cell + 1), y + rise * (cell + 1)⟩, some (.int rotation)) := by
  simp [diagonal, slant]

/-- Each round takes one cell off the distance to the bound. -/
theorem climb_eq_slant (limit x y : Int) : climb limit x y = slant x y 30 (cellsPast (limit - y)) := by
  fun_induction climb limit x y with
  | case1 x y within ih =>
    have nearer : limit - (y + grid) = limit - y - 30 := by
      rw [grid]
      omega
    have cells : cellsPast (limit - y) = cellsPast (limit - y - 30) + 1 :=
      cellsPast_of_nonneg (by omega)
    rw [ih, nearer, cells, slant_succ]
    rfl
  | case2 x y past =>
    rw [cellsPast_of_neg (by omega)]
    rfl

theorem descend_eq_slant (limit x y : Int) :
    descend limit x y = slant x y (-30) (cellsPast (y - limit)) := by
  fun_induction descend limit x y with
  | case1 x y within ih =>
    have nearer : y - grid - limit = y - limit - 30 := by
      rw [grid]
      omega
    have cells : cellsPast (y - limit) = cellsPast (y - limit - 30) + 1 :=
      cellsPast_of_nonneg (by omega)
    rw [ih, nearer, cells, slant_succ]
    rfl
  | case2 x y past =>
    rw [cellsPast_of_neg (by omega)]
    rfl

theorem forall_mem_slant_iff {x y rise : Int} (steep : rise = 30 ∨ rise = -30) (across : IsInt32 x)
    (height : IsInt32 y) (count : Nat) :
    (∀ cell ∈ slant x y rise count, IsInt32 cell.1 ∧ IsInt32 cell.2) ↔
      IsInt32 (x + 30 * count) ∧ IsInt32 (y + rise * count) := by
  simp only [slant, List.forall_mem_map, List.mem_range, IsInt32] at *
  constructor
  · intro all
    cases count with
    | zero => omega
    | succ last =>
      have reached := all last (Nat.lt_succ_self last)
      rcases steep with rfl | rfl <;> omega
  · -- what lies between two coordinates is one
    intro reached cell within
    rcases steep with rfl | rfl <;> omega

theorem forall_mem_coordinates_iff {P : Int → Prop} {cells : List (Int × Int)} :
    (∀ sum ∈ coordinates cells, P sum) ↔ ∀ cell ∈ cells, P cell.1 ∧ P cell.2 := by
  rw [coordinates, List.forall_mem_flatMap]
  exact forall₂_congr fun cell _ => by simp

section
variable (options : BiomeOptions) (last : Segment)

def climbStart : Int :=
  if last.swing = .up then last.y + options.corridorHeight
  else last.y + options.corridorHeight - 30

def descentStart : Int := if last.swing = .up then last.y + 30 else last.y

def climbLimit : Int := options.maxHeight + options.corridorHeight + 30

def climbCount : Nat := cellsPast (climbLimit options - climbStart options last)

def descentCount : Nat := cellsPast (descentStart last - options.minHeight)

end

/-- The start and the limit of the upper diagonal rise together with the corridor. -/
theorem climbCount_withHeight (options : BiomeOptions) (last : Segment) (height : Int) :
    climbCount { options with corridorHeight := height } last = climbCount options last := by
  simp only [climbCount, climbLimit, climbStart]
  congr 1
  split <;> omega

theorem forall_mem_diagonalSums_iff {options : BiomeOptions} {x top bottom : Int} (across : IsInt32 x)
    (above : IsInt32 top) (below : IsInt32 bottom) :
    (∀ sum ∈ diagonalSums options x top bottom, IsInt32 sum) ↔
      IsInt32 (options.maxHeight + options.corridorHeight) ∧ IsInt32 (climbLimit options) ∧
      (IsInt32 (x + 30 * cellsPast (climbLimit options - top)) ∧
        IsInt32 (top + 30 * cellsPast (climbLimit options - top))) ∧
      IsInt32 (x + 30 * cellsPast (bottom - options.minHeight)) ∧
        IsInt32 (bottom - 30 * cellsPast (bottom - options.minHeight)) := by
  have rises := forall_mem_slant_iff (.inl rfl) across above (cellsPast (climbLimit options - top))
  have falls := forall_mem_slant_iff (.inr rfl) across below (cellsPast (bottom - options.minHeight))
  have limit : options.maxHeight + options.corridorHeight + grid = climbLimit options := rfl
  rw [Int.neg_mul, ← Int.sub_eq_add_neg] at falls
  rw [diagonalSums, List.forall_mem_cons, List.forall_mem_cons, List.forall_mem_append,
    forall_mem_coordinates_iff, forall_mem_coordinates_iff, climb_eq_slant, descend_eq_slant, limit,
    rises, falls]

/-- What has to be a coordinate for the diagonals to be placed: their starts and what these are
computed from, and the coordinates of their last cells. -/
structure DiagonalsFit (options : BiomeOptions) (last : Segment) : Prop where
  ceiling : IsInt32 (last.y + options.corridorHeight)
  top : IsInt32 (climbStart options last)
  bottom : IsInt32 (descentStart last)
  highest : IsInt32 (options.maxHeight + options.corridorHeight)
  limit : IsInt32 (climbLimit options)
  upper : IsInt32 (last.x + 30 * climbCount options last) ∧
    IsInt32 (climbStart options last + 30 * climbCount options last)
  lower : IsInt32 (last.x + 30 * descentCount options last) ∧
    IsInt32 (descentStart last - 30 * descentCount options last)

theorem forall_mem_endingSums_iff {options : BiomeOptions} {last : Segment} (inRange : last.InRange)
    {start : List Int}
    (starts : (∀ sum ∈ start, IsInt32 sum) ↔ IsInt32 (last.y + options.corridorHeight) ∧
      IsInt32 (climbStart options last) ∧ IsInt32 (descentStart last)) :
    (∀ sum ∈ start ++ diagonalSums options last.x (climbStart options last) (descentStart last),
      IsInt32 sum) ↔ DiagonalsFit options last := by
  rw [List.forall_mem_append, starts]
  constructor
  · rintro ⟨⟨ceiling, top, bottom⟩, others⟩
    obtain ⟨highest, limit, upper, lower⟩ :=
      (forall_mem_diagonalSums_iff inRange.x top bottom).mp others
    exact ⟨ceiling, top, bottom, highest, limit, upper, lower⟩
  · rintro ⟨ceiling, top, bottom, highest, limit, upper, lower⟩
    exact ⟨⟨ceiling, top, bottom⟩,
      (forall_mem_diagonalSums_iff inRange.x top bottom).mpr ⟨highest, limit, upper, lower⟩⟩

section Placed

variable {biome : Biome} {overrides : Overrides} {last : Segment}
  (ends : biome.segments.getLast? = some last)
  (free : last.swing = .up ∧ overrides.endUp = false ∨ last.swing = .down ∧ overrides.endDown = false)
include ends free

theorem placeAll_ending_eq_diagonals :
    Block.placeAll overrides (ending biome) =
      diagonal 180 (slant last.x (climbStart biome.options last) 30 (climbCount biome.options last)) ++
        diagonal 90 (slant last.x (descentStart last) (-30) (descentCount biome.options last)) := by
  rw [climbCount, descentCount, ← climb_eq_slant, ← descend_eq_slant]
  rcases free with ⟨swing, unset⟩ | ⟨swing, unset⟩
  · simp [ending, ends, swing, unset, Block.placeAll, Block.place, Block.suppressed, Block.of,
      Overrides.contains, climbStart, descentStart, climbLimit, diagonals, grid]
  · simp [ending, ends, swing, unset, Block.placeAll, Block.place, Block.suppressed, Block.of,
      Overrides.contains, climbStart, descentStart, climbLimit, diagonals, grid]

theorem fits_ending_iff (inRange : last.InRange) :
    (ending biome).all (Block.fits overrides) = true ↔ DiagonalsFit biome.options last := by
  let ceiling := last.y + biome.options.corridorHeight
  rcases free with ⟨swing, unset⟩ | ⟨swing, unset⟩
  · have top : climbStart biome.options last = ceiling := if_pos swing
    have bottom : descentStart last = last.y + grid := if_pos swing
    have starts : (∀ sum ∈ [ceiling, last.y + grid], IsInt32 sum) ↔
        IsInt32 ceiling ∧ IsInt32 (climbStart biome.options last) ∧ IsInt32 (descentStart last) := by
      simp [top, bottom]
    rw [← forall_mem_endingSums_iff inRange starts, top, bottom]
    simp only [ending, ends, swing, List.all_cons, List.all_nil, Bool.and_true]
    exact Block.fits_of_iff unset
  · have level : ¬last.swing = .up := by simp [swing]
    have top : climbStart biome.options last = ceiling - grid := if_neg level
    have bottom : descentStart last = last.y := if_neg level
    have starts : (∀ sum ∈ [ceiling, ceiling - grid], IsInt32 sum) ↔
        IsInt32 ceiling ∧ IsInt32 (climbStart biome.options last) ∧ IsInt32 (descentStart last) := by
      have own : IsInt32 last.y := inRange.y
      simp [top, bottom, own]
    rw [← forall_mem_endingSums_iff inRange starts, top, bottom]
    simp only [ending, ends, swing, List.all_cons, List.all_nil, Bool.and_true]
    exact Block.fits_of_iff unset

end Placed

/-- A biome that ends in a swing whose category is free is closed by slopes in two diagonals. Their
numbers of pieces follow from where they start and from the bounds; the height of the corridor has no
part in it. The last piece of a diagonal is the only one beyond its bound, by one cell at most. Placing
them breaks off if and only if a start or a last piece is out of the range of coordinates. -/
theorem ending_in_closed_form (biome : Biome) (overrides : Overrides) (last : Segment)
    (ends : biome.segments.getLast? = some last)
    (free : last.swing = .up ∧ overrides.endUp = false ∨
      last.swing = .down ∧ overrides.endDown = false) (inRange : last.InRange) :
    let ceiling := last.y + biome.options.corridorHeight
    let top := if last.swing = .up then ceiling else ceiling - 30
    let bottom := if last.swing = .up then last.y + 30 else last.y
    let highest := biome.options.maxHeight + biome.options.corridorHeight
    let limit := highest + 30
    let lowest := biome.options.minHeight
    let upper := climbCount biome.options last
    let lower := descentCount biome.options last
    let fit := IsInt32 ceiling ∧ IsInt32 top ∧ IsInt32 bottom ∧ IsInt32 highest ∧ IsInt32 limit ∧
      IsInt32 (last.x + 30 * upper) ∧ IsInt32 (top + 30 * upper) ∧
      IsInt32 (last.x + 30 * lower) ∧ IsInt32 (bottom - 30 * lower)
    (fit → ∃ records, Block.placeAll? overrides (ending biome) = some records ∧
      records.map (fun record => (record.spot?, record.get? Key.rotation)) =
        ((List.range upper).map fun (cell : Nat) =>
          (some ⟨1338, last.x + 30 * (cell + 1), top + 30 * (cell + 1)⟩, some (.int 180))) ++
        (List.range lower).map (fun (cell : Nat) =>
          (some ⟨1338, last.x + 30 * (cell + 1), bottom - 30 * (cell + 1)⟩, some (.int 90)))) ∧
    (¬fit → Block.placeAll? overrides (ending biome) = none) ∧
    (upper = if limit < top then 0 else ((limit - top) / 30 + 1).toNat) ∧
    (lower = if bottom < lowest then 0 else ((bottom - lowest) / 30 + 1).toNat) ∧
    (∀ height, climbCount { biome.options with corridorHeight := height } last = upper ∧
      descentCount { biome.options with corridorHeight := height } last = lower) ∧
    (0 < upper →
      (∀ cell : Nat, cell < upper → (limit < top + 30 * (cell + 1) ↔ cell + 1 = upper)) ∧
      limit < top + 30 * upper ∧ top + 30 * upper ≤ limit + 30) ∧
    (0 < lower →
      (∀ cell : Nat, cell < lower → (bottom - 30 * (cell + 1) < lowest ↔ cell + 1 = lower)) ∧
      lowest - 30 ≤ bottom - 30 * lower ∧ bottom - 30 * lower < lowest) := by
  intro ceiling top bottom highest limit lowest upper lower fit
  have fits : (ending biome).all (Block.fits overrides) = true ↔ fit := by
    rw [fits_ending_iff ends free inRange]
    constructor
    · rintro ⟨first, second, third, fourth, fifth, sixth, seventh⟩
      exact ⟨first, second, third, fourth, fifth, sixth.1, sixth.2, seventh⟩
    · rintro ⟨first, second, third, fourth, fifth, sixth, seventh, eighth⟩
      exact ⟨first, second, third, fourth, fifth, ⟨sixth, seventh⟩, eighth⟩
  refine ⟨fun fitting => ?_, fun overflowing => ?_, ?_, ?_, ?_, ?_, ?_⟩
  · refine ⟨_, Block.placeAll?_eq_some_iff.mpr ⟨fits.mpr fitting, rfl⟩, ?_⟩
    rw [placeAll_ending_eq_diagonals ends free, List.map_append, poses_diagonal_slant,
      poses_diagonal_slant]
    simp only [Int.neg_mul, ← Int.sub_eq_add_neg]
    rfl
  · exact if_neg (mt fits.mp overflowing)
  · exact cellsPast_sub limit top
  · exact cellsPast_sub bottom lowest
  · intro height
    exact ⟨climbCount_withHeight biome.options last height, rfl⟩
  · intro positive
    have counted : cellsPast (limit - top) = upper := rfl
    obtain ⟨only, beyond, near⟩ := last_cellsPast counted positive
    refine ⟨?_, by omega, by omega⟩
    intro cell valid
    rw [← only cell valid]
    omega
  · intro positive
    have counted : cellsPast (bottom - lowest) = lower := rfl
    obtain ⟨only, beyond, near⟩ := last_cellsPast counted positive
    refine ⟨?_, by omega, by omega⟩
    intro cell valid
    rw [← only cell valid]
    omega

def bluff : Biome where
  options := { corridorHeight := 90 }
  segments := [⟨465, 195, .up, {}⟩, ⟨495, 180, .down, {}⟩]

theorem bluff_ending_in_closed_form :
    let last : Segment := ⟨495, 180, .down, {}⟩
    let overrides : Overrides := { endUp := true }
    (bluff.segments.getLast? = some last ∧ last.swing = .down ∧ overrides.endDown = false ∧
      last.InRange) ∧
    (∃ records, Block.placeAll? overrides (ending bluff) = some records ∧
      records.map (fun record => (record.spot?, record.get? Key.rotation)) =
        [(some ⟨1338, 525, 270⟩, some (.int 180)), (some ⟨1338, 555, 300⟩, some (.int 180)),
          (some ⟨1338, 585, 330⟩, some (.int 180)), (some ⟨1338, 525, 150⟩, some (.int 90)),
          (some ⟨1338, 555, 120⟩, some (.int 90)), (some ⟨1338, 585, 90⟩, some (.int 90)),
          (some ⟨1338, 615, 60⟩, some (.int 90)), (some ⟨1338, 645, 30⟩, some (.int 90))]) ∧
    climbCount { bluff.options with corridorHeight := 60 } last = 3 ∧
    ((315 : Int) < 240 + 30 * 3 ∧ 240 + 30 * 3 ≤ (315 : Int) + 30) := by
  intro last overrides
  have free : last.swing = .up ∧ overrides.endUp = false ∨
      last.swing = .down ∧ overrides.endDown = false := .inr ⟨rfl, rfl⟩
  have inRange : last.InRange := ⟨by decide, by decide⟩
  obtain ⟨placed, _, _, _, level, upper, _⟩ := ending_in_closed_form bluff overrides last rfl free inRange
  obtain ⟨_, beyond⟩ := upper (by decide)
  exact ⟨⟨rfl, rfl, rfl, inRange⟩, placed (by decide), (level 60).1, beyond⟩

def cliff : Biome where
  options := { minHeight := 2147483400, maxHeight := 2147483600 }
  segments := [⟨465, 2147483500, .up, {}⟩]

theorem cliff_overflows :
    let last : Segment := ⟨465, 2147483500, .up, {}⟩
    cliff.errors = [] ∧ cliff.segments = [last] ∧ last.InRange ∧
    climbLimit cliff.options = 2147483690 ∧ climbCount cliff.options last = 5 ∧
    Block.placeAll? {} (ending cliff) = none := by
  intro last
  have free : last.swing = .up ∧ ({} : Overrides).endUp = false ∨
      last.swing = .down ∧ ({} : Overrides).endDown = false := .inl ⟨rfl, rfl⟩
  have inRange : last.InRange := ⟨by decide, by decide⟩
  have beyond : ¬IsInt32 (climbLimit cliff.options) := by decide
  refine ⟨by decide, rfl, inRange, rfl, by decide, if_neg fun fits => beyond ?_⟩
  exact ((fits_ending_iff rfl free inRange).mp fits).limit

end Structure
end Corridor
