import Corridor.Output
import Corridor.Proofs.Diagonals
import Corridor.Proofs.Evaluation
import Corridor.Proofs.Winner

namespace Corridor

open Numeral (IsInt32 IsInt64)

namespace Numeral

/-- So far within 32 bits that sums of a few such coordinates are, too. -/
def IsModerate (n : Int) : Prop := -268435456 ≤ n ∧ n ≤ 268435456

/-- So far within 64 bits that a moderate number can be added. -/
def IsModerateOffset (n : Int) : Prop := -4611686018427387904 ≤ n ∧ n ≤ 4611686018427387904

instance (n : Int) : Decidable (IsModerate n) := inferInstanceAs (Decidable (_ ∧ _))

instance (n : Int) : Decidable (IsModerateOffset n) := inferInstanceAs (Decidable (_ ∧ _))

end Numeral

open Numeral (IsModerate IsModerateOffset)

structure Segment.Moderate (segment : Segment) : Prop where
  x : IsModerate segment.x
  y : IsModerate segment.y

structure BiomeOptions.Moderate (options : BiomeOptions) : Prop where
  corridorHeight : IsModerate options.corridorHeight
  minHeight : IsModerate options.minHeight
  maxHeight : IsModerate options.maxHeight

/-- All coordinates and heights are moderate. -/
structure Biome.Moderate (biome : Biome) : Prop where
  options : biome.options.Moderate
  segments : ∀ segment ∈ biome.segments, segment.Moderate

instance (segment : Segment) : Decidable segment.Moderate :=
  decidable_of_iff (IsModerate segment.x ∧ IsModerate segment.y) ⟨fun ⟨x, y⟩ => ⟨x, y⟩, fun ⟨x, y⟩ => ⟨x, y⟩⟩

instance (options : BiomeOptions) : Decidable options.Moderate :=
  decidable_of_iff (IsModerate options.corridorHeight ∧ IsModerate options.minHeight ∧
      IsModerate options.maxHeight)
    ⟨fun ⟨height, low, high⟩ => ⟨height, low, high⟩, fun ⟨height, low, high⟩ => ⟨height, low, high⟩⟩

instance (biome : Biome) : Decidable biome.Moderate :=
  decidable_of_iff (biome.options.Moderate ∧ ∀ segment ∈ biome.segments, segment.Moderate)
    ⟨fun ⟨options, segments⟩ => ⟨options, segments⟩, fun ⟨options, segments⟩ => ⟨options, segments⟩⟩

/-- A theme whose offsets are far within 64 bits. No loaded theme has a pattern with a negative start. -/
structure Theme.Moderate (theme : Theme) : Prop where
  offsets : ∀ rule ∈ theme.rules, ∀ templates, .records templates ∈ rule.commands →
    ∀ template ∈ templates, ∀ key quantity offset, (key, .placeholder quantity offset) ∈ template.fields →
      IsModerateOffset offset
  starts : ∀ pattern ∈ theme.patterns, 0 ≤ pattern.start

namespace Structure

section Segments

variable {options : BiomeOptions} {segment : Segment} (level : options.Moderate)
  (near : segment.Moderate)
include level near

theorem isInt32_wallSums : ∀ sum ∈ wallSums options segment, IsInt32 sum := by
  obtain ⟨⟨_, _⟩, _⟩ := level
  obtain ⟨_, _, _⟩ := near
  rw [wallSums]
  cases options.startingSize <;> simp [IsInt32, Numeral.minInt32, Numeral.maxInt32] <;> omega

theorem isInt32_cornerSums (previous : Swing) :
    ∀ sum ∈ cornerSums options segment previous, IsInt32 sum := by
  obtain ⟨⟨_, _⟩, _⟩ := level
  obtain ⟨⟨_, _⟩, _, _⟩ := near
  unfold cornerSums
  cases previous <;> cases segment.swing <;>
    simp [IsInt32, Numeral.minInt32, Numeral.maxInt32, grid] <;> omega

theorem isInt32_portalSums {facing shift : Int} (small : -30 ≤ shift ∧ shift ≤ 30) :
    ∀ sum ∈ portalSums options segment facing shift, IsInt32 sum := by
  obtain ⟨⟨_, _⟩, _⟩ := level
  obtain ⟨⟨_, _⟩, _, _⟩ := near
  have normal := Int.natAbs_tdiv_le_natAbs options.corridorHeight 10
  have position := Int.natAbs_tdiv_le_natAbs options.corridorHeight 4
  rw [portalSums]
  split <;> simp [IsInt32, Numeral.minInt32, Numeral.maxInt32] <;> omega

theorem isInt32_speedSums : ∀ sum ∈ speedSums options segment, IsInt32 sum := by
  obtain ⟨⟨_, _⟩, _⟩ := level
  obtain ⟨⟨_, _⟩, _, _⟩ := near
  have half := Int.natAbs_tdiv_le_natAbs options.corridorHeight 2
  rw [speedSums]
  split
  · simp
  · simp only [List.forall_mem_cons, IsInt32, Numeral.minInt32, Numeral.maxInt32]
    split <;> simp <;> omega

theorem isInt32_spikeSums : ∀ sum ∈ spikeSums options segment, IsInt32 sum := by
  obtain ⟨⟨_, _⟩, _⟩ := level
  obtain ⟨⟨_, _⟩, _, _⟩ := near
  rw [spikeSums]
  split
  · simp only [List.forall_mem_cons, IsInt32, Numeral.minInt32, Numeral.maxInt32]
    refine ⟨by split <;> omega, ?_⟩
    split <;> simp <;> omega
  · simp

theorem isInt32_fuzzSums : ∀ sum ∈ fuzzSums options segment, IsInt32 sum := by
  obtain ⟨⟨_, _⟩, _⟩ := level
  obtain ⟨_, _, _⟩ := near
  rw [fuzzSums]
  split
  · simp [IsInt32, Numeral.minInt32, Numeral.maxInt32]
    omega
  · simp

end Segments

theorem isInt32_cornerSumsAt {options : BiomeOptions} {site : Site} (level : options.Moderate)
    (near : site.segment.Moderate) (settings : Settings) :
    ∀ sum ∈ cornerSumsAt options settings site, IsInt32 sum := by
  rw [cornerSumsAt]
  split
  · split
    · exact isInt32_cornerSums level near _
    · simp
  · simp

theorem isInt32_portalSumsAt {options : BiomeOptions} {site : Site} (level : options.Moderate)
    (near : site.segment.Moderate) : ∀ sum ∈ portalSumsAt options site, IsInt32 sum := by
  have turned : -30 ≤ grid * -site.segment.swing.sign ∧ grid * -site.segment.swing.sign ≤ 30 := by
    cases site.segment.swing <;> decide
  rw [portalSumsAt]
  split
  · rw [gravityPortalSums]
    split
    · exact isInt32_portalSums level near turned
    · exact isInt32_portalSums level near (by omega)
  · exact isInt32_portalSums level near (by omega)
  · simp

theorem fits_segment {options : BiomeOptions} {site : Site} (level : options.Moderate)
    (near : site.segment.Moderate) (settings : Settings) (overrides : Overrides) :
    (segment options settings site).all (Block.fits overrides) = true := by
  have walls := isInt32_wallSums level near
  have corners := isInt32_cornerSumsAt level near settings
  simp only [segment, List.all_cons, List.all_nil, Bool.and_true, Bool.and_eq_true]
  exact ⟨Block.fits_of_forall (List.forall_mem_append.mpr ⟨walls, corners⟩) overrides,
    Block.fits_of_forall (isInt32_portalSumsAt level near) overrides,
    Block.fits_of_forall (isInt32_speedSums level near) overrides,
    Block.fits_of_forall (isInt32_spikeSums level near) overrides,
    Block.fits_of_forall (isInt32_fuzzSums level near) overrides⟩

theorem fits_start {options : BiomeOptions} (level : options.Moderate) (overrides : Overrides) :
    (start options).all (Block.fits overrides) = true := by
  have connectors : ∀ sum ∈ connectorHeights options.corridorHeight, IsInt32 sum := by
    obtain ⟨⟨_, _⟩, _⟩ := level
    simp only [connectorHeights, List.forall_mem_map, List.mem_range, IsInt32, Numeral.minInt32,
      Numeral.maxInt32, grid]
    omega
  simp only [start, List.all_cons, List.all_nil, Bool.and_true, Bool.and_eq_true]
  exact ⟨Block.fits_of_forall connectors overrides, Block.fits_of_forall (by simp [Block.fixed]) overrides⟩

theorem isInt32_diagonalSums {options : BiomeOptions} {x top bottom : Int} (level : options.Moderate)
    (across : IsModerate x) (tops : -536870942 ≤ top ∧ top ≤ 536870942)
    (bottoms : -536870942 ≤ bottom ∧ bottom ≤ 536870942) :
    ∀ sum ∈ diagonalSums options x top bottom, IsInt32 sum := by
  obtain ⟨⟨_, _⟩, ⟨_, _⟩, _, _⟩ := level
  obtain ⟨_, _⟩ := across
  -- diagonals go one cell beyond the bounds of height at most
  have rises := thirty_mul_cellsPast_le (climbLimit options - top)
  have falls := thirty_mul_cellsPast_le (bottom - options.minHeight)
  rw [climbLimit] at rises
  rw [forall_mem_diagonalSums_iff] <;>
    simp only [climbLimit, IsInt32, Numeral.minInt32, Numeral.maxInt32] <;> omega

theorem fits_ending {biome : Biome} (moderate : biome.Moderate) (overrides : Overrides) :
    (ending biome).all (Block.fits overrides) = true := by
  obtain ⟨level, near⟩ := moderate
  rw [ending]
  cases ends : biome.segments.getLast? with
  | none => rfl
  | some last =>
    obtain ⟨across, _, _⟩ := near last (List.mem_of_getLast? ends)
    obtain ⟨_, _⟩ := level.corridorHeight
    have fits {category : Category} {records : List Record} {ceiling start top bottom : Int}
        (starts : IsInt32 ceiling ∧ IsInt32 start) (tops : -536870942 ≤ top ∧ top ≤ 536870942)
        (bottoms : -536870942 ≤ bottom ∧ bottom ≤ 536870942) :
        [Block.of category records (ceiling :: start :: diagonalSums biome.options last.x top bottom)].all
          (Block.fits overrides) = true := by
      have small := isInt32_diagonalSums level across tops bottoms
      rw [List.all_cons, List.all_nil, Bool.and_true]
      exact Block.fits_of_forall
        (List.forall_mem_cons.mpr ⟨starts.1, List.forall_mem_cons.mpr ⟨starts.2, small⟩⟩) overrides
    simp only [IsInt32, Numeral.minInt32, Numeral.maxInt32] at fits
    dsimp only [grid]
    cases last.swing with
    | up => exact fits (by omega) (by omega) (by omega)
    | down => exact fits (by omega) (by omega) (by omega)
    | neutral => rfl

end Structure

theorem Cell.fits_render {frame : Frame} (near : ∀ quantity, IsModerate (frame.value quantity))
    {cell : Cell}
    (far : ∀ quantity offset, cell = .placeholder quantity offset → IsModerateOffset offset) :
    (cell.render frame).fits = true := by
  cases cell with
  | literal text => rfl
  | placeholder quantity offset =>
    obtain ⟨_, _⟩ := far quantity offset rfl
    obtain ⟨_, _⟩ := near quantity
    apply decide_eq_true
    simp only [IsInt64, Numeral.minInt64, Numeral.maxInt64]
    omega

namespace Theme

variable {theme : Theme} (moderate : theme.Moderate)
include moderate

theorem Moderate.fits_evaluate {frame : Frame} (near : ∀ quantity, IsModerate (frame.value quantity))
    (window : Window) (index : Nat) : (theme.evaluate window index frame).fits = true := by
  have inside : ∀ rule ∈ theme.rules, ∀ record ∈ rule.render frame, ∀ field ∈ record.fields,
      field.2.fits = true := by
    intro rule listed record rendered field member
    obtain ⟨command, given, placed⟩ := List.mem_flatMap.mp rendered
    cases command with
    | override category => cases placed
    | records templates =>
      obtain ⟨template, present, rfl⟩ := List.mem_map.mp placed
      obtain ⟨⟨key, cell⟩, held, rfl⟩ := List.mem_map.mp member
      refine Cell.fits_render near fun quantity offset same => ?_
      exact moderate.offsets rule listed templates given template present key quantity offset (same ▸ held)
  simp only [Evaluation.fits, List.all_eq_true, evaluate_eq]
  cases wins : theme.winner? window index with
  | none => simp
  | some rule => exact inside rule (mem_rules_of_winner? wins)

theorem Moderate.fits_pattern {x : Int} (near : IsModerate x) :
    (theme.patterns.all fun pattern => pattern.fits x) = true := by
  rw [List.all_eq_true]
  intro pattern listed
  have start := moderate.starts pattern listed
  obtain ⟨_, _⟩ := near
  rw [RepeatingPattern.fits, Bool.or_eq_true, decide_eq_true_eq, decide_eq_true_eq]
  simp only [IsInt64, Numeral.minInt64, Numeral.maxInt64]
  omega

end Theme

theorem BiomeOptions.Moderate.value {options : BiomeOptions} (level : options.Moderate)
    {segment : Segment} (near : segment.Moderate) (quantity : Quantity) :
    IsModerate ((options.frame segment).value quantity) := by
  cases quantity with
  | x => exact near.x
  | y => exact near.y
  | maxHeight => exact level.maxHeight
  | minHeight => exact level.minHeight
  | corridorHeight => exact level.corridorHeight

theorem Biome.fits_of_moderate {biome : Biome} {theme : Theme} (moderate : biome.Moderate)
    (gentle : theme.Moderate) (settings : Settings) (overrides : Overrides) :
    biome.fits settings theme overrides = true := by
  have evaluations : (biome.evaluations theme).all Evaluation.fits = true := by
    rw [List.all_eq_true, evaluations_eq_mapIdx]
    intro evaluation member
    obtain ⟨index, bound, rfl⟩ := List.mem_mapIdx.mp member
    have near := moderate.segments _ (List.getElem_mem bound)
    exact gentle.fits_evaluate (moderate.options.value near) _ _
  have patterns : (biome.segments.all fun segment =>
      theme.patterns.all fun pattern => pattern.fits segment.x) = true :=
    List.all_eq_true.mpr fun segment member => gentle.fits_pattern (moderate.segments _ member).x
  simp only [fits, patterns, evaluations, Structure.fits_start moderate.options,
    Structure.fits_ending moderate, Bool.true_and, Bool.and_true, Bool.or_eq_true]
  right
  rw [List.all_eq_true]
  intro pair paired
  have member := segment_mem_of_mem_sites (List.of_mem_zip paired).1
  exact Structure.fits_segment moderate.options (moderate.segments _ member) settings pair.2

theorem Level.fits_of_moderate {level : Level} {theme : Theme}
    (moderate : ∀ biome ∈ level.biomes, biome.Moderate) (gentle : theme.Moderate) (settings : Settings)
    (overrides : Overrides) : level.fits theme settings overrides = true := by
  rw [fits]
  split
  · rfl
  · rename_i biome rest biomes
    exact Biome.fits_of_moderate (moderate biome (by simp [biomes])) gentle settings overrides

end Corridor
