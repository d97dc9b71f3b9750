import Corridor.Proofs.Suppression
import Corridor.Proofs.Winner
/-!
The two streams of records of a compiled biome. Main statement: nothing that governs the structure
reaches the records of the theme, and no record of the theme reaches the structure.
-/
namespace Corridor

theorem CompiledBiome.eq_of_parts {first second : CompiledBiome}
    (structural : first.structural = second.structural)
    (decoration : first.decoration = second.decoration)
    (overrides : first.overrides = second.overrides) : first = second := by
  cases first
  cases second
  cases structural
  cases decoration
  cases overrides
  rfl

namespace Biome

/-- The records of the theme at a segment: those of the rule that fires in the order of its
commands, then those of the patterns that fire in the order of their declaration. -/
def decorationAt (biome : Biome) (theme : Theme) (index : Nat) (segment : Segment) : List Record :=
  ((theme.winner? (biome.windowAt index) index).elim [] fun rule =>
    rule.commands.flatMap (Command.render (biome.options.frame segment))) ++
  (theme.patterns.filter fun pattern => pattern.firesAt segment.x).flatMap RepeatingPattern.records

variable (biome : Biome) (settings : Settings) (theme : Theme) (overrides : Overrides)

theorem records_evaluationAt (index : Nat) (segment : Segment) :
    (biome.evaluationAt theme index segment).records = biome.decorationAt theme index segment := by
  rw [evaluationAt, Theme.records_evaluate]
  rfl

theorem decoration_compile :
    (biome.compile settings theme overrides).decoration =
      (biome.segments.mapIdx (biome.decorationAt theme)).flatten := by
  rw [compile]
  split
  · rename_i empty
    rw [empty]
    rfl
  · dsimp only
    rw [evaluations_eq_mapIdx, List.flatMap_def]
    congr 1
    apply List.ext_getElem?
    intro index
    rw [List.getElem?_map, List.getElem?_mapIdx, List.getElem?_mapIdx, Option.map_map]
    exact Option.map_congr fun segment _ => records_evaluationAt biome theme index segment

theorem overriddenAt_congr (first second : Theme)
    (agree : ∀ index segment, (biome.evaluationAt first index segment).overrides =
      (biome.evaluationAt second index segment).overrides) :
    biome.overriddenAt first = biome.overriddenAt second := by
  have same : (biome.segments.mapIdx (biome.evaluationAt first)).map Evaluation.overrides =
      (biome.segments.mapIdx (biome.evaluationAt second)).map Evaluation.overrides := by
    apply List.ext_getElem?
    intro index
    rw [List.getElem?_map, List.getElem?_mapIdx, List.getElem?_map, List.getElem?_mapIdx,
      Option.map_map, Option.map_map]
    exact Option.map_congr fun segment _ => agree index segment
  funext overrides index category
  have any_eq : ∀ evaluations : List Evaluation,
      (evaluations.any fun evaluation => evaluation.overrides.contains category) =
        (evaluations.map Evaluation.overrides).any fun taken => taken.contains category := by
    intro evaluations
    rw [List.any_map]
    rfl
  rw [overriddenAt, overriddenAt, any_eq, any_eq, List.map_take, List.map_take, same]

theorem structural_congr (first second : Theme)
    (same : biome.overriddenAt first = biome.overriddenAt second) :
    (biome.compile settings first overrides).structural =
      (biome.compile settings second overrides).structural := by
  have kept : biome.keeps first overrides = biome.keeps second overrides := by
    funext piece
    rw [keeps, keeps, same]
  rw [structural_compile, structural_compile, kept]

theorem overrides_congr (first second : Theme)
    (same : biome.overriddenAt first = biome.overriddenAt second) :
    (biome.compile settings first overrides).overrides =
      (biome.compile settings second overrides).overrides := by
  apply Overrides.ext_contains
  intro category
  rw [contains_overrides_compile, contains_overrides_compile, same]

/-- Of a theme, only its patterns and the rule that fires at each segment bear on a biome. -/
theorem compile_congr {first second : Theme}
    (chosen : ∀ window index, first.winner? window index = second.winner? window index)
    (patterns : first.patterns = second.patterns) :
    biome.compile settings first overrides = biome.compile settings second overrides := by
  have taken : biome.overriddenAt first = biome.overriddenAt second := by
    apply overriddenAt_congr
    intro index segment
    rw [evaluationAt, evaluationAt, Theme.overrides_evaluate, Theme.overrides_evaluate, chosen]
  have placed : biome.decorationAt first = biome.decorationAt second := by
    funext index segment
    rw [decorationAt, decorationAt, chosen, patterns]
  apply CompiledBiome.eq_of_parts
  · exact structural_congr biome settings overrides first second taken
  · rw [decoration_compile, decoration_compile, placed]
  · exact overrides_congr biome settings overrides first second taken

end Biome
end Corridor
