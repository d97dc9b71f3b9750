import Corridor.Structure.Segment
import Corridor.Structure.Ending
import Corridor.Structure.Mark
import Corridor.Theme.Basic
/-!
Compiled biomes: their structure, the records of the theme, and the overrides in force at the end.
The theme is evaluated at every segment first, so that a rule anywhere can take over the start.
-/
namespace Corridor

structure CompiledBiome where
  structural : List Record
  decoration : List Record
  overrides : Overrides
  deriving DecidableEq, Repr

def BiomeOptions.frame (options : BiomeOptions) (segment : Segment) : Frame :=
  ⟨segment.x, segment.y, options.maxHeight, options.minHeight, options.corridorHeight⟩

namespace Biome

def evaluateFrom (options : BiomeOptions) (theme : Theme) (window : Window) :
    List Site → List Evaluation
  | [] => []
  | site :: rest =>
    let window := window.push site.orientation
    theme.evaluate window site.index (options.frame site.segment) ::
      evaluateFrom options theme window rest

def evaluations (biome : Biome) (theme : Theme) : List Evaluation :=
  evaluateFrom biome.options theme .empty biome.sites

def inForce (overrides : Overrides) : List Evaluation → List Overrides
  | [] => []
  | evaluation :: rest =>
    evaluation.apply overrides :: inForce (evaluation.apply overrides) rest

def finalOverrides (overrides : Overrides) (evaluations : List Evaluation) : Overrides :=
  evaluations.foldl (fun overrides evaluation => evaluation.apply overrides) overrides

/-- The start comes before all segments, so that a rule at any of them takes it over. -/
def startOverrides (overrides : Overrides) (evaluations : List Evaluation) : Overrides :=
  if evaluations.any fun evaluation => evaluation.overrides.contains .base then
    overrides.insert .base
  else overrides

def segmentRecords (options : BiomeOptions) (settings : Settings) (sites : List Site)
    (inForce : List Overrides) : List Record :=
  (sites.zip inForce).flatMap fun (site, overrides) =>
    Block.placeAll overrides (Structure.segment options settings site)

def trimmings (options : BiomeOptions) (settings : Settings) : List Record :=
  Structure.marks options settings ++ Structure.overlays options

def compile (biome : Biome) (settings : Settings) (theme : Theme) (overrides : Overrides) :
    CompiledBiome :=
  if biome.segments = [] then ⟨[], [], overrides⟩
  else
    let evaluations := biome.evaluations theme
    let first := startOverrides overrides evaluations
    let final := finalOverrides first evaluations
    { structural :=
        Block.placeAll first (Structure.start biome.options) ++
        segmentRecords biome.options settings biome.sites (inForce first evaluations) ++
        Block.placeAll final (Structure.ending biome) ++
        trimmings biome.options settings
      decoration := evaluations.flatMap Evaluation.records
      overrides := final }

/-- Whether no sum on the way leaves the integers of its width. Marks form none that could. -/
def fits (biome : Biome) (settings : Settings) (theme : Theme) (overrides : Overrides) : Bool :=
  let evaluations := biome.evaluations theme
  let first := startOverrides overrides evaluations
  biome.segments.isEmpty ||
    (biome.segments.all fun segment => theme.patterns.all fun pattern => pattern.fits segment.x) &&
    evaluations.all Evaluation.fits &&
    (Structure.start biome.options).all (Block.fits first) &&
    ((biome.sites.zip (inForce first evaluations)).all fun (site, overrides) =>
      (Structure.segment biome.options settings site).all (Block.fits overrides)) &&
    (Structure.ending biome).all (Block.fits (finalOverrides first evaluations))

/-- Compiles a biome in machine integers, which breaks off at a sum that leaves them. -/
def compile? (biome : Biome) (settings : Settings) (theme : Theme) (overrides : Overrides) :
    Option CompiledBiome :=
  if biome.fits settings theme overrides then some (biome.compile settings theme overrides) else none

theorem length_inForce (overrides : Overrides) (evaluations : List Evaluation) :
    (inForce overrides evaluations).length = evaluations.length := by
  induction evaluations generalizing overrides with
  | nil => rfl
  | cons evaluation rest ih => simp [inForce, ih]

end Biome
end Corridor
