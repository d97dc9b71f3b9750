import Corridor.Proofs.Evaluation
import Corridor.Proofs.Winner
/-!
Compiling in a single pass, which evaluates the theme at a segment and places its structure before it
goes on to the next. Main statement: what is compiled is what a single pass makes, once the base is
among the overrides before it exactly if the theme overrides it at some segment.
-/
namespace Corridor

/-- What a pass carries from one segment to the next, and what it has placed so far. -/
structure Pass where
  window : Window
  overrides : Overrides
  structural : List Record
  decoration : List Record

namespace Pass

def start (options : BiomeOptions) (overrides : Overrides) : Pass where
  window := .empty
  overrides := overrides
  structural := Block.placeAll overrides (Structure.start options)
  decoration := []

/-- A pass over one segment. What the theme takes over there counts for the segment already. -/
def step (options : BiomeOptions) (settings : Settings) (theme : Theme) (pass : Pass) (site : Site) :
    Pass :=
  let window := pass.window.push site.orientation
  let evaluation := theme.evaluate window site.index (options.frame site.segment)
  let overrides := evaluation.apply pass.overrides
  { window := window
    overrides := overrides
    structural :=
      pass.structural ++ Block.placeAll overrides (Structure.segment options settings site)
    decoration := pass.decoration ++ evaluation.records }

def finish (biome : Biome) (settings : Settings) (pass : Pass) : CompiledBiome where
  structural :=
    pass.structural ++ Block.placeAll pass.overrides (Structure.ending biome) ++
    Structure.marks biome.options settings ++ Structure.overlays biome.options
  decoration := pass.decoration
  overrides := pass.overrides

/-- The segments that are still to come add what they add to an empty pass: their evaluations from the
window that is carried, and their structure under the overrides that are. -/
theorem foldl_step (options : BiomeOptions) (settings : Settings) (theme : Theme) (pass : Pass)
    (sites : List Site) :
    let evaluations := Biome.evaluateFrom options theme pass.window sites
    sites.foldl (step options settings theme) pass =
      { window := (sites.map Site.orientation).foldl Window.push pass.window
        overrides := Biome.finalOverrides pass.overrides evaluations
        structural := pass.structural ++
          Biome.segmentRecords options settings sites (Biome.inForce pass.overrides evaluations)
        decoration := pass.decoration ++ evaluations.flatMap Evaluation.records } := by
  induction sites generalizing pass with
  | nil => simp [Biome.evaluateFrom, Biome.finalOverrides, Biome.segmentRecords]
  | cons site rest ih =>
    -- the rest starts from the window and the overrides that this site leaves
    rw [List.foldl_cons, ih]
    simp [step, Biome.evaluateFrom, Biome.finalOverrides, Biome.segmentRecords, Biome.inForce]

end Pass

namespace Biome

def stream (biome : Biome) (settings : Settings) (theme : Theme) (overrides : Overrides) :
    CompiledBiome :=
  let pass := biome.segments.zipIdx.foldl
    (fun pass (segment, index) =>
      pass.step biome.options settings theme (biome.siteAt index segment))
    (Pass.start biome.options overrides)
  pass.finish biome settings

variable (biome : Biome) (settings : Settings) (theme : Theme) (overrides : Overrides)

theorem sites_eq_map_zipIdx : biome.sites =
    biome.segments.zipIdx.map fun (segment, index) => biome.siteAt index segment := by
  rw [sites_eq_mapIdx, List.mapIdx_eq_zipIdx_map]

theorem stream_eq :
    let evaluations := biome.evaluations theme
    biome.stream settings theme overrides =
      { structural :=
          Block.placeAll overrides (Structure.start biome.options) ++
          segmentRecords biome.options settings biome.sites (inForce overrides evaluations) ++
          Block.placeAll (finalOverrides overrides evaluations) (Structure.ending biome) ++
          trimmings biome.options settings
        decoration := evaluations.flatMap Evaluation.records
        overrides := finalOverrides overrides evaluations } := by
  intro evaluations
  have run := Pass.foldl_step biome.options settings theme (Pass.start biome.options overrides)
    biome.sites
  rw [sites_eq_map_zipIdx, List.foldl_map, ← sites_eq_map_zipIdx] at run
  rw [stream, run, Pass.finish, trimmings, List.append_assoc _ (Structure.marks _ _)]
  rfl

/-- The start is compiled under the overrides of the start, and the segments follow in one pass. -/
theorem compile_eq_stream_startOverrides (nonempty : biome.segments ≠ []) :
    biome.compile settings theme overrides =
      biome.stream settings theme (startOverrides overrides (biome.evaluations theme)) := by
  rw [stream_eq, compile, if_neg nonempty]

theorem head?_placeAll_start (options : BiomeOptions) :
    (Block.placeAll overrides (Structure.start options)).head? =
      if overrides.contains .base then some (Structure.startingSpeed options.startingSpeed)
      else some (Structure.solidBlock 15 15) := by
  have blocks : Structure.baseBlocks.head? = some (Structure.solidBlock 15 15) := rfl
  rw [Block.placeAll, Structure.start]
  cases base : overrides.contains .base with
  | true => simp [Block.place, Block.suppressed, Block.of, Block.fixed, base]
  | false => simp [Block.place, Block.suppressed, Block.of, Block.fixed, base, blocks]

theorem head?_stream :
    (biome.stream settings theme overrides).structural.head? =
      if overrides.contains .base then some (Structure.startingSpeed biome.options.startingSpeed)
      else some (Structure.solidBlock 15 15) := by
  rw [stream_eq]
  dsimp only
  rw [List.head?_append, List.head?_append, List.head?_append, head?_placeAll_start]
  split <;> rfl

theorem startingSpeed_ne_solidBlock (speed : SpeedChange) (x y : Int) :
    Structure.startingSpeed speed ≠ Structure.solidBlock x y := by
  intro same
  have count := congrArg (fun record => record.fields.length) same
  simp [Structure.startingSpeed, Structure.solidBlock] at count

def OverridesBase (biome : Biome) (theme : Theme) : Prop :=
  ∃ evaluation ∈ biome.evaluations theme, Category.base ∈ evaluation.overrides

instance (biome : Biome) (theme : Theme) : Decidable (biome.OverridesBase theme) :=
  inferInstanceAs (Decidable (∃ evaluation ∈ biome.evaluations theme, _))

theorem any_contains_base :
    ((biome.evaluations theme).any fun evaluation => evaluation.overrides.contains .base) =
      decide (biome.OverridesBase theme) := by
  rw [Bool.eq_iff_iff, List.any_eq_true, decide_eq_true_iff]
  simp only [List.contains_iff_mem]
  rfl

theorem startOverrides_eq :
    startOverrides overrides (biome.evaluations theme) =
      if biome.OverridesBase theme then overrides.insert .base else overrides := by
  rw [startOverrides, any_contains_base]
  simp

theorem contains_base_eq_of_stream_eq {first second : Overrides}
    (same : biome.stream settings theme first = biome.stream settings theme second) :
    first.contains .base = second.contains .base := by
  have heads := congrArg (fun compiled => compiled.structural.head?) same
  simp only [head?_stream] at heads
  have apart := startingSpeed_ne_solidBlock biome.options.startingSpeed 15 15
  cases inFirst : first.contains .base with
  | true =>
    cases inSecond : second.contains .base with
    | true => rfl
    | false =>
      rw [inFirst, inSecond] at heads
      exact absurd (Option.some.inj heads) apart
  | false =>
    cases inSecond : second.contains .base with
    | true =>
      rw [inFirst, inSecond] at heads
      exact absurd (Option.some.inj heads).symm apart
    | false => rfl

theorem not_overridesBase (never : ∀ rule ∈ theme.rules, Command.override .base ∉ rule.commands) :
    ¬biome.OverridesBase theme := by
  rintro ⟨evaluation, member, taken⟩
  rw [evaluations_eq_mapIdx] at member
  obtain ⟨index, bound, rfl⟩ := List.mem_mapIdx.mp member
  rw [evaluationAt, Theme.overrides_evaluate] at taken
  cases chosen : theme.winner? (biome.windowAt index) index with
  | none =>
    rw [chosen] at taken
    cases taken
  | some rule =>
    rw [chosen] at taken
    exact never rule (Theme.mem_rules_of_winner? chosen) (Rule.mem_overrides_iff.mp taken)

/-- A biome with segments is compiled as a single pass compiles it, provided that no rule takes over
the base. With any other theme it is, too, once the base is added to the overrides before the pass if
the theme takes it over at some segment. A pass comes to the same only from overrides that have the
base in exactly that case, or had it before. -/
theorem compile_eq_stream (biome : Biome) (nonempty : biome.segments ≠ []) (settings : Settings)
    (theme : Theme) (overrides : Overrides) :
    let compiled := biome.compile settings theme overrides
    ((∀ rule ∈ theme.rules, Command.override .base ∉ rule.commands) →
      compiled = biome.stream settings theme overrides) ∧
    compiled = biome.stream settings theme
      (if biome.OverridesBase theme then overrides.insert .base else overrides) ∧
    ∀ first : Overrides, compiled = biome.stream settings theme first →
      (first.contains .base = true ↔
        overrides.contains .base = true ∨ biome.OverridesBase theme) := by
  intro compiled
  have agrees := compile_eq_stream_startOverrides biome settings theme overrides nonempty
  refine ⟨?_, ?_, ?_⟩
  · intro never
    rwa [startOverrides_eq, if_neg (not_overridesBase biome theme never)] at agrees
  · rwa [startOverrides_eq] at agrees
  · intro first same
    rw [← contains_base_eq_of_stream_eq biome settings theme (agrees.symm.trans same),
      contains_startOverrides, any_contains_base]
    simp

def spire : Biome where
  segments := [⟨465, 195, .up, {}⟩, ⟨495, 225, .up, { spike := true }⟩, ⟨525, 255, .up, {}⟩]

def lateTheme : Theme where
  rules := [⟨[.suffix [.spike]], [.override .spike], false⟩,
    ⟨[.suffix [.endUp]], [.override .base], false⟩]

theorem spire_compile_eq_stream :
    spire.compile {} { lateTheme with rules := lateTheme.rules.take 1 } {} =
      spire.stream {} { lateTheme with rules := lateTheme.rules.take 1 } {} ∧
    spire.compile {} lateTheme {} = spire.stream {} lateTheme { base := true } ∧
    spire.compile {} lateTheme {} ≠ spire.stream {} lateTheme {} := by
  obtain ⟨plain, _, _⟩ := compile_eq_stream spire (List.cons_ne_nil _ _) {}
    { lateTheme with rules := lateTheme.rules.take 1 } {}
  obtain ⟨_, added, only⟩ := compile_eq_stream spire (List.cons_ne_nil _ _) {} lateTheme {}
  have late : spire.OverridesBase lateTheme := by decide
  rw [if_pos late] at added
  refine ⟨plain (by decide), added, ?_⟩
  intro same
  exact absurd ((only {} same).mpr (.inr late)) (by decide)

end Biome
end Corridor
