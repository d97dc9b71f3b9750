import Corridor.Proofs.Objects
import Corridor.Proofs.Streams

namespace Corridor

open Structure

theorem Piece.filter_ofRecords (origin : Origin) (category : Option Category) (records : List Record)
    (kept : Record → Bool) :
    (ofRecords origin category records).filter (fun piece => kept piece.record) =
      ofRecords origin category (records.filter kept) := by
  rw [ofRecords, List.filter_map]
  rfl

section
variable {objects : List Nat} (apart : ∀ id ∈ fixedObjects, id ∉ objects)
include apart

theorem Record.filter_avoids_of_fixed {own : List Nat} {records : List Record}
    (made : ∀ record ∈ records, record.OfObject own) (within : own ⊆ fixedObjects) :
    records.filter (avoids objects) = records :=
  filter_avoids_eq_self made fun id listed => apart id (within listed)

theorem Site.pieces_eq_filter {options : BiomeOptions} {settings others : Settings} {site : Site}
    (corners : cornersAt options settings site =
      (cornersAt options others site).filter (Record.avoids objects)) :
    site.pieces options settings =
      (site.pieces options others).filter fun piece => piece.record.avoids objects := by
  have wall : [options.startingSize.wall] ⊆ fixedObjects := by
    cases options.startingSize <;> decide
  have walls := Record.filter_avoids_of_fixed apart (ofObject_walls options site.segment) wall
  have portal := Record.filter_avoids_of_fixed apart (ofObject_portal options site) (by decide)
  have speed :=
    Record.filter_avoids_of_fixed apart (ofObject_speedTrigger options site.segment) (by decide)
  have spike := Record.filter_avoids_of_fixed apart (ofObject_spike options site.segment) (by decide)
  have fuzz := Record.filter_avoids_of_fixed apart (ofObject_fuzz options site.segment) (by decide)
  simp only [pieces, List.filter_append, Piece.filter_ofRecords, walls, portal, speed, spike, fuzz,
    ← corners]

theorem Biome.pieces_eq_filter {biome : Biome} {settings others : Settings}
    (corners : ∀ site, cornersAt biome.options settings site =
      (cornersAt biome.options others site).filter (Record.avoids objects))
    (marks : marks biome.options settings =
      (Structure.marks biome.options others).filter (Record.avoids objects)) :
    biome.pieces settings =
      (biome.pieces others).filter fun piece => piece.record.avoids objects := by
  have base := Record.filter_avoids_of_fixed apart (ofObject_base biome.options.corridorHeight)
    (by decide)
  have speed := Record.filter_avoids_of_fixed apart
    (ofObject_startingSpeed biome.options.startingSpeed) (by decide)
  have ending := Record.filter_avoids_of_fixed apart (ofObject_ending biome) (by decide)
  have overlays := Record.filter_avoids_of_fixed apart (ofObject_overlays biome.options) (by decide)
  have sites : biome.sites.flatMap (Site.pieces biome.options settings) =
      (biome.sites.flatMap (Site.pieces biome.options others)).filter
        fun piece => piece.record.avoids objects := by
    rw [List.filter_flatMap]
    exact congrArg biome.sites.flatMap (funext fun site => Site.pieces_eq_filter apart (corners site))
  rw [pieces, pieces]
  split
  · rfl
  · simp only [trimmings, List.filter_append, Piece.filter_ofRecords, base, speed, ending, overlays,
      ← sites, ← marks]

/-- What the theme takes away is taken away of either structure. -/
theorem Biome.structural_eq_filter {biome : Biome} {settings others : Settings}
    (corners : ∀ site, cornersAt biome.options settings site =
      (cornersAt biome.options others site).filter (Record.avoids objects))
    (marks : marks biome.options settings =
      (Structure.marks biome.options others).filter (Record.avoids objects))
    (theme : Theme) (overrides : Overrides) :
    (biome.compile settings theme overrides).structural =
      (biome.compile others theme overrides).structural.filter (Record.avoids objects) := by
  rw [structural_compile, structural_compile, pieces_eq_filter apart corners marks, List.filter_map,
    List.filter_filter, List.filter_filter]
  congr 2
  funext piece
  exact Bool.and_comm _ _

end

namespace Biome

variable (biome : Biome) (theme : Theme) (overrides : Overrides)

theorem structural_without_corners (settings : Settings) :
    (biome.compile { settings with cornerPieces := false } theme overrides).structural =
      (biome.compile { settings with cornerPieces := true } theme overrides).structural.filter
        (Record.avoids [ObjectId.corner]) := by
  apply structural_eq_filter (by decide)
  · intro site
    rw [Record.filter_avoids_eq_nil (ofObject_cornersAt _ _ site)]
    simp [cornersAt]
  · exact (Record.filter_avoids_eq_self (ofObject_marks _ _) (by decide)).symm

/-- The distance between marks does not matter, since none of them is left. -/
theorem structural_without_marks {settings others : Settings} (hidden : settings.marksEnabled = false)
    (corners : settings.cornerPieces = others.cornerPieces) :
    (biome.compile settings theme overrides).structural =
      (biome.compile others theme overrides).structural.filter (Record.avoids markObjects) := by
  apply structural_eq_filter (by decide)
  · intro site
    rw [Record.filter_avoids_eq_self (ofObject_cornersAt _ _ site) (by decide), cornersAt, corners,
      ← cornersAt]
  · rw [Record.filter_avoids_eq_nil (ofObject_marks _ _), marks, hidden]
    rfl

theorem overrides_eq_of_settings (settings others : Settings) :
    (biome.compile settings theme overrides).overrides =
      (biome.compile others theme overrides).overrides := by
  apply Overrides.ext_contains
  intro category
  rw [contains_overrides_compile, contains_overrides_compile]

/-- Without corners, all but the records of their object are placed in the same order; and so it is
without marks, whether they are turned off or set no distance apart. No setting bears on the records
of the theme or on the final overrides, and the name of the theme bears on nothing. -/
theorem compile_within_settings (biome : Biome) (theme : Theme) (overrides : Overrides)
    (settings : Settings) :
    let compiled := fun settings : Settings => biome.compile settings theme overrides
    (compiled { settings with cornerPieces := false }).structural =
      (compiled { settings with cornerPieces := true }).structural.filter
        (Record.avoids [ObjectId.corner]) ∧
    (∀ (shown : Bool) (interval distance : Int), shown = false ∨ interval ≤ 0 →
      (compiled { settings with meterMarks := shown, markerInterval := interval }).structural =
        (compiled { settings with meterMarks := true, markerInterval := distance }).structural.filter
          (Record.avoids [ObjectId.meterTick, ObjectId.textLabel])) ∧
    (∀ others : Settings, (compiled others).decoration = (compiled settings).decoration ∧
      (compiled others).overrides = (compiled settings).overrides) ∧
    ∀ name, compiled { settings with activeTheme := name } = compiled settings := by
  intro compiled
  refine ⟨structural_without_corners biome theme overrides settings, ?_, ?_, fun _ => rfl⟩
  · intro shown interval distance disabled
    have hidden : Settings.marksEnabled
        { settings with meterMarks := shown, markerInterval := interval } = false := by
      rcases disabled with rfl | small
      · rfl
      · simp [Settings.marksEnabled, small]
    exact structural_without_marks biome theme overrides hidden rfl
  · intro others
    constructor
    · rw [decoration_compile, decoration_compile]
    · exact overrides_eq_of_settings biome theme overrides others settings

def bend : Biome where
  options := { length := 120 }
  segments := [⟨465, 195, .up, {}⟩, ⟨495, 225, .up, {}⟩, ⟨525, 225, .down, {}⟩,
    ⟨555, 195, .neutral, {}⟩]

theorem bend_within_settings :
    let compiled := fun settings : Settings => bend.compile settings {} {}
    let whole := (compiled {}).structural
    (compiled { cornerPieces := false }).structural = whole.filter (Record.avoids [ObjectId.corner]) ∧
    ((true = false ∨ (0 : Int) ≤ 0) ∧ (compiled { markerInterval := 0 }).structural =
      whole.filter (Record.avoids [ObjectId.meterTick, ObjectId.textLabel])) ∧
    (whole.length, (compiled { cornerPieces := false }).structural.length,
      (compiled { markerInterval := 0 }).structural.length) = (47, 45, 36) := by
  obtain ⟨corners, marks, _⟩ := compile_within_settings bend {} {} {}
  have apart : true = false ∨ (0 : Int) ≤ 0 := .inr (by decide)
  exact ⟨corners, ⟨apart, marks true 0 100 apart⟩, by decide +kernel⟩

end Biome
end Corridor
