import Corridor.Proofs.Moderate
import Corridor.Proofs.Objects
import Corridor.Proofs.Spots
import Corridor.Proofs.Suppression

namespace Corridor

open Structure

theorem WaveSize.wall_not_mem (size : WaveSize) {objects : List Nat}
    (neither : ObjectId.slope ∉ objects ∧ ObjectId.miniSlope ∉ objects) : size.wall ∉ objects := by
  cases size with
  | normal => exact neither.1
  | mini => exact neither.2

theorem Block.filter_place_of (overrides : Overrides) (category : Category) (records : List Record)
    (sums : List Int) (kept : Record → Bool) :
    ((Block.of category records sums).place overrides).filter kept =
      if overrides.contains category then [] else records.filter kept := by
  rw [place, suppressed, of, Option.any_some]
  split <;> rfl

theorem Structure.filter_wall_segment (options : BiomeOptions) (settings : Settings) (site : Site)
    (overrides : Overrides) :
    (Block.placeAll overrides (Structure.segment options settings site)).filter
        (Record.isOf options.startingSize.wall) =
      if overrides.contains .slope then [] else walls options site.segment := by
  have own := Record.filter_isOf_eq_self (ofObject_walls options site.segment)
  have corners := Record.filter_isOf_eq_nil (ofObject_cornersAt options settings site)
    (options.startingSize.wall_not_mem (by decide))
  have portal := Record.filter_isOf_eq_nil (ofObject_portal options site)
    (options.startingSize.wall_not_mem (by decide))
  have speed := Record.filter_isOf_eq_nil (ofObject_speedTrigger options site.segment)
    (options.startingSize.wall_not_mem (by decide))
  have spike := Record.filter_isOf_eq_nil (ofObject_spike options site.segment)
    (options.startingSize.wall_not_mem (by decide))
  have fuzz := Record.filter_isOf_eq_nil (ofObject_fuzz options site.segment)
    (options.startingSize.wall_not_mem (by decide))
  simp only [Block.placeAll, Structure.segment, List.flatMap_cons, List.flatMap_nil, List.filter_append,
    Block.filter_place_of, own, corners, portal, speed, spike, fuzz, List.append_nil,
    ite_self]

theorem Structure.length_walls (options : BiomeOptions) (segment : Segment) :
    (walls options segment).length = 2 := by
  rw [walls]
  cases options.startingSize <;> rfl

theorem Structure.filter_wall_start (options : BiomeOptions) (overrides : Overrides) :
    (Block.placeAll overrides (Structure.start options)).filter
      (Record.isOf options.startingSize.wall) = [] := by
  have base := Record.filter_isOf_eq_nil (ofObject_base options.corridorHeight)
    (options.startingSize.wall_not_mem (by decide))
  have speed := Record.filter_isOf_eq_nil (ofObject_startingSpeed options.startingSpeed)
    (options.startingSize.wall_not_mem (by decide))
  have fixed : (Block.fixed [startingSpeed options.startingSpeed]).place overrides =
      [startingSpeed options.startingSpeed] := rfl
  simp only [Block.placeAll, Structure.start, List.flatMap_cons, List.flatMap_nil, List.filter_append,
    Block.filter_place_of, fixed, base, speed, List.append_nil, ite_self]

theorem Structure.filter_wall_trimmings (options : BiomeOptions) (settings : Settings) :
    (Biome.trimmings options settings).filter (Record.isOf options.startingSize.wall) = [] := by
  have marks := Record.filter_isOf_eq_nil (ofObject_marks options settings)
    (options.startingSize.wall_not_mem (by decide))
  have overlays := Record.filter_isOf_eq_nil (ofObject_overlays options)
    (options.startingSize.wall_not_mem (by decide))
  rw [Biome.trimmings, List.filter_append, marks, overlays, List.append_nil]

namespace Biome

theorem getElem_inForce_contains (biome : Biome) (theme : Theme) (overrides : Overrides)
    {category : Category} (other : category ≠ .base) (index : Nat)
    (bound : index <
      (inForce (startOverrides overrides (biome.evaluations theme)) (biome.evaluations theme)).length) :
    (inForce (startOverrides overrides (biome.evaluations theme))
      (biome.evaluations theme))[index].contains category =
        biome.overriddenAt theme overrides index category := by
  simp only [inForce_eq_mapIdx, List.getElem_mapIdx]
  exact contains_inForce biome theme overrides index category other

theorem length_inForce_evaluations (biome : Biome) (theme : Theme) (overrides : Overrides) :
    (inForce overrides (biome.evaluations theme)).length = biome.segments.length := by
  rw [length_inForce, evaluations_eq_mapIdx, List.length_mapIdx]

theorem contains_apply {overrides : Overrides} {category : Category} (evaluation : Evaluation)
    (overridden : overrides.contains category = true) :
    (evaluation.apply overrides).contains category = true := by
  rw [Evaluation.apply, Overrides.contains_insertAll, overridden, Bool.or_true]

theorem findIdx_inForce_of_contains {overrides : Overrides} {category : Category}
    (overridden : overrides.contains category = true) (evaluations : List Evaluation) :
    (inForce overrides evaluations).findIdx (fun current => current.contains category) = 0 := by
  cases evaluations with
  | nil => rfl
  | cons evaluation rest =>
    rw [inForce, List.findIdx_cons, contains_apply evaluation overridden]
    rfl

/-- The walls end with the first segment at which they are overridden: what is overridden there is
overridden at all later ones. -/
theorem filter_wall_segmentRecords (options : BiomeOptions) (settings : Settings)
    (overrides : Overrides) (evaluations : List Evaluation) (sites : List Site) :
    (segmentRecords options settings sites (inForce overrides evaluations)).filter
        (Record.isOf options.startingSize.wall) =
      (sites.take ((inForce overrides evaluations).findIdx fun current =>
        current.contains .slope)).flatMap fun site => walls options site.segment := by
  induction evaluations generalizing overrides sites with
  | nil => simp [segmentRecords, inForce]
  | cons evaluation rest ih =>
    cases sites with
    | nil => simp [segmentRecords]
    | cons site sites =>
      have later := ih (evaluation.apply overrides) sites
      rw [segmentRecords] at later ⊢
      rw [inForce, List.zip_cons_cons, List.flatMap_cons, List.filter_append, later,
        filter_wall_segment, List.findIdx_cons]
      cases overridden : (evaluation.apply overrides).contains .slope with
      | true => simp [findIdx_inForce_of_contains overridden]
      | false => simp

def wallReach (biome : Biome) (theme : Theme) (overrides : Overrides) : Nat :=
  (inForce (startOverrides overrides (biome.evaluations theme)) (biome.evaluations theme)).findIdx
    fun current => current.contains .slope

section Reach

variable (biome : Biome) (theme : Theme) (overrides : Overrides)

theorem wallReach_le : biome.wallReach theme overrides ≤ biome.segments.length := by
  rw [← length_inForce_evaluations biome theme]
  exact List.findIdx_le_length

theorem overriddenAt_wallReach (short : biome.wallReach theme overrides < biome.segments.length) :
    biome.overriddenAt theme overrides (biome.wallReach theme overrides) .slope = true := by
  rw [← length_inForce_evaluations biome theme] at short
  rw [← getElem_inForce_contains biome theme overrides (by decide) _ short]
  unfold wallReach
  exact List.findIdx_getElem (p := fun current : Overrides => current.contains .slope)

theorem overriddenAt_of_lt_wallReach {index : Nat} (early : index < biome.wallReach theme overrides) :
    biome.overriddenAt theme overrides index .slope = false := by
  have bound := early.trans_le (biome.wallReach_le theme overrides)
  rw [← length_inForce_evaluations biome theme] at bound
  rw [← getElem_inForce_contains biome theme overrides (by decide) index bound]
  exact List.not_of_lt_findIdx early

end Reach

theorem exists_structural_around_ending (biome : Biome) (settings : Settings) (theme : Theme)
    (overrides : Overrides) :
    let compiled := biome.compile settings theme overrides
    let isWall := Record.isOf biome.options.startingSize.wall
    ∃ before after : List Record,
      compiled.structural =
        before ++ Block.placeAll compiled.overrides (Structure.ending biome) ++ after ∧
      before.filter isWall =
        (biome.segments.take (biome.wallReach theme overrides)).flatMap (walls biome.options) ∧
      after.filter isWall = [] := by
  intro compiled isWall
  by_cases empty : biome.segments = []
  · refine ⟨[], [], ?_, ?_, rfl⟩
    · have ending : Structure.ending biome = [] := by
        rw [Structure.ending, empty]
        rfl
      rw [ending]
      exact congrArg CompiledBiome.structural (if_pos empty)
    · rw [empty, List.take_nil]
      rfl
  · let evaluations := biome.evaluations theme
    let first := startOverrides overrides evaluations
    refine ⟨Block.placeAll first (Structure.start biome.options) ++
      segmentRecords biome.options settings biome.sites (inForce first evaluations),
      trimmings biome.options settings, ?_, ?_, filter_wall_trimmings biome.options settings⟩
    · have whole : compiled = _ := if_neg empty
      rw [whole]
    · rw [List.filter_append, filter_wall_start, List.nil_append, filter_wall_segmentRecords,
        ← map_segment_sites biome, ← List.map_take, List.flatMap_map]
      rfl

/-- Around its diagonals at the end, a compiled structure has no walls but those of the segments before
the first at which slopes are overridden, or of all segments if there is none: for each of these in
turn the floor piece and the ceiling piece. All of them come before the diagonals. A biome of moderate
coordinates is always compiled. -/
theorem walls_in_order (biome : Biome) (settings : Settings) (theme : Theme) (overrides : Overrides) :
    (biome.Moderate → theme.Moderate → (biome.compile? settings theme overrides).isSome = true) ∧
    ∀ compiled, biome.compile? settings theme overrides = some compiled →
      ∃ (reach : Nat) (before after : List Record),
        (reach ≤ biome.segments.length ∧
          (∀ index < reach, biome.overriddenAt theme overrides index .slope = false) ∧
          (reach < biome.segments.length → biome.overriddenAt theme overrides reach .slope = true) ∧
          ((∀ index < biome.segments.length, biome.overriddenAt theme overrides index .slope = false) →
            reach = biome.segments.length)) ∧
        compiled.structural =
          before ++ Block.placeAll compiled.overrides (Structure.ending biome) ++ after ∧
        (before.filter (Record.isOf biome.options.startingSize.wall)).length = 2 * reach ∧
        (before.filter (Record.isOf biome.options.startingSize.wall)).map Record.spot? =
          ((biome.segments.take reach).flatMap fun segment =>
            [some (floorSpot biome.options segment), some (ceilingSpot biome.options segment)]) ∧
        after.filter (Record.isOf biome.options.startingSize.wall) = [] := by
  constructor
  · intro moderate gentle
    rw [compile?, if_pos (fits_of_moderate moderate gentle settings overrides)]
    rfl
  · intro compiled returned
    obtain ⟨_, whole⟩ := Option.ite_none_right_eq_some.mp returned
    obtain rfl := Option.some.inj whole
    obtain ⟨before, after, structural, own, none_after⟩ :=
      exists_structural_around_ending biome settings theme overrides
    have within := biome.wallReach_le theme overrides
    have overridden := biome.overriddenAt_wallReach theme overrides
    refine ⟨biome.wallReach theme overrides, before, after,
      ⟨within, fun _ early => biome.overriddenAt_of_lt_wallReach theme overrides early, overridden, ?_⟩,
      structural, ?_, ?_, none_after⟩
    · intro never
      refine Nat.le_antisymm within (Nat.le_of_not_lt fun short => ?_)
      exact absurd (overridden short) (by simp [never _ short])
    · rw [own, length_flatMap_of_length (length_walls biome.options), List.length_take,
        Nat.min_eq_left within]
    · rw [own, List.map_flatMap]
      exact congrArg (List.flatMap · _) (funext (spots_walls biome.options))

def gallery : Biome where
  segments := [⟨465, 195, .up, {}⟩, ⟨495, 225, .up, {}⟩, ⟨525, 225, .down, {}⟩]

def galleryTheme : Theme where
  rules := [⟨[.residue 3 1], [.override .slope], false⟩]

theorem galleryTheme_moderate : galleryTheme.Moderate where
  offsets := by
    simp [galleryTheme]
  starts := by
    simp [galleryTheme]

theorem gallery_walls_in_order :
    gallery.Moderate ∧ galleryTheme.Moderate ∧
    ∃ compiled before after, gallery.compile? {} galleryTheme {} = some compiled ∧
      compiled.structural =
        before ++ Block.placeAll compiled.overrides (Structure.ending gallery) ++ after ∧
      (before.filter (Record.isOf 1338)).map Record.spot? =
        [some ⟨1338, 465, 195⟩, some ⟨1338, 465, 255⟩] ∧
      after.filter (Record.isOf 1338) = [] := by
  have moderate : gallery.Moderate := by
    decide
  obtain ⟨placed, walls⟩ := walls_in_order gallery {} galleryTheme {}
  obtain ⟨compiled, returned⟩ :=
    Option.isSome_iff_exists.mp (placed moderate galleryTheme_moderate)
  obtain ⟨reach, before, after, ⟨_, free, overridden, _⟩, structural, _, spots, none_after⟩ :=
    walls compiled returned
  have first : gallery.overriddenAt galleryTheme {} 0 .slope = false := by
    decide
  have second : gallery.overriddenAt galleryTheme {} 1 .slope = true := by
    decide
  obtain rfl : reach = 1 := by
    match reach with
    | 0 => exact absurd (overridden (by decide)) (by simp [first])
    | 1 => rfl
    | later + 2 => exact absurd (free 1 (by omega)) (by simp [second])
  exact ⟨moderate, galleryTheme_moderate, compiled, before, after, returned, structural, spots, none_after⟩

def ledge : Biome where
  segments := [⟨465, 195, .up, {}⟩, ⟨495, 2147483600, .neutral, {}⟩]

theorem ledge_overflows :
    ledge.errors = [] ∧ (∀ index < 2, ledge.overriddenAt {} { base := true } index .slope = false) ∧
    ledge.compile? {} {} { base := true } = none := by
  refine ⟨by decide, by decide, if_neg ?_⟩
  decide

end Biome
end Corridor
