import Corridor.Proofs.Evaluation

namespace Corridor

theorem Segment.orientation_congr (segment : Segment) {index first second : Nat}
    (last : index + 1 = first ↔ index + 1 = second) :
    segment.orientation index first = segment.orientation index second := by
  rw [orientation, orientation]
  by_cases ends : index + 1 = first
  · rw [if_pos ends, if_pos (last.mp ends)]
  · rw [if_neg ends, if_neg fun other => ends (last.mpr other)]

namespace Biome

structure SameHeights (first second : Biome) : Prop where
  corridorHeight : first.options.corridorHeight = second.options.corridorHeight
  minHeight : first.options.minHeight = second.options.minHeight
  maxHeight : first.options.maxHeight = second.options.maxHeight

/-- The segment of an index exists in both biomes and is the same, as are the ten before it, and it
is the last in both or in neither. -/
structure AgreeAt (first second : Biome) (index : Nat) : Prop where
  valid_first : index < first.segments.length
  valid_second : index < second.segments.length
  segments : ∀ position, index - 10 ≤ position → position ≤ index →
    first.segments[position]? = second.segments[position]?
  last : index + 1 = first.segments.length ↔ index + 1 = second.segments.length

variable {first second : Biome} {index : Nat}

theorem frame_eq (heights : first.SameHeights second) (segment : Segment) :
    first.options.frame segment = second.options.frame segment := by
  rw [BiomeOptions.frame, BiomeOptions.frame, heights.corridorHeight, heights.minHeight,
    heights.maxHeight]

theorem AgreeAt.getElem?_codes (agree : first.AgreeAt second index) {position : Nat}
    (recent : index - 10 ≤ position) (within : position ≤ index) :
    first.codes[position]? = second.codes[position]? := by
  have last : position + 1 = first.segments.length ↔ position + 1 = second.segments.length := by
    -- a segment before the index is the last of neither biome
    have inFirst := agree.valid_first
    have inSecond := agree.valid_second
    have ends := agree.last
    rcases Nat.lt_or_eq_of_le within with before | rfl
    · omega
    · exact ends
  rw [Biome.getElem?_codes, Biome.getElem?_codes, agree.segments position recent within]
  exact Option.map_congr fun segment _ => segment.orientation_congr last

theorem AgreeAt.windowAt_eq (agree : first.AgreeAt second index) :
    first.windowAt index = second.windowAt index := by
  apply Window.eq_of_codes_eq
  apply List.ext_getElem?
  intro position
  by_cases within : position < windowLength
  · rw [getElem?_windowAt first agree.valid_first within,
      getElem?_windowAt second agree.valid_second within]
    have eleven : windowLength = 11 := rfl
    by_cases padding : index + position < 10
    · rw [if_pos padding, if_pos padding]
    · rw [if_neg padding, if_neg padding]
      exact agree.getElem?_codes (by omega) (by omega)
  · rw [List.getElem?_eq_none (by rw [Window.length_codes]; omega),
      List.getElem?_eq_none (by rw [Window.length_codes]; omega)]

theorem getElem?_evaluations_eq (theme : Theme) (heights : first.SameHeights second)
    (agree : first.AgreeAt second index) :
    (first.evaluations theme)[index]? = (second.evaluations theme)[index]? := by
  rw [getElem?_evaluations, getElem?_evaluations,
    agree.segments index (Nat.sub_le index 10) (Nat.le_refl index)]
  apply Option.map_congr
  intro segment _
  rw [evaluationAt, evaluationAt, agree.windowAt_eq, frame_eq heights]

theorem agreeAt_set (biome : Biome) (segment : Segment) {changed : Nat}
    (valid : index < biome.segments.length) (far : ¬(changed ≤ index ∧ index ≤ changed + 10)) :
    ({ biome with segments := biome.segments.set changed segment } : Biome).AgreeAt biome index where
  valid_first := by rwa [List.length_set]
  valid_second := valid
  segments := by
    intro position recent within
    exact List.getElem?_set_ne (by omega)
  last := by rw [List.length_set]

theorem agreeAt_append (biome : Biome) (more : List Segment)
    (before : index + 1 < biome.segments.length) :
    ({ biome with segments := biome.segments ++ more } : Biome).AgreeAt biome index where
  valid_first := by rw [List.length_append]; omega
  valid_second := by omega
  segments := by
    intro position _ within
    exact List.getElem?_append_left (by omega)
  last := by rw [List.length_append]; omega

/-- Biomes of the same heights that agree on a segment and the ten before it evaluate a theme alike
there. So a changed segment reaches no further than ten segments on, and segments added at the end
reach back to the last one only. -/
theorem evaluations_local (theme : Theme) :
    (∀ (first second : Biome) (index : Nat), first.SameHeights second → first.AgreeAt second index →
      ∃ evaluation, (first.evaluations theme)[index]? = some evaluation ∧
        (second.evaluations theme)[index]? = some evaluation) ∧
    (∀ (biome : Biome) (changed : Nat) (segment : Segment) (index : Nat),
      ¬(changed ≤ index ∧ index ≤ changed + 10) →
      (evaluations { biome with segments := biome.segments.set changed segment } theme)[index]? =
        (biome.evaluations theme)[index]?) ∧
    (∀ (biome : Biome) (more : List Segment) (index : Nat), index + 1 < biome.segments.length →
      (evaluations { biome with segments := biome.segments ++ more } theme)[index]? =
        (biome.evaluations theme)[index]?) := by
  refine ⟨?_, ?_, ?_⟩
  · intro first second index heights agree
    have present := List.getElem?_eq_getElem agree.valid_second
    have evaluated : (second.evaluations theme)[index]? =
        some (second.evaluationAt theme index (second.segments.get ⟨index, agree.valid_second⟩)) := by
      rw [getElem?_evaluations, present]
      rfl
    exact ⟨_, (getElem?_evaluations_eq theme heights agree).trans evaluated, evaluated⟩
  · intro biome changed segment index far
    by_cases valid : index < biome.segments.length
    · exact getElem?_evaluations_eq theme ⟨rfl, rfl, rfl⟩ (agreeAt_set biome segment valid far)
    · rw [getElem?_evaluations, getElem?_evaluations]
      simp [valid]
  · intro biome more index before
    exact getElem?_evaluations_eq theme ⟨rfl, rfl, rfl⟩ (agreeAt_append biome more before)

def ramp (second : Segment) : Biome where
  segments := ⟨465, 195, .up, {}⟩ :: second :: List.replicate 11 ⟨525, 255, .up, {}⟩

def rampTheme : Theme where
  rules := [⟨[.suffix (List.replicate 10 .slope ++ [.endUp])], [.override .endUp], false⟩]
  patterns := [⟨1, [Record.ofId 1], 525, 30⟩]

theorem ramp_evaluations_local :
    let slope := ramp ⟨495, 225, .up, {}⟩
    let portal := ramp ⟨495, 225, .down, { portal := .gravity }⟩
    (∃ evaluation, evaluation.rule = some 0 ∧
      (slope.evaluations rampTheme)[12]? = some evaluation ∧
      (portal.evaluations rampTheme)[12]? = some evaluation) ∧
    (evaluations { slope with segments := slope.segments.set 1 ⟨495, 225, .neutral, {}⟩ }
        rampTheme)[12]? = (slope.evaluations rampTheme)[12]? ∧
    (evaluations { slope with segments := slope.segments ++ [⟨555, 285, .up, {}⟩] } rampTheme)[11]? =
      (slope.evaluations rampTheme)[11]? := by
  intro slope portal
  obtain ⟨agreeing, changing, adding⟩ := evaluations_local rampTheme
  have agree : slope.AgreeAt portal 12 := by
    refine ⟨by decide, by decide, ?_, Iff.rfl⟩
    intro position recent _
    match position with
    | 0 | 1 => omega
    | position + 2 => rfl
  have fires : (slope.evaluations rampTheme)[12]?.map Evaluation.rule = some (some 0) := by decide
  obtain ⟨evaluation, inSlope, inPortal⟩ := agreeing slope portal 12 ⟨rfl, rfl, rfl⟩ agree
  rw [inSlope] at fires
  exact ⟨⟨evaluation, Option.some.inj fires, inSlope, inPortal⟩,
    changing slope 1 _ 12 (by decide), adding slope _ 11 (by decide)⟩

end Biome
end Corridor
