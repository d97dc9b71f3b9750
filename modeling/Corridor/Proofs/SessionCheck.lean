import Corridor.Proofs.Emptiness
import Corridor.Proofs.Supplied

namespace Corridor

namespace CommandLine

theorem all_inputChecks_iff {inputs : Inputs} :
    (inputChecks inputs).all Check.passed = true ↔ inputs.Valid := by
  rw [inputChecks, List.all_cons, Bool.and_eq_true, List.all_eq_true]
  constructor
  · rintro ⟨settings, biomes⟩
    refine ⟨List.isEmpty_iff.mp settings, fun biome member => ?_⟩
    obtain ⟨index, bound, rfl⟩ := List.getElem_of_mem member
    exact List.isEmpty_iff.mp (biomes _ (List.mem_mapIdx.mpr ⟨index, bound, rfl⟩))
  · rintro ⟨settings, biomes⟩
    refine ⟨List.isEmpty_iff.mpr settings, fun check member => ?_⟩
    obtain ⟨index, bound, rfl⟩ := List.mem_mapIdx.mp member
    exact List.isEmpty_iff.mpr (biomes _ (List.getElem_mem bound))

theorem exit_ofChecks_eq_zero_iff {printed : String} {checks : List Check} {verbose : Bool} :
    (Report.ofChecks printed checks verbose).exit = 0 ↔ ∀ check ∈ checks, check.passed = true := by
  have most := List.length_filter_le Check.passed checks
  rw [← List.length_filter_eq_length_iff, Report.ofChecks]
  dsimp only
  split <;> omega

variable (request : Request) (inputs : Inputs) (theme : Theme)

theorem passed_outputCheck : (outputCheck inputs (generate request inputs theme)).passed = true := by
  rw [outputCheck, generate, Level.isEmpty_generate, Inputs.hasSegments]
  cases inputs.level.biomes with
  | nil => rfl
  | cons biome rest => cases segments : biome.segments <;> simp [segments]

theorem passed_bodyCheck (output : Output) : (bodyCheck output).passed = true := by
  simp only [bodyCheck, Output.drop_header, Output.body_eq_recordChars]
  rcases getLast?_recordChars (output.compiled.structural ++ output.compiled.decoration) with
    empty | ended
  · simp [empty]
  · simp [ended]

theorem passed_outputChecks : ∀ check ∈ outputChecks request inputs theme, check.passed = true := by
  simp only [outputChecks, List.forall_mem_cons]
  exact ⟨passed_outputCheck request inputs theme, passed_bodyCheck _, decide_eq_true rfl,
    List.forall_mem_nil _⟩

end CommandLine
end Corridor
