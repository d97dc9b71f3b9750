import Corridor.Proofs.Course
import Corridor.Proofs.Moderate

namespace Corridor.CommandLine

/-- There is a place for the file that is to be written, if there is to be one. -/
def Request.Writable (request : Request) (system : FileSystem) : Prop :=
  ∀ path, request.out = some path → ∃ location, system.target path = .ok location

variable {request : Request} {system : FileSystem}

theorem Request.Writable.write {path text : String} (writable : request.Writable system)
    (given : request.out = some path) : ∃ files, system.write path text = .ok files := by
  obtain ⟨location, target⟩ := writable path given
  exact ⟨_, FileSystem.write_eq_ok_iff.mpr ⟨location, target, rfl⟩⟩

theorem passed_allChecks (request : Request) {inputs : Inputs} (valid : inputs.Valid) (theme : Theme) :
    ∀ check ∈ allChecks request inputs theme, check.passed = true := by
  intro check member
  rcases List.mem_append.mp member with ofInputs | ofOutput
  · exact List.all_eq_true.mp (all_inputChecks_iff.mpr valid) check ofInputs
  · exact passed_outputChecks request inputs theme check ofOutput

theorem Course.exists_output {run : Script.Run Report} (course : Course request system run)
    (succeeded : run.result.exit = 0) :
    ∃ inputs theme output, system.Accepts request inputs theme ∧
      generate? request inputs theme = some output := by
  cases course with
  | unread stopped => cases succeeded
  | refused supplied invalid =>
    have passed := exit_ofChecks_eq_zero_iff.mp succeeded
    exact absurd (all_inputChecks_iff.mp (List.all_eq_true.mpr passed)) invalid
  | unthemed supplied valid stopped => cases succeeded
  | overflowed accepted broken => cases succeeded
  | printed accepted computed absent => exact ⟨_, _, _, accepted, computed⟩
  | unwritten accepted computed given failed => cases succeeded
  | written accepted computed given succeeded => exact ⟨_, _, _, accepted, computed⟩

theorem exit_of_output {inputs : Inputs} {theme : Theme} {output : Output}
    (writable : request.Writable system) (accepted : system.Accepts request inputs theme)
    (computed : generate? request inputs theme = some output) :
    ((session request).run system).result.exit = 0 := by
  have passed := passed_allChecks request accepted.valid theme
  cases out : request.out with
  | none =>
    rw [run_session_printed accepted computed out]
    exact exit_ofChecks_eq_zero_iff.mpr passed
  | some path =>
    obtain ⟨files, succeeded⟩ := writable.write out
    rw [run_session_written accepted computed out succeeded]
    exact exit_ofChecks_eq_zero_iff.mpr passed

/-- The program on arguments that ask for a compilation, where a file that is to be written can be
written: it succeeds if and only if its inputs are accepted and give an output, as inputs of moderate
coordinates do. Then it delivers the level string, which passes every check, whether or not the checks
are to be listed. Where a sum is out of range it breaks off and changes no file. -/
theorem exit_eq_zero_iff_output {arguments : List String}
    (asked : Request.parse arguments = .ok request) (writable : request.Writable system) :
    let run := (program arguments).run system
    (run.result.exit = 0 ↔ ∃ inputs theme output, system.Accepts request inputs theme ∧
      generate? request inputs theme = some output) ∧
    ∀ inputs theme, system.Accepts request inputs theme →
      ((∀ biome ∈ inputs.level.biomes, biome.Moderate) → theme.Moderate →
        (generate? request inputs theme).isSome = true) ∧
      (generate? request inputs theme = none →
        run.result = .overflowed compileHeading ∧ run.files = system) ∧
      ∀ output, generate? request inputs theme = some output →
        let checks := outputChecks request inputs theme
        output = inputs.level.generate theme inputs.settings inputs.header (.ofList request.overrides) ∧
        checks.map Check.name = ["output_matches_input", "records_terminated", "deterministic"] ∧
        (∀ check ∈ checks, check.passed = true) ∧
        (String.ofList output.header).rawEndPos.IsValid output.asText ∧
        output.asText = String.ofList output.header ++ String.ofList output.body ∧
        (∀ path, request.out = some path →
          run.files.read path = .ok output.asText ∧
          run.result = .ofChecks (outputHeading request output) (inputChecks inputs ++ checks)
            request.verbose) ∧
        (request.out = none →
          run.result = .ofChecks (outputHeading request output ++ output.asText ++ "\n")
            (inputChecks inputs ++ checks) request.verbose) := by
  rw [program_of_request asked]
  refine ⟨⟨(course_session request system).exists_output, ?_⟩, fun inputs theme accepted =>
    ⟨fun moderate gentle => ?_, fun broken => ?_, fun output computed => ?_⟩⟩
  · rintro ⟨inputs, theme, output, accepted, computed⟩
    exact exit_of_output writable accepted computed
  · rw [generate?, Level.generate?, if_pos (Level.fits_of_moderate moderate gentle _ _)]
    rfl
  · rw [run_session_overflowed accepted broken]
    exact ⟨rfl, rfl⟩
  · intro checks
    have cut : output.asText = String.ofList output.header ++ String.ofList output.body :=
      String.ofList_append
    refine ⟨(generate?_eq_some_iff.mp computed).2.symm, rfl, passed_outputChecks request inputs theme,
      String.Pos.Raw.isValid_iff_exists_append.mpr ⟨_, _, cut, rfl⟩, cut, fun path given => ?_,
      fun absent => ?_⟩
    · obtain ⟨files, succeeded⟩ := writable.write given
      rw [run_session_written accepted computed given succeeded]
      exact ⟨(FileSystem.read_of_write succeeded).1, rfl⟩
    · rw [run_session_printed accepted computed absent]
      rfl

theorem cave_exit_eq_zero :
    Request.parse caveArguments = .ok caveRequest ∧ caveRequest.Writable caveFiles ∧
    caveFiles.Accepts caveRequest caveInputs caveTheme ∧
    let run := (program caveArguments).run caveFiles
    run.result.exit = 0 ∧
      run.files.read "out.txt" = .ok (generate caveRequest caveInputs caveTheme).asText := by
  have writable : caveRequest.Writable caveFiles := by
    intro path given
    cases given
    exact ⟨_, by rfl⟩
  have gentle : caveTheme.Moderate := by
    refine ⟨?_, by simp [caveTheme]⟩
    simp only [caveTheme, forall_eq, Command.records.injEq, Prod.mk.injEq,
      List.mem_cons, List.not_mem_nil, or_false]
    rintro key quantity offset (⟨_, cell⟩ | ⟨_, cell⟩)
    · cases cell
    · cases cell
      decide
  obtain ⟨exit, delivered⟩ := exit_eq_zero_iff_output parse_caveArguments writable
  obtain ⟨computed, _, outputs⟩ := delivered caveInputs caveTheme caveFiles_accepts
  obtain ⟨output, computed⟩ := Option.isSome_iff_exists.mp (computed (by decide) gentle)
  obtain ⟨same, _, _, _, _, written, _⟩ := outputs output computed
  refine ⟨parse_caveArguments, writable, caveFiles_accepts,
    exit.mpr ⟨_, _, _, caveFiles_accepts, computed⟩, ?_⟩
  rw [generate, ← same]
  exact (written "out.txt" rfl).1

def cliffArguments : List String := ["--level", "level.json"]

def cliffRequest : Request where
  level := "level.json"
  theme := none
  themes := none
  settings := none
  header := none
  out := none
  overrides := []
  verbose := false

def cliffLevelText : String :=
  "\x7b\"biomes\":[\x7b\"options\":\x7b\"min_height\":2147483400,\"max_height\":2147483600\x7d," ++
    "\"segments\":[\x7b\"x\":465,\"y\":2147483500,\"swing\":\"up\"\x7d]\x7d]\x7d"

def cliffFiles : FileSystem := .ofFiles [("level.json", cliffLevelText)]

open Structure (cliff)

theorem fits_cliff : cliff.fits {} {} {} = false := by
  refine eq_false_of_ne_true fun fits => ?_
  simp only [Biome.fits, Bool.or_eq_true, Bool.and_eq_true] at fits
  obtain empty | ⟨_, ending⟩ := fits
  · cases empty
  · have free : (Biome.finalOverrides (Biome.startOverrides {} (cliff.evaluations {}))
        (cliff.evaluations {})).endUp = false := by decide
    have inRange : Segment.InRange ⟨465, 2147483500, .up, {}⟩ := ⟨by decide, by decide⟩
    have diagonals := (Structure.fits_ending_iff rfl (.inl ⟨rfl, free⟩) inRange).mp ending
    exact absurd diagonals.limit (by decide)

theorem cliff_breaks_off :
    Request.parse cliffArguments = .ok cliffRequest ∧ cliffRequest.Writable cliffFiles ∧
    cliffFiles.Accepts cliffRequest ⟨{ biomes := [cliff] }, {}, {}⟩ {} ∧
    ((program cliffArguments).run cliffFiles).result.exit = 101 := by
  have asked : Request.parse cliffArguments = .ok cliffRequest := by decide +kernel
  have accepted : cliffFiles.Accepts cliffRequest ⟨{ biomes := [cliff] }, {}, {}⟩ {} :=
    { supplied := ⟨⟨cliffLevelText, by decide +kernel, by decide +kernel⟩, rfl, rfl⟩
      valid := ⟨by decide +kernel, by decide +kernel⟩
      resolved := by
        have unnamed : ({} : Settings).hasTheme = false := by decide +kernel
        simp [FileSystem.Resolves, cliffRequest, unnamed] }
  have broken : generate? cliffRequest ⟨{ biomes := [cliff] }, {}, {}⟩ {} = none := by
    have overflows : Level.fits { biomes := [cliff] } {} {} {} = false := fits_cliff
    rw [generate?, Level.generate?]
    exact if_neg (ne_true_of_eq_false overflows)
  have writable : cliffRequest.Writable cliffFiles := by
    intro path given
    cases given
  refine ⟨asked, writable, accepted, ?_⟩
  rw [program_of_request asked, run_session_overflowed accepted broken]
  rfl

end Corridor.CommandLine
