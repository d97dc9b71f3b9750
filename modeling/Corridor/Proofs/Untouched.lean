import Corridor.Proofs.Course

namespace Corridor.CommandLine

/-- What can be wrong with a request: an input that is not read, one that violates a condition, or a
theme that is not found. -/
inductive Request.Fails (request : Request) (system : FileSystem) : Prop where
  | level (unread : ∀ level, ¬system.Holds request.level Level.ofJson? level)
  | settings (unread : ∀ settings, ¬system.HoldsOr request.settings {} Settings.ofJson? settings)
  | header (unread : ∀ header, ¬system.HoldsOr request.header {} Header.ofJson? header)
  | settingsCheck {settings : Settings}
      (held : system.HoldsOr request.settings {} Settings.ofJson? settings)
      (violated : settings.errors ≠ [])
  | biomeCheck {level : Level} (held : system.Holds request.level Level.ofJson? level) {biome : Biome}
      (member : biome ∈ level.biomes) (violated : biome.errors ≠ [])
  | theme {settings : Settings} (held : system.HoldsOr request.settings {} Settings.ofJson? settings)
      (unresolved : ∀ theme, ¬system.Resolves request settings theme)

variable {request : Request} {system : FileSystem}

theorem Request.Fails.not_accepts (fails : request.Fails system) (inputs : Inputs) (theme : Theme) :
    ¬system.Accepts request inputs theme := by
  intro accepted
  obtain ⟨⟨level, settings, header⟩, ⟨proper, sound⟩, resolved⟩ := accepted
  have same {others : Settings} (held : system.HoldsOr request.settings {} Settings.ofJson? others) :
      inputs.settings = others :=
    (reads_readOptional system "settings" Settings.ofJson? request.settings {}).unique settings held
  cases fails with
  | level unread => exact unread inputs.level level
  | settings unread => exact unread inputs.settings settings
  | header unread => exact unread inputs.header header
  | settingsCheck held violated => exact violated (same held ▸ proper)
  | biomeCheck held member violated =>
    have found := (reads_readJson request.level system "level" Level.ofJson?).unique level held
    exact violated (sound _ (found ▸ member))
  | theme held unresolved => exact unresolved theme (same held ▸ resolved)

theorem exists_accepts_of_not_fails (passes : ¬request.Fails system) :
    ∃ inputs theme, system.Accepts request inputs theme := by
  obtain ⟨level, ofLevel⟩ : ∃ level, system.Holds request.level Level.ofJson? level :=
    Classical.byContradiction fun none => passes (.level (not_exists.mp none))
  obtain ⟨settings, ofSettings⟩ :
      ∃ settings, system.HoldsOr request.settings {} Settings.ofJson? settings :=
    Classical.byContradiction fun none => passes (.settings (not_exists.mp none))
  obtain ⟨header, ofHeader⟩ : ∃ header, system.HoldsOr request.header {} Header.ofJson? header :=
    Classical.byContradiction fun none => passes (.header (not_exists.mp none))
  obtain ⟨theme, resolved⟩ : ∃ theme, system.Resolves request settings theme :=
    Classical.byContradiction fun none => passes (.theme ofSettings (not_exists.mp none))
  have proper : settings.errors = [] :=
    Classical.byContradiction fun violated => passes (.settingsCheck ofSettings violated)
  have sound : ∀ biome ∈ level.biomes, biome.errors = [] := fun biome member =>
    Classical.byContradiction fun violated => passes (.biomeCheck ofLevel member violated)
  exact ⟨⟨level, settings, header⟩, theme, ⟨ofLevel, ofSettings, ofHeader⟩, ⟨proper, sound⟩, resolved⟩

namespace Course

variable {run : Script.Run Report} (course : Course request system run)
include course

theorem of_fails (fails : request.Fails system) : run.result.exit ≠ 0 ∧ run.files = system := by
  cases course with
  | unread stopped => exact ⟨Nat.one_ne_zero, rfl⟩
  | refused supplied invalid =>
    refine ⟨fun succeeded => invalid ?_, rfl⟩
    exact all_inputChecks_iff.mp (List.all_eq_true.mpr (exit_ofChecks_eq_zero_iff.mp succeeded))
  | unthemed supplied valid stopped => exact ⟨Nat.one_ne_zero, rfl⟩
  | overflowed accepted broken => exact ⟨Nat.succ_ne_zero 100, rfl⟩
  | printed accepted computed absent => exact absurd accepted (fails.not_accepts _ _)
  | unwritten accepted computed given failed => exact absurd accepted (fails.not_accepts _ _)
  | written accepted computed given succeeded => exact absurd accepted (fails.not_accepts _ _)

theorem entry?_files {location : Location}
    (elsewhere : ∀ path, request.out = some path → system.target path ≠ .ok location) :
    run.files.entry? location = system.entry? location := by
  cases course with
  | unread stopped => rfl
  | refused supplied invalid => rfl
  | unthemed supplied valid stopped => rfl
  | overflowed accepted broken => rfl
  | printed accepted computed absent => rfl
  | unwritten accepted computed given failed => rfl
  | written accepted computed given succeeded =>
    obtain ⟨_, place, target, kept⟩ := FileSystem.read_of_write succeeded
    refine kept location ?_
    rintro rfl
    exact elsewhere _ given target

end Course

/-- A run that is refused for its arguments or fails on its inputs or its theme changes no file; where
the inputs violate a condition, nothing else is reported and no theme is read. Every other run changes
at most the file that it is asked to write, which holds the level string once it is written. -/
theorem program_changes_only_out (arguments : List String) (system : FileSystem) :
    let run := (program arguments).run system
    (∀ stop, Request.parse arguments = .error stop →
      (stop ≠ .help → stop ≠ .version → run.result.exit ≠ 0) ∧ run.files = system) ∧
    ∀ request, Request.parse arguments = .ok request →
      (request.Fails system → run.result.exit ≠ 0 ∧ run.files = system) ∧
      (∀ inputs, system.Supplies request inputs → ¬inputs.Valid →
        run.opened = request.inputPaths ∧
        run.result = .ofChecks inputHeading (inputChecks inputs) request.verbose ∧
        run.result.message = none) ∧
      (¬request.Fails system →
        (∀ location, (∀ path, request.out = some path → system.target path ≠ .ok location) →
          run.files.entry? location = system.entry? location) ∧
        ∃ inputs theme, system.Accepts request inputs theme ∧
          (generate? request inputs theme = none → run.result.exit ≠ 0 ∧ run.files = system) ∧
          ∀ output path files, generate? request inputs theme = some output →
            request.out = some path → system.write path output.asText = .ok files →
            run.files = files ∧ run.files.read path = .ok output.asText) := by
  constructor
  · intro stop stopped
    rw [run_program_of_stop stopped]
    refine ⟨fun help version => ?_, rfl⟩
    cases stop with
    | malformed => exact Nat.succ_ne_zero 1
    | unknownCategory name => exact Nat.succ_ne_zero 1
    | help => exact absurd rfl help
    | version => exact absurd rfl version
  · intro request asked
    rw [program_of_request asked]
    have course := course_session request system
    refine ⟨course.of_fails, fun inputs supplied invalid => ?_, fun passes => ⟨fun location => ?_, ?_⟩⟩
    · rw [run_session_of_not_valid supplied invalid]
      exact ⟨rfl, rfl, rfl⟩
    · exact course.entry?_files
    · obtain ⟨inputs, theme, accepted⟩ := exists_accepts_of_not_fails passes
      refine ⟨inputs, theme, accepted, fun broken => ?_,
        fun output path files computed given succeeded => ?_⟩
      · rw [run_session_overflowed accepted broken]
        exact ⟨Nat.succ_ne_zero 100, rfl⟩
      · rw [run_session_written accepted computed given succeeded]
        exact ⟨rfl, (FileSystem.read_of_write succeeded).1⟩

def outsideArguments : List String := ["-lrun.json", "--settings=outside.json", "-o", "user.json"]

def outsideRequest : Request where
  level := "run.json"
  theme := none
  themes := none
  settings := some "outside.json"
  header := none
  out := some "user.json"
  overrides := []
  verbose := false

def unknownArguments : List String := ["-l", "run.json", "--override=walls"]

theorem cave_changes_only_out :
    let stopped := (program unknownArguments).run caveFiles
    let refused := (program outsideArguments).run caveFiles
    let written := (program caveArguments).run caveFiles
    Request.parse unknownArguments = .error (.unknownCategory "walls") ∧
    stopped.result.exit ≠ 0 ∧ stopped.files = caveFiles ∧
    Request.parse outsideArguments = .ok outsideRequest ∧ outsideRequest.Fails caveFiles ∧
    refused.result.exit ≠ 0 ∧ refused.files = caveFiles ∧
    refused.opened = ["run.json", "outside.json"] ∧
    Request.parse caveArguments = .ok caveRequest ∧ ¬caveRequest.Fails caveFiles ∧
    written.files.entry? ⟨.working 0, ["run.json"]⟩ = some (.file caveLevelText) := by
  have supplied : caveFiles.Supplies outsideRequest
      { caveInputs with settings := { activeTheme := "../Caves" } } :=
    ⟨⟨caveLevelText, by decide +kernel, by decide +kernel⟩,
      ⟨outsideSettingsText, by decide +kernel, by decide +kernel⟩, rfl⟩
  have violated : ({ activeTheme := "../Caves" } : Settings).errors ≠ [] := by decide +kernel
  have fails : outsideRequest.Fails caveFiles := .settingsCheck supplied.settings violated
  have asked : Request.parse outsideArguments = .ok outsideRequest := by decide +kernel
  obtain ⟨failed, refused, _⟩ :=
    (program_changes_only_out outsideArguments caveFiles).2 outsideRequest asked
  have passes : ¬caveRequest.Fails caveFiles := fun fails => fails.not_accepts _ _ caveFiles_accepts
  obtain ⟨_, _, passed⟩ := (program_changes_only_out caveArguments caveFiles).2 caveRequest parse_caveArguments
  have elsewhere : ∀ path, caveRequest.out = some path →
      caveFiles.target path ≠ .ok ⟨.working 0, ["run.json"]⟩ := by
    intro path given
    cases given
    decide +kernel
  have unknown : Request.parse unknownArguments = .error (.unknownCategory "walls") := by decide +kernel
  obtain ⟨stopped, kept⟩ := (program_changes_only_out unknownArguments caveFiles).1 _ unknown
  refine ⟨unknown, stopped nofun nofun, kept, asked, fails, (failed fails).1, (failed fails).2, ?_,
    parse_caveArguments, passes, ?_⟩
  · exact (refused _ supplied fun valid => violated valid.settings).1
  · exact ((passed passes).1 _ elsewhere).trans (by decide +kernel)

end Corridor.CommandLine
