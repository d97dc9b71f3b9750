import Corridor.Proofs.SessionCheck
/-!
The course of a session. Main statement: a session ends in one of six ways, each with its report,
the files after it and the files that were opened.
-/
namespace Corridor.CommandLine

structure FileSystem.Accepts (system : FileSystem) (request : Request) (inputs : Inputs)
    (theme : Theme) : Prop where
  supplied : system.Supplies request inputs
  valid : inputs.Valid
  resolved : system.Resolves request inputs.settings theme

theorem Reads.unique {α : Type} {script : Script (Except Failure α)} {system : FileSystem}
    {paths : List String} {Finds : α → Prop} (reads : Reads script system paths Finds)
    {first second : α} (found : Finds first) (also : Finds second) : first = second :=
  Except.ok.inj (((reads.found first).mpr found).symm.trans ((reads.found second).mpr also))

theorem generate?_eq_some_iff {request : Request} {inputs : Inputs} {theme : Theme} {output : Output} :
    generate? request inputs theme = some output ↔
      inputs.level.fits theme inputs.settings (.ofList request.overrides) = true ∧
        generate request inputs theme = output := by
  rw [generate?, generate, Level.generate?]
  split
  · rename_i fits
    simp [fits]
  · rename_i overflows
    simp [overflows]

def inputHeading : String := banner ++ "--- Inputs ---\n"

def compileHeading : String := inputHeading ++ "--- Compile ---\n"

def outputHeading (request : Request) (output : Output) : String :=
  compileHeading ++ if request.verbose then summaryLine output.summary else ""

def allChecks (request : Request) (inputs : Inputs) (theme : Theme) : List Check :=
  inputChecks inputs ++ outputChecks request inputs theme

def completion (request : Request) (inputs : Inputs) (theme : Theme) : Script Report :=
  match generate? request inputs theme with
  | none => pure (.overflowed compileHeading)
  | some output =>
    deliver request output (outputHeading request output) (allChecks request inputs theme)

/-- How a session ends: the inputs are not read, they are refused, no theme is found for them, their
arithmetic breaks off, or they are compiled, and the level string is printed or written or fails to be
written. -/
inductive Course (request : Request) (system : FileSystem) : Script.Run Report → Prop where
  | unread {failure : Failure}
      (stopped : ((readInputs request).run system).result = .error failure) :
      Course request system ⟨.failed banner failure, system, ((readInputs request).run system).opened⟩
  | refused {inputs : Inputs} (supplied : system.Supplies request inputs) (invalid : ¬inputs.Valid) :
      Course request system ⟨.ofChecks inputHeading (inputChecks inputs) request.verbose, system,
        request.inputPaths⟩
  | unthemed {inputs : Inputs} {failure : Failure} (supplied : system.Supplies request inputs)
      (valid : inputs.Valid)
      (stopped : ((resolveTheme request inputs.settings).run system).result = .error failure) :
      Course request system ⟨.failed inputHeading failure, system,
        request.inputPaths ++ request.themePaths inputs.settings⟩
  | overflowed {inputs : Inputs} {theme : Theme} (accepted : system.Accepts request inputs theme)
      (broken : generate? request inputs theme = none) :
      Course request system ⟨.overflowed compileHeading, system,
        request.inputPaths ++ request.themePaths inputs.settings⟩
  | printed {inputs : Inputs} {theme : Theme} {output : Output}
      (accepted : system.Accepts request inputs theme)
      (computed : generate? request inputs theme = some output) (absent : request.out = none) :
      Course request system ⟨.ofChecks (outputHeading request output ++ output.asText ++ "\n")
        (allChecks request inputs theme) request.verbose, system,
        request.inputPaths ++ request.themePaths inputs.settings⟩
  | unwritten {inputs : Inputs} {theme : Theme} {output : Output} {path : String} {error : FileError}
      (accepted : system.Accepts request inputs theme)
      (computed : generate? request inputs theme = some output) (given : request.out = some path)
      (failed : system.write path output.asText = .error error) :
      Course request system ⟨.failed (outputHeading request output) (.writing path error), system,
        request.inputPaths ++ request.themePaths inputs.settings⟩
  | written {inputs : Inputs} {theme : Theme} {output : Output} {path : String} {files : FileSystem}
      (accepted : system.Accepts request inputs theme)
      (computed : generate? request inputs theme = some output) (given : request.out = some path)
      (succeeded : system.write path output.asText = .ok files) :
      Course request system ⟨.ofChecks (outputHeading request output) (allChecks request inputs theme)
        request.verbose, files, request.inputPaths ++ request.themePaths inputs.settings⟩

section Deliver

variable {request : Request} {output : Output} {system : FileSystem} (heading : String)
  (checks : List Check)

theorem run_deliver_of_none (absent : request.out = none) :
    (deliver request output heading checks).run system =
      ⟨.ofChecks (heading ++ output.asText ++ "\n") checks request.verbose, system, []⟩ := by
  rw [deliver, absent]
  rfl

theorem run_deliver_of_error {path : String} {error : FileError} (given : request.out = some path)
    (failed : system.write path output.asText = .error error) :
    (deliver request output heading checks).run system =
      ⟨.failed heading (.writing path error), system, []⟩ := by
  simp only [deliver, given, Script.run_bind, Script.run_writeFile, failed]
  rfl

theorem run_deliver_of_ok {path : String} {files : FileSystem} (given : request.out = some path)
    (succeeded : system.write path output.asText = .ok files) :
    (deliver request output heading checks).run system =
      ⟨.ofChecks heading checks request.verbose, files, []⟩ := by
  simp only [deliver, given, Script.run_bind, Script.run_writeFile, succeeded]
  rfl

end Deliver

section Sessions

variable {request : Request} {system : FileSystem}

theorem run_session_of_error {failure : Failure}
    (stopped : ((readInputs request).run system).result = .error failure) :
    (session request).run system =
      ⟨.failed banner failure, system, ((readInputs request).run system).opened⟩ := by
  simp only [session, Script.run_bind, stopped, (reads_readInputs request system).files,
    Script.run_pure, List.append_nil]

variable {inputs : Inputs} (supplied : system.Supplies request inputs)
include supplied

theorem run_session_of_not_valid (invalid : ¬inputs.Valid) :
    (session request).run system =
      ⟨.ofChecks inputHeading (inputChecks inputs) request.verbose, system, request.inputPaths⟩ := by
  have reads := reads_readInputs request system
  have found := (reads.found inputs).mpr supplied
  have refused : ¬(inputChecks inputs).all Check.passed = true := mt all_inputChecks_iff.mp invalid
  simp only [session, Script.run_bind, found, reads.files, reads.finished inputs found, if_neg refused,
    Script.run_pure, List.append_nil]
  rfl

theorem run_session_of_theme_error (valid : inputs.Valid) {failure : Failure}
    (stopped : ((resolveTheme request inputs.settings).run system).result = .error failure) :
    (session request).run system = ⟨.failed inputHeading failure, system,
      request.inputPaths ++ request.themePaths inputs.settings⟩ := by
  have reads := reads_readInputs request system
  have found := (reads.found inputs).mpr supplied
  simp only [session, Script.run_bind, found, reads.files, reads.finished inputs found,
    if_pos (all_inputChecks_iff.mpr valid), stopped, (reads_resolveTheme request _ system).files,
    opened_resolveTheme, Script.run_pure, List.append_nil]
  rfl

theorem run_session_of_theme (valid : inputs.Valid) {theme : Theme}
    (resolved : system.Resolves request inputs.settings theme) :
    let completed := (completion request inputs theme).run system
    (session request).run system = ⟨completed.result, completed.files,
      request.inputPaths ++ (request.themePaths inputs.settings ++ completed.opened)⟩ := by
  have reads := reads_readInputs request system
  have found := (reads.found inputs).mpr supplied
  have themes := reads_resolveTheme request inputs.settings system
  have resolved := (themes.found theme).mpr resolved
  simp only [session, Script.run_bind, found, reads.files, reads.finished inputs found,
    if_pos (all_inputChecks_iff.mpr valid), resolved, themes.files, themes.finished theme resolved]
  rfl

end Sessions

section Completed

variable {request : Request} {system : FileSystem} {inputs : Inputs} {theme : Theme}
  (accepted : system.Accepts request inputs theme)
include accepted

theorem run_session_overflowed (broken : generate? request inputs theme = none) :
    (session request).run system = ⟨.overflowed compileHeading, system,
      request.inputPaths ++ request.themePaths inputs.settings⟩ := by
  rw [run_session_of_theme accepted.supplied accepted.valid accepted.resolved, completion, broken]
  simp only [Script.run_pure, List.append_nil]

variable {output : Output} (computed : generate? request inputs theme = some output)
include computed

theorem run_session_printed (absent : request.out = none) :
    (session request).run system =
      ⟨.ofChecks (outputHeading request output ++ output.asText ++ "\n")
        (allChecks request inputs theme) request.verbose, system,
        request.inputPaths ++ request.themePaths inputs.settings⟩ := by
  rw [run_session_of_theme accepted.supplied accepted.valid accepted.resolved, completion, computed]
  simp only [run_deliver_of_none _ _ absent, List.append_nil]

theorem run_session_unwritten {path : String} {error : FileError} (given : request.out = some path)
    (failed : system.write path output.asText = .error error) :
    (session request).run system = ⟨.failed (outputHeading request output) (.writing path error), system,
      request.inputPaths ++ request.themePaths inputs.settings⟩ := by
  rw [run_session_of_theme accepted.supplied accepted.valid accepted.resolved, completion, computed]
  simp only [run_deliver_of_error _ _ given failed, List.append_nil]

theorem run_session_written {path : String} {files : FileSystem} (given : request.out = some path)
    (succeeded : system.write path output.asText = .ok files) :
    (session request).run system =
      ⟨.ofChecks (outputHeading request output) (allChecks request inputs theme) request.verbose,
        files, request.inputPaths ++ request.themePaths inputs.settings⟩ := by
  rw [run_session_of_theme accepted.supplied accepted.valid accepted.resolved, completion, computed]
  simp only [run_deliver_of_ok _ _ given succeeded, List.append_nil]

end Completed

theorem course_session (request : Request) (system : FileSystem) :
    Course request system ((session request).run system) := by
  cases read : ((readInputs request).run system).result with
  | error failure =>
    rw [run_session_of_error read]
    exact .unread read
  | ok inputs =>
    have supplied := ((reads_readInputs request system).found inputs).mp read
    by_cases valid : inputs.Valid
    · cases resolution : ((resolveTheme request inputs.settings).run system).result with
      | error failure =>
        rw [run_session_of_theme_error supplied valid resolution]
        exact .unthemed supplied valid resolution
      | ok theme =>
        have resolved := ((reads_resolveTheme request inputs.settings system).found theme).mp resolution
        have accepted : system.Accepts request inputs theme := ⟨supplied, valid, resolved⟩
        cases computed : generate? request inputs theme with
        | none =>
          rw [run_session_overflowed accepted computed]
          exact .overflowed accepted computed
        | some output =>
          cases out : request.out with
          | none =>
            rw [run_session_printed accepted computed out]
            exact .printed accepted computed out
          | some path =>
            cases write : system.write path output.asText with
            | error error =>
              rw [run_session_unwritten accepted computed out write]
              exact .unwritten accepted computed out write
            | ok files =>
              rw [run_session_written accepted computed out write]
              exact .written accepted computed out write
    · rw [run_session_of_not_valid supplied valid]
      exact .refused supplied valid

theorem program_of_request {arguments : List String} {request : Request}
    (asked : Request.parse arguments = .ok request) : program arguments = session request := by
  rw [program, asked]

theorem run_program_of_stop {arguments : List String} {stop : Stop}
    (stopped : Request.parse arguments = .error stop) (system : FileSystem) :
    (program arguments).run system = ⟨stop.report, system, []⟩ := by
  rw [program, stopped]
  rfl

def caveArguments : List String :=
  ["--level", "run.json", "-s=user.json", "--themes", "themes", "-vo", "out.txt"]

def caveRequest : Request where
  level := "run.json"
  theme := none
  themes := some "themes"
  settings := some "user.json"
  header := none
  out := some "out.txt"
  overrides := []
  verbose := true

theorem parse_caveArguments : Request.parse caveArguments = .ok caveRequest := by decide +kernel

def caveLevelText : String :=
  "\x7b\"biomes\":[\x7b\"segments\":[\x7b\"x\":465,\"y\":195,\"swing\":\"up\"\x7d]\x7d,\x7b\x7d]\x7d"

def caveSettingsText : String := "\x7b\"active_theme\":\" Caves \"\x7d"

def outsideSettingsText : String := "\x7b\"active_theme\":\"../Caves\"\x7d"

def caveThemeText : String :=
  "\x7b\"rules\":[\x7b\"pattern\":[4],\"commands\":[\"1,1734,2,\x7bx\x7d\"]\x7d]\x7d"

def caveFiles : FileSystem := .ofFiles
  [("run.json", caveLevelText), ("user.json", caveSettingsText), ("outside.json", outsideSettingsText),
    ("themes/Caves.json", caveThemeText)]

def caveInputs : Inputs where
  level := { biomes := [{ segments := [⟨465, 195, .up, {}⟩] }, {}] }
  settings := { activeTheme := " Caves " }
  header := {}

def caveTheme : Theme where
  rules := [⟨[.suffix [.slope]],
    [.records [⟨[(1, .literal "1734"), (2, .placeholder .x 0)]⟩]], false⟩]

theorem caveFiles_accepts : caveFiles.Accepts caveRequest caveInputs caveTheme where
  supplied.level := ⟨caveLevelText, by decide +kernel, by decide +kernel⟩
  supplied.settings := ⟨caveSettingsText, by decide +kernel, by decide +kernel⟩
  supplied.header := rfl
  valid.settings := by decide +kernel
  valid.biomes := by decide +kernel
  resolved := by
    have named : caveInputs.settings.hasTheme = true := by decide +kernel
    simp only [FileSystem.Resolves, caveRequest, if_pos named]
    exact ⟨"themes", rfl, caveThemeText, by decide +kernel, by decide +kernel⟩

end Corridor.CommandLine
