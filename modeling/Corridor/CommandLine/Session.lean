import Corridor.CommandLine.Arguments
import Corridor.CommandLine.Files
import Corridor.CommandLine.Refusal
import Corridor.Level.Validation
import Corridor.Output
import Corridor.Theme.Loading
/-!
A session: files are read, checked and compiled, and the outcome of each check is reported.
-/
namespace Corridor.CommandLine

inductive Failure where
  | reading (what path : String) (error : FileError)
  | parsing (what path : String)
  | loading (path : String) (error : ThemeError)
  | themesMissing (name : String)
  | writing (path : String) (error : FileError)
  deriving DecidableEq, Repr

def themeErrorChain (error : ThemeError) : String :=
  match error with
  | .color _ cause => error.message ++ ": " ++ cause.message
  | _ => error.message

def Failure.message : Failure → String
  | reading what path error => s!"reading {what} file {path}: {error.message}"
  | parsing what path => s!"parsing {what} file {path}"
  | loading path error => s!"loading theme {path}: {themeErrorChain error}"
  | themesMissing name => s!"active theme `{name}` needs --themes <dir> to resolve"
  | writing path error => s!"writing level string to {path}: {error.message}"

structure Check where
  name : String
  passed : Bool
  detail : String
  deriving DecidableEq, Repr

def Check.line (check : Check) : String :=
  (if check.passed then "  ✓ " else "  ✗ ") ++ check.name ++ ": " ++ check.detail ++ "\n"

structure Report where
  exit : Nat
  printed : String
  message : Option String
  deriving DecidableEq, Repr

namespace Report

def failed (printed : String) (failure : Failure) : Report := ⟨1, printed, some failure.message⟩

/-- The program breaks off where its arithmetic does. -/
def overflowed (printed : String) : Report := ⟨101, printed, none⟩

/-- Failed checks are always listed, the others on demand. -/
def ofChecks (printed : String) (checks : List Check) (verbose : Bool) : Report :=
  let passed := (checks.filter Check.passed).length
  let failed := checks.length - passed
  let lines := (checks.filter fun check => verbose || !check.passed).map Check.line
  ⟨if 0 < failed then 1 else 0,
    printed ++ "\n" ++ String.join lines ++
      s!"\n=== RESULT: {passed}/{checks.length} passed, {failed} failed ===\n",
    none⟩

end Report

structure Inputs where
  level : Level
  settings : Settings
  header : Header
  deriving DecidableEq, Repr

def readJson {α : Type} (what path : String) (read : Json → Option α) :
    Script (Except Failure α) := do
  match ← Script.readFile path with
  | .error error => return .error (.reading what path error)
  | .ok text =>
    match (Json.parse? text).bind read with
    | none => return .error (.parsing what path)
    | some value => return .ok value

def readOptional {α : Type} (what : String) (path : Option String) (default : α)
    (read : Json → Option α) : Script (Except Failure α) :=
  match path with
  | none => return .ok default
  | some path => readJson what path read

def readInputs (request : Request) : Script (Except Failure Inputs) := do
  match ← readJson "level" request.level Level.ofJson? with
  | .error failure => return .error failure
  | .ok level =>
    match ← readOptional "settings" request.settings {} Settings.ofJson? with
    | .error failure => return .error failure
    | .ok settings =>
      match ← readOptional "header" request.header {} Header.ofJson? with
      | .error failure => return .error failure
      | .ok header => return .ok ⟨level, settings, header⟩

def readTheme (path : String) : Script (Except Failure Theme) := do
  match ← Script.readFile path with
  | .error error => return .error (.reading "theme" path error)
  | .ok text =>
    match Theme.parse text with
    | .error error => return .error (.loading path error)
    | .ok theme => return .ok theme

def themePath (directory : String) (settings : Settings) : String :=
  let name := String.ofList settings.themeName ++ ".json"
  if directory.toList.getLast? = some '/' then directory ++ name else directory ++ "/" ++ name

/-- A theme file that is given goes before the active theme of the settings. -/
def resolveTheme (request : Request) (settings : Settings) : Script (Except Failure Theme) :=
  match request.theme with
  | some path => readTheme path
  | none =>
    if settings.hasTheme then
      match request.themes with
      | some directory => readTheme (themePath directory settings)
      | none => return .error (.themesMissing settings.activeTheme)
    else return .ok {}

def settingsCheck (settings : Settings) : Check :=
  ⟨"settings_valid", settings.errors.isEmpty,
    if settings.errors = [] then
      s!"corners={settings.cornerPieces}, marks={settings.meterMarks} every " ++
        s!"{settings.markerInterval}, theme={settings.activeTheme}"
    else "; ".intercalate (settings.errors.map SettingsError.message)⟩

def biomeCheck (index : Nat) (biome : Biome) : Check :=
  let options := biome.options
  ⟨s!"biome_{index}_preconditions", biome.errors.isEmpty,
    if biome.errors = [] then
      s!"{biome.segments.length} segments, corridor height {options.corridorHeight}, heights " ++
        s!"{options.minHeight}..={options.maxHeight}"
    else "; ".intercalate (biome.errors.map BiomeError.message)⟩

def inputChecks (inputs : Inputs) : List Check :=
  settingsCheck inputs.settings :: inputs.level.biomes.mapIdx biomeCheck

def Inputs.hasSegments (inputs : Inputs) : Bool :=
  match inputs.level.biomes with
  | [] => false
  | biome :: _ => !biome.segments.isEmpty

def outputCheck (inputs : Inputs) (output : Output) : Check :=
  ⟨"output_matches_input", inputs.hasSegments != output.isEmpty,
    if inputs.hasSegments then
      s!"{output.summary.structureRecords} structure + {output.summary.themeRecords} theme records"
    else "no segments, empty output"⟩

def bodyCheck (output : Output) : Check :=
  let body := output.chars.drop output.header.length
  ⟨"records_terminated", body.isEmpty || body.getLast? = some ';',
    s!"{(String.ofList body).utf8ByteSize} bytes of records"⟩

def rerunCheck (first second : Output) : Check :=
  ⟨"deterministic", second.asText = first.asText, s!"{first.asText.utf8ByteSize} bytes on both runs"⟩

def generate (request : Request) (inputs : Inputs) (theme : Theme) : Output :=
  inputs.level.generate theme inputs.settings inputs.header (.ofList request.overrides)

def generate? (request : Request) (inputs : Inputs) (theme : Theme) : Option Output :=
  inputs.level.generate? theme inputs.settings inputs.header (.ofList request.overrides)

def outputChecks (request : Request) (inputs : Inputs) (theme : Theme) : List Check :=
  let output := generate request inputs theme
  [outputCheck inputs output, bodyCheck output, rerunCheck output (generate request inputs theme)]

def summaryLine (summary : Summary) : String :=
  let overrides := ", ".intercalate summary.overrides
  s!"  structure={summary.structureRecords} theme={summary.themeRecords} bytes={summary.bytes} " ++
    s!"overrides=[{overrides}]\n"

def banner : String := "=== Corridor Level Compiler ===\n\n"

def deliver (request : Request) (output : Output) (printed : String) (checks : List Check) :
    Script Report := do
  match request.out with
  | none => return .ofChecks (printed ++ output.asText ++ "\n") checks request.verbose
  | some path =>
    match ← Script.writeFile path output.asText with
    | .error error => return .failed printed (.writing path error)
    | .ok () => return .ofChecks printed checks request.verbose

def session (request : Request) : Script Report := do
  match ← readInputs request with
  | .error failure => return .failed banner failure
  | .ok inputs =>
    let printed := banner ++ "--- Inputs ---\n"
    let checks := inputChecks inputs
    if checks.all Check.passed then
      match ← resolveTheme request inputs.settings with
      | .error failure => return .failed printed failure
      | .ok theme =>
        let printed := printed ++ "--- Compile ---\n"
        match generate? request inputs theme with
        | none => return .overflowed printed
        | some output =>
          let printed := printed ++ (if request.verbose then summaryLine output.summary else "")
          deliver request output printed (checks ++ outputChecks request inputs theme)
    else return .ofChecks printed checks request.verbose

def versionText : String := "corridorgen 0.1.0\n"

def helpText : String :=
  "Compile a sampled corridor level into a level string\n\n" ++
  "Usage: corridorgen [OPTIONS] --level <LEVEL>\n\n" ++
  "Options:\n" ++
  "  -l, --level <LEVEL>        Sampled level JSON (seed, song, biomes)\n" ++
  "  -t, --theme <THEME>        Theme JSON file to apply, ignoring the settings' active theme\n" ++
  "      --themes <THEMES>      Directory holding `<name>.json` themes for the active theme name\n" ++
  "  -s, --settings <SETTINGS>  Generator settings JSON\n" ++
  "      --header <HEADER>      Level header JSON (colour channels and settings)\n" ++
  "  -o, --out <OUT>            Output file for the level string (stdout if omitted)\n" ++
  "      --override <CATEGORY>  Category overridden from the start. May be repeated\n" ++
  "  -v, --verbose              Print every check, not just failures\n" ++
  "  -h, --help                 Print help\n" ++
  "  -V, --version              Print version\n"

def Stop.report : Stop → Report
  | malformed => ⟨2, "", none⟩
  | unknownCategory name => ⟨2, "", refusalMessage? name⟩
  | help => ⟨0, helpText, none⟩
  | version => ⟨0, versionText, none⟩

def program (arguments : List String) : Script Report :=
  match Request.parse arguments with
  | .error stop => return stop.report
  | .ok request => session request

end Corridor.CommandLine
