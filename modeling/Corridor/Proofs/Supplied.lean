import Corridor.CommandLine.Session
import Corridor.Proofs.Checked
import Corridor.Proofs.Files

namespace Corridor.CommandLine

namespace FileSystem

/-- The file at a path holds the JSON text of a value. -/
def Holds {α : Type} (system : FileSystem) (path : String) (read : Json → Option α) (value : α) :
    Prop :=
  ∃ text, system.read path = .ok text ∧ (Json.parse? text).bind read = some value

/-- A file that is given holds a value, and a default stands for one that is not. -/
def HoldsOr {α : Type} (system : FileSystem) (path : Option String) (default : α)
    (read : Json → Option α) (value : α) : Prop :=
  match path with
  | none => value = default
  | some path => system.Holds path read value

structure Supplies (system : FileSystem) (request : Request) (inputs : Inputs) : Prop where
  level : system.Holds request.level Level.ofJson? inputs.level
  settings : system.HoldsOr request.settings {} Settings.ofJson? inputs.settings
  header : system.HoldsOr request.header {} Header.ofJson? inputs.header

def HoldsTheme (system : FileSystem) (path : String) (theme : Theme) : Prop :=
  ∃ text, system.read path = .ok text ∧ Theme.parse text = .ok theme

/-- The theme of a request: that of a file that is given, that of the active name in a directory
that is given, or none for a name that means none. -/
def Resolves (system : FileSystem) (request : Request) (settings : Settings) (theme : Theme) : Prop :=
  match request.theme with
  | some path => system.HoldsTheme path theme
  | none =>
    if settings.hasTheme then
      ∃ directory, request.themes = some directory ∧
        system.HoldsTheme (themePath directory settings) theme
    else theme = {}

end FileSystem

structure Inputs.Valid (inputs : Inputs) : Prop where
  settings : inputs.settings.errors = []
  biomes : ∀ biome ∈ inputs.level.biomes, biome.errors = []

namespace Request

def inputPaths (request : Request) : List String :=
  request.level :: (request.settings.toList ++ request.header.toList)

def themePaths (request : Request) (settings : Settings) : List String :=
  match request.theme with
  | some path => [path]
  | none =>
    if settings.hasTheme then
      request.themes.toList.map fun directory => themePath directory settings
    else []

end Request

/-- The script reads the given files in turn, as far as it gets, and gives what it finds in them;
it writes nothing. -/
structure Reads {α : Type} (script : Script (Except Failure α)) (system : FileSystem)
    (paths : List String) (Finds : α → Prop) : Prop where
  files : (script.run system).files = system
  opened : (script.run system).opened <+: paths
  finished : ∀ value, (script.run system).result = .ok value → (script.run system).opened = paths
  found : ∀ value, (script.run system).result = .ok value ↔ Finds value

namespace Reads

variable {α β : Type} {system : FileSystem} {paths others : List String}
  {Finds : α → Prop} {Also : α → β → Prop}

theorem of_run {script : Script (Except Failure α)} {result : Except Failure α}
    (ran : script.run system = ⟨result, system, paths⟩) (found : ∀ value, result = .ok value ↔ Finds value) :
    Reads script system paths Finds := by
  constructor
  all_goals simp only [ran]
  · exact List.prefix_rfl
  · exact fun _ _ => trivial
  · exact found

theorem done (value : α) : Reads (pure (.ok value)) system [] (· = value) :=
  of_run (Script.run_pure (Except.ok value) system) fun other => by simp [eq_comm]

theorem congr {script : Script (Except Failure α)} {Same : α → Prop}
    (reads : Reads script system paths Finds) (listed : paths = others)
    (same : ∀ value, Finds value ↔ Same value) : Reads script system others Same where
  files := reads.files
  opened := listed ▸ reads.opened
  finished := listed ▸ reads.finished
  found value := (reads.found value).trans (same value)

theorem andThen {script : Script (Except Failure α)}
    {next : Except Failure α → Script (Except Failure β)} (first : Reads script system paths Finds)
    (stops : ∀ failure, next (.error failure) = pure (.error failure))
    (second : ∀ value, Reads (next (.ok value)) system others (Also value)) :
    Reads (script >>= next) system (paths ++ others)
      fun value => ∃ between, Finds between ∧ Also between value := by
  obtain ⟨files, opened, finished, found⟩ := first
  cases result : (script.run system).result with
  | error failure =>
    have nothing : ∀ between, ¬Finds between := fun between finds => by
      have accepted := (found between).mpr finds
      rw [result] at accepted
      cases accepted
    constructor
    all_goals simp only [Script.run_bind, result, files, stops, Script.run_pure, List.append_nil]
    · exact opened.trans (List.prefix_append paths others)
    · exact nofun
    · simp [nothing]
  | ok between =>
    have only (value : α) : Finds value ↔ value = between := by
      rw [← found value, result, Except.ok.injEq, eq_comm]
    constructor
    all_goals simp only [Script.run_bind, result, files, finished between result]
    · exact (second between).files
    · exact (List.prefix_append_right_inj paths).mpr (second between).opened
    · exact fun value accepted => congrArg (paths ++ ·) ((second between).finished value accepted)
    · simp only [only, exists_eq_left]
      exact (second between).found

end Reads

section Reading

variable {α : Type} (path : String) (system : FileSystem)

theorem run_file {script : Script (Except Failure α)}
    {next : Except FileError String → Script (Except Failure α)}
    (opens : script = Script.readFile path >>= next) (decode : String → Except Failure α)
    (stops : ∀ error, ∃ failure, next (.error error) = pure (.error failure))
    (decodes : ∀ text, next (.ok text) = pure (decode text)) :
    ∃ result, script.run system = ⟨result, system, [path]⟩ ∧
      ∀ value, result = .ok value ↔ ∃ text, system.read path = .ok text ∧ decode text = .ok value := by
  rw [opens, Script.run_bind, Script.run_readFile]
  cases system.read path with
  | error error =>
    obtain ⟨failure, stopped⟩ := stops error
    refine ⟨.error failure, ?_, by simp⟩
    simp only [stopped, Script.run_pure, List.append_nil]
  | ok text =>
    refine ⟨decode text, ?_, by simp⟩
    simp only [decodes, Script.run_pure, List.append_nil]

theorem reads_readJson (what : String) (read : Json → Option α) :
    Reads (readJson what path read) system [path] (system.Holds path read) := by
  let decode (text : String) : Except Failure α :=
    ((Json.parse? text).bind read).elim (.error (.parsing what path)) .ok
  have opens : readJson what path read = Script.readFile path >>= _ := rfl
  obtain ⟨result, ran, found⟩ := run_file path system opens decode (fun _ => ⟨_, rfl⟩) fun text => by
    cases parsed : (Json.parse? text).bind read <;> simp [decode, parsed]
  refine .of_run ran fun value => (found value).trans (exists_congr fun text => and_congr_right fun _ => ?_)
  cases parsed : (Json.parse? text).bind read <;> simp [decode, parsed]

theorem reads_readOptional (what : String) (read : Json → Option α) (given : Option String)
    (default : α) :
    Reads (readOptional what given default read) system given.toList
      (system.HoldsOr given default read) := by
  cases given with
  | none => exact .done default
  | some path => exact reads_readJson path system what read

theorem run_readTheme : ∃ result, (readTheme path).run system = ⟨result, system, [path]⟩ ∧
    ∀ theme, result = .ok theme ↔ system.HoldsTheme path theme := by
  let decode (text : String) : Except Failure Theme := (Theme.parse text).mapError (.loading path)
  have opens : readTheme path = Script.readFile path >>= _ := rfl
  obtain ⟨result, ran, found⟩ := run_file path system opens decode (fun _ => ⟨_, rfl⟩) fun text => by
    cases parsed : Theme.parse text <;> simp [decode, parsed, Except.mapError]
  refine ⟨result, ran, fun theme => (found theme).trans (exists_congr fun text => ?_)⟩
  cases parsed : Theme.parse text <;> simp [decode, parsed, Except.mapError]

theorem opened_readTheme : ((readTheme path).run system).opened = [path] := by
  obtain ⟨result, ran, _⟩ := run_readTheme path system
  rw [ran]

theorem reads_readTheme : Reads (readTheme path) system [path] (system.HoldsTheme path) := by
  obtain ⟨result, ran, found⟩ := run_readTheme path system
  exact .of_run ran found

end Reading

section Requests

variable (request : Request) (settings : Settings) (system : FileSystem)

theorem reads_readInputs :
    Reads (readInputs request) system request.inputPaths (system.Supplies request) := by
  have steps : Reads (readInputs request) system
      ([request.level] ++ (request.settings.toList ++ (request.header.toList ++ [])))
      fun inputs => ∃ level, system.Holds request.level Level.ofJson? level ∧
        ∃ settings, system.HoldsOr request.settings {} Settings.ofJson? settings ∧
          ∃ header, system.HoldsOr request.header {} Header.ofJson? header ∧
            inputs = ⟨level, settings, header⟩ := by
    refine (reads_readJson request.level system "level" Level.ofJson?).andThen (fun _ => rfl)
      fun level => ?_
    refine (reads_readOptional system "settings" Settings.ofJson? request.settings {}).andThen
      (fun _ => rfl) fun settings => ?_
    refine (reads_readOptional system "header" Header.ofJson? request.header {}).andThen
      (fun _ => rfl) fun header => ?_
    exact Reads.done (⟨level, settings, header⟩ : Inputs)
  refine steps.congr (by rw [List.append_nil]; rfl) fun inputs => ?_
  constructor
  · rintro ⟨level, first, settings, second, header, third, rfl⟩
    exact ⟨first, second, third⟩
  · rintro ⟨first, second, third⟩
    exact ⟨_, first, _, second, _, third, rfl⟩

theorem opened_resolveTheme :
    ((resolveTheme request settings).run system).opened = request.themePaths settings := by
  rw [resolveTheme, Request.themePaths]
  cases request.theme with
  | some path => exact opened_readTheme path system
  | none =>
    by_cases named : settings.hasTheme = true
    · simp only [named, if_true]
      cases request.themes with
      | none => rfl
      | some directory => exact opened_readTheme (themePath directory settings) system
    · rw [if_neg named, if_neg named]
      rfl

theorem reads_resolveTheme :
    Reads (resolveTheme request settings) system (request.themePaths settings)
      (system.Resolves request settings) := by
  cases explicit : request.theme with
  | some path =>
    simp only [resolveTheme, Request.themePaths, explicit]
    refine (reads_readTheme path system).congr rfl fun theme => ?_
    simp only [FileSystem.Resolves, explicit]
  | none =>
    by_cases named : settings.hasTheme = true
    · simp only [resolveTheme, Request.themePaths, explicit, named, if_true]
      cases given : request.themes with
      | none =>
        constructor
        all_goals simp [FileSystem.Resolves, explicit, named, given, Script.run_pure]
      | some directory =>
        refine (reads_readTheme (themePath directory settings) system).congr rfl fun theme => ?_
        simp [FileSystem.Resolves, explicit, named, given]
    · simp only [resolveTheme, Request.themePaths, explicit, if_neg named]
      refine (Reads.done ({} : Theme)).congr rfl fun theme => ?_
      simp only [FileSystem.Resolves, explicit, if_neg named]

end Requests
end Corridor.CommandLine
