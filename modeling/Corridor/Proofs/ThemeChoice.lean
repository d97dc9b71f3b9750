import Corridor.Proofs.Course

namespace Corridor

namespace Settings

variable {settings : Settings}

theorem isThemeNameChar_of_mem_themeName (sound : settings.errors = []) :
    ∀ c ∈ settings.themeName, isThemeNameChar c = true := by
  have named := (List.append_eq_nil_iff.mp sound).2
  by_cases proper : settings.themeName.all isThemeNameChar = true
  · exact List.all_eq_true.mp proper
  · rw [if_neg proper] at named
    cases named

theorem hasTheme_iff :
    settings.hasTheme = true ↔
      settings.themeName ≠ [] ∧ Text.lower settings.themeName ≠ ['n', 'o', 'n', 'e'] := by
  simp [hasTheme]

end Settings

namespace CommandLine

/-- The path names a file in a directory, whose own path may end in a slash. -/
def NamesIn (path directory name : String) : Prop :=
  path = directory ++ "/" ++ name ∨
    directory.toList.getLast? = some '/' ∧ path = directory ++ name

theorem FileSystem.locate_of_namesIn {system : FileSystem} {path directory name : String}
    (spelled : NamesIn path directory name) (absent : '/' ∉ name.toList)
    (proper : name ≠ "" ∧ name ≠ "." ∧ name ≠ "..") {location : Location}
    (led : system.locate path = .ok location) :
    ∃ parent, system.locate directory = .ok parent ∧ system.entry? parent = some .directory ∧
      location = parent.child name := by
  have stepped (parent : Location) : parent.step name = parent.child name := by
    simp [Location.step, proper]
  rcases spelled with rfl | ⟨ended, rfl⟩
  · obtain ⟨short, _, parent, led, held, same⟩ := (locate_name_eq_ok_iff absent).mp led
    have bound : directory.utf8ByteSize ≤ longestPath := by
      rw [String.utf8ByteSize_append, String.utf8ByteSize_append] at short
      omega
    exact ⟨parent, follow_eq_ok_iff.mpr ⟨bound, led⟩, held, same.trans (stepped parent)⟩
  · obtain ⟨front, slashed⟩ := List.getLast?_eq_some_iff.mp ended
    obtain rfl : directory = String.ofList front ++ "/" :=
      String.toList_inj.mp (by simpa using slashed)
    obtain ⟨short, _, parent, led, held, same⟩ := (locate_name_eq_ok_iff absent).mp led
    have bound : (String.ofList front ++ "/").utf8ByteSize ≤ longestPath := by
      rw [String.utf8ByteSize_append] at short
      omega
    exact ⟨parent, locate_slash_eq_ok_iff.mpr ⟨bound, led, held⟩, held, same.trans (stepped parent)⟩

theorem namesIn_themePath (directory : String) (settings : Settings) :
    NamesIn (themePath directory settings) directory (String.ofList settings.themeName ++ ".json") := by
  rw [themePath]
  by_cases ended : directory.toList.getLast? = some '/'
  · exact .inr ⟨ended, if_pos ended⟩
  · exact .inl (if_neg ended)

theorem slash_not_mem_themeFile {settings : Settings} (sound : settings.errors = []) :
    '/' ∉ (String.ofList settings.themeName ++ ".json").toList := by
  rw [String.toList_append, String.toList_ofList, List.mem_append, not_or]
  refine ⟨fun inside => ?_, by decide⟩
  have allowed := Settings.isThemeNameChar_of_mem_themeName sound '/' inside
  exact absurd allowed (by decide)

theorem themeFile_ne (name : String) {other : String} (short : other.length < 5) :
    name ++ ".json" ≠ other := by
  rintro rfl
  rw [String.length_append] at short
  have extension : ".json".length = 5 := rfl
  omega

theorem themePath_within {settings : Settings} (sound : settings.errors = [])
    (named : settings.hasTheme = true) (directory : String) (system : FileSystem) :
    let name := Text.trim settings.activeTheme.toList
    let file := String.ofList name ++ ".json"
    NamesIn (themePath directory settings) directory file ∧ name ≠ [] ∧
    (∀ c ∈ name, c.isAlphanum = true ∨ c = '-' ∨ c = '_') ∧
    Text.lower name ≠ ['n', 'o', 'n', 'e'] ∧
    ∀ location, system.locate (themePath directory settings) = .ok location →
      ∃ parent, system.locate directory = .ok parent ∧ system.entry? parent = some .directory ∧
        location = parent.child file := by
  intro name file
  obtain ⟨nonempty, other⟩ := Settings.hasTheme_iff.mp named
  have spelled : NamesIn (themePath directory settings) directory file :=
    namesIn_themePath directory settings
  refine ⟨spelled, nonempty, fun c member => ?_, other, fun location led => ?_⟩
  · have allowed := Settings.isThemeNameChar_of_mem_themeName sound c member
    simpa [isThemeNameChar, or_assoc] using allowed
  · have proper : file ≠ "" ∧ file ≠ "." ∧ file ≠ ".." :=
      ⟨themeFile_ne _ (by decide), themeFile_ne _ (by decide), themeFile_ne _ (by decide)⟩
    exact FileSystem.locate_of_namesIn spelled (slash_not_mem_themeFile sound) proper led

namespace Course

variable {request : Request} {system : FileSystem} {run : Script.Run Report}
  (course : Course request system run)
include course

theorem opened_of_valid {inputs : Inputs} (supplied : system.Supplies request inputs)
    (valid : inputs.Valid) :
    run.opened = request.inputPaths ++ request.themePaths inputs.settings := by
  have reads := reads_readInputs request system
  have same {others : Inputs} (also : system.Supplies request others) : others = inputs :=
    reads.unique also supplied
  cases course with
  | unread stopped => cases stopped.symm.trans ((reads.found inputs).mpr supplied)
  | refused also invalid => exact absurd (same also ▸ valid) invalid
  | unthemed also valid stopped => rw [same also]
  | overflowed accepted broken => rw [same accepted.supplied]
  | printed accepted computed absent => rw [same accepted.supplied]
  | unwritten accepted computed given failed => rw [same accepted.supplied]
  | written accepted computed given succeeded => rw [same accepted.supplied]

theorem opened_of_not_valid
    (refused : ∀ inputs, system.Supplies request inputs → ¬inputs.Valid) :
    run.opened = ((readInputs request).run system).opened := by
  have reads := reads_readInputs request system
  cases course with
  | unread stopped => rfl
  | refused supplied invalid => exact (reads.finished _ ((reads.found _).mpr supplied)).symm
  | unthemed supplied valid stopped => exact absurd valid (refused _ supplied)
  | overflowed accepted broken => exact absurd accepted.valid (refused _ accepted.supplied)
  | printed accepted computed absent => exact absurd accepted.valid (refused _ accepted.supplied)
  | unwritten accepted computed given failed =>
    exact absurd accepted.valid (refused _ accepted.supplied)
  | written accepted computed given succeeded =>
    exact absurd accepted.valid (refused _ accepted.supplied)

end Course

section Unnamed

variable {request : Request} (unnamed : request.theme = none)
include unnamed

theorem themePaths_ne_nil_iff (settings : Settings) :
    request.themePaths settings ≠ [] ↔
      settings.hasTheme = true ∧ request.themes.isSome = true := by
  simp only [Request.themePaths, unnamed]
  by_cases named : settings.hasTheme = true
  · cases request.themes <;> simp [named]
  · simp [named]

theorem mem_themePaths_iff {settings : Settings} {path : String} :
    path ∈ request.themePaths settings ↔ settings.hasTheme = true ∧
      ∃ directory, request.themes = some directory ∧ path = themePath directory settings := by
  simp only [Request.themePaths, unnamed]
  by_cases named : settings.hasTheme = true
  · cases request.themes <;> simp [named]
  · simp [named]

variable {system : FileSystem} {inputs : Inputs} (supplied : system.Supplies request inputs)
  (valid : inputs.Valid)
include supplied valid

theorem run_session_of_no_theme (none_named : inputs.settings.hasTheme = false) :
    let run := (session request).run system
    let completed := (completion request inputs {}).run system
    run.result = completed.result ∧ run.files = completed.files := by
  have resolved : system.Resolves request inputs.settings {} := by
    simp [FileSystem.Resolves, unnamed, none_named]
  rw [run_session_of_theme supplied valid resolved]
  exact ⟨rfl, rfl⟩

theorem run_session_of_themes_missing (named : inputs.settings.hasTheme = true)
    (missing : request.themes = none) :
    let run := (session request).run system
    run.result = .failed inputHeading (.themesMissing inputs.settings.activeTheme) ∧
      run.files = system := by
  have stopped : ((resolveTheme request inputs.settings).run system).result =
      .error (.themesMissing inputs.settings.activeTheme) := by
    simp [resolveTheme, unnamed, named, missing, Script.run_pure]
  rw [run_session_of_theme_error supplied valid stopped]
  exact ⟨rfl, rfl⟩

end Unnamed

/-- A program that is given no theme file opens, after its inputs, at most the file of the active
theme: its name consists of ASCII letters, digits, hyphens and underscores and does not mean none, and
its place is in the directory of themes. Once the inputs are valid, it is opened if and only if there
is such a name and a directory is given. -/
theorem theme_opened_by_name (arguments : List String) (system : FileSystem) :
    let run := (program arguments).run system
    (∀ stop, Request.parse arguments = .error stop → run.opened = []) ∧
    ∀ request, Request.parse arguments = .ok request → request.theme = none →
      ∃ themeFiles, run.opened = ((readInputs request).run system).opened ++ themeFiles ∧
        (∀ path ∈ themeFiles, ∃ directory inputs,
          request.themes = some directory ∧ system.Supplies request inputs ∧
          let name := Text.trim inputs.settings.activeTheme.toList
          let file := String.ofList name ++ ".json"
          NamesIn path directory file ∧ name ≠ [] ∧
          (∀ c ∈ name, c.isAlphanum = true ∨ c = '-' ∨ c = '_') ∧
          Text.lower name ≠ ['n', 'o', 'n', 'e'] ∧
          ∀ location, system.locate path = .ok location →
            ∃ parent, system.locate directory = .ok parent ∧ system.entry? parent = some .directory ∧
              location = parent.child file) ∧
        ∀ inputs, system.Supplies request inputs → inputs.Valid →
          (themeFiles ≠ [] ↔ inputs.settings.hasTheme = true ∧ request.themes.isSome = true) ∧
          (inputs.settings.hasTheme = false →
            let completed := (completion request inputs {}).run system
            run.result = completed.result ∧ run.files = completed.files) ∧
          (inputs.settings.hasTheme = true → request.themes = none →
            run.result = .failed inputHeading (.themesMissing inputs.settings.activeTheme) ∧
            run.files = system) := by
  constructor
  · intro stop stopped
    rw [run_program_of_stop stopped]
  · intro request asked unnamed
    rw [program_of_request asked]
    have course := course_session request system
    by_cases passed : ∃ inputs, system.Supplies request inputs ∧ inputs.Valid
    · obtain ⟨inputs, supplied, valid⟩ := passed
      have reads := reads_readInputs request system
      refine ⟨request.themePaths inputs.settings, ?_, fun path opened => ?_, fun others also _ => ?_⟩
      · rw [course.opened_of_valid supplied valid,
          reads.finished inputs ((reads.found inputs).mpr supplied)]
      · obtain ⟨named, directory, given, rfl⟩ := (mem_themePaths_iff unnamed).mp opened
        exact ⟨directory, inputs, given, supplied,
          themePath_within valid.settings named directory system⟩
      · obtain rfl : others = inputs := reads.unique also supplied
        exact ⟨themePaths_ne_nil_iff unnamed _, run_session_of_no_theme unnamed supplied valid,
          run_session_of_themes_missing unnamed supplied valid⟩
    · have refused : ∀ inputs, system.Supplies request inputs → ¬inputs.Valid :=
        fun inputs supplied valid => passed ⟨inputs, supplied, valid⟩
      refine ⟨[], ?_, fun path opened => ?_, fun inputs supplied valid => ?_⟩
      · rw [course.opened_of_not_valid refused, List.append_nil]
      · cases opened
      · exact absurd valid (refused inputs supplied)

theorem cave_theme_opened_by_name :
    let run := (program caveArguments).run caveFiles
    Request.parse caveArguments = .ok caveRequest ∧ caveRequest.theme = none ∧
    caveFiles.Supplies caveRequest caveInputs ∧ caveInputs.Valid ∧
    ∃ themeFiles, run.opened = ((readInputs caveRequest).run caveFiles).opened ++ themeFiles ∧
      themeFiles ≠ [] ∧ ∀ path ∈ themeFiles, ∃ directory inputs,
        caveRequest.themes = some directory ∧ caveFiles.Supplies caveRequest inputs ∧
        NamesIn path directory
          (String.ofList (Text.trim inputs.settings.activeTheme.toList) ++ ".json") := by
  obtain ⟨supplied, valid, _⟩ := caveFiles_accepts
  obtain ⟨themeFiles, opened, within, chosen⟩ :=
    (theme_opened_by_name caveArguments caveFiles).2 caveRequest parse_caveArguments rfl
  have named : caveInputs.settings.hasTheme = true := by decide +kernel
  refine ⟨parse_caveArguments, rfl, supplied, valid, themeFiles, opened,
    (chosen caveInputs supplied valid).1.mpr ⟨named, rfl⟩, fun path member => ?_⟩
  obtain ⟨directory, inputs, given, held, spelled, _⟩ := within path member
  exact ⟨directory, inputs, given, held, spelled⟩

end CommandLine
end Corridor
