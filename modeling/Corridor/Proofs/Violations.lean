import Corridor.Proofs.Declared
/-!
What is wrong with a theme file. Main statement: a theme is loaded iff its file is valid, and is
refused otherwise with the first of the violations in the order of the declarations.
-/
namespace Corridor

def ColorEntry.violations (entry : ColorEntry) : List ThemeError :=
  (Checked.faults (Rgb.parse entry.hex)).map (.color entry.slot)

def RuleEntry.violations (position : Nat) (earlier : Option Nat) (entry : RuleEntry) :
    List ThemeError :=
  (if entry.fallback then earlier.toList.map (.multipleElseRules · position) else []) ++
  (if entry.pattern = [] then [.emptyPattern position] else []) ++
  (if windowLength < entry.pattern.length then
    [.patternTooLong position entry.pattern.length] else []) ++
  (if entry.period ≤ 0 then [.nonPositivePeriod position entry.period] else []) ++
  (entry.notPatterns.flatMap fun pattern =>
    if pattern = [] then [.emptyNotPattern position] else []) ++
  (entry.offset.toList.flatMap fun offset =>
    if 0 ≤ offset ∧ offset < entry.period then []
    else [.offsetOutOfRange position offset entry.period]) ++
  entry.commands.flatMap fun text => Checked.faults (Command.parse text)

def PatternEntry.violations (entry : PatternEntry) : List ThemeError :=
  (if entry.period ≤ 0 then [.nonPositiveRepeat entry.id entry.period] else []) ++
  (if entry.start < 0 then [.negativeStart entry.id entry.start] else []) ++
  (Checked.faults (parseRecords entry.data)).map .record

namespace ThemeFile

def earlierFallback? (file : ThemeFile) (position : Nat) : Option Nat :=
  (file.rules.take position).findIdx? RuleEntry.fallback

/-- Everything wrong with a theme file, colours first, then rules, then patterns. -/
def violations (file : ThemeFile) : List ThemeError :=
  file.colors.flatMap ColorEntry.violations ++
  (file.rules.mapIdx fun position entry =>
    entry.violations position (file.earlierFallback? position)).flatten ++
  file.patterns.flatMap PatternEntry.violations

structure Valid (file : ThemeFile) : Prop where
  colors : ∀ entry ∈ file.colors, ∃ rgb, Rgb.parse entry.hex = .ok rgb
  rules : ∀ entry ∈ file.rules, entry.WellFormed
  commands : ∀ entry ∈ file.rules, ∀ text ∈ entry.commands, ∃ command, Command.parse text = .ok command
  fallbacks : file.rules.countP RuleEntry.fallback ≤ 1
  patterns : ∀ entry ∈ file.patterns, 0 < entry.period ∧ 0 ≤ entry.start ∧
    ∃ records, parseRecords entry.data = .ok records

end ThemeFile

open Checked (Reports)

theorem ColorEntry.reports_compile (entry : ColorEntry) : Reports entry.compile entry.violations := by
  apply Reports.of_eq
  rw [compile, violations]
  cases Rgb.parse entry.hex <;> rfl

theorem ColorEntry.violations_eq_nil_iff (entry : ColorEntry) :
    entry.violations = [] ↔ ∃ rgb, Rgb.parse entry.hex = .ok rgb := by
  rw [violations, List.map_eq_nil_iff, Checked.faults_eq_nil_iff]

theorem PatternEntry.violations_eq_nil_iff (entry : PatternEntry) :
    entry.violations = [] ↔ 0 < entry.period ∧ 0 ≤ entry.start ∧
      ∃ records, parseRecords entry.data = .ok records := by
  rw [violations, List.append_eq_nil_iff, List.append_eq_nil_iff, List.map_eq_nil_iff,
    Checked.faults_eq_nil_iff, and_assoc]
  simp

theorem PatternEntry.reports_compile (entry : PatternEntry) :
    Reports entry.compile entry.violations := by
  rw [compile, violations]
  by_cases period : entry.period ≤ 0
  · rw [if_pos period, if_pos period]
    rfl
  · rw [if_neg period, if_neg period]
    by_cases start : entry.start < 0
    · rw [if_pos start, if_pos start]
      rfl
    · rw [if_neg start, if_neg start]
      apply Reports.of_eq
      cases parseRecords entry.data <;> rfl

namespace RuleEntry

theorem reports_notSuffixes (position : Nat) (entry : RuleEntry) :
    Reports (entry.notSuffixes position) (entry.notPatterns.flatMap fun pattern =>
      if pattern = [] then [.emptyNotPattern position] else []) := by
  -- all empty patterns of a rule give the same error, so it does not matter which of them is first
  have first_empty : ∀ patterns : List (List Orientation),
      (patterns.flatMap fun pattern =>
        if pattern = [] then [ThemeError.emptyNotPattern position] else []).head? =
      if [] ∈ patterns then some (.emptyNotPattern position) else none := by
    intro patterns
    induction patterns with
    | nil => rfl
    | cons pattern rest ih =>
      by_cases empty : pattern = []
      · simp [empty]
      · have other : ¬[] = pattern := fun same => empty same.symm
        simp only [List.flatMap_cons, if_neg empty, List.nil_append, ih, List.mem_cons, other,
          false_or]
  rw [Reports, first_empty, notSuffixes]
  split <;> rfl

theorem reports_residues (position : Nat) (entry : RuleEntry) :
    Reports (entry.residues position) (entry.offset.toList.flatMap fun offset =>
      if 0 ≤ offset ∧ offset < entry.period then []
      else [.offsetOutOfRange position offset entry.period]) := by
  apply Reports.of_eq
  rw [residues]
  cases entry.offset with
  | none => rfl
  | some offset =>
    by_cases inside : 0 ≤ offset ∧ offset < entry.period
    · simp [inside, Checked.faults]
    · simp [inside, Checked.faults]

theorem reports_compile (position : Nat) (entry : RuleEntry) :
    Reports (entry.compile position) (entry.violations position none) := by
  have commands : Reports (entry.commands.mapM Command.parse)
      (entry.commands.flatMap fun text => Checked.faults (Command.parse text)) :=
    Reports.mapM fun _ _ => .of_eq rfl
  have alone : (if entry.fallback then (none : Option Nat).toList.map
      (ThemeError.multipleElseRules · position) else []) = [] := by
    split <;> rfl
  rw [compile, violations, alone]
  simp only [List.append_assoc, List.nil_append]
  refine Reports.guard (Reports.guard (Reports.guard ?_))
  refine (reports_notSuffixes position entry).bind fun _ _ => ?_
  refine (reports_residues position entry).bind fun _ _ => ?_
  exact commands.bind_pure

/-- A second fallback rule is refused before anything else is checked of it. -/
theorem violations_of_earlier {entry : RuleEntry} (fallback : entry.fallback = true)
    (first position : Nat) :
    ∃ rest, entry.violations position (some first) = .multipleElseRules first position :: rest := by
  rw [violations, if_pos fallback]
  exact ⟨_, rfl⟩

theorem violations_of_not_fallback {entry : RuleEntry} (ordinary : entry.fallback = false)
    (position : Nat) (earlier : Option Nat) :
    entry.violations position earlier = entry.violations position none := by
  rw [violations, violations, ordinary]
  rfl

def earlierFrom (index : Nat) (fallback : Option Nat) (entries : List RuleEntry) (offset : Nat) :
    Option Nat :=
  fallback.or (((entries.take offset).findIdx? RuleEntry.fallback).map (index + ·))

def violationsFrom (index : Nat) (fallback : Option Nat) (entries : List RuleEntry) :
    List ThemeError :=
  (entries.mapIdx fun offset entry =>
    entry.violations (index + offset) (earlierFrom index fallback entries offset)).flatten

theorem earlierFrom_zero (index : Nat) (fallback : Option Nat) (entries : List RuleEntry) :
    earlierFrom index fallback entries 0 = fallback := by
  simp [earlierFrom]

theorem earlierFrom_succ (index : Nat) (fallback : Option Nat) (entry : RuleEntry)
    (rest : List RuleEntry) (offset : Nat) :
    earlierFrom index fallback (entry :: rest) (offset + 1) =
      earlierFrom (index + 1) (if entry.fallback then fallback.or (some index) else fallback) rest
        offset := by
  rw [earlierFrom, earlierFrom, List.take_succ_cons, List.findIdx?_cons]
  cases entry.fallback with
  | true => cases fallback <;> simp
  | false => simp [Option.map_map, Function.comp_def, Nat.add_assoc, Nat.add_comm 1]

theorem violationsFrom_cons (index : Nat) (fallback : Option Nat) (entry : RuleEntry)
    (rest : List RuleEntry) :
    violationsFrom index fallback (entry :: rest) = entry.violations index fallback ++
      violationsFrom (index + 1) (if entry.fallback then fallback.or (some index) else fallback)
        rest := by
  rw [violationsFrom, violationsFrom, List.mapIdx_cons, List.flatten_cons, earlierFrom_zero]
  congr 2
  apply List.mapIdx_eq_mapIdx_iff.mpr
  intro offset _
  rw [earlierFrom_succ, Nat.add_assoc, Nat.add_comm 1]

theorem reports_compileFrom (index : Nat) (fallback : Option Nat) (entries : List RuleEntry) :
    Reports (compileFrom index fallback entries) (violationsFrom index fallback entries) := by
  -- by the recursion of the compilation, which carries the first fallback rule along
  induction entries generalizing index fallback with
  | nil => rfl
  | cons entry rest ih =>
    rw [violationsFrom_cons]
    unfold compileFrom
    split
    · rename_i first isFallback
      obtain ⟨others, refused⟩ := violations_of_earlier isFallback first index
      rw [refused]
      rfl
    · rename_i isFallback
      rw [if_pos isFallback]
      exact (reports_compile index entry).bind fun _ _ => (ih _ _).bind_pure
    · rename_i isOrdinary
      rw [violations_of_not_fallback isOrdinary, isOrdinary]
      exact (reports_compile index entry).bind fun _ _ => (ih _ _).bind_pure

theorem violations_eq_nil_iff (position : Nat) (entry : RuleEntry) :
    entry.violations position none = [] ↔
      entry.WellFormed ∧ ∀ text ∈ entry.commands, ∃ command, Command.parse text = .ok command := by
  rw [← (reports_compile position entry).exists_ok_iff, ← Checked.exists_mapM_eq_ok_iff]
  simp only [compile_eq_ok_iff]
  constructor
  · rintro ⟨rule, wellFormed, commands, parsed, _⟩
    exact ⟨wellFormed, commands, parsed⟩
  · rintro ⟨wellFormed, commands, parsed⟩
    exact ⟨_, wellFormed, commands, parsed, rfl⟩

theorem violations_some_eq_nil_iff (position first : Nat) (entry : RuleEntry) :
    entry.violations position (some first) = [] ↔
      entry.fallback = false ∧ entry.violations position none = [] := by
  cases isFallback : entry.fallback with
  | true =>
    obtain ⟨others, refused⟩ := violations_of_earlier isFallback first position
    simp [refused]
  | false =>
    rw [violations_of_not_fallback isFallback]
    simp

/-- Nothing is wrong with rules iff nothing is wrong with any of them and at most one of them, or one
before them, is a fallback rule. -/
theorem violationsFrom_eq_nil_iff (index : Nat) (fallback : Option Nat) (entries : List RuleEntry) :
    violationsFrom index fallback entries = [] ↔
      (∀ entry ∈ entries, entry.WellFormed ∧
        ∀ text ∈ entry.commands, ∃ command, Command.parse text = .ok command) ∧
      fallback.toList.length + entries.countP RuleEntry.fallback ≤ 1 := by
  induction entries generalizing index fallback with
  | nil => cases fallback <;> simp [violationsFrom]
  | cons entry rest ih =>
    rw [violationsFrom_cons, List.append_eq_nil_iff, ih, List.forall_mem_cons, List.countP_cons]
    cases fallback with
    | none =>
      rw [violations_eq_nil_iff]
      cases entry.fallback with
      | true => simp [and_assoc, Nat.add_comm]
      | false => simp [and_assoc]
    | some first =>
      rw [violations_some_eq_nil_iff, violations_eq_nil_iff]
      cases entry.fallback with
      | true => simp
      | false => simp [and_assoc]

end RuleEntry

namespace ThemeFile

theorem violations_eq (file : ThemeFile) :
    file.violations = file.colors.flatMap ColorEntry.violations ++
      RuleEntry.violationsFrom 0 none file.rules ++ file.patterns.flatMap PatternEntry.violations := by
  have positions : (file.rules.mapIdx fun position entry =>
      entry.violations position (file.earlierFallback? position)).flatten =
        RuleEntry.violationsFrom 0 none file.rules := by
    rw [RuleEntry.violationsFrom]
    congr 1
    apply List.mapIdx_eq_mapIdx_iff.mpr
    intro position _
    simp [RuleEntry.earlierFrom, earlierFallback?]
  rw [violations, positions]

theorem violations_eq_nil_iff_valid (file : ThemeFile) : file.violations = [] ↔ file.Valid := by
  rw [violations_eq, List.append_eq_nil_iff, List.append_eq_nil_iff, List.flatMap_eq_nil_iff,
    List.flatMap_eq_nil_iff, RuleEntry.violationsFrom_eq_nil_iff, Option.toList_none, List.length_nil,
    Nat.zero_add]
  simp only [ColorEntry.violations_eq_nil_iff, PatternEntry.violations_eq_nil_iff]
  constructor
  · rintro ⟨⟨colors, rules, fallbacks⟩, patterns⟩
    exact ⟨colors, fun entry member => (rules entry member).1,
      fun entry member => (rules entry member).2, fallbacks, patterns⟩
  · rintro ⟨colors, rules, commands, fallbacks, patterns⟩
    exact ⟨⟨colors, fun entry member => ⟨rules entry member, commands entry member⟩, fallbacks⟩,
      patterns⟩

end ThemeFile

theorem Theme.reports_ofFile (file : ThemeFile) : Reports (ofFile file) file.violations := by
  rw [ThemeFile.violations_eq, ofFile, List.append_assoc]
  refine (Reports.mapM fun entry _ => entry.reports_compile).bind fun _ _ => ?_
  refine (RuleEntry.reports_compileFrom 0 none file.rules).bind fun _ _ => ?_
  exact (Reports.mapM fun entry _ => entry.reports_compile).bind_pure

namespace Theme

theorem parse_eq_ofFile {text : String} {file : ThemeFile} (read : ThemeFile.parse? text = some file) :
    parse text = ofFile file := by
  rw [parse, read]

/-- A text that reads as a theme file is loaded iff the file is valid. It is refused with the first
violation otherwise. What is loaded has all that is declared, and none of its periods is zero. -/
theorem parse_reports_first_violation {text : String} {file : ThemeFile}
    (read : ThemeFile.parse? text = some file) :
    ((∃ theme, parse text = .ok theme) ↔ file.Valid) ∧
    (∀ error, parse text = .error error ↔ file.violations.head? = some error) ∧
    (∀ theme, parse text = .ok theme → theme.Keeps file ∧ theme.Bounded) := by
  rw [parse_eq_ofFile read]
  have reports := reports_ofFile file
  refine ⟨?_, ?_, ?_⟩
  · rw [reports.exists_ok_iff, ThemeFile.violations_eq_nil_iff_valid]
  · intro error
    exact reports.eq_error_iff
  · intro theme loaded
    exact ⟨keeps_of_ofFile loaded, bounded_of_ofFile loaded⟩

def clashText : String :=
  "\x7b\"rules\":[\x7b\"pattern\":[4],\"else\":true\x7d,\x7b\"else\":true,\"period\":0\x7d]," ++
  "\"patterns\":[\x7b\"id\":7,\"data\":\"1\",\"repeat\":0\x7d]\x7d"

def clashFile : ThemeFile where
  rules := [{ pattern := [.slope], fallback := true }, { period := 0, fallback := true }]
  patterns := [{ id := 7, data := "1", period := 0 }]

def tidyText : String :=
  "\x7b\"rules\":[\x7b\"pattern\":[4],\"offset\":1,\"not_offsets\":[-1],\"period\":3," ++
  "\"commands\":[\"override:slope\"]\x7d]\x7d"

def tidyFile : ThemeFile where
  rules := [
    { pattern := [.slope], offset := some 1, notOffsets := [-1], period := 3,
      commands := ["override:slope"] }]

theorem clash_reports_first_violation :
    ThemeFile.parse? clashText = some clashFile ∧
    clashFile.violations = [.multipleElseRules 0 1, .emptyPattern 1, .nonPositivePeriod 1 0,
      .nonPositiveRepeat 7 0, .record (.unpairedField "1")] ∧
    parse clashText = .error (.multipleElseRules 0 1) ∧ ¬clashFile.Valid ∧
    ThemeFile.parse? tidyText = some tidyFile ∧ tidyFile.Valid ∧
    ∃ theme, parse tidyText = .ok theme ∧ theme.Keeps tidyFile ∧ theme.Bounded := by
  have readClash : ThemeFile.parse? clashText = some clashFile := by decide +kernel
  have readTidy : ThemeFile.parse? tidyText = some tidyFile := by decide +kernel
  obtain ⟨accepted, refused, _⟩ := parse_reports_first_violation readClash
  obtain ⟨acceptedTidy, _, made⟩ := parse_reports_first_violation readTidy
  have clash : clashFile.violations = [.multipleElseRules 0 1, .emptyPattern 1,
      .nonPositivePeriod 1 0, .nonPositiveRepeat 7 0, .record (.unpairedField "1")] := by
    decide +kernel
  have error : parse clashText = .error (.multipleElseRules 0 1) :=
    (refused _).mpr (by rw [clash]; rfl)
  have tidy : tidyFile.Valid := (ThemeFile.violations_eq_nil_iff_valid tidyFile).mp (by decide +kernel)
  obtain ⟨theme, loaded⟩ := acceptedTidy.mpr tidy
  refine ⟨readClash, clash, error, ?_, readTidy, tidy, theme, loaded, made theme loaded⟩
  intro valid
  obtain ⟨theme, loaded⟩ := accepted.mpr valid
  rw [error] at loaded
  cases loaded

end Theme
end Corridor
