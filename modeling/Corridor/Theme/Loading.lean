import Corridor.Theme.File

namespace Corridor

namespace ColorEntry

def compile (entry : ColorEntry) : Except ThemeError ColorChannel :=
  match Rgb.parse entry.hex with
  | .error error => .error (.color entry.slot error)
  | .ok rgb => .ok ⟨entry.slot, rgb, entry.blending, entry.opacity, entry.copyColor, entry.special⟩

end ColorEntry

namespace RuleEntry

def notSuffixes (index : Nat) (entry : RuleEntry) : Except ThemeError (List Condition) :=
  if [] ∈ entry.notPatterns then .error (.emptyNotPattern index)
  else .ok (entry.notPatterns.map Condition.notSuffix)

def residues (index : Nat) (entry : RuleEntry) : Except ThemeError (List Condition) :=
  match entry.offset with
  | none => .ok []
  | some offset =>
    if 0 ≤ offset ∧ offset < entry.period then
      .ok [.residue entry.period.toNat offset.toNat]
    else .error (.offsetOutOfRange index offset entry.period)

/-- Excluded offsets count modulo the period, negative ones too. -/
def notResidues (entry : RuleEntry) : List Condition :=
  if entry.notOffsets = [] then []
  else [.notResidue entry.period.toNat
    (entry.notOffsets.map fun offset => (offset % entry.period).toNat)]

def compile (index : Nat) (entry : RuleEntry) : Except ThemeError Rule := do
  if entry.pattern = [] then throw (.emptyPattern index)
  if windowLength < entry.pattern.length then
    throw (.patternTooLong index entry.pattern.length)
  if entry.period ≤ 0 then throw (.nonPositivePeriod index entry.period)
  let notSuffixes ← entry.notSuffixes index
  let residues ← entry.residues index
  let commands ← entry.commands.mapM Command.parse
  return ⟨.suffix entry.pattern :: notSuffixes ++ residues ++ entry.notResidues, commands,
    entry.fallback⟩

def compileFrom (index : Nat) (fallback : Option Nat) :
    List RuleEntry → Except ThemeError (List Rule)
  | [] => .ok []
  | entry :: rest =>
    match entry.fallback, fallback with
    | true, some first => .error (.multipleElseRules first index)
    | true, none => do
      let rule ← entry.compile index
      let rules ← compileFrom (index + 1) (some index) rest
      return rule :: rules
    | false, fallback => do
      let rule ← entry.compile index
      let rules ← compileFrom (index + 1) fallback rest
      return rule :: rules

end RuleEntry

namespace PatternEntry

def compile (entry : PatternEntry) : Except ThemeError RepeatingPattern :=
  if entry.period ≤ 0 then .error (.nonPositiveRepeat entry.id entry.period)
  else if entry.start < 0 then .error (.negativeStart entry.id entry.start)
  else
    match parseRecords entry.data with
    | .error error => .error (.record error)
    | .ok records => .ok ⟨entry.id, records, entry.start, entry.period⟩

end PatternEntry

namespace Theme

def ofFile (file : ThemeFile) : Except ThemeError Theme := do
  let colors ← file.colors.mapM ColorEntry.compile
  let rules ← RuleEntry.compileFrom 0 none file.rules
  let patterns ← file.patterns.mapM PatternEntry.compile
  return ⟨file.metadata, colors, rules, patterns⟩

def parse (text : String) : Except ThemeError Theme :=
  match ThemeFile.parse? text with
  | none => .error .notJson
  | some file => ofFile file

end Theme
end Corridor
