import Corridor.Output

namespace Corridor

inductive Severity where
  | debug
  | info
  | warning
  deriving DecidableEq, Repr

def Severity.name : Severity → String
  | debug => "DEBUG"
  | info => "INFO"
  | warning => "WARN"

structure Notice where
  severity : Severity
  text : String
  deriving DecidableEq, Repr

def Notice.line (notice : Notice) : String := notice.severity.name ++ " " ++ notice.text

def Evaluation.notices (evaluation : Evaluation) (site : Site) : List Notice :=
  let x := site.segment.x
  (match evaluation.rule with
    | some rule => [⟨.debug, s!"segment {site.index} (x={x}): rule {rule} fired, {evaluation.rendered.length} records"⟩]
    | none => []) ++
  evaluation.injected.map fun pattern => ⟨.debug, s!"pattern {pattern.id} injected at x={x}"⟩

namespace Level

def compileNotices (level : Level) (biome : Biome) (theme : Theme) (output : Output) : List Notice :=
  let summary := output.summary
  let overrides := ", ".intercalate summary.overrides
  ((biome.sites.zip (biome.evaluations theme)).flatMap fun (site, evaluation) =>
    evaluation.notices site) ++
  [⟨.info, s!"Compiled level {level.seed} ({biome.segments.length} segments): " ++
    s!"{summary.structureRecords} structure records, {summary.themeRecords} theme records, " ++
    s!"overrides [{overrides}]"⟩]

def notices (level : Level) (theme : Theme) (output : Output) : List Notice :=
  match level.biomes with
  | [] => [⟨.info, s!"Level {level.seed} has no biomes, nothing to compile"⟩]
  | biome :: rest =>
    (if rest = [] then [] else [⟨.warning,
      s!"Level {level.seed} has {rest.length + 1} biomes; only the first is compiled"⟩]) ++
    (if biome.segments = [] then
      [⟨.info, s!"Level {level.seed} has an empty biome, nothing to compile"⟩]
    else level.compileNotices biome theme output)

end Level
end Corridor
