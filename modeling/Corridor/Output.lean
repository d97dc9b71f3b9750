import Corridor.Compiled
import Corridor.Header
import Corridor.Record.Json
import Corridor.Record.Printer

namespace Corridor

structure Output where
  header : List Char
  compiled : CompiledBiome
  deriving DecidableEq, Repr

namespace Output

/-- Nothing at all, under no overrides. -/
def empty : Output := ⟨[], ⟨[], [], {}⟩⟩

def body (output : Output) : List Char :=
  recordChars output.compiled.structural ++ recordChars output.compiled.decoration

def chars (output : Output) : List Char := output.header ++ output.body

def asText (output : Output) : String := String.ofList output.chars

def isEmpty (output : Output) : Bool :=
  output.header.isEmpty && output.compiled.structural.isEmpty && output.compiled.decoration.isEmpty

def toJson (output : Output) : Json :=
  .ofMembers [("header", .ofText (String.ofList output.header)),
    ("compiled", .ofMembers [
      ("structure", .ofList Record.toJson output.compiled.structural),
      ("theme", .ofList Record.toJson output.compiled.decoration),
      ("flags", output.compiled.overrides.toJson)])]

end Output

structure Summary where
  structureRecords : Nat
  themeRecords : Nat
  overrides : List String
  bytes : Nat
  deriving DecidableEq, Repr

def Output.summary (output : Output) : Summary :=
  ⟨output.compiled.structural.length, output.compiled.decoration.length,
    output.compiled.overrides.names, output.asText.utf8ByteSize⟩

def Summary.toJson (summary : Summary) : Json :=
  .ofMembers [("structure_records", .ofNat summary.structureRecords),
    ("theme_records", .ofNat summary.themeRecords),
    ("overrides", .ofList .ofText summary.overrides), ("bytes", .ofNat summary.bytes)]

namespace Level

/-- Only the first biome is compiled; without one, or without segments, there is no output. -/
def generate (level : Level) (theme : Theme) (settings : Settings) (header : Header)
    (overrides : Overrides) : Output :=
  match level.biomes with
  | [] => .empty
  | biome :: _ =>
    if biome.segments = [] then .empty
    else ⟨(header.merge theme.colors).chars, biome.compile settings theme overrides⟩

def fits (level : Level) (theme : Theme) (settings : Settings) (overrides : Overrides) : Bool :=
  match level.biomes with
  | [] => true
  | biome :: _ => biome.fits settings theme overrides

/-- Generates the output in machine integers. -/
def generate? (level : Level) (theme : Theme) (settings : Settings) (header : Header)
    (overrides : Overrides) : Option Output :=
  if level.fits theme settings overrides then some (level.generate theme settings header overrides)
  else none

end Level
end Corridor
