import Corridor.Override

namespace Corridor.CommandLine

inductive Setting where
  | level
  | theme
  | themes
  | settings
  | header
  | out
  | override
  deriving DecidableEq, Repr

inductive Flag where
  | verbose
  | help
  | version
  deriving DecidableEq, Repr

inductive Switch where
  | setting (setting : Setting)
  | flag (flag : Flag)
  deriving DecidableEq, Repr

def Switch.ofLong? : List Char → Option Switch
  | name =>
    [("level", setting .level), ("theme", setting .theme), ("themes", setting .themes),
      ("settings", setting .settings), ("header", setting .header), ("out", setting .out),
      ("override", setting .override), ("verbose", flag .verbose), ("help", flag .help),
      ("version", flag .version)].lookup (String.ofList name)

def Switch.ofShort? : Char → Option Switch
  | 'l' => some (setting .level)
  | 't' => some (setting .theme)
  | 's' => some (setting .settings)
  | 'o' => some (setting .out)
  | 'v' => some (flag .verbose)
  | 'h' => some (flag .help)
  | 'V' => some (flag .version)
  | _ => none

structure Request where
  level : String
  theme : Option String
  themes : Option String
  settings : Option String
  header : Option String
  out : Option String
  overrides : List Category
  verbose : Bool
  deriving DecidableEq, Repr

inductive Stop where
  | malformed
  | unknownCategory (name : String)
  | help
  | version
  deriving DecidableEq, Repr

structure Draft where
  level : Option String := none
  theme : Option String := none
  themes : Option String := none
  settings : Option String := none
  header : Option String := none
  out : Option String := none
  overrides : List Category := []
  verbose : Bool := false
  pending : Option (Setting × Option String) := none
  deriving DecidableEq, Repr

namespace Draft

/-- A path is given once and is not empty. -/
def path (current : Option String) (value : String) : Except Stop (Option String) :=
  match current with
  | some _ => .error .malformed
  | none => if value = "" then .error .malformed else .ok (some value)

def assign (draft : Draft) (setting : Setting) (value : String) : Except Stop Draft :=
  match setting with
  | .level => (path draft.level value).map fun path => { draft with level := path }
  | .theme => (path draft.theme value).map fun path => { draft with theme := path }
  | .themes => (path draft.themes value).map fun path => { draft with themes := path }
  | .settings => (path draft.settings value).map fun path => { draft with settings := path }
  | .header => (path draft.header value).map fun path => { draft with header := path }
  | .out => (path draft.out value).map fun path => { draft with out := path }
  | .override =>
    match Category.ofName? value with
    | some category => .ok { draft with overrides := draft.overrides ++ [category] }
    | none => .error (.unknownCategory value)

/-- Reads the value of the pending option, which has to be there. -/
def settle (draft : Draft) : Except Stop Draft :=
  match draft.pending with
  | none => .ok draft
  | some (_, none) => .error .malformed
  | some (setting, some value) => { draft with pending := none }.assign setting value

def raise (draft : Draft) (flag : Flag) : Except Stop Draft := do
  let draft ← draft.settle
  match flag with
  | .help => .error .help
  | .version => .error .version
  | .verbose => if draft.verbose then .error .malformed else .ok { draft with verbose := true }

def await (draft : Draft) (setting : Setting) : Except Stop Draft :=
  draft.settle.map fun draft => { draft with pending := some (setting, none) }

def give (draft : Draft) (setting : Setting) (value : List Char) : Except Stop Draft := do
  let draft ← draft.settle
  draft.assign setting (String.ofList value)

def long (draft : Draft) (text : List Char) : Except Stop Draft :=
  match Switch.ofLong? (text.takeWhile (· ≠ '=')), text.dropWhile (· ≠ '=') with
  | none, _ => .error .malformed
  | some (.flag flag), [] => draft.raise flag
  | some (.flag _), _ :: _ => .error .malformed
  | some (.setting setting), [] => draft.await setting
  | some (.setting setting), _ :: value => draft.give setting value

def short (draft : Draft) : List Char → Except Stop Draft
  | [] => .ok draft
  | letter :: rest =>
    match Switch.ofShort? letter, rest with
    | none, _ => .error .malformed
    | some (.flag flag), rest => do
      let draft ← draft.raise flag
      draft.short rest
    | some (.setting setting), [] => draft.await setting
    | some (.setting setting), '=' :: value => draft.give setting value
    | some (.setting setting), value => draft.give setting value

/-- An argument that is no option is the value of the option before it. -/
def value (draft : Draft) (text : String) : Except Stop Draft :=
  match draft.pending with
  | some (setting, none) => .ok { draft with pending := some (setting, some text) }
  | _ => .error .malformed

def accept (draft : Draft) (argument : String) : Except Stop Draft :=
  match argument.toList with
  | '-' :: '-' :: text => draft.long text
  | '-' :: letter :: rest => draft.short (letter :: rest)
  | _ => draft.value argument

/-- Two hyphens end the options, and nothing may follow them. -/
def acceptAll (draft : Draft) : List String → Except Stop Draft
  | [] => .ok draft
  | argument :: rest =>
    if argument = "--" then
      if rest = [] then .ok draft else .error .malformed
    else do
      let draft ← draft.accept argument
      draft.acceptAll rest

/-- A level is required, and a theme excludes a directory of themes. -/
def finish (draft : Draft) : Except Stop Request := do
  let draft ← draft.settle
  match draft.level with
  | none => .error .malformed
  | some level =>
    if draft.theme.isSome ∧ draft.themes.isSome then .error .malformed
    else .ok ⟨level, draft.theme, draft.themes, draft.settings, draft.header, draft.out,
      draft.overrides, draft.verbose⟩

end Draft

def Request.parse (arguments : List String) : Except Stop Request := do
  let draft ← Draft.acceptAll {} arguments
  draft.finish

end Corridor.CommandLine
