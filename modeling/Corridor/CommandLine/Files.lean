/-!
Files: a tree of text files around a working directory, and scripts that read and write in it.
-/
namespace Corridor.CommandLine

inductive FileError where
  | missing
  | notDirectory
  | isDirectory
  | nameTooLong
  | other (message : String)
  deriving DecidableEq, Repr

def FileError.message : FileError → String
  | missing => "No such file or directory (os error 2)"
  | notDirectory => "Not a directory (os error 20)"
  | isDirectory => "Is a directory (os error 21)"
  | nameTooLong => "File name too long (os error 36)"
  | other message => message

/-- Where a path starts: the working directory or one that holds it, or the root of all. -/
inductive Anchor where
  | working (above : Nat)
  | root
  deriving DecidableEq, Repr

structure Location where
  anchor : Anchor := .working 0
  names : List String := []
  deriving DecidableEq, Repr

def Location.child (location : Location) (name : String) : Location :=
  { location with names := location.names ++ [name] }

def Location.parent (location : Location) : Location :=
  match location.names, location.anchor with
  | [], .working above => ⟨.working (above + 1), []⟩
  | [], .root => location
  | names, anchor => ⟨anchor, names.dropLast⟩

def Location.step (location : Location) (name : String) : Location :=
  if name = "" ∨ name = "." then location
  else if name = ".." then location.parent
  else location.child name

inductive Entry where
  | file (text : String)
  /-- A file whose bytes are no text, and what its readers meet until it is written over. -/
  | unreadable (error : FileError)
  | directory
  deriving DecidableEq, Repr

structure FileSystem where
  files : List (Location × String) := []
  unreadable : List (Location × FileError) := []
  directories : List Location := []
  /-- Where writing is not permitted, and what writers meet there. -/
  locked : List (Location × FileError) := []
  deriving DecidableEq, Repr

def longestPath : Nat := 4095

def longestName : Nat := 255

namespace FileSystem

def entry? (system : FileSystem) (location : Location) : Option Entry :=
  match system.files.lookup location with
  | some text => some (.file text)
  | none =>
    match system.unreadable.lookup location with
    | some error => some (.unreadable error)
    | none => if location.names = [] ∨ location ∈ system.directories then some .directory else none

def walk (system : FileSystem) (location : Location) : List String → Except FileError Location
  | [] => .ok location
  | name :: rest =>
    match system.entry? location with
    | none => .error .missing
    | some .directory =>
      if longestName < name.utf8ByteSize then .error .nameTooLong
      else system.walk (location.step name) rest
    | some _ => .error .notDirectory

/-- The names of a path, and where it starts. -/
def start (path : String) : Location × List String :=
  match (path.toList.splitOn '/').map String.ofList with
  | "" :: names => (⟨.root, []⟩, names)
  | names => ({}, names)

def follow (system : FileSystem) (path : String) (names : List String) :
    Except FileError Location :=
  if longestPath < path.utf8ByteSize then .error .nameTooLong
  else system.walk (start path).1 names

def read (system : FileSystem) (path : String) : Except FileError String :=
  match system.follow path (start path).2 with
  | .error error => .error error
  | .ok location =>
    match system.entry? location with
    | some (.file text) => .ok text
    | some (.unreadable error) => .error error
    | some .directory => .error .isDirectory
    | none => .error .missing

/-- The text of a file for a reader outside, whose path to it leads through the working directory. -/
def textWithin? (system : FileSystem) (directory path : String) : Option String :=
  if longestPath < (directory ++ "/" ++ path).utf8ByteSize then none
  else (system.read path).toOption

def put (location : Location) (text : String) : List (Location × String) → List (Location × String)
  | [] => [(location, text)]
  | first :: rest =>
    if first.1 = location then (location, text) :: rest else first :: put location text rest

def insert (system : FileSystem) (location : Location) (text : String) : List String → FileSystem
  | [] => { system with files := put location text system.files }
  | name :: rest =>
    { system with directories := location :: system.directories }.insert (location.step name) text
      rest

def ofFiles (files : List (String × String)) : FileSystem :=
  files.foldl (fun system (path, text) => system.insert (start path).1 text (start path).2) {}

def permit (system : FileSystem) (location : Location) : Except FileError Location :=
  if system.entry? location = some .directory then .error .isDirectory
  else
    match system.locked.lookup location with
    | some error => .error error
    | none => .ok location

/-- The place of a file to be written. A path that ends in a slash names a directory, and its last
name is not looked up; so does one that ends in dots. -/
def target (system : FileSystem) (path : String) : Except FileError Location :=
  let names := (start path).2
  let named := (names.reverse.dropWhile (· = "")).reverse
  match system.follow path (if named = names then names else named.dropLast ++ ["."]) with
  | .error error => .error error
  | .ok location => system.permit location

def write (system : FileSystem) (path text : String) : Except FileError FileSystem :=
  (system.target path).map fun location => { system with files := put location text system.files }

end FileSystem

inductive Script (α : Type) where
  | done (result : α)
  | read (path : String) (next : Except FileError String → Script α)
  | write (path text : String) (next : Except FileError Unit → Script α)

namespace Script

variable {α β : Type}

def bind : Script α → (α → Script β) → Script β
  | done result, next => next result
  | read path rest, next => read path fun text => (rest text).bind next
  | write path text rest, next => write path text fun written => (rest written).bind next

instance : Monad Script where
  pure := done
  bind := bind

def readFile (path : String) : Script (Except FileError String) := read path done

def writeFile (path text : String) : Script (Except FileError Unit) := write path text done

structure Run (α : Type) where
  result : α
  files : FileSystem
  opened : List String

def run : Script α → FileSystem → Run α
  | done result, system => ⟨result, system, []⟩
  | read path next, system =>
    let rest := (next (system.read path)).run system
    { rest with opened := path :: rest.opened }
  | write path text next, system =>
    match system.write path text with
    | .error error => (next (.error error)).run system
    | .ok written => (next (.ok ())).run written

end Script
end Corridor.CommandLine
