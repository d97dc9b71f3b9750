import Corridor.Color

namespace Corridor

structure Header where
  colors : List ColorChannel := []
  settings : List (String × String) := []
  deriving DecidableEq, Repr

namespace Header

def putSetting (key value : String) : List (String × String) → List (String × String)
  | [] => [(key, value)]
  | first :: rest =>
    if key = first.1 then (key, value) :: rest
    else if key < first.1 then (key, value) :: first :: rest
    else first :: putSetting key value rest

/-- An object of texts; the last of several values under one key counts. -/
def settingsOfJson? : Json → Option (List (String × String))
  | .object members => do
    let entries ← members.mapM fun (name, json) => do
      let name ← name
      let value ← json.text?
      some (name, value)
    some (entries.foldl (fun settings (key, value) => putSetting key value settings) [])
  | _ => none

def fieldNames : List String := ["colors", "settings"]

def ofJson? (json : Json) : Option Header := do
  let fields ← json.fields? fieldNames
  some {
    colors := ← Json.optional fields "colors" [] (Json.list? ColorChannel.ofJson?)
    settings := ← Json.optional fields "settings" [] settingsOfJson? }

def isEmpty (header : Header) : Bool := header.colors.isEmpty && header.settings.isEmpty

def merge (header : Header) (channels : List ColorChannel) : Header :=
  { header with colors := channels.foldl (fun colors channel => channel.putIn colors) header.colors }

def colorChars (header : Header) : List Char :=
  "kS38,".toList ++ header.colors.flatMap ColorChannel.chars

def settingsChars (header : Header) : List Char :=
  ',' :: (header.settings.flatMap fun (key, value) => key.toList ++ ',' :: value.toList ++ [',']) ++
    [';']

def chars (header : Header) : List Char := header.colorChars ++ header.settingsChars

def asText (header : Header) : String := String.ofList header.chars

end Header
end Corridor
