import Corridor.Json.Shape
import Corridor.Json.Writer
import Corridor.Record.Basic

namespace Corridor

/-- A value is an object whose only member names its kind. -/
def FieldValue.ofJson? : Json → Option FieldValue
  | .object [(some "Int", json)] => json.int64?.map int
  | .object [(some "Float", json)] => json.float?.map float
  | .object [(some "Text", json)] => json.text?.map text
  | _ => none

def FieldValue.toJson : FieldValue → Json
  | int value => .ofMembers [("Int", .ofInt value)]
  | float value => .ofMembers [("Float", .ofFloat value)]
  | text value => .ofMembers [("Text", .ofText value)]

def Record.fieldOfJson? : Json → Option (Key × FieldValue)
  | .array [key, value] => do
    let key ← key.nat? 65535
    let value ← FieldValue.ofJson? value
    some (UInt16.ofNat key, value)
  | _ => none

def Record.ofJson? (json : Json) : Option Record := do
  let fields ← json.fields? ["fields"]
  let fields ← Json.required fields "fields" (Json.list? fieldOfJson?)
  some ⟨fields⟩

def Record.toJson (record : Record) : Json :=
  .ofMembers [("fields", .ofList (fun (key, value) => .array [.ofNat key.toNat, value.toJson])
    record.fields)]

end Corridor
