import Corridor.Json.Number
/-!
Reading typed data from JSON values. A reader is a function to `Option`; it gives `none` for a value of
another shape.
-/
namespace Corridor.Json

def bool? : Json → Option Bool
  | .bool value => some value
  | _ => none

def text? : Json → Option String
  | .string text => text
  | _ => none

def int? (low high : Int) : Json → Option Int
  | .number n => n.toInt?.filter fun i => low ≤ i ∧ i ≤ high
  | _ => none

def int32? : Json → Option Int := int? Numeral.minInt32 Numeral.maxInt32

def int64? : Json → Option Int := int? Numeral.minInt64 Numeral.maxInt64

def nat? (max : Nat) (json : Json) : Option Nat := (json.int? 0 max).map Int.toNat

def float? : Json → Option Float
  | .number n => n.toFloat?
  | _ => none

def list? {α : Type} (read : Json → Option α) : Json → Option (List α)
  | .array items => items.mapM read
  | _ => none

def nullable? {α : Type} (read : Json → Option α) : Json → Option (Option α)
  | .null => some none
  | json => (read json).map some

/-- One of some named values: its name, or an object whose only member gives that name to `null`. -/
def choice? {α : Type} (table : List (String × α)) : Json → Option α
  | .string (some name) => table.lookup name
  | .object [(some name, .null)] => table.lookup name
  | _ => none

def named? {α : Type} (all : List α) (name : α → String) : Json → Option α :=
  choice? (all.map fun a => (name a, a))

/-- The fields of a structure with the given field names: the members of an object that bear one of the
names, each at most once, or the items of an array in the order of the names. -/
def fields? (names : List String) : Json → Option (List (String × Json))
  | .array items => if items.length ≤ names.length then some (names.zip items) else none
  | .object members => do
    let members ← members.mapM fun (name, value) => name.map fun name => (name, value)
    let known := members.filter fun member => names.contains member.1
    if (known.map Prod.fst).Nodup then some known else none
  | _ => none

def required {α : Type} (fields : List (String × Json)) (name : String) (read : Json → Option α) :
    Option α :=
  (fields.lookup name).bind read

def optional {α : Type} (fields : List (String × Json)) (name : String) (default : α)
    (read : Json → Option α) : Option α :=
  match fields.lookup name with
  | none => some default
  | some json => read json

end Corridor.Json
