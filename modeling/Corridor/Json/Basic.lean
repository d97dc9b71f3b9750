import Corridor.Numeral

namespace Corridor

inductive Json.Number where
  | integer (negative : Bool) (magnitude : Nat)
  | decimal (negative : Bool) (whole : Nat) (fraction : List Char) (power : Int)
  deriving DecidableEq, Repr

/-- A string is `none` if its escapes name half of a surrogate pair: well formed, but no text. -/
inductive Json where
  | null
  | bool (value : Bool)
  | number (value : Json.Number)
  | string (text : Option String)
  | array (items : List Json)
  | object (members : List (Option String × Json))
  deriving Repr

namespace Json

def ofText (text : String) : Json := .string (some text)

def ofNat (n : Nat) : Json := .number (.integer false n)

def ofInt : Int → Json
  | .ofNat n => .number (.integer false n)
  | .negSucc n => .number (.integer true (n + 1))

def ofMembers (members : List (String × Json)) : Json :=
  .object (members.map fun (name, value) => (some name, value))

def ofOption {α : Type} (write : α → Json) : Option α → Json
  | none => .null
  | some a => write a

def ofList {α : Type} (write : α → Json) (items : List α) : Json := .array (items.map write)

end Json
end Corridor
