import Corridor.Json.Basic
import Corridor.Text.Hexadecimal
import Corridor.Decimal.Positional
/-!
The writer of JSON text: no blanks, and escapes only for quotes, backslashes and control characters.
-/
namespace Corridor.Json

def escape (c : Char) : List Char :=
  match c with
  | '"' => ['\\', '"']
  | '\\' => ['\\', '\\']
  | '\x08' => ['\\', 'b']
  | '\x0c' => ['\\', 'f']
  | '\n' => ['\\', 'n']
  | '\r' => ['\\', 'r']
  | '\t' => ['\\', 't']
  | c =>
    if c.toNat < 32 then ['\\', 'u', '0', '0', Text.hexDigit (c.toNat / 16),
      Text.hexDigit (c.toNat % 16)]
    else [c]

def quote (text : String) : List Char := '"' :: text.toList.flatMap escape ++ ['"']

def Number.chars : Number → List Char
  | .integer negative magnitude => (if negative then ['-'] else []) ++ Numeral.ofNat magnitude
  | .decimal negative whole fraction power =>
    (if negative then ['-'] else []) ++ Numeral.ofNat whole ++
      (if fraction = [] then [] else '.' :: fraction) ++
      (if fraction = [] ∨ power ≠ 0 then 'e' :: Numeral.ofInt power else [])

def ofFloat (x : Float) : Json :=
  match Decimal.readingOfBits x.toBits.toNat with
  | .finite negative magnitude =>
    match magnitude.parts with
    | (whole, fraction) => .number (.decimal negative (Nat.ofDigitChars 10 whole 0)
        (if fraction = [] then ['0'] else fraction) 0)
  | _ => .null

mutual

def chars : Json → List Char
  | .null => ['n', 'u', 'l', 'l']
  | .bool true => ['t', 'r', 'u', 'e']
  | .bool false => ['f', 'a', 'l', 's', 'e']
  | .number n => n.chars
  | .string text => quote (text.getD "")
  | .array items => '[' :: itemsChars items
  | .object members => '\x7b' :: membersChars members

def itemsChars : List Json → List Char
  | [] => [']']
  | [item] => chars item ++ [']']
  | item :: rest => chars item ++ ',' :: itemsChars rest

def membersChars : List (Option String × Json) → List Char
  | [] => ['\x7d']
  | [(name, value)] => quote (name.getD "") ++ ':' :: chars value ++ ['\x7d']
  | (name, value) :: rest => quote (name.getD "") ++ ':' :: chars value ++ ',' :: membersChars rest

end

def text (json : Json) : String := String.ofList json.chars

end Corridor.Json
