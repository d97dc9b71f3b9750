import Corridor.Text.Blank
import Corridor.Text.Hexadecimal
import Corridor.Decimal.Positional
import Corridor.Json.Shape

namespace Corridor

structure Rgb where
  red : UInt8
  green : UInt8
  blue : UInt8
  deriving DecidableEq, Repr

inductive ColorError where
  | badLength (text : String)
  | badDigit (text : String)
  deriving DecidableEq, Repr

def ColorError.message : ColorError → String
  | badLength text => s!"colour `{text}` must have exactly six hex digits"
  | badDigit text => s!"colour `{text}` contains a non-hex digit"

namespace Rgb

def hexDigits (text : List Char) : List Char := (Text.trim text).dropWhile (· == '#')

def ofHexDigits? : List Char → Option Rgb
  | [a, b, c, d, e, f] => do
    let red ← Text.hexByte? a b
    let green ← Text.hexByte? c d
    let blue ← Text.hexByte? e f
    some ⟨UInt8.ofNat red, UInt8.ofNat green, UInt8.ofNat blue⟩
  | _ => none

def parse (text : String) : Except ColorError Rgb :=
  let digits := hexDigits text.toList
  if digits.length = 6 && digits.all fun c => c.toNat < 128 then
    match ofHexDigits? digits with
    | some rgb => .ok rgb
    | none => .error (.badDigit text)
  else .error (.badLength text)

def ofJson? : Json → Option Rgb
  | .array [red, green, blue] => do
    let red ← red.nat? 255
    let green ← green.nat? 255
    let blue ← blue.nat? 255
    some ⟨UInt8.ofNat red, UInt8.ofNat green, UInt8.ofNat blue⟩
  | _ => none

end Rgb

structure ColorChannel where
  slot : Nat
  rgb : Rgb
  blending : Bool := false
  /-- From 0 to 1; what is above 1 is written as 1. -/
  opacity : Float := 1.0
  copyColor : Option Nat := none
  special : String := ""
  deriving DecidableEq, Repr

namespace ColorChannel

def fieldNames : List String := ["slot", "rgb", "blending", "opacity", "copy_color", "special"]

def ofJson? (json : Json) : Option ColorChannel := do
  let fields ← json.fields? fieldNames
  some {
    slot := ← Json.required fields "slot" (Json.nat? Numeral.maxNat32)
    rgb := ← Json.required fields "rgb" Rgb.ofJson?
    blending := ← Json.optional fields "blending" false Json.bool?
    opacity := ← Json.optional fields "opacity" 1.0 Json.float?
    copyColor := ← Json.optional fields "copy_color" none (Json.nullable? (Json.nat? Numeral.maxNat32))
    special := ← Json.optional fields "special" "" Json.text? }

def chars (channel : ColorChannel) : List Char :=
  "1_".toList ++ Numeral.ofNat channel.rgb.red.toNat ++
  "_2_".toList ++ Numeral.ofNat channel.rgb.green.toNat ++
  "_3_".toList ++ Numeral.ofNat channel.rgb.blue.toNat ++
  "_11_255_12_255_13_255_4_-1_6_".toList ++ Numeral.ofNat channel.slot ++
  "_15_1_18_0_8_1".toList ++
  (if channel.blending then "_5_1".toList else []) ++
  "_7_".toList ++ (if channel.opacity ≤ 1.0 then Decimal.ofFloat channel.opacity else ['1']) ++
  (match channel.copyColor with
    | some slot => "_9_".toList ++ Numeral.ofNat slot
    | none => []) ++
  (if channel.special = "" then [] else '_' :: channel.special.toList) ++ ['|']

def asText (channel : ColorChannel) : String := String.ofList channel.chars

/-- Replaces the first channel with the same slot, or adds the channel at the end. -/
def putIn (channel : ColorChannel) : List ColorChannel → List ColorChannel
  | [] => [channel]
  | first :: rest =>
    if first.slot = channel.slot then channel :: rest else first :: channel.putIn rest

end ColorChannel
end Corridor
