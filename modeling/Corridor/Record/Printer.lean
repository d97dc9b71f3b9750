import Corridor.Record.Basic

namespace Corridor

namespace Record

def items (record : Record) : List (List Char) :=
  record.fields.flatMap fun (key, value) => [Numeral.ofNat key.toNat, value.chars]

def chars (record : Record) : List Char := [','].intercalate record.items ++ [';']

def asText (record : Record) : String := String.ofList record.chars

end Record

def recordChars (records : List Record) : List Char := records.flatMap Record.chars

def recordText (records : List Record) : String := String.ofList (recordChars records)

end Corridor
