import Corridor.Text.Blank
import Corridor.Record.Basic
/-!
Reading records from text. Values are kept as text, so that they are written again as they were read.
-/
namespace Corridor

inductive RecordError where
  | unpairedField (record : String)
  | invalidKey (record key : String)
  | empty (text : String)
  deriving DecidableEq, Repr

def RecordError.message : RecordError → String
  | unpairedField record => s!"record `{record}` has an odd number of comma-separated items"
  | invalidKey record key => s!"record `{record}` has non-numeric field key `{key}`"
  | empty text => s!"record `{text}` is empty"

namespace Record

def pairs {α : Type} : List α → List (α × α)
  | a :: b :: rest => (a, b) :: pairs rest
  | _ => []

def parseKey? (text : List Char) : Option Key :=
  (Numeral.unsigned? 65535 text).map UInt16.ofNat

def parseField (body : List Char) (item : List Char × List Char) :
    Except RecordError (Key × FieldValue) :=
  match parseKey? (Text.trim item.1) with
  | some key => .ok (key, .text (String.ofList (Text.trim item.2)))
  | none => .error (.invalidKey (String.ofList body) (String.ofList (Text.trim item.1)))

def parseBody (body : List Char) : Except RecordError Record :=
  let items := body.splitOn ','
  if items.length % 2 = 1 then .error (.unpairedField (String.ofList body))
  else ((pairs items).mapM (parseField body)).map Record.mk

def parseChars (text : List Char) : Except RecordError Record :=
  let body := Text.stripEnd ';' (Text.trim text)
  if body = [] then .error (.empty (String.ofList text)) else parseBody body

def parse (text : String) : Except RecordError Record := parseChars text.toList

end Record

def recordPieces (text : List Char) : List (List Char) :=
  (text.splitOn ';').filter fun piece => !piece.all Text.isBlank

def parseRecordChars (text : List Char) : Except RecordError (List Record) :=
  (recordPieces text).mapM Record.parseChars

def parseRecords (text : String) : Except RecordError (List Record) := parseRecordChars text.toList

end Corridor
