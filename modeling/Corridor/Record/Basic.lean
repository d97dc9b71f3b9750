import Corridor.Numeral
import Corridor.Decimal.Positional

namespace Corridor

abbrev Key := UInt16

namespace Key

def objectId : Key := 1
def x : Key := 2
def y : Key := 3
def flipX : Key := 5
def rotation : Key := 6
def duration : Key := 10
def touchTriggered : Key := 13
def editorLayer : Key := 20
def colorChannel : Key := 21
def zOrder : Key := 24
def zLayerOffset : Key := 25
def text : Key := 31
def scale : Key := 32
def opacity : Key := 35
def hsvEnabled : Key := 41
def hsv : Key := 43
def targetGroup : Key := 51
def group : Key := 57
def noGlow : Key := 64
def noEffects : Key := 67
def zLayer : Key := 155

end Key

inductive FieldValue where
  | int (value : Int)
  | float (value : Float)
  | text (value : String)
  deriving DecidableEq, Repr

namespace FieldValue

def chars : FieldValue → List Char
  | int value => Numeral.ofInt value
  | float value => Decimal.ofFloat value
  | text value => value.toList

def asText (value : FieldValue) : String := String.ofList value.chars

end FieldValue

/-- One placed object. -/
structure Record where
  fields : List (Key × FieldValue)
  deriving DecidableEq, Repr

namespace Record

def ofId (id : Nat) : Record := ⟨[(Key.objectId, .int id)]⟩

def field (record : Record) (key : Key) (value : FieldValue) : Record :=
  ⟨record.fields ++ [(key, value)]⟩

def placedAt (record : Record) (x y : FieldValue) : Record := (record.field Key.x x).field Key.y y

def rotation (record : Record) (degrees : Int) : Record := record.field Key.rotation (.int degrees)

def scale (record : Record) (factor : Float) : Record := record.field Key.scale (.float factor)

def plain (record : Record) : Record :=
  (record.field Key.noGlow (.int 1)).field Key.noEffects (.int 1)

def zLayer (record : Record) (layer : Int) : Record := record.field Key.zLayer (.int layer)

section
variable (record : Record)

@[simp] theorem fields_ofId (id : Nat) : (ofId id).fields = [(Key.objectId, .int id)] := rfl

@[simp] theorem fields_field (key : Key) (value : FieldValue) :
    (record.field key value).fields = record.fields ++ [(key, value)] := rfl

@[simp] theorem fields_placedAt (x y : FieldValue) :
    (record.placedAt x y).fields = record.fields ++ [(Key.x, x), (Key.y, y)] := by
  simp [placedAt]

@[simp] theorem fields_rotation (degrees : Int) :
    (record.rotation degrees).fields = record.fields ++ [(Key.rotation, .int degrees)] := rfl

@[simp] theorem fields_scale (factor : Float) :
    (record.scale factor).fields = record.fields ++ [(Key.scale, .float factor)] := rfl

@[simp] theorem fields_plain :
    record.plain.fields = record.fields ++ [(Key.noGlow, .int 1), (Key.noEffects, .int 1)] := by
  simp [plain]

@[simp] theorem fields_zLayer (layer : Int) :
    (record.zLayer layer).fields = record.fields ++ [(Key.zLayer, .int layer)] := rfl

end

/-- The integer in the first field, if that field is an object id. -/
def objectId? (record : Record) : Option Int :=
  match record.fields with
  | (key, value) :: _ =>
    if key = Key.objectId then
      match value with
      | .int id => some id
      | .text text => Numeral.int64? text.toList
      | .float _ => none
    else none
  | [] => none

def get? (record : Record) (key : Key) : Option FieldValue := record.fields.lookup key

def getText? (record : Record) (key : Key) : Option String := (record.get? key).map FieldValue.asText

theorem get?_ofId (id : Nat) (key : Key) :
    (ofId id).get? key = if key = Key.objectId then some (.int id) else none := by
  by_cases same : key = Key.objectId
  · simp [same, get?]
  · have other : (key == Key.objectId) = false := by simpa using same
    simp [same, get?, List.lookup_cons, other]

theorem get?_field (record : Record) (key added : Key) (value : FieldValue) :
    (record.field added value).get? key =
      (record.get? key).or (if key = added then some value else none) := by
  rw [get?, get?, fields_field, List.lookup_append]
  by_cases same : key = added
  · simp [same]
  · have other : (key == added) = false := by simpa using same
    simp [same, List.lookup_cons, other]

theorem get?_eq_some_of_not_mem {record : Record} {key : Key} {value : FieldValue}
    {front back : List (Key × FieldValue)} (fields : record.fields = front ++ (key, value) :: back)
    (first : key ∉ front.map Prod.fst) : record.get? key = some value := by
  rw [get?, List.lookup_eq_some_iff]
  refine ⟨front, back, fields, ?_⟩
  intro earlier before
  have other : key ≠ earlier.1 := fun same => first (same ▸ List.mem_map_of_mem before)
  simpa using other

end Record
end Corridor
