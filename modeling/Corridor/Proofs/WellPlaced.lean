import Mathlib.Data.List.Nodup
import Corridor.Proofs.Objects
import Corridor.Proofs.Printable
import Corridor.Proofs.Suppression

namespace Corridor

/-- A value of characters that neither divide records nor are trimmed, one at least. -/
def FieldValue.Inert (value : FieldValue) : Prop :=
  value.chars ≠ [] ∧ ∀ c ∈ value.chars, Text.isInert c = true

namespace FieldValue

@[simp] theorem inert_int (n : Int) : (int n).Inert := by
  refine ⟨?_, fun _ => Numeral.isInert_of_mem_ofInt⟩
  cases n with
  | ofNat n => exact Numeral.ofNat_ne_nil n
  | negSucc n => simp [chars, Numeral.ofInt]

@[simp] theorem inert_float (x : Float) : (float x).Inert :=
  ⟨Decimal.ofFloat_ne_nil x, fun _ => Decimal.isInert_of_mem_ofFloat⟩

end FieldValue

namespace Record

/-- The first three fields are the object and its place, each key occurs once, and all values are
inert. -/
structure WellPlaced (record : Record) : Prop where
  place : ∃ (id x : Int) (y : FieldValue) (rest : List (Key × FieldValue)),
    record.fields = (Key.objectId, .int id) :: (Key.x, .int x) :: (Key.y, y) :: rest
  distinct : (record.fields.map Prod.fst).Nodup
  inert : ∀ field ∈ record.fields, field.2.Inert

theorem wellPlaced_iff (record : Record) :
    record.WellPlaced ↔
      (∃ (id x : Int) (y : FieldValue) (rest : List (Key × FieldValue)),
        record.fields = (Key.objectId, .int id) :: (Key.x, .int x) :: (Key.y, y) :: rest) ∧
      (record.fields.map Prod.fst).Nodup ∧ record.fields.Forall fun field => field.2.Inert := by
  rw [List.forall_iff_forall_mem]
  constructor
  · rintro ⟨place, distinct, inert⟩
    exact ⟨place, distinct, inert⟩
  · rintro ⟨place, distinct, inert⟩
    exact ⟨place, distinct, inert⟩

/-- Where no key occurs twice, what is found under a key is all that stands under it. -/
theorem get?_eq_some_iff_mem {record : Record} (distinct : (record.fields.map Prod.fst).Nodup)
    (key : Key) (value : FieldValue) :
    record.get? key = some value ↔ (key, value) ∈ record.fields := by
  constructor
  · intro found
    obtain ⟨front, back, fields, _⟩ := List.lookup_eq_some_iff.mp found
    rw [fields]
    exact List.mem_append_right front List.mem_cons_self
  · intro member
    obtain ⟨front, back, fields⟩ := List.append_of_mem member
    rw [fields, List.map_append, List.map_cons] at distinct
    apply get?_eq_some_of_not_mem fields
    exact fun earlier => List.disjoint_of_nodup_append distinct earlier List.mem_cons_self

theorem getText?_eq_some_iff_mem {record : Record} (distinct : (record.fields.map Prod.fst).Nodup)
    (key : Key) (text : String) :
    record.getText? key = some text ↔ ∃ value, (key, value) ∈ record.fields ∧ value.asText = text := by
  simp only [getText?, Option.map_eq_some_iff, get?_eq_some_iff_mem distinct]

theorem Printable.of_wellPlaced {record : Record} (wellPlaced : record.WellPlaced) :
    record.Printable where
  fields_ne_nil := by
    obtain ⟨_, _, _, _, fields⟩ := wellPlaced.place
    simp [fields]
  values field member := FieldValue.printable_of_inert (wellPlaced.inert field member).2

end Record

namespace Structure

theorem wellPlaced_solidBlock (x y : Int) : (solidBlock x y).WellPlaced := by
  simp +decide [Record.wellPlaced_iff, solidBlock]

theorem wellPlaced_startingSpeed (speed : SpeedChange) : (startingSpeed speed).WellPlaced := by
  simp +decide [Record.wellPlaced_iff, startingSpeed]

theorem wellPlaced_walls (options : BiomeOptions) (segment : Segment) :
    ∀ record ∈ walls options segment, record.WellPlaced := by
  rw [walls]
  cases options.startingSize with
  | normal => simp +decide [Record.wellPlaced_iff]
  | mini => simp +decide [Record.wellPlaced_iff]

theorem wellPlaced_cornersAt (options : BiomeOptions) (settings : Settings) (site : Site) :
    ∀ record ∈ cornersAt options settings site, record.WellPlaced := by
  apply forall_mem_cornersAt
  intro previous
  unfold corners
  split
  · simp +decide [Record.wellPlaced_iff]
  · simp +decide [Record.wellPlaced_iff]
  · simp

theorem wellPlaced_portalPiece (options : BiomeOptions) (segment : Segment) (id : Nat)
    (facing shift : Int) : (portalPiece options segment id facing shift).WellPlaced := by
  simp +decide [Record.wellPlaced_iff, portalPiece]

theorem wellPlaced_portal (options : BiomeOptions) (site : Site) :
    ∀ record ∈ portal options site, record.WellPlaced :=
  forall_mem_portal fun _ _ _ => wellPlaced_portalPiece ..

theorem wellPlaced_speedTrigger (options : BiomeOptions) (segment : Segment) :
    ∀ record ∈ speedTrigger options segment, record.WellPlaced := by
  rw [speedTrigger]
  split
  · simp
  · simp +decide [Record.wellPlaced_iff]

theorem wellPlaced_spike (options : BiomeOptions) (segment : Segment) :
    ∀ record ∈ spike options segment, record.WellPlaced := by
  rw [spike]
  split
  · simp +decide [Record.wellPlaced_iff]
  · simp

theorem wellPlaced_fuzz (options : BiomeOptions) (segment : Segment) :
    ∀ record ∈ fuzz options segment, record.WellPlaced := by
  have visible : "0a1a0.60a0a0".toList.all Text.isInert = true := by decide
  have hue : (FieldValue.text "0a1a0.60a0a0").Inert := ⟨by decide, List.all_eq_true.mp visible⟩
  rw [fuzz]
  split
  · cases options.colorMode with
    | normal => simp +decide [Record.wellPlaced_iff, tint]
    | night => simp +decide [Record.wellPlaced_iff, tint, hue]
  · simp

theorem wellPlaced_diagonalPiece (x y rotation : Int) : (diagonalPiece x y rotation).WellPlaced := by
  simp +decide [Record.wellPlaced_iff, diagonalPiece]

theorem wellPlaced_ending (biome : Biome) :
    ∀ record ∈ (ending biome).flatMap Block.records, record.WellPlaced :=
  forall_mem_ending wellPlaced_diagonalPiece biome

theorem inert_labelText (meters : Int) : (FieldValue.text (labelText meters)).Inert := by
  constructor
  · apply Base64.encodeText_ne_nil
    -- the unit stands on every label
    simp
  · exact fun _ => Base64.isInert_of_mem_encodeText

theorem wellPlaced_marks (options : BiomeOptions) (settings : Settings) :
    ∀ record ∈ marks options settings, record.WellPlaced := by
  apply forall_mem_marks
  · intro meters row
    simp +decide [Record.wellPlaced_iff, tick]
  · intro meters
    simp +decide [Record.wellPlaced_iff, label, inert_labelText]

theorem wellPlaced_overlays (options : BiomeOptions) :
    ∀ record ∈ overlays options, record.WellPlaced := by
  apply forall_mem_overlays
  · simp +decide [Record.wellPlaced_iff, haze]
  · simp +decide [Record.wellPlaced_iff, startingPortal]

theorem wellPlaced_base (corridorHeight : Int) :
    ∀ record ∈ baseBlocks ++ startingConnectors corridorHeight, record.WellPlaced :=
  forall_mem_base wellPlaced_solidBlock corridorHeight

end Structure

theorem Piece.exists_of_mem_ofRecords {origin : Origin} {category : Option Category}
    {records : List Record} {piece : Piece} (member : piece ∈ ofRecords origin category records) :
    piece.record ∈ records := by
  obtain ⟨record, present, rfl⟩ := List.mem_map.mp member
  exact present

theorem Site.wellPlaced_pieces (options : BiomeOptions) (settings : Settings) (site : Site) :
    ∀ piece ∈ site.pieces options settings, piece.record.WellPlaced := by
  intro piece member
  simp only [pieces, List.mem_append] at member
  rcases member with (((slope | portal) | speed) | spike) | fuzz
  · rcases List.mem_append.mp (Piece.exists_of_mem_ofRecords slope) with wall | corner
    · exact Structure.wellPlaced_walls _ _ _ wall
    · exact Structure.wellPlaced_cornersAt _ _ _ _ corner
  · exact Structure.wellPlaced_portal _ _ _ (Piece.exists_of_mem_ofRecords portal)
  · exact Structure.wellPlaced_speedTrigger _ _ _ (Piece.exists_of_mem_ofRecords speed)
  · exact Structure.wellPlaced_spike _ _ _ (Piece.exists_of_mem_ofRecords spike)
  · exact Structure.wellPlaced_fuzz _ _ _ (Piece.exists_of_mem_ofRecords fuzz)

namespace Biome

theorem wellPlaced_pieces (biome : Biome) (settings : Settings) :
    ∀ piece ∈ biome.pieces settings, piece.record.WellPlaced := by
  rw [pieces]
  split
  · simp
  · intro piece member
    simp only [List.mem_append] at member
    rcases member with (((base | speed) | segments) | ending) | trimmings
    · exact Structure.wellPlaced_base _ _ (Piece.exists_of_mem_ofRecords base)
    · rw [List.mem_singleton.mp (Piece.exists_of_mem_ofRecords speed)]
      exact Structure.wellPlaced_startingSpeed _
    · obtain ⟨site, _, placed⟩ := List.mem_flatMap.mp segments
      exact Site.wellPlaced_pieces _ _ site piece placed
    · exact Structure.wellPlaced_ending biome _ (Piece.exists_of_mem_ofRecords ending)
    · rcases List.mem_append.mp (Piece.exists_of_mem_ofRecords trimmings) with mark | overlay
      · exact Structure.wellPlaced_marks _ _ _ mark
      · exact Structure.wellPlaced_overlays _ _ overlay

theorem wellPlaced_structural (biome : Biome) (settings : Settings) (theme : Theme)
    (overrides : Overrides) :
    ∀ record ∈ (biome.compile settings theme overrides).structural, record.WellPlaced := by
  rw [structural_compile]
  intro record member
  obtain ⟨piece, kept, rfl⟩ := List.mem_map.mp member
  exact wellPlaced_pieces biome settings piece (List.mem_filter.mp kept).1

/-- Every record of a structure begins with its object, which is an integer and the object that the
record is known by, and with its place, whose abscissa is an integer. No key occurs twice, so that each
value and each text is found under its key. And no value is empty, divided by a comma or a semicolon,
or shortened by trimming. -/
theorem structural_well_formed (biome : Biome) (settings : Settings) (theme : Theme)
    (overrides : Overrides) :
    ∀ record ∈ (biome.compile settings theme overrides).structural,
      (∃ (id x : Int) (y : FieldValue) (rest : List (Key × FieldValue)),
        record.fields = (1, .int id) :: (2, .int x) :: (3, y) :: rest ∧
        record.objectId? = some id ∧ record.get? 1 = some (.int id)) ∧
      (record.fields.map Prod.fst).Nodup ∧
      (∀ key value, record.get? key = some value ↔ (key, value) ∈ record.fields) ∧
      (∀ key text, record.getText? key = some text ↔
        ∃ value, (key, value) ∈ record.fields ∧ value.asText = text) ∧
      ∀ field ∈ record.fields, field.2.chars ≠ [] ∧ ',' ∉ field.2.chars ∧ ';' ∉ field.2.chars ∧
        Text.trim field.2.chars = field.2.chars := by
  intro record member
  have wellPlaced := wellPlaced_structural biome settings theme overrides record member
  refine ⟨?_, wellPlaced.distinct, Record.get?_eq_some_iff_mem wellPlaced.distinct,
    Record.getText?_eq_some_iff_mem wellPlaced.distinct, ?_⟩
  · obtain ⟨id, x, y, rest, fields⟩ := wellPlaced.place
    refine ⟨id, x, y, rest, fields, ?_, ?_⟩
    · exact Record.objectId?_of_head (congrArg List.head? fields)
    · rw [Record.get?_eq_some_iff_mem wellPlaced.distinct, fields]
      exact List.mem_cons_self
  · intro field listed
    have printable := (Record.Printable.of_wellPlaced wellPlaced).values field listed
    exact ⟨(wellPlaced.inert field listed).1, printable.comma, printable.semicolon,
      printable.trimmed⟩

def murk : Biome where
  options := { colorMode := .night }
  segments := [⟨465, 195, .up, { fuzzy := true }⟩]

def murkFuzz : Record :=
  ⟨[(1, .int 1717), (2, .int 465), (3, .int 195), (21, .int 1004), (41, .int 1),
    (43, .text "0a1a0.60a0a0"), (6, .int 0), (64, .int 1), (67, .int 1), (155, .int 7)]⟩

theorem murkFuzz_well_formed :
    murkFuzz ∈ (murk.compile { meterMarks := false } {} { slope := true }).structural ∧
    murkFuzz.objectId? = some 1717 ∧
    murkFuzz.getText? 43 = some "0a1a0.60a0a0" := by
  have member :
      murkFuzz ∈ (murk.compile { meterMarks := false } {} { slope := true }).structural := by
    decide +kernel
  obtain ⟨⟨id, x, y, rest, fields, object, _⟩, _, _, texts, _⟩ :=
    structural_well_formed murk { meterMarks := false } {} { slope := true } murkFuzz member
  have same : id = 1717 := by
    cases fields
    rfl
  refine ⟨member, same ▸ object, ?_⟩
  exact (texts 43 "0a1a0.60a0a0").mpr ⟨.text "0a1a0.60a0a0", by decide, rfl⟩

end Biome
end Corridor
