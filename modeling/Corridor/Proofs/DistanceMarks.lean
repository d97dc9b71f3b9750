import Mathlib.Data.List.Nodup
import Corridor.Proofs.Base64Decoding
import Corridor.Proofs.Objects

namespace Corridor

def distanceBytes (meters : Int) : List UInt8 :=
  (String.ofList (Numeral.ofInt meters ++ ['m'])).toUTF8.toList

theorem distanceText_inj {first second : Int} :
    String.ofList (Numeral.ofInt first ++ ['m']) = String.ofList (Numeral.ofInt second ++ ['m']) ↔
      first = second := by
  rw [String.ofList_inj, List.append_cancel_right_eq, Numeral.ofInt_inj]

theorem distanceBytes_inj {first second : Int} :
    distanceBytes first = distanceBytes second ↔ first = second := by
  rw [distanceBytes, distanceBytes, Base64.utf8_inj, distanceText_inj]

namespace Record

def announced? (record : Record) : Option (List UInt8) :=
  (record.getText? Key.text).bind fun text => Base64.decode? text.toList

/-- Whether a record is a label that states the given distance. -/
def announces (meters : Int) (record : Record) : Bool :=
  record.announced? = some (distanceBytes meters) && record.isOf 914

end Record

def FieldValue.AtMost (bound : Int) : FieldValue → Prop
  | .int value => value ≤ bound
  | .float value => value ≤ Float.ofInt bound
  | .text _ => False

namespace Structure

def markedDistances (length interval : Int) : List Int :=
  (List.range (markCount length interval)).map fun (step : Nat) => interval * (step + 1)

section
variable {length interval : Int} (positive : 0 < interval)
include positive

theorem lt_markCount_iff (step : Nat) :
    step < markCount length interval ↔ interval * (step + 1) ≤ min length 100000 := by
  have multiple : 0 < interval * (step + 1) := Int.mul_pos positive (by omega)
  have greatest : maxLength = 100000 := rfl
  rw [markCount, greatest, Int.lt_toNat]
  by_cases negative : min length 100000 < 0
  · have opposite : 0 ≤ (-min length 100000).tdiv interval :=
      Int.tdiv_nonneg (by omega) (by omega)
    rw [Int.neg_tdiv] at opposite
    omega
  · rw [Int.tdiv_eq_ediv_of_nonneg (by omega), ← Int.add_one_le_iff, Int.le_ediv_iff_mul_le positive,
      Int.mul_comm]

theorem markCount_eq :
    markCount length interval =
      if length < interval then 0 else (min length 100000 / interval).toNat := by
  have greatest : maxLength = 100000 := rfl
  split
  · rename_i short
    have none_counted : ¬0 < markCount length interval := by
      rw [lt_markCount_iff positive]
      omega
    omega
  · rw [markCount, greatest, Int.tdiv_eq_ediv_of_nonneg (by omega)]

theorem mem_markedDistances_iff (meters : Int) :
    meters ∈ markedDistances length interval ↔
      0 < meters ∧ interval ∣ meters ∧ meters ≤ min length 100000 := by
  rw [markedDistances, List.mem_map]
  constructor
  · rintro ⟨step, counted, rfl⟩
    have within := (lt_markCount_iff positive step).mp (List.mem_range.mp counted)
    exact ⟨Int.mul_pos positive (by omega), Int.dvd_mul_right _ _, within⟩
  · rintro ⟨above, ⟨factor, rfl⟩, within⟩
    have least : 0 < factor := Int.pos_of_mul_pos_right above positive
    obtain ⟨step, rfl⟩ : ∃ step : Nat, factor = step + 1 := ⟨(factor - 1).toNat, by omega⟩
    exact ⟨step, List.mem_range.mpr ((lt_markCount_iff positive step).mpr within), rfl⟩

theorem nodup_markedDistances : (markedDistances length interval).Nodup := by
  apply List.nodup_range.map
  intro first second same
  have factors : (first : Int) + 1 = second + 1 :=
    Int.eq_of_mul_eq_mul_left (Int.ne_of_gt positive) same
  omega

end

theorem marks_eq_flatMap {options : BiomeOptions} {settings : Settings}
    (enabled : settings.marksEnabled = true) :
    marks options settings =
      (markedDistances options.length settings.markerInterval).flatMap mark := by
  rw [marks, if_pos enabled, markedDistances, List.flatMap_map]

theorem length_mark (meters : Int) : (mark meters).length = 11 := rfl

theorem objectId?_tick (meters : Int) (row : Nat) : (tick meters row).objectId? = some 508 := rfl

theorem get?_tick (meters : Int) (row : Nat) :
    (tick meters row).get? Key.x = some (.int (345 + meters * grid)) ∧
      (tick meters row).get? Key.y = some (.float (tickHeight row)) ∧
      (tick meters row).get? Key.text = none := by
  simp +decide [tick, Record.placedAt, Record.plain, Record.rotation, Record.zLayer, Record.get?_field,
    Record.get?_ofId]

theorem announced?_tick (meters : Int) (row : Nat) : (tick meters row).announced? = none := by
  rw [Record.announced?, Record.getText?, (get?_tick meters row).2.2]
  rfl

theorem objectId?_label (meters : Int) : (label meters).objectId? = some 914 := rfl

theorem get?_label (meters : Int) :
    (label meters).get? Key.x = some (.int (375 + meters * grid)) ∧
      (label meters).get? Key.y = some (.int 21) ∧
      (label meters).get? Key.text = some (.text (labelText meters)) := by
  simp +decide [label, Record.placedAt, Record.plain, Record.scale, Record.zLayer, Record.get?_field,
    Record.get?_ofId]

theorem getText?_label (meters : Int) :
    (label meters).getText? Key.text = some (labelText meters) := by
  rw [Record.getText?, (get?_label meters).2.2]
  simp [FieldValue.asText, FieldValue.chars]

theorem announced?_label (meters : Int) : (label meters).announced? = some (distanceBytes meters) := by
  rw [Record.announced?, getText?_label, Option.bind_some, labelText, Base64.decode?_encodeText]
  rfl

theorem ofObject_ticks (meters : Int) :
    ∀ record ∈ (List.range 10).map (tick meters), record.OfObject [508] := by
  intro record member
  obtain ⟨row, _, rfl⟩ := List.mem_map.mp member
  exact ⟨508, by decide, rfl⟩

theorem filter_isOf_mark (meters : Int) : (mark meters).filter (Record.isOf 914) = [label meters] := by
  have ticks : ((List.range 10).map (tick meters)).filter (Record.isOf 914) = [] :=
    Record.filter_isOf_eq_nil (ofObject_ticks meters) (by decide)
  rw [mark, List.filter_append, ticks]
  rfl

def tickHeights : List FieldValue := (List.range 10).map fun row => .float (tickHeight row)

theorem view_mark (meters : Int) :
    (mark meters).map (fun record =>
        (record.objectId?, record.get? Key.x, record.get? Key.y, record.announced?)) =
      tickHeights.map (fun height => (some 508, some (.int (345 + 30 * meters)), some height, none)) ++
        [(some 914, some (.int (375 + 30 * meters)), some (.int 21), some (distanceBytes meters))] := by
  have across : meters * grid = 30 * meters := Int.mul_comm meters 30
  rw [mark, List.map_append, List.map_map, tickHeights, List.map_map, List.map_singleton,
    objectId?_label, (get?_label meters).1, (get?_label meters).2.1, announced?_label, across]
  refine congrArg (· ++ _) (List.map_congr_left fun row _ => ?_)
  rw [Function.comp_apply, Function.comp_apply, objectId?_tick, (get?_tick meters row).1,
    (get?_tick meters row).2.1, announced?_tick, across]

theorem filter_isOf_flatMap_mark (distances : List Int) :
    (distances.flatMap mark).filter (Record.isOf 914) = distances.map label := by
  rw [List.filter_flatMap, funext filter_isOf_mark, ← List.map_eq_flatMap]

theorem countP_announces_flatMap_mark (meters : Int) (distances : List Int) :
    (distances.flatMap mark).countP (Record.announces meters) = distances.count meters := by
  have states (distance : Int) : (label distance).announced? = some (distanceBytes meters) ↔
      distance = meters := by
    rw [announced?_label, Option.some.injEq, distanceBytes_inj]
  calc
    (distances.flatMap mark).countP (Record.announces meters) =
        ((distances.flatMap mark).filter (Record.isOf 914)).countP
          fun record => record.announced? = some (distanceBytes meters) := List.countP_filter.symm
    _ = distances.countP fun distance => (label distance).announced? = some (distanceBytes meters) := by
      simp only [filter_isOf_flatMap_mark, List.countP_map, Function.comp_def]
    _ = distances.countP fun distance => distance = meters := by
      simp only [states]
    _ = distances.count meters := rfl

theorem nodup_labels {distances : List Int} (distinct : distances.Nodup) :
    ((distances.map label).map fun record => record.getText? Key.text).Nodup := by
  rw [List.map_map]
  apply distinct.map
  intro first second same
  simp only [Function.comp_apply, getText?_label, Option.some.injEq, labelText,
    Base64.encodeText_inj, distanceText_inj] at same
  exact same

theorem tickHeight_le : ∀ row < 10, tickHeight row ≤ Float.ofInt 3000375 := by
  decide +kernel

theorem atMost_of_mem_mark {meters : Int} (within : meters ≤ 100000) :
    ∀ record ∈ mark meters, ∃ x y, record.get? Key.x = some x ∧ record.get? Key.y = some y ∧
      x.AtMost 3000375 ∧ y.AtMost 3000375 := by
  have across : meters * grid ≤ 3000000 := by
    rw [grid]
    omega
  intro record member
  rcases List.mem_append.mp member with ticks | labels
  · obtain ⟨row, counted, rfl⟩ := List.mem_map.mp ticks
    refine ⟨_, _, (get?_tick meters row).1, (get?_tick meters row).2.1, ?_,
      tickHeight_le row (List.mem_range.mp counted)⟩
    show 345 + meters * grid ≤ 3000375
    omega
  · rw [List.mem_singleton.mp labels]
    refine ⟨_, _, (get?_label meters).1, (get?_label meters).2.1, ?_, ?_⟩
    · show 375 + meters * grid ≤ 3000375
      omega
    · show (21 : Int) ≤ 3000375
      decide

/-- With marks enabled, each multiple of the interval within the length, up to the greatest one, has in
turn ten ticks, whose heights are always the same, and a label that states the distance. No distance
has two labels and no other distance has one, and nothing stands further out than the greatest length
allows. With marks disabled there are none. -/
theorem marks_by_interval (options : BiomeOptions) (settings : Settings) :
    let interval := settings.markerInterval
    let reach := min options.length 100000
    let count := if options.length < interval then 0 else (reach / interval).toNat
    let placed := marks options settings
    (settings.marksEnabled = false → placed = []) ∧
    (settings.marksEnabled = true →
      placed.length = 11 * count ∧
      (∃ heights : List FieldValue, heights.length = 10 ∧
        placed.map (fun record =>
            (record.objectId?, record.get? Key.x, record.get? Key.y, record.announced?)) =
          (List.range count).flatMap fun (step : Nat) =>
            let meters := interval * (step + 1)
            heights.map (fun height =>
              (some 508, some (.int (345 + 30 * meters)), some height, none)) ++
            [(some 914, some (.int (375 + 30 * meters)), some (.int 21),
              some (distanceBytes meters))]) ∧
      (∀ meters, placed.countP (Record.announces meters) =
        if 0 < meters ∧ interval ∣ meters ∧ meters ≤ reach then 1 else 0) ∧
      ((placed.filter (Record.isOf 914)).map fun record => record.getText? Key.text).Nodup ∧
      ∀ record ∈ placed, ∃ x y, record.get? Key.x = some x ∧ record.get? Key.y = some y ∧
        x.AtMost 3000375 ∧ y.AtMost 3000375) := by
  intro interval reach count placed
  constructor
  · intro disabled
    rw [show placed = marks options settings from rfl, marks, disabled]
    rfl
  · intro enabled
    have positive : 0 < interval := by
      simp only [Settings.marksEnabled, Bool.and_eq_true, decide_eq_true_eq] at enabled
      exact enabled.2
    have whole : placed = (markedDistances options.length interval).flatMap mark :=
      marks_eq_flatMap enabled
    have counted : markedDistances options.length interval =
        (List.range count).map fun (step : Nat) => interval * (step + 1) := by
      rw [markedDistances, markCount_eq positive]
    have distinct : (markedDistances options.length interval).Nodup :=
      nodup_markedDistances positive
    refine ⟨?_, ⟨tickHeights, rfl, ?_⟩, ?_, ?_, ?_⟩
    · rw [whole, counted, length_flatMap_of_length length_mark, List.length_map, List.length_range]
    · rw [whole, counted, List.map_flatMap, List.flatMap_map]
      exact congrArg (List.flatMap · _) (funext fun step => view_mark _)
    · intro meters
      rw [whole, countP_announces_flatMap_mark, distinct.count]
      exact if_congr (mem_markedDistances_iff positive meters) rfl rfl
    · rw [whole, filter_isOf_flatMap_mark]
      exact nodup_labels distinct
    · intro record member
      rw [whole] at member
      obtain ⟨meters, marked, within⟩ := List.mem_flatMap.mp member
      have far := ((mem_markedDistances_iff positive meters).mp marked).2.2
      exact atMost_of_mem_mark (by omega) record within

theorem corridor_marks_by_interval :
    let options : BiomeOptions := { length := 299 }
    let placed := marks options {}
    (Settings.marksEnabled {} = true ∧ placed.length = 22 ∧
      placed.countP (Record.announces 200) = 1 ∧ placed.countP (Record.announces 250) = 0 ∧
      placed.countP (Record.announces 300) = 0) ∧
    Settings.marksEnabled { meterMarks := false } = false ∧
      marks options { meterMarks := false } = [] := by
  intro options placed
  have enabled : Settings.marksEnabled {} = true := rfl
  obtain ⟨counted, _, labeled, _⟩ := (marks_by_interval options {}).2 enabled
  refine ⟨⟨enabled, counted, ?_, ?_, ?_⟩, rfl,
    (marks_by_interval options { meterMarks := false }).1 rfl⟩
  · exact (labeled 200).trans (by decide)
  · exact (labeled 250).trans (by decide)
  · exact (labeled 300).trans (by decide)

end Structure
end Corridor
