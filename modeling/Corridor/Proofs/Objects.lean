import Corridor.Proofs.Parts
/-!
The objects of which the parts of a structure are made. Main statements: which objects each part
may hold, and that corners and marks share none with the other parts.
-/
namespace Corridor

namespace Record

def OfObject (objects : List Nat) (record : Record) : Prop :=
  ∃ id ∈ objects, record.fields.head? = some (Key.objectId, .int id)

def avoids (objects : List Nat) (record : Record) : Bool :=
  objects.all fun id => record.objectId? ≠ some (id : Int)

theorem objectId?_of_head {record : Record} {id : Int}
    (head : record.fields.head? = some (Key.objectId, .int id)) : record.objectId? = some id := by
  obtain ⟨rest, fields⟩ := List.head?_eq_some_iff.mp head
  rw [objectId?, fields]
  rfl

theorem OfObject.avoids_eq_false {objects : List Nat} {record : Record}
    (made : record.OfObject objects) : record.avoids objects = false := by
  obtain ⟨id, listed, head⟩ := made
  rw [avoids, List.all_eq_false]
  exact ⟨id, listed, by simp [objectId?_of_head head]⟩

theorem OfObject.avoids_of_apart {objects others : List Nat} {record : Record}
    (made : record.OfObject objects) (apart : ∀ id ∈ objects, id ∉ others) :
    record.avoids others = true := by
  obtain ⟨id, listed, head⟩ := made
  rw [avoids, List.all_eq_true]
  intro other inOthers
  have different : id ≠ other := fun same => apart id listed (same ▸ inOthers)
  simpa [objectId?_of_head head, Int.ofNat_inj] using different

theorem filter_avoids_eq_self {objects others : List Nat} {records : List Record}
    (made : ∀ record ∈ records, record.OfObject objects) (apart : ∀ id ∈ objects, id ∉ others) :
    records.filter (avoids others) = records :=
  List.filter_eq_self.mpr fun record member => (made record member).avoids_of_apart apart

theorem filter_avoids_eq_nil {objects : List Nat} {records : List Record}
    (made : ∀ record ∈ records, record.OfObject objects) : records.filter (avoids objects) = [] := by
  rw [List.filter_eq_nil_iff]
  intro record member
  simp [(made record member).avoids_eq_false]

def isOf (object : Nat) (record : Record) : Bool := record.objectId? = some (object : Int)

theorem filter_isOf_eq_self {object : Nat} {records : List Record}
    (made : ∀ record ∈ records, record.OfObject [object]) :
    records.filter (isOf object) = records := by
  rw [List.filter_eq_self]
  intro record member
  obtain ⟨id, listed, head⟩ := made record member
  rw [List.mem_singleton.mp listed] at head
  simp [isOf, objectId?_of_head head]

theorem filter_isOf_eq_nil {object : Nat} {objects : List Nat} {records : List Record}
    (made : ∀ record ∈ records, record.OfObject objects) (other : object ∉ objects) :
    records.filter (isOf object) = [] := by
  rw [List.filter_eq_nil_iff]
  intro record member
  obtain ⟨id, listed, head⟩ := made record member
  have different : id ≠ object := fun same => other (same ▸ listed)
  simpa [isOf, objectId?_of_head head, Int.ofNat_inj] using different

end Record

def WaveSize.wall : WaveSize → Nat
  | .normal => ObjectId.slope
  | .mini => ObjectId.miniSlope

namespace Structure

def speedObjects : List Nat :=
  [ObjectId.speedHalf, ObjectId.speedNormal, ObjectId.speedDouble, ObjectId.speedTriple,
    ObjectId.speedQuadruple]

def portalObjects : List Nat := [ObjectId.gravityDownPortal, ObjectId.gravityUpPortal]

def markObjects : List Nat := [ObjectId.meterTick, ObjectId.textLabel]

/-- The objects of all parts but corners and marks. -/
def fixedObjects : List Nat :=
  [ObjectId.solidBlock, ObjectId.slope, ObjectId.miniSlope, ObjectId.spike, ObjectId.fuzz,
    ObjectId.alphaTrigger] ++ speedObjects ++ portalObjects

theorem triggerId_mem (speed : SpeedChange) : speed.triggerId ∈ speedObjects := by
  cases speed <;> decide

theorem gravityPortalId_mem (gravity : Bool) : gravityPortalId gravity ∈ portalObjects := by
  cases gravity <;> decide

theorem ofObject_base (corridorHeight : Int) :
    ∀ record ∈ baseBlocks ++ startingConnectors corridorHeight,
      record.OfObject [ObjectId.solidBlock] :=
  forall_mem_base (fun _ _ => by simp [Record.OfObject, solidBlock]) corridorHeight

theorem ofObject_startingSpeed (speed : SpeedChange) :
    ∀ record ∈ [startingSpeed speed], record.OfObject speedObjects := by
  intro record member
  rw [List.mem_singleton.mp member]
  exact ⟨speed.triggerId, triggerId_mem speed, by simp [startingSpeed]⟩

theorem ofObject_walls (options : BiomeOptions) (segment : Segment) :
    ∀ record ∈ walls options segment, record.OfObject [options.startingSize.wall] := by
  rw [walls]
  cases options.startingSize with
  | normal => simp [Record.OfObject, WaveSize.wall]
  | mini => simp [Record.OfObject, WaveSize.wall]

theorem ofObject_cornersAt (options : BiomeOptions) (settings : Settings) (site : Site) :
    ∀ record ∈ cornersAt options settings site, record.OfObject [ObjectId.corner] := by
  apply forall_mem_cornersAt
  intro previous
  unfold corners
  split
  · simp [Record.OfObject]
  · simp [Record.OfObject]
  · simp

theorem ofObject_portal (options : BiomeOptions) (site : Site) :
    ∀ record ∈ portal options site, record.OfObject portalObjects := by
  apply forall_mem_portal
  intro gravity facing shift
  exact ⟨gravityPortalId gravity, gravityPortalId_mem gravity, by simp [portalPiece]⟩

theorem ofObject_speedTrigger (options : BiomeOptions) (segment : Segment) :
    ∀ record ∈ speedTrigger options segment, record.OfObject speedObjects := by
  rw [speedTrigger]
  split
  · simp
  · intro record member
    rw [List.mem_singleton.mp member]
    exact ⟨_, triggerId_mem segment.options.speedChange, by simp⟩

theorem ofObject_spike (options : BiomeOptions) (segment : Segment) :
    ∀ record ∈ spike options segment, record.OfObject [ObjectId.spike] := by
  rw [spike]
  split
  · simp [Record.OfObject]
  · simp

theorem ofObject_fuzz (options : BiomeOptions) (segment : Segment) :
    ∀ record ∈ fuzz options segment, record.OfObject [ObjectId.fuzz] := by
  rw [fuzz]
  split
  · cases options.colorMode with
    | normal => simp [Record.OfObject, tint]
    | night => simp [Record.OfObject, tint]
  · simp

theorem ofObject_ending (biome : Biome) :
    ∀ record ∈ (ending biome).flatMap Block.records, record.OfObject [ObjectId.slope] :=
  forall_mem_ending (fun _ _ _ => by simp [Record.OfObject, diagonalPiece]) biome

theorem ofObject_marks (options : BiomeOptions) (settings : Settings) :
    ∀ record ∈ marks options settings, record.OfObject markObjects := by
  apply forall_mem_marks
  · intro meters row
    exact ⟨ObjectId.meterTick, by decide, by simp [tick]⟩
  · intro meters
    exact ⟨ObjectId.textLabel, by decide, by simp [label]⟩

theorem ofObject_overlays (options : BiomeOptions) :
    ∀ record ∈ overlays options,
      record.OfObject [ObjectId.alphaTrigger, ObjectId.gravityUpPortal] := by
  apply forall_mem_overlays
  · exact ⟨ObjectId.alphaTrigger, by decide, by simp [haze]⟩
  · exact ⟨ObjectId.gravityUpPortal, by decide, by simp [startingPortal]⟩

end Structure
end Corridor
