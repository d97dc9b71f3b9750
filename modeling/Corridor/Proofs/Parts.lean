import Corridor.Compiled
/-!
The parts of a structure and the pieces they are made of. Main statements: what holds of every piece
that a part can place holds of all records of the part.
-/
namespace Corridor.Structure

theorem length_flatMap_of_length {α : Type} {parts : α → List Record} {width : Nat}
    (uniform : ∀ source, (parts source).length = width) (sources : List α) :
    (sources.flatMap parts).length = width * sources.length := by
  rw [List.length_flatMap, funext uniform, List.map_const', List.sum_replicate_nat, Nat.mul_comm]

variable {P : Record → Prop}

theorem forall_mem_base (block : ∀ x y, P (solidBlock x y)) (corridorHeight : Int) :
    ∀ record ∈ baseBlocks ++ startingConnectors corridorHeight, P record := by
  intro record member
  rcases List.mem_append.mp member with low | high
  · rcases List.mem_append.mp low with floor | column
    · obtain ⟨_, _, rfl⟩ := List.mem_map.mp floor
      exact block _ _
    · obtain ⟨_, _, rfl⟩ := List.mem_map.mp column
      exact block _ _
  · obtain ⟨_, _, rfl⟩ := List.mem_map.mp high
    exact block _ _

theorem forall_mem_cornersAt {options : BiomeOptions} {settings : Settings} {site : Site}
    (pair : ∀ previous, ∀ record ∈ corners options site.segment previous, P record) :
    ∀ record ∈ cornersAt options settings site, P record := by
  rw [cornersAt]
  split
  · split
    · exact pair _
    · simp
  · simp

theorem forall_mem_portal {options : BiomeOptions} {site : Site}
    (piece : ∀ gravity facing shift,
      P (portalPiece options site.segment (gravityPortalId gravity) facing shift)) :
    ∀ record ∈ portal options site, P record := by
  rw [portal]
  cases site.segment.options.portal with
  | absent => simp
  | gravity =>
    simp only [List.mem_singleton, forall_eq, gravityPortal]
    split
    · exact piece _ _ _
    · exact piece _ _ _
  | fake =>
    simp only [List.mem_singleton, forall_eq, fakePortal]
    exact piece _ _ _

theorem forall_mem_diagonal {rotation : Int} (piece : ∀ x y, P (diagonalPiece x y rotation))
    (cells : List (Int × Int)) : ∀ record ∈ diagonal rotation cells, P record := by
  intro record member
  obtain ⟨_, _, rfl⟩ := List.mem_map.mp member
  exact piece _ _

theorem forall_mem_ending (piece : ∀ x y rotation, P (diagonalPiece x y rotation)) (biome : Biome) :
    ∀ record ∈ (ending biome).flatMap Block.records, P record := by
  have diagonal (x top bottom : Int) :
      ∀ record ∈ diagonals biome.options x top bottom, P record := by
    intro record member
    rcases List.mem_append.mp member with up | down
    · exact forall_mem_diagonal (fun x y => piece x y 180) _ record up
    · exact forall_mem_diagonal (fun x y => piece x y 90) _ record down
  rw [ending]
  split
  · simp
  · dsimp only
    split
    · simpa [Block.of] using diagonal _ _ _
    · simpa [Block.of] using diagonal _ _ _
    · simp

theorem forall_mem_marks (tick : ∀ meters row, P (tick meters row)) (label : ∀ meters, P (label meters))
    (options : BiomeOptions) (settings : Settings) : ∀ record ∈ marks options settings, P record := by
  rw [marks]
  split
  · intro record member
    obtain ⟨step, _, marked⟩ := List.mem_flatMap.mp member
    rcases List.mem_append.mp marked with ticks | labels
    · obtain ⟨row, _, rfl⟩ := List.mem_map.mp ticks
      exact tick _ row
    · rw [List.mem_singleton.mp labels]
      exact label _
  · simp

theorem forall_mem_overlays (hazy : P haze) (flipped : P startingPortal) (options : BiomeOptions) :
    ∀ record ∈ overlays options, P record := by
  intro record member
  rcases List.mem_append.mp member with first | second
  · split at first
    · rwa [List.mem_singleton.mp first]
    · cases first
  · split at second
    · rwa [List.mem_singleton.mp second]
    · cases second

end Corridor.Structure
