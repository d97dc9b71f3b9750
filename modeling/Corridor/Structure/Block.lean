import Corridor.Override
import Corridor.Record.Basic
/-!
Blocks of structure: records that stand or fall with one category of overrides.
-/
namespace Corridor

/-- A block without a category is always placed. -/
structure Block where
  category : Option Category
  records : List Record
  /-- The sums of coordinates that are formed for the records, those on the way included. -/
  sums : List Int
  deriving DecidableEq, Repr

namespace Block

def fixed (records : List Record) : Block := ⟨none, records, []⟩

def of (category : Category) (records : List Record) (sums : List Int) : Block :=
  ⟨some category, records, sums⟩

def suppressed (overrides : Overrides) (block : Block) : Bool := block.category.any overrides.contains

def place (overrides : Overrides) (block : Block) : List Record :=
  if block.suppressed overrides then [] else block.records

def placeAll (overrides : Overrides) (blocks : List Block) : List Record :=
  blocks.flatMap (place overrides)

/-- Coordinates have 32 bits. No sum is formed for a block that is overridden. -/
def fits (overrides : Overrides) (block : Block) : Bool :=
  block.suppressed overrides || block.sums.all fun sum => Numeral.IsInt32 sum

/-- Placing blocks breaks off at a sum that no coordinate can hold. -/
def placeAll? (overrides : Overrides) (blocks : List Block) : Option (List Record) :=
  if blocks.all (fits overrides) then some (placeAll overrides blocks) else none

theorem fits_of_forall {block : Block} (small : ∀ sum ∈ block.sums, Numeral.IsInt32 sum)
    (overrides : Overrides) : block.fits overrides = true := by
  rw [fits, Bool.or_eq_true, List.all_eq_true]
  exact .inr fun sum member => decide_eq_true (small sum member)

theorem fits_of_iff {overrides : Overrides} {category : Category} {records : List Record}
    {sums : List Int} (free : overrides.contains category = false) :
    (of category records sums).fits overrides = true ↔ ∀ sum ∈ sums, Numeral.IsInt32 sum := by
  simp [fits, suppressed, of, free]

theorem isSome_placeAll? (overrides : Overrides) (blocks : List Block) :
    (placeAll? overrides blocks).isSome = blocks.all (fits overrides) := by
  rw [placeAll?]
  split
  · rename_i fitting
    exact fitting.symm
  · rename_i overflowing
    exact (eq_false_of_ne_true overflowing).symm

theorem placeAll?_eq_some_iff {overrides : Overrides} {blocks : List Block} {records : List Record} :
    placeAll? overrides blocks = some records ↔
      blocks.all (fits overrides) = true ∧ placeAll overrides blocks = records := by
  rw [placeAll?]
  split
  · rename_i fitting
    simp [fitting]
  · rename_i overflowing
    simp [overflowing]

end Block
end Corridor
