import Corridor.Level.Basic

namespace Corridor

inductive BiomeError where
  | nonPositiveCorridorHeight (height : Int)
  | invertedHeightBounds (min max : Int)
  | negativeLength (length : Int)
  | lengthTooLarge (length : Int)
  deriving DecidableEq, Repr

def BiomeError.message : BiomeError → String
  | nonPositiveCorridorHeight height => s!"corridor height must be positive, got {height}"
  | invertedHeightBounds min max => s!"height bounds are inverted: min {min} > max {max}"
  | negativeLength length => s!"meter length must not be negative, got {length}"
  | lengthTooLarge length => s!"meter length {length} exceeds the maximum of {maxLength}"

def Biome.errors (biome : Biome) : List BiomeError :=
  let options := biome.options
  (if options.corridorHeight ≤ 0 then [.nonPositiveCorridorHeight options.corridorHeight] else []) ++
  (if options.maxHeight < options.minHeight then
    [.invertedHeightBounds options.minHeight options.maxHeight] else []) ++
  (if options.length < 0 then [.negativeLength options.length] else []) ++
  (if maxLength < options.length then [.lengthTooLarge options.length] else [])

end Corridor
