import Corridor.Orientation

namespace Corridor

structure Site where
  segment : Segment
  index : Nat
  count : Nat
  previous : Option Swing
  deriving DecidableEq, Repr

def Site.orientation (site : Site) : Orientation := site.segment.orientation site.index site.count

namespace Biome

def sitesFrom (count index : Nat) (previous : Option Swing) : List Segment → List Site
  | [] => []
  | segment :: rest =>
    ⟨segment, index, count, previous⟩ :: sitesFrom count (index + 1) (some segment.swing) rest

def sites (biome : Biome) : List Site := sitesFrom biome.segments.length 0 none biome.segments

theorem map_segment_sitesFrom (count index : Nat) (previous : Option Swing) (segments : List Segment) :
    (sitesFrom count index previous segments).map Site.segment = segments := by
  induction segments generalizing index previous with
  | nil => rfl
  | cons segment rest ih => simp [sitesFrom, ih]

theorem map_segment_sites (biome : Biome) : biome.sites.map Site.segment = biome.segments :=
  map_segment_sitesFrom ..

theorem segment_mem_of_mem_sites {biome : Biome} {site : Site} (member : site ∈ biome.sites) :
    site.segment ∈ biome.segments := by
  rw [← map_segment_sites]
  exact List.mem_map_of_mem member

end Biome
end Corridor
