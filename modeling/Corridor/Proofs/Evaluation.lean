import Corridor.Compiled
import Corridor.Proofs.History
/-!
The passes over a biome, segment by segment. Main statements: the evaluation at a segment is that of
the theme at the window of all codes up to it, and the overrides in force there are those of all
evaluations up to it.
-/
namespace Corridor.Biome

def siteAt (biome : Biome) (index : Nat) (segment : Segment) : Site where
  segment := segment
  index := index
  count := biome.segments.length
  previous := if index = 0 then none else biome.segments[index - 1]?.map Segment.swing

def codes (biome : Biome) : List Orientation :=
  biome.segments.mapIdx fun index segment => segment.orientation index biome.segments.length

/-- The window at a segment holds the codes up to it, pushed one after the other. -/
def windowAt (biome : Biome) (index : Nat) : Window :=
  Window.ofHistory (biome.codes.take (index + 1))

def evaluationAt (biome : Biome) (theme : Theme) (index : Nat) (segment : Segment) : Evaluation :=
  theme.evaluate (biome.windowAt index) index (biome.options.frame segment)

theorem sitesFrom_eq_mapIdx (count index : Nat) (previous : Option Swing) (segments : List Segment) :
    sitesFrom count index previous segments =
      segments.mapIdx fun offset segment => ⟨segment, index + offset, count,
        if offset = 0 then previous else segments[offset - 1]?.map Segment.swing⟩ := by
  induction segments generalizing index previous with
  | nil => rfl
  | cons segment rest ih =>
    rw [sitesFrom, ih, List.mapIdx_cons]
    congr 1
    apply List.mapIdx_eq_mapIdx_iff.mpr
    intro offset bound
    cases offset with
    | zero => simp
    | succ offset => simp [Nat.add_assoc, Nat.add_comm 1]

theorem sites_eq_mapIdx (biome : Biome) : biome.sites = biome.segments.mapIdx biome.siteAt := by
  rw [sites, sitesFrom_eq_mapIdx]
  simp only [Nat.zero_add]
  rfl

theorem map_orientation_sites (biome : Biome) : biome.sites.map Site.orientation = biome.codes := by
  rw [sites_eq_mapIdx, codes]
  apply List.ext_getElem?
  intro index
  rw [List.getElem?_map, List.getElem?_mapIdx, List.getElem?_mapIdx, Option.map_map]
  rfl

theorem evaluateFrom_eq_mapIdx (options : BiomeOptions) (theme : Theme) (window : Window)
    (sites : List Site) :
    evaluateFrom options theme window sites =
      sites.mapIdx fun offset site =>
        theme.evaluate (((sites.map Site.orientation).take (offset + 1)).foldl Window.push window)
          site.index (options.frame site.segment) := by
  induction sites generalizing window with
  | nil => rfl
  | cons site rest ih =>
    rw [evaluateFrom, ih, List.mapIdx_cons]
    rfl

theorem evaluations_eq_mapIdx (biome : Biome) (theme : Theme) :
    biome.evaluations theme = biome.segments.mapIdx (biome.evaluationAt theme) := by
  rw [evaluations, evaluateFrom_eq_mapIdx, map_orientation_sites, sites_eq_mapIdx,
    List.mapIdx_mapIdx]
  rfl

theorem getElem?_evaluations (biome : Biome) (theme : Theme) (index : Nat) :
    (biome.evaluations theme)[index]? =
      biome.segments[index]?.map (biome.evaluationAt theme index) := by
  rw [evaluations_eq_mapIdx, List.getElem?_mapIdx]

theorem getElem?_codes (biome : Biome) (index : Nat) :
    biome.codes[index]? = biome.segments[index]?.map fun segment =>
      segment.orientation index biome.segments.length := by
  rw [codes, List.getElem?_mapIdx]

theorem length_codes (biome : Biome) : biome.codes.length = biome.segments.length := by
  rw [codes, List.length_mapIdx]

theorem getElem?_windowAt (biome : Biome) {index position : Nat}
    (valid : index < biome.segments.length) (within : position < windowLength) :
    (biome.windowAt index).codes[position]? =
      if index + position < 10 then some .absent else biome.codes[index + position - 10]? := by
  have count : (biome.codes.take (index + 1)).length = index + 1 := by
    rw [List.length_take, length_codes]
    omega
  have eleven : windowLength = 11 := rfl
  rw [windowAt, Window.getElem?_ofHistory, count]
  by_cases padding : index + position < 10
  · rw [if_pos padding, if_pos (by omega)]
  · rw [if_neg padding, if_neg (by omega), List.getElem?_take_of_lt (by omega)]
    congr 1
    omega

theorem contains_finalOverrides (overrides : Overrides) (evaluations : List Evaluation)
    (category : Category) :
    (finalOverrides overrides evaluations).contains category =
      (overrides.contains category ||
        evaluations.any fun evaluation => evaluation.overrides.contains category) := by
  induction evaluations generalizing overrides with
  | nil => simp [finalOverrides]
  | cons evaluation rest ih =>
    rw [finalOverrides, List.foldl_cons, ← finalOverrides, ih, Evaluation.apply,
      Overrides.contains_insertAll, List.any_cons, List.contains_eq_mem, Bool.or_comm (decide _),
      Bool.or_assoc]

theorem inForce_eq_mapIdx (overrides : Overrides) (evaluations : List Evaluation) :
    inForce overrides evaluations =
      evaluations.mapIdx fun index _ => finalOverrides overrides (evaluations.take (index + 1)) := by
  induction evaluations generalizing overrides with
  | nil => rfl
  | cons evaluation rest ih =>
    rw [inForce, ih, List.mapIdx_cons]
    rfl

theorem contains_startOverrides (overrides : Overrides) (evaluations : List Evaluation)
    (category : Category) :
    (startOverrides overrides evaluations).contains category =
      (overrides.contains category || decide (category = .base) &&
        evaluations.any fun evaluation => evaluation.overrides.contains category) := by
  by_cases base : category = .base
  · subst base
    rw [startOverrides]
    split <;> simp_all [Overrides.contains_insert]
  · rw [startOverrides]
    split <;> simp [Overrides.contains_insert, base]

end Corridor.Biome
