import Mathlib.Data.List.Forall2
import Corridor.Proofs.Moderate

namespace Corridor

def Spot.mirror (sum : Int) (spot : Spot) : Spot := { spot with y := sum - spot.y }

namespace Swing

def Sloped (swing : Swing) : Prop := swing = up ∨ swing = down

theorem reverse_inj {first second : Swing} : first.reverse = second.reverse ↔ first = second := by
  cases first <;> cases second <;> decide

theorem sign_reverse (swing : Swing) : swing.reverse.sign = -swing.sign := by
  cases swing <;> rfl

theorem Sloped.sign {swing : Swing} (sloped : swing.Sloped) : swing.sign = 1 ∨ swing.sign = -1 := by
  rcases sloped with rfl | rfl
  · exact .inl rfl
  · exact .inr rfl

end Swing

namespace Record

def Reflects (sum : Int) (record other : Record) : Prop :=
  ∃ spot, record.spot? = some spot ∧ other.spot? = some (spot.mirror sum)

theorem Reflects.of_spots {sum object x y image : Int} {record other : Record}
    (own : record.spot? = some ⟨object, x, y⟩) (turned : other.spot? = some ⟨object, x, image⟩)
    (heights : y + image = sum) : record.Reflects sum other := by
  refine ⟨⟨object, x, y⟩, own, ?_⟩
  have opposite : image = sum - y := by
    omega
  rw [turned, opposite]
  rfl

end Record

/-- All records have spots, and the spots of the others are their images, in any order. -/
def Mirrors (sum : Int) (records others : List Record) : Prop :=
  ∃ spots : List Spot, records.map Record.spot? = spots.map some ∧
    (others.map Record.spot?).Perm (spots.map fun spot => some (spot.mirror sum))

namespace Mirrors

variable {sum : Int} {records others : List Record}

theorem of_forall₂ (reflects : List.Forall₂ (Record.Reflects sum) records others) :
    Mirrors sum records others := by
  induction reflects with
  | nil => exact ⟨[], rfl, .nil⟩
  | cons reflected _ ih =>
    obtain ⟨spot, first, second⟩ := reflected
    obtain ⟨spots, own, images⟩ := ih
    refine ⟨spot :: spots, by simp [first, own], ?_⟩
    rw [List.map_cons, List.map_cons, second]
    exact images.cons _

theorem nil : Mirrors sum [] [] := of_forall₂ .nil

theorem single {record other : Record} (reflected : record.Reflects sum other) :
    Mirrors sum [record] [other] :=
  of_forall₂ (.cons reflected .nil)

theorem pair {first second third fourth : Record} (left : first.Reflects sum third)
    (right : second.Reflects sum fourth) : Mirrors sum [first, second] [third, fourth] :=
  of_forall₂ (.cons left (.cons right .nil))

theorem perm {rearranged : List Record} (mirrored : Mirrors sum records others)
    (same : others.Perm rearranged) : Mirrors sum records rearranged := by
  obtain ⟨spots, own, images⟩ := mirrored
  exact ⟨spots, own, (same.symm.map Record.spot?).trans images⟩

theorem exchanged {first second third fourth : Record} (left : first.Reflects sum fourth)
    (right : second.Reflects sum third) : Mirrors sum [first, second] [third, fourth] :=
  (pair left right).perm (List.Perm.swap _ _ [])

theorem append {laterRecords laterOthers : List Record} (first : Mirrors sum records others)
    (later : Mirrors sum laterRecords laterOthers) :
    Mirrors sum (records ++ laterRecords) (others ++ laterOthers) := by
  obtain ⟨spots, own, images⟩ := first
  obtain ⟨laterSpots, laterOwn, laterImages⟩ := later
  refine ⟨spots ++ laterSpots, by simp [own, laterOwn], ?_⟩
  rw [List.map_append, List.map_append]
  exact images.append laterImages

theorem placeAll {overrides otherOverrides : Overrides} {blocks otherBlocks : List Block}
    (same : List.Forall₂ (fun block other => block.suppressed overrides =
      other.suppressed otherOverrides ∧ Mirrors sum block.records other.records) blocks otherBlocks) :
    Mirrors sum (Block.placeAll overrides blocks) (Block.placeAll otherOverrides otherBlocks) := by
  induction same with
  | nil => exact nil
  | @cons block other _ _ both _ ih =>
    have placed : Mirrors sum (block.place overrides) (other.place otherOverrides) := by
      rw [Block.place, Block.place, ← both.1]
      split
      · exact nil
      · exact both.2
    exact placed.append ih

end Mirrors

def Segment.mirror (sum : Int) (segment : Segment) : Segment :=
  { segment with y := sum - segment.y, swing := segment.swing.reverse }

/-- The floor of an image is the image of the ceiling, so that heights of segments add up to `sum`
less the height of the corridor. -/
def BiomeOptions.floorSum (options : BiomeOptions) (sum : Int) : Int := sum - options.corridorHeight

/-- The bounds are exchanged. They lie one cell off the middle. -/
def BiomeOptions.mirror (options : BiomeOptions) (sum : Int) : BiomeOptions :=
  { options with
    minHeight := options.floorSum sum - 30 - options.maxHeight
    maxHeight := options.floorSum sum - 30 - options.minHeight }

def Biome.mirror (biome : Biome) (sum : Int) : Biome :=
  { biome with
    options := biome.options.mirror sum
    yInitial := biome.options.floorSum sum - biome.yInitial
    segments := biome.segments.map (Segment.mirror (biome.options.floorSum sum)) }

def Site.mirror (sum : Int) (site : Site) : Site :=
  { site with segment := site.segment.mirror sum, previous := site.previous.map Swing.reverse }

def Overrides.exchangeEnds (overrides : Overrides) : Overrides :=
  { overrides with endUp := overrides.endDown, endDown := overrides.endUp }

namespace Structure

section
variable (options : BiomeOptions) (sum : Int) (segment : Segment)

@[simp] theorem y_mirror (floorSum : Int) : (segment.mirror floorSum).y = floorSum - segment.y := rfl

@[simp] theorem swing_mirror (floorSum : Int) :
    (segment.mirror floorSum).swing = segment.swing.reverse := rfl

theorem mirrors_walls :
    Mirrors sum (walls options segment)
      (walls (options.mirror sum) (segment.mirror (options.floorSum sum))) := by
  rw [walls, walls]
  simp only [BiomeOptions.mirror, BiomeOptions.floorSum, y_mirror]
  cases options.startingSize with
  | normal =>
    exact .exchanged (.of_spots rfl rfl (by omega)) (.of_spots rfl rfl (by omega))
  | mini =>
    exact .exchanged (.of_spots rfl rfl (by omega)) (.of_spots rfl rfl (by omega))

theorem mirrors_corners (previous : Swing) :
    Mirrors sum (corners options segment previous)
      (corners (options.mirror sum) (segment.mirror (options.floorSum sum)) previous.reverse) := by
  unfold corners
  simp only [BiomeOptions.mirror, BiomeOptions.floorSum, y_mirror, swing_mirror]
  cases previous <;> cases segment.swing
  case up.down => exact .pair (.of_spots rfl rfl (by omega)) (.of_spots rfl rfl (by omega))
  case down.up => exact .pair (.of_spots rfl rfl (by omega)) (.of_spots rfl rfl (by omega))
  all_goals exact .nil

theorem mirrors_cornersAt (settings : Settings) (site : Site) :
    Mirrors sum (cornersAt options settings site)
      (cornersAt (options.mirror sum) settings (site.mirror (options.floorSum sum))) := by
  have index : (site.mirror (options.floorSum sum)).index = site.index := rfl
  rw [cornersAt, cornersAt, index]
  by_cases placed : 1 < site.index ∧ settings.cornerPieces = true
  · rw [if_pos placed, if_pos placed]
    cases previous : site.previous with
    | none =>
      simp only [Site.mirror, previous]
      exact .nil
    | some swing =>
      simp only [Site.mirror, previous]
      exact mirrors_corners options sum site.segment swing
  · rw [if_neg placed, if_neg placed]
    exact .nil

/-- A portal that faces the other way stands as far below the ceiling as the first above the floor. -/
theorem reflects_portalPiece (id : Nat) {facing : Int} (faces : facing = 1 ∨ facing = -1)
    (shift : Int) :
    (portalPiece options segment id facing shift).Reflects sum
      (portalPiece (options.mirror sum) (segment.mirror (options.floorSum sum)) id (-facing)
        (-shift)) := by
  rcases faces with rfl | rfl
  · apply Record.Reflects.of_spots rfl rfl
    simp [BiomeOptions.mirror, BiomeOptions.floorSum]
    omega
  · apply Record.Reflects.of_spots rfl rfl
    simp [BiomeOptions.mirror, BiomeOptions.floorSum]
    omega

variable {segment}

theorem reflects_gravityPortal (sloped : segment.swing.Sloped) (previous : Option Swing) :
    (gravityPortal options segment previous).Reflects sum
      (gravityPortal (options.mirror sum) (segment.mirror (options.floorSum sum))
        (previous.map Swing.reverse)) := by
  have faces : segment.swing.sign = 1 ∨ segment.swing.sign = -1 := sloped.sign
  have continues : previous.map Swing.reverse = some segment.swing.reverse ↔
      previous = some segment.swing := by
    cases previous with
    | none => simp
    | some swing => simp [Swing.reverse_inj]
  rw [gravityPortal, gravityPortal]
  simp only [swing_mirror, continues, Swing.sign_reverse]
  split
  · have turned : -segment.swing.sign = 1 ∨ -segment.swing.sign = -1 := by
      omega
    have shifted : grid * - -segment.swing.sign = -(grid * -segment.swing.sign) := by
      rw [Int.mul_neg grid (-segment.swing.sign)]
    rw [shifted]
    exact reflects_portalPiece options sum segment _ turned _
  · exact reflects_portalPiece options sum segment _ faces 0

theorem mirrors_portal {site : Site} (sloped : site.segment.swing.Sloped) :
    Mirrors sum (portal options site)
      (portal (options.mirror sum) (site.mirror (options.floorSum sum))) := by
  have kind : (site.mirror (options.floorSum sum)).segment.options.portal =
      site.segment.options.portal := rfl
  rw [portal, portal, kind]
  cases site.segment.options.portal with
  | absent => exact .nil
  | gravity => exact .single (reflects_gravityPortal options sum sloped site.previous)
  | fake =>
    have faces : site.segment.swing.sign = 1 ∨ site.segment.swing.sign = -1 := sloped.sign
    apply Mirrors.single
    rw [fakePortal, fakePortal]
    simp only [Site.mirror, swing_mirror, Swing.sign_reverse]
    exact reflects_portalPiece options sum site.segment _ faces 0

theorem mirrors_speedTrigger (sloped : segment.swing.Sloped) (even : 2 ∣ options.corridorHeight) :
    Mirrors sum (speedTrigger options segment)
      (speedTrigger (options.mirror sum) (segment.mirror (options.floorSum sum))) := by
  have middle : options.corridorHeight = 2 * options.corridorHeight.tdiv 2 :=
    (Int.mul_tdiv_cancel' even).symm
  have change : (segment.mirror (options.floorSum sum)).options.speedChange =
      segment.options.speedChange := rfl
  rw [speedTrigger, speedTrigger, change]
  split
  · exact .nil
  · apply Mirrors.single
    apply Record.Reflects.of_spots rfl rfl
    rcases sloped with up | down
    · simp [up, Swing.reverse, BiomeOptions.mirror, BiomeOptions.floorSum]
      omega
    · simp [down, Swing.reverse, BiomeOptions.mirror, BiomeOptions.floorSum]
      omega

theorem mirrors_spike (sloped : segment.swing.Sloped) :
    Mirrors sum (spike options segment)
      (spike (options.mirror sum) (segment.mirror (options.floorSum sum))) := by
  have choice : (segment.mirror (options.floorSum sum)).options = segment.options := rfl
  rw [spike, spike, choice]
  split
  · apply Mirrors.single
    apply Record.Reflects.of_spots rfl rfl
    rw [choice, swing_mirror]
    rcases sloped with up | down
    · rw [up]
      cases segment.options.spikeSide <;>
        simp [Swing.reverse, BiomeOptions.mirror, BiomeOptions.floorSum] <;> omega
    · rw [down]
      cases segment.options.spikeSide <;>
        simp [Swing.reverse, BiomeOptions.mirror, BiomeOptions.floorSum] <;> omega
  · exact .nil

theorem mirrors_fuzz :
    Mirrors sum (fuzz options segment)
      (fuzz (options.mirror sum) (segment.mirror (options.floorSum sum))) := by
  have choice : (segment.mirror (options.floorSum sum)).options = segment.options := rfl
  have mode : (options.mirror sum).colorMode = options.colorMode := rfl
  rw [fuzz, fuzz, choice, mode]
  simp only [BiomeOptions.mirror, BiomeOptions.floorSum, y_mirror]
  split
  · have spot := spot?_fuzzPiece options.colorMode segment.x
    exact .exchanged (.of_spots (spot _ _) (spot _ _) (by omega))
      (.of_spots (spot _ _) (spot _ _) (by omega))
  · exact .nil

theorem mirrors_segment (settings : Settings) {site : Site} (sloped : site.segment.swing.Sloped)
    (even : 2 ∣ options.corridorHeight) (overrides : Overrides) :
    Mirrors sum (Block.placeAll overrides (Structure.segment options settings site))
      (Block.placeAll overrides (Structure.segment (options.mirror sum) settings
        (site.mirror (options.floorSum sum)))) := by
  have together {category : Category} {records others : List Record} {sums otherSums : List Int} :
      (Block.of category records sums).suppressed overrides =
        (Block.of category others otherSums).suppressed overrides := rfl
  apply Mirrors.placeAll
  refine .cons ⟨together, ?_⟩ (.cons ⟨together, ?_⟩ (.cons ⟨together, ?_⟩ (.cons ⟨together, ?_⟩
    (.cons ⟨together, ?_⟩ .nil))))
  · exact (mirrors_walls options sum site.segment).append (mirrors_cornersAt options sum settings site)
  · exact mirrors_portal options sum sloped
  · exact mirrors_speedTrigger options sum sloped even
  · exact mirrors_spike options sum sloped
  · exact mirrors_fuzz options sum

theorem mirrors_slant (x y rise rotation turned : Int) (count : Nat) :
    Mirrors sum (diagonal rotation (slant x y rise count))
      (diagonal turned (slant x (sum - y) (-rise) count)) := by
  apply Mirrors.of_forall₂
  rw [diagonal, diagonal, slant, slant, List.map_map, List.map_map, List.forall₂_map_left_iff,
    List.forall₂_map_right_iff, List.forall₂_same]
  intro cell _
  have opposite : -rise * (cell + 1 : Int) = -(rise * (cell + 1)) := Int.neg_mul _ _
  apply Record.Reflects.of_spots (spot?_diagonalPiece _ _ _) (spot?_diagonalPiece _ _ _)
  omega

theorem mirrors_diagonals {x top bottom imageTop imageBottom : Int} (tops : bottom + imageTop = sum)
    (bottoms : top + imageBottom = sum) :
    Mirrors sum (diagonals options x top bottom)
      (diagonals (options.mirror sum) x imageTop imageBottom) := by
  obtain rfl : imageTop = sum - bottom := by omega
  obtain rfl : imageBottom = sum - top := by omega
  have upper : (options.mirror sum).maxHeight + (options.mirror sum).corridorHeight + grid -
      (sum - bottom) = bottom - options.minHeight := by
    simp [BiomeOptions.mirror, BiomeOptions.floorSum, grid]
    omega
  have lower : sum - top - (options.mirror sum).minHeight =
      options.maxHeight + options.corridorHeight + grid - top := by
    simp [BiomeOptions.mirror, BiomeOptions.floorSum, grid]
    omega
  rw [diagonals, diagonals, climb_eq_slant, descend_eq_slant, climb_eq_slant, descend_eq_slant,
    upper, lower]
  have raised := mirrors_slant sum x top 30 180 90
  have lowered := mirrors_slant sum x bottom (-30) 90 180
  exact ((raised _).append (lowered _)).perm List.perm_append_comm

end
end Structure

namespace Biome

theorem sitesFrom_mirror (sum : Int) (count index : Nat) (previous : Option Swing)
    (segments : List Segment) :
    sitesFrom count index (previous.map Swing.reverse) (segments.map (Segment.mirror sum)) =
      (sitesFrom count index previous segments).map (Site.mirror sum) := by
  induction segments generalizing index previous with
  | nil => rfl
  | cons segment rest ih =>
    rw [List.map_cons, sitesFrom, sitesFrom, List.map_cons, ← ih]
    rfl

theorem sites_mirror (biome : Biome) (sum : Int) :
    (biome.mirror sum).sites = biome.sites.map (Site.mirror (biome.options.floorSum sum)) := by
  have count : (biome.mirror sum).segments.length = biome.segments.length := by
    simp [mirror]
  rw [sites, count]
  exact sitesFrom_mirror _ _ 0 none biome.segments

theorem mirrors_ending (biome : Biome) (sum : Int) (overrides : Overrides) :
    Mirrors sum (Block.placeAll overrides (Structure.ending biome))
      (Block.placeAll overrides.exchangeEnds (Structure.ending (biome.mirror sum))) := by
  let floorSum := biome.options.floorSum sum
  have last : (biome.mirror sum).segments.getLast? =
      biome.segments.getLast?.map (Segment.mirror floorSum) :=
    List.getLast?_map
  apply Mirrors.placeAll
  rw [Structure.ending, Structure.ending, last]
  cases biome.segments.getLast? with
  | none => exact .nil
  | some segment =>
    simp only [Option.map_some, Structure.swing_mirror]
    have heights : segment.y + (segment.mirror floorSum).y + biome.options.corridorHeight = sum := by
      simp only [Structure.y_mirror, floorSum, BiomeOptions.floorSum]
      omega
    cases segment.swing with
    | up =>
      refine .cons ⟨rfl, Structure.mirrors_diagonals biome.options sum ?_ ?_⟩ .nil
      · show segment.y + grid + ((segment.mirror floorSum).y + biome.options.corridorHeight - grid) = sum
        omega
      · show segment.y + biome.options.corridorHeight + (segment.mirror floorSum).y = sum
        omega
    | down =>
      refine .cons ⟨rfl, Structure.mirrors_diagonals biome.options sum ?_ ?_⟩ .nil
      · show segment.y + ((segment.mirror floorSum).y + biome.options.corridorHeight) = sum
        omega
      · show segment.y + biome.options.corridorHeight - grid + ((segment.mirror floorSum).y + grid) = sum
        omega
    | neutral => exact .nil

theorem mirrors_segment_at (biome : Biome) (settings : Settings) (sum : Int)
    (sloped : ∀ segment ∈ biome.segments, segment.swing.Sloped)
    (even : 2 ∣ biome.options.corridorHeight) (overrides : Overrides) {index : Nat} {site : Site}
    (present : biome.sites[index]? = some site) :
    ∃ image, (biome.mirror sum).sites[index]? = some image ∧
      Mirrors sum (Block.placeAll overrides (Structure.segment biome.options settings site))
        (Block.placeAll overrides (Structure.segment (biome.mirror sum).options settings image)) := by
  have member : site.segment ∈ biome.segments := segment_mem_of_mem_sites (List.mem_of_getElem? present)
  refine ⟨site.mirror (biome.options.floorSum sum), ?_, ?_⟩
  · rw [sites_mirror, List.getElem?_map, present]
    rfl
  · exact Structure.mirrors_segment biome.options sum settings (sloped _ member) even overrides

/-- A biome of sloped segments whose height can be halved has the same objects at the same places when
it is turned over: at each segment whatever is overridden, and at the end with the ends exchanged. So
it is wherever both are placed, which they are if their coordinates are moderate. -/
theorem mirror_symmetric (biome : Biome) (settings : Settings) (sum : Int)
    (sloped : ∀ segment ∈ biome.segments, segment.swing.Sloped)
    (even : 2 ∣ biome.options.corridorHeight) (overrides : Overrides) :
    (∀ (index : Nat) (site : Site), biome.sites[index]? = some site →
      ∃ image, (biome.mirror sum).sites[index]? = some image ∧
        ∀ records others,
          Block.placeAll? overrides (Structure.segment biome.options settings site) = some records →
          Block.placeAll? overrides (Structure.segment (biome.mirror sum).options settings image) =
            some others →
          Mirrors sum records others) ∧
    (∀ records others,
      Block.placeAll? overrides (Structure.ending biome) = some records →
      Block.placeAll? overrides.exchangeEnds (Structure.ending (biome.mirror sum)) = some others →
      Mirrors sum records others) ∧
    ∀ any : Biome, any.Moderate →
      (∀ site ∈ any.sites,
        (Block.placeAll? overrides (Structure.segment any.options settings site)).isSome = true) ∧
      (Block.placeAll? overrides (Structure.ending any)).isSome = true := by
  refine ⟨fun index site present => ?_, fun records others own turned => ?_, fun any moderate => ?_⟩
  · obtain ⟨image, reflected, mirrored⟩ :=
      mirrors_segment_at biome settings sum sloped even overrides present
    refine ⟨image, reflected, fun records others own turned => ?_⟩
    obtain ⟨_, rfl⟩ := Block.placeAll?_eq_some_iff.mp own
    obtain ⟨_, rfl⟩ := Block.placeAll?_eq_some_iff.mp turned
    exact mirrored
  · obtain ⟨_, rfl⟩ := Block.placeAll?_eq_some_iff.mp own
    obtain ⟨_, rfl⟩ := Block.placeAll?_eq_some_iff.mp turned
    exact mirrors_ending biome sum overrides
  · constructor
    · intro site member
      have near := moderate.segments _ (segment_mem_of_mem_sites member)
      rw [Block.isSome_placeAll?]
      exact Structure.fits_segment moderate.options near settings overrides
    · rw [Block.isSome_placeAll?]
      exact Structure.fits_ending moderate overrides

def tunnel : Biome where
  options := { corridorHeight := 62 }
  segments := [⟨465, 195, .up, { speedChange := .double }⟩, ⟨495, 225, .up, { portal := .gravity }⟩,
    ⟨525, 225, .down, { portal := .fake, spike := true, fuzzy := true }⟩]

theorem tunnel_mirror_symmetric :
    ((∀ segment ∈ tunnel.segments, segment.swing.Sloped) ∧ 2 ∣ tunnel.options.corridorHeight) ∧
    tunnel.Moderate ∧ (tunnel.mirror 301).Moderate ∧
    (tunnel.mirror 301).segments = [⟨465, 44, .down, { speedChange := .double }⟩,
      ⟨495, 14, .down, { portal := .gravity }⟩,
      ⟨525, 14, .up, { portal := .fake, spike := true, fuzzy := true }⟩] ∧
    (∃ site image records others, tunnel.sites[2]? = some site ∧
      (tunnel.mirror 301).sites[2]? = some image ∧
      Block.placeAll? {} (Structure.segment tunnel.options {} site) = some records ∧
      Block.placeAll? {} (Structure.segment (tunnel.mirror 301).options {} image) = some others ∧
      Mirrors 301 records others) ∧
    ∃ records others,
      Block.placeAll? { endUp := true } (Structure.ending tunnel) = some records ∧
      Block.placeAll? { endDown := true } (Structure.ending (tunnel.mirror 301)) = some others ∧
      Mirrors 301 records others := by
  have sloped : ∀ segment ∈ tunnel.segments, segment.swing.Sloped := by
    simp [tunnel, Swing.Sloped]
  have even : 2 ∣ tunnel.options.corridorHeight := by
    decide
  have moderate : tunnel.Moderate ∧ (tunnel.mirror 301).Moderate := by
    decide
  obtain ⟨site, present⟩ : ∃ site, tunnel.sites[2]? = some site := ⟨_, rfl⟩
  obtain ⟨segments, _, placed⟩ := mirror_symmetric tunnel {} 301 sloped even {}
  obtain ⟨image, reflected, mirrored⟩ := segments 2 site present
  obtain ⟨records, own⟩ := Option.isSome_iff_exists.mp
    ((placed tunnel moderate.1).1 site (List.mem_of_getElem? present))
  obtain ⟨others, turned⟩ := Option.isSome_iff_exists.mp
    ((placed _ moderate.2).1 image (List.mem_of_getElem? reflected))
  obtain ⟨_, ending, ends⟩ := mirror_symmetric tunnel {} 301 sloped even { endUp := true }
  obtain ⟨_, _, imageEnds⟩ := mirror_symmetric tunnel {} 301 sloped even { endDown := true }
  obtain ⟨last, ended⟩ := Option.isSome_iff_exists.mp (ends tunnel moderate.1).2
  obtain ⟨lastImage, imageEnded⟩ := Option.isSome_iff_exists.mp (imageEnds _ moderate.2).2
  exact ⟨⟨sloped, even⟩, moderate.1, moderate.2, by decide,
    ⟨site, image, records, others, present, reflected, own, turned, mirrored _ _ own turned⟩,
    last, lastImage, ended, imageEnded, ending _ _ ended imageEnded⟩

def overhang : Biome where
  options := { minHeight := 2147483600, maxHeight := 2147483600 }
  segments := [⟨465, 2147483600, .up, {}⟩]

theorem overhang_overflows :
    ((∀ segment ∈ overhang.segments, segment.swing.Sloped) ∧ 2 ∣ overhang.options.corridorHeight) ∧
    ∃ site image, overhang.sites[0]? = some site ∧ (overhang.mirror 2147483660).sites[0]? = some image ∧
      Block.placeAll? {} (Structure.segment overhang.options {} site) = none ∧
      (Block.placeAll? {} (Structure.segment (overhang.mirror 2147483660).options {} image)).map
        (List.map Record.spot?) =
        some [some ⟨ObjectId.slope, 465, 0⟩, some ⟨ObjectId.slope, 465, 60⟩] := by
  refine ⟨⟨by simp [overhang, Swing.Sloped], by decide⟩, _, _, rfl, rfl, ?_, ?_⟩
  · decide
  · decide

end Biome
end Corridor
