import Corridor.Proofs.Evaluation
/-!
What overrides take away. Main statement: the structure of a compiled biome is that of the biome
without theme and overrides, less the pieces whose category is overridden, in the same order.
-/
namespace Corridor

inductive Origin where
  | start
  | segment (index : Nat)
  | ending
  | trimming
  deriving DecidableEq, Repr

structure Piece where
  origin : Origin
  category : Option Category
  record : Record
  deriving DecidableEq, Repr

def Piece.ofRecords (origin : Origin) (category : Option Category) (records : List Record) :
    List Piece :=
  records.map fun record => ⟨origin, category, record⟩

theorem Piece.map_record_ofRecords (origin : Origin) (category : Option Category)
    (records : List Record) : (ofRecords origin category records).map Piece.record = records := by
  simp [ofRecords, Function.comp_def]

def Site.pieces (options : BiomeOptions) (settings : Settings) (site : Site) : List Piece :=
  Piece.ofRecords (.segment site.index) (some .slope)
    (Structure.walls options site.segment ++ Structure.cornersAt options settings site) ++
  Piece.ofRecords (.segment site.index) (some .portal) (Structure.portal options site) ++
  Piece.ofRecords (.segment site.index) (some .speed) (Structure.speedTrigger options site.segment) ++
  Piece.ofRecords (.segment site.index) (some .spike) (Structure.spike options site.segment) ++
  Piece.ofRecords (.segment site.index) (some .fuzz) (Structure.fuzz options site.segment)

namespace Biome

/-- The category of the diagonals at the end, by the last swing. -/
def endingCategory? (biome : Biome) : Option Category :=
  match biome.segments.getLast?.map Segment.swing with
  | some .up => some .endUp
  | some .down => some .endDown
  | _ => none

/-- All pieces of a biome in their order, as if nothing were overridden. -/
def pieces (biome : Biome) (settings : Settings) : List Piece :=
  if biome.segments = [] then []
  else
    Piece.ofRecords .start (some .base)
      (Structure.baseBlocks ++ Structure.startingConnectors biome.options.corridorHeight) ++
    Piece.ofRecords .start none [Structure.startingSpeed biome.options.startingSpeed] ++
    biome.sites.flatMap (Site.pieces biome.options settings) ++
    Piece.ofRecords .ending biome.endingCategory? ((Structure.ending biome).flatMap Block.records) ++
    Piece.ofRecords .trimming none (trimmings biome.options settings)

/-- Whether a category is overridden at a segment: from before the first one, or by the evaluation
of the theme at a segment up to this one. -/
def overriddenAt (biome : Biome) (theme : Theme) (overrides : Overrides) (index : Nat)
    (category : Category) : Bool :=
  overrides.contains category ||
    ((biome.segments.mapIdx (biome.evaluationAt theme)).take (index + 1)).any fun evaluation =>
      evaluation.overrides.contains category

/-- Segments go by what is overridden at them; the start and the end go by the last segment. -/
def decisiveIndex (biome : Biome) : Origin → Nat
  | .segment index => index
  | _ => biome.segments.length - 1

def keeps (biome : Biome) (theme : Theme) (overrides : Overrides) (piece : Piece) : Bool :=
  !piece.category.any (biome.overriddenAt theme overrides (biome.decisiveIndex piece.origin))

variable (biome : Biome) (settings : Settings) (theme : Theme) (overrides : Overrides)

theorem overriddenAt_eq (index : Nat) (category : Category) :
    biome.overriddenAt theme overrides index category =
      (finalOverrides overrides ((biome.evaluations theme).take (index + 1))).contains category := by
  rw [contains_finalOverrides, evaluations_eq_mapIdx, overriddenAt]

theorem overriddenAt_last (category : Category) :
    biome.overriddenAt theme overrides (biome.segments.length - 1) category =
      (finalOverrides overrides (biome.evaluations theme)).contains category := by
  have whole : (biome.evaluations theme).length ≤ biome.segments.length - 1 + 1 := by
    rw [evaluations_eq_mapIdx, List.length_mapIdx]
    omega
  rw [overriddenAt_eq, List.take_of_length_le whole]

/-- Looking the base up in advance does not change what is overridden in the end. -/
theorem finalOverrides_startOverrides (evaluations : List Evaluation) :
    finalOverrides (startOverrides overrides evaluations) evaluations =
      finalOverrides overrides evaluations := by
  apply Overrides.ext_contains
  intro category
  rw [contains_finalOverrides, contains_finalOverrides, contains_startOverrides]
  by_cases base : category = .base
  · simp [base]
  · simp [base]

theorem contains_startOverrides_base :
    (startOverrides overrides (biome.evaluations theme)).contains .base =
      biome.overriddenAt theme overrides (biome.segments.length - 1) .base := by
  rw [overriddenAt_last, contains_startOverrides, contains_finalOverrides]
  simp

theorem contains_inForce (index : Nat) (category : Category) (other : category ≠ .base) :
    (finalOverrides (startOverrides overrides (biome.evaluations theme))
        ((biome.evaluations theme).take (index + 1))).contains category =
      biome.overriddenAt theme overrides index category := by
  rw [overriddenAt_eq, contains_finalOverrides, contains_finalOverrides, contains_startOverrides]
  simp [other]

theorem map_record_filter_ofRecords (origin : Origin) (category : Option Category)
    (records : List Record) (current : Overrides)
    (agree : ∀ governing ∈ category, current.contains governing =
      biome.overriddenAt theme overrides (biome.decisiveIndex origin) governing) :
    ((Piece.ofRecords origin category records).filter (biome.keeps theme overrides)).map Piece.record =
      Block.place current ⟨category, records, []⟩ := by
  have same : category.any (biome.overriddenAt theme overrides (biome.decisiveIndex origin)) =
      Block.suppressed current ⟨category, records, []⟩ := by
    cases category with
    | none => rfl
    | some governing => exact (agree governing rfl).symm
  have kept : (Piece.ofRecords origin category records).filter (biome.keeps theme overrides) =
      if Block.suppressed current ⟨category, records, []⟩ then []
      else Piece.ofRecords origin category records := by
    rw [← same]
    split
    · rename_i suppressed
      simp [Piece.ofRecords, keeps, suppressed]
    · rename_i placed
      simp [Piece.ofRecords, keeps, placed]
  rw [kept, Block.place]
  split
  · rfl
  · exact Piece.map_record_ofRecords origin category records

theorem placeAll_start :
    Block.placeAll (startOverrides overrides (biome.evaluations theme)) (Structure.start biome.options) =
      ((Piece.ofRecords .start (some .base)
          (Structure.baseBlocks ++ Structure.startingConnectors biome.options.corridorHeight) ++
        Piece.ofRecords .start none [Structure.startingSpeed biome.options.startingSpeed]).filter
          (biome.keeps theme overrides)).map Piece.record := by
  have base : ∀ governing ∈ some Category.base,
      (startOverrides overrides (biome.evaluations theme)).contains governing =
        biome.overriddenAt theme overrides (biome.decisiveIndex .start) governing := by
    rintro _ ⟨⟩
    exact contains_startOverrides_base biome theme overrides
  rw [List.filter_append, List.map_append,
    map_record_filter_ofRecords biome theme overrides .start _ _ _ base,
    map_record_filter_ofRecords biome theme overrides .start none _
      (startOverrides overrides (biome.evaluations theme)) (by simp)]
  simp only [Block.placeAll, Structure.start, List.flatMap_cons, List.flatMap_nil, List.append_nil]
  rfl

theorem placeAll_segment (site : Site) :
    Block.placeAll
        (finalOverrides (startOverrides overrides (biome.evaluations theme))
          ((biome.evaluations theme).take (site.index + 1)))
        (Structure.segment biome.options settings site) =
      ((site.pieces biome.options settings).filter (biome.keeps theme overrides)).map Piece.record := by
  have agree : ∀ category : Category, category ≠ .base → ∀ governing ∈ some category,
      (finalOverrides (startOverrides overrides (biome.evaluations theme))
          ((biome.evaluations theme).take (site.index + 1))).contains governing =
        biome.overriddenAt theme overrides (biome.decisiveIndex (.segment site.index)) governing := by
    rintro category other _ ⟨⟩
    exact contains_inForce biome theme overrides site.index category other
  simp only [Site.pieces, List.filter_append, List.map_append]
  rw [map_record_filter_ofRecords biome theme overrides _ _ _ _ (agree .slope (by decide)),
    map_record_filter_ofRecords biome theme overrides _ _ _ _ (agree .portal (by decide)),
    map_record_filter_ofRecords biome theme overrides _ _ _ _ (agree .speed (by decide)),
    map_record_filter_ofRecords biome theme overrides _ _ _ _ (agree .spike (by decide)),
    map_record_filter_ofRecords biome theme overrides _ _ _ _ (agree .fuzz (by decide))]
  simp only [Block.placeAll, Structure.segment, List.flatMap_cons, List.flatMap_nil, List.append_nil,
    List.append_assoc]
  rfl

theorem segmentRecords_eq_flatMap :
    segmentRecords biome.options settings biome.sites
        (inForce (startOverrides overrides (biome.evaluations theme)) (biome.evaluations theme)) =
      biome.sites.flatMap fun site => Block.placeAll
        (finalOverrides (startOverrides overrides (biome.evaluations theme))
          ((biome.evaluations theme).take (site.index + 1)))
        (Structure.segment biome.options settings site) := by
  have aligned : inForce (startOverrides overrides (biome.evaluations theme))
      (biome.evaluations theme) = biome.sites.map fun site =>
        finalOverrides (startOverrides overrides (biome.evaluations theme))
          ((biome.evaluations theme).take (site.index + 1)) := by
    rw [inForce_eq_mapIdx, sites_eq_mapIdx]
    apply List.ext_getElem?
    intro index
    rw [List.getElem?_mapIdx, List.getElem?_map, List.getElem?_mapIdx, evaluations_eq_mapIdx,
      List.getElem?_mapIdx, Option.map_map, Option.map_map]
    rfl
  rw [segmentRecords, aligned, ← List.map_prod_left_eq_zip, List.flatMap_map]

theorem placeAll_ending :
    Block.placeAll
        (finalOverrides (startOverrides overrides (biome.evaluations theme)) (biome.evaluations theme))
        (Structure.ending biome) =
      ((Piece.ofRecords .ending biome.endingCategory?
          ((Structure.ending biome).flatMap Block.records)).filter
        (biome.keeps theme overrides)).map Piece.record := by
  have agree : ∀ governing ∈ biome.endingCategory?,
      (finalOverrides (startOverrides overrides (biome.evaluations theme))
          (biome.evaluations theme)).contains governing =
        biome.overriddenAt theme overrides (biome.decisiveIndex .ending) governing := by
    intro governing _
    rw [finalOverrides_startOverrides, ← overriddenAt_last]
    rfl
  rw [map_record_filter_ofRecords biome theme overrides .ending _ _ _ agree]
  cases last : biome.segments.getLast? with
  | none => simp [Structure.ending, endingCategory?, last, Block.placeAll, Block.place]
  | some segment =>
    cases swing : segment.swing with
    | neutral => simp [Structure.ending, endingCategory?, last, swing, Block.placeAll, Block.place]
    | _ =>
      simp only [Structure.ending, endingCategory?, last, swing, Option.map_some, Block.placeAll,
        List.flatMap_cons, List.flatMap_nil, List.append_nil]
      rfl

theorem contains_overrides_compile (category : Category) :
    (biome.compile settings theme overrides).overrides.contains category =
      biome.overriddenAt theme overrides (biome.segments.length - 1) category := by
  rw [overriddenAt_last, compile]
  split
  · rename_i empty
    rw [evaluations_eq_mapIdx, empty]
    rfl
  · dsimp only
    rw [finalOverrides_startOverrides]

theorem structural_compile :
    (biome.compile settings theme overrides).structural =
      ((biome.pieces settings).filter (biome.keeps theme overrides)).map Piece.record := by
  rw [compile, pieces]
  split
  · rfl
  · dsimp only
    rw [placeAll_start, segmentRecords_eq_flatMap, placeAll_ending]
    simp only [placeAll_segment, List.filter_append, List.map_append, List.filter_flatMap,
      List.map_flatMap]
    -- no category governs the trimmings
    have trimmed : ((Piece.ofRecords .trimming none (trimmings biome.options settings)).filter
        (biome.keeps theme overrides)).map Piece.record = trimmings biome.options settings := by
      rw [map_record_filter_ofRecords biome theme overrides .trimming none _ overrides (by simp)]
      rfl
    rw [trimmed]

theorem overriddenAt_empty (index : Nat) (category : Category) :
    biome.overriddenAt {} {} index category = false := by
  have nothing : ∀ evaluation ∈ biome.segments.mapIdx (biome.evaluationAt {}),
      evaluation.overrides = [] := by
    intro evaluation member
    obtain ⟨position, bound, rfl⟩ := List.mem_mapIdx.mp member
    rfl
  rw [overriddenAt, Bool.or_eq_false_iff, List.any_eq_false]
  constructor
  · cases category <;> rfl
  · intro evaluation member
    simp [nothing evaluation (List.mem_of_mem_take member)]

/-- The final overrides are those at the last segment. The structure that is compiled without theme
and overrides has all pieces of the biome, and any other is left when the overridden ones are taken
away. -/
theorem compile_eq_pieces_kept (biome : Biome) (settings : Settings) (theme : Theme)
    (overrides : Overrides) :
    (∀ category, (biome.compile settings theme overrides).overrides.contains category =
      biome.overriddenAt theme overrides (biome.segments.length - 1) category) ∧
    (biome.compile settings {} {}).structural = (biome.pieces settings).map Piece.record ∧
    (biome.compile settings theme overrides).structural =
      ((biome.pieces settings).filter (biome.keeps theme overrides)).map Piece.record := by
  refine ⟨contains_overrides_compile biome settings theme overrides, ?_,
    structural_compile biome settings theme overrides⟩
  have all : (biome.pieces settings).filter (biome.keeps {} {}) = biome.pieces settings := by
    rw [List.filter_eq_self]
    intro piece _
    rw [keeps, Bool.not_eq_true']
    cases piece.category with
    | none => rfl
    | some category => exact overriddenAt_empty biome _ category
  rw [structural_compile, all]

end Biome
end Corridor
