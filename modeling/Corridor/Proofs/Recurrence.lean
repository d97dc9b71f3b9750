import Corridor.Proofs.Streams

namespace Corridor

namespace RepeatingPattern

/-- A pattern with a period reaches its start and the points that lie a natural number of periods,
taken as positive, behind it. -/
def Reaches (pattern : RepeatingPattern) (x : Int) : Prop :=
  pattern.period ≠ 0 ∧ ∃ k : Nat, x = pattern.start + k * pattern.period.natAbs

theorem exists_steps_iff {distance period : Int} :
    (∃ k : Nat, distance = k * period.natAbs) ↔ 0 ≤ distance ∧ period ∣ distance := by
  constructor
  · rintro ⟨k, rfl⟩
    exact ⟨Int.mul_nonneg (Int.natCast_nonneg k) (Int.natCast_nonneg _),
      Int.dvd_mul_of_dvd_right (Int.dvd_natAbs.mpr (Int.dvd_refl period))⟩
  · rintro ⟨forwards, multiple⟩
    obtain ⟨steps, rfl⟩ := Int.eq_ofNat_of_zero_le forwards
    obtain ⟨k, rfl⟩ := Int.ofNat_dvd_right.mp multiple
    exact ⟨k, by rw [Int.natCast_mul, Int.mul_comm]⟩

theorem firesAt_iff_reaches (pattern : RepeatingPattern) (x : Int) :
    pattern.firesAt x = true ↔ pattern.Reaches x := by
  have behind : (∃ k : Nat, x = pattern.start + k * pattern.period.natAbs) ↔
      pattern.start ≤ x ∧ pattern.period ∣ x - pattern.start := by
    rw [← Int.sub_nonneg, ← exists_steps_iff]
    exact exists_congr fun k => by omega
  rw [Reaches, behind, Int.dvd_iff_tmod_eq_zero, firesAt, Bool.and_eq_true, Bool.and_eq_true,
    decide_eq_true_eq, decide_eq_true_eq, decide_eq_true_eq, and_left_comm, and_assoc]

instance (pattern : RepeatingPattern) (x : Int) : Decidable (pattern.Reaches x) :=
  decidable_of_iff _ (pattern.firesAt_iff_reaches x)

def recordsAt (x : Int) (pattern : RepeatingPattern) : List Record :=
  if pattern.firesAt x then pattern.records else []

end RepeatingPattern

section
variable {α β : Type}

theorem flatMap_filter_eq (test : α → Bool) (parts : α → List β) (sources : List α) :
    (sources.filter test).flatMap parts =
      sources.flatMap fun source => if test source then parts source else [] := by
  induction sources with
  | nil => rfl
  | cons source rest ih =>
    rw [List.flatMap_cons, ← ih, List.filter_cons]
    split
    · rw [List.flatMap_cons]
    · rfl

theorem flatMap_zipIdx_fst (parts : α → List β) (sources : List α) :
    (sources.zipIdx.flatMap fun (source, _) => parts source) = sources.flatMap parts := by
  have unnumbered : sources.zipIdx.map Prod.fst = sources := List.zipIdx_map_fst 0 sources
  rw [← unnumbered, List.flatMap_map, unnumbered]

theorem flatMap_zipIdx_eq (parts : α → List β) (sources : List α) (first position : Nat) :
    ((sources.zipIdx first).flatMap fun (source, number) =>
        if number = position then parts source else []) =
      if first ≤ position then sources[position - first]?.elim [] parts else [] := by
  induction sources generalizing first with
  | nil => simp
  | cons source rest ih =>
    rw [List.zipIdx_cons, List.flatMap_cons, ih]
    dsimp only
    rcases Nat.lt_trichotomy first position with before | rfl | behind
    · have next : position - first = position - (first + 1) + 1 := by omega
      rw [if_neg (Nat.ne_of_lt before), if_pos (Nat.succ_le_of_lt before),
        if_pos (Nat.le_of_lt before), next]
      rfl
    · rw [if_pos rfl, if_neg (Nat.not_succ_le_self first), if_pos (Nat.le_refl first), Nat.sub_self,
        List.append_nil]
      rfl
    · rw [if_neg (Nat.ne_of_gt behind), if_neg (by omega), if_neg (by omega)]
      rfl

end

def Theme.withoutPatterns (theme : Theme) : Theme := { theme with patterns := [] }

/-- What places a record of a theme: the rule that fires, or the pattern at a position. -/
inductive Source where
  | rule
  | pattern (position : Nat)
  deriving DecidableEq, Repr

namespace Source

def share (source : Source) (stream : List (Source × Record)) : List Record :=
  (stream.filter fun entry => entry.1 = source).map Prod.snd

theorem share_append (source : Source) (first second : List (Source × Record)) :
    source.share (first ++ second) = source.share first ++ source.share second := by
  rw [share, List.filter_append, List.map_append, ← share, ← share]

theorem share_flatMap {α : Type} (source : Source) (parts : α → List (Source × Record))
    (places : List α) :
    source.share (places.flatMap parts) = places.flatMap fun place => source.share (parts place) := by
  rw [share, List.filter_flatMap, List.map_flatMap]
  rfl

theorem map_snd_map_mk (source : Source) (records : List Record) :
    (records.map (Prod.mk source)).map Prod.snd = records := by
  rw [List.map_map]
  exact List.map_id records

theorem share_map_mk (source other : Source) (records : List Record) :
    source.share (records.map (Prod.mk other)) = if other = source then records else [] := by
  rw [share, List.filter_map, List.map_map]
  split
  · rename_i same
    simp [Function.comp_def, same]
  · rename_i apart
    simp [Function.comp_def, apart]

end Source

namespace Biome

def sourcedAt (biome : Biome) (theme : Theme) (index : Nat) (segment : Segment) :
    List (Source × Record) :=
  (biome.decorationAt theme.withoutPatterns index segment).map (Prod.mk .rule) ++
  theme.patterns.zipIdx.flatMap fun (pattern, position) =>
    (pattern.recordsAt segment.x).map (Prod.mk (.pattern position))

def sourced (biome : Biome) (theme : Theme) : List (Source × Record) :=
  biome.segments.zipIdx.flatMap fun (segment, index) => biome.sourcedAt theme index segment

variable (biome : Biome) (theme : Theme)

theorem decorationAt_eq_append (index : Nat) (segment : Segment) :
    biome.decorationAt theme index segment =
      biome.decorationAt theme.withoutPatterns index segment ++
        theme.patterns.flatMap (RepeatingPattern.recordsAt segment.x) := by
  have injected : (theme.patterns.filter fun pattern => pattern.firesAt segment.x).flatMap
      RepeatingPattern.records = theme.patterns.flatMap (RepeatingPattern.recordsAt segment.x) := by
    rw [flatMap_filter_eq]
    rfl
  have rules : biome.decorationAt theme.withoutPatterns index segment =
      (theme.winner? (biome.windowAt index) index).elim [] fun rule =>
        rule.commands.flatMap (Command.render (biome.options.frame segment)) :=
    List.append_nil _
  rw [decorationAt, injected, rules]

theorem map_snd_sourcedAt (index : Nat) (segment : Segment) :
    (biome.sourcedAt theme index segment).map Prod.snd = biome.decorationAt theme index segment := by
  rw [decorationAt_eq_append, sourcedAt, List.map_append, List.map_flatMap, Source.map_snd_map_mk]
  simp only [Source.map_snd_map_mk]
  rw [flatMap_zipIdx_fst]

theorem share_rule_sourcedAt (index : Nat) (segment : Segment) :
    Source.rule.share (biome.sourcedAt theme index segment) =
      biome.decorationAt theme.withoutPatterns index segment := by
  rw [sourcedAt, Source.share_append, Source.share_flatMap, Source.share_map_mk, if_pos rfl]
  simp [Source.share_map_mk]

theorem share_pattern_sourcedAt {position : Nat} {pattern : RepeatingPattern}
    (declared : theme.patterns[position]? = some pattern) (index : Nat) (segment : Segment) :
    (Source.pattern position).share (biome.sourcedAt theme index segment) =
      pattern.recordsAt segment.x := by
  rw [sourcedAt, Source.share_append, Source.share_flatMap, Source.share_map_mk]
  simp only [Source.share_map_mk, Source.pattern.injEq]
  rw [flatMap_zipIdx_eq]
  simp [declared]

variable (settings : Settings) (overrides : Overrides)

theorem decoration_eq_flatMap :
    (biome.compile settings theme overrides).decoration =
      biome.segments.zipIdx.flatMap fun (segment, index) => biome.decorationAt theme index segment := by
  rw [decoration_compile, List.mapIdx_eq_zipIdx_map, ← List.flatMap_def]

theorem map_snd_sourced :
    (biome.sourced theme).map Prod.snd = (biome.compile settings theme overrides).decoration := by
  rw [decoration_eq_flatMap, sourced, List.map_flatMap]
  simp only [map_snd_sourcedAt]

theorem share_rule_sourced :
    Source.rule.share (biome.sourced theme) =
      (biome.compile settings theme.withoutPatterns overrides).decoration := by
  rw [decoration_eq_flatMap, sourced, Source.share_flatMap]
  simp only [share_rule_sourcedAt]

theorem share_pattern_sourced {position : Nat} {pattern : RepeatingPattern}
    (declared : theme.patterns[position]? = some pattern) :
    (Source.pattern position).share (biome.sourced theme) =
      (biome.segments.filter fun segment => pattern.Reaches segment.x).flatMap
        fun _ => pattern.records := by
  calc
    (Source.pattern position).share (biome.sourced theme) =
        biome.segments.zipIdx.flatMap fun (segment, _) => pattern.recordsAt segment.x := by
      rw [sourced, Source.share_flatMap]
      simp only [share_pattern_sourcedAt biome theme declared]
    _ = biome.segments.flatMap fun segment => pattern.recordsAt segment.x :=
      flatMap_zipIdx_fst (fun segment : Segment => pattern.recordsAt segment.x) biome.segments
    _ = _ := by
      rw [flatMap_filter_eq]
      simp only [RepeatingPattern.recordsAt, RepeatingPattern.firesAt_iff_reaches, decide_eq_true_eq]

/-- A pattern fires at the points that lie a natural number of periods, taken as positive, behind its
start, and nowhere if it has no period. So the records of a theme, whatever is overridden, are those of
its rules, as they would be without patterns, mixed with those of each pattern: its block once for each
segment in turn that lies at such a point. -/
theorem patterns_recur (biome : Biome) (settings : Settings) (theme : Theme) (overrides : Overrides) :
    let stream := biome.sourced theme
    (∀ (pattern : RepeatingPattern) (x : Int), pattern.firesAt x = true ↔
      pattern.period ≠ 0 ∧ ∃ k : Nat, x = pattern.start + k * pattern.period.natAbs) ∧
    stream.map Prod.snd = (biome.compile settings theme overrides).decoration ∧
    Source.rule.share stream =
      (biome.compile settings theme.withoutPatterns overrides).decoration ∧
    ∀ position pattern, theme.patterns[position]? = some pattern →
      (Source.pattern position).share stream =
        (biome.segments.filter fun segment => pattern.Reaches segment.x).flatMap
          fun _ => pattern.records := by
  intro stream
  refine ⟨RepeatingPattern.firesAt_iff_reaches, map_snd_sourced biome theme settings overrides,
    share_rule_sourced biome theme settings overrides, ?_⟩
  intro position pattern declared
  exact share_pattern_sourced biome theme declared

def terrace : Biome where
  segments := [⟨435, 165, .up, {}⟩, ⟨465, 195, .up, {}⟩, ⟨495, 195, .up, { spike := true }⟩,
    ⟨495, 195, .up, {}⟩, ⟨525, 225, .up, {}⟩]

def post : Record := Record.ofId 1734

def banner : Record := Record.ofId 1705

def bannerTheme : Theme where
  rules := [⟨[.suffix [.spike]], [.override .spike, .records [⟨[(1, .literal "8")]⟩]], false⟩]
  patterns := [⟨7, [post], 465, 60⟩, ⟨8, [post, banner], 495, 30⟩]

theorem terrace_patterns_recur :
    bannerTheme.patterns[1]? = some ⟨8, [post, banner], 495, 30⟩ ∧
    (Source.pattern 1).share (terrace.sourced bannerTheme) =
      [post, banner, post, banner, post, banner] ∧
    (Source.pattern 0).share (terrace.sourced bannerTheme) = [post, post] ∧
    (terrace.sourced bannerTheme).map Prod.snd =
      (terrace.compile {} bannerTheme { base := true }).decoration ∧
    RepeatingPattern.firesAt ⟨9, [], 10, -4⟩ 18 = true := by
  obtain ⟨fires, whole, _, patterns⟩ := patterns_recur terrace {} bannerTheme { base := true }
  refine ⟨rfl, ?_, ?_, whole, ?_⟩
  · exact (patterns 1 _ rfl).trans (by decide)
  · exact (patterns 0 _ rfl).trans (by decide)
  · exact (fires ⟨9, [], 10, -4⟩ 18).mpr ⟨by decide, 2, by decide⟩

end Biome
end Corridor
