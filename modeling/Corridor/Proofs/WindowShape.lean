import Corridor.Proofs.Evaluation
import Corridor.Proofs.Winner
/-!
What windows can look like. Main statement: the window at a segment shows absent codes, the base,
features and at most one end, in this order, so that a rule with any other pattern never fires.
-/
namespace Corridor

namespace Orientation

def features : List Orientation := [slope, fuzz, spike, portal, speed]

/-- Whether a window can show one code somewhere before another. -/
structure Precedes (earlier later : Orientation) : Prop where
  absent : later = .absent → earlier = .absent
  base : later = .base → earlier = .absent
  endUp : earlier ≠ .endUp
  endDown : earlier ≠ .endDown

/-- A pattern with an absent code behind another, a base behind anything but absent codes, or an end
that is not its last code. -/
def Disordered (pattern : List Orientation) : Prop :=
  (∃ earlier, earlier ≠ .absent ∧ [earlier, .absent].Sublist pattern) ∨
  (∃ earlier, earlier ≠ .absent ∧ [earlier, .base].Sublist pattern) ∨
  ∃ later, [.endUp, later].Sublist pattern ∨ [.endDown, later].Sublist pattern

theorem not_disordered_of_pairwise {pattern : List Orientation} (ordered : pattern.Pairwise Precedes) :
    ¬Disordered pattern := by
  have inOrder : ∀ {earlier later}, [earlier, later].Sublist pattern → earlier.Precedes later :=
    List.pairwise_iff_forall_sublist.mp ordered
  rintro (⟨earlier, present, behind⟩ | ⟨earlier, present, behind⟩ | ⟨later, behind | behind⟩)
  · exact present ((inOrder behind).absent rfl)
  · exact present ((inOrder behind).base rfl)
  · exact (inOrder behind).endUp rfl
  · exact (inOrder behind).endDown rfl

end Orientation

theorem SegmentOptions.feature_mem (options : SegmentOptions) :
    options.feature ∈ Orientation.features := by
  unfold feature
  repeat' split
  all_goals decide

def Swing.ending? : Swing → Option Orientation
  | up => some .endUp
  | down => some .endDown
  | neutral => none

theorem Swing.eq_end_of_ending? {swing : Swing} {code : Orientation}
    (ending : swing.ending? = some code) : code = .endUp ∨ code = .endDown := by
  cases swing with
  | up => exact .inl (Option.some.inj ending).symm
  | down => exact .inr (Option.some.inj ending).symm
  | neutral => cases ending

namespace Segment

variable (segment : Segment) {index count : Nat}

/-- A segment is the first, or shows an end because it is the last, or goes by its features. -/
theorem orientation_cases (index count : Nat) :
    index = 0 ∧ segment.orientation index count = .base ∨
    (0 < index ∧ index + 1 = count) ∧
      segment.swing.ending? = some (segment.orientation index count) ∨
    0 < index ∧ (index + 1 = count → segment.swing.ending? = none) ∧
      segment.orientation index count ∈ Orientation.features := by
  rw [orientation]
  rcases Nat.eq_zero_or_pos index with first | later
  · exact .inl ⟨first, if_pos first⟩
  · right
    rw [if_neg (Nat.ne_of_gt later)]
    by_cases last : index + 1 = count
    · rw [if_pos last]
      cases segment.swing with
      | up => exact .inl ⟨⟨later, last⟩, rfl⟩
      | down => exact .inl ⟨⟨later, last⟩, rfl⟩
      | neutral => exact .inr ⟨later, fun _ => rfl, segment.options.feature_mem⟩
    · rw [if_neg last]
      exact .inr ⟨later, fun same => absurd same last, segment.options.feature_mem⟩

theorem orientation_eq_base_iff : segment.orientation index count = .base ↔ index = 0 := by
  constructor
  · intro base
    have shown := segment.orientation_cases index count
    rw [base] at shown
    rcases shown with ⟨first, _⟩ | ⟨_, ending⟩ | ⟨_, _, feature⟩
    · exact first
    · exact absurd (Swing.eq_end_of_ending? ending) (by decide)
    · exact absurd feature (by decide)
  · rintro rfl
    rfl

theorem orientation_eq_ending_iff {code : Orientation} (other : code ∉ .base :: Orientation.features) :
    segment.orientation index count = code ↔
      0 < index ∧ index + 1 = count ∧ segment.swing.ending? = some code := by
  constructor
  · rintro rfl
    rcases segment.orientation_cases index count with ⟨_, base⟩ | ⟨place, ending⟩ | ⟨_, _, feature⟩
    · exact absurd (base ▸ List.mem_cons_self) other
    · exact ⟨place.1, place.2, ending⟩
    · exact absurd (List.mem_cons_of_mem _ feature) other
  · rintro ⟨later, last, ending⟩
    rcases segment.orientation_cases index count with ⟨first, _⟩ | ⟨_, shown⟩ | ⟨_, neutral, _⟩
    · omega
    · exact Option.some.inj (shown.symm.trans ending)
    · rw [neutral last] at ending
      cases ending

theorem orientation_ne_absent : segment.orientation index count ≠ .absent := by
  intro absent
  obtain ⟨_, _, ending⟩ := (segment.orientation_eq_ending_iff (by decide)).mp absent
  exact absurd (Swing.eq_end_of_ending? ending) (by decide)

theorem precedes_of_lt (other : Segment) {later : Nat} (before : index < later)
    (valid : later < count) :
    (segment.orientation index count).Precedes (other.orientation later count) where
  absent := fun absent => absurd absent other.orientation_ne_absent
  base := by
    intro base
    have first := other.orientation_eq_base_iff.mp base
    omega
  endUp := by
    intro ending
    have last := (segment.orientation_eq_ending_iff (by decide)).mp ending
    omega
  endDown := by
    intro ending
    have last := (segment.orientation_eq_ending_iff (by decide)).mp ending
    omega

end Segment

namespace Biome

variable (biome : Biome) {index : Nat} {segment : Segment}

def closing (index : Nat) (segment : Segment) : List Orientation :=
  if 0 < index ∧ index + 1 = biome.segments.length then segment.swing.ending?.toList else []

theorem length_closing_le (index : Nat) (segment : Segment) : (biome.closing index segment).length ≤ 1 := by
  rw [closing]
  split
  · cases segment.swing.ending? <;> simp
  · simp

variable {biome}

theorem take_codes_succ (present : biome.segments[index]? = some segment) :
    biome.codes.take (index + 1) =
      biome.codes.take index ++ [segment.orientation index biome.segments.length] := by
  rw [List.take_add_one, getElem?_codes, present]
  rfl

theorem take_codes_inside (later : 0 < index) (valid : index < biome.segments.length) :
    ∃ features, (∀ code ∈ features, code ∈ Orientation.features) ∧
      biome.codes.take index = .base :: features := by
  induction index with
  | zero => omega
  | succ index ih =>
    obtain ⟨segment, present⟩ : ∃ segment, biome.segments[index]? = some segment :=
      ⟨_, List.getElem?_eq_getElem (Nat.lt_of_succ_lt valid)⟩
    rw [take_codes_succ present]
    rcases segment.orientation_cases index biome.segments.length with
      ⟨rfl, base⟩ | ⟨⟨_, last⟩, _⟩ | ⟨before, _, feature⟩
    · exact ⟨[], by simp, by rw [base]; rfl⟩
    · omega
    · obtain ⟨features, every, codes⟩ := ih before (Nat.lt_of_succ_lt valid)
      refine ⟨features ++ [_], ?_, by rw [codes, List.cons_append]⟩
      exact List.forall_mem_append.mpr ⟨every, List.forall_mem_singleton.mpr feature⟩

theorem take_codes (present : biome.segments[index]? = some segment) :
    ∃ features, (∀ code ∈ features, code ∈ Orientation.features) ∧
      biome.codes.take (index + 1) = .base :: (features ++ biome.closing index segment) := by
  obtain ⟨valid, _⟩ := List.getElem?_eq_some_iff.mp present
  rw [take_codes_succ present, closing]
  rcases segment.orientation_cases index biome.segments.length with
    ⟨rfl, base⟩ | ⟨place, ending⟩ | ⟨later, neutral, feature⟩
  · exact ⟨[], by simp, by rw [base]; rfl⟩
  · obtain ⟨features, every, codes⟩ := take_codes_inside place.1 valid
    refine ⟨features, every, ?_⟩
    rw [codes, if_pos place, ending, Option.toList_some, List.cons_append]
  · obtain ⟨features, every, codes⟩ := take_codes_inside later valid
    have open_end : (if 0 < index ∧ index + 1 = biome.segments.length
        then segment.swing.ending?.toList else []) = [] := by
      split
      · rename_i place
        rw [neutral place.2, Option.toList_none]
      · rfl
    refine ⟨features ++ [_], ?_, by rw [codes, open_end, List.append_nil, List.cons_append]⟩
    exact List.forall_mem_append.mpr ⟨every, List.forall_mem_singleton.mpr feature⟩

/-- The window at a segment: absent codes, then the base unless it has dropped out, then features,
then the end if there is one. -/
theorem codes_windowAt (present : biome.segments[index]? = some segment) :
    ∃ features, (∀ code ∈ features, code ∈ Orientation.features) ∧
      (biome.windowAt index).codes =
        List.replicate (10 - index) .absent ++ (if index ≤ 10 then [.base] else []) ++ features ++
          biome.closing index segment := by
  obtain ⟨features, every, codes⟩ := take_codes present
  have count : (biome.codes.take (index + 1)).length = index + 1 := by
    obtain ⟨valid, _⟩ := List.getElem?_eq_some_iff.mp present
    rw [List.length_take, length_codes]
    omega
  have window : (biome.windowAt index).codes = List.replicate (10 - index) .absent ++
      (Orientation.base :: (features ++ biome.closing index segment)).drop (index - 10) := by
    have eleven : windowLength = 11 := rfl
    rw [windowAt, Window.codes_ofHistory, count, Window.padded, codes, List.drop_append,
      List.drop_replicate, List.length_replicate, eleven]
    congr 2
    omega
  by_cases recent : index ≤ 10
  · refine ⟨features, every, ?_⟩
    rw [window, if_pos recent, Nat.sub_eq_zero_of_le recent, List.drop_zero, List.append_assoc,
      List.append_assoc]
    rfl
  · -- the base has dropped out, and after it the oldest features
    refine ⟨features.drop (index - 11), fun code member => every code (List.mem_of_mem_drop member), ?_⟩
    have enough : index - 11 ≤ features.length := by
      rw [codes, List.length_cons, List.length_append] at count
      have short := biome.length_closing_le index segment
      omega
    have dropped : index - 10 = index - 11 + 1 := by omega
    rw [window, if_neg recent, dropped, List.drop_succ_cons, List.drop_append_of_le_length enough,
      List.append_nil, List.append_assoc]

theorem getLast?_windowAt (present : biome.segments[index]? = some segment) :
    (biome.windowAt index).codes.getLast? =
      some (segment.orientation index biome.segments.length) := by
  rw [windowAt, take_codes_succ present, Window.ofHistory, List.foldl_append, List.foldl_cons,
    List.foldl_nil, Window.push, List.getLast?_concat]

theorem last_windowAt (present : biome.segments[index]? = some segment) :
    (biome.windowAt index).last = segment.orientation index biome.segments.length := by
  rw [Window.last, getLast?_windowAt present, Option.getD_some]

/-- A code of a window is absent where the window reaches back beyond the first segment, and that of
a segment elsewhere. -/
theorem windowAt_cases (valid : index < biome.segments.length) {position : Nat} {code : Orientation}
    (shown : (biome.windowAt index).codes[position]? = some code) :
    index + position < 10 ∧ code = .absent ∨
    (10 ≤ index + position ∧ position ≤ 10) ∧ ∃ segment : Segment,
      code = segment.orientation (index + position - 10) biome.segments.length := by
  have within : position < windowLength := by
    rw [← (biome.windowAt index).length_codes]
    exact (List.getElem?_eq_some_iff.mp shown).1
  have eleven : windowLength = 11 := rfl
  rw [getElem?_windowAt biome valid within] at shown
  by_cases padding : index + position < 10
  · rw [if_pos padding] at shown
    exact .inl ⟨padding, (Option.some.inj shown).symm⟩
  · rw [if_neg padding, getElem?_codes] at shown
    obtain ⟨segment, _, same⟩ := Option.map_eq_some_iff.mp shown
    exact .inr ⟨by omega, segment, same.symm⟩

theorem pairwise_codes_windowAt (valid : index < biome.segments.length) :
    (biome.windowAt index).codes.Pairwise Orientation.Precedes := by
  rw [List.pairwise_iff_getElem]
  -- by where the two codes come from; absent ones stand before all others
  intro earlier later earlierBound laterBound before
  rcases windowAt_cases valid (List.getElem?_eq_getElem earlierBound) with
    ⟨_, absent⟩ | ⟨reached, segment, code⟩
  · rw [absent]
    exact ⟨fun _ => rfl, fun _ => rfl, by decide, by decide⟩
  · rcases windowAt_cases valid (List.getElem?_eq_getElem laterBound) with
      ⟨padding, _⟩ | ⟨shown, other, otherCode⟩
    · omega
    · rw [code, otherCode]
      exact segment.precedes_of_lt other (by omega) (by omega)

def FiresAt (biome : Biome) (theme : Theme) (position index : Nat) : Prop :=
  ∃ evaluation, (biome.evaluations theme)[index]? = some evaluation ∧ evaluation.rule = some position

theorem suffix_of_firesAt {theme : Theme} {position : Nat} {rule : Rule} {pattern : List Orientation}
    (fires : biome.FiresAt theme position index) (listed : theme.rules[position]? = some rule)
    (required : .suffix pattern ∈ rule.conditions) :
    ∃ segment, biome.segments[index]? = some segment ∧ pattern <:+ (biome.windowAt index).codes := by
  obtain ⟨evaluation, evaluated, chosen⟩ := fires
  rw [getElem?_evaluations] at evaluated
  obtain ⟨segment, present, rfl⟩ := Option.map_eq_some_iff.mp evaluated
  rw [evaluationAt, Theme.evaluate_eq] at chosen
  obtain ⟨winner, found, holds⟩ := Theme.holds_of_select chosen
  cases found.symm.trans listed
  have ending : (biome.windowAt index).endsWith pattern = true :=
    List.all_eq_true.mp holds _ required
  exact ⟨segment, present, (Window.endsWith_iff _ _).mp ending⟩

theorem orientation_of_firesAt {theme : Theme} {position : Nat} {rule : Rule}
    {pattern : List Orientation} {code : Orientation} (fires : biome.FiresAt theme position index)
    (listed : theme.rules[position]? = some rule) (required : .suffix pattern ∈ rule.conditions)
    (last : pattern.getLast? = some code) :
    ∃ segment : Segment, segment.orientation index biome.segments.length = code := by
  obtain ⟨segment, present, front, joined⟩ := suffix_of_firesAt fires listed required
  have shown := getLast?_windowAt present
  rw [← joined, List.getLast?_append, last] at shown
  exact ⟨segment, (Option.some.inj shown).symm⟩

/-- The window that a theme sees at a segment shows absent codes, then the base, then features, and at
the last segment an end by its swing. So a rule fires nowhere if its pattern has any other order, only
at the first segment if the pattern ends with the base, and only at the last one if it ends with an
end. -/
theorem windows_shaped (biome : Biome) (theme : Theme) :
    (∀ index segment, biome.segments[index]? = some segment →
      (biome.evaluations theme)[index]? =
        some (theme.evaluate (biome.windowAt index) index (biome.options.frame segment)) ∧
      (∃ features, (∀ code ∈ features, code ∈ Orientation.features) ∧
        (biome.windowAt index).codes =
          List.replicate (10 - index) .absent ++ (if index ≤ 10 then [.base] else []) ++ features ++
            biome.closing index segment) ∧
      ((biome.windowAt index).last = .endUp ↔
        0 < index ∧ index + 1 = biome.segments.length ∧ segment.swing = .up) ∧
      ((biome.windowAt index).last = .endDown ↔
        0 < index ∧ index + 1 = biome.segments.length ∧ segment.swing = .down)) ∧
    (∀ position rule pattern, theme.rules[position]? = some rule → .suffix pattern ∈ rule.conditions →
      (Orientation.Disordered pattern → ∀ index, ¬biome.FiresAt theme position index) ∧
      (pattern.getLast? = some .base → ∀ index, biome.FiresAt theme position index → index = 0) ∧
      (pattern.getLast? = some .endUp ∨ pattern.getLast? = some .endDown →
        ∀ index, biome.FiresAt theme position index → index + 1 = biome.segments.length)) := by
  refine ⟨?_, ?_⟩
  · intro index segment present
    have swing_up : segment.swing.ending? = some .endUp ↔ segment.swing = .up := by
      cases segment.swing <;> decide
    have swing_down : segment.swing.ending? = some .endDown ↔ segment.swing = .down := by
      cases segment.swing <;> decide
    refine ⟨?_, codes_windowAt present, ?_, ?_⟩
    · rw [getElem?_evaluations, present]
      rfl
    · rw [last_windowAt present, segment.orientation_eq_ending_iff (by decide), swing_up]
    · rw [last_windowAt present, segment.orientation_eq_ending_iff (by decide), swing_down]
  · intro position rule pattern listed required
    refine ⟨?_, ?_, ?_⟩
    · intro disordered index fires
      obtain ⟨segment, present, ending⟩ := suffix_of_firesAt fires listed required
      obtain ⟨valid, _⟩ := List.getElem?_eq_some_iff.mp present
      have ordered := (pairwise_codes_windowAt valid).sublist ending.sublist
      exact Orientation.not_disordered_of_pairwise ordered disordered
    · intro last index fires
      obtain ⟨segment, base⟩ := orientation_of_firesAt fires listed required last
      exact segment.orientation_eq_base_iff.mp base
    · rintro (last | last) index fires
      · obtain ⟨segment, ending⟩ := orientation_of_firesAt fires listed required last
        exact ((segment.orientation_eq_ending_iff (by decide)).mp ending).2.1
      · obtain ⟨segment, ending⟩ := orientation_of_firesAt fires listed required last
        exact ((segment.orientation_eq_ending_iff (by decide)).mp ending).2.1

def staircase : Biome where
  segments := List.replicate 11 ⟨465, 195, .up, {}⟩ ++ [⟨795, 525, .down, {}⟩]

def staircaseTheme : Theme where
  rules := [⟨[.suffix [.slope, .base]], [], false⟩, ⟨[.suffix [.absent, .base]], [], false⟩,
    ⟨[.suffix [.slope, .endDown]], [], true⟩]

theorem staircase_windows_shaped :
    staircase.segments[11]? = some ⟨795, 525, .down, {}⟩ ∧
    (∃ features, (∀ code ∈ features, code ∈ Orientation.features) ∧
      (staircase.windowAt 11).codes = features ++ [.endDown]) ∧
    (staircase.windowAt 11).last = .endDown ∧
    (∀ index, ¬staircase.FiresAt staircaseTheme 0 index) ∧
    (staircase.FiresAt staircaseTheme 1 0 ∧
      ∀ index, staircase.FiresAt staircaseTheme 1 index → index = 0) ∧
    (staircase.FiresAt staircaseTheme 2 11 ∧
      ∀ index, staircase.FiresAt staircaseTheme 2 index → index + 1 = 12) := by
  obtain ⟨shaped, fires⟩ := windows_shaped staircase staircaseTheme
  obtain ⟨_, shape, _, down⟩ := shaped 11 _ rfl
  refine ⟨rfl, shape, down.mpr (by decide), ?_, ⟨⟨_, rfl, by decide⟩, ?_⟩, ⟨_, rfl, by decide⟩, ?_⟩
  · have disordered : Orientation.Disordered [.slope, .base] :=
      .inr (.inl ⟨.slope, by decide, List.Sublist.refl _⟩)
    exact (fires 0 _ _ rfl List.mem_cons_self).1 disordered
  · exact (fires 1 _ _ rfl List.mem_cons_self).2.1 rfl
  · exact (fires 2 _ _ rfl List.mem_cons_self).2.2 (.inr rfl)

end Biome
end Corridor
