import Corridor.Theme.Basic

namespace Corridor

theorem Rule.mem_overrides_iff {rule : Rule} {category : Category} :
    category ∈ rule.overrides ↔ Command.override category ∈ rule.commands := by
  rw [overrides, List.mem_filterMap]
  constructor
  · rintro ⟨command, member, named⟩
    cases command with
    | override taken =>
      cases named
      exact member
    | records templates => cases named
  · intro member
    exact ⟨_, member, rfl⟩

namespace Theme

/-- The rule that fires: the first that holds, fallback rules last. -/
def winner? (theme : Theme) (window : Window) (index : Nat) : Option Rule :=
  (theme.rules.find? fun rule => !rule.fallback && rule.holds window index).or
    (theme.rules.find? fun rule => rule.fallback && rule.holds window index)

variable (theme : Theme) (window : Window) (index : Nat) (frame : Frame)

theorem winner?_eq_bind_select :
    theme.winner? window index = (theme.select window index).bind fun selected =>
      theme.rules[selected]? := by
  rw [winner?, select, List.find?_eq_bind_findIdx?_getElem?, List.find?_eq_bind_findIdx?_getElem?]
  cases found : theme.rules.findIdx? fun rule => !rule.fallback && rule.holds window index with
  | none => rfl
  | some selected =>
    obtain ⟨bound, _⟩ := List.findIdx?_eq_some_iff_getElem.mp found
    simp [bound]

theorem holds_of_select {theme : Theme} {window : Window} {index position : Nat}
    (chosen : theme.select window index = some position) :
    ∃ rule, theme.rules[position]? = some rule ∧ rule.holds window index = true := by
  rcases Option.or_eq_some_iff.mp chosen with first | ⟨_, second⟩
  · obtain ⟨bound, holds, _⟩ := List.findIdx?_eq_some_iff_getElem.mp first
    exact ⟨_, List.getElem?_eq_getElem bound, (Bool.and_eq_true_iff.mp holds).2⟩
  · obtain ⟨bound, holds, _⟩ := List.findIdx?_eq_some_iff_getElem.mp second
    exact ⟨_, List.getElem?_eq_getElem bound, (Bool.and_eq_true_iff.mp holds).2⟩

theorem rules_eq_append {theme : Theme} {position : Nat} {rule : Rule}
    (found : theme.rules[position]? = some rule) :
    theme.rules = theme.rules.take position ++ rule :: theme.rules.drop (position + 1) := by
  obtain ⟨bound, rfl⟩ := List.getElem?_eq_some_iff.mp found
  rw [← List.drop_eq_getElem_cons bound, List.take_append_drop]

theorem findIdx?_eq_some_iff_take {test : Rule → Bool} {rules : List Rule} {position : Nat}
    {rule : Rule} (found : rules[position]? = some rule) :
    rules.findIdx? test = some position ↔
      test rule = true ∧ ∀ earlier ∈ rules.take position, test earlier = false := by
  obtain ⟨bound, rfl⟩ := List.getElem?_eq_some_iff.mp found
  rw [List.findIdx?_eq_some_iff_getElem]
  constructor
  · rintro ⟨_, passes, first⟩
    refine ⟨passes, ?_⟩
    intro earlier member
    obtain ⟨place, before, rfl⟩ := List.mem_take_iff_getElem.mp member
    exact Bool.eq_false_iff.mpr (first place (Nat.lt_of_lt_of_le before (Nat.min_le_left _ _)))
  · rintro ⟨passes, first⟩
    refine ⟨bound, passes, ?_⟩
    intro place before
    have within : place < min position rules.length :=
      Nat.lt_min.mpr ⟨before, Nat.lt_trans before bound⟩
    exact Bool.eq_false_iff.mp (first _ (List.mem_take_iff_getElem.mpr ⟨place, within, rfl⟩))

theorem select_eq_some_iff_of_leading {theme : Theme} {position : Nat} {rule : Rule}
    (found : theme.rules[position]? = some rule) (leads : rule.fallback = false) (window : Window)
    (index : Nat) :
    theme.select window index = some position ↔
      rule.holds window index = true ∧ ∀ earlier ∈ theme.rules.take position,
        earlier.fallback = false → earlier.holds window index = false := by
  have never : theme.rules.findIdx? (fun rule => rule.fallback && rule.holds window index) ≠
      some position := by
    intro second
    obtain ⟨passes, _⟩ := (findIdx?_eq_some_iff_take found).mp second
    rw [leads] at passes
    cases passes
  rw [select, Option.or_eq_some_iff, or_iff_left fun second => never second.2,
    findIdx?_eq_some_iff_take found]
  simp [leads]

theorem mem_rules_of_winner? {theme : Theme} {window : Window} {index : Nat} {rule : Rule}
    (wins : theme.winner? window index = some rule) : rule ∈ theme.rules := by
  rcases Option.or_eq_some_iff.mp wins with first | ⟨_, second⟩
  · exact List.mem_of_find?_eq_some first
  · exact List.mem_of_find?_eq_some second

theorem evaluate_eq :
    theme.evaluate window index frame =
      { rule := theme.select window index
        overrides := (theme.winner? window index).elim [] Rule.overrides
        rendered := (theme.winner? window index).elim [] (Rule.render frame)
        injected := theme.patterns.filter fun pattern => pattern.firesAt frame.x } := by
  rw [winner?_eq_bind_select, evaluate]
  cases theme.select window index with
  | none => rfl
  | some selected =>
    rw [Option.bind_some]
    dsimp only
    cases theme.rules[selected]? <;> rfl

theorem overrides_evaluate :
    (theme.evaluate window index frame).overrides =
      (theme.winner? window index).elim [] Rule.overrides := by
  rw [evaluate_eq]

theorem records_evaluate :
    (theme.evaluate window index frame).records =
      (theme.winner? window index).elim [] (Rule.render frame) ++
        (theme.patterns.filter fun pattern => pattern.firesAt frame.x).flatMap
          RepeatingPattern.records := by
  rw [Evaluation.records, evaluate_eq]

end Theme
end Corridor
