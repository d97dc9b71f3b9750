import Corridor.Proofs.Streams

namespace Corridor

namespace Theme

def leading (theme : Theme) : List Rule := theme.rules.filter fun rule => !rule.fallback

def fallbacks (theme : Theme) : List Rule := theme.rules.filter Rule.fallback

/-- The theme with one rule moved to another place among the rest, which keep their order. -/
def moveRule (theme : Theme) (source target : Nat) : Theme :=
  match theme.rules[source]? with
  | none => theme
  | some rule =>
    let others := theme.rules.eraseIdx source
    { theme with rules := others.take target ++ rule :: others.drop target }

theorem mem_leading_iff {theme : Theme} {rule : Rule} :
    rule ∈ theme.leading ↔ rule ∈ theme.rules ∧ rule.fallback = false := by
  rw [leading, List.mem_filter, Bool.not_eq_true']

theorem winner?_eq_or (theme : Theme) (window : Window) (index : Nat) :
    theme.winner? window index =
      (theme.leading.find? fun rule => rule.holds window index).or
        (theme.fallbacks.find? fun rule => rule.holds window index) := by
  rw [winner?, leading, fallbacks, List.find?_filter, List.find?_filter]
  simp only [Bool.decide_and, Bool.decide_eq_true]

theorem filter_insert_of_neg {test : Rule → Bool} {rule : Rule} (fails : test rule = false)
    (front back : List Rule) :
    (front ++ rule :: back).filter test = (front ++ back).filter test := by
  rw [List.filter_append, List.filter_cons_of_neg (by simp [fails]), List.filter_append]

theorem filter_insert_of_others {test : Rule → Bool} {front back : List Rule}
    (fail : (front ++ back).filter test = []) (rule : Rule) :
    (front ++ rule :: back).filter test = [rule].filter test := by
  rw [List.filter_append] at fail
  obtain ⟨before, behind⟩ := List.append_eq_nil_iff.mp fail
  rw [List.filter_append, before, List.nil_append, List.filter_cons, List.filter_cons, behind,
    List.filter_nil]

variable {theme : Theme} {source : Nat} {rule : Rule}

theorem rules_moveRule (found : theme.rules[source]? = some rule) (target : Nat) :
    (theme.moveRule source target).rules = (theme.rules.eraseIdx source).take target ++
      rule :: (theme.rules.eraseIdx source).drop target := by
  rw [moveRule, found]

theorem patterns_moveRule (theme : Theme) (source target : Nat) :
    (theme.moveRule source target).patterns = theme.patterns := by
  rw [moveRule]
  split <;> rfl

theorem leading_moveRule (found : theme.rules[source]? = some rule) (fallback : rule.fallback = true)
    (target : Nat) : (theme.moveRule source target).leading = theme.leading := by
  have fails : (!rule.fallback) = false := by rw [fallback]; rfl
  have placed : (theme.moveRule source target).leading =
      (theme.rules.eraseIdx source).filter fun rule => !rule.fallback := by
    rw [leading, rules_moveRule found, filter_insert_of_neg fails, List.take_append_drop]
  rw [placed, leading, List.eraseIdx_eq_take_drop_succ, ← filter_insert_of_neg fails,
    ← rules_eq_append found]

theorem filter_others_eq_nil (single : theme.fallbacks.length ≤ 1)
    (found : theme.rules[source]? = some rule) (fallback : rule.fallback = true) :
    (theme.rules.eraseIdx source).filter Rule.fallback = [] := by
  rw [fallbacks, rules_eq_append found, List.filter_append, List.filter_cons_of_pos fallback,
    List.length_append, List.length_cons] at single
  apply List.length_eq_zero_iff.mp
  rw [List.eraseIdx_eq_take_drop_succ, List.filter_append, List.length_append]
  omega

theorem fallbacks_moveRule (single : theme.fallbacks.length ≤ 1)
    (found : theme.rules[source]? = some rule) (fallback : rule.fallback = true) (target : Nat) :
    (theme.moveRule source target).fallbacks = theme.fallbacks := by
  have alone := filter_others_eq_nil single found fallback
  have placed : (theme.moveRule source target).fallbacks = [rule].filter Rule.fallback := by
    rw [fallbacks, rules_moveRule found, filter_insert_of_others]
    rw [List.take_append_drop, alone]
  rw [placed, fallbacks, rules_eq_append found, filter_insert_of_others]
  rw [← List.eraseIdx_eq_take_drop_succ, alone]

theorem winner?_moveRule (single : theme.fallbacks.length ≤ 1)
    (found : theme.rules[source]? = some rule) (fallback : rule.fallback = true) (target : Nat)
    (window : Window) (index : Nat) :
    (theme.moveRule source target).winner? window index = theme.winner? window index := by
  rw [winner?_eq_or, winner?_eq_or, leading_moveRule found fallback,
    fallbacks_moveRule single found fallback]

theorem select_eq_some_iff_of_fallback (single : theme.fallbacks.length ≤ 1) {position : Nat}
    (found : theme.rules[position]? = some rule) (fallback : rule.fallback = true)
    (window : Window) (index : Nat) :
    theme.select window index = some position ↔
      rule.holds window index = true ∧
        ∀ other ∈ theme.leading, other.holds window index = false := by
  have never : theme.rules.findIdx? (fun rule => !rule.fallback && rule.holds window index) ≠
      some position := by
    intro first
    obtain ⟨passes, _⟩ := (findIdx?_eq_some_iff_take found).mp first
    rw [fallback] at passes
    cases passes
  -- so it is the first fallback rule that passes as soon as it passes
  have earlier : ∀ earlier ∈ theme.rules.take position, earlier.fallback = false := by
    intro earlier member
    have other : earlier ∈ theme.rules.eraseIdx position := by
      rw [List.eraseIdx_eq_take_drop_succ]
      exact List.mem_append_left _ member
    exact Bool.eq_false_iff.mpr
      (List.filter_eq_nil_iff.mp (filter_others_eq_nil single found fallback) earlier other)
  rw [select, Option.or_eq_some_iff, or_iff_right never, findIdx?_eq_some_iff_take found,
    List.findIdx?_eq_none_iff]
  constructor
  · rintro ⟨others, passes, _⟩
    refine ⟨(Bool.and_eq_true_iff.mp passes).2, ?_⟩
    intro other member
    obtain ⟨present, leads⟩ := mem_leading_iff.mp member
    simpa [leads] using others other present
  · rintro ⟨holds, others⟩
    refine ⟨?_, by rw [fallback, holds]; rfl, ?_⟩
    · intro other present
      cases leads : other.fallback with
      | true => rfl
      | false => exact others other (mem_leading_iff.mpr ⟨present, leads⟩)
    · intro before member
      rw [earlier before member, Bool.false_and]

/-- A single fallback rule may stand anywhere: moved to another place, with the others in their order,
it leaves every compiled biome as it is. It fires where it holds and no other rule does, and any other
rule fires where it holds and none of the others before it does. -/
theorem fallback_place_immaterial (theme : Theme) (single : theme.fallbacks.length ≤ 1) :
    (∀ (source target : Nat) (rule : Rule), theme.rules[source]? = some rule →
      rule.fallback = true →
      let moved := theme.moveRule source target
      moved.leading = theme.leading ∧ moved.fallbacks = theme.fallbacks ∧
      ∀ (biome : Biome) (settings : Settings) (overrides : Overrides),
        biome.compile settings moved overrides = biome.compile settings theme overrides) ∧
    ∀ (window : Window) (index : Nat) (frame : Frame) (position : Nat) (rule : Rule),
      theme.rules[position]? = some rule →
      ((theme.evaluate window index frame).rule = some position ↔
        rule.holds window index = true ∧
        if rule.fallback = true then ∀ other ∈ theme.leading, other.holds window index = false
        else ∀ earlier ∈ theme.rules.take position,
          earlier.fallback = false → earlier.holds window index = false) := by
  constructor
  · intro source target rule found fallback moved
    refine ⟨leading_moveRule found fallback target,
      fallbacks_moveRule single found fallback target, ?_⟩
    intro biome settings overrides
    exact biome.compile_congr settings overrides (winner?_moveRule single found fallback target)
      (patterns_moveRule theme source target)
  · intro window index frame position rule found
    rw [evaluate_eq]
    dsimp only
    split
    · rename_i fallback
      exact select_eq_some_iff_of_fallback single found fallback window index
    · rename_i leads
      exact select_eq_some_iff_of_leading found (Bool.eq_false_iff.mpr leads) window index

def pillarTheme : Theme where
  rules :=
    [⟨[.suffix [.slope]], [.override .fuzz, .records [⟨[(1, .literal "8")]⟩]], true⟩,
      ⟨[.suffix [.slope, .slope]], [.override .slope], false⟩,
      ⟨[.suffix [.slope], .residue 2 1], [.override .spike], false⟩]

def pillarBiome : Biome where
  segments := [⟨465, 195, .up, {}⟩, ⟨495, 225, .up, { fuzzy := true }⟩, ⟨525, 255, .up, {}⟩,
    ⟨555, 285, .down, {}⟩, ⟨585, 255, .neutral, {}⟩]

theorem pillarTheme_fallback_place :
    pillarBiome.compile {} (pillarTheme.moveRule 0 2) {} = pillarBiome.compile {} pillarTheme {} ∧
    (pillarTheme.evaluate (Window.ofHistory [.base, .fuzz, .slope]) 2 ⟨525, 255, 195, 45, 60⟩).rule =
      some 0 ∧
    (pillarTheme.evaluate (Window.ofHistory [.base, .slope]) 1 ⟨495, 225, 195, 45, 60⟩).rule =
      some 2 := by
  obtain ⟨moving, firing⟩ := fallback_place_immaterial pillarTheme (by decide)
  obtain ⟨_, _, compiled⟩ := moving 0 2 _ rfl rfl
  refine ⟨compiled pillarBiome {} {}, ?_, ?_⟩
  · exact (firing _ _ _ 0 _ rfl).mpr ⟨by decide, by decide⟩
  · exact (firing _ _ _ 2 _ rfl).mpr ⟨by decide, by decide⟩

end Theme
end Corridor
