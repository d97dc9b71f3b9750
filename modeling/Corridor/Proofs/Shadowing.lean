import Corridor.Proofs.Declared
import Corridor.Proofs.Streams

namespace Corridor

namespace Rule

/-- The codes with which a window has to end, by the first condition. -/
def pattern (rule : Rule) : List Orientation :=
  match rule.conditions with
  | .suffix codes :: _ => codes
  | _ => []

def guards (rule : Rule) : List Condition := rule.conditions.tail

def Patterned (rule : Rule) : Prop := rule.conditions = .suffix rule.pattern :: rule.guards

/-- A rule asks for no more than another: its pattern is the end of the other's, and its guards are
among the other's conditions. -/
structure Shadows (rule other : Rule) : Prop where
  pattern : rule.pattern <:+ other.pattern
  guards : ∀ condition ∈ rule.guards, condition ∈ other.conditions

theorem holds_iff {rule : Rule} {window : Window} {index : Nat} :
    rule.holds window index = true ↔
      ∀ condition ∈ rule.conditions, condition.holds window index = true := by
  rw [holds, List.all_eq_true]

theorem Shadows.holds {rule other : Rule} (shadows : rule.Shadows other)
    (patterned : rule.Patterned) (otherPatterned : other.Patterned) {window : Window} {index : Nat}
    (met : other.holds window index = true) : rule.holds window index = true := by
  have meets := holds_iff.mp met
  apply holds_iff.mpr
  rw [patterned]
  intro condition member
  rcases List.mem_cons.mp member with rfl | guard
  · have long : (Condition.suffix other.pattern).holds window index = true := by
      apply meets
      rw [otherPatterned]
      exact List.mem_cons_self
    rw [Condition.holds, Window.endsWith_iff] at long ⊢
    exact shadows.pattern.trans long
  · exact meets condition (shadows.guards condition guard)

theorem patterned_of_gives {entry : RuleEntry} {rule : Rule} (given : entry.Gives rule) :
    rule.Patterned := by
  obtain ⟨commands, _, rfl⟩ := given
  rfl

end Rule

namespace Theme

def removeRule (theme : Theme) (position : Nat) : Theme :=
  { theme with rules := theme.rules.eraseIdx position }

theorem patterned_of_parse {text : String} {theme : Theme} (loaded : parse text = .ok theme) :
    ∀ rule ∈ theme.rules, rule.Patterned := by
  rw [parse] at loaded
  split at loaded
  · cases loaded
  · intro rule member
    obtain ⟨entry, _, given⟩ :=
      Checked.exists_of_mem_forall₂ (keeps_of_ofFile loaded).rules member
    exact Rule.patterned_of_gives given

variable {theme : Theme} {position : Nat} {shadowed : Rule}

/-- A rule that passes a test only where one before it does is never the first to pass it. -/
theorem find?_removeRule {test : Rule → Bool} (found : theme.rules[position]? = some shadowed)
    (dead : test shadowed = true → ∃ earlier ∈ theme.rules.take position, test earlier = true) :
    (theme.removeRule position).rules.find? test = theme.rules.find? test := by
  have rest : (theme.removeRule position).rules =
      theme.rules.take position ++ theme.rules.drop (position + 1) :=
    List.eraseIdx_eq_take_drop_succ _ _
  conv_rhs => rw [rules_eq_append found]
  rw [rest, List.find?_append, List.find?_append, List.find?_cons]
  cases passes : test shadowed with
  | false => rfl
  | true =>
    obtain ⟨earlier, member, passed⟩ := dead passes
    have hit : ((theme.rules.take position).find? test).isSome :=
      List.find?_isSome.mpr ⟨earlier, member, passed⟩
    rw [Option.or_of_isSome hit, Option.or_of_isSome hit]

theorem winner?_removeRule (found : theme.rules[position]? = some shadowed)
    (leads : shadowed.fallback = false) {window : Window} {index : Nat}
    (dead : shadowed.holds window index = true → ∃ earlier ∈ theme.rules.take position,
      earlier.fallback = false ∧ earlier.holds window index = true) :
    (theme.removeRule position).winner? window index = theme.winner? window index := by
  rw [winner?, winner?, find?_removeRule found, find?_removeRule found]
  -- the removed rule is none of the fallback rules
  · simp [leads]
  · simpa [leads] using dead

/-- In a theme that is loaded from a text, take two rules that are no fallback rules, of which the
earlier asks for no more than the later. The later one fires nowhere, and without it every biome is
compiled alike. -/
theorem shadowed_rule_dead {text : String} {theme : Theme} (loaded : parse text = .ok theme)
    {place position : Nat} {rule shadowed : Rule} (before : place < position)
    (present : theme.rules[place]? = some rule) (found : theme.rules[position]? = some shadowed)
    (leads : rule.fallback = false) (shadowedLeads : shadowed.fallback = false)
    (shadows : rule.Shadows shadowed) :
    (∀ (window : Window) (index : Nat) (frame : Frame),
      (theme.evaluate window index frame).rule ≠ some position) ∧
    ∀ (biome : Biome) (settings : Settings) (overrides : Overrides),
      biome.compile settings (theme.removeRule position) overrides =
        biome.compile settings theme overrides := by
  have patterned := patterned_of_parse loaded
  have earlier : rule ∈ theme.rules.take position := by
    apply List.mem_of_getElem?
    rw [List.getElem?_take_of_lt before, present]
  have holds : ∀ window index, shadowed.holds window index = true → rule.holds window index = true :=
    fun window index => shadows.holds (patterned rule (List.mem_of_getElem? present))
      (patterned shadowed (List.mem_of_getElem? found))
  constructor
  · intro window index frame fires
    rw [evaluate_eq] at fires
    obtain ⟨met, clear⟩ :=
      (select_eq_some_iff_of_leading found shadowedLeads window index).mp fires
    have fails := clear rule earlier leads
    rw [holds window index met] at fails
    cases fails
  · intro biome settings overrides
    refine biome.compile_congr settings overrides ?_ rfl
    intro window index
    exact winner?_removeRule found shadowedLeads fun met =>
      ⟨rule, earlier, leads, holds window index met⟩

def shadeText : String :=
  "\x7b\"rules\":[\x7b\"pattern\":[4],\"not_offsets\":[1]\x7d," ++
  "\x7b\"pattern\":[4],\"else\":true\x7d," ++
  "\x7b\"pattern\":[7,4],\"not_patterns\":[[6,7,4]],\"not_offsets\":[1]," ++
  "\"commands\":[\"override:slope\"]\x7d]\x7d"

def shadeTheme : Theme where
  rules :=
    [⟨[.suffix [.slope], .notResidue 2 [1]], [], false⟩, ⟨[.suffix [.slope]], [], true⟩,
      ⟨[.suffix [.portal, .slope], .notSuffix [.spike, .portal, .slope], .notResidue 2 [1]],
        [.override .slope], false⟩]

def shadeBiome : Biome where
  segments := [⟨465, 195, .up, {}⟩, ⟨495, 225, .up, { portal := .gravity }⟩, ⟨525, 255, .up, {}⟩,
    ⟨555, 285, .neutral, {}⟩]

theorem shadeTheme_third_dead :
    parse shadeText = .ok shadeTheme ∧
    (shadeTheme.evaluate (Window.ofHistory [.base, .portal, .slope]) 2 ⟨525, 255, 195, 45, 60⟩).rule ≠
      some 2 ∧
    shadeBiome.compile {} (shadeTheme.removeRule 2) {} = shadeBiome.compile {} shadeTheme {} := by
  have loaded : parse shadeText = .ok shadeTheme := by decide +kernel
  have before : 0 < 2 := by decide
  obtain ⟨dead, same⟩ := shadowed_rule_dead loaded before rfl rfl rfl rfl ⟨by decide, by decide⟩
  exact ⟨loaded, dead _ 2 _, same shadeBiome {} {}⟩

end Theme
end Corridor
