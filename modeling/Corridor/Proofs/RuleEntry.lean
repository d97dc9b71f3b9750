import Mathlib.Data.Int.ModEq
import Corridor.Theme.Loading
import Corridor.Proofs.Checked
import Corridor.Proofs.History
/-!
Rules as they are declared and as they are compiled. Main statement: a compiled rule holds exactly
where its entry declares that it does, in terms of the full history and of integers as offsets.
-/
namespace Corridor.RuleEntry

/-- What an entry has to satisfy apart from its commands. -/
structure WellFormed (entry : RuleEntry) : Prop where
  pattern_ne_nil : entry.pattern ≠ []
  pattern_le : entry.pattern.length ≤ windowLength
  period_pos : 0 < entry.period
  notPatterns_ne_nil : [] ∉ entry.notPatterns
  offset_lt : ∀ offset ∈ entry.offset, 0 ≤ offset ∧ offset < entry.period

def conditions (entry : RuleEntry) : List Condition :=
  .suffix entry.pattern :: entry.notPatterns.map Condition.notSuffix ++
    entry.offset.toList.map (fun offset => .residue entry.period.toNat offset.toNat) ++
    entry.notResidues

theorem notSuffixes_eq_ok_iff (position : Nat) (entry : RuleEntry) (found : List Condition) :
    entry.notSuffixes position = .ok found ↔
      [] ∉ entry.notPatterns ∧ entry.notPatterns.map Condition.notSuffix = found := by
  rw [notSuffixes]
  split
  · simp_all
  · simp_all

theorem residues_eq_ok_iff (position : Nat) (entry : RuleEntry) (found : List Condition) :
    entry.residues position = .ok found ↔
      (∀ offset ∈ entry.offset, 0 ≤ offset ∧ offset < entry.period) ∧
      entry.offset.toList.map (fun offset => .residue entry.period.toNat offset.toNat) = found := by
  rw [residues]
  cases entry.offset with
  | none => simp
  | some offset =>
    by_cases inside : 0 ≤ offset ∧ offset < entry.period
    · simp [inside]
    · simp [inside]

theorem compile_eq_ok_iff (position : Nat) (entry : RuleEntry) (rule : Rule) :
    entry.compile position = .ok rule ↔
      entry.WellFormed ∧ ∃ commands, entry.commands.mapM Command.parse = .ok commands ∧
        rule = ⟨entry.conditions, commands, entry.fallback⟩ := by
  rw [compile]
  simp only [Checked.guard_eq_ok_iff, Checked.bind_eq_ok_iff, notSuffixes_eq_ok_iff,
    residues_eq_ok_iff, not_lt, not_le]
  constructor
  · rintro ⟨pattern, short, period, _, ⟨notPatterns, rfl⟩, _, ⟨offset, rfl⟩, commands, parsed, built⟩
    cases built
    exact ⟨⟨pattern, short, period, notPatterns, offset⟩, commands, parsed, rfl⟩
  · rintro ⟨⟨pattern, short, period, notPatterns, offset⟩, commands, parsed, rfl⟩
    exact ⟨pattern, short, period, _, ⟨notPatterns, rfl⟩, _, ⟨offset, rfl⟩, commands, parsed, rfl⟩

theorem forall₂_of_compileFrom {index : Nat} {fallback : Option Nat} {entries : List RuleEntry}
    {rules : List Rule} (accepted : compileFrom index fallback entries = .ok rules) :
    List.Forall₂ (fun entry rule => ∃ position, entry.compile position = .ok rule) entries rules := by
  induction entries generalizing index fallback rules with
  | nil =>
    cases accepted
    exact .nil
  | cons entry rest ih =>
    -- a second fallback rule is refused, and any other entry is compiled before the rest
    unfold compileFrom at accepted
    split at accepted
    · cases accepted
    · obtain ⟨first, head, accepted⟩ := Checked.bind_eq_ok_iff.mp accepted
      obtain ⟨others, tail, joined⟩ := Checked.bind_eq_ok_iff.mp accepted
      cases joined
      exact .cons ⟨index, head⟩ (ih tail)
    · obtain ⟨first, head, accepted⟩ := Checked.bind_eq_ok_iff.mp accepted
      obtain ⟨others, tail, joined⟩ := Checked.bind_eq_ok_iff.mp accepted
      cases joined
      exact .cons ⟨index, head⟩ (ih tail)

/-- What an entry declares about the segment at `index`, given all codes up to it. A not-pattern
that does not fit into a window declares nothing. -/
structure Declares (entry : RuleEntry) (codes : List Orientation) (index : Nat) : Prop where
  pattern : entry.pattern <:+ Window.padded codes
  notPatterns : ∀ pattern ∈ entry.notPatterns, pattern.length ≤ windowLength →
    ¬pattern <:+ Window.padded codes
  offset : ∀ offset ∈ entry.offset, (index : Int) ≡ offset [ZMOD entry.period]
  notOffsets : ∀ offset ∈ entry.notOffsets, ¬(index : Int) ≡ offset [ZMOD entry.period]

/-- An offset of either sign is stored as its least natural residue. -/
theorem mod_eq_residue_iff (index : Nat) (offset period : Int) (positive : 0 < period) :
    index % period.toNat = (offset % period).toNat ↔ (index : Int) ≡ offset [ZMOD period] := by
  have whole : (period.toNat : Int) = period := Int.toNat_of_nonneg positive.le
  have rest : ((offset % period).toNat : Int) = offset % period :=
    Int.toNat_of_nonneg (Int.emod_nonneg offset positive.ne')
  rw [Int.ModEq, ← Int.natCast_inj, Int.natCast_emod, whole, rest]

theorem period_ne_zero {entry : RuleEntry} (wellFormed : entry.WellFormed) :
    entry.period.toNat ≠ 0 := by
  have positive := wellFormed.period_pos
  omega

theorem holds_notSuffixes_iff (entry : RuleEntry) (codes : List Orientation) (index : Nat) :
    (entry.notPatterns.map Condition.notSuffix).all
        (Condition.holds (Window.ofHistory codes) index) = true ↔
      ∀ pattern ∈ entry.notPatterns, pattern.length ≤ windowLength →
        ¬pattern <:+ Window.padded codes := by
  rw [List.all_map, List.all_eq_true]
  refine forall₂_congr fun pattern _ => ?_
  rw [Function.comp_apply, Condition.holds, Bool.not_eq_true', ← Bool.not_eq_true,
    Window.endsWith_ofHistory_iff, not_and]

theorem holds_residues_iff {entry : RuleEntry} (wellFormed : entry.WellFormed) (window : Window)
    (index : Nat) :
    (entry.offset.toList.map fun offset =>
        Condition.residue entry.period.toNat offset.toNat).all (Condition.holds window index) = true ↔
      ∀ offset ∈ entry.offset, (index : Int) ≡ offset [ZMOD entry.period] := by
  rw [List.all_map, List.all_eq_true]
  simp only [Option.mem_toList]
  refine forall₂_congr fun offset declared => ?_
  -- an offset that was accepted is its own residue
  have least : offset % entry.period = offset :=
    Int.emod_eq_of_lt (wellFormed.offset_lt offset declared).1 (wellFormed.offset_lt offset declared).2
  rw [← mod_eq_residue_iff index offset entry.period wellFormed.period_pos, least]
  simp [Condition.holds, period_ne_zero wellFormed]

theorem holds_notResidues_iff {entry : RuleEntry} (wellFormed : entry.WellFormed) (window : Window)
    (index : Nat) :
    entry.notResidues.all (Condition.holds window index) = true ↔
      ∀ offset ∈ entry.notOffsets, ¬(index : Int) ≡ offset [ZMOD entry.period] := by
  simp only [← mod_eq_residue_iff index _ entry.period wellFormed.period_pos]
  by_cases absent : entry.notOffsets = []
  · simp [notResidues, absent]
  · simp only [notResidues, absent, if_false, List.all_cons, List.all_nil, Bool.and_true,
      Condition.holds, period_ne_zero wellFormed, decide_false, Bool.false_or, Bool.not_eq_true',
      List.contains_eq_mem, decide_eq_false_iff_not, List.mem_map, not_exists, not_and]
    exact forall₂_congr fun offset _ => not_congr eq_comm

/-- A compiled rule holds at a segment iff its entry declares so. -/
theorem holds_iff_declares (position : Nat) (entry : RuleEntry) (rule : Rule)
    (accepted : entry.compile position = .ok rule) (codes : List Orientation) (index : Nat) :
    rule.holds (Window.ofHistory codes) index = true ↔ entry.Declares codes index := by
  obtain ⟨wellFormed, commands, _, rfl⟩ := (compile_eq_ok_iff position entry rule).mp accepted
  have pattern : (Condition.suffix entry.pattern).holds (Window.ofHistory codes) index = true ↔
      entry.pattern <:+ Window.padded codes := by
    rw [Condition.holds, Window.endsWith_ofHistory_iff]
    exact and_iff_right wellFormed.pattern_le
  rw [Rule.holds, conditions, List.all_append, List.all_append, List.all_cons, Bool.and_eq_true,
    Bool.and_eq_true, Bool.and_eq_true, pattern, holds_notSuffixes_iff,
    holds_residues_iff wellFormed, holds_notResidues_iff wellFormed]
  constructor
  · rintro ⟨⟨⟨pattern, notPatterns⟩, offset⟩, notOffsets⟩
    exact ⟨pattern, notPatterns, offset, notOffsets⟩
  · rintro ⟨pattern, notPatterns, offset, notOffsets⟩
    exact ⟨⟨⟨pattern, notPatterns⟩, offset⟩, notOffsets⟩

def guardedEntry : RuleEntry where
  pattern := [.absent, .base, .portal]
  notPatterns := [[.slope, .portal], List.replicate 12 .absent]
  notOffsets := [-2]
  period := 3
  commands := ["override:portal"]

theorem guardedEntry_holds_iff_declares :
    guardedEntry.compile 4 = .ok ⟨guardedEntry.conditions, [.override .portal], false⟩ ∧
    (Rule.holds ⟨guardedEntry.conditions, [.override .portal], false⟩
        (Window.ofHistory [.base, .portal]) 5 = true ↔
      guardedEntry.Declares [.base, .portal] 5) := by
  have accepted :
      guardedEntry.compile 4 = .ok ⟨guardedEntry.conditions, [.override .portal], false⟩ := by
    decide
  exact ⟨accepted, holds_iff_declares 4 guardedEntry _ accepted [.base, .portal] 5⟩

end Corridor.RuleEntry
