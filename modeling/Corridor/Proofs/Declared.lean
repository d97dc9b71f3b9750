import Corridor.Proofs.RuleEntry

namespace Corridor

def ColorEntry.Gives (entry : ColorEntry) (channel : ColorChannel) : Prop :=
  ∃ rgb, Rgb.parse entry.hex = .ok rgb ∧
    channel = ⟨entry.slot, rgb, entry.blending, entry.opacity, entry.copyColor, entry.special⟩

def RuleEntry.Gives (entry : RuleEntry) (rule : Rule) : Prop :=
  ∃ commands, entry.commands.mapM Command.parse = .ok commands ∧
    rule = ⟨entry.conditions, commands, entry.fallback⟩

def PatternEntry.Gives (entry : PatternEntry) (pattern : RepeatingPattern) : Prop :=
  ∃ records, parseRecords entry.data = .ok records ∧
    pattern = ⟨entry.id, records, entry.start, entry.period⟩

structure Theme.Keeps (theme : Theme) (file : ThemeFile) : Prop where
  metadata : theme.metadata = file.metadata
  colors : List.Forall₂ ColorEntry.Gives file.colors theme.colors
  rules : List.Forall₂ RuleEntry.Gives file.rules theme.rules
  patterns : List.Forall₂ PatternEntry.Gives file.patterns theme.patterns

def Condition.Bounded : Condition → Prop
  | suffix codes => 0 < codes.length ∧ codes.length ≤ windowLength
  | notSuffix codes => codes ≠ []
  | residue period rest => 0 < period ∧ rest < period
  | notResidue period residues => 0 < period ∧ ∀ rest ∈ residues, rest < period

structure Theme.Bounded (theme : Theme) : Prop where
  conditions : ∀ rule ∈ theme.rules, ∀ condition ∈ rule.conditions, condition.Bounded
  patterns : ∀ pattern ∈ theme.patterns, 0 < pattern.period ∧ 0 ≤ pattern.start

theorem ColorEntry.compile_eq_ok_iff (entry : ColorEntry) (channel : ColorChannel) :
    entry.compile = .ok channel ↔ entry.Gives channel := by
  rw [compile, Gives]
  cases Rgb.parse entry.hex with
  | error error => simp
  | ok rgb => simp [eq_comm]

theorem PatternEntry.compile_eq_ok_iff (entry : PatternEntry) (pattern : RepeatingPattern) :
    entry.compile = .ok pattern ↔ 0 < entry.period ∧ 0 ≤ entry.start ∧ entry.Gives pattern := by
  rw [compile, Gives]
  by_cases period : entry.period ≤ 0
  · simp [period]
  · by_cases start : entry.start < 0
    · simp [period, start]
    · rw [if_neg period, if_neg start]
      cases parseRecords entry.data with
      | error error => simp
      | ok records => simp [Int.not_le.mp period, Int.not_lt.mp start, eq_comm]

theorem RuleEntry.bounded_of_mem_conditions {entry : RuleEntry} (wellFormed : entry.WellFormed) :
    ∀ condition ∈ entry.conditions, condition.Bounded := by
  have positive := wellFormed.period_pos
  intro condition member
  rw [conditions, List.append_assoc, List.cons_append, List.mem_cons, List.mem_append,
    List.mem_append] at member
  rcases member with rfl | excluded | residue | notResidue
  · exact ⟨List.length_pos_of_ne_nil wellFormed.pattern_ne_nil, wellFormed.pattern_le⟩
  · obtain ⟨pattern, declared, rfl⟩ := List.mem_map.mp excluded
    intro empty
    exact wellFormed.notPatterns_ne_nil (empty ▸ declared)
  · obtain ⟨offset, declared, rfl⟩ := List.mem_map.mp residue
    have inside := wellFormed.offset_lt offset (Option.mem_toList.mp declared)
    exact ⟨by omega, by omega⟩
  · rw [notResidues] at notResidue
    split at notResidue
    · cases notResidue
    · cases List.mem_singleton.mp notResidue
      refine ⟨by omega, ?_⟩
      intro rest listed
      obtain ⟨offset, _, rfl⟩ := List.mem_map.mp listed
      have below := Int.emod_lt_of_pos offset positive
      omega

namespace Theme

variable {file : ThemeFile} {theme : Theme}

theorem ofFile_eq_ok_iff :
    ofFile file = .ok theme ↔
      theme.metadata = file.metadata ∧ file.colors.mapM ColorEntry.compile = .ok theme.colors ∧
      RuleEntry.compileFrom 0 none file.rules = .ok theme.rules ∧
      file.patterns.mapM PatternEntry.compile = .ok theme.patterns := by
  rw [ofFile]
  simp only [Checked.bind_eq_ok_iff]
  constructor
  · rintro ⟨colors, colored, rules, compiled, patterns, repeated, made⟩
    cases made
    exact ⟨rfl, colored, compiled, repeated⟩
  · rintro ⟨metadata, colored, compiled, repeated⟩
    exact ⟨_, colored, _, compiled, _, repeated, by rw [← metadata]; rfl⟩

theorem keeps_of_ofFile (loaded : ofFile file = .ok theme) : theme.Keeps file := by
  obtain ⟨metadata, colored, compiled, repeated⟩ := ofFile_eq_ok_iff.mp loaded
  refine ⟨metadata, ?_, ?_, ?_⟩
  · exact (Checked.mapM_eq_ok_iff.mp colored).imp fun entry channel =>
      (entry.compile_eq_ok_iff channel).mp
  · exact (RuleEntry.forall₂_of_compileFrom compiled).imp fun entry rule ⟨position, accepted⟩ =>
      ((entry.compile_eq_ok_iff position rule).mp accepted).2
  · exact (Checked.mapM_eq_ok_iff.mp repeated).imp fun entry pattern accepted =>
      ((entry.compile_eq_ok_iff pattern).mp accepted).2.2

theorem bounded_of_ofFile (loaded : ofFile file = .ok theme) : theme.Bounded := by
  obtain ⟨_, _, compiled, repeated⟩ := ofFile_eq_ok_iff.mp loaded
  constructor
  · intro rule member
    obtain ⟨entry, _, position, accepted⟩ :=
      Checked.exists_of_mem_forall₂ (RuleEntry.forall₂_of_compileFrom compiled) member
    obtain ⟨wellFormed, _, _, rfl⟩ := (entry.compile_eq_ok_iff position rule).mp accepted
    exact RuleEntry.bounded_of_mem_conditions wellFormed
  · intro pattern member
    obtain ⟨entry, _, accepted⟩ := Checked.exists_of_mem_mapM repeated member
    obtain ⟨period, start, _, _, rfl⟩ := (entry.compile_eq_ok_iff pattern).mp accepted
    exact ⟨period, start⟩

end Theme
end Corridor
