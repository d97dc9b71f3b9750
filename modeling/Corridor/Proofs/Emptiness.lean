import Corridor.Proofs.LevelString

namespace Corridor

theorem Record.chars_ne_nil (record : Record) : record.chars ≠ [] := by
  simp [chars]

theorem recordChars_eq_nil_iff (records : List Record) : recordChars records = [] ↔ records = [] := by
  rw [recordChars, List.flatMap_eq_nil_iff]
  constructor
  · intro silent
    exact List.eq_nil_iff_forall_not_mem.mpr fun record member =>
      record.chars_ne_nil (silent record member)
  · rintro rfl _ member
    cases member

theorem getLast?_recordChars (records : List Record) :
    recordChars records = [] ∨ (recordChars records).getLast? = some ';' := by
  rcases List.eq_nil_or_concat records with rfl | ⟨front, last, rfl⟩
  · exact .inl rfl
  · right
    rw [List.concat_eq_append, recordChars, List.flatMap_append, List.flatMap_singleton, Record.chars,
      ← List.append_assoc, List.getLast?_concat]

namespace Output

theorem isEmpty_iff (output : Output) : output.isEmpty = true ↔ output.chars = [] := by
  rw [chars, List.append_eq_nil_iff, body_eq_recordChars, recordChars_eq_nil_iff,
    List.append_eq_nil_iff]
  simp [isEmpty, and_assoc]

end Output

namespace Level

variable (level : Level) (theme : Theme) (settings : Settings) (header : Header)
  (overrides : Overrides)

theorem isEmpty_generate :
    (level.generate theme settings header overrides).isEmpty =
      (level.biomes.head?.all fun biome => biome.segments.isEmpty) := by
  rw [generate]
  cases level.biomes with
  | nil => rfl
  | cons biome rest =>
    by_cases empty : biome.segments = []
    · simp [empty, Output.isEmpty, Output.empty]
    · have headed : (header.merge theme.colors).chars.isEmpty = false := by
        simp [Header.chars_eq_front]
      simp [empty, Output.isEmpty, headed]

end Level
end Corridor
