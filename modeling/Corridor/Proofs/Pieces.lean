namespace Corridor.Pieces

variable {α : Type}

theorem mem_intercalate_iff {mark element : α} {pieces : List (List α)} :
    element ∈ [mark].intercalate pieces ↔
      (element = mark ∧ 2 ≤ pieces.length) ∨ ∃ piece ∈ pieces, element ∈ piece := by
  induction pieces with
  | nil => simp
  | cons first rest ih =>
    cases rest with
    | nil => simp
    | cons second rest =>
      rw [List.intercalate_cons_cons, List.mem_append, List.mem_append, List.mem_singleton, ih]
      simp only [List.length_cons, List.mem_cons, exists_eq_or_imp]
      constructor
      · rintro ((inFirst | same) | ⟨same, _⟩ | later)
        · exact .inr (.inl inFirst)
        · exact .inl ⟨same, by omega⟩
        · exact .inl ⟨same, by omega⟩
        · exact .inr (.inr later)
      · rintro (⟨same, _⟩ | inFirst | later)
        · exact .inl (.inr same)
        · exact .inl (.inl inFirst)
        · exact .inr (.inr later)

theorem intercalate_concat (mark : α) (front : List (List α)) (last : List α) (nonempty : front ≠ []) :
    [mark].intercalate (front ++ [last]) = [mark].intercalate front ++ mark :: last := by
  induction front with
  | nil => exact absurd rfl nonempty
  | cons first rest ih =>
    cases rest with
    | nil => simp
    | cons second rest => simpa using ih (by simp)

variable [BEq α] [LawfulBEq α]

theorem not_mem_of_mem_splitOn {mark : α} {text piece : List α} (member : piece ∈ text.splitOn mark) :
    mark ∉ piece := by
  induction text generalizing piece with
  | nil => simp_all
  | cons first rest ih =>
    rw [List.splitOn_cons_eq_if_modifyHead] at member
    split at member
    · rcases List.mem_cons.mp member with rfl | later
      · simp
      · exact ih later
    · rename_i other
      -- the first element joins the first of the pieces of the rest
      obtain ⟨head, tail, pieces⟩ := List.exists_cons_of_ne_nil (List.splitOn_ne_nil mark rest)
      rw [pieces, List.modifyHead_cons] at member
      rcases List.mem_cons.mp member with rfl | later
      · have absent : mark ∉ head := ih (pieces ▸ List.mem_cons_self)
        intro inside
        rcases List.mem_cons.mp inside with same | inside
        · exact other (by simp [same])
        · exact absent inside
      · exact ih (pieces ▸ List.mem_cons_of_mem head later)

theorem mem_of_mem_splitOn {mark element : α} {text piece : List α}
    (member : piece ∈ text.splitOn mark) (inside : element ∈ piece) : element ∈ text := by
  have whole : [mark].intercalate (text.splitOn mark) = text := List.intercalate_splitOn mark
  rw [← whole, mem_intercalate_iff]
  exact .inr ⟨piece, member, inside⟩

theorem splitOn_append_of_not_mem {mark : α} {tail : List α} (absent : mark ∉ tail) (text : List α) :
    ∃ front last, text.splitOn mark = front ++ [last] ∧
      (text ++ tail).splitOn mark = front ++ [last ++ tail] := by
  obtain ⟨front, last, pieces⟩ : ∃ front last, text.splitOn mark = front ++ [last] :=
    ⟨_, _, (List.dropLast_concat_getLast (List.splitOn_ne_nil mark text)).symm⟩
  refine ⟨front, last, pieces, ?_⟩
  have whole : [mark].intercalate (front ++ [last]) = text := by
    rw [← pieces, List.intercalate_splitOn]
  have longer : [mark].intercalate (front ++ [last ++ tail]) = text ++ tail := by
    rw [← whole]
    by_cases single : front = []
    · simp [single]
    · rw [intercalate_concat mark front _ single, intercalate_concat mark front _ single]
      simp
  have apart : ∀ piece ∈ front ++ [last ++ tail], mark ∉ piece := by
    intro piece member
    rcases List.mem_append.mp member with before | ending
    · exact not_mem_of_mem_splitOn (pieces ▸ List.mem_append_left [last] before)
    · have cut : last ∈ text.splitOn mark := by simp [pieces]
      rw [List.mem_singleton.mp ending]
      simp [not_mem_of_mem_splitOn cut, absent]
  rw [← longer, List.splitOn_intercalate mark apart (by simp)]

theorem splitOn_of_not_mem_append {mark : α} {lead : List α} (absent : mark ∉ lead) (text : List α) :
    ∃ first rest, text.splitOn mark = first :: rest ∧
      (lead ++ text).splitOn mark = (lead ++ first) :: rest := by
  obtain ⟨first, rest, pieces⟩ := List.exists_cons_of_ne_nil (List.splitOn_ne_nil mark text)
  refine ⟨first, rest, pieces, ?_⟩
  induction lead with
  | nil => exact pieces
  | cons element lead ih =>
    have other : ¬(element == mark) = true := by
      intro same
      exact absent (by simp [eq_of_beq same])
    rw [List.cons_append, List.splitOn_cons_eq_if_modifyHead, if_neg other,
      ih fun inside => absent (List.mem_cons_of_mem element inside)]
    rfl

theorem count_intercalate {mark element : α} (other : element ≠ mark) (pieces : List (List α)) :
    ([mark].intercalate pieces).count element = pieces.flatten.count element := by
  induction pieces with
  | nil => rfl
  | cons first rest ih =>
    cases rest with
    | nil => simp
    | cons second rest =>
      have single : [mark].count element = 0 := List.count_eq_zero.mpr (by simpa using other)
      rw [List.intercalate_cons_cons, List.flatten_cons, List.count_append, List.count_append, ih,
        single, List.count_append, Nat.add_zero]

end Corridor.Pieces
