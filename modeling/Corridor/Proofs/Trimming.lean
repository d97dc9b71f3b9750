import Corridor.Text.Blank
/-!
Trimming as the choice of a normal form. Main statements: trimmed texts are those that neither begin
nor end with a blank, and every text is a trimmed one between blanks.
-/
namespace Corridor.Text

def Blank (text : List Char) : Prop := ∀ c ∈ text, isBlank c = true

instance (text : List Char) : Decidable (Blank text) :=
  decidable_of_iff (text.all isBlank = true) List.all_eq_true

theorem head?_trimStart (text : List Char) : ∀ c ∈ (trimStart text).head?, isBlank c = false := by
  intro c first
  have shown := List.head?_dropWhile_not isBlank text
  rw [← trimStart, Option.mem_def.mp first] at shown
  exact shown

theorem getLast?_trimEnd (text : List Char) : ∀ c ∈ (trimEnd text).getLast?, isBlank c = false := by
  intro c last
  rw [trimEnd, List.getLast?_reverse] at last
  exact head?_trimStart text.reverse c last

theorem trimEnd_initial (text : List Char) : trimEnd text <+: text := by
  have ending : (trimEnd text).reverse <:+ text.reverse := by
    rw [trimEnd, List.reverse_reverse]
    exact List.dropWhile_suffix isBlank
  exact List.reverse_suffix.mp ending

theorem head?_trim (text : List Char) : ∀ c ∈ (trim text).head?, isBlank c = false := by
  intro c first
  obtain ⟨rest, joined⟩ := trimEnd_initial (trimStart text)
  apply head?_trimStart text c
  rw [← joined, ← trim, List.head?_append, Option.mem_def.mp first]
  rfl

theorem trim_eq_self_iff (text : List Char) :
    trim text = text ↔
      (∀ c ∈ text.head?, isBlank c = false) ∧ ∀ c ∈ text.getLast?, isBlank c = false := by
  constructor
  · intro trimmed
    rw [← trimmed]
    exact ⟨head?_trim text, getLast?_trimEnd (trimStart text)⟩
  · rintro ⟨first, last⟩
    exact trim_eq_self first last

theorem trim_trim (text : List Char) : trim (trim text) = trim text :=
  trim_eq_self (head?_trim text) (getLast?_trimEnd (trimStart text))

theorem trim_sublist (text : List Char) : (trim text).Sublist text :=
  (trimEnd_initial (trimStart text)).sublist.trans (List.dropWhile_sublist isBlank)

theorem trim_eq_self_of_forall {text : List Char} (visible : ∀ c ∈ text, isBlank c = false) :
    trim text = text :=
  trim_eq_self (fun c first => visible c (List.mem_of_mem_head? first))
    (fun c last => visible c (List.mem_of_getLast? last))

theorem stripEnd_sublist (mark : Char) (text : List Char) : (stripEnd mark text).Sublist text := by
  have ending := List.dropWhile_sublist (· == mark) (l := text.reverse)
  have reversed := ending.reverse
  rwa [List.reverse_reverse] at reversed

theorem stripEnd_eq_self_of_last {mark : Char} {text : List Char}
    (last : text.getLast? ≠ some mark) : stripEnd mark text = text := by
  have kept : text.reverse.dropWhile (· == mark) = text.reverse := by
    cases reversed : text.reverse with
    | nil => rfl
    | cons first rest =>
      rw [← List.head?_reverse, reversed, List.head?_cons] at last
      have other : first ≠ mark := fun same => last (congrArg some same)
      simp [other]
  rw [stripEnd, kept, List.reverse_reverse]

theorem stripEnd_eq_self {mark : Char} {text : List Char} (absent : mark ∉ text) :
    stripEnd mark text = text :=
  stripEnd_eq_self_of_last fun last => absent (List.mem_of_getLast? last)

theorem exists_replicate_append_dropWhile (mark : Char) (text : List Char) :
    ∃ count, text = List.replicate count mark ++ text.dropWhile (· == mark) := by
  have marks : text.takeWhile (· == mark) =
      List.replicate (text.takeWhile (· == mark)).length mark := by
    rw [List.eq_replicate_iff]
    exact ⟨rfl, fun c member => by simpa using List.all_eq_true.mp List.all_takeWhile c member⟩
  refine ⟨(text.takeWhile (· == mark)).length, ?_⟩
  rw [← marks, List.takeWhile_append_dropWhile]

theorem exists_stripEnd_append (mark : Char) (text : List Char) :
    ∃ count, text = stripEnd mark text ++ List.replicate count mark := by
  obtain ⟨count, joined⟩ := exists_replicate_append_dropWhile mark text.reverse
  refine ⟨count, ?_⟩
  calc
    text = text.reverse.reverse := text.reverse_reverse.symm
    _ = (List.replicate count mark ++ text.reverse.dropWhile (· == mark)).reverse := by rw [← joined]
    _ = stripEnd mark text ++ List.replicate count mark := by
      rw [List.reverse_append, List.reverse_replicate, stripEnd]

theorem getLast?_stripEnd_ne (mark : Char) (text : List Char) :
    (stripEnd mark text).getLast? ≠ some mark := by
  intro last
  have shown := List.head?_dropWhile_not (· == mark) text.reverse
  rw [stripEnd, List.getLast?_reverse] at last
  rw [last] at shown
  simp at shown

theorem stripEnd_append_self (mark : Char) (text : List Char) :
    stripEnd mark (text ++ [mark]) = stripEnd mark text := by
  simp [stripEnd]

theorem Blank.not_mem {text : List Char} (blank : Blank text) {mark : Char}
    (visible : isBlank mark = false) : mark ∉ text := by
  intro member
  rw [blank mark member] at visible
  cases visible

theorem trimStart_append {lead : List Char} (blank : Blank lead) (text : List Char) :
    trimStart (lead ++ text) = trimStart text :=
  List.dropWhile_append_of_pos blank

theorem trimEnd_append {tail : List Char} (blank : Blank tail) (text : List Char) :
    trimEnd (text ++ tail) = trimEnd text := by
  have reversed : ∀ c ∈ tail.reverse, isBlank c = true := fun c member =>
    blank c (List.mem_reverse.mp member)
  rw [trimEnd, List.reverse_append, List.dropWhile_append_of_pos reversed, ← trimEnd]

theorem exists_trimStart_append (text : List Char) :
    ∃ lead, Blank lead ∧ text = lead ++ trimStart text :=
  ⟨text.takeWhile isBlank, List.all_eq_true.mp List.all_takeWhile,
    List.takeWhile_append_dropWhile.symm⟩

theorem exists_trimEnd_append (text : List Char) :
    ∃ tail, Blank tail ∧ text = trimEnd text ++ tail := by
  obtain ⟨lead, blank, joined⟩ := exists_trimStart_append text.reverse
  refine ⟨lead.reverse, fun c member => blank c (List.mem_reverse.mp member), ?_⟩
  rw [trimEnd, ← trimStart, ← List.reverse_append, ← joined, List.reverse_reverse]

/-- A text is what trimming leaves of it between blanks. -/
theorem exists_trim_append (text : List Char) :
    ∃ lead tail, Blank lead ∧ Blank tail ∧ text = lead ++ trim text ++ tail := by
  obtain ⟨lead, leading, start⟩ := exists_trimStart_append text
  obtain ⟨tail, trailing, ending⟩ := exists_trimEnd_append (trimStart text)
  refine ⟨lead, tail, leading, trailing, ?_⟩
  rw [trim, List.append_assoc, ← ending, ← start]

theorem trim_eq_nil {text : List Char} (blank : Blank text) : trim text = [] := by
  have dropped : trimStart text = [] := by
    simpa [trimStart] using trimStart_append blank []
  rw [trim, dropped]
  rfl

theorem trim_eq_nil_iff {text : List Char} : trim text = [] ↔ Blank text := by
  refine ⟨fun empty => ?_, trim_eq_nil⟩
  obtain ⟨lead, tail, leading, trailing, joined⟩ := exists_trim_append text
  rw [empty, List.append_nil] at joined
  rw [joined]
  intro c member
  rcases List.mem_append.mp member with inLead | inTail
  · exact leading c inLead
  · exact trailing c inTail

theorem trim_lead_append {lead : List Char} (blank : Blank lead) (text : List Char) :
    trim (lead ++ text) = trim text := by
  rw [trim, trimStart_append blank, ← trim]

theorem trim_append_tail {tail : List Char} (blank : Blank tail) (text : List Char) :
    trim (text ++ tail) = trim text := by
  obtain ⟨lead, leading, start⟩ := exists_trimStart_append text
  cases visible : trimStart text with
  | nil =>
    rw [visible, List.append_nil] at start
    rw [start, trim_lead_append leading, trim_eq_nil blank, trim_eq_nil leading]
  | cons c rest =>
    have first : isBlank c = false := head?_trimStart text c (by rw [visible]; rfl)
    have kept : trimStart (c :: rest ++ tail) = c :: rest ++ tail :=
      trimStart_eq_self (by simpa using first)
    rw [start, visible, List.append_assoc, trim_lead_append leading, trim_lead_append leading, trim,
      kept, trimEnd_append blank, trim, trimStart_eq_self (by simpa using first)]

theorem trim_cons {c : Char} (visible : isBlank c = false) (rest : List Char) :
    trim (c :: rest) = c :: trimEnd rest := by
  have start : trimStart (c :: rest) = c :: rest := trimStart_eq_self (by simpa using visible)
  rw [trim, start, trimEnd, trimEnd, List.reverse_cons, List.dropWhile_append]
  split
  · rename_i blank
    simp [List.isEmpty_iff.mp blank, visible]
  · simp

theorem count_trim (mark : Char) (visible : isBlank mark = false) (text : List Char) :
    (trim text).count mark = text.count mark := by
  obtain ⟨lead, tail, leading, trailing, joined⟩ := exists_trim_append text
  have none_leading : lead.count mark = 0 := List.count_eq_zero.mpr (leading.not_mem visible)
  have none_trailing : tail.count mark = 0 := List.count_eq_zero.mpr (trailing.not_mem visible)
  calc
    (trim text).count mark = (lead ++ trim text ++ tail).count mark := by
      simp [none_leading, none_trailing]
    _ = text.count mark := by rw [← joined]

theorem count_flatten_map_trim (mark : Char) (visible : isBlank mark = false)
    (pieces : List (List Char)) :
    (pieces.map trim).flatten.count mark = pieces.flatten.count mark := by
  induction pieces with
  | nil => rfl
  | cons piece rest ih =>
    rw [List.map_cons, List.flatten_cons, List.flatten_cons, List.count_append, List.count_append,
      count_trim mark visible, ih]

end Corridor.Text
