import Mathlib.Data.List.DropRight
import Corridor.Orientation
/-!
Windows as views of a full history. Main statement: a window holds the latest codes of the history
with absent codes in front, and it ends with a pattern iff the pattern fits into it and that history
ends with the pattern.
-/
namespace Corridor.Window

/-- A history behind the absent codes of an empty window. -/
def padded (codes : List Orientation) : List Orientation :=
  List.replicate windowLength .absent ++ codes

theorem eq_of_codes_eq {first second : Window} (same : first.codes = second.codes) :
    first = second := by
  cases first
  cases second
  cases same
  rfl

theorem length_padded (codes : List Orientation) :
    (padded codes).length = windowLength + codes.length := by
  simp [padded]

theorem codes_foldl_push (window : Window) (codes : List Orientation) :
    (codes.foldl push window).codes = (window.codes ++ codes).drop codes.length := by
  induction codes generalizing window with
  | nil => simp
  | cons code rest ih =>
    -- the oldest code exists, so that dropping it first and dropping the rest afterwards commute
    obtain ⟨oldest, later, split⟩ : ∃ oldest later, window.codes = oldest :: later :=
      List.exists_cons_of_length_pos (by rw [window.length_codes]; decide)
    calc
      ((code :: rest).foldl push window).codes = ((window.push code).codes ++ rest).drop rest.length := by
        rw [List.foldl_cons, ih]
      _ = (later ++ code :: rest).drop rest.length := by
        simp [push, split]
      _ = (window.codes ++ code :: rest).drop (code :: rest).length := by
        simp [split]

theorem codes_ofHistory (codes : List Orientation) :
    (ofHistory codes).codes = (padded codes).drop codes.length :=
  codes_foldl_push empty codes

/-- Counted from the oldest, the codes of a window are those of the history behind its start, and
absent ones where the history does not reach. -/
theorem getElem?_ofHistory (codes : List Orientation) (position : Nat) :
    (ofHistory codes).codes[position]? =
      if codes.length + position < windowLength then some .absent
      else codes[codes.length + position - windowLength]? := by
  rw [codes_ofHistory, List.getElem?_drop, padded]
  split
  · rename_i padding
    rw [List.getElem?_append_left (by simpa using padding), List.getElem?_replicate_of_lt padding]
  · rename_i behind
    rw [List.getElem?_append_right (by simpa using behind), List.length_replicate]

theorem suffix_drop_iff (pattern history : List Orientation) (count : Nat) :
    pattern <:+ history.drop count ↔
      pattern.length ≤ history.length - count ∧ pattern <:+ history := by
  constructor
  · intro ending
    have bound := ending.length_le
    rw [List.length_drop] at bound
    exact ⟨bound, ending.trans (List.drop_suffix count history)⟩
  · rintro ⟨bound, ending⟩
    apply List.suffix_of_suffix_length_le ending (List.drop_suffix count history)
    rwa [List.length_drop]

theorem endsWith_ofHistory_iff (codes pattern : List Orientation) :
    (ofHistory codes).endsWith pattern = true ↔
      pattern.length ≤ windowLength ∧ pattern <:+ padded codes := by
  rw [endsWith_iff, codes_ofHistory, suffix_drop_iff, length_padded, Nat.add_sub_cancel]

theorem codes_ofHistory_eq_rtake (codes : List Orientation) :
    (ofHistory codes).codes = (padded codes).rtake windowLength := by
  rw [codes_ofHistory, List.rtake, length_padded, Nat.add_sub_cancel_left]

theorem ofHistory_concat (codes : List Orientation) (code : Orientation) :
    ofHistory (codes ++ [code]) = (ofHistory codes).push code := by
  rw [ofHistory, List.foldl_append, ← ofHistory]
  rfl

theorem last_ofHistory (codes : List Orientation) :
    (ofHistory codes).last = codes.getLast?.getD .absent := by
  rcases List.eq_nil_or_concat codes with rfl | ⟨earlier, code, rfl⟩
  · rfl
  · rw [List.concat_eq_append, ofHistory_concat, last_push, List.getLast?_concat, Option.getD_some]

/-- The window after a history shows the last eleven codes of what eleven absent codes and the history
make up. So it has that length whatever came before, its last code is the latest, and it ends with
those patterns of at most eleven codes with which the padded history ends. -/
theorem ofHistory_refines_padded (codes : List Orientation) :
    let history := List.replicate 11 Orientation.absent ++ codes
    let window := ofHistory codes
    window.codes = history.rtake 11 ∧
    window.codes.length = 11 ∧
    window.last = codes.getLast?.getD .absent ∧
    ∀ pattern, window.endsWith pattern = true ↔ pattern.length ≤ 11 ∧ pattern <:+ history := by
  intro history window
  refine ⟨?_, window.length_codes, last_ofHistory codes, ?_⟩
  · exact codes_ofHistory_eq_rtake codes
  · intro pattern
    exact endsWith_ofHistory_iff codes pattern

end Corridor.Window
