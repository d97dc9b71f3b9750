import Corridor.Output
import Corridor.Proofs.HeaderText
import Corridor.Proofs.LoadedTheme
import Corridor.Proofs.Streams
import Corridor.Proofs.WellPlaced

namespace Corridor

/-- The part of a text up to the first mark, which it includes, and the part after it. -/
def Text.cutAfter (mark : Char) : List Char → List Char × List Char
  | [] => ([], [])
  | c :: rest =>
    if c = mark then ([c], rest)
    else (c :: (cutAfter mark rest).1, (cutAfter mark rest).2)

theorem Text.cutAfter_append {mark : Char} {front rest : List Char} (absent : mark ∉ front) :
    cutAfter mark (front ++ [mark] ++ rest) = (front ++ [mark], rest) := by
  induction front with
  | nil => simp [cutAfter]
  | cons c front ih =>
    have other : c ≠ mark := fun same => absent (same ▸ List.mem_cons_self)
    have later : mark ∉ front := fun inside => absent (List.mem_cons_of_mem c inside)
    simp only [List.cons_append, cutAfter, if_neg other, ih later]

namespace Biome

variable (biome : Biome) (settings : Settings) (overrides : Overrides)

theorem printable_decorationAt {theme : Theme} (printable : theme.Printable) (index : Nat)
    (segment : Segment) : ∀ record ∈ biome.decorationAt theme index segment, record.Printable := by
  intro record member
  rcases List.mem_append.mp member with rendered | injected
  · cases winner : theme.winner? (biome.windowAt index) index with
    | none =>
      rw [winner] at rendered
      cases rendered
    | some rule =>
      rw [winner] at rendered
      exact printable.rules rule (Theme.mem_rules_of_winner? winner) _ record rendered
  · obtain ⟨pattern, fires, placed⟩ := List.mem_flatMap.mp injected
    exact printable.patterns pattern (List.mem_filter.mp fires).1 record placed

theorem printable_decoration {theme : Theme} (printable : theme.Printable) :
    ∀ record ∈ (biome.compile settings theme overrides).decoration, record.Printable := by
  rw [decoration_compile]
  intro record member
  obtain ⟨records, listed, placed⟩ := List.mem_flatten.mp member
  obtain ⟨index, bound, rfl⟩ := List.mem_mapIdx.mp listed
  exact printable_decorationAt biome printable index _ record placed

end Biome

namespace Output

theorem body_eq_recordChars (output : Output) :
    output.body = recordChars (output.compiled.structural ++ output.compiled.decoration) := by
  rw [body, recordChars, recordChars, recordChars, List.flatMap_append]

theorem drop_header (output : Output) : output.chars.drop output.header.length = output.body := by
  rw [chars, List.drop_left]

end Output

namespace Level

variable (level : Level) (theme : Theme) (settings : Settings) (header : Header)
  (overrides : Overrides)

theorem generate_cases :
    level.generate theme settings header overrides = .empty ∨
      ∃ biome ∈ level.biomes, level.generate theme settings header overrides =
        ⟨(header.merge theme.colors).chars, biome.compile settings theme overrides⟩ := by
  unfold generate
  split
  · exact .inl rfl
  · rename_i biome rest biomes
    split
    · exact .inl rfl
    · exact .inr ⟨biome, biomes ▸ List.mem_cons_self, rfl⟩

theorem printable_generate {theme : Theme} (printable : theme.Printable) :
    ∀ record ∈ (level.generate theme settings header overrides).compiled.structural ++
      (level.generate theme settings header overrides).compiled.decoration, record.Printable := by
  rcases level.generate_cases theme settings header overrides with empty | ⟨biome, _, compiled⟩
  · rw [empty]
    exact fun _ => List.not_mem_nil.elim
  · rw [compiled]
    intro record member
    rcases List.mem_append.mp member with structural | decoration
    · exact .of_wellPlaced (biome.wellPlaced_structural settings theme overrides record structural)
    · exact biome.printable_decoration settings overrides printable record decoration

theorem header_generate
    (nonempty : (level.generate theme settings header overrides).isEmpty = false) :
    (level.generate theme settings header overrides).header = (header.merge theme.colors).chars := by
  rcases level.generate_cases theme settings header overrides with empty | ⟨biome, _, compiled⟩
  · rw [empty] at nonempty
    cases nonempty
  · rw [compiled]

/-- What follows the header reads back as the records of the structure and then of the theme, with
every value as its text. If neither a setting nor a further item of a colour holds a semicolon, then
the header is all up to the first one. -/
theorem generate_reads_back {text : String} {theme : Theme} (loaded : Theme.parse text = .ok theme)
    (level : Level) (settings : Settings) (header : Header) (overrides : Overrides) :
    let output := level.generate theme settings header overrides
    let body := output.chars.drop output.header.length
    let read := (output.compiled.structural ++ output.compiled.decoration).map Record.printed
    output.header ++ body = output.chars ∧
    parseRecords (String.ofList body) = .ok read ∧
    read.length = output.summary.structureRecords + output.summary.themeRecords ∧
    (output.isEmpty = false → header.Undivided → (∀ channel ∈ theme.colors, channel.Undivided) →
      (∃ front, output.header = front ++ [';'] ∧ ';' ∉ front) ∧
      Text.cutAfter ';' output.chars = (output.header, body)) := by
  intro output body read
  have rest : body = output.body := output.drop_header
  refine ⟨?_, ?_, ?_, ?_⟩
  · rw [rest, Output.chars]
  · rw [parseRecords, String.toList_ofList, rest, Output.body_eq_recordChars]
    exact parseRecordChars_recordChars _
      (printable_generate level settings header overrides (Theme.printable_of_parse loaded))
  · rw [List.length_map, List.length_append]
    rfl
  · intro nonempty undivided colors
    have merged := undivided.merge colors
    have shape : output.header = (header.merge theme.colors).front ++ [';'] := by
      rw [← Header.chars_eq_front]
      exact header_generate level theme settings header overrides nonempty
    refine ⟨⟨_, shape, Header.semicolon_not_mem_front merged⟩, ?_⟩
    calc
      Text.cutAfter ';' output.chars =
          Text.cutAfter ';' ((header.merge theme.colors).front ++ [';'] ++ body) := by
        rw [Output.chars, shape, rest]
      _ = ((header.merge theme.colors).front ++ [';'], body) :=
        Text.cutAfter_append (Header.semicolon_not_mem_front merged)
      _ = (output.header, body) := by rw [shape]

def lampText : String :=
  "\x7b\"colors\":[\x7b\"slot\":6,\"hex\":\"#ffaa00\",\"special\":\"17_1\"\x7d]," ++
  "\"rules\":[\x7b\"pattern\":[4],\"commands\":[\"1,1734,2,\x7bx+15\x7d,3, 45 ,31,;\"]\x7d]\x7d"

def lampTheme : Theme where
  colors := [{ slot := 6, rgb := ⟨255, 170, 0⟩, special := "17_1" }]
  rules := [⟨[.suffix [.slope]],
    [.records [⟨[(1, .literal "1734"), (2, .placeholder .x 15), (3, .literal "45"),
      (31, .literal "")]⟩]], false⟩]

def lampLevel : Level where
  biomes := [{ segments := [⟨465, 195, .up, {}⟩, ⟨495, 225, .up, {}⟩] }]

def lampHeader : Header where
  settings := [("kA2", "4"), ("kA4", "0")]

theorem lampLevel_reads_back :
    Theme.parse lampText = .ok lampTheme ∧
    let output := lampLevel.generate lampTheme {} lampHeader {}
    let body := output.chars.drop output.header.length
    let read := (output.compiled.structural ++ output.compiled.decoration).map Record.printed
    output.header ++ body = output.chars ∧
    parseRecords (String.ofList body) = .ok read ∧
    read.length = output.summary.structureRecords + output.summary.themeRecords ∧
    (∃ front, output.header = front ++ [';'] ∧ ';' ∉ front) ∧
    Text.cutAfter ';' output.chars = (output.header, body) := by
  have loaded : Theme.parse lampText = .ok lampTheme := by decide +kernel
  have undivided : lampHeader.Undivided := ⟨by decide, by decide, by decide⟩
  have colors : ∀ channel ∈ lampTheme.colors, channel.Undivided := by decide
  obtain ⟨joined, parsed, counted, cut⟩ :=
    generate_reads_back loaded lampLevel {} lampHeader {}
  exact ⟨loaded, joined, parsed, counted, cut rfl undivided colors⟩

end Level
end Corridor
