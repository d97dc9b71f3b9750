import Corridor.Output

namespace Corridor

namespace ColorChannel

/-- The channels of one slot. -/
def inSlot (slot : Nat) (channels : List ColorChannel) : List ColorChannel :=
  channels.filter fun channel => channel.slot = slot

def outside (given channels : List ColorChannel) : List ColorChannel :=
  channels.filter fun channel => (inSlot channel.slot given).isEmpty

/-- Every channel in a slot of the given ones is the last given one in that slot. -/
def Overridden (given channels : List ColorChannel) : Prop :=
  ∀ channel ∈ channels, ∀ last, (inSlot channel.slot given).getLast? = some last → channel = last

def putAll (given channels : List ColorChannel) : List ColorChannel :=
  given.foldl (fun channels channel => channel.putIn channels) channels

theorem mem_inSlot_iff {slot : Nat} {channels : List ColorChannel} {channel : ColorChannel} :
    channel ∈ inSlot slot channels ↔ channel ∈ channels ∧ channel.slot = slot := by
  rw [inSlot, List.mem_filter, decide_eq_true_eq]

theorem inSlot_cons_self (channel : ColorChannel) (channels : List ColorChannel) :
    inSlot channel.slot (channel :: channels) = channel :: inSlot channel.slot channels := by
  rw [inSlot, List.filter_cons_of_pos (by simp)]
  rfl

theorem inSlot_cons_of_ne {channel : ColorChannel} {slot : Nat} (other : channel.slot ≠ slot)
    (channels : List ColorChannel) : inSlot slot (channel :: channels) = inSlot slot channels := by
  rw [inSlot, List.filter_cons_of_neg (by simpa using other)]
  rfl

theorem filter_putIn {channel : ColorChannel} (test : ColorChannel → Bool)
    (blind : ∀ other : ColorChannel, other.slot = channel.slot → test other = false)
    (channels : List ColorChannel) : (channel.putIn channels).filter test = channels.filter test := by
  induction channels with
  | nil => simp [putIn, blind channel rfl]
  | cons first rest ih =>
    rw [putIn]
    by_cases same : first.slot = channel.slot
    · rw [if_pos same, List.filter_cons_of_neg (by simp [blind channel rfl]),
        List.filter_cons_of_neg (by simp [blind first same])]
    · rw [if_neg same, List.filter_cons, List.filter_cons, ih]

theorem inSlot_putIn_self (channel : ColorChannel) (channels : List ColorChannel) :
    inSlot channel.slot (channel.putIn channels) =
      channel :: (inSlot channel.slot channels).tail := by
  induction channels with
  | nil => simp [putIn, inSlot]
  | cons first rest ih =>
    rw [putIn]
    by_cases same : first.slot = channel.slot
    · rw [if_pos same, inSlot_cons_self, ← same, inSlot_cons_self, List.tail_cons]
    · rw [if_neg same, inSlot_cons_of_ne same, inSlot_cons_of_ne same, ih]

theorem inSlot_putIn_of_ne {channel : ColorChannel} {slot : Nat} (other : channel.slot ≠ slot)
    (channels : List ColorChannel) : inSlot slot (channel.putIn channels) = inSlot slot channels := by
  apply filter_putIn
  intro found same
  rw [same]
  exact decide_eq_false other

/-- Put in one after the other, the last channel of a slot is in the place of the first. -/
theorem inSlot_putAll (slot : Nat) (given channels : List ColorChannel) :
    inSlot slot (putAll given channels) =
      (inSlot slot given).getLast?.elim (inSlot slot channels) fun last =>
        last :: (inSlot slot channels).tail := by
  induction given generalizing channels with
  | nil => rfl
  | cons first rest ih =>
    have step : inSlot slot (putAll (first :: rest) channels) =
        inSlot slot (putAll rest (first.putIn channels)) := rfl
    rw [step, ih]
    by_cases same : first.slot = slot
    · subst same
      rw [inSlot_putIn_self, inSlot_cons_self, List.getLast?_cons]
      cases (inSlot first.slot rest).getLast? <;> rfl
    · rw [inSlot_putIn_of_ne same, inSlot_cons_of_ne same]

theorem outside_putAll (given channels : List ColorChannel) :
    outside given (putAll given channels) = outside given channels := by
  have every : ∀ part channels : List ColorChannel, part ⊆ given →
      outside given (putAll part channels) = outside given channels := by
    -- what is outside is fixed while the channels that are left to put in become fewer
    intro part
    induction part with
    | nil => exact fun _ _ => rfl
    | cons first rest ih =>
      intro channels within
      obtain ⟨present, others⟩ := List.cons_subset.mp within
      calc
        outside given (putAll (first :: rest) channels) =
            outside given (putAll rest (first.putIn channels)) := rfl
        _ = outside given (first.putIn channels) := ih _ others
        _ = outside given channels := by
          apply filter_putIn
          intro other same
          have found : first ∈ inSlot other.slot given := mem_inSlot_iff.mpr ⟨present, same.symm⟩
          rw [List.isEmpty_eq_false_iff]
          exact List.ne_nil_of_mem found
  exact every given channels (List.Subset.refl given)

theorem overridden_putAll_iff (given channels : List ColorChannel) :
    Overridden given (putAll given channels) ↔
      ∀ slot last, (inSlot slot given).getLast? = some last →
        ∀ behind ∈ (inSlot slot channels).tail, behind = last := by
  constructor
  · intro overridden slot last found behind member
    have inMerged : behind ∈ inSlot slot (putAll given channels) := by
      rw [inSlot_putAll, found]
      exact List.mem_cons_of_mem last member
    obtain ⟨present, same⟩ := mem_inSlot_iff.mp inMerged
    exact overridden behind present last (same ▸ found)
  · intro fresh channel member last found
    have inMerged : channel ∈ inSlot channel.slot (putAll given channels) :=
      mem_inSlot_iff.mpr ⟨member, rfl⟩
    rw [inSlot_putAll, found] at inMerged
    rcases List.mem_cons.mp inMerged with same | behind
    · exact same
    · exact fresh channel.slot last found channel behind

end ColorChannel

open ColorChannel

theorem Header.colors_merge (header : Header) (channels : List ColorChannel) :
    (header.merge channels).colors = putAll channels header.colors := rfl

namespace Level

/-- The header of an output. In each slot of the theme's colours the last of these is in the place of
the header's first channel, and any further channels of the header stay behind it. So the theme's
colours override the header's iff all those are equal to the last colour of their slot. -/
theorem generate_merges_colors (level : Level) (theme : Theme) (settings : Settings) (header : Header)
    (overrides : Overrides) {biome : Biome} {rest : List Biome} (biomes : level.biomes = biome :: rest)
    (nonempty : biome.segments ≠ []) :
    let merged := header.merge theme.colors
    (level.generate theme settings header overrides).header = merged.chars ∧
    merged.settings = header.settings ∧
    (∀ channel ∈ theme.colors, ∃ last,
      (inSlot channel.slot theme.colors).getLast? = some last ∧
      inSlot channel.slot merged.colors = last :: (inSlot channel.slot header.colors).tail) ∧
    outside theme.colors merged.colors = outside theme.colors header.colors ∧
    (Overridden theme.colors merged.colors ↔
      ∀ slot last, (inSlot slot theme.colors).getLast? = some last →
        ∀ behind ∈ (inSlot slot header.colors).tail, behind = last) := by
  intro merged
  refine ⟨?_, rfl, ?_, outside_putAll theme.colors header.colors,
    overridden_putAll_iff theme.colors header.colors⟩
  · rw [generate, biomes]
    dsimp only
    rw [if_neg nonempty]
  · intro channel member
    have found : channel ∈ inSlot channel.slot theme.colors := mem_inSlot_iff.mpr ⟨member, rfl⟩
    obtain ⟨last, shown⟩ : ∃ last, (inSlot channel.slot theme.colors).getLast? = some last :=
      ⟨_, List.getLast?_eq_some_getLast (List.ne_nil_of_mem found)⟩
    refine ⟨last, shown, ?_⟩
    rw [Header.colors_merge, inSlot_putAll, shown]
    rfl

def cellLevel : Level where
  biomes := [{ segments := [⟨465, 195, .neutral, {}⟩] }]

def twinHeader : Header where
  colors := [{ slot := 1, rgb := ⟨0, 0, 0⟩ }, { slot := 1, rgb := ⟨9, 9, 9⟩ },
    { slot := 2, rgb := ⟨7, 7, 7⟩ }]

def white : ColorChannel where
  slot := 1
  rgb := ⟨255, 255, 255⟩

theorem twinHeader_merges_colors :
    (cellLevel.generate { colors := [white] } {} twinHeader {}).header =
      (twinHeader.merge [white]).chars ∧
    inSlot 1 (twinHeader.merge [white]).colors = [white, { slot := 1, rgb := ⟨9, 9, 9⟩ }] ∧
    outside [white] (twinHeader.merge [white]).colors = [{ slot := 2, rgb := ⟨7, 7, 7⟩ }] := by
  obtain ⟨serialized, _, replaced, kept, _⟩ := generate_merges_colors cellLevel
    { colors := [white] } {} twinHeader {} rfl (List.cons_ne_nil _ _)
  obtain ⟨last, found, channels⟩ := replaced white List.mem_cons_self
  cases found
  exact ⟨serialized, channels, kept⟩

theorem twinHeader_not_overridden :
    (cellLevel.generate { colors := [white] } {} twinHeader {}).header =
      (twinHeader.merge [white]).chars ∧
    (twinHeader.merge [white]).colors =
      [white, { slot := 1, rgb := ⟨9, 9, 9⟩ }, { slot := 2, rgb := ⟨7, 7, 7⟩ }] ∧
    ¬Overridden [white] (twinHeader.merge [white]).colors := by
  refine ⟨rfl, rfl, ?_⟩
  intro overridden
  have same : ({ slot := 1, rgb := ⟨9, 9, 9⟩ } : ColorChannel) = white :=
    overridden _ (List.mem_cons_of_mem _ List.mem_cons_self) white rfl
  exact absurd (congrArg ColorChannel.rgb same) (by decide)

end Level
end Corridor
