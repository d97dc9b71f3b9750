import Corridor.Header
import Corridor.Proofs.Inert

namespace Corridor

def ColorChannel.Undivided (channel : ColorChannel) : Prop := ';' ∉ channel.special.toList

instance (channel : ColorChannel) : Decidable channel.Undivided :=
  inferInstanceAs (Decidable (';' ∉ channel.special.toList))

structure Header.Undivided (header : Header) : Prop where
  colors : ∀ channel ∈ header.colors, channel.Undivided
  keys : ∀ setting ∈ header.settings, ';' ∉ setting.1.toList
  values : ∀ setting ∈ header.settings, ';' ∉ setting.2.toList

namespace ColorChannel

theorem semicolon_not_mem_chars {channel : ColorChannel} (undivided : channel.Undivided) :
    ';' ∉ channel.chars := by
  have numeral (n : Nat) : ';' ∉ Numeral.ofNat n :=
    Text.not_mem_of_isInert (by decide) fun _ => Numeral.isInert_of_mem_ofNat
  have blending : ';' ∉ (if channel.blending then "_5_1".toList else []) := by
    split <;> decide
  have opacity : ';' ∉ (if channel.opacity ≤ 1.0 then Decimal.ofFloat channel.opacity else ['1']) := by
    split
    · exact Text.not_mem_of_isInert (by decide) fun _ => Decimal.isInert_of_mem_ofFloat
    · decide
  have special : ';' ∉ (if channel.special = "" then [] else '_' :: channel.special.toList) := by
    split
    · exact List.not_mem_nil
    · exact List.not_mem_cons_of_ne_of_not_mem (by decide) undivided
  unfold chars
  cases channel.copyColor with
  | none =>
    simp only [List.mem_append, not_or, numeral, blending, opacity, special, not_false_eq_true,
      and_true]
    decide
  | some slot =>
    simp only [List.mem_append, not_or, numeral, blending, opacity, special, not_false_eq_true,
      and_true]
    decide

theorem eq_or_mem_of_mem_putIn {channel other : ColorChannel} {colors : List ColorChannel}
    (member : other ∈ channel.putIn colors) : other = channel ∨ other ∈ colors := by
  induction colors with
  | nil => exact .inl (List.mem_singleton.mp member)
  | cons first rest ih =>
    rw [putIn] at member
    split at member
    · rcases List.mem_cons.mp member with same | later
      · exact .inl same
      · exact .inr (List.mem_cons_of_mem first later)
    · rcases List.mem_cons.mp member with rfl | later
      · exact .inr List.mem_cons_self
      · exact (ih later).imp_right (List.mem_cons_of_mem first)

end ColorChannel

namespace Header

theorem Undivided.merge {header : Header} {channels : List ColorChannel}
    (undivided : header.Undivided) (added : ∀ channel ∈ channels, channel.Undivided) :
    (header.merge channels).Undivided where
  keys := undivided.keys
  values := undivided.values
  colors := by
    have every : ∀ colors : List ColorChannel, (∀ channel ∈ colors, channel.Undivided) →
        ∀ channel ∈ channels.foldl (fun colors channel => channel.putIn colors) colors,
          channel.Undivided := by
      induction channels with
      | nil => exact fun _ before => before
      | cons first rest ih =>
        intro colors before
        apply ih fun channel member => added channel (List.mem_cons_of_mem first member)
        intro channel member
        rcases ColorChannel.eq_or_mem_of_mem_putIn member with rfl | kept
        · exact added channel List.mem_cons_self
        · exact before channel kept
    exact every header.colors undivided.colors

def front (header : Header) : List Char :=
  header.colorChars ++
    ',' :: header.settings.flatMap fun (key, value) => key.toList ++ ',' :: value.toList ++ [',']

theorem chars_eq_front (header : Header) : header.chars = header.front ++ [';'] := by
  simp [chars, front, settingsChars]

theorem semicolon_not_mem_front {header : Header} (undivided : header.Undivided) :
    ';' ∉ header.front := by
  intro member
  rcases List.mem_append.mp member with colors | settings
  · rcases List.mem_append.mp colors with word | channels
    · exact absurd word (by decide)
    · obtain ⟨channel, present, inside⟩ := List.mem_flatMap.mp channels
      exact ColorChannel.semicolon_not_mem_chars (undivided.colors channel present) inside
  · rcases List.mem_cons.mp settings with comma | entries
    · exact absurd comma (by decide)
    · obtain ⟨⟨key, value⟩, present, inside⟩ := List.mem_flatMap.mp entries
      have inKey : ';' ∉ key.toList := undivided.keys (key, value) present
      have inValue : ';' ∉ value.toList := undivided.values (key, value) present
      simp [inKey, inValue] at inside

end Header
end Corridor
