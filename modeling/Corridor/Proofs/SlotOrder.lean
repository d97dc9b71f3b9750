import Corridor.Proofs.MergedColors

namespace Corridor

namespace ColorChannel

def slots (channels : List ColorChannel) : List Nat := channels.map ColorChannel.slot

/-- The given slots that are not known yet, each where it first comes. -/
def newSlots (given known : List Nat) : List Nat :=
  (given.filter fun slot => slot ∉ known).eraseDups

def first? (slot : Nat) (channels : List ColorChannel) : Option ColorChannel :=
  channels.find? fun channel => channel.slot = slot

@[simp] theorem slots_nil : slots [] = [] := rfl

@[simp] theorem slots_cons (channel : ColorChannel) (channels : List ColorChannel) :
    slots (channel :: channels) = channel.slot :: slots channels := rfl

theorem newSlots_cons_of_mem {slot : Nat} {known : List Nat} (present : slot ∈ known)
    (given : List Nat) : newSlots (slot :: given) known = newSlots given known := by
  rw [newSlots, newSlots, List.filter_cons_of_neg (by simpa using present)]

theorem newSlots_cons_of_not_mem {slot : Nat} {known : List Nat} (absent : slot ∉ known)
    (given : List Nat) :
    newSlots (slot :: given) known = slot :: newSlots given (known ++ [slot]) := by
  rw [newSlots, newSlots, List.filter_cons_of_pos (by simpa using absent), List.eraseDups_cons,
    List.filter_filter]
  congr 2
  apply List.filter_congr
  intro other _
  simp [Bool.and_comm, Bool.beq_eq_decide_eq]

theorem mem_newSlots_iff {slot : Nat} {given known : List Nat} :
    slot ∈ newSlots given known ↔ slot ∈ given ∧ slot ∉ known := by
  rw [newSlots, List.mem_eraseDups, List.mem_filter, decide_eq_true_eq]

theorem nodup_newSlots (given known : List Nat) : (newSlots given known).Nodup := by
  induction given generalizing known with
  | nil => exact List.nodup_nil
  | cons slot rest ih =>
    by_cases present : slot ∈ known
    · rw [newSlots_cons_of_mem present]
      exact ih known
    · rw [newSlots_cons_of_not_mem present]
      refine List.nodup_cons.mpr ⟨?_, ih (known ++ [slot])⟩
      intro again
      exact (mem_newSlots_iff.mp again).2 (by simp)

theorem newSlots_eq_nil {given known : List Nat} (within : given ⊆ known) :
    newSlots given known = [] := by
  apply List.eq_nil_iff_forall_not_mem.mpr
  intro slot member
  obtain ⟨listed, absent⟩ := mem_newSlots_iff.mp member
  exact absent (within listed)

theorem slots_putIn_of_mem {channel : ColorChannel} {channels : List ColorChannel}
    (present : channel.slot ∈ slots channels) : slots (channel.putIn channels) = slots channels := by
  induction channels with
  | nil => cases present
  | cons front rest ih =>
    rw [putIn]
    by_cases same : front.slot = channel.slot
    · rw [if_pos same, slots_cons, slots_cons, same]
    · have later : channel.slot ∈ slots rest :=
        (List.mem_cons.mp present).resolve_left (Ne.symm same)
      rw [if_neg same, slots_cons, slots_cons, ih later]

theorem slots_putIn_of_not_mem {channel : ColorChannel} {channels : List ColorChannel}
    (absent : channel.slot ∉ slots channels) :
    slots (channel.putIn channels) = slots channels ++ [channel.slot] := by
  induction channels with
  | nil => rfl
  | cons front rest ih =>
    have other : channel.slot ≠ front.slot := List.ne_of_not_mem_cons absent
    have later : channel.slot ∉ slots rest := List.not_mem_of_not_mem_cons absent
    rw [putIn, if_neg other.symm, slots_cons, slots_cons, ih later, List.cons_append]

/-- Slots stay where they are, and those that were lacking come behind them. -/
theorem slots_putAll (given channels : List ColorChannel) :
    slots (putAll given channels) =
      slots channels ++ newSlots (slots given) (slots channels) := by
  induction given generalizing channels with
  | nil => exact (List.append_nil _).symm
  | cons front rest ih =>
    have step : slots (putAll (front :: rest) channels) = slots (front.putIn channels) ++
        newSlots (slots rest) (slots (front.putIn channels)) := ih (front.putIn channels)
    by_cases present : front.slot ∈ slots channels
    · rw [step, slots_putIn_of_mem present, slots_cons, newSlots_cons_of_mem present]
    · rw [step, slots_putIn_of_not_mem present, slots_cons, newSlots_cons_of_not_mem present,
        List.append_assoc, List.singleton_append]

theorem nodup_slots_putAll {channels : List ColorChannel} (distinct : (slots channels).Nodup)
    (given : List ColorChannel) : (slots (putAll given channels)).Nodup := by
  rw [slots_putAll]
  refine List.nodup_append.mpr ⟨distinct, nodup_newSlots _ _, ?_⟩
  intro slot present new added same
  exact (mem_newSlots_iff.mp added).2 (same ▸ present)

theorem first?_eq_head? (slot : Nat) (channels : List ColorChannel) :
    first? slot channels = (inSlot slot channels).head? := by
  rw [first?, inSlot, List.head?_filter]

theorem first?_putAll (slot : Nat) (given channels : List ColorChannel) :
    first? slot (putAll given channels) =
      (inSlot slot given).getLast?.or (first? slot channels) := by
  rw [first?_eq_head?, first?_eq_head?, inSlot_putAll]
  cases (inSlot slot given).getLast? with
  | none => rfl
  | some last => rfl

/-- Channels are known by the order of their slots and by the channels of each slot. -/
theorem eq_of_inSlot_eq {first second : List ColorChannel} (ordered : slots first = slots second)
    (same : ∀ slot, inSlot slot first = inSlot slot second) : first = second := by
  induction first generalizing second with
  | nil => exact (List.map_eq_nil_iff.mp ordered.symm).symm
  | cons front rest ih =>
    cases second with
    | nil => cases ordered
    | cons head tail =>
      -- each list begins with the first channel of its own slot, and the two slots are the same
      obtain ⟨slot, behind⟩ := List.cons.inj ordered
      have here := same front.slot
      rw [inSlot_cons_self, slot, inSlot_cons_self] at here
      obtain ⟨equal, _⟩ := List.cons.inj here
      subst equal
      congr 1
      apply ih behind
      intro slot
      have there := same slot
      by_cases own : front.slot = slot
      · subst own
        rw [inSlot_cons_self, inSlot_cons_self] at there
        exact List.tail_eq_of_cons_eq there
      · rwa [inSlot_cons_of_ne own, inSlot_cons_of_ne own] at there

/-- What is put in once more finds its slots, and in each of them the channel that it would leave. -/
theorem putAll_putAll (given channels : List ColorChannel) :
    putAll given (putAll given channels) = putAll given channels := by
  apply eq_of_inSlot_eq
  · have known : slots given ⊆ slots (putAll given channels) := by
      intro slot listed
      rw [slots_putAll, List.mem_append, mem_newSlots_iff]
      by_cases present : slot ∈ slots channels
      · exact .inl present
      · exact .inr ⟨listed, present⟩
    rw [slots_putAll given (putAll given channels), newSlots_eq_nil known, List.append_nil]
  · intro slot
    rw [inSlot_putAll, inSlot_putAll]
    cases (inSlot slot given).getLast? with
    | none => rfl
    | some last => rfl

end ColorChannel

namespace Header

open ColorChannel

def mergeAll (header : Header) (batches : List (List ColorChannel)) : Header :=
  batches.foldl merge header

theorem settings_mergeAll (header : Header) (batches : List (List ColorChannel)) :
    (header.mergeAll batches).settings = header.settings := by
  induction batches generalizing header with
  | nil => rfl
  | cons batch rest ih => exact ih (header.merge batch)

theorem nodup_slots_mergeAll {header : Header} (distinct : (slots header.colors).Nodup)
    (batches : List (List ColorChannel)) : (slots (header.mergeAll batches).colors).Nodup := by
  induction batches generalizing header with
  | nil => exact distinct
  | cons batch rest ih =>
    apply ih
    rw [colors_merge]
    exact nodup_slots_putAll distinct batch

/-- Merging channels a second time changes nothing. The slots of the header stay in their places, and
the slots that it lacks follow, each of them once and where it first comes. The first channel of a
slot is the last that is merged into it, or else the header's first. Distinct slots stay distinct and
settings stay as they are, however often channels are merged. -/
theorem merge_keeps_slots (header : Header) (channels : List ColorChannel) :
    let merged := header.merge channels
    let added := newSlots (slots channels) (slots header.colors)
    merged.merge channels = merged ∧
    slots merged.colors = slots header.colors ++ added ∧ added.Nodup ∧
    (∀ slot, slot ∈ added ↔ slot ∈ slots channels ∧ slot ∉ slots header.colors) ∧
    (∀ slot, first? slot merged.colors =
      (inSlot slot channels).getLast?.or (first? slot header.colors)) ∧
    ∀ batches : List (List ColorChannel),
      ((slots header.colors).Nodup → (slots (header.mergeAll batches).colors).Nodup) ∧
      (header.mergeAll batches).settings = header.settings := by
  intro merged added
  refine ⟨?_, slots_putAll channels header.colors, nodup_newSlots _ _, fun _ => mem_newSlots_iff,
    fun slot => first?_putAll slot channels header.colors, ?_⟩
  · have twice : (merged.merge channels).colors = merged.colors := by
      rw [colors_merge, colors_merge, putAll_putAll]
    exact congrArg (fun colors => ({ header with colors := colors } : Header)) twice
  · intro batches
    exact ⟨fun distinct => nodup_slots_mergeAll distinct batches, settings_mergeAll header batches⟩

def duskHeader : Header where
  colors := [{ slot := 1000, rgb := ⟨40, 125, 255⟩ }, { slot := 4, rgb := ⟨9, 9, 9⟩ }]
  settings := [("kA13", "0")]

def duskColors : List ColorChannel :=
  [{ slot := 4, rgb := ⟨255, 0, 0⟩ }, { slot := 7, rgb := ⟨1, 2, 3⟩ },
    { slot := 4, rgb := ⟨0, 255, 0⟩ }]

theorem duskHeader_keeps_slots :
    (duskHeader.merge duskColors).merge duskColors = duskHeader.merge duskColors ∧
    slots (duskHeader.merge duskColors).colors = [1000, 4, 7] ∧
    first? 4 (duskHeader.merge duskColors).colors = some { slot := 4, rgb := ⟨0, 255, 0⟩ } ∧
    (slots (duskHeader.mergeAll [duskColors, duskColors.reverse]).colors).Nodup ∧
    (duskHeader.mergeAll [duskColors, duskColors.reverse]).settings = [("kA13", "0")] := by
  obtain ⟨twice, ordered, _, _, first, often⟩ := merge_keeps_slots duskHeader duskColors
  obtain ⟨distinct, settings⟩ := often [duskColors, duskColors.reverse]
  have added : newSlots (slots duskColors) (slots duskHeader.colors) = [7] := by decide
  rw [added] at ordered
  exact ⟨twice, ordered, first 4, distinct (by decide), settings⟩

end Header
end Corridor
