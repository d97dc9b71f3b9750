import Corridor.Json.Shape
import Corridor.Proofs.JsonText
/-!
Members left out of a value, at any depth. Main statement: a field that is left out is read as its
default, and any other as what is left of its value.
-/
namespace Corridor.Json

inductive Step where
  | member (name : String)
  | item (index : Nat)
  deriving DecidableEq, Repr

/-- The keys of a value that are left out, each by the way to it. -/
abbrev Omission := List Step → Bool

def Omission.after (omission : Omission) (step : Step) : Omission := fun way => omission (step :: way)

mutual

def without : Json → Omission → Json
  | .array items, omission => .array (itemsWithout 0 items omission)
  | .object members, omission => .object (membersWithout members omission)
  | json, _ => json

def itemsWithout : Nat → List Json → Omission → List Json
  | _, [], _ => []
  | index, item :: rest, omission =>
    item.without (omission.after (.item index)) :: itemsWithout (index + 1) rest omission

def membersWithout : List (Option String × Json) → Omission → List (Option String × Json)
  | [], _ => []
  | (none, value) :: rest, omission => (none, value) :: membersWithout rest omission
  | (some name, value) :: rest, omission =>
    if omission [.member name] then membersWithout rest omission
    else (some name, value.without (omission.after (.member name))) :: membersWithout rest omission

end

def Omission.none : Omission := fun _ => false

mutual

theorem without_none : ∀ json : Json, json.without .none = json
  | .null => rfl
  | .bool _ => rfl
  | .number _ => rfl
  | .string _ => rfl
  | .array items => congrArg Json.array (itemsWithout_none 0 items)
  | .object members => congrArg Json.object (membersWithout_none members)

theorem itemsWithout_none : ∀ (index : Nat) (items : List Json),
    itemsWithout index items .none = items
  | _, [] => rfl
  | index, item :: rest =>
    congr (congrArg List.cons (without_none item)) (itemsWithout_none (index + 1) rest)

theorem membersWithout_none : ∀ members : List (Option String × Json),
    membersWithout members .none = members
  | [] => rfl
  | (none, value) :: rest => congrArg ((none, value) :: ·) (membersWithout_none rest)
  | (some name, value) :: rest =>
    congr (congrArg (fun value => List.cons (some name, value)) (without_none value))
      (membersWithout_none rest)

end

variable {omission : Omission}

theorem itemsWithout_eq_mapIdx (start : Nat) (items : List Json) :
    itemsWithout start items omission =
      items.mapIdx fun index item => item.without (omission.after (.item (start + index))) := by
  induction items generalizing start with
  | nil => rfl
  | cons item rest ih =>
    have shift (index : Nat) : start + 1 + index = start + (index + 1) := by omega
    rw [itemsWithout, ih, List.mapIdx_cons]
    simp only [shift, Nat.add_zero]

theorem exists_of_mem_membersWithout {members : List (Option String × Json)}
    {member : Option String × Json} (present : member ∈ membersWithout members omission) :
    ∃ source ∈ members, member.1 = source.1 ∧
      (member.2 = source.2 ∨ ∃ inner, member.2 = source.2.without inner) := by
  induction members with
  | nil => cases present
  | cons first rest ih =>
    have fromRest (later : member ∈ membersWithout rest omission) :
        ∃ source ∈ first :: rest, member.1 = source.1 ∧
          (member.2 = source.2 ∨ ∃ inner, member.2 = source.2.without inner) := by
      obtain ⟨source, listed, same⟩ := ih later
      exact ⟨source, List.mem_cons_of_mem first listed, same⟩
    obtain ⟨name, value⟩ := first
    cases name with
    | none =>
      rcases List.mem_cons.mp present with rfl | later
      · exact ⟨_, List.mem_cons_self, rfl, .inl rfl⟩
      · exact fromRest later
    | some name =>
      rw [membersWithout] at present
      split at present
      · exact fromRest present
      · rcases List.mem_cons.mp present with rfl | later
        · exact ⟨_, List.mem_cons_self, rfl, .inr ⟨_, rfl⟩⟩
        · exact fromRest later

theorem Plain.without {json : Json} (plain : json.Plain) (omission : Omission) :
    (json.without omission).Plain := by
  induction plain generalizing omission with
  | null => exact .null
  | bool value => exact .bool value
  | integer negative magnitude => exact .integer negative magnitude
  | string text => exact .string text
  | array _ each =>
    refine .array fun item member => ?_
    rw [itemsWithout_eq_mapIdx] at member
    obtain ⟨index, bound, rfl⟩ := List.mem_mapIdx.mp member
    exact each _ (List.getElem_mem bound) _
  | object named plain each =>
    refine .object (fun member present => ?_) fun member present => ?_
    · obtain ⟨source, listed, same, _⟩ := exists_of_mem_membersWithout present
      rw [same]
      exact named source listed
    · obtain ⟨source, listed, _, unchanged | ⟨inner, left⟩⟩ := exists_of_mem_membersWithout present
      · rw [unchanged]
        exact plain source listed
      · rw [left]
        exact each source listed inner

def kept (members : List (String × Json)) (omission : Omission) : List (String × Json) :=
  (members.filter fun member => !omission [.member member.1]).map fun member =>
    (member.1, member.2.without (omission.after (.member member.1)))

theorem without_ofMembers (members : List (String × Json)) :
    (ofMembers members).without omission = ofMembers (kept members omission) := by
  rw [ofMembers, ofMembers, without]
  congr 1
  induction members with
  | nil => rfl
  | cons member rest ih =>
    obtain ⟨name, value⟩ := member
    by_cases gone : omission [.member name] = true
    · simp [membersWithout, kept, gone, ih]
    · simp [membersWithout, kept, gone, ih]

theorem without_ofList {α : Type} (write : α → Json) (items : List α) :
    (ofList write items).without omission =
      .array (items.mapIdx fun index item => (write item).without (omission.after (.item index))) := by
  rw [ofList, without, itemsWithout_eq_mapIdx]
  congr 1
  apply List.ext_getElem?
  intro index
  simp only [List.getElem?_mapIdx, List.getElem?_map, Option.map_map, Function.comp_def,
    Nat.zero_add]

theorem list?_without {α : Type} {write : α → Json} {read : Json → Option α} {items : List α}
    (each : ∀ index item, items[index]? = some item →
      read ((write item).without (omission.after (.item index))) = some item) :
    list? read ((ofList write items).without omission) = some items := by
  have collected : ∀ (items : List α) (left : Nat → α → Json),
      (∀ index item, items[index]? = some item → read (left index item) = some item) →
      (items.mapIdx left).mapM read = some items := by
    intro items
    induction items with
    | nil => exact fun _ _ => rfl
    | cons item rest ih =>
      intro left each
      have later := ih (fun index => left (index + 1)) fun index other listed =>
        each (index + 1) other listed
      rw [List.mapIdx_cons, List.mapM_cons, each 0 item rfl, later]
      rfl
  rw [without_ofList]
  exact collected items _ each

theorem names_kept_sublist (members : List (String × Json)) :
    ((kept members omission).map Prod.fst).Sublist (members.map Prod.fst) := by
  rw [kept, List.map_map]
  exact List.filter_sublist.map Prod.fst

theorem lookup_kept (members : List (String × Json)) (name : String) :
    (kept members omission).lookup name =
      if omission [.member name] then none
      else (members.lookup name).map fun value => value.without (omission.after (.member name)) := by
  induction members with
  | nil => simp [kept]
  | cons member rest ih =>
    obtain ⟨other, value⟩ := member
    rw [kept] at ih ⊢
    by_cases same : name = other
    · subst same
      cases gone : omission [.member name] with
      | true =>
        rw [List.filter_cons_of_neg (by simp [gone]), ih, gone]
        rfl
      | false =>
        rw [List.filter_cons_of_pos (by simp [gone]), List.map_cons, List.lookup_cons_self,
          List.lookup_cons_self]
        rfl
    · have skipped : (name == other) = false := beq_false_of_ne same
      rw [List.lookup_cons, skipped]
      cases gone : omission [.member other] with
      | true => rw [List.filter_cons_of_neg (by simp [gone]), ih]
      | false =>
        rw [List.filter_cons_of_pos (by simp [gone]), List.map_cons, List.lookup_cons, skipped]
        exact ih

theorem fields?_ofMembers {names : List String} {members : List (String × Json)}
    (distinct : names.Nodup) (known : (members.map Prod.fst).Sublist names) :
    (ofMembers members).fields? names = some members := by
  have texts : (members.map fun member => (some member.1, member.2)).mapM
      (fun member : Option String × Json => member.1.map fun name => (name, member.2)) =
      some members := by
    rw [List.mapM_map]
    exact (List.mapM_pure (f := id)).trans (congrArg some (List.map_id members))
  have listed : members.filter (fun member => names.contains member.1) = members := by
    apply List.filter_eq_self.mpr
    intro member present
    exact List.contains_iff_mem.mpr (known.mem (List.mem_map_of_mem present))
  calc
    (ofMembers members).fields? names =
        (some members).bind fun members =>
          let known := members.filter fun member => names.contains member.1
          if (known.map Prod.fst).Nodup then some known else none := congrArg (Option.bind · _) texts
    _ = some members := by
      rw [Option.bind_some, listed]
      exact if_pos (known.nodup distinct)

theorem required_kept {α : Type} (members : List (String × Json)) (name : String) {json : Json}
    {value : α} {read : Json → Option α} (listed : members.lookup name = some json)
    (stays : omission [.member name] = false)
    (readable : read (json.without (omission.after (.member name))) = some value) :
    required (kept members omission) name read = some value := by
  rw [required, lookup_kept, listed, stays]
  exact readable

theorem optional_kept {α : Type} (members : List (String × Json)) (name : String) {json : Json}
    {value default : α} {read : Json → Option α} (listed : members.lookup name = some json)
    (atDefault : omission [.member name] = true → value = default)
    (readable : read (json.without (omission.after (.member name))) = some value) :
    optional (kept members omission) name default read = some value := by
  rw [optional, lookup_kept, listed]
  cases gone : omission [.member name] with
  | true => rw [atDefault gone]; rfl
  | false => exact readable

end Corridor.Json
