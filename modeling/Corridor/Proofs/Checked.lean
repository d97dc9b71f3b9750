import Mathlib.Data.List.Forall2
/-!
Computations that may be refused: where a result that was not refused came from, and with which of
several faults a computation is refused.
-/
namespace Corridor.Checked

variable {ε α β : Type}

theorem bind_eq_ok_iff {first : Except ε α} {next : α → Except ε β} {result : β} :
    first >>= next = .ok result ↔ ∃ value, first = .ok value ∧ next value = .ok result := by
  cases first with
  | error error => simp [bind, Except.bind]
  | ok value => simp [bind, Except.bind]

theorem map_eq_ok_iff {first : Except ε α} {f : α → β} {result : β} :
    first.map f = .ok result ↔ ∃ value, first = .ok value ∧ f value = result := by
  cases first with
  | error error => simp [Except.map]
  | ok value => simp [Except.map]

theorem map_eq_error_iff {first : Except ε α} {f : α → β} {error : ε} :
    first.map f = .error error ↔ first = .error error := by
  cases first <;> simp [Except.map]

theorem guard_eq_ok_iff {test : Prop} [Decidable test] {error : ε} {stopped : Unit → Except ε β}
    {next : Except ε β} {result : β} :
    (if test then throw error >>= stopped else next) = .ok result ↔ ¬test ∧ next = .ok result := by
  by_cases fails : test
  · simp [fails, throw, throwThe, MonadExceptOf.throw, bind, Except.bind]
  · simp [fails]

theorem mapM_eq_ok_iff {f : α → Except ε β} {items : List α} {results : List β} :
    items.mapM f = .ok results ↔ List.Forall₂ (fun item result => f item = .ok result) items results := by
  induction items generalizing results with
  | nil => cases results <;> simp [pure, Except.pure]
  | cons item rest ih =>
    rw [List.mapM_cons, bind_eq_ok_iff]
    constructor
    · rintro ⟨first, head, remaining⟩
      obtain ⟨others, tail, joined⟩ := bind_eq_ok_iff.mp remaining
      cases joined
      exact .cons head (ih.mp tail)
    · intro matched
      cases matched with
      | cons head tail => exact ⟨_, head, bind_eq_ok_iff.mpr ⟨_, ih.mpr tail, rfl⟩⟩

theorem exists_of_mem_forall₂ {Match : α → β → Prop} {items : List α} {results : List β}
    (matched : List.Forall₂ Match items results) {result : β} (member : result ∈ results) :
    ∃ item ∈ items, Match item result := by
  induction matched with
  | nil => cases member
  | cons head _ ih =>
    rcases List.mem_cons.mp member with rfl | later
    · exact ⟨_, List.mem_cons_self, head⟩
    · obtain ⟨item, present, computed⟩ := ih later
      exact ⟨item, List.mem_cons_of_mem _ present, computed⟩

theorem exists_of_mem_mapM {f : α → Except ε β} {items : List α} {results : List β}
    (accepted : items.mapM f = .ok results) {result : β} (member : result ∈ results) :
    ∃ item ∈ items, f item = .ok result :=
  exists_of_mem_forall₂ (mapM_eq_ok_iff.mp accepted) member

theorem mapM_eq_ok_map {f : α → Except ε β} {g : α → β} {items : List α}
    (computed : ∀ item ∈ items, f item = .ok (g item)) : items.mapM f = .ok (items.map g) := by
  rw [mapM_eq_ok_iff, List.forall₂_map_right_iff, List.forall₂_same]
  exact computed

theorem map_eq_map_of_mapM {γ : Type} {f : α → Except ε β} {items : List α} {results : List β}
    (accepted : items.mapM f = .ok results) {g : α → γ} {h : β → γ}
    (same : ∀ item ∈ items, ∀ result, f item = .ok result → h result = g item) :
    results.map h = items.map g := by
  rw [mapM_eq_ok_iff] at accepted
  induction accepted with
  | nil => rfl
  | cons computed _ ih =>
    obtain ⟨first, others⟩ := List.forall_mem_cons.mp same
    rw [List.map_cons, List.map_cons, first _ computed, ih others]

theorem mapM_congr {f g : α → Except ε β} {items : List α} (same : ∀ item ∈ items, f item = g item) :
    items.mapM f = items.mapM g := by
  induction items with
  | nil => rfl
  | cons item rest ih =>
    rw [List.mapM_cons, List.mapM_cons, same item List.mem_cons_self,
      ih fun other member => same other (List.mem_cons_of_mem item member)]

theorem mapM_cons_eq_error_iff {f : α → Except ε β} {first : α} {rest : List α} {error : ε} :
    (first :: rest).mapM f = .error error ↔
      f first = .error error ∨ (∃ result, f first = .ok result) ∧ rest.mapM f = .error error := by
  rw [List.mapM_cons]
  cases f first with
  | error found => simp [bind, Except.bind]
  | ok result => cases rest.mapM f <;> simp [bind, Except.bind, pure, Except.pure]

theorem mapM_eq_error_iff {f : α → Except ε β} {items : List α} {error : ε} :
    items.mapM f = .error error ↔
      ∃ before item after, items = before ++ item :: after ∧
        (∀ other ∈ before, ∃ result, f other = .ok result) ∧ f item = .error error := by
  induction items with
  | nil => simp [pure, Except.pure]
  | cons first rest ih =>
    rw [mapM_cons_eq_error_iff, ih]
    constructor
    · rintro (refused | ⟨accepted, before, item, after, split, earlier, refused⟩)
      · exact ⟨[], first, rest, rfl, List.forall_mem_nil _, refused⟩
      · refine ⟨first :: before, item, after, congrArg (first :: ·) split, ?_, refused⟩
        exact List.forall_mem_cons.mpr ⟨accepted, earlier⟩
    · rintro ⟨before, item, after, split, earlier, refused⟩
      cases before with
      | nil =>
        cases split
        exact .inl refused
      | cons head before =>
        cases split
        obtain ⟨accepted, others⟩ := List.forall_mem_cons.mp earlier
        exact .inr ⟨accepted, before, item, after, rfl, others, refused⟩

def faults : Except ε α → List ε
  | .error error => [error]
  | .ok _ => []

theorem faults_eq_nil_iff {computation : Except ε α} :
    faults computation = [] ↔ ∃ value, computation = .ok value := by
  cases computation <;> simp [faults]

/-- A computation is refused with the first of the given faults, and accepted if there is none. -/
def Reports (computation : Except ε α) (given : List ε) : Prop :=
  (faults computation).head? = given.head?

namespace Reports

variable {computation : Except ε α} {given others : List ε}

theorem of_eq (same : faults computation = given) : Reports computation given :=
  congrArg List.head? same

theorem eq_error_iff (reports : Reports computation given) {error : ε} :
    computation = .error error ↔ given.head? = some error := by
  rw [← reports]
  cases computation <;> simp [faults]

theorem exists_ok_iff (reports : Reports computation given) :
    (∃ value, computation = .ok value) ↔ given = [] := by
  rw [← faults_eq_nil_iff, ← List.head?_eq_none_iff, ← List.head?_eq_none_iff, reports]

theorem bind {next : α → Except ε β} (first : Reports computation given)
    (second : ∀ value, computation = .ok value → Reports (next value) others) :
    Reports (computation >>= next) (given ++ others) := by
  cases computed : computation with
  | error error =>
    have found : given.head? = some error := first.eq_error_iff.mp computed
    rw [Reports, List.head?_append, found]
    rfl
  | ok value =>
    have none_given : given = [] := first.exists_ok_iff.mp ⟨value, computed⟩
    rw [none_given, List.nil_append]
    exact second value computed

theorem bind_pure {f : α → β} (first : Reports computation given) :
    Reports (computation >>= fun value => pure (f value)) given := by
  have joined : Reports (computation >>= fun value => pure (f value)) (given ++ []) :=
    first.bind fun _ _ => rfl
  rwa [List.append_nil] at joined

theorem guard {test : Prop} [Decidable test] {error : ε} {stopped : Unit → Except ε α}
    (rest : Reports computation others) :
    Reports (if test then throw error >>= stopped else computation)
      ((if test then [error] else []) ++ others) := by
  by_cases fails : test
  · rw [if_pos fails, if_pos fails]
    rfl
  · rw [if_neg fails, if_neg fails]
    exact rest

theorem mapM {f : α → Except ε β} {named : α → List ε} {items : List α}
    (each : ∀ item ∈ items, Reports (f item) (named item)) :
    Reports (items.mapM f) (items.flatMap named) := by
  induction items with
  | nil => rfl
  | cons item rest ih =>
    rw [List.mapM_cons, List.flatMap_cons]
    refine (each item List.mem_cons_self).bind fun _ _ => ?_
    exact (ih fun other member => each other (List.mem_cons_of_mem item member)).bind_pure

end Reports

theorem exists_mapM_eq_ok_iff {f : α → Except ε β} {items : List α} :
    (∃ results, items.mapM f = .ok results) ↔ ∀ item ∈ items, ∃ result, f item = .ok result := by
  have reports : Reports (items.mapM f) (items.flatMap fun item => faults (f item)) :=
    Reports.mapM fun _ _ => .of_eq rfl
  rw [reports.exists_ok_iff, List.flatMap_eq_nil_iff]
  exact forall₂_congr fun _ _ => faults_eq_nil_iff

end Corridor.Checked
