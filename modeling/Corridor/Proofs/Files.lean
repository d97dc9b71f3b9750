import Corridor.CommandLine.Files

namespace Corridor.CommandLine

namespace Script

variable {α β : Type}

theorem run_pure (result : α) (system : FileSystem) :
    (pure result : Script α).run system = ⟨result, system, []⟩ := rfl

theorem run_readFile (path : String) (system : FileSystem) :
    (readFile path).run system = ⟨system.read path, system, [path]⟩ := rfl

theorem run_bind (first : Script α) (next : α → Script β) (system : FileSystem) :
    (first >>= next).run system =
      let before := first.run system
      let after := (next before.result).run before.files
      ⟨after.result, after.files, before.opened ++ after.opened⟩ := by
  change (first.bind next).run system = _
  induction first generalizing system with
  | done result => rfl
  | read path rest ih => simp only [bind, run, ih, List.cons_append]
  | write path text rest ih =>
    simp only [bind, run]
    split <;> exact ih _ _

theorem run_writeFile (path text : String) (system : FileSystem) :
    (writeFile path text).run system =
      match system.write path text with
      | .error error => ⟨.error error, system, []⟩
      | .ok written => ⟨.ok (), written, []⟩ := by
  rw [writeFile, run]
  cases system.write path text <;> rfl

end Script

namespace FileSystem

variable {system : FileSystem}

def locate (system : FileSystem) (path : String) : Except FileError Location :=
  system.follow path (start path).2

theorem read_eq_ok_iff {path text : String} :
    system.read path = .ok text ↔
      ∃ location, system.locate path = .ok location ∧ system.entry? location = some (.file text) := by
  rw [read, locate]
  cases system.follow path (start path).2 with
  | error error => simp
  | ok location =>
    cases found : system.entry? location with
    | none => simp [found]
    | some held => cases held <;> simp [found]

example :
    read { unreadable := [(⟨.working 0, ["level.json"]⟩, .other "stream did not contain valid UTF-8")] }
      "./level.json" = .error (.other "stream did not contain valid UTF-8") :=
  rfl

theorem follow_eq_ok_iff {path : String} {names : List String} {location : Location} :
    system.follow path names = .ok location ↔
      path.utf8ByteSize ≤ longestPath ∧ system.walk (start path).1 names = .ok location := by
  rw [follow]
  split
  · rename_i long
    simp [Nat.not_le.mpr long]
  · rename_i short
    simp [Nat.not_lt.mp short]

theorem walk_cons_eq_ok_iff {start location : Location} {name : String} {rest : List String} :
    system.walk start (name :: rest) = .ok location ↔
      system.entry? start = some .directory ∧ name.utf8ByteSize ≤ longestName ∧
        system.walk (start.step name) rest = .ok location := by
  rw [walk]
  cases found : system.entry? start with
  | none => simp
  | some held =>
    cases held with
    | file text => simp
    | unreadable error => simp
    | directory =>
      by_cases long : longestName < name.utf8ByteSize
      · simp [long, Nat.not_le.mpr long]
      · simp [long, Nat.not_lt.mp long]

theorem walk_concat_eq_ok_iff {start location : Location} {names : List String} {last : String} :
    system.walk start (names ++ [last]) = .ok location ↔
      ∃ parent, system.walk start names = .ok parent ∧ system.entry? parent = some .directory ∧
        last.utf8ByteSize ≤ longestName ∧ location = parent.step last := by
  induction names generalizing start with
  | nil =>
    rw [List.nil_append, walk_cons_eq_ok_iff]
    simp [walk, eq_comm]
  | cons first rest ih =>
    simp only [List.cons_append, walk_cons_eq_ok_iff, ih]
    constructor
    · rintro ⟨directory, short, parent, found, last⟩
      exact ⟨parent, ⟨directory, short, found⟩, last⟩
    · rintro ⟨parent, ⟨directory, short, found⟩, last⟩
      exact ⟨directory, short, parent, found, last⟩

theorem start_append_slash (base : String) {name : String} (absent : '/' ∉ name.toList) :
    start (base ++ "/" ++ name) = ((start base).1, (start base).2 ++ [name]) := by
  have joined : (base ++ "/" ++ name).toList = base.toList ++ '/' :: name.toList := by
    rw [String.toList_append, String.toList_append, List.append_assoc]
    rfl
  obtain ⟨first, rest, pieces⟩ := List.exists_cons_of_ne_nil (List.splitOn_ne_nil '/' base.toList)
  have whole : (base ++ "/" ++ name).toList.splitOn '/' = first :: (rest ++ [name.toList]) := by
    rw [joined, List.splitOn_append_cons_self, pieces, List.splitOn_eq_singleton absent]
    rfl
  rw [start, start, whole, pieces]
  by_cases empty : first = []
  · simp [empty]
  · simp [empty]

/-- A path that ends in a slash leads to where the path before it leads, which is a directory. -/
theorem locate_slash_eq_ok_iff {base : String} {location : Location} :
    system.locate (base ++ "/") = .ok location ↔
      (base ++ "/").utf8ByteSize ≤ longestPath ∧
        system.walk (start base).1 (start base).2 = .ok location ∧
        system.entry? location = some .directory := by
  have names := start_append_slash base (show '/' ∉ "".toList from List.not_mem_nil)
  rw [String.append_empty] at names
  rw [locate, follow_eq_ok_iff, names, walk_concat_eq_ok_iff]
  simp [Location.step, longestName]

theorem locate_name_eq_ok_iff {base name : String} {location : Location}
    (absent : '/' ∉ name.toList) :
    system.locate (base ++ "/" ++ name) = .ok location ↔
      (base ++ "/" ++ name).utf8ByteSize ≤ longestPath ∧ name.utf8ByteSize ≤ longestName ∧
        ∃ parent, system.walk (start base).1 (start base).2 = .ok parent ∧
          system.entry? parent = some .directory ∧ location = parent.step name := by
  rw [locate, follow_eq_ok_iff, start_append_slash base absent, walk_concat_eq_ok_iff]
  constructor
  · rintro ⟨short, parent, led, directory, bound, same⟩
    exact ⟨short, bound, parent, led, directory, same⟩
  · rintro ⟨short, bound, parent, led, directory, same⟩
    exact ⟨short, parent, led, directory, bound, same⟩

theorem eq_concat_of_trimmed_ne {names : List String}
    (changed : (names.reverse.dropWhile (· = "")).reverse ≠ names) :
    ∃ front, names = front ++ [""] := by
  cases reversed : names.reverse with
  | nil => rw [List.reverse_eq_nil_iff.mp reversed] at changed; exact absurd rfl changed
  | cons last front =>
    by_cases empty : last = ""
    · exact ⟨front.reverse, by rw [← names.reverse_reverse, reversed, empty, List.reverse_cons]⟩
    · rw [reversed, List.dropWhile_cons_of_neg (by simpa using empty), ← reversed,
        List.reverse_reverse] at changed
      exact absurd rfl changed

theorem permit_eq_ok_iff {found location : Location} :
    system.permit found = .ok location ↔ found = location ∧
      system.entry? location ≠ some .directory ∧ system.locked.lookup location = none := by
  rw [permit]
  by_cases taken : system.entry? found = some .directory
  · rw [if_pos taken]
    refine iff_of_false nofun ?_
    rintro ⟨rfl, free, _⟩
    exact free taken
  · rw [if_neg taken]
    cases held : system.locked.lookup found with
    | some error =>
      refine iff_of_false nofun ?_
      rintro ⟨rfl, _, free⟩
      rw [held] at free
      cases free
    | none =>
      rw [Except.ok.injEq, iff_self_and]
      rintro rfl
      exact ⟨taken, held⟩

/-- A place to be written is looked up like any other: a path that ends in a slash leads to a
directory, which is refused. -/
theorem target_eq_ok_iff {path : String} {location : Location} :
    system.target path = .ok location ↔
      system.locate path = .ok location ∧ system.entry? location ≠ some .directory ∧
        system.locked.lookup location = none := by
  rw [target, locate]
  by_cases trimmed : ((start path).2.reverse.dropWhile (· = "")).reverse = (start path).2
  · simp only [trimmed, if_true]
    cases system.follow path (start path).2 with
    | error error => simp
    | ok found => simp only [permit_eq_ok_iff, Except.ok.injEq]
  · -- The last name is empty, so that both look-ups end at the directory before it.
    have refused {names : List String} {last : String} (dots : last = "" ∨ last = ".")
        {found : Location} (led : system.follow path (names ++ [last]) = .ok found) :
        system.entry? found = some .directory := by
      obtain ⟨parent, _, directory, _, same⟩ :=
        walk_concat_eq_ok_iff.mp (follow_eq_ok_iff.mp led).2
      rw [same, Location.step, if_pos dots, directory]
    obtain ⟨front, ended⟩ := eq_concat_of_trimmed_ne trimmed
    simp only [trimmed, if_false]
    constructor
    · intro found
      split at found
      · cases found
      · rename_i parent led
        obtain ⟨rfl, free, _⟩ := permit_eq_ok_iff.mp found
        exact absurd (refused (.inr rfl) led) free
    · rintro ⟨led, free, _⟩
      rw [ended] at led
      exact absurd (refused (.inl rfl) led) free

theorem lookup_put (location other : Location) (text : String) (files : List (Location × String)) :
    (put location text files).lookup other =
      if other = location then some text else files.lookup other := by
  induction files with
  | nil =>
    by_cases same : other = location
    · rw [same, put, List.lookup_cons_self, if_pos rfl]
    · rw [put, List.lookup_cons, beq_false_of_ne same, if_neg same]
  | cons first rest ih =>
    obtain ⟨taken, old⟩ := first
    rw [put]
    by_cases here : taken = location
    · rw [if_pos here]
      by_cases same : other = location
      · rw [same, List.lookup_cons_self, if_pos rfl]
      · rw [List.lookup_cons, List.lookup_cons, here, beq_false_of_ne same, if_neg same]
    · rw [if_neg here]
      by_cases met : other = taken
      · rw [met, List.lookup_cons_self, List.lookup_cons_self, if_neg here]
      · rw [List.lookup_cons, List.lookup_cons, beq_false_of_ne met, ih]

theorem entry?_put (location other : Location) (text : String) :
    entry? { system with files := put location text system.files } other =
      if other = location then some (.file text) else system.entry? other := by
  by_cases same : other = location
  · simp [ entry?, lookup_put, same]
  · simp [ entry?, lookup_put, same]

theorem walk_put {location start : Location} (text : String) {names : List String}
    (free : system.entry? location ≠ some .directory)
    {found : Location} (led : system.walk start names = .ok found) :
    walk { system with files := put location text system.files } start names = .ok found := by
  induction names generalizing start with
  | nil => exact led
  | cons name rest ih =>
    obtain ⟨directory, short, led⟩ := walk_cons_eq_ok_iff.mp led
    have other : start ≠ location := by
      rintro rfl
      exact free directory
    refine walk_cons_eq_ok_iff.mpr ⟨?_, short, ih led⟩
    rw [entry?_put, if_neg other, directory]

theorem write_eq_ok_iff {path text : String} {written : FileSystem} :
    system.write path text = .ok written ↔
      ∃ location, system.target path = .ok location ∧
        written = { system with files := put location text system.files } := by
  rw [write]
  cases system.target path with
  | error error => simp [Except.map]
  | ok location => simp [Except.map, eq_comm]

theorem read_of_write {path text : String} {written : FileSystem}
    (succeeded : system.write path text = .ok written) :
    written.read path = .ok text ∧ ∃ location, system.target path = .ok location ∧
      ∀ other ≠ location, written.entry? other = system.entry? other := by
  obtain ⟨location, target, rfl⟩ := write_eq_ok_iff.mp succeeded
  obtain ⟨led, free, _⟩ := target_eq_ok_iff.mp target
  obtain ⟨short, led⟩ := follow_eq_ok_iff.mp led
  refine ⟨read_eq_ok_iff.mpr ⟨location, follow_eq_ok_iff.mpr ⟨short, walk_put text free led⟩, ?_⟩,
    location, target, fun other distinct => ?_⟩
  · rw [entry?_put, if_pos rfl]
  · rw [entry?_put, if_neg distinct]

end FileSystem
end Corridor.CommandLine
