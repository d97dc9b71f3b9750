import Corridor.Level.Json
import Corridor.Proofs.Omission
/-!
Levels as JSON text. Main statement: a level is read back from its text, and also from what is left
of it when keys are left out whose fields are at their defaults.
-/
namespace Corridor

open Json (Omission kept optional_kept required_kept)

namespace Json

variable {omission : Omission}

/-- What is left out is allowed to be. The empty way leads to no key. -/
def Omission.Within (omission allowed : Omission) : Prop :=
  ∀ step way, omission (step :: way) = true → allowed (step :: way) = true

theorem int?_without {low high n : Int} (range : low ≤ n ∧ n ≤ high) :
    int? low high ((ofInt n).without omission) = some n := by
  have inside : (some n).filter (fun i => decide (low ≤ i ∧ i ≤ high)) = some n :=
    Option.filter_some_pos (decide_eq_true range)
  cases n with
  | ofNat n => exact inside
  | negSucc n => exact inside

theorem nat?_ofNat {max n : Nat} (bound : n ≤ max) : nat? max (ofNat n) = some n := by
  have range : (0 : Int) ≤ n ∧ (n : Int) ≤ max := by omega
  have whole : int? 0 max ((ofInt n).without .none) = some (n : Int) := int?_without range
  rw [without_none] at whole
  exact congrArg (Option.map Int.toNat) whole

theorem bool?_bool (value : Bool) : bool? (.bool value) = some value := rfl

theorem plain_ofInt (n : Int) : (ofInt n).Plain := by
  cases n with
  | ofNat n => exact .integer false n
  | negSucc n => exact .integer true (n + 1)

theorem plain_ofMembers {members : List (String × Json)}
    (plain : ∀ member ∈ members, member.2.Plain) : (ofMembers members).Plain := by
  refine .object (fun member present => ?_) fun member present => ?_
  · obtain ⟨source, _, rfl⟩ := List.mem_map.mp present
    rfl
  · obtain ⟨source, listed, rfl⟩ := List.mem_map.mp present
    exact plain source listed

theorem plain_ofList {α : Type} {write : α → Json} {items : List α}
    (plain : ∀ item ∈ items, (write item).Plain) : (ofList write items).Plain := by
  refine .array fun item present => ?_
  obtain ⟨source, listed, rfl⟩ := List.mem_map.mp present
  exact plain source listed

theorem fields?_without (omission : Omission) (names : List String) (members : List (String × Json))
    (distinct : names.Nodup) (named : members.map Prod.fst = names) :
    ((ofMembers members).without omission).fields? names = some (kept members omission) := by
  rw [without_ofMembers]
  exact fields?_ofMembers distinct (named ▸ names_kept_sublist members)

end Json

theorem Swing.ofJson?_name (swing : Swing) : ofJson? (.ofText swing.name) = some swing := by
  cases swing <;> decide

theorem PortalKind.ofJson?_name (portal : PortalKind) : ofJson? (.ofText portal.name) = some portal := by
  cases portal <;> decide

theorem SpeedChange.ofJson?_name (speed : SpeedChange) : ofJson? (.ofText speed.name) = some speed := by
  cases speed <;> decide

theorem WaveSize.ofJson?_name (size : WaveSize) : ofJson? (.ofText size.name) = some size := by
  cases size <;> decide

theorem ColorMode.ofJson?_name (mode : ColorMode) : ofJson? (.ofText mode.name) = some mode := by
  cases mode <;> decide

theorem Visibility.ofJson?_name (visibility : Visibility) :
    ofJson? (.ofText visibility.name) = some visibility := by
  cases visibility <;> decide

namespace SegmentOptions

def atDefault (options : SegmentOptions) : String → Bool
  | "portal" => options.portal = .absent
  | "gravity" => options.gravity = false
  | "speed_change" => options.speedChange = .absent
  | "spike" => options.spike = false
  | "spike_side" => options.spikeSide = false
  | "fuzzy" => options.fuzzy = false
  | _ => false

def omissible (options : SegmentOptions) : Omission
  | [.member name] => options.atDefault name
  | _ => false

theorem ofJson?_without {options : SegmentOptions} {omission : Omission}
    (within : omission.Within options.omissible) :
    ofJson? (options.toJson.without omission) = some options := by
  have atDefault (name : String) (gone : omission [.member name] = true) :
      options.atDefault name = true := within _ [] gone
  have fields := Json.fields?_without omission fieldNames options.members (by decide) rfl
  have portal := optional_kept options.members "portal" rfl
    (fun gone => of_decide_eq_true (atDefault _ gone)) (PortalKind.ofJson?_name options.portal)
  have gravity := optional_kept options.members "gravity" rfl
    (fun gone => of_decide_eq_true (atDefault _ gone)) (Json.bool?_bool _)
  have speedChange := optional_kept options.members "speed_change" rfl
    (fun gone => of_decide_eq_true (atDefault _ gone)) (SpeedChange.ofJson?_name options.speedChange)
  have spike := optional_kept options.members "spike" rfl
    (fun gone => of_decide_eq_true (atDefault _ gone)) (Json.bool?_bool _)
  have spikeSide := optional_kept options.members "spike_side" rfl
    (fun gone => of_decide_eq_true (atDefault _ gone)) (Json.bool?_bool _)
  have fuzzy := optional_kept options.members "fuzzy" rfl
    (fun gone => of_decide_eq_true (atDefault _ gone)) (Json.bool?_bool _)
  simp only [toJson, ofJson?, fields, portal, gravity, speedChange, spike, spikeSide, fuzzy, bind,
    Option.bind]

theorem plain_toJson (options : SegmentOptions) : options.toJson.Plain := by
  apply Json.plain_ofMembers
  simp only [members, List.forall_mem_cons]
  exact ⟨.string _, .bool _, .string _, .bool _, .bool _, .bool _, nofun⟩

end SegmentOptions

namespace Segment

structure InRange (segment : Segment) : Prop where
  x : Numeral.minInt32 ≤ segment.x ∧ segment.x ≤ Numeral.maxInt32
  y : Numeral.minInt32 ≤ segment.y ∧ segment.y ≤ Numeral.maxInt32

def atDefault (segment : Segment) : String → Bool
  | "swing" => segment.swing = .neutral
  | "options" => segment.options = {}
  | _ => false

def omissible (segment : Segment) : Omission
  | [.member name] => segment.atDefault name
  | .member "options" :: way => segment.options.omissible way
  | _ => false

theorem ofJson?_without {segment : Segment} (inRange : segment.InRange) {omission : Omission}
    (within : omission.Within segment.omissible) :
    ofJson? (segment.toJson.without omission) = some segment := by
  have atDefault (name : String) (gone : omission [.member name] = true) :
      segment.atDefault name = true := within _ [] gone
  have stays (name : String) (never : segment.atDefault name = false) :
      omission [.member name] = false := by
    cases gone : omission [.member name] with
    | false => rfl
    | true => exact absurd ((atDefault name gone).symm.trans never) (by decide)
  have inner : (omission.after (.member "options")).Within segment.options.omissible :=
    fun step way => within (.member "options") (step :: way)
  have fields := Json.fields?_without omission fieldNames segment.members (by decide) rfl
  have x := required_kept segment.members "x" rfl (stays _ rfl)
    (Json.int?_without inRange.x)
  have y := required_kept segment.members "y" rfl (stays _ rfl)
    (Json.int?_without inRange.y)
  have swing := optional_kept segment.members "swing" rfl
    (fun gone => of_decide_eq_true (atDefault _ gone)) (Swing.ofJson?_name segment.swing)
  have options := optional_kept segment.members "options" rfl
    (fun gone => of_decide_eq_true (atDefault _ gone)) (SegmentOptions.ofJson?_without inner)
  simp only [toJson, ofJson?, fields, Json.int32?, x, y, swing, options, bind, Option.bind]

theorem plain_toJson (segment : Segment) : segment.toJson.Plain := by
  apply Json.plain_ofMembers
  simp only [members, List.forall_mem_cons]
  exact ⟨Json.plain_ofInt _, Json.plain_ofInt _, .string _, segment.options.plain_toJson, nofun⟩

end Segment

namespace BiomeOptions

structure InRange (options : BiomeOptions) : Prop where
  corridorHeight : Numeral.minInt32 ≤ options.corridorHeight ∧
    options.corridorHeight ≤ Numeral.maxInt32
  length : Numeral.minInt64 ≤ options.length ∧ options.length ≤ Numeral.maxInt64
  minHeight : Numeral.minInt32 ≤ options.minHeight ∧ options.minHeight ≤ Numeral.maxInt32
  maxHeight : Numeral.minInt32 ≤ options.maxHeight ∧ options.maxHeight ≤ Numeral.maxInt32

def atDefault (options : BiomeOptions) : String → Bool
  | "corridor_height" => options.corridorHeight = 60
  | "starting_speed" => options.startingSpeed = .normal
  | "starting_size" => options.startingSize = .normal
  | "color_mode" => options.colorMode = .normal
  | "visibility" => options.visibility = .normal
  | "starting_gravity" => options.startingGravity = false
  | "length" => options.length = 0
  | "min_height" => options.minHeight = 45
  | "max_height" => options.maxHeight = 195
  | _ => false

def omissible (options : BiomeOptions) : Omission
  | [.member name] => options.atDefault name
  | _ => false

theorem ofJson?_without {options : BiomeOptions} (inRange : options.InRange) {omission : Omission}
    (within : omission.Within options.omissible) :
    ofJson? (options.toJson.without omission) = some options := by
  have atDefault (name : String) (gone : omission [.member name] = true) :
      options.atDefault name = true := within _ [] gone
  have fields := Json.fields?_without omission fieldNames options.members (by decide) rfl
  have corridorHeight := optional_kept options.members "corridor_height" rfl
    (fun gone => of_decide_eq_true (atDefault _ gone)) (Json.int?_without inRange.corridorHeight)
  have startingSpeed := optional_kept options.members "starting_speed" rfl
    (fun gone => of_decide_eq_true (atDefault _ gone))
    (SpeedChange.ofJson?_name options.startingSpeed)
  have startingSize := optional_kept options.members "starting_size" rfl
    (fun gone => of_decide_eq_true (atDefault _ gone)) (WaveSize.ofJson?_name options.startingSize)
  have colorMode := optional_kept options.members "color_mode" rfl
    (fun gone => of_decide_eq_true (atDefault _ gone)) (ColorMode.ofJson?_name options.colorMode)
  have visibility := optional_kept options.members "visibility" rfl
    (fun gone => of_decide_eq_true (atDefault _ gone)) (Visibility.ofJson?_name options.visibility)
  have startingGravity := optional_kept options.members "starting_gravity" rfl
    (fun gone => of_decide_eq_true (atDefault _ gone)) (Json.bool?_bool _)
  have length := optional_kept options.members "length" rfl
    (fun gone => of_decide_eq_true (atDefault _ gone)) (Json.int?_without inRange.length)
  have minHeight := optional_kept options.members "min_height" rfl
    (fun gone => of_decide_eq_true (atDefault _ gone)) (Json.int?_without inRange.minHeight)
  have maxHeight := optional_kept options.members "max_height" rfl
    (fun gone => of_decide_eq_true (atDefault _ gone)) (Json.int?_without inRange.maxHeight)
  simp only [toJson, ofJson?, fields, Json.int32?, Json.int64?, corridorHeight, startingSpeed,
    startingSize, colorMode, visibility, startingGravity, length, minHeight, maxHeight, bind,
    Option.bind]

theorem plain_toJson (options : BiomeOptions) : options.toJson.Plain := by
  apply Json.plain_ofMembers
  simp only [members, List.forall_mem_cons]
  exact ⟨Json.plain_ofInt _, .string _, .string _, .string _, .string _, .bool _,
    Json.plain_ofInt _, Json.plain_ofInt _, Json.plain_ofInt _, nofun⟩

end BiomeOptions

namespace Biome

structure InRange (biome : Biome) : Prop where
  options : biome.options.InRange
  xInitial : Numeral.minInt32 ≤ biome.xInitial ∧ biome.xInitial ≤ Numeral.maxInt32
  yInitial : Numeral.minInt32 ≤ biome.yInitial ∧ biome.yInitial ≤ Numeral.maxInt32
  segments : ∀ segment ∈ biome.segments, segment.InRange

def atDefault (biome : Biome) : String → Bool
  | "options" => biome.options = {}
  | "x_initial" => biome.xInitial = 465
  | "y_initial" => biome.yInitial = 195
  | "segments" => biome.segments = []
  | _ => false

def omissible (biome : Biome) : Omission
  | [.member name] => biome.atDefault name
  | .member "options" :: way => biome.options.omissible way
  | .member "segments" :: .item index :: way =>
    (biome.segments[index]?).any fun segment => segment.omissible way
  | _ => false

theorem ofJson?_without {biome : Biome} (inRange : biome.InRange) {omission : Omission}
    (within : omission.Within biome.omissible) :
    ofJson? (biome.toJson.without omission) = some biome := by
  have atDefault (name : String) (gone : omission [.member name] = true) :
      biome.atDefault name = true := within _ [] gone
  have inOptions : (omission.after (.member "options")).Within biome.options.omissible :=
    fun step way => within (.member "options") (step :: way)
  have inSegments (index : Nat) (segment : Segment) (listed : biome.segments[index]? = some segment) :
      ((omission.after (.member "segments")).after (.item index)).Within segment.omissible := by
    intro step way gone
    have allowed := within (.member "segments") (.item index :: step :: way) gone
    rwa [omissible, listed] at allowed
  have fields := Json.fields?_without omission fieldNames biome.members (by decide) rfl
  have options := optional_kept biome.members "options" rfl
    (fun gone => of_decide_eq_true (atDefault _ gone))
    (BiomeOptions.ofJson?_without inRange.options inOptions)
  have xInitial := optional_kept biome.members "x_initial" rfl
    (fun gone => of_decide_eq_true (atDefault _ gone)) (Json.int?_without inRange.xInitial)
  have yInitial := optional_kept biome.members "y_initial" rfl
    (fun gone => of_decide_eq_true (atDefault _ gone)) (Json.int?_without inRange.yInitial)
  have segments := optional_kept biome.members "segments" rfl
    (fun gone => of_decide_eq_true (atDefault _ gone))
    (Json.list?_without fun index segment listed =>
      Segment.ofJson?_without (inRange.segments segment (List.mem_of_getElem? listed))
        (inSegments index segment listed))
  simp only [toJson, ofJson?, fields, Json.int32?, options, xInitial, yInitial, segments, bind,
    Option.bind]

theorem plain_toJson (biome : Biome) : biome.toJson.Plain := by
  apply Json.plain_ofMembers
  simp only [members, List.forall_mem_cons]
  exact ⟨biome.options.plain_toJson, Json.plain_ofInt _, Json.plain_ofInt _,
    Json.plain_ofList fun segment _ => segment.plain_toJson, nofun⟩

end Biome

namespace Level

structure InRange (level : Level) : Prop where
  seed : level.seed ≤ Numeral.maxNat64
  song : Numeral.minInt32 ≤ level.song ∧ level.song ≤ Numeral.maxInt32
  biomes : ∀ biome ∈ level.biomes, biome.InRange

def atDefault (level : Level) : String → Bool
  | "seed" => level.seed = 0
  | "song" => level.song = 0
  | "biomes" => level.biomes = []
  | _ => false

/-- The keys, at any depth, whose fields have a default and are at it. -/
def omissible (level : Level) : Omission
  | [.member name] => level.atDefault name
  | .member "biomes" :: .item index :: way =>
    (level.biomes[index]?).any fun biome => biome.omissible way
  | _ => false

theorem ofJson?_without {level : Level} (inRange : level.InRange) {omission : Omission}
    (within : omission.Within level.omissible) :
    ofJson? (level.toJson.without omission) = some level := by
  have atDefault (name : String) (gone : omission [.member name] = true) :
      level.atDefault name = true := within _ [] gone
  have inBiomes (index : Nat) (biome : Biome) (listed : level.biomes[index]? = some biome) :
      ((omission.after (.member "biomes")).after (.item index)).Within biome.omissible := by
    intro step way gone
    have allowed := within (.member "biomes") (.item index :: step :: way) gone
    rwa [omissible, listed] at allowed
  have fields := Json.fields?_without omission fieldNames level.members (by decide) rfl
  have seed := optional_kept level.members "seed" rfl
    (fun gone => of_decide_eq_true (atDefault _ gone)) (Json.nat?_ofNat inRange.seed)
  have song := optional_kept level.members "song" rfl
    (fun gone => of_decide_eq_true (atDefault _ gone)) (Json.int?_without inRange.song)
  have biomes := optional_kept level.members "biomes" rfl
    (fun gone => of_decide_eq_true (atDefault _ gone))
    (Json.list?_without fun index biome listed =>
      Biome.ofJson?_without (inRange.biomes biome (List.mem_of_getElem? listed))
        (inBiomes index biome listed))
  simp only [toJson, ofJson?, fields, Json.int32?, seed, song, biomes, bind, Option.bind]

theorem plain_toJson (level : Level) : level.toJson.Plain := by
  apply Json.plain_ofMembers
  simp only [members, List.forall_mem_cons]
  exact ⟨.integer _ _, Json.plain_ofInt _, Json.plain_ofList fun biome _ => biome.plain_toJson,
    nofun⟩

/-- A level is read back from its text, and from what is left of it when any keys are left out
whose fields are at their defaults. -/
theorem text_reads_back {level : Level} (inRange : level.InRange) :
    parse? level.text = some level ∧
    ∀ omission : Omission, (∀ way, omission way = true → level.omissible way = true) →
      parse? (level.toJson.without omission).text = some level := by
  have readBack (omission : Omission) (within : omission.Within level.omissible) :
      parse? (level.toJson.without omission).text = some level := by
    rw [parse?, Json.parse?_text (level.plain_toJson.without omission)]
    exact ofJson?_without inRange within
  constructor
  · have whole := readBack .none fun _ _ => nofun
    rwa [Json.without_none] at whole
  · exact fun omission allowed => readBack omission fun step way => allowed (step :: way)

example : ((⟨465, 195, .up, {}⟩ : Segment).toJson.without (· = [.member "options"])).text =
    "\x7b\"x\":465,\"y\":195,\"swing\":\"up\"\x7d" := by
  decide

def chasmLevel : Level where
  seed := 18446744073709551615
  song := -2147483648
  biomes := [{}, {
    options := { startingSpeed := .half, length := 9223372036854775807, maxHeight := -2147483648 }
    xInitial := 0
    segments := [⟨2147483647, 195, .up, {}⟩, ⟨495, 225, .neutral, { portal := .fake, spike := true }⟩] }]

def chasmOmission : Omission := fun way =>
  [[.member "biomes", .item 0, .member "options"], [.member "biomes", .item 0, .member "segments"],
    [.member "biomes", .item 1, .member "y_initial"],
    [.member "biomes", .item 1, .member "options", .member "corridor_height"],
    [.member "biomes", .item 1, .member "options", .member "color_mode"],
    [.member "biomes", .item 1, .member "segments", .item 0, .member "options"],
    [.member "biomes", .item 1, .member "segments", .item 1, .member "swing"],
    [.member "biomes", .item 1, .member "segments", .item 1, .member "options", .member "gravity"]
    ].contains way

theorem chasmLevel_text_reads_back :
    chasmLevel.InRange ∧ (∀ way, chasmOmission way = true → chasmLevel.omissible way = true) ∧
    parse? chasmLevel.text = some chasmLevel ∧
    parse? (chasmLevel.toJson.without chasmOmission).text = some chasmLevel := by
  have first : Biome.InRange {} :=
    ⟨by constructor <;> decide, by decide, by decide, List.forall_mem_nil _⟩
  have second : ∀ biome ∈ chasmLevel.biomes.drop 1, biome.InRange := by
    simp only [chasmLevel, List.drop_succ_cons, List.drop_zero, List.forall_mem_singleton]
    refine ⟨by constructor <;> decide, by decide, by decide, ?_⟩
    simp only [List.forall_mem_cons]
    exact ⟨⟨by decide, by decide⟩, ⟨by decide, by decide⟩, List.forall_mem_nil _⟩
  have inRange : chasmLevel.InRange :=
    ⟨by decide, by decide, List.forall_mem_cons.mpr ⟨first, second⟩⟩
  have allowed : ∀ way, chasmOmission way = true → chasmLevel.omissible way = true := by
    intro way gone
    revert way
    simp only [chasmOmission, List.contains_iff_mem]
    decide
  obtain ⟨whole, without⟩ := text_reads_back inRange
  exact ⟨inRange, allowed, whole, without chasmOmission allowed⟩

end Level
end Corridor
