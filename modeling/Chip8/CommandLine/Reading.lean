import Chip8.CommandLine.Config
import Chip8.Viewer.Settings

/-!
# Reading settings off a configuration

Each setting is looked up by its name and taken for what it can be taken for: a size, an address, a
width, a text. Truth values count as the numbers one and zero. What a setting cannot be taken for is
a fault that shows where the setting is used.

`Config.resolution_ofSettings` says that settings without references are what a configuration of
them gives.
-/

namespace Chip8

open Reference (Found)

/-- The number that a value counts as, if it is a whole one. -/
def Value.integer? : Value → Option Int
  | .scalar (.integer n) => some n
  | .scalar (.truth b) => some (if b then 1 else 0)
  | _ => none

namespace Config

/-- A number that may be left out. -/
def optional : Option Int → Value
  | some n => .scalar (.integer n)
  | none => .null

/-- The configuration that gives certain settings. -/
def ofSettings (settings : Settings) : Config where
  entries := [
    (.text "roms", .list .given (settings.roms.map .text)),
    (.text "program_base", .scalar (.integer settings.programBase)),
    (.text "memory_size", .scalar (.integer settings.memorySize)),
    (.text "listing_width", optional settings.listingWidth),
    (.text "watch_width", optional settings.watchWidth),
    (.text "color_scheme", .text settings.colourScheme),
    (.text "show_watch", .scalar (.truth settings.showWatch)),
    (.text "highlight", optional settings.highlight),
    (.text "log_level", .text settings.logLevel)]

/-- The default configuration with values replaced. -/
def ofEntries (entries : List (String × Value)) : Except Fault Config :=
  (ofSettings {}).update entries

/-! ## The size of memory -/

/-- The outline of a value, which is followed into lists and the keys of tables. -/
def outline (config : Config) : Nat → Found → Except Fault Grid.Outline
  | 0, _ => .error (.tooManyDimensions (dimensionLimit + 1))
  | fuel + 1, found =>
    match found.value with
    | .list origin items => do
      let items ← (places found items).mapM (config.resolveItem origin)
      return Grid.Outline.ofRows (← items.mapM (config.outline fuel))
    | .table .data _ | .scalar _ => .ok Grid.Outline.item
    | .table _ entries => .ok ⟨[entries.length], true⟩

/-- An extent. -/
def extent (value : Value) : Except Fault Int :=
  match value.integer? with
  | some n => .ok n
  | none => .error (.unsuitable "memory_size")

/-- The extents in a list. A list of the configuration has to be an even array. -/
def extentsOf (config : Config) (found : Found) (origin : Origin) (items : List Value) :
    Except Fault Extent := do
  if origin ≠ .data then
    let outline ← config.outline (dimensionLimit + 1) found
    if !outline.even then throw (.unevenArray outline.shape)
  let items ← (places found items).mapM (config.resolveItem origin)
  return .extents (← items.mapM fun item => extent item.value)

/-- What a setting says of the size of memory. The keys of a table count as extents. -/
def size (config : Config) (key : String) : Except Fault Extent := do
  let found ← config.get key
  match found.value with
  | .scalar (.integer n) => return .bytes n
  | .scalar (.truth b) => return .truth b
  | .list origin items => config.extentsOf found origin items
  | .table .data _ | .scalar _ => .error (.unsuitable key)
  | .table _ entries => return .extents (← entries.mapM fun (key, _) => extent (.scalar key))

/-! ## Numbers -/

/-- What a setting says of an address to load at. The items of a list are looked up before it turns
out that nothing can be added to it. -/
def base (config : Config) (key : String) : Except Fault Base := do
  let found ← config.get key
  match found.value with
  | .scalar (.number r) => return .number r
  | .list origin items =>
    match (places found items).mapM (config.resolveItem origin) with
    | .error fault => return .unsuited fault
    | .ok _ => return .unsuited (.unsuitable key)
  | value =>
    match value.integer? with
    | some n => return .address n
    | none => return .unsuited (.unsuitable key)

/-- What a setting says of a width. -/
def width (config : Config) (key : String) : Except Fault Width := do
  match (← config.get key).value with
  | .null => return .unlimited
  | .scalar (.number r) => return .number r
  | value => return (value.integer?.map .columns).getD .unsuited

/-- What a setting says of an address to highlight. -/
def pointer (config : Config) (key : String) : Except Fault (Option Pointer) := do
  match (← config.get key).value with
  | .null => return none
  | .scalar (.number r) => return some (.number r)
  | .text s => return some (.text s)
  | .scalar (.bytes bs) => return some (.bytes bs)
  | value => return some ((value.integer?.map .address).getD .unsuited)

/-! ## Texts and truth values -/

/-- A setting that is true or not, whatever it is. -/
def truth (config : Config) (key : String) : Except Fault Bool := do
  return (← config.get key).value.holds

/-- A setting that names a palette. Whatever it is counts as shown, but a path names none, and mere
lists and tables are not taken at all. -/
def scheme (config : Config) (key : String) : Except Fault String := do
  match (← config.get key).value with
  | .list .data _ | .table .data _ => .error (.unsuitable key)
  | .scalar (.path p) => .error (.unknownPalette p.shown)
  | value => value.shown

/-- The key under which a level would have its capitals. -/
def capitalsKey : String := "upper"

/-- A setting that names a log level. -/
def level (config : Config) (key : String) : Except Fault String := do
  let found ← config.get key
  match found.value with
  | .text s => return s
  | .scalar (.bytes bs) => .error (.unknownLevel (Text.quotedBytes bs))
  | .list .data _ | .table .data _ | .scalar _ => .error .levelNotText
  | .list _ _ => .error .levelIsPart
  | .table _ entries =>
    match entries.lookup (.text capitalsKey) with
    | none => .error .levelIsPart
    | some value =>
      let _ ← config.resolve ⟨value, ⟨capitalsKey, found.value⟩ :: found.trail⟩
      .error (.unsuitable key)

/-! ## Names -/

/-- The name that a value is. -/
def name (key : String) : Value → Except Fault String
  | .text s => .ok s
  | .scalar (.path p) => .ok p.shown
  | _ => .error (.unsuitable key)

/-- The names in a list, looked up one after the other. -/
def names (config : Config) (key : String) (origin : Origin) :
    List Found → Except Fault (List String)
  | [] => .ok []
  | item :: rest => do
    let first ← name key (← config.resolveItem origin item).value
    return first :: (← config.names key origin rest)

/-- A setting that lists names. Nothing lists none, a text lists its characters, and a table its
keys. -/
def nameList (config : Config) (key : String) : Except Fault (List String) := do
  let found ← config.get key
  if found.value.holds then
    match found.value with
    | .text s => return s.toList.map fun c => String.ofList [c]
    | .scalar _ => .error (.unsuitable key)
    | .list origin items => config.names key origin (places found items)
    | .table _ entries => entries.mapM fun (k, _) => name key (.scalar k)
  else return []

/-- The settings that a configuration gives. -/
def resolution (config : Config) : Resolution where
  roms := config.nameList "roms"
  programBase := config.base "program_base"
  memorySize := config.size "memory_size"
  listingWidth := config.width "listing_width"
  watchWidth := config.width "watch_width"
  colourScheme := config.scheme "color_scheme"
  showWatch := config.truth "show_watch"
  highlight := config.pointer "highlight"
  logLevel := config.level "log_level"

/-! ## Settings without references -/

/-- Whether a text stands for itself. -/
def IsPlain (s : String) : Prop :=
  s ≠ Value.unsetMark ∧ Reference.isOpened s.toList = false

theorem resolve_of_isPlain (config : Config) (trail : Reference.Trail) {s : String}
    (plain : IsPlain s) : config.resolve ⟨.text s, trail⟩ = .ok ⟨.text s, trail⟩ := by
  simp [resolve, Value.isUnset, plain.1, expand, plain.2]

theorem get_eq_resolve {config : Config} {key : String} {value : Value}
    (entry : config.lookup? key = some value) :
    config.get key = config.resolve ⟨value, [⟨key, config.root⟩]⟩ := by
  simp [get, entry]

theorem size_eq_ok {config : Config} {key : String} {n : Int}
    (entry : config.lookup? key = some (.scalar (.integer n))) :
    config.size key = .ok (.bytes n) := by
  rw [size, get_eq_resolve entry]
  rfl

theorem base_eq_ok {config : Config} {key : String} {n : Int}
    (entry : config.lookup? key = some (.scalar (.integer n))) :
    config.base key = .ok (.address n) := by
  rw [base, get_eq_resolve entry]
  rfl

theorem width_eq_ok {config : Config} {key : String} {n : Option Int}
    (entry : config.lookup? key = some (optional n)) : config.width key = .ok (.ofOption n) := by
  rw [width, get_eq_resolve entry]
  cases n <;> rfl

theorem pointer_eq_ok {config : Config} {key : String} {n : Option Int}
    (entry : config.lookup? key = some (optional n)) :
    config.pointer key = .ok (n.map .address) := by
  rw [pointer, get_eq_resolve entry]
  cases n <;> rfl

theorem truth_eq_ok {config : Config} {key : String} {b : Bool}
    (entry : config.lookup? key = some (.scalar (.truth b))) : config.truth key = .ok b := by
  rw [truth, get_eq_resolve entry]
  rfl

theorem scheme_eq_ok {config : Config} {key s : String} (plain : IsPlain s)
    (entry : config.lookup? key = some (.text s)) : config.scheme key = .ok s := by
  rw [scheme, get_eq_resolve entry, resolve_of_isPlain config _ plain]
  rfl

theorem level_eq_ok {config : Config} {key s : String} (plain : IsPlain s)
    (entry : config.lookup? key = some (.text s)) : config.level key = .ok s := by
  rw [level, get_eq_resolve entry, resolve_of_isPlain config _ plain]
  rfl

theorem names_of_isPlain (config : Config) (key : String) {items : List Found}
    {roms : List String} (texts : items.map Found.value = roms.map Value.text)
    (plain : ∀ s ∈ roms, IsPlain s) : config.names key .given items = .ok roms := by
  induction roms generalizing items with
  | nil =>
    cases items with
    | nil => rfl
    | cons => simp at texts
  | cons s rest ih =>
    cases items with
    | nil => simp at texts
    | cons item others =>
      obtain ⟨value, trail⟩ := item
      simp only [List.map_cons, List.cons.injEq] at texts
      obtain ⟨rfl, texts⟩ := texts
      have first := resolve_of_isPlain config trail (plain s List.mem_cons_self)
      have later := ih texts (fun t ht => plain t (List.mem_cons_of_mem s ht))
      simp [names, resolveItem, first, later, name, bind, Except.bind, pure, Except.pure]

theorem map_value_places (found : Found) (items : List Value) :
    (places found items).map Found.value = items := by
  apply List.ext_getElem <;> simp [places]

theorem nameList_eq_ok {config : Config} {key : String} {roms : List String}
    (plain : ∀ s ∈ roms, IsPlain s)
    (entry : config.lookup? key = some (.list .given (roms.map .text))) :
    config.nameList key = .ok roms := by
  rw [nameList, get_eq_resolve entry]
  cases roms with
  | nil => rfl
  | cons s rest => exact names_of_isPlain config key (map_value_places _ _) plain

/-- Settings without references are what their configuration gives. -/
theorem resolution_ofSettings (settings : Settings) (roms : ∀ s ∈ settings.roms, IsPlain s)
    (plainScheme : IsPlain settings.colourScheme) (level : IsPlain settings.logLevel) :
    (ofSettings settings).resolution = settings.resolution := by
  simp only [resolution, Settings.resolution, Resolution.mk.injEq]
  exact ⟨nameList_eq_ok roms rfl, base_eq_ok rfl, size_eq_ok rfl, width_eq_ok rfl, width_eq_ok rfl,
    scheme_eq_ok plainScheme rfl, truth_eq_ok rfl, pointer_eq_ok rfl, level_eq_ok level rfl⟩

end Config

end Chip8
