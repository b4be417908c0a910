import Chip8.CommandLine.Function

/-!
# Configurations

A configuration is a table with the settings of the viewer by name, and whatever else its texts
refer to. It starts from the defaults, and single values are replaced. Its texts may hold
references, which are followed when a value is looked up. A chain of references that is longer than
all texts together has come back to one of them.

Whatever goes wrong while a reference is followed is a fault of the reference; a text that cannot be
read is reported as such only where it is asked for itself.
-/

namespace Chip8

open Reference (Found Obstacle Phrase Scope Step Surroundings Trail)

/-- A configuration: its values, and the variables that texts may ask for. -/
structure Config where
  entries : List (Scalar × Value)
  environment : List (String × String) := []

namespace Config

/-- The root of the configuration's tree. -/
def root (config : Config) : Value :=
  .table .given config.entries

/-- The value of a key at the root. -/
def lookup? (config : Config) (key : String) : Option Value :=
  config.entries.lookup (.text key)

/-! ## Replacing values -/

/-- The configuration with one value replaced. A value that is yet to be given leaves the one that
there is, and a list is not replaced by a table. -/
def set (config : Config) (key : String) (value : Value) : Except Fault Config :=
  match config.lookup? key, value with
  | some (.list _ _), .table _ _ => .error (.tableForList key)
  | old, value =>
    if old.isSome && value.isUnset then .ok config
    else .ok { config with entries := Value.replace (.text key) value config.entries }

/-- Refuses texts with references that neither look right nor can be read. -/
def checkTexts (texts : List String) : Except Fault Unit :=
  match texts.find? (!Reference.isAcceptable ·) with
  | some text => .error (.malformedReference text)
  | none => .ok ()

/-- The configuration with values replaced. -/
def update (config : Config) (entries : List (String × Value)) : Except Fault Config := do
  checkTexts (entries.flatMap fun (_, value) => value.texts)
  entries.foldlM (fun config (key, value) => config.set key value) config

/-! ## Following references -/

/-- The part of a value that has the given key. The parts of a list are numbered from zero. -/
def part (found : Found) (key : String) : Except Obstacle Found :=
  match found.value with
  | .table .data _ | .list .data _ | .scalar _ => .error (.noParts key)
  | .table _ entries =>
    match entries.lookup (.text key) with
    | some value => .ok ⟨value, ⟨key, found.value⟩ :: found.trail⟩
    | none => .error .absent
  | .list _ items =>
    match Literal.integer key with
    | .ok index =>
      match if index < 0 then none else items[index.toNat]? with
      | some value => .ok ⟨value, ⟨Numeral.decimal index, found.value⟩ :: found.trail⟩
      | none => .error .absent
    | .error _ => .error (.notAnIndex key)

/-- Where the keys of a path lead to, one after the other. -/
def walk (settle : Found → Except Fault Found) (refuseUnset : Bool) (found : Found) :
    List String → Except Obstacle Found
  | [] => .ok found
  | key :: rest => do
    let next ← part found key
    if next.value.isUnset then
      if refuseUnset then .error (.unset key)
      else if rest.isEmpty then .ok next
      else .error (.noParts key)
    else
      walk settle refuseUnset (← (settle next).mapError Obstacle.fault) rest

/-- Where a path starts, seen from the end of a trail: at the root, or with leading dots at the
holder, or as many holders further out as there are more dots. -/
def start (config : Config) (home : Trail) (dots : Nat) : Except Obstacle Found :=
  if dots = 0 then .ok ⟨config.root, []⟩
  else
    match home.drop (dots - 1) with
    | step :: outer => .ok ⟨step.holder, outer⟩
    | [] => .error .outside

/-- What a path leads to. -/
def locate (config : Config) (settle : Found → Except Fault Found) (home : Trail)
    (refuseUnset : Bool) (path : String) : Except Obstacle Found := do
  let dots := (path.toList.takeWhile (· == '.')).length
  let keys := Reference.keysOf (path.toList.dropWhile (· == '.'))
  walk settle refuseUnset (← config.start home dots) keys

/-- Whether a value is one of those that hold the end of a trail. -/
def holds (found : Found) (home : Trail) : Bool :=
  match found.value with
  | .list .given _ | .table .given _ => found.trail.path.isPrefixOf (Trail.path home.tail)
  | _ => false

/-- What a reference by path stands for; nothing that holds the reference itself. -/
def find (config : Config) (settle : Found → Except Fault Found) (home : Trail) (path : String) :
    Except Fault Found :=
  match config.locate settle home true path with
  | .ok found => if holds found home then .error (.reference .toHolder) else .ok found
  | .error .absent | .error .outside => .error (.reference (.noSuchKey path))
  | .error (.noParts key) => .error (.reference (.noParts key))
  | .error (.notAnIndex key) => .error (.reference (.notAnIndex key))
  | .error (.unset key) => .error (.reference (.toUnset key))
  | .error (.fault fault) => .error fault

/-- A value, and if it is a text with references, what that stands for. -/
def expand (eval : Trail → Phrase → Except Fault Found) (found : Found) : Except Fault Found :=
  match found.value with
  | .text s =>
    if Reference.isOpened s.toList then
      match Reference.read? s with
      | some phrase => eval found.trail phrase
      | none => .error (.malformedReference s)
    else .ok found
  | _ => .ok found

/-- A fault while a reference is followed. -/
def enclosed : Fault → Fault
  | .reference cause => .reference cause
  | _ => .reference .unreadable

/-- What a phrase stands for, with an allowance of references. -/
def evaluate (config : Config) : Nat → Trail → Phrase → Except Fault Found
  | 0, _, _ => .error (.reference .circular)
  | allowance + 1, home, phrase =>
    let eval := config.evaluate allowance
    let around : Surroundings := {
      home
      locate := config.locate (expand eval) home
      eval := eval home
      environment := config.environment }
    let scope : Scope := {
      home
      find := config.find (expand eval) home
      apply := Reference.Function.apply around }
    (phrase.eval scope).mapError enclosed

/-- The allowance of references: no chain of them is longer than all texts together. -/
def allowance (config : Config) : Nat :=
  ((config.root.texts.map fun s => s.length + 1).foldl (· + ·) 0) + 1

/-- What a value stands for. -/
def resolve (config : Config) (found : Found) : Except Fault Found :=
  if found.value.isUnset then .error (.unset (".".intercalate found.trail.path))
  else expand (config.evaluate config.allowance) found

/-- What the value of a key stands for. -/
def get (config : Config) (key : String) : Except Fault Found :=
  match config.lookup? key with
  | some value => config.resolve ⟨value, [⟨key, config.root⟩]⟩
  | none => .error (.unset key)

/-- The items of a list, each with the trail that leads to it. -/
def places (found : Found) (items : List Value) : List Found :=
  items.mapIdx fun i value => ⟨value, ⟨Numeral.decimal i, found.value⟩ :: found.trail⟩

/-- What an item of a list stands for. The items of mere data stand for themselves. -/
def resolveItem (config : Config) (origin : Origin) (item : Found) : Except Fault Found :=
  if origin = .data then .ok item else config.resolve item

end Config

end Chip8
