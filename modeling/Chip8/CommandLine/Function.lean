import Chip8.CommandLine.Document
import Chip8.CommandLine.Reference.Outline
import Chip8.CommandLine.Reference.Reader

/-!
# Functions that references can call

- `oc.env` gives the variable of a name, or else its second argument as a text.
- `oc.select` gives the value at a path, or else its second argument.
- `oc.decode` reads a text as the argument of a function is read.
- `oc.create` makes a part of the configuration of a list or a table, or of a text that gives one.
- `oc.dict.keys` and `oc.dict.values` list the keys of a table and references to its values.
- `oc.deprecated` gives the value at a path that has taken the place of another.

What a function makes stands where the reference does, so that the texts in it can refer to
everything that the reference itself could.
-/

namespace Chip8

namespace Reference

/-- Why a path leads to no value. -/
inductive Obstacle where
  /-- There is nothing at its end. -/
  | absent
  /-- It goes on after a value without parts. -/
  | noParts (key : String)
  /-- A list is not asked for a part by its number. -/
  | notAnIndex (key : String)
  /-- It leads out of the configuration. -/
  | outside
  /-- A value on it is yet to be given. -/
  | unset (key : String)
  | fault (fault : Fault)

/-- What functions depend on: the trail to where the reference stands, what paths lead to, what
phrases stand for, and the variables. Values that are yet to be given can be refused. -/
structure Surroundings where
  home : Trail
  locate : (refuseUnset : Bool) → String → Except Obstacle Found
  eval : Phrase → Except Fault Found
  environment : List (String × String)

/-- A text can be a part of a configuration if it has no reference, or if its references look right
or can be read. -/
def isAcceptable (text : String) : Bool :=
  !isOpened text.toList || isOutlined text || (read? text).isSome

namespace Function

/-- The fault of arguments that a function can make nothing of. -/
def refuse {α : Type} (name : String) : Except Fault α :=
  .error (.reference (.unsuitedArguments name))

/-- A value as a part of the configuration, unless a text or a key in it cannot be one. -/
def make (name : String) (around : Surroundings) (value : Value) : Except Fault Found :=
  if value.texts.all isAcceptable && value.keys.all Scalar.isKey then
    .ok ⟨value.ofOrigin .made, around.home⟩
  else refuse name

/-- The variable of a name. -/
def variableOf (around : Surroundings) (name : String) : Option Value :=
  (around.environment.lookup name).map .text

/-- The value at a path, or `fallback` if there is none or it is yet to be given. -/
def select (name : String) (around : Surroundings) (path : String) (fallback : Value) :
    Except Fault Found :=
  match around.locate false path with
  | .ok found => .ok (if found.value.isUnset then ⟨fallback, around.home⟩ else found)
  | .error .absent | .error (.noParts _) => .ok ⟨fallback, around.home⟩
  | .error (.fault fault) => .error fault
  | .error _ => refuse name

/-- The value at a path, which has to lead somewhere. -/
def require (name : String) (around : Surroundings) (refuseUnset : Bool) (path : String) :
    Except Fault Found :=
  match around.locate refuseUnset path with
  | .ok found => .ok found
  | .error (.fault fault) => .error fault
  | .error _ => refuse name

/-- The entries of the table at a path. -/
def entriesAt (name : String) (around : Surroundings) (path : String) :
    Except Fault (List (Scalar × Value)) := do
  match (← require name around true path).value with
  | .table .data _ => refuse name
  | .table _ entries => return entries
  | _ => refuse name

/-- A key as a part of a path. -/
def keyText (key : Scalar) : Except Fault String :=
  (Value.scalar key).shown

/-- A reference to the value of a key in the table at a path. The list of such references is one
step further in than the reference that makes it. -/
def referenceTo (path : String) (key : Scalar) : Except Fault Value := do
  let path := if path.startsWith "." then "." ++ path else path
  return .text ("$\x7b" ++ path ++ "." ++ (← keyText key) ++ "\x7d")

/-- The value that a text is read as. -/
def decode (name : String) (around : Surroundings) (text : String) : Except Fault Found :=
  match readItem? text with
  | some phrase => around.eval phrase
  | none => refuse name

/-- A part of the configuration. A text that gives a text makes a table with that key. -/
def create (name : String) (around : Surroundings) : Value → Except Fault Found
  | .null => .ok ⟨.null, around.home⟩
  | .text s =>
    match Document.read? s with
    | some .null => make name around (.table .data [])
    | some (.text key) => make name around (.table .data [(.text key, .null)])
    | some (.scalar _) | none => refuse name
    | some value => make name around value
  | .scalar _ => refuse name
  | value => make name around value

/-- What a function gives. -/
def apply (around : Surroundings) (name : String) (arguments : List Value) :
    Except Fault Found :=
  match name, arguments with
  | "oc.env", [.text key] =>
    match variableOf around key with
    | some value => .ok ⟨value, around.home⟩
    | none => refuse name
  | "oc.env", [.text key, fallback] =>
    match variableOf around key, fallback with
    | some value, _ => .ok ⟨value, around.home⟩
    | none, .null => .ok ⟨.null, around.home⟩
    | none, value => do return ⟨.text (← value.shown), around.home⟩
  | "oc.select", [.text path] => select name around path .null
  | "oc.select", [.text path, fallback] => select name around path fallback
  | "oc.decode", [.null] => .ok ⟨.null, around.home⟩
  | "oc.decode", [.text s] => decode name around s
  | "oc.create", [value] => create name around value
  | "oc.dict.keys", [.text path] => do
    let entries ← entriesAt name around path
    make name around (.list .data (entries.map fun (key, _) => .scalar key))
  | "oc.dict.values", [.text path] => do
    let entries ← entriesAt name around path
    make name around (.list .data (← entries.mapM fun (key, _) => referenceTo path key))
  | "oc.deprecated", [.text path] | "oc.deprecated", [.text path, .text _] =>
    require name around false path
  | _, _ =>
    if ["oc.env", "oc.select", "oc.decode", "oc.create", "oc.dict.keys", "oc.dict.values",
        "oc.deprecated"].contains name then refuse name
    else .error (.reference (.unknownFunction name))

end Function

end Reference

end Chip8
