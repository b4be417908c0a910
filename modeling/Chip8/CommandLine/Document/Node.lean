import Chip8.CommandLine.Document.Kind
import Chip8.CommandLine.Document.Token

/-!
# Nodes

The nodes of a document are numbered, and lists and tables hold the numbers of their parts. So a
node that is named by an anchor can have several places, and can even be a part of itself.

A document is made of its tokens by the grammar of the format. An item, a key or a value that is
left out is an empty scalar. A name is given to one node only, and has to be given before it is
used.
-/

namespace Chip8

namespace Document

/-- What a node looks like. -/
inductive Form where
  | scalar (text : String)
  | list (items : List Nat)
  | table (entries : List (Nat × Nat))
deriving DecidableEq, Repr

/-- A node: what is to be made of it, and what it looks like. -/
structure Node where
  kind : Kind
  form : Form
deriving DecidableEq, Repr

instance : Inhabited Node := ⟨⟨.null, .scalar ""⟩⟩

/-- The short forms of tags that need not be introduced. -/
def commonShorthands : List (String × String) :=
  [("!", "!"), ("!!", Kind.commonTag)]

/-- How far the nodes of a document are made. -/
structure Builder where
  tokens : List Token
  nodes : Array Node := #[]
  anchors : List (String × Nat) := []
  shorthands : List (String × String) := commonShorthands

/-- Making nodes of tokens. -/
abbrev Build := StateT Builder Option

/-- What is said of a node in front of it. -/
structure Properties where
  anchor : Option String
  tag : Option String

namespace Properties

/-- Whether nothing is said. -/
def isEmpty (properties : Properties) : Bool :=
  properties.anchor.isNone && properties.tag.isNone

/-- The kind of a node. A mere exclamation mark is as good as no tag, but makes scalars plain. -/
def kind (properties : Properties) (untagged marked : Kind) : Kind :=
  match properties.tag with
  | none => untagged
  | some "!" => marked
  | some tag => Kind.ofTag tag

end Properties

namespace Build

/-- The next token. -/
def peek : Build (Option Token) := do
  return (← get).tokens.head?

/-- Whether one of several tokens comes next. -/
def sees (wanted : List Token) : Build Bool := do
  return (← peek).any wanted.contains

/-- Passes over a token. -/
def advance : Build Unit :=
  modify fun state => { state with tokens := state.tokens.tail }

/-- Passes over a certain token, if it comes next. -/
def accept (token : Token) : Build Bool := do
  let found ← sees [token]
  if found then advance
  return found

/-- Passes over a certain token, which has to come next. -/
def expect (token : Token) : Build Unit := do
  if !(← accept token) then failure

/-- A new node. -/
def add (node : Node) : Build Nat :=
  modifyGet fun state => (state.nodes.size, { state with nodes := state.nodes.push node })

/-- The node of what is left out. -/
def omitted : Build Nat :=
  add default

/-- A new node with properties. Its name is known from here on. -/
def addWith (properties : Properties) (node : Node) : Build Nat := do
  let number ← add node
  match properties.anchor with
  | none => return number
  | some name =>
    let state ← get
    if (state.anchors.lookup name).isSome then failure
    set { state with anchors := (name, number) :: state.anchors }
    return number

/-- Says what a node looks like after all. -/
def complete (number : Nat) (form : Form) : Build Nat := do
  modify fun state =>
    { state with nodes := state.nodes.modify number fun node => { node with form } }
  return number

/-- A tag in full. -/
def fullTag (handle : Option String) (rest : String) : Build String := do
  match handle with
  | none => return rest
  | some handle =>
    let start ← ((← get).shorthands.lookup handle : Option String)
    return start ++ rest

/-- The anchor that comes next, if one does. -/
def anchor : Build (Option String) := do
  match ← peek with
  | some (.anchor name) =>
    advance
    return some name
  | _ => return none

/-- The tag that comes next, if one does. -/
def tag : Build (Option String) := do
  match ← peek with
  | some (.tag handle rest) =>
    advance
    return some (← fullTag handle rest)
  | _ => return none

/-- The properties in front of a node, in either order. -/
def properties : Build Properties := do
  match ← anchor with
  | some name => return ⟨some name, ← tag⟩
  | none =>
    let tag ← tag
    if tag.isSome then return ⟨← anchor, tag⟩
    return ⟨none, none⟩

/-- Where a node stands. -/
inductive Setting where
  /-- Inside brackets or braces. -/
  | flow
  /-- In lines. -/
  | block
  /-- In lines, as a key or a value, where a list need not be indented. -/
  | entry
deriving DecidableEq

mutual

/-- A node. -/
def node (place : Setting) : Nat → Build Nat
  | 0 => failure
  | allowance + 1 => do
    if let some (.alias name) := ← peek then
      advance
      return ← ((← get).anchors.lookup name : Option Nat)
    let given ← properties
    let list : Node := ⟨given.kind .list .list, .list []⟩
    let table : Node := ⟨given.kind .table .table, .table []⟩
    match ← peek with
    | some .item =>
      if place = .entry then
        let number ← addWith given list
        complete number (.list (← looseItems allowance))
      else bare given
    | some (.scalar plain text) =>
      advance
      let marked := Kind.ofPlain text.toList
      addWith given ⟨given.kind (if plain then marked else .text) marked, .scalar text⟩
    | some .bracketOpen =>
      advance
      let number ← addWith given list
      complete number (.list (← flowItems true allowance))
    | some .braceOpen =>
      advance
      let number ← addWith given table
      complete number (.table (← flowEntries true allowance))
    | some .listStart =>
      advance
      let number ← addWith given list
      complete number (.list (← blockItems allowance))
    | some .tableStart =>
      advance
      let number ← addWith given table
      complete number (.table (← blockEntries allowance))
    | _ => bare given
where
  /-- A node of which there is nothing but its properties. -/
  bare (given : Properties) : Build Nat := do
    if given.isEmpty then failure
    addWith given ⟨given.kind .null .null, .scalar ""⟩

/-- A node, or what is left out if one of several tokens comes next. -/
def nodeUnless (ends : List Token) (place : Setting) : Nat → Build Nat
  | 0 => failure
  | allowance + 1 => do
    if ← sees ends then omitted else node place allowance

/-- The value after a key, which can be left out with its colon. -/
def valueUnless (ends : List Token) (place : Setting) : Nat → Build Nat
  | 0 => failure
  | allowance + 1 => do
    if ← accept .value then nodeUnless ends place allowance else omitted

/-- The items of a list in lines. -/
def blockItems : Nat → Build (List Nat)
  | 0 => failure
  | allowance + 1 => do
    if ← accept .item then
      let first ← nodeUnless [.item, .blockEnd] .block allowance
      return first :: (← blockItems allowance)
    expect .blockEnd
    return []

/-- The items of a list in lines that is not indented. -/
def looseItems : Nat → Build (List Nat)
  | 0 => failure
  | allowance + 1 => do
    if ← accept .item then
      let first ← nodeUnless [.item, .key, .value, .blockEnd] .block allowance
      return first :: (← looseItems allowance)
    return []

/-- The entries of a table in lines. -/
def blockEntries : Nat → Build (List (Nat × Nat))
  | 0 => failure
  | allowance + 1 => do
    if ← accept .key then
      let ends := [Token.key, .value, .blockEnd]
      let key ← nodeUnless ends .entry allowance
      let value ← valueUnless ends .entry allowance
      return (key, value) :: (← blockEntries allowance)
    expect .blockEnd
    return []

/-- The items of a list in brackets. A key in it makes a table of one entry. -/
def flowItems (first : Bool) : Nat → Build (List Nat)
  | 0 => failure
  | allowance + 1 => do
    if ← accept .bracketClose then return []
    if !first then expect .comma
    if ← accept .bracketClose then return []
    if ← accept .key then
      let number ← add ⟨.table, .table []⟩
      let key ← nodeUnless [.value, .comma, .bracketClose] .flow allowance
      let value ← valueUnless [.comma, .bracketClose] .flow allowance
      let item ← complete number (.table [(key, value)])
      return item :: (← flowItems false allowance)
    let item ← node .flow allowance
    return item :: (← flowItems false allowance)

/-- The entries of a table in braces. A key need not be marked as one. -/
def flowEntries (first : Bool) : Nat → Build (List (Nat × Nat))
  | 0 => failure
  | allowance + 1 => do
    if ← accept .braceClose then return []
    if !first then expect .comma
    if ← accept .braceClose then return []
    if ← accept .key then
      let key ← nodeUnless [.value, .comma, .braceClose] .flow allowance
      let value ← valueUnless [.comma, .braceClose] .flow allowance
      return (key, value) :: (← flowEntries false allowance)
    let key ← node .flow allowance
    let value ← omitted
    return (key, value) :: (← flowEntries false allowance)

end

/-! ## Documents -/

/-- Reads directives. The version is given once, and so is each short form. -/
def directives (allowance : Nat) : Build Unit := do
  modify fun state => { state with shorthands := [] }
  read allowance false
  modify fun state => { state with shorthands := state.shorthands ++ commonShorthands }
where
  /-- Reads on, after the version if it has been given. -/
  read : Nat → Bool → Build Unit
    | 0, _ => failure
    | allowance + 1, versioned => do
      match ← peek with
      | some .version =>
        if versioned then failure
        advance
        read allowance true
      | some (.shorthand handle full) =>
        let state ← get
        if (state.shorthands.lookup handle).isSome then failure
        set { state with shorthands := (handle, full) :: state.shorthands }
        advance
        read allowance versioned
      | some .directive =>
        advance
        read allowance versioned
      | _ => return

/-- Whether a token starts a document that is marked as one. -/
def isHead : Token → Bool
  | .version | .shorthand _ _ | .directive | .documentStart => true
  | _ => false

/-- The root of a document. -/
def root (allowance : Nat) : Build Nat := do
  if (← peek).any isHead then
    directives allowance
    expect .documentStart
    if (← peek).all fun token => isHead token || token = .documentEnd then omitted
    else node .block allowance
  else node .block allowance

end Build

/-- A document: its nodes, and the number of its root. -/
structure Tree where
  nodes : Array Node
  root : Nat

/-- The only document of the tokens, if it is not empty. Marks of its end can follow it. -/
def Tree.ofTokens? (tokens : List Token) : Option (Option Tree) := do
  if tokens.isEmpty then return none
  let (root, state) ← (Build.root (4 * tokens.length + 4)).run { tokens }
  if state.tokens.all (· = .documentEnd) then return some ⟨state.nodes, root⟩
  none

end Document

end Chip8
