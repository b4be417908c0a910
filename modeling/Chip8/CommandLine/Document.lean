import Chip8.CommandLine.Document.Leaf
import Chip8.CommandLine.Document.Node

/-!
# Documents

Lists and tables can be given as one text, a document. Its tokens give nodes, and its nodes give
values, level by level from the root: the parts of a list or a table are looked at after everything
that is less deep.

No key that is a text may come twice in a table. After that is checked, a table takes over the
entries of the tables under its key `<<`, in front of its own, and of entries with the same key the
last one counts. What has been taken over stays with the node, so it is there for whoever else uses
the node. A node that is a part of itself has no value.
-/

namespace Chip8

namespace Document

/-- A key of a table. What is not a number differs from itself, unless both are written in the
manner of the format or are the same node, which `source` tells. -/
structure Key where
  value : Scalar
  source : Option Nat
deriving DecidableEq

/-- Whether two keys are the same. -/
def Key.same (a b : Key) : Bool :=
  a.value.sameKey b.value || (a.value == .number .notANumber && a == b)

/-- What has been made of a node, whose parts are other nodes. -/
inductive Part where
  | leaf (key : Key)
  | list (items : List Nat)
  | table (entries : List (Key × Nat))
  | pairs (entries : List (Nat × Nat))

/-- How far values have been made of nodes. -/
structure Maker where
  nodes : Array Node
  parts : Array (Option Part)
  /-- The lists and tables of the next level, the last one first. -/
  waiting : List Nat := []

namespace Maker

/-- The beginning, when nothing has been made. -/
def ofNodes (nodes : Array Node) : Maker where
  nodes
  parts := Array.replicate nodes.size none

/-- No chain of different nodes is longer than this. -/
def allowance (state : Maker) : Nat :=
  state.nodes.size + 1

/-- What has been made of a node. -/
def part? (state : Maker) (number : Nat) : Option Part :=
  state.parts[number]?.join

/-- Whether a node is of a kind. -/
def isOf (state : Maker) (kind : Kind) (number : Nat) : Bool :=
  state.nodes[number]?.any (·.kind = kind)

end Maker

/-- Making values of nodes. -/
abbrev Make := StateT Maker Option

namespace Make

/-- The node of a number. -/
def node (number : Nat) : Make Node := do
  ((← get).nodes[number]? : Option Node)

/-- The entries of a node that is a table. -/
def entriesOf (number : Nat) : Make (List (Nat × Nat)) := do
  match (← node number).form with
  | .table entries => return entries
  | _ => failure

/-- Changes a node. -/
def change (number : Nat) (f : Node → Node) : Make Unit :=
  modify fun state => { state with nodes := state.nodes.modify number f }

/-- Changes the entries of a table. -/
def setEntries (number : Nat) (entries : List (Nat × Nat)) : Make Unit :=
  change number fun node => { node with form := .table entries }

/-- Says what has been made of a node. -/
def store (number : Nat) (part : Part) : Make Unit :=
  modify fun state => { state with parts := state.parts.setIfInBounds number (some part) }

/-! ## Scalars and paths -/

/-- The text of a scalar. A table has the text of its value under `=`. -/
def text : Nat → Nat → Make String
  | 0, _ => failure
  | allowance + 1, number => do
    match (← node number).form with
    | .scalar s => return s
    | .list _ => failure
    | .table entries =>
      let state ← get
      match entries.find? fun (key, _) => state.isOf .default key with
      | some (_, value) => text allowance value
      | none => failure

/-- The path that has been made of a node, or that its text denotes. -/
def pathOf (number : Nat) : Make Path := do
  match (← get).part? number with
  | some (.leaf ⟨.text s, _⟩) => return (Path.ofText s).normal
  | some (.leaf ⟨.path p, _⟩) => return p
  | _ => failure

/-- Starts a list or a table, whose parts have to wait. -/
def postpone (number : Nat) (part : Part) : Make Unit := do
  store number part
  modify fun state => { state with waiting := number :: state.waiting }

/-- Makes something of a node, unless that has been done. The names of a path are needed at once. -/
def start : Nat → Nat → Make Unit
  | 0, _ => failure
  | allowance + 1, number => do
    let state ← get
    if (state.part? number).isSome then return
    let found ← node number
    match found.kind, found.form with
    | .list, _ => postpone number (.list [])
    | .pairs, _ => postpone number (.pairs [])
    | .table, _ => postpone number (.table [])
    | .path, .list items =>
      let names ← items.mapM fun item => do
        start allowance item
        pathOf item
      store number (.leaf ⟨.path (names.foldl Path.within ⟨"", []⟩), none⟩)
    | kind, _ =>
      let s ← text state.allowance number
      let scalar ← (Leaf.ofText? kind s : Option Scalar)
      store number (.leaf ⟨scalar, if Leaf.isNotANumber s.toList then none else some number⟩)

/-- Makes something of a node. -/
def begin (number : Nat) : Make Unit := do
  start (← get).allowance number

/-! ## Tables -/

/-- Refuses a table in which a text comes twice as a key. -/
def checkKeys (entries : List (Nat × Nat)) : Make Unit := do
  let state ← get
  let keys ← (entries.map Prod.fst |>.filter (state.isOf .text)).mapM fun key => do
    match (← node key).form with
    | .scalar s => return s
    | _ => failure
  if !keys.Nodup then failure

/-- Takes the first of the keys `<<` out of a table, and gives what is under it. -/
def takeMerge (number : Nat) : Make (Option Nat) := do
  let state ← get
  let entries ← entriesOf number
  let (before, after) := entries.span fun (key, _) => !state.isOf .merge key
  match after with
  | [] => return none
  | (_, value) :: rest =>
    setEntries number (before ++ rest)
    return some value

/-- Lets a table take over entries. The key `=` becomes a text. -/
def absorb : Nat → Nat → Make Unit
  | 0, _ => failure
  | allowance + 1, number => do
    let state ← get
    let keys := (← entriesOf number).map Prod.fst
    (keys.filter (state.isOf .default)).forM fun key =>
      change key fun node => { node with kind := .text }
    let taken ← (keys.filter (state.isOf .merge)).mapM fun _ => do
      match ← takeMerge number with
      | none => return []
      | some value =>
        match (← node value).form with
        | .scalar _ => failure
        | .table _ =>
          absorb allowance value
          entriesOf value
        | .list items =>
          let groups ← items.mapM fun item => do
            absorb allowance item
            entriesOf item
          return groups.reverse.flatten
    setEntries number (taken.flatten ++ (← entriesOf number))

/-- Entries with one of them replaced, in its place and under its old key, or added at the end. -/
def insert (key : Key) (value : Nat) : List (Key × Nat) → List (Key × Nat)
  | [] => [(key, value)]
  | (k, v) :: rest => if k.same key then (k, value) :: rest else (k, v) :: insert key value rest

/-- An entry of a table, whose key has to be a scalar. -/
def addEntry (table : List (Key × Nat)) (entry : Nat × Nat) : Make (List (Key × Nat)) := do
  begin entry.1
  match (← get).part? entry.1 with
  | some (.leaf key) =>
    begin entry.2
    return insert key entry.2 table
  | _ => failure

/-! ## Level by level -/

/-- A pair, given as a table of one entry. -/
def pair (number : Nat) : Make (Nat × Nat) := do
  match ← entriesOf number with
  | [(key, value)] =>
    begin key
    begin value
    return (key, value)
  | _ => failure

/-- Makes something of the parts of a list or a table. -/
def fill (number : Nat) : Make Unit := do
  let found ← node number
  match found.kind, found.form with
  | .list, .list items =>
    items.forM begin
    store number (.list items)
  | .pairs, .list items => store number (.pairs (← items.mapM pair))
  | .table, .table entries =>
    checkKeys entries
    absorb (← get).allowance number
    store number (.table (← (← entriesOf number).foldlM addEntry []))
  | _, _ => failure

/-- Makes something of all that waits, level by level. -/
def levels : Nat → Make Unit
  | 0 => failure
  | allowance + 1 => do
    let state ← get
    if state.waiting.isEmpty then return
    set { state with waiting := [] }
    state.waiting.reverse.forM fill
    levels allowance

/-- Makes something of a node and all its parts. -/
def all (root : Nat) : Make Unit := do
  begin root
  levels (← get).allowance

end Make

/-- The value of a node of which everything has been made. -/
def Maker.value? (state : Maker) : Nat → Nat → Option Value
  | 0, _ => none
  | allowance + 1, number => do
    match ← state.part? number with
    | .leaf key => return .scalar key.value
    | .list items => return .list .data (← items.mapM (state.value? allowance))
    | .table entries =>
      return .table .data (← entries.mapM fun (key, value) => do
        return (key.value, ← state.value? allowance value))
    | .pairs entries =>
      return .list .data (← entries.mapM fun (key, value) => do
        return .list .data [← state.value? allowance key, ← state.value? allowance value])

/-- The value of a document. An empty one has none. -/
def Tree.value? (tree : Tree) : Option Value := do
  let (_, state) ← (Make.all tree.root).run (.ofNodes tree.nodes)
  state.value? state.allowance tree.root

/-- The value that a text gives. -/
def read? (text : String) : Option Value := do
  match ← Tree.ofTokens? (← Token.ofText? text.toList) with
  | none => return .null
  | some tree => tree.value?

end Document

end Chip8
