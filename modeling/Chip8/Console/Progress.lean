import Chip8.Capacity
import Chip8.Precision

/-!
# Progress bars

A bar accompanies the items of a batch. Unless it is asked for or refused, it is left out when at
most one item is expected, so that a single item stays quiet. A bar that is left out has no caption
and no unit; the items come through either way. A bar that is shown measures progress by the number
of items expected, which therefore has to be in the range of binary precision. Items that cannot be
counted beforehand are collected into room made for as many as the caller says there are, so that
number has to be the length of a list.
-/

namespace Chip8

namespace Progress

/-- Whether a bar is wanted. -/
inductive Wish where
  /-- Nothing is said: the bar is left out if at most one item is expected. -/
  | byCount
  /-- The bar is for terminals only, and this is none. -/
  | onTerminal
  | shown
  | hidden
deriving DecidableEq, Repr

/-- What a bar can be told. -/
structure Options where
  caption : Option String := none
  total : Option Int := none
  wish : Wish := .byCount

/-- A bar and the items that it accompanies. -/
structure Bar (α : Type) where
  hidden : Bool
  total : Option Int
  caption : Option String
  unit : Option String
  items : List α

/-- The caption of a bar that was given none, or an empty one. -/
def defaultCaption : String := "Disassembling"

/-- What the items of a bar are. -/
def itemUnit : String := "rom"

/-- How many items are expected: as many as the caller says, or else as many as there are if they
can be counted beforehand. -/
def expected (options : Options) (sized : Bool) (count : Nat) : Option Int :=
  match options.total with
  | some total => some total
  | none => if sized then some count else none

/-- Whether a bar is left out. -/
def isHidden (wish : Wish) (total : Option Int) : Bool :=
  match wish with
  | .byCount => total.any (· ≤ 1)
  | .onTerminal | .hidden => true
  | .shown => false

/-- The caption of a bar that is shown. -/
def captionOf (options : Options) : String :=
  match options.caption with
  | some caption => if caption = "" then defaultCaption else caption
  | none => defaultCaption

/-- Refuses a number of items that progress cannot be measured by. -/
def checkTotal : Option Int → Except Fault Unit
  | none => .ok ()
  | some total => if Precision.inRange 1 total then .ok () else .error (.totalOutOfRange total)

/-- Refuses items that cannot be counted beforehand if there is no room for as many of them as the
caller says. -/
def checkRoom [Capacity] (options : Options) (sized : Bool) : Except Fault Unit :=
  match options.total with
  | some total => if sized then .ok () else Capacity.checkList total
  | none => .ok ()

/-- The bar of a batch. A number that progress cannot be measured by is refused before one that no
list can have. -/
def bar [Capacity] {α : Type} (options : Options) (sized : Bool) (items : List α) :
    Except Fault (Bar α) :=
  let total := expected options sized items.length
  if isHidden options.wish total then do
    checkRoom options sized
    return { hidden := true, total, caption := none, unit := none, items }
  else do
    checkTotal total
    checkRoom options sized
    return { hidden := false, total, caption := captionOf options, unit := itemUnit, items }

end Progress

end Chip8
