import Chip8.Capacity
import Chip8.Segment
import Chip8.Text.Column

/-!
# Rows in columns

Rows of segments are laid out one after the other: each is filled up with blanks to a common width,
if there is one, and ended. A row that is already wide enough gets no blanks, not even an empty
segment of them. `stream` is the layout itself, for any width at all; `stream?` makes it only if
there is room for the blanks of every row. Where making a row can fail itself, `make?` makes the rows
in their order, so that of two failures the earlier row's is the one that shows.
-/

namespace Chip8

namespace Layout

/-- How many blanks a row still needs to reach the width. -/
def shortfall (width : Option Int) (row : List Segment) : Nat :=
  match width with
  | none => 0
  | some columns => (columns - (Segment.joined row).length).toNat

/-- The blanks that a row still needs. -/
def padding (width : Option Int) (row : List Segment) : List Segment :=
  if shortfall width row = 0 then [] else [⟨Text.blanks (shortfall width row), .plain⟩]

/-- A row, its blanks and its end. -/
def finish (width : Option Int) (row : List Segment) : List Segment :=
  row ++ padding width row ++ [Segment.newline]

/-- All rows, one after the other. -/
def stream (width : Option Int) (rows : List (List Segment)) : List Segment :=
  rows.flatMap (finish width)

/-- Refuses the first row for whose blanks there is no room. -/
def checkRoom [Capacity] (width : Option Int) : List (List Segment) → Except Fault Unit
  | [] => .ok ()
  | row :: rest => do
    Capacity.checkText (shortfall width row)
    checkRoom width rest

/-- All rows, one after the other, if there is room for their blanks. -/
def stream? [Capacity] (width : Option Int) (rows : List (List Segment)) :
    Except Fault (List Segment) := do
  checkRoom width rows
  return stream width rows

/-- Rows that are made one after the other, each given room for its blanks before the next one. -/
def make? [Capacity] (width : Option Int) :
    List (Except Fault (List Segment)) → Except Fault (List (List Segment))
  | [] => .ok []
  | row :: rest => do
    let row ← row
    Capacity.checkText (shortfall width row)
    return row :: (← make? width rest)

/-- Without a width there is room for every row. -/
theorem checkRoom_none [Capacity] (rows : List (List Segment)) : checkRoom none rows = .ok () := by
  induction rows with
  | nil => rfl
  | cons row rest ih =>
    have fits : Capacity.checkText (shortfall none row) = .ok () :=
      (Capacity.checkText_eq_ok_iff _).mpr Capacity.memoryLimit_pos
    rw [checkRoom, fits]
    exact ih

/-- Rows that are there already only have to be given room, before the others are made. -/
theorem make?_append [Capacity] (width : Option Int) (made : List (List Segment))
    (rest : List (Except Fault (List Segment))) :
    make? width (made.map .ok ++ rest) =
      (checkRoom width made >>= fun _ => (make? width rest).map (made ++ ·)) := by
  induction made with
  | nil =>
    show make? width rest = (make? width rest).map fun rows => rows
    cases make? width rest <;> rfl
  | cons row more ih =>
    rw [List.map_cons, List.cons_append, make?, checkRoom, ih]
    show (Capacity.checkText (shortfall width row) >>= fun _ => _) = _
    cases Capacity.checkText (shortfall width row) with
    | error fault => rfl
    | ok _ =>
      cases checkRoom width more with
      | error fault => rfl
      | ok _ => cases make? width rest <;> rfl

theorem make?_map_ok [Capacity] (width : Option Int) (rows : List (List Segment)) :
    make? width (rows.map .ok) = (checkRoom width rows).map fun _ => rows := by
  have hrows := make?_append width rows []
  rw [List.append_nil] at hrows
  rw [hrows]
  cases checkRoom width rows with
  | error fault => rfl
  | ok _ => exact congrArg Except.ok (List.append_nil rows)

/-- A row that cannot be made is reported, unless there is no room for one before it. -/
theorem make?_of_failure [Capacity] (width : Option Int) (made : List (List Segment))
    (fault : Fault) (rest : List (Except Fault (List Segment))) :
    make? width (made.map .ok ++ .error fault :: rest) =
      (checkRoom width made >>= fun _ => .error fault) :=
  make?_append width made (.error fault :: rest)

end Layout

end Chip8
