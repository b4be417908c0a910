/-!
# Arrays

Values can be handed over as lists in lists. They form an array if all rows have the same shape; an
outline tells whether they do, and how far down the shapes agree if they do not.
-/

namespace Chip8

/-- The most dimensions that an array can have. -/
def dimensionLimit : Nat := 64

/-- A rectangular array of integers: its extents, the outermost first, and its entries row by row.
-/
structure Grid where
  shape : List Nat
  values : List Int
  length_values : values.length = shape.foldr (· * ·) 1

namespace Grid

/-- A single row. -/
def row (values : List Int) : Grid :=
  ⟨[values.length], values, by simp⟩

/-- The shape of lists in lists, as far as all rows have the same one. -/
structure Outline where
  shape : List Nat
  even : Bool
deriving DecidableEq, Inhabited

namespace Outline

/-- The extents that two shapes begin with in common. -/
def common : List Nat → List Nat → List Nat
  | m :: ms, n :: ns => if m = n then m :: common ms ns else []
  | _, _ => []

/-- The outline of a single item. -/
def item : Outline := ⟨[], true⟩

/-- The outline of rows. -/
def ofRows (rows : List Outline) : Outline :=
  match rows with
  | [] => ⟨[0], true⟩
  | row :: rest =>
    let shape := rest.foldl (fun shape other => common shape other.shape) row.shape
    ⟨rows.length :: shape, rows.all fun other => other.even && other.shape == shape⟩

end Outline

end Grid

end Chip8
