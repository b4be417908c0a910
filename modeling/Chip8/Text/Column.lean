/-!
# Columns

Widths are counted in characters. Text is brought to a width by blanks alone; text that is already
wide enough is left as it is.
-/

namespace Chip8

namespace Text

/-- A run of `n` blanks. -/
def blanks (n : Nat) : String :=
  String.ofList (List.replicate n ' ')

/-- The text at the right edge of a column of `width` characters. -/
def alignRight (width : Nat) (text : String) : String :=
  blanks (width - text.length) ++ text

@[simp] theorem length_blanks (n : Nat) : (blanks n).length = n := by
  simp [blanks]

end Text

end Chip8
