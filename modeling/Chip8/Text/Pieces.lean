/-!
# Pieces of a text

A text is cut at every occurrence of a separator. There is one more piece than there are separators,
so an empty text is one empty piece.
-/

namespace Chip8

namespace Text

/-- The pieces of a text between the separators in it. -/
def pieces (separator : Char) (cs : List Char) : List (List Char) :=
  cs.foldr (fun c rest =>
    if c = separator then [] :: rest
    else
      match rest with
      | [] => [[c]]
      | piece :: later => (c :: piece) :: later) [[]]

end Text

end Chip8
