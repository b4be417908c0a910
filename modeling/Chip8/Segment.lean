/-!
# Tagged text

Everything the disassembler shows is a stream of segments: a piece of text with the tag that
decides its colour. Rows are ended by one particular segment, `Segment.newline`. A line break
inside a longer text, or under another tag, is text like any other and ends no row.
-/

namespace Chip8

/-- What a piece of text is, and so how it is coloured. -/
inductive Tag where
  | keyword
  | register
  | literal
  | comment
  | address
  | opcode
  | plain
deriving DecidableEq, Repr

namespace Tag

/-- Every tag, in the order in which styles are listed. -/
def all : List Tag :=
  [.keyword, .register, .literal, .comment, .address, .opcode, .plain]

/-- The name of a tag in lower case. -/
def name : Tag → String
  | .keyword => "keyword"
  | .register => "register"
  | .literal => "literal"
  | .comment => "comment"
  | .address => "address"
  | .opcode => "opcode"
  | .plain => "plain"

/-- The name of a tag in capitals. -/
def capitals : Tag → String
  | .keyword => "KEYWORD"
  | .register => "REGISTER"
  | .literal => "LITERAL"
  | .comment => "COMMENT"
  | .address => "ADDRESS"
  | .opcode => "OPCODE"
  | .plain => "PLAIN"

/-- The tag with the given name. -/
def ofName? (text : String) : Option Tag :=
  all.find? fun tag => tag.name == text

/-- No tag is missing from the list of all tags. -/
theorem mem_all (tag : Tag) : tag ∈ all := by
  cases tag <;> decide

end Tag

/-- A piece of text and its tag. -/
structure Segment where
  text : String
  tag : Tag
deriving DecidableEq, Repr

namespace Segment

/-- The segment that ends a row. -/
def newline : Segment :=
  ⟨"\n", .plain⟩

/-- The text of a stream, tags dropped. -/
def joined (segments : List Segment) : String :=
  String.join (segments.map text)

/-- Puts one more segment in front of rows already split off: a `newline` opens a new empty row, and
anything else belongs to the first row, which it creates if there is none. -/
def prepend (segment : Segment) (rows : List (List Segment)) : List (List Segment) :=
  if segment = newline then [] :: rows
  else
    match rows with
    | [] => [[segment]]
    | row :: rest => (segment :: row) :: rest

/-- The rows of a stream, without their `newline`s. A last row that no `newline` ends is kept if it
has any segment at all. -/
def rows (segments : List Segment) : List (List Segment) :=
  segments.foldr prepend []

@[simp] theorem joined_nil : joined [] = "" := rfl

theorem joined_cons (segment : Segment) (rest : List Segment) :
    joined (segment :: rest) = segment.text ++ joined rest := by
  apply String.toList_inj.mp
  simp [joined]

theorem joined_append (left right : List Segment) :
    joined (left ++ right) = joined left ++ joined right := by
  apply String.toList_inj.mp
  simp [joined]

end Segment

end Chip8
