import Chip8.Text.Literal
import Chip8.CommandLine.Reference

/-!
# The outline of references

A configuration is not refused for a text whose references look right at first glance: paths of
plain keys, and function names with plain arguments. The glance is more lenient than reading is. It
lets any blank or line break stand around the parts of a reference, and a function be without a
name. A text that passes it but cannot be read is a fault only where its value is asked for.
-/

namespace Chip8

namespace Reference

namespace Outline

/-- Letters, digits and the underscore. -/
def isWordChar (c : Char) : Bool :=
  c.isAlphanum || c == '_'

/-- The characters of a plain key. -/
def isKeyChar (c : Char) : Bool :=
  isWordChar c || c == '$'

/-- The characters of a plain argument. -/
def isArgumentChar (c : Char) : Bool :=
  isWordChar c || "/-+.$%*@?|".toList.contains c

/-- A plain key, and what follows it. -/
def key? (cs : List Char) : Option (List Char) :=
  match cs.span isKeyChar with
  | ([], _) => none
  | (_, rest) => some rest

/-- A plain key in brackets after the opening one, and what follows it. -/
def bracketed? (cs : List Char) : Option (List Char) :=
  match key? cs with
  | some (']' :: rest) => some rest
  | _ => none

/-- Whether characters are steps of a path after its first key. -/
def isSteps : Nat → List Char → Bool
  | _, [] => true
  | fuel + 1, '.' :: rest => (key? rest).any (isSteps fuel)
  | fuel + 1, '[' :: rest => (bracketed? rest).any (isSteps fuel)
  | _, _ => false

/-- Whether characters are a path. -/
def isPath (cs : List Char) : Bool :=
  match cs.dropWhile (· == '.') with
  | '[' :: rest => (bracketed? rest).any (isSteps cs.length)
  | rest => (key? rest).any (isSteps cs.length)

/-- Whether characters are a part of a function's name. -/
def isNamePart : List Char → Bool
  | [] => false
  | c :: rest => (c.isAlpha || c == '_') && rest.all fun d => isWordChar d || d == '-'

/-- Whether characters are a function's name, or nothing. -/
def isName (cs : List Char) : Bool :=
  cs.isEmpty || (Text.pieces '.' cs).all isNamePart

/-- Whether characters are a plain argument. -/
def isArgument (cs : List Char) : Bool :=
  !cs.isEmpty && cs.all isArgumentChar

/-- Whether characters are a call of a function. -/
def isCall (cs : List Char) : Bool :=
  match cs.span (· != ':') with
  | (name, ':' :: arguments) =>
    isName (Literal.trim name) &&
      (Text.pieces ',' arguments).all fun argument => isArgument (Literal.trim argument)
  | _ => false

/-- Whether a text has references, and all of them look right. -/
def looksRight : Nat → Bool → List Char → Bool
  | 0, _, _ => false
  | _, seen, [] => seen
  | fuel + 1, seen, cs =>
    match cs with
    | '$' :: '\x7b' :: rest =>
      match rest.span (· != '\x7d') with
      | (inner, '\x7d' :: after) =>
        (isPath (Literal.trim inner) || isCall (Literal.trim inner)) && looksRight fuel true after
      | _ => false
    | _ :: rest => looksRight fuel seen rest
    | [] => seen

end Outline

/-- Whether a text has references that all look right. -/
def isOutlined (text : String) : Bool :=
  Outline.looksRight (text.length + 1) false text.toList

end Reference

end Chip8
