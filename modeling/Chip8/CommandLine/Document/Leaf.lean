import Chip8.CommandLine.Document.Kind
import Chip8.CommandLine.Value

/-!
# Scalars of a kind

A scalar of a document is a text. What it stands for depends on the kind that it has, by its
spelling or by a tag. A tag can ask for a kind that the text does not suit.

Bytes are given in base 64, four characters for three bytes. Characters outside of its alphabet are
passed over, and the padding after an incomplete group ends it.
-/

namespace Chip8

namespace Document

namespace Leaf

/-- The sign of a number without underscores, and the rest, of which there has to be some. -/
def signed? (cs : List Char) : Option (Bool × List Char) :=
  match Literal.signed (cs.filter (· != '_')) with
  | (_, []) => none
  | found => some found

/-- The truth value of a word. -/
def truth? (text : String) : Option Bool :=
  match text.toLower with
  | "yes" | "true" | "on" => some true
  | "no" | "false" | "off" => some false
  | _ => none

/-- The number that characters denote without a sign of their own: after `0b`, `0x` or a zero in
another radix, with colons in the base of sixty, and else decimal. -/
def magnitude? (cs : List Char) : Option Int :=
  match cs with
  | ['0'] => some 0
  | '0' :: 'b' :: digits => Literal.read? .binary digits
  | '0' :: 'x' :: digits => Literal.read? .hexadecimal digits
  | '0' :: _ => Literal.read? .octal cs
  | _ =>
    (Text.pieces ':' cs).foldlM (fun value place => do
      return 60 * value + (← (Literal.integer (String.ofList place)).toOption)) 0

/-- The whole number that characters denote. -/
def integer? (cs : List Char) : Option Int := do
  let (negative, rest) ← signed? cs
  let magnitude ← magnitude? rest
  return if negative then -magnitude else magnitude

/-- The number that places in the base of sixty denote, the last place first. What a place counts
has to be in range. -/
def ofSixtieths (places : List Binary) : Option Binary :=
  go 1 (.ofRatio false 0 1) places
where
  /-- Adds the places to a number, where the first of them counts so many. -/
  go (unit : Nat) (total : Binary) : List Binary → Option Binary
    | [] => some total
    | place :: rest =>
      match (Binary.ofRatio false unit 1).ratio? with
      | some (n, d) => go (60 * unit) (total.sum (place.scale n.natAbs d)) rest
      | none => none

/-- Whether characters spell what is not a number in the manner of the format. -/
def isNotANumber (cs : List Char) : Bool :=
  (signed? (cs.map Char.toLower)).any fun (_, rest) => rest == ['.', 'n', 'a', 'n']

/-- The number that characters denote, which may have a fraction. -/
def number? (cs : List Char) : Option Binary := do
  let (negative, rest) ← signed? (cs.map Char.toLower)
  let magnitude ←
    if rest == ['.', 'i', 'n', 'f'] then some (.infinite false)
    else if rest == ['.', 'n', 'a', 'n'] then some .notANumber
    else if rest.contains ':' then do
      ofSixtieths (← (Text.pieces ':' rest).mapM Literal.real?).reverse
    else Literal.real? rest
  return if negative then magnitude.negate else magnitude

/-! ## Base 64 -/

/-- The value of a character of base 64. -/
def sextet? (c : Char) : Option Nat :=
  if 'A' ≤ c ∧ c ≤ 'Z' then some (c.toNat - 'A'.toNat)
  else if 'a' ≤ c ∧ c ≤ 'z' then some (c.toNat - 'a'.toNat + 26)
  else if c.isDigit then some (c.toNat - '0'.toNat + 52)
  else if c = '+' then some 62
  else if c = '/' then some 63
  else none

/-- The bytes of the sextets of a group, of which there may be less than four. -/
def octets (group : List Nat) : List UInt8 :=
  let bits := (group ++ List.replicate (4 - group.length) 0).foldl (fun n s => 64 * n + s) 0
  [bits / 0x10000, bits / 0x100, bits].map UInt8.ofNat |>.take (group.length - 1)

/-- The bytes of characters, after a group that has been started and some padding. -/
def decode? (group : List Nat) (padding : Nat) : List Char → Option (List UInt8)
  | [] => if group.isEmpty then some [] else none
  | c :: rest =>
    if c = '=' then
      if group.length < 2 then decode? group padding rest
      else if 4 ≤ group.length + padding + 1 then some (octets group)
      else decode? group (padding + 1) rest
    else
      match sextet? c with
      | none => decode? group padding rest
      | some s =>
        if group.length = 3 then (decode? [] 0 rest).map (octets (group ++ [s]) ++ ·)
        else decode? (group ++ [s]) 0 rest

/-- The bytes that characters denote, all of which have to be ASCII. -/
def bytes? (cs : List Char) : Option (List UInt8) :=
  if cs.all (·.toNat < 128) then decode? [] 0 cs else none

/-! ## Scalars -/

/-- What a text stands for as a scalar of a kind. -/
def ofText? (kind : Kind) (text : String) : Option Scalar :=
  match kind with
  | .null => some .null
  | .truth => (truth? text).map .truth
  | .integer => (integer? text.toList).map .integer
  | .number => (number? text.toList).map .number
  | .bytes => (bytes? text.toList).map .bytes
  | .text => some (.text text)
  | _ => none

end Leaf

end Document

end Chip8
