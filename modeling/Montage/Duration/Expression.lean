import Montage.Text.Split

/-!
# Duration expressions

A duration is a timestamp, a reference to a keypoint or to a field of a clip, or
arithmetic over both:

    00:00:05
    {CLIP_0.trim.start} + 2
    ({intro} + 1) * 2

The right side of an operator is a whole expression, so a chain of operators
nests to the right and no operator binds tighter than another: `3 - 1 - 2` is
`3 - (1 - 2)`.  Parentheses in the text are kept as groups, and an expression is
written out without any others; a left operand is therefore never itself a bare
operation in an expression that was read.
-/

namespace Montage.Duration

/-- The four operations. -/
inductive Operator where
  | add
  | subtract
  | multiply
  | divide
deriving DecidableEq, Repr

namespace Operator

/-- The sign of an operation. -/
def sign : Operator → Char
  | add => '+'
  | subtract => '-'
  | multiply => '*'
  | divide => '/'

/-- The operation that a sign stands for. -/
def ofSign? : Char → Option Operator
  | '+' => some add
  | '-' => some subtract
  | '*' => some multiply
  | '/' => some divide
  | _ => none

end Operator

/-- A duration as it was read. -/
inductive Expression where
  /-- Digits divided by colons, with an optional fraction at the end. -/
  | time (characters : List Char)
  /-- What stands between the braces of a reference. -/
  | reference (name : List Char)
  | operation (operator : Operator) (left right : Expression)
  | group (inner : Expression)
deriving DecidableEq, Repr

namespace Expression

/-- A reference as it is written. -/
def referenceText (name : List Char) : List Char :=
  '{' :: name ++ ['}']

/-- The characters of an expression. -/
def characters : Expression → List Char
  | time text => text
  | reference name => referenceText name
  | operation operator left right =>
      left.characters ++ ' ' :: operator.sign :: ' ' :: right.characters
  | group inner => '(' :: inner.characters ++ [')']

/-- The text of an expression. -/
def text (expression : Expression) : String :=
  String.ofList expression.characters

/-- The names of all references, from left to right. -/
def references : Expression → List (List Char)
  | time _ => []
  | reference name => [name]
  | operation _ left right => left.references ++ right.references
  | group inner => inner.references

end Expression

/-- The steps of a reference: a keypoint or a clip, then fields. -/
def path (name : List Char) : List String :=
  (Text.parts '.' name).map String.ofList

end Montage.Duration
