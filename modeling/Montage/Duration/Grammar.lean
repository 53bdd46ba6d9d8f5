import Montage.Duration.Token

/-!
# The grammar of durations

The rules by which durations are written, apart from how they are read.  `Spells`
divides a text into tokens, and a token may have white space in front.  `Sentence`
derives an expression from tokens:

    expression := operand (operator expression)?
    operand    := '(' expression ')' | reference | time

A text has at most one division that is a sentence, since nothing that may follow a
time in a sentence could be a part of it.
-/

namespace Montage.Duration

/-! ## Tokens -/

/-- One or more digits. -/
def IsDigits (text : List Char) : Prop :=
  text ≠ [] ∧ ∀ c ∈ text, Text.isDigit c = true

/-- Groups of digits divided by colons. -/
inductive IsClock : List Char → Prop where
  | digits {text : List Char} (digits : IsDigits text) : IsClock text
  | colon {first rest : List Char} (digits : IsDigits first) (clock : IsClock rest) :
      IsClock (first ++ ':' :: rest)

/-- A fraction: a point or a comma, and digits. -/
inductive IsFraction : List Char → Prop where
  | point {text : List Char} (digits : IsDigits text) : IsFraction ('.' :: text)
  | comma {text : List Char} (digits : IsDigits text) : IsFraction (',' :: text)

/-- A time has a fraction, groups of digits, or both. -/
inductive IsTime : List Char → Prop where
  | clock {text : List Char} (clock : IsClock text) : IsTime text
  | fraction {text : List Char} (fraction : IsFraction text) : IsTime text
  | both {whole part : List Char} (clock : IsClock whole) (fraction : IsFraction part) :
      IsTime (whole ++ part)

/-- What may stand between the braces of a reference. -/
def IsName (name : List Char) : Prop :=
  name ≠ [] ∧ ∀ c ∈ name, isNameCharacter c = true

/-- Whether a token can be written. -/
def Token.IsValid : Token → Prop
  | reference name => IsName name
  | time text => IsTime text
  | opening | closing | operator _ => True

/-- A text is tokens one after another, with white space in front of each and at the
end. -/
inductive Spells : List Char → List Token → Prop where
  | nothing {blanks : List Char} (blank : ∀ c ∈ blanks, Text.isBlank c = true) :
      Spells blanks []
  | token {blanks rest : List Char} {token : Token} {tokens : List Token}
      (blank : ∀ c ∈ blanks, Text.isBlank c = true) (valid : token.IsValid)
      (spells : Spells rest tokens) :
      Spells (blanks ++ token.characters ++ rest) (token :: tokens)

/-! ## Expressions -/

mutual

/-- An expression is derived from tokens. -/
inductive Sentence : Expression → List Token → Prop where
  | operand {expression : Expression} {tokens : List Token}
      (operand : Operand expression tokens) : Sentence expression tokens
  | operation {operator : Operator} {left right : Expression} {first rest : List Token}
      (operand : Operand left first) (sentence : Sentence right rest) :
      Sentence (.operation operator left right) (first ++ .operator operator :: rest)

/-- An operand is derived from tokens. -/
inductive Operand : Expression → List Token → Prop where
  | group {inner : Expression} {tokens : List Token} (sentence : Sentence inner tokens) :
      Operand (.group inner) (.opening :: tokens ++ [.closing])
  | reference (name : List Char) : Operand (.reference name) [.reference name]
  | time (text : List Char) : Operand (.time text) [.time text]

end

/-- Whether an expression is a bare operation, which can stand on the right of an operator
but not on its left. -/
def Expression.isOperation : Expression → Bool
  | operation _ _ _ => true
  | _ => false

/-- An expression that can be written: its times and names are valid, and no left operand
is a bare operation. -/
def Expression.IsWritable : Expression → Prop
  | time text => IsTime text
  | reference name => IsName name
  | group inner => inner.IsWritable
  | operation _ left right =>
      left.IsWritable ∧ right.IsWritable ∧ left.isOperation = false

end Montage.Duration
