import Montage.Duration.Token
import Montage.Fault.Duration

/-!
# Reading duration expressions

    expression := operand (operator expression)?
    operand    := '(' expression ')' | reference | time

The reader descends along this grammar.  Every expression inside another begins
behind at least one token of it, so the count of tokens bounds the depth, and one
step more than that count is never used up.
-/

namespace Montage.Duration

/-- An expression read from the front of a list of tokens, with the tokens behind
it. -/
abbrev Reading := Except SyntaxFault (Expression × List Token)

/-- Reads an operand; `inside` reads what stands between parentheses. -/
def operand (inside : List Token → Reading) : List Token → Reading
  | [] => .error .ended
  | .opening :: tokens => do
      match ← inside tokens with
      | (inner, .closing :: tokens) => .ok (.group inner, tokens)
      | _ => .error .unbalanced
  | .reference name :: tokens => .ok (.reference name, tokens)
  | .time characters :: tokens => .ok (.time characters, tokens)
  | token :: _ => .error (.operandExpected token.text)

/-- Reads an operator and the expression behind it if there is one; `further` reads
that expression. -/
def continuation (further : List Token → Reading) (left : Expression) : List Token → Reading
  | .operator operator :: tokens =>
      match tokens with
      | [] | .operator _ :: _ | .closing :: _ => .error .operandMissing
      | _ => do
          let (right, tokens) ← further tokens
          return (.operation operator left right, tokens)
  | tokens => .ok (left, tokens)

/-- Reads an expression nested at most `depth` deep. -/
def expression : (depth : Nat) → List Token → Reading
  | 0, _ => .error .ended
  | depth + 1, tokens => do
      let (left, tokens) ← operand (expression depth) tokens
      continuation (expression depth) left tokens

/-- Reads tokens as one expression. -/
def expressionOf (tokens : List Token) : Except SyntaxFault Expression :=
  if tokens.isEmpty then .error .empty
  else do
    match ← expression (tokens.length + 1) tokens with
    | (expression, []) => .ok expression
    | (_, token :: _) => .error (.operatorExpected token.text)

/-- Reads a text as an expression. -/
def parse (text : String) : Except SyntaxFault Expression :=
  match tokens text.toList with
  | .error rest => .error (.unreadable (String.ofList rest))
  | .ok tokens => expressionOf tokens

end Montage.Duration
