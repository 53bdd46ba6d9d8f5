import Montage.Unit

/-!
# Calculations of the encoder

An argument of a filter may be a calculation over the frame number `n`, which the encoder
carries out for every frame.

    sum     := product (('+' | '-') product)*
    product := factor (('*' | '/') factor)*
    factor  := '-'? operand
    operand := '(' sum ')' | 'if(' sum ',' sum ',' sum ')' | 'lt(' sum ',' sum ')' | 'n' | decimal

Operators of one kind are carried out from the left, and blanks mean nothing.  A comparison is
one if it holds and zero if it does not, and a choice takes zero for no.  Every sum inside
another one begins behind a bracket, so the count of characters bounds the depth.
-/

namespace Montage.Calculation

/-- The value of what stands in front of a text, and what follows it. -/
abbrev Reading := Option (Rat × List Char)

/-- What the operators between products do. -/
def additive? : Char → Option (Rat → Rat → Rat)
  | '+' => some (· + ·)
  | '-' => some (· - ·)
  | _ => none

/-- What the operators between factors do. -/
def multiplicative? : Char → Option (Rat → Rat → Rat)
  | '*' => some (· * ·)
  | '/' => some (· / ·)
  | _ => none

section Chains

variable (operator? : Char → Option (Rat → Rat → Rat)) (operand : List Char → Reading)

/-- Carries out the operators behind a value, up to a character that is none of them. -/
def operations : (steps : Nat) → Rat → List Char → Reading
  | steps + 1, left, c :: rest =>
      match operator? c with
      | some operation => do
          let (right, rest) ← operand rest
          operations steps (operation left right) rest
      | none => some (left, c :: rest)
  | _, left, rest => some (left, rest)

/-- Operands with operators between them. -/
def chain (text : List Char) : Reading := do
  let (first, rest) ← operand text
  operations operator? operand rest.length first rest

end Chains

/-- What stands in front of a mark, which is taken too. -/
def upTo (mark : Char) (inside : List Char → Reading) (text : List Char) : Reading := do
  match ← inside text with
  | (value, c :: rest) => if c == mark then some (value, rest) else none
  | (_, []) => none

section Grammar

variable (frame : Rat) (inside : List Char → Reading)

/-- An operand; `inside` reads what stands between brackets. -/
def operand : List Char → Reading
  | '(' :: rest => upTo ')' inside rest
  | 'i' :: 'f' :: '(' :: rest => do
      let (condition, rest) ← upTo ',' inside rest
      let (first, rest) ← upTo ',' inside rest
      let (second, rest) ← upTo ')' inside rest
      return (if condition == 0 then second else first, rest)
  | 'l' :: 't' :: '(' :: rest => do
      let (left, rest) ← upTo ',' inside rest
      let (right, rest) ← upTo ')' inside rest
      return (if left < right then 1 else 0, rest)
  | 'n' :: rest => some (frame, rest)
  | text => do
      let (literal, rest) ← DecimalLiteral.scanUnsigned false text
      return (literal.value, rest)

/-- An operand, which may have a minus sign. -/
def factor : List Char → Reading
  | '-' :: rest => do
      let (value, rest) ← operand frame inside rest
      return (-value, rest)
  | text => operand frame inside text

/-- Factors with their operators. -/
def product : List Char → Reading :=
  chain multiplicative? (factor frame inside)

end Grammar

/-- A sum nested at most `depth` deep. -/
def sum (frame : Rat) : (depth : Nat) → List Char → Reading
  | 0, _ => none
  | depth + 1, text => chain additive? (product frame (sum frame depth)) text

/-- A text without blanks. -/
def characters (text : String) : List Char :=
  text.toList.filter fun c => !c.isWhitespace

/-- What a whole text comes to at a frame. -/
def value? (frame : Rat) (text : String) : Option Rat :=
  let written := characters text
  match sum frame written.length written with
  | some (value, []) => some value
  | _ => none

end Montage.Calculation
