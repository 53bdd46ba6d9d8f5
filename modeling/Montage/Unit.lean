import Montage.Fault.Basic
import Montage.Text.Digit

/-!
# Lengths and shares

Layouts, crops, pans, speeds and volumes are written as `50%` or `120px`.  A
literal is an optional minus sign, digits, optionally a point and more digits,
then the unit, and it may end in one line feed.  `Length.ofValue` sorts every
value into one of four cases, and `Length.resolve` takes a value by its case.  A
value that must be a share, or a count of pixels, is matched with its own unit only.
-/

namespace Montage

/-- A decimal as it is written: a sign, digits, and how many of them follow the
point. -/
structure DecimalLiteral where
  negative : Bool
  mantissa : Nat
  places : Nat
deriving DecidableEq, Repr

namespace DecimalLiteral

/-- The number that the literal denotes. -/
def value {α : Type} [Scalar α] (literal : DecimalLiteral) : α :=
  let magnitude : α := Scalar.ofDecimal literal.mantissa literal.places
  if literal.negative then -magnitude else magnitude

/-- Reads digits, and a point with digits after it if both are there. -/
def scanUnsigned (negative : Bool) (text : List Char) : Option (DecimalLiteral × List Char) :=
  match Text.spanDigits text with
  | ([], _) => none
  | (whole, '.' :: rest) =>
      match Text.spanDigits rest with
      | ([], _) => some (⟨negative, Text.digitsValue whole, 0⟩, '.' :: rest)
      | (fraction, rest) =>
          some (⟨negative, Text.digitsValue (whole ++ fraction), fraction.length⟩, rest)
  | (whole, rest) => some (⟨negative, Text.digitsValue whole, 0⟩, rest)

/-- Reads the decimal in front of a text. -/
def scan : List Char → Option (DecimalLiteral × List Char)
  | '-' :: rest => scanUnsigned true rest
  | text => scanUnsigned false text

/-- Reads a whole text as a decimal with a unit behind it. -/
def withUnit? (unit : String) (text : List Char) : Option DecimalLiteral := do
  let (literal, rest) ← scan text
  if rest == unit.toList || rest == unit.toList ++ ['\n'] then some literal else none

/-- Reads a value as a decimal with a unit behind it. -/
def ofValue? {α : Type} (unit : String) : Value α → Option DecimalLiteral
  | .text s => withUnit? unit s.toList
  | _ => none

end DecimalLiteral

/-- What a value says about a length. -/
inductive Length (α : Type) where
  | omitted
  /-- A share of something, where `50%` is a half. -/
  | percentage (fraction : α)
  | pixels (count : α)
  | invalid

namespace Length

variable {α β : Type} [Scalar α]

/-- Reads the text of a length. -/
def ofText (text : String) : Length α :=
  if text.isEmpty then omitted
  else
    match DecimalLiteral.withUnit? "%" text.toList with
    | some literal => percentage (literal.value / Scalar.ofInt 100)
    | none =>
        match DecimalLiteral.withUnit? "px" text.toList with
        | some literal => pixels literal.value
        | none => invalid

/-- Reads a value as a length. -/
def ofValue : Value α → Length α
  | .null => omitted
  | .text s => ofText s
  | _ => invalid

/-- The share that a value is. -/
def percentage? (value : Value α) : Result α α :=
  match DecimalLiteral.ofValue? "%" value with
  | some literal => .ok (literal.value / Scalar.ofInt 100)
  | none => .error (.unit (.notPercentage value))

/-- The count of pixels that a value is. -/
def pixels? (value : Value α) : Result α α :=
  match DecimalLiteral.ofValue? "px" value with
  | some literal => .ok literal.value
  | none => .error (.unit (.notPixels value))

/-- Whether a value is a share. -/
def isPercentage (value : Value α) : Bool :=
  (DecimalLiteral.ofValue? "%" value).isSome

/-- A length that must be given. -/
def required : Result α β :=
  .error (.input .undefinedValue)

/-- Resolves a value by its case. -/
def resolve (value : Value α) (ofFraction ofPixels : α → Result α β) (ifOmitted : Result α β) :
    Result α β :=
  match ofValue value with
  | omitted => ifOmitted
  | percentage fraction => ofFraction fraction
  | pixels count => ofPixels count
  | invalid => .error (.unit (.neither value))

/-- Resolves a length where a share is of `whole`. -/
def within (whole : α) (value : Value α) (ifOmitted : Result α α) : Result α α :=
  resolve value (fun fraction => Scalar.checked (fraction * whole)) .ok ifOmitted

end Length

end Montage
