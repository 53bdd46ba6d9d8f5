import Montage.Value

/-!
# Faults of durations

A duration expression fails in its text, in a reference, or in a division.  The
message names the expression or the part of it that failed.
-/

namespace Montage

/-- What is wrong with the text of a duration. -/
inductive SyntaxFault where
  /-- No token begins where `rest` does. -/
  | unreadable (rest : String)
  | empty
  /-- An operator should stand where `found` does. -/
  | operatorExpected (found : String)
  /-- An operator has no right operand. -/
  | operandMissing
  | ended
  | unbalanced
  /-- A duration should stand where `found` does. -/
  | operandExpected (found : String)
deriving DecidableEq, Repr

/-- The cause without the expression. -/
def SyntaxFault.message : SyntaxFault → String
  | unreadable rest => s!"Cannot parse \"{rest}\""
  | empty => "Expression is empty"
  | operatorExpected found => s!"Expected \"+,-,/,*\" where \"{found}\" was"
  | operandMissing => "Expected <duration> <operator> <duration_expr>"
  | ended => "Unexpected end of expression"
  | unbalanced => "Unbalanced parentheses"
  | operandExpected found => s!"Expected a duration where \"{found}\" was"

/-- Why a reference has no value. -/
inductive ReferenceFault where
  | cycle
  | unknown (name : String)
  | noField (clip : String)
  | undefinedField (clip : String)
  /-- The field holds something else, shown as `literal`. -/
  | notDuration (literal : String)
deriving DecidableEq, Repr

/-- The cause without the reference. -/
def ReferenceFault.message : ReferenceFault → String
  | cycle => "Reference cycle detected"
  | unknown name => s!"No clip or keypoint named \"{name}\""
  | noField clip => s!"Expected a field path on clip \"{clip}\""
  | undefinedField clip => s!"Specified clip field for clip \"{clip}\" is undefined"
  | notDuration literal => s!"Field is not a duration: {literal}"

/-- Why a duration has no value in seconds. -/
inductive DurationFault (α : Type) where
  | malformed (expression : String) (cause : SyntaxFault)
  | reference (reference : String) (cause : ReferenceFault)
  | divisionByZero (quotient : String)
  /-- The value is of a kind that is never a duration. -/
  | notExpression (value : Value α)

/-- The message of a duration fault. -/
def DurationFault.message {α : Type} [Scalar α] : DurationFault α → String
  | malformed expression cause => s!"Invalid duration \"{expression}\". {cause.message}"
  | reference name cause => s!"Invalid duration \"{name}\". {cause.message}"
  | divisionByZero quotient => s!"Invalid duration \"{quotient}\". Division by zero"
  | notExpression value =>
      let shown := s!"Invalid duration {value.literal}"
      match value with
      | .bool _ => shown
      | _ => shown ++ ". Expected a timestamp string"

end Montage
