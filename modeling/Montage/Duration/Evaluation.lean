import Montage.Duration.Reference

/-!
# The value of a duration

A time is a sum of its parts in powers of sixty.  A reference has the value of
what it stands for, read as a duration in turn.  On the way to a value each
reference is followed at most once, so evaluation carries the references that may
still be followed: at first those of the expression and of every text of the
template.  A reference that is not among them has been followed before, which is a
cycle, and the list gets shorter with every reference that is followed.
-/

namespace Montage

variable {α : Type}

namespace Value

mutual

/-- The texts in a value. -/
def texts : Value α → List String
  | text s => [s]
  | list items => itemTexts items
  | map entries => entryTexts entries
  | null | bool _ | number _ => []

/-- The texts in the items of a list. -/
def itemTexts : List (Value α) → List String
  | [] => []
  | item :: rest => texts item ++ itemTexts rest

/-- The texts in the values of a mapping. -/
def entryTexts : List (Value α × Value α) → List String
  | [] => []
  | entry :: rest => entryText entry ++ entryTexts rest

/-- The texts in the value of an entry. -/
def entryText : Value α × Value α → List String
  | (_, value) => texts value

end

end Value

/-- The texts in the fields of a clip. -/
def Clip.texts (clip : Clip α) : List String :=
  Clip.fieldNames.flatMap fun name =>
    match clip.field? name with
    | some (.value value) => value.texts
    | _ => []

/-- The texts that a reference may lead to. -/
def Scope.texts (scope : Scope α) : List String :=
  Value.entryTexts scope.keypoints ++ scope.clips.flatMap Clip.texts

namespace Duration

/-- Reads a text as an expression; white space around it does not count. -/
def read (text : String) : Result α Expression :=
  let text := String.ofList (Text.trim text.toList)
  match parse text with
  | .ok expression => .ok expression
  | .error cause => .error (.input (.duration (.malformed text cause)))

/-- The references in a text. -/
def referencesIn (text : String) : List (List Char) :=
  match parse (String.ofList (Text.trim text.toList)) with
  | .ok expression => expression.references
  | .error _ => []

/-- The references that may be followed on the way to the value of an
expression. -/
def followable (scope : Scope α) (expression : Expression) : List (List Char) :=
  if expression.references.isEmpty then []
  else expression.references ++ scope.texts.flatMap referencesIn

/-- What is left to follow behind a reference. -/
def following (name : List Char) (names : List (List Char)) : List (List Char) :=
  names.filter fun other => other != name

/-- A reference is not left to follow behind itself. -/
theorem length_following_lt {name : List Char} {names : List (List Char)}
    (followed : name ∈ names) : (following name names).length < names.length := by
  rw [following, List.length_filter_lt_length_iff_exists]
  exact ⟨name, followed, by simp⟩

variable [Scalar α]

/-- A part of a time as a number. -/
def partValue (part : List Char) : α :=
  let whole := part.takeWhile Text.isDigit
  let fraction := (part.dropWhile Text.isDigit).tail
  Scalar.ofDecimal (Text.digitsValue (whole ++ fraction)) fraction.length

/-- Adds the parts of a time, the last of them first, to `total`; the next part
counts `60 ^ place` seconds. -/
def sumParts (place : Nat) (total : α) : List (List Char) → Except NumberFault α
  | [] => .ok total
  | part :: rest => do
      let unit : α ← Scalar.toReal (Scalar.ofInt (60 ^ place))
      sumParts (place + 1) (total + partValue part * unit) rest

/-- The seconds that a time spells. -/
def seconds (time : List Char) : Except NumberFault α :=
  sumParts 0 0 (Text.parts ':' time).reverse

/-- The result of an operation; `whole` is the expression that it belongs to. -/
def apply (operator : Operator) (left right : α) (whole : Expression) : Result α α :=
  match operator with
  | .add => .ok (left + right)
  | .subtract => .ok (left - right)
  | .multiply => .ok (left * right)
  | .divide =>
      if Scalar.eq right (Scalar.ofInt 0) then
        .error (.input (.duration (.divisionByZero whole.text)))
      else .ok (left / right)

/-- The value of an expression, where the references in `names` may be followed. -/
def evaluate (scope : Scope α) (names : List (List Char)) : Expression → Result α α
  | .time characters => seconds characters
  | .group inner => evaluate scope names inner
  | .operation operator left right => do
      let leftValue ← evaluate scope names left
      let rightValue ← evaluate scope names right
      apply operator leftValue rightValue (.operation operator left right)
  | .reference name =>
      if followed : name ∈ names then do
        match ← meaning scope name with
        | .number x => Scalar.toReal x
        | .text s => do
            let expression ← read s
            have := length_following_lt followed
            evaluate scope (following name names) expression
        | value => .error (.input (.duration (.notExpression value)))
      else refuse name .cycle
termination_by expression => (names.length, expression)

/-- The seconds that a value stands for. -/
def ofValue (scope : Scope α) : Value α → Result α α
  | .number x => Scalar.toReal x
  | .text s => do
      let expression ← read s
      evaluate scope (followable scope expression) expression
  | value => .error (.input (.duration (.notExpression value)))

end Duration

end Montage
