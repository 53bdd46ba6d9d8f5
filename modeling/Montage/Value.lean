import Montage.Number.Scalar
import Montage.Text.Quoted

/-!
# Template values

A template arrives as a tree of values: null, truth values, numbers, texts, lists
and mappings whose keys are values too.  Validation turns the tree into records;
a field that may hold several kinds of value keeps it as it is, because messages
show it.  `Value.text` is the plain text of a value and `Value.literal` the form
in which a text stands between quotes, as it does inside lists and mappings.
-/

namespace Montage

/-- A value of a template. -/
inductive Value (α : Type) where
  | null
  | bool (b : Bool)
  | number (x : α)
  | text (s : String)
  | list (items : List (Value α))
  | map (entries : List (Value α × Value α))

namespace Value

variable {α : Type}

instance : Inhabited (Value α) where
  default := null

/-! ## Text -/

section Printing

variable [Scalar α]

mutual

/-- A value as it stands inside a list or a mapping. -/
def literal : Value α → String
  | null => "None"
  | bool b => if b then "True" else "False"
  | number x => Scalar.text x
  | text s => Text.quoted s
  | list items => "[" ++ ", ".intercalate (literals items) ++ "]"
  | map entries => "\x7b" ++ ", ".intercalate (entryLiterals entries) ++ "\x7d"

/-- The members of a list. -/
def literals : List (Value α) → List String
  | [] => []
  | item :: rest => literal item :: literals rest

/-- The entries of a mapping. -/
def entryLiterals : List (Value α × Value α) → List String
  | [] => []
  | entry :: rest => entryLiteral entry :: entryLiterals rest

/-- One entry of a mapping. -/
def entryLiteral : Value α × Value α → String
  | (key, value) => literal key ++ ": " ++ literal value

end

/-- A value on its own: a text stands bare. -/
def toText : Value α → String
  | text s => s
  | value => literal value

end Printing

/-! ## Queries -/

/-- Whether the value counts as given: null, false, zero and empty values do
not. -/
def isSet [Scalar α] : Value α → Bool
  | null => false
  | bool b => b
  | number x => Scalar.isSet x
  | text s => !s.isEmpty
  | list items => !items.isEmpty
  | map entries => !entries.isEmpty

/-- Whether the value is absent. -/
def isNull : Value α → Bool
  | null => true
  | _ => false

/-- Whether the value is the given text. -/
def isText (expected : String) : Value α → Bool
  | text s => s == expected
  | _ => false

/-- The value as a number, where truth values count as zero and one. -/
def numeric? [Scalar α] : Value α → Option α
  | bool b => some (Scalar.ofInt (if b then 1 else 0))
  | number x => some x
  | _ => none

/-- Whether two keys are the same key: numbers by their value, whatever their
kind. -/
def sameKey [Scalar α] (left right : Value α) : Bool :=
  match left, right with
  | null, null => true
  | text s, text t => s == t
  | left, right =>
      match left.numeric?, right.numeric? with
      | some x, some y => Scalar.eq x y
      | _, _ => false

/-- Looks a text key up among entries. -/
def lookup? (key : String) : List (Value α × Value α) → Option (Value α)
  | [] => none
  | (name, value) :: rest => if name.isText key then some value else lookup? key rest

/-- The value under a text key of a mapping. -/
def get? (key : String) : Value α → Option (Value α)
  | map entries => lookup? key entries
  | _ => none

/-- The value under a text key of a mapping, null if there is none. -/
def get (key : String) (value : Value α) : Value α :=
  (value.get? key).getD null

/-- Sets a key: in place if the mapping has it, else at the end. -/
def insert [Scalar α] (key value : Value α) :
    List (Value α × Value α) → List (Value α × Value α)
  | [] => [(key, value)]
  | (name, old) :: rest =>
      if name.sameKey key then (name, value) :: rest else (name, old) :: insert key value rest

/-- A mapping of listed entries.  Of entries under one key the last value stays, in
the first place. -/
def ofEntries [Scalar α] (entries : List (Value α × Value α)) : Value α :=
  map (entries.foldl (fun known entry => insert entry.1 entry.2 known) [])

end Value

end Montage
