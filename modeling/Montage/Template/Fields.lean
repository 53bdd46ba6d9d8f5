import Montage.Fault.Basic

/-!
# Fields of mappings

Parts of a template are mappings with known fields.  A mapping with any other key
is refused, and the message lists the unknown keys and the known ones in order.
Keys are ordered when all of them are texts or all of them are numbers.
-/

namespace Montage

variable {α : Type}

namespace Value

/-- Whether every key is a text. -/
def allTexts (keys : List (Value α)) : Bool :=
  keys.all fun
    | .text _ => true
    | _ => false

/-- Whether a key does not come after another of its kind. -/
def keyLe [Scalar α] (left right : Value α) : Bool :=
  match left, right with
  | .text s, .text t => decide (s ≤ t)
  | left, right =>
      match left.numeric?, right.numeric? with
      | some x, some y => !Scalar.lt y x
      | _, _ => true

/-- Keys in order, if they can be ordered. -/
def sortedKeys [Scalar α] (keys : List (Value α)) : Result α (List (Value α)) :=
  if keys.length ≤ 1 || allTexts keys || keys.all (fun key => key.numeric?.isSome) then
    .ok (keys.mergeSort keyLe)
  else .error (.kind .unsupported)

/-- Names in order, as a list in a message. -/
def sortedNames [Scalar α] (names : List String) : String :=
  literal (list (α := α) ((names.mergeSort fun s t => decide (s ≤ t)).map text))

/-- The keys that are none of the names. -/
def unknownKeys (names : List String) (entries : List (Value α × Value α)) : List (Value α) :=
  (entries.map Prod.fst).filter fun key => !names.any fun name => key.isText name

end Value

namespace Template

/-- The entries of a mapping with no other fields than those named.  Null stands
for the empty mapping. -/
def fields [Scalar α] (names : List String) (owner : String) :
    Value α → Result α (List (Value α × Value α))
  | .null => .ok []
  | .map entries =>
      match Value.unknownKeys names entries with
      | [] => .ok entries
      | unknown => do
          let sorted ← Value.sortedKeys unknown
          Result.refuse (.unknownFields owner (Value.list sorted).literal
            (Value.sortedNames (α := α) names))
  | _ => Result.refuse (.notMapping owner)

end Template

end Montage
