import Montage.Fault.Basic
import Montage.Text.Word

/-!
# Path variables

File names in a template may name directories as `${name}`.  A text is cut
into segments from left to right, each a character or a variable, and every
variable is replaced by its value.  What is put in is not read again.
-/

namespace Montage.PathVariable

/-- A piece of a text with variables. -/
inductive Segment where
  | char (c : Char)
  | placeholder (name : List Char)
deriving DecidableEq, Repr

/-- The name of the variable whose opening brace has just been read, with the text
after its closing brace. -/
def variableName? (text : List Char) : Option (List Char × List Char) :=
  let name := text.takeWhile Text.isWord
  match text.dropWhile Text.isWord with
  | '}' :: rest => if name.isEmpty then none else some (name, rest)
  | _ => none

/-- What follows a variable is shorter than what it began in. -/
theorem length_lt_of_variableName? {text name rest : List Char}
    (found : variableName? text = some (name, rest)) : rest.length < text.length := by
  unfold variableName? at found
  have shorter : (text.dropWhile Text.isWord).length ≤ text.length :=
    (List.dropWhile_suffix _).length_le
  split at found
  · rename_i after closed
    dsimp only at found
    split at found
    · simp at found
    · simp only [Option.some.injEq, Prod.mk.injEq] at found
      rw [closed, found.2] at shorter
      exact shorter
  · simp at found

/-- The segments of a text. -/
def segments : List Char → List Segment
  | [] => []
  | '$' :: '{' :: rest =>
      match found : variableName? rest with
      | some (name, after) =>
          have := length_lt_of_variableName? found
          .placeholder name :: segments after
      | none => .char '$' :: segments ('{' :: rest)
  | c :: rest => .char c :: segments rest
termination_by text => text.length
decreasing_by all_goals simp_all; try omega

variable {α : Type}

/-- What stands for a variable.  A value that is not text spoils the result, but
only after the whole text has been read. -/
inductive Replacement where
  | text (characters : List Char)
  | misplaced
deriving DecidableEq, Repr

/-- Finds the value of a variable.  Names are looked up in a mapping; a list or a
text may hold the name but has no value for it. -/
def find (paths : Value α) (name : String) : Result α Replacement :=
  let unknown : Result α Replacement := .error (.input (.unknownPathVariable name))
  let unsupported : Result α Replacement := .error (.kind .unsupported)
  match paths with
  | .map _ =>
      match paths.get? name with
      | none => unknown
      | some .null => .ok (.text [])
      | some (.text s) => .ok (.text s.toList)
      | some _ => .ok .misplaced
  | .list items => if items.any (Value.isText name) then unsupported else unknown
  | .text s => if (s.splitOn name).length > 1 then unsupported else unknown
  | _ => unsupported

/-- The replacement of every segment. -/
def replacements (paths : Value α) : List Segment → Result α (List Replacement)
  | [] => .ok []
  | .char c :: rest => do return .text [c] :: (← replacements paths rest)
  | .placeholder name :: rest => do
      let found ← find paths (String.ofList name)
      return found :: (← replacements paths rest)

/-- The characters of replacements, unless one of them is misplaced. -/
def assemble : List Replacement → Result α (List Char)
  | [] => .ok []
  | .text characters :: rest => do return characters ++ (← assemble rest)
  | .misplaced :: _ => .error (.kind .unsupported)

/-- The text with every variable replaced by its value. -/
def expand (paths : Value α) (text : String) : Result α String := do
  let pieces ← replacements paths (segments text.toList)
  return String.ofList (← assemble pieces)

end Montage.PathVariable
