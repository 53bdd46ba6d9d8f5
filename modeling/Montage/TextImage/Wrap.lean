import Montage.Number.Scalar
import Montage.Text.Split

/-!
# Breaking lines

A paragraph is broken at spaces so that no line measures more than a limit, as long
as there is a space to break at.  Every line takes as many words as it can.  How a
line is measured does not matter here.
-/

namespace Montage.TextImage

/-- The lines of words, where `line` is the line begun.  An empty line takes any
word. -/
def linesFrom (tooWide : List Char → Bool) (line : List Char) : List (List Char) → List (List Char)
  | [] => [line]
  | word :: words =>
      let candidate := if line.isEmpty then word else line ++ ' ' :: word
      if !line.isEmpty && tooWide candidate then line :: linesFrom tooWide word words
      else linesFrom tooWide candidate words

/-- The lines of a text, whose paragraphs stay apart. -/
def lines (tooWide : List Char → Bool) (text : List Char) : List (List Char) :=
  (Text.parts '\n' text).flatMap fun paragraph => linesFrom tooWide [] (Text.parts ' ' paragraph)

/-- A text with its lines broken. -/
def wrap (tooWide : List Char → Bool) (text : String) : String :=
  "\n".intercalate ((lines tooWide text.toList).map String.ofList)

/-- A text with its lines broken where they measure more than a limit.  No limit and
the limit zero leave the text alone. -/
def wrapTo {α : Type} [Scalar α] (measure : List Char → α) (limit : Option α) (text : String) :
    String :=
  match limit with
  | none => text
  | some limit =>
      if Scalar.isSet limit then wrap (fun line => Scalar.lt limit (measure line)) text
      else text

end Montage.TextImage
