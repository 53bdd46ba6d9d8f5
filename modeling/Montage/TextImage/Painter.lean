import Montage.Color
import Montage.Fault.Basic
import Montage.Path
import Montage.TextImage.Wrap

/-!
# Painters

A painter measures texts in typefaces and draws them.  A text is set in the first typeface
that can be loaded: that of its font, then those that the painter tries for every text, then
one that is always there.  Only the painter knows how wide a line and how high a text is.
-/

namespace Montage

/-- A typeface at a size. -/
structure Face where
  path : String
  size : Int
deriving DecidableEq, Repr

/-- The box around what is drawn of a text at the origin. -/
structure TextBox (α : Type) where
  left : Int
  top : Int
  right : Int
  /-- The spacing of lines need not be a whole number. -/
  bottom : α

/-- A call of the painter. -/
inductive DrawCall (α : Type) where
  /-- A filled rectangle over the whole patch, up to its last pixel. -/
  | rectangle (right bottom : Int) (radius : Value α) (fill : Color)
  | text (x y : Int) (content : String) (face : Face) (spacing : Value α) (outline : Int)
    (fill outlineFill : Color)

/-- How texts are measured, and in which typefaces they are set. -/
structure Painter (α : Type) where
  /-- The typefaces that are tried for every text. -/
  usual : List Path
  /-- The typeface that is always there. -/
  fallback : Face
  /-- The width of a line. -/
  width : Face → List Char → Int
  /-- The box around lines with an outline and a spacing. -/
  box : Face → Int → α → List (List Char) → TextBox α

variable {α : Type} [Scalar α]

/-- The typeface that a font names, if it names one. -/
def Face.named (family : Value α) : Result α (List Path) :=
  if !family.isSet then .ok []
  else
    match family with
    | .text s => .ok [Path.ofText s]
    | _ => .error (.kind .unsupported)

namespace Painter

omit [Scalar α] in
/-- The first of the usable typefaces. -/
def choose (painter : Painter α) (usable : Path → Bool) (size : Int) (candidates : List Path) :
    Face :=
  match candidates.find? usable with
  | some path => ⟨path.toText, size⟩
  | none => painter.fallback

/-- Loads a typeface. -/
def load (painter : Painter α) (usable : Path → Bool) (size : Int) (family : Value α) :
    Result α Face := do
  return painter.choose usable size ((← Face.named family) ++ painter.usual)

/-- A text in a typeface with its lines broken at a limit. -/
def wrap (painter : Painter α) (face : Face) (limit : Option α) (text : String) : String :=
  TextImage.wrapTo (fun line => Scalar.ofInt (painter.width face line)) limit text

end Painter

end Montage
