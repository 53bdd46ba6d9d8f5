import Montage.TextImage.Basic

/-!
# The even painter

Where nothing else is said, texts are drawn by a painter to whom all characters of a typeface
are equally wide, half of its size, and all lines as high as its size.  What is drawn begins
one pixel to the right of the origin and two below it, and an outline goes around it.
-/

namespace Montage

variable {α : Type} [Scalar α]

namespace Face

/-- The width of one character. -/
def advance (face : Face) : Int :=
  max 1 (face.size / 2)

/-- The width of a line. -/
def width (face : Face) (line : List Char) : Int :=
  face.advance * line.length

end Face

namespace Painter

/-- The box around lines of even characters. -/
def evenBox (face : Face) (outline : Int) (spacing : α) (lines : List (List Char)) : TextBox α :=
  { left := 1 - outline
    top := 2 - outline
    right := 1 + (lines.map face.width).foldl max 0 + outline
    bottom := Scalar.ofInt (2 + face.size * lines.length) +
      spacing * Scalar.ofInt ((lines.length : Int) - 1) + Scalar.ofInt outline }

/-- The painter to whom all characters are equally wide. -/
def even : Painter α where
  usual := [Path.ofText "/fonts/Inter.ttc", Path.ofText "/fonts/DejaVuSans.ttf"]
  fallback := ⟨"default", 10⟩
  width := Face.width
  box := evenBox

end Painter

namespace Face

/-- Loads a typeface of the even painter. -/
def load (usable : Path → Bool) (size : Int) (family : Value α) : Result α Face :=
  Painter.even.load usable size family

/-- A text of even characters with its lines broken at a limit. -/
def wrap (face : Face) (limit : Option α) (text : String) : String :=
  Painter.even.wrap face limit text

end Face

/-- Sets a text of even characters. -/
def TextImage.set (usable : Path → Bool) (text : String) (font : Font α) (width : Option Int) :
    Result α (TextImage α) :=
  setBy .even usable text font width

end Montage
