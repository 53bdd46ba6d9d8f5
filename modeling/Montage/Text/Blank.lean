/-!
# White space

The white space of templates is Unicode's: the characters of category Z and the
controls that separate lines or fields.  That is more than the blanks of ASCII
and includes the four information separators.
-/

namespace Montage.Text

/-- Whether the character is white space. -/
def isBlank (c : Char) : Bool :=
  let code := c.toNat
  (0x09 ≤ code && code ≤ 0x0D) || (0x1C ≤ code && code ≤ 0x20) || code == 0x85 ||
    code == 0xA0 || code == 0x1680 || (0x2000 ≤ code && code ≤ 0x200A) ||
    code == 0x2028 || code == 0x2029 || code == 0x202F || code == 0x205F || code == 0x3000

/-- The text without white space in front. -/
def trimFront (text : List Char) : List Char :=
  text.dropWhile isBlank

/-- The text without white space at its end. -/
def trimBack (text : List Char) : List Char :=
  (text.reverse.dropWhile isBlank).reverse

/-- The text without white space at either end. -/
def trim (text : List Char) : List Char :=
  trimBack (trimFront text)

/-- The text without characters of a kind at either end. -/
def trimOf (kind : Char → Bool) (text : List Char) : List Char :=
  ((text.dropWhile kind).reverse.dropWhile kind).reverse

end Montage.Text
