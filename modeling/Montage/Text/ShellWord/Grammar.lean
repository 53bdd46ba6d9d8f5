import Montage.Text.ShellWord

/-!
# The grammar of command lines

The rules by which a shell divides a line into words, apart from how they are read.  A
word is made of parts: bare characters, a character behind a backslash, and what stands
between quotes.  `Line` divides a text into words with blanks between them.  A backslash
in front of a line feed continues the line wherever it is not between single quotes.

    line := (blank | continuation)* (word (blank line)?)? '\n'?
    word := part (part | continuation)*

There is no rule for characters by which a shell would do more than divide a line.
-/

namespace Montage.ShellWord

/-- Blanks, which divide words. -/
def isBlank (c : Char) : Bool :=
  c == ' ' || c == '\t'

/-- Characters that stand for themselves outside quotes. -/
def isBare (c : Char) : Bool :=
  !(isBlank c || c == '\n' || c == quoteMark || c == doubleMark || c == '\\' || isSpecial c)

/-- Characters that do not stand for themselves between double quotes. -/
def isActive (c : Char) : Bool :=
  c == '\\' || c == doubleMark || c == '$' || c == '\x60'

/-! ## Words -/

/-- What may stand between double quotes, and what it stands for.  A backslash goes away in
front of an active character, and stays in front of any other. -/
inductive Inside : List Char → List Char → Prop where
  | nil : Inside [] []
  | plain {c : Char} {text word : List Char} (inactive : isActive c = false)
      (behind : Inside text word) : Inside (c :: text) (c :: word)
  | continued {text word : List Char} (behind : Inside text word) :
      Inside ('\\' :: '\n' :: text) word
  | escaped {c : Char} {text word : List Char} (active : isActive c = true)
      (behind : Inside text word) : Inside ('\\' :: c :: text) (c :: word)
  | kept {c : Char} {text word : List Char} (inactive : isActive c = false) (onLine : c ≠ '\n')
      (behind : Inside text word) : Inside ('\\' :: c :: text) ('\\' :: c :: word)

/-- A part of a word, and what it stands for. -/
inductive Part : List Char → List Char → Prop where
  | bare {c : Char} (bare : isBare c = true) : Part [c] [c]
  | escaped {c : Char} (onLine : c ≠ '\n') : Part ['\\', c] [c]
  | single {quoted : List Char} (closed : quoteMark ∉ quoted) :
      Part (quoteMark :: quoted ++ [quoteMark]) quoted
  | double {quoted word : List Char} (inside : Inside quoted word) :
      Part (doubleMark :: quoted ++ [doubleMark]) word

/-- What may follow in a word that has begun, and what it stands for. -/
inductive Parts : List Char → List Char → Prop where
  | nil : Parts [] []
  | continued {text word : List Char} (behind : Parts text word) :
      Parts ('\\' :: '\n' :: text) word
  | part {text rest word more : List Char} (part : Part text word) (behind : Parts rest more) :
      Parts (text ++ rest) (word ++ more)

/-- A word, and what it stands for.  It has a part even if it stands for nothing. -/
inductive IsWord : List Char → List Char → Prop where
  | parts {text rest word more : List Char} (part : Part text word) (behind : Parts rest more) :
      IsWord (text ++ rest) (word ++ more)

/-! ## Lines -/

/-- A word ends in front of a text that does not go on with it. -/
def EndsWord (text : List Char) : Prop :=
  ∀ c ∈ text.head?, isBlank c = true ∨ c = '\n'

/-- A line, and what its words stand for.  A line feed is its end. -/
inductive Line : List Char → List (List Char) → Prop where
  | nil : Line [] []
  | ended : Line ['\n'] []
  | blank {c : Char} {text : List Char} {words : List (List Char)} (blank : isBlank c = true)
      (behind : Line text words) : Line (c :: text) words
  | continued {text : List Char} {words : List (List Char)} (behind : Line text words) :
      Line ('\\' :: '\n' :: text) words
  | word {text rest word : List Char} {words : List (List Char)} (isWord : IsWord text word)
      (ends : EndsWord rest) (behind : Line rest words) : Line (text ++ rest) (word :: words)

/-- A shell reads a command line as these words. -/
def Reads (line : String) (words : List String) : Prop :=
  Line line.toList (words.map String.toList)

end Montage.ShellWord
