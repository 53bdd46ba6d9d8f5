import Montage.Duration.Expression
import Montage.Text.Blank
import Montage.Text.Digit

/-!
# Tokens of duration expressions

White space may stand in front of every token.  A time takes as many characters
as it can: digits, groups of a colon and digits, and one fraction behind a point
or a comma; a fraction may also stand alone.  The reader takes one token after
another and stops at the first place where none begins.
-/

namespace Montage.Duration

/-- A token of an expression. -/
inductive Token where
  | opening
  | closing
  | operator (operator : Operator)
  | reference (name : List Char)
  | time (characters : List Char)
deriving DecidableEq, Repr

/-- The characters of a token. -/
def Token.characters : Token → List Char
  | opening => ['(']
  | closing => [')']
  | operator sign => [sign.sign]
  | reference name => Expression.referenceText name
  | time text => text

/-- The text of a token. -/
def Token.text (token : Token) : String :=
  String.ofList token.characters

/-- Characters of the names inside braces. -/
def isNameCharacter (c : Char) : Bool :=
  c.isAlphanum || c == '.' || c == '_' || c == '-'

/-- The time in front of a text and what follows it.  A colon counts only in front
of a digit, and so does a point or a comma, behind which no more of them count. -/
def spanTime (inFraction : Bool) : List Char → List Char × List Char
  | [] => ([], [])
  | [c] => if Text.isDigit c then ([c], []) else ([], [c])
  | c :: d :: rest =>
      if Text.isDigit c then
        let (time, after) := spanTime inFraction (d :: rest)
        (c :: time, after)
      else if !inFraction && Text.isDigit d && (c == ':' || c == '.' || c == ',') then
        let (time, after) := spanTime (c != ':') rest
        (c :: d :: time, after)
      else ([], c :: d :: rest)

/-- The token that begins with the first character, and what follows it. -/
def token? : List Char → Option (Token × List Char)
  | [] => none
  | '(' :: rest => some (.opening, rest)
  | ')' :: rest => some (.closing, rest)
  | '{' :: rest =>
      match rest.dropWhile isNameCharacter with
      | '}' :: after =>
          let name := rest.takeWhile isNameCharacter
          if name.isEmpty then none else some (.reference name, after)
      | _ => none
  | ':' :: _ => none
  | c :: rest =>
      match Operator.ofSign? c with
      | some operator => some (.operator operator, rest)
      | none =>
          let (time, after) := spanTime false (c :: rest)
          if time.isEmpty then none else some (.time time, after)

/-- A time and what follows it make up the text. -/
theorem spanTime_append (inFraction : Bool) (text : List Char) :
    (spanTime inFraction text).1 ++ (spanTime inFraction text).2 = text := by
  fun_induction spanTime inFraction text <;> simp_all

/-- A token takes at least one character. -/
theorem length_lt_of_token? {text after : List Char} {token : Token}
    (found : token? text = some (token, after)) : after.length < text.length := by
  unfold token? at found
  split at found
  · simp at found
  · simp_all
  · simp_all
  · rename_i rest
    have shorter : (rest.dropWhile isNameCharacter).length ≤ rest.length :=
      (List.dropWhile_suffix _).length_le
    split at found
    · rename_i closed
      dsimp only at found
      split at found
      · simp at found
      · simp only [Option.some.injEq, Prod.mk.injEq] at found
        rw [closed, found.2] at shorter
        simp only [List.length_cons] at shorter ⊢
        omega
    · simp at found
  · simp at found
  · split at found
    · simp_all
    · rename_i c rest _ _ _ _ _ _
      have whole := congrArg List.length (spanTime_append false (c :: rest))
      rw [List.length_append] at whole
      dsimp only at found
      split at found
      · simp at found
      · rename_i nonempty
        simp only [Option.some.injEq, Prod.mk.injEq] at found
        rw [found.2] at whole
        have := List.length_pos_iff.mpr (List.isEmpty_eq_false_iff.mp (by simpa using nonempty))
        omega

/-- The tokens of a text without white space at its end, or what is left of it
where no token begins. -/
def tokensOf (text : List Char) : Except (List Char) (List Token) :=
  match begun : Text.trimFront text with
  | [] => .ok []
  | c :: rest =>
      match found : token? (c :: rest) with
      | none => .error (c :: rest)
      | some (token, after) =>
          have : after.length < text.length :=
            Nat.lt_of_lt_of_le (begun ▸ length_lt_of_token? found)
              (List.dropWhile_suffix _).length_le
          do return token :: (← tokensOf after)
termination_by text.length

/-- The tokens of a text, or what is left of it where no token begins. -/
def tokens (text : List Char) : Except (List Char) (List Token) :=
  tokensOf (Text.trimBack text)

end Montage.Duration
