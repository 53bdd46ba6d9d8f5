/-!
# Shell words

A command is saved as a script for a POSIX shell.  `quote` writes one argument
as a shell word: letters, digits and a few signs stand for themselves, anything
else goes between single quotes, where only the single quote itself needs care.
`split` reads a command line back into its arguments by the shell's rules for
blanks, quotes, backslashes and continued lines; it refuses a line whose meaning
would depend on anything more than quoting.
-/

namespace Montage.ShellWord

/-- The single quote. -/
def quoteMark : Char := '\x27'

/-- The double quote. -/
def doubleMark : Char := '\x22'

/-- Characters that need no quoting. -/
def isSafe (c : Char) : Bool :=
  c.isAlphanum || "_@%+=:,./-".toList.contains c

/-- A single quote leaves the quotes, stands between double quotes, and enters
them again. -/
def quoteInside (c : Char) : List Char :=
  if c == quoteMark then [quoteMark, doubleMark, quoteMark, doubleMark, quoteMark] else [c]

/-- The characters of one argument as a shell word. -/
def quoteCharacters (argument : List Char) : List Char :=
  if !argument.isEmpty && argument.all isSafe then argument
  else quoteMark :: argument.flatMap quoteInside ++ [quoteMark]

/-- One argument as a shell word. -/
def quote (argument : String) : String :=
  String.ofList (quoteCharacters argument.toList)

/-- The arguments as one line, divided by single spaces. -/
def join (arguments : List String) : String :=
  " ".intercalate (arguments.map quote)

/-! ## Reading words back -/

/-- Characters that a shell reads as more than themselves outside quotes. -/
def isSpecial (c : Char) : Bool :=
  "|&;<>()$*?[#~!\x60\x7b\x7d".toList.contains c

/-- Where the reader stands: between words, in the bare part of a word, or inside
quotes. -/
inductive Mode where
  | between
  | bare
  | single
  | double
deriving DecidableEq

/-- Reads words.  `word` is the word begun, backwards, and `words` the finished
words, backwards.  An unquoted line feed ends the command and must be the last
character. -/
def splitFrom : List Char → Mode → List Char → List (List Char) → Option (List (List Char))
  | [], .between, _, words => some words.reverse
  | [], .bare, word, words => some (word.reverse :: words).reverse
  | [], .single, _, _ | [], .double, _, _ => none
  | c :: rest, .single, word, words =>
      if c == quoteMark then splitFrom rest .bare word words
      else splitFrom rest .single (c :: word) words
  | '\\' :: c :: rest, .double, word, words =>
      if c == '\n' then splitFrom rest .double word words
      else if c == '\\' || c == doubleMark || c == '$' || c == '\x60' then
        splitFrom rest .double (c :: word) words
      else splitFrom rest .double (c :: '\\' :: word) words
  | c :: rest, .double, word, words =>
      if c == doubleMark then splitFrom rest .bare word words
      else if c == '$' || c == '\x60' || c == '\\' then none
      else splitFrom rest .double (c :: word) words
  | '\\' :: c :: rest, .between, word, words =>
      if c == '\n' then splitFrom rest .between word words
      else splitFrom rest .bare [c] words
  | c :: rest, .between, _, words =>
      if c == ' ' || c == '\t' then splitFrom rest .between [] words
      else if c == '\n' then if rest.isEmpty then some words.reverse else none
      else if c == quoteMark then splitFrom rest .single [] words
      else if c == doubleMark then splitFrom rest .double [] words
      else if c == '\\' || isSpecial c then none
      else splitFrom rest .bare [c] words
  | '\\' :: c :: rest, .bare, word, words =>
      if c == '\n' then splitFrom rest .bare word words
      else splitFrom rest .bare (c :: word) words
  | c :: rest, .bare, word, words =>
      if c == ' ' || c == '\t' then splitFrom rest .between [] (word.reverse :: words)
      else if c == '\n' then
        if rest.isEmpty then some (word.reverse :: words).reverse else none
      else if c == quoteMark then splitFrom rest .single word words
      else if c == doubleMark then splitFrom rest .double word words
      else if c == '\\' || isSpecial c then none
      else splitFrom rest .bare (c :: word) words

/-- The arguments of a command line, if quoting alone gives them. -/
def split (line : String) : Option (List String) :=
  (splitFrom line.toList .between [] []).map fun words => words.map String.ofList

/-! ## Scripts -/

/-- The command of a script, one argument on a line. -/
def scriptBody (arguments : List String) : String :=
  " \\\n  ".intercalate (arguments.map quote) ++ "\n"

/-- A script that runs the command. -/
def script (arguments : List String) : String :=
  "#!/bin/sh\n" ++ scriptBody arguments

end Montage.ShellWord
