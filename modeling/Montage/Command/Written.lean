import Montage.Command.Basic
import Montage.Text.Quoted

/-!
# Commands as they are written

The encoder has nothing of a command but its words.  Behind the first one, which is the
encoder itself, a word that begins with a minus sign is an option, whose value is the word
behind it; `-y` has none.  The last word is the output.  The sources are the values of `-i`,
the streams that are put out are those of `-map`, and the value of `-filter_complex` is the
text of a graph.

    graph := chain (';' chain)*
    chain := name* filter (',' filter)* name*
    name  := '[' character* ']'

Marks between single quotes are text.  Texts with a backslash are not read.
-/

namespace Montage

/-- A chain as the text of a graph shows it: the names of the streams that it takes, its
filters, and the names of what comes out. -/
structure WrittenChain where
  takes : List String
  filters : List String
  gives : List String
deriving DecidableEq, Repr

namespace WrittenChain

/-- What stands in front of the first mark outside quotes, and the mark with what follows. -/
def spanOutside (mark : Char) : (quoted : Bool) → List Char → List Char × List Char
  | _, [] => ([], [])
  | quoted, c :: rest =>
      if c == mark && !quoted then ([], c :: rest)
      else
        let (front, behind) := spanOutside mark (quoted != (c == Text.singleQuote)) rest
        (c :: front, behind)

/-- The parts of a text between the marks outside quotes; `steps` bounds the marks. -/
def partsOutside (mark : Char) : (steps : Nat) → List Char → List (List Char)
  | 0, text => [text]
  | steps + 1, text =>
      match spanOutside mark false text with
      | (front, []) => [front]
      | (front, _ :: behind) => front :: partsOutside mark steps behind

/-- The names in front of a text, with their brackets, and what follows them. -/
def names : (steps : Nat) → List Char → List String × List Char
  | steps + 1, '[' :: rest =>
      match rest.span (· != ']') with
      | (name, _ :: behind) =>
          let (others, behind) := names steps behind
          (String.ofList ('[' :: name ++ [']']) :: others, behind)
      | (_, []) => ([], '[' :: rest)
  | _, text => ([], text)

/-- Reads a chain. -/
def ofText? (text : List Char) : Option WrittenChain :=
  let (takes, behind) := names text.length text
  let (filters, behind) := spanOutside '[' false behind
  let (gives, behind) := names behind.length behind
  if filters.isEmpty || !behind.isEmpty then none
  else some ⟨takes, (partsOutside ',' filters.length filters).map String.ofList, gives⟩

/-- Reads the chains of a graph. -/
def ofGraph? (text : String) : Option (List WrittenChain) :=
  let characters := text.toList
  if characters.contains '\\' then none
  else (partsOutside ';' characters.length characters).mapM ofText?

/-- The name of a filter. -/
def filterName (filter : String) : String :=
  String.ofList (filter.toList.takeWhile (· != '='))

end WrittenChain

/-- What the words of a command say of its streams. -/
structure WrittenCommand where
  /-- The sources, in the order of the inputs. -/
  sources : List Word
  chains : List WrittenChain
  /-- The names of the streams that are put out. -/
  maps : List String
  output : Word

namespace WrittenCommand

/-- The options of a command with their values, and its output. -/
def options? : List Word → Option (List (String × Word) × Word)
  | [output] => some ([], output)
  | some name :: value :: rest =>
      if name == "-y" then options? (value :: rest)
      else if name.toList.head? == some '-' then do
        let (others, output) ← options? rest
        return ((name, value) :: others, output)
      else none
  | _ => none

/-- The values of an option. -/
def values (name : String) (options : List (String × Word)) : List Word :=
  (options.filter fun option => option.1 == name).map Prod.snd

/-- Reads the words of a command with one graph. -/
def ofWords? (words : List Word) : Option WrittenCommand := do
  let (options, output) ← options? words.tail
  match values "-filter_complex" options with
  | [some graph] =>
      return ⟨values "-i" options, ← WrittenChain.ofGraph? graph, ← (values "-map" options).mapM id,
        output⟩
  | _ => none

end WrittenCommand

end Montage
