import Montage.Text.Digit
import Montage.Text.Quoted
import Montage.Text.WholeNumber

/-!
# Arguments of a command line

A program takes options, which begin with a hyphen, and at most one operand.  The
arguments are first sorted into options and others, then consumed from left to right.
An option may be shortened as long as it is clear which one is meant, and its value
may follow behind an equals sign or as the next argument.  Behind two hyphens
nothing is an option.  Arguments for which there is no use are left over.
-/

namespace Montage.Arguments

/-- What an option does. -/
inductive OptionKind where
  /-- Asks for help. -/
  | help
  /-- Is there or not. -/
  | switch
  /-- Takes a text. -/
  | text
  /-- Takes a whole number. -/
  | whole
deriving DecidableEq, Repr

/-- An option under all its names. -/
structure OptionSpec where
  names : List String
  kind : OptionKind
deriving DecidableEq, Repr

/-- What a program takes beside options. -/
inductive Operand where
  | nothing
  /-- One argument that must be there. -/
  | required (name : String)
  /-- The name of a command, with all arguments behind it. -/
  | command (names : List String)
deriving DecidableEq, Repr

/-- What a program takes. -/
structure Grammar where
  program : String
  options : List OptionSpec
  operand : Operand
deriving DecidableEq, Repr

/-- How a text belongs to the option in front of it. -/
inductive Joint where
  /-- Behind an equals sign. -/
  | equals
  /-- Right behind the letter of the option. -/
  | direct
deriving DecidableEq, Repr

/-- An option in the arguments: which one, under which name, and the text that is
part of the same argument. -/
structure Use where
  spec : OptionSpec
  name : String
  attached : Option (Joint × List Char)
deriving DecidableEq, Repr

/-- An argument by its role. -/
inductive Item where
  | other (text : String)
  /-- Two hyphens. -/
  | separator
  | option (use : Use) (text : String)
  /-- Something that looks like an option and is none. -/
  | unknown (text : String)
deriving DecidableEq, Repr

/-- The text of an argument. -/
def Item.text : Item → String
  | other text | option _ text | unknown text => text
  | separator => "--"

/-- Why arguments are not consumed to the end. -/
inductive Stop where
  | help
  | error (message : String)
deriving DecidableEq, Repr

/-! ## Sorting -/

/-- All uses of options under names that a test picks. -/
def Grammar.uses (grammar : Grammar) (attached : Option (Joint × List Char))
    (picked : String → Bool) : List Use :=
  grammar.options.flatMap fun spec =>
    (spec.names.filter picked).map fun name => ⟨spec, name, attached⟩

/-- The parts of a text around its first equals sign. -/
def splitAtEquals (text : String) : Option (String × List Char) :=
  match text.toList.dropWhile (· != '=') with
  | [] => none
  | _ :: value => some (String.ofList (text.toList.takeWhile (· != '=')), value)

/-- The options that a shortened name may mean. -/
def Grammar.shortened (grammar : Grammar) (text : String) : List Use :=
  if text.startsWith "--" then
    match splitAtEquals text with
    | some (name, value) =>
        grammar.uses (some (.equals, value)) fun other => other.startsWith name
    | none => grammar.uses none fun other => other.startsWith text
  else
    let letter := String.ofList (text.toList.take 2)
    grammar.options.flatMap fun spec =>
      spec.names.filterMap fun name =>
        if name == letter then some ⟨spec, name, some (.direct, text.toList.drop 2)⟩
        else if name.startsWith text then some ⟨spec, name, none⟩
        else none

/-- Whether the text behind a hyphen is a number, which may end in one line feed. -/
def isNumber (text : List Char) : Bool :=
  let text := if text.getLast? == some '\n' then text.dropLast else text
  let fraction := text.dropWhile Text.isDigit
  match fraction with
  | [] => !text.isEmpty
  | '.' :: digits => !digits.isEmpty && digits.all Text.isDigit
  | _ => false

/-- What an argument is if it is no option under its full name. -/
def Grammar.sortShortened (grammar : Grammar) (text : String) : Except Stop Item :=
  match grammar.shortened text with
  | [use] => .ok (.option use text)
  | [] =>
      if isNumber (text.toList.drop 1) || text.toList.contains ' ' then .ok (.other text)
      else .ok (.unknown text)
  | uses =>
      let names := ", ".intercalate (uses.map Use.name)
      .error (.error s!"ambiguous option: {text} could match {names}")

/-- What an argument is, in front of two hyphens. -/
def Grammar.sort (grammar : Grammar) (text : String) : Except Stop Item :=
  if !text.startsWith "-" || text.length == 1 then .ok (.other text)
  else
    match grammar.uses none (· == text) with
    | use :: _ => .ok (.option use text)
    | [] =>
        match splitAtEquals text with
        | some (name, value) =>
            match grammar.uses (some (.equals, value)) (· == name) with
            | use :: _ => .ok (.option use text)
            | [] => grammar.sortShortened text
        | none => grammar.sortShortened text

/-- Sorts arguments. -/
def Grammar.sortAll (grammar : Grammar) : List String → Except Stop (List Item)
  | [] => .ok []
  | text :: rest =>
      if text == "--" then .ok (.separator :: rest.map .other)
      else do
        let item ← grammar.sort text
        return item :: (← grammar.sortAll rest)

/-! ## Consuming -/

/-- What has been consumed. -/
structure Parsed where
  switches : List String
  values : List (String × String)
  operand : Option String
  /-- The arguments of a command. -/
  behind : List String
  leftOver : List String
deriving DecidableEq, Repr

namespace Parsed

/-- Nothing consumed. -/
def empty : Parsed := ⟨[], [], none, [], []⟩

/-- Whether a switch has been given. -/
def has (parsed : Parsed) (name : String) : Bool :=
  parsed.switches.contains name

/-- The last value given for an option. -/
def value? (parsed : Parsed) (name : String) : Option String :=
  parsed.values.lookup name

/-- Leaves an argument over. -/
def leave (parsed : Parsed) (text : String) : Parsed :=
  { parsed with leftOver := parsed.leftOver ++ [text] }

end Parsed

/-- The name under which an option is kept: the last of its names. -/
def OptionSpec.key (spec : OptionSpec) : String :=
  spec.names.getLast?.getD ""

/-- A fault of an option. -/
def OptionSpec.refuse {β : Type} (spec : OptionSpec) (message : String) : Except Stop β :=
  let names := "/".intercalate spec.names
  .error (.error s!"argument {names}: {message}")

/-- Takes the value of an option. -/
def take (parsed : Parsed) (spec : OptionSpec) (value : String) : Except Stop Parsed :=
  if spec.kind == .whole && (Text.wholeNumber? 10 value.toList).isNone then
    spec.refuse s!"invalid int value: {Text.quoted value}"
  else .ok { parsed with values := (spec.key, value) :: parsed.values }

/-- Applies an option that takes no value. -/
def apply (parsed : Parsed) (spec : OptionSpec) : Except Stop Parsed :=
  if spec.kind == .help then .error .help
  else .ok { parsed with switches := spec.key :: parsed.switches }

/-- Tells that there is no use for a value that is attached to an option. -/
def ignored (attached : List Char) : String :=
  s!"ignored explicit argument {Text.quoted (String.ofList attached)}"

/-- What is left of a text joined to a letter when the letter has been repeated as
often as it is.  A value, and whatever begins with a hyphen, is refused. -/
def behindLetters (letter : Char) : Joint → List Char → Except (List Char) (List Char)
  | .equals, value => .error value
  | .direct, [] => .ok []
  | .direct, c :: rest =>
      if c == '-' then .error (c :: rest)
      else if c == letter then
        match rest with
        | '=' :: value => .error value
        | rest => behindLetters letter .direct rest
      else .ok (c :: rest)

/-- Applies an option that takes no value and has a text attached.  Only an option of
one letter may be repeated that way, and letters that are no options are left over. -/
def applyAttached (parsed : Parsed) (use : Use) (joint : Joint) (attached : List Char) :
    Except Stop Parsed :=
  match use.name.toList with
  | ['-', letter] =>
      match behindLetters letter joint attached with
      | .error value => use.spec.refuse (ignored value)
      | .ok [] => apply parsed use.spec
      | .ok rest => apply (parsed.leave (String.ofList ('-' :: rest))) use.spec
  | _ => use.spec.refuse (ignored attached)

/-- Takes the name of a command with the arguments behind it. -/
def takeCommand (parsed : Parsed) (names : List String) (name : String) (behind : List String) :
    Except Stop Parsed :=
  if names.contains name then .ok { parsed with operand := some name, behind }
  else
    let choices := ", ".intercalate (names.map Text.quoted)
    .error (.error
      s!"argument command: invalid choice: {Text.quoted name} (choose from {choices})")

/-- Whether the option takes a value. -/
def OptionSpec.takesValue (spec : OptionSpec) : Bool :=
  spec.kind == .text || spec.kind == .whole

/-- Consumes arguments. -/
def consume (operand : Operand) (parsed : Parsed) : List Item → Except Stop Parsed
  | [] => .ok parsed
  | .option use _ :: .other value :: rest =>
      if use.spec.takesValue && use.attached.isNone then do
        consume operand (← take parsed use.spec value) rest
      else do
        let parsed ← useAlone parsed use
        consumeOther operand parsed value rest
  | .option use _ :: rest => do consume operand (← useAlone parsed use) rest
  | .unknown text :: rest => consume operand (parsed.leave text) rest
  | .separator :: .other text :: rest =>
      match operand, parsed.operand with
      | .required _, none => consume operand { parsed with operand := some text } rest
      | .command names, none => takeCommand parsed names "--" (text :: rest.map Item.text)
      | _, _ => consume operand ((parsed.leave "--").leave text) rest
  | .separator :: rest => consume operand (parsed.leave "--") rest
  | .other text :: rest => consumeOther operand parsed text rest
where
  /-- Uses an option without the arguments behind it. -/
  useAlone (parsed : Parsed) (use : Use) : Except Stop Parsed :=
    match use.attached, use.spec.takesValue with
    | some (_, value), true => take parsed use.spec (String.ofList value)
    | none, true => use.spec.refuse "expected one argument"
    | some (joint, attached), false => applyAttached parsed use joint attached
    | none, false => apply parsed use.spec
  /-- Consumes an argument that is no option. -/
  consumeOther (operand : Operand) (parsed : Parsed) (text : String) (rest : List Item) :
      Except Stop Parsed :=
    match operand, parsed.operand with
    | .required _, none =>
        match rest with
        | .separator :: rest => consume operand { parsed with operand := some text } rest
        | rest => consume operand { parsed with operand := some text } rest
    | .command names, none => takeCommand parsed names text (rest.map Item.text)
    | _, _ => consume operand (parsed.leave text) rest

/-- Consumes what can be, and leaves the rest over. -/
def Grammar.parseKnown (grammar : Grammar) (arguments : List String) : Except Stop Parsed := do
  let parsed ← consume grammar.operand .empty (← grammar.sortAll arguments)
  match grammar.operand, parsed.operand with
  | .required name, none => .error (.error s!"the following arguments are required: {name}")
  | _, _ => .ok parsed

/-- Consumes all arguments. -/
def Grammar.parse (grammar : Grammar) (arguments : List String) : Except Stop Parsed := do
  let parsed ← grammar.parseKnown arguments
  if parsed.leftOver.isEmpty then return parsed
  else
    let leftOver := " ".intercalate parsed.leftOver
    .error (.error s!"unrecognized arguments: {leftOver}")

end Montage.Arguments
