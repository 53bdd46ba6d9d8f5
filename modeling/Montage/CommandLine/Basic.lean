import Montage.CommandLine.Arguments
import Montage.Render.Watch

/-!
# The command line

    render TEMPLATE [--preview] [--at TIME] [--watch] ...
    plan   TEMPLATE [--output FILE] ...

The first command renders a template or watches it, the second one shows its plan.
The first parser only looks for the name of a command and passes everything else on,
so that an argument nobody knows is refused by the command.
-/

namespace Montage.CommandLine

open Arguments (Grammar OptionSpec Parsed Stop)

/-! ## Grammars -/

/-- The option that asks for help. -/
def helpOption : OptionSpec := ⟨["-h", "--help"], .help⟩

/-- The option for the number of sources that are probed at the same time. -/
def workersOption : OptionSpec := ⟨["--workers"], .whole⟩

/-- The name of the program in its messages. -/
def programName : String := "clipplan"

/-- The name of a command. -/
def topGrammar : Grammar :=
  ⟨programName, [helpOption], .command ["render", "plan"]⟩

/-- What stands behind the name of a command, before the command sees it. -/
def innerGrammar (command : String) : Grammar :=
  ⟨s!"{programName} {command}", [helpOption], .nothing⟩

/-- The arguments for rendering. -/
def renderGrammar : Grammar :=
  ⟨s!"{programName} render",
    [helpOption, ⟨["--output-folder"], .text⟩, ⟨["--preview"], .switch⟩, ⟨["--at"], .text⟩,
      ⟨["--watch"], .switch⟩, workersOption, ⟨["--save-command"], .switch⟩,
      ⟨["--quiet"], .switch⟩, ⟨["--dry-run"], .switch⟩],
    .required "template"⟩

/-- The arguments for showing a plan. -/
def planGrammar : Grammar :=
  ⟨s!"{programName} plan",
    [helpOption, ⟨["--output"], .text⟩, ⟨["--output-folder"], .text⟩, workersOption],
    .required "template"⟩

/-- How a program is used. -/
def usage (grammar : Grammar) : String :=
  let options := grammar.options.map fun spec => "[" ++ "|".intercalate spec.names ++ "]"
  let operand :=
    match grammar.operand with
    | .nothing => ["..."]
    | .required name => [name]
    | .command names => [",".intercalate names, "..."]
  let taken := " ".intercalate (options ++ operand)
  s!"usage: {grammar.program} {taken}\n"

variable {α : Type} [Scalar α]

/-! ## Ending -/

/-- The status with which a program ends, if it ends early. -/
abbrev Status := Option Int

/-- Ends with a fault of the arguments. -/
def refuse (grammar : Grammar) (message : String) : Program α Status := do
  Program.printError (usage grammar ++ s!"{grammar.program}: error: {message}\n")
  return some 2

/-- Ends as the arguments ask for. -/
def stop (grammar : Grammar) : Stop → Program α Status
  | .help => do
      Program.print (usage grammar)
      return some 0
  | .error message => refuse grammar message

/-- Goes on with the arguments if they can be parsed. -/
def withArguments {β : Type} (grammar : Grammar) (parsed : Except Stop β)
    (next : β → Program α Status) : Program α Status :=
  match parsed with
  | .ok parsed => next parsed
  | .error reason => stop grammar reason

/-- Goes on if the template exists. -/
def withTemplate (grammar : Grammar) (parsed : Parsed) (next : Path → Program α Status) :
    Program α Status := do
  let template := Path.ofText (parsed.operand.getD "")
  if (← get).files.holds template then next template
  else refuse grammar s!"template not found: {template.toText}"

/-- Ends a program that stops at a fault which it reports. -/
def reported (program : Program α Status) : Program α Status :=
  program.rescue Fault.isReported fun fault => do
    Program.printError s!"error: {fault.message}\n"
    return some 1

/-- The output folder that is asked for, or the usual one. -/
def outputFolder (parsed : Parsed) (template : Path) : Path :=
  match parsed.value? "--output-folder" with
  | some folder => if folder.isEmpty then Render.defaultFolder template else .ofText folder
  | none => Render.defaultFolder template

/-! ## Rendering -/

/-- What is asked to be made. -/
def modeOf (parsed : Parsed) : Result α (RenderMode α) :=
  match parsed.value? "--at" with
  | some instant => do return .preview (some (← Duration.ofValue Scope.empty (.text instant)))
  | none => .ok (if parsed.has "--preview" then .preview none else .video)

variable [Analytic α]

/-- Renders in a mode, once or watching. -/
def renderIn (parsed : Parsed) (template : Path) (mode : RenderMode α) :
    Program α Status := do
  let context : RenderContext :=
    { output := outputFolder parsed template
      quiet := parsed.has "--quiet"
      saveCommand := parsed.has "--save-command" }
  let dryRun := parsed.has "--dry-run"
  if parsed.has "--watch" then
    let _ ← Watch.template template mode context dryRun false
    return none
  else
    reported do
      Watch.renderOnce template mode context dryRun
      return none

/-- The command that renders. -/
def render (arguments : List String) : Program α Status :=
  withArguments renderGrammar (renderGrammar.parse arguments) fun parsed =>
    withTemplate renderGrammar parsed fun template =>
      match modeOf parsed with
      | .ok mode => renderIn parsed template mode
      | .error fault =>
          if fault.isInput then refuse renderGrammar s!"--at: {fault.message}"
          else Program.ofResult (.error fault)

/-! ## Showing a plan -/

/-- Prints a plan, or writes it to a file. -/
def showPlan (output : String) (plan : Plan α) : Program α Unit := do
  let text := plan.document.render ++ "\n"
  if output.isEmpty then Program.print text
  else
    Program.write (.ofText output) text none
    Program.printLine (s!"Plan written: {output} ({plan.clips.length} clips, " ++
      s!"{Scalar.fixed 1 plan.total}s)")

/-- The command that shows a plan. -/
def plan (arguments : List String) : Program α Status :=
  withArguments planGrammar (planGrammar.parse arguments) fun parsed =>
    withTemplate planGrammar parsed fun template =>
      reported do
        let context : RenderContext :=
          { output := outputFolder parsed template, quiet := true, saveCommand := false }
        let rendering ← Render.pass template .video context false
        showPlan ((parsed.value? "--output").getD "") rendering.plan
        return none

/-! ## Commands -/

/-- Runs a command with its arguments. -/
def command (name : String) (arguments : List String) : Program α Status :=
  if name == "render" then render arguments else plan arguments

/-- The whole program. -/
def run (arguments : List String) : Program α Status :=
  Program.withOwnCache <|
    withArguments topGrammar (topGrammar.parseKnown arguments) fun top =>
      match top.operand with
      | none => do
          Program.print (usage topGrammar)
          return some 1
      | some name =>
          let grammar := innerGrammar name
          withArguments grammar (grammar.parseKnown top.behind) fun inner =>
            command name (top.leftOver ++ inner.leftOver)

end Montage.CommandLine
