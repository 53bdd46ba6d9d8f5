import Montage.Duration.Format
import Montage.Plan.Document
import Montage.Render.TextAsset
import Montage.Template.Loading
import Montage.Text.ShellWord

/-!
# Rendering

One pass loads the template, probes its sources, draws its texts, compiles the plan,
makes the command and runs it.  Every pass starts from the template file; only the
cache of probes outlives it.
-/

namespace Montage

/-- What a pass is told beside the template and the mode. -/
structure RenderContext where
  output : Path
  quiet : Bool
  saveCommand : Bool

/-- What a pass leaves. -/
structure Rendering (α : Type) where
  plan : Plan α
  command : List Word
  output : Path

namespace Render

/-- The file that a mode writes, in the output folder. -/
def outputFile {α : Type} (mode : RenderMode α) (folder : Path) : Path :=
  folder.child (if mode.isPreview then "preview.jpg" else "output.mp4")

/-- The script that runs the command again, in the output folder. -/
def scriptFile (folder : Path) : Path :=
  folder.child "ffmpeg.sh"

/-- The output folder of a template for which none is given. -/
def defaultFolder (template : Path) : Path :=
  (template.parent.child "clipplan-projects").child template.stem

variable {α : Type} [Scalar α]

/-- Prints a line on the progress of a pass. -/
def log (context : RenderContext) (line : String) : Program α Unit := do
  if !context.quiet then Program.printLine line

/-- Loads a template file. -/
def loadTemplate (file : Path) : Program α (Template α) := do
  match (← get).files.entry? file with
  | some entry => Program.ofResult (Template.load file (entry.template.getD .null))
  | none => Program.ofResult (.error (.noSuchFile file.toText))

/-- Saves a command as a script that can be run. -/
def saveScript (file : Path) (words : List Word) : Program α Unit :=
  Program.write file (ShellWord.script (words.map Word.text)) (some "0o755")

variable [Analytic α]

/-- Compiles a template file as far as the command. -/
def compile (template : Path) (mode : RenderMode α) (context : RenderContext) :
    Program α (Rendering α) := do
  let template ← loadTemplate template
  let files := (← get).files
  Program.ofResult (template.checkMedia fun file => files.holds (.ofText file))
  let infos ← Program.probeClips template.clips context.quiet
  let canvas ← Program.ofResult (Canvas.size template infos)
  let (template, drawn) ← TextAsset.convertAll canvas context.output context.quiet template
  let plan ← Program.ofResult (Plan.compileOn canvas template (drawn ++ infos))
  let output := outputFile mode context.output
  let command ← Program.ofResult (Command.ofPlan plan mode "libx264")
  return { plan, command := command.words "ffmpeg" "error" output.toText, output }

/-- Runs the command of a pass that began at `started`. -/
def execute (context : RenderContext) (rendering : Rendering α) (started : α) :
    Program α Unit := do
  let length ← Program.ofResult (Duration.format rendering.plan.total)
  log context (s!"  RENDER {rendering.output.name}  {rendering.plan.clips.length} clips, " ++
    s!"{length} output")
  Program.encode rendering.command
  let elapsed ← Program.ofResult (Scalar.toReal ((← Program.now) - started))
  log context s!"  DONE   {rendering.output.toText} ({Scalar.fixed 1 elapsed}s wall)"

/-- One pass, with or without running the command. -/
def pass (template : Path) (mode : RenderMode α) (context : RenderContext) (run : Bool) :
    Program α (Rendering α) := do
  let started ← Program.now
  Program.makeFolder context.output
  let rendering ← compile template mode context
  if context.saveCommand then
    let script := scriptFile context.output
    saveScript script rendering.command
    log context s!"  SAVED  {script.toText}"
  if run then execute context rendering started
  return rendering

end Render

end Montage
