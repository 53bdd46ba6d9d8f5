import Montage.CommandLine.Basic
import Montage.Machine.Description

/-!
# The program

The program gathers the templates that its arguments name and the sources that these
name, runs the command line on them, writes what was written and prints what was
printed.  It does not decode media, draw or start the encoder: a source is described
by the file beside it whose name has `.json` added, and a command is printed or saved
to be run elsewhere.  It watches nothing for longer than one render.
-/

namespace Montage.Program

/-- The name of a file by its resolved path. -/
def nameOf (path : Path) : String :=
  let parts := path.resolve.parts
  let below := Path.workingDirectory.parts
  if below.isPrefixOf parts then "/".intercalate (parts.drop below.length)
  else path.resolve.toText

/-- The content of a text file, if it can be read. -/
def contentOf? (name : String) : IO (Option String) := do
  try return some (← IO.FS.readFile name)
  catch _ => return none

/-- Whether a file can be opened. -/
def opens (name : String) : IO Bool := do
  try IO.FS.withFile name .read fun _ => return true
  catch _ => return false

/-- The entry of a file, with what its description says. -/
def entryOf? (path : Path) : IO (Option (String × FileEntry Number)) := do
  if !(← opens (nameOf path)) then return none
  let description := (← contentOf? (nameOf path ++ ".json")).bind Value.ofText?
  return some (path.resolve.toText,
    { FileEntry.blank with media := description.map MediaFile.ofValue })

/-- The files that a template names and the template itself, if it can be read. -/
def gather (argument : String) : IO (Files Number) := do
  let path := Path.ofText argument
  match ← contentOf? (nameOf path) with
  | none => return []
  | some content =>
      let template := (Value.ofText? content).getD .null
      let sources :=
        match Template.load path template with
        | .ok loaded =>
            loaded.clips.filterMap fun (clip : Clip Number) => clip.source.file?.map Path.ofText
        | .error _ => []
      let entries ← sources.filterMapM entryOf?
      return (path.resolve.toText, { FileEntry.blank with template := some template }) :: entries

/-- The access to a script for everyone. -/
def scriptRight : IO.FileRight :=
  { user := { read := true, write := true, execution := true }
    group := { read := true, execution := true }
    other := { read := true, execution := true } }

/-- Writes the text of an entry, if it has one, and lets a script be run. -/
def writeOut (path : String) (entry : FileEntry Number) : IO Unit := do
  if let some text := entry.text then
    let name := nameOf (Path.ofText path)
    IO.FS.createDirAll (Path.ofText name).parent.toText
    IO.FS.writeFile name text
    if entry.mode.isSome then IO.setAccessRights name scriptRight

/-- The end of the encoder where there is none. -/
def noEncoder : Outcome :=
  ⟨127, "No encoder is started from here.".toUTF8.toList⟩

/-- An argument that names a file, as a path that depends on no directory. -/
def located (argument : String) : IO String := do
  if argument.startsWith "-" || !(← opens argument) then return argument
  let here := (← IO.currentDir).toString
  return ((Path.ofText here).join (Path.ofText argument)).toText

/-- Runs the command line and returns its status. -/
def launch (arguments : List String) : IO UInt32 := do
  let arguments ← arguments.mapM located
  let templates ← (arguments.filter fun argument => !argument.startsWith "-").mapM gather
  let painter : Painter Number := .even
  let typefaces ← painter.usual.filterMapM entryOf?
  let session :=
    { Session.ofFiles (templates.flatten ++ typefaces) painter with encoder := noEncoder }
  let program : Program Number (Option Int) := CommandLine.run arguments
  let (result, after) := program.run.run session
  for (path, entry) in after.files do writeOut path entry
  IO.print after.output
  IO.eprint after.errors
  match result with
  | .ok status => return (status.getD 0).toNat.toUInt32
  | .error fault =>
      IO.eprintln fault.message
      return 1

end Montage.Program

/-- The program. -/
def main (arguments : List String) : IO UInt32 :=
  Montage.Program.launch arguments
