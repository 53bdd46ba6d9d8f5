import Montage.Machine.Session

/-!
# Texts as pictures

Before clips are placed every text is drawn into an image file of the output folder,
and from there on its clip is a clip of that file.  A width in the layout of a text
is the width of its picture, where shares are of the canvas.
-/

namespace Montage.TextAsset

variable {α : Type} [Scalar α]

/-- The folder of the images, in the output folder. -/
def folderName : String := "text_assets"

/-- The folder of the images. -/
def folder (output : Path) : Path :=
  output.child folderName

/-- The image file of a clip. -/
def path (output : Path) (id : String) : Path :=
  (folder output).child s!"{id}.png"

/-- The width that a layout gives to a text, in whole pixels. -/
def width (canvas : Extent) (length : Value α) : Result α (Option Int) := do
  let width ← Length.resolve length
    (fun fraction => do return some (← Scalar.checked (fraction * Scalar.ofInt canvas.width)))
    (fun count => .ok (some count))
    (.ok none)
  match width with
  | some width => return some (← Scalar.floor width)
  | none => return none

/-- Draws a text and saves the picture under an id; gives the size of the picture.  The
folder of the images is made first, but no folder that only the id asks for. -/
def paint (output : Path) (id content : String) (font : Font α) (width : Option Int) :
    Program α Extent := do
  let session ← get
  let image ← Program.ofResult
    (TextImage.setBy session.painter session.files.typefaceLoads content font width)
  let calls ← (image.calls font).mapM Program.draw
  Program.makeFolder (folder output)
  Program.save (path output id)
    { FileEntry.blank with
      media := some (.picture image.width image.height)
      drawing := some calls }
  return ⟨image.width, image.height⟩

/-- Turns a clip of a text into a clip of its picture; other clips stay as they
are. -/
def convert (canvas : Extent) (output : Path) (quiet : Bool) (clip : Clip α) :
    Program α (Clip α × MediaMap α) :=
  match clip.source with
  | .text content font => do
      let width ← Program.ofResult (width canvas clip.layout.width.value)
      let size ← paint output clip.id content font width
      let file := path output clip.id
      if !quiet then Program.printLine s!"  TEXT   {clip.id} -> {file.toText}"
      let info ← Program.ofResult
        (MediaInfo.image (Scalar.ofInt size.width) (Scalar.ofInt size.height))
      return ({ clip with source := .drawn file.resolve.toText content font }, [(clip.id, info)])
  | _ => return (clip, [])

/-- Turns all clips of texts into clips of pictures, and tells what is known about
these. -/
def convertAll (canvas : Extent) (output : Path) (quiet : Bool) (template : Template α) :
    Program α (Template α × MediaMap α) := do
  let converted ← template.clips.mapM (convert canvas output quiet)
  return ({ template with clips := converted.map Prod.fst }, converted.flatMap Prod.snd)

end Montage.TextAsset
