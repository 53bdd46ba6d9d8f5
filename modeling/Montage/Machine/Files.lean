import Montage.Association
import Montage.TextImage.Painter

/-!
# Files

A file is known by the text of its resolved path.  What a file holds is described by
the parts that matter here: when it was changed, the template that it spells, what a
media reader finds in it, whether it is a typeface that loads, and what the program has
written or drawn.  A path exists if there is an entry for it, and directories need none.
-/

namespace Montage

/-- What a media reader finds in a file. -/
structure MediaFile (α : Type) where
  /-- Width and height, which a reader need not give as whole numbers. -/
  size : Option (α × α)
  fps : Option α
  duration : Option α
  audio : Option Bool
  /-- How every reader gives up on the file, with its reason. -/
  failure : Option (ReaderFault × String)

namespace MediaFile

/-- A picture without anything else. -/
def picture {α : Type} [Scalar α] (width height : Int) : MediaFile α :=
  { size := some (Scalar.ofInt width, Scalar.ofInt height)
    fps := none, duration := none, audio := none, failure := none }

/-- A file in which no reader finds anything. -/
def blank {α : Type} : MediaFile α :=
  { size := none, fps := none, duration := none, audio := none, failure := none }

end MediaFile

/-- What is known about a file. -/
structure FileEntry (α : Type) where
  changedAt : Option α
  template : Option (Value α)
  media : Option (MediaFile α)
  typeface : Option Bool
  text : Option String
  mode : Option String
  /-- The calls of the painter that have made a picture. -/
  drawing : Option (List (DrawCall α)) := none

namespace FileEntry

variable {α : Type}

/-- A file of which nothing is known, not even when it was changed. -/
def blank : FileEntry α :=
  { changedAt := none, template := none, media := none, typeface := none, text := none,
    mode := none }

/-- An entry with the parts of another one where that has them. -/
def merge (old new : FileEntry α) : FileEntry α :=
  { changedAt := new.changedAt <|> old.changedAt
    template := new.template <|> old.template
    media := new.media <|> old.media
    typeface := new.typeface <|> old.typeface
    text := new.text <|> old.text
    mode := new.mode <|> old.mode
    drawing := new.drawing <|> old.drawing }

/-- The time of the last change. -/
def time [Scalar α] (entry : FileEntry α) : α :=
  entry.changedAt.getD 0

end FileEntry

/-- All files, by resolved path. -/
abbrev Files (α : Type) := List (String × FileEntry α)

/-- A change to a file from outside: other contents, or none at all. -/
inductive FileChange (α : Type) where
  | update (path : String) (entry : FileEntry α)
  | delete (path : String)

namespace Files

variable {α : Type}

/-- The entry of a path, if it exists. -/
def entry? (files : Files α) (path : Path) : Option (FileEntry α) :=
  files.lookup path.resolve.toText

/-- Whether a path exists. -/
def holds (files : Files α) (path : Path) : Bool :=
  (files.entry? path).isSome

/-- Replaces a file. -/
def replace (files : Files α) (path : Path) (entry : FileEntry α) : Files α :=
  Association.put path.resolve.toText entry files

/-- Changes parts of a file, which is created if need be. -/
def update (files : Files α) (path : Path) (entry : FileEntry α) : Files α :=
  files.replace path (((files.entry? path).getD .blank).merge entry)

/-- Removes a file. -/
def delete (files : Files α) (path : Path) : Files α :=
  files.filter fun (name, _) => name != path.resolve.toText

/-- Applies a change from outside. -/
def change (files : Files α) : FileChange α → Files α
  | .update path entry => files.update (.ofText path) entry
  | .delete path => files.delete (.ofText path)

/-- Whether a typeface loads from a path. -/
def typefaceLoads (files : Files α) (path : Path) : Bool :=
  match files.entry? path with
  | some entry => entry.typeface != some false
  | none => false

end Files

end Montage
