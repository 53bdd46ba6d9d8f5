import Montage.Text.Split

/-!
# Paths

Paths are handled by their text alone.  A path is a root, which is empty for a
relative one, and its parts; repeated slashes and parts that are a single point
mean nothing and are dropped on reading.  Two points stay until a path is
resolved, which makes it absolute below the working directory and lets each pair
of points take away the part before it.
-/

namespace Montage

/-- A path: how it begins, and its parts. -/
structure Path where
  root : String
  parts : List String
deriving DecidableEq, Repr

namespace Path

/-- Exactly two slashes in front are a root of their own. -/
def rootOf : List Char → String
  | '/' :: '/' :: '/' :: _ => "/"
  | '/' :: '/' :: _ => "//"
  | '/' :: _ => "/"
  | _ => ""

/-- The path that a text spells. -/
def ofText (text : String) : Path :=
  { root := rootOf text.toList
    parts := (Text.fields '/' text).filter fun part => part != "" && part != "." }

/-- The text of a path. -/
def toText (path : Path) : String :=
  if path.root == "" && path.parts.isEmpty then "."
  else path.root ++ "/".intercalate path.parts

/-- Whether the path does not depend on a directory. -/
def isAbsolute (path : Path) : Bool :=
  path.root != ""

/-- A path read in a directory; an absolute one stands for itself. -/
def join (directory path : Path) : Path :=
  if path.isAbsolute then path else { directory with parts := directory.parts ++ path.parts }

/-- The path of a name in a directory. -/
def child (directory : Path) (name : String) : Path :=
  directory.join (ofText name)

/-- The path without its last part. -/
def parent (path : Path) : Path :=
  { path with parts := path.parts.dropLast }

/-- The folders on the way to a path, from where it begins. -/
def above (path : Path) : List Path :=
  (List.range path.parts.length).map fun count => { path with parts := path.parts.take count }

/-- The last part. -/
def name (path : Path) : String :=
  path.parts.getLast?.getD ""

/-- The last part cut before its last point.  A point in front or at the end does
not begin a suffix. -/
def stemAndSuffix (path : Path) : List Char × List Char :=
  let backwards := path.name.toList.reverse
  let after := backwards.takeWhile (· != '.')
  let before := backwards.dropWhile (· != '.')
  match before with
  | _ :: stem =>
      if after.isEmpty || stem.isEmpty then (path.name.toList, [])
      else (stem.reverse, '.' :: after.reverse)
  | [] => (path.name.toList, [])

/-- The last part without its suffix. -/
def stem (path : Path) : String :=
  String.ofList path.stemAndSuffix.1

/-- The suffix of the last part, with its point, or nothing. -/
def suffix (path : Path) : String :=
  String.ofList path.stemAndSuffix.2

/-- The directory that relative paths are below. -/
def workingDirectory : Path :=
  ⟨"/", ["work"]⟩

/-- Lets each pair of points take away the part before it.  `before` is what has
been kept, backwards. -/
def collapse : List String → List String → List String
  | before, [] => before.reverse
  | before, ".." :: rest => collapse before.tail rest
  | before, part :: rest => collapse (part :: before) rest

/-- The absolute path without pairs of points. -/
def resolve (path : Path) : Path :=
  ⟨"/", collapse [] (workingDirectory.join path).parts⟩

/-- The text of the resolved path that a text spells. -/
def resolveText (text : String) : String :=
  (ofText text).resolve.toText

end Path

end Montage
