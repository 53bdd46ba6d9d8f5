import Montage.Command.Basic
import Montage.Command.Outcome
import Montage.Media.Cache
import Montage.Media.FanOut
import Montage.Media.Probe
import Montage.TextImage.Even

/-!
# Sessions

A session is everything that rendering can see and change: files and folders, the clock,
the painter and the encoder, what has been printed, drawn and run, and the cache of probes.
A program either has a result or ends in a fault, and what it did before the fault stays
done.
-/

namespace Montage

/-- The surroundings of a render and the trace that it leaves. -/
structure Session (α : Type) where
  files : Files α
  /-- The folders that are there, by resolved path. -/
  folders : String → Bool
  cache : ProbeCache α
  /-- The readings of the clock to come; then it stands at zero. -/
  clock : List α
  /-- The times at which files are written that are to come; then none is known. -/
  stamps : List α
  painter : Painter α
  /-- How the encoder ends whenever it is run. -/
  encoder : Outcome
  /-- The changes of files during each wait to come. -/
  waits : List (List (FileChange α))
  output : String
  errors : String
  /-- The files that readers have opened. -/
  reads : List String
  drawn : List (DrawCall α)
  ran : List (List Word)

namespace Session

/-- A session over files in which nothing has happened yet, with a folder wherever one is
needed and an encoder that does its work in silence. -/
def ofFiles {α : Type} [Scalar α] (files : Files α) (painter : Painter α := .even) : Session α :=
  { files, folders := fun _ => true, cache := .empty, clock := [], stamps := [], painter,
    encoder := .done, waits := [], output := "", errors := "", reads := [], drawn := [],
    ran := [] }

variable {α : Type}

/-- Whether all folders on the way to a path are there. -/
def reaches (session : Session α) (path : Path) : Bool :=
  path.above.all fun folder => session.folders folder.resolve.toText

/-- The session with a folder and the folders on the way to it. -/
def withFolder (session : Session α) (folder : Path) : Session α :=
  { session with
    folders := fun name => session.folders name ||
      (folder :: folder.above).any fun made => made.resolve.toText == name }

end Session

/-- A program over a session. -/
abbrev Program (α β : Type) := ExceptT (Fault α) (StateM (Session α)) β

namespace Program

variable {α β : Type}

/-- A program that only computes. -/
def ofResult (result : Result α β) : Program α β :=
  ExceptT.mk (pure result)

/-- The result of a program, be it a fault. -/
def attempt (program : Program α β) : Program α (Result α β) :=
  ExceptT.mk do return .ok (← program.run)

/-- Goes on with another program behind the faults that a test picks. -/
def rescue (program : Program α β) (picked : Fault α → Bool) (handle : Fault α → Program α β) :
    Program α β := do
  match ← program.attempt with
  | .ok result => return result
  | .error fault => if picked fault then handle fault else ofResult (.error fault)

/-- Prints text. -/
def print (text : String) : Program α Unit :=
  modify fun session => { session with output := session.output ++ text }

/-- Prints a line. -/
def printLine (line : String) : Program α Unit :=
  print (line ++ "\n")

/-- Prints text on the error output. -/
def printError (text : String) : Program α Unit :=
  modify fun session => { session with errors := session.errors ++ text }

/-- Changes the files. -/
def changeFiles (change : Files α → Files α) : Program α Unit :=
  modify fun session => { session with files := change session.files }

/-- Changes the cache. -/
def changeCache (change : ProbeCache α → ProbeCache α) : Program α Unit :=
  modify fun session => { session with cache := change session.cache }

/-- Makes a folder, and the folders on the way to it. -/
def makeFolder (folder : Path) : Program α Unit :=
  modify fun session => session.withFolder folder

/-- The time at which a file is written, if it is known. -/
def stamp : Program α (Option α) := do
  let session ← get
  match session.stamps with
  | [] => return none
  | time :: rest =>
      set { session with stamps := rest }
      return some time

/-- Writes text to a file, in a folder that is made if need be. -/
def write (path : Path) (text : String) (mode : Option String) : Program α Unit := do
  makeFolder path.parent
  let changedAt ← stamp
  changeFiles fun files =>
    files.update path { FileEntry.blank with changedAt, text := some text, mode }

/-- Saves a file in place of any other, where there is a folder for it. -/
def save (path : Path) (entry : FileEntry α) : Program α Unit := do
  if (← get).reaches path then
    let changedAt ← stamp
    changeFiles fun files => files.replace path { entry with changedAt }
  else ofResult (.error (.noSuchFile path.toText))

/-- Reads the clock. -/
def now [Scalar α] : Program α α := do
  let session ← get
  match session.clock with
  | [] => return 0
  | reading :: rest =>
      set { session with clock := rest }
      return reading

/-- Draws, and tells what has been drawn. -/
def draw (call : Result α (DrawCall α)) : Program α (DrawCall α) := do
  let call ← ofResult call
  modify fun session => { session with drawn := session.drawn ++ [call] }
  return call

/-- Runs the encoder. -/
def encode (words : List Word) : Program α Unit := do
  modify fun session => { session with ran := session.ran ++ [words] }
  ofResult (← get).encoder.check

/-- Runs a program on a cache of its own. -/
def withOwnCache (program : Program α β) : Program α β := do
  let cache := (← get).cache
  changeCache fun _ => .empty
  let result ← program.attempt
  changeCache fun _ => cache
  ofResult result

/-! ## Probing -/

section Probing

variable [Scalar α]

/-- The key under which a file is kept in the cache. -/
def probeKey (path : Path) : Program α (ProbeKey α) := do
  let path := path.resolve
  match (← get).files.entry? path with
  | some entry => return ⟨path.toText, entry.time⟩
  | none => ofResult (.error (.probe (.notFound path.toText)))

/-- Probes a file, and notes that it has been read if it exists. -/
def readSource (path : Path) : Program α (MediaInfo α) := do
  let files := (← get).files
  if files.holds path then
    modify fun session => { session with reads := session.reads ++ [path.resolve.toText] }
  ofResult (Probe.file files path)

/-- Waits for a flight.  All others have been carried out here, so that one without
a result has been given up. -/
def await (flight : Nat) : Program α (MediaInfo α) := do
  match (← get).cache.result? flight with
  | some result => ofResult result
  | none => ofResult (.error (.reader .internal))

/-- Carries out a flight of one's own. -/
def carryOut (key : ProbeKey α) (flight : Nat) : Program α (MediaInfo α) := do
  let result ← (readSource (.ofText key.path)).attempt
  changeCache fun cache => cache.settle key flight result
  ofResult result

/-- Asks the cache for a key. -/
def request (key : ProbeKey α) : Program α Ticket := do
  let (ticket, cache) := (← get).cache.request key
  changeCache fun _ => cache
  return ticket

/-- What is known about a source, from the cache or from a probe. -/
def probe (path : Path) : Program α (MediaInfo α) := do
  let key ← probeKey path
  match ← request key with
  | .joined flight => await flight
  | .owned flight => carryOut key flight

/-- Several callers ask for one source before any probe has ended. -/
def probeTogether (path : Path) (callers : Nat) : Program α (List (MediaInfo α)) := do
  let asked ← (List.replicate callers path).mapM fun path => do
    let key ← probeKey path
    return (key, ← request key)
  asked.forM fun (key, ticket) =>
    match ticket with
    | .owned flight => do
        let _ ← (carryOut key flight).attempt
    | .joined _ => return ()
  asked.mapM fun (_, ticket) =>
    match ticket with
    | .owned flight | .joined flight => await flight

/-- Puts what is known about a source into the cache. -/
def seed (path : Path) (info : MediaInfo α) : Program α Unit := do
  let key ← probeKey path
  changeCache fun cache => cache.seed key info

/-- What is known about the sources of all media clips.  Every file is probed, also
behind one that is at fault, and the first fault counts.  The probes end in the order
in which they begin. -/
def probeClips (clips : List (Clip α)) (quiet : Bool) : Program α (MediaMap α) := do
  let probed ← (FanOut.files clips).mapM fun file => do
    return (file, ← (probe (.ofText file)).attempt)
  if !quiet then
    (FanOut.reported probed).forM fun file => printLine s!"  PROBE  {file}"
  ofResult (FanOut.result clips probed)

end Probing

end Program

end Montage
