import Montage.Fault.Duration
import Montage.Fault.Template
import Montage.Fault.Plan

/-!
# Faults

Everything that can stop a render is one value, with the cause as data and the
wording in one function.  A fault of the input is what a render pass expects: the
template or a source is wrong, the pass ends and the watcher goes on.  Faults of
numbers and kinds are not worded; they show that a value went where it does not
belong.
-/

namespace Montage

/-- Why a value is no length. -/
inductive UnitFault (α : Type) where
  | notPercentage (value : Value α)
  | notPixels (value : Value α)
  | neither (value : Value α)

/-- The message of a unit fault. -/
def UnitFault.message {α : Type} [Scalar α] : UnitFault α → String
  | notPercentage value => s!"Invalid percentage \"{value.toText}\""
  | notPixels value => s!"Invalid pixels value \"{value.toText}\""
  | neither value => s!"Value \"{value.toText}\" is neither a percentage or pixels"

/-- Malformed or inconsistent input. -/
inductive InputFault (α : Type) where
  | undefinedValue
  | unknownColor (name : String)
  | unknownPathVariable (name : String)
  | unknownClip (id : String)
  | duration (cause : DurationFault α)
  | template (cause : TemplateFault α)
  | geometry (cause : GeometryFault α)
  | timeline (cause : TimelineFault α)
  | zoompan (cause : ZoompanFault α)
  /-- The instant of a preview is not in the output. -/
  | previewOutside (instant total : α)
  /-- Something that a program run inside this one gave as its own reason. -/
  | reported (message : String)

/-- The message of an input fault. -/
def InputFault.message {α : Type} [Scalar α] : InputFault α → String
  | undefinedValue => "Value must be defined"
  | unknownColor name => s!"Unknown color: '{name}'. Not a color name and not a hex value."
  | unknownPathVariable name => "Unknown path variable: $\x7b" ++ name ++ "\x7d"
  | unknownClip id => s!"Clip {id} does not exist."
  | duration cause => cause.message
  | template cause => cause.message
  | geometry cause => cause.message
  | timeline cause => cause.message
  | zoompan cause => cause.message
  | previewOutside instant total =>
      s!"Preview time {Scalar.text instant} must be between 0 and the output duration " ++
        Scalar.text total
  | reported message => message

/-- The kinds of source by the reader that opens them. -/
inductive SourceKind where
  | video
  | image
  | audio
deriving DecidableEq, Repr

/-- The name of a kind. -/
def SourceKind.name : SourceKind → String
  | video => "video"
  | image => "image"
  | audio => "audio"

/-- Why a source cannot be probed. -/
inductive ProbeFault where
  | notFound (path : String)
  | unreadable (kind : SourceKind) (path reason : String)
  | noVideoStream (path : String)
deriving DecidableEq, Repr

/-- The message of a probe fault. -/
def ProbeFault.message : ProbeFault → String
  | notFound path => s!"Source file not found: {path}"
  | unreadable kind path reason => s!"Cannot read {kind.name} {path}: {reason}"
  | noVideoStream path => s!"No video stream found in {path}"

/-- How a media reader gives up. -/
inductive ReaderFault where
  /-- The file cannot be read. -/
  | file
  /-- An entry of the file's description is missing. -/
  | entry
  /-- A list in the file's description is too short. -/
  | position
  /-- The reader itself failed. -/
  | internal
deriving DecidableEq, Repr

/-- A value of a kind that an operation does not take. -/
inductive KindFault where
  /-- The operation takes no value of this kind. -/
  | unsupported
  /-- A text was needed for its characters. -/
  | notText
deriving DecidableEq, Repr

/-- Everything that can stop a render. -/
inductive Fault (α : Type) where
  | input (cause : InputFault α)
  | unit (cause : UnitFault α)
  | probe (cause : ProbeFault)
  /-- The encoder ended with a status other than zero. -/
  | encoder (status : Int) (output : String)
  /-- Media files of the template do not exist. -/
  | missingMedia (paths : List String)
  | noSuchFile (path : String)
  | number (cause : NumberFault)
  | kind (cause : KindFault)
  | reader (cause : ReaderFault)

namespace Fault

variable {α : Type}

/-- The message of a fault; faults without a wording have an empty one. -/
def message [Scalar α] : Fault α → String
  | input cause => cause.message
  | unit cause => cause.message
  | probe cause => cause.message
  | encoder status output => s!"ffmpeg exited with status {status}:\n{output}"
  | missingMedia paths =>
      s!"Missing {paths.length} file(s):\n" ++
        String.join (paths.map fun path => s!"  - {path}\n")
  | noSuchFile path => s!"[Errno 2] No such file or directory: {Text.quoted path}"
  | number _ | kind _ | reader _ => ""

/-- Whether the template or a source is at fault. -/
def isInput : Fault α → Bool
  | input _ | unit _ | probe _ => true
  | _ => false

/-- Whether the command line reports the fault instead of failing with it. -/
def isReported : Fault α → Bool
  | missingMedia _ | noSuchFile _ => true
  | fault => fault.isInput

instance : MonadLift (Except NumberFault) (Except (Fault α)) where
  monadLift
    | .ok x => .ok x
    | .error cause => .error (number cause)

end Fault

/-- The result of a step of compiling. -/
abbrev Result (α β : Type) := Except (Fault α) β

namespace Result

variable {α β : Type}

/-- Refuses a template. -/
def refuse (cause : TemplateFault α) : Result α β :=
  .error (.input (.template cause))

end Result

end Montage
