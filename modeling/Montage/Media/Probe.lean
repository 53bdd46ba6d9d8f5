import Montage.Machine.Files
import Montage.Media.Info

/-!
# Probing a source

The suffix of a file tells which reader opens it: pictures and sounds have theirs,
and everything else is a video.  A reader gives up in several ways, and which of them
count as an unreadable source depends on the reader; the others are passed on as they
are.  A video must have a picture.
-/

namespace Montage.Probe

/-- The suffixes of pictures. -/
def imageSuffixes : List String :=
  [".png", ".jpg", ".jpeg", ".webp", ".bmp", ".tif", ".tiff"]

/-- The suffixes of sounds. -/
def audioSuffixes : List String :=
  [".mp3", ".wav", ".m4a", ".aac", ".flac", ".ogg", ".opus"]

/-- The kind of a source by its suffix, in any case. -/
def kindOf (path : Path) : SourceKind :=
  let suffix := path.suffix.toLower
  if imageSuffixes.contains suffix then .image
  else if audioSuffixes.contains suffix then .audio
  else .video

variable {α : Type} [Scalar α]

/-- What a reader's failure means for the source. -/
def failed (kind : SourceKind) (path : Path) (cause : ReaderFault) (reason : String) : Fault α :=
  let unreadable (reason : String) : Fault α :=
    .probe (.unreadable kind path.toText reason)
  match kind, cause with
  | _, .file => unreadable reason
  | .image, cause => .reader cause
  | _, .entry => unreadable (Text.quoted reason)
  | _, .position => unreadable reason
  | _, .internal => .reader .internal

/-- What is known about a sound. -/
def sound (media : MediaFile α) : Result α (MediaInfo α) := do
  let duration ← Scalar.toReal (media.duration.getD 0)
  return {
    width := Scalar.ofInt 0
    height := Scalar.ofInt 0
    framerate := Scalar.ofInt 0
    duration := Scalar.number? duration
    aspectRatio := none
    hasAudio := true
    kind := .audio }

/-- The size of a picture as its reader gives it. -/
def sizeOf (media : MediaFile α) : α × α :=
  media.size.getD (Scalar.ofInt 0, Scalar.ofInt 0)

/-- What is known about a picture. -/
def image (media : MediaFile α) : Except NumberFault (MediaInfo α) :=
  let (width, height) := sizeOf media
  MediaInfo.image width height

/-- What is known about a video. -/
def video (path : Path) (media : MediaFile α) : Result α (MediaInfo α) := do
  let (width, height) := sizeOf media
  if !Scalar.isSet width || !Scalar.isSet height then
    .error (.probe (.noVideoStream path.toText))
  let wholeWidth ← Scalar.truncate width
  let wholeHeight ← Scalar.truncate height
  let framerate ← Scalar.toReal (media.fps.getD 0)
  let duration ← Scalar.toReal (media.duration.getD 0)
  let aspectRatio ← MediaInfo.aspectOf width height
  return {
    width := Scalar.ofInt wholeWidth
    height := Scalar.ofInt wholeHeight
    framerate
    duration := Scalar.number? duration
    aspectRatio
    hasAudio := media.audio.getD false
    kind := .video }

/-- What the reader for a kind finds in a file. -/
def read (kind : SourceKind) (path : Path) (media : MediaFile α) : Result α (MediaInfo α) :=
  match media.failure with
  | some (cause, reason) => .error (failed kind path cause reason)
  | none =>
      match kind with
      | .image => image media
      | .audio => sound media
      | .video => video path media

/-- Probes a source. -/
def file (files : Files α) (path : Path) : Result α (MediaInfo α) :=
  match files.entry? path with
  | none => .error (.probe (.notFound path.toText))
  | some entry => read (kindOf path) path (entry.media.getD .blank)

end Montage.Probe
