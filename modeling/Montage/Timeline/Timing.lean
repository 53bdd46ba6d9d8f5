import Montage.Duration.Evaluation
import Montage.Media.Info
import Montage.Template.ClipFields

/-!
# How long clips are

The length of a clip is what is left of its source after trimming, divided by its
speed.  A stop in output time counts from where the clip begins, so a length can
depend on the position.  A still image has no length of its own.  A length that is
given replaces the one found, and must not be more than the source has.
-/

namespace Montage

variable {α : Type} [Scalar α]

/-- How a clip plays: for how long, from which time of the source on, and how
fast. -/
structure Timing (α : Type) where
  /-- Nothing for a clip that has no length of its own and none given. -/
  duration : Option α
  trimStart : α
  speed : α

namespace Timing

/-- A fault of the time axis. -/
def refuse {β : Type} (cause : TimelineFault α) : Result α β :=
  .error (.input (.timeline cause))

/-- The factor that a share is, one if there is none. -/
def factor : Option String → Result α α
  | some share => Length.percentage? (.text share)
  | none => .ok 1

/-- The seconds of a field of the trim, unless it is not given or fits. -/
def trimmed? (scope : Scope α) (field : Field α) : Result α (Option α) :=
  if field.isGiven && !field.isFit then do return some (← Duration.ofValue scope field.value)
  else .ok none

/-- The seconds of a value, if it is given. -/
def given? (scope : Scope α) (value : Value α) : Result α (Option α) :=
  if value.isNull then .ok none else do return some (← Duration.ofValue scope value)

/-- The seconds that are left of a source between its trims. -/
def remaining (scope : Scope α) (trim : Trim α) (source trimStart : α) : Result α α := do
  let kept := source - trimStart
  let kept :=
    match ← trimmed? scope trim.ending with
    | some ending => kept - ending
    | none => kept
  match ← given? scope trim.stop.value with
  | some stop => return stop - trimStart
  | none => return kept

/-- The length that a clip has at a position before a given length is considered,
or the given length where there is no other. -/
def natural (scope : Scope α) (trim : Trim α) (source given : Option α)
    (position trimStart speed : α) : Result α (Option α) := do
  match ← given? scope trim.stopAtOutput.value with
  | some stop => return some (stop - position)
  | none =>
      match source with
      | none => return given
      | some source => do
          let kept ← remaining scope trim (← Scalar.toReal source) trimStart
          return some (← Scalar.divide kept speed)

/-- The given length in place of the natural one, which it must not exceed where
there is a source to exceed. -/
def settle (id : String) (source given : Option α) (natural : α) : Result α α :=
  match given with
  | none => .ok natural
  | some given => do
      let source ← source.mapM fun source => Scalar.toReal source
      if source.isSome && !Scalar.leApprox given natural then refuse (.tooLong id given natural)
      return given

/-- How a clip plays from a position on, trims that fit left aside. -/
def ofClip (scope : Scope α) (clip : Clip α) (info : Option (MediaInfo α)) (position : α) :
    Result α (Timing α) := do
  Template.checkTrim clip.id clip.trim
  let speed ← factor clip.speed
  let trimStart := (← trimmed? scope clip.trim.start).getD 0
  let given ← given? scope clip.duration
  let source := info.bind MediaInfo.duration
  match ← natural scope clip.trim source given position trimStart speed with
  | none => return { duration := none, trimStart, speed }
  | some natural => do
      if Scalar.lt natural (Scalar.ofInt 0) then refuse (.overTrimmed clip.id (-natural))
      let duration ← settle clip.id source given natural
      return { duration := some duration, trimStart, speed }

end Timing

end Montage
