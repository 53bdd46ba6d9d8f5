import Montage.Plan.Basic
import Montage.Proofs.Division.Avoidance
import Montage.Proofs.Duration.Outcome
import Montage.Proofs.Template.Clips

/-!
# Divisions on the way to a plan

Durations, the time axis, the canvas and the pans of a template never end with a division
by zero, as long as its clips have speeds and its sources have aspect ratios other than
zero.  Each function has one theorem here.  Two of them need the condition: the length of
a source is divided by the speed, and a width that is given by the aspect ratio.
-/

namespace Montage

open Result

/-- A step does not end with a division by zero. -/
abbrev NoZeroDivision {β : Type} (step : Result ℚ β) : Prop :=
  Avoids (.number .divisionByZero) step

/-! ## Numbers -/

namespace Scalar

@[simp]
theorem avoids_toWhole (round : Rat → Int) (x : ℚ) :
    Avoids .divisionByZero (toWhole round x) := by
  rw [toWhole]
  split
  · exact avoids_ok _
  · exact avoids_ok _

@[simp]
theorem avoids_floor (x : ℚ) : Avoids .divisionByZero (floor x) :=
  avoids_toWhole _ x

/-- Division ends with this fault for no other divisor than zero. -/
@[simp]
theorem avoids_divide_iff {dividend divisor : ℚ} :
    Avoids .divisionByZero (divide dividend divisor) ↔ divisor ≠ 0 := by
  by_cases zero : divisor = 0 <;> simp [divide, zero]

end Scalar

/-! ## Durations -/

namespace Duration

/-- A fault of the input is none of numbers. -/
theorem avoids_of_input {β : Type} {step : Result ℚ β}
    (input : ∀ fault, step = .error fault → ∃ cause, fault = .input (.duration cause)) :
    NoZeroDivision step := by
  intro divided
  obtain ⟨cause, differs⟩ := input _ divided
  cases differs

@[simp]
theorem avoids_sumParts {place : ℕ} {total : ℚ} {parts : List (List Char)} :
    Avoids .divisionByZero (sumParts place total parts) := by
  induction parts generalizing place total with
  | nil => exact avoids_ok _
  | cons part parts ih => simp [sumParts_cons, ih]

@[simp]
theorem avoids_apply (operator : Operator) (x y : ℚ) (whole : Expression) :
    NoZeroDivision (apply operator x y whole) := by
  cases operator <;> simp [apply]

/-- A quotient has a value exactly if the division has one. -/
theorem apply_divide_eq_ok_iff {x y quotient : ℚ} (whole : Expression) :
    apply .divide x y whole = .ok quotient ↔ Scalar.divide x y = .ok quotient := by
  by_cases zero : y = 0 <;> simp [apply, Scalar.divide, zero]

@[simp]
theorem avoids_meaning {scope : Scope ℚ} {name : List Char} :
    NoZeroDivision (meaning scope name) :=
  avoids_of_input fun _ => exists_of_meaning_error

@[simp]
theorem avoids_read {s : String} : NoZeroDivision (read s) :=
  avoids_of_input fun _ => exists_of_read_error

@[simp]
theorem avoids_content (value : Value ℚ) : NoZeroDivision (content value) := by
  cases value <;> simp [content]

@[simp]
theorem avoids_evaluate (scope : Scope ℚ) (names : List (List Char)) (expression : Expression) :
    NoZeroDivision (evaluate scope names expression) := by
  induction names, expression using evaluate.induct with
  | case1 names characters => simp [evaluate, seconds]
  | case2 names inner ih => simpa [evaluate] using ih
  | case3 names operator left right leftIh rightIh => simp [evaluate, leftIh, rightIh]
  | case4 names name followed ih =>
      simp only [evaluate_reference followed, lead, avoids_bind_iff, avoids_meaning, avoids_content]
      refine ⟨⟨trivial, fun _ _ => trivial⟩, ?_⟩
      rintro (x | found) -
      · exact avoids_pure x
      · exact ih found
  | case5 names name left => simp [evaluate_reference_cycle left, refuse]

@[simp]
theorem avoids_ofValue (scope : Scope ℚ) (value : Value ℚ) :
    NoZeroDivision (ofValue scope value) := by
  cases value <;> simp [ofValue]

end Duration

/-! ## Lengths -/

namespace Length

@[simp]
theorem avoids_percentage (value : Value ℚ) : NoZeroDivision (percentage? value) := by
  unfold percentage?
  split <;> simp

@[simp]
theorem avoids_required {β : Type} : NoZeroDivision (required : Result ℚ β) := by
  simp [required]

/-- A length avoids what all of its cases avoid. -/
theorem avoids_resolve {β : Type} {value : Value ℚ} {ofFraction ofPixels : ℚ → Result ℚ β}
    {ifOmitted : Result ℚ β} (fraction : ∀ x, NoZeroDivision (ofFraction x))
    (pixels : ∀ x, NoZeroDivision (ofPixels x)) (omitted : NoZeroDivision ifOmitted) :
    NoZeroDivision (resolve value ofFraction ofPixels ifOmitted) := by
  unfold resolve
  split
  · exact omitted
  · exact fraction _
  · exact pixels _
  · simp

theorem avoids_within {whole : ℚ} {value : Value ℚ} {ifOmitted : Result ℚ ℚ}
    (omitted : NoZeroDivision ifOmitted) : NoZeroDivision (within whole value ifOmitted) :=
  avoids_resolve (fun _ => by simp) (fun _ => by simp) omitted

end Length

/-! ## What is found under an id -/

@[simp]
theorem avoids_ofClip {β : Type} (id : String) (found : Option β) :
    NoZeroDivision (Result.ofClip id found) := by
  cases found <;> simp [Result.ofClip]

@[simp]
theorem MediaMap.avoids_info (infos : MediaMap ℚ) (id : String) :
    NoZeroDivision (infos.info id) :=
  avoids_ofClip id _

@[simp]
theorem Template.avoids_clip (template : Template ℚ) (id : String) :
    NoZeroDivision (template.clip id) :=
  avoids_ofClip id _

/-- What is known about the source of a clip is listed under its id. -/
theorem MediaMap.lookup_of_info {α : Type} {infos : MediaMap α} {id : String} {info : MediaInfo α}
    (found : infos.info id = .ok info) : infos.lookup id = some info := by
  cases listed : infos.lookup id with
  | none =>
      rw [MediaMap.info, listed] at found
      cases found
  | some other =>
      rw [MediaMap.info, listed] at found
      cases found
      rfl

/-! ## The time axis -/

/-- No clip of a template has the speed zero. -/
def Template.Moves (template : Template ℚ) : Prop :=
  ∀ clip ∈ template.clips, ∀ speed : ℚ, Timing.factor clip.speed = .ok speed → speed ≠ 0

namespace Timing

@[simp]
theorem avoids_factor (share : Option String) : NoZeroDivision (factor (α := ℚ) share) := by
  cases share <;> simp [factor]

@[simp]
theorem avoids_trimmed (scope : Scope ℚ) (field : Field ℚ) :
    NoZeroDivision (trimmed? scope field) := by
  simp [trimmed?]

@[simp]
theorem avoids_given (scope : Scope ℚ) (value : Value ℚ) : NoZeroDivision (given? scope value) := by
  simp [given?]

@[simp]
theorem avoids_remaining (scope : Scope ℚ) (trim : Trim ℚ) (source trimStart : ℚ) :
    NoZeroDivision (remaining scope trim source trimStart) := by
  simp only [remaining, avoids_bind_iff, avoids_trimmed, avoids_given, true_and]
  intro ending _ stop _
  cases stop <;> simp

/-- What is left of a source is divided by the speed. -/
theorem avoids_natural (scope : Scope ℚ) (trim : Trim ℚ) (source given : Option ℚ)
    (position trimStart : ℚ) {speed : ℚ} (moves : speed ≠ 0) :
    NoZeroDivision (natural scope trim source given position trimStart speed) := by
  simp only [natural, avoids_bind_iff, avoids_given, true_and]
  rintro (_ | stop) -
  · cases source <;> simp [moves]
  · simp

@[simp]
theorem avoids_settle (id : String) (source given : Option ℚ) (natural : ℚ) :
    NoZeroDivision (settle id source given natural) := by
  unfold settle
  split
  · simp
  · refine avoids_bind_iff.mpr ⟨avoids_option_mapM fun _ _ => by simp, fun _ _ => ?_⟩
    simp [refuse]

@[simp]
theorem avoids_checkTrim (id : String) (trim : Trim ℚ) :
    NoZeroDivision (Template.checkTrim id trim) := by
  simp [Template.checkTrim, Result.refuse]

theorem avoids_ofClip (scope : Scope ℚ) {clip : Clip ℚ} (info : Option (MediaInfo ℚ))
    (position : ℚ) (moves : ∀ speed : ℚ, factor clip.speed = .ok speed → speed ≠ 0) :
    NoZeroDivision (ofClip scope clip info position) := by
  simp only [ofClip, avoids_bind_iff, avoids_checkTrim, avoids_factor, avoids_trimmed,
    avoids_given, true_and]
  intro _ _ speed found trimStart _ given _
  refine ⟨avoids_natural _ _ _ _ _ _ (moves speed found), ?_⟩
  rintro (_ | natural) -
  · simp
  · simp [refuse]

end Timing

namespace Timeline

variable {template : Template ℚ} {infos : MediaMap ℚ} {everyFit : Bool}

theorem avoids_timing (moves : template.Moves) {id : String} {clip : Clip ℚ}
    (found : template.clip id = .ok clip) (info : Option (MediaInfo ℚ)) (position : ℚ) :
    NoZeroDivision (Timing.ofClip template.scope clip info position) :=
  Timing.avoids_ofClip _ _ _ (moves clip (Template.mem_clips_of_clip found))

@[simp]
theorem avoids_starts : NoZeroDivision (starts template) :=
  avoids_mapM fun _ _ => by simp

@[simp]
theorem avoids_allFit (row : List String) : NoZeroDivision (allFit template row) := by
  induction row with
  | nil => simp [allFit]
  | cons id rest ih => simp [allFit, ih]

theorem avoids_countedFrom (moves : template.Moves) (position total : ℚ) (row : List String) :
    NoZeroDivision (countedFrom template infos everyFit position total row) := by
  induction row generalizing total with
  | nil => exact avoids_ok total
  | cons id rest ih =>
      simp only [countedFrom, avoids_ite_iff, avoids_bind_iff, Template.avoids_clip, true_and]
      refine ⟨fun _ => ih total, fun _ clip found => ⟨avoids_timing moves found _ _, ?_⟩⟩
      rintro ⟨_ | duration, trimStart, speed⟩ -
      · exact ih total
      · exact avoids_ite_iff.mpr ⟨fun _ => ih _, fun _ => ih _⟩

@[simp]
theorem avoids_totalOf (ends : List ℚ) : NoZeroDivision (totalOf everyFit ends) := by
  simp [totalOf, Timing.refuse]

theorem avoids_played (moves : template.Moves) (total position : ℚ) (clip : Clip ℚ)
    (timing : Timing ℚ) (rest : List String) :
    NoZeroDivision (played template infos everyFit total position clip timing rest) := by
  simp [played, counted, avoids_countedFrom moves]

theorem avoids_entriesFrom (moves : template.Moves) (total position : ℚ) (zIndex : ℤ)
    (row : List String) :
    NoZeroDivision (entriesFrom template infos everyFit total zIndex position row) := by
  induction row generalizing position with
  | nil => exact avoids_ok _
  | cons id rest ih =>
      simp only [entriesFrom, avoids_ite_iff, avoids_bind_iff, Template.avoids_clip, true_and]
      constructor
      · exact fun _ => ⟨avoids_countedFrom moves _ _ _, fun _ _ => ih _⟩
      · intro _ clip found
        refine ⟨avoids_timing moves found _ _, fun timing _ =>
          ⟨avoids_played moves _ _ _ _ _, ?_⟩⟩
        rintro (_ | ⟨duration, trimStart⟩) -
        · exact ih _
        · simp [ih]

theorem avoids_resolveTimeline (moves : template.Moves) :
    NoZeroDivision (template.resolveTimeline infos) := by
  simp only [Template.resolveTimeline, avoids_bind_iff, avoids_starts, avoids_allFit,
    avoids_totalOf, true_and, avoids_pure, implies_true, and_true]
  intro starts _ everyFit _
  constructor
  · exact avoids_mapM fun _ _ => by simp [counted, avoids_countedFrom moves]
  · exact fun ends _ total _ => avoids_mapM fun _ _ => avoids_entriesFrom moves _ _ _ _

end Timeline

/-! ## The canvas -/

/-- No source with a picture has the aspect ratio zero. -/
def MediaMap.HasAspects (infos : MediaMap ℚ) : Prop :=
  ∀ id info, infos.lookup id = some info → info.kind ≠ .audio →
    ∀ ratio, info.aspectRatio = some ratio → ratio ≠ 0

namespace Placement

@[simp]
theorem avoids_reference (id : String) (relativeTo : Value ℚ) (canvas : Extent)
    (placed : GeometryMap ℚ) : NoZeroDivision (reference id relativeTo canvas placed) := by
  unfold reference refuse
  split
  · simp
  · split <;> simp
  · simp
  · simp
  · simp

@[simp]
theorem avoids_givenSide (whole : ℤ) (length : Value ℚ) : NoZeroDivision (givenSide whole length) :=
  Length.avoids_resolve (fun _ => by simp) (fun _ => by simp) (by simp)

@[simp]
theorem avoids_wholeSide (side : Option ℚ) : Avoids .divisionByZero (wholeSide side) := by
  cases side <;> simp [wholeSide]

/-- A width that is given without a height is divided by the aspect ratio. -/
theorem avoids_scaledHeight {info : MediaInfo ℚ}
    (aspect : ∀ ratio, info.aspectRatio = some ratio → ratio ≠ 0) (width height : Option ℚ) :
    Avoids .divisionByZero (scaledHeight info width height) := by
  unfold scaledHeight
  split
  · simp
  · split
    · rename_i ratio found
      simp [aspect ratio found]
    · simp
  · simp

theorem avoids_scale {info : MediaInfo ℚ}
    (aspect : ∀ ratio, info.aspectRatio = some ratio → ratio ≠ 0) (clip : Clip ℚ)
    (whole : Extent) : NoZeroDivision (scale clip info whole) := by
  simp [scale, avoids_scaledHeight aspect, refuse]

@[simp]
theorem avoids_trimmed (whole : ℤ) (edge : Field ℚ) : NoZeroDivision (trimmed whole edge) := by
  simp [trimmed, Length.avoids_within]

@[simp]
theorem avoids_window (id : String) (crop : Edges ℚ) (frame : Extent) :
    NoZeroDivision (window id crop frame) := by
  simp [window, checkWindow, refuse]

@[simp]
theorem avoids_alignment (id : String) (axis : Axis) (value : Value ℚ) :
    NoZeroDivision (alignment id axis value) := by
  unfold alignment refuse
  split
  · split <;> simp
  · simp
  · simp
  · simp

@[simp]
theorem avoids_positionParts (id : String) (axis : Axis) (value : Value ℚ) :
    NoZeroDivision (positionParts id axis value) := by
  unfold positionParts refuse
  split
  · split
    · simp
    · simp [Value.sortedKeys]
  · simp
  · simp

@[simp]
theorem avoids_position (id : String) (axis : Axis) (spec : Value ℚ) (canvas whole extent : ℤ) :
    NoZeroDivision (position id axis spec canvas whole extent) := by
  simp [position, Length.avoids_within]

variable [Analytic ℚ]

@[simp]
theorem avoids_around (width height degrees : ℚ) :
    Avoids .divisionByZero (Extent.around width height degrees) := by
  simp [Extent.around]

@[simp]
theorem avoids_turn (clip : Clip ℚ) (scale : Extent) : NoZeroDivision (turn clip scale) := by
  unfold turn
  split <;> simp

theorem avoids_clip {info : MediaInfo ℚ}
    (aspect : ∀ ratio, info.aspectRatio = some ratio → ratio ≠ 0) (canvas : Extent)
    (placed : GeometryMap ℚ) (next : Clip ℚ) : NoZeroDivision (clip canvas placed next info) := by
  simp [clip, avoids_scale aspect]

theorem avoids_clipsAfter {infos : MediaMap ℚ} (aspects : infos.HasAspects) (canvas : Extent)
    (placed : GeometryMap ℚ) (clips : List (Clip ℚ)) :
    NoZeroDivision (clipsAfter canvas infos placed clips) := by
  induction clips generalizing placed with
  | nil => exact avoids_ok _
  | cons next rest ih =>
      simp only [clipsAfter, avoids_bind_iff, avoids_ite_iff, MediaMap.avoids_info, true_and]
      refine fun info found => ⟨fun _ => ih placed, fun pictured => ⟨?_, fun geometry _ => ih _⟩⟩
      have aspect := aspects next.id info (MediaMap.lookup_of_info found) (by simpa using pictured)
      exact avoids_clip aspect canvas placed next

end Placement

namespace Canvas

variable [Analytic ℚ]

@[simp]
theorem avoids_turnedSides (width height : ℚ) (degrees : Option ℚ) :
    Avoids .divisionByZero (turnedSides width height degrees) := by
  unfold turnedSides
  split <;> simp

@[simp]
theorem avoids_side (template : Template ℚ) (infos : MediaMap ℚ) (axis : Axis) (length : Value ℚ) :
    NoZeroDivision (side template infos axis length) := by
  have whole : NoZeroDivision (reference template infos axis) := by
    unfold reference
    split <;> simp
  exact Length.avoids_resolve (fun _ => by simp [whole]) (fun _ => by simp) (by simp)

theorem avoids_size (template : Template ℚ) (infos : MediaMap ℚ) :
    NoZeroDivision (size template infos) := by
  simp [size]

end Canvas

/-! ## Pans -/

namespace Zoompan

@[simp]
theorem avoids_motion (id : String) (geometry : Geometry ℚ) (framerate : ℚ) (state : State ℚ)
    (time : ℚ) (keyframe : Keyframe ℚ) (axis : Axis) :
    NoZeroDivision (motion id geometry framerate state time keyframe axis) := by
  simp only [motion, refuse]
  split
  · simp
  · split <;> simp [Length.avoids_within]

@[simp]
theorem avoids_zoom (id : String) (keyframe : Keyframe ℚ) : NoZeroDivision (zoom id keyframe) := by
  simp [zoom, refuse]

@[simp]
theorem avoids_segmentsFrom (id : String) (geometry : Geometry ℚ) (framerate : ℚ)
    (state : State ℚ) (keyframes : List (ℚ × Keyframe ℚ)) :
    NoZeroDivision (segmentsFrom id geometry framerate state keyframes) := by
  induction keyframes generalizing state with
  | nil => exact avoids_ok _
  | cons keyframe rest ih => simp [segmentsFrom, segment, ih, refuse]

@[simp]
theorem avoids_segments (scope : Scope ℚ) (clip : Clip ℚ) (geometry : Geometry ℚ)
    (framerate : ℚ) : NoZeroDivision (segments scope clip geometry framerate) := by
  have timed : NoZeroDivision (timed scope clip.zoompan) := by
    simp [Zoompan.timed, avoids_mapM]
  simp [segments, timed]

end Zoompan

theorem Template.avoids_framerates (template : Template ℚ) (infos : MediaMap ℚ) :
    NoZeroDivision (template.framerates infos) :=
  avoids_mapM fun _ _ => by simp [Clip.effectiveFramerate]

theorem Template.avoids_pans (template : Template ℚ) (geometry : GeometryMap ℚ)
    (framerates : List (String × ℚ)) : NoZeroDivision (template.pans geometry framerates) := by
  refine avoids_filterMapM fun clip _ => ?_
  split <;> simp

/-! ## Plans -/

namespace Plan

@[simp]
theorem avoids_ofEntry (parts : Parts ℚ) (entry : Entry ℚ) :
    NoZeroDivision (ofEntry parts entry) := by
  simp [ofEntry, fade]

/-- Compiling a template does not divide by zero. -/
theorem avoids_compile [Analytic ℚ] {template : Template ℚ} {infos : MediaMap ℚ}
    (moves : template.Moves) (aspects : infos.HasAspects) (canvas : Option Extent) :
    NoZeroDivision (compile template infos canvas) := by
  have compiled (extent : Extent) : NoZeroDivision (compileOn extent template infos) := by
    simp [compileOn, Template.geometry, Placement.avoids_clipsAfter aspects,
      Timeline.avoids_resolveTimeline moves, Template.avoids_framerates, Template.avoids_pans,
      avoids_mapM]
  cases canvas with
  | some extent => exact compiled extent
  | none => simp [compile, Canvas.avoids_size, compiled]

end Plan

end Montage
