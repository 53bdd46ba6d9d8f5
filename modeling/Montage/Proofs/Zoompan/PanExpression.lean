import Montage.Command.Basic
import Montage.Proofs.Command.Calculation
import Montage.Proofs.Zoompan.Offset

/-!
# Expressions of pans agree with their offsets

A whole output hands the offset of a window to the encoder as an expression over the
frame number; a preview evaluates it once.  At every frame the expression has the offset
of the frame's time.  What the encoder carries out is the text of the expression, in which
limits and offsets at rest are short decimals: where six places are enough for them, the
text comes to the same offset.
-/

namespace Montage

open Calculation Fixed Zoompan

variable {axis : Axis} {framerate frame room : ℚ} {segments : List (Segment ℚ)} {base : ℤ}

namespace PanExpression

/-! ## What an expression shows -/

/-- The offset at a frame to which the text of an expression comes. -/
def shownValue? (frame : ℚ) (expression : PanExpression ℚ) : Option ℚ :=
  Calculation.value? frame expression.text

/-- Six decimal places are enough for the short decimals of an expression. -/
def IsShort : PanExpression ℚ → Prop
  | offset _ => True
  | held position => HasSixPlaces position
  | moving _ => True
  | before limit first second => HasSixPlaces limit ∧ first.IsShort ∧ second.IsShort

theorem reads_compact {x : ℚ} (short : HasSixPlaces x) :
    Reads frame (characters (Scalar.compact x)) x := by
  have spelled : (Scalar.compact x).toList = (written x).characters := by
    change (compact (.finite x)).toList = _
    rw [compact_finite, String.toList_ofList]
  have number_eq : (written x).number = x :=
    (number_written x).trans (nearest_eq_iff.mpr short)
  rw [characters_of_decimal _ spelled]
  simpa only [number_eq] using reads_decimal (written x)

/-- The text of a short expression comes to its value. -/
theorem reads_text {expression : PanExpression ℚ} (short : expression.IsShort) :
    Reads frame (characters expression.text) (expression.value frame) := by
  induction expression with
  | offset pixels =>
      rw [text, characters_of_decimal _ (WrittenDecimal.toList_toString pixels), value,
        Scalar.ofInt_rat, ← WrittenDecimal.number_ofInt]
      exact reads_decimal _
  | held position => exact reads_compact short
  | moving formula => exact reads_linearFormula formula
  | before limit first second ihFirst ihSecond =>
      rcases short with ⟨shortLimit, shortFirst, shortSecond⟩
      have written : characters (before limit first second).text =
          ['i', 'f', '('] ++
            (['l', 't', '('] ++ ['n'] ++ ',' :: characters (Scalar.compact limit) ++ [')']) ++
            ',' :: characters first.text ++ ',' :: characters second.text ++ [')'] := by
        change characters ("if(lt(n," ++ Scalar.compact limit ++ ")," ++ first.text ++ "," ++
          second.text ++ ")") = _
        have opening : characters "if(lt(n," = ['i', 'f', '(', 'l', 't', '(', 'n', ','] := rfl
        have middle : characters ")," = [')', ','] := rfl
        have comma : characters "," = [','] := rfl
        have closing : characters ")" = [')'] := rfl
        simp only [characters_append, opening, middle, comma, closing, List.append_assoc,
          List.cons_append, List.nil_append]
      have comparison : Reads frame _ (if frame < limit then 1 else 0) :=
        reads_frame.less (reads_compact shortLimit)
      have choice := comparison.choice (ihFirst shortFirst) (ihSecond shortSecond)
      rw [written, value]
      simp only [Scalar.lt_rat_iff]
      by_cases early : frame < limit
      · rw [if_pos early, if_neg one_ne_zero] at choice
        rwa [if_pos early]
      · rw [if_neg early, if_pos rfl] at choice
        rwa [if_neg early]

/-- A short expression shows its value. -/
theorem shownValue?_eq_value {expression : PanExpression ℚ} (short : expression.IsShort) :
    expression.shownValue? frame = some (expression.value frame) :=
  value?_of_reads (reads_text short)

/-- Rationals are real numbers already. -/
theorem toReal_rat (expression : PanExpression ℚ) : expression.toReal = .ok expression := by
  induction expression with
  | offset pixels => rfl
  | held position => rfl
  | moving formula => rfl
  | before limit first second ihFirst ihSecond =>
      rw [toReal, ihFirst, ihSecond]
      rfl

/-! ## Expressions of segments -/

theorem value_ofMotion (motion : Motion ℚ) :
    (ofMotion motion).value frame = motion.atFrame frame := by
  rw [ofMotion, Motion.atFrame]
  cases motion.formula <;> rfl

/-- From a segment on, an expression puts the window where the chain has it. -/
theorem value_ofSegments (positive : 0 < framerate) (segment : Segment ℚ)
    (rest : List (Segment ℚ)) (position : ℚ) :
    (ofSegments axis framerate segment rest).value frame =
      positionAt axis framerate (frame / framerate) position (segment :: rest) := by
  have lasts (segment : Segment ℚ) :
      Scalar.lt frame (segment.endAt * framerate) = true ↔ frame / framerate < segment.endAt := by
    rw [Scalar.lt_rat_iff, div_lt_iff₀ positive]
  induction rest generalizing segment position with
  | nil =>
      simp only [ofSegments, value, positionAt, lasts, value_ofMotion,
        div_mul_cancel₀ frame positive.ne']
  | cons next rest ih =>
      rw [positionAt, ← ih next (segment.along axis).final]
      simp only [ofSegments, value, lasts, value_ofMotion, div_mul_cancel₀ frame positive.ne']

/-- Segments in front of the first one that moves the window have ended when that one
begins. -/
theorem positionAt_dropWhile {begin position time : ℚ} {first : Segment ℚ}
    {rest : List (Segment ℚ)} (chain : Zoompan.Chain axis framerate room begin position segments)
    (dropped : (segments.dropWhile fun segment => !(segment.along axis).moves) = first :: rest)
    (begun : first.startAt ≤ time) :
    positionAt axis framerate time position segments =
      positionAt axis framerate time position (first :: rest) := by
  induction segments generalizing begin position with
  | nil => cases dropped
  | cons segment others ih =>
      by_cases moves : (segment.along axis).moves
      · rw [List.dropWhile_cons_of_neg (by simpa using moves)] at dropped
        rw [dropped]
      · rw [List.dropWhile_cons_of_pos (by simpa using moves)] at dropped
        rcases chain.head with ⟨_, _, behind⟩
        have member : first ∈ others :=
          (List.dropWhile_suffix _).subset (dropped ▸ List.mem_cons_self)
        have ended : segment.endAt ≤ time :=
          (behind.le_startAt first member).trans begun
        rw [positionAt, if_neg (not_lt.mpr ended), ih behind dropped]
        rfl

/-- The expression of a pan has the offset of the frame's time. -/
theorem value_ofPan (chain : Zoompan.Chain axis framerate room 0 0 segments) (positive : 0 < framerate) :
    (ofPan segments axis framerate base).value frame =
      offsetAt axis framerate (frame / framerate) base segments := by
  rw [ofPan, offsetAt, List.find?_eq_head?_dropWhile_not]
  cases dropped : segments.dropWhile fun segment => !(segment.along axis).moves with
  | nil => simp [value]
  | cons first rest =>
      have early : Scalar.lt frame (first.startAt * framerate) = true ↔
          frame / framerate < first.startAt := by
        rw [Scalar.lt_rat_iff, div_lt_iff₀ positive]
      simp only [value, early, List.head?_cons, Scalar.ofInt_rat]
      split
      · rfl
      · rename_i begun
        rw [positionAt_dropWhile chain dropped (not_lt.mp begun), value_ofSegments positive]

/-! ## Short pans -/

/-- Six decimal places are enough for the frames at which segments begin and end, for the
offsets at which the window rests, and for the place where the last segment leaves it. -/
structure IsShortPan (axis : Axis) (framerate : ℚ) (segments : List (Segment ℚ)) : Prop where
  startAt : ∀ segment ∈ segments, HasSixPlaces (segment.startAt * framerate)
  endAt : ∀ segment ∈ segments, HasSixPlaces (segment.endAt * framerate)
  held : ∀ segment ∈ segments, (segment.along axis).moves = false →
    HasSixPlaces (segment.along axis).start
  final : ∀ segment ∈ segments.getLast?, HasSixPlaces (segment.along axis).final

theorem IsShortPan.of_suffix {later : List (Segment ℚ)}
    (short : IsShortPan axis framerate segments) (suffix : later <:+ segments)
    (nonempty : later ≠ []) : IsShortPan axis framerate later := by
  rcases suffix with ⟨earlier, rfl⟩
  constructor
  · exact fun segment member => short.startAt segment (List.mem_append_right _ member)
  · exact fun segment member => short.endAt segment (List.mem_append_right _ member)
  · exact fun segment member => short.held segment (List.mem_append_right _ member)
  · rw [← List.getLast?_append_of_ne_nil earlier nonempty]
    exact short.final

theorem isShort_ofMotion {motion : Motion ℚ}
    (held : motion.moves = false → HasSixPlaces motion.start) : (ofMotion motion).IsShort := by
  rw [ofMotion]
  rw [Motion.moves] at held
  cases found : motion.formula with
  | some formula => trivial
  | none =>
      apply held
      rw [found]
      rfl

theorem isShort_ofSegments {segment : Segment ℚ} {rest : List (Segment ℚ)}
    (short : IsShortPan axis framerate (segment :: rest)) :
    (ofSegments axis framerate segment rest).IsShort := by
  have shortMotion : (ofMotion (segment.along axis)).IsShort :=
    isShort_ofMotion (short.held segment List.mem_cons_self)
  have shortEnd := short.endAt segment List.mem_cons_self
  induction rest generalizing segment with
  | nil => exact ⟨shortEnd, shortMotion, short.final segment rfl⟩
  | cons next rest ih =>
      have shortRest := short.of_suffix (List.suffix_cons segment (next :: rest))
        (List.cons_ne_nil next rest)
      exact ⟨shortEnd, shortMotion, ih shortRest
        (isShort_ofMotion (shortRest.held next List.mem_cons_self))
        (shortRest.endAt next List.mem_cons_self)⟩

theorem isShort_ofPan (short : IsShortPan axis framerate segments) :
    (ofPan segments axis framerate base).IsShort := by
  rw [ofPan]
  cases dropped : segments.dropWhile fun segment => !(segment.along axis).moves with
  | nil => trivial
  | cons first rest =>
      have shortRest : IsShortPan axis framerate (first :: rest) := by
        apply short.of_suffix
        · rw [← dropped]
          exact List.dropWhile_suffix _
        · exact List.cons_ne_nil first rest
      exact ⟨shortRest.startAt first List.mem_cons_self, trivial, isShort_ofSegments shortRest⟩

/-- At every frame the text that the encoder reads comes to the offset of the frame's
time. -/
theorem shownValue?_eq_panOffset {scope : Scope ℚ} {clip : Clip ℚ} {geometry : Geometry ℚ}
    (made : Zoompan.segments scope clip geometry framerate = .ok segments)
    (positive : 0 < framerate) (short : IsShortPan axis framerate segments) (base : ℤ)
    (frame : ℚ) :
    ∃ shown offset,
      (ofPan segments axis framerate base).toReal = .ok shown ∧
        panOffset segments axis (frame / framerate) framerate base = .ok offset ∧
        Calculation.value? frame shown.text = some offset := by
  have chain := segments_chain axis made
  refine ⟨ofPan segments axis framerate base, _, toReal_rat _, panOffset_eq_ok chain, ?_⟩
  rw [← value_ofPan chain positive]
  exact shownValue?_eq_value (isShort_ofPan short)

theorem isShortPan_panningSegments : IsShortPan .horizontal 30 panningSegments := by
  constructor <;> decide +kernel

/-- At the frame of a jump the expression is behind the jump already. -/
theorem shownValue?_panningSegments :
    ∃ shown, (ofPan panningSegments .horizontal 30 7).toReal = .ok shown ∧
      panOffset panningSegments .horizontal (60 / 30) 30 7 = .ok 30 ∧
      Calculation.value? 60 shown.text = some 30 := by
  have jumped : panOffset panningSegments .horizontal (60 / 30) 30 (7 : ℤ) = .ok 30 := by
    rw [← Result.toOption_eq_some_iff]
    decide +kernel
  rcases shownValue?_eq_panOffset (segments_panningClip ⟨[], []⟩) (by norm_num)
    isShortPan_panningSegments 7 60 with ⟨shown, offset, real, found, value_eq⟩
  rw [jumped] at found
  cases found
  exact ⟨shown, real, jumped, value_eq⟩

end PanExpression

end Montage
