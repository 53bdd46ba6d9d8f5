import Montage.Proofs.TextImage.Wrap
import Montage.Template.ClipFields
import Montage.TextImage.Even

/-!
# Texts on a patch of a given width

Between the paddings of a patch there is room for the lines of a text.  They are broken to fit
into it whether there is much room, little, or less than none.  Only on a patch that is exactly
as wide as its paddings nothing is broken: there the room is zero, and that is no limit.
-/

namespace Montage.TextImage

/-- Every line of a text fits into a room, or there is no blank to break it at. -/
def StaysWithin (measure : List Char → ℤ) (room : ℤ) (text : String) : Prop :=
  ∀ line ∈ Text.parts '\n' text.toList, measure line ≤ room ∨ ' ' ∉ line

/-- A text that is broken at a limit other than zero stays within it. -/
theorem staysWithin_wrapTo (measure : List Char → ℤ) {room : ℤ} (limited : room ≠ 0)
    (text : String) :
    StaysWithin measure room
      (wrapTo (fun line => (measure line : ℚ)) (some (room : ℚ)) text) := by
  have isSet : Scalar.isSet (room : ℚ) = true :=
    Scalar.isSet_rat_iff.mpr (Int.cast_ne_zero.mpr limited)
  intro line member
  rw [wrapTo, if_pos isSet, parts_wrap, lines_eq_flatMap, List.mem_flatMap] at member
  obtain ⟨paragraph, _, member⟩ := member
  have wraps := wraps_paragraphLines (fun line => (measure line : ℚ)) room paragraph
  exact (wraps.fits line member).imp_left Int.cast_le.mp

variable {painter : Painter ℚ} {usable : Path → Bool} {text : String} {font : Font ℚ}
  {width : ℤ} {image : TextImage ℚ}

/-- A text that is set on a patch is broken at the width between the paddings of its font. -/
theorem content_of_setBy (drawn : setBy painter usable text font (some width) = .ok image) :
    wholeOrZero font.padding = .ok image.padding ∧
      image.content = wrapTo (fun line => (painter.width image.face line : ℚ))
        (some ((width - 2 * image.padding : ℤ) : ℚ)) text := by
  simp only [setBy, Result.bind_eq_ok_iff, Result.pure_eq_ok_iff] at drawn
  obtain ⟨_, _, face, _, padding, padded, _, _, _, _, _, _, rfl⟩ := drawn
  exact ⟨padded, rfl⟩

/-- Whoever measures them, the lines of a text stay between the paddings of its patch, except
on a patch that is exactly as wide as the paddings.  There the text is left as it is. -/
theorem staysWithin_patch_iff
    (drawn : setBy painter usable text font (some width) = .ok image) :
    wholeOrZero font.padding = .ok image.padding ∧
      (StaysWithin (painter.width image.face) (width - 2 * image.padding) image.content ↔
        (width = 2 * image.padding → StaysWithin (painter.width image.face) 0 text)) ∧
      (width = 2 * image.padding → image.content = text) := by
  obtain ⟨padded, content_eq⟩ := content_of_setBy drawn
  have kept (filled : width = 2 * image.padding) : image.content = text := by
    rw [content_eq, sub_eq_zero.mpr filled]
    rfl
  refine ⟨padded, ?_, kept⟩
  constructor
  · intro stays filled
    rwa [kept filled, sub_eq_zero.mpr filled] at stays
  · intro filledStays
    by_cases filled : width = 2 * image.padding
    · rw [kept filled, sub_eq_zero.mpr filled]
      exact filledStays filled
    · rw [content_eq]
      exact staysWithin_wrapTo _ (sub_ne_zero.mpr filled) text

/-! ## Two words on narrow patches -/

/-- The font of a text that sets none of its fields. -/
def usualFont : Font ℚ :=
  Template.fontOf []

/-- A text of even characters in the usual font, where every typeface can be loaded. -/
def setUsual (text : String) (width : ℤ) : Result ℚ (TextImage ℚ) :=
  set (fun _ => true) text usualFont (some width)

/-- What is drawn of a text in the usual font, in which typeface, and with which padding. -/
def drawnUsual (text : String) (width : ℤ) : Result ℚ (String × Face × ℤ) :=
  (fun image => (image.content, image.face, image.padding)) <$> setUsual text width

/-- On a patch that is narrower than its paddings the words stand below each other. -/
theorem staysWithin_narrowPatch :
    ∃ image, setUsual "one two" 10 = .ok image ∧ image.content = "one\ntwo" ∧
      StaysWithin image.face.width (10 - 2 * 12) image.content := by
  have found : drawnUsual "one two" 10 = .ok ("one\ntwo", ⟨"/fonts/Inter.ttc", 12⟩, 12) := by
    rw [← Result.toOption_eq_some_iff]
    decide +kernel
  obtain ⟨image, drawn, same⟩ := Result.map_eq_ok_iff.mp found
  simp only [Prod.mk.injEq] at same
  obtain ⟨content_eq, -, padding_eq⟩ := same
  obtain ⟨-, stays_iff, -⟩ := staysWithin_patch_iff drawn
  rw [padding_eq] at stays_iff
  exact ⟨image, drawn, content_eq, stays_iff.mpr (by norm_num)⟩

/-- On a patch that is as wide as its paddings they stand beside each other. -/
theorem not_staysWithin_filledPatch :
    ∃ image, setUsual "one two" 24 = .ok image ∧ image.padding = 12 ∧
      image.content = "one two" ∧
      ¬StaysWithin image.face.width (24 - 2 * image.padding) image.content := by
  have found : drawnUsual "one two" 24 = .ok ("one two", ⟨"/fonts/Inter.ttc", 12⟩, 12) := by
    rw [← Result.toOption_eq_some_iff]
    decide +kernel
  obtain ⟨image, drawn, same⟩ := Result.map_eq_ok_iff.mp found
  simp only [Prod.mk.injEq] at same
  obtain ⟨content_eq, face_eq, padding_eq⟩ := same
  refine ⟨image, drawn, padding_eq, content_eq, ?_⟩
  rw [content_eq, face_eq, padding_eq]
  intro stays
  have wide := stays "one two".toList (by decide)
  revert wide
  decide

end Montage.TextImage
