import Montage.Color
import Montage.Command.Basic
import Montage.Proofs.Duration.Token
import Montage.Proofs.Plan
import Montage.Proofs.Template.Clips

/-!
# Colours of texts

Behind number signs every channel is read from two characters, which spell a whole number between
minus fifteen and two hundred and fifty-five, or none.  So a text there may be refused for a
number instead of as input, and a channel may be negative, which shows in the digits of the
canvas.  In six hexadecimal digits without a number sign, and in a name, neither can happen.
-/

namespace Montage

namespace Text

variable {c d : Char} {pair : List Char} {n : ℤ}

/-! ## Numbers of two characters -/

/-- What one or two characters spell as a whole number in sixteen digits. -/
inductive SpellsShort : List Char → ℤ → Prop
  | digit {c : Char} {value : ℕ} (read : digitIn? 16 c = some value) : SpellsShort [c] value
  | digits {c d : Char} {high low : ℕ} (readHigh : digitIn? 16 c = some high)
      (readLow : digitIn? 16 d = some low) : SpellsShort [c, d] ((16 * high + low : ℕ) : ℤ)
  | minus {d : Char} {value : ℕ} (read : digitIn? 16 d = some value) :
      SpellsShort ['-', d] (-value)
  | behind {c d : Char} {value : ℕ} (idle : c = '+' ∨ isMargin c = true)
      (read : digitIn? 16 d = some value) : SpellsShort [c, d] value
  | before {c d : Char} {value : ℕ} (read : digitIn? 16 c = some value)
      (idle : isMargin d = true) : SpellsShort [c, d] value

theorem digitIn?_lt {base value : ℕ} (read : digitIn? base c = some value) : value < base := by
  obtain ⟨_, small⟩ := Option.filter_eq_some_iff.mp read
  simpa using small

/-- No digit is white space. -/
theorem isMargin_of_digitIn? {base value : ℕ} (read : digitIn? base c = some value) :
    isMargin c = false := by
  have plain : isBlank c = false := by
    obtain ⟨found, _⟩ := Option.filter_eq_some_iff.mp read
    split at found
    · rename_i decimal
      exact not_isBlank_of_isDigit (by rw [isDigit, decimal]; rfl)
    · split at found
      · rename_i letter
        simp [Char.le_def, UInt32.le_iff_toNat_le] at letter
        exact Duration.not_isBlank_of_toNat (by omega) (by omega)
      · split at found
        · rename_i letter
          simp [Char.le_def, UInt32.le_iff_toNat_le] at letter
          exact Duration.not_isBlank_of_toNat (by omega) (by omega)
        · cases found
  rw [isMargin, plain, Bool.false_and]

theorem digitIn?_minus : digitIn? 16 '-' = none := by
  decide

theorem digitIn?_plus : digitIn? 16 '+' = none := by
  decide

/-- A single character spells a number if it is a digit. -/
theorem wholeNumber?_of_single {text : List Char} (trimmed : trimOf isMargin text = [c]) :
    wholeNumber? 16 text = some n ↔ ∃ value, digitIn? 16 c = some value ∧ (value : ℤ) = n := by
  rw [wholeNumber?, trimmed]
  split
  · rename_i signed
    cases signed
    simp [unsigned?, digitIn?_minus]
  · rename_i signed
    cases signed
    simp [unsigned?, digitIn?_plus]
  · simp [unsigned?, digitsFrom?, Option.bind_eq_some_iff]

/-- Two characters spell a number if they are digits, or a sign and a digit. -/
theorem wholeNumber?_of_double {text : List Char} (trimmed : trimOf isMargin text = [c, d]) :
    wholeNumber? 16 text = some n ↔
      (∃ high, digitIn? 16 c = some high ∧ ∃ low, digitIn? 16 d = some low ∧
          ((16 * high + low : ℕ) : ℤ) = n) ∨
        (c = '-' ∧ ∃ value, digitIn? 16 d = some value ∧ -(value : ℤ) = n) ∨
        (c = '+' ∧ ∃ value, digitIn? 16 d = some value ∧ (value : ℤ) = n) := by
  rw [wholeNumber?, trimmed]
  split
  · rename_i signed
    cases signed
    simp [unsigned?, digitIn?_minus, digitsFrom?, Option.bind_eq_some_iff]
  · rename_i signed
    cases signed
    simp [unsigned?, digitIn?_plus, digitsFrom?, Option.bind_eq_some_iff]
  · rename_i noMinus noPlus
    have notMinus : c ≠ '-' := fun same => noMinus [d] (by rw [same])
    have notPlus : c ≠ '+' := fun same => noPlus [d] (by rw [same])
    simp [unsigned?, digitsFrom?, Option.bind_eq_some_iff, notMinus, notPlus]

/-- Two characters without the white space around them. -/
theorem trimOf_pair (kind : Char → Bool) (c d : Char) :
    trimOf kind [c, d] =
      if kind c then if kind d then [] else [d] else if kind d then [c] else [c, d] := by
  by_cases first : kind c = true <;> by_cases second : kind d = true <;>
    simp [trimOf, first, second]

theorem trimOf_single (kind : Char → Bool) (c : Char) :
    trimOf kind [c] = if kind c then [] else [c] := by
  by_cases idle : kind c = true <;> simp [trimOf, idle]

theorem wholeNumber?_of_blank {text : List Char} (trimmed : trimOf isMargin text = []) :
    wholeNumber? 16 text = none := by
  rw [wholeNumber?, trimmed]
  rfl

theorem spellsShort_of_wholeNumber? (short : pair.length ≤ 2)
    (read : wholeNumber? 16 pair = some n) : SpellsShort pair n := by
  match pair, short with
  | [], _ => cases (wholeNumber?_of_blank rfl).symm.trans read
  | [c], _ =>
      by_cases idle : isMargin c = true
      · cases (wholeNumber?_of_blank (by rw [trimOf_single, if_pos idle])).symm.trans read
      · obtain ⟨value, isDigit, rfl⟩ :=
          (wholeNumber?_of_single (by rw [trimOf_single, if_neg idle])).mp read
        exact .digit isDigit
  | [c, d], _ =>
      by_cases idle : isMargin c = true <;> by_cases idleToo : isMargin d = true
      · cases (wholeNumber?_of_blank
          (by rw [trimOf_pair, if_pos idle, if_pos idleToo])).symm.trans read
      · obtain ⟨value, isDigit, rfl⟩ :=
          (wholeNumber?_of_single (by rw [trimOf_pair, if_pos idle, if_neg idleToo])).mp read
        exact .behind (.inr idle) isDigit
      · obtain ⟨value, isDigit, rfl⟩ :=
          (wholeNumber?_of_single (by rw [trimOf_pair, if_neg idle, if_pos idleToo])).mp read
        exact .before isDigit idleToo
      · rcases (wholeNumber?_of_double
          (by rw [trimOf_pair, if_neg idle, if_neg idleToo])).mp read with
          ⟨high, isHigh, low, isLow, rfl⟩ | ⟨rfl, value, isDigit, rfl⟩ | ⟨rfl, value, isDigit, rfl⟩
        · exact .digits isHigh isLow
        · exact .minus isDigit
        · exact .behind (.inl rfl) isDigit

theorem SpellsShort.wholeNumber?_eq (spells : SpellsShort pair n) :
    wholeNumber? 16 pair = some n := by
  have isMinus : isMargin '-' = false := by decide
  have isPlus : isMargin '+' = false := by decide
  cases spells with
  | digit read =>
      refine (wholeNumber?_of_single ?_).mpr ⟨_, read, rfl⟩
      simp [trimOf_single, isMargin_of_digitIn? read]
  | digits readHigh readLow =>
      refine (wholeNumber?_of_double ?_).mpr (.inl ⟨_, readHigh, _, readLow, rfl⟩)
      simp [trimOf_pair, isMargin_of_digitIn? readHigh, isMargin_of_digitIn? readLow]
  | minus read =>
      refine (wholeNumber?_of_double ?_).mpr (.inr (.inl ⟨rfl, _, read, rfl⟩))
      simp [trimOf_pair, isMinus, isMargin_of_digitIn? read]
  | behind idle read =>
      rcases idle with rfl | blank
      · refine (wholeNumber?_of_double ?_).mpr (.inr (.inr ⟨rfl, _, read, rfl⟩))
        simp [trimOf_pair, isPlus, isMargin_of_digitIn? read]
      · refine (wholeNumber?_of_single ?_).mpr ⟨_, read, rfl⟩
        simp [trimOf_pair, blank, isMargin_of_digitIn? read]
  | before read idle =>
      refine (wholeNumber?_of_single ?_).mpr ⟨_, read, rfl⟩
      simp [trimOf_pair, isMargin_of_digitIn? read, idle]

/-- A text spells at most one number. -/
theorem SpellsShort.unique {m : ℤ} (spells : SpellsShort pair n) (spellsToo : SpellsShort pair m) :
    n = m :=
  Option.some.inj (spells.wholeNumber?_eq.symm.trans spellsToo.wholeNumber?_eq)

theorem SpellsShort.bounds (spells : SpellsShort pair n) : -15 ≤ n ∧ n ≤ 255 := by
  cases spells with
  | digits readHigh readLow =>
      have high := digitIn?_lt readHigh
      have low := digitIn?_lt readLow
      omega
  | digit read | minus read | behind _ read | before read _ =>
      have small := digitIn?_lt read
      omega

end Text

namespace Color

open Text

variable {α : Type} {color : Color} {text : String}

/-! ## Channels -/

/-- The characters of a channel behind the number signs of a text. -/
def pair (place : ℕ) (text : String) : List Char :=
  ((text.toList.dropWhile (· == '#')).drop (2 * place)).take 2

/-- The colour whose channels are spelled behind the number signs. -/
structure SpelledBy (color : Color) (text : String) : Prop where
  red : SpellsShort (pair 0 text) color.red
  green : SpellsShort (pair 1 text) color.green
  blue : SpellsShort (pair 2 text) color.blue

/-- A channel is spelled, or it cannot be read. -/
theorem channel_cases (place : ℕ) (text : String) :
    (∃ n, channel (pair place text) = .ok n ∧ SpellsShort (pair place text) n) ∨
      channel (pair place text) = .error .unreadable ∧ ∀ n, ¬SpellsShort (pair place text) n := by
  have short : (pair place text).length ≤ 2 := List.length_take_le 2 _
  rw [channel]
  cases read : wholeNumber? 16 (pair place text) with
  | some n => exact .inl ⟨n, rfl, spellsShort_of_wholeNumber? short read⟩
  | none =>
      refine .inr ⟨rfl, fun n spells => ?_⟩
      cases spells.wholeNumber?_eq.symm.trans read

theorem ofHex_eq (text : String) :
    ofHex text = do
      let red ← channel (pair 0 text)
      let green ← channel (pair 1 text)
      let blue ← channel (pair 2 text)
      return ⟨red, green, blue⟩ :=
  rfl

/-- Three channels are spelled, or one of them cannot be read. -/
theorem ofHex_cases (text : String) :
    (∃ color, ofHex text = .ok color ∧ color.SpelledBy text) ∨
      ofHex text = .error .unreadable ∧ ∃ place < 3, ∀ n, ¬SpellsShort (pair place text) n := by
  rw [ofHex_eq]
  rcases channel_cases 0 text with ⟨red, readRed, spellsRed⟩ | ⟨unread, unspelled⟩
  case inr => exact .inr ⟨by rw [unread]; rfl, 0, by omega, unspelled⟩
  rcases channel_cases 1 text with ⟨green, readGreen, spellsGreen⟩ | ⟨unread, unspelled⟩
  case inr => exact .inr ⟨by rw [readRed, unread]; rfl, 1, by omega, unspelled⟩
  rcases channel_cases 2 text with ⟨blue, readBlue, spellsBlue⟩ | ⟨unread, unspelled⟩
  case inr => exact .inr ⟨by rw [readRed, readGreen, unread]; rfl, 2, by omega, unspelled⟩
  exact .inl ⟨⟨red, green, blue⟩, by rw [readRed, readGreen, readBlue]; rfl,
    spellsRed, spellsGreen, spellsBlue⟩

/-! ## Digits that are shown -/

/-- The channels of a colour. -/
def channels (color : Color) : List ℤ :=
  [color.red, color.green, color.blue]

/-- Every channel lies between zero and two hundred and fifty-five. -/
def IsProper (color : Color) : Prop :=
  ∀ channel ∈ color.channels, 0 ≤ channel ∧ channel ≤ 255

/-- Six hexadecimal digits behind their mark. -/
def IsHexadecimal (text : String) : Prop :=
  ∃ digits, text.toList = '0' :: 'x' :: digits ∧ digits.length = 6 ∧
    ∀ c ∈ digits, isHexDigit c = true

theorem hexadecimal_two {n : ℕ} (small : n < 256) :
    (hexadecimal 2 n).length = 2 ∧ ∀ c ∈ hexadecimal 2 n, isHexDigit c = true := by
  have table : ∀ n < 256, (hexadecimal 2 n).length = 2 ∧ (hexadecimal 2 n).all isHexDigit := by
    decide +kernel
  simpa using table n small

theorem toList_filterText (color : Color) :
    color.filterText.toList =
      '0' :: 'x' :: (color.channels.flatMap fun channel => (channelText channel).toList) := by
  simp [filterText, channels]

theorem channelText_of_nonneg {n : ℤ} (nonneg : 0 ≤ n) :
    (channelText n).toList = hexadecimal 2 n.natAbs := by
  rw [channelText, if_neg (not_lt.mpr nonneg), String.toList_ofList]

theorem minus_mem_channelText {n : ℤ} (negative : n < 0) : '-' ∈ (channelText n).toList := by
  rw [channelText, if_pos negative, String.toList_append]
  exact List.mem_append_left _ List.mem_cons_self

/-- A colour is shown by six digits exactly if no channel is negative. -/
theorem isHexadecimal_filterText_iff (bounded : ∀ channel ∈ color.channels, channel ≤ 255) :
    IsHexadecimal color.filterText ↔ color.IsProper := by
  constructor
  · rintro ⟨digits, shown, _, hexadecimal⟩ channel member
    refine ⟨?_, bounded channel member⟩
    -- the minus sign of a negative channel is no digit
    by_contra! negative
    rw [toList_filterText, List.cons.injEq, List.cons.injEq] at shown
    have shownMinus : '-' ∈ digits := by
      rw [← shown.2.2]
      exact List.mem_flatMap.mpr ⟨channel, member, minus_mem_channelText negative⟩
    cases hexadecimal '-' shownMinus
  · intro proper
    have small : ∀ channel ∈ color.channels, channel.natAbs < 256 := by
      intro channel member
      have := proper channel member
      omega
    have shown : ∀ channel ∈ color.channels,
        (channelText channel).toList = Text.hexadecimal 2 channel.natAbs :=
      fun channel member => channelText_of_nonneg (proper channel member).1
    refine ⟨_, toList_filterText color, ?_, ?_⟩
    · have two : ∀ channel ∈ color.channels, (channelText channel).toList.length = 2 :=
        fun channel member => by
          rw [shown channel member, (hexadecimal_two (small channel member)).1]
      rw [List.length_flatMap, List.map_congr_left two]
      rfl
    · intro c member
      obtain ⟨channel, isChannel, member⟩ := List.mem_flatMap.mp member
      rw [shown channel isChannel] at member
      exact (hexadecimal_two (small channel isChannel)).2 c member

/-! ## Texts that are resolved -/

/-- A colour within its bounds, or a fault of the input. -/
def IsSound (outcome : Result α Color) : Prop :=
  (∃ color, outcome = .ok color ∧ color.IsProper) ∨ ∃ cause, outcome = .error (.input cause)

/-- A text behind a number sign with a channel that spells no number, or a negative one. -/
def IsFaulty (text : String) : Prop :=
  text.toList.head? = some '#' ∧ ∃ place < 3, ∀ n, SpellsShort (pair place text) n → n < 0

/-- What comes of a text that is to be a colour. -/
structure Resolves (text : String) (outcome : Result α Color) : Prop where
  sound_iff : IsSound outcome ↔ ¬IsFaulty text
  /-- The texts that are refused in another way than for the input. -/
  unreadable_iff : outcome = .error (.number .unreadable) ↔
    text.toList.head? = some '#' ∧ ∃ place < 3, ∀ n, ¬SpellsShort (pair place text) n
  refused : ∀ fault, outcome = .error fault →
    fault = .number .unreadable ∨ fault = .input (.unknownColor text)
  spelled : ∀ color, outcome = .ok color →
    named.lookup text = some color ∨ color.SpelledBy text
  bounded : ∀ color, outcome = .ok color → ∀ channel ∈ color.channels,
    -15 ≤ channel ∧ channel ≤ 255
  shown_iff : ∀ color, outcome = .ok color → (IsHexadecimal color.filterText ↔ color.IsProper)

/-- The colours with names are proper, and no name begins with a number sign. -/
theorem named_proper : ∀ entry ∈ named,
    entry.2.IsProper ∧ entry.1.toList.head? ≠ some '#' := by
  have table : (named.all fun entry =>
      (entry.2.channels.all fun channel => 0 ≤ channel && channel ≤ 255) &&
        entry.1.toList.head? != some '#') = true := by
    decide +kernel
  intro entry member
  have proper := List.all_eq_true.mp table entry member
  simpa [IsProper] using proper

/-- A hexadecimal digit has a value. -/
theorem exists_digitIn?_of_isHexDigit {c : Char} (hexadecimal : isHexDigit c = true) :
    ∃ value, digitIn? 16 c = some value := by
  have table : ∀ n < 128, isHexDigit (Char.ofNat n) = true →
      (digitIn? 16 (Char.ofNat n)).isSome = true := by
    decide +kernel
  have ascii : c.toNat < 128 := by
    simp [isHexDigit, Char.isDigit, Char.le_def, UInt32.le_iff_toNat_le] at hexadecimal
    omega
  have read := table c.toNat ascii
  rw [Char.ofNat_toNat] at read
  exact Option.isSome_iff_exists.mp (read hexadecimal)

/-- Two hexadecimal digits spell a number that is not negative. -/
theorem exists_spellsShort_of_isHexDigit {digits : List Char} (two : digits.length = 2)
    (hexadecimal : ∀ c ∈ digits, isHexDigit c = true) : ∃ n, 0 ≤ n ∧ SpellsShort digits n := by
  obtain ⟨c, d, rfl⟩ := List.length_eq_two.mp two
  obtain ⟨high, readHigh⟩ := exists_digitIn?_of_isHexDigit (hexadecimal c (by simp))
  obtain ⟨low, readLow⟩ := exists_digitIn?_of_isHexDigit (hexadecimal d (by simp))
  exact ⟨_, by positivity, .digits readHigh readLow⟩

/-- The texts that are resolved: names, channels behind number signs, and six digits. -/
theorem ofText_cases (text : String) :
    (∃ color, named.lookup text = some color ∧ (ofText text : Result α Color) = .ok color) ∨
      (text.toList.head? = some '#' ∨ text.length = 6 ∧ ∀ c ∈ text.toList, isHexDigit c = true) ∧
        (ofText text : Result α Color) = liftM (ofHex text) ∨
      text.toList.head? ≠ some '#' ∧
        (ofText text : Result α Color) = .error (.input (.unknownColor text)) := by
  rw [ofText]
  cases listed : named.lookup text with
  | some color => exact .inl ⟨color, rfl, rfl⟩
  | none =>
      by_cases hexadecimal : looksHex text = true
      · refine .inr (.inl ⟨?_, if_pos hexadecimal⟩)
        simpa [looksHex] using hexadecimal
      · refine .inr (.inr ⟨?_, if_neg hexadecimal⟩)
        intro marked
        simp [looksHex, marked] at hexadecimal

/-- Every channel is spelled at one of the three places. -/
theorem SpelledBy.exists_place (spelled : color.SpelledBy text) {channel : ℤ}
    (member : channel ∈ color.channels) : ∃ place < 3, SpellsShort (pair place text) channel := by
  simp only [channels, List.mem_cons, List.not_mem_nil, or_false] at member
  rcases member with rfl | rfl | rfl
  · exact ⟨0, by omega, spelled.red⟩
  · exact ⟨1, by omega, spelled.green⟩
  · exact ⟨2, by omega, spelled.blue⟩

theorem SpelledBy.exists_channel (spelled : color.SpelledBy text) {place : ℕ} (small : place < 3) :
    ∃ channel ∈ color.channels, SpellsShort (pair place text) channel := by
  match place, small with
  | 0, _ => exact ⟨color.red, by simp [channels], spelled.red⟩
  | 1, _ => exact ⟨color.green, by simp [channels], spelled.green⟩
  | 2, _ => exact ⟨color.blue, by simp [channels], spelled.blue⟩

/-- A colour whose channels are spelled is proper unless one of them is negative. -/
theorem SpelledBy.isProper_iff (spelled : color.SpelledBy text) :
    color.IsProper ↔ ∀ place < 3, ∃ n, 0 ≤ n ∧ SpellsShort (pair place text) n := by
  constructor
  · intro proper place small
    obtain ⟨channel, member, spells⟩ := spelled.exists_channel small
    exact ⟨channel, (proper channel member).1, spells⟩
  · intro nonneg channel member
    obtain ⟨place, small, spells⟩ := spelled.exists_place member
    obtain ⟨n, notNegative, spellsToo⟩ := nonneg place small
    exact ⟨spellsToo.unique spells ▸ notNegative, spells.bounds.2⟩

theorem resolves_unknown (unmarked : text.toList.head? ≠ some '#') :
    Resolves text (.error (.input (.unknownColor text)) : Result α Color) where
  sound_iff := ⟨fun _ faulty => unmarked faulty.1, fun _ => .inr ⟨_, rfl⟩⟩
  unreadable_iff := ⟨nofun, fun marked => (unmarked marked.1).elim⟩
  refused := by
    rintro fault ⟨⟩
    exact .inr rfl
  spelled := nofun
  bounded := nofun
  shown_iff := nofun

theorem resolves_unreadable {place : ℕ} (marked : text.toList.head? = some '#')
    (small : place < 3) (unspelled : ∀ n, ¬SpellsShort (pair place text) n) :
    Resolves text (.error (.number .unreadable) : Result α Color) where
  sound_iff := by
    refine ⟨?_, fun sound => ?_⟩
    · rintro (⟨_, resolved, _⟩ | ⟨_, refused⟩)
      · cases resolved
      · cases refused
    · exact (sound ⟨marked, place, small, fun n spells => (unspelled n spells).elim⟩).elim
  unreadable_iff := ⟨fun _ => ⟨marked, place, small, unspelled⟩, fun _ => rfl⟩
  refused := by
    rintro fault ⟨⟩
    exact .inl rfl
  spelled := nofun
  bounded := nofun
  shown_iff := nofun

theorem resolves_named (listed : named.lookup text = some color) :
    Resolves text (.ok color : Result α Color) := by
  obtain ⟨before, after, split, -⟩ := List.lookup_eq_some_iff.mp listed
  obtain ⟨proper, unmarked⟩ := named_proper (text, color) (by simp [split])
  exact {
    sound_iff := ⟨fun _ faulty => unmarked faulty.1, fun _ => .inl ⟨color, rfl, proper⟩⟩
    unreadable_iff := ⟨nofun, fun marked => (unmarked marked.1).elim⟩
    refused := nofun
    spelled := by
      rintro found ⟨⟩
      exact .inl listed
    bounded := by
      rintro found ⟨⟩ channel member
      have := proper channel member
      omega
    shown_iff := by
      rintro found ⟨⟩
      exact isHexadecimal_filterText_iff fun channel member => (proper channel member).2 }

theorem resolves_spelled (spelled : color.SpelledBy text)
    (hexadecimal : text.toList.head? ≠ some '#' →
      ∀ place < 3, ∃ n, 0 ≤ n ∧ SpellsShort (pair place text) n) :
    Resolves text (.ok color : Result α Color) where
  sound_iff := by
    have proper_iff : color.IsProper ↔ ¬IsFaulty text := by
      rw [spelled.isProper_iff, IsFaulty]
      push Not
      refine ⟨fun nonneg _ place small => ?_, fun nonneg => ?_⟩
      · obtain ⟨n, notNegative, spells⟩ := nonneg place small
        exact ⟨n, spells, notNegative⟩
      · by_cases marked : text.toList.head? = some '#'
        · intro place small
          obtain ⟨n, spells, notNegative⟩ := nonneg marked place small
          exact ⟨n, notNegative, spells⟩
        · exact hexadecimal marked
    rw [← proper_iff]
    refine ⟨?_, fun proper => .inl ⟨color, rfl, proper⟩⟩
    rintro (⟨found, ⟨⟩, proper⟩ | ⟨_, ⟨⟩⟩)
    exact proper
  unreadable_iff := by
    refine ⟨nofun, fun ⟨_, place, small, unspelled⟩ => ?_⟩
    obtain ⟨channel, _, spells⟩ := spelled.exists_channel small
    exact (unspelled channel spells).elim
  refused := nofun
  spelled := by
    rintro found ⟨⟩
    exact .inr spelled
  bounded := by
    rintro found ⟨⟩ channel member
    obtain ⟨place, _, spells⟩ := spelled.exists_place member
    exact spells.bounds
  shown_iff := by
    rintro found ⟨⟩
    refine isHexadecimal_filterText_iff fun channel member => ?_
    obtain ⟨place, _, spells⟩ := spelled.exists_place member
    exact spells.bounds.2

/-- In six hexadecimal digits every place spells a number that is not negative. -/
theorem exists_spellsShort_of_six (six : text.length = 6)
    (hexadecimal : ∀ c ∈ text.toList, isHexDigit c = true) :
    ∀ place < 3, ∃ n, 0 ≤ n ∧ SpellsShort (pair place text) n := by
  intro place small
  have length : text.toList.length = 6 := by rw [String.length_toList, six]
  have unmarked : text.toList.dropWhile (· == '#') = text.toList := by
    rw [List.dropWhile_eq_self_iff]
    intro nonempty mark
    have := hexadecimal _ (List.getElem_mem nonempty)
    rw [beq_iff_eq.mp mark] at this
    cases this
  apply exists_spellsShort_of_isHexDigit
  · rw [pair, unmarked, List.length_take, List.length_drop, length]
    omega
  · intro c member
    rw [pair, unmarked] at member
    exact hexadecimal c (List.mem_of_mem_drop (List.mem_of_mem_take member))

/-- What comes of every text. -/
theorem resolves (text : String) : Resolves text (ofText text : Result α Color) := by
  rcases ofText_cases (α := α) text with ⟨color, listed, resolved⟩ | ⟨looksHex, resolved⟩ |
    ⟨unmarked, refused⟩
  · rw [resolved]
    exact resolves_named listed
  · rw [resolved]
    have digits : text.toList.head? ≠ some '#' →
        ∀ place < 3, ∃ n, 0 ≤ n ∧ SpellsShort (pair place text) n := by
      intro unmarked
      obtain ⟨six, hexadecimal⟩ := looksHex.resolve_left unmarked
      exact exists_spellsShort_of_six six hexadecimal
    rcases ofHex_cases text with ⟨color, read, spelled⟩ | ⟨unread, place, small, unspelled⟩
    · rw [read]
      exact resolves_spelled spelled digits
    · rw [unread]
      refine resolves_unreadable ?_ small unspelled
      by_contra unmarked
      obtain ⟨n, _, spells⟩ := digits unmarked place small
      exact unspelled n spells
  · rw [refused]
    exact resolves_unknown unmarked

end Color

/-! ## The canvas of a template -/

section Canvas

variable {α : Type} [Scalar α] {template : Template α} {plan : Plan α}

/-- A size that is read has a background that has been resolved. -/
theorem exists_color_of_readSize {clips : List (Clip α)} {value : Value α} {size : SizeSpec α}
    (read : Template.readSize clips value = .ok size) :
    ∃ color, (Color.ofText size.backgroundColor : Result α Color) = .ok color := by
  simp only [Template.readSize, Result.bind_eq_ok_iff] at read
  rcases read with ⟨entries, _, relativeTo, _, color, resolved, rest⟩
  have kept : size.backgroundColor = (Template.setOr "black"
      (Value.lookup? "background_color" entries)).toText := by
    split at rest
    · obtain ⟨_, _, rest⟩ := Result.bind_eq_ok_iff.mp rest
      obtain ⟨_, rest⟩ := Result.refused_eq_ok_iff.mp rest
      obtain ⟨_, _, rest⟩ := Result.bind_eq_ok_iff.mp rest
      obtain ⟨_, rest⟩ := Result.refused_eq_ok_iff.mp rest
      cases rest
      rfl
    · cases rest
      rfl
  refine ⟨color, ?_⟩
  rw [kept]
  cases background : Template.setOr "black" (Value.lookup? "background_color" entries) with
  | text text =>
      rw [background] at resolved
      exact resolved
  | _ =>
      rw [background] at resolved
      cases resolved

namespace Plan

variable [Analytic α] {infos : MediaMap α} {canvas : Option Extent}

/-- A plan keeps the colour of the background. -/
theorem backgroundColor_of_compile (compiled : compile template infos canvas = .ok plan) :
    plan.backgroundColor = template.size.backgroundColor := by
  obtain ⟨extent, compiledOn⟩ := exists_canvas_of_compile compiled
  simp only [compileOn, Result.bind_eq_ok_iff, Result.pure_eq_ok_iff] at compiledOn
  rcases compiledOn with ⟨_, _, _, _, _, _, _, _, _, _, _, _, rfl⟩
  rfl

end Plan

namespace Color

/-- The colour of a template's canvas, and how it is shown. -/
structure Paints [Analytic α] (template : Template α) (color : Color) : Prop where
  resolved : (ofText template.size.backgroundColor : Result α Color) = .ok color
  shown_iff : IsHexadecimal color.filterText ↔ ¬IsFaulty template.size.backgroundColor
  /-- The canvas of a command for the template has the colour as its first argument. -/
  filters : ∀ infos canvas plan duration chain,
    Plan.compile template infos canvas = .ok plan →
      Command.canvasChain plan duration = .ok chain →
        ∃ rest, chain.filters.map Filter.text = ["color=c=" ++ color.filterText ++ rest]

theorem text_canvas (color : Color) (size : Extent) (duration : Option α) :
    ∃ rest, Filter.text (.canvas color size duration) = "color=c=" ++ color.filterText ++ rest := by
  have opening : "color=c=" = "color" ++ "=" ++ "c=" := by decide
  cases duration with
  | none =>
      refine ⟨":s=" ++ toString size.width ++ "x" ++ toString size.height, ?_⟩
      change "color" ++ "=" ++ ("c=" ++ color.filterText ++ ":s=" ++ toString size.width ++ "x" ++
        toString size.height) = _
      simp only [opening, String.append_assoc]
  | some duration =>
      refine ⟨":s=" ++ toString size.width ++ "x" ++ toString size.height ++ ":d=" ++
        Scalar.compact duration, ?_⟩
      change "color" ++ "=" ++ ("c=" ++ color.filterText ++ ":s=" ++ toString size.width ++ "x" ++
        toString size.height ++ ":d=" ++ Scalar.compact duration) = _
      simp only [opening, String.append_assoc]

/-- A template that is read has a colour for its canvas. -/
theorem exists_paints [Analytic α] {directory : Path} {source : Value α}
    (accepted : Template.read directory source = .ok template) :
    ∃ color, Paints template color := by
  obtain ⟨color, resolved⟩ := exists_color_of_readSize (Template.parts_of_read accepted).2.1
  have outcome := resolves (α := α) template.size.backgroundColor
  rw [resolved] at outcome
  refine ⟨color, resolved, ?_, ?_⟩
  · rw [outcome.shown_iff color rfl, ← outcome.sound_iff]
    refine ⟨fun proper => .inl ⟨color, rfl, proper⟩, ?_⟩
    rintro (⟨found, ⟨⟩, proper⟩ | ⟨_, ⟨⟩⟩)
    exact proper
  · intro infos canvas plan duration chain compiled made
    rw [Command.canvasChain, Plan.backgroundColor_of_compile compiled, resolved] at made
    simp only [Result.ok_bind, Result.bind_eq_ok_iff, Result.pure_eq_ok_iff] at made
    rcases made with ⟨shown, _, rfl⟩
    obtain ⟨rest, text⟩ := text_canvas color plan.background shown
    exact ⟨rest, by rw [List.map_singleton, text]⟩

/-- Every text is resolved to proper channels or refused as input unless it is faulty, and the
canvas of a template is shown in six hexadecimal digits exactly if its colour is not. -/
theorem hexadecimal_unless_faulty [Analytic α] :
    (∀ text, Resolves text (ofText text : Result α Color)) ∧
      ∀ directory source (template : Template α),
        Template.read directory source = .ok template → ∃ color, Paints template color :=
  ⟨resolves, fun _ _ _ => exists_paints⟩

end Color

end Canvas

namespace Color

open Text

/-- A template with one file on a canvas of the given colour. -/
def paintedSource (background : String) : Value ℚ :=
  .map [
    (.text "clips", .list [.map [(.text "id", .text "A"), (.text "file", .text "a.mp4")]]),
    (.text "size", .map [(.text "background_color", .text background)])]

/-- The template that is read from it if the colour is none. -/
def paintedTemplate (background : String) : Template ℚ where
  clips := [.plain "A" "/a.mp4"]
  size := ⟨.text "100%", .text "100%", some "A", background⟩
  timeline := [(.text "00:00:00", [⟨["A"], 0⟩])]
  preview := .text "00:00:00"
  keypoints := []
  directory := ⟨"/", []⟩

theorem read_paintedSource :
    Template.read ⟨"/", []⟩ (paintedSource "#12-30f") = .ok (paintedTemplate "#12-30f") := by
  with_unfolding_all rfl

theorem isFaulty_signed : IsFaulty "#12-30f" := by
  refine ⟨rfl, 1, by omega, fun n spells => ?_⟩
  have signed : SpellsShort (pair 1 "#12-30f") (-(3 : ℕ)) := by
    have digit : digitIn? 16 '3' = some 3 := by decide
    exact .minus digit
  rw [spells.unique signed]
  decide

/-- A template whose colour has a minus sign for a digit is read, and its canvas shown with it. -/
theorem paints_paintedTemplate :
    Template.read ⟨"/", []⟩ (paintedSource "#12-30f") = .ok (paintedTemplate "#12-30f") ∧
      ∀ _ : Analytic ℚ, ∃ color, Paints (paintedTemplate "#12-30f") color ∧
        ¬IsHexadecimal color.filterText := by
  refine ⟨read_paintedSource, fun _ => ?_⟩
  obtain ⟨color, paints⟩ := hexadecimal_unless_faulty.2 _ _ _ read_paintedSource
  exact ⟨color, paints, fun hexadecimal => paints.shown_iff.mp hexadecimal isFaulty_signed⟩

/-- Behind a number sign, letters that are no digits end in a fault of numbers, and minus signs
are channels. -/
theorem not_isSound_marked :
    (ofText "#GG0000" : Result ℚ Color) = .error (.number .unreadable) ∧
      ¬IsSound (ofText "#GG0000" : Result ℚ Color) ∧
      (ofText "#-1-1-1" : Result ℚ Color) = .ok ⟨-1, -1, -1⟩ ∧
      ¬IsSound (ofText "#-1-1-1" : Result ℚ Color) ∧
      filterText ⟨-1, -1, -1⟩ = "0x-1-1-1" := by
  have unread : (ofText "#GG0000" : Result ℚ Color) = .error (.number .unreadable) := by
    with_unfolding_all rfl
  have signed : (ofText "#-1-1-1" : Result ℚ Color) = .ok ⟨-1, -1, -1⟩ := by
    with_unfolding_all rfl
  refine ⟨unread, ?_, signed, ?_, by decide +kernel⟩
  · rw [unread]
    rintro (⟨_, ⟨⟩, _⟩ | ⟨_, ⟨⟩⟩)
  · rw [signed]
    rintro (⟨_, ⟨⟩, proper⟩ | ⟨_, ⟨⟩⟩)
    exact absurd (proper (-1) List.mem_cons_self).1 (by decide)

end Color

end Montage
