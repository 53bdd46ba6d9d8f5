import Mathlib
import Montage.Command.Graph

/-!
# Labels tell streams apart

The encoder knows a stream by its name in brackets only.  The letters of a name tell
what kind of stream it is and the digits which input it belongs to, so no two streams
share a name, and counting names is counting streams.
-/

namespace Montage

/-! ## Letters and digits of a name -/

/-- All of a text but its digits. -/
def withoutDigits (text : String) : List Char :=
  text.toList.filter fun c => !c.isDigit

/-- The digits of a text. -/
def digitsOnly (text : String) : List Char :=
  text.toList.filter Char.isDigit

private theorem isDigit_of_mem_digits {n : ℕ} {c : Char} (member : c ∈ Nat.toDigits 10 n) :
    c.isDigit = true :=
  Nat.isDigit_of_mem_toDigits (by decide) (by decide) member

/-- A number in a text has no part in its letters. -/
theorem withoutDigits_numbered (front back : String) (n : ℕ) :
    withoutDigits (front ++ toString n ++ back) = withoutDigits front ++ withoutDigits back := by
  have noLetters : (Nat.toDigits 10 n).filter (fun c => !c.isDigit) = [] :=
    List.filter_eq_nil_iff.mpr fun c member => by simp [isDigit_of_mem_digits member]
  simp only [withoutDigits, String.toList_append, List.filter_append, Nat.toString_eq_repr,
    Nat.toList_repr, noLetters, List.append_nil]

/-- A number in a text without other digits is all of its digits. -/
theorem digitsOnly_numbered (front back : String) (n : ℕ) (frontPlain : digitsOnly front = [])
    (backPlain : digitsOnly back = []) :
    digitsOnly (front ++ toString n ++ back) = Nat.toDigits 10 n := by
  have allDigits : (Nat.toDigits 10 n).filter Char.isDigit = Nat.toDigits 10 n :=
    List.filter_eq_self.mpr fun _ => isDigit_of_mem_digits
  rw [digitsOnly] at frontPlain backPlain
  simp only [digitsOnly, String.toList_append, List.filter_append, Nat.toString_eq_repr,
    Nat.toList_repr, frontPlain, backPlain, allDigits, List.nil_append, List.append_nil]

namespace Feed

/-- The letters that name a kind of stream. -/
def letters : Feed → List Char
  | inputPicture _ => ['[', ':', 'v', ']']
  | inputSound _ => ['[', ':', 'a', ']']
  | link .base => ['[', 'b', 'a', 's', 'e', ']']
  | link (.picture _) => ['[', 'v', ']']
  | link (.stack _) => ['[', 'o', ']']
  | link (.sound _) => ['[', 'a', ']']
  | link .mixed => ['[', 'a', 'o', 'u', 't', ']']

/-- The input that a stream belongs to, if it belongs to one. -/
def input? : Feed → Option ℕ
  | inputPicture input | inputSound input => some input
  | link (.picture input) | link (.stack input) | link (.sound input) => some input
  | link .base | link .mixed => none

theorem withoutDigits_label (feed : Feed) : withoutDigits feed.label = feed.letters := by
  rcases feed with input | input | (_ | input | input | input | _)
  · exact (withoutDigits_numbered "[" ":v]" input).trans rfl
  · exact (withoutDigits_numbered "[" ":a]" input).trans rfl
  · decide
  · exact (withoutDigits_numbered "[v" "]" input).trans rfl
  · exact (withoutDigits_numbered "[o" "]" input).trans rfl
  · exact (withoutDigits_numbered "[a" "]" input).trans rfl
  · decide

theorem digitsOnly_label (feed : Feed) :
    digitsOnly feed.label = feed.input?.elim [] (Nat.toDigits 10) := by
  rcases feed with input | input | (_ | input | input | input | _)
  · exact digitsOnly_numbered "[" ":v]" input (by decide) (by decide)
  · exact digitsOnly_numbered "[" ":a]" input (by decide) (by decide)
  · decide
  · exact digitsOnly_numbered "[v" "]" input (by decide) (by decide)
  · exact digitsOnly_numbered "[o" "]" input (by decide) (by decide)
  · exact digitsOnly_numbered "[a" "]" input (by decide) (by decide)
  · decide

/-- The digits of a name say which input it belongs to, and whether it belongs to one. -/
theorem input?_eq_of_digits {first second : Feed}
    (same : digitsOnly first.label = digitsOnly second.label) : first.input? = second.input? := by
  rw [digitsOnly_label, digitsOnly_label] at same
  cases firstInput : first.input? with
  | none =>
      cases secondInput : second.input? with
      | none => rfl
      | some n =>
          rw [firstInput, secondInput] at same
          exact absurd same.symm Nat.toDigits_ne_nil
  | some m =>
      cases secondInput : second.input? with
      | none =>
          rw [firstInput, secondInput] at same
          exact absurd same Nat.toDigits_ne_nil
      | some n =>
          rw [firstInput, secondInput] at same
          simpa using congrArg (Nat.ofDigitChars 10 · 0) same

/-- No two streams have the same name. -/
theorem label_injective : Function.Injective label := by
  intro first second same
  have sameLetters : first.letters = second.letters := by
    rw [← withoutDigits_label, ← withoutDigits_label, same]
  have sameInput : first.input? = second.input? :=
    input?_eq_of_digits (congrArg digitsOnly same)
  rcases first with m | m | (_ | m | m | m | _) <;>
    rcases second with n | n | (_ | n | n | n | _) <;>
    simp_all [letters, input?]

end Feed

theorem Link.label_injective : Function.Injective Link.label :=
  fun _ _ same => Feed.link.inj (Feed.label_injective same)

end Montage
