import Mathlib
import Montage.Text.ShellWord.Grammar

/-!
# Scripts read back

Every word of a line is read up to its end and not further, so a line is read as no other
words than those that the grammar gives it.  An argument that is quoted is one word, and it
stands for the argument: a single quote in it ends the part between single quotes, and a
part between double quotes and another one between single quotes follow.  Words are joined
by a blank and a continued line, which divide them.
-/

namespace Montage.ShellWord

variable {text rest word more begun : List Char} {words finished : List (List Char)} {c : Char}

/-! ## Reading characters -/

theorem splitFrom_double_cons (unescaped : c ≠ '\\') :
    splitFrom (c :: rest) .double begun finished =
      if c == doubleMark then splitFrom rest .bare begun finished
      else if c == '$' || c == '\x60' || c == '\\' then none
      else splitFrom rest .double (c :: begun) finished :=
  splitFrom.eq_7 _ _ _ _ fun _ _ same _ => unescaped same

theorem splitFrom_between_cons (unescaped : c ≠ '\\') :
    splitFrom (c :: rest) .between begun finished =
      if c == ' ' || c == '\t' then splitFrom rest .between [] finished
      else if c == '\n' then if rest.isEmpty then some finished.reverse else none
      else if c == quoteMark then splitFrom rest .single [] finished
      else if c == doubleMark then splitFrom rest .double [] finished
      else if c == '\\' || isSpecial c then none
      else splitFrom rest .bare [c] finished :=
  splitFrom.eq_9 _ _ _ _ fun _ _ same _ => unescaped same

theorem splitFrom_bare_cons (unescaped : c ≠ '\\') :
    splitFrom (c :: rest) .bare begun finished =
      if c == ' ' || c == '\t' then splitFrom rest .between [] (begun.reverse :: finished)
      else if c == '\n' then
        if rest.isEmpty then some (begun.reverse :: finished).reverse else none
      else if c == quoteMark then splitFrom rest .single begun finished
      else if c == doubleMark then splitFrom rest .double begun finished
      else if c == '\\' || isSpecial c then none
      else splitFrom rest .bare (c :: begun) finished :=
  splitFrom.eq_11 _ _ _ _ fun _ _ same _ => unescaped same

/-- A backslash is read together with the character behind it. -/
theorem splitFrom_double_escape :
    splitFrom ('\\' :: c :: rest) .double begun finished =
      if c == '\n' then splitFrom rest .double begun finished
      else if c == '\\' || c == doubleMark || c == '$' || c == '\x60' then
        splitFrom rest .double (c :: begun) finished
      else splitFrom rest .double (c :: '\\' :: begun) finished :=
  rfl

theorem splitFrom_between_escape :
    splitFrom ('\\' :: c :: rest) .between begun finished =
      if c == '\n' then splitFrom rest .between begun finished
      else splitFrom rest .bare [c] finished :=
  rfl

theorem splitFrom_bare_escape :
    splitFrom ('\\' :: c :: rest) .bare begun finished =
      if c == '\n' then splitFrom rest .bare begun finished
      else splitFrom rest .bare (c :: begun) finished :=
  rfl

theorem splitFrom_single_cons :
    splitFrom (c :: rest) .single begun finished =
      if c == quoteMark then splitFrom rest .bare begun finished
      else splitFrom rest .single (c :: begun) finished :=
  rfl

theorem splitFrom_between_nil : splitFrom [] .between begun finished = some finished.reverse :=
  rfl

/-! ## Reading words -/

/-- What stands between double quotes is read up to the closing quote. -/
theorem splitFrom_inside (inside : Inside text word) :
    splitFrom (text ++ doubleMark :: rest) .double begun finished =
      splitFrom rest .bare (word.reverse ++ begun) finished := by
  induction inside generalizing begun with
  | nil => rfl
  | @plain c text word inactive behind ih =>
      simp only [isActive, Bool.or_eq_false_iff, beq_eq_false_iff_ne] at inactive
      obtain ⟨⟨⟨backslash, mark⟩, dollar⟩, tick⟩ := inactive
      rw [List.cons_append, splitFrom_double_cons backslash]
      simp [backslash, mark, dollar, tick, ih]
  | continued behind ih =>
      rw [List.cons_append, List.cons_append, splitFrom_double_escape,
        if_pos (beq_self_eq_true '\n')]
      exact ih
  | @escaped c text word active behind ih =>
      have onLine : c ≠ '\n' := by
        rintro rfl
        cases active
      rw [isActive] at active
      rw [List.cons_append, List.cons_append, splitFrom_double_escape,
        if_neg (by simpa using onLine), if_pos active, ih, List.reverse_cons, List.append_assoc,
        List.singleton_append]
  | @kept c text word inactive onLine behind ih =>
      rw [isActive] at inactive
      rw [List.cons_append, List.cons_append, splitFrom_double_escape,
        if_neg (by simpa using onLine), if_neg (by simp [inactive]), ih]
      simp

/-- What stands between single quotes is read up to the closing quote. -/
theorem splitFrom_single (closed : quoteMark ∉ text) :
    splitFrom (text ++ quoteMark :: rest) .single begun finished =
      splitFrom rest .bare (text.reverse ++ begun) finished := by
  induction text generalizing begun with
  | nil => rfl
  | cons c text ih =>
      rw [List.mem_cons, not_or] at closed
      have differs : ¬(c == quoteMark) = true := by simpa using Ne.symm closed.1
      rw [List.cons_append, splitFrom_single_cons, if_neg differs, ih closed.2,
        List.reverse_cons, List.append_assoc, List.singleton_append]

/-- A bare character is none of those that are more than themselves outside quotes. -/
theorem isBare_iff :
    isBare c = true ↔ (c ≠ ' ' ∧ c ≠ '\t') ∧ c ≠ '\n' ∧ c ≠ quoteMark ∧ c ≠ doubleMark ∧
      c ≠ '\\' ∧ isSpecial c = false := by
  simp [isBare, isBlank, and_assoc]

/-- A part of a word goes on with the word. -/
theorem Part.splitFrom_bare (part : Part text word) :
    splitFrom (text ++ rest) .bare begun finished =
      splitFrom rest .bare (word.reverse ++ begun) finished := by
  cases part with
  | @bare c bare =>
      obtain ⟨⟨space, tab⟩, feed, single, double, backslash, plain⟩ := isBare_iff.mp bare
      rw [List.singleton_append, splitFrom_bare_cons backslash]
      simp [space, tab, feed, single, double, backslash, plain]
  | @escaped c onLine =>
      rw [List.cons_append, List.singleton_append, splitFrom_bare_escape,
        if_neg (by simpa using onLine)]
      rfl
  | single closed =>
      rw [List.cons_append, List.cons_append, List.append_assoc, List.singleton_append]
      exact splitFrom_single closed
  | double inside =>
      rw [List.cons_append, List.cons_append, List.append_assoc, List.singleton_append]
      exact splitFrom_inside inside

/-- Where a part of a word comes between words, it begins one. -/
theorem Part.splitFrom_between (part : Part text word) :
    splitFrom (text ++ rest) .between begun finished = splitFrom (text ++ rest) .bare [] finished := by
  cases part with
  | @bare c bare =>
      obtain ⟨⟨space, tab⟩, feed, single, double, backslash, plain⟩ := isBare_iff.mp bare
      rw [List.singleton_append, splitFrom_between_cons backslash, splitFrom_bare_cons backslash]
      simp [space, tab, feed, single, double, backslash, plain]
  | @escaped c onLine =>
      have differs : ¬(c == '\n') = true := by simpa using onLine
      rw [List.cons_append, List.singleton_append, splitFrom_between_escape,
        splitFrom_bare_escape, if_neg differs, if_neg differs]
  | single closed => rfl
  | double inside => rfl

theorem Parts.splitFrom_bare (parts : Parts text word) :
    splitFrom (text ++ rest) .bare begun finished =
      splitFrom rest .bare (word.reverse ++ begun) finished := by
  induction parts generalizing begun with
  | nil => rfl
  | continued behind ih =>
      rw [List.cons_append, List.cons_append, splitFrom_bare_escape,
        if_pos (beq_self_eq_true '\n')]
      exact ih
  | part part behind ih =>
      rw [List.append_assoc, part.splitFrom_bare, ih, List.reverse_append, List.append_assoc]

/-- A word between words is read from its first part on. -/
theorem IsWord.splitFrom_between (isWord : IsWord text word) :
    splitFrom (text ++ rest) .between begun finished =
      splitFrom rest .bare word.reverse finished := by
  obtain ⟨part, behind⟩ := isWord
  rw [List.append_assoc, part.splitFrom_between, part.splitFrom_bare, behind.splitFrom_bare,
    List.append_nil, List.reverse_append]

/-- A word is finished where it ends. -/
theorem splitFrom_of_endsWord (ends : EndsWord rest) :
    splitFrom rest .bare begun finished =
      splitFrom rest .between [] (begun.reverse :: finished) := by
  cases rest with
  | nil => rfl
  | cons c rest =>
      have split : isBlank c = true ∨ c = '\n' := ends c rfl
      have unescaped : c ≠ '\\' := by
        rintro rfl
        revert split
        decide
      rw [splitFrom_between_cons unescaped, splitFrom_bare_cons unescaped]
      rcases split with blank | rfl
      · rw [isBlank] at blank
        rw [if_pos blank, if_pos blank]
      · rfl

/-! ## Reading lines -/

/-- A line is read as its words. -/
theorem Line.splitFrom_between (line : Line text words) :
    splitFrom text .between begun finished = some (finished.reverse ++ words) := by
  induction line generalizing begun finished with
  | nil => rw [splitFrom_between_nil, List.append_nil]
  | ended => exact congrArg some (List.append_nil _).symm
  | @blank c text words blank behind ih =>
      have unescaped : c ≠ '\\' := by
        rintro rfl
        cases blank
      rw [isBlank] at blank
      rw [splitFrom_between_cons unescaped, if_pos blank]
      exact ih
  | continued behind ih =>
      rw [splitFrom_between_escape, if_pos (beq_self_eq_true '\n')]
      exact ih
  | word isWord ends behind ih =>
      rw [isWord.splitFrom_between, splitFrom_of_endsWord ends, ih, List.reverse_reverse,
        List.reverse_cons, List.append_assoc, List.singleton_append]

/-- What a shell reads as words is split into them. -/
theorem split_of_reads {line : String} {words : List String} (reads : Reads line words) :
    split line = some words := by
  rw [split, reads.splitFrom_between]
  simp [Function.comp_def]

/-! ## Quoting -/

/-- A character that needs no quoting is bare. -/
theorem isBare_of_isSafe (safe : isSafe c = true) : isBare c = true := by
  have ne_of_quoted {d : Char} (quoted : isSafe d = false) : c ≠ d := by
    rintro rfl
    rw [quoted] at safe
    cases safe
  have plain : isSpecial c = false := by
    by_contra special
    rw [Bool.not_eq_false, isSpecial, List.contains_iff_mem] at special
    have quoted : ("|&;<>()$*?[#~!\x60\x7b\x7d".toList.all fun d => !isSafe d) = true := by
      decide +kernel
    have needsQuotes := List.all_eq_true.mp quoted c special
    rw [safe] at needsQuotes
    cases needsQuotes
  rw [isBare_iff]
  exact ⟨⟨ne_of_quoted (by decide +kernel), ne_of_quoted (by decide +kernel)⟩,
    ne_of_quoted (by decide +kernel), ne_of_quoted (by decide +kernel),
    ne_of_quoted (by decide +kernel), ne_of_quoted (by decide +kernel), plain⟩

/-- Bare characters are parts of a word, and stand for themselves. -/
theorem parts_of_forall_isBare (bare : ∀ c ∈ text, isBare c = true) : Parts text text := by
  induction text with
  | nil => exact .nil
  | cons c text ih =>
      rw [List.forall_mem_cons] at bare
      exact .part (.bare bare.1) (ih bare.2)

theorem IsWord.parts_of (isWord : IsWord text word) : Parts text word := by
  obtain ⟨part, behind⟩ := isWord
  exact .part part behind

/-- An argument between single quotes is a word, whatever quotes it has: `quoted` is what
stands in front of it between the same quotes. -/
theorem isWord_between {quoted argument : List Char} (closed : quoteMark ∉ quoted) :
    IsWord (quoteMark :: (quoted ++ argument.flatMap quoteInside) ++ [quoteMark])
      (quoted ++ argument) := by
  induction argument generalizing quoted with
  | nil =>
      rw [List.flatMap_nil, List.append_nil]
      simpa using IsWord.parts (.single closed) .nil
  | cons c argument ih =>
      by_cases mark : c = quoteMark
      · subst mark
        have inside : Inside [quoteMark] [quoteMark] := .plain rfl .nil
        have behind := IsWord.parts (.single closed)
          (.part (.double inside) (ih List.not_mem_nil).parts_of)
        simpa [quoteInside] using behind
      · have goesOn : quoteMark ∉ quoted ++ [c] := by
          simp [closed, Ne.symm mark]
        simpa [quoteInside, mark] using ih goesOn

/-- An argument that is quoted is one word, which stands for it. -/
theorem isWord_quoteCharacters (argument : List Char) :
    IsWord (quoteCharacters argument) argument := by
  rw [quoteCharacters]
  split
  · rename_i plain
    cases argument with
    | nil => cases plain
    | cons c argument =>
        simp only [List.isEmpty_cons, Bool.not_false, Bool.true_and, List.all_cons,
          Bool.and_eq_true, List.all_eq_true] at plain
        have behind := parts_of_forall_isBare fun c member => isBare_of_isSafe (plain.2 c member)
        exact .parts (.bare (isBare_of_isSafe plain.1)) behind
  · exact isWord_between List.not_mem_nil

/-! ## Scripts -/

/-- Words that are joined by a blank and a continued line are the words of a line. -/
theorem line_intercalate (arguments : List (List Char)) :
    Line ((" \\\n  ".toList).intercalate (arguments.map quoteCharacters) ++ ['\n']) arguments := by
  induction arguments with
  | nil => exact .ended
  | cons argument arguments ih =>
      have isWord := isWord_quoteCharacters argument
      cases arguments with
      | nil =>
          have ends : EndsWord ['\n'] := by
            rintro _ ⟨⟩
            exact .inr rfl
          simpa using Line.word isWord ends .ended
      | cons next arguments =>
          have ends (behind : List Char) : EndsWord (' ' :: behind) := by
            rintro _ ⟨⟩
            exact .inl rfl
          -- the blank ends the word, and the margin of the continued line is blank as well
          have space : isBlank ' ' = true := rfl
          have margin := Line.blank space (.continued (.blank space (.blank space ih)))
          simpa using Line.word isWord (ends _) margin

theorem reads_scriptBody (arguments : List String) : Reads (scriptBody arguments) arguments := by
  have line := line_intercalate (arguments.map String.toList)
  rw [Reads, scriptBody, String.toList_append, String.toList_intercalate, List.map_map]
  simpa [Function.comp_def, quote] using line

/-- The body of a script is read as the arguments that the script is made of, and as nothing
else. -/
theorem reads_script_iff (arguments : List String) :
    ∃ body, script arguments = "#!/bin/sh\n" ++ body ∧ split body = some arguments ∧
      ∀ words, Reads body words ↔ words = arguments := by
  have reads : Reads (scriptBody arguments) arguments := reads_scriptBody arguments
  have splits : split (scriptBody arguments) = some arguments := split_of_reads reads
  refine ⟨scriptBody arguments, rfl, splits, fun words => ?_⟩
  constructor
  · intro others
    exact Option.some.inj ((split_of_reads others).symm.trans splits)
  · rintro rfl
    exact reads

end Montage.ShellWord
