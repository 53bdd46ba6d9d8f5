import Montage.Proofs.Rational
import Montage.Proofs.Text.Split
import Montage.TextImage.Wrap

/-!
# Broken lines are full

Breaking a paragraph cuts its words into runs, one for each line.  A line is the words of its run,
without the empty words that a run may begin with.  A line is ended only when the next word makes
it too wide, and it is too wide itself only if it is a single word.  All this holds of every way
to measure lines.
-/

namespace Montage.TextImage

variable {tooWide : List Char → Bool}

/-! ## Lines of runs -/

/-- A line with one more word.  The first word stands alone, any other behind a blank. -/
def extended (line word : List Char) : List Char :=
  if line.isEmpty then word else line ++ ' ' :: word

theorem extended_of_ne_nil {line : List Char} (filled : line ≠ []) (word : List Char) :
    extended line word = line ++ ' ' :: word := by
  rw [extended, if_neg (by simpa using filled)]

/-- A line that is not empty ends in front of a word that makes it too wide. -/
theorem linesFrom_cons (line word : List Char) (remaining : List (List Char)) :
    linesFrom tooWide line (word :: remaining) =
      if line ≠ [] ∧ tooWide (extended line word) = true then
        line :: linesFrom tooWide word remaining
      else linesFrom tooWide (extended line word) remaining := by
  rw [linesFrom, ← extended]
  simp

/-- The line of a run of words.  Empty words in front of all others are left out. -/
def lineOf (run : List (List Char)) : List Char :=
  [' '].intercalate (run.dropWhile List.isEmpty)

/-- The words of a text that are not empty. -/
def words (text : List Char) : List (List Char) :=
  (Text.parts ' ' text).filter fun word => !word.isEmpty

theorem lineOf_singleton (word : List Char) : lineOf [word] = word := by
  cases word <;> simp [lineOf]

/-- The line of a run with one more word. -/
theorem lineOf_concat (run : List (List Char)) (word : List Char) :
    lineOf (run ++ [word]) = extended (lineOf run) word := by
  rw [lineOf, List.dropWhile_append]
  cases kept : run.dropWhile List.isEmpty with
  | nil =>
      rw [lineOf, kept]
      exact lineOf_singleton word
  | cons first others =>
      have filled : first.isEmpty = false := by
        have head := List.head_dropWhile_not List.isEmpty (l := run) (by simp [kept])
        simpa [kept] using head
      have nonempty : lineOf run ≠ [] := by
        rw [lineOf, kept]
        cases others <;> simp_all
      rw [if_neg (by simp), extended_of_ne_nil nonempty, lineOf, kept]
      exact Text.intercalate_concat (List.cons_ne_nil first others) word

/-- The words of a line are those of its run. -/
theorem words_lineOf {run : List (List Char)} (plain : ∀ word ∈ run, ' ' ∉ word) :
    words (lineOf run) = run.filter fun word => !word.isEmpty := by
  have kept_eq : (run.dropWhile List.isEmpty).filter (fun word => !word.isEmpty) =
      run.filter fun word => !word.isEmpty := by
    have dropped : (run.takeWhile List.isEmpty).filter (fun word => !word.isEmpty) = [] := by
      rw [List.filter_eq_nil_iff]
      intro word member
      simpa using List.mem_takeWhile_imp member
    conv_rhs => rw [← List.takeWhile_append_dropWhile (p := List.isEmpty) (l := run)]
    rw [List.filter_append, dropped, List.nil_append]
  rw [words, lineOf, ← kept_eq]
  cases kept : run.dropWhile List.isEmpty with
  | nil => rfl
  | cons first others =>
      rw [Text.parts_intercalate (List.cons_ne_nil _ _)]
      intro word member
      have inRun : word ∈ run :=
        (List.dropWhile_suffix List.isEmpty).subset (kept ▸ member)
      exact plain word inRun

/-! ## Breaking a paragraph -/

/-- A line ends in front of a run whose first word would make it too wide. -/
def Ends (tooWide : List Char → Prop) (run next : List (List Char)) : Prop :=
  ∃ word rest, next = word :: rest ∧ tooWide (lineOf run ++ ' ' :: word)

/-- Words are cut into runs that go on with the run begun, and a line is ended only by a word
that makes it too wide. -/
theorem exists_runs (tooWide : List Char → Bool) (run remaining : List (List Char)) :
    ∃ first others, linesFrom tooWide (lineOf run) remaining = (first :: others).map lineOf ∧
      (first :: others).flatten = run ++ remaining ∧ run <+: first ∧ [] ∉ others ∧
      (first :: others).IsChain (Ends fun line => tooWide line = true) := by
  induction remaining generalizing run with
  | nil => exact ⟨run, [], rfl, by simp, List.prefix_rfl, List.not_mem_nil, .singleton run⟩
  | cons word remaining ih =>
      rw [linesFrom_cons, ← lineOf_concat]
      split
      · rename_i ended
        obtain ⟨filled, wide⟩ := ended
        rw [lineOf_concat, extended_of_ne_nil filled] at wide
        obtain ⟨first, others, lines_eq, runs_eq, begun, apart, chain⟩ := ih [word]
        obtain ⟨rest, rfl⟩ := begun
        rw [lineOf_singleton] at lines_eq
        refine ⟨run, ([word] ++ rest) :: others, ?_, ?_, List.prefix_rfl, ?_, ?_⟩
        · rw [lines_eq]
          rfl
        · rw [List.flatten_cons, runs_eq, List.singleton_append]
        · simpa using apart
        · exact List.isChain_cons_cons.mpr ⟨⟨word, rest, rfl, wide⟩, chain⟩
      · obtain ⟨first, others, lines_eq, runs_eq, begun, apart, chain⟩ := ih (run ++ [word])
        refine ⟨first, others, lines_eq, ?_, (List.prefix_append run [word]).trans begun, apart,
          chain⟩
        rw [runs_eq, List.append_assoc, List.singleton_append]

/-- Every line fits or is a single word, if the line begun is. -/
theorem fits_of_mem_linesFrom {line : List Char} {remaining : List (List Char)}
    (fits : tooWide line = false ∨ ' ' ∉ line) (plain : ∀ word ∈ remaining, ' ' ∉ word) :
    ∀ found ∈ linesFrom tooWide line remaining, tooWide found = false ∨ ' ' ∉ found := by
  induction remaining generalizing line with
  | nil => simpa [linesFrom] using fits
  | cons word remaining ih =>
      obtain ⟨plainWord, plainRest⟩ := List.forall_mem_cons.mp plain
      rw [linesFrom_cons]
      split
      · exact List.forall_mem_cons.mpr ⟨fits, ih (.inr plainWord) plainRest⟩
      · rename_i goesOn
        refine ih ?_ plainRest
        cases line with
        | nil => exact .inr plainWord
        | cons c line => exact .inl (by simpa using goesOn)

/-- A character that is not in the words and is not a blank is not in the lines. -/
theorem not_mem_of_mem_linesFrom {c : Char} (visible : c ≠ ' ') {line : List Char}
    {remaining : List (List Char)} (absent : c ∉ line) (plain : ∀ word ∈ remaining, c ∉ word) :
    ∀ found ∈ linesFrom tooWide line remaining, c ∉ found := by
  induction remaining generalizing line with
  | nil => simpa [linesFrom] using absent
  | cons word remaining ih =>
      obtain ⟨plainWord, plainRest⟩ := List.forall_mem_cons.mp plain
      rw [linesFrom_cons]
      split
      · exact List.forall_mem_cons.mpr ⟨absent, ih plainWord plainRest⟩
      · refine ih ?_ plainRest
        rw [extended]
        split
        · exact plainWord
        · simp [absent, plainWord, visible]

/-! ## Breaking a text -/

/-- The lines that a paragraph is broken into. -/
def paragraphLines (tooWide : List Char → Bool) (paragraph : List Char) : List (List Char) :=
  linesFrom tooWide [] (Text.parts ' ' paragraph)

/-- A paragraph is broken between its words, as late as a limit allows.  `lines` are those of
`runs`, into which the words at single blanks are cut. -/
structure Wraps (measure : List Char → ℚ) (limit : ℚ) (paragraph : List Char)
    (lines : List (List Char)) : Prop where
  words_eq : lines.flatMap words = words paragraph
  fits : ∀ line ∈ lines, measure line ≤ limit ∨ ' ' ∉ line
  late : ∃ runs : List (List (List Char)), runs.flatten = Text.parts ' ' paragraph ∧
    [] ∉ runs ∧ lines = runs.map lineOf ∧ runs.IsChain (Ends fun line => limit < measure line)

/-- The words of a paragraph are cut into runs, one for each line. -/
theorem exists_runs_paragraph (tooWide : List Char → Bool) (paragraph : List Char) :
    ∃ runs : List (List (List Char)), runs.flatten = Text.parts ' ' paragraph ∧ [] ∉ runs ∧
      paragraphLines tooWide paragraph = runs.map lineOf ∧
      runs.IsChain (Ends fun line => tooWide line = true) := by
  rw [paragraphLines]
  cases split : Text.parts ' ' paragraph with
  | nil => exact absurd split (Text.parts_ne_nil ' ' paragraph)
  | cons word remaining =>
      obtain ⟨first, others, lines_eq, runs_eq, begun, apart, chain⟩ :=
        exists_runs tooWide [word] remaining
      refine ⟨first :: others, runs_eq, ?_, ?_, chain⟩
      · rw [List.mem_cons, not_or]
        refine ⟨?_, apart⟩
        rintro rfl
        exact absurd (List.prefix_nil.mp begun) (List.cons_ne_nil word [])
      · rw [← lines_eq, lineOf_singleton]
        rfl

/-- The lines of a paragraph have its words. -/
theorem words_paragraphLines (tooWide : List Char → Bool) (paragraph : List Char) :
    (paragraphLines tooWide paragraph).flatMap words = words paragraph := by
  obtain ⟨runs, runs_eq, _, lines_eq, _⟩ := exists_runs_paragraph tooWide paragraph
  have plain : ∀ run ∈ runs, ∀ word ∈ run, ' ' ∉ word := fun run runMem word wordMem =>
    Text.not_mem_of_mem_parts (runs_eq ▸ List.mem_flatten_of_mem runMem wordMem)
  rw [lines_eq, words, ← runs_eq, List.filter_flatten, List.flatMap_map, List.flatMap_def]
  exact congrArg List.flatten
    (List.map_congr_left fun run runMem => words_lineOf (plain run runMem))

/-- A paragraph is wrapped, however lines are measured. -/
theorem wraps_paragraphLines (measure : List Char → ℚ) (limit : ℚ) (paragraph : List Char) :
    Wraps measure limit paragraph
      (paragraphLines (fun line => Scalar.lt limit (measure line)) paragraph) := by
  obtain ⟨runs, runs_eq, filled, lines_eq, chain⟩ :=
    exists_runs_paragraph (fun line => Scalar.lt limit (measure line)) paragraph
  have plain : ∀ word ∈ Text.parts ' ' paragraph, ' ' ∉ word := fun word =>
    Text.not_mem_of_mem_parts
  constructor
  case words_eq => exact words_paragraphLines _ paragraph
  case fits =>
    intro line member
    have fits := fits_of_mem_linesFrom (.inr List.not_mem_nil) plain line member
    simpa [← Bool.not_eq_true] using fits
  case late =>
    refine ⟨runs, runs_eq, filled, lines_eq, chain.imp ?_⟩
    rintro run _ ⟨word, rest, rfl, wide⟩
    exact ⟨word, rest, rfl, Scalar.lt_rat_iff.mp wide⟩

theorem lines_eq_flatMap (tooWide : List Char → Bool) (text : List Char) :
    lines tooWide text = (Text.parts '\n' text).flatMap (paragraphLines tooWide) :=
  rfl

/-- The lines of a broken text are those of its paragraphs. -/
theorem parts_wrap (tooWide : List Char → Bool) (text : String) :
    Text.parts '\n' (wrap tooWide text).toList = lines tooWide text.toList := by
  have joined : (wrap tooWide text).toList = ['\n'].intercalate (lines tooWide text.toList) := by
    simp [wrap, String.toList_intercalate, Function.comp_def]
  rw [joined, Text.parts_intercalate]
  · cases split : Text.parts '\n' text.toList with
    | nil => exact absurd split (Text.parts_ne_nil '\n' text.toList)
    | cons paragraph others =>
        obtain ⟨runs, runs_eq, _, lines_eq, _⟩ := exists_runs_paragraph tooWide paragraph
        have nonempty : paragraphLines tooWide paragraph ≠ [] := by
          rw [lines_eq, ne_eq, List.map_eq_nil_iff]
          rintro rfl
          exact Text.parts_ne_nil ' ' paragraph runs_eq.symm
        rw [lines_eq_flatMap, split, List.flatMap_cons, ne_eq, List.append_eq_nil_iff]
        exact fun empty => nonempty empty.1
  · intro line member
    rw [lines_eq_flatMap, List.mem_flatMap] at member
    obtain ⟨paragraph, paragraphMem, lineMem⟩ := member
    have unbroken : '\n' ∉ paragraph := Text.not_mem_of_mem_parts paragraphMem
    refine not_mem_of_mem_linesFrom (by decide) List.not_mem_nil ?_ line lineMem
    exact fun word wordMem broken => unbroken (Text.subset_of_mem_parts wordMem broken)

/-- The words of all paragraphs of a text. -/
def wordsOf (text : String) : List (List Char) :=
  (Text.parts '\n' text.toList).flatMap words

/-- A text keeps its words, wherever its lines are broken. -/
theorem wordsOf_wrapTo {α : Type} [Scalar α] (measure : List Char → α) (limit : Option α)
    (text : String) : wordsOf (wrapTo measure limit text) = wordsOf text := by
  cases limit with
  | none => rfl
  | some limit =>
      rw [wrapTo]
      split
      · rw [wordsOf, parts_wrap, lines_eq_flatMap, List.flatMap_assoc, wordsOf]
        simp only [words_paragraphLines]
      · rfl

/-- A text is broken paragraph by paragraph.  The lines of each paragraph have its words, they
fit the limit as long as there is a blank to break at, and none of them is ended early. -/
theorem wraps_wrapTo (measure : List Char → ℚ) {limit : ℚ} (limited : limit ≠ 0)
    (text : String) :
    ∃ groups, Text.parts '\n' (wrapTo measure (some limit) text).toList = groups.flatten ∧
      List.Forall₂ (Wraps measure limit) (Text.parts '\n' text.toList) groups := by
  have isSet : Scalar.isSet limit = true := Scalar.isSet_rat_iff.mpr limited
  refine ⟨(Text.parts '\n' text.toList).map
    (paragraphLines fun line => Scalar.lt limit (measure line)), ?_, ?_⟩
  · rw [wrapTo, if_pos isSet, parts_wrap, lines_eq_flatMap, List.flatMap_def]
  · rw [List.forall₂_map_right_iff, List.forall₂_same]
    exact fun paragraph _ => wraps_paragraphLines measure limit paragraph

/-- Two blanks, a blank at a break and one at the beginning of a paragraph: the empty words
between blanks are part of a line unless it begins with them. -/
theorem wraps_spacedText :
    wrapTo (fun line => 6 * (line.length : ℚ)) (some 60) "the quick  brown fox\n jumps" =
        "the quick \nbrown fox\njumps" ∧
      ∃ groups, ["the quick ".toList, "brown fox".toList, "jumps".toList] = groups.flatten ∧
        List.Forall₂ (Wraps (fun line => 6 * (line.length : ℚ)) 60)
          ["the quick  brown fox".toList, " jumps".toList] groups := by
  have shown : wrapTo (fun line => 6 * (line.length : ℚ)) (some 60)
      "the quick  brown fox\n jumps" = "the quick \nbrown fox\njumps" := by
    decide +kernel
  obtain ⟨groups, lines_eq, wraps⟩ := wraps_wrapTo (fun line => 6 * (line.length : ℚ))
    (by norm_num : (60 : ℚ) ≠ 0) "the quick  brown fox\n jumps"
  rw [shown] at lines_eq
  exact ⟨shown, groups, lines_eq, wraps⟩

end Montage.TextImage
