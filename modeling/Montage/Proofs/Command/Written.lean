import Montage.Proofs.Command.Ordinary
import Montage.Proofs.Command.Preparation

/-!
# Commands are read as they were made

What is read of the words of a command are its sources, its chains and the streams that it
puts out.  A text whose marks stand between quotes is one part; names have no marks but
their brackets, and only the expressions of a pan have commas, between quotes.
-/

namespace Montage

open Text

/-! ## Marks between quotes -/

/-- Texts with a mark between quotes only. -/
inductive Sealed (mark : Char) : List Char → Prop where
  | nil : Sealed mark []
  | cons {c : Char} {rest : List Char} (noMark : c ≠ mark) (noQuote : c ≠ singleQuote)
      (behind : Sealed mark rest) : Sealed mark (c :: rest)
  | quoted {inside rest : List Char} (closed : singleQuote ∉ inside)
      (behind : Sealed mark rest) :
      Sealed mark (singleQuote :: (inside ++ singleQuote :: rest))

namespace Sealed

variable {mark : Char} {text rest front back : List Char}

theorem of_forall_ne (plain : ∀ c ∈ text, c ≠ mark ∧ c ≠ singleQuote) : Sealed mark text := by
  induction text with
  | nil => exact .nil
  | cons c rest ih =>
      have ⟨first, others⟩ := List.forall_mem_cons.mp plain
      exact .cons first.1 first.2 (ih others)

theorem of_isOrdinary (ordinary : IsOrdinary text) (isMark : isOrdinary mark = false) :
    Sealed mark text := by
  refine of_forall_ne fun c member => ?_
  have plain := isOrdinary_iff.mp ordinary c member
  constructor
  · rintro rfl
    rw [isMark] at plain
    cases plain
  · rintro rfl
    cases plain

theorem append (frontSealed : Sealed mark front) (backSealed : Sealed mark back) :
    Sealed mark (front ++ back) := by
  induction frontSealed with
  | nil => exact backSealed
  | cons noMark noQuote _ ih => exact .cons noMark noQuote ih
  | @quoted inside _ closed _ ih =>
      rw [List.cons_append, List.append_assoc, List.cons_append]
      exact .quoted closed ih

/-- A text between other separators is sealed if its parts are. -/
theorem intercalate {separator : Char} (other : separator ≠ mark)
    (noQuote : separator ≠ singleQuote) {parts : List (List Char)}
    (sealed : ∀ part ∈ parts, Sealed mark part) : Sealed mark ([separator].intercalate parts) := by
  induction parts with
  | nil => exact .nil
  | cons first rest ih =>
      have ⟨firstSealed, restSealed⟩ := List.forall_mem_cons.mp sealed
      cases rest with
      | nil => simpa using firstSealed
      | cons second rest =>
          rw [List.intercalate_cons_cons]
          exact (firstSealed.append (.cons other noQuote .nil)).append (ih restSealed)

theorem head?_ne (notQuote : mark ≠ singleQuote) (sealed : Sealed mark text) :
    text.head? ≠ some mark := by
  cases sealed with
  | nil => simp
  | cons noMark _ _ => simpa using noMark
  | quoted _ _ => simpa using notQuote.symm

end Sealed

namespace WrittenChain

variable {mark : Char} {text rest : List Char}

/-- Between quotes no mark counts. -/
theorem spanOutside_quoted {inside : List Char} (closed : singleQuote ∉ inside) :
    spanOutside mark true (inside ++ singleQuote :: rest) =
      (inside ++ singleQuote :: (spanOutside mark false rest).1,
        (spanOutside mark false rest).2) := by
  induction inside with
  | nil => simp [spanOutside]
  | cons c inside ih =>
      rw [List.mem_cons, not_or] at closed
      have noQuote : (c == singleQuote) = false := beq_eq_false_iff_ne.mpr (Ne.symm closed.1)
      simp [spanOutside, noQuote, ih closed.2]

/-- A sealed text is read up to the mark behind it. -/
theorem spanOutside_of_sealed (notQuote : mark ≠ singleQuote) (sealed : Sealed mark text)
    (stops : ∀ c ∈ rest.head?, c = mark) : spanOutside mark false (text ++ rest) = (text, rest) := by
  induction sealed with
  | nil =>
      cases rest with
      | nil => rfl
      | cons c rest =>
          cases stops c rfl
          simp [spanOutside]
  | cons noMark noQuote _ ih =>
      simp [spanOutside, noMark, beq_eq_false_iff_ne.mpr noQuote, ih]
  | @quoted inside after closed _ ih =>
      rw [List.cons_append, List.append_assoc, List.cons_append]
      simp [spanOutside, spanOutside_quoted closed, ih, notQuote.symm]

/-- A sealed text is read to its end. -/
theorem spanOutside_eq_self (notQuote : mark ≠ singleQuote) (sealed : Sealed mark text) :
    spanOutside mark false text = (text, []) := by
  have span : spanOutside mark false (text ++ []) = (text, []) :=
    spanOutside_of_sealed notQuote sealed (by simp)
  rwa [List.append_nil] at span

theorem spanOutside_append_cons (notQuote : mark ≠ singleQuote) (sealed : Sealed mark text)
    (rest : List Char) : spanOutside mark false (text ++ mark :: rest) = (text, mark :: rest) :=
  spanOutside_of_sealed notQuote sealed (by simp)

/-- Sealed parts are found again. -/
theorem partsOutside_intercalate (notQuote : mark ≠ singleQuote) {parts : List (List Char)}
    (nonempty : parts ≠ []) (sealed : ∀ part ∈ parts, Sealed mark part) {steps : ℕ}
    (enough : parts.length ≤ steps + 1) :
    partsOutside mark steps ([mark].intercalate parts) = parts := by
  induction parts generalizing steps with
  | nil => contradiction
  | cons first others ih =>
      have ⟨firstSealed, othersSealed⟩ := List.forall_mem_cons.mp sealed
      cases others with
      | nil =>
          cases steps with
          | zero => simp [partsOutside]
          | succ steps => simp [partsOutside, spanOutside_eq_self notQuote firstSealed]
      | cons second others =>
          rw [List.length_cons, Nat.add_le_add_iff_right] at enough
          obtain ⟨steps, rfl⟩ : ∃ fewer, steps = fewer + 1 :=
            Nat.exists_eq_add_of_le' (Nat.one_le_of_lt enough)
          rw [List.intercalate_cons_cons, List.append_assoc, List.singleton_append, partsOutside,
            spanOutside_append_cons notQuote firstSealed]
          simp only [ih (List.cons_ne_nil _ _) othersSealed enough]

/-- There is a mark between any two parts. -/
theorem length_le_intercalate (parts : List (List Char)) :
    parts.length ≤ ([mark].intercalate parts).length + 1 := by
  induction parts with
  | nil => simp
  | cons first others ih =>
      cases others with
      | nil => simp
      | cons second others =>
          rw [List.intercalate_cons_cons]
          simp only [List.length_append, List.length_cons, List.length_nil] at ih ⊢
          omega

/-- Parts and separators make up the whole. -/
theorem mem_of_mem_intercalate {separator c : Char} {parts : List (List Char)}
    (member : c ∈ [separator].intercalate parts) : c = separator ∨ ∃ part ∈ parts, c ∈ part := by
  induction parts with
  | nil => cases member
  | cons first others ih =>
      cases others with
      | nil => exact .inr ⟨first, List.mem_singleton_self first, by simpa using member⟩
      | cons second others =>
          rw [List.intercalate_cons_cons, List.mem_append, List.mem_append,
            List.mem_singleton] at member
          rcases member with (inFirst | between) | behind
          · exact .inr ⟨first, List.mem_cons_self, inFirst⟩
          · exact .inl between
          · exact (ih behind).imp_right fun ⟨part, listed, inPart⟩ =>
              ⟨part, List.mem_cons_of_mem first listed, inPart⟩

/-! ## Names -/

/-- A name in brackets, which has no marks of its own. -/
def IsName (label : String) : Prop :=
  ∃ name, IsOrdinary name ∧ label.toList = '[' :: name ++ [']']

theorem isName_numbered (front back : String) (letters others : List Char) (n : ℕ)
    (begins : front.toList = '[' :: letters) (ends : back.toList = others ++ [']'])
    (plain : IsOrdinary (letters ++ others)) : IsName (front ++ toString n ++ back) := by
  have ⟨lettersPlain, othersPlain⟩ := isOrdinary_append.mp plain
  refine ⟨letters ++ (toString n).toList ++ others, ?_, by simp [begins, ends]⟩
  exact isOrdinary_append.mpr
    ⟨isOrdinary_append.mpr ⟨lettersPlain, isOrdinary_toString_nat n⟩, othersPlain⟩

theorem isName_label (feed : Feed) : IsName feed.label := by
  rcases feed with input | input | (_ | input | input | input | _)
  · exact isName_numbered "[" ":v]" [] [':', 'v'] input rfl rfl rfl
  · exact isName_numbered "[" ":a]" [] [':', 'a'] input rfl rfl rfl
  · exact ⟨['b', 'a', 's', 'e'], rfl, rfl⟩
  · exact isName_numbered "[v" "]" ['v'] [] input rfl rfl rfl
  · exact isName_numbered "[o" "]" ['o'] [] input rfl rfl rfl
  · exact isName_numbered "[a" "]" ['a'] [] input rfl rfl rfl
  · exact ⟨['a', 'o', 'u', 't'], rfl, rfl⟩

theorem IsName.sealed {label : String} (isName : IsName label) (isMark : isOrdinary mark = false)
    (noBracket : mark ≠ '[' ∧ mark ≠ ']') : Sealed mark label.toList := by
  obtain ⟨name, ordinary, spelled⟩ := isName
  rw [spelled]
  exact .append (.cons noBracket.1.symm (by decide) (.of_isOrdinary ordinary isMark))
    (.cons noBracket.2.symm (by decide) .nil)

/-- Names are read up to a text that begins with none. -/
theorem names_of_isName {labels : List String} (areNames : ∀ label ∈ labels, IsName label)
    (noName : rest.head? ≠ some '[') {steps : ℕ} (enough : labels.length ≤ steps) :
    names steps (labels.flatMap String.toList ++ rest) = (labels, rest) := by
  induction labels generalizing steps with
  | nil =>
      rw [List.flatMap_nil, List.nil_append, names]
      rintro _ after rfl rfl
      exact noName rfl
  | cons label others ih =>
      have ⟨isName, othersAreNames⟩ := List.forall_mem_cons.mp areNames
      obtain ⟨name, ordinary, spelled⟩ := isName
      obtain ⟨steps, rfl⟩ : ∃ fewer, steps = fewer + 1 :=
        Nat.exists_eq_add_of_le' (Nat.one_le_of_lt enough)
      have noBracket : ∀ c ∈ name, (c != ']') = true := by
        intro c member
        have plain := isOrdinary_iff.mp ordinary c member
        rw [bne_iff_ne]
        rintro rfl
        cases plain
      have label_eq : String.ofList ('[' :: name ++ [']']) = label := by
        rw [← spelled, String.ofList_toList]
      rw [List.length_cons, Nat.add_le_add_iff_right] at enough
      rw [List.flatMap_cons, spelled]
      simp only [List.cons_append, List.append_assoc, List.nil_append] at label_eq ⊢
      rw [names, List.span_eq_takeWhile_dropWhile, List.takeWhile_append_of_pos noBracket,
        List.dropWhile_append_of_pos noBracket]
      simp [ih othersAreNames enough, label_eq]

theorem length_le_of_isName {labels : List String}
    (areNames : ∀ label ∈ labels, IsName label) :
    labels.length ≤ (labels.flatMap String.toList).length := by
  induction labels with
  | nil => exact le_rfl
  | cons label others ih =>
      have ⟨⟨name, _, spelled⟩, othersAreNames⟩ := List.forall_mem_cons.mp areNames
      have rest := ih othersAreNames
      rw [List.flatMap_cons, spelled]
      simp only [List.length_cons, List.length_append]
      omega

/-- A name is read by itself. -/
theorem names_self {label : String} (isName : IsName label) :
    names label.toList.length label.toList = ([label], []) := by
  have areNames : ∀ other ∈ [label], IsName other := List.forall_mem_singleton.mpr isName
  have noName : ([] : List Char).head? ≠ some '[' := by simp
  have read := names_of_isName areNames noName (length_le_of_isName areNames)
  simpa only [List.flatMap_singleton, List.append_nil] using read

end WrittenChain

/-! ## Texts of filters -/

/-- The text of a filter: there is one, its marks stand between quotes, and nothing in it is
escaped. -/
structure IsFilterText (text : List Char) : Prop where
  nonempty : text ≠ []
  sealed : ∀ mark, isOrdinary mark = false → mark ≠ singleQuote → Sealed mark text
  noEscape : '\\' ∉ text

variable {α : Type}

namespace Filter

theorem isOrdinary_name (filter : Filter α) : IsOrdinary filter.name.toList := by
  cases filter with
  | framerate fps smooth => cases smooth <;> simp [name, isOrdinary, singleQuote]
  | _ => simp [name, Tempo.filterName, isOrdinary, singleQuote]

variable [Scalar α]

/-- A filter is read by its name. -/
theorem filterName_text (filter : Filter α) :
    WrittenChain.filterName filter.text = filter.name := by
  have inName : ∀ c ∈ filter.name.toList, (c != '=') = true := by
    cases filter with
    | framerate fps smooth => cases smooth <;> simp [name]
    | _ => simp [name, Tempo.filterName]
  rw [WrittenChain.filterName, text, String.toList_append, String.toList_append,
    List.append_assoc, List.takeWhile_append_of_pos inName]
  simp

/-- Only windows have arguments with marks. -/
theorem isOrdinary_arguments (filter : Filter α) (plain : ∀ size x y, filter ≠ crop size x y) :
    IsOrdinary filter.arguments.toList := by
  have self (text : String) : toString text = text := rfl
  cases filter with
  | crop size x y => exact absurd rfl (plain size x y)
  | canvas color size duration =>
      unfold arguments
      cases duration <;> simp [self, color.isOrdinary_filterText, isOrdinary, singleQuote]
  | retime factor startAt =>
      unfold arguments
      simp only
      split <;> simp [self, isOrdinary, singleQuote]
  | framerate fps smooth =>
      unfold arguments
      cases smooth <;> simp [self, isOrdinary, singleQuote]
  | _ =>
      unfold arguments
      simp [self, isOrdinary, singleQuote]

end Filter

variable [Scalar α] [Scalar.HasOrdinaryText α]

theorem LinearFormula.isOrdinary_text (formula : LinearFormula α) :
    IsOrdinary formula.text.toList := by
  have number (x : α) := Scalar.HasOrdinaryText.isOrdinary_text x
  have self (text : String) : toString text = text := rfl
  rw [text]
  simp [self, number, isOrdinary, singleQuote]

/-- In an expression commas are the only marks. -/
theorem PanExpression.isOrdinary_or_eq_comma (expression : PanExpression α) :
    ∀ c ∈ expression.text.toList, isOrdinary c = true ∨ c = ',' := by
  have ordinary {text : List Char} (plain : IsOrdinary text) :
      ∀ c ∈ text, isOrdinary c = true ∨ c = ',' :=
    fun c member => .inl (isOrdinary_iff.mp plain c member)
  induction expression with
  | offset pixels => exact ordinary (isOrdinary_repr pixels)
  | held position => exact ordinary (Scalar.isOrdinary_compact position)
  | moving formula => exact ordinary formula.isOrdinary_text
  | before limit first second ihFirst ihSecond =>
      have self (text : String) : toString text = text := rfl
      have number := ordinary (Scalar.isOrdinary_compact limit)
      rw [text]
      simp only [self, String.toList_append, List.forall_mem_append]
      refine ⟨⟨⟨⟨⟨⟨?_, number⟩, ?_⟩, ihFirst⟩, ?_⟩, ihSecond⟩, ?_⟩ <;>
        simp [isOrdinary, singleQuote]

theorem PanExpression.not_mem_text {c : Char} (special : isOrdinary c = false) (noComma : c ≠ ',')
    (expression : PanExpression α) : c ∉ expression.text.toList := by
  intro member
  rcases expression.isOrdinary_or_eq_comma c member with plain | comma
  · rw [special] at plain
    cases plain
  · exact noComma comma

namespace Filter

theorem isFilterText_crop (size : Extent) (x y : PanExpression α) :
    IsFilterText (crop size x y).text.toList := by
  let front := ("crop=w=" ++ toString size.width ++ ":h=" ++ toString size.height ++ ":x=").toList
  have frontPlain : IsOrdinary front := by simp [front, isOrdinary, singleQuote]
  have written : (crop size x y).text.toList =
      front ++ singleQuote :: (x.text.toList ++ singleQuote ::
        (":y=".toList ++ singleQuote :: (y.text.toList ++ [singleQuote]))) := by
    have self (text : String) : toString text = text := rfl
    unfold text arguments
    simp [self, front, name, singleQuote]
  rw [written]
  constructor
  · simp
  · intro mark isMark notQuote
    have noQuote (expression : PanExpression α) : singleQuote ∉ expression.text.toList :=
      expression.not_mem_text rfl (by decide)
    have between : Sealed mark ":y=".toList := .of_isOrdinary rfl isMark
    exact (Sealed.of_isOrdinary frontPlain isMark).append
      (.quoted (noQuote x) (between.append (.quoted (noQuote y) .nil)))
  · have noEscape (expression : PanExpression α) : '\\' ∉ expression.text.toList :=
      expression.not_mem_text rfl (by decide)
    have inFront : '\\' ∉ front := fun member => by cases isOrdinary_iff.mp frontPlain _ member
    simp [noEscape, inFront, singleQuote]

theorem isFilterText (filter : Filter α) : IsFilterText filter.text.toList := by
  by_cases plain : ∀ size x y, filter ≠ crop size x y
  · have ordinary : IsOrdinary filter.text.toList := by
      rw [text]
      simp [filter.isOrdinary_name, filter.isOrdinary_arguments plain, isOrdinary, singleQuote]
    constructor
    · simp [text]
    · exact fun mark isMark _ => .of_isOrdinary ordinary isMark
    · exact fun member => by cases isOrdinary_iff.mp ordinary _ member
  · push Not at plain
    obtain ⟨size, x, y, rfl⟩ := plain
    exact isFilterText_crop size x y

end Filter
/-! ## Chains and graphs -/

/-- A chain by the names and texts of its parts. -/
def Chain.written (chain : Chain α) : WrittenChain where
  takes := chain.takes.map Feed.label
  filters := chain.filters.map Filter.text
  gives := [chain.gives.label]

namespace Chain

/-- The filters of a chain, as its text has them. -/
def filterTexts (chain : Chain α) : List Char :=
  [','].intercalate (chain.filters.map fun filter => filter.text.toList)

omit [Scalar.HasOrdinaryText α] in
theorem toList_text (chain : Chain α) :
    chain.text.toList = (chain.takes.map Feed.label).flatMap String.toList ++
      (chain.filterTexts ++ chain.gives.label.toList) := by
  have comma : ",".toList = [','] := rfl
  simp [text, filterTexts, String.toList_intercalate, comma, Function.comp_def]

theorem sealed_filterTexts (chain : Chain α) {mark : Char} (isMark : isOrdinary mark = false)
    (notQuote : mark ≠ singleQuote) (noComma : mark ≠ ',') : Sealed mark chain.filterTexts := by
  refine .intercalate noComma.symm (by decide) fun part member => ?_
  obtain ⟨filter, _, rfl⟩ := List.mem_map.mp member
  exact filter.isFilterText.sealed mark isMark notQuote

theorem filterTexts_ne_nil {chain : Chain α} (nonempty : chain.filters ≠ []) :
    chain.filterTexts ≠ [] := by
  obtain ⟨first, others, begins⟩ := List.exists_cons_of_ne_nil nonempty
  have there := first.isFilterText.nonempty
  rw [filterTexts, begins]
  cases others <;> simp [there]

/-- A chain with filters is read as it was made. -/
theorem ofText?_text {chain : Chain α} (nonempty : chain.filters ≠ []) :
    WrittenChain.ofText? chain.text.toList = some chain.written := by
  have areNames : ∀ label ∈ chain.takes.map Feed.label, WrittenChain.IsName label := by
    intro label member
    obtain ⟨feed, _, rfl⟩ := List.mem_map.mp member
    exact WrittenChain.isName_label feed
  have isName : WrittenChain.IsName chain.gives.label :=
    WrittenChain.isName_label (.link chain.gives)
  have sealed : Sealed '[' chain.filterTexts :=
    chain.sealed_filterTexts rfl (by decide) (by decide)
  have begins : (chain.filterTexts ++ chain.gives.label.toList).head? ≠ some '[' := by
    rw [List.head?_append_of_ne_nil _ (filterTexts_ne_nil nonempty)]
    exact sealed.head?_ne (by decide)
  have enough : (chain.takes.map Feed.label).length ≤ chain.text.toList.length := by
    have enough := WrittenChain.length_le_of_isName areNames
    rw [toList_text, List.length_append]
    exact enough.trans (Nat.le_add_right _ _)
  have span : WrittenChain.spanOutside '[' false
      (chain.filterTexts ++ chain.gives.label.toList) =
        (chain.filterTexts, chain.gives.label.toList) := by
    obtain ⟨name, _, spelled⟩ := isName
    rw [spelled]
    exact WrittenChain.spanOutside_append_cons (by decide) sealed _
  have parts : WrittenChain.partsOutside ',' chain.filterTexts.length chain.filterTexts =
      chain.filters.map fun filter => filter.text.toList := by
    refine WrittenChain.partsOutside_intercalate (by decide) (by simpa using nonempty) ?_
      (WrittenChain.length_le_intercalate _)
    intro part member
    obtain ⟨filter, _, rfl⟩ := List.mem_map.mp member
    exact filter.isFilterText.sealed ',' rfl (by decide)
  have read := WrittenChain.names_of_isName areNames begins enough
  rw [← toList_text] at read
  simp only [WrittenChain.ofText?, read, span, WrittenChain.names_self isName, parts]
  simp [filterTexts_ne_nil nonempty, written]

theorem sealed_text (chain : Chain α) : Sealed ';' chain.text.toList := by
  have labels : Sealed ';' ((chain.takes.map Feed.label).flatMap String.toList) := by
    induction chain.takes with
    | nil => exact .nil
    | cons feed others ih =>
        exact ((WrittenChain.isName_label feed).sealed rfl (by decide)).append ih
  have given : Sealed ';' chain.gives.label.toList :=
    (WrittenChain.isName_label (.link chain.gives)).sealed rfl (by decide)
  rw [toList_text]
  exact labels.append ((chain.sealed_filterTexts rfl (by decide) (by decide)).append given)

/-- Nothing in a chain is escaped. -/
theorem noEscape_text (chain : Chain α) : '\\' ∉ chain.text.toList := by
  have noEscape (feed : Feed) : '\\' ∉ feed.label.toList := by
    obtain ⟨name, ordinary, spelled⟩ := WrittenChain.isName_label feed
    have inName : '\\' ∉ name := fun member => by cases isOrdinary_iff.mp ordinary _ member
    simp [spelled, inName]
  have inFilters : '\\' ∉ chain.filterTexts := by
    intro member
    rcases WrittenChain.mem_of_mem_intercalate member with comma | ⟨part, listed, inPart⟩
    · cases comma
    · obtain ⟨filter, _, rfl⟩ := List.mem_map.mp listed
      exact filter.isFilterText.noEscape inPart
  rw [toList_text]
  simp [noEscape, inFilters, show '\\' ∉ chain.gives.label.toList from noEscape (.link chain.gives)]

end Chain

/-- A graph of chains with filters is read as it was made. -/
theorem Graph.ofGraph?_text {graph : Graph α} (nonempty : graph.chains ≠ [])
    (filtered : ∀ chain ∈ graph.chains, chain.filters ≠ []) :
    WrittenChain.ofGraph? graph.text = some (graph.chains.map Chain.written) := by
  let parts := graph.chains.map fun chain => chain.text.toList
  have joined : graph.text.toList = [';'].intercalate parts := by
    have semicolon : ";".toList = [';'] := rfl
    simp [text, parts, String.toList_intercalate, semicolon, Function.comp_def]
  have noEscape : '\\' ∉ graph.text.toList := by
    rw [joined]
    intro member
    rcases WrittenChain.mem_of_mem_intercalate member with semicolon | ⟨part, listed, inPart⟩
    · cases semicolon
    · obtain ⟨chain, _, rfl⟩ := List.mem_map.mp listed
      exact chain.noEscape_text inPart
  have divided : WrittenChain.partsOutside ';' graph.text.toList.length graph.text.toList =
      parts := by
    rw [joined]
    refine WrittenChain.partsOutside_intercalate (by decide) (by simpa [parts] using nonempty) ?_
      (WrittenChain.length_le_intercalate _)
    intro part member
    obtain ⟨chain, _, rfl⟩ := List.mem_map.mp member
    exact chain.sealed_text
  have read : ∀ chains : List (Chain α), (∀ chain ∈ chains, chain.filters ≠ []) →
      (chains.map fun chain => chain.text.toList).mapM WrittenChain.ofText? =
        some (chains.map Chain.written) := by
    intro chains filtered
    induction chains with
    | nil => rfl
    | cons first others ih =>
        have ⟨firstFiltered, othersFiltered⟩ := List.forall_mem_cons.mp filtered
        rw [List.map_cons, List.mapM_cons, Chain.ofText?_text firstFiltered, ih othersFiltered]
        rfl
  have noEscape' : graph.text.toList.contains '\\' = false := by simpa using noEscape
  simp only [WrittenChain.ofGraph?, noEscape', divided]
  exact read graph.chains filtered

/-! ## Words -/

namespace WrittenCommand

/-- Options with their values, as words. -/
def optionWords (options : List (String × Word)) : List Word :=
  options.flatMap fun (name, value) => [some name, value]

theorem optionWords_append (front back : List (String × Word)) :
    optionWords (front ++ back) = optionWords front ++ optionWords back :=
  List.flatMap_append

variable {options front back : List (String × Word)}

/-- The words of options are read as these options. -/
theorem options?_optionWords
    (takeValues : ∀ option ∈ options, option.1.toList.head? = some '-' ∧ option.1 ≠ "-y")
    (output : Word) : options? (optionWords options ++ [output]) = some (options, output) := by
  induction options with
  | nil => rfl
  | cons option others ih =>
      obtain ⟨name, value⟩ := option
      have ⟨⟨dash, notFlag⟩, othersTake⟩ := List.forall_mem_cons.mp takeValues
      change options? (some name :: value :: (optionWords others ++ [output])) = _
      rw [options?, ih othersTake]
      simp only [beq_eq_false_iff_ne.mpr notFlag, dash]
      rfl

/-- The flag is passed over. -/
theorem options?_flag {words : List Word} (nonempty : words ≠ []) :
    options? (some "-y" :: words) = options? words := by
  obtain ⟨value, rest, rfl⟩ := List.exists_cons_of_ne_nil nonempty
  rfl

theorem values_append (name : String) :
    values name (front ++ back) = values name front ++ values name back := by
  rw [values, List.filter_append, List.map_append]
  rfl

theorem values_eq_nil {names : List String} (known : ∀ option ∈ options, option.1 ∈ names)
    (name : String) (absent : name ∉ names) : values name options = [] := by
  rw [values, List.filter_eq_nil_iff.mpr, List.map_nil]
  intro option member same
  rw [beq_iff_eq] at same
  exact absent (same ▸ known option member)

/-- An option that is given for several values has all of them. -/
theorem values_map (name : String) (words : List Word) :
    values name (words.map fun word => (name, word)) = words := by
  rw [values, List.filter_eq_self.mpr, List.map_map]
  · exact List.map_id _
  · simp

/-- Words that are all there are taken as they are. -/
theorem mapM_id_map_some (labels : List String) : (labels.map some).mapM id = some labels := by
  induction labels with
  | nil => rfl
  | cons label others ih => simp [ih]

end WrittenCommand

end Montage
