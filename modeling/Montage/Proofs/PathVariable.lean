import Mathlib
import Montage.PathVariable
import Montage.Proofs.Result

/-!
# Path variables are replaced once

A text is cut from left to right into variables and single characters, in exactly one way, and
every variable that stands anywhere in the text is one of the cut.  Expanding a text replaces each
of them by its value and leaves all else as it is.  The cut is that of the text alone, so what
values spell, be it together with what stands beside them, is not looked at.
-/

namespace Montage.PathVariable

variable {c : Char} {name text after : List Char} {cut : List Segment}

/-! ## Variables in a text -/

/-- One or more word characters. -/
def IsName (name : List Char) : Prop :=
  name ≠ [] ∧ ∀ c ∈ name, Text.isWord c = true

/-- The characters that a segment is cut from. -/
def Segment.characters : Segment → List Char
  | .char c => [c]
  | .placeholder name => '$' :: '{' :: (name ++ ['}'])

/-- The text begins with a variable. -/
def Begins (text : List Char) : Prop :=
  ∃ name after, IsName name ∧ text = (Segment.placeholder name).characters ++ after

/-- The variable stands somewhere in the text. -/
def Occurs (name text : List Char) : Prop :=
  IsName name ∧ ∃ before after, text = before ++ (Segment.placeholder name).characters ++ after

/-- A text is cut where a variable begins, and into single characters elsewhere. -/
inductive IsCut : List Char → List Segment → Prop
  | nil : IsCut [] []
  | placeholder {name after : List Char} {cut : List Segment} (named : IsName name)
      (rest : IsCut after cut) :
      IsCut ((Segment.placeholder name).characters ++ after) (.placeholder name :: cut)
  | char {c : Char} {after : List Char} {cut : List Segment} (plain : ¬Begins (c :: after))
      (rest : IsCut after cut) : IsCut (c :: after) (.char c :: cut)

theorem characters_placeholder_append :
    (Segment.placeholder name).characters ++ after = '$' :: '{' :: (name ++ '}' :: after) := by
  simp [Segment.characters]

theorem isWord_eq_any (c : Char) :
    Text.isWord c = (c == '_' || Text.alphanumericRanges.toList.any fun range =>
      range.1 ≤ c.toNat && c.toNat ≤ range.2) := by
  rw [Text.isWord, Array.any_toList]

theorem isWord_closing : Text.isWord '}' = false := by
  rw [isWord_eq_any]
  decide +kernel

theorem isWord_dollar : Text.isWord '$' = false := by
  rw [isWord_eq_any]
  decide +kernel

/-- A name is read up to its closing brace, and must not be empty. -/
theorem variableName?_eq_some_iff :
    variableName? text = some (name, after) ↔ IsName name ∧ text = name ++ '}' :: after := by
  constructor
  · intro found
    have split := List.takeWhile_append_dropWhile (p := Text.isWord) (l := text)
    simp only [variableName?] at found
    split at found
    · rename_i rest closed
      split at found
      · cases found
      · rename_i nonempty
        cases found
        rw [closed] at split
        refine ⟨⟨by simpa using nonempty, fun c => List.mem_takeWhile_imp⟩, split.symm⟩
    · cases found
  · rintro ⟨⟨nonempty, word⟩, rfl⟩
    have taken : (name ++ '}' :: after).takeWhile Text.isWord = name := by
      rw [List.takeWhile_append_of_pos word]
      simp [isWord_closing]
    have dropped : (name ++ '}' :: after).dropWhile Text.isWord = '}' :: after := by
      rw [List.dropWhile_append_of_pos word]
      simp [isWord_closing]
    simp [variableName?, taken, dropped, nonempty]

/-- What begins with a variable goes on with a name that can be read. -/
theorem begins_iff :
    Begins text ↔ ∃ rest, text = '$' :: '{' :: rest ∧ (variableName? rest).isSome = true := by
  simp only [Begins, characters_placeholder_append, Option.isSome_iff_exists, Prod.exists,
    variableName?_eq_some_iff]
  constructor
  · rintro ⟨name, after, named, rfl⟩
    exact ⟨_, rfl, name, after, named, rfl⟩
  · rintro ⟨_, rfl, name, after, named, rfl⟩
    exact ⟨name, after, named, rfl⟩

/-! ## The cut -/

theorem segments_placeholder (named : IsName name) (after : List Char) :
    segments ((Segment.placeholder name).characters ++ after) =
      .placeholder name :: segments after := by
  have found : variableName? (name ++ '}' :: after) = some (name, after) :=
    variableName?_eq_some_iff.mpr ⟨named, rfl⟩
  rw [characters_placeholder_append, segments]
  split
  · rename_i read
    cases found.symm.trans read
    rfl
  · rename_i unread
    cases found.symm.trans unread

theorem segments_char (plain : ¬Begins (c :: after)) :
    segments (c :: after) = .char c :: segments after := by
  rw [segments.eq_def]
  split
  · rename_i empty
    cases empty
  · rename_i rest opened
    cases opened
    split
    · rename_i read
      exact absurd (begins_iff.mpr ⟨rest, rfl, by rw [read]; rfl⟩) plain
    · rfl
  · rename_i single
    cases single
    rfl

/-- Every text has a cut, and the segments are the only one. -/
theorem isCut_iff : IsCut text cut ↔ cut = segments text := by
  constructor
  · intro isCut
    induction isCut with
    | nil => rw [segments]
    | placeholder named _ ih => rw [segments_placeholder named, ih]
    | char plain _ ih => rw [segments_char plain, ih]
  · rintro rfl
    induction text using segments.induct with
    | case1 =>
        rw [segments]
        exact .nil
    | case2 rest name after found _ ih =>
        obtain ⟨named, rfl⟩ := variableName?_eq_some_iff.mp found
        rw [← characters_placeholder_append, segments_placeholder named]
        exact .placeholder named ih
    | case3 rest unread ih =>
        have plain : ¬Begins ('$' :: '{' :: rest) := by
          rintro begins
          obtain ⟨_, opened, read⟩ := begins_iff.mp begins
          cases opened
          simp [unread] at read
        rw [segments_char plain]
        exact .char plain ih
    | case4 c rest unopened ih =>
        have plain : ¬Begins (c :: rest) := by
          intro begins
          obtain ⟨opened, split, _⟩ := begins_iff.mp begins
          cases split
          exact unopened opened rfl rfl
        rw [segments_char plain]
        exact .char plain ih

/-- What begins with a variable begins with no other. -/
theorem placeholder_unique {other rest : List Char} (named : IsName name)
    (otherNamed : IsName other)
    (same : (Segment.placeholder name).characters ++ after =
      (Segment.placeholder other).characters ++ rest) : name = other := by
  rw [characters_placeholder_append, characters_placeholder_append] at same
  have inner : name ++ '}' :: after = other ++ '}' :: rest := by simpa using same
  have read : variableName? (name ++ '}' :: after) = some (name, after) :=
    variableName?_eq_some_iff.mpr ⟨named, rfl⟩
  have readOther := variableName?_eq_some_iff.mpr ⟨otherNamed, inner⟩
  cases read.symm.trans readOther
  rfl

/-- No variable begins inside another one. -/
theorem eq_nil_of_split {before behind : List Char} (named : IsName name)
    (split : (Segment.placeholder name).characters = before ++ '$' :: behind) : before = [] := by
  cases before with
  | nil => rfl
  | cons c before =>
      rw [Segment.characters, List.cons_append, List.cons.injEq] at split
      have inside : '$' ∈ '{' :: (name ++ ['}']) := by simp [split.2]
      have inName : '$' ∈ name := by simpa using inside
      cases isWord_dollar.symm.trans (named.2 '$' inName)

theorem occurs_of_mem (isCut : IsCut text cut) (member : .placeholder name ∈ cut) :
    Occurs name text := by
  induction isCut with
  | nil => cases member
  | @placeholder other after cut named _ ih =>
      rcases List.mem_cons.mp member with same | later
      · cases same
        exact ⟨named, [], after, rfl⟩
      · obtain ⟨isName, before, behind, rfl⟩ := ih later
        exact ⟨isName, (Segment.placeholder other).characters ++ before, behind, by simp⟩
  | @char c after cut _ _ ih =>
      have later : .placeholder name ∈ cut := by simpa using member
      obtain ⟨isName, before, behind, rfl⟩ := ih later
      exact ⟨isName, c :: before, behind, by simp⟩

/-- The cut misses no variable, wherever it stands. -/
theorem mem_of_occurs (isCut : IsCut text cut) (occurs : Occurs name text) :
    .placeholder name ∈ cut := by
  obtain ⟨isName, before, behind, split⟩ := occurs
  induction isCut generalizing before with
  | nil => simp [Segment.characters] at split
  | @placeholder other after cut named _ ih =>
      rw [List.append_assoc] at split
      cases before with
      | nil =>
          rw [placeholder_unique named isName split]
          exact List.mem_cons_self
      | cons d before =>
          apply List.mem_cons_of_mem
          rcases List.append_eq_append_iff.mp split with
            ⟨between, _, rest⟩ | ⟨inside, covered, rest⟩
          · exact ih between (by rw [rest, List.append_assoc])
          · cases inside with
            | nil => exact ih [] (by simpa using rest.symm)
            | cons e inside =>
                rw [characters_placeholder_append, List.cons_append, List.cons.injEq] at rest
                obtain ⟨rfl, _⟩ := rest
                cases eq_nil_of_split named covered
  | @char c after cut plain _ ih =>
      apply List.mem_cons_of_mem
      cases before with
      | nil => exact absurd ⟨name, behind, isName, split⟩ plain
      | cons d before =>
          rw [List.cons_append, List.cons_append, List.cons.injEq] at split
          exact ih before split.2

theorem mem_cut_iff (isCut : IsCut text cut) : .placeholder name ∈ cut ↔ Occurs name text :=
  ⟨occurs_of_mem isCut, mem_of_occurs isCut⟩

/-! ## Replacing -/

variable {α : Type} {mapping : List (String × String)}

/-- Names with the texts that stand for them, as a mapping of a template. -/
def ofMapping (mapping : List (String × String)) : Value α :=
  .map (mapping.map fun entry => (.text entry.1, .text entry.2))

/-- What is put in the place of a segment. -/
inductive Replaces (mapping : List (String × String)) : Segment → List Char → Prop
  | char (c : Char) : Replaces mapping (.char c) [c]
  | placeholder {name : List Char} {value : String}
      (found : mapping.lookup (String.ofList name) = some value) :
      Replaces mapping (.placeholder name) value.toList

/-- The first variable that stands for nothing. -/
inductive LacksFirst (mapping : List (String × String)) (name : List Char) : List Segment → Prop
  | here {later : List Segment} (unknown : mapping.lookup (String.ofList name) = none) :
      LacksFirst mapping name (.placeholder name :: later)
  | behind {segment : Segment} {piece : List Char} {later : List Segment}
      (replaces : Replaces mapping segment piece) (lacks : LacksFirst mapping name later) :
      LacksFirst mapping name (segment :: later)

/-- A text is expanded along its cut, or refused for the first variable without a value. -/
structure ExpandsAlong (mapping : List (String × String)) (text : String) (cut : List Segment)
    (outcome : Result α String) : Prop where
  isCut_iff_eq : ∀ other, IsCut text.toList other ↔ other = cut
  mem_iff_occurs : ∀ name, .placeholder name ∈ cut ↔ Occurs name text.toList
  replaced : ∀ result, outcome = .ok result ↔
    ∃ pieces, List.Forall₂ (Replaces mapping) cut pieces ∧ result = String.ofList pieces.flatten
  refused : ∀ fault, outcome = .error fault ↔
    ∃ name, LacksFirst mapping name cut ∧
      fault = .input (.unknownPathVariable (String.ofList name))
  refused_iff : (∃ fault, outcome = .error fault) ↔
    ∃ name, Occurs name text.toList ∧ mapping.lookup (String.ofList name) = none

theorem get?_ofMapping (mapping : List (String × String)) (name : String) :
    (ofMapping mapping : Value α).get? name = (mapping.lookup name).map .text := by
  rw [ofMapping, Value.get?]
  induction mapping with
  | nil => rfl
  | cons entry mapping ih =>
      obtain ⟨key, value⟩ := entry
      by_cases same : key = name
      · simp [Value.lookup?, Value.isText, same]
      · simpa [Value.lookup?, Value.isText, same, List.lookup_cons, beq_false_of_ne (Ne.symm same)]
          using ih

theorem find_ofMapping_of_some {name value : String} (found : mapping.lookup name = some value) :
    find (ofMapping mapping : Value α) name = .ok (.text value.toList) := by
  have got := get?_ofMapping (α := α) mapping name
  rw [ofMapping, found] at got
  simp [find, ofMapping, got]

theorem find_ofMapping_of_none {name : String} (unknown : mapping.lookup name = none) :
    find (ofMapping mapping : Value α) name = .error (.input (.unknownPathVariable name)) := by
  have got := get?_ofMapping (α := α) mapping name
  rw [ofMapping, unknown] at got
  simp [find, ofMapping, got]

theorem assemble_text (pieces : List (List Char)) :
    assemble (α := α) (pieces.map .text) = .ok pieces.flatten := by
  induction pieces with
  | nil => rfl
  | cons piece pieces ih =>
      simp [assemble, ih]

theorem replacements_cons {segment : Segment} {piece : List Char}
    (replaces : Replaces mapping segment piece) (cut : List Segment) :
    replacements (ofMapping mapping : Value α) (segment :: cut) =
      (replacements (ofMapping mapping) cut).map (.text piece :: ·) := by
  cases replaces with
  | char c => rfl
  | placeholder found =>
      rw [replacements, find_ofMapping_of_some found]
      rfl

theorem replacements_of_replaces {pieces : List (List Char)}
    (replaces : List.Forall₂ (Replaces mapping) cut pieces) :
    replacements (ofMapping mapping : Value α) cut = .ok (pieces.map .text) := by
  induction replaces with
  | nil => rfl
  | cons first _ ih =>
      rw [replacements_cons first, ih]
      rfl

theorem replacements_of_lacksFirst (lacks : LacksFirst mapping name cut) :
    replacements (ofMapping mapping : Value α) cut =
      .error (.input (.unknownPathVariable (String.ofList name))) := by
  induction lacks with
  | here unknown =>
      rw [replacements, find_ofMapping_of_none unknown]
      rfl
  | behind replaces _ ih =>
      rw [replacements_cons replaces, ih]
      rfl

/-- Every segment has a replacement, or one of them is the first that has none. -/
theorem replaces_or_lacksFirst (mapping : List (String × String)) (cut : List Segment) :
    (∃ pieces, List.Forall₂ (Replaces mapping) cut pieces) ∨
      ∃ name, LacksFirst mapping name cut := by
  induction cut with
  | nil => exact .inl ⟨[], .nil⟩
  | cons segment cut ih =>
      have behind {piece : List Char} (replaces : Replaces mapping segment piece) :
          (∃ pieces, List.Forall₂ (Replaces mapping) (segment :: cut) pieces) ∨
            ∃ name, LacksFirst mapping name (segment :: cut) := by
        rcases ih with ⟨pieces, others⟩ | ⟨name, lacks⟩
        · exact .inl ⟨piece :: pieces, .cons replaces others⟩
        · exact .inr ⟨name, .behind replaces lacks⟩
      cases segment with
      | char c => exact behind (.char c)
      | placeholder name =>
          cases found : mapping.lookup (String.ofList name) with
          | none => exact .inr ⟨name, .here found⟩
          | some value => exact behind (.placeholder found)

theorem exists_mem_of_lacksFirst (lacks : LacksFirst mapping name cut) :
    .placeholder name ∈ cut ∧ mapping.lookup (String.ofList name) = none := by
  induction lacks with
  | here unknown => exact ⟨List.mem_cons_self, unknown⟩
  | behind _ _ ih => exact ⟨List.mem_cons_of_mem _ ih.1, ih.2⟩

/-- A variable without a value cannot be replaced. -/
theorem not_replaces_of_mem {pieces : List (List Char)}
    (replaces : List.Forall₂ (Replaces mapping) cut pieces) (member : .placeholder name ∈ cut) :
    mapping.lookup (String.ofList name) ≠ none := by
  obtain ⟨piece, _, replaced⟩ := Result.exists_of_forall₂_of_mem replaces member
  cases replaced with
  | placeholder found => simp [found]

theorem expand_of_replaces {text : String} {pieces : List (List Char)}
    (replaces : List.Forall₂ (Replaces mapping) (segments text.toList) pieces) :
    expand (ofMapping mapping : Value α) text = .ok (String.ofList pieces.flatten) := by
  rw [expand, replacements_of_replaces replaces, Result.ok_bind, assemble_text]
  rfl

theorem expand_of_lacksFirst {text : String}
    (lacks : LacksFirst mapping name (segments text.toList)) :
    expand (ofMapping mapping : Value α) text =
      .error (.input (.unknownPathVariable (String.ofList name))) := by
  rw [expand, replacements_of_lacksFirst lacks]
  rfl

/-- A text is expanded along its only cut, whatever the mapping and the text. -/
theorem exists_expandsAlong (mapping : List (String × String)) (text : String) :
    ∃ cut, ExpandsAlong mapping text cut (expand (ofMapping mapping : Value α) text) := by
  have isCut : IsCut text.toList (segments text.toList) := isCut_iff.mpr rfl
  have total := replaces_or_lacksFirst mapping (segments text.toList)
  refine ⟨segments text.toList, fun _ => isCut_iff, fun _ => mem_cut_iff isCut, ?_, ?_, ?_⟩
  · intro result
    constructor
    · intro expanded
      rcases total with ⟨pieces, replaces⟩ | ⟨name, lacks⟩
      · cases (expand_of_replaces replaces).symm.trans expanded
        exact ⟨pieces, replaces, rfl⟩
      · cases (expand_of_lacksFirst lacks).symm.trans expanded
    · rintro ⟨pieces, replaces, rfl⟩
      exact expand_of_replaces replaces
  · intro fault
    constructor
    · intro refused
      rcases total with ⟨pieces, replaces⟩ | ⟨name, lacks⟩
      · cases (expand_of_replaces replaces).symm.trans refused
      · cases (expand_of_lacksFirst lacks).symm.trans refused
        exact ⟨name, lacks, rfl⟩
    · rintro ⟨name, lacks, rfl⟩
      exact expand_of_lacksFirst lacks
  · rcases total with ⟨pieces, replaces⟩ | ⟨name, lacks⟩
    · rw [expand_of_replaces replaces]
      simp only [reduceCtorEq, exists_false, false_iff]
      rintro ⟨name, occurs, unknown⟩
      exact not_replaces_of_mem replaces (mem_of_occurs isCut occurs) unknown
    · obtain ⟨member, unknown⟩ := exists_mem_of_lacksFirst lacks
      rw [expand_of_lacksFirst lacks]
      exact iff_of_true ⟨_, rfl⟩ ⟨name, occurs_of_mem isCut member, unknown⟩

end Montage.PathVariable
