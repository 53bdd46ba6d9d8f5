import Montage.Proofs.Duration.Reading
import Montage.Proofs.Text.Split

/-!
# Expressions are read back from their texts

An expression that can be written is written by its own tokens, with a blank on either
side of every operator.  These tokens are a sentence, so the expression is what its text
is read as, and every expression that is read from some text can be written.  The text of
a reference is that of its path.
-/

namespace Montage

namespace Duration

/-! ## Paths -/

/-- A reference is written as the steps of its path with points between them. -/
theorem text_reference (name : List Char) :
    (Expression.reference name).text = "\x7b" ++ ".".intercalate (path name) ++ "\x7d" := by
  have same : (path name).map String.toList = Text.parts '.' name := by
    simp [path]
  have joined : ['.'].intercalate (Text.parts '.' name) = name := by
    rw [Text.parts_eq_splitOn, List.intercalate_splitOn]
  apply String.toList_inj.mp
  simp [Expression.text, Expression.characters, Expression.referenceText,
    String.toList_intercalate, same, joined]

/-- Steps without points are the path of the name that they are joined to. -/
theorem path_intercalate {steps : List String} (nonempty : steps ≠ [])
    (plain : ∀ step ∈ steps, '.' ∉ step.toList) : path (".".intercalate steps).toList = steps := by
  have plainParts : ∀ part ∈ steps.map String.toList, '.' ∉ part := by
    simpa using plain
  have split : Text.parts '.' (['.'].intercalate (steps.map String.toList)) =
      steps.map String.toList := by
    exact Text.parts_intercalate (by simpa using nonempty) plainParts
  rw [path, String.toList_intercalate]
  simp [split]

/-! ## Texts -/

theorem Spells.append {text further : List Char} {tokens others : List Token}
    (spells : Spells text tokens) (more : Spells further others) :
    Spells (text ++ further) (tokens ++ others) := by
  induction spells with
  | nothing blank => exact more.prepend_blanks blank
  | token blank valid _ ih =>
      rw [List.append_assoc, List.cons_append]
      exact .token blank valid ih

theorem spells_token {token : Token} (valid : token.IsValid) :
    Spells token.characters [token] := by
  simpa using Spells.cons valid (.nothing (List.forall_mem_nil _))

/-- An expression that can be written is spelled by its tokens. -/
theorem Expression.IsWritable.spells {expression : Expression}
    (writable : expression.IsWritable) : Spells expression.characters expression.tokens := by
  induction expression with
  | time text =>
      have valid : (Token.time text).IsValid := writable
      exact spells_token valid
  | reference name =>
      have valid : (Token.reference name).IsValid := writable
      exact spells_token valid
  | operation operator left right leftIh rightIh =>
      obtain ⟨leftWritable, rightWritable, -⟩ := writable
      have blank : ∀ c ∈ [' '], Text.isBlank c = true := List.forall_mem_singleton.mpr (by decide)
      have sign : (Token.operator operator).IsValid := trivial
      have rest := Spells.token blank sign ((rightIh rightWritable).prepend_blanks blank)
      exact (leftIh leftWritable).append rest
  | group inner ih =>
      have opening : Token.opening.IsValid := trivial
      have closing : Token.closing.IsValid := trivial
      exact ((ih writable).cons opening).append (spells_token closing)

/-- An expression that can be written is derived from its text. -/
theorem Expression.IsWritable.derives {expression : Expression}
    (writable : expression.IsWritable) : Derives expression.text expression expression.tokens := by
  refine ⟨?_, sentence_iff.mpr ⟨(isWritable_iff.mp writable).1, rfl⟩⟩
  rw [text, String.toList_ofList]
  exact writable.spells

theorem Spells.isValid {text : List Char} {tokens : List Token} (spells : Spells text tokens) :
    ∀ token ∈ tokens, token.IsValid := by
  induction spells with
  | nothing => simp
  | token _ valid _ ih => exact List.forall_mem_cons.mpr ⟨valid, ih⟩

/-- What is derived from a text can be written. -/
theorem Derives.isWritable {text : String} {found : Expression} {written : List Token}
    (derives : Derives text found written) : found.IsWritable := by
  obtain ⟨nested, rfl⟩ := sentence_iff.mp derives.2
  exact Expression.isWritable_iff.mpr ⟨nested, derives.1.isValid⟩

/-- The expressions that are read from any text are those that can be written, and the
same ones are read back from their own text.  The path of a reference is read back too:
it is what the text of the reference joins with points, and steps without points are the
path of what they are joined to. -/
theorem tfae_read_back (expression : Expression) :
    [expression.IsWritable, parse expression.text = .ok expression,
      ∃ text, parse text = .ok expression].TFAE ∧
    (∀ name, (Expression.reference name).text = "\x7b" ++ ".".intercalate (path name) ++ "\x7d") ∧
    ∀ steps, steps ≠ [] → (∀ step ∈ steps, '.' ∉ step.toList) →
      path (".".intercalate steps).toList = steps := by
  refine ⟨?_, text_reference, fun steps => path_intercalate⟩
  tfae_have 1 → 2 := fun writable => writable.derives.parse
  tfae_have 2 → 3 := fun read => ⟨expression.text, read⟩
  tfae_have 3 → 1 := fun ⟨text, read⟩ => (derives_of_parse read).isWritable
  tfae_finish

end Duration
end Montage
