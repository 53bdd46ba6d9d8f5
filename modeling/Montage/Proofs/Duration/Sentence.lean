import Montage.Duration.Parser
import Montage.Proofs.Duration.Token

/-!
# Sentences are read as their expressions

An expression is derived from no other tokens than its own, which never have two times in
a row, and from those only if no left operand in it is a bare operation.  What the reader
takes from the front of a list of tokens is a sentence that derives the expression it
returns, and it takes a whole sentence in front of any tokens but an operator, on which it
would go on.
-/

namespace Montage.Duration

/-! ## The tokens of an expression -/

namespace Expression

/-- The tokens that an expression is derived from. -/
def tokens : Expression → List Token
  | time text => [.time text]
  | reference name => [.reference name]
  | operation operator left right => left.tokens ++ .operator operator :: right.tokens
  | group inner => .opening :: inner.tokens ++ [.closing]

/-- An expression where no left operand is a bare operation. -/
def IsNested : Expression → Prop
  | time _ => True
  | reference _ => True
  | group inner => inner.IsNested
  | operation _ left right => left.IsNested ∧ right.IsNested ∧ left.isOperation = false

/-- The expressions that can be written are the nested ones with valid tokens. -/
theorem isWritable_iff {expression : Expression} :
    expression.IsWritable ↔
      expression.IsNested ∧ ∀ token ∈ expression.tokens, token.IsValid := by
  induction expression with
  | time text => simp [IsWritable, IsNested, tokens, Token.IsValid]
  | reference name => simp [IsWritable, IsNested, tokens, Token.IsValid]
  | operation operator left right leftIh rightIh =>
      rw [IsWritable, IsNested, tokens, List.forall_mem_append, List.forall_mem_cons, leftIh,
        rightIh]
      simp only [Token.IsValid]
      tauto
  | group inner ih =>
      rw [IsWritable, IsNested, tokens, List.forall_mem_append, List.forall_mem_cons, ih]
      simp [Token.IsValid]

/-- No expression has two times next to each other. -/
theorem isChain_tokens (expression : Expression) : expression.tokens.IsChain Apart := by
  induction expression with
  | time text => exact .singleton _
  | reference name => exact .singleton _
  | operation operator left right leftIh rightIh =>
      refine leftIh.append (List.isChain_cons.mpr ⟨?_, rightIh⟩) ?_
      · rintro _ _ ⟨⟩
      · rintro _ _ _ ⟨⟩ _
        rfl
  | group inner ih =>
      refine (List.isChain_cons.mpr ⟨?_, ih⟩).append (.singleton _) ?_
      · rintro _ _ ⟨⟩
      · rintro _ _ _ ⟨⟩ _
        rfl

end Expression

theorem Operand.isOperation_eq_false {expression : Expression} {tokens : List Token}
    (operand : Operand expression tokens) : expression.isOperation = false := by
  cases operand <;> rfl

theorem Sentence.operand_of_not_isOperation {expression : Expression} {tokens : List Token}
    (sentence : Sentence expression tokens) (plain : expression.isOperation = false) :
    Operand expression tokens := by
  cases sentence with
  | operand operand => exact operand
  | operation => contradiction

theorem Operand.exists_head {expression : Expression} {tokens : List Token}
    (operand : Operand expression tokens) :
    ∃ first rest, tokens = first :: rest ∧ first ≠ .closing ∧
      ∀ operator, first ≠ .operator operator := by
  cases operand <;> exact ⟨_, _, rfl, by simp, by simp⟩

/-- A sentence begins with the first token of an operand. -/
theorem Sentence.exists_head {expression : Expression} {tokens : List Token}
    (sentence : Sentence expression tokens) :
    ∃ first rest, tokens = first :: rest ∧ first ≠ .closing ∧
      ∀ operator, first ≠ .operator operator := by
  cases sentence with
  | operand operand => exact operand.exists_head
  | operation operand _ =>
      obtain ⟨first, others, rfl, plain⟩ := operand.exists_head
      exact ⟨first, _, rfl, plain⟩

/-- An expression is derived exactly if it is nested, and from its own tokens only. -/
theorem sentence_iff {expression : Expression} {found : List Token} :
    Sentence expression found ↔ expression.IsNested ∧ found = expression.tokens := by
  induction expression generalizing found with
  | time text =>
      constructor
      · rintro (⟨⟨⟩⟩ | _)
        exact ⟨trivial, rfl⟩
      · rintro ⟨-, rfl⟩
        exact .operand (.time text)
  | reference name =>
      constructor
      · rintro (⟨⟨⟩⟩ | _)
        exact ⟨trivial, rfl⟩
      · rintro ⟨-, rfl⟩
        exact .operand (.reference name)
  | operation operator left right leftIh rightIh =>
      constructor
      · rintro (⟨⟨⟩⟩ | ⟨operand, sentence⟩)
        obtain ⟨leftNested, rfl⟩ := leftIh.mp (.operand operand)
        obtain ⟨rightNested, rfl⟩ := rightIh.mp sentence
        exact ⟨⟨leftNested, rightNested, operand.isOperation_eq_false⟩, rfl⟩
      · rintro ⟨⟨leftNested, rightNested, plain⟩, rfl⟩
        exact .operation ((leftIh.mpr ⟨leftNested, rfl⟩).operand_of_not_isOperation plain)
          (rightIh.mpr ⟨rightNested, rfl⟩)
  | group inner ih =>
      constructor
      · rintro (⟨⟨sentence⟩⟩ | _)
        obtain ⟨nested, rfl⟩ := ih.mp sentence
        exact ⟨nested, rfl⟩
      · rintro ⟨nested, rfl⟩
        exact .operand (.group (ih.mpr ⟨nested, rfl⟩))

/-! ## Soundness -/

/-- Whether a reader takes sentences only. -/
def IsSound (reader : List Token → Reading) : Prop :=
  ∀ {tokens rest : List Token} {found : Expression}, reader tokens = .ok (found, rest) →
    ∃ used, tokens = used ++ rest ∧ Sentence found used

theorem operand_sound {inside : List Token → Reading} (sound : IsSound inside)
    {tokens rest : List Token} {found : Expression}
    (read : operand inside tokens = .ok (found, rest)) :
    ∃ used, tokens = used ++ rest ∧ Operand found used := by
  unfold operand at read
  split at read
  · contradiction
  · rename_i tokens
    rw [Result.bind_eq_ok_iff] at read
    obtain ⟨⟨inner, behind⟩, inside, read⟩ := read
    obtain ⟨used, rfl, sentence⟩ := sound inside
    split at read
    · rename_i closed
      cases closed
      cases read
      exact ⟨.opening :: used ++ [.closing], by simp, .group sentence⟩
    · contradiction
  · rename_i name tokens
    cases read
    exact ⟨[.reference name], rfl, .reference name⟩
  · rename_i text tokens
    cases read
    exact ⟨[.time text], rfl, .time text⟩
  · contradiction

theorem continuation_sound {further : List Token → Reading} (sound : IsSound further)
    {left found : Expression} {first tokens rest : List Token} (operand : Operand left first)
    (read : continuation further left tokens = .ok (found, rest)) :
    ∃ used, tokens = used ++ rest ∧ Sentence found (first ++ used) := by
  unfold continuation at read
  split at read
  · split at read
    · contradiction
    · contradiction
    · contradiction
    · rename_i operator tokens _ _ _ _
      rw [Result.bind_eq_ok_iff] at read
      obtain ⟨⟨right, behind⟩, further, read⟩ := read
      cases read
      obtain ⟨used, rfl, sentence⟩ := sound further
      exact ⟨.operator operator :: used, rfl, .operation operand sentence⟩
  · cases read
    exact ⟨[], rfl, by simpa using Sentence.operand operand⟩

/-- What is read from the front of tokens is a sentence. -/
theorem expression_sound (depth : Nat) : IsSound (expression depth) := by
  induction depth with
  | zero =>
      intro tokens rest found read
      contradiction
  | succ depth ih =>
      intro tokens rest found read
      rw [expression, Result.bind_eq_ok_iff] at read
      obtain ⟨⟨left, behind⟩, first, read⟩ := read
      obtain ⟨used, rfl, operand⟩ := operand_sound ih first
      obtain ⟨others, rfl, sentence⟩ := continuation_sound ih operand read
      exact ⟨used ++ others, (List.append_assoc ..).symm, sentence⟩

/-! ## Completeness -/

/-- Tokens that no operation goes on into. -/
def Closes (tokens : List Token) : Prop :=
  ∀ operator : Operator, .operator operator ∉ tokens.head?

/-- Whether a reader takes all sentences up to a length, in front of tokens that close
them. -/
def IsComplete (reader : List Token → Reading) (length : Nat) : Prop :=
  ∀ {used rest : List Token} {found : Expression}, Sentence found used → used.length < length →
    Closes rest → reader (used ++ rest) = .ok (found, rest)

theorem operand_complete {inside : List Token → Reading} {length : Nat}
    (complete : IsComplete inside length) {used : List Token} {found : Expression}
    (operand : Operand found used) (short : used.length ≤ length) (rest : List Token) :
    Duration.operand inside (used ++ rest) = .ok (found, rest) := by
  cases operand with
  | @group inner tokens sentence =>
      have closes : Closes (.closing :: rest) := by
        rintro operator ⟨⟩
      have read : inside (tokens ++ .closing :: rest) = .ok (inner, .closing :: rest) :=
        complete sentence (by simp at short; omega) closes
      simp [Duration.operand, read]
  | reference name => rfl
  | time text => rfl

theorem continuation_of_closes {further : List Token → Reading} {left : Expression}
    {rest : List Token} (closes : Closes rest) :
    continuation further left rest = .ok (left, rest) := by
  unfold continuation
  split
  · rename_i operator tokens
    exact absurd rfl (closes operator)
  · rfl

theorem continuation_complete {further : List Token → Reading} {length : Nat}
    (complete : IsComplete further length) {operator : Operator} {left right : Expression}
    {used rest : List Token} (sentence : Sentence right used) (short : used.length < length)
    (closes : Closes rest) :
    continuation further left (.operator operator :: used ++ rest) =
      .ok (.operation operator left right, rest) := by
  have read := complete sentence short closes
  obtain ⟨first, others, rfl, opens⟩ := sentence.exists_head
  rw [List.cons_append] at read
  cases first with
  | closing => exact absurd rfl opens.1
  | operator other => exact absurd rfl (opens.2 other)
  | _ => simp [continuation, read]

/-- A sentence is read as a whole in front of tokens that close it. -/
theorem expression_complete (depth : Nat) : IsComplete (expression depth) depth := by
  -- a sentence inside another one is shorter, so one step less is deep enough for it
  induction depth with
  | zero => simp [IsComplete]
  | succ depth ih =>
      intro used rest found sentence short closes
      rw [expression]
      cases sentence with
      | operand operand =>
          rw [operand_complete ih operand (by omega), Result.ok_bind]
          exact continuation_of_closes closes
      | @operation operator left right first others operand sentence =>
          rw [List.length_append, List.length_cons] at short
          rw [List.append_assoc, operand_complete ih operand (by omega), Result.ok_bind]
          exact continuation_complete ih sentence (by omega) closes

/-- Tokens are read as an expression exactly when they are a sentence that derives it. -/
theorem expressionOf_eq_ok_iff {tokens : List Token} {found : Expression} :
    expressionOf tokens = .ok found ↔ Sentence found tokens := by
  constructor
  · intro read
    rw [expressionOf] at read
    split at read
    · contradiction
    · rw [Result.bind_eq_ok_iff] at read
      obtain ⟨⟨whole, rest⟩, first, read⟩ := read
      obtain ⟨used, rfl, sentence⟩ := expression_sound _ first
      split at read
      · rename_i ended
        cases ended
        cases read
        simpa using sentence
      · contradiction
  · intro sentence
    have closes : Closes [] := by
      rintro operator ⟨⟩
    have read := expression_complete (tokens.length + 1) sentence (by omega) closes
    obtain ⟨first, others, rfl, -⟩ := sentence.exists_head
    rw [List.append_nil] at read
    rw [expressionOf, if_neg (by simp), read, Result.ok_bind]

end Montage.Duration
