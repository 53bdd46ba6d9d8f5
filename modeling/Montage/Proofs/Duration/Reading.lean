import Montage.Duration.Evaluation
import Montage.Proofs.Duration.Sentence

/-!
# Texts are read as the grammar derives them

A text is read as an expression exactly when it is spelled by tokens that are a sentence.
The tokens and the expression are then the only ones, and a chain of operators is read
from the right.  Every other text is refused as an input.
-/

namespace Montage.Duration

/-- A text is spelled by tokens that an expression is derived from. -/
def Derives (text : String) (found : Expression) (written : List Token) : Prop :=
  Spells text.toList written ∧ Sentence found written

theorem Sentence.isChain {found : Expression} {written : List Token}
    (sentence : Sentence found written) : written.IsChain Apart := by
  obtain ⟨-, rfl⟩ := sentence_iff.mp sentence
  exact found.isChain_tokens

theorem Derives.parse {text : String} {found : Expression} {written : List Token}
    (derives : Derives text found written) : parse text = .ok found := by
  rw [Duration.parse, tokens_of_spells derives.1 derives.2.isChain]
  exact expressionOf_eq_ok_iff.mpr derives.2

/-- What is read from a text is derived from it. -/
theorem derives_of_parse {text : String} {found : Expression} (read : parse text = .ok found) :
    Derives text found found.tokens := by
  rw [parse] at read
  split at read
  · contradiction
  · rename_i written spelled
    have sentence := expressionOf_eq_ok_iff.mp read
    obtain ⟨-, rfl⟩ := sentence_iff.mp sentence
    exact ⟨spells_of_tokens spelled, sentence⟩

/-- A text has at most one derivation. -/
theorem Derives.unique {text : String} {found other : Expression} {written others : List Token}
    (derives : Derives text found written) (again : Derives text other others) :
    other = found ∧ others = written := by
  have same : found = other := Except.ok.inj (derives.parse.symm.trans again.parse)
  obtain ⟨-, rfl⟩ := sentence_iff.mp derives.2
  obtain ⟨-, rfl⟩ := sentence_iff.mp again.2
  subst same
  exact ⟨rfl, rfl⟩

/-- White space around a text does not change what is derived from it. -/
theorem derives_trim_iff {text : String} {found : Expression} {written : List Token} :
    Derives (String.ofList (Text.trim text.toList)) found written ↔
      Derives text found written := by
  rw [Derives, Derives, String.toList_ofList, spells_trim_iff]

/-- A text without a derivation is refused. -/
theorem exists_parse_eq_error {text : String}
    (underived : ∀ found written, ¬Derives text found written) :
    ∃ cause, parse text = .error cause := by
  cases read : parse text with
  | ok found => exact absurd (derives_of_parse read) (underived found found.tokens)
  | error cause => exact ⟨cause, rfl⟩

/-- A text without a derivation is malformed input where it stands for a duration. -/
theorem exists_read_eq_error {α : Type} {text : String}
    (underived : ∀ found written, ¬Derives text found written) :
    ∃ cause, (read text : Result α Expression) =
      .error (.input (.duration (.malformed (String.ofList (Text.trim text.toList)) cause))) := by
  obtain ⟨cause, refused⟩ := exists_parse_eq_error fun found written derives =>
    underived found written (derives_trim_iff.mp derives)
  exact ⟨cause, by simp only [read, refused]⟩

/-! ## Chains -/

/-- Operands with operators behind them and a last operand, nested to the right. -/
def chain (links : List (Expression × Operator)) (last : Expression) : Expression :=
  links.foldr (fun link right => .operation link.2 link.1 right) last

/-- The tokens of operands with operators behind them and of a last operand. -/
def chainTokens (links : List (Expression × Operator)) (last : Expression) : List Token :=
  (links.flatMap fun link => link.1.tokens ++ [.operator link.2]) ++ last.tokens

theorem sentence_chain {links : List (Expression × Operator)} {last : Expression}
    (operands : ∀ operand ∈ links.map Prod.fst, Operand operand operand.tokens)
    (ends : Operand last last.tokens) :
    Sentence (chain links last) (chainTokens links last) := by
  induction links with
  | nil => exact .operand ends
  | cons link links ih =>
      rw [List.map_cons, List.forall_mem_cons] at operands
      have sentence : Sentence (chain (link :: links) last)
          (link.1.tokens ++ .operator link.2 :: chainTokens links last) :=
        .operation operands.1 (ih operands.2)
      simpa [chainTokens] using sentence

/-! ## All texts -/

/-- A text is read as an expression exactly if the grammar derives the expression from it.
The tokens of the derivation are those of the expression, and they are the text without
white space; there is no other derivation, and a chain of operands is nested to the right.
A text without a derivation is refused, and what is asked for its value is told that the
input is malformed. -/
theorem parse_exact {α : Type} (text : String) :
    (∀ found, parse text = .ok found ↔ ∃ written, Derives text found written) ∧
    (∀ found written, Derives text found written →
      written = found.tokens ∧
      written.flatMap Token.characters = text.toList.filter (fun c => !Text.isBlank c) ∧
      ∀ other others, Derives text other others → other = found ∧ others = written) ∧
    (∀ links last, (∀ operand ∈ links.map Prod.fst, Operand operand operand.tokens) →
      Operand last last.tokens → Spells text.toList (chainTokens links last) →
      parse text = .ok (chain links last)) ∧
    ((∀ found written, ¬Derives text found written) →
      (∃ cause, parse text = .error cause) ∧
      ∃ cause, (read text : Result α Expression) =
        .error (.input (.duration (.malformed (String.ofList (Text.trim text.toList)) cause)))) := by
  refine ⟨fun found => ?_, fun found written derives => ?_, ?_, fun underived => ?_⟩
  · exact ⟨fun read => ⟨_, derives_of_parse read⟩, fun ⟨_, derives⟩ => derives.parse⟩
  · exact ⟨(sentence_iff.mp derives.2).2, derives.1.flatMap_characters,
      fun other others again => derives.unique again⟩
  · intro links last operands ends spells
    exact Derives.parse ⟨spells, sentence_chain operands ends⟩
  · exact ⟨exists_parse_eq_error underived, exists_read_eq_error underived⟩

example : parse "3 - 1 - 2" =
    .ok (.operation .subtract (.time ['3'])
      (.operation .subtract (.time ['1']) (.time ['2']))) := by
  cbv

example : parse "1:" = .error (.unreadable ":") := by
  cbv

end Montage.Duration
