import Montage.Proofs.Duration.Reference

/-!
# Evaluation as it is described

`Evaluates` says what an expression comes to while some references have been seen: a
reference that has been seen is a cycle, and behind any other reference that one has been
seen too.  It says nothing of where this ends.  An expression comes to at most one
result, and `evaluate` finds it: the references that it may still follow are the ones
that are not seen, out of the finitely many that can be reached at all.
-/

namespace Montage.Duration

variable {α : Type} [Scalar α]

/-- What an expression comes to behind the references in `seen`. -/
inductive Evaluates (scope : Scope α) : List (List Char) → Expression → Result α α → Prop where
  | time {seen : List (List Char)} (characters : List Char) :
      Evaluates scope seen (.time characters) (liftM (seconds (α := α) characters))
  | group {seen : List (List Char)} {inner : Expression} {result : Result α α}
      (inside : Evaluates scope seen inner result) : Evaluates scope seen (.group inner) result
  | leftFault {seen : List (List Char)} {operator : Operator} {left right : Expression}
      {fault : Fault α} (fails : Evaluates scope seen left (.error fault)) :
      Evaluates scope seen (.operation operator left right) (.error fault)
  | rightFault {seen : List (List Char)} {operator : Operator} {left right : Expression} {x : α}
      {fault : Fault α} (first : Evaluates scope seen left (.ok x))
      (fails : Evaluates scope seen right (.error fault)) :
      Evaluates scope seen (.operation operator left right) (.error fault)
  | operation {seen : List (List Char)} {operator : Operator} {left right : Expression} {x y : α}
      (first : Evaluates scope seen left (.ok x)) (second : Evaluates scope seen right (.ok y)) :
      Evaluates scope seen (.operation operator left right)
        (apply operator x y (.operation operator left right))
  | cycle {seen : List (List Char)} {name : List Char} (repeated : name ∈ seen) :
      Evaluates scope seen (.reference name) (refuse name .cycle)
  | astray {seen : List (List Char)} {name : List Char} {fault : Fault α} (fresh : name ∉ seen)
      (led : lead scope name = .error fault) :
      Evaluates scope seen (.reference name) (.error fault)
  | number {seen : List (List Char)} {name : List Char} {x : α} (fresh : name ∉ seen)
      (led : lead scope name = .ok (.inl x)) : Evaluates scope seen (.reference name) (.ok x)
  | text {seen : List (List Char)} {name : List Char} {found : Expression} {result : Result α α}
      (fresh : name ∉ seen) (led : lead scope name = .ok (.inr found))
      (further : Evaluates scope (name :: seen) found result) :
      Evaluates scope seen (.reference name) result

variable {scope : Scope α} {seen names : List (List Char)} {expression : Expression}

/-- An expression comes to one result. -/
theorem Evaluates.unique {result other : Result α α} (first : Evaluates scope seen expression result)
    (second : Evaluates scope seen expression other) : other = result := by
  induction first generalizing other with
  | time =>
      cases second
      rfl
  | group _ ih =>
      cases second with
      | group inside => exact ih inside
  | leftFault _ ih =>
      cases second with
      | leftFault fails => rw [Except.error.inj (ih fails)]
      | rightFault first _ | operation first _ => cases ih first
  | rightFault _ _ leftIh rightIh =>
      cases second with
      | leftFault fails => cases leftIh fails
      | rightFault _ fails => rw [Except.error.inj (rightIh fails)]
      | operation _ second => cases rightIh second
  | operation _ _ leftIh rightIh =>
      cases second with
      | leftFault fails => cases leftIh fails
      | rightFault _ fails => cases rightIh fails
      | operation first second =>
          cases leftIh first
          cases rightIh second
          rfl
  | cycle repeated =>
      cases second with
      | cycle => rfl
      | astray fresh _ | number fresh _ | text fresh _ _ => exact absurd repeated fresh
  | astray fresh led =>
      cases second with
      | cycle repeated => exact absurd repeated fresh
      | astray _ again | number _ again | text _ again _ => simp_all
  | number fresh led =>
      cases second with
      | cycle repeated => exact absurd repeated fresh
      | astray _ again | number _ again | text _ again _ => simp_all
  | text fresh led _ ih =>
      cases second with
      | cycle repeated => exact absurd repeated fresh
      | astray _ again | number _ again => simp_all
      | text _ again further =>
          cases led.symm.trans again
          exact ih further

/-! ## What can be reached -/

/-- References that lead to no others. -/
def IsClosed (scope : Scope α) (reach : List (List Char)) : Prop :=
  ∀ name ∈ reach, ∀ found, lead scope name = .ok (.inr found) → found.references ⊆ reach

omit [Scalar α] in
theorem references_subset_followable (scope : Scope α) (expression : Expression) :
    expression.references ⊆ followable scope expression := by
  rw [followable]
  split
  · rename_i none
    rw [List.isEmpty_iff.mp none]
    exact List.nil_subset _
  · exact List.subset_append_left _ _

/-- What may be followed from an expression leads to nothing else. -/
theorem isClosed_followable (scope : Scope α) (expression : Expression) :
    IsClosed scope (followable scope expression) := by
  rw [followable]
  split
  · exact fun name reached => absurd reached List.not_mem_nil
  · exact fun name _ found led =>
      List.Subset.trans (references_subset_of_lead led) (List.subset_append_right _ _)

/-- What may be followed behind a reference is what has not been seen then. -/
theorem mem_following_iff {reach : List (List Char)} {name : List Char}
    (split : ∀ other ∈ reach, other ∈ names ↔ other ∉ seen) :
    ∀ other ∈ reach, other ∈ following name names ↔ other ∉ name :: seen := by
  intro other reached
  rw [following, List.mem_filter, split other reached, List.mem_cons, not_or, and_comm,
    bne_iff_ne]

/-- While the references that may be followed are those that have not been seen,
`evaluate` finds what an expression comes to. -/
theorem evaluates_evaluate {reach : List (List Char)} (closed : IsClosed scope reach)
    (reached : expression.references ⊆ reach)
    (split : ∀ name ∈ reach, name ∈ names ↔ name ∉ seen) :
    Evaluates scope seen expression (evaluate scope names expression) := by
  -- along the calls of `evaluate`; `split` is kept as a reference goes from one list to the other
  induction names, expression using evaluate.induct generalizing seen with
  | case1 names characters =>
      rw [evaluate]
      exact .time characters
  | case2 names inner ih =>
      rw [evaluate]
      exact .group (ih reached split)
  | case3 names operator left right leftIh rightIh =>
      rw [Expression.references, List.append_subset] at reached
      have first := leftIh reached.1 split
      have second := rightIh reached.2 split
      rw [evaluate]
      cases leftValue : evaluate scope names left with
      | error fault => exact .leftFault (leftValue ▸ first)
      | ok x =>
          cases rightValue : evaluate scope names right with
          | error fault => exact .rightFault (leftValue ▸ first) (rightValue ▸ second)
          | ok y => exact .operation (leftValue ▸ first) (rightValue ▸ second)
  | case4 names name followed ih =>
      have inReach : name ∈ reach := reached (List.mem_singleton_self name)
      have fresh : name ∉ seen := (split name inReach).mp followed
      rw [evaluate_reference followed]
      cases led : lead scope name with
      | error fault => exact .astray fresh led
      | ok target =>
          cases target with
          | inl x => exact .number fresh led
          | inr found =>
              exact .text fresh led (ih found (closed name inReach found led) (mem_following_iff split))
  | case5 names name left =>
      have inReach : name ∈ reach := reached (List.mem_singleton_self name)
      rw [evaluate_reference_cycle left]
      exact .cycle (not_not.mp ((split name inReach).not.mp left))

/-- What an expression comes to is what `evaluate` finds. -/
theorem evaluates_iff {result : Result α α} :
    Evaluates scope [] expression result ↔
      evaluate scope (followable scope expression) expression = result := by
  have found : Evaluates scope [] expression
      (evaluate scope (followable scope expression) expression) :=
    evaluates_evaluate (isClosed_followable scope expression)
      (references_subset_followable scope expression) (by simp)
  constructor
  · exact fun evaluates => evaluates.unique found
  · rintro rfl
    exact found

end Montage.Duration
