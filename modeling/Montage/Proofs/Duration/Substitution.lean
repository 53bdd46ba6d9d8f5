import Montage.Proofs.Duration.Evaluation

/-!
# A reference means its definition in parentheses

The references that have been seen decide about faults only.  `Denotes` gives a value to
an expression without them, by a derivation of some depth, and no derivation of a value
goes around in a cycle: what is reached from a reference lies less deep than the
reference, so if the same reference is reached again, its value has a derivation that is
less deep as well.  For `Denotes` a reference and its definition are the same wherever
they stand.
-/

namespace Montage.Duration

variable {α : Type} [Scalar α]

/-- A value of an expression, where at most `depth` references to texts stand behind one
another. -/
inductive Means (scope : Scope α) : Nat → Expression → α → Prop where
  | time {depth : Nat} {characters : List Char} {x : α}
      (spelled : (liftM (seconds (α := α) characters) : Result α α) = .ok x) :
      Means scope depth (.time characters) x
  | group {depth : Nat} {inner : Expression} {x : α} (inside : Means scope depth inner x) :
      Means scope depth (.group inner) x
  | operation {depth : Nat} {operator : Operator} {left right : Expression} {x y z : α}
      (first : Means scope depth left x) (second : Means scope depth right y)
      (applied : apply operator x y (.operation operator left right) = .ok z) :
      Means scope depth (.operation operator left right) z
  | number {depth : Nat} {name : List Char} {x : α} (led : lead scope name = .ok (.inl x)) :
      Means scope depth (.reference name) x
  | text {depth : Nat} {name : List Char} {found : Expression} {x : α}
      (led : lead scope name = .ok (.inr found)) (further : Means scope depth found x) :
      Means scope (depth + 1) (.reference name) x

/-- A value of an expression, whatever has been seen. -/
def Denotes (scope : Scope α) (expression : Expression) (x : α) : Prop :=
  ∃ depth, Means scope depth expression x

variable {scope : Scope α} {seen : List (List Char)} {depth : Nat} {expression : Expression}
  {x y : α}

theorem Means.mono {greater : Nat} (means : Means scope depth expression x)
    (le : depth ≤ greater) : Means scope greater expression x := by
  induction means generalizing greater with
  | time spelled => exact .time spelled
  | group _ ih => exact .group (ih le)
  | operation _ _ applied leftIh rightIh => exact .operation (leftIh le) (rightIh le) applied
  | number led => exact .number led
  | text led _ ih =>
      obtain ⟨greater, rfl⟩ := Nat.exists_eq_add_of_lt le
      exact .text led (ih (by omega))

theorem Means.unique {other : Nat} (means : Means scope depth expression x)
    (again : Means scope other expression y) : y = x := by
  induction means generalizing other y with
  | time spelled =>
      cases again with
      | time again => exact Except.ok.inj (again.symm.trans spelled)
  | group _ ih =>
      cases again with
      | group inside => exact ih inside
  | operation _ _ applied leftIh rightIh =>
      cases again with
      | operation first second again =>
          cases leftIh first
          cases rightIh second
          exact Except.ok.inj (again.symm.trans applied)
  | number led =>
      cases again with
      | number again | text again _ => simp_all
  | text led _ ih =>
      cases again with
      | number again => simp_all
      | text again further =>
          cases led.symm.trans again
          exact ih further

/-! ## What has been seen -/

/-- An expression has every value that it comes to. -/
theorem Evaluates.denotes (evaluates : Evaluates scope seen expression (.ok x)) :
    Denotes scope expression x := by
  generalize result : (Except.ok x : Result α α) = found at evaluates
  induction evaluates generalizing x with
  | time => exact ⟨0, .time result.symm⟩
  | group _ ih =>
      obtain ⟨depth, inside⟩ := ih result
      exact ⟨depth, .group inside⟩
  | operation _ _ leftIh rightIh =>
      obtain ⟨leftDepth, first⟩ := leftIh rfl
      obtain ⟨rightDepth, second⟩ := rightIh rfl
      exact ⟨max leftDepth rightDepth, .operation (first.mono (le_max_left _ _))
        (second.mono (le_max_right _ _)) result.symm⟩
  | number _ led =>
      cases result
      exact ⟨0, .number led⟩
  | text _ led _ ih =>
      obtain ⟨depth, further⟩ := ih result
      exact ⟨depth + 1, .text led further⟩
  | leftFault | rightFault | astray => contradiction
  | cycle => exact absurd result (by simp [refuse])

/-- An expression comes to its value unless a reference that has been seen has a value
that is not deeper.  A reference that is reached from itself has the value less deep, and
so it comes to the value without being followed that far. -/
theorem Means.evaluates (means : Means scope depth expression x) (seen : List (List Char)) :
    Evaluates scope seen expression (.ok x) ∨
      ∃ name ∈ seen, ∃ y, Means scope depth (.reference name) y := by
  induction depth using Nat.strong_induction_on generalizing expression x seen with
  | _ depth less =>
      induction expression generalizing x with
      | time characters =>
          cases means with
          | time spelled => exact .inl (spelled ▸ .time characters)
      | group inner ih =>
          cases means with
          | group inside => exact (ih inside).imp_left .group
      | operation operator left right leftIh rightIh =>
          cases means with
          | operation first second applied =>
              rcases leftIh first with first | before
              · rcases rightIh second with second | before
                · exact .inl (applied ▸ .operation first second)
                · exact .inr before
              · exact .inr before
      | reference name =>
          rcases Classical.em (name ∈ seen) with repeated | fresh
          · exact .inr ⟨name, repeated, x, means⟩
          · cases means with
            | number led => exact .inl (.number fresh led)
            | @text depth _ found _ led further =>
                have behind := Nat.lt_succ_self depth
                rcases less depth behind further (name :: seen) with
                  evaluates | ⟨other, inSeen, y, shallow⟩
                · exact .inl (.text fresh led evaluates)
                · rcases List.mem_cons.mp inSeen with rfl | inSeen
                  -- reached from itself: the value there is the same, and less deep
                  · cases (Means.text led further).unique shallow
                    exact (less depth behind shallow seen).imp_right
                      fun ⟨name, member, z, before⟩ => ⟨name, member, z, before.mono behind.le⟩
                  · exact .inr ⟨other, inSeen, y, shallow.mono behind.le⟩

/-- The value of an expression is what it comes to when nothing has been seen. -/
theorem denotes_iff : Denotes scope expression x ↔
    evaluate scope (followable scope expression) expression = .ok x := by
  rw [← evaluates_iff]
  constructor
  · rintro ⟨depth, means⟩
    rcases means.evaluates [] with evaluates | ⟨name, member, -⟩
    · exact evaluates
    · exact absurd member List.not_mem_nil
  · exact Evaluates.denotes

/-! ## Values of the parts -/

theorem denotes_group_iff {inner : Expression} :
    Denotes scope (.group inner) x ↔ Denotes scope inner x := by
  constructor
  · rintro ⟨depth, _ | inside⟩
    exact ⟨depth, inside⟩
  · rintro ⟨depth, inside⟩
    exact ⟨depth, .group inside⟩

/-- The value of an operation does not depend on the expression that it belongs to. -/
theorem apply_eq_ok_congr {operator : Operator} {z : α} {whole other : Expression}
    (applied : apply operator x y whole = .ok z) : apply operator x y other = .ok z := by
  cases operator with
  | divide =>
      simp only [apply] at applied ⊢
      split at applied <;> simp_all
  | add | subtract | multiply => exact applied

/-- An operation has the values of its operator on values of its operands. -/
theorem denotes_operation_iff {operator : Operator} {left right : Expression} {z : α}
    (whole : Expression) :
    Denotes scope (.operation operator left right) z ↔
      ∃ x y, Denotes scope left x ∧ Denotes scope right y ∧ apply operator x y whole = .ok z := by
  constructor
  · rintro ⟨depth, means⟩
    cases means with
    | operation first second applied =>
        exact ⟨_, _, ⟨depth, first⟩, ⟨depth, second⟩, apply_eq_ok_congr applied⟩
  · rintro ⟨x, y, ⟨leftDepth, first⟩, ⟨rightDepth, second⟩, applied⟩
    exact ⟨max leftDepth rightDepth, .operation (first.mono (le_max_left _ _))
      (second.mono (le_max_right _ _)) (apply_eq_ok_congr applied)⟩

/-- A reference that stands for a text has the values of what is read from the text. -/
theorem denotes_reference_iff {name : List Char} {definition : String}
    (defined : meaning scope name = .ok (.text definition)) :
    Denotes scope (.reference name) x ↔
      ∃ inner, (read definition : Result α Expression) = .ok inner ∧ Denotes scope inner x := by
  have led : lead scope name = Sum.inr <$> read definition := lead_of_meaning_text defined
  constructor
  · rintro ⟨depth, means⟩
    cases means with
    | number found =>
        obtain ⟨inner, -, differs⟩ := Result.map_eq_ok_iff.mp (led.symm.trans found)
        contradiction
    | text found further =>
        obtain ⟨inner, read, same⟩ := Result.map_eq_ok_iff.mp (led.symm.trans found)
        cases same
        exact ⟨_, read, _, further⟩
  · rintro ⟨inner, read, depth, further⟩
    exact ⟨depth + 1, .text (led.trans (by rw [read]; rfl)) further⟩

/-! ## Places in an expression -/

/-- An expression with a place left open. -/
inductive Context where
  | hole
  | left (operator : Operator) (context : Context) (right : Expression)
  | right (operator : Operator) (left : Expression) (context : Context)
  | group (context : Context)

/-- Puts an expression in the open place. -/
def Context.fill : Context → Expression → Expression
  | hole, part => part
  | left operator context other, part => .operation operator (context.fill part) other
  | right operator other context, part => .operation operator other (context.fill part)
  | group context, part => .group (context.fill part)

/-- The references of an expression are those that stand in a place of it. -/
theorem mem_references_iff {name : List Char} :
    name ∈ expression.references ↔
      ∃ context : Context, expression = context.fill (.reference name) := by
  constructor
  · intro member
    induction expression with
    | time => contradiction
    | reference other =>
        cases List.mem_singleton.mp member
        exact ⟨.hole, rfl⟩
    | operation operator left right leftIh rightIh =>
        rcases List.mem_append.mp member with inLeft | inRight
        · obtain ⟨context, rfl⟩ := leftIh inLeft
          exact ⟨.left operator context right, rfl⟩
        · obtain ⟨context, rfl⟩ := rightIh inRight
          exact ⟨.right operator left context, rfl⟩
    | group inner ih =>
        obtain ⟨context, rfl⟩ := ih member
        exact ⟨.group context, rfl⟩
  · rintro ⟨context, rfl⟩
    induction context with
    | hole => exact List.mem_singleton_self name
    | left operator context right ih => exact List.mem_append_left _ ih
    | right operator left context ih => exact List.mem_append_right _ ih
    | group context ih => exact ih

/-- An expression has the same values with another part in a place of it, if the parts
have the same values. -/
theorem denotes_fill_congr {part other : Expression}
    (same : ∀ y, Denotes scope part y ↔ Denotes scope other y) (context : Context) :
    Denotes scope (context.fill part) x ↔ Denotes scope (context.fill other) x := by
  induction context generalizing x with
  | hole => exact same x
  | left operator context right ih =>
      simp only [Context.fill, denotes_operation_iff right, ih]
  | right operator left context ih =>
      simp only [Context.fill, denotes_operation_iff left, ih]
  | group context ih => simp only [Context.fill, denotes_group_iff, ih]

/-- An expression has a value only where its parts have one. -/
theorem exists_denotes_of_fill {part : Expression} {context : Context}
    (denotes : Denotes scope (context.fill part) x) : ∃ y, Denotes scope part y := by
  induction context generalizing x with
  | hole => exact ⟨x, denotes⟩
  | left operator context right ih =>
      obtain ⟨y, -, first, -⟩ := (denotes_operation_iff right).mp denotes
      exact ih first
  | right operator left context ih =>
      obtain ⟨-, y, -, second, -⟩ := (denotes_operation_iff left).mp denotes
      exact ih second
  | group context ih => exact ih (denotes_group_iff.mp denotes)

/-- A reference that stands for a text may be replaced by what is read from the text, in
parentheses. -/
theorem denotes_fill_reference_iff {name : List Char} {definition : String}
    (defined : meaning scope name = .ok (.text definition)) (context : Context) :
    Denotes scope (context.fill (.reference name)) x ↔
      ∃ inner, (read definition : Result α Expression) = .ok inner ∧
        Denotes scope (context.fill (.group inner)) x := by
  have replaced {inner : Expression}
      (written : (read definition : Result α Expression) = .ok inner) :
      Denotes scope (context.fill (.reference name)) x ↔
        Denotes scope (context.fill (.group inner)) x := by
    refine denotes_fill_congr (fun y => ?_) context
    rw [denotes_reference_iff defined, denotes_group_iff, written]
    simp
  constructor
  · intro denotes
    obtain ⟨y, part⟩ := exists_denotes_of_fill denotes
    obtain ⟨inner, written, -⟩ := (denotes_reference_iff defined).mp part
    exact ⟨inner, written, (replaced written).mp denotes⟩
  · rintro ⟨inner, written, denotes⟩
    exact (replaced written).mpr denotes

/-- What can be written can be written with a group in the place of a reference. -/
theorem Expression.IsWritable.fill_group {context : Context} {name : List Char} {inner : Expression}
    (writable : (context.fill (.reference name)).IsWritable) (inside : inner.IsWritable) :
    (context.fill (.group inner)).IsWritable := by
  induction context with
  | hole => exact inside
  | left operator context right ih =>
      obtain ⟨leftWritable, rightWritable, operand⟩ := writable
      refine ⟨ih leftWritable, rightWritable, ?_⟩
      cases context <;> first | rfl | contradiction
  | right operator left context ih =>
      obtain ⟨leftWritable, rightWritable, operand⟩ := writable
      exact ⟨leftWritable, ih rightWritable, operand⟩
  | group context ih => exact ih writable

/-! ## References and their definitions -/

/-- A text has the values of the expression that is read from it. -/
theorem ofValue_text_eq_ok_iff {source : String} :
    ofValue scope (.text source) = .ok x ↔
      ∃ found, (read source : Result α Expression) = .ok found ∧ Denotes scope found x := by
  simp only [ofValue, Result.bind_eq_ok_iff, denotes_iff]

omit [Scalar α] in
theorem isWritable_of_read {source : String} {found : Expression}
    (written : (read source : Result α Expression) = .ok found) : found.IsWritable := by
  simp only [read] at written
  split at written
  · rename_i parsed
    cases written
    exact (derives_of_parse parsed).isWritable
  · contradiction

omit [Scalar α] in
theorem Expression.IsWritable.read_text (writable : expression.IsWritable) :
    (read expression.text : Result α Expression) = .ok expression := by
  have parsed : parse (String.ofList (Text.trim expression.text.toList)) = .ok expression :=
    (derives_trim_iff.mpr writable.derives).parse
  simp only [read, parsed]

/-- A reference means its definition in parentheses.  In a text with a reference that
stands for another text, the other text may be put in parentheses in any place of the
reference: the first text has a value exactly if the other one can be read and the
expression with it in place has the same value, evaluated from the beginning or written
out and read again. -/
theorem definition_in_place {source definition : String} {name : List Char}
    (written : (read source : Result α Expression) = .ok expression)
    (member : name ∈ expression.references)
    (defined : meaning scope name = .ok (.text definition)) :
    (∃ context : Context, expression = context.fill (.reference name)) ∧
    ∀ context : Context, expression = context.fill (.reference name) → ∀ x : α,
      [ofValue scope (.text source) = .ok x,
        ∃ inner, (read definition : Result α Expression) = .ok inner ∧
          Evaluates scope [] (context.fill (.group inner)) (.ok x),
        ∃ inner, (read definition : Result α Expression) = .ok inner ∧
          evaluate scope (followable scope (context.fill (.group inner)))
            (context.fill (.group inner)) = .ok x,
        ∃ inner, (read definition : Result α Expression) = .ok inner ∧
          ofValue scope (.text (context.fill (.group inner)).text) = .ok x].TFAE := by
  refine ⟨mem_references_iff.mp member, ?_⟩
  rintro context rfl x
  tfae_have 1 ↔ 2 := by
    rw [ofValue_text_eq_ok_iff, written]
    simp only [evaluates_iff, ← denotes_iff, Except.ok.injEq, exists_eq_left']
    exact denotes_fill_reference_iff defined context
  tfae_have 2 ↔ 3 := by simp only [evaluates_iff]
  tfae_have 3 ↔ 4 := by
    refine exists_congr fun inner => and_congr_right fun definitionRead => ?_
    have writable : (context.fill (.group inner)).IsWritable :=
      (isWritable_of_read written).fill_group (isWritable_of_read definitionRead)
    rw [ofValue_text_eq_ok_iff, writable.read_text, ← denotes_iff]
    simp
  tfae_finish

/-- Two keypoints, one of them twice the other. -/
def doubled : Scope ℚ :=
  ⟨[(.text "intro", .text "0:05"), (.text "outro", .text "\x7bintro\x7d * 2")], []⟩

/-- `{outro} + {intro}` is `({intro} * 2) + {intro}`, in which a reference stands twice
without a cycle. -/
theorem definition_in_place_outro :
    ofValue doubled (.text "\x7boutro\x7d + \x7bintro\x7d") = .ok 15 ∧
    ∃ inner, (read "\x7bintro\x7d * 2" : Result ℚ Expression) = .ok inner ∧
      ofValue doubled
        (.text (Expression.operation .add (.group inner) (.reference "intro".toList)).text) =
          .ok 15 := by
  have written : (read "\x7boutro\x7d + \x7bintro\x7d" : Result ℚ Expression) =
      .ok (.operation .add (.reference "outro".toList) (.reference "intro".toList)) := by
    cbv
  have defined : meaning doubled "outro".toList = .ok (.text "\x7bintro\x7d * 2") := by
    cbv
  have intro : Denotes doubled (.reference "intro".toList) 5 := by
    have defined : meaning doubled "intro".toList = .ok (.text "0:05") := by
      cbv
    have spelled : (liftM (seconds (α := ℚ) "0:05".toList) : Result ℚ ℚ) = .ok 5 :=
      Result.toOption_eq_some_iff.mp (by decide +kernel)
    exact (denotes_reference_iff defined).mpr ⟨.time "0:05".toList, by cbv, 0, .time spelled⟩
  have outro : Denotes doubled (.reference "outro".toList) 10 := by
    have spelled : (liftM (seconds (α := ℚ) "2".toList) : Result ℚ ℚ) = .ok 2 :=
      Result.toOption_eq_some_iff.mp (by decide +kernel)
    refine (denotes_reference_iff defined).mpr
      ⟨.operation .multiply (.reference "intro".toList) (.time "2".toList), by cbv, ?_⟩
    refine (denotes_operation_iff (.time [])).mpr ⟨5, 2, intro, ⟨0, .time spelled⟩, ?_⟩
    norm_num [apply]
  have evaluated : ofValue doubled (.text "\x7boutro\x7d + \x7bintro\x7d") = .ok 15 := by
    refine ofValue_text_eq_ok_iff.mpr ⟨_, written, ?_⟩
    refine (denotes_operation_iff (.time [])).mpr ⟨10, 5, outro, intro, ?_⟩
    norm_num [apply]
  have inPlace := (definition_in_place written List.mem_cons_self defined).2
    (.left .add .hole (.reference "intro".toList)) rfl 15
  exact ⟨evaluated, (inPlace.out 0 3).mp evaluated⟩

end Montage.Duration
