import Montage.Proofs.Duration.Time
import Montage.Proofs.Result

/-!
# Texts and their tokens

A token that is read is valid and spelled by what is taken of the text.  A valid token is
read again in front of any text, a time only in front of a text that stops it.  Since
nothing but a time can go on with a time, a text is read as the tokens that spell it
whenever no two of them in a row are times.
-/

namespace Montage.Duration

open Text

/-! ## One token -/

theorem Operator.ofSign?_eq_some_iff {c : Char} {operator : Operator} :
    Operator.ofSign? c = some operator ↔ c = operator.sign := by
  constructor
  · intro found
    unfold ofSign? at found
    split at found <;> cases found <;> rfl
  · rintro rfl
    cases operator <;> rfl

theorem Operator.ofSign?_eq_none {c : Char} (start : isDigit c = true ∨ c = '.' ∨ c = ',') :
    Operator.ofSign? c = none := by
  by_contra found
  obtain ⟨operator, found⟩ := Option.ne_none_iff_exists'.mp found
  obtain rfl := Operator.ofSign?_eq_some_iff.mp found
  cases operator <;> revert start <;> decide

/-- A token that is read is valid, and the text goes on behind its characters. -/
theorem token?_sound {text after : List Char} {token : Token}
    (found : token? text = some (token, after)) :
    token.IsValid ∧ text = token.characters ++ after := by
  unfold token? at found
  split at found
  case h_1 => contradiction
  case h_2 => cases found; exact ⟨trivial, rfl⟩
  case h_3 => cases found; exact ⟨trivial, rfl⟩
  case h_4 rest =>
    split at found
    · rename_i closed
      dsimp only at found
      split at found
      · contradiction
      · rename_i nonempty
        cases found
        refine ⟨⟨by simpa using nonempty, fun c => List.mem_takeWhile_imp⟩, ?_⟩
        simp only [Token.characters, Expression.referenceText, List.cons_append, List.append_assoc,
          List.nil_append, ← closed, List.takeWhile_append_dropWhile]
    · contradiction
  case h_5 => contradiction
  case h_6 c rest _ _ _ colon =>
    split at found
    · rename_i sign
      cases found
      exact ⟨trivial, by rw [Operator.ofSign?_eq_some_iff.mp sign]; rfl⟩
    · dsimp only at found
      split at found
      · contradiction
      · rename_i nonempty
        cases found
        have whole := spanTime_append false (c :: rest)
        refine ⟨(tail_spanTime false _).isTime (by simpa using nonempty) ?_, whole.symm⟩
        intro head
        obtain ⟨more, begins⟩ := List.head?_eq_some_iff.mp head
        rw [begins, List.cons_append] at whole
        exact colon (List.cons.inj whole).1.symm

/-- Whether a token is a time. -/
def Token.isTime : Token → Bool
  | time _ => true
  | _ => false

theorem token?_time {time after : List Char} (isTime : IsTime time) (ends : Stops after) :
    token? (time ++ after) = some (.time time, after) := by
  have reads := spanTime_tail isTime.tail ends
  obtain ⟨c, rest, rfl, start⟩ := isTime.exists_head
  rw [List.cons_append] at reads ⊢
  have plain : c ≠ '(' ∧ c ≠ ')' ∧ c ≠ '{' ∧ c ≠ ':' := by
    refine ⟨?_, ?_, ?_, ?_⟩ <;> rintro rfl <;> revert start <;> decide
  unfold token?
  have unsigned := Operator.ofSign?_eq_none start
  split <;> simp_all

/-- A valid token is read in front of any text, a time in front of one that stops it. -/
theorem token?_complete {token : Token} {after : List Char} (valid : token.IsValid)
    (ends : token.isTime = true → Stops after) :
    token? (token.characters ++ after) = some (token, after) := by
  match token with
  | .opening => rfl
  | .closing => rfl
  | .operator .add => rfl
  | .operator .subtract => rfl
  | .operator .multiply => rfl
  | .operator .divide => rfl
  | .reference name =>
    obtain ⟨nonempty, plain⟩ := valid
    have stop : isNameCharacter '}' = false := by decide
    simp [Token.characters, Expression.referenceText, token?,
      List.dropWhile_append_of_pos plain, List.takeWhile_append_of_pos plain, stop, nonempty]
  | .time time => exact token?_time valid (ends rfl)

/-- There is no white space between the blank and the end of ASCII. -/
theorem not_isBlank_of_toNat {c : Char} (lower : 0x20 < c.toNat) (upper : c.toNat < 0x80) :
    isBlank c = false := by
  simp [isBlank]
  omega

theorem not_isBlank_of_isNameCharacter {c : Char} (plain : isNameCharacter c = true) :
    isBlank c = false := by
  suffices range : 0x20 < c.toNat ∧ c.toNat < 0x80 by
    exact not_isBlank_of_toNat range.1 range.2
  simp [isNameCharacter, Char.isAlphanum, Char.isAlpha, Char.isUpper, Char.isLower, Char.isDigit,
    UInt32.le_iff_toNat_le, or_assoc] at plain
  rcases plain with letter | letter | digit | rfl | rfl | rfl
  · omega
  · omega
  · omega
  all_goals decide

/-- There is no white space inside a token. -/
theorem Token.IsValid.not_isBlank {token : Token} (valid : token.IsValid) :
    ∀ c ∈ token.characters, isBlank c = false := by
  cases token with
  | opening => exact List.forall_mem_singleton.mpr (by decide)
  | closing => exact List.forall_mem_singleton.mpr (by decide)
  | operator operator => exact List.forall_mem_singleton.mpr (by cases operator <;> decide)
  | reference name =>
    have inside : ∀ c ∈ name, isBlank c = false := fun c member =>
      not_isBlank_of_isNameCharacter (valid.2 c member)
    have front : isBlank '{' = false := by decide
    have back : isBlank '}' = false := by decide
    rw [characters, Expression.referenceText, List.forall_mem_append, List.forall_mem_cons,
      List.forall_mem_singleton]
    exact ⟨⟨front, inside⟩, back⟩
  | time written => exact (IsTime.tail valid).not_isBlank

theorem Token.IsValid.characters_ne_nil {token : Token} (valid : token.IsValid) :
    token.characters ≠ [] := by
  cases token with
  | time written =>
    obtain ⟨c, rest, rfl, -⟩ := IsTime.exists_head valid
    exact List.cons_ne_nil c rest
  | _ => exact List.cons_ne_nil _ _

/-- No time goes on into another token than a time. -/
theorem Token.stops {token : Token} (plain : token.isTime = false) (rest : List Char) :
    Stops (token.characters ++ rest) := by
  cases token with
  | time => contradiction
  | operator operator => rintro c ⟨⟩; cases operator <;> decide
  | _ => rintro c ⟨⟩; decide

/-! ## All tokens -/

/-- What is read as the tokens of a text: the first of them behind white space, and those
of the rest. -/
theorem tokensOf_eq_ok_iff {text : List Char} {tokens : List Token} :
    tokensOf text = .ok tokens ↔
      trimFront text = [] ∧ tokens = [] ∨
        ∃ token after others, token? (trimFront text) = some (token, after) ∧
          tokensOf after = .ok others ∧ tokens = token :: others := by
  rw [tokensOf]
  split
  · rename_i ended
    simp [ended, token?, eq_comm]
  · rename_i c rest begun
    split
    · rename_i found
      simp [begun, found]
    · rename_i token after found
      simp only [begun, found, Result.bind_eq_ok_iff, Result.pure_eq_ok_iff]
      simp [eq_comm]

theorem Spells.cons {rest : List Char} {token : Token} {tokens : List Token}
    (valid : token.IsValid) (spells : Spells rest tokens) :
    Spells (token.characters ++ rest) (token :: tokens) :=
  @Spells.token [] rest token tokens (List.forall_mem_nil _) valid spells

theorem Spells.prepend_blanks {blanks text : List Char} {tokens : List Token}
    (blank : ∀ c ∈ blanks, isBlank c = true) (spells : Spells text tokens) :
    Spells (blanks ++ text) tokens := by
  cases spells with
  | nothing further => exact .nothing (List.forall_mem_append.mpr ⟨blank, further⟩)
  | token further valid spells =>
      rw [← List.append_assoc, ← List.append_assoc]
      exact .token (List.forall_mem_append.mpr ⟨blank, further⟩) valid spells

theorem spells_of_trimFront {text : List Char} {tokens : List Token}
    (spells : Spells (trimFront text) tokens) : Spells text tokens := by
  rw [← List.takeWhile_append_dropWhile (p := isBlank) (l := text)]
  exact spells.prepend_blanks fun c => List.mem_takeWhile_imp

/-- The tokens that are read spell the text. -/
theorem spells_of_tokensOf {text : List Char} {tokens : List Token}
    (read : tokensOf text = .ok tokens) : Spells text tokens := by
  induction tokens generalizing text with
  | nil =>
      rcases tokensOf_eq_ok_iff.mp read with ⟨ended, -⟩ | ⟨_, _, _, _, _, impossible⟩
      · apply spells_of_trimFront
        rw [ended]
        exact .nothing (by simp)
      · contradiction
  | cons token tokens ih =>
      rcases tokensOf_eq_ok_iff.mp read with ⟨_, impossible⟩ | ⟨_, after, _, found, read, rfl, rfl⟩
      · contradiction
      · obtain ⟨valid, split⟩ := token?_sound found
        apply spells_of_trimFront
        rw [split]
        exact (ih read).cons valid

/-- Whether no time goes on from the first token into the second. -/
def Apart (first second : Token) : Prop :=
  first.isTime = true → second.isTime = false

/-- No time goes on into what other tokens spell. -/
theorem stops_of_spells {text : List Char} {tokens : List Token} (spells : Spells text tokens)
    (plain : ∀ token ∈ tokens.head?, token.isTime = false) : Stops text := by
  cases spells with
  | nothing blank =>
      match text, blank with
      | [], _ => exact stops_nil
      | c :: text, blank => exact stops_of_isBlank (blank c List.mem_cons_self)
  | @token blanks rest token tokens blank valid spells =>
      match blanks, blank with
      | [], _ => exact Token.stops (plain token rfl) rest
      | c :: blanks, blank => exact stops_of_isBlank (blank c List.mem_cons_self)

theorem trimFront_blanks {blanks : List Char} (blank : ∀ c ∈ blanks, isBlank c = true) :
    trimFront blanks = [] :=
  List.dropWhile_eq_nil_iff.mpr blank

theorem trimFront_token {token : Token} {blanks rest : List Char}
    (blank : ∀ c ∈ blanks, isBlank c = true) (valid : token.IsValid) :
    trimFront (blanks ++ token.characters ++ rest) = token.characters ++ rest := by
  have nonempty := valid.characters_ne_nil
  have plain := valid.not_isBlank
  rw [List.append_assoc, trimFront, List.dropWhile_append_of_pos blank]
  match token.characters, nonempty, plain with
  | c :: characters, _, plain => simp [plain c List.mem_cons_self]

/-- A text is read as the tokens that spell it unless two times are next to each other. -/
theorem tokensOf_of_spells {text : List Char} {tokens : List Token} (spells : Spells text tokens)
    (apart : tokens.IsChain Apart) : tokensOf text = .ok tokens := by
  induction spells with
  | nothing blank => exact tokensOf_eq_ok_iff.mpr (.inl ⟨trimFront_blanks blank, rfl⟩)
  | @token blanks rest token tokens blank valid spells ih =>
      -- behind a time comes white space, the end, or a token that is no time
      have ends : token.isTime = true → Stops rest := fun isTime =>
        stops_of_spells spells fun next first => by
          obtain ⟨others, rfl⟩ := List.head?_eq_some_iff.mp first
          exact (List.isChain_cons_cons.mp apart).1 isTime
      refine tokensOf_eq_ok_iff.mpr (.inr ⟨token, rest, tokens, ?_, ih apart.tail, rfl⟩)
      rw [trimFront_token blank valid]
      exact token?_complete valid ends

/-! ## White space -/

theorem Spells.append_blanks {text blanks : List Char} {tokens : List Token}
    (spells : Spells text tokens) (blank : ∀ c ∈ blanks, isBlank c = true) :
    Spells (text ++ blanks) tokens := by
  induction spells with
  | nothing front => exact .nothing (List.forall_mem_append.mpr ⟨front, blank⟩)
  | token front valid _ ih =>
      rw [List.append_assoc]
      exact .token front valid ih

theorem exists_trimBack (text : List Char) :
    ∃ blanks, (∀ c ∈ blanks, isBlank c = true) ∧ text = trimBack text ++ blanks := by
  refine ⟨(text.reverse.takeWhile isBlank).reverse, ?_, ?_⟩
  · intro c member
    exact List.mem_takeWhile_imp (List.mem_reverse.mp member)
  · rw [trimBack, ← List.reverse_append, List.takeWhile_append_dropWhile, List.reverse_reverse]

theorem trimBack_append {front back : List Char}
    (ends : ∀ c ∈ front.getLast?, isBlank c = false) :
    trimBack (front ++ back) = front ++ trimBack back := by
  rw [trimBack, List.reverse_append, List.dropWhile_append, trimBack]
  split
  · rename_i blank
    rw [List.isEmpty_iff.mp blank, List.reverse_nil, List.append_nil]
    rcases List.eq_nil_or_concat front with rfl | ⟨front, c, rfl⟩
    · rfl
    · have plain : isBlank c = false := ends c (by simp)
      simp [plain]
  · rw [List.reverse_append, List.reverse_reverse]

/-- White space at the end of a text is not spelled by any token. -/
theorem spells_trimBack_iff {text : List Char} {tokens : List Token} :
    Spells (trimBack text) tokens ↔ Spells text tokens := by
  constructor
  · intro spells
    obtain ⟨blanks, blank, split⟩ := exists_trimBack text
    rw [split]
    exact spells.append_blanks blank
  · intro spells
    induction spells with
    | @nothing blanks blank =>
        have reversed : ∀ c ∈ blanks.reverse, isBlank c = true := fun c member =>
          blank c (List.mem_reverse.mp member)
        rw [trimBack, List.dropWhile_eq_nil_iff.mpr reversed]
        exact .nothing (by simp)
    | @token blanks rest token tokens blank valid spells ih =>
        rw [trimBack_append]
        · exact .token blank valid ih
        · intro c last
          rw [List.getLast?_append_of_ne_nil _ valid.characters_ne_nil] at last
          exact valid.not_isBlank c (List.mem_of_getLast? last)

theorem Spells.trimFront {text : List Char} {tokens : List Token} (spells : Spells text tokens) :
    Spells (trimFront text) tokens := by
  cases spells with
  | nothing blank =>
      rw [trimFront_blanks blank]
      exact .nothing (by simp)
  | token blank valid spells =>
      rw [trimFront_token blank valid]
      exact spells.cons valid

theorem spells_trim_iff {text : List Char} {tokens : List Token} :
    Spells (trim text) tokens ↔ Spells text tokens :=
  spells_trimBack_iff.trans ⟨spells_of_trimFront, Spells.trimFront⟩

/-- The characters of the tokens are those of the text without white space. -/
theorem Spells.flatMap_characters {text : List Char} {tokens : List Token}
    (spells : Spells text tokens) :
    tokens.flatMap Token.characters = text.filter (fun c => !isBlank c) := by
  induction spells with
  | nothing blank => simpa using blank
  | @token blanks rest token tokens blank valid _ ih =>
      have front : blanks.filter (fun c => !isBlank c) = [] := by simpa using blank
      have kept : token.characters.filter (fun c => !isBlank c) = token.characters := by
        simpa using valid.not_isBlank
      rw [List.flatMap_cons, ih, List.filter_append, List.filter_append, front, kept,
        List.nil_append]

theorem spells_of_tokens {text : List Char} {found : List Token}
    (read : tokens text = .ok found) : Spells text found :=
  spells_trimBack_iff.mp (spells_of_tokensOf read)

theorem tokens_of_spells {text : List Char} {found : List Token} (spells : Spells text found)
    (apart : found.IsChain Apart) : tokens text = .ok found :=
  tokensOf_of_spells (spells_trimBack_iff.mpr spells) apart

end Montage.Duration
