import Montage.Proofs.Rational
import Montage.Proofs.Render.Coalescer.Rounds
import Montage.Render.Watch.Threads

/-!
# What a watcher sees

A look at the watched paths goes from one to the next, so that each path has its own
moment in it.  This file says what every turn of the watcher does, what it has seen at a
path last, and how a change that it has not seen yet is carried on: up to its next glance at
the path the change is unseen, from there to the end of the look it is spotted, and at the
end of the look a request is made.  Times are rationals, which are equal only to
themselves.
-/

namespace Montage.Watch

theorem same_iff {left right : List (Option ℚ)} : same left right = true ↔ left = right := by
  induction left, right using same.induct with
  | case1 => simp [same]
  | case2 rest others ih => simp [same, ih]
  | case3 x rest y others ih => simp [same, ih]
  | case4 left right empty bothNone bothSome =>
      simp only [same, Bool.false_eq_true, false_iff]
      rintro rfl
      rcases left with _ | ⟨_ | x, rest⟩
      · exact empty rfl rfl
      · exact bothNone rest rest rfl rfl
      · exact bothSome x rest x rest rfl rfl

namespace Watcher

variable {watcher next final : Watcher ℚ} {turn : Turn ℚ} {turns : List (Turn ℚ)} {path : ℕ}

/-! ## Turns -/

/-- What a turn asks of a watcher, and what it makes of it. -/
inductive Step (watcher : Watcher ℚ) : Turn ℚ → Watcher ℚ → Prop
  | change {index : ℕ} {time : Option ℚ} (watched : index < watcher.times.length) :
      Step watcher (.change index time)
        { watcher with times := watcher.times.set index time }
  | render {turn : Coalescer.Turn} {threads : Coalescer.Threads} (inside : turn.move ≠ .call)
      (stepped : watcher.threads.step turn = some threads) :
      Step watcher (.render turn) { watcher with threads, stage := watcher.stageAfter turn }
  | lookFirst (first : watcher.stage = .first) (back : watcher.threads.place 0 = .outside) :
      Step watcher .look { watcher with stage := .baseline, seen := [] }
  | lookAgain (waits : watcher.stage = .waiting) :
      Step watcher .look { watcher with stage := .polling, seen := [] }
  | glance {time : Option ℚ} (looks : watcher.looking = true)
      (found : watcher.times[watcher.seen.length]? = some time) :
      Step watcher .glance { watcher with seen := watcher.seen ++ [time] }
  | settle (first : watcher.stage = .baseline)
      (complete : watcher.seen.length = watcher.times.length) :
      Step watcher .compare { watcher with stage := .waiting, last := watcher.seen }
  | ignore (polls : watcher.stage = .polling)
      (complete : watcher.seen.length = watcher.times.length)
      (unchanged : watcher.seen = watcher.last) :
      Step watcher .compare { watcher with stage := .waiting, last := watcher.seen }
  | notice (polls : watcher.stage = .polling)
      (complete : watcher.seen.length = watcher.times.length)
      (changed : watcher.seen ≠ watcher.last) :
      Step watcher .compare
        (notify { watcher with stage := .waiting, last := watcher.seen })

theorem looking_iff :
    watcher.looking = true ↔ watcher.stage = .baseline ∨ watcher.stage = .polling := by
  simp [looking]

private theorem step_of_look (stepped : watcher.look = some next) : Step watcher .look next := by
  rw [look] at stepped
  split at stepped
  · rename_i first back
    cases stepped
    exact .lookFirst first back
  · rename_i waits
    cases stepped
    exact .lookAgain waits
  · cases stepped

private theorem step_of_compare (stepped : watcher.compare = some next) :
    Step watcher .compare next := by
  rw [compare] at stepped
  split at stepped
  · rename_i looked
    rw [Bool.and_eq_true, looking_iff, beq_iff_eq] at looked
    rcases looked with ⟨first | polls, complete⟩
    · simp only [first, beq_self_eq_true, Bool.true_or, if_true, Option.some.injEq] at stepped
      subst stepped
      exact .settle first complete
    · have polling : (watcher.stage == Stage.baseline) = false := by
        rw [polls]
        rfl
      simp only [polling, Bool.false_or] at stepped
      split at stepped
      · rename_i unchanged
        cases stepped
        exact .ignore polls complete (same_iff.mp unchanged)
      · rename_i changed
        cases stepped
        exact .notice polls complete (same_iff.not.mp changed)
  · cases stepped

theorem step_of_eq_some (stepped : watcher.step turn = some next) : Step watcher turn next := by
  cases turn with
  | change index time =>
      simp only [step] at stepped
      split at stepped
      · rename_i watched
        cases stepped
        exact .change watched
      · cases stepped
  | render turn =>
      simp only [step] at stepped
      split at stepped
      · cases stepped
      · rename_i inside
        rcases Option.map_eq_some_iff.mp stepped with ⟨threads, moved, rfl⟩
        exact .render (fun calls => inside (beq_iff_eq.mpr calls)) moved
  | look => exact step_of_look stepped
  | glance =>
      simp only [step, glance] at stepped
      split at stepped
      · rename_i looks
        rcases Option.map_eq_some_iff.mp stepped with ⟨time, found, rfl⟩
        exact .glance looks found
      · cases stepped
  | compare => exact step_of_compare stepped

/-! ## The last glance at a path -/

/-- What the watcher has seen at a path last, if it has looked there already. -/
def glanced? (watcher : Watcher ℚ) (path : ℕ) : Option (Option ℚ) :=
  match watcher.stage with
  | .first | .ended => none
  | .baseline => watcher.seen[path]?
  | .waiting => watcher.last[path]?
  | .polling => watcher.seen[path]?.or watcher.last[path]?

/-- The path has changed since the last glance at it. -/
def Unseen (watcher : Watcher ℚ) (path : ℕ) : Prop :=
  ∃ time, watcher.glanced? path = some time ∧ watcher.times[path]? ≠ some time

/-- The look under way has seen a change at the path. -/
def Spotted (watcher : Watcher ℚ) (path : ℕ) : Prop :=
  watcher.stage = .polling ∧
    ∃ time, watcher.seen[path]? = some time ∧ watcher.last[path]? ≠ some time

/-- A change at the path has not led to a request yet. -/
def Unnoticed (watcher : Watcher ℚ) (path : ℕ) : Prop :=
  watcher.Unseen path ∨ watcher.Spotted path

/-- A turn takes a path back to the time at which it was seen last. -/
def Returns (watcher : Watcher ℚ) (path : ℕ) (turn : Turn ℚ) : Prop :=
  ∃ time, turn = .change path time ∧ watcher.glanced? path = some time

/-- A change at a path that has been looked at is unseen, unless it takes the path back. -/
theorem unseen_of_change {time seen : Option ℚ} (stepped : Step watcher (.change path time) next)
    (glanced : watcher.glanced? path = some seen) (differs : time ≠ seen) :
    next.Unseen path := by
  cases stepped with
  | change watched =>
      refine ⟨seen, glanced, ?_⟩
      rw [List.getElem?_set_self watched]
      simpa using differs

/-- What has been seen of some paths stays when more are looked at. -/
private theorem seen_of_append {seen : Option ℚ} (later : List (Option ℚ))
    (found : watcher.seen[path]? = some seen) :
    (watcher.seen ++ later)[path]? = some seen := by
  rwa [List.getElem?_append_left (List.getElem?_eq_some_iff.mp found).choose]

/-- A glance at a path turns a change there that is unseen into one that is spotted. -/
private theorem unnoticed_of_glance {time : Option ℚ} (looks : watcher.looking = true)
    (found : watcher.times[watcher.seen.length]? = some time)
    (unnoticed : watcher.Unnoticed path) :
    Unnoticed { watcher with seen := watcher.seen ++ [time] } path := by
  rcases looking_iff.mp looks with first | polls
  · rcases unnoticed with ⟨seen, glanced, differs⟩ | ⟨polls, _⟩
    · left
      refine ⟨seen, ?_, differs⟩
      simp only [glanced?, first] at glanced ⊢
      exact seen_of_append [time] glanced
    · simp [first] at polls
  · rcases unnoticed with ⟨seen, glanced, differs⟩ | ⟨_, seen, spotted, differs⟩
    · simp only [glanced?, polls] at glanced
      rcases Option.or_eq_some_iff.mp glanced with before | ⟨notYet, before⟩
      · left
        refine ⟨seen, ?_, differs⟩
        simp [glanced?, polls, seen_of_append [time] before]
      · by_cases here : watcher.seen.length = path
        · right
          subst here
          refine ⟨polls, time, by simp, ?_⟩
          rw [before, ← found]
          exact fun same => differs same.symm
        · left
          refine ⟨seen, ?_, differs⟩
          have behind : watcher.seen.length < path :=
            lt_of_le_of_ne (List.getElem?_eq_none_iff.mp notYet) here
          have still : (watcher.seen ++ [time])[path]? = none := by
            rw [List.getElem?_eq_none_iff, List.length_append, List.length_singleton]
            exact behind
          simp [glanced?, polls, still, before]
    · exact .inr ⟨polls, seen, seen_of_append [time] spotted, differs⟩

/-- A change that is unnoticed stays so until a look ends in a request, unless the path is
taken back. -/
theorem unnoticed_step (stepped : Step watcher turn next) (goesOn : turn ≠ .render ⟨0, .abort⟩)
    (keeps : ¬watcher.Returns path turn) (unnoticed : watcher.Unnoticed path) :
    next.Unnoticed path ∨ next.threads.place watcher.fresh = .asking := by
  cases stepped with
  | @change index time watched =>
      left
      rcases unnoticed with ⟨seen, glanced, differs⟩ | spotted
      · left
        by_cases here : index = path
        · subst here
          refine unseen_of_change (.change watched) glanced fun returns => ?_
          exact keeps ⟨time, rfl, returns ▸ glanced⟩
        · refine ⟨seen, glanced, ?_⟩
          rwa [List.getElem?_set_ne here]
      · exact .inr spotted
  | @render move threads inside moved =>
      left
      have stage : watcher.stageAfter move = watcher.stage := by
        rw [stageAfter, if_neg]
        intro aborts
        rw [beq_iff_eq] at aborts
        exact goesOn (congrArg Turn.render aborts)
      simpa only [Unnoticed, Unseen, Spotted, glanced?, stage] using unnoticed
  | lookFirst first back =>
      rcases unnoticed with ⟨seen, glanced, _⟩ | ⟨polls, _⟩
      · simp [glanced?, first] at glanced
      · simp [first] at polls
  | lookAgain waits =>
      left
      left
      rcases unnoticed with unseen | ⟨polls, _⟩
      · simpa [Unseen, glanced?, waits] using unseen
      · simp [waits] at polls
  | glance looks found => exact .inl (unnoticed_of_glance looks found unnoticed)
  | settle first complete =>
      left
      left
      rcases unnoticed with unseen | ⟨polls, _⟩
      · simpa [Unseen, glanced?, first] using unseen
      · simp [first] at polls
  | ignore polls complete unchanged =>
      rcases unnoticed with unseen | ⟨_, seen, spotted, differs⟩
      · left
        left
        simpa [Unseen, glanced?, polls, unchanged] using unseen
      · exact absurd (unchanged ▸ spotted) differs
  | notice polls complete changed =>
      right
      exact Schedule.move_self _ _ _

/-! ## Polls -/

/-- A look under way has seen the times as they are. -/
def Fresh (watcher : Watcher ℚ) : Prop :=
  watcher.looking = true → watcher.seen <+: watcher.times

theorem fresh_of_look (stepped : Step watcher .look next) : next.Fresh := by
  cases stepped with
  | lookFirst _ _ => exact fun _ => List.nil_prefix
  | lookAgain _ => exact fun _ => List.nil_prefix

/-- A watcher that does not look is fresh. -/
private theorem fresh_of_waiting (waits : watcher.stage = .waiting) : watcher.Fresh := by
  intro looks
  simp [looking, waits] at looks

theorem fresh_step (fresh : watcher.Fresh) (keeps : turn.isChange = false)
    (stepped : Step watcher turn next) : next.Fresh := by
  cases stepped with
  | change _ => cases keeps
  | render inside moved =>
      intro looks
      refine fresh ?_
      rw [looking_iff] at looks ⊢
      simp only [stageAfter] at looks
      split at looks
      · simp at looks
      · exact looks
  | lookFirst _ _ => exact fun _ => List.nil_prefix
  | lookAgain _ => exact fun _ => List.nil_prefix
  | @glance time looks found =>
      intro _
      rcases fresh looks with ⟨rest, times_eq⟩
      rw [← times_eq, List.getElem?_append_right le_rfl, Nat.sub_self] at found
      rcases rest with _ | ⟨first, rest⟩
      · cases found
      · cases found
        exact ⟨rest, by rw [← times_eq, List.append_assoc, List.singleton_append]⟩
  | settle _ _ => exact fresh_of_waiting rfl
  | ignore _ _ _ => exact fresh_of_waiting rfl
  | notice _ _ _ => exact fresh_of_waiting rfl

/-- At the end of a fresh look the watcher has seen the times as they are, and while nothing
changes it knows them. -/
theorem last_step (fresh : watcher.Fresh) (keeps : turn.isChange = false)
    (stepped : Step watcher turn next) (seen : turn = .compare ∨ watcher.last = watcher.times) :
    next.last = next.times := by
  have looked : watcher.looking = true → watcher.seen.length = watcher.times.length →
      watcher.seen = watcher.times := fun looks complete => (fresh looks).eq_of_length complete
  cases stepped with
  | change _ => cases keeps
  | render _ _ => exact seen.resolve_left nofun
  | lookFirst _ _ => exact seen.resolve_left nofun
  | lookAgain _ => exact seen.resolve_left nofun
  | glance _ _ => exact seen.resolve_left nofun
  | settle first complete => exact looked (looking_iff.mpr (.inl first)) complete
  | ignore polls complete _ => exact looked (looking_iff.mpr (.inr polls)) complete
  | notice polls complete _ => exact looked (looking_iff.mpr (.inr polls)) complete

/-- While nothing changes, a watcher that has looked at all paths knows their times. -/
theorem last_of_run (fresh : watcher.Fresh) (keeps : ∀ turn ∈ turns, turn.isChange = false)
    (ran : Schedule.run step watcher turns = some final)
    (seen : .compare ∈ turns ∨ watcher.last = watcher.times) :
    final.Fresh ∧ final.last = final.times := by
  induction turns generalizing watcher with
  | nil =>
      cases ran
      exact ⟨fresh, seen.resolve_left List.not_mem_nil⟩
  | cons turn turns ih =>
      rcases Schedule.run_cons_eq_some_iff.mp ran with ⟨next, stepped, ranRest⟩
      rcases List.forall_mem_cons.mp keeps with ⟨turnKeeps, restKeeps⟩
      have taken := step_of_eq_some stepped
      refine ih (fresh_step fresh turnKeeps taken) restKeeps ranRest ?_
      rcases seen with member | current
      · rcases List.mem_cons.mp member with isTurn | member
        · exact .inr (last_step fresh turnKeeps taken (.inl isTurn.symm))
        · exact .inl member
      · exact .inr (last_step fresh turnKeeps taken (.inr current))

/-- A watcher that knows the times as they are has nothing left to notice. -/
theorem not_unnoticed_of_last (fresh : watcher.Fresh) (current : watcher.last = watcher.times) :
    ¬watcher.Unnoticed path := by
  have seen : watcher.looking = true → ∀ time, watcher.seen[path]? = some time →
      watcher.times[path]? = some time := by
    intro looks time found
    rcases fresh looks with ⟨rest, times_eq⟩
    rw [← times_eq]
    exact seen_of_append rest found
  rintro (⟨time, glanced, differs⟩ | ⟨polls, time, spotted, differs⟩)
  · refine differs ?_
    unfold glanced? at glanced
    split at glanced
    · cases glanced
    · cases glanced
    · rename_i first
      exact seen (looking_iff.mpr (.inl first)) time glanced
    · exact current ▸ glanced
    · rename_i polls
      rcases Option.or_eq_some_iff.mp glanced with found | ⟨_, found⟩
      · exact seen (looking_iff.mpr (.inr polls)) time found
      · exact current ▸ found
  · refine differs ?_
    rw [current]
    exact seen (looking_iff.mpr (.inr polls)) time spotted

/-! ## Polls in schedules -/

theorem exists_look_of_hasPoll (polls : hasPoll turns = true) :
    ∃ earlier rest, turns = earlier ++ .look :: rest ∧ .compare ∈ rest := by
  induction turns with
  | nil => cases polls
  | cons turn turns ih =>
      by_cases isLook : turn = .look
      · subst isLook
        refine ⟨[], turns, rfl, ?_⟩
        rcases List.any_eq_true.mp polls with ⟨found, member, isCompare⟩
        cases found with
        | compare => exact (List.mem_cons.mp member).resolve_left nofun
        | change _ _ => cases isCompare
        | render _ => cases isCompare
        | look => cases isCompare
        | glance => cases isCompare
      · have later : hasPoll turns = true := by
          cases turn with
          | look => exact absurd rfl isLook
          | change _ _ => exact polls
          | render _ => exact polls
          | glance => exact polls
          | compare => exact polls
        rcases ih later with ⟨earlier, rest, turns_eq, compares⟩
        exact ⟨turn :: earlier, rest, by rw [turns_eq, List.cons_append], compares⟩

/-- A poll behind the last change is a look with its end, behind which nothing changes. -/
theorem exists_look_of_polledSinceChange (polled : polledSinceChange turns = true) :
    ∃ earlier rest, turns = earlier ++ .look :: rest ∧ .compare ∈ rest ∧
      ∀ turn ∈ rest, turn.isChange = false := by
  rcases exists_look_of_hasPoll polled with ⟨middle, rest, still_eq, compares⟩
  have still : turns.rtakeWhile (fun turn => !turn.isChange) = middle ++ .look :: rest := still_eq
  rcases List.rtakeWhile_suffix (fun turn : Turn ℚ => !turn.isChange) turns with ⟨earlier, turns_eq⟩
  refine ⟨earlier ++ middle, rest, ?_, compares, fun turn member => ?_⟩
  · rw [← turns_eq, still, List.append_assoc]
  · have inside : turn ∈ turns.rtakeWhile fun turn => !turn.isChange := by
      rw [still]
      exact List.mem_append_right middle (List.mem_cons_of_mem _ member)
    simpa using List.mem_rtakeWhile_imp inside

/-- Behind a poll that no change follows the watcher has nothing left to notice. -/
theorem not_unnoticed_of_polled (polled : polledSinceChange turns = true)
    (ran : Schedule.run step watcher turns = some final) : ¬final.Unnoticed path := by
  rcases exists_look_of_polledSinceChange polled with ⟨earlier, rest, rfl, compares, keeps⟩
  rcases Schedule.run_append_eq_some_iff.mp ran with ⟨middle, _, ranLook⟩
  rcases Schedule.run_cons_eq_some_iff.mp ranLook with ⟨begun, looked, ranRest⟩
  have fresh := fresh_of_look (step_of_eq_some looked)
  rcases last_of_run fresh keeps ranRest (.inl compares) with ⟨finalFresh, current⟩
  exact not_unnoticed_of_last finalFresh current

end Watcher

end Montage.Watch
