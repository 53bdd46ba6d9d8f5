import Montage.Proofs.Result
import Montage.Timeline.Basic

/-!
# The order in which entries are stacked

Entries are stacked from the lowest level to the highest, and entries on one level stay in
the order in which they were.  This determines the stack: what is on each level is all
that matters of the order of the entries.
-/

namespace Montage.Timeline

variable {α : Type} {entries : List (Entry α)}

/-- The entries on one level of a stack, in their order. -/
def level (zIndex : Int) (entries : List (Entry α)) : List (Entry α) :=
  entries.filter fun entry => entry.zIndex = zIndex

/-- The same entries from the bottom of a stack to its top, with the order kept on each
level. -/
structure IsStack (entries stack : List (Entry α)) : Prop where
  perm : stack.Perm entries
  ordered : stack.Pairwise fun below above => below.zIndex ≤ above.zIndex
  level_eq : ∀ zIndex, level zIndex stack = level zIndex entries

theorem mem_level_iff {entry : Entry α} {zIndex : Int} :
    entry ∈ level zIndex entries ↔ entry ∈ entries ∧ entry.zIndex = zIndex := by
  simp [level]

@[simp]
theorem level_cons_self (entry : Entry α) (entries : List (Entry α)) :
    level entry.zIndex (entry :: entries) = entry :: level entry.zIndex entries := by
  simp [level]

theorem level_cons_of_ne {entry : Entry α} {zIndex : Int} (elsewhere : entry.zIndex ≠ zIndex) :
    level zIndex (entry :: entries) = level zIndex entries := by
  simp [level, elsewhere]

theorem pairwise_level (zIndex : Int) :
    (level zIndex entries).Pairwise fun below above =>
      decide (below.zIndex ≤ above.zIndex) = true := by
  apply List.pairwise_of_forall_mem_list
  intro below belowMem above aboveMem
  rw [mem_level_iff] at belowMem aboveMem
  exact decide_eq_true (belowMem.2.trans aboveMem.2.symm).le

theorem isStack_stacked (entries : List (Entry α)) : IsStack entries (stacked entries) := by
  have trans (low middle high : Entry α) (first : decide (low.zIndex ≤ middle.zIndex) = true)
      (second : decide (middle.zIndex ≤ high.zIndex) = true) :
      decide (low.zIndex ≤ high.zIndex) = true := by
    simp only [decide_eq_true_eq] at first second ⊢
    exact first.trans second
  have total (one other : Entry α) :
      (decide (one.zIndex ≤ other.zIndex) || decide (other.zIndex ≤ one.zIndex)) = true := by
    simpa using le_total one.zIndex other.zIndex
  have perm : (stacked entries).Perm entries := List.mergeSort_perm entries _
  refine ⟨perm, ?_, fun zIndex => ?_⟩
  · exact (List.pairwise_mergeSort trans total entries).imp fun le => by simpa using le
  · -- what is on one level is in order already, so sorting keeps it as it is
    have kept : (level zIndex entries).Sublist (stacked entries) :=
      List.sublist_mergeSort trans total (pairwise_level zIndex) List.filter_sublist
    have within : (level zIndex entries).Sublist (level zIndex (stacked entries)) := by
      have filtered := kept.filter fun entry => decide (entry.zIndex = zIndex)
      simpa only [level, List.filter_filter, Bool.and_self] using filtered
    exact (within.eq_of_length (perm.filter _).length_eq.symm).symm

private theorem lowest_le {lowest entry : Entry α}
    (ordered : (lowest :: entries).Pairwise fun below above => below.zIndex ≤ above.zIndex)
    (member : entry ∈ lowest :: entries) : lowest.zIndex ≤ entry.zIndex := by
  rcases List.mem_cons.mp member with rfl | behind
  · exact le_rfl
  · exact List.rel_of_pairwise_cons ordered behind

private theorem mem_of_level_eq {stack other : List (Entry α)}
    (same : ∀ zIndex, level zIndex stack = level zIndex other) (entry : Entry α)
    (member : entry ∈ other) : entry ∈ stack := by
  have onLevel : entry ∈ level entry.zIndex other := mem_level_iff.mpr ⟨member, rfl⟩
  rw [← same] at onLevel
  exact (mem_level_iff.mp onLevel).1

/-- Two lists from the bottom to the top are the same if they are so on each level. -/
theorem eq_of_level_eq {stack other : List (Entry α)}
    (ordered : stack.Pairwise fun below above => below.zIndex ≤ above.zIndex)
    (otherOrdered : other.Pairwise fun below above => below.zIndex ≤ above.zIndex)
    (same : ∀ zIndex, level zIndex stack = level zIndex other) : stack = other := by
  induction stack generalizing other with
  | nil =>
      cases other with
      | nil => rfl
      | cons lowest rest => simpa [level] using same lowest.zIndex
  | cons first stack ih =>
      cases other with
      | nil => simpa [level] using (same first.zIndex).symm
      | cons second other =>
          have back (zIndex : Int) :
              level zIndex (second :: other) = level zIndex (first :: stack) :=
            (same zIndex).symm
          have sameLevel : first.zIndex = second.zIndex :=
            le_antisymm (lowest_le ordered (mem_of_level_eq same second List.mem_cons_self))
              (lowest_le otherOrdered (mem_of_level_eq back first List.mem_cons_self))
          have head := same second.zIndex
          rw [level_cons_self, ← sameLevel, level_cons_self] at head
          obtain ⟨rfl, -⟩ := List.cons.inj head
          congr 1
          refine ih ordered.of_cons otherOrdered.of_cons fun zIndex => ?_
          by_cases here : first.zIndex = zIndex
          · subst here
            simpa using same first.zIndex
          · simpa [level_cons_of_ne here] using same zIndex

/-- The stack of some entries is determined by what is on each level. -/
theorem IsStack.eq {others stack otherStack : List (Entry α)} (one : IsStack entries stack)
    (other : IsStack others otherStack)
    (same : ∀ zIndex, level zIndex entries = level zIndex others) : stack = otherStack :=
  eq_of_level_eq one.ordered other.ordered fun zIndex => by
    rw [one.level_eq, other.level_eq, same]

/-! ## Rows on levels -/

section Rows

variable {β : Type} {row : β → List (Entry α)} {levelOf : β → Int} {items others : List β}

/-- What is on a level are the rows that belong there. -/
theorem level_flatMap (onLevel : ∀ item, ∀ entry ∈ row item, entry.zIndex = levelOf item)
    (zIndex : Int) (items : List β) :
    level zIndex (items.flatMap row) =
      (items.filter fun item => levelOf item = zIndex).flatMap row := by
  induction items with
  | nil => rfl
  | cons item items ih =>
      rw [List.flatMap_cons, level, List.filter_append, ← level, ← level, ih]
      by_cases here : levelOf item = zIndex
      · have all : level zIndex (row item) = row item :=
          List.filter_eq_self.mpr fun entry member => by simp [onLevel item entry member, here]
        rw [all, List.filter_cons_of_pos (by simpa using here), List.flatMap_cons]
      · have none : level zIndex (row item) = [] :=
          List.filter_eq_nil_iff.mpr fun entry member => by simp [onLevel item entry member, here]
        rw [none, List.filter_cons_of_neg (by simpa using here), List.nil_append]

/-- Where every row is on a level of its own, the order of the rows makes no difference to any
level. -/
theorem level_flatMap_eq_of_perm
    (onLevel : ∀ item, ∀ entry ∈ row item, entry.zIndex = levelOf item)
    (distinct : (items.map levelOf).Nodup) (perm : others.Perm items) (zIndex : Int) :
    level zIndex (others.flatMap row) = level zIndex (items.flatMap row) := by
  have othersDistinct : (others.map levelOf).Nodup := (perm.map levelOf).nodup_iff.mpr distinct
  have same : (others.filter fun item => decide (levelOf item = zIndex)) =
      items.filter fun item => decide (levelOf item = zIndex) := by
    -- no two rows are on the level, so there is nothing to put in another order
    refine (perm.filter _).eq_of_pairwise (fun one other oneMem otherMem apart => ?_)
      ((List.pairwise_map.mp othersDistinct).filter _) ((List.pairwise_map.mp distinct).filter _)
    rw [List.mem_filter, decide_eq_true_eq] at oneMem otherMem
    exact absurd (oneMem.2.trans otherMem.2.symm) apart
  rw [level_flatMap onLevel, level_flatMap onLevel, same]

end Rows

end Montage.Timeline
