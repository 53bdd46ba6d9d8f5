import Montage.Proofs.Path

/-!
# Paths below a directory

A relative path that is read in a directory is a walk from there: a part goes down, and two points
go up again.  A walk that never climbs over its beginning ends below the directory, and where it
ends there does not depend on the directory.  One that does climb over it can only come back by
the name of the directory.
-/

namespace Montage.Path

/-- Where a walk ends that begins below a directory; nothing if it climbs over the directory.
`inner` are the parts below the directory at which it begins, backwards. -/
def descend : List String → List String → Option (List String)
  | inner, [] => some inner.reverse
  | [], ".." :: _ => none
  | _ :: inner, ".." :: rest => descend inner rest
  | inner, part :: rest => descend (part :: inner) rest

/-- A path is below a directory if it goes on behind it. -/
def IsBelow (directory path : Path) : Prop :=
  ∃ inner, inner ≠ [] ∧ path.resolve.parts = directory.resolve.parts ++ inner

/-- A name goes down. -/
theorem descend_cons {part : String} (notPoints : part ≠ "..") (inner rest : List String) :
    descend inner (part :: rest) = descend (part :: inner) rest :=
  descend.eq_4 inner part rest (fun _ points => notPoints points)
    (fun _ _ _ points => notPoints points)

theorem collapse_append (before first second : List String) :
    collapse before (first ++ second) = collapse (collapse before first).reverse second := by
  induction before, first using collapse.induct with
  | case1 before => simp [collapse]
  | case2 before rest ih => simpa [collapse] using ih
  | case3 before part rest notPoints ih =>
      rw [List.cons_append, collapse, collapse]
      · exact ih
      all_goals exact notPoints

/-- A walk that ends with a name ends there. -/
theorem collapse_concat {before steps : List String} {last : String} (notPoints : last ≠ "..") :
    collapse before (steps ++ [last]) = collapse before steps ++ [last] := by
  rw [collapse_append, collapse.eq_3 _ _ _ notPoints]
  simp [collapse]

private theorem goesDown {inner : List String} {part : String}
    (notAbove : inner = [] → part = ".." → False)
    (notUp : ∀ first others, inner = first :: others → part = ".." → False) : part ≠ ".." := by
  rintro rfl
  cases inner with
  | nil => exact notAbove rfl rfl
  | cons first others => exact notUp first others rfl rfl

/-- A walk that stays below its beginning ends behind it. -/
theorem collapse_of_descend {inner steps found : List String} (before : List String)
    (descends : descend inner steps = some found) :
    collapse (inner ++ before) steps = before.reverse ++ found := by
  induction inner, steps using descend.induct with
  | case1 inner =>
      cases descends
      simp [collapse]
  | case2 rest => cases descends
  | case3 part inner rest ih => exact ih descends
  | case4 inner part rest notAbove notUp ih =>
      rw [collapse.eq_3 _ _ _ (goesDown notAbove notUp)]
      rw [descend.eq_4 _ _ _ notAbove notUp] at descends
      exact ih descends

/-- A name that is not at a place is not there behind a walk without that name. -/
theorem getElem?_collapse_ne {before steps : List String} {name : String} {place : ℕ}
    (absent : before.reverse[place]? ≠ some name) (unnamed : name ∉ steps) :
    (collapse before steps)[place]? ≠ some name := by
  induction before, steps using collapse.induct with
  | case1 before => simpa [collapse] using absent
  | case2 before rest ih =>
      refine ih (fun found => absent ?_) (List.not_mem_of_not_mem_cons unnamed)
      rw [← List.dropLast_reverse, List.getElem?_dropLast] at found
      split at found
      · exact found
      · cases found
  | case3 before part rest notPoints ih =>
      rw [collapse.eq_3 _ _ _ notPoints]
      refine ih (fun found => ?_) (List.not_mem_of_not_mem_cons unnamed)
      rw [List.reverse_cons, List.getElem?_append] at found
      split at found
      · exact absent found
      · obtain ⟨rfl⟩ := List.mem_singleton.mp (List.mem_of_getElem? found)
        exact unnamed List.mem_cons_self

/-- A walk that climbs over its beginning does not come back to a name that is not one of its
parts. -/
theorem getElem?_collapse_of_descend_eq_none {inner before steps : List String} {name : String}
    (climbs : descend inner steps = none) (unnamed : name ∉ steps) :
    (collapse (inner ++ name :: before) steps)[before.length]? ≠ some name := by
  induction inner, steps using descend.induct with
  | case1 inner => cases climbs
  | case2 rest =>
      change (collapse before rest)[before.length]? ≠ some name
      exact getElem?_collapse_ne (by simp) (List.not_mem_of_not_mem_cons unnamed)
  | case3 part inner rest ih => exact ih climbs (List.not_mem_of_not_mem_cons unnamed)
  | case4 inner part rest notAbove notUp ih =>
      rw [collapse.eq_3 _ _ _ (goesDown notAbove notUp)]
      rw [descend.eq_4 _ _ _ notAbove notUp] at climbs
      exact ih climbs (List.not_mem_of_not_mem_cons unnamed)

/-- A walk that ends with a name does not end where it begins. -/
theorem ne_nil_of_descend {steps found : List String} {last : String} (notPoints : last ≠ "..")
    (descends : descend [] (steps ++ [last]) = some found) : found ≠ [] := by
  have walked := collapse_of_descend [] descends
  rw [List.append_nil, collapse_concat notPoints, List.reverse_nil, List.nil_append] at walked
  exact walked ▸ List.append_ne_nil_of_right_ne_nil _ (List.cons_ne_nil last [])

/-! ## Relative paths in a directory -/

variable {directory path : Path}

/-- Paths are read in a directory one after another. -/
theorem join_assoc (first second third : Path) :
    first.join (second.join third) = (first.join second).join third := by
  simp only [join, isAbsolute]
  by_cases thirdAbsolute : third.root != ""
  · simp only [thirdAbsolute, if_true]
  · by_cases secondAbsolute : second.root != "" <;>
      simp [thirdAbsolute, secondAbsolute]

theorem parts_resolve_join (relative : path.isAbsolute = false) :
    (directory.join path).resolve.parts = collapse directory.resolve.parts.reverse path.parts := by
  have read : ((workingDirectory.join directory).join path).parts =
      (workingDirectory.join directory).parts ++ path.parts := by
    rw [join, relative]
    rfl
  rw [resolve, join_assoc, read, collapse_append, resolve]

/-- A relative path that does not climb over the directory is below it. -/
theorem parts_resolve_of_descend {inner : List String} (relative : path.isAbsolute = false)
    (descends : descend [] path.parts = some inner) :
    (directory.join path).resolve.parts = directory.resolve.parts ++ inner := by
  rw [parts_resolve_join relative]
  simpa using collapse_of_descend directory.resolve.parts.reverse descends

/-- A relative path that climbs over the directory is below it only if it comes back by the name
of the directory. -/
theorem not_isBelow_of_descend {parent : List String} {name : String}
    (relative : path.isAbsolute = false) (climbs : descend [] path.parts = none)
    (named : directory.resolve.parts = parent ++ [name]) (unnamed : name ∉ path.parts) :
    ¬directory.IsBelow (directory.join path) := by
  rintro ⟨inner, -, parts_eq⟩
  have absent : (collapse (name :: parent.reverse) path.parts)[parent.reverse.length]? ≠ some name :=
    getElem?_collapse_of_descend_eq_none climbs unnamed
  rw [parts_resolve_join relative, named, List.reverse_append] at parts_eq
  apply absent
  change (collapse ([name].reverse ++ parent.reverse) path.parts)[_]? = _
  rw [parts_eq]
  simp

end Montage.Path
