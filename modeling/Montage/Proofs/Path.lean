import Montage.Path
import Montage.Proofs.Text.Split

/-!
# Resolved paths

A resolved path begins at the root and has neither empty parts nor points among them, so
that its text spells the path itself, and resolving it again changes nothing.
-/

namespace Montage.Path

/-- Whether a part names a file or directory: no slash is in it, and it is not just points. -/
def IsName (part : String) : Prop :=
  '/' ∉ part.toList ∧ part ≠ "" ∧ part ≠ "." ∧ part ≠ ".."

/-- The parts of a path that has been read are names or pairs of points. -/
theorem isName_or_of_mem_ofText {text part : String} (member : part ∈ (ofText text).parts) :
    IsName part ∨ part = ".." := by
  rcases List.mem_filter.mp member with ⟨inText, kept⟩
  rcases List.mem_map.mp inText with ⟨letters, isPart, rfl⟩
  by_cases points : String.ofList letters = ".."
  · exact .inr points
  · left
    rw [Bool.and_eq_true, bne_iff_ne, bne_iff_ne] at kept
    refine ⟨?_, kept.1, kept.2, points⟩
    rw [String.toList_ofList]
    exact Text.not_mem_of_mem_parts isPart

theorem isName_of_mem_collapse {before parts : List String} (named : ∀ part ∈ before, IsName part)
    (read : ∀ part ∈ parts, IsName part ∨ part = "..") :
    ∀ part ∈ collapse before parts, IsName part := by
  induction before, parts using collapse.induct with
  | case1 before =>
      intro part member
      exact named part (List.mem_reverse.mp (by simpa [collapse] using member))
  | case2 before rest ih =>
      rw [collapse]
      apply ih
      · intro part member
        exact named part (List.mem_of_mem_tail member)
      · exact (List.forall_mem_cons.mp read).2
  | case3 before part rest notPoints ih =>
      rcases List.forall_mem_cons.mp read with ⟨partRead, restRead⟩
      rw [collapse]
      · apply ih _ restRead
        intro found member
        rcases List.mem_cons.mp member with rfl | member
        · exact partRead.resolve_right notPoints
        · exact named found member
      · exact notPoints

/-- Collapsing leaves names as they are. -/
theorem collapse_names (before : List String) {parts : List String}
    (named : ∀ part ∈ parts, IsName part) :
    collapse before parts = before.reverse ++ parts := by
  induction parts generalizing before with
  | nil => simp [collapse]
  | cons part rest ih =>
      rcases List.forall_mem_cons.mp named with ⟨⟨_, _, _, notPoints⟩, restNamed⟩
      rw [collapse, ih _ restNamed]
      · simp
      · exact notPoints

/-- The letters of the text of a path at the root. -/
private theorem toList_toText (parts : List String) :
    (toText ⟨"/", parts⟩).toList = '/' :: ['/'].intercalate (parts.map String.toList) := by
  simp [toText, String.toList_intercalate]

private theorem rootOf_cons_intercalate {parts : List String}
    (named : ∀ part ∈ parts, IsName part) :
    rootOf ('/' :: ['/'].intercalate (parts.map String.toList)) = "/" := by
  rcases parts with _ | ⟨part, rest⟩
  · rfl
  · rcases List.forall_mem_cons.mp named with ⟨⟨noSlash, nonempty, _, _⟩, _⟩
    rcases letters : part.toList with _ | ⟨c, others⟩
    · exact absurd (String.toList_eq_nil_iff.mp letters) nonempty
    · rw [letters] at noSlash
      have differs : c ≠ '/' := fun slash => noSlash (slash ▸ List.mem_cons_self)
      rcases rest with _ | ⟨next, rest⟩ <;> simp [rootOf, letters, differs]

/-- A path at the root whose parts are names is spelled by its text. -/
theorem ofText_toText {parts : List String} (named : ∀ part ∈ parts, IsName part) :
    ofText (toText ⟨"/", parts⟩) = ⟨"/", parts⟩ := by
  have kept : parts.filter (fun part => part != "" && part != ".") = parts := by
    rw [List.filter_eq_self]
    intro part member
    rcases named part member with ⟨_, nonempty, notPoint, _⟩
    simp [nonempty, notPoint]
  rw [ofText, toList_toText, rootOf_cons_intercalate named, Text.fields, toList_toText,
    Text.parts_cons_self]
  congr
  by_cases empty : parts = []
  · subst empty
    rfl
  · rw [Text.parts_intercalate (by simpa using empty)]
    · simpa using kept
    · intro letters member
      rcases List.mem_map.mp member with ⟨part, partMem, rfl⟩
      exact (named part partMem).1

theorem mem_parts_of_mem_join {directory path : Path} {part : String}
    (member : part ∈ (directory.join path).parts) : part ∈ directory.parts ∨ part ∈ path.parts := by
  rw [join] at member
  split at member
  · exact .inr member
  · exact List.mem_append.mp member

/-- Resolving a path of names and pairs of points leaves names. -/
theorem isName_of_mem_resolve_of_read {path : Path} {part : String}
    (read : ∀ part ∈ path.parts, IsName part ∨ part = "..")
    (member : part ∈ path.resolve.parts) : IsName part := by
  apply isName_of_mem_collapse (List.forall_mem_nil _) _ part member
  intro part member
  have workIsName : IsName "work" := by
    simp [IsName]
  rcases mem_parts_of_mem_join member with work | inPath
  · left
    cases List.mem_singleton.mp work
    exact workIsName
  · exact read part inPath

/-- Resolving a path that has been read leaves names. -/
theorem isName_of_mem_resolve {text part : String}
    (member : part ∈ (ofText text).resolve.parts) : IsName part :=
  isName_of_mem_resolve_of_read (fun _ => isName_or_of_mem_ofText) member

/-- The text of a resolved path spells that path. -/
theorem ofText_resolve (text : String) :
    ofText (ofText text).resolve.toText = (ofText text).resolve :=
  ofText_toText fun _ member => isName_of_mem_resolve member

/-- A resolved path is resolved to itself. -/
theorem resolve_resolve (text : String) :
    (ofText text).resolve.resolve = (ofText text).resolve := by
  have named : ∀ part ∈ (ofText text).resolve.parts, IsName part :=
    fun part member => isName_of_mem_resolve member
  have absolute : (ofText text).resolve.isAbsolute = true := rfl
  rw [resolve, join, if_pos absolute, collapse_names [] named]
  rfl

end Montage.Path
