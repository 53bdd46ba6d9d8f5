import Montage.Media.FanOut
import Montage.Proofs.Geometry.Places
import Montage.Proofs.Result

/-!
# What is gathered from many probes

If every file of the clips has been probed once, what is gathered is a map from the ids of the
media clips, or the first fault in the order in which the probes have ended.  The map does not
depend on that order, and neither does whether there is one.
-/

namespace Montage.FanOut

variable {α : Type} {clips : List (Clip α)} {file id : String}

/-! ## Files and ids -/

theorem nodup_eraseDups (names : List String) : names.eraseDups.Nodup := by
  cases names with
  | nil => exact List.nodup_nil
  | cons name names =>
      rw [List.eraseDups_cons, List.nodup_cons]
      constructor
      · simp
      · exact nodup_eraseDups _
termination_by names.length
decreasing_by exact Nat.lt_succ_of_le (List.length_filter_le _ _)

/-- No file is probed twice. -/
theorem nodup_files (clips : List (Clip α)) : (files clips).Nodup :=
  nodup_eraseDups _

/-- The files that are probed are those of the media clips. -/
theorem mem_files_iff : file ∈ files clips ↔ ∃ clip ∈ clips, clip.source.file? = some file := by
  rw [files, List.mem_eraseDups, List.mem_filterMap]

theorem mem_idsOf_iff :
    id ∈ idsOf clips file ↔ ∃ clip ∈ clips, clip.source.file? = some file ∧ clip.id = id := by
  simp [idsOf, and_assoc]

/-- The file that the clips with an id show, and the last one if they show several. -/
def shownBy? (clips : List (Clip α)) (id : String) : Option String :=
  (files clips).reverse.find? fun file => (idsOf clips file).contains id

theorem mem_of_shownBy? (shown : shownBy? clips id = some file) :
    file ∈ files clips ∧ id ∈ idsOf clips file := by
  constructor
  · exact List.mem_reverse.mp (List.mem_of_find?_eq_some shown)
  · simpa using List.find?_some shown

/-- An id shows a file exactly if it is the id of a media clip. -/
theorem isSome_shownBy?_iff :
    (shownBy? clips id).isSome = true ↔ ∃ clip ∈ clips, clip.isMedia = true ∧ clip.id = id := by
  constructor
  · intro shown
    obtain ⟨file, shown⟩ := Option.isSome_iff_exists.mp shown
    obtain ⟨clip, member, shows, isId⟩ := mem_idsOf_iff.mp (mem_of_shownBy? shown).2
    exact ⟨clip, member, by rw [Clip.isMedia, shows]; rfl, isId⟩
  · rintro ⟨clip, member, isMedia, rfl⟩
    obtain ⟨file, shows⟩ := Option.isSome_iff_exists.mp isMedia
    rw [shownBy?, List.find?_isSome]
    refine ⟨file, List.mem_reverse.mpr (mem_files_iff.mpr ⟨clip, member, shows⟩), ?_⟩
    simpa using mem_idsOf_iff.mpr ⟨clip, member, shows, rfl⟩

/-- The id of a single clip shows the file of that clip, if it has one. -/
theorem shownBy?_of_isSole {clip : Clip α} (sole : clip.IsSole clips) :
    shownBy? clips clip.id = clip.source.file? := by
  have only : ∀ other ∈ clips, other.id = clip.id → other = clip := by
    obtain ⟨before, after, rfl, others⟩ := sole
    intro other member same
    by_contra different
    refine others other ?_ same
    simpa [different] using member
  cases shown : shownBy? clips clip.id with
  | some file =>
      obtain ⟨other, member, shows, same⟩ := mem_idsOf_iff.mp (mem_of_shownBy? shown).2
      rw [← only other member same, shows]
  | none =>
      cases shows : clip.source.file? with
      | none => rfl
      | some file =>
          have known := isSome_shownBy?_iff.mpr
            ⟨clip, sole.mem, by rw [Clip.isMedia, shows]; rfl, rfl⟩
          rw [shown] at known
          cases known

/-! ## Gathering -/

variable {probed ended first second : List (Probed α)} {infos : List (String × MediaInfo α)}
  {fault : Fault α}

/-- Everything is gathered if no probe has failed. -/
theorem gather_eq_ok_iff :
    gather probed = .ok infos ↔ probed = infos.map fun entry => (entry.1, .ok entry.2) := by
  induction probed generalizing infos with
  | nil => cases infos <;> simp [gather]
  | cons head rest ih =>
      obtain ⟨file, result⟩ := head
      rw [gather, Result.bind_eq_ok_iff]
      constructor
      · rintro ⟨info, rfl, gathered⟩
        obtain ⟨others, restGathered, made⟩ := Result.bind_eq_ok_iff.mp gathered
        cases made
        rw [ih.mp restGathered, List.map_cons]
      · intro split
        cases infos with
        | nil => cases split
        | cons entry others =>
            rw [List.map_cons, List.cons.injEq, Prod.mk.injEq] at split
            obtain ⟨⟨rfl, rfl⟩, rest_eq⟩ := split
            exact ⟨entry.2, rfl, by rw [ih.mpr rest_eq]; rfl⟩

theorem exists_gather_iff :
    (∃ infos, gather probed = .ok infos) ↔ ∀ entry ∈ probed, ∃ info, entry.2 = .ok info := by
  constructor
  · rintro ⟨infos, gathered⟩ entry member
    rw [gather_eq_ok_iff.mp gathered, List.mem_map] at member
    obtain ⟨found, _, rfl⟩ := member
    exact ⟨found.2, rfl⟩
  · intro fine
    induction probed with
    | nil => exact ⟨[], rfl⟩
    | cons head rest ih =>
        obtain ⟨infos, gathered⟩ := ih fun entry member => fine entry (List.mem_cons_of_mem _ member)
        obtain ⟨info, succeeded⟩ := fine head List.mem_cons_self
        refine ⟨(head.1, info) :: infos, gather_eq_ok_iff.mpr ?_⟩
        rw [List.map_cons, ← gather_eq_ok_iff.mp gathered, ← succeeded]

/-- The fault that counts is that of the first probe that has failed. -/
theorem exists_split_of_gather (failed : gather probed = .error fault) :
    ∃ before file after, probed = before ++ (file, .error fault) :: after ∧
      ∀ entry ∈ before, ∃ info, entry.2 = .ok info := by
  induction probed with
  | nil => cases failed
  | cons head rest ih =>
      obtain ⟨file, result⟩ := head
      cases result with
      | error cause =>
          cases failed
          exact ⟨[], file, rest, rfl, nofun⟩
      | ok info =>
          have failedLater : gather rest = .error fault := by
            rw [gather, Result.ok_bind] at failed
            cases gathered : gather rest with
            | ok others => rw [gathered] at failed; cases failed
            | error cause => rw [gathered] at failed; cases failed; rfl
          obtain ⟨before, found, after, rfl, fine⟩ := ih failedLater
          refine ⟨(file, .ok info) :: before, found, after, rfl, ?_⟩
          exact List.forall_mem_cons.mpr ⟨⟨info, rfl⟩, fine⟩

/-- What the probe of a file has found, if it has ended and not failed. -/
def found? (ended : List (Probed α)) (file : String) : Option (MediaInfo α) :=
  (ended.lookup file).bind Except.toOption

/-- What is known of a file is what its probe has found. -/
theorem lookup_of_gather (gathered : gather ended = .ok infos) :
    infos.lookup file = found? ended file := by
  rw [found?, gather_eq_ok_iff.mp gathered]
  clear gathered
  induction infos with
  | nil => rfl
  | cons entry rest ih =>
      obtain ⟨name, info⟩ := entry
      rw [List.map_cons, List.lookup_cons, List.lookup_cons]
      by_cases here : file = name
      · simp [here, Except.toOption]
      · rw [beq_false_of_ne here, ih]

/-! ## Maps -/

/-- What each id is given, by the files of the clips. -/
def given (clips : List (Clip α)) (infos : List (String × MediaInfo α)) (names : List String) :
    List (String × MediaInfo α) :=
  names.flatMap fun file =>
    match infos.lookup file with
    | some info => (idsOf clips file).map fun id => (id, info)
    | none => []

theorem assign_eq (clips : List (Clip α)) (infos : List (String × MediaInfo α)) :
    assign clips infos =
      (given clips infos (files clips)).foldl
        (fun known entry => Association.put entry.1 entry.2 known) [] :=
  rfl

/-- Of several values for a key the last one stays. -/
theorem lookup_foldl_put (pairs known : List (String × MediaInfo α)) :
    (pairs.foldl (fun known entry => Association.put entry.1 entry.2 known) known).lookup id =
      (pairs.reverse.lookup id).or (known.lookup id) := by
  induction pairs generalizing known with
  | nil => simp
  | cons pair rest ih =>
      obtain ⟨name, info⟩ := pair
      rw [List.foldl_cons, ih, List.reverse_cons, List.lookup_append, Option.or_assoc]
      by_cases here : id = name
      · simp [here]
      · rw [Association.lookup_put_of_ne here, List.lookup_cons, beq_false_of_ne here]
        rfl

theorem map_fst_put (key : String) (info : MediaInfo α) (known : List (String × MediaInfo α)) :
    (Association.put key info known).map Prod.fst =
      if key ∈ known.map Prod.fst then known.map Prod.fst else known.map Prod.fst ++ [key] := by
  induction known with
  | nil => rfl
  | cons entry rest ih =>
      obtain ⟨name, old⟩ := entry
      by_cases here : name = key
      · simp [Association.put, here]
      · rw [Association.put, if_neg (by simpa using here), List.map_cons, ih]
        by_cases later : key ∈ rest.map Prod.fst <;> simp [later, Ne.symm here]

theorem nodup_foldl_put (pairs known : List (String × MediaInfo α))
    (distinct : (known.map Prod.fst).Nodup) :
    ((pairs.foldl (fun known entry => Association.put entry.1 entry.2 known) known).map
      Prod.fst).Nodup := by
  induction pairs generalizing known with
  | nil => exact distinct
  | cons pair rest ih =>
      refine ih _ ?_
      rw [map_fst_put]
      split
      · exact distinct
      · rename_i absent
        exact List.nodup_append.mpr ⟨distinct, List.nodup_singleton _, by
          rintro name member _ (_ | ⟨_, ⟨⟩⟩) rfl
          exact absent member⟩

/-- All clips with an id of one file are given the same. -/
theorem lookup_reverse_map (ids : List String) (info : MediaInfo α) :
    (ids.map fun id => (id, info)).reverse.lookup id =
      if ids.contains id then some info else none := by
  rw [← List.map_reverse]
  have same : ids.contains id = ids.reverse.contains id := by simp
  rw [same]
  induction ids.reverse with
  | nil => rfl
  | cons name names ih =>
      rw [List.map_cons, List.lookup_cons, List.contains_cons]
      by_cases here : id = name
      · simp [here]
      · rw [beq_false_of_ne here, Bool.false_or, ih]

/-- An id is given what is known of the last file with it, where all files are known. -/
theorem lookup_given {names : List String} (known : ∀ file ∈ names, (infos.lookup file).isSome) :
    (given clips infos names).reverse.lookup id =
      (names.reverse.find? fun file => (idsOf clips file).contains id).bind
        fun file => infos.lookup file := by
  induction names with
  | nil => rfl
  | cons file rest ih =>
      have ih := ih fun other member => known other (List.mem_cons_of_mem _ member)
      obtain ⟨info, isInfo⟩ := Option.isSome_iff_exists.mp (known file List.mem_cons_self)
      have split : given clips infos (file :: rest) =
          ((idsOf clips file).map fun id => (id, info)) ++ given clips infos rest := by
        rw [given, List.flatMap_cons, isInfo]
        rfl
      rw [split, List.reverse_append, List.lookup_append, ih, lookup_reverse_map, List.reverse_cons,
        List.find?_append]
      cases later : rest.reverse.find? fun file => (idsOf clips file).contains id with
      | some found =>
          have inRest := List.mem_reverse.mp (List.mem_of_find?_eq_some later)
          obtain ⟨other, isOther⟩ :=
            Option.isSome_iff_exists.mp (known found (List.mem_cons_of_mem _ inRest))
          simp [isOther]
      | none =>
          by_cases holds : id ∈ idsOf clips file
          · simp [holds, isInfo]
          · simp [holds]

/-- The map that is assigned, id by id. -/
theorem lookup_assign (known : ∀ file ∈ files clips, (infos.lookup file).isSome) :
    (assign clips infos).lookup id =
      (shownBy? clips id).bind fun file => infos.lookup file := by
  rw [assign_eq, lookup_foldl_put, List.lookup_nil, Option.or_none, lookup_given known]
  rfl

theorem nodup_assign : ((assign clips infos).map Prod.fst).Nodup :=
  nodup_foldl_put _ _ List.nodup_nil

/-- What is assigned depends on what is known of the files of the clips alone. -/
theorem assign_congr {others : List (String × MediaInfo α)}
    (same : ∀ file ∈ files clips, infos.lookup file = others.lookup file) :
    assign clips infos = assign clips others := by
  have sameGiven : given clips infos (files clips) = given clips others (files clips) :=
    List.flatMap_congr fun file member => by rw [same file member]
  rw [assign_eq, sameGiven, assign_eq]

/-! ## Probes of all files -/

/-- What is gathered from the probes of all files of the clips. -/
structure Gathers (clips : List (Clip α)) (ended : List (Probed α)) : Prop where
  once : (ended.map Prod.fst).Perm (files clips)
  /-- There is a map exactly if no probe has failed. -/
  ok_iff : (∃ infos, result clips ended = .ok infos) ↔ ∀ entry ∈ ended, ∃ info, entry.2 = .ok info
  /-- Otherwise the first probe that has failed is at fault. -/
  fault : ∀ fault, result clips ended = .error fault →
    ∃ before file after, ended = before ++ (file, .error fault) :: after ∧
      ∀ entry ∈ before, ∃ info, entry.2 = .ok info
  distinct : ∀ infos, result clips ended = .ok infos → (infos.map Prod.fst).Nodup
  /-- The map has the ids of the media clips. -/
  ids : ∀ infos, result clips ended = .ok infos → ∀ id,
    (infos.lookup id).isSome = true ↔ ∃ clip ∈ clips, clip.isMedia = true ∧ clip.id = id
  /-- A clip with an id of its own has what the probe of its file has found. -/
  sole : ∀ infos, result clips ended = .ok infos → ∀ clip : Clip α, clip.IsSole clips →
    infos.lookup clip.id = clip.source.file?.bind (found? ended)
  /-- Of clips that share an id, one of the last file counts. -/
  last : ∀ infos, result clips ended = .ok infos → ∀ id,
    infos.lookup id = (shownBy? clips id).bind (found? ended)

theorem result_eq_ok_iff {media : MediaMap α} :
    result clips ended = .ok media ↔ ∃ infos, gather ended = .ok infos ∧ assign clips infos = media :=
  Result.map_eq_ok_iff

/-- If every file has been probed, something is known of it once all is gathered. -/
theorem isSome_of_gather (once : (ended.map Prod.fst).Perm (files clips))
    (gathered : gather ended = .ok infos) : ∀ file ∈ files clips, (infos.lookup file).isSome := by
  intro file member
  have isEnded := once.mem_iff.mpr member
  rw [gather_eq_ok_iff.mp gathered, List.map_map] at isEnded
  obtain ⟨⟨name, info⟩, entryMem, rfl⟩ := List.mem_map.mp isEnded
  rw [List.lookup_isSome_iff]
  exact ⟨_, entryMem, by simp⟩

theorem gathers_of_perm (once : (ended.map Prod.fst).Perm (files clips)) :
    Gathers clips ended := by
  have lookup_eq : ∀ media, result clips ended = .ok media → ∀ id,
      media.lookup id = (shownBy? clips id).bind (found? ended) := by
    intro media made id
    obtain ⟨infos, gathered, rfl⟩ := result_eq_ok_iff.mp made
    rw [lookup_assign (isSome_of_gather once gathered)]
    exact Option.bind_congr fun file _ => lookup_of_gather gathered
  refine ⟨once, ?_, ?_, ?_, ?_, ?_, lookup_eq⟩
  · rw [← exists_gather_iff]
    constructor
    · rintro ⟨media, made⟩
      obtain ⟨infos, gathered, _⟩ := result_eq_ok_iff.mp made
      exact ⟨infos, gathered⟩
    · rintro ⟨infos, gathered⟩
      exact ⟨_, result_eq_ok_iff.mpr ⟨infos, gathered, rfl⟩⟩
  · intro fault failed
    apply exists_split_of_gather
    rw [result] at failed
    cases gathered : gather ended with
    | ok infos => rw [gathered] at failed; cases failed
    | error cause => rw [gathered] at failed; cases failed; rfl
  · intro media made
    obtain ⟨infos, _, rfl⟩ := result_eq_ok_iff.mp made
    exact nodup_assign
  · intro media made id
    obtain ⟨infos, gathered, rfl⟩ := result_eq_ok_iff.mp made
    have known := isSome_of_gather once gathered
    rw [lookup_assign known, ← isSome_shownBy?_iff]
    cases shown : shownBy? clips id with
    | none => rfl
    | some file => simpa using known file (mem_of_shownBy? shown).1
  · intro media made clip sole
    rw [lookup_eq media made, shownBy?_of_isSole sole]

/-! ## Orders in which probes end -/

theorem lookup_of_mem {outcome : Result α (MediaInfo α)} (distinct : (ended.map Prod.fst).Nodup)
    (member : (file, outcome) ∈ ended) : ended.lookup file = some outcome := by
  induction ended with
  | nil => cases member
  | cons head rest ih =>
      obtain ⟨name, other⟩ := head
      rw [List.map_cons, List.nodup_cons] at distinct
      rcases List.mem_cons.mp member with here | later
      · cases here
        exact List.lookup_cons_self
      · have elsewhere : file ≠ name := by
          rintro rfl
          exact distinct.1 (List.mem_map.mpr ⟨_, later, rfl⟩)
        rw [List.lookup_cons, beq_false_of_ne elsewhere]
        exact ih distinct.2 later

/-- Everything is gathered if the probe of every file has found something. -/
theorem exists_gather_iff_found (once : (ended.map Prod.fst).Perm (files clips)) :
    (∃ infos, gather ended = .ok infos) ↔ ∀ file ∈ files clips, (found? ended file).isSome := by
  constructor
  · rintro ⟨infos, gathered⟩ file member
    rw [← lookup_of_gather gathered]
    exact isSome_of_gather once gathered file member
  · intro found
    rw [exists_gather_iff]
    rintro ⟨file, outcome⟩ member
    have isFile := once.mem_iff.mp (List.mem_map_of_mem member)
    have ended_eq := lookup_of_mem (once.nodup_iff.mpr (nodup_files clips)) member
    have isFound := found file isFile
    rw [found?, ended_eq, Option.bind_some] at isFound
    cases outcome with
    | ok info => exact ⟨info, rfl⟩
    | error cause => cases isFound

/-- Whether there is a map, and which one, does not depend on the order of the probes. -/
theorem toOption_result_eq (firstOnce : (first.map Prod.fst).Perm (files clips))
    (secondOnce : (second.map Prod.fst).Perm (files clips))
    (agree : ∀ file ∈ files clips, found? first file = found? second file) :
    (result clips first).toOption = (result clips second).toOption := by
  have together : (∃ infos, gather first = .ok infos) ↔ ∃ infos, gather second = .ok infos := by
    rw [exists_gather_iff_found firstOnce, exists_gather_iff_found secondOnce]
    exact forall₂_congr fun file member => by rw [agree file member]
  rw [result, result]
  cases firstGathered : gather first with
  | ok infos =>
      obtain ⟨others, secondGathered⟩ := together.mp ⟨infos, firstGathered⟩
      have same : assign clips infos = assign clips others := assign_congr fun file member => by
        rw [lookup_of_gather firstGathered, lookup_of_gather secondGathered, agree file member]
      rw [secondGathered, Except.map, Except.map, same]
  | error fault =>
      cases secondGathered : gather second with
      | ok others =>
          obtain ⟨infos, gathered⟩ := together.mpr ⟨others, secondGathered⟩
          cases firstGathered.symm.trans gathered
      | error other => rfl

end Montage.FanOut
