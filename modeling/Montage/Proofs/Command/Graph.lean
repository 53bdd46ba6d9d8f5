import Montage.Proofs.Command.Preparation

/-!
# Graphs without loose ends

A command makes its graph out of the canvas, the chains that prepare the inputs, the
overlays and the mixture.  Whatever the clips of a plan are, what is taken out of all
links is what is given to them: the streams taken are a permutation of the streams of
the inputs and the links given, none of which occurs twice.
-/

namespace Montage

open Command

variable {α : Type}

/-! ## Overlays -/

/-- Chains that lay pictures on a link, each on what the one in front of it gives, up to
the link at the top. -/
inductive Stacks : Link → List (ℕ × Geometry α) → List (Chain α) → Link → Prop where
  | nothing (below : Link) : Stacks below [] [] below
  | overlay {below top : Link} {input : ℕ} {geometry : Geometry α}
      {visuals : List (ℕ × Geometry α)} {chains : List (Chain α)}
      (above : Stacks (.stack input) visuals chains top) :
      Stacks below ((input, geometry) :: visuals)
        (⟨[.link below, .link (.picture input)], [.overlay geometry.x geometry.y],
          .stack input⟩ :: chains) top

/-- The pictures of all clips that have one are stacked in their order. -/
theorem stacks_stack [Scalar α] (below : Link) (input : ℕ) (clips : List (PlannedClip α)) :
    Stacks below (visualsFrom input clips) (stack below input clips).1
      (stack below input clips).2 := by
  induction clips generalizing below input with
  | nil => exact .nothing below
  | cons clip rest ih =>
      rw [visualsFrom_cons]
      cases shown : clip.geometry with
      | none =>
          rw [stack, shown]
          exact ih below (input + 1)
      | some geometry =>
          rw [stack, shown]
          exact .overlay (ih (.stack input) (input + 1))

namespace Stacks

variable {below top : Link} {visuals : List (ℕ × Geometry α)} {chains : List (Chain α)}

theorem given_eq (stacked : Stacks below visuals chains top) :
    Chain.given chains = (visuals.map Prod.fst).map .stack := by
  induction stacked with
  | nothing => rfl
  | overlay above ih => simp [ih]

/-- Overlays and whatever takes their top take the link below, every picture, and what
every overlay gives. -/
theorem taken_perm (stacked : Stacks below visuals chains top) :
    (Chain.taken chains ++ [Feed.link top]).Perm
      (.link below :: (visuals.map Prod.fst).map (fun input => .link (.picture input)) ++
        (visuals.map Prod.fst).map (fun input => .link (.stack input))) := by
  induction stacked with
  | nothing below => exact .refl _
  | @overlay below top input geometry visuals chains above ih =>
      simp only [Chain.taken_cons, List.map_cons, List.cons_append, List.nil_append]
      refine .cons _ (.cons _ (ih.trans ?_))
      exact List.perm_middle.symm

theorem takesEarlier (stacked : Stacks below visuals chains top) {known : List Link}
    (belowKnown : below ∈ known) (picturesKnown : ∀ input ∈ visuals.map Prod.fst,
      Link.picture input ∈ known) : Chain.TakesEarlier known chains := by
  induction stacked generalizing known with
  | nothing => trivial
  | overlay above ih =>
      simp only [List.map_cons, List.forall_mem_cons] at picturesKnown
      constructor
      · intro link member
        simp only [List.mem_cons, Feed.link.injEq, List.not_mem_nil, or_false] at member
        rcases member with rfl | rfl
        · exact belowKnown
        · exact picturesKnown.1
      · apply ih List.mem_cons_self
        intro input member
        exact List.mem_cons_of_mem _ (picturesKnown.2 input member)

theorem eq_overlay_of_mem (stacked : Stacks below visuals chains top) {chain : Chain α}
    (member : chain ∈ chains) :
    (∃ x y, chain.filters = [.overlay x y]) ∧ ∃ input, chain.gives = .stack input := by
  induction stacked with
  | nothing => contradiction
  | @overlay _ _ input geometry _ _ above ih =>
      rcases List.mem_cons.mp member with rfl | member
      · exact ⟨⟨geometry.x, geometry.y, rfl⟩, input, rfl⟩
      · exact ih member

end Stacks

/-! ## Mixtures -/

section Mixture

variable (links : List Link)

/-- A mixture takes all links and gives one, which takes their place. -/
theorem taken_mixture_perm :
    (Chain.taken (mixture (α := α) links).1 ++ (mixture (α := α) links).2.toList.map Feed.link).Perm
      (links.map .link ++ (Chain.given (mixture (α := α) links).1).map .link) := by
  match links with
  | [] => exact .refl _
  | [_] => exact .refl _
  | _ :: _ :: _ => simp [mixture, Chain.taken, Chain.given]

theorem eq_mix_of_mem_mixture {chain : Chain α} (member : chain ∈ (mixture links).1) :
    chain = ⟨links.map .link, [.mix links.length], .mixed⟩ := by
  match links with
  | [] => contradiction
  | [_] => contradiction
  | _ :: _ :: _ => exact List.mem_singleton.mp member

theorem given_mixture_sublist : (Chain.given (mixture (α := α) links).1).Sublist [.mixed] := by
  match links with
  | [] => exact List.nil_sublist _
  | [_] => exact List.nil_sublist _
  | _ :: _ :: _ => exact .refl _

theorem takesEarlier_mixture {known : List Link} (linksKnown : links ⊆ known) :
    Chain.TakesEarlier known (mixture (α := α) links).1 := by
  match links with
  | [] => trivial
  | [_] => trivial
  | _ :: _ :: _ =>
      refine ⟨fun link member => linksKnown ?_, trivial⟩
      simpa using member

end Mixture

/-! ## The whole graph -/

namespace Graph

/-- The links that the chains of a graph give. -/
def given (graph : Graph α) : List Link :=
  Chain.given graph.chains

/-- The streams that are taken from a graph: by its chains, and by what is put out. -/
def taken (graph : Graph α) : List Feed :=
  Chain.taken graph.chains ++ (graph.picture :: graph.sound.toList).map .link

/-- The streams of a graph over the clips whose sources are its inputs, in their order. -/
structure IsWired (graph : Graph α) (clips : List (PlannedClip α)) : Prop where
  /-- There is the chain of the canvas at least, and no chain is empty. -/
  chains_ne_nil : graph.chains ≠ []
  filtered : ∀ chain ∈ graph.chains, chain.filters ≠ []
  /-- Links are given once, and streams are taken once. -/
  nodup_given : graph.given.Nodup
  nodup_taken : graph.taken.Nodup
  /-- A link is taken if it is given, and only then. -/
  link_taken_iff : ∀ link, .link link ∈ graph.taken ↔ link ∈ graph.given
  /-- A picture that is taken belongs to the clip of its number. -/
  picture_input : ∀ input, .inputPicture input ∈ graph.taken →
    ∃ clip, clips[input]? = some clip ∧ clip.geometry.isSome = true
  /-- A sound that is taken belongs to the clip of its number. -/
  sound_input : ∀ input, .inputSound input ∈ graph.taken →
    ∃ clip, clips[input]? = some clip ∧ clip.hasAudio = true
  /-- The picture of an input is given under its own number. -/
  picture_own : ∀ chain ∈ graph.chains, ∀ input, chain.gives = .picture input →
    chain.takes = [.inputPicture input]
  /-- The sound of an input is given under its own number. -/
  sound_own : ∀ chain ∈ graph.chains, ∀ input, chain.gives = .sound input →
    chain.takes = [.inputSound input]
  /-- A link is taken behind the chain that gives it. -/
  earlier : Chain.TakesEarlier [] graph.chains
  /-- A mixing filter counts the links that are fed to it. -/
  mix : ∀ chain ∈ graph.chains, ∀ count, .mix count ∈ chain.filters →
    chain.takes.length = count ∧ ∀ feed ∈ chain.takes, ∃ link, feed = .link link
  /-- The overlays stack all pictures on the canvas, in the order of the clips, and their
  top is put out. -/
  overlays : Stacks .base (visualsFrom 0 clips) (graph.chains.filter Chain.lays) graph.picture

end Graph

namespace Command

/-- The numbers of the clips that are seen. -/
def visuals (clips : List (PlannedClip α)) : List ℕ :=
  numbersFrom (fun clip => clip.geometry.isSome) 0 clips

/-- The numbers of the clips that are heard: none at an instant. -/
def audibles (instant : Option α) (clips : List (PlannedClip α)) : List ℕ :=
  numbersFrom (fun clip => instant.isNone && clip.hasAudio) 0 clips

/-- The streams of inputs that a graph takes. -/
def pads (instant : Option α) (clips : List (PlannedClip α)) : List Feed :=
  (visuals clips).map .inputPicture ++ (audibles instant clips).map .inputSound

variable [Scalar α]

/-- A graph made of the chain of the canvas, those of the inputs, the overlays and the
mixture. -/
def assembled (instant : Option α) (clips : List (PlannedClip α)) (canvas : Chain α)
    (preparing : List (Chain α)) : Graph α :=
  let stacked := stack .base 0 clips
  let mixing := mixture ((audibles instant clips).map .sound)
  ⟨canvas :: preparing ++ stacked.1 ++ mixing.1, stacked.2, mixing.2⟩

/-- The chain of an empty canvas. -/
structure IsCanvas (canvas : Chain α) : Prop where
  takes : canvas.takes = []
  gives : canvas.gives = .base
  plain : Plain canvas.filters
  filtered : canvas.filters ≠ []

section Assembled

variable {instant : Option α} {clips : List (PlannedClip α)} {canvas : Chain α}
variable {preparing : List (Chain α)}

/-- What is taken from a graph is what its inputs have and what its chains give. -/
theorem taken_assembled_perm (isCanvas : IsCanvas canvas)
    (prepared : Prepared instant 0 clips preparing) :
    (assembled instant clips canvas preparing).taken.Perm
      (pads instant clips ++ (assembled instant clips canvas preparing).given.map .link) := by
  have stacked := stacks_stack .base 0 clips
  have mixed := taken_mixture_perm (α := α) ((audibles instant clips).map .sound)
  have takenPrepared := prepared.taken_perm
  have givenPrepared := prepared.given_perm.map Feed.link
  have takenStack := stacked.taken_perm
  rw [List.perm_iff_count] at mixed takenPrepared givenPrepared takenStack ⊢
  intro feed
  have mixed := mixed feed
  have takenPrepared := takenPrepared feed
  have givenPrepared := givenPrepared feed
  have takenStack := takenStack feed
  rw [map_fst_visualsFrom] at takenStack
  simp only [Graph.taken, Graph.given, assembled, pads, visuals, audibles, List.cons_append,
    Chain.taken_cons, Chain.taken_append, Chain.given_cons, Chain.given_append, isCanvas.takes,
    isCanvas.gives, stacked.given_eq, map_fst_visualsFrom, List.map_cons, List.map_append,
    List.map_map, List.nil_append, List.count_append, List.count_cons, List.count_nil,
    Function.comp_def] at mixed takenPrepared givenPrepared takenStack ⊢
  omega

/-- No chain gives a link that another one gives. -/
theorem nodup_given_assembled (isCanvas : IsCanvas canvas)
    (prepared : Prepared instant 0 clips preparing) :
    (assembled instant clips canvas preparing).given.Nodup := by
  have kinds : (assembled instant clips canvas preparing).given.Perm
      (.base :: ((visuals clips).map .picture ++ (audibles instant clips).map .sound) ++
        (visuals clips).map .stack ++
        Chain.given (mixture (α := α) ((audibles instant clips).map .sound)).1) := by
    simp only [Graph.given, assembled, List.cons_append, Chain.given_cons, Chain.given_append,
      isCanvas.gives, (stacks_stack .base 0 clips).given_eq, map_fst_visualsFrom]
    exact .cons _ ((prepared.given_perm.append_right _).append_right _)
  have pictures : ((visuals clips).map Link.picture).Nodup :=
    nodup_numbersFrom.map fun _ _ => Link.picture.inj
  have sounds : ((audibles instant clips).map Link.sound).Nodup :=
    nodup_numbersFrom.map fun _ _ => Link.sound.inj
  have tops : ((visuals clips).map Link.stack).Nodup :=
    nodup_numbersFrom.map fun _ _ => Link.stack.inj
  have mixed := given_mixture_sublist (α := α) ((audibles instant clips).map .sound)
  -- the parts are of different kinds
  rw [kinds.nodup_iff]
  refine List.Nodup.append (List.Nodup.append (List.nodup_cons.mpr ⟨?_, ?_⟩) tops ?_)
    (mixed.nodup (List.nodup_singleton _)) ?_
  · simp
  · refine pictures.append sounds ?_
    simp [List.disjoint_left]
  · simp [List.disjoint_left, or_imp, forall_and]
  · intro link member given
    rw [List.mem_singleton.mp (mixed.subset given)] at member
    simp at member

/-- No stream is there twice. -/
theorem nodup_taken_assembled (isCanvas : IsCanvas canvas)
    (prepared : Prepared instant 0 clips preparing) :
    (assembled instant clips canvas preparing).taken.Nodup := by
  have pictures : ((visuals clips).map Feed.inputPicture).Nodup :=
    nodup_numbersFrom.map fun _ _ => Feed.inputPicture.inj
  have sounds : ((audibles instant clips).map Feed.inputSound).Nodup :=
    nodup_numbersFrom.map fun _ _ => Feed.inputSound.inj
  have links : ((assembled instant clips canvas preparing).given.map Feed.link).Nodup :=
    (nodup_given_assembled isCanvas prepared).map fun _ _ => Feed.link.inj
  rw [(taken_assembled_perm isCanvas prepared).nodup_iff, pads]
  refine (pictures.append sounds ?_).append links ?_
  · simp [List.disjoint_left]
  · simp [List.disjoint_left, or_imp, forall_and]

/-- Every link that a chain takes is given in front of it. -/
theorem takesEarlier_assembled (isCanvas : IsCanvas canvas)
    (prepared : Prepared instant 0 clips preparing) :
    Chain.TakesEarlier [] (assembled instant clips canvas preparing).chains := by
  have givenPrepared (link : Link) : link ∈ Chain.given preparing ↔
      link ∈ (visuals clips).map .picture ∨ link ∈ (audibles instant clips).map .sound :=
    prepared.given_perm.mem_iff.trans List.mem_append
  have preparingEarlier : Chain.TakesEarlier [.base] preparing := by
    apply Chain.TakesEarlier.of_forall_notMem
    intro link member
    simpa using prepared.taken_perm.mem_iff.mp member
  have overlaysEarlier : Chain.TakesEarlier (.base :: Chain.given preparing)
      (stack .base 0 clips).1 := by
    apply (stacks_stack .base 0 clips).takesEarlier List.mem_cons_self
    rw [map_fst_visualsFrom]
    intro input member
    exact List.mem_cons_of_mem _ ((givenPrepared _).mpr (.inl (List.mem_map_of_mem member)))
  have mixingEarlier : Chain.TakesEarlier
      (.base :: (Chain.given preparing ++ Chain.given (stack .base 0 clips).1))
      (mixture (α := α) ((audibles instant clips).map .sound)).1 := by
    apply takesEarlier_mixture
    intro link member
    refine List.mem_cons_of_mem _ (List.mem_append_left _ ?_)
    exact (givenPrepared link).mpr (.inr member)
  constructor
  · simp [isCanvas.takes]
  · rw [isCanvas.gives]
    refine (preparingEarlier.append overlaysEarlier).append ?_
    rw [Chain.given_append]
    exact mixingEarlier

omit [Scalar α] in
/-- The chains of a graph: the canvas, those that prepare an input, overlays and a mixture. -/
theorem mem_chains_assembled {chain : Chain α}
    (member : chain ∈ (assembled instant clips canvas preparing).chains) :
    chain = canvas ∨ chain ∈ preparing ∨ chain ∈ (stack .base 0 clips).1 ∨
      chain ∈ (mixture (α := α) ((audibles instant clips).map .sound)).1 := by
  simpa only [assembled, List.cons_append, List.mem_cons, List.mem_append, or_assoc] using member

/-- A mixing filter counts the links that are fed to it. -/
theorem length_takes_of_mix (isCanvas : IsCanvas canvas)
    (prepared : Prepared instant 0 clips preparing) {chain : Chain α}
    (member : chain ∈ (assembled instant clips canvas preparing).chains) {count : ℕ}
    (mixes : .mix count ∈ chain.filters) :
    chain.takes.length = count ∧ ∀ feed ∈ chain.takes, ∃ link, feed = .link link := by
  have notPlain : ¬Plain chain.filters := fun plain => by simpa [Filter.joins] using plain _ mixes
  rcases mem_chains_assembled member with rfl | prepares | lays | mixing
  · exact absurd isCanvas.plain notPlain
  · exact absurd (prepared.prepares chain prepares).plain notPlain
  · rcases (stacks_stack .base 0 clips).eq_overlay_of_mem lays with ⟨⟨x, y, filters_eq⟩, _⟩
    rw [filters_eq] at mixes
    simp at mixes
  · rw [eq_mix_of_mem_mixture _ mixing] at mixes ⊢
    cases List.mem_singleton.mp mixes
    simp

/-- The overlays of the graph are those of the stack. -/
theorem filter_lays_assembled (isCanvas : IsCanvas canvas)
    (prepared : Prepared instant 0 clips preparing) :
    (assembled instant clips canvas preparing).chains.filter Chain.lays =
      (stack .base 0 clips).1 := by
  have plain {chain : Chain α} (plain : Plain chain.filters) : chain.lays = false := by
    rw [Chain.lays, List.any_eq_false]
    intro filter member
    have single := plain filter member
    cases filter <;> simp_all [Filter.joins]
  have canvasOut : canvas.lays = false := plain isCanvas.plain
  have preparingOut : preparing.filter Chain.lays = [] :=
    List.filter_eq_nil_iff.mpr fun chain member => by
      simp [plain (prepared.prepares chain member).plain]
  have stackIn : (stack .base 0 clips).1.filter Chain.lays = (stack .base 0 clips).1 := by
    refine List.filter_eq_self.mpr fun chain member => ?_
    rcases (stacks_stack .base 0 clips).eq_overlay_of_mem member with ⟨⟨x, y, filters_eq⟩, _⟩
    simp [Chain.lays, filters_eq]
  have mixingOut :
      (mixture (α := α) ((audibles instant clips).map .sound)).1.filter Chain.lays = [] := by
    refine List.filter_eq_nil_iff.mpr fun chain member => ?_
    simp [eq_mix_of_mem_mixture _ member, Chain.lays]
  simp [assembled, canvasOut, preparingOut, stackIn, mixingOut]

theorem filters_ne_nil_of_mem (isCanvas : IsCanvas canvas)
    (prepared : Prepared instant 0 clips preparing) {chain : Chain α}
    (member : chain ∈ (assembled instant clips canvas preparing).chains) : chain.filters ≠ [] := by
  rcases mem_chains_assembled member with rfl | prepares | lays | mixing
  · exact isCanvas.filtered
  · exact (prepared.prepares chain prepares).filtered
  · obtain ⟨⟨x, y, filters_eq⟩, _⟩ := (stacks_stack .base 0 clips).eq_overlay_of_mem lays
    simp [filters_eq]
  · simp [eq_mix_of_mem_mixture _ mixing]

/-- What is given under the name of an input comes from this input. -/
theorem own_of_mem (isCanvas : IsCanvas canvas)
    (prepared : Prepared instant 0 clips preparing) {chain : Chain α}
    (member : chain ∈ (assembled instant clips canvas preparing).chains) (input : ℕ) :
    (chain.gives = .picture input → chain.takes = [.inputPicture input]) ∧
      (chain.gives = .sound input → chain.takes = [.inputSound input]) := by
  rcases mem_chains_assembled member with rfl | prepares | lays | mixing
  · simp [isCanvas.gives]
  · obtain ⟨k, ⟨takes, gives⟩ | ⟨takes, gives⟩⟩ := (prepared.prepares chain prepares).own
    · simp +contextual [takes, gives]
    · simp +contextual [takes, gives]
  · obtain ⟨_, top, gives⟩ := (stacks_stack .base 0 clips).eq_overlay_of_mem lays
    simp [gives]
  · simp [eq_mix_of_mem_mixture _ mixing]

/-- Whatever the clips are, the graph is wired. -/
theorem isWired_assembled (isCanvas : IsCanvas canvas)
    (prepared : Prepared instant 0 clips preparing) :
    (assembled instant clips canvas preparing).IsWired clips := by
  have taken_iff (feed : Feed) : feed ∈ (assembled instant clips canvas preparing).taken ↔
      feed ∈ pads instant clips ∨
        feed ∈ (assembled instant clips canvas preparing).given.map .link :=
    (taken_assembled_perm isCanvas prepared).mem_iff.trans List.mem_append
  constructor
  · exact List.cons_ne_nil _ _
  · exact fun chain member => filters_ne_nil_of_mem isCanvas prepared member
  · exact nodup_given_assembled isCanvas prepared
  · exact nodup_taken_assembled isCanvas prepared
  · intro link
    simp [taken_iff, pads]
  · intro input taken
    have seen : input ∈ visuals clips := by simpa [taken_iff, pads] using taken
    exact mem_numbersFrom_zero_iff.mp seen
  · intro input taken
    have heard : input ∈ audibles instant clips := by simpa [taken_iff, pads] using taken
    rcases mem_numbersFrom_zero_iff.mp heard with ⟨clip, found, hasSound⟩
    rw [Bool.and_eq_true] at hasSound
    exact ⟨clip, found, hasSound.2⟩
  · exact fun chain member input => (own_of_mem isCanvas prepared member input).1
  · exact fun chain member input => (own_of_mem isCanvas prepared member input).2
  · exact takesEarlier_assembled isCanvas prepared
  · intro chain member count mixes
    exact length_takes_of_mix isCanvas prepared member mixes
  · rw [filter_lays_assembled isCanvas prepared]
    exact stacks_stack .base 0 clips

end Assembled
end Command
end Montage
