import Montage.Command.Basic
import Montage.Proofs.Command.Labels
import Montage.Proofs.Result

/-!
# Inputs and the chains that prepare them

Every chain takes streams and gives a link.  The chains that prepare the inputs take
each picture and each sound of an input once, do something to this one stream, and
give it under its own name.  Filters that join streams come only behind them.
-/

namespace Montage

variable {α : Type}

/-! ## Streams of chains -/

namespace Chain

/-- The links that chains give. -/
def given (chains : List (Chain α)) : List Link :=
  chains.map gives

/-- The streams that chains take. -/
def taken (chains : List (Chain α)) : List Feed :=
  chains.flatMap takes

@[simp]
theorem given_cons (chain : Chain α) (rest : List (Chain α)) :
    given (chain :: rest) = chain.gives :: given rest :=
  rfl

@[simp]
theorem given_append (front back : List (Chain α)) :
    given (front ++ back) = given front ++ given back :=
  List.map_append

@[simp]
theorem taken_cons (chain : Chain α) (rest : List (Chain α)) :
    taken (chain :: rest) = chain.takes ++ taken rest :=
  rfl

@[simp]
theorem taken_append (front back : List (Chain α)) :
    taken (front ++ back) = taken front ++ taken back :=
  List.flatMap_append

/-- Every link that a chain takes is known or given by a chain in front of it. -/
def TakesEarlier (known : List Link) : List (Chain α) → Prop
  | [] => True
  | chain :: rest =>
      (∀ link, .link link ∈ chain.takes → link ∈ known) ∧
        TakesEarlier (chain.gives :: known) rest

theorem TakesEarlier.mono {chains : List (Chain α)} {known more : List Link}
    (earlier : TakesEarlier known chains) (subset : known ⊆ more) : TakesEarlier more chains := by
  induction chains generalizing known more with
  | nil => trivial
  | cons chain rest ih =>
      exact ⟨fun link taken => subset (earlier.1 link taken),
        ih earlier.2 (List.cons_subset_cons _ subset)⟩

theorem TakesEarlier.append {front back : List (Chain α)} {known : List Link}
    (frontEarlier : TakesEarlier known front)
    (backEarlier : TakesEarlier (known ++ given front) back) :
    TakesEarlier known (front ++ back) := by
  induction front generalizing known with
  | nil => simpa [given] using backEarlier
  | cons chain rest ih =>
      refine ⟨frontEarlier.1, ih frontEarlier.2 (backEarlier.mono ?_)⟩
      intro link member
      simp only [given_cons, List.mem_append, List.mem_cons] at member ⊢
      tauto

/-- Chains that take no links can stand anywhere. -/
theorem TakesEarlier.of_forall_notMem {chains : List (Chain α)} (known : List Link)
    (pads : ∀ link, Feed.link link ∉ taken chains) : TakesEarlier known chains := by
  induction chains generalizing known with
  | nil => trivial
  | cons chain rest ih =>
      refine ⟨fun link member => absurd (List.mem_append_left _ member) (pads link), ih _ ?_⟩
      exact fun link member => pads link (List.mem_append_right _ member)

end Chain

/-- Whether a filter needs several streams. -/
def Filter.joins : Filter α → Bool
  | .overlay _ _ | .mix _ => true
  | _ => false

/-- Whether a chain lays a picture on another one. -/
def Chain.lays (chain : Chain α) : Bool :=
  chain.filters.any fun
    | .overlay _ _ => true
    | _ => false

/-! ## Numbers of inputs -/

namespace Command

/-- The pictures of the inputs from one on, each with the number of its input. -/
def visualsFrom (input : ℕ) (clips : List (PlannedClip α)) : List (ℕ × Geometry α) :=
  (clips.zipIdx input).filterMap fun (clip, input) => clip.geometry.map (input, ·)

/-- The numbers of the inputs from one on that pass a test. -/
def numbersFrom (test : PlannedClip α → Bool) (input : ℕ) (clips : List (PlannedClip α)) :
    List ℕ :=
  ((clips.zipIdx input).filter fun (clip, _) => test clip).map Prod.snd

section Numbers

variable {input : ℕ} {clip : PlannedClip α} {clips rest : List (PlannedClip α)}
variable {test : PlannedClip α → Bool}

theorem visualsFrom_cons :
    visualsFrom input (clip :: rest) =
      (clip.geometry.map (input, ·)).toList ++ visualsFrom (input + 1) rest := by
  cases shown : clip.geometry <;> simp [visualsFrom, shown]

theorem numbersFrom_singleton :
    numbersFrom test input [clip] = if test clip then [input] else [] := by
  cases passed : test clip <;> simp [numbersFrom, passed]

theorem numbersFrom_cons (test : PlannedClip α → Bool) (input : ℕ) (clip : PlannedClip α)
    (rest : List (PlannedClip α)) :
    numbersFrom test input (clip :: rest) =
      numbersFrom test input [clip] ++ numbersFrom test (input + 1) rest := by
  cases passed : test clip <;> simp [numbersFrom, passed]

theorem map_fst_visualsFrom :
    (visualsFrom input clips).map Prod.fst =
      numbersFrom (fun clip => clip.geometry.isSome) input clips := by
  induction clips generalizing input with
  | nil => rfl
  | cons clip rest ih =>
      rw [visualsFrom_cons, numbersFrom_cons, numbersFrom_singleton, List.map_append, ih]
      cases clip.geometry <;> rfl

theorem nodup_numbersFrom : (numbersFrom test input clips).Nodup := by
  have sublist : (numbersFrom test input clips).Sublist ((clips.zipIdx input).map Prod.snd) :=
    List.filter_sublist.map _
  rw [List.zipIdx_map_snd] at sublist
  exact sublist.nodup List.nodup_range'

/-- A number stands for a clip that passes the test. -/
theorem mem_numbersFrom_zero_iff {k : ℕ} :
    k ∈ numbersFrom test 0 clips ↔ ∃ clip, clips[k]? = some clip ∧ test clip = true := by
  simp only [numbersFrom, List.mem_map, List.mem_filter, List.mem_zipIdx_iff_getElem?, Prod.exists]
  constructor
  · rintro ⟨clip, _, ⟨found, passed⟩, rfl⟩
    exact ⟨clip, found, passed⟩
  · rintro ⟨clip, found, passed⟩
    exact ⟨clip, k, ⟨found, passed⟩, rfl⟩

end Numbers

/-! ## Filters of one stream -/

/-- Filters of one stream each. -/
def Plain (filters : List (Filter α)) : Prop :=
  ∀ filter ∈ filters, filter.joins = false

@[simp]
theorem plain_nil : Plain ([] : List (Filter α)) := by
  simp [Plain]

@[simp]
theorem plain_cons {filter : Filter α} {rest : List (Filter α)} :
    Plain (filter :: rest) ↔ filter.joins = false ∧ Plain rest :=
  List.forall_mem_cons

@[simp]
theorem plain_append {front back : List (Filter α)} :
    Plain (front ++ back) ↔ Plain front ∧ Plain back :=
  List.forall_mem_append

variable {instant : Option α} {input : ℕ} {clip : PlannedClip α}

/-- A step whose value is filters of one stream each. -/
def PlainStep (step : Result α (List (Filter α))) : Prop :=
  ∀ filters, step = .ok filters → Plain filters

theorem PlainStep.pure {filters : List (Filter α)} (plain : Plain filters) :
    PlainStep (pure filters) := by
  intro found same
  cases Result.pure_eq_ok_iff.mp same
  exact plain

theorem PlainStep.bind {β : Type} {first : Result α β} {next : β → Result α (List (Filter α))}
    (plain : ∀ value, PlainStep (next value)) : PlainStep (first >>= next) := by
  intro filters found
  rcases Result.bind_eq_ok_iff.mp found with ⟨value, _, found⟩
  exact plain value filters found

theorem PlainStep.onlyIf {step : Result α (List (Filter α))} (plain : PlainStep step)
    (condition : Bool) : PlainStep (onlyIf condition step) := by
  intro filters found
  rw [Command.onlyIf] at found
  split at found
  · exact plain filters found
  · cases found
    exact plain_nil

variable [Scalar α]

theorem plain_of_turnFilters {geometry : Geometry α} {filters : List (Filter α)}
    (found : turnFilters geometry = .ok filters) : Plain filters := by
  rw [turnFilters] at found
  split at found
  · cases found
    exact plain_nil
  · simp only [Result.bind_eq_ok_iff, Result.pure_eq_ok_iff] at found
    rcases found with ⟨_, _, rfl⟩
    simp [Filter.joins]

theorem plain_of_cropFilters {geometry : Geometry α} {filters : List (Filter α)}
    (found : cropFilters clip instant geometry = .ok filters) : Plain filters := by
  rw [cropFilters] at found
  split at found
  · cases found
    exact plain_nil
  · simp only [Result.bind_eq_ok_iff, Result.pure_eq_ok_iff] at found
    rcases found with ⟨_, _, _, _, _, _, rfl⟩
    simp [Filter.joins]

theorem plain_of_geometryFilters {geometry : Geometry α} {filters : List (Filter α)}
    (found : geometryFilters clip instant geometry = .ok filters) : Plain filters := by
  simp only [geometryFilters, Result.bind_eq_ok_iff, Result.pure_eq_ok_iff] at found
  rcases found with ⟨turn, turned, crop, cropped, rfl⟩
  simp [plain_of_turnFilters turned, plain_of_cropFilters cropped, Filter.joins]

theorem plain_of_videoFilters {geometry : Geometry α} {filters : List (Filter α)}
    (found : videoFilters clip geometry = .ok filters) : Plain filters := by
  simp only [videoFilters, Result.bind_eq_ok_iff, Result.pure_eq_ok_iff] at found
  rcases found with ⟨_, _, _, _, conversion, converted, shape, shaped, fadeIn, fadedIn, fadeOut,
    fadedOut, rfl⟩
  have conversionPlain : Plain conversion := by
    refine PlainStep.onlyIf (.bind fun _ => .pure ?_) _ _ converted
    simp [Filter.joins]
  have fadeInPlain : Plain fadeIn := by
    refine PlainStep.onlyIf (.bind fun _ => .pure ?_) _ _ fadedIn
    simp [Filter.joins]
  have fadeOutPlain : Plain fadeOut := by
    refine PlainStep.onlyIf (.bind fun _ => .bind fun _ => .pure ?_) _ _ fadedOut
    simp [Filter.joins]
  have transparencyPlain : Plain (if (Scalar.isSet clip.fadeIn || Scalar.isSet clip.fadeOut) = true
      then [(Filter.transparency : Filter α)] else []) := by
    split <;> simp [Filter.joins]
  simp only [List.cons_append, plain_cons, plain_append, conversionPlain, transparencyPlain,
    plain_of_geometryFilters shaped, fadeInPlain, fadeOutPlain, Filter.joins, and_self]

theorem pictureFilters_ne_nil {geometry : Geometry α} {filters : List (Filter α)}
    (found : pictureFilters clip instant geometry = .ok filters) : filters ≠ [] := by
  cases instant with
  | none =>
      simp only [pictureFilters, videoFilters, Result.bind_eq_ok_iff, Result.pure_eq_ok_iff] at found
      rcases found with ⟨_, _, _, _, _, _, _, _, _, _, _, _, rfl⟩
      simp
  | some instant =>
      simp only [pictureFilters, Result.bind_eq_ok_iff, Result.pure_eq_ok_iff] at found
      rcases found with ⟨_, _, rfl⟩
      simp

theorem plain_of_pictureFilters {geometry : Geometry α} {filters : List (Filter α)}
    (found : pictureFilters clip instant geometry = .ok filters) : Plain filters := by
  cases instant with
  | none => exact plain_of_videoFilters found
  | some instant =>
      simp only [pictureFilters, Result.bind_eq_ok_iff, Result.pure_eq_ok_iff] at found
      rcases found with ⟨shape, shaped, rfl⟩
      exact plain_cons.mpr ⟨rfl, plain_of_geometryFilters shaped⟩

variable [Analytic α]

theorem plain_of_soundFilters {filters : List (Filter α)}
    (found : soundFilters clip = .ok filters) : Plain filters := by
  simp only [soundFilters, Result.bind_eq_ok_iff, Result.pure_eq_ok_iff] at found
  rcases found with ⟨_, _, tempo, _, fadeIn, fadedIn, fadeOut, fadedOut, _, _, rfl⟩
  have tempoPlain : Plain (tempo.map Filter.tempo) := by
    simp [Plain, Filter.joins]
  have fadeInPlain : Plain fadeIn := by
    refine PlainStep.onlyIf (.bind fun _ => .pure ?_) _ _ fadedIn
    simp [Filter.joins]
  have fadeOutPlain : Plain fadeOut := by
    refine PlainStep.onlyIf (.bind fun _ => .bind fun _ => .pure ?_) _ _ fadedOut
    simp [Filter.joins]
  simp [tempoPlain, fadeInPlain, fadeOutPlain, Filter.joins]

theorem soundFilters_ne_nil {filters : List (Filter α)}
    (found : soundFilters clip = .ok filters) : filters ≠ [] := by
  simp only [soundFilters, Result.bind_eq_ok_iff, Result.pure_eq_ok_iff] at found
  rcases found with ⟨_, _, _, _, _, _, _, _, _, _, rfl⟩
  simp

/-! ## Prepared inputs -/

/-- A chain with filters of one stream, which gives a stream of an input under its own name. -/
structure Prepares (chain : Chain α) : Prop where
  plain : Plain chain.filters
  filtered : chain.filters ≠ []
  own : ∃ k, chain.takes = [.inputPicture k] ∧ chain.gives = .picture k ∨
    chain.takes = [.inputSound k] ∧ chain.gives = .sound k

/-- Chains that prepare the inputs from one on: each stream that is there is taken once and
given under its own name, and nothing is joined. -/
structure Prepared (instant : Option α) (input : ℕ) (clips : List (PlannedClip α))
    (chains : List (Chain α)) : Prop where
  given_perm : (Chain.given chains).Perm
    ((numbersFrom (fun clip => clip.geometry.isSome) input clips).map .picture ++
      (numbersFrom (fun clip => instant.isNone && clip.hasAudio) input clips).map .sound)
  taken_perm : (Chain.taken chains).Perm
    ((numbersFrom (fun clip => clip.geometry.isSome) input clips).map .inputPicture ++
      (numbersFrom (fun clip => instant.isNone && clip.hasAudio) input clips).map .inputSound)
  prepares : ∀ chain ∈ chains, Prepares chain

omit [Scalar α] [Analytic α] in
private theorem perm_append_pairs {β : Type} (a b c d : List β) :
    ((a ++ b) ++ (c ++ d)).Perm ((a ++ c) ++ (b ++ d)) := by
  classical
  rw [List.perm_iff_count]
  intro x
  simp only [List.count_append]
  omega

omit [Scalar α] [Analytic α] in
theorem Prepared.cons {rest : List (PlannedClip α)} {front back : List (Chain α)}
    (first : Prepared instant input [clip] front)
    (others : Prepared instant (input + 1) rest back) :
    Prepared instant input (clip :: rest) (front ++ back) where
  given_perm := by
    rw [Chain.given_append, numbersFrom_cons _ _ clip rest, numbersFrom_cons _ _ clip rest,
      List.map_append, List.map_append]
    exact (first.given_perm.append others.given_perm).trans (perm_append_pairs _ _ _ _)
  taken_perm := by
    rw [Chain.taken_append, numbersFrom_cons _ _ clip rest, numbersFrom_cons _ _ clip rest,
      List.map_append, List.map_append]
    exact (first.taken_perm.append others.taken_perm).trans (perm_append_pairs _ _ _ _)
  prepares := List.forall_mem_append.mpr ⟨first.prepares, others.prepares⟩

/-- The chains of an input: one for its picture and one for its sound, as far as these
are there. -/
theorem preparation_cases {chains : List (Chain α)}
    (found : preparation instant input clip = .ok chains) :
    ∃ pictures sounds, chains = pictures ++ sounds ∧
      ((clip.geometry = none ∧ pictures = []) ∨
        ∃ geometry chain, clip.geometry = some geometry ∧
          pictureChain input clip instant geometry = .ok chain ∧ pictures = [chain]) ∧
      (((instant.isNone && clip.hasAudio) = false ∧ sounds = []) ∨
        ∃ chain, (instant.isNone && clip.hasAudio) = true ∧
          soundChain input clip = .ok chain ∧ sounds = [chain]) := by
  rw [preparation] at found
  cases shown : clip.geometry with
  | none =>
      cases heard : instant.isNone && clip.hasAudio with
      | false =>
          simp only [shown, heard, Result.bind_eq_ok_iff, Result.pure_eq_ok_iff] at found
          rcases found with ⟨pictures, rfl, found⟩
          cases found
          exact ⟨[], [], rfl, .inl ⟨rfl, rfl⟩, .inl ⟨rfl, rfl⟩⟩
      | true =>
          simp only [shown, heard, if_true, Result.bind_eq_ok_iff, Result.pure_eq_ok_iff] at found
          rcases found with ⟨_, rfl, sound, sounded, _, rfl, rfl⟩
          exact ⟨[], [sound], rfl, .inl ⟨rfl, rfl⟩, .inr ⟨sound, rfl, sounded, rfl⟩⟩
  | some geometry =>
      cases heard : instant.isNone && clip.hasAudio with
      | false =>
          simp only [shown, heard, Result.bind_eq_ok_iff, Result.pure_eq_ok_iff] at found
          rcases found with ⟨picture, pictured, _, rfl, found⟩
          cases found
          exact ⟨[picture], [], rfl, .inr ⟨geometry, picture, rfl, pictured, rfl⟩,
            .inl ⟨rfl, rfl⟩⟩
      | true =>
          simp only [shown, heard, if_true, Result.bind_eq_ok_iff, Result.pure_eq_ok_iff] at found
          rcases found with ⟨picture, pictured, _, rfl, sound, sounded, _, rfl, rfl⟩
          exact ⟨[picture], [sound], rfl, .inr ⟨geometry, picture, rfl, pictured, rfl⟩,
            .inr ⟨sound, rfl, sounded, rfl⟩⟩

/-- One input is prepared. -/
theorem prepared_of_preparation {chains : List (Chain α)}
    (found : preparation instant input clip = .ok chains) :
    Prepared instant input [clip] chains := by
  rcases preparation_cases found with ⟨pictures, sounds, rfl, picture, sound⟩
  have pictureWires : Chain.given pictures =
        (numbersFrom (fun clip => clip.geometry.isSome) input [clip]).map .picture ∧
      Chain.taken pictures =
        (numbersFrom (fun clip => clip.geometry.isSome) input [clip]).map .inputPicture ∧
      ∀ chain ∈ pictures, Prepares chain := by
    rw [numbersFrom_singleton]
    rcases picture with ⟨hidden, rfl⟩ | ⟨geometry, chain, shown, pictured, rfl⟩
    · simp [Chain.given, Chain.taken, hidden]
    · simp only [pictureChain, Result.bind_eq_ok_iff, Result.pure_eq_ok_iff] at pictured
      rcases pictured with ⟨filters, filtered, rfl⟩
      refine ⟨by simp [Chain.given, shown], by simp [Chain.taken, shown], ?_⟩
      exact List.forall_mem_singleton.mpr
        ⟨plain_of_pictureFilters filtered, pictureFilters_ne_nil filtered, input,
          .inl ⟨rfl, rfl⟩⟩
  have soundWires : Chain.given sounds =
        (numbersFrom (fun clip => instant.isNone && clip.hasAudio) input [clip]).map .sound ∧
      Chain.taken sounds =
        (numbersFrom (fun clip => instant.isNone && clip.hasAudio) input [clip]).map .inputSound ∧
      ∀ chain ∈ sounds, Prepares chain := by
    rw [numbersFrom_singleton]
    rcases sound with ⟨silent, rfl⟩ | ⟨chain, heard, sounded, rfl⟩
    · rw [silent]
      simp [Chain.given, Chain.taken]
    · simp only [soundChain, Result.bind_eq_ok_iff, Result.pure_eq_ok_iff] at sounded
      rcases sounded with ⟨filters, filtered, rfl⟩
      rw [heard]
      refine ⟨by simp [Chain.given], by simp [Chain.taken], ?_⟩
      exact List.forall_mem_singleton.mpr
        ⟨plain_of_soundFilters filtered, soundFilters_ne_nil filtered, input, .inr ⟨rfl, rfl⟩⟩
  exact {
    given_perm := by rw [Chain.given_append, pictureWires.1, soundWires.1]
    taken_perm := by rw [Chain.taken_append, pictureWires.2.1, soundWires.2.1]
    prepares := List.forall_mem_append.mpr ⟨pictureWires.2.2, soundWires.2.2⟩ }

/-- All inputs from one on are prepared, and each is opened by its own words. -/
theorem prepared_of_inputsFrom {clips : List (PlannedClip α)} {inputs : List (Input α)}
    (found : inputsFrom instant input clips = .ok inputs) :
    Prepared instant input clips (inputs.flatMap Input.chains) ∧
      List.Forall₂ (fun clip input => inputWords clip instant = .ok input.words) clips inputs := by
  induction clips generalizing input inputs with
  | nil =>
      cases found
      exact ⟨⟨.refl _, .refl _, by simp⟩, .nil⟩
  | cons clip rest ih =>
      simp only [inputsFrom, Result.bind_eq_ok_iff, Result.lift_eq_ok_iff,
        Result.pure_eq_ok_iff] at found
      rcases found with ⟨words, worded, chains, prepared, others, otherFound, rfl⟩
      rcases ih otherFound with ⟨preparedRest, opened⟩
      exact ⟨(prepared_of_preparation prepared).cons preparedRest, .cons worded opened⟩

end Command
end Montage
