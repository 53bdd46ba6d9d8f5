import Montage.Proofs.Command.Graph
import Montage.Proofs.Command.Written

/-!
# Commands feed their graphs

The inputs of a command are the clips that are shown, one source each and in the order
of the plan: all of them in the whole output, at an instant those that are seen then.
Over these inputs the graph of the command is wired, and so is what is read of its words,
which is all that the encoder has of it.
-/

namespace Montage

variable {α : Type}

/-! ## Wired words -/

namespace WrittenChain

/-- Whether a chain lays a picture on another one. -/
def lays (chain : WrittenChain) : Bool :=
  chain.filters.any fun filter => filterName filter == "overlay"

/-- Every name that a chain takes is known or given by a chain in front of it, unless it is
one of the streams of the inputs. -/
def TakesEarlier (isPad : String → Prop) (known : List String) : List WrittenChain → Prop
  | [] => True
  | chain :: rest =>
      (∀ name ∈ chain.takes, isPad name ∨ name ∈ known) ∧
        TakesEarlier isPad (chain.gives ++ known) rest

/-- Chains that lay the pictures of inputs on a stream, each on what the one in front of it
gives, up to the stream at the top. -/
inductive Stacks : String → List (ℕ × Geometry α) → List WrittenChain → String → Prop where
  | nothing (below : String) : Stacks below [] [] below
  | overlay {below top : String} {input : ℕ} {geometry : Geometry α}
      {visuals : List (ℕ × Geometry α)} {chains : List WrittenChain}
      (above : Stacks s!"[o{input}]" visuals chains top) :
      Stacks below ((input, geometry) :: visuals)
        (⟨[below, s!"[v{input}]"],
          [s!"overlay=x={geometry.x}:y={geometry.y}:eof_action=pass"],
          [s!"[o{input}]"]⟩ :: chains) top

end WrittenChain

namespace WrittenCommand

/-- The names that chains give. -/
def given (command : WrittenCommand) : List String :=
  command.chains.flatMap WrittenChain.gives

/-- The names that are taken, by chains or to be put out. -/
def taken (command : WrittenCommand) : List String :=
  command.chains.flatMap WrittenChain.takes ++ command.maps

/-- The name of the picture or the sound of an input. -/
def IsPad (name : String) : Prop :=
  ∃ input : ℕ, name = s!"[{input}:v]" ∨ name = s!"[{input}:a]"

/-- What is written of a command over the clips that are its inputs. -/
structure IsWired (command : WrittenCommand) (clips : List (PlannedClip α)) : Prop where
  /-- The inputs are the sources of the clips, in their order. -/
  sources : command.sources = clips.map PlannedClip.file
  /-- A link is given once and taken once. -/
  link_once : ∀ name ∈ command.given ++ command.taken, ¬IsPad name →
    command.given.count name = 1 ∧ command.taken.count name = 1
  /-- A stream of an input is not given, and is taken at most once. -/
  pad_once : ∀ name, IsPad name → command.given.count name = 0 ∧ command.taken.count name ≤ 1
  /-- A picture that is taken belongs to the clip of its number. -/
  picture_input : ∀ input : ℕ, s!"[{input}:v]" ∈ command.taken →
    ∃ clip, clips[input]? = some clip ∧ clip.geometry.isSome = true
  /-- A sound that is taken belongs to the clip of its number. -/
  sound_input : ∀ input : ℕ, s!"[{input}:a]" ∈ command.taken →
    ∃ clip, clips[input]? = some clip ∧ clip.hasAudio = true
  /-- The picture of an input is given under its own number. -/
  picture_own : ∀ chain ∈ command.chains, ∀ input : ℕ, s!"[v{input}]" ∈ chain.gives →
    chain.takes = [s!"[{input}:v]"]
  /-- The sound of an input is given under its own number. -/
  sound_own : ∀ chain ∈ command.chains, ∀ input : ℕ, s!"[a{input}]" ∈ chain.gives →
    chain.takes = [s!"[{input}:a]"]
  /-- A link is taken behind the chain that gives it. -/
  earlier : WrittenChain.TakesEarlier IsPad [] command.chains
  /-- A mixing filter counts the links that are fed to it. -/
  mix : ∀ chain ∈ command.chains, ∀ filter ∈ chain.filters,
    WrittenChain.filterName filter = "amix" →
      filter = s!"amix=inputs={chain.takes.length}:duration=longest" ∧
        ∀ name ∈ chain.takes, ¬IsPad name
  /-- The overlays stack all pictures on the canvas, in the order of the clips, and their
  top is put out first. -/
  overlays : ∃ top, command.maps.head? = some top ∧
    WrittenChain.Stacks "[base]" (Command.visualsFrom 0 clips)
      (command.chains.filter WrittenChain.lays) top

end WrittenCommand

/-! ## What is read of a wired graph -/

namespace WrittenCommand

theorem isPad_label_iff (feed : Feed) :
    IsPad feed.label ↔ ∃ input, feed = .inputPicture input ∨ feed = .inputSound input := by
  constructor
  · rintro ⟨input, same | same⟩
    · exact ⟨input, .inl (Feed.label_injective same)⟩
    · exact ⟨input, .inr (Feed.label_injective same)⟩
  · rintro ⟨input, rfl | rfl⟩
    · exact ⟨input, .inl rfl⟩
    · exact ⟨input, .inr rfl⟩

theorem not_isPad_label (link : Link) : ¬IsPad link.label := by
  rw [show link.label = (Feed.link link).label from rfl, isPad_label_iff]
  simp

end WrittenCommand

theorem Filter.eq_mix_of_name (filter : Filter α) (named : filter.name = "amix") :
    ∃ count, filter = .mix count := by
  cases filter with
  | mix count => exact ⟨count, rfl⟩
  | framerate fps smooth => cases smooth <;> simp [name] at named
  | _ => simp [name, Tempo.filterName] at named

theorem Filter.text_mix [Scalar α] (count : ℕ) :
    (mix count : Filter α).text = s!"amix=inputs={count}:duration=longest" :=
  rfl

namespace Chain

variable [Scalar α]

theorem lays_written (chain : Chain α) : chain.written.lays = chain.lays := by
  rw [WrittenChain.lays, written, List.any_map, lays]
  congr 1
  funext filter
  rw [Function.comp_apply, filter.filterName_text]
  cases filter with
  | framerate fps smooth => cases smooth <;> rfl
  | _ => rfl

theorem takesEarlier_written {chains : List (Chain α)} {known : List Link}
    (earlier : TakesEarlier known chains) :
    WrittenChain.TakesEarlier WrittenCommand.IsPad (known.map Link.label)
      (chains.map written) := by
  induction chains generalizing known with
  | nil => trivial
  | cons chain rest ih =>
      refine ⟨fun name member => ?_, ih earlier.2⟩
      obtain ⟨feed, taken, rfl⟩ := List.mem_map.mp member
      cases feed with
      | inputPicture input => exact .inl ⟨input, .inl rfl⟩
      | inputSound input => exact .inl ⟨input, .inr rfl⟩
      | link link => exact .inr (List.mem_map_of_mem (earlier.1 link taken))

theorem stacks_written {below top : Link} {visuals : List (ℕ × Geometry α)}
    {chains : List (Chain α)} (stacked : Stacks below visuals chains top) :
    WrittenChain.Stacks below.label visuals (chains.map written) top.label := by
  induction stacked with
  | nothing below => exact .nothing _
  | overlay above ih => exact .overlay ih

end Chain

namespace Graph

variable [Scalar α]

/-- The names of the streams that a graph puts out. -/
def outputs (graph : Graph α) : List String :=
  (graph.picture :: graph.sound.toList).map Link.label

/-- A graph between sources and an output, as it is written. -/
def written (graph : Graph α) (sources : List Word) (output : Word) : WrittenCommand where
  sources := sources
  chains := graph.chains.map Chain.written
  maps := graph.outputs
  output := output

variable {graph : Graph α} {clips : List (PlannedClip α)}

theorem given_written (sources : List Word) (output : Word) :
    (graph.written sources output).given = graph.given.map Link.label := by
  rw [WrittenCommand.given, written, List.flatMap_map, given, Chain.given, List.map_map,
    ← List.flatMap_pure_eq_map]
  rfl

theorem taken_written (sources : List Word) (output : Word) :
    (graph.written sources output).taken = graph.taken.map Feed.label := by
  rw [WrittenCommand.taken, written, List.flatMap_map, taken, Chain.taken, List.map_append,
    List.map_flatMap, List.map_map]
  rfl

theorem count_given_written (sources : List Word) (output : Word) (link : Link) :
    (graph.written sources output).given.count link.label = graph.given.count link := by
  rw [given_written]
  exact List.count_map_of_injective _ _ Link.label_injective _

theorem count_taken_written (sources : List Word) (output : Word) (feed : Feed) :
    (graph.written sources output).taken.count feed.label = graph.taken.count feed := by
  rw [taken_written]
  exact List.count_map_of_injective _ _ Feed.label_injective _

theorem mem_taken_written_iff {sources : List Word} {output : Word} {feed : Feed} :
    feed.label ∈ (graph.written sources output).taken ↔ feed ∈ graph.taken := by
  rw [taken_written]
  exact List.mem_map_of_injective Feed.label_injective

/-- A link of a wired graph is given once and taken once, as it is written. -/
theorem IsWired.count_link (wired : graph.IsWired clips) (sources : List Word) (output : Word)
    {link : Link} (given : link ∈ graph.given) :
    (graph.written sources output).given.count link.label = 1 ∧
      (graph.written sources output).taken.count link.label = 1 := by
  constructor
  · rw [count_given_written]
    exact List.count_eq_one_of_mem wired.nodup_given given
  · rw [show link.label = (Feed.link link).label from rfl, count_taken_written]
    exact List.count_eq_one_of_mem wired.nodup_taken ((wired.link_taken_iff link).mpr given)

/-- The overlays of a graph are those of what is written of it. -/
theorem filter_lays_written :
    (graph.chains.map Chain.written).filter WrittenChain.lays =
      (graph.chains.filter Chain.lays).map Chain.written := by
  rw [List.filter_map]
  congr 2
  funext chain
  exact chain.lays_written

/-- If all chains that give a link take one stream alone, so do they as they are written. -/
theorem takes_written_of_gives {link : Link} {feed : Feed}
    (own : ∀ chain ∈ graph.chains, chain.gives = link → chain.takes = [feed])
    {read : WrittenChain} (member : read ∈ graph.chains.map Chain.written)
    (given : link.label ∈ read.gives) : read.takes = [feed.label] := by
  obtain ⟨chain, listed, rfl⟩ := List.mem_map.mp member
  have same : chain.gives = link := (Link.label_injective (List.mem_singleton.mp given)).symm
  rw [Chain.written, own chain listed same]
  rfl

/-- A mixing filter of a wired graph counts the links that are fed to it, as it is written. -/
theorem IsWired.mix_written (wired : graph.IsWired clips) {chain : Chain α}
    (listed : chain ∈ graph.chains) {filter : String} (member : filter ∈ chain.written.filters)
    (named : WrittenChain.filterName filter = "amix") :
    filter = s!"amix=inputs={chain.written.takes.length}:duration=longest" ∧
      ∀ name ∈ chain.written.takes, ¬WrittenCommand.IsPad name := by
  obtain ⟨filter, inChain, rfl⟩ := List.mem_map.mp member
  rw [filter.filterName_text] at named
  obtain ⟨count, rfl⟩ := filter.eq_mix_of_name named
  obtain ⟨length_eq, links⟩ := wired.mix chain listed count inChain
  constructor
  · rw [Chain.written, List.length_map, length_eq]
    exact Filter.text_mix count
  · intro name taken
    obtain ⟨feed, inTakes, rfl⟩ := List.mem_map.mp taken
    obtain ⟨link, rfl⟩ := links feed inTakes
    exact WrittenCommand.not_isPad_label link

/-- The names of a wired graph are wired. -/
theorem IsWired.written (wired : graph.IsWired clips) (output : Word) :
    (graph.written (clips.map PlannedClip.file) output).IsWired clips := by
  constructor
  case sources => rfl
  case link_once =>
    intro name member noPad
    rcases List.mem_append.mp member with member | member
    · rw [given_written] at member
      obtain ⟨link, given, rfl⟩ := List.mem_map.mp member
      exact wired.count_link _ output given
    · rw [taken_written] at member
      obtain ⟨feed, taken, rfl⟩ := List.mem_map.mp member
      rw [WrittenCommand.isPad_label_iff] at noPad
      cases feed with
      | link link => exact wired.count_link _ output ((wired.link_taken_iff link).mp taken)
      | inputPicture input => exact absurd ⟨input, .inl rfl⟩ noPad
      | inputSound input => exact absurd ⟨input, .inr rfl⟩ noPad
  case pad_once =>
    intro name isPad
    constructor
    · rw [given_written, List.count_eq_zero]
      intro given
      obtain ⟨link, _, rfl⟩ := List.mem_map.mp given
      exact WrittenCommand.not_isPad_label link isPad
    · obtain ⟨input, rfl | rfl⟩ := isPad
      · exact (count_taken_written _ output (.inputPicture input)).trans_le
          (List.nodup_iff_count_le_one.mp wired.nodup_taken _)
      · exact (count_taken_written _ output (.inputSound input)).trans_le
          (List.nodup_iff_count_le_one.mp wired.nodup_taken _)
  case picture_input =>
    intro input taken
    have member : Feed.inputPicture input ∈ graph.taken := mem_taken_written_iff.mp taken
    exact wired.picture_input input member
  case sound_input =>
    intro input taken
    have member : Feed.inputSound input ∈ graph.taken := mem_taken_written_iff.mp taken
    exact wired.sound_input input member
  case picture_own =>
    intro read member input given
    have own (chain : Chain α) (listed : chain ∈ graph.chains) :=
      wired.picture_own chain listed input
    exact takes_written_of_gives own member given
  case sound_own =>
    intro read member input given
    have own (chain : Chain α) (listed : chain ∈ graph.chains) :=
      wired.sound_own chain listed input
    exact takes_written_of_gives own member given
  case earlier => exact Chain.takesEarlier_written wired.earlier
  case mix =>
    intro read member filter filters named
    obtain ⟨chain, listed, rfl⟩ := List.mem_map.mp member
    exact wired.mix_written listed filters named
  case overlays =>
    refine ⟨graph.picture.label, rfl, ?_⟩
    have stacked := Chain.stacks_written wired.overlays
    rwa [← filter_lays_written] at stacked

end Graph

/-! ## Words of a command -/

namespace Command

open WrittenCommand

/-- The options that open a source. -/
def inputOptions : List String :=
  ["-loop", "-framerate", "-ss", "-t"]

/-- The options on how the output is written. -/
def formatOptions : List String :=
  ["-vframes", "-r", "-t", "-c:v", "-pix_fmt", "-c:a"]

/-- Words that open one source: options with their values, and then the source. -/
def Opens (source : Word) (words : List Word) : Prop :=
  ∃ options : List (String × Word), (∀ option ∈ options, option.1 ∈ inputOptions) ∧
    words = optionWords (options ++ [("-i", source)])

/-- A command over the clips that are its inputs. -/
structure IsWellFormed (command : Command α) (clips : List (PlannedClip α)) : Prop where
  /-- The inputs are the sources of the clips, in their order. -/
  inputs : List.Forall₂ (fun clip words => Opens clip.file words) clips command.inputs
  graph : command.graph.IsWired clips
  format : ∃ options : List (String × Word), (∀ option ∈ options, option.1 ∈ formatOptions) ∧
    command.format.map some = optionWords options

/-- All inputs of a command are opened by options, whose sources are those of the clips. -/
theorem exists_options_of_opens {clips : List (PlannedClip α)} {inputs : List (List Word)}
    (opened : List.Forall₂ (fun clip words => Opens clip.file words) clips inputs) :
    ∃ options : List (String × Word),
      (∀ option ∈ options, option.1 ∈ "-i" :: inputOptions) ∧
      inputs.flatten = optionWords options ∧
        values "-i" options = clips.map PlannedClip.file := by
  induction opened with
  | nil => exact ⟨[], by simp, rfl, rfl⟩
  | @cons clip words clips inputs first _ ih =>
      obtain ⟨options, known, rfl⟩ := first
      obtain ⟨others, othersKnown, flat, sources⟩ := ih
      refine ⟨options ++ [("-i", clip.file)] ++ others, ?_, ?_, ?_⟩
      · simp only [List.forall_mem_append, List.forall_mem_singleton]
        exact ⟨⟨fun option member => List.mem_cons_of_mem _ (known option member),
          List.mem_cons_self⟩, othersKnown⟩
      · rw [List.flatten_cons, flat, optionWords_append (options ++ _)]
      · rw [values_append, values_append, values_eq_nil known "-i" (by decide), sources]
        rfl

variable [Scalar α] {command : Command α} {clips : List (PlannedClip α)}

/-- The options of a command, given those that open its inputs and those on how its output is
written. -/
def optionsOf (command : Command α) (loglevel : String) (opening format : List (String × Word)) :
    List (String × Word) :=
  [("-loglevel", some loglevel)] ++ opening ++ [("-filter_complex", some command.graph.text)] ++
    (command.graph.outputs.map some).map (fun label => ("-map", label)) ++ format

variable {opening format : List (String × Word)}

/-- Behind the encoder and the flag the words of a command are its options and its output. -/
theorem words_eq (flat : command.inputs.flatten = optionWords opening)
    (formatWords : command.format.map some = optionWords format)
    (encoder loglevel output : String) :
    command.words encoder loglevel output = some encoder :: some "-y" ::
      (optionWords (command.optionsOf loglevel opening format) ++ [some output]) := by
  have mapWords (labels : List String) :
      optionWords ((labels.map some).map fun label => ("-map", label)) =
        labels.flatMap fun label => [some "-map", some label] := by
    simp [optionWords, List.flatMap_map]
  rw [optionsOf, optionWords_append, optionWords_append, optionWords_append, optionWords_append,
    mapWords, ← flat, ← formatWords, Graph.outputs, List.flatMap_map]
  simp [words, optionWords]

theorem mem_names_of_mem_maps (labels : List Word) :
    ∀ option ∈ labels.map (fun label => ("-map", label)), option.1 ∈ ["-map"] := by
  simp

/-- Every option of a command takes a value. -/
theorem takesValue_of_mem_optionsOf
    (openingKnown : ∀ option ∈ opening, option.1 ∈ "-i" :: inputOptions)
    (formatKnown : ∀ option ∈ format, option.1 ∈ formatOptions) (loglevel : String) :
    ∀ option ∈ command.optionsOf loglevel opening format,
      option.1.toList.head? = some '-' ∧ option.1 ≠ "-y" := by
  let names := ["-loglevel", "-filter_complex", "-map", "-i"] ++ inputOptions ++ formatOptions
  have takes : ∀ name ∈ names, name.toList.head? = some '-' ∧ name ≠ "-y" := by decide
  have known : ∀ option ∈ command.optionsOf loglevel opening format, option.1 ∈ names := by
    simp only [optionsOf, List.forall_mem_append, List.forall_mem_singleton]
    refine ⟨⟨⟨⟨by decide, fun option member => ?_⟩, by decide⟩, fun option member => ?_⟩,
      fun option member => ?_⟩
    · exact (by decide : "-i" :: inputOptions ⊆ names) (openingKnown option member)
    · exact (by decide : ["-map"] ⊆ names) (mem_names_of_mem_maps _ option member)
    · exact (by decide : formatOptions ⊆ names) (formatKnown option member)
  exact fun option member => takes option.1 (known option member)

/-- The sources, the graph and the streams that are put out are found among the options. -/
theorem values_optionsOf (command : Command α)
    (openingKnown : ∀ option ∈ opening, option.1 ∈ "-i" :: inputOptions)
    (formatKnown : ∀ option ∈ format, option.1 ∈ formatOptions) (loglevel : String) :
    values "-i" (command.optionsOf loglevel opening format) = values "-i" opening ∧
      values "-filter_complex" (command.optionsOf loglevel opening format) =
        [some command.graph.text] ∧
      values "-map" (command.optionsOf loglevel opening format) =
        command.graph.outputs.map some := by
  have mapsKnown := mem_names_of_mem_maps (command.graph.outputs.map some)
  simp only [optionsOf, values_append]
  refine ⟨?_, ?_, ?_⟩
  · rw [values_eq_nil mapsKnown "-i" (by decide), values_eq_nil formatKnown "-i" (by decide)]
    simp [values]
  · rw [values_eq_nil openingKnown "-filter_complex" (by decide),
      values_eq_nil mapsKnown "-filter_complex" (by decide),
      values_eq_nil formatKnown "-filter_complex" (by decide)]
    rfl
  · rw [values_eq_nil openingKnown "-map" (by decide), values_eq_nil formatKnown "-map" (by decide),
      values_map]
    simp [values]

/-- The words of a well formed command are read as it was made. -/
theorem IsWellFormed.ofWords?_words [Scalar.HasOrdinaryText α]
    (wellFormed : command.IsWellFormed clips) (encoder loglevel output : String) :
    ofWords? (command.words encoder loglevel output) =
      some (command.graph.written (clips.map PlannedClip.file) (some output)) := by
  obtain ⟨opening, openingKnown, flat, sources⟩ := exists_options_of_opens wellFormed.inputs
  obtain ⟨format, formatKnown, formatWords⟩ := wellFormed.format
  obtain ⟨inputs, graphs, outputs⟩ := values_optionsOf command openingKnown formatKnown loglevel
  have read : options? (command.words encoder loglevel output).tail =
      some (command.optionsOf loglevel opening format, some output) := by
    rw [words_eq flat formatWords, List.tail_cons, options?_flag (by simp)]
    exact options?_optionWords (takesValue_of_mem_optionsOf openingKnown formatKnown loglevel) _
  have chains := Graph.ofGraph?_text wellFormed.graph.chains_ne_nil wellFormed.graph.filtered
  simp only [ofWords?, read, Option.bind_eq_bind, Option.bind_some, inputs, sources, graphs,
    outputs, chains, mapM_id_map_some]
  rfl

/-! ## Commands of plans -/

variable {plan : Plan α} {instant : Option α}

theorem opens_of_inputWords {clip : PlannedClip α} {words : List Word}
    (found : inputWords clip instant = .ok words) : Opens clip.file words := by
  unfold inputWords at found
  split at found
  · cases found
    exact ⟨[], by simp, rfl⟩
  · simp only [Result.bind_eq_ok_iff, Result.pure_eq_ok_iff] at found
    rcases found with ⟨framerate, _, duration, _, rfl⟩
    exact ⟨[("-loop", "1"), ("-framerate", framerate), ("-t", duration)], by simp [inputOptions],
      rfl⟩
  · simp only [Result.bind_eq_ok_iff, Result.pure_eq_ok_iff] at found
    rcases found with ⟨seek, _, rfl⟩
    exact ⟨[("-ss", seek)], by simp [inputOptions], rfl⟩
  · simp only [Result.bind_eq_ok_iff, Result.pure_eq_ok_iff] at found
    rcases found with ⟨start, _, duration, _, rfl⟩
    exact ⟨[("-ss", start), ("-t", duration)], by simp [inputOptions], rfl⟩

/-- Inputs open the sources of their clips. -/
theorem forall₂_opens {clips : List (PlannedClip α)} {inputs : List (Input α)}
    (opened : List.Forall₂ (fun clip input => inputWords clip instant = .ok input.words) clips
      inputs) :
    List.Forall₂ (fun clip words => Opens clip.file words) clips (inputs.map Input.words) :=
  List.forall₂_map_right_iff.mpr (opened.imp fun _ _ => opens_of_inputWords)

/-- Whether a clip is found to be seen at an instant. -/
def isSeen (instant : α) (clip : PlannedClip α) : Bool :=
  match isSeenAt instant clip with
  | .ok seen => seen
  | .error _ => false

/-- The clips of a plan that are inputs of its command. -/
def shown (plan : Plan α) : RenderMode α → List (PlannedClip α)
  | .video => plan.clips
  | .preview instant => plan.clips.filter (isSeen (instant.getD plan.preview))
  | .unknown => []

omit [Scalar α] in
theorem soundLinks_eq_map (input : ℕ) (clips : List (PlannedClip α)) :
    soundLinks input clips = (numbersFrom (fun clip => clip.hasAudio) input clips).map .sound := by
  induction clips generalizing input with
  | nil => rfl
  | cons clip rest ih =>
      rw [soundLinks, numbersFrom_cons, numbersFrom_singleton, List.map_append, ih]
      split <;> rfl

theorem isCanvas_of_canvasChain {duration : Option α} {canvas : Chain α}
    (found : canvasChain plan duration = .ok canvas) : IsCanvas canvas := by
  simp only [canvasChain, Result.bind_eq_ok_iff, Result.pure_eq_ok_iff] at found
  rcases found with ⟨_, _, _, _, rfl⟩
  exact ⟨rfl, rfl, by simp [Filter.joins], by simp⟩

variable [Analytic α]

omit [Analytic α] in
/-- The clips of a preview are those that are seen. -/
theorem eq_filter_isSeen {time : α} {clips found : List (PlannedClip α)}
    (filtered : (clips.filterM fun clip => liftM (isSeenAt time clip) : Result α _) = .ok found) :
    found = clips.filter (isSeen time) := by
  refine Result.filterM_eq_ok (fun clip seen tested => ?_) filtered
  rw [Result.lift_eq_ok_iff] at tested
  rw [isSeen, tested]

/-- The command for one frame is that of the clips that are seen. -/
theorem isWellFormed_of_preview {time : α} (built : preview plan time = .ok command) :
    command.IsWellFormed (plan.clips.filter (isSeen time)) := by
  simp only [preview, Result.bind_eq_ok_iff, Result.pure_eq_ok_iff] at built
  rcases built with ⟨_, _, clips, filtered, canvas, canvased, inputs, found, rfl⟩
  rw [← eq_filter_isSeen filtered]
  rcases prepared_of_inputsFrom found with ⟨prepared, opened⟩
  have silent : audibles (some time) clips = [] := by simp [audibles, numbersFrom]
  have wired := isWired_assembled (isCanvas_of_canvasChain canvased) prepared
  constructor
  · exact forall₂_opens opened
  · simpa [assembled, silent, mixture] using wired
  · exact ⟨[("-vframes", "1")], by decide, rfl⟩

/-- The command for the whole output is that of all clips. -/
theorem isWellFormed_of_video {codec : String} (built : video plan codec = .ok command) :
    command.IsWellFormed plan.clips := by
  simp only [video, Result.bind_eq_ok_iff, Result.pure_eq_ok_iff] at built
  rcases built with ⟨canvas, canvased, inputs, found, framerate, _, total, _, rfl⟩
  rcases prepared_of_inputsFrom found with ⟨prepared, opened⟩
  have wired := isWired_assembled (isCanvas_of_canvasChain canvased) prepared
  constructor
  · exact forall₂_opens opened
  · rw [soundLinks_eq_map]
    exact wired
  · let options : List (String × Word) :=
      [("-r", framerate), ("-t", total), ("-c:v", codec), ("-pix_fmt", "yuv420p")]
    split
    · exact ⟨options ++ [("-c:a", some "aac")], by simp [options, formatOptions], rfl⟩
    · exact ⟨options, by simp [options, formatOptions], rfl⟩

/-- Every command is well formed over the clips of the plan that are its inputs. -/
theorem isWellFormed_of_ofPlan {mode : RenderMode α} {codec : String}
    (built : ofPlan plan mode codec = .ok command) : command.IsWellFormed (shown plan mode) := by
  cases mode with
  | video => exact isWellFormed_of_video built
  | preview instant => exact isWellFormed_of_preview built
  | unknown => cases built

/-- What is read of the words of a command is wired over the clips of the plan that are its
inputs. -/
theorem isWired_words [Scalar.HasOrdinaryText α] {mode : RenderMode α} {codec : String}
    (built : ofPlan plan mode codec = .ok command) (encoder loglevel output : String) :
    ∃ written, ofWords? (command.words encoder loglevel output) = some written ∧
      written.IsWired (shown plan mode) := by
  have wellFormed := isWellFormed_of_ofPlan built
  exact ⟨_, wellFormed.ofWords?_words encoder loglevel output, wellFormed.graph.written output⟩

/-! ## A plan with every kind of clip -/

/-- A clip that is only heard. -/
def songPlanned : PlannedClip ℚ where
  clipId := "song"
  file := some "song.mp3"
  kind := .audio
  startAt := 0
  duration := 10
  trimStart := 0
  speed := 1
  zIndex := 0
  framerate := 30
  hasAudio := true
  geometry := none
  zoompan := []
  retime := false
  smooth := false
  volume := 1
  fadeIn := 1
  fadeOut := 0

/-- A picture without sound, a song, and a video with both. -/
def bandPlan : Plan ℚ where
  background := ⟨640, 360⟩
  backgroundColor := "black"
  total := 10
  preview := 5
  clips :=
    [{ songPlanned with
        kind := .image, file := some "cover.png", hasAudio := false
        geometry := some ⟨0, 0, ⟨640, 360⟩, none, none⟩ },
      songPlanned,
      { songPlanned with
        kind := .video, file := some "stage.mp4"
        geometry := some ⟨20, 10, ⟨320, 180⟩, none, none⟩ }]

theorem isWired_words_bandPlan :
    let _ : Analytic ℚ := ⟨fun _ => 0, fun _ => 1, fun x _ => x⟩
    ∃ command written, ofPlan bandPlan .video "libx264" = .ok command ∧
      ofWords? (command.words "ffmpeg" "error" "band.mp4") = some written ∧
      written.taken =
        ["[0:v]", "[1:a]", "[2:v]", "[2:a]", "[base]", "[v0]", "[o0]", "[v2]", "[a1]", "[a2]",
          "[o2]", "[aout]"] ∧
      written.IsWired (shown bandPlan .video) := by
  intro _
  have taken : (ofPlan bandPlan .video "libx264").toOption.map
      (fun command => command.graph.taken.map Feed.label) =
        some ["[0:v]", "[1:a]", "[2:v]", "[2:a]", "[base]", "[v0]", "[o0]", "[v2]", "[a1]",
          "[a2]", "[o2]", "[aout]"] := by
    decide +kernel
  cases built : ofPlan bandPlan .video "libx264" with
  | error fault =>
      rw [built] at taken
      cases taken
  | ok command =>
      obtain ⟨written, read, wired⟩ := isWired_words built "ffmpeg" "error" "band.mp4"
      have made := (isWellFormed_of_ofPlan built).ofWords?_words "ffmpeg" "error" "band.mp4"
      rw [read] at made
      cases made
      rw [built] at taken
      exact ⟨command, _, rfl, read, (Graph.taken_written _ _).trans (Option.some.inj taken), wired⟩

end Command

end Montage
