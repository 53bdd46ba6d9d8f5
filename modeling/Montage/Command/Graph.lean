import Montage.Command.Filter

/-!
# Filter graphs

A filter graph is a list of chains.  A chain takes streams, runs them through its
filters and names what comes out.  A stream is the picture or the sound of an
input, counted from zero, or something that another chain has named.
-/

namespace Montage

/-- A name for what a chain puts out. -/
inductive Link where
  /-- The empty canvas. -/
  | base
  /-- The picture of an input, ready to be laid on others. -/
  | picture (input : Nat)
  /-- Everything up to and with the picture of an input. -/
  | stack (input : Nat)
  /-- The sound of an input, ready to be heard. -/
  | sound (input : Nat)
  /-- All sounds together. -/
  | mixed
deriving DecidableEq, Repr

/-- The name of a link in brackets. -/
def Link.label : Link → String
  | base => "[base]"
  | picture input => s!"[v{input}]"
  | stack input => s!"[o{input}]"
  | sound input => s!"[a{input}]"
  | mixed => "[aout]"

/-- A stream that a chain takes. -/
inductive Feed where
  /-- The picture of an input. -/
  | inputPicture (input : Nat)
  /-- The sound of an input. -/
  | inputSound (input : Nat)
  | link (name : Link)
deriving DecidableEq, Repr

/-- The name of a stream in brackets. -/
def Feed.label : Feed → String
  | inputPicture input => s!"[{input}:v]"
  | inputSound input => s!"[{input}:a]"
  | link name => name.label

/-- Streams, what is done to them, and the name of the result. -/
structure Chain (α : Type) where
  takes : List Feed
  filters : List (Filter α)
  gives : Link

/-- The text of a chain. -/
def Chain.text {α : Type} [Scalar α] (chain : Chain α) : String :=
  String.join (chain.takes.map Feed.label) ++
    ",".intercalate (chain.filters.map Filter.text) ++ chain.gives.label

/-- The chains of a command and the links that it puts out. -/
structure Graph (α : Type) where
  chains : List (Chain α)
  picture : Link
  sound : Option Link

/-- The text of a graph. -/
def Graph.text {α : Type} [Scalar α] (graph : Graph α) : String :=
  ";".intercalate (graph.chains.map Chain.text)

end Montage
