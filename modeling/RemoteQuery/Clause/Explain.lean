import RemoteQuery.Clause.Vocabulary

namespace RemoteQuery

open Wire

structure ExplainOptions where
  analyze : Option Bool := none
  verbose : Option Bool := none
  costs : Option Bool := none
  buffers : Option Bool := none
  format : Option ExplainFormat := none

namespace ExplainOptions

def toStructure (e : ExplainOptions) : Json :=
  .record [
    ("analyze", e.analyze.map .bool),
    ("buffers", e.buffers.map .bool),
    ("costs", e.costs.map .bool),
    ("format", e.format.map Token.toStructure),
    ("verbose", e.verbose.map .bool)]

def ofStructure (j : Json) : Decoded ExplainOptions := do
  let fields ← object "explain options" j
  let analyze ← optional fields "analyze" (bool "explain options")
  let verbose ← optional fields "verbose" (bool "explain options")
  let costs ← optional fields "costs" (bool "explain options")
  let buffers ← optional fields "buffers" (bool "explain options")
  let format ← optional fields "format" Token.ofStructure
  return ⟨analyze, verbose, costs, buffers, format⟩

instance : Structural ExplainOptions := ⟨toStructure, ofStructure⟩

end ExplainOptions

end RemoteQuery
