import PromptGraph.Chain.Graph
import PromptGraph.Engine.Definition
import PromptGraph.Text.Blank
import PromptGraph.Text.Digit

/-!
# `PromptGraph.Compile.Port` — edges as connections

The entry trigger feeds the first authored node. Every edge adds its target to a port of its source; ports are
dense, unused ones being empty, and the targets of a port keep the order of the edges.

## Contents
- `outputPort`: the port that a handle selects.
- `Ports.add`, `Connections.add`.
- `compileConnections`.
-/

namespace PromptGraph

/-- The reserved id of the entry trigger. -/
def triggerId : String := "trigger"

/-- The port of a handle: the number spelled by its leading digits after blanks, and zero without such digits. -/
def outputPort (handle : Option String) : Except Failure Nat :=
  match handle with
  | none => .ok 0
  | some h =>
    let digits := (h.toList.dropWhile Text.isBlank).takeWhile Text.isDigit
    if integerDigitLimit < digits.length then .error (.value (.tooManyDigits digits.length))
    else .ok (Text.readDigits digits)

namespace Ports

/-- Adds a target to a port; ports below it come into being. -/
def add (target : Target) : Nat → Ports → Ports
  | 0, [] => [[target]]
  | 0, port :: rest => (port ++ [target]) :: rest
  | index + 1, [] => [] :: add target index []
  | index + 1, port :: rest => port :: add target index rest

end Ports

namespace Connections

/-- Adds a target to a port of a source; a new source comes last. -/
def add (source : String) (port : Nat) (target : Target) : Connections → Connections
  | [] => [(source, Ports.add target port [])]
  | (s, ports) :: rest =>
    if s = source then (s, Ports.add target port ports) :: rest else (s, ports) :: add source port target rest

/-- Adds the edges in order. -/
def addEdges : List Edge → Connections → Except Failure Connections
  | [], c => .ok c
  | e :: rest, c => do
    let port ← outputPort e.sourceHandle
    addEdges rest (c.add e.source port (.main e.target))

end Connections

/-- The connections of edges, `first` being the id of the first authored node. -/
def compileConnections (edges : List Edge) (first : Option String) : Except Failure Connections :=
  Connections.addEdges edges (match first with
    | some id => [(triggerId, [[.main id]])]
    | none => [])

end PromptGraph
