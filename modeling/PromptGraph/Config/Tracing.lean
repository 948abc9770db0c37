import PromptGraph.Config.Settings
import PromptGraph.Notice

/-!
# `PromptGraph.Config.Tracing` — whether and where traces go

## Contents
- `Exporter`: the address of traces and the name of the service; `Exporter.serviceLabel`, `Exporter.ofSettings?`.
- `Tracing`: nothing is decided at first; the first start decides, and later starts change nothing.
- `Tracing.start`, `Tracing.stop`.
-/

namespace PromptGraph

/-- Where traces go. -/
structure Exporter where
  endpoint : String
  timeout : Int
  service : String

namespace Exporter

/-- The path of traces on a collector. -/
def tracePath : String := "/v1/traces"

/-- The address of traces for an endpoint with or without their path. -/
def traceAddress (endpoint : String) : String :=
  let plain := Text.stripSlashes endpoint
  if tracePath.toList.isSuffixOf plain.toList then plain else plain ++ tracePath

/-- The name under which traces of a service go; one without a name is unknown. -/
def serviceLabel (service : String) : String := if service = "" then "unknown_service" else service

/-- The exporter of settings with an endpoint. -/
def ofSettings? (s : Settings) : Option Exporter :=
  (Settings.filled s.traceEndpoint).map fun e => ⟨traceAddress e, s.traceTimeout, serviceLabel s.serviceName⟩

end Exporter

/-- The state of tracing. -/
inductive Tracing where
  | undecided
  | off
  | on (exporter : Exporter)

namespace Tracing

/-- Decides on tracing, unless that has been done. -/
def start (s : Settings) : Tracing → Tracing
  | undecided => match Exporter.ofSettings? s with
    | some e => on e
    | none => off
  | t => t

def isActive : Tracing → Bool
  | on _ => true
  | _ => false

/-- What is done at the end of tracing. -/
inductive StopStep where
  | flush
  | close
  deriving DecidableEq, Repr

/-- The steps at the end of tracing, given the system error of the flush if it fails; then the rest is left out and
    the failure reported. -/
def stop (flushError : Option String) : Tracing → List StopStep × List Notice
  | on _ => match flushError with
    | none => ([.flush, .close], [])
    | some e => ([.flush], [.tracerShutdown e])
  | _ => ([], [])

end Tracing

end PromptGraph
