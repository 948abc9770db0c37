import PromptGraph.Effect.Act
import PromptGraph.Json.Writer
import PromptGraph.Text.Blank
import PromptGraph.Text.Lines

/-!
# `PromptGraph.Deploy.Registry` — the file of deployed chains

The registry maps chains to the ids of their remote workflows and outlives the process. It is written to a
temporary file that then takes the place of the old one.

## Contents
- **The map.** `Registry`: pairs of a chain and a remote id, each chain once; `get?`, `insert`.
- **Content.** `Registry.ofJson`, `Registry.ofText`: other entries than texts and integers are dropped.
- **Programs.** `loadRegistry`, `storeDeployment`.
-/

namespace PromptGraph

variable [Depth]

/-- Pairs of a chain and the id of its remote workflow. -/
abbrev Registry := List (String × String)

namespace Registry

/-! ## The map -/

def get? (chain : String) : Registry → Option String
  | [] => none
  | (k, v) :: rest => if k = chain then some v else get? chain rest

/-- Replaces the id of a present chain in place; a new chain comes last. -/
def insert (chain remote : String) : Registry → Registry
  | [] => [(chain, remote)]
  | (k, v) :: rest => if k = chain then (k, remote) :: rest else (k, v) :: insert chain remote rest

/-! ## Content -/

/-- The id that an entry names. -/
def entryId? : Json → Option String
  | .str s => some s
  | .num (.int n) => some (NumberLayout.integer n)
  | _ => none

/-- The entries of a value; a value that is no object has none. -/
def ofJson : Json → Registry
  | .obj ms => ms.filterMap fun m => (entryId? m.2).map fun id => (m.1, id)
  | _ => []

/-- What a registry text says. -/
inductive Content where
  | entries (registry : Registry)
  | invalid
  /-- The text is nested too deeply to be read. -/
  | tooDeep
  deriving DecidableEq

/-- The content of a text; a blank text is an empty registry. -/
def ofText (text : String) : Content :=
  let stripped := Text.strip text
  if stripped = "" then .entries []
  else match Json.read stripped with
    | .ok v => .entries (ofJson v)
    | .error .tooDeep => .tooDeep
    | .error _ => .invalid

/-- The text of a registry: sorted names, one entry a line. -/
def toText (r : Registry) : String :=
  Json.write .sortedIndented (.obj (r.map fun entry => (entry.1, .str entry.2)))

end Registry

/-! ## Programs -/

/-- An unreadable registry counts as empty. -/
def unreadable (path systemError : String) : Act Registry := do
  Act.report (.registryUnreadable path systemError)
  pure []

/-- The registry under a path; without a path, without a file, and from an unreadable or invalid file the empty one.
    Bytes that are no text are a failure, and so is a path that none can be. -/
def loadRegistry (path : Option String) : Act Registry :=
  match path.filter (· ≠ "") with
  | none => .done []
  | some path =>
    if !isPossiblePath path then .failed (.value .pathWithZero)
    else .ask (.readFile path) fun
      | .absent => .done []
      | .directory => unreadable path "IsADirectoryError"
      | .blocked => unreadable path "NotADirectoryError"
      | .tooLong => unreadable path "OSError"
      | .file bytes =>
        match Text.ofUtf8? bytes with
        | none => .failed (.kind .encoding)
        | some text =>
          match Registry.ofText text with
          | .entries r => .done r
          | .tooDeep => .failed (.kind .nesting)
          | .invalid => do
            Act.report (.registryInvalid path)
            pure []

/-- The path of the temporary file. -/
def temporaryPath (path : String) : String := path ++ ".tmp"

/-- Writes a registry. -/
def storeRegistry (path : String) (r : Registry) : Act Unit := do
  Act.ofSystem (← Act.perform (.writeFile (temporaryPath path) r.toText))
  Act.ofSystem (← Act.perform (.moveFile (temporaryPath path) path))

/-- Records one deployment and keeps the others on file. -/
def storeDeployment (path chain remote : String) : Act Unit := do
  let r ← loadRegistry (some path)
  storeRegistry path (r.insert chain remote)

end PromptGraph
