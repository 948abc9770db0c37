import PromptGraph.Chain.Reading
import PromptGraph.Effect.Files
import PromptGraph.Text.Lines

/-!
# `PromptGraph.Command.Source` — chains in files

## Contents
- `SourceFault`: why a file yields no chain; `SourceFault.message`.
- `readSource`: the chain in a file. Faults of the file and of the chain's shape are answered; a stored graph that is
  no data text, or whose nodes cannot be gone through, is a failure.
-/

namespace PromptGraph

variable [Depth]

/-- Why a file yields no chain. -/
inductive SourceFault where
  | absent (path : String)
  | directory (path : String)
  | blocked (path : String)
  | tooLong (path : String)
  | undecodable (path : String)
  | invalid (path : String) (fault : JsonFault)
  | noObject (path : String)
  | schema (path : String) (fault : SchemaFault)
  | domain (failure : Failure)

namespace SourceFault

/-- The first line of the account of a schema fault. -/
def schemaHead (f : SchemaFault) : String :=
  let count := f.issues.length
  toString count ++ " validation error" ++ (if count = 1 then "" else "s") ++ " for " ++ f.title

def systemError (path : String) (number : Nat) (words : String) : String :=
  "cannot read " ++ path ++ ": [Errno " ++ toString number ++ "] " ++ words ++ ": " ++ Text.quoted path

def message : SourceFault → String
  | .absent path => systemError path 2 "No such file or directory"
  | .directory path => systemError path 21 "Is a directory"
  | .blocked path => systemError path 20 "Not a directory"
  | .tooLong path => systemError path 36 "File name too long"
  | .undecodable path => "cannot read " ++ path ++ ": the bytes are no UTF-8 text"
  | .invalid path fault => "cannot read " ++ path ++ ": " ++ fault.message
  | .noObject path => path ++ " must contain a JSON object"
  | .schema path fault => "invalid prompt chain in " ++ path ++ ": " ++ schemaHead fault
  | .domain failure => failure.message

end SourceFault

/-- The chain in the text of a file. -/
def chainOfText (path text : String) : Except Failure (Except SourceFault Chain) :=
  match Json.read (String.ofList (Text.unifyLineEnds text.toList)) with
  | .error .tooDeep => .error (.kind .nesting)
  | .error fault => .ok (.error (.invalid path fault))
  | .ok (.obj ms) =>
    match Chain.read (.obj ms) with
    | .ok c => .ok (.ok c)
    | .error (.schema fault) => .ok (.error (.schema path fault))
    | .error failure => if failure.isDomain then .ok (.error (.domain failure)) else .error failure
  | .ok _ => .ok (.error (.noObject path))

/-- The chain in a file. A path that none can be is a failure. -/
def readSource (file : String) : Act (Except SourceFault Chain) :=
  let path := plainPath file
  if !isPossiblePath path then .failed (.value .pathWithZero)
  else .ask (.readFile path) fun
    | .absent => .done (.error (.absent path))
    | .directory => .done (.error (.directory path))
    | .blocked => .done (.error (.blocked path))
    | .tooLong => .done (.error (.tooLong path))
    | .file bytes =>
      match Text.ofUtf8? bytes with
      | none => .done (.error (.undecodable path))
      | some text => .ofExcept (chainOfText path text)

end PromptGraph
