import PromptGraph.Command.Run

/-!
# `PromptGraph.Main` — the command line program

The outermost layer: it carries out the effects of a command line on files, clock and standard streams. It has no
transport of its own, so that every request fails as a transport does that reaches no engine, and every database
connection fails.
-/

open PromptGraph

namespace Program

/-- The variables of the surroundings that settings are taken from. -/
def givenVariables : IO EnvFile.Variables := do
  let found ← Settings.names.mapM fun name => do
    let lower := Text.lowerAscii name
    let given ← [lower, name].mapM fun n => do
      let value ← IO.getEnv n
      pure (value.map fun v => (n, v))
    pure (given.filterMap id)
  pure found.flatten

/-- The present time in universal time, read off a file that is made for it. -/
def now : IO Timestamp := do
  let (_, path) ← IO.FS.createTempFile
  let made := (← path.metadata).modified
  IO.FS.removeFile path
  pure ⟨made.sec * 1000000 + (made.nsec.toNat / 1000 : Nat), some 0⟩

/-- The name of a system error in its report. -/
def errorName : IO.Error → String
  | .noFileOrDirectory .. => "FileNotFoundError"
  | .permissionDenied .. => "PermissionError"
  | _ => "OSError"

/-- What stands under a path. -/
def readState (path : String) : IO FileState := do
  try
    let bytes ← IO.FS.readBinFile path
    pure (.file bytes.toList)
  catch e => match e with
    | .noFileOrDirectory .. => pure .absent
    | .inappropriateType .. => pure .directory
    | _ => pure .blocked

/-- The name of the system error that an action ends with. -/
def errorOf (action : IO Unit) : IO (Option String) := do
  try
    action
    pure none
  catch e => pure (some (errorName e))

/-- The name of a failure outside the domain in a report. -/
def failureName (_ : Failure) : String := "<error>"

/-- Carries out an effect. -/
def answer : (q : Effect) → IO q.Answer
  | .exchange _ => pure (.failed "ConnectError" "no transport")
  | .pause seconds =>
    match seconds.trunc with
    | some n => IO.sleep (n.toNat * 1000).toUInt32
    | none => pure ()
  | .clock => now
  | .report notice => IO.eprintln (notice.line failureName)
  | .lookUp _ => pure none
  | .remember _ _ => pure ()
  | .forget _ => pure ()
  | .readFile path => readState path
  | .writeFile path text => errorOf do
    IO.FS.createDirAll (parentPath path)
    IO.FS.writeFile path text
  | .moveFile source target => errorOf (IO.FS.rename source target)
  | .store _ => pure (.error (.database .operational))
  | .connect _ => pure (some .operational)
  | .execute _ => pure (.error .operational)
  | .recordFailure _ _ _ _ => pure ()

/-- Carries out a program. -/
def carryOut {α : Type} : Act α → IO (Act.End α)
  | .done a => pure (.value a)
  | .failed f => pure (.failure f)
  | .unfinished => pure .cut
  | .ask q k => do
    let r ← answer q
    carryOut (k r)

end Program

/-- Carries out a command line; a failure outside the domain ends the program with its message. -/
def main (words : List String) : IO UInt32 := do
  match ← Program.carryOut (runLine (← Program.givenVariables) 100000 words) with
  | .value o =>
    IO.print o.out
    IO.eprint o.err
    pure o.exitCode.toUInt32
  | .failure f =>
    IO.eprintln f.message
    pure 1
  | .cut => pure 1
