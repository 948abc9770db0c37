import PromptGraph.Command.Line
import PromptGraph.Command.Source
import PromptGraph.Config.Settings
import PromptGraph.Credential.Propagation
import PromptGraph.Database.Store
import PromptGraph.Engine.Access
import PromptGraph.Execution.Run
import PromptGraph.Text.Terminal

/-!
# `PromptGraph.Command.Run` — what the commands do

## Contents
- **Output.** `Output`: exit code and what is written.
- **Surroundings.** `Settings.engineBase`, `Settings.access`, `Settings.executor`, and what else the settings decide.
- **Commands.** `runCompile`, `runDeploy`, `runExecute`, `runStatus`, `runHealth`, `runPushCredential`.
- **Lines.** `runLine`: a whole command line, from the reading of the settings on.
-/

namespace PromptGraph

variable [Depth]

/-! ## Output -/

/-- How a command ends. -/
structure Output where
  exitCode : Nat
  out : String
  err : String

namespace Output

/-- A line of output. -/
def line (text : String) : Output := ⟨0, Text.dropControls text ++ "\n", ""⟩

/-- A data value as output. -/
def value (v : Json) : Output := line (Json.write .indented v)

/-- Prints a data value, if it has a text. -/
def print (v : Json) : Act Output :=
  match Json.writeFault? false v with
  | some fault => .failed (.ofText fault)
  | none => .done (value v)

/-- An error line. -/
def error (message : String) : Output := ⟨1, "", Text.dropControls ("Error: " ++ message) ++ "\n"⟩

/-- The end of a line that is no command. -/
def ofLineFault (usage : String) : LineFault → Output
  | .usage => ⟨2, "", usage ++ "\n"⟩
  | .help => line usage

/-- The output of a program; a failure of the domain is an error line, any other failure is one of the whole. -/
def guarded (program : Act Output) : Act Output := do
  match ← Act.attempt program with
  | .ok o => pure o
  | .error failure => if failure.isDomain then pure (error failure.message) else .failed failure

end Output

/-! ## Surroundings -/

namespace Settings

/-- The base address of the engine. -/
def engineBase (s : Settings) : String := Text.stripSlashes s.baseUrl

/-- How the engine is reached. -/
def access (s : Settings) : Except Failure Access := Access.make s.engineBase s.user s.password s.apiKey

/-- The context of deployments. -/
def deployContext (s : Settings) (pageBudget : Nat) : DeployContext := ⟨s.registryFile, Rewrites.default, pageBudget⟩

/-- The propagator of credentials, with waits of at most eight seconds. -/
def propagator (s : Settings) (pageBudget : Nat) : Propagator :=
  ⟨s.credentialAttempts, Propagator.servicesOf s.credentialServices, .ofNat 8, pageBudget⟩

/-- The executor over the database of the settings. Its deployments are not registered. -/
def executor (s : Settings) (pageBudget : Nat) : Except Failure Executor := do
  let d ← Database.make s.dsn s.schema s.tablePrefix
  let poller ← Poller.make (.float s.pollInterval) s.pollAttempts
  pure ⟨d.store, ⟨none, Rewrites.default, pageBudget⟩, poller, .float s.costPerToken, .str s.currency⟩

end Settings

/-! ## Commands -/

/-- Goes on with the chain in a file, or ends with an error line. -/
def withSource (file : String) (next : Chain → Act Output) : Act Output := do
  match ← readSource file with
  | .ok c => next c
  | .error fault => pure (.error fault.message)

/-- Compiles a chain and reports what is worth it. -/
def compileReporting (rewrites : Rewrites) (org : Option String) (c : Chain) : Act Definition := do
  let setting := settingFor rewrites org c
  Act.reportAll (compileNotices setting c)
  Act.ofExcept (compileChain setting c)

/-- Prints the definition of a chain. -/
def runCompile (file : String) (org : Option String) : Act Output :=
  withSource file fun c => Output.guarded do
    let d ← compileReporting Rewrites.default org c
    Output.print d.payload

/-- Deploys a chain and prints its remote id. An empty organization counts as none. -/
def runDeploy (s : Settings) (pageBudget : Nat) (file : String) (org : Option String) : Act Output :=
  withSource file fun c => Output.guarded do
    let _ ← Act.ofExcept s.access
    let remote ← ensureDeployed (s.deployContext pageBudget) c (nonEmpty org <|> c.org)
    pure (.line ("Deployed " ++ c.id ++ " -> n8n workflow " ++ remote))

/-- The input of an execution in a text, or what is wrong with it; an absent or empty text is an empty input. -/
def readInput (input : Option String) : Except Failure (Except String Members) :=
  match nonEmpty input with
  | none => .ok (.ok [])
  | some text =>
    match Json.read text with
    | .error .tooDeep => .error (.kind .nesting)
    | .error fault => .ok (.error ("--input is not valid JSON: " ++ fault.message))
    | .ok (.obj ms) => .ok (.ok ms)
    | .ok _ => .ok (.error "--input must be a JSON object")

/-- Prints a response. -/
def printResponse (r : Response) : Act Output := do
  let v ← Act.ofExcept r.toJson
  Output.print v

/-- Runs a stored chain and prints the response. -/
def runExecute (s : Settings) (pageBudget : Nat) (chain org user : String) (input : Option String) : Act Output := do
  match ← Act.ofExcept (readInput input) with
  | .error message => pure (.error message)
  | .ok ms => Output.guarded do
    let _ ← Act.ofExcept s.access
    let x ← Act.ofExcept (s.executor pageBudget)
    printResponse (← x.execute ⟨chain, org, user, ms⟩)

/-- Prints the state of an execution. -/
def runStatus (s : Settings) (pageBudget : Nat) (execution : String) (org : Option String) : Act Output :=
  Output.guarded do
    let _ ← Act.ofExcept s.access
    let x ← Act.ofExcept (s.executor pageBudget)
    printResponse (← x.status execution org)

/-- The members of a health report on the workflows of a reachable engine. -/
def workflowReport (pageBudget : Nat) : Act Members := do
  match ← Act.attempt (Engine.listWorkflows pageBudget) with
  | .ok listed => pure [("workflows", .int listed.length)]
  | .error failure =>
    if failure.isDomain then pure [("workflows", .null), ("error", .str failure.message)] else .failed failure

/-- Prints whether the engine is reachable and how many workflows it has. -/
def runHealth (s : Settings) (pageBudget : Nat) : Act Output := do
  let _ ← Act.ofExcept s.access
  let head (status : String) : Members := [("status", .str status), ("base_url", .str s.engineBase)]
  if ← Engine.healthy then do
    let more ← workflowReport pageBudget
    Output.print (.obj (head "ok" ++ more))
  else pure { Output.value (.obj (head "error")) with exitCode := 1 }

/-- Propagates a secret. -/
def runPushCredential (s : Settings) (pageBudget : Nat) (org service secret : String) : Act Output :=
  Output.guarded do
    let _ ← Act.ofExcept s.access
    if ← (s.propagator pageBudget).store org service secret then
      pure (.line ("Propagated credential for org " ++ org ++ " service " ++ service))
    else pure (.error ("credential for " ++ service ++ " was not propagated; see log for details"))

/-- Carries out a command. -/
def runCommand (s : Settings) (pageBudget : Nat) : Command → Act Output
  | .compile file org => runCompile file org
  | .deploy file org => runDeploy s pageBudget file org
  | .execute chain org user input => runExecute s pageBudget chain org user input
  | .status execution org => runStatus s pageBudget execution org
  | .health => runHealth s pageBudget
  | .pushCredential org service secret => runPushCredential s pageBudget org service secret

/-! ## Lines -/

/-- The usage of the whole. -/
def usageText : String := String.intercalate "\n" (CommandKind.all.map CommandKind.usage)

/-- The text of the file of variables, if there is one. -/
def readEnvFile : Act (Option String) :=
  .ask (.readFile ".env") fun
    | .file bytes =>
      match Text.ofUtf8? bytes with
      | some text => .done (some text)
      | none => .failed (.kind .encoding)
    | _ => .done none

/-- The settings of a command line: of the surroundings and of the file of variables. -/
def loadSettings (env : EnvFile.Variables) : Act Settings := do
  let file ← readEnvFile
  Act.ofExcept (Settings.load [] env file)

/-- Carries out a command line. The settings are read once the command is known, before its own words are. -/
def runLine (env : EnvFile.Variables) (pageBudget : Nat) (words : List String) : Act Output :=
  match findCommand false words with
  | .error fault => .done (Output.ofLineFault usageText fault)
  | .ok (kind, rest) => do
    let s ← loadSettings env
    match Command.read kind rest with
    | .error fault => pure (Output.ofLineFault kind.usage fault)
    | .ok c => runCommand s pageBudget c

end PromptGraph
