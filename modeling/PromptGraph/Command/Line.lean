/-!
# `PromptGraph.Command.Line` — command lines

A command line names a command, and after it, in any order, the command's arguments and options. An option's value
is the next word, or stands after an equals sign in the same word. After a lone `--` every word is an argument.

## Contents
- **Commands.** `CommandKind`, and what each takes; `Command`: a command with all that it needs.
- **Words.** `Words`: options and arguments told apart; `Words.read`.
- **Lines.** `findCommand`: the command that a line names; `Command.read`: the command with its words.
-/

namespace PromptGraph

/-! ## Commands -/

inductive CommandKind where
  | compile
  | deploy
  | execute
  | status
  | health
  | pushCredential
  deriving DecidableEq, Repr

namespace CommandKind

def all : List CommandKind := [.compile, .deploy, .execute, .status, .health, .pushCredential]

def name : CommandKind → String
  | .compile => "compile"
  | .deploy => "deploy"
  | .execute => "execute"
  | .status => "status"
  | .health => "health"
  | .pushCredential => "push-credential"

/-- The options of a command, each with a value. -/
def options : CommandKind → List String
  | .compile | .deploy | .status => ["--org-id"]
  | .execute => ["--org-id", "--user-id", "--input"]
  | .health => []
  | .pushCredential => ["--secret"]

/-- The usage line of a command. -/
def usage (k : CommandKind) : String :=
  "Usage: " ++ k.name ++ match k with
    | .compile | .deploy => " [--org-id TEXT] WORKFLOW_FILE"
    | .execute => " --org-id TEXT --user-id TEXT [--input TEXT] CHAIN_ID"
    | .status => " [--org-id TEXT] EXECUTION_ID"
    | .health => ""
    | .pushCredential => " --secret TEXT ORG_ID SERVICE"

end CommandKind

/-- A command with all that it needs. -/
inductive Command where
  | compile (file : String) (org : Option String)
  | deploy (file : String) (org : Option String)
  | execute (chain org user : String) (input : Option String)
  | status (execution : String) (org : Option String)
  | health
  | pushCredential (org service secret : String)
  deriving DecidableEq, Repr

/-- Why a line is not a command to carry out. -/
inductive LineFault where
  /-- The line is not well formed. -/
  | usage
  /-- The line asks for help. -/
  | help
  deriving DecidableEq, Repr

/-! ## Words -/

/-- Options and arguments in order. -/
structure Words where
  options : List (String × String)
  arguments : List String
  help : Bool
  deriving DecidableEq, Repr

namespace Words

def empty : Words := ⟨[], [], false⟩

def withOption (name value : String) (w : Words) : Words := { w with options := (name, value) :: w.options }

def withArguments (words : List String) (w : Words) : Words := { w with arguments := words ++ w.arguments }

/-- Whether a word is an option rather than an argument. -/
def isOption (word : String) : Bool := word.toList.head? == some '-' && word ≠ "-"

/-- The name of an option, and the value after an equals sign in it. -/
def splitOption (word : String) : String × Option String :=
  let cs := word.toList
  match cs.dropWhile (· ≠ '=') with
  | [] => (word, none)
  | _ :: value => (String.ofList (cs.takeWhile (· ≠ '=')), some (String.ofList value))

/-- Tells options and arguments apart; an unknown option, an option without a value and a help option with one are
    faults. -/
def read (known : List String) : List String → Except LineFault Words
  | [] => .ok empty
  | word :: rest =>
    if word = "--" then .ok (empty.withArguments rest)
    else if !isOption word then (withArguments [word]) <$> read known rest
    else
      let (name, attached) := splitOption word
      if name = "--help" then
        match attached with
        | some _ => .error .usage
        | none => (fun w => { w with help := true }) <$> read known rest
      else if !known.contains name then .error .usage
      else match attached, rest with
        | some value, rest => (withOption name value) <$> read known rest
        | none, value :: rest => (withOption name value) <$> read known rest
        | none, [] => .error .usage

/-- The value of an option; a repeated option has its last value. -/
def option? (w : Words) (name : String) : Option String := ((w.options.reverse.find? fun o => o.1 == name)).map Prod.snd

end Words

/-! ## Lines -/

/-- The command of a name. -/
def commandNamed? (name : String) : Option CommandKind := CommandKind.all.find? fun k => k.name == name

/-- The command that comes first in words, and the words after it; a line that asked for help before names none. -/
def firstCommand (help : Bool) : List String → Except LineFault (CommandKind × List String)
  | [] => .error (if help then .help else .usage)
  | name :: rest =>
    if help then .error .help
    else match commandNamed? name with
      | some k => .ok (k, rest)
      | none => .error .usage

/-- The command that a line names, and its words. -/
def findCommand (help : Bool) : List String → Except LineFault (CommandKind × List String)
  | [] => firstCommand help []
  | word :: rest =>
    if word = "--help" then findCommand true rest
    else if word = "--" then firstCommand help rest
    else if Words.isOption word then .error .usage
    else firstCommand help (word :: rest)

/-- The command of a kind with the given words. -/
def Command.ofWords? (w : Words) : CommandKind → Option Command
  | .compile => match w.arguments with
    | [file] => some (.compile file (w.option? "--org-id"))
    | _ => none
  | .deploy => match w.arguments with
    | [file] => some (.deploy file (w.option? "--org-id"))
    | _ => none
  | .execute => match w.arguments, w.option? "--org-id", w.option? "--user-id" with
    | [chain], some org, some user => some (.execute chain org user (w.option? "--input"))
    | _, _, _ => none
  | .status => match w.arguments with
    | [execution] => some (.status execution (w.option? "--org-id"))
    | _ => none
  | .health => match w.arguments with
    | [] => some .health
    | _ => none
  | .pushCredential => match w.arguments, w.option? "--secret" with
    | [org, service], some secret => some (.pushCredential org service secret)
    | _, _ => none

/-- The command of a kind in the words after its name. -/
def Command.read (k : CommandKind) (words : List String) : Except LineFault Command := do
  let w ← Words.read k.options words
  if w.help then throw .help
  match Command.ofWords? w k with
  | some c => pure c
  | none => throw .usage

end PromptGraph
