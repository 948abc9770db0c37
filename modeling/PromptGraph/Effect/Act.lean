import PromptGraph.Execution.Store
import PromptGraph.Http.Exchange
import PromptGraph.Notice

/-!
# `PromptGraph.Effect.Act` — programs that talk to their surroundings

A program is a value: it is finished, has failed, or asks its surroundings for something and goes on with the
answer. The same program can be run against scripted answers, a faithful server, or beside another program.

## Contents
- **Effects.** `Effect` and `Effect.Answer`.
- **Programs.** `Act`, a monad with failures; `Act.attempt` turns a failure into a value.
- **Running.** `Handler` answers effects from a state; `Act.run`.
- **Repetition.** `Act.retry`: bounded attempts with waits between them.
-/

namespace PromptGraph

/-! ## Effects -/

/-- A parameter of a statement. -/
inductive SqlValue where
  | null
  | value (v : Json)
  | time (t : Timestamp)
  /-- A value stored as a data value. -/
  | data (v : Json)

/-- A statement with its parameters, one for each placeholder. -/
structure Statement where
  sql : String
  parameters : List SqlValue

/-- What stands under a path. -/
inductive FileState where
  | absent
  | directory
  /-- A part of the path before its end is a file. -/
  | blocked
  /-- A name on the path, or the path itself, is too long. -/
  | tooLong
  | file (bytes : List UInt8)
  deriving DecidableEq

/-- Whether a text can be a path: no path has the character zero in it. -/
def isPossiblePath (path : String) : Bool := !path.toList.contains '\x00'

/-- What a program asks of its surroundings. -/
inductive Effect where
  /-- Sends a request to the engine. -/
  | exchange (request : Http.Request)
  /-- Waits for some seconds. -/
  | pause (seconds : Double)
  /-- Reads the clock. -/
  | clock
  | report (notice : Notice)
  /-- The remote id of a chain in the deployment cache. -/
  | lookUp (chain : String)
  /-- Puts a remote id into the deployment cache. -/
  | remember (chain remote : String)
  /-- Removes a chain, or every chain, from the deployment cache. -/
  | forget (chain : Option String)
  | readFile (path : String)
  /-- Writes a text; answers the name of a system error. -/
  | writeFile (path text : String)
  /-- Puts a file in the place of another; answers the name of a system error. -/
  | moveFile (source target : String)
  | store (call : StoreCall)
  /-- Opens a database connection. -/
  | connect (dsn : String)
  /-- Executes a statement on a connection of its own and answers the first row, if any. -/
  | execute (statement : Statement)
  /-- Adds a failed propagation to the list of failures. -/
  | recordFailure (org service operation error : String)

namespace Effect

/-- What the surroundings answer. -/
def Answer : Effect → Type
  | exchange _ => Http.Reply
  | pause _ => Unit
  | clock => Timestamp
  | report _ => Unit
  | lookUp _ => Option String
  | remember _ _ => Unit
  | forget _ => Unit
  | readFile _ => FileState
  | writeFile _ _ => Option String
  | moveFile _ _ => Option String
  | store call => Except Failure call.Answer
  | connect _ => Option DatabaseFault
  | execute _ => Except DatabaseFault (Option Members)
  | recordFailure _ _ _ _ => Unit

end Effect

/-! ## Programs -/

/-- A program. `unfinished` is a program whose budget of steps was spent before its end. -/
inductive Act (α : Type) where
  | done (value : α)
  | failed (failure : Failure)
  | unfinished
  | ask (effect : Effect) (next : effect.Answer → Act α)

namespace Act

variable {α β : Type}

/-- Goes on with the value of a finished program. -/
def bind : Act α → (α → Act β) → Act β
  | done a, f => f a
  | failed e, _ => failed e
  | unfinished, _ => unfinished
  | ask q k, f => ask q fun r => bind (k r) f

instance : Monad Act where
  pure := done
  bind := bind

/-- A failure as a value. -/
def attempt : Act α → Act (Except Failure α)
  | done a => done (.ok a)
  | failed e => done (.error e)
  | unfinished => unfinished
  | ask q k => ask q fun r => attempt (k r)

/-- Asks for an effect and returns its answer. -/
def perform (q : Effect) : Act q.Answer := ask q done

/-- A result that may be a failure. -/
def ofExcept : Except Failure α → Act α
  | .ok a => done a
  | .error e => failed e

/-- The failure of a system error, if there was one. -/
def ofSystem : Option String → Act Unit
  | none => done ()
  | some e => failed (.system e)

def report (n : Notice) : Act Unit := perform (.report n)

def reportAll : List Notice → Act Unit
  | [] => done ()
  | n :: rest => do report n; reportAll rest

def pause (seconds : Double) : Act Unit := perform (.pause seconds)

def clock : Act Timestamp := perform .clock

@[simp] theorem done_bind (a : α) (f : α → Act β) : (done a >>= f) = f a := rfl

@[simp] theorem failed_bind (e : Failure) (f : α → Act β) : (failed e >>= f) = failed e := rfl

@[simp] theorem unfinished_bind (f : α → Act β) : (unfinished >>= f) = unfinished := rfl

@[simp] theorem ask_bind (q : Effect) (k : q.Answer → Act α) (f : α → Act β) :
    (ask q k >>= f) = ask q fun r => k r >>= f := rfl

/-! ## Running -/

/-- Answers effects from a state, and changes the state. -/
abbrev Handler (σ : Type) := (q : Effect) → σ → q.Answer × σ

/-- How a run ended. -/
inductive End (α : Type) where
  | value (a : α)
  | failure (f : Failure)
  | cut

/-- Runs a program against surroundings with a state. -/
def run {σ : Type} (h : Handler σ) : Act α → σ → End α × σ
  | done a, s => (.value a, s)
  | failed e, s => (.failure e, s)
  | unfinished, s => (.cut, s)
  | ask q k, s =>
    let (answer, s') := h q s
    run h (k answer) s'

/-! ## Repetition -/

/-- Attempts a program until it succeeds or fails for good, at most `rest + 1` times; before the attempt after
    attempt `n` it waits for `wait n`. The last failure is kept. -/
def retry (again : Failure → Bool) (wait : Nat → Double) (body : Act α) : (rest n : Nat) → Act α
  | 0, _ => body
  | rest + 1, n => do
    match ← attempt body with
    | .ok a => done a
    | .error e =>
      if again e then do
        pause (wait n)
        retry again wait body rest (n + 1)
      else failed e

/-- The wait after attempt `n`: half a second doubled with each attempt, but at least `low` and at most `high`. -/
def backoff (low high : Double) (n : Nat) : Double :=
  let half := Double.ofRatio false (1 <<< (n - 1)) 2
  let capped := if high.lt half then high else half
  if low.lt capped then capped else low

end Act

end PromptGraph
