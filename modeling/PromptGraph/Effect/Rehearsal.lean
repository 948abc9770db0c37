import PromptGraph.Deploy.Registry
import PromptGraph.Effect.Files
import PromptGraph.Execution.MemoryStore
import PromptGraph.Http.Address

/-!
# `PromptGraph.Effect.Rehearsal` — surroundings given in advance

A rehearsal answers every effect from what was given for it, and keeps what it was asked for.

## Contents
- `Rehearsal`: the answers to come, the state of cache, files and store, and what has happened so far.
- `Rehearsal.answer`: the handler of effects.
- `Rehearsal.cleared`: a rehearsal that goes on with a clean record.
-/

namespace PromptGraph

/-- An answer of the database. -/
inductive DatabaseEvent where
  /-- The next connection fails. -/
  | connectFails
  | row (row : Option Members)
  | fails (fault : DatabaseFault)

/-- A failed propagation. -/
structure PropagationFailure where
  org : String
  service : String
  operation : String
  error : String

/-- Surroundings given in advance. -/
structure Rehearsal where
  /-- The address under which requests are sent. -/
  base : Http.Base
  /-- The answers to requests, in order. -/
  replies : List Http.Reply := []
  /-- The readings of the clock; the last one repeats. -/
  clock : List Timestamp
  events : List DatabaseEvent := []
  cache : Registry := []
  files : Files := []
  store : MemoryStore := .empty
  failures : List PropagationFailure := []
  requests : List Http.Request := []
  pauses : List Double := []
  notices : List Notice := []
  statements : List Statement := []
  connects : List String := []

namespace Rehearsal

/-- The reply when none is left. -/
def exhausted : Http.Reply := .failed "ConnectError" "script exhausted"

/-- What comes of a request to an address. An answer shows that the address is not named. -/
def replyFrom (address : Http.Address) : Http.Reply → Http.Reply
  | .answer status body => if address.isNamed then .answer status body else .unnamed address.text
  | r => r

/-- The present reading of the clock, and the readings after it. -/
def readClock : List Timestamp → Timestamp × List Timestamp
  | [] => (⟨0, none⟩, [])
  | [t] => (t, [t])
  | t :: rest => (t, rest)

/-- The answer to a connection. -/
def connectAnswer : List DatabaseEvent → Option DatabaseFault × List DatabaseEvent
  | .connectFails :: rest => (some .operational, rest)
  | events => (none, events)

/-- The answer to a statement; without an event there is no row. -/
def executeAnswer : List DatabaseEvent → Except DatabaseFault (Option Members) × List DatabaseEvent
  | .row r :: rest => (.ok r, rest)
  | .fails fault :: rest => (.error fault, rest)
  | .connectFails :: rest => (.error .operational, rest)
  | [] => (.ok none, [])

/-- Answers an effect. -/
def answer : Act.Handler Rehearsal
  | .exchange request, w =>
    match w.base.address? request with
    | none => (.unaddressed, w)
    | some address =>
      (replyFrom address (w.replies.headD exhausted),
        { w with replies := w.replies.tail, requests := w.requests ++ [request] })
  | .pause seconds, w => ((), { w with pauses := w.pauses ++ [seconds] })
  | .clock, w =>
    let (t, rest) := readClock w.clock
    (t, { w with clock := rest })
  | .report notice, w => ((), { w with notices := w.notices ++ [notice] })
  | .lookUp chain, w => (w.cache.get? chain, w)
  | .remember chain remote, w => ((), { w with cache := w.cache.insert chain remote })
  | .forget none, w => ((), { w with cache := [] })
  | .forget (some chain), w => ((), { w with cache := w.cache.filter fun entry => entry.1 ≠ chain })
  | .readFile path, w => (w.files.state path, w)
  | .writeFile path text, w =>
    let (e, files) := w.files.write path text
    (e, { w with files := files })
  | .moveFile source target, w =>
    let (e, files) := w.files.move source target
    (e, { w with files := files })
  | .store call, w =>
    let (value, store) := MemoryStore.answer call w.store
    (value, { w with store := store })
  | .connect dsn, w =>
    let (fault, events) := connectAnswer w.events
    (fault, { w with events := events, connects := w.connects ++ [dsn] })
  | .execute statement, w =>
    let (row, events) := executeAnswer w.events
    (row, { w with events := events, statements := w.statements ++ [statement] })
  | .recordFailure org service operation error, w =>
    ((), { w with failures := w.failures ++ [⟨org, service, operation, error⟩] })

/-- A rehearsal that goes on with a clean record. -/
def cleared (w : Rehearsal) : Rehearsal :=
  { w with
    requests := [], pauses := [], notices := [], statements := [], connects := [],
    store := { w.store with calls := [] } }

end Rehearsal

end PromptGraph
