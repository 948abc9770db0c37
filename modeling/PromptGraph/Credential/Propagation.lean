import PromptGraph.Credential.Service
import PromptGraph.Engine.Client

/-!
# `PromptGraph.Credential.Propagation` — organization secrets for the engine

A secret is put into the engine under the organization's credential name, the credential of that name being updated
where it exists. Remote errors are retried; when they persist, the failure is reported and recorded.

## Contents
- `Propagator`: the attempts, the services and the longest wait.
- `Propagator.store`, `Propagator.delete`.
- `Propagator.runJobs`: scheduled work in order, all of it whatever fails.
-/

namespace PromptGraph

variable [Depth]

/-- The settings of propagation. -/
structure Propagator where
  /-- At least one attempt is made. -/
  maxAttempts : Int
  services : List String
  longestWait : Double
  pageBudget : Nat

namespace Propagator

/-- The number of attempts. -/
def attempts (p : Propagator) : Nat := (max 1 p.maxAttempts).toNat

/-- The named services, or every service when none is named. -/
def servicesOf (named : List String) : List String := if named.isEmpty then Service.all.map Service.name else named

/-- Remote errors are retried. -/
def isRemote : Failure → Bool
  | .remote _ => true
  | _ => false

/-- The id of the first listed credential of a name. -/
def findId (name : String) (listed : List Credential) : Option String :=
  listed.findSome? fun c => if c.name = name then nonEmptyId c.id else none
where
  nonEmptyId (id : Option String) : Option String := id.filter (· ≠ "")

/-- One attempt at storing a credential. -/
def storeOnce (p : Propagator) (c : Credential) : Act Unit := do
  let listed ← Engine.listCredentials p.pageBudget
  match findId c.name listed with
  | some id => do let _ ← Engine.updateCredential id c
  | none => do let _ ← Engine.createCredential c

/-- One attempt at deleting the credential of a name. -/
def deleteOnce (p : Propagator) (name : String) : Act Unit := do
  let listed ← Engine.listCredentials p.pageBudget
  match findId name listed with
  | some id => Engine.deleteCredential id
  | none => pure ()

/-- Attempts a piece of work, and reports and records a remote error that persists. -/
def guarded (p : Propagator) (org service operation : String) (work : Act Unit) : Act Bool := do
  match ← Act.attempt (Act.retry isRemote (Act.backoff (.zero false) p.longestWait) work (p.attempts - 1) 1) with
  | .ok () => pure true
  | .error (.remote e) => do
    Act.report (.credentialFailed operation org service (.remote e))
    Act.perform (.recordFailure org service operation e.message)
    pure false
  | .error e => .failed e

/-- Creates or updates the credential of an organization for a service. -/
def store (p : Propagator) (org service secret : String) : Act Bool :=
  match (Service.ofName? service).filter fun _ => p.services.contains service with
  | none => do
    Act.report (.credentialService service)
    pure false
  | some s =>
    let c : Credential := ⟨none, credentialName service (some org), s.credentialType, credentialData service secret⟩
    p.guarded org service "store" (p.storeOnce c)

/-- Deletes the credential of an organization for a service, if it exists. -/
def delete (p : Propagator) (org service : String) : Act Bool :=
  p.guarded org service "delete" (p.deleteOnce (credentialName service (some org)))

/-- A scheduled piece of work: a secret is stored, without one the credential is deleted. -/
structure Job where
  org : String
  service : String
  secret : Option String

/-- Runs a piece of scheduled work. -/
def runJob (p : Propagator) (j : Job) : Act Bool :=
  match j.secret with
  | some secret => p.store j.org j.service secret
  | none => p.delete j.org j.service

/-- Runs scheduled work in order and keeps how each piece ended. -/
def attemptJobs (p : Propagator) : List Job → Act (List (Except Failure Bool))
  | [] => pure []
  | j :: rest => do
    let ended ← Act.attempt (p.runJob j)
    let more ← attemptJobs p rest
    pure (ended :: more)

/-- Runs scheduled work to its end; what failed first is then the failure of the whole. -/
def runJobs (p : Propagator) (jobs : List Job) : Act (List Bool) := do
  let ended ← p.attemptJobs jobs
  Act.ofExcept (ended.mapM id)

end Propagator

end PromptGraph
