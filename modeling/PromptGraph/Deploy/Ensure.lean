import PromptGraph.Compile.Workflow
import PromptGraph.Deploy.Registry
import PromptGraph.Engine.Client

/-!
# `PromptGraph.Deploy.Ensure` — deploying a chain

A chain is deployed when the cache knows its remote workflow. Otherwise its definition is written: to the registered
workflow, or, where that is gone or none is registered, to the workflow of its name, or to a new one. The workflow
is then activated, and cache and registry take its id.

## Contents
- `DeployContext`: the registry's path, the replacements of conditions, and the budget of pages of a listing.
- `updateRegistered`, `upsertByName`, `ensureDeployed`.
-/

namespace PromptGraph

variable [Depth]

/-- What a deployment depends on besides the chain. -/
structure DeployContext where
  registryPath : Option String
  rewrites : Rewrites
  pageBudget : Nat

/-- Writes the definition to the registered workflow of a chain and answers the id it then has; `none` when there is
    no such workflow. -/
def updateRegistered (ctx : DeployContext) (chain : String) (d : Definition) : Act (Option String) := do
  let r ← loadRegistry ctx.registryPath
  match (r.get? chain).filter (· ≠ "") with
  | none => pure none
  | some remote =>
    match ← Act.attempt (Engine.updateWorkflow remote d.payload) with
    | .ok updated => pure (some ((nonEmpty updated.id).getD remote))
    | .error (.remote e) =>
      if e.status = some 404 then do
        Act.report (.registeredMissing remote chain)
        pure none
      else .failed (.remote e)
    | .error e => .failed e

/-- The ids of the listed workflows of a name; entries without an id do not count. -/
def namedIds (name : String) (listed : List Definition) : List String :=
  listed.filterMap fun w => if w.name = name then nonEmpty w.id else none

/-- Writes the definition to the only workflow of its name, or to a new one, and answers the id. -/
def upsertByName (ctx : DeployContext) (d : Definition) : Act String := do
  let listed ← Engine.listWorkflows ctx.pageBudget
  match namedIds d.name listed with
  | [] => do
    let created ← Engine.createWorkflow d
    match nonEmpty created.id with
    | some id => pure id
    | none => .failed (.remote ⟨none, "create workflow response carried no id", "POST", "/workflows"⟩)
  | [existing] => do
    let updated ← Engine.updateWorkflow existing d.payload
    pure ((nonEmpty updated.id).getD existing)
  | ids => .failed (.ambiguousDeployment d.name ids)

/-- Puts a deployment into the cache and the registry; a registry that cannot be written is reported. -/
def rememberDeployment (ctx : DeployContext) (chain remote : String) : Act Unit := do
  let _ ← Act.perform (.remember chain remote)
  match nonEmpty ctx.registryPath with
  | none => pure ()
  | some path =>
    match ← Act.attempt (storeDeployment path chain remote) with
    | .ok () => pure ()
    | .error (.system e) => Act.report (.registryNotStored chain remote e)
    | .error failure => .failed failure

/-- Writes and activates a definition and answers the id of the remote workflow. -/
def deployDefinition (ctx : DeployContext) (chain : String) (d : Definition) : Act String := do
  let remote ← match ← updateRegistered ctx chain d with
    | some remote => pure remote
    | none => upsertByName ctx d
  let _ ← Engine.setActive remote true
  rememberDeployment ctx chain remote
  pure remote

/-- The remote id of a chain, which is deployed unless the cache knows it. Credentials are those of the given
    organization, else of the chain's own. -/
def ensureDeployed (ctx : DeployContext) (c : Chain) (org : Option String) : Act String := do
  let cached : Option String ← Act.perform (.lookUp c.id)
  match nonEmpty cached with
  | some remote => pure remote
  | none => do
    let setting := settingFor ctx.rewrites org c
    Act.reportAll (compileNotices setting c)
    let d ← Act.ofExcept (compileChain setting c)
    deployDefinition ctx c.id d

/-- Forgets the deployment of a chain, or of every chain; the registry is kept. -/
def invalidate (chain : Option String) : Act Unit := Act.perform (.forget chain)

end PromptGraph
