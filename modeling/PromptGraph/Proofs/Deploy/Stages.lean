import PromptGraph.Deploy.Ensure
import PromptGraph.Proofs.Effect.Programs

/-!
# `Proofs.Deploy.Stages` — the stages of a deployment

A deployment is taken apart at its requests: each stage is a program of its own, and each program is a request
followed by the stage after it.

## Contents
- **The registered workflow.** `afterUpdate`, `updateRegistered_eq`.
- **The workflow of the name.** `writeListed`, `upsertByName_eq`.
- **The end.** `storeRemembered`, `finishDeployment`, `afterRegistered`, `deployDefinition_eq`; `placeDefinition`,
  `deployDefinition_eq_place`: all that comes before a deployment is remembered.
-/

namespace PromptGraph

open Act Engine

variable [Depth]

/-- A chain without nodes. -/
def emptyChain (id name : String) : Chain := ⟨id, name, none, none, Graph.empty⟩

/-- Without a registry; a listing takes no more than one page. -/
def DeployContext.plain : DeployContext := ⟨none, Rewrites.default, 1⟩

/-- With a registry in the working directory. -/
def DeployContext.filed : DeployContext := ⟨some "reg.json", Rewrites.default, 1⟩

/-! ## The registered workflow -/

/-- What comes of an update of the registered workflow: its id, or nothing where it is gone. -/
def afterUpdate (chain remote : String) : Except Failure Definition → Act (Option String)
  | .ok updated => pure (some ((nonEmpty updated.id).getD remote))
  | .error (.remote e) =>
    if e.status = some 404 then do
      report (.registeredMissing remote chain)
      pure none
    else .failed (.remote e)
  | .error e => .failed e

/-- What is done about the workflow that a registry names for a chain. -/
def updateNamed (chain : String) (d : Definition) (r : Registry) : Act (Option String) :=
  match nonEmpty (r.get? chain) with
  | none => pure none
  | some remote => attempt (updateWorkflow remote d.payload) >>= afterUpdate chain remote

theorem updateRegistered_eq (ctx : DeployContext) (chain : String) (d : Definition) :
    updateRegistered ctx chain d = loadRegistry ctx.registryPath >>= updateNamed chain d := by
  refine congrArg (Act.bind (loadRegistry ctx.registryPath)) (funext fun r => ?_)
  unfold updateNamed nonEmpty
  cases (r.get? chain).filter (· ≠ "") with
  | none => rfl
  | some remote =>
      refine congrArg (Act.bind (attempt (updateWorkflow remote d.payload))) (funext fun outcome => ?_)
      cases outcome with
      | ok updated => rfl
      | error e => cases e <;> rfl

/-! ## The workflow of the name -/

/-- What comes of the making of a workflow: its id. -/
def afterCreation (created : Definition) : Act String :=
  match nonEmpty created.id with
  | some id => pure id
  | none => .failed (.remote ⟨none, "create workflow response carried no id", "POST", "/workflows"⟩)

/-- Writes the definition to the workflow of its name among the listed ones, or to a new one. -/
def writeListed (d : Definition) (listed : List Definition) : Act String :=
  match namedIds d.name listed with
  | [] => createWorkflow d >>= afterCreation
  | [existing] => updateWorkflow existing d.payload >>= fun updated => pure ((nonEmpty updated.id).getD existing)
  | ids => .failed (.ambiguousDeployment d.name ids)

theorem upsertByName_eq (ctx : DeployContext) (d : Definition) :
    upsertByName ctx d = listWorkflows ctx.pageBudget >>= writeListed d := by
  refine congrArg (Act.bind (listWorkflows ctx.pageBudget)) (funext fun listed => ?_)
  unfold writeListed
  rcases namedIds d.name listed with _ | ⟨id, _ | ⟨next, rest⟩⟩ <;> rfl

/-! ## The end -/

/-- Puts a remembered deployment into the registry, if there is one. -/
def storeRemembered (ctx : DeployContext) (chain remote : String) : Act Unit :=
  match nonEmpty ctx.registryPath with
  | none => pure ()
  | some path => attempt (storeDeployment path chain remote) >>= fun
    | .ok () => pure ()
    | .error (.system e) => report (.registryNotStored chain remote e)
    | .error failure => .failed failure

theorem rememberDeployment_eq (ctx : DeployContext) (chain remote : String) :
    rememberDeployment ctx chain remote = perform (.remember chain remote) >>= fun _ =>
      storeRemembered ctx chain remote := by
  unfold rememberDeployment storeRemembered
  cases nonEmpty ctx.registryPath with
  | none => rfl
  | some path =>
      refine congrArg (fun store : Act Unit => perform (.remember chain remote) >>= fun _ => store) ?_
      refine congrArg (Act.bind (attempt (storeDeployment path chain remote))) (funext fun outcome => ?_)
      cases outcome with
      | ok done => rfl
      | error e => cases e <;> rfl

/-- Activates a written workflow and remembers it. -/
def finishDeployment (ctx : DeployContext) (chain remote : String) : Act String := do
  let _ ← setActive remote true
  rememberDeployment ctx chain remote
  pure remote

/-- Goes on with the registered workflow, or looks for one of the name. -/
def afterRegistered (ctx : DeployContext) (chain : String) (d : Definition) : Option String → Act String
  | some remote => finishDeployment ctx chain remote
  | none => upsertByName ctx d >>= finishDeployment ctx chain

theorem deployDefinition_eq (ctx : DeployContext) (chain : String) (d : Definition) :
    deployDefinition ctx chain d = updateRegistered ctx chain d >>= afterRegistered ctx chain d := by
  refine congrArg (Act.bind (updateRegistered ctx chain d)) (funext fun registered => ?_)
  cases registered <;> rfl

/-- Activates a written workflow and answers its id. -/
def activate (remote : String) : Act String := do
  let _ ← setActive remote true
  pure remote

/-- Goes on with the registered workflow, or looks for one of the name; nothing is remembered. -/
def placeUnlessRegistered (ctx : DeployContext) (d : Definition) : Option String → Act String
  | some remote => activate remote
  | none => upsertByName ctx d >>= activate

/-- Writes and activates a definition without remembering it. -/
def placeDefinition (ctx : DeployContext) (chain : String) (d : Definition) : Act String :=
  updateRegistered ctx chain d >>= placeUnlessRegistered ctx d

theorem finishDeployment_eq_activate (ctx : DeployContext) (chain remote : String) :
    finishDeployment ctx chain remote = activate remote >>= fun remote =>
      rememberDeployment ctx chain remote >>= fun _ => pure remote := by
  rw [activate, bind_bind]
  rfl

/-- A deployment places a definition, and then remembers it. -/
theorem deployDefinition_eq_place (ctx : DeployContext) (chain : String) (d : Definition) :
    deployDefinition ctx chain d = placeDefinition ctx chain d >>= fun remote =>
      rememberDeployment ctx chain remote >>= fun _ => pure remote := by
  rw [deployDefinition_eq, placeDefinition, bind_bind]
  refine congrArg (Act.bind (updateRegistered ctx chain d)) (funext fun registered => ?_)
  cases registered with
  | some remote => exact finishDeployment_eq_activate ctx chain remote
  | none =>
      rw [placeUnlessRegistered, bind_bind]
      exact congrArg (Act.bind (upsertByName ctx d)) (funext fun remote =>
        finishDeployment_eq_activate ctx chain remote)

/-- Goes on from what the cache knows. -/
def afterLookUp (ctx : DeployContext) (c : Chain) (org : Option String) (cached : Option String) : Act String :=
  match nonEmpty cached with
  | some remote => pure remote
  | none => reportAll (compileNotices (settingFor ctx.rewrites org c) c) >>= fun _ =>
      ofExcept (compileChain (settingFor ctx.rewrites org c) c) >>= fun d => deployDefinition ctx c.id d

theorem ensureDeployed_eq (ctx : DeployContext) (c : Chain) (org : Option String) :
    ensureDeployed ctx c org = perform (.lookUp c.id) >>= afterLookUp ctx c org := rfl

/-- What a deployment does where the cache does not know the chain, its compilation has nothing to report, and the
    registry can be read. -/
theorem run_ensureDeployed_of_load {σ : Type} {h : Handler σ} {s : σ} (ctx : DeployContext) (c : Chain)
    (org : Option String) {r : Registry} (hlook : h (.lookUp c.id) s = (none, s))
    (hnotices : compileNotices (settingFor ctx.rewrites org c) c = [])
    (hload : (loadRegistry ctx.registryPath).run h s = (.value r, s)) :
    (ensureDeployed ctx c org).run h s
      = (ofExcept (compileChain (settingFor ctx.rewrites org c) c) >>= fun d =>
          updateNamed c.id d r >>= afterRegistered ctx c.id d).run h s := by
  have hrun : (ensureDeployed ctx c org).run h s = (afterLookUp ctx c org none).run h s := by
    rw [ensureDeployed_eq]
    show (afterLookUp ctx c org (h (.lookUp c.id) s).1).run h (h (.lookUp c.id) s).2 = _
    rw [hlook]
  rw [hrun, afterLookUp, hnotices]
  show (ofExcept (compileChain (settingFor ctx.rewrites org c) c) >>= fun d => deployDefinition ctx c.id d).run h s = _
  cases compileChain (settingFor ctx.rewrites org c) c with
  | error e => rfl
  | ok d =>
      show (deployDefinition ctx c.id d).run h s = (updateNamed c.id d r >>= afterRegistered ctx c.id d).run h s
      rw [deployDefinition_eq, updateRegistered_eq, bind_bind, run_bind, hload]

end PromptGraph
