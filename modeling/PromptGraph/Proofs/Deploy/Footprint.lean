import PromptGraph.Proofs.Deploy.Stages
import PromptGraph.Proofs.Engine.Budget

/-!
# `Proofs.Deploy.Footprint` — what a deployment asks for

A deployment lists, makes and changes workflows, and touches the cache and the registry's files. It starts no
workflow and leaves the store of executions alone. Until it has come to a workflow it only seeks: it reads, and sends
requests.

## Contents
- **Footprint.** `ReadingEffect`, `FileEffect`, `NearEffect`, `SeekingEffect`, `DeployEffect`, and
  `asks_placeDefinition`, `asks_ensureDeployed`.
- **What is kept.** `run_of_reading`, `run_of_fileEffect`, `run_of_seeking`.
- **Endings.** `endsWithin_ensureDeployed`: a deployment ends within the budget of its listing.
-/

namespace PromptGraph

open Act Engine

variable [Depth]
variable {C : Prop}

-- what a request asks for is known; to unfold its checks takes long
attribute [local irreducible] send

/-! ## Footprint -/

/-- What the loading of a registry asks for. -/
inductive ReadingEffect : Effect → Prop where
  | report (notice : Notice) : ReadingEffect (.report notice)
  | readFile (path : String) : ReadingEffect (.readFile path)

/-- What the storing of a registry asks for. -/
inductive FileEffect : Effect → Prop where
  | reading {q : Effect} (h : ReadingEffect q) : FileEffect q
  | writeFile (path text : String) : FileEffect (.writeFile path text)
  | moveFile (source target : String) : FileEffect (.moveFile source target)

/-- What a deployment asks for without going to the engine. -/
inductive NearEffect : Effect → Prop where
  | file {q : Effect} (h : FileEffect q) : NearEffect q
  | lookUp (chain : String) : NearEffect (.lookUp chain)
  | remember (chain remote : String) : NearEffect (.remember chain remote)

/-- What a deployment asks for before it has come to a workflow. -/
inductive SeekingEffect : Effect → Prop where
  | reading {q : Effect} (h : ReadingEffect q) : SeekingEffect q
  | listing (parameters : Option (List (String × String))) :
      SeekingEffect (.exchange ⟨.get, .workflows, parameters, none⟩)
  | creation (body : Option Json) : SeekingEffect (.exchange ⟨.post, .workflows, none, body⟩)
  | change (id : String) (body : Option Json) : SeekingEffect (.exchange ⟨.patch, .workflow id, none, body⟩)

/-- What a deployment may ask of its surroundings. -/
inductive DeployEffect : Effect → Prop where
  | near {q : Effect} (h : NearEffect q) : DeployEffect q
  | listing (parameters : Option (List (String × String))) :
      DeployEffect (.exchange ⟨.get, .workflows, parameters, none⟩)
  | creation (body : Option Json) : DeployEffect (.exchange ⟨.post, .workflows, none, body⟩)
  | change (id : String) (body : Option Json) : DeployEffect (.exchange ⟨.patch, .workflow id, none, body⟩)

omit [Depth] in
theorem deployEffect_report (notice : Notice) : DeployEffect (.report notice) :=
  .near (.file (.reading (.report notice)))

omit [Depth] in
theorem deployEffect_of_seeking (q : Effect) (h : SeekingEffect q) : DeployEffect q := by
  cases h with
  | reading h => exact .near (.file (.reading h))
  | listing parameters => exact .listing parameters
  | creation body => exact .creation body
  | change id body => exact .change id body

theorem asks_change (id : String) (changes : Json) : (updateWorkflow id changes).Asks SeekingEffect C :=
  asks_updateWorkflow (fun body => .change id body) changes

omit [Depth] in
theorem asks_unreadable (path systemError : String) : (unreadable path systemError).Asks ReadingEffect C :=
  asks_bind (asks_perform (.report _)) (fun _ => trivial)

theorem asks_loadRegistry (path : Option String) : (loadRegistry path).Asks ReadingEffect C := by
  unfold loadRegistry
  split
  · trivial
  · split
    · trivial
    · refine ⟨.readFile _, fun content => ?_⟩
      cases content with
      | absent => trivial
      | directory => exact asks_unreadable _ _
      | blocked => exact asks_unreadable _ _
      | tooLong => exact asks_unreadable _ _
      | file bytes =>
          dsimp only
          split
          · trivial
          · split
            · trivial
            · trivial
            · exact asks_bind (asks_perform (.report _)) (fun _ => trivial)

omit [Depth] in
theorem asks_storeRegistry (path : String) (r : Registry) : (storeRegistry path r).Asks FileEffect C :=
  asks_bind (asks_perform (.writeFile _ _)) fun _ => asks_bind (asks_ofSystem _) fun _ =>
    asks_bind (asks_perform (.moveFile _ _)) fun _ => asks_ofSystem _

theorem asks_storeDeployment (path chain remote : String) : (storeDeployment path chain remote).Asks FileEffect C :=
  asks_bind (asks_mono (fun _ => .reading) (asks_loadRegistry _)) (fun _ => asks_storeRegistry _ _)

theorem asks_storeRemembered (ctx : DeployContext) (chain remote : String) :
    (storeRemembered ctx chain remote).Asks FileEffect C := by
  unfold storeRemembered
  split
  · trivial
  · refine asks_bind (asks_attempt (asks_storeDeployment _ _ _)) (fun outcome => ?_)
    split
    · trivial
    · exact asks_perform (.reading (.report _))
    · trivial

theorem asks_rememberDeployment (ctx : DeployContext) (chain remote : String) :
    (rememberDeployment ctx chain remote).Asks NearEffect C := by
  rw [rememberDeployment_eq]
  exact asks_bind (asks_perform (.remember chain remote))
    (fun _ => asks_mono (fun _ => .file) (asks_storeRemembered ctx chain remote))

theorem asks_updateNamed (chain : String) (d : Definition) (r : Registry) :
    (updateNamed chain d r).Asks SeekingEffect C := by
  unfold updateNamed
  split
  · trivial
  · refine asks_bind (asks_attempt (asks_change _ _)) (fun outcome => ?_)
    unfold afterUpdate
    split
    · trivial
    · split
      · exact asks_bind (asks_perform (.reading (.report _))) (fun _ => trivial)
      · trivial
    · trivial

theorem asks_updateRegistered (ctx : DeployContext) (chain : String) (d : Definition) :
    (updateRegistered ctx chain d).Asks SeekingEffect C := by
  rw [updateRegistered_eq]
  exact asks_bind (asks_mono (fun _ h => .reading h) (asks_loadRegistry _)) (asks_updateNamed chain d)

theorem asks_writeListed (d : Definition) (listed : List Definition) :
    (writeListed d listed).Asks SeekingEffect C := by
  unfold writeListed
  split
  · refine asks_bind (asks_createWorkflow .creation d) (fun created => ?_)
    unfold afterCreation
    split <;> trivial
  · exact asks_bind (asks_change _ _) (fun _ => trivial)
  · trivial

theorem asks_activate (remote : String) : (activate remote).Asks SeekingEffect C :=
  asks_bind (asks_change remote _) (fun _ => trivial)

/-- Until it has come to a workflow a deployment only seeks. -/
theorem asks_placeDefinition (ctx : DeployContext) (chain : String) (d : Definition) :
    (placeDefinition ctx chain d).Asks SeekingEffect True := by
  refine asks_bind (asks_updateRegistered ctx chain d) (fun registered => ?_)
  cases registered with
  | some remote => exact asks_activate remote
  | none =>
      rw [placeUnlessRegistered, upsertByName_eq]
      exact asks_bind (asks_bind (asks_listWorkflows .listing _) (asks_writeListed d)) asks_activate

theorem asks_finishDeployment (ctx : DeployContext) (chain remote : String) :
    (finishDeployment ctx chain remote).Asks DeployEffect C :=
  asks_bind (asks_mono deployEffect_of_seeking (asks_change remote _)) fun _ =>
    asks_bind (asks_mono (fun _ => .near) (asks_rememberDeployment ctx chain remote)) fun _ => trivial

theorem asks_deployDefinition (ctx : DeployContext) (chain : String) (d : Definition) :
    (deployDefinition ctx chain d).Asks DeployEffect True := by
  rw [deployDefinition_eq_place]
  refine asks_bind (asks_mono deployEffect_of_seeking (asks_placeDefinition ctx chain d)) (fun remote => ?_)
  exact asks_bind (asks_mono (fun _ => .near) (asks_rememberDeployment ctx chain remote)) (fun _ => trivial)

/-- **A deployment asks for nothing but its own effects**, whatever it is answered. -/
theorem asks_ensureDeployed (ctx : DeployContext) (c : Chain) (org : Option String) :
    (ensureDeployed ctx c org).Asks DeployEffect True := by
  refine asks_bind (asks_perform (.near (.lookUp c.id))) (fun cached => ?_)
  split
  · trivial
  · exact asks_bind (asks_reportAll deployEffect_report _) fun _ => asks_bind (asks_ofExcept _) fun d =>
      asks_deployDefinition ctx c.id d

/-! ## What is kept -/

omit [Depth] in
/-- Reading changes nothing but the notices. -/
theorem run_of_reading {α : Type} {p : Act α} (hp : p.Asks ReadingEffect C) (w : Rehearsal) :
    (p.run Rehearsal.answer w).2.cache = w.cache ∧ (p.run Rehearsal.answer w).2.files = w.files
      ∧ (p.run Rehearsal.answer w).2.requests = w.requests :=
  run_related (R := fun v w : Rehearsal => w.cache = v.cache ∧ w.files = v.files ∧ w.requests = v.requests)
    (fun _ => ⟨rfl, rfl, rfl⟩) (fun hab hbc => ⟨hbc.1.trans hab.1, hbc.2.1.trans hab.2.1, hbc.2.2.trans hab.2.2⟩)
    (fun q w hq => by cases hq <;> exact ⟨rfl, rfl, rfl⟩) hp w

omit [Depth] in
/-- Storing files leaves the cache and the requests alone. -/
theorem run_of_fileEffect {α : Type} {p : Act α} (hp : p.Asks FileEffect C) (w : Rehearsal) :
    (p.run Rehearsal.answer w).2.cache = w.cache ∧ (p.run Rehearsal.answer w).2.requests = w.requests :=
  run_related (R := fun v w : Rehearsal => w.cache = v.cache ∧ w.requests = v.requests) (fun _ => ⟨rfl, rfl⟩)
    (fun hab hbc => ⟨hbc.1.trans hab.1, hbc.2.trans hab.2⟩)
    (fun q w hq => by
      cases hq with
      | reading h => cases h <;> exact ⟨rfl, rfl⟩
      | _ => exact ⟨rfl, rfl⟩) hp w

omit [Depth] in
/-- Seeking leaves the cache and the files alone. -/
theorem run_of_seeking {α : Type} {p : Act α} (hp : p.Asks SeekingEffect C) (w : Rehearsal) :
    (p.run Rehearsal.answer w).2.cache = w.cache ∧ (p.run Rehearsal.answer w).2.files = w.files :=
  run_related (R := fun v w : Rehearsal => w.cache = v.cache ∧ w.files = v.files) (fun _ => ⟨rfl, rfl⟩)
    (fun hab hbc => ⟨hbc.1.trans hab.1, hbc.2.trans hab.2⟩)
    (fun q w hq => by
      have hexchange : ∀ r, (Rehearsal.answer (.exchange r) w).2.cache = w.cache
          ∧ (Rehearsal.answer (.exchange r) w).2.files = w.files := by
        intro r
        rcases answer_exchange r w with h | ⟨address, h⟩
        · rw [h]
          exact ⟨rfl, rfl⟩
        · rw [h]
          exact ⟨rfl, rfl⟩
      cases hq with
      | reading h => cases h <;> exact ⟨rfl, rfl⟩
      | listing _ => exact hexchange _
      | creation _ => exact hexchange _
      | change _ _ => exact hexchange _) hp w

/-! ## Endings -/

theorem endsWithin_deployDefinition (ctx : DeployContext) (chain : String) (d : Definition) :
    EndsWithin ctx.pageBudget (deployDefinition ctx chain d) := by
  rw [deployDefinition_eq]
  have hfinish : ∀ remote, EndsWithin ctx.pageBudget (finishDeployment ctx chain remote) :=
    fun remote => endsWithin_of_asks (asks_finishDeployment ctx chain remote)
  refine endsWithin_bind (endsWithin_of_asks (asks_updateRegistered ctx chain d)) (fun registered => ?_)
  cases registered with
  | some remote => exact hfinish remote
  | none =>
      rw [afterRegistered, upsertByName_eq]
      refine endsWithin_bind (endsWithin_bind (endsWithin_listWorkflows _) fun listed => ?_) hfinish
      exact endsWithin_of_asks (asks_writeListed d listed)

/-- A deployment is not cut while fewer answers are left than its listing may have pages. -/
theorem endsWithin_ensureDeployed (ctx : DeployContext) (c : Chain) (org : Option String) :
    EndsWithin ctx.pageBudget (ensureDeployed ctx c org) := by
  refine endsWithin_bind (endsWithin_of_asks (asks_perform (NearEffect.lookUp c.id))) (fun cached => ?_)
  split
  · exact endsWithin_done _
  · refine endsWithin_bind (endsWithin_of_asks (asks_reportAll deployEffect_report _)) fun _ => ?_
    exact endsWithin_bind (endsWithin_ofExcept _) fun d => endsWithin_deployDefinition ctx c.id d

end PromptGraph
