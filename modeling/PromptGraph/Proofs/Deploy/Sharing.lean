import PromptGraph.Proofs.Deploy.Recorded
import PromptGraph.Proofs.Deploy.Sessions

/-!
# `Proofs.Deploy.Sharing` — which chains share a workflow

In a session that begins beside an empty host, no two workflows have one name, each carries a definition of a chain of
its name, and whatever the cache and the registry say of a chain is a workflow of the chain's name. So two chains come
to one workflow exactly when they have one name: `session_shares_iff`.

## Contents
- **What a workflow carries.** `HostedWorkflow.Carries`.
- **The invariant.** `Tidy` of a host, with a lemma for each kind of change; `Orderly` of a site; `Phase.Fits`.
- **Steps and sessions.** `orderly_step`, `orderly_ensure`, `orderly_session`.
- **Sharing.** `session_shares_iff`, and two chains of one name that share a workflow.
-/

namespace PromptGraph

open Act Engine Http

/-! ## What a workflow carries -/

namespace HostedWorkflow

/-- A workflow has the name, the nodes, the connections and the settings of a definition. -/
def Carries (w : HostedWorkflow) (d : Definition) : Prop :=
  ∀ key ∈ ["name", "nodes", "connections", "settings"], Members.get? key w.members = Members.get? key d.sent

theorem carries_sent (id : String) (d : Definition) : Carries ⟨id, d.sent⟩ d := fun _ _ => rfl

/-- What is sent of a definition has all that a workflow is said to carry. -/
theorem get?_sent_isSome (d : Definition) {key : String} (hkey : key ∈ ["name", "nodes", "connections", "settings"]) :
    ∃ v, Members.get? key d.sent = some v := by
  obtain ⟨id, name, nodes, connections, active, settings⟩ := d
  simp only [List.mem_cons, List.not_mem_nil, or_false] at hkey
  rcases hkey with rfl | rfl | rfl | rfl
  · exact ⟨_, rfl⟩
  · exact ⟨_, rfl⟩
  · exact ⟨_, rfl⟩
  · cases active <;> exact ⟨_, rfl⟩

/-- A workflow into which a definition was put carries it. -/
theorem carries_merge_sent (id : String) (members : Members) (d : Definition) :
    Carries ⟨id, members.merge d.sent⟩ d := by
  intro key hkey
  obtain ⟨v, hv⟩ := get?_sent_isSome d hkey
  show Members.get? key (members.merge d.sent) = _
  rw [Members.get?_merge d.sent_nodup, hv]
  rfl

/-- Activation leaves a workflow what it carries. -/
theorem Carries.merge_active {w : HostedWorkflow} {d : Definition} (h : w.Carries d) (active : Bool) :
    Carries ⟨w.id, w.members.merge [("active", .bool active)]⟩ d := by
  intro key hkey
  have hnodup : (List.map Prod.fst [("active", Json.bool active)]).Nodup := List.nodup_singleton "active"
  have hother : Members.get? key [("active", Json.bool active)] = none := by
    simp only [List.mem_cons, List.not_mem_nil, or_false] at hkey
    rcases hkey with rfl | rfl | rfl | rfl <;> rfl
  show Members.get? key (w.members.merge _) = _
  rw [Members.get?_merge hnodup, hother]
  exact h key hkey

theorem Carries.name_eq {w : HostedWorkflow} {d : Definition} (h : w.Carries d) : w.name = d.name :=
  name_eq_of_get? ((h "name" List.mem_cons_self).trans d.get?_name_sent)

end HostedWorkflow

/-! ## The invariant -/

namespace Host

/-- Whatever name owned an id still does. -/
def Preserves (h h' : Host) : Prop := ∀ name id, h.Owns name id → h'.Owns name id

theorem Preserves.refl (h : Host) : h.Preserves h := fun _ _ howns => howns

theorem Preserves.trans {a b c : Host} (hab : a.Preserves b) (hbc : b.Preserves c) : a.Preserves c :=
  fun _ _ howns => hbc _ _ (hab _ _ howns)

theorem preserves_append {h : Host} {w : HostedWorkflow} (hnew : w.id ∉ h.ids) : h.Preserves (h ++ [w]) :=
  fun _ _ howns => howns.append hnew

theorem preserves_change {h : Host} {id : String} {changes : Members} (hkeep : h.KeepsName id changes) :
    h.Preserves (h.change id changes) :=
  fun _ _ howns => owns_change hkeep howns

/-- Where ids are distinct, a name owns the ids of its workflows. -/
theorem owns_of_mem_named {h : Host} (hids : h.ids.Nodup) {name id : String} (hid : id ∈ h.named name) :
    h.Owns name id := by
  refine ⟨hid, fun w hw heq => ?_⟩
  obtain ⟨v, hv, hname, hvid⟩ := mem_named.mp hid
  have hsame : w = v := List.inj_on_of_nodup_map hids hw hv (heq.trans hvid.symm)
  rw [hsame, hname]

/-- Where no id is empty, all ids of a name are told. -/
theorem filter_named {h : Host} (hempty : "" ∉ h.ids) (name : String) :
    (h.named name).filter (· ≠ "") = h.named name := by
  refine List.filter_eq_self.mpr fun id hid => decide_eq_true fun heq => ?_
  exact hempty (heq ▸ mem_ids_of_mem_named hid)

end Host

section Invariant

variable [Depth] (ctx : DeployContext) (ensured : Chain → Option String → Prop)

/-- Ensured chains of one id are one chain. -/
def DistinctIds : Prop := ∀ c c' org org', ensured c org → ensured c' org' → c.id = c'.id → c = c'

/-- A workflow carries a definition of a chain that was ensured. -/
def Compiled (w : HostedWorkflow) : Prop :=
  ∃ c org d, ensured c org ∧ CompilesTo ctx c org d ∧ w.Carries d

/-- A host on which no two workflows have one id or one name, and each carries a definition of an ensured chain. -/
structure Tidy (h : Host) : Prop where
  ids : h.ids.Nodup
  ne_empty : "" ∉ h.ids
  single : ∀ name, (h.named name).length ≤ 1
  compiled : ∀ w ∈ h, Compiled ctx ensured w

/-- A chain of this id was ensured, and its name owns the remote id. -/
def Deployed (h : Host) (chain remote : String) : Prop :=
  ∃ c org, ensured c org ∧ c.id = chain ∧ h.Owns c.name remote

/-- The host is tidy, and the cache and the registry's file tell of deployed chains only. -/
structure Orderly (s : Site) : Prop where
  host : Tidy ctx ensured s.host
  cache : ∀ entry ∈ s.near.cache, Deployed ensured s.host entry.1 entry.2
  files : Filed ctx.registryPath (Deployed ensured s.host) s.near.files

/-- What a phase of a chain's deployment has to do with the host. -/
def Phase.Fits (c : Chain) (org : Option String) (h : Host) : Phase → Prop
  | .start => True
  | .registered d remote => CompilesTo ctx c org d ∧ h.Owns c.name remote
  | .listing d => CompilesTo ctx c org d
  | .creating d => CompilesTo ctx c org d ∧ h.named c.name = []
  | .updating d remote => CompilesTo ctx c org d ∧ h.Owns c.name remote
  | .activating remote => h.Owns c.name remote
  | .returned remote => h.Owns c.name remote
  | .stopped => True

end Invariant

section Changes

variable [Depth]
variable {source : IdSource} {ctx : DeployContext} {ensured : Chain → Option String → Prop} {c : Chain}
  {org : Option String} {h : Host} {d : Definition} {phase next : Phase} {s t : Site}

/-! ## Kinds of change -/

omit [Depth] in
/-- A new workflow of a name that is not there keeps a host tidy. -/
theorem Tidy.create (hh : Tidy ctx ensured h) (he : ensured c org) (hd : CompilesTo ctx c org d)
    (hnamed : h.named c.name = []) : Tidy ctx ensured (h ++ [⟨source.next h.ids, d.sent⟩]) := by
  have hnew := source.next_not_mem h.ids
  have hname : HostedWorkflow.name ⟨source.next h.ids, d.sent⟩ = c.name :=
    (HostedWorkflow.carries_sent _ d).name_eq.trans (compilesTo_name hd)
  refine ⟨?_, fun hempty => ?_, fun name => ?_, fun w hw => ?_⟩
  · -- the new id is not in use
    rw [Host.ids_append]
    refine List.nodup_append.mpr ⟨hh.ids, List.nodup_singleton _, fun a ha b hb heq => ?_⟩
    rw [List.mem_singleton.mp hb] at heq
    subst heq
    exact hnew ha
  · rw [Host.ids_append] at hempty
    rcases List.mem_append.mp hempty with hold | hlast
    · exact hh.ne_empty hold
    · exact source.next_ne_empty h.ids (List.mem_singleton.mp hlast).symm
  · -- no other workflow has the name
    rw [Host.named_append, hname]
    by_cases hn : c.name = name
    · rw [← hn, hnamed, if_pos rfl]
      exact Nat.le_refl 1
    · rw [if_neg hn, List.append_nil]
      exact hh.single name
  · rcases List.mem_append.mp hw with hold | hlast
    · exact hh.compiled w hold
    · rw [List.mem_singleton.mp hlast]
      exact ⟨c, org, d, he, hd, HostedWorkflow.carries_sent _ d⟩

omit [Depth] in
/-- A name has no more than one id. -/
theorem Tidy.eq_of_mem_named (hh : Tidy ctx ensured h) {name id id' : String} (hid : id ∈ h.named name)
    (hid' : id' ∈ h.named name) : id = id' := by
  have hsingle := hh.single name
  cases hnamed : h.named name with
  | nil =>
      rw [hnamed] at hid
      cases hid
  | cons first rest =>
      rw [hnamed, List.length_cons] at hsingle
      have hrest : rest = [] := List.length_eq_zero_iff.mp (by omega)
      rw [hnamed, hrest] at hid hid'
      rw [List.mem_singleton.mp hid, List.mem_singleton.mp hid']

omit [Depth] in
/-- A change that keeps the names, and after which the changed workflow still carries a definition, keeps a host
    tidy. -/
theorem Tidy.change (hh : Tidy ctx ensured h) {id : String} {changes : Members} (hkeep : h.KeepsName id changes)
    (hcompiled : ∀ w ∈ h, w.id = id → Compiled ctx ensured ⟨w.id, w.members.merge changes⟩) :
    Tidy ctx ensured (h.change id changes) := by
  refine ⟨?_, ?_, fun name => ?_, fun w hw => ?_⟩
  · rw [Host.ids_change]
    exact hh.ids
  · rw [Host.ids_change]
    exact hh.ne_empty
  · rw [Host.named_change hkeep]
    exact hh.single name
  · obtain ⟨id', members⟩ := w
    obtain ⟨v, hv, hid, ⟨-, hmembers⟩ | ⟨hvid, hmembers⟩⟩ := Host.mem_change hw
    · cases hid
      cases hmembers
      exact hh.compiled v hv
    · cases hid
      cases hmembers
      exact hcompiled v hv hvid

omit [Depth] in
/-- **The request of a phase keeps a host tidy**, and every name what it owns. -/
theorem tidy_after (source : IdSource) (he : ensured c org) (hh : Tidy ctx ensured s.host)
    (hfits : phase.Fits ctx c org s.host) {r : Request} (hr : phase.request? = some r) :
    Tidy ctx ensured (s.after source r).host ∧ s.host.Preserves (s.after source r).host := by
  have hsent : ∀ {d : Definition} {remote : String}, CompilesTo ctx c org d → s.host.Owns c.name remote →
      Tidy ctx ensured (s.host.change remote d.sent) ∧ s.host.Preserves (s.host.change remote d.sent) := by
    intro d remote hd howns
    have hkeep : s.host.KeepsName remote d.sent :=
      Host.keepsName_sent fun w hw hid => (howns.2 w hw hid).trans (compilesTo_name hd).symm
    exact ⟨hh.change hkeep fun w _ _ => ⟨c, org, d, he, hd, HostedWorkflow.carries_merge_sent _ _ d⟩,
      Host.preserves_change hkeep⟩
  cases phase with
  | registered d remote =>
      cases hr
      show Tidy ctx ensured (Host.answer source s.host _).2 ∧ Host.Preserves _ (Host.answer source s.host _).2
      rw [Host.answer_change_snd]
      exact hsent hfits.1 hfits.2
  | listing d =>
      cases hr
      exact ⟨hh, Host.Preserves.refl _⟩
  | creating d =>
      cases hr
      exact ⟨hh.create he hfits.1 hfits.2, Host.preserves_append (source.next_not_mem _)⟩
  | updating d remote =>
      cases hr
      show Tidy ctx ensured (Host.answer source s.host _).2 ∧ Host.Preserves _ (Host.answer source s.host _).2
      rw [Host.answer_change_snd]
      exact hsent hfits.1 hfits.2
  | activating remote =>
      cases hr
      show Tidy ctx ensured (Host.answer source s.host _).2 ∧ Host.Preserves _ (Host.answer source s.host _).2
      rw [Host.answer_change_snd]
      -- activation changes neither the name nor what is carried
      have hkeep := Host.keepsName_active s.host remote true
      refine ⟨hh.change hkeep fun w hw _ => ?_, Host.preserves_change hkeep⟩
      obtain ⟨c', org', d, he', hd, hcarries⟩ := hh.compiled w hw
      exact ⟨c', org', d, he', hd, hcarries.merge_active true⟩
  | _ => cases hr

omit [Depth] in
theorem Deployed.mono {h' : Host} (hpreserves : h.Preserves h') {chain remote : String}
    (hdeployed : Deployed ensured h chain remote) : Deployed ensured h' chain remote := by
  obtain ⟨c, org, he, hid, howns⟩ := hdeployed
  exact ⟨c, org, he, hid, hpreserves _ _ howns⟩

/-- A site stays orderly while its host stays tidy and the cache and the files stay the same. -/
theorem Orderly.transport (hs : Orderly ctx ensured s) (hhost : Tidy ctx ensured t.host)
    (hpreserves : s.host.Preserves t.host) (hcache : t.near.cache = s.near.cache)
    (hfiles : t.near.files = s.near.files) : Orderly ctx ensured t := by
  refine ⟨hhost, fun entry hentry => ?_, ?_⟩
  · rw [hcache] at hentry
    exact (hs.cache entry hentry).mono hpreserves
  · rw [hfiles]
    exact hs.files.mono fun _ _ => Deployed.mono hpreserves

/-- A site stays orderly when a workflow of the chain's name is remembered for the chain. -/
theorem Orderly.remember (hs : Orderly ctx ensured s) (he : ensured c org) {remote : String}
    (howns : s.host.Owns c.name remote) : Orderly ctx ensured
      { s with near := ((rememberDeployment ctx c.id remote).run Rehearsal.answer s.near).2 } := by
  have hdeployed : Deployed ensured s.host c.id remote := ⟨c, org, he, rfl, howns⟩
  refine ⟨hs.host, fun entry hentry => ?_, filed_rememberDeployment hdeployed hs.files⟩
  rw [(run_rememberDeployment ctx c.id remote s.near).1] at hentry
  rcases Registry.mem_insert hentry with rfl | hold
  · exact hdeployed
  · exact hs.cache entry hold

/-! ## Steps and sessions -/

/-- Where an answer leads to, the host fits. -/
theorem fits_of_leads (hs : Orderly ctx ensured s) (hfits : phase.Fits ctx c org s.host) {r : Request}
    (hr : phase.request? = some r) (hlead : Leads source phase s.host next) (h : Site.Same (s.after source r) t)
    (hpreserves : s.host.Preserves t.host) : next.Fits ctx c org t.host := by
  cases hlead with
  | kept _ => exact hpreserves _ _ hfits.2
  | gone _ => exact hfits.1
  | absent hnamed =>
      -- none of the name was listed, so a new one will be the only one
      cases hr
      rw [Host.filter_named hs.host.ne_empty, compilesTo_name hfits] at hnamed
      exact ⟨hfits, h.host ▸ hnamed⟩
  | present hnamed =>
      -- the one of the name was listed
      rw [Host.filter_named hs.host.ne_empty, compilesTo_name hfits] at hnamed
      have howns := Host.owns_of_mem_named hs.host.ids (hnamed ▸ List.mem_singleton_self _)
      exact ⟨hfits, hpreserves _ _ howns⟩
  | created =>
      cases hr
      exact (named_creation (compilesTo_name hfits.1) h).2.1
  | updated _ => exact hpreserves _ _ hfits.2

/-- **A step of an ensured chain keeps a site orderly**, and leads to a phase that fits the host. Chains of one id are
    one chain: so what the cache or the registry says of the id is said of the chain. -/
theorem orderly_step (hids : DistinctIds ensured) (he : ensured c org) (hs : Orderly ctx ensured s)
    (hfits : phase.Fits ctx c org s.host) (hstep : Step ctx c org source phase s next t) :
    Orderly ctx ensured t ∧ next.Fits ctx c org t.host ∧ s.host.Preserves t.host := by
  have howner : ∀ {remote : String}, Deployed ensured s.host c.id remote → s.host.Owns c.name remote := by
    rintro remote ⟨c', org', he', hid, howns⟩
    rw [hids c c' org org' he he' hid.symm]
    exact howns
  have hsame : ∀ {t : Site}, Site.Same s t → Orderly ctx ensured t ∧ s.host.Preserves t.host := by
    intro t h
    have hpreserves : s.host.Preserves t.host := h.host ▸ Host.Preserves.refl _
    exact ⟨hs.transport (h.host ▸ hs.host) hpreserves h.cache h.files, hpreserves⟩
  have hafter : ∀ {r : Request} {t : Site}, phase.request? = some r → Site.Same (s.after source r) t →
      Orderly ctx ensured t ∧ s.host.Preserves t.host := by
    intro r t hr h
    obtain ⟨htidy, hpreserves⟩ := tidy_after source he hs.host hfits hr
    rw [← h.host] at htidy hpreserves
    exact ⟨hs.transport htidy hpreserves h.cache h.files, hpreserves⟩
  cases hstep with
  | cached h =>
      have hentry := Registry.mem_of_get? (nonEmpty_eq_some.mp h).1
      exact ⟨hs, howner (hs.cache _ hentry), Host.Preserves.refl _⟩
  | found _ hd hload hr h =>
      -- what is loaded was recorded for a deployed chain
      obtain ⟨ht, hpreserves⟩ := hsame h
      obtain ⟨w, hfiles, hrun⟩ := hload
      have hentry := Registry.mem_of_get? (nonEmpty_eq_some.mp hr).1
      have hdeployed := (run_loadRegistry (hfiles.symm ▸ hs.files) hrun).2 _ hentry
      exact ⟨ht, ⟨hd, hpreserves _ _ (howner hdeployed)⟩, hpreserves⟩
  | missing _ hd _ _ h =>
      obtain ⟨ht, hpreserves⟩ := hsame h
      exact ⟨ht, hd, hpreserves⟩
  | unsent h =>
      obtain ⟨ht, hpreserves⟩ := hsame h
      exact ⟨ht, trivial, hpreserves⟩
  | unusable hr h =>
      obtain ⟨ht, hpreserves⟩ := hafter hr h
      exact ⟨ht, trivial, hpreserves⟩
  | led hr hlead h =>
      obtain ⟨ht, hpreserves⟩ := hafter hr h
      exact ⟨ht, fits_of_leads hs hfits hr hlead h hpreserves, hpreserves⟩
  | remembered hr hnext =>
      obtain ⟨hafter', hpreserves⟩ := hafter hr (Site.Same.refl _)
      have howns := hpreserves _ _ hfits
      refine ⟨hafter'.remember he howns, ?_, hpreserves⟩
      rcases hnext with rfl | rfl
      · exact howns
      · trivial
  | idle h => exact ⟨hs, hfits, Host.Preserves.refl _⟩

/-- **Ensuring a chain keeps a site orderly**; the id that is returned is owned by the chain's name. -/
theorem orderly_ensure (hids : DistinctIds ensured) (he : ensured c org) (hs : Orderly ctx ensured s) {o : End String}
    (hrun : (ensureDeployed ctx c org).run (Site.answer source) s = (o, t)) :
    Orderly ctx ensured t ∧ s.host.Preserves t.host ∧ ∀ r, o = .value r → t.host.Owns c.name r := by
  have hend := run_of_steps source
    (I := fun phase t => Orderly ctx ensured t ∧ phase.Fits ctx c org t.host ∧ s.host.Preserves t.host)
    (fun hI hstep => by
      obtain ⟨ht, hfits, hpreserves⟩ := orderly_step hids he hI.1 hI.2.1 hstep
      exact ⟨ht, hfits, hI.2.2.trans hpreserves⟩)
    Phase.At.start ⟨hs, trivial, Host.Preserves.refl s.host⟩
  rw [hrun] at hend
  obtain ⟨next, ⟨ht, hfits, hpreserves⟩, ⟨r, rfl, hvalue⟩ | ⟨rfl, hnone⟩⟩ := hend
  · refine ⟨ht, hpreserves, fun r' hr' => ?_⟩
    cases hvalue.symm.trans hr'
    exact hfits
  · exact ⟨ht, hpreserves, fun r hr => absurd hr (hnone r)⟩

/-- Forgetting deployments keeps a site orderly. -/
theorem Orderly.forget (hs : Orderly ctx ensured s) (cache : Registry)
    (hcache : ∀ entry ∈ cache, entry ∈ s.near.cache) :
    Orderly ctx ensured { s with near := { s.near with cache := cache } } :=
  ⟨hs.host, fun entry hentry => hs.cache entry (hcache entry hentry), hs.files⟩

theorem orderly_invalidate (source : IdSource) (hs : Orderly ctx ensured s) (chain : Option String) :
    Orderly ctx ensured ((invalidate chain).run (Site.answer source) s).2
      ∧ ((invalidate chain).run (Site.answer source) s).2.host = s.host := by
  cases chain with
  | none => exact ⟨hs.forget [] nofun, rfl⟩
  | some chain =>
      refine ⟨hs.forget (s.near.cache.filter fun entry => entry.1 ≠ chain) fun entry hentry => ?_, rfl⟩
      exact (List.mem_filter.mp hentry).1

/-- What a step of a session returns is owned by the name of the chain. -/
theorem orderly_sessionStep (source : IdSource) (hids : DistinctIds ensured) {step : SessionStep}
    (hstep : ∀ c org, step = .ensure c org → ensured c org) (hs : Orderly ctx ensured s) :
    Orderly ctx ensured (step.run source ctx s).2 ∧ s.host.Preserves (step.run source ctx s).2.host
      ∧ ∀ x ∈ (step.run source ctx s).1, (step.run source ctx s).2.host.Owns x.1.name x.2 := by
  cases step with
  | ensure c org =>
      cases hrun : (ensureDeployed ctx c org).run (Site.answer source) s with
      | mk o t =>
          obtain ⟨ht, hpreserves, hvalue⟩ := orderly_ensure hids (hstep c org rfl) hs hrun
          have hended : SessionStep.run source ctx (.ensure c org) s = (o.value?.map fun r => (c, r), t) := by
            rw [SessionStep.run, hrun]
          rw [hended]
          refine ⟨ht, hpreserves, fun x hx => ?_⟩
          cases o with
          | value r =>
              cases hx
              exact hvalue r rfl
          | _ => cases hx
  | invalidate chain =>
      obtain ⟨ht, hhost⟩ := orderly_invalidate source hs chain
      exact ⟨ht, hhost.symm ▸ Host.Preserves.refl s.host, nofun⟩
  | restart => exact ⟨hs.forget [] nofun, Host.Preserves.refl s.host, nofun⟩

/-- **A session keeps a site orderly**, and what it has returned is owned by the names of the chains. -/
theorem orderly_session (source : IdSource) {steps : List SessionStep}
    (hids : DistinctIds fun c org => SessionStep.ensure c org ∈ steps)
    (hs : Orderly ctx (fun c org => SessionStep.ensure c org ∈ steps) s) :
    Orderly ctx (fun c org => SessionStep.ensure c org ∈ steps) (session source ctx steps s).2
      ∧ ∀ x ∈ (session source ctx steps s).1, (session source ctx steps s).2.host.Owns x.1.name x.2 := by
  have hkeep : ∀ step ∈ steps, ∀ (returned : List (Chain × String)) (t : Site),
      (Orderly ctx (fun c org => SessionStep.ensure c org ∈ steps) t ∧ ∀ x ∈ returned, t.host.Owns x.1.name x.2) →
      Orderly ctx (fun c org => SessionStep.ensure c org ∈ steps) (step.run source ctx t).2
        ∧ ∀ x ∈ returned ++ (step.run source ctx t).1.toList, (step.run source ctx t).2.host.Owns x.1.name x.2 := by
    rintro step hmem returned t ⟨ht, howns⟩
    obtain ⟨hu, hpreserves, hvalue⟩ := orderly_sessionStep source hids (fun c org heq => heq ▸ hmem) ht
    refine ⟨hu, fun x hx => ?_⟩
    rcases List.mem_append.mp hx with hold | hnew
    · exact hpreserves _ _ (howns x hold)
    · exact hvalue x (Option.mem_toList.mp hnew)
  have hstart : Orderly ctx (fun c org => SessionStep.ensure c org ∈ steps) s
      ∧ ∀ x ∈ ([] : List (Chain × String)), s.host.Owns x.1.name x.2 := ⟨hs, nofun⟩
  exact session_induction source ctx (fun returned t => Orderly ctx (fun c org => SessionStep.ensure c org ∈ steps) t
    ∧ ∀ x ∈ returned, t.host.Owns x.1.name x.2) hkeep hstart

end Changes

/-! ## Sharing -/

/-- Nothing was deployed: the host and the cache are empty, and no file at the registry's place has entries. -/
structure Fresh [Depth] (ctx : DeployContext) (s : Site) : Prop where
  host : s.host = []
  cache : s.near.cache = []
  files : Filed ctx.registryPath (fun _ _ => False) s.near.files

theorem Fresh.orderly [Depth] {ctx : DeployContext} {s : Site} (h : Fresh ctx s)
    (ensured : Chain → Option String → Prop) : Orderly ctx ensured s := by
  refine ⟨?_, ?_, h.files.mono fun _ _ hnone => hnone.elim⟩
  · rw [h.host]
    exact ⟨List.nodup_nil, List.not_mem_nil, fun _ => Nat.zero_le 1, nofun⟩
  · rw [h.cache]
    exact nofun

/-- **Two chains share a workflow exactly when they have one name**, after any session beside an empty host in which
    chains of one id are one chain. A chain's workflow carries a definition of an ensured chain of its name: of the
    chain itself, where no other chain of the session has the name. -/
theorem session_shares_iff [Depth] (source : IdSource) (ctx : DeployContext) (steps : List SessionStep) (s : Site)
    (hfresh : Fresh ctx s) (hids : DistinctIds fun c org => SessionStep.ensure c org ∈ steps) :
    (∀ a ∈ (session source ctx steps s).1, ∀ b ∈ (session source ctx steps s).1, a.2 = b.2 ↔ a.1.name = b.1.name)
      ∧ ∀ a ∈ (session source ctx steps s).1, ∃ c org d w,
        SessionStep.ensure c org ∈ steps ∧ c.name = a.1.name ∧ CompilesTo ctx c org d
          ∧ (session source ctx steps s).2.host.find? a.2 = some w ∧ w.Carries d
          ∧ ((∀ c' org', SessionStep.ensure c' org' ∈ steps → c'.name = a.1.name → c' = a.1) → c = a.1) := by
  obtain ⟨horderly, howns⟩ := orderly_session source hids (hfresh.orderly _)
  refine ⟨fun a ha b hb => ⟨fun heq => ?_, fun heq => ?_⟩, fun a ha => ?_⟩
  · -- an id has one name
    obtain ⟨w, hw, hname, hid⟩ := Host.mem_named.mp (howns a ha).1
    exact hname.symm.trans ((howns b hb).2 w hw (hid.trans heq))
  · -- a name has one id
    have hmem := (howns b hb).1
    rw [← heq] at hmem
    exact horderly.host.eq_of_mem_named (howns a ha).1 hmem
  · obtain ⟨hmem, hname⟩ := howns a ha
    cases hfind : Host.find? (session source ctx steps s).2.host a.2 with
    | none => exact absurd (Host.mem_ids_of_mem_named hmem) (Host.find?_eq_none_iff.mp hfind)
    | some w =>
        obtain ⟨hw, hid⟩ := Host.mem_of_find? hfind
        obtain ⟨c, org, d, he, hd, hcarries⟩ := horderly.host.compiled w hw
        have hcname : c.name = a.1.name := by
          rw [← compilesTo_name hd, ← hcarries.name_eq]
          exact hname w hw hid
        exact ⟨c, org, d, w, he, hcname, hd, rfl, hcarries, fun halone => halone c org he hcname⟩

/-! ## A clash -/

theorem fresh_empty [Depth] {ctx : DeployContext} : Fresh ctx Site.empty := ⟨rfl, rfl, fun _ _ _ hget => nomatch hget⟩

/-- Two chains of one name, and a chain of another name after a restart. -/
def lookalikes : List SessionStep :=
  [.ensure (emptyChain "a" "Chain") none, .ensure (emptyChain "b" "Chain") none, .restart,
    .ensure (emptyChain "c" "Other") none]

theorem distinctIds_lookalikes : DistinctIds fun c org => SessionStep.ensure c org ∈ lookalikes := by
  intro c c' org org' hc hc' hid
  simp only [lookalikes, List.mem_cons, SessionStep.ensure.injEq, reduceCtorEq, List.not_mem_nil, or_false,
    false_or] at hc hc'
  rcases hc with ⟨rfl, -⟩ | ⟨rfl, -⟩ | ⟨rfl, -⟩ <;> rcases hc' with ⟨rfl, -⟩ | ⟨rfl, -⟩ | ⟨rfl, -⟩ <;>
    first | rfl | exact absurd hid (by decide)

/-- The first two chains come to one workflow. -/
theorem lookalikes_share : Fresh DeployContext.plain Site.empty
    ∧ DistinctIds (fun c org => SessionStep.ensure c org ∈ lookalikes)
    ∧ ∃ a ∈ (session .tally .plain lookalikes .empty).1, ∃ b ∈ (session .tally .plain lookalikes .empty).1,
      a.1.id ≠ b.1.id ∧ a.2 = b.2 :=
  ⟨fresh_empty, distinctIds_lookalikes, by decide +kernel⟩

theorem session_shares_iff_lookalikes :
    (session .tally .plain lookalikes .empty).1.map (fun x => (x.1.id, x.2)) = [("a", "1"), ("b", "1"), ("c", "11")]
      ∧ ∀ a ∈ (session .tally .plain lookalikes .empty).1, ∀ b ∈ (session .tally .plain lookalikes .empty).1,
        a.2 = b.2 ↔ a.1.name = b.1.name :=
  ⟨by decide +kernel, (session_shares_iff .tally .plain lookalikes .empty fresh_empty distinctIds_lookalikes).1⟩

end PromptGraph
